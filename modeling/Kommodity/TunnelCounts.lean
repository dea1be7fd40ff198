import Kommodity.TunnelConns

/-! The count of a tunnel is exact. Along every interleaving of dialing and closing goroutines it is the
number of the connections that are counted and not released, and every transition to zero has one call of
the callback. A goroutine has the connections it dialed to itself until it returns one. -/
namespace Kommodity.TalosProxy.Conns

open Go Interaction Transition

section Counts

variable {onIdle : Ref → Bool} {s s' : Shared} {c : Ref} {conn : TrackedConn} {stage : Stage}

def Shared.stageOf (s : Shared) (c : Ref) : Option Stage := (s.conns.deref c).map (·.stage)

def Shared.returned (s : Shared) (c : Ref) : Option Bool := (s.conns.deref c).map (·.returned)

theorem activeConns_onTunnel (s : Shared) (known : (s.tunnels.deref r).isSome = true)
    (method : Tunnel → Tunnel) (k : Int) (shift : ∀ t, (method t).activeConns = t.activeConns + k) (t : Ref) :
    (s.onTunnel r method).activeConns t = s.activeConns t + if t = r then k else 0 := by
  obtain ⟨tunnel,found⟩ := Option.isSome_iff_exists.mp known
  simp only [Shared.activeConns,Shared.onTunnel,Heap.deref_modify]
  by_cases same : t = r
  · subst same; simp [found,shift]
  · simp [same]

theorem activeConns_onTunnel_of (s : Shared) (r : Ref)
    (kept : ∀ t, (method t).activeConns = t.activeConns) (t : Ref) :
    (s.onTunnel r method).activeConns t = s.activeConns t := by
  rw [Shared.activeConns,Shared.onTunnel,Heap.map_deref_modify kept]
  rfl

theorem known_onTunnel (s : Shared) (r : Ref) (method : Tunnel → Tunnel) (t : Ref) :
    ((s.onTunnel r method).tunnels.deref t).isSome = (s.tunnels.deref t).isSome := by
  simp only [Shared.onTunnel,Heap.deref_modify]
  split <;> simp

/-- The count of a tunnel is the number of its active connections, and the transitions to zero are the
calls of the callback and those that are still to come. -/
structure Exact (onIdle : Ref → Bool) (s : Shared) : Prop where
  known : ∀ c conn, s.conns.deref c = some conn → (s.tunnels.deref conn.tunnel).isSome = true
  active : ∀ t, s.activeConns t = s.conns.count (TrackedConn.activeOn t)
  idle : ∀ t, onIdle t = true → s.emptied t = s.idled t + s.conns.count (TrackedConn.idlingOn t)
  begun : ∀ c stage, s.stageOf c = some stage → stage ≠ .dialed → stage ≠ .counted → c ∈ s.begun
  closed : ∀ c ∈ s.closed, s.stageOf c = some .closed

theorem Exact.quiet (exact : Exact onIdle s) (conns : s'.conns = s.conns)
    (known : ∀ t, (s.tunnels.deref t).isSome = true → (s'.tunnels.deref t).isSome = true)
    (active : ∀ t, s'.activeConns t = s.activeConns t) (idled : s'.idled = s.idled)
    (begun : ∀ c ∈ s.begun, c ∈ s'.begun) (closed : ∀ c ∈ s'.closed, s.stageOf c = some .closed) :
    Exact onIdle (s.observe s') where
  known c conn found := known _ (exact.known c conn (conns ▸ found))
  active t := by
    show s'.activeConns t = s'.conns.count _
    rw [active,conns,exact.active]
  idle t set := by
    have none : ¬ (s.activeConns t = 1 ∧ s'.activeConns t = 0) := by rw [active]; omega
    show s.emptied t + (if _ then 1 else 0) = s'.idled t + s'.conns.count _
    rw [if_neg none,conns,idled,exact.idle t set,Nat.add_zero]
  begun c stage found fresh counted := by
    have before : s.stageOf c = some stage := by
      simpa only [Shared.stageOf,Shared.observe,conns] using found
    exact begun c (exact.begun c stage before fresh counted)
  closed c listed := by
    show (s'.conns.deref c).map _ = _
    rw [conns]
    exact closed c listed

/-- One connection goes on to another stage. -/
structure Moves (s : Shared) (c : Ref) (stage : Stage) (s' : Shared) : Prop where
  stageOf : ∀ r, s'.stageOf r = if r = c then some stage else s.stageOf r
  returned : ∀ r, s'.returned r = s.returned r

theorem moves_of_set (found : s.conns.deref c = some conn)
    (conns : s'.conns = s.conns.set c { conn with stage }) : Moves s c stage s' where
  stageOf r := by
    simp only [Shared.stageOf,conns,Heap.deref_set found]
    split <;> rfl
  returned r := by
    simp only [Shared.returned,conns,Heap.deref_set found]
    split
    · next same => rw [same,found]; rfl
    · rfl

/-- The counts after a connection has gone on to another stage, with what the step did to them. -/
theorem Exact.move (exact : Exact onIdle s) (found : s.conns.deref c = some conn)
    (conns : s'.conns = s.conns.set c { conn with stage })
    (known : ∀ t, (s.tunnels.deref t).isSome = true → (s'.tunnels.deref t).isSome = true)
    (active : ∀ t, s'.activeConns t + (if conn.activeOn t then 1 else 0) =
      s.activeConns t + if { conn with stage }.activeOn t then 1 else 0)
    (idle : ∀ t, onIdle t = true →
      (if s.activeConns t = 1 ∧ s'.activeConns t = 0 then 1 else 0) + s.idled t +
        (if conn.idlingOn t then 1 else 0) = s'.idled t + if { conn with stage }.idlingOn t then 1 else 0)
    (begun : stage ≠ .counted → c ∈ s'.begun) (kept : ∀ r ∈ s.begun, r ∈ s'.begun)
    (closed : s'.closed = s.closed) (open' : conn.stage ≠ .closed) : Exact onIdle (s.observe s') where
  known r other found' := by
    have there : (s.conns.set c { conn with stage }).deref r = some other := conns ▸ found'
    rw [Heap.deref_set found] at there
    split at there
    · cases there
      exact known _ (exact.known c conn found)
    · exact known _ (exact.known r other there)
  active t := by
    have counts := congrArg (Nat.cast : Nat → Int)
      (Heap.count_set (TrackedConn.activeOn t) found { conn with stage })
    have before := exact.active t
    have change := active t
    push_cast at counts
    show s'.activeConns t = (s'.conns.count _ : Nat)
    rw [conns]
    omega
  idle t set := by
    have counts := Heap.count_set (TrackedConn.idlingOn t) found { conn with stage }
    have before := exact.idle t set
    have change := idle t set
    show s.emptied t + (if _ then 1 else 0) = s'.idled t + s'.conns.count _
    rw [conns]
    omega
  begun r other found' fresh counted := by
    have moved := (moves_of_set found conns).stageOf r
    rw [show s'.stageOf r = some other from found'] at moved
    split at moved
    · next same =>
      cases moved
      exact same ▸ begun counted
    · exact kept r (exact.begun r other moved.symm fresh counted)
  closed r listed := by
    have before := exact.closed r (closed ▸ listed)
    show s'.stageOf r = _
    rw [(moves_of_set found conns).stageOf,if_neg,before]
    rintro rfl
    rw [Shared.stageOf,found] at before
    exact open' (Option.some.inj before)

theorem Exact.restage (exact : Exact onIdle s) (found : s.conns.deref c = some conn)
    (conns : s'.conns = s.conns.set c { conn with stage }) (tunnels : s'.tunnels = s.tunnels)
    (idled : s'.idled = s.idled) (active : ∀ t, { conn with stage }.activeOn t = conn.activeOn t)
    (idle : ∀ t, { conn with stage }.idlingOn t = conn.idlingOn t)
    (begun : stage ≠ .counted → c ∈ s'.begun) (kept : ∀ r ∈ s.begun, r ∈ s'.begun)
    (closed : s'.closed = s.closed) (open' : conn.stage ≠ .closed) : Exact onIdle (s.observe s') := by
  have counts (t : Ref) : s'.activeConns t = s.activeConns t := by
    rw [Shared.activeConns,tunnels]
    rfl
  refine exact.move found conns (fun t there => tunnels ▸ there) ?_ ?_ begun kept closed open'
  · intro t
    rw [counts,active]
  · intro t _
    have still : ¬ (s.activeConns t = 1 ∧ s'.activeConns t = 0) := by rw [counts]; omega
    rw [if_neg still,idled,idle,Nat.zero_add]

theorem Exact.dialed (exact : Exact onIdle s) (known : (s.tunnels.deref tunnel).isSome = true) :
    Exact onIdle (s.observe { s with conns := s.conns.alloc ⟨tunnel,.dialed,false⟩ }) where
  known r other found := by
    have there : (s.conns.alloc ⟨tunnel,.dialed,false⟩).deref r = some other := found
    rw [Heap.deref_alloc] at there
    split at there
    · cases there; exact known
    · exact exact.known r other there
  active t := by
    show s.activeConns t = ((s.conns.alloc _).count _ : Nat)
    rw [Heap.count_alloc,exact.active t]
    simp [TrackedConn.activeOn]
  idle t set := by
    have none : ¬ (s.activeConns t = 1 ∧ s.activeConns t = 0) := by omega
    show s.emptied t + (if s.activeConns t = 1 ∧ s.activeConns t = 0 then 1 else 0) =
      s.idled t + (s.conns.alloc _).count _
    rw [Heap.count_alloc,if_neg none,exact.idle t set]
    simp [TrackedConn.idlingOn]
  begun r other found fresh counted := by
    have there : ((s.conns.alloc ⟨tunnel,.dialed,false⟩).deref r).map (·.stage) = some other := found
    rw [Heap.deref_alloc] at there
    split at there
    · cases there; exact absurd rfl fresh
    · exact exact.begun r other there fresh counted
  closed r listed := by
    obtain ⟨conn,found,stage⟩ := Option.map_eq_some_iff.mp (exact.closed r listed)
    show ((s.conns.alloc _).deref r).map _ = _
    rw [Heap.deref_alloc_of _ found,Option.map_some,stage]

theorem start_exact (onIdle : Ref → Bool) (tunnels : Heap Tunnel)
    (unused : ∀ t, (Shared.start tunnels).activeConns t = 0) : Exact onIdle (Shared.start tunnels) where
  known c conn found := by simp [Shared.start] at found
  active := unused
  idle _ _ := rfl
  begun c stage found := by simp [Shared.start,Shared.stageOf] at found
  closed c listed := by simp [Shared.start] at listed

end Counts

section Goroutines

variable {onIdle : Ref → Bool} {s s' : Shared} {h h' : Notes} {c : Ref} {conn : TrackedConn} {stage : Stage}

/-- What a goroutine knows. The connection in its hands is where its notes say, and those it dialed are
its own: counted until it closes them. -/
structure Held (s : Shared) (h : Notes) : Prop where
  place : ∀ c stage, h.holding = some (c,stage) → s.stageOf c = some stage ∧ stage ≠ .counted ∧ stage ≠ .closed
  unseen : ∀ c, h.holding = some (c,.dialed) → s.returned c = some false
  own : ∀ c ∈ h.dialed, s.returned c = some false ∧ (c ∉ h.closed → s.stageOf c = some .counted)
  closed : ∀ c ∈ h.closed, (∃ stage, h.holding = some (c,stage) ∧ stage ≠ .dialed) ∨ s.stageOf c = some .closed
  dialedOnce : h.dialed.Nodup
  closedOnce : h.closed.Nodup

theorem Held.deref (held : Held s h) (mine : h.holding = some (c,stage)) :
    ∃ conn, s.conns.deref c = some conn ∧ conn.stage = stage :=
  Option.map_eq_some_iff.mp (held.place c stage mine).1

/-- No two goroutines have dialed one connection or have one in hand. -/
structure Apart (h h' : Notes) : Prop where
  dialed : ∀ c ∈ h.dialed, c ∉ h'.dialed
  holding : ∀ c stage stage', h.holding = some (c,stage) → h'.holding ≠ some (c,stage')

theorem Apart.symm (apart : Apart h h') : Apart h' h where
  dialed c other mine := apart.dialed c mine other
  holding c stage stage' other mine := apart.holding c stage' stage mine other

theorem held_fresh (s : Shared) : Held s Notes.fresh where
  place c stage none := by cases none
  unseen c none := by cases none
  own c listed := by cases listed
  closed c listed := by cases listed
  dialedOnce := .nil
  closedOnce := .nil

theorem apart_fresh (h : Notes) : Apart Notes.fresh h where
  dialed c listed := by cases listed
  holding c stage stage' none := by cases none

/-- A connection that is not where a goroutine thinks of it. -/
structure Away (s : Shared) (c : Ref) (h : Notes) : Prop where
  holding : ∀ stage, h.holding ≠ some (c,stage)
  own : c ∈ h.dialed → c ∈ h.closed
  open' : s.stageOf c ≠ some .closed

theorem Held.moved (held : Held s h) (moves : Moves s c stage s') (away : Away s c h) : Held s' h where
  place r other mine := by
    have apart : r ≠ c := by rintro rfl; exact away.holding other mine
    rw [moves.stageOf,if_neg apart]
    exact held.place r other mine
  unseen r mine := by rw [moves.returned]; exact held.unseen r mine
  own r mine := by
    obtain ⟨unseen,counted⟩ := held.own r mine
    refine ⟨by rw [moves.returned,unseen],fun still => ?_⟩
    have apart : r ≠ c := by rintro rfl; exact still (away.own mine)
    rw [moves.stageOf,if_neg apart]
    exact counted still
  closed r listed := by
    rcases held.closed r listed with mine | done
    · exact .inl mine
    · have apart : r ≠ c := by rintro rfl; exact away.open' done
      exact .inr (by rw [moves.stageOf,if_neg apart,done])
  dialedOnce := held.dialedOnce
  closedOnce := held.closedOnce

theorem away_of_holding (held : Held s h) (mine : h.holding = some (c,stage)) (held' : Held s h')
    (apart : Apart h h') : Away s c h' where
  holding stage' other := apart.holding c stage stage' mine other
  own dialed := by
    by_contra open'
    have counted := (held'.own c dialed).2 open'
    rw [(held.place c stage mine).1] at counted
    exact (held.place c stage mine).2.1 (Option.some.inj counted)
  open' done := by
    rw [(held.place c stage mine).1] at done
    exact (held.place c stage mine).2.2 (Option.some.inj done)

theorem Held.stage_eq (held : Held s h) (mine : h.holding = some (c,stage))
    (found : s.conns.deref c = some conn) : conn.stage = stage := by
  have place := (held.place c stage mine).1
  rw [Shared.stageOf,found] at place
  exact Option.some.inj place

/-- What every step of a goroutine keeps: the counts, its own notes, and the notes of all others. -/
structure Kept (onIdle : Ref → Bool) (s : Shared) (h : Notes) (s' : Shared) (h' : Notes) : Prop where
  exact : Exact onIdle s'
  held : Held s' h'
  others : ∀ k, Held s k → Apart h k → Held s' k ∧ Apart h' k

theorem Held.of_conns (held : Held s h) (conns : s'.conns = s.conns) : Held s' h := by
  obtain ⟨tunnels,conns',begun,closed,emptied,idled⟩ := s'
  obtain rfl : conns' = s.conns := conns
  exact ⟨held.place,held.unseen,held.own,held.closed,held.dialedOnce,held.closedOnce⟩

theorem kept_quiet (exact : Exact onIdle s') (held : Held s h) (conns : s'.conns = s.conns) :
    Kept onIdle s h s' { h with attempts, dials, shut } where
  exact := exact
  held := by
    have held := held.of_conns conns
    exact ⟨held.place,held.unseen,held.own,held.closed,held.dialedOnce,held.closedOnce⟩
  others k held' apart := ⟨held'.of_conns conns,apart.dialed,apart.holding⟩

theorem stageOf_alloc (s : Shared) (conn : TrackedConn) (r : Ref) :
    Shared.stageOf { s with conns := s.conns.alloc conn } r =
      if r = s.conns.fresh then some conn.stage else s.stageOf r := by
  simp only [Shared.stageOf,Heap.deref_alloc]
  split <;> rfl

theorem returned_alloc (s : Shared) (conn : TrackedConn) (r : Ref) :
    Shared.returned { s with conns := s.conns.alloc conn } r =
      if r = s.conns.fresh then some conn.returned else s.returned r := by
  simp only [Shared.returned,Heap.deref_alloc]
  split <;> rfl

theorem stageOf_fresh (s : Shared) : s.stageOf s.conns.fresh = none := by simp [Shared.stageOf]

theorem returned_fresh (s : Shared) : s.returned s.conns.fresh = none := by simp [Shared.returned]

theorem Held.alloc (held : Held s h) (conn : TrackedConn) :
    Held { s with conns := s.conns.alloc conn } h := by
  have stages {r : Ref} {stage : Stage} (found : s.stageOf r = some stage) :
      Shared.stageOf { s with conns := s.conns.alloc conn } r = some stage := by
    rw [stageOf_alloc,if_neg,found]
    rintro rfl
    rw [stageOf_fresh] at found
    cases found
  have flags {r : Ref} {flag : Bool} (found : s.returned r = some flag) :
      Shared.returned { s with conns := s.conns.alloc conn } r = some flag := by
    rw [returned_alloc,if_neg,found]
    rintro rfl
    rw [returned_fresh] at found
    cases found
  refine ⟨?_,fun r mine => flags (held.unseen r mine),?_,?_,held.dialedOnce,held.closedOnce⟩
  · intro r stage mine
    obtain ⟨found,rest⟩ := held.place r stage mine
    exact ⟨stages found,rest⟩
  · intro r mine
    obtain ⟨unseen,counted⟩ := held.own r mine
    exact ⟨flags unseen,fun still => stages (counted still)⟩
  · intro r listed
    exact (held.closed r listed).imp_right stages

theorem kept_dialed (exact : Exact onIdle s) (held : Held s h) (settled : h.Settled)
    (known : (s.tunnels.deref tunnel).isSome = true) :
    Kept onIdle s h (s.observe { s with conns := s.conns.alloc ⟨tunnel,.dialed,false⟩ })
      { h with dials, holding := some (s.conns.fresh,.dialed) } := by
  have kept := held.alloc ⟨tunnel,.dialed,false⟩
  refine ⟨exact.dialed known,⟨?_,?_,kept.own,?_,kept.dialedOnce,kept.closedOnce⟩,?_⟩
  · rintro r stage ⟨⟩
    refine ⟨?_,by simp,by simp⟩
    exact (stageOf_alloc s _ _).trans (if_pos rfl)
  · rintro r ⟨⟩
    exact (returned_alloc s _ _).trans (if_pos rfl)
  · intro r listed
    rcases kept.closed r listed with ⟨stage,mine,_⟩ | done
    · rw [settled.1] at mine
      cases mine
    · exact .inr done
  · intro k held' apart
    refine ⟨(held'.alloc _).of_conns rfl,apart.dialed,?_⟩
    rintro r stage stage' ⟨⟩ other
    have found := (held'.place _ _ other).1
    rw [stageOf_fresh] at found
    cases found

theorem Held.not_listed (held : Held s h) (mine : h.holding = some (c,.dialed)) : c ∉ h.dialed ∧ c ∉ h.closed := by
  have place := (held.place c .dialed mine).1
  have open' : c ∉ h.closed := by
    intro listed
    rcases held.closed c listed with ⟨stage,same,other⟩ | done
    · rw [mine] at same
      cases same
      exact other rfl
    · rw [place] at done
      cases done
  refine ⟨fun listed => ?_,open'⟩
  have counted := (held.own c listed).2 open'
  rw [place] at counted
  cases counted

theorem kept_acquire (exact : Exact onIdle s) (held : Held s h) (mine : h.holding = some (c,.dialed)) :
    Kept onIdle s h (s.observe (serve onIdle s (.acquireConn c) f).2)
      { h with holding := none, dialed := h.dialed ++ [c] } := by
  obtain ⟨conn,found,stage⟩ := held.deref mine
  have known := exact.known c conn found
  have served : (serve onIdle s (.acquireConn c) f).2 = serveAcquire s c conn := by
    simp [serve,onConn,found]
  rw [served]
  have moves : Moves s c .counted (s.observe (serveAcquire s c conn)) := moves_of_set found rfl
  obtain ⟨new,open'⟩ := held.not_listed mine
  refine ⟨exact.move found rfl ?_ ?_ ?_ (fun other => absurd rfl other) (fun _ => id) rfl (by simp [stage]),
    ⟨?_,?_,?_,?_,?_,held.closedOnce⟩,?_⟩
  · intro t there
    exact (known_onTunnel s conn.tunnel _ t).trans there
  · intro t
    have count := activeConns_onTunnel s known Tunnel.acquireConn 1 (fun _ => rfl) t
    show (s.onTunnel conn.tunnel Tunnel.acquireConn).activeConns t + _ = _
    rw [count]
    simp [TrackedConn.activeOn,stage,eq_comm]
  · intro t _
    have count := activeConns_onTunnel s known Tunnel.acquireConn 1 (fun _ => rfl) t
    have up : ¬ (s.activeConns t = 1 ∧ (s.onTunnel conn.tunnel Tunnel.acquireConn).activeConns t = 0) := by
      rw [count]
      split <;> omega
    show (if s.activeConns t = 1 ∧ (s.onTunnel conn.tunnel Tunnel.acquireConn).activeConns t = 0 then 1 else 0) +
      s.idled t + _ = s.idled t + _
    rw [if_neg up]
    simp [TrackedConn.idlingOn,stage]
  · rintro r stage ⟨⟩
  · rintro r ⟨⟩
  · intro r listed
    rw [moves.returned,moves.stageOf]
    rcases List.mem_append.mp listed with before | last
    · obtain ⟨unseen,counted⟩ := held.own r before
      refine ⟨unseen,fun still => ?_⟩
      split
      · rfl
      · exact counted still
    · obtain rfl := List.mem_singleton.mp last
      exact ⟨held.unseen r mine,fun _ => if_pos rfl⟩
  · intro r listed
    have apart : r ≠ c := by rintro rfl; exact open' listed
    rw [moves.stageOf,if_neg apart]
    rcases held.closed r listed with ⟨stage,same,_⟩ | done
    · rw [mine] at same
      cases same
      exact absurd rfl apart
    · exact .inr done
  · rw [List.nodup_append]
    refine ⟨held.dialedOnce,by simp,?_⟩
    rintro r listed _ last rfl
    exact new (List.mem_singleton.mp last ▸ listed)
  · intro k held' apart
    have away := away_of_holding held mine held' apart
    refine ⟨held'.moved moves away,?_,?_⟩
    · intro r listed other
      rcases List.mem_append.mp listed with before | last
      · exact apart.dialed r before other
      · obtain rfl := List.mem_singleton.mp last
        rcases held'.closed r (away.own other) with ⟨stage,theirs,_⟩ | done
        · exact away.holding stage theirs
        · exact away.open' done
    · rintro r stage stage' ⟨⟩

theorem kept_enter (exact : Exact onIdle s) (held : Held s h) (settled : h.Settled)
    (found : s.conns.deref c = some conn) (counted : conn.stage = .counted)
    (reach : conn.returned = true ∨ c ∈ h.dialed) :
    Kept onIdle s h (s.observe (serveEnter s c conn).2)
      { h with holding := some (c,.releasing), closed := h.closed ++ [c] } := by
  have served : (serveEnter s c conn).2 = { s with begun := s.begun ++ [c] }.advance c conn .releasing := by
    simp [serveEnter,counted]
  rw [served]
  have moves : Moves s c .releasing (s.observe ({ s with begun := s.begun ++ [c] }.advance c conn .releasing)) :=
    moves_of_set found rfl
  have place : s.stageOf c = some .counted := by rw [Shared.stageOf,found,← counted]; rfl
  have open' : c ∉ h.closed := by
    intro listed
    rcases held.closed c listed with ⟨stage,mine,_⟩ | done
    · rw [settled.1] at mine
      cases mine
    · rw [place] at done
      cases done
  refine ⟨exact.restage found rfl rfl rfl ?_ ?_ (by simp [Shared.advance]) ?_ rfl (by simp [counted]),
    ⟨?_,?_,?_,?_,held.dialedOnce,?_⟩,?_⟩
  · simp [TrackedConn.activeOn,counted]
  · simp [TrackedConn.idlingOn,counted]
  · intro r listed
    exact List.mem_append_left _ listed
  · rintro r stage ⟨⟩
    exact ⟨by rw [moves.stageOf,if_pos rfl],by simp,by simp⟩
  · rintro r ⟨⟩
  · intro r mine
    obtain ⟨unseen,before⟩ := held.own r mine
    refine ⟨by rw [moves.returned,unseen],fun still => ?_⟩
    have apart : r ≠ c := by rintro rfl; simp at still
    rw [moves.stageOf,if_neg apart]
    exact before fun listed => still (List.mem_append_left _ listed)
  · intro r listed
    rcases List.mem_append.mp listed with before | last
    · have apart : r ≠ c := by rintro rfl; exact open' before
      rw [moves.stageOf,if_neg apart]
      rcases held.closed r before with ⟨stage,mine,_⟩ | done
      · rw [settled.1] at mine
        cases mine
      · exact .inr done
    · obtain rfl := List.mem_singleton.mp last
      exact .inl ⟨.releasing,rfl,by simp⟩
  · rw [List.nodup_append]
    refine ⟨held.closedOnce,by simp,?_⟩
    rintro r listed _ last rfl
    exact open' (List.mem_singleton.mp last ▸ listed)
  · intro k held' apart
    have away : Away s c k := by
      refine ⟨?_,?_,?_⟩
      · intro stage theirs
        have other := held'.place c stage theirs
        rw [place] at other
        exact other.2.1 (Option.some.inj other.1).symm
      · intro theirs
        rcases reach with seen | mine
        · have unseen := (held'.own c theirs).1
          rw [Shared.returned,found,Option.map_some,seen] at unseen
          cases unseen
        · exact absurd theirs (apart.dialed c mine)
      · rw [place]
        simp
    refine ⟨held'.moved moves away,apart.dialed,?_⟩
    rintro r stage stage' ⟨⟩
    exact away.holding stage'

theorem kept_again (exact : Exact onIdle s) (held : Held s h) (settled : h.Settled)
    (found : s.conns.deref c = some conn) (done : conn.stage = .closed)
    (order : h.dialed = h.closed ++ [c] ∨ h.closed = []) :
    Kept onIdle s h (s.observe (serveEnter s c conn).2)
      { h with holding := none, closed := h.closed ++ [c] } := by
  have served : (serveEnter s c conn).2 = { s with begun := s.begun ++ [c] } := by simp [serveEnter,done]
  rw [served]
  have place : s.stageOf c = some .closed := by rw [Shared.stageOf,found,← done]; rfl
  refine ⟨exact.quiet rfl (fun _ => id) (fun _ => rfl) rfl ?_ exact.closed,
    ⟨?_,?_,?_,?_,held.dialedOnce,?_⟩,fun k held' apart => ⟨held'.of_conns rfl,apart.dialed,?_⟩⟩
  · intro r listed
    exact List.mem_append_left _ listed
  · rintro r stage ⟨⟩
  · rintro r ⟨⟩
  · intro r mine
    obtain ⟨unseen,before⟩ := held.own r mine
    exact ⟨unseen,fun still => before fun listed => still (List.mem_append_left _ listed)⟩
  · intro r listed
    rcases List.mem_append.mp listed with before | last
    · rcases held.closed r before with ⟨stage,mine,_⟩ | done
      · rw [settled.1] at mine
        cases mine
      · exact .inr done
    · exact .inr (List.mem_singleton.mp last ▸ place)
  · rcases order with last | none
    · exact last ▸ held.dialedOnce
    · simp [none]
  · rintro r stage stage' ⟨⟩

theorem Held.inside (held : Held s h) (mine : h.holding = some (c,before)) (closing : c ∈ h.closed)
    (moves : Moves s c stage s') (counted : stage ≠ .counted) (closed : stage ≠ .closed)
    (dialed : stage ≠ .dialed) : Held s' { h with holding := some (c,stage) } where
  place r other same := by
    cases same
    exact ⟨by rw [moves.stageOf,if_pos rfl],counted,closed⟩
  unseen r same := by cases same; exact absurd rfl dialed
  own r own := by
    obtain ⟨unseen,before⟩ := held.own r own
    refine ⟨by rw [moves.returned,unseen],fun still => ?_⟩
    have apart : r ≠ c := by rintro rfl; exact still closing
    rw [moves.stageOf,if_neg apart]
    exact before still
  closed r listed := by
    by_cases same : r = c
    · subst same
      exact .inl ⟨stage,rfl,dialed⟩
    · rw [moves.stageOf,if_neg same]
      rcases held.closed r listed with ⟨_,other,_⟩ | done
      · rw [mine] at other
        cases other
        exact absurd rfl same
      · exact .inr done
  dialedOnce := held.dialedOnce
  closedOnce := held.closedOnce

theorem others_inside (held : Held s h) (mine : h.holding = some (c,before)) (moves : Moves s c stage s')
    (k : Notes) (held' : Held s k) (apart : Apart h k) :
    Held s' k ∧ Apart { h with holding := some (c,stage) } k := by
  have away := away_of_holding held mine held' apart
  refine ⟨held'.moved moves away,apart.dialed,?_⟩
  rintro r stage stage' ⟨⟩
  exact away.holding stage'

theorem kept_release (exact : Exact onIdle s) (held : Held s h) (mine : h.holding = some (c,.releasing))
    (closing : c ∈ h.closed) (found : s.conns.deref c = some conn) :
    Kept onIdle s h (s.observe (serveRelease onIdle s c conn).2)
      { h with holding := some (c,Stage.afterRelease (serveRelease onIdle s c conn).1.1
        (serveRelease onIdle s c conn).1.2) } := by
  have known := exact.known c conn found
  have stage := held.stage_eq mine found
  have count := activeConns_onTunnel s known Tunnel.releaseConn (-1) (fun _ => rfl)
  simp only [serveRelease]
  generalize next : Stage.afterRelease ((s.onTunnel conn.tunnel Tunnel.releaseConn).activeConns conn.tunnel)
    (onIdle conn.tunnel) = after
  have moves : Moves s c after (s.observe ((s.onTunnel conn.tunnel Tunnel.releaseConn).advance c conn after)) :=
    moves_of_set found rfl
  have later : after ≠ .counted ∧ after ≠ .closed ∧ after ≠ .dialed ∧ after ≠ .releasing := by
    rw [← next,Stage.afterRelease]
    split <;> simp
  refine ⟨exact.move found rfl ?_ ?_ ?_ ?_ (fun _ => id) rfl (by simp [stage]),
    held.inside mine closing moves later.1 later.2.1 later.2.2.1,others_inside held mine moves⟩
  · intro t there
    exact (known_onTunnel s conn.tunnel _ t).trans there
  · intro t
    show (s.onTunnel conn.tunnel Tunnel.releaseConn).activeConns t + _ = _
    rw [count]
    by_cases same : t = conn.tunnel
    · simp [TrackedConn.activeOn,stage,later,same]
    · simp [TrackedConn.activeOn,same,Ne.symm same]
  · intro t set
    show (if s.activeConns t = 1 ∧ (s.onTunnel conn.tunnel Tunnel.releaseConn).activeConns t = 0 then 1 else 0) +
      s.idled t + _ = s.idled t + _
    rw [count] at next ⊢
    by_cases same : t = conn.tunnel
    · subst same
      rw [if_pos rfl,set,Stage.afterRelease] at next
      subst next
      by_cases last : s.activeConns conn.tunnel = 1
      · simp [last,TrackedConn.idlingOn,stage,Nat.add_comm]
      · have more : ¬ s.activeConns conn.tunnel + -1 = 0 := by omega
        simp [last,more,TrackedConn.idlingOn,stage]
    · have still : ¬ (s.activeConns t = 1 ∧ s.activeConns t + 0 = 0) := by omega
      rw [if_neg same,if_neg still]
      simp [TrackedConn.idlingOn,Ne.symm same]
  · intro _
    exact exact.begun c _ (held.place c _ mine).1 (by simp) (by simp)

theorem kept_idle (exact : Exact onIdle s) (held : Held s h) (mine : h.holding = some (c,.idling))
    (closing : c ∈ h.closed) (found : s.conns.deref c = some conn) :
    Kept onIdle s h (s.observe (serveIdle s c conn)) { h with holding := some (c,.released) } := by
  have stage := held.stage_eq mine found
  have moves : Moves s c .released (s.observe (serveIdle s c conn)) := moves_of_set found rfl
  refine ⟨exact.move found rfl (fun _ => id) ?_ ?_ ?_ (fun _ => id) rfl (by simp [stage]),
    held.inside mine closing moves (by simp) (by simp) (by simp),others_inside held mine moves⟩
  · intro t
    show s.activeConns t + _ = _
    simp [TrackedConn.activeOn,stage]
  · intro t _
    have still : ¬ (s.activeConns t = 1 ∧ s.activeConns t = 0) := by omega
    show (if s.activeConns t = 1 ∧ s.activeConns t = 0 then 1 else 0) + s.idled t + _ =
      (s.idled t + if t = conn.tunnel then 1 else 0) + _
    rw [if_neg still]
    simp [TrackedConn.idlingOn,stage,eq_comm]
  · intro _
    exact exact.begun c _ (held.place c _ mine).1 (by simp) (by simp)

theorem kept_exit (exact : Exact onIdle s) (held : Held s h) (mine : h.holding = some (c,.released))
    (closing : c ∈ h.closed) (found : s.conns.deref c = some conn) :
    Kept onIdle s h (s.observe (s.advance c conn .closed)) { h with holding := none } := by
  have stage := held.stage_eq mine found
  have moves : Moves s c .closed (s.observe (s.advance c conn .closed)) := moves_of_set found rfl
  refine ⟨exact.restage found rfl rfl rfl ?_ ?_ ?_ (fun _ => id) rfl (by simp [stage]),
    ⟨?_,?_,?_,?_,held.dialedOnce,held.closedOnce⟩,?_⟩
  · simp [TrackedConn.activeOn,stage]
  · simp [TrackedConn.idlingOn,stage]
  · intro _
    exact exact.begun c _ (held.place c _ mine).1 (by simp) (by simp)
  · rintro r stage ⟨⟩
  · rintro r ⟨⟩
  · intro r own
    obtain ⟨unseen,before⟩ := held.own r own
    refine ⟨by rw [moves.returned,unseen],fun still => ?_⟩
    have apart : r ≠ c := by rintro rfl; exact still closing
    rw [moves.stageOf,if_neg apart]
    exact before still
  · intro r listed
    rw [moves.stageOf]
    split
    · exact .inr rfl
    · next apart =>
      rcases held.closed r listed with ⟨_,other,_⟩ | done
      · rw [mine] at other
        cases other
        exact absurd rfl apart
      · exact .inr done
  · intro k held' apart
    refine ⟨held'.moved moves (away_of_holding held mine held' apart),apart.dialed,?_⟩
    rintro r stage stage' ⟨⟩

theorem serve_getOrCreateTunnel (onIdle : Ref → Bool) (s : Shared) (clusterName namespaceName : String) :
    (serve onIdle s (.getOrCreateTunnel clusterName namespaceName) f).2 = s := by
  simp only [serve]
  split <;> rfl

theorem kept_answer (exact : Exact onIdle s) (held : Held s h) (permitted : Next False h call)
    (able : answerable s h call f) :
    Kept onIdle s h (s.observe (serve onIdle s call f).2) (note h call (serve onIdle s call f).1) := by
  have still : Exact onIdle (s.observe s) :=
    exact.quiet rfl (fun _ => id) (fun _ => rfl) rfl (fun _ => id) exact.closed
  cases call with
  | getOrCreateTunnel clusterName namespaceName =>
    rw [serve_getOrCreateTunnel]
    exact kept_quiet still held rfl
  | removeTunnel clusterName =>
    refine kept_quiet (exact.quiet rfl ?_ ?_ rfl (fun _ => id) exact.closed) held rfl
    · intro t there
      exact (known_onTunnel s f.tunnel Tunnel.close t).trans there
    · exact activeConns_onTunnel_of s f.tunnel fun _ => rfl
  | waitBeforeRetry => exact kept_quiet still held rfl
  | clusterName tunnel => exact kept_quiet still held rfl
  | dialCheck tunnel => exact kept_quiet still held rfl
  | establishConnectTunnel c targetAddr => exact kept_quiet still held rfl
  | dialContext tunnel =>
    simp only [serve]
    cases f.err with
    | some err => exact kept_quiet still held rfl
    | none => exact kept_dialed exact held permitted able
  | acquireConn c => exact kept_acquire exact held permitted.1
  | onceEnter c =>
    obtain ⟨conn,found,stage,reach⟩ := able
    obtain ⟨settled,order⟩ := permitted
    simp only [serve,onConn,found]
    rcases stage with counted | done
    · have kept := kept_enter exact held settled found counted reach
      simp only [serveEnter,counted,if_true] at kept ⊢
      exact kept
    · have kept := kept_again exact held settled found done (order.imp_right fun other => other.2.2)
      have other : ¬ conn.stage = .counted := by simp [done]
      simp only [serveEnter,other,if_false] at kept ⊢
      exact kept
  | addConns c =>
    obtain ⟨mine,closing⟩ := permitted
    obtain ⟨conn,found,_⟩ := held.deref mine
    simp only [serve,onConn,found]
    exact kept_release exact held mine (by simp [closing]) found
  | onIdle c =>
    obtain ⟨mine,closing⟩ := permitted
    obtain ⟨conn,found,_⟩ := held.deref mine
    simp only [serve,onConn,found]
    exact kept_idle exact held mine (by simp [closing]) found
  | onceExit c =>
    obtain ⟨mine,closing⟩ := permitted
    obtain ⟨conn,found,_⟩ := held.deref mine
    simp only [serve,onConn,found]
    exact kept_exit exact held mine (by simp [closing]) found
  | closeConn c =>
    obtain ⟨none,closing⟩ := permitted
    refine kept_quiet (exact.quiet rfl (fun _ => id) (fun _ => rfl) rfl (fun _ => id) ?_) held rfl
    intro r listed
    rcases List.mem_append.mp listed with before | last
    · exact exact.closed r before
    · obtain rfl := List.mem_singleton.mp last
      rcases held.closed r (by simp [closing]) with ⟨stage,mine,_⟩ | done
      · rw [none] at mine
        cases mine
      · exact done

theorem stageOf_finish (s : Shared) (a : Outcome) (r : Ref) : (finish s a).stageOf r = s.stageOf r := by
  unfold finish
  split
  · rw [Shared.stageOf,Heap.map_deref_modify]
    · rfl
    · exact fun _ => rfl
  · rfl

theorem returned_finish (s : Shared) (a : Outcome) (r : Ref) (other : ∀ err, a ≠ .dialed (some r) err) :
    (finish s a).returned r = s.returned r := by
  unfold finish
  split
  · next c err =>
    have apart : r ≠ c := by rintro rfl; exact other err rfl
    simp [Shared.returned,Heap.deref_modify,apart]
  · rfl

theorem Exact.finish (exact : Exact onIdle s) (a : Outcome) : Exact onIdle (finish s a) := by
  cases a with
  | closed err => exact exact
  | dialed conn err =>
    cases conn with
    | none => exact exact
    | some c =>
      refine ⟨?_,?_,?_,?_,?_⟩
      · intro r conn found
        have there := found
        simp only [Conns.finish,Heap.deref_modify] at there
        split at there
        · obtain ⟨before,found',rfl⟩ := Option.map_eq_some_iff.mp there
          exact exact.known r before found'
        · exact exact.known r conn there
      · intro t
        show s.activeConns t = ((s.conns.modify c _).count _ : Nat)
        rw [Heap.count_modify,exact.active t]
        exact fun _ => rfl
      · intro t set
        show s.emptied t = s.idled t + (s.conns.modify c _).count _
        rw [Heap.count_modify,exact.idle t set]
        exact fun _ => rfl
      · intro r stage found
        exact exact.begun r stage ((stageOf_finish s _ r).symm.trans found)
      · intro r listed
        exact (stageOf_finish s _ r).trans (exact.closed r listed)

theorem Held.finish (held : Held s h) (returned : Returns h a) (held' : Held s h') (apart : Apart h h') :
    Held (finish s a) h' := by
  have mine {c : Ref} {err : Option Error} (same : a = .dialed (some c) err) : c ∈ h.dialed ∧ c ∉ h.closed := by
    subst same
    have order : h.dialed = h.closed ++ [c] := returned.2.2
    have once := held.dialedOnce
    rw [order,List.nodup_append] at once
    exact ⟨by simp [order],fun listed => once.2.2 c listed c (by simp) rfl⟩
  refine ⟨?_,?_,?_,?_,held'.dialedOnce,held'.closedOnce⟩
  · intro r stage theirs
    rw [stageOf_finish]
    exact held'.place r stage theirs
  · intro r theirs
    rw [returned_finish,held'.unseen r theirs]
    rintro err same
    have counted := (held.own r (mine same).1).2 (mine same).2
    rw [(held'.place r _ theirs).1] at counted
    cases counted
  · intro r theirs
    rw [stageOf_finish,returned_finish]
    · exact held'.own r theirs
    · rintro err same
      exact apart.dialed r (mine same).1 theirs
  · intro r listed
    rw [stageOf_finish]
    exact held'.closed r listed

theorem Exact.disturb (exact : Exact onIdle s) (e : Disturbance) : Exact onIdle (s.observe (disturb s e)) := by
  cases e with
  | newTunnel clusterName =>
    refine exact.quiet rfl ?_ ?_ rfl (fun _ => id) exact.closed
    · intro t there
      obtain ⟨tunnel,found⟩ := Option.isSome_iff_exists.mp there
      simp [Conns.disturb,Heap.deref_alloc_of _ found]
    · intro t
      simp only [Shared.activeConns,Conns.disturb,Heap.deref_alloc]
      split
      · next new => simp [new,newTunnel]
      · rfl
  | establish tunnel outcome =>
    refine exact.quiet rfl ?_ ?_ rfl (fun _ => id) exact.closed
    · intro t there
      exact (known_onTunnel s tunnel _ t).trans there
    · exact activeConns_onTunnel_of s tunnel fun t => t.establish_activeConns outcome
  | closeTunnel tunnel =>
    refine exact.quiet rfl ?_ ?_ rfl (fun _ => id) exact.closed
    · intro t there
      exact (known_onTunnel s tunnel _ t).trans there
    · exact activeConns_onTunnel_of s tunnel fun _ => rfl

theorem disturb_conns (s : Shared) (e : Disturbance) : (disturb s e).conns = s.conns := by cases e <;> rfl

theorem goroutines_keep (task : I → Task) (onIdle : Ref → Bool) (maxRetries : Int) :
    (goroutines task onIdle maxRetries).KeepsApart (Next False) Returns (Exact onIdle) Held Apart where
  begins s exact _ := ⟨exact,held_fresh s⟩
  answers _ _ _ _ exact held permitted able :=
    have kept := kept_answer exact held permitted able
    ⟨kept.exact,kept.held⟩
  finishes _ _ a exact _ _ := exact.finish a
  disturbs s e exact _ := ⟨exact.disturb e,fun _ held => held.of_conns (disturb_conns s e)⟩
  symm _ _ := Apart.symm
  begins_other _ _ h _ held := ⟨held,apart_fresh h⟩
  answers_other _ _ _ _ _ k exact held permitted able held' apart :=
    (kept_answer exact held permitted able).others k held' apart
  finishes_other _ _ _ _ _ _ held returned held' apart := held.finish returned held' apart

/-- The `Close` of a connection is running: its `sync.Once` runs, or only `Conn.Close` is left to do. -/
def Owned (s : Shared) (c : Ref) : Prop :=
  ∃ stage, s.stageOf c = some stage ∧ (stage.running = true ∨ stage = .closed ∧ c ∉ s.closed)

def Holds (h : Notes) (c : Ref) : Prop := c ∈ h.closed ∧ c ∉ h.shut

theorem not_holds (even : h.shut = h.closed) (c : Ref) : ¬ Holds h c := fun holds => holds.2 (even ▸ holds.1)

theorem Held.holds_closing (held : Held s h) (closing : h.closed = h.shut ++ [c]) : Holds h c := by
  have once := held.closedOnce
  rw [closing,List.nodup_append] at once
  exact ⟨by simp [closing],fun listed => once.2.2 c listed c (by simp) rfl⟩

theorem not_holds_other (closing : h.closed = h.shut ++ [c]) (apart : x ≠ c) : ¬ Holds h x := by
  rintro ⟨listed,still⟩
  rw [closing] at listed
  rcases List.mem_append.mp listed with before | last
  · exact still before
  · exact apart (List.mem_singleton.mp last)

theorem Moves.owned_other (moves : Moves s c stage s') (closed : s'.closed = s.closed) (apart : x ≠ c)
    (owned : Owned s' x) : Owned s x := by
  obtain ⟨other,found,rest⟩ := owned
  rw [moves.stageOf,if_neg apart] at found
  exact ⟨other,found,closed ▸ rest⟩

theorem Owned.alloc (owned : Owned (s.observe { s with conns := s.conns.alloc ⟨tunnel,.dialed,false⟩ }) x) :
    Owned s x := by
  obtain ⟨stage,found,rest⟩ := owned
  have there := (stageOf_alloc s ⟨tunnel,.dialed,false⟩ x).symm.trans found
  split at there
  · cases there
    rcases rest with running | ⟨done,_⟩
    · cases running
    · cases done
  · exact ⟨stage,there,rest⟩

theorem owned_inside (closing : h.closed = h.shut ++ [c]) (kept : Held s' { h with holding })
    (moves : Moves s c stage s') (closed : s'.closed = s.closed) (owned : Owned s' x) :
    Holds { h with holding } x ∨ (Owned s x ∧ ¬ Holds h x) := by
  by_cases same : x = c
  · subst same
    exact .inl (kept.holds_closing closing)
  · exact .inr ⟨moves.owned_other closed same owned,not_holds_other closing same⟩

/-- Only its own goroutine carries the `Close` of a connection on, and until it is over. -/
theorem owned_answer (exact : Exact onIdle s) (held : Held s h) (permitted : Next False h call)
    (able : answerable s h call f) (owned : Owned (s.observe (serve onIdle s call f).2) x) :
    Holds (note h call (serve onIdle s call f).1) x ∨ (Owned s x ∧ ¬ Holds h x) := by
  have kept := (kept_answer exact held permitted able).held
  cases call with
  | getOrCreateTunnel clusterName namespaceName =>
    rw [serve_getOrCreateTunnel] at owned
    exact .inr ⟨owned,not_holds permitted.2 x⟩
  | removeTunnel clusterName => exact .inr ⟨owned,not_holds permitted.2 x⟩
  | waitBeforeRetry => exact .inr ⟨owned,not_holds permitted.2 x⟩
  | clusterName tunnel => exact .inr ⟨owned,not_holds permitted.2 x⟩
  | dialCheck tunnel => exact .inr ⟨owned,not_holds permitted.2 x⟩
  | establishConnectTunnel c targetAddr => exact .inr ⟨owned,not_holds permitted.2 x⟩
  | dialContext tunnel =>
    refine .inr ⟨?_,not_holds permitted.2 x⟩
    simp only [serve] at owned
    cases err : f.err with
    | some cause =>
      simp only [err] at owned
      exact owned
    | none => exact Owned.alloc (by simpa only [err] using owned)
  | acquireConn c =>
    refine .inr ⟨?_,not_holds permitted.2 x⟩
    obtain ⟨conn,found,_⟩ := held.deref permitted.1
    simp only [serve,onConn,found] at owned
    have moves : Moves s c .counted (s.observe (serveAcquire s c conn)) := moves_of_set found rfl
    refine moves.owned_other rfl ?_ owned
    rintro rfl
    obtain ⟨stage,there,rest⟩ := owned
    rw [moves.stageOf,if_pos rfl] at there
    cases there
    rcases rest with running | ⟨done,_⟩
    · cases running
    · cases done
  | onceEnter c =>
    obtain ⟨conn,found,stage,_⟩ := able
    obtain ⟨settled,_⟩ := permitted
    simp only [serve,onConn,found] at owned kept ⊢
    by_cases same : x = c
    · subst same
      exact .inl (kept.holds_closing (by simp [note,settled.2]))
    · refine .inr ⟨?_,not_holds settled.2 x⟩
      rcases stage with counted | done
      · have moves : Moves s c .releasing (s.observe (serveEnter s c conn).2) :=
          moves_of_set found (by simp only [serveEnter,counted,if_true]; rfl)
        exact moves.owned_other (by simp only [serveEnter,counted,if_true]; rfl) same owned
      · have other : ¬ conn.stage = .counted := by simp [done]
        simp only [serveEnter,other,if_false] at owned
        exact owned
  | addConns c =>
    obtain ⟨mine,closing⟩ := permitted
    obtain ⟨conn,found,_⟩ := held.deref mine
    simp only [serve,onConn,found] at owned kept ⊢
    have moves : Moves s c _ (s.observe (serveRelease onIdle s c conn).2) := moves_of_set found rfl
    exact owned_inside closing kept moves rfl owned
  | onIdle c =>
    obtain ⟨mine,closing⟩ := permitted
    obtain ⟨conn,found,_⟩ := held.deref mine
    simp only [serve,onConn,found] at owned kept ⊢
    have moves : Moves s c .released (s.observe (serveIdle s c conn)) := moves_of_set found rfl
    exact owned_inside closing kept moves rfl owned
  | onceExit c =>
    obtain ⟨mine,closing⟩ := permitted
    obtain ⟨conn,found,_⟩ := held.deref mine
    simp only [serve,onConn,found] at owned kept ⊢
    have moves : Moves s c .closed (s.observe (s.advance c conn .closed)) := moves_of_set found rfl
    exact owned_inside closing kept moves rfl owned
  | closeConn c =>
    obtain ⟨none,closing⟩ := permitted
    obtain ⟨stage,found,rest⟩ := owned
    have apart : x ≠ c := by
      rintro rfl
      rcases held.closed x (by simp [closing]) with ⟨_,mine,_⟩ | done
      · rw [none] at mine
        cases mine
      · cases done.symm.trans found
        rcases rest with running | ⟨_,open'⟩
        · cases running
        · exact open' (List.mem_append_right _ (List.mem_singleton_self x))
    refine .inr ⟨⟨stage,found,rest.imp_right ?_⟩,not_holds_other closing apart⟩
    rintro ⟨done,open'⟩
    exact ⟨done,fun listed => open' (List.mem_append_left _ listed)⟩

theorem goroutines_cover (task : I → Task) (onIdle : Ref → Bool) (maxRetries : Int) :
    (goroutines task onIdle maxRetries).Covers (Next False) Returns (Exact onIdle) Held Owned Holds where
  begins _ _ _ _ owned := owned
  answers _ _ _ _ _ exact held permitted able owned := owned_answer exact held permitted able owned
  finishes s _ a x _ _ returned owned := by
    obtain ⟨stage,found,rest⟩ := owned
    have same : (finish s a).closed = s.closed := by unfold finish; split <;> rfl
    exact ⟨⟨stage,(stageOf_finish s a x).symm.trans found,same ▸ rest⟩,not_holds returned.1.2 x⟩
  disturbs s e x _ _ owned := by
    obtain ⟨stage,found,rest⟩ := owned
    cases e <;> exact ⟨stage,found,rest⟩

end Goroutines

section Runs

variable {I : Type} {task : I → Task} {onIdle : Ref → Bool} {maxRetries : Int} {tunnels : Heap Tunnel}
  {s : Interaction.State I Shared Call Call.Answer Notes Outcome}

/-- A connection whose tunnel has become idle has a goroutine that is about to call `onIdle`. -/
theorem idling_pending (good : (goroutines task onIdle maxRetries).Good (Next False) Returns (Exact onIdle) Held s)
    (covered : Threads.Covered Owned Holds s) (idling : s.shared.stageOf c = some .idling) :
    ∃ i h next, s.thread i = some (h,.call (.onIdle c) next) := by
  obtain ⟨i,h,p,running,closing,_⟩ := covered c ⟨_,idling,.inl rfl⟩
  obtain ⟨held,traced⟩ := good.2 i h p running
  have mine : h.holding = some (c,.idling) := by
    rcases held.closed c closing with ⟨stage,mine,_⟩ | done
    · cases idling.symm.trans (held.place c stage mine).1
      exact mine
    · cases idling.symm.trans done
  cases p with
  | pure a =>
    have none := traced.1.1
    rw [mine] at none
    cases none
  | call call next =>
    have permitted := traced.1
    refine ⟨i,h,?_⟩
    cases call with
    | onIdle d =>
      cases mine.symm.trans permitted.1
      exact ⟨next,running⟩
    | onceEnter d => cases mine.symm.trans permitted.1.1
    | _ => cases mine.symm.trans permitted.1

/-- No `Close` is running. -/
def Quiet (s : Interaction.State I Shared Call Call.Answer Notes Outcome) : Prop :=
  ∀ i h p, s.thread i = some (h,p) → h.shut = h.closed

variable [DecidableEq I]

/-- The states of a run: every goroutine is where its notes say, the connections are shared out among
them, and a `Close` that runs is run by one of them. -/
theorem run_good (unused : ∀ t, (Shared.start tunnels).activeConns t = 0)
    (run : (goroutines task onIdle maxRetries).system.Run (idle (.start tunnels)) actions s) :
    ((goroutines task onIdle maxRetries).Good (Next False) Returns (Exact onIdle) Held s ∧
      Threads.Separate Apart s) ∧ Threads.Covered Owned Holds s := by
  have keeps := goroutines_keep task onIdle maxRetries
  have traced := fun i => program_traced maxRetries (task i)
  have good : (goroutines task onIdle maxRetries).Good (Next False) Returns (Exact onIdle) Held
      (idle (.start tunnels)) := good_idle (start_exact onIdle tunnels unused)
  have separate : Threads.Separate Apart
      (idle (.start tunnels) : Interaction.State I Shared Call Call.Answer Notes Outcome) := by
    intro i j h p h' p' _ running
    cases running
  have covered : Threads.Covered Owned Holds
      (idle (.start tunnels) : Interaction.State I Shared Call Call.Answer Notes Outcome) := by
    rintro c ⟨stage,found,_⟩
    cases found
  exact ⟨keeps.run traced good separate run,
    (goroutines_cover task onIdle maxRetries).run keeps traced good separate covered run⟩

/-- The reference count of a tunnel is exact in every state of every run. It is the number of the
connections that `AcquireConn` has counted and `ReleaseConn` has not; that is so for every counted one on
which no `Close` has begun, and for none on which a `Close` has returned. Every transition of the count
from one to zero has had its call of `onIdle`, or the goroutine that made it is about to call. -/
theorem tunnel_count_exact (task : I → Task) (onIdle : Ref → Bool) (maxRetries : Int) (tunnels : Heap Tunnel)
    (unused : ∀ t, (Shared.start tunnels).activeConns t = 0)
    (run : (goroutines task onIdle maxRetries).system.Run (idle (.start tunnels)) actions s) (t : Ref) :
    s.shared.activeConns t = s.shared.conns.count (TrackedConn.activeOn t) ∧
    0 ≤ s.shared.activeConns t ∧
    (∀ c conn, s.shared.conns.deref c = some conn → conn.tunnel = t → conn.stage ≠ .dialed →
      (c ∉ s.shared.begun → conn.activeOn t = true) ∧ (c ∈ s.shared.closed → conn.activeOn t = false) ∧
      (Quiet s → (conn.activeOn t = true ↔ c ∉ s.shared.closed))) ∧
    (onIdle t = true →
      s.shared.emptied t = s.shared.idled t + s.shared.conns.count (TrackedConn.idlingOn t) ∧
      (∀ c conn, s.shared.conns.deref c = some conn → conn.idlingOn t = true →
        ∃ i h next, s.thread i = some (h,.call (.onIdle c) next)) ∧
      (Quiet s → s.shared.emptied t = s.shared.idled t)) := by
  obtain ⟨⟨good,_⟩,covered⟩ := run_good unused run
  have exact := good.1
  have free (quiet : Quiet s) (c : Ref) : ¬ Owned s.shared c := by
    intro owned
    obtain ⟨i,h,p,running,holds⟩ := covered c owned
    exact not_holds (quiet i h p running) c holds
  refine ⟨exact.active t,by rw [exact.active t]; exact Int.natCast_nonneg _,?_,?_⟩
  · intro c conn found same counted
    have stage : s.shared.stageOf c = some conn.stage := by rw [Shared.stageOf,found]; rfl
    have closed (listed : c ∈ s.shared.closed) : conn.activeOn t = false := by
      have done := Option.some.inj (stage.symm.trans (exact.closed c listed))
      simp [TrackedConn.activeOn,done]
    refine ⟨?_,closed,?_⟩
    · intro untouched
      have still : conn.stage = .counted := by
        by_contra other
        exact untouched (exact.begun c conn.stage stage counted other)
      simp [TrackedConn.activeOn,same,still]
    · intro quiet
      refine ⟨fun active listed => ?_,fun open' => ?_⟩
      · rw [closed listed] at active
        cases active
      · by_contra idle
        apply free quiet c
        refine ⟨conn.stage,stage,?_⟩
        cases now : conn.stage <;> simp_all [TrackedConn.activeOn,Stage.running]
  · intro set
    have balance := exact.idle t set
    have pending : ∀ c conn, s.shared.conns.deref c = some conn → conn.idlingOn t = true →
        s.shared.stageOf c = some .idling := by
      intro c conn found idling
      have now : conn.stage = .idling := by
        simp only [TrackedConn.idlingOn,decide_eq_true_eq] at idling
        exact idling.2
      rw [Shared.stageOf,found,← now]
      rfl
    refine ⟨balance,?_,?_⟩
    · intro c conn found idling
      exact idling_pending good covered (pending c conn found idling)
    · intro quiet
      have none : s.shared.conns.count (TrackedConn.idlingOn t) = 0 := by
        rw [Heap.count_eq_zero_iff]
        intro c conn found
        by_contra idling
        have stage := pending c conn found (by simpa using idling)
        exact free quiet c ⟨_,stage,.inl rfl⟩
      rw [balance,none,Nat.add_zero]

end Runs

section Sample

/-- A tunnel with an open port. -/
def readyTunnel : Tunnel := ⟨"west",40000,false,0⟩

/-- One goroutine dials, and two close the connection. -/
def sampleTask : Fin 3 → Task
  | 0 => .dial 0
  | _ => .close 0

def proceed : Choice := ⟨none,0⟩

def closedTwice : List (Interaction.Action (Fin 3) Choice Disturbance) :=
  [.begin 0,.answer 0 proceed,.answer 0 proceed,.answer 0 proceed,
    .begin 1,.begin 2,.answer 1 proceed,.answer 1 proceed,.answer 1 proceed,.answer 1 proceed,
    .answer 2 proceed,.answer 2 proceed,.answer 1 proceed]

theorem tunnel_count_exact_closedTwice :
    ∃ s, (goroutines sampleTask (fun _ => true) 1).system.Run (idle (.start ⟨[readyTunnel]⟩)) closedTwice s ∧
      s.shared.closed = [0,0] ∧ s.shared.activeConns 0 = 0 ∧ s.shared.emptied 0 = 1 ∧ s.shared.idled 0 = 1 := by
  have unused : ∀ t, (Shared.start ⟨[readyTunnel]⟩).activeConns t = 0 := by
    intro t
    cases t <;> rfl
  have run : (goroutines sampleTask (fun _ => true) 1).system.Run (idle (.start ⟨[readyTunnel]⟩)) closedTwice _ :=
    System.run_of_admits _ _ _ (by decide +kernel)
  have exact := (tunnel_count_exact sampleTask (fun _ => true) 1 ⟨[readyTunnel]⟩ unused run 0).2.2.2 rfl
  refine ⟨_,run,by decide +kernel,by decide +kernel,by decide +kernel,?_⟩
  have none : ∀ i : Fin 3, (closedTwice.foldl (goroutines sampleTask (fun _ => true) 1).system.apply
      (idle (.start ⟨[readyTunnel]⟩))).thread i = none := by decide +kernel
  have balance := exact.2.2 (fun i h p running => by rw [none i] at running; cases running)
  rw [← balance]
  decide +kernel

end Sample

end Kommodity.TalosProxy.Conns
