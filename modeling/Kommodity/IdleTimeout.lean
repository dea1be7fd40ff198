import Kommodity.IdleClose

/-! How long a tunnel has been idle when `closeIdleTunnel` closes it. A timer is known by the name of
its cluster only, and stopping one that has fired does not stop its callback; where callbacks keep
apart from the calls that hand out tunnels or set timers, a tunnel is closed no earlier than the
timeout after its last use. -/
namespace Kommodity.TalosProxy

open Go Transition

/-- The tunnel whose last connection a handler has closed, before `onIdle` has run. -/
def Phase.released : Phase → Option Ref
  | .releasing tunnel _ => some tunnel
  | _ => none

namespace TunnelPool

/-- Number of callbacks of a cluster that have fired and not returned. -/
def firedFor (p : TunnelPool) (clusterName : String) : Nat :=
  p.timers.count fun t => t.clusterName = clusterName ∧ t.status = .fired

def pendingFor (p : TunnelPool) (clusterName : String) : Nat :=
  p.timers.count fun t => t.clusterName = clusterName ∧ t.Pending

theorem firedFor_eq_zero (p : TunnelPool) (none' : p.firedFor c = 0)
    (found : p.timers.deref r = some t) (name : t.clusterName = c) : t.status ≠ .fired := by
  have := (Heap.count_eq_zero_iff _ _).mp none' r t found
  simp only [decide_eq_false_iff_not,not_and] at this
  exact this name

theorem pendingFor_eq_zero (p : TunnelPool) (none' : p.pendingFor c = 0)
    (found : p.timers.deref r = some t) (name : t.clusterName = c) : ¬ t.Pending := by
  have := (Heap.count_eq_zero_iff _ _).mp none' r t found
  simp only [decide_eq_false_iff_not,not_and] at this
  exact this name

/-- A cluster has at most one timer to come, and one that is scheduled is the one in the map. -/
structure TimersUnique (p : TunnelPool) : Prop where
  unique : ∀ r r' t t', p.timers.deref r = some t → p.timers.deref r' = some t' →
    t.Pending → t'.Pending → t.clusterName = t'.clusterName → r = r'
  mapped : ∀ r t, p.timers.deref r = some t → t.status = .scheduled →
    p.idleTimers.lookup t.clusterName = some r

/-- No timer is to come that was not before. -/
def TimersKept (p q : TunnelPool) : Prop :=
  ∀ r t, q.timers.deref r = some t → t.Pending → p.timers.deref r = some t

section Timers

variable {p q : TunnelPool}

theorem TimersKept.of_eq (same : q.timers = p.timers) : p.TimersKept q := by
  intro r t found _
  rwa [same] at found

theorem TimersUnique.of_eq (inv : p.TimersUnique) (timers : q.timers = p.timers)
    (idleTimers : q.idleTimers = p.idleTimers) : q.TimersUnique :=
  ⟨by rw [timers]; exact inv.unique,by rw [timers,idleTimers]; exact inv.mapped⟩

theorem TimersUnique.kept (inv : p.TimersUnique) (kept : p.TimersKept q)
    (mapped : ∀ r t, p.timers.deref r = some t → q.timers.deref r = some t → t.status = .scheduled →
      p.idleTimers.lookup t.clusterName = some r → q.idleTimers.lookup t.clusterName = some r) :
    q.TimersUnique := by
  refine ⟨?_,?_⟩
  · intro r r' t t' found found' pending pending' same
    exact inv.unique r r' t t' (kept r t found pending) (kept r' t' found' pending') pending pending' same
  · intro r t found scheduled
    have before := kept r t found (.inl scheduled)
    exact mapped r t before found scheduled (inv.mapped r t before scheduled)

theorem stop_pending {t : Timer} (pending : t.stop.Pending) : t.stop = t := by
  obtain ⟨c,deadline,status⟩ := t
  cases status <;> simp [Timer.stop,Timer.Pending] at pending ⊢

theorem not_scheduled_of_stop {t : Timer} (same : t.stop = t) : t.status ≠ .scheduled := by
  obtain ⟨c,deadline,status⟩ := t
  cases status <;> simp [Timer.stop] at same ⊢

theorem cancel_timersKept (p : TunnelPool) (c : String) : p.TimersKept (p.cancelIdleTimerLocked c) := by
  intro r t found pending
  rw [cancel_timers] at found
  split at found
  · obtain ⟨t',known,rfl⟩ := Option.map_eq_some_iff.mp found
    rw [stop_pending pending]
    exact known
  · exact found

/-- Once the timer of a cluster is cancelled, only a callback that has fired is left of it. -/
theorem TimersUnique.cancel_fired (inv : p.TimersUnique)
    (found : (p.cancelIdleTimerLocked c).timers.deref r = some t) (name : t.clusterName = c)
    (pending : t.Pending) : t.status = .fired := by
  have before := p.cancel_timersKept c r t found pending
  rcases pending with scheduled | fired
  · have current := inv.mapped r t before scheduled
    rw [name] at current
    rw [cancel_timers,if_pos current,before] at found
    exact absurd scheduled (not_scheduled_of_stop (Option.some.inj found))
  · exact fired

theorem TimersUnique.cancel (inv : p.TimersUnique) (c : String) :
    (p.cancelIdleTimerLocked c).TimersUnique := by
  refine inv.kept (p.cancel_timersKept c) ?_
  intro r t _ found scheduled current
  rw [cancel_idleTimers,if_neg ?_]
  · exact current
  · intro name
    rw [inv.cancel_fired found name (.inl scheduled)] at scheduled
    cases scheduled

theorem TimersUnique.schedule (inv : p.TimersUnique) (cfg : Config.TalosProxyConfig) (now : Int)
    (quiet : p.firedFor c = 0) : (p.scheduleIdleClose cfg now c).TimersUnique := by
  have old : ∀ {r t}, (p.cancelIdleTimerLocked c).timers.deref r = some t → t.Pending →
      t.clusterName ≠ c := by
    intro r t found pending name
    exact p.firedFor_eq_zero quiet (p.cancel_timersKept c r t found pending) name
      (inv.cancel_fired found name pending)
  refine ⟨?_,?_⟩
  · intro r r' t t' found found' pending pending' same
    rw [schedule_timers] at found found'
    split at found
    · next here =>
      split at found'
      · next here' => exact here.trans here'.symm
      · cases found
        exact absurd same.symm (old found' pending')
    · split at found'
      · cases found'
        exact absurd same (old found pending)
      · exact (inv.cancel c).unique r r' t t' found found' pending pending' same
  · intro r t found scheduled
    rw [schedule_timers] at found
    rw [schedule_idleTimers]
    split at found
    · next here => cases found; rw [if_pos rfl,here]
    · have kept := (inv.cancel c).mapped r t found scheduled
      rw [if_neg (old found (.inl scheduled))]
      rw [cancel_idleTimers,if_neg (old found (.inl scheduled))] at kept
      exact kept

/-- Where no callback has fired, the new timer is the only one to come for its cluster. -/
theorem TimersUnique.schedule_deadline (inv : p.TimersUnique) (cfg : Config.TalosProxyConfig) (now : Int)
    (quiet : p.firedFor c = 0) (found : (p.scheduleIdleClose cfg now c).timers.deref r = some t)
    (name : t.clusterName = c) (pending : t.Pending) : t.deadline = now + cfg.idleTimeout := by
  rw [schedule_timers] at found
  split at found
  · cases found; rfl
  · exact absurd (inv.cancel_fired found name pending)
      (p.firedFor_eq_zero quiet (p.cancel_timersKept c r t found pending) name)

theorem finish_timersKept (timers : q.timers = p.timers.modify timer Timer.finish) : p.TimersKept q := by
  intro r t found pending
  rw [timers,Heap.deref_modify] at found
  split at found
  · obtain ⟨t',_,rfl⟩ := Option.map_eq_some_iff.mp found
    rcases pending with scheduled | fired
    · cases scheduled
    · cases fired
  · exact found

theorem closeAll_timers (p : TunnelPool) (r : Ref) : p.closeAll.timers.deref r =
    if r ∈ p.idleTimers.entries.map (·.2) then (p.timers.deref r).map Timer.stop
    else p.timers.deref r := by
  refine Heap.deref_modifyAll (fun t => ?_) _ _ _
  obtain ⟨c,deadline,status⟩ := t
  cases status <;> rfl

theorem closeAll_timersKept (p : TunnelPool) : p.TimersKept p.closeAll := by
  intro r t found pending
  rw [closeAll_timers] at found
  split at found
  · obtain ⟨t',known,rfl⟩ := Option.map_eq_some_iff.mp found
    rw [stop_pending pending]
    exact known
  · exact found

theorem TimersUnique.closeAll (inv : p.TimersUnique) : p.closeAll.TimersUnique := by
  refine inv.kept p.closeAll_timersKept ?_
  intro r t before found scheduled current
  have listed : r ∈ p.idleTimers.entries.map (·.2) := List.mem_map.mpr
    ⟨⟨t.clusterName,r⟩,AList.mem_lookup_iff.mp current,rfl⟩
  rw [closeAll_timers,if_pos listed,before] at found
  exact absurd scheduled (not_scheduled_of_stop (Option.some.inj found))

theorem TimersUnique.fire (inv : p.TimersUnique) (known : p.timers.deref timer = some T)
    (scheduled : T.status = .scheduled) (timers : q.timers = p.timers.modify timer Timer.fire)
    (idleTimers : q.idleTimers = p.idleTimers) : q.TimersUnique := by
  have before : ∀ {r t}, q.timers.deref r = some t → t.Pending → ∃ t', p.timers.deref r = some t' ∧
      t'.Pending ∧ t'.clusterName = t.clusterName := by
    intro r t found pending
    rw [timers,Heap.deref_modify] at found
    split at found
    · next here =>
      rw [here,known] at found
      cases found
      exact ⟨T,here ▸ known,.inl scheduled,rfl⟩
    · exact ⟨t,found,pending,rfl⟩
  refine ⟨?_,?_⟩
  · intro r r' t t' found found' pending pending' same
    obtain ⟨u,at_r,alive,name⟩ := before found pending
    obtain ⟨u',at_r',alive',name'⟩ := before found' pending'
    exact inv.unique r r' u u' at_r at_r' alive alive' (by rw [name,name',same])
  · intro r t found scheduled
    rw [timers,Heap.deref_modify] at found
    split at found
    · obtain ⟨t',_,rfl⟩ := Option.map_eq_some_iff.mp found
      cases scheduled
    · rw [idleTimers]
      exact inv.mapped r t found scheduled

/-- A callback that has fired is the only one to come, so it deletes no timer that is scheduled. -/
theorem TimersUnique.erase (inv : p.TimersUnique) (known : p.timers.deref timer = some T)
    (fired : T.status = .fired) (kept : p.TimersKept q)
    (idleTimers : q.idleTimers = p.idleTimers.erase T.clusterName) : q.TimersUnique := by
  refine inv.kept kept ?_
  intro r t before _ scheduled current
  rw [idleTimers,Map.lookup_erase_eq,if_neg ?_]
  · exact current
  · intro name
    have same := inv.unique r timer t T before known (.inl scheduled) (.inr fired) name
    subst same
    cases before.symm.trans known
    cases scheduled.symm.trans fired

end Timers

end TunnelPool

/-- The step of a handler that hands out a tunnel or sets a timer finds no callback of its cluster
waiting for the mutex; the one that puts a new tunnel into the pool finds no timer at all. -/
def Handler.TimersApart (p : TunnelPool) (h : Handler) : Prop :=
  match h.phase with
  | .acquiring => ∀ t ∈ p.tunnels.lookup h.cluster, p.isClosed t = false → p.firedFor h.cluster = 0
  | .established _ _ true => p.pendingFor h.cluster = 0
  | .releasing _ _ => p.firedFor h.cluster = 0
  | _ => True

instance (p : TunnelPool) (h : Handler) : Decidable (h.TimersApart p) := by
  unfold Handler.TimersApart
  split <;> infer_instance

/-- Handlers keep apart from callbacks that have fired, dials from callbacks that are closing, and
no callback reads the count of a tunnel as zero while `onIdle` of its last connection is to come. -/
def TimersApart (s : State) (event : Event) : Prop :=
  DialsApart s event ∧
  match event with
  | .advance i _ => ∀ h ∈ s.handlers.deref i, h.TimersApart s.pool
  | .enterIdle timer => ∀ T ∈ s.pool.timers.deref timer, ∀ t ∈ s.pool.tunnels.lookup T.clusterName,
      s.pool.activeConns t = 0 → s.handlers.count (fun h => h.phase.released = some t) = 0
  | _ => True

instance (s : State) (event : Event) : Decidable (TimersApart s event) :=
  match event with
  | .enterIdle _ => inferInstanceAs (Decidable (_ ∧ ∀ T ∈ _,∀ t ∈ _,_ → _))
  | .advance _ _ => inferInstanceAs (Decidable (_ ∧ ∀ h ∈ _,_))
  | .register .. | .deregister _ | .removeTunnel _ | .closeServer | .closeAll | .connect .. | .fire _
  | .closeIdle | .portForwardExits _ | .tick _ => inferInstanceAs (Decidable (_ ∧ True))

/-- What the timers are in a run in which callbacks keep apart. -/
structure Timely (s : State) : Prop where
  sound : Sound s
  unused : Unused s
  timers : s.pool.TimersUnique
  due : ∀ r t, s.pool.timers.deref r = some t → t.status = .fired → t.deadline ≤ s.now
  settled : ∀ timer t i h, s.closing = some (timer,t) → s.handlers.deref i = some h →
    h.phase.released ≠ some t

section Moves

variable {cfg : Config.TalosProxyConfig} {now : Int} {p p' : TunnelPool} {h h' : Handler}

theorem Handler.Moves.timersUnique (moves : h.Moves cfg now p answer p' h') (apart : h.TimersApart p)
    (inv : p.TimersUnique) : p'.TimersUnique := by
  obtain ⟨timers,idleTimers⟩ | ⟨timers,idleTimers⟩ | ⟨tunnel,handshakeFailed,before,rfl⟩ := moves.timers
  · exact inv.of_eq timers idleTimers
  · exact (inv.cancel h.cluster).of_eq timers idleTimers
  · simp only [Handler.TimersApart,before] at apart
    exact inv.schedule cfg now apart

theorem Handler.Moves.released (moves : h.Moves cfg now p answer p' h')
    (closes : h'.phase.released = some t) : h.phase.conn = some t := by
  cases moves with
  | closes tunnel handshakeFailed before =>
    rcases h.closeConn_phase p tunnel handshakeFailed with after | after | after <;>
      rw [after] at closes <;> cases closes
    rw [before]
    cases handshakeFailed <;> rfl
  | @idles tunnel handshakeFailed =>
    rcases afterClose_cases tunnel handshakeFailed with after | after <;>
      rw [Handler.goto,after] at closes <;> cases closes
  | removes _ _ after | retries _ _ after =>
    rcases after with after | after <;> rw [after] at closes <;> cases closes
  | _ => cases closes

/-- A connection stays open, or it is the last and `onIdle` is to come, or others are open. -/
theorem Handler.Moves.uses (moves : h.Moves cfg now p answer p' h') (opened : h.phase.conn = some t) :
    h'.phase.conn = some t ∨ h'.phase.released = some t ∨ p'.activeConns t ≠ 0 := by
  cases moves with
  | pipes before => rw [before] at opened; cases opened; exact .inl rfl
  | closes tunnel handshakeFailed before =>
    have same : tunnel = t := by
      rw [before] at opened
      cases handshakeFailed <;> exact Option.some.inj opened
    subst same
    by_cases last : (h.closeConn p tunnel handshakeFailed).1.activeConns tunnel = 0
    · have last' : (p.onTunnel tunnel Tunnel.releaseConn).activeConns tunnel = 0 := last
      exact .inr (.inl (by simp [Handler.closeConn,Handler.goto,last',Phase.released]))
    · exact .inr (.inr last)
  | reuse before | wait before | create before | wake before | cancelled before | returned _ before
  | pooled before | unestablished before | refused before | dials before | connected before
  | unconnected before | idles before | removes before | retries before =>
    rw [before] at opened; cases opened

theorem Handler.Moves.schedules (moves : h.Moves cfg now p answer p' h')
    (idle : h.phase.released = some t) : p' = p.scheduleIdleClose cfg now h.cluster := by
  cases moves with
  | idles => rfl
  | closes tunnel handshakeFailed before => rw [before] at idle; cases handshakeFailed <;> cases idle
  | reuse before | wait before | create before | wake before | cancelled before | returned _ before
  | pooled before | unestablished before | refused before | dials before | connected before
  | unconnected before | pipes before | removes before | retries before =>
    rw [before] at idle; cases idle

theorem Handler.TimersApart.quiet (apart : h.TimersApart p) (idle : h.phase.released = some t) :
    p.firedFor h.cluster = 0 := by
  unfold Handler.TimersApart at apart
  cases phase : h.phase <;> rw [phase] at idle <;> cases idle
  rw [phase] at apart
  exact apart

theorem Handler.Moves.timersKept (moves : h.Moves cfg now p answer p' h') (calm : h.phase.released = none) :
    p.TimersKept p' := by
  obtain ⟨timers,_⟩ | ⟨timers,_⟩ | ⟨tunnel,handshakeFailed,before,rfl⟩ := moves.timers
  · exact .of_eq timers
  · intro r t found pending
    rw [timers] at found
    exact p.cancel_timersKept h.cluster r t found pending
  · rw [before] at calm; cases calm

theorem Handler.Moves.fired (moves : h.Moves cfg now p answer p' h') (found : p'.timers.deref r = some t)
    (fired : t.status = .fired) : p.timers.deref r = some t := by
  obtain ⟨timers,_⟩ | ⟨timers,_⟩ | ⟨tunnel,handshakeFailed,before,rfl⟩ := moves.timers
  · rwa [timers] at found
  · rw [timers] at found
    exact p.cancel_timersKept h.cluster r t found (.inr fired)
  · rw [TunnelPool.schedule_timers] at found
    split at found
    · cases found; cases fired
    · exact p.cancel_timersKept h.cluster r t found (.inr fired)

end Moves

theorem Timely.step (inv : Timely s) (allowed : (proxySystem cfg).allowed s event)
    (apart : TimersApart s event) : Timely ((proxySystem cfg).apply s event) := by
  have sound := inv.sound.step allowed
  have unused := inv.unused.step inv.sound allowed apart.1
  have due {q : TunnelPool} (kept : s.pool.TimersKept q) : ∀ r t, q.timers.deref r = some t →
      t.status = .fired → t.deadline ≤ s.now :=
    fun r t found fired => inv.due r t (kept r t found (.inr fired)) fired
  cases event with
  | register | deregister | closeServer => exact ⟨sound,unused,inv.timers,inv.due,inv.settled⟩
  | portForwardExits => exact ⟨sound,unused,inv.timers.of_eq rfl rfl,inv.due,inv.settled⟩
  | tick elapsed =>
    refine ⟨sound,unused,inv.timers,?_,inv.settled⟩
    intro r t found fired
    have := inv.due r t found fired
    show t.deadline ≤ s.now + elapsed
    omega
  | removeTunnel clusterName =>
    have timers := s.pool.removeTunnel_timers clusterName
    refine ⟨sound,unused,?_,due ?_,inv.settled⟩
    · exact (inv.timers.cancel clusterName).of_eq timers (s.pool.removeTunnel_idleTimers clusterName)
    · intro r t found pending
      exact s.pool.cancel_timersKept clusterName r t (timers ▸ found) pending
  | closeAll => exact ⟨sound,unused,inv.timers.closeAll,due s.pool.closeAll_timersKept,inv.settled⟩
  | connect order ip =>
    revert sound unused
    simp only [proxySystem]
    split
    · next entry _ =>
      intro sound unused
      refine ⟨sound,unused,inv.timers,inv.due,?_⟩
      intro timer t i h held found
      rw [Heap.deref_alloc] at found
      split at found
      · cases found
        rcases Handler.start_phase cfg entry with phase | phase <;> simp [phase,Phase.released]
      · exact inv.settled timer t i h held found
    · exact fun _ _ => inv
  | advance i answer =>
    obtain ⟨h,⟨pool,h'⟩,found,_,step⟩ := allowed
    have moves := Handler.moves_of_step step
    revert sound unused
    simp only [proxySystem,found,step]
    intro sound unused
    refine ⟨sound,unused,moves.timersUnique (apart.2 h found) inv.timers,?_,?_⟩
    · intro r t known fired
      exact inv.due r t (moves.fired known fired) fired
    · intro timer t j g held at_j
      rw [Heap.deref_set found] at at_j
      split at at_j
      · cases at_j
        exact fun closes => (inv.unused timer t i h held found).2 (moves.released closes)
      · exact inv.settled timer t j g held at_j
  | fire timer =>
    obtain ⟨T,known,scheduled,past⟩ := allowed
    refine ⟨sound,unused,inv.timers.fire known scheduled rfl rfl,?_,inv.settled⟩
    intro r t found fired
    simp only [proxySystem,Heap.deref_modify] at found
    split at found
    · next here =>
      rw [here,known] at found
      cases found
      exact past
    · exact inv.due r t found fired
  | enterIdle timer =>
    obtain ⟨free,T,known,fired⟩ := allowed
    revert sound unused
    simp only [proxySystem,known]
    obtain ⟨tunnel,pooled,idle,eq⟩ | ⟨_,eq⟩ := s.enterIdle_cases timer T.clusterName
    · rw [eq]
      intro sound unused
      refine ⟨sound,unused,inv.timers.erase known fired (.of_eq rfl) rfl,inv.due,?_⟩
      intro timer' t i h held found
      cases held
      have counted := inv.sound.tracked.counted tunnel
      have none := apart.2 T known tunnel pooled (by omega)
      simpa using (Heap.count_eq_zero_iff _ _).mp none i h found
    · rw [eq]
      intro sound unused
      have kept := TunnelPool.finish_timersKept (p := s.pool) (q := { s.pool with
        idleTimers := s.pool.idleTimers.erase T.clusterName
        timers := s.pool.timers.modify timer Timer.finish }) rfl
      refine ⟨sound,unused,inv.timers.erase known fired kept rfl,due kept,?_⟩
      intro timer' t i h held
      cases free.symm.trans held
  | closeIdle =>
    obtain ⟨timer,tunnel,held⟩ := allowed
    obtain ⟨T,known,_,pooled⟩ := inv.sound.closing timer tunnel held
    revert sound unused
    simp only [proxySystem,held,known,State.closeIdle]
    intro sound unused
    have kept : s.pool.TimersKept { s.pool.discard T.clusterName tunnel with
        timers := s.pool.timers.modify timer Timer.finish } := TunnelPool.finish_timersKept rfl
    refine ⟨sound,unused,inv.timers.kept kept (fun _ _ _ _ _ current => current),due kept,?_⟩
    intro timer' t i h held'
    cases held'

theorem timely_of_run (run : ((proxySystem cfg).restrict TimersApart).Run (newProxy now) events s) :
    Timely s := by
  refine run.invariant_restrict Timely (fun s e inv allowed apart => inv.step allowed apart)
    ⟨sound_newProxy now,?_,⟨?_,?_⟩,?_,?_⟩
  · intro timer t i h held; cases held
  · intro r r' t t' found; simp [newProxy,newTunnelPool] at found
  · intro r t found; simp [newProxy,newTunnelPool] at found
  · intro r t found; simp [newProxy,newTunnelPool] at found
  · intro timer t i h held; cases held

/-- A connection through the tunnel is open, or its last one is closed and `onIdle` is to come. -/
def InUse (handlers : Heap Handler) (t : Ref) : Prop :=
  ∃ i h, handlers.deref i = some h ∧ (h.phase.conn = some t ∨ h.phase.released = some t)

/-- No callback to come for the cluster was due before the given time. -/
def TunnelPool.DueFrom (p : TunnelPool) (c : String) (time : Int) : Prop :=
  ∀ r T, p.timers.deref r = some T → T.clusterName = c → T.Pending → time ≤ T.deadline

theorem TunnelPool.DueFrom.kept {p q : TunnelPool} (inv : p.DueFrom c time) (kept : p.TimersKept q) :
    q.DueFrom c time :=
  fun r T found name pending => inv r T (kept r T found pending) name pending

theorem TunnelPool.DueFrom.schedule {p : TunnelPool} (timers : p.TimersUnique) (quiet : p.firedFor d = 0)
    (later : time ≤ now + cfg.idleTimeout) (due : c ≠ d → p.DueFrom c time) :
    (p.scheduleIdleClose cfg now d).DueFrom c time := by
  intro r T found name pending
  by_cases same : c = d
  · rw [timers.schedule_deadline cfg now quiet found (name.trans same) pending]
    exact later
  · rw [schedule_timers] at found
    split at found
    · cases found
      exact absurd name.symm same
    · exact due same r T (p.cancel_timersKept d r T found pending) name pending

/-- What the use of a tunnel at a time leaves behind, as long as it is the tunnel of its cluster. -/
structure UsedAt (cfg : Config.TalosProxyConfig) (c : String) (t : Ref) (time : Int) (s : State) : Prop where
  past : time ≤ s.now
  known : s.pool.clusterOf t = some c
  later : s.pool.tunnels.lookup c = some t →
    InUse s.handlers t ∨ s.pool.DueFrom c (time + cfg.idleTimeout)

theorem UsedAt.moves (inv : UsedAt cfg c t time s) (timely : Timely s)
    (found : s.handlers.deref i = some h) (moves : h.Moves cfg s.now s.pool answer pool h')
    (apart : h.TimersApart s.pool) :
    UsedAt cfg c t time { s with pool, handlers := s.handlers.set i h' } := by
  have tracked := timely.sound.tracked.moves found moves
  have here : (s.handlers.set i h').deref i = some h' := by rw [Heap.deref_set found,if_pos rfl]
  have past := inv.past
  have later : time + cfg.idleTimeout ≤ s.now + cfg.idleTimeout := by omega
  refine ⟨past,moves.clusterOf inv.known,?_⟩
  intro pooled
  rcases moves.tunnels pooled with before | ⟨rfl,⟨channel,established⟩,_⟩
  · rcases inv.later before with ⟨j,g,at_j,uses⟩ | due
    · by_cases same : j = i
      · subst same
        cases found.symm.trans at_j
        rcases uses with opened | idle
        · rcases moves.uses opened with opened' | released | active
          · exact .inl ⟨j,h',here,.inl opened'⟩
          · exact .inl ⟨j,h',here,.inr released⟩
          · rw [tracked.counted] at active
            obtain ⟨k,g,at_k,opened'⟩ := (Heap.count_pos_iff _ _).mp (Nat.pos_of_ne_zero (by simpa using active))
            exact .inl ⟨k,g,at_k,.inl (by simpa using opened')⟩
        · have known := timely.sound.tracked.held j h t found (by
            cases phase : h.phase <;> rw [phase] at idle <;> cases idle; rfl)
          cases inv.known.symm.trans known
          rw [moves.schedules idle]
          exact .inr (.schedule timely.timers (apart.quiet idle) later (fun other => absurd rfl other))
      · exact .inl ⟨j,g,by rw [Heap.deref_set found,if_neg same]; exact at_j,uses⟩
    · cases idle : h.phase.released with
      | none => exact .inr (due.kept (moves.timersKept idle))
      | some tunnel =>
        rw [moves.schedules idle]
        exact .inr (.schedule timely.timers (apart.quiet idle) later (fun _ => due))
  · -- a tunnel that enters the pool finds no timer of its cluster
    simp only [Handler.TimersApart,established] at apart
    have calm : h.phase.released = none := by rw [established]; rfl
    refine .inr fun r T known name pending => ?_
    exact absurd pending (s.pool.pendingFor_eq_zero apart (moves.timersKept calm r T known pending) name)

theorem UsedAt.calm (inv : UsedAt cfg c t time s) (handlers : s'.handlers = s.handlers) (now : s'.now = s.now)
    (shrinks : s.pool.Shrinks s'.pool) (kept : s.pool.TimersKept s'.pool) : UsedAt cfg c t time s' where
  past := now ▸ inv.past
  known := by rw [shrinks.clusterOf]; exact inv.known
  later pooled := by
    rw [handlers]
    exact (inv.later (shrinks.tunnels c t pooled)).imp_right (·.kept kept)

theorem UsedAt.step (inv : UsedAt cfg c t time s) (timely : Timely s)
    (allowed : (proxySystem cfg).allowed s event) (apart : TimersApart s event) :
    UsedAt cfg c t time ((proxySystem cfg).apply s event) := by
  cases event with
  | register | deregister | closeServer => exact ⟨inv.past,inv.known,inv.later⟩
  | tick elapsed =>
    have past := inv.past
    refine ⟨?_,inv.known,inv.later⟩
    show time ≤ s.now + elapsed
    omega
  | portForwardExits tunnel => exact inv.calm rfl rfl (s.pool.close_shrinks tunnel) (.of_eq rfl)
  | removeTunnel clusterName =>
    refine inv.calm rfl rfl (s.pool.removeTunnel_shrinks clusterName) ?_
    intro r T found pending
    exact s.pool.cancel_timersKept clusterName r T (s.pool.removeTunnel_timers clusterName ▸ found) pending
  | closeAll => exact inv.calm rfl rfl s.pool.closeAll_shrinks s.pool.closeAll_timersKept
  | connect order ip =>
    simp only [proxySystem]
    split
    · refine ⟨inv.past,inv.known,fun pooled => (inv.later pooled).imp_left ?_⟩
      rintro ⟨i,h,found,uses⟩
      exact ⟨i,h,Heap.deref_alloc_of _ found,uses⟩
    · exact inv
  | advance i answer =>
    obtain ⟨h,⟨pool,h'⟩,found,_,step⟩ := allowed
    simp only [proxySystem,found,step]
    exact inv.moves timely found (Handler.moves_of_step step) (apart.2 h found)
  | fire timer =>
    refine ⟨inv.past,inv.known,fun pooled => (inv.later pooled).imp_right ?_⟩
    obtain ⟨T,known,scheduled,_⟩ := allowed
    intro due r T' found name pending
    simp only [proxySystem,Heap.deref_modify] at found
    split at found
    · next here =>
      rw [here,known] at found
      cases found
      exact due timer T known name (.inl scheduled)
    · exact due r T' found name pending
  | enterIdle timer =>
    obtain ⟨_,T,known,_⟩ := allowed
    simp only [proxySystem,known]
    obtain ⟨tunnel,_,_,eq⟩ | ⟨_,eq⟩ := s.enterIdle_cases timer T.clusterName
    · rw [eq]; exact ⟨inv.past,inv.known,inv.later⟩
    · rw [eq]; exact inv.calm rfl rfl (.of_timers ..) (TunnelPool.finish_timersKept rfl)
  | closeIdle =>
    obtain ⟨timer,tunnel,held⟩ := allowed
    obtain ⟨T,found,_,pooled⟩ := timely.sound.closing timer tunnel held
    simp only [proxySystem,held,found,State.closeIdle]
    exact inv.calm rfl rfl ((s.pool.discard_shrinks _ _ pooled).trans (.of_timers ..))
      (TunnelPool.finish_timersKept rfl)

/-- In the step, `GetOrCreateTunnel` returns the tunnel to a handler. -/
def Returns (cfg : Config.TalosProxyConfig) (m : State) (event : Event) (t : Ref) : Prop :=
  ∃ i answer h h', event = .advance i answer ∧ m.handlers.deref i = some h ∧ h.phase ≠ .acquired t ∧
    ((proxySystem cfg).apply m event).handlers.deref i = some h' ∧ h'.phase = .acquired t

/-- A tunnel that is closed in `s` was not in use less than the timeout ago: in `m`, `later` being
the events since then, it had no open connection and was not being returned. -/
def Rested (cfg : Config.TalosProxyConfig) (t : Ref) (m : State) (later : List Event) (s : State) : Prop :=
  s.now < m.now + cfg.idleTimeout →
    (∀ i h, m.handlers.deref i = some h → h.phase.conn ≠ some t) ∧
    ∀ event ∈ later.head?, ¬ Returns cfg m event t

theorem Handler.Moves.returns {p p' : TunnelPool} {h h' : Handler} (moves : h.Moves cfg now p answer p' h')
    (apart : h.TimersApart p) (timers : p.TimersUnique) (after : h'.phase = .acquired t)
    (found : p'.timers.deref r = some T) (name : T.clusterName = h.cluster) : ¬ T.Pending := by
  cases moves with
  | reuse before pooled opened =>
    simp only [Handler.TimersApart,before] at apart
    intro pending
    exact p.firedFor_eq_zero (apart _ pooled opened) (p.cancel_timersKept _ r T found pending) name
      (timers.cancel_fired found name pending)
  | pooled before =>
    simp only [Handler.TimersApart,before] at apart
    exact p.pendingFor_eq_zero apart found name
  | closes tunnel handshakeFailed =>
    rcases h.closeConn_phase p tunnel handshakeFailed with after' | after' | after' <;>
      cases after'.symm.trans after
  | @idles tunnel handshakeFailed =>
    rcases afterClose_cases tunnel handshakeFailed with after' | after' <;> cases after'.symm.trans after
  | removes _ _ after' | retries _ _ after' =>
    rcases after' with after' | after' <;> rw [after'] at after <;> cases after
  | _ => cases after

theorem UsedAt.due (inv : UsedAt cfg c t time s) (timely : Timely s) (held : s.closing = some (timer,t)) :
    time + cfg.idleTimeout ≤ s.now := by
  obtain ⟨T,found,fired,pooled⟩ := timely.sound.closing timer t held
  cases inv.known.symm.trans (timely.sound.tracked.pooled _ t pooled)
  rcases inv.later pooled with ⟨i,h,at_i,opened | released⟩ | due
  · exact absurd opened (timely.unused timer t i h held at_i).2
  · exact absurd released (timely.settled timer t i h held at_i)
  · have := due timer T found rfl (.inr fired)
    have := timely.due timer T found fired
    omega

theorem UsedAt.of_conn (timely : Timely s) (found : s.handlers.deref i = some h)
    (opened : h.phase.conn = some t) : UsedAt cfg h.cluster t s.now s where
  past := le_refl _
  known := timely.sound.tracked.held i h t found (by
    cases phase : h.phase <;> rw [phase] at opened <;> cases opened <;> rfl)
  later _ := .inl ⟨i,h,found,.inl opened⟩

theorem UsedAt.of_returns (timely : Timely s) (allowed : (proxySystem cfg).allowed s event)
    (apart : TimersApart s event) (returns : Returns cfg s event t) :
    ∃ c, UsedAt cfg c t s.now ((proxySystem cfg).apply s event) := by
  obtain ⟨i,answer,g,g',rfl,at_i,_,after,acquired⟩ := returns
  have tracked := (timely.sound.step allowed).tracked.held i g' t after (by rw [acquired]; rfl)
  obtain ⟨h,⟨pool,h'⟩,found,_,step⟩ := allowed
  have moves := Handler.moves_of_step step
  simp only [proxySystem,found,step] at after tracked ⊢
  rw [Heap.deref_set found,if_pos rfl] at after
  cases after
  refine ⟨g'.cluster,le_refl _,tracked,fun _ => .inr fun r T known name pending => ?_⟩
  exact absurd pending (moves.returns (apart.2 h found) timely.timers acquired known (name.trans moves.cluster))

/-- When callbacks keep apart from the handlers, a tunnel is closed only after the timeout. -/
theorem idle_timeout_respected
    (earlier : ((proxySystem cfg).restrict TimersApart).Run (newProxy now) events m)
    (run : ((proxySystem cfg).restrict TimersApart).Run m later s) (held : s.closing = some (timer,t)) :
    Rested cfg t m later s := by
  have timely := timely_of_run earlier
  have used {c u rest} (run : ((proxySystem cfg).restrict TimersApart).Run u rest s) (timely' : Timely u)
      (inv : UsedAt cfg c t m.now u) : m.now + cfg.idleTimeout ≤ s.now := by
    have both : Timely s ∧ UsedAt cfg c t m.now s :=
      run.invariant_restrict (fun s => Timely s ∧ UsedAt cfg c t m.now s)
        (fun s e inv allowed apart => ⟨inv.1.step allowed apart,inv.2.step inv.1 allowed apart⟩)
        ⟨timely',inv⟩
    exact both.2.due both.1 held
  intro recent
  refine ⟨?_,?_⟩
  · intro i h found opened
    have := used run timely (.of_conn timely found opened)
    omega
  · intro event first returns
    cases run with
    | nil => cases first
    | cons ok rest =>
      cases first
      obtain ⟨c,inv⟩ := UsedAt.of_returns timely ok.1 ok.2 returns
      have := used rest (timely.step ok.1 ok.2) inv
      omega

/-- The last connection was closed at 30, with a timeout of 60. -/
def timerDue : List Event := connectionClosed ++ [Event.tick 60]

def timerDueState : State := timerDue.foldl (proxySystem sampleConfig).apply (newProxy 0)

theorem idle_timeout_respected_timerDue :
    ((proxySystem sampleConfig).apply ((proxySystem sampleConfig).apply timerDueState (.fire 0))
      (.enterIdle 0)).closing = some (0,0) ∧
    Rested sampleConfig 0 timerDueState [.fire 0,.enterIdle 0] ((proxySystem sampleConfig).apply
      ((proxySystem sampleConfig).apply timerDueState (.fire 0)) (.enterIdle 0)) := by
  have earlier : ((proxySystem sampleConfig).restrict TimersApart).Run (newProxy 0) timerDue timerDueState :=
    System.run_of_admits _ _ _ (by decide +kernel)
  have run := System.run_of_admits ((proxySystem sampleConfig).restrict TimersApart) timerDueState
    [.fire 0,.enterIdle 0] (by decide +kernel)
  have held : ((proxySystem sampleConfig).apply ((proxySystem sampleConfig).apply timerDueState (.fire 0))
      (.enterIdle 0)).closing = some (0,0) := by decide +kernel
  exact ⟨held,idle_timeout_respected earlier run held⟩

/-- A second request has arrived when the timer fires. -/
def firing : List Event := timerDue ++ [Event.fire 0,.connect ["west"] [10,0,0,10]]

def firingState : State := firing.foldl (proxySystem sampleConfig).apply (newProxy 0)

/-- The request takes the tunnel over before the callback gets the mutex. -/
def takenOver : List Event := [.advance 1 .proceed,.enterIdle 0]

def takenOverState : State := takenOver.foldl (proxySystem sampleConfig).apply firingState

theorem not_rested_takenOver :
    (proxySystem sampleConfig).Run (newProxy 0) firing firingState ∧
    (proxySystem sampleConfig).Run firingState takenOver takenOverState ∧
    takenOverState.closing = some (0,0) ∧ ¬ Rested sampleConfig 0 firingState takenOver takenOverState := by
  refine ⟨System.run_of_admits _ _ _ (by decide +kernel),System.run_of_admits _ _ _ (by decide +kernel),
    by decide +kernel,?_⟩
  intro rested
  refine (rested (by decide +kernel)).2 (.advance 1 .proceed) rfl ?_
  have before : (firingState.handlers.deref 1).map (·.phase) = some .acquiring := by decide +kernel
  have after : ((((proxySystem sampleConfig).apply firingState (.advance 1 .proceed)).handlers.deref 1).map
      (·.phase)) = some (.acquired 0) := by decide +kernel
  obtain ⟨h,found,phase⟩ := Option.map_eq_some_iff.mp before
  obtain ⟨h',found',phase'⟩ := Option.map_eq_some_iff.mp after
  exact ⟨1,.proceed,h,h',rfl,found,by rw [phase]; simp,found',phase'⟩

end Kommodity.TalosProxy
