import Kommodity.ProxyInvariants

/-! Who closes a tunnel, and whether it stays away. `RemoveTunnel` knows the name of a cluster and
not the tunnel that failed, and an establishment under way puts its tunnel into the pool without
a look at the registry or at a shutdown. -/
namespace Kommodity.TalosProxy

open Go Transition

/-- An attempt of `dialTunnel` that is not over, by the tunnel it goes through; `failed none` is one
that got no tunnel. -/
def Phase.attempt : Phase → Option (Option Ref)
  | .acquired tunnel | .dialing tunnel | .handshaking tunnel | .releasing tunnel true => some (some tunnel)
  | .failed via => some via
  | _ => none

/-- `dialTunnel` has not returned. -/
def Phase.inDialTunnel : Phase → Bool
  | .piping _ | .releasing _ false | .done => false
  | _ => true

section Pool

variable (p : TunnelPool) (c : String) (tunnel r : Ref)

theorem TunnelPool.cancel_isClosed : (p.cancelIdleTimerLocked c).isClosed r = p.isClosed r := by
  simp [isClosed]

theorem TunnelPool.removeTunnel_isClosed (opened : p.isClosed r = false)
    (closed : (p.removeTunnel c).isClosed r = true) : p.tunnels.lookup c = some r := by
  unfold removeTunnel at closed
  split at closed
  · rw [cancel_isClosed] at closed
    cases opened.symm.trans closed
  · next tunnel found =>
    have closed' : ((p.cancelIdleTimerLocked c).onTunnel tunnel Tunnel.close).isClosed r = true := closed
    rw [onTunnel_isClosed] at closed'
    split at closed'
    · next same => rw [same]; exact found
    · rw [cancel_isClosed] at closed'
      cases opened.symm.trans closed'

theorem TunnelPool.Cleared.isClosed {p q : TunnelPool} (cleared : p.Cleared c q)
    (closed : q.isClosed r = true) : p.isClosed r = true := by
  obtain ⟨_,rfl⟩ | ⟨⟨tunnel,found,shut⟩,rfl⟩ := cleared
  · exact closed
  · cases opened : p.isClosed r with
    | true => rfl
    | false =>
      cases found.symm.trans (p.removeTunnel_isClosed c r opened closed)
      exact opened.symm.trans shut

theorem TunnelPool.beginEstablish_isClosed : (p.beginEstablish c).isClosed r = p.isClosed r := by
  simp only [isClosed,beginEstablish,Heap.deref_alloc]
  split
  · next new => subst new; simp [newTunnel]
  · rfl

theorem TunnelPool.onTunnel_isClosed_eq {method : Tunnel → Tunnel} (same : ∀ t, (method t).closed = t.closed) :
    (p.onTunnel tunnel method).isClosed r = p.isClosed r := by
  rw [onTunnel_isClosed]
  simp [same,isClosed]

end Pool

section Moves

variable {cfg : Config.TalosProxyConfig} {now : Int} {p p' : TunnelPool} {h h' : Handler}

/-- A handler closes the tunnel it has a pointer to, or by `RemoveTunnel` the one in the pool. -/
theorem Handler.Moves.closing (moves : h.Moves cfg now p answer p' h') (opened : p.isClosed t = false)
    (closed : p'.isClosed t = true) : h.phase.tunnel = some t ∨
      (∃ via, h.phase = .failed via) ∧ p.tunnels.lookup h.cluster = some t := by
  have unchanged (same : p'.isClosed t = p.isClosed t) : False := by
    rw [same,opened] at closed
    cases closed
  cases moves with
  | reuse => exact (unchanged (p.cancel_isClosed ..)).elim
  | wait _ cleared => cases opened.symm.trans (cleared.isClosed _ _ closed)
  | create _ cleared =>
    rw [TunnelPool.beginEstablish_isClosed] at closed
    cases opened.symm.trans (cleared.isClosed _ _ closed)
  | returned outcome before =>
    rw [TunnelPool.onTunnel_isClosed] at closed
    split at closed
    · next same => exact .inl (by rw [before,same]; rfl)
    · cases opened.symm.trans closed
  | connected => exact (unchanged (p.onTunnel_isClosed_eq _ _ fun _ => rfl)).elim
  | closes tunnel => exact (unchanged (p.onTunnel_isClosed_eq tunnel t fun _ => rfl)).elim
  | idles => exact (unchanged (by simp [TunnelPool.isClosed])).elim
  | removes before => exact .inr ⟨⟨_,before⟩,p.removeTunnel_isClosed _ _ opened closed⟩
  | _ => exact (unchanged rfl).elim

theorem Handler.Moves.attempt (moves : h.Moves cfg now p answer p' h') (tries : h'.phase.attempt = some via) :
    (h.phase.attempt = some via ∧ p'.tunnels = p.tunnels) ∨ p'.tunnels.lookup h.cluster = via ∨
    (∃ tunnel channel, h.phase = .established tunnel channel false ∧ p'.tunnels = p.tunnels) ∨
    ∃ channel, h.phase = .waiting channel ∧ answer = .cancelled ∧ p' = p := by
  cases moves with
  | reuse _ found => cases tries; exact .inr (.inl (by simpa using found))
  | cancelled before => exact .inr (.inr (.inr ⟨_,before,rfl,rfl⟩))
  | pooled => cases tries; exact .inr (.inl (by simp [TunnelPool.doEstablish]))
  | unestablished before => exact .inr (.inr (.inl ⟨_,_,before,by simp [TunnelPool.doEstablish]⟩))
  | refused before | dials before | connected before | unconnected before =>
    cases tries
    exact .inl ⟨by rw [before]; rfl,rfl⟩
  | closes tunnel handshakeFailed before =>
    cases handshakeFailed
    · simp only [Handler.closeConn,Handler.goto] at tries
      split at tries <;> cases tries
    · simp only [Handler.closeConn,Handler.goto] at tries
      split at tries <;> cases tries <;> exact .inl ⟨by rw [before]; rfl,rfl⟩
  | @idles _ handshakeFailed before =>
    cases handshakeFailed
    · cases tries
    · cases tries
      exact .inl ⟨by rw [before]; rfl,by simp⟩
  | removes _ _ after | retries _ _ after =>
    rcases after with after | after <;> rw [after] at tries <;> cases tries
  | _ => cases tries

theorem Handler.Moves.outside (moves : h.Moves cfg now p answer p' h') (out : h.phase.inDialTunnel = false) :
    h'.phase.inDialTunnel = false := by
  cases moves with
  | closes tunnel handshakeFailed before =>
    cases handshakeFailed
    · simp only [Handler.closeConn,Handler.goto]
      split <;> rfl
    · rw [before] at out; cases out
  | @idles _ handshakeFailed before =>
    cases handshakeFailed
    · rfl
    · rw [before] at out; cases out
  | reuse before | wait before | create before | wake before | cancelled before | returned _ before
  | pooled before | unestablished before | refused before | dials before | connected before
  | unconnected before | pipes before | removes before | retries before =>
    rw [before] at out; cases out

end Moves

/-- A new tunnel enters the pool only while no attempt of its cluster goes through another one, and
the context of a handler that waits ends only while the establishment is in progress. -/
def Handler.removalsApart (s : State) (h : Handler) (answer : Answer) : Bool :=
  match h.phase,answer with
  | .established _ _ true,_ =>
    s.handlers.count (fun g => g.cluster = h.cluster ∧ g.phase.attempt ≠ none) = 0
  | .waiting channel,.cancelled => !s.pool.isSignalled channel
  | _,_ => true

def RemovalsApart (s : State) : Event → Prop
  | .advance i answer => ∀ h ∈ s.handlers.deref i, h.removalsApart s answer = true
  | _ => True

instance (s : State) (event : Event) : Decidable (RemovalsApart s event) :=
  match event with
  | .advance _ _ => inferInstanceAs (Decidable (∀ h ∈ _,_ = true))
  | .register .. | .deregister _ | .removeTunnel _ | .closeServer | .closeAll | .connect .. | .fire _
  | .enterIdle _ | .closeIdle | .portForwardExits _ | .tick _ => isTrue trivial

/-- Where the pool holds a tunnel, every attempt of the cluster goes through that one. -/
def Current (s : State) : Prop :=
  ∀ i h via t, s.handlers.deref i = some h → h.phase.attempt = some via →
    s.pool.tunnels.lookup h.cluster = some t → via = some t

theorem Current.moves (inv : Current s) (sound : Sound s) (found : s.handlers.deref i = some h)
    (moves : h.Moves cfg s.now s.pool answer pool h') (apart : RemovalsApart s (.advance i answer)) :
    Current { s with pool, handlers := s.handlers.set i h' } := by
  have apart := apart h found
  intro j g via t at_j tries pooled
  rw [Heap.deref_set found] at at_j
  split at at_j
  · cases at_j
    rw [moves.cluster] at pooled
    obtain ⟨before,same⟩ | current | ⟨tunnel,channel,phase,same⟩ | ⟨channel,phase,rfl,rfl⟩ :=
      moves.attempt tries
    · exact inv i h via t found before (same ▸ pooled)
    · rw [← current]; exact pooled
    · rw [same,sound.vacant found (by rw [phase]; exact Option.some_ne_none _)] at pooled
      cases pooled
    · simp only [Handler.removalsApart,phase,Bool.not_eq_true'] at apart
      rcases sound.coordinated.awaited i h channel found (by rw [phase]; rfl) with signalled | busy
      · cases apart.symm.trans signalled
      · rw [sound.coordinated.vacant _ _ busy] at pooled
        cases pooled
  · rcases moves.tunnels pooled with before | ⟨same,⟨channel,phase⟩,_⟩
    · exact inv j g via t at_j tries before
    · simp only [Handler.removalsApart,phase,decide_eq_true_eq] at apart
      have none' := (Heap.count_eq_zero_iff _ _).mp apart j g at_j
      simp [same,tries] at none'

theorem Current.step (inv : Current s) (sound : Sound s) (apart : RemovalsApart s event)
    (change : Change cfg s event s') : Current s' := by
  cases change with
  | moves found _ moves => exact inv.moves sound found moves apart
  | @starts order ip entry =>
    intro i h via t found tries pooled
    rw [Heap.deref_alloc] at found
    split at found
    · cases found
      rcases Handler.start_phase cfg entry with phase | phase <;> rw [phase] at tries <;> cases tries
    · exact inv i h via t found tries pooled
  | rest handlers shrinks =>
    intro i h via t found tries pooled
    rw [handlers] at found
    exact inv i h via t found tries (shrinks.tunnels _ t pooled)

theorem current_of_run (run : ((proxySystem cfg).restrict RemovalsApart).Run (newProxy now) events s) :
    Sound s ∧ Current s := by
  refine run.invariant_restrict (fun s => Sound s ∧ Current s) (fun s e inv allowed apart =>
    ⟨inv.1.step allowed,inv.2.step inv.1 apart (change_of_allowed inv.1.closing allowed)⟩)
    ⟨sound_newProxy now,?_⟩
  intro i h via t found
  simp [newProxy] at found

/-- A tunnel that the step of a handler closes is the one its attempt went through. -/
def Confined (cfg : Config.TalosProxyConfig) (s : State) (event : Event) : Prop :=
  ∀ i answer h t, event = .advance i answer → s.handlers.deref i = some h → s.pool.isClosed t = false →
    ((proxySystem cfg).apply s event).pool.isClosed t = true → h.phase.tunnel = some t

/-- When removals keep apart from new tunnels, a failure closes no tunnel but the one that failed. -/
theorem failure_closes_own_tunnel
    (run : ((proxySystem cfg).restrict RemovalsApart).Run (newProxy now) events s)
    (allowed : (proxySystem cfg).allowed s event) : Confined cfg s event := by
  obtain ⟨sound,current⟩ := current_of_run run
  rintro i answer h t rfl found opened closed
  obtain ⟨g,⟨pool,h'⟩,found',_,step⟩ := allowed
  cases found.symm.trans found'
  simp only [proxySystem,found,step] at closed
  rcases (Handler.moves_of_step step).closing opened closed with own | ⟨⟨via,failed⟩,pooled⟩
  · exact own
  · rw [failed]
    exact current i h via t found (by rw [failed]; rfl) pooled

/-- A request whose dial through its own tunnel fails. -/
def dialFails : List Event :=
  [.register [] "west" "default" lowBlock,.connect ["west"] [10,0,0,9],.advance 0 .proceed,
    .advance 0 (.establish (.ready 40000)),.advance 0 .proceed,.advance 0 .proceed,.advance 0 (.dial false)]

def dialFailsState : State := dialFails.foldl (proxySystem sampleConfig).apply (newProxy 0)

theorem failure_closes_own_tunnel_dialFails :
    dialFailsState.pool.isClosed 0 = false ∧
    ((proxySystem sampleConfig).apply dialFailsState (.advance 0 .proceed)).pool.isClosed 0 = true ∧
    Confined sampleConfig dialFailsState (.advance 0 .proceed) := by
  have run : ((proxySystem sampleConfig).restrict RemovalsApart).Run (newProxy 0) dialFails dialFailsState :=
    System.run_of_admits _ _ _ (by decide +kernel)
  exact ⟨by decide +kernel,by decide +kernel,failure_closes_own_tunnel run (by decide +kernel)⟩

/-- Two requests share a tunnel and both dials fail. The first removes it, retries and pipes
through a new one before the second comes to its own removal. -/
def lateRemoval : List Event :=
  [.register [] "west" "default" lowBlock,.connect ["west"] [10,0,0,9],.connect ["west"] [10,0,0,10],
    .advance 0 .proceed,.advance 0 (.establish (.ready 40000)),.advance 0 .proceed,.advance 1 .proceed,
    .advance 0 .proceed,.advance 1 .proceed,.advance 0 (.dial false),.advance 1 (.dial false),
    .advance 0 .proceed,.advance 0 .proceed,.advance 0 .proceed,.advance 0 (.establish (.ready 40001)),
    .advance 0 .proceed,.advance 0 .proceed,.advance 0 (.dial true),.advance 0 (.handshake true)]

def lateRemovalState : State := lateRemoval.foldl (proxySystem sampleConfig).apply (newProxy 0)

theorem not_confined_lateRemoval :
    (proxySystem sampleConfig).Run (newProxy 0) lateRemoval lateRemovalState ∧
    (proxySystem sampleConfig).allowed lateRemovalState (.advance 1 .proceed) ∧
    (lateRemovalState.handlers.deref 0).map (·.phase) = some (.piping 1) ∧
    (lateRemovalState.handlers.deref 1).map (·.phase) = some (.failed (some 0)) ∧
    ¬ Confined sampleConfig lateRemovalState (.advance 1 .proceed) := by
  have failed : (lateRemovalState.handlers.deref 1).map (·.phase) = some (.failed (some 0)) := by
    decide +kernel
  refine ⟨System.run_of_admits _ _ _ (by decide +kernel),by decide +kernel,by decide +kernel,failed,?_⟩
  intro confined
  obtain ⟨h,found,phase⟩ := Option.map_eq_some_iff.mp failed
  have own := confined 1 .proceed h 1 rfl found (by decide +kernel) (by decide +kernel)
  rw [phase] at own
  cases own

/-- The entry under the name of a cluster is one of that cluster. -/
def Named (r : Registry) : Prop := ∀ c entry, r.lookup c = some entry → entry.clusterName = c

theorem Named.step (inv : Named s.registry) (cfg : Config.TalosProxyConfig) (event : Event) :
    Named ((proxySystem cfg).apply s event).registry := by
  cases event with
  | register order clusterName namespaceName cidr =>
    intro c entry found
    simp only [proxySystem,register] at found
    split at found
    · exact inv c entry found
    · rw [Map.lookup_insert_eq] at found
      split at found
      · next same => cases found; exact same.symm
      · exact inv c entry found
  | deregister clusterName =>
    intro c entry found
    simp only [proxySystem,deregister,Map.lookup_erase_eq] at found
    split at found
    · cases found
    · exact inv c entry found
  | connect order ip =>
    simp only [proxySystem]
    split <;> exact inv
  | advance i answer =>
    simp only [proxySystem]
    split
    · exact inv
    · split <;> exact inv
  | enterIdle timer =>
    simp only [proxySystem,State.enterIdle]
    split
    · exact inv
    · split <;> exact inv
  | closeIdle =>
    simp only [proxySystem,State.closeIdle]
    split
    · exact inv
    · split <;> exact inv
  | removeTunnel | closeServer | closeAll | fire | portForwardExits | tick => exact inv

theorem lookup_ok (routed : lookup order r ip = .ok entry) : ∃ c, r.lookup c = some entry := by
  unfold lookup at routed
  split at routed
  · next entry' visited =>
    cases routed
    obtain ⟨c,_,found⟩ := List.exists_of_findSome?_eq_some visited
    exact ⟨c,(Option.filter_eq_some_iff.mp found).1⟩
  · cases routed

/-- Nothing of the cluster is left: no tunnel in the pool, and no handler that could bring one. -/
structure Gone (c : String) (s : State) : Prop where
  absent : s.pool.tunnels.lookup c = none
  quiet : ∀ i h, s.handlers.deref i = some h → h.cluster = c → h.phase.inDialTunnel = false

theorem Gone.step (inv : Gone c s)
    (refused : ∀ order ip entry, event = .connect order ip → lookup order s.registry ip = .ok entry →
      entry.clusterName ≠ c) (change : Change cfg s event s') : Gone c s' := by
  cases change with
  | @moves i h answer pool h' found _ moves =>
    refine ⟨?_,?_⟩
    · rw [Option.eq_none_iff_forall_ne_some]
      intro t pooled
      rcases moves.tunnels pooled with before | ⟨rfl,⟨channel,phase⟩,_⟩
      · rw [inv.absent] at before
        cases before
      · have out := inv.quiet i h found rfl
        rw [phase] at out
        cases out
    · intro j g at_j same
      rw [Heap.deref_set found] at at_j
      split at at_j
      · cases at_j
        exact moves.outside (inv.quiet i h found (moves.cluster.symm.trans same))
      · exact inv.quiet j g at_j same
  | @starts order ip entry routed =>
    refine ⟨inv.absent,?_⟩
    intro i h found same
    rw [Heap.deref_alloc] at found
    split at found
    · cases found
      exact absurd same (refused order ip entry rfl routed)
    · exact inv.quiet i h found same
  | rest handlers shrinks =>
    refine ⟨?_,by rw [handlers]; exact inv.quiet⟩
    rw [Option.eq_none_iff_forall_ne_some]
    intro t pooled
    have before := shrinks.tunnels c t pooled
    rw [inv.absent] at before
    cases before

/-- No request of the cluster is in `dialTunnel` when its tunnel is removed, none at all when the
pool is shut down, and none comes after that. -/
def RemovalsSettled (s : State) : Event → Prop
  | .removeTunnel c => s.handlers.count (fun h => h.cluster = c ∧ h.phase.inDialTunnel = true) = 0
  | .closeAll => s.handlers.count (fun h => h.phase.inDialTunnel) = 0
  | .connect _ _ => s.shutdown ≠ .finished
  | _ => True

instance (s : State) (event : Event) : Decidable (RemovalsSettled s event) :=
  match event with
  | .removeTunnel _ | .closeAll => inferInstanceAs (Decidable (_ = _))
  | .connect _ _ => inferInstanceAs (Decidable (_ ≠ _))
  | .register .. | .deregister _ | .closeServer | .advance .. | .fire _ | .enterIdle _ | .closeIdle
  | .portForwardExits _ | .tick _ => isTrue trivial

def Unregistered (c : String) (s : State) (_ : Event) : Prop := s.registry.lookup c = none

instance (c : String) (s : State) (event : Event) : Decidable (Unregistered c s event) :=
  inferInstanceAs (Decidable (s.registry.lookup c = none))

/-- The pool holds no open tunnel for the cluster. -/
def Shut (c : String) (s : State) : Prop :=
  ∀ t, s.pool.tunnels.lookup c = some t → s.pool.isClosed t = true

theorem Gone.shut (gone : Gone c s) : Shut c s := by
  intro t pooled
  rw [gone.absent] at pooled
  cases pooled

theorem finished_step (finished : s.shutdown = .finished) (allowed : (proxySystem cfg).allowed s event) :
    ((proxySystem cfg).apply s event).shutdown = .finished := by
  cases event with
  | closeServer => cases finished.symm.trans allowed
  | closeAll => rfl
  | connect order ip =>
    simp only [proxySystem]
    split <;> exact finished
  | advance i answer =>
    obtain ⟨h,next,found,_,step⟩ := allowed
    simp only [proxySystem,found,step]
    exact finished
  | enterIdle timer =>
    simp only [proxySystem,State.enterIdle]
    split
    · exact finished
    · split <;> exact finished
  | closeIdle =>
    simp only [proxySystem,State.closeIdle]
    split
    · exact finished
    · split <;> exact finished
  | register | deregister | removeTunnel | fire | portForwardExits | tick => exact finished

theorem gone_of_removal (sound : Sound m) (named : Named m.registry)
    (allowed : (proxySystem cfg).allowed m (.removeTunnel c)) (settled : RemovalsSettled m (.removeTunnel c))
    (run : ((proxySystem cfg).restrict (Unregistered c)).Run
      ((proxySystem cfg).apply m (.removeTunnel c)) later s) : Gone c s := by
  have start : Gone c ((proxySystem cfg).apply m (.removeTunnel c)) := by
    refine ⟨by simp [proxySystem,TunnelPool.removeTunnel_tunnels],?_⟩
    intro i h found same
    have none' := (Heap.count_eq_zero_iff _ _).mp settled i h found
    simpa [same] using none'
  have inv : Sound s ∧ Named s.registry ∧ Gone c s := by
    refine run.invariant_restrict (fun s => Sound s ∧ Named s.registry ∧ Gone c s) ?_
      ⟨sound.step allowed,named,start⟩
    rintro s event ⟨sound,named,gone⟩ ok unregistered
    refine ⟨sound.step ok,named.step cfg event,gone.step ?_ (change_of_allowed sound.closing ok)⟩
    intro order ip entry _ routed same
    obtain ⟨d,found⟩ := lookup_ok routed
    rw [← named d entry found,same] at found
    cases unregistered.symm.trans found
  exact inv.2.2

theorem gone_of_shutdown (sound : Sound m) (allowed : (proxySystem cfg).allowed m .closeAll)
    (settled : RemovalsSettled m .closeAll)
    (run : ((proxySystem cfg).restrict RemovalsSettled).Run ((proxySystem cfg).apply m .closeAll) later s)
    (c : String) : Gone c s := by
  have start : ∀ c, Gone c ((proxySystem cfg).apply m .closeAll) := by
    intro c
    refine ⟨by simp [proxySystem,TunnelPool.closeAll],?_⟩
    intro i h found _
    simpa using (Heap.count_eq_zero_iff _ _).mp settled i h found
  have inv : Sound s ∧ s.shutdown = .finished ∧ ∀ c, Gone c s := by
    refine run.invariant_restrict (fun s => Sound s ∧ s.shutdown = .finished ∧ ∀ c, Gone c s) ?_
      ⟨sound.step allowed,rfl,start⟩
    rintro s event ⟨sound,finished,gone⟩ ok settled
    refine ⟨sound.step ok,finished_step finished ok,fun c => (gone c).step ?_ (change_of_allowed sound.closing ok)⟩
    rintro order ip entry rfl
    exact absurd finished settled
  exact inv.2.2 c

/-- When no request is in `dialTunnel` at a removal, it is final: once `DeregisterCluster` has
returned, as long as the cluster is not registered, and once `cleanup` has returned. -/
theorem removal_final (earlier : (proxySystem cfg).Run (newProxy now) events m) :
    (∀ c later s, (proxySystem cfg).allowed m (.removeTunnel c) → RemovalsSettled m (.removeTunnel c) →
      ((proxySystem cfg).restrict (Unregistered c)).Run
        ((proxySystem cfg).apply m (.removeTunnel c)) later s → Shut c s) ∧
    ∀ later s, (proxySystem cfg).allowed m .closeAll → RemovalsSettled m .closeAll →
      ((proxySystem cfg).restrict RemovalsSettled).Run ((proxySystem cfg).apply m .closeAll) later s →
      ∀ c, Shut c s := by
  have sound := sound_of_run earlier
  have named : Named m.registry := by
    refine earlier.invariant (fun s => Named s.registry) (fun s e inv _ => inv.step cfg e) ?_
    intro c entry found
    simp [newProxy,newCIDRRegistry] at found
  refine ⟨?_,?_⟩
  · intro c later s allowed settled run
    exact (gone_of_removal sound named allowed settled run).shut
  · intro later s allowed settled run c
    exact (gone_of_shutdown sound allowed settled run c).shut

/-- A connection is being piped while its cluster is deregistered. -/
def pipingRemoved : List Event :=
  [.register [] "west" "default" lowBlock,.connect ["west"] [10,0,0,9],.advance 0 .proceed,
    .advance 0 (.establish (.ready 40000)),.advance 0 .proceed,.advance 0 .proceed,.advance 0 (.dial true),
    .advance 0 (.handshake true),.deregister "west"]

def pipingRemovedState : State := pipingRemoved.foldl (proxySystem sampleConfig).apply (newProxy 0)

/-- The connection ends after that. -/
def pipingEnds : List Event := [.advance 0 .proceed,.advance 0 .proceed]

theorem removal_final_pipingRemoved :
    pipingRemovedState.pool.tunnels.lookup "west" = some 0 ∧
    Shut "west" (pipingEnds.foldl (proxySystem sampleConfig).apply
      ((proxySystem sampleConfig).apply pipingRemovedState (.removeTunnel "west"))) := by
  have earlier : (proxySystem sampleConfig).Run (newProxy 0) pipingRemoved pipingRemovedState :=
    System.run_of_admits _ _ _ (by decide +kernel)
  have run := System.run_of_admits ((proxySystem sampleConfig).restrict (Unregistered "west"))
    ((proxySystem sampleConfig).apply pipingRemovedState (.removeTunnel "west")) pipingEnds (by decide +kernel)
  exact ⟨by decide +kernel,(removal_final earlier).1 "west" pipingEnds _ (by decide +kernel) (by decide +kernel) run⟩

/-- A handler is establishing a tunnel. -/
def underWay : List Event :=
  [.register [] "west" "default" lowBlock,.connect ["west"] [10,0,0,9],.advance 0 .proceed]

/-- Its establishment returns. -/
def arrives : List Event := [.advance 0 (.establish (.ready 40000)),.advance 0 .proceed]

/-- `DeregisterCluster` runs to its end in between. -/
def deregisteredUnderWay : List Event := underWay ++ [Event.deregister "west",.removeTunnel "west"]

def deregisteredUnderWayState : State :=
  deregisteredUnderWay.foldl (proxySystem sampleConfig).apply (newProxy 0)

/-- `cleanup` does. -/
def shutDownUnderWay : List Event := underWay ++ [Event.closeServer,.closeAll]

def shutDownUnderWayState : State := shutDownUnderWay.foldl (proxySystem sampleConfig).apply (newProxy 0)

theorem not_final_underWay :
    ((proxySystem sampleConfig).Run (newProxy 0) deregisteredUnderWay deregisteredUnderWayState ∧
      ((proxySystem sampleConfig).restrict (Unregistered "west")).Run deregisteredUnderWayState arrives
        (arrives.foldl (proxySystem sampleConfig).apply deregisteredUnderWayState) ∧
      ¬ Shut "west" (arrives.foldl (proxySystem sampleConfig).apply deregisteredUnderWayState)) ∧
    (proxySystem sampleConfig).Run (newProxy 0) shutDownUnderWay shutDownUnderWayState ∧
      (proxySystem sampleConfig).Run shutDownUnderWayState arrives
        (arrives.foldl (proxySystem sampleConfig).apply shutDownUnderWayState) ∧
      ¬ Shut "west" (arrives.foldl (proxySystem sampleConfig).apply shutDownUnderWayState) := by
  refine ⟨⟨System.run_of_admits _ _ _ (by decide +kernel),
    System.run_of_admits ((proxySystem sampleConfig).restrict (Unregistered "west")) _ _ (by decide +kernel),?_⟩,
    System.run_of_admits _ _ _ (by decide +kernel),System.run_of_admits _ _ _ (by decide +kernel),?_⟩
  · intro shut
    cases (shut 0 (by decide +kernel)).symm.trans
      (by decide +kernel : (TunnelPool.isClosed _ 0) = false)
  · intro shut
    cases (shut 0 (by decide +kernel)).symm.trans
      (by decide +kernel : (TunnelPool.isClosed _ 0) = false)

end Kommodity.TalosProxy
