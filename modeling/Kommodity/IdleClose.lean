import Kommodity.IdleTimers

/-! What `closeIdleTunnel` can do to connections. It reads the count of a tunnel under the pool
mutex, but a dial raises the count without it, after a check of its own, so a tunnel can be closed
under a dial that is on its way. The results are about the runs without such an overlap. -/
namespace Kommodity.TalosProxy

open Go Transition

section Moves

variable {cfg : Config.TalosProxyConfig} {now : Int} {p p' : TunnelPool} {h h' : Handler}

theorem Handler.Moves.closed (moves : h.Moves cfg now p answer p' h') (closed : p.isClosed r = true) :
    p'.isClosed r = true := by
  cases moves with
  | reuse => exact (p.cancel_shrinks h.cluster).closed r closed
  | wait _ cleared => exact cleared.shrinks.closed r closed
  | create _ cleared =>
    exact TunnelPool.beginEstablish_isClosed_of _ h.cluster (cleared.shrinks.closed r closed)
  | returned outcome =>
    refine p.onTunnel_isClosed_of _ (fun t shut => ?_) closed
    simp [Tunnel.establish,shut]
  | connected => exact p.onTunnel_isClosed_of _ (fun _ shut => shut) closed
  | closes tunnel => exact p.onTunnel_isClosed_of tunnel (fun _ shut => shut) closed
  | idles => simpa [TunnelPool.isClosed] using closed
  | removes => exact (p.removeTunnel_shrinks h.cluster).closed r closed
  | _ => exact closed

/-- A handler comes to dial a tunnel only by the check of `Dial`, which a closed one fails. -/
theorem Handler.Moves.dialing (moves : h.Moves cfg now p answer p' h') (dials : h'.phase = .dialing t) :
    h.phase = .acquired t ∧ p.isClosed t = false := by
  cases moves with
  | dials before found ready =>
    cases dials
    refine ⟨before,?_⟩
    simp only [TunnelPool.isClosed,found,Option.any_some]
    unfold Tunnel.dialCheck at ready
    split at ready
    · cases ready
    · next opened => simpa using opened
  | closes tunnel handshakeFailed =>
    rcases h.closeConn_phase p tunnel handshakeFailed with after | after | after <;>
      rw [after] at dials <;> cases dials
  | @idles tunnel handshakeFailed =>
    rcases afterClose_cases tunnel handshakeFailed with after | after <;> cases after.symm.trans dials
  | removes _ _ after | retries _ _ after =>
    rcases after with after | after <;> rw [after] at dials <;> cases dials
  | _ => cases dials

theorem Handler.Moves.conn (moves : h.Moves cfg now p answer p' h') (opens : h'.phase.conn = some t) :
    h.phase = .dialing t ∨ h.phase.conn = some t := by
  cases moves with
  | connected before => cases opens; exact .inl before
  | pipes before => cases opens; exact .inr (by rw [before]; rfl)
  | closes tunnel handshakeFailed =>
    rcases h.closeConn_phase p tunnel handshakeFailed with after | after | after <;>
      rw [after] at opens <;> cases opens
  | idles => rw [Handler.goto,afterClose_conn] at opens; cases opens
  | removes _ _ after | retries _ _ after =>
    rcases after with after | after <;> rw [after] at opens <;> cases opens
  | _ => cases opens

end Moves

/-- No callback reads the count of a tunnel as zero while a dial on it is on its way, and no dial
passes its check while a callback that did so is about to close the tunnel. -/
def DialsApart (s : State) : Event → Prop
  | .enterIdle timer => ∀ T ∈ s.pool.timers.deref timer, ∀ t ∈ s.pool.tunnels.lookup T.clusterName,
      s.pool.activeConns t = 0 → s.handlers.count (fun h => h.phase = .dialing t) = 0
  | .advance i _ => ∀ h ∈ s.handlers.deref i, ∀ callback ∈ s.closing, h.phase ≠ .acquired callback.2
  | _ => True

instance (s : State) (event : Event) : Decidable (DialsApart s event) :=
  match event with
  | .enterIdle _ => inferInstanceAs (Decidable (∀ T ∈ _,∀ t ∈ _,_ → _))
  | .advance _ _ => inferInstanceAs (Decidable (∀ h ∈ _,∀ callback ∈ _,_ ≠ _))
  | .register .. | .deregister _ | .removeTunnel _ | .closeServer | .closeAll | .connect .. | .fire _
  | .closeIdle | .portForwardExits _ | .tick _ => isTrue trivial

/-- Nobody dials or uses the tunnel that a callback is about to close. -/
def Unused (s : State) : Prop :=
  ∀ timer t i h, s.closing = some (timer,t) → s.handlers.deref i = some h →
    h.phase ≠ .dialing t ∧ h.phase.conn ≠ some t

theorem Unused.step (inv : Unused s) (sound : Sound s) (allowed : (proxySystem cfg).allowed s event)
    (apart : DialsApart s event) : Unused ((proxySystem cfg).apply s event) := by
  cases event with
  | register | deregister | closeServer | tick | portForwardExits | removeTunnel | closeAll | fire =>
    exact inv
  | connect order ip =>
    simp only [proxySystem]
    split
    · next entry _ =>
      intro timer t i h held found
      rw [Heap.deref_alloc] at found
      split at found
      · cases found
        obtain ⟨_,noConn,_⟩ := Handler.start_none cfg entry
        refine ⟨?_,by simp [noConn]⟩
        rcases Handler.start_phase cfg entry with phase | phase <;> simp [phase]
      · exact inv timer t i h held found
    · exact inv
  | advance i answer =>
    obtain ⟨h,⟨pool,h'⟩,found,_,step⟩ := allowed
    simp only [proxySystem,found,step]
    have moves := Handler.moves_of_step step
    intro timer t j g held at_j
    rw [Heap.deref_set found] at at_j
    split at at_j
    · cases at_j
      refine ⟨fun dials => apart h found (timer,t) held (moves.dialing dials).1,fun opens => ?_⟩
      rcases moves.conn opens with dials | opened
      · exact (inv timer t i h held found).1 dials
      · exact (inv timer t i h held found).2 opened
    · exact inv timer t j g held at_j
  | enterIdle timer =>
    obtain ⟨free,T,known,_⟩ := allowed
    simp only [proxySystem,known]
    obtain ⟨tunnel,pooled,idle,eq⟩ | ⟨_,eq⟩ := s.enterIdle_cases timer T.clusterName
    · rw [eq]
      intro timer' t i h held found
      cases held
      have counted := sound.tracked.counted tunnel
      have zero : s.handlers.count (fun h => decide (h.phase.conn = some tunnel)) = 0 := by omega
      have dials := apart T known tunnel pooled (by omega)
      refine ⟨by simpa using (Heap.count_eq_zero_iff _ _).mp dials i h found,?_⟩
      simpa using (Heap.count_eq_zero_iff _ _).mp zero i h found
    · rw [eq]
      intro timer' t i h held
      cases free.symm.trans held
  | closeIdle =>
    obtain ⟨timer,tunnel,held⟩ := allowed
    obtain ⟨T,known,_⟩ := sound.closing timer tunnel held
    simp only [proxySystem,held,known,State.closeIdle]
    intro timer' t i h held'
    cases held'

/-- The tunnel is closed and no dial on it is on its way. -/
def Dead (t : Ref) (s : State) : Prop :=
  s.pool.isClosed t = true ∧ ∀ i h, s.handlers.deref i = some h → h.phase ≠ .dialing t

theorem Dead.step (inv : Dead t s) (change : Change cfg s event s') : Dead t s' := by
  cases change with
  | @moves i h _ _ h' found _ moves =>
    refine ⟨moves.closed inv.1,?_⟩
    intro j g at_j
    rw [Heap.deref_set found] at at_j
    split at at_j
    · cases at_j
      intro dials
      cases inv.1.symm.trans (moves.dialing dials).2
    · exact inv.2 j g at_j
  | @starts order ip entry =>
    refine ⟨inv.1,?_⟩
    intro i h found
    rw [Heap.deref_alloc] at found
    split at found
    · cases found
      rcases Handler.start_phase cfg entry with phase | phase <;> simp [phase]
    · exact inv.2 i h found
  | rest handlers shrinks => exact ⟨shrinks.closed t inv.1,by rw [handlers]; exact inv.2⟩

theorem dead_of_run (sound : Sound s) (dead : Dead t s) (run : (proxySystem cfg).Run s events u) : Dead t u := by
  have both : Sound u ∧ Dead t u :=
    run.invariant (fun s => Sound s ∧ Dead t s)
      (fun s e inv allowed => ⟨inv.1.step allowed,inv.2.step (change_of_allowed inv.1.closing allowed)⟩)
      ⟨sound,dead⟩
  exact both.2

theorem unused_of_run (run : ((proxySystem cfg).restrict DialsApart).Run (newProxy now) events s) :
    Sound s ∧ Unused s := by
  refine run.invariant_restrict (fun s => Sound s ∧ Unused s)
    (fun s e inv allowed apart => ⟨inv.1.step allowed,inv.2.step inv.1 allowed apart⟩)
    ⟨sound_newProxy now,?_⟩
  intro timer t i h held
  cases held

/-- What the idle close of the tunnel may not do: find a connection open, or let a dial on its way
return one later. -/
def Harmless (cfg : Config.TalosProxyConfig) (t : Ref) (s : State) : Prop :=
  (∀ i h, s.handlers.deref i = some h → h.phase.conn ≠ some t) ∧
  ∀ events u, (proxySystem cfg).Run ((proxySystem cfg).apply s .closeIdle) events u →
    ∀ i h, u.handlers.deref i = some h → h.phase = .dialing t →
      ¬ (proxySystem cfg).allowed u (.advance i (.dial true))

/-- When callbacks and dials keep apart, every idle close is harmless. -/
theorem idle_close_harmless
    (run : ((proxySystem cfg).restrict DialsApart).Run (newProxy now) events s)
    (held : s.closing = some (timer,t)) : Harmless cfg t s := by
  obtain ⟨sound,unused⟩ := unused_of_run run
  refine ⟨fun i h found => (unused timer t i h held found).2,?_⟩
  have allowed : (proxySystem cfg).allowed s .closeIdle := ⟨timer,t,held⟩
  obtain ⟨T,known,_,pooled⟩ := sound.closing timer t held
  have dead : Dead t ((proxySystem cfg).apply s .closeIdle) := by
    simp only [proxySystem,held,known,State.closeIdle]
    refine ⟨TunnelPool.close_isClosed _ t ?_,fun i h found => (unused timer t i h held found).1⟩
    simp [sound.tracked.pooled _ t pooled]
  intro events' u run' i h found dials
  exact absurd dials ((dead_of_run (sound.step allowed) dead run').2 i h found)

/-- A tunnel that stays idle until its timer fires. -/
def idleUntilDue : List Event := connectionClosed ++ [Event.tick 60,.fire 0,.enterIdle 0]

def idleUntilDueState : State := idleUntilDue.foldl (proxySystem sampleConfig).apply (newProxy 0)

theorem idle_close_harmless_idleUntilDue :
    idleUntilDueState.closing = some (0,0) ∧ Harmless sampleConfig 0 idleUntilDueState := by
  have run : ((proxySystem sampleConfig).restrict DialsApart).Run (newProxy 0) idleUntilDue idleUntilDueState :=
    System.run_of_admits _ _ _ (by decide +kernel)
  have held : idleUntilDueState.closing = some (0,0) := by decide +kernel
  exact ⟨held,idle_close_harmless run held⟩

/-- A callback whose timer fired just before a second request took the tunnel over. -/
def staleCallback : List Event :=
  connectionClosed ++ [Event.tick 60,.fire 0,.connect ["west"] [10,0,0,10],.advance 1 .proceed]

/-- The second request has begun to dial when the callback reads the count. -/
def closingUnderDial : List Event := staleCallback ++ [Event.advance 1 .proceed,.enterIdle 0]

def closingUnderDialState : State := closingUnderDial.foldl (proxySystem sampleConfig).apply (newProxy 0)

theorem not_harmless_closingUnderDial :
    (proxySystem sampleConfig).Run (newProxy 0) closingUnderDial closingUnderDialState ∧
    closingUnderDialState.closing = some (0,0) ∧ ¬ Harmless sampleConfig 0 closingUnderDialState := by
  have run : (proxySystem sampleConfig).Run (newProxy 0) closingUnderDial closingUnderDialState :=
    System.run_of_admits _ _ _ (by decide +kernel)
  refine ⟨run,by decide +kernel,?_⟩
  intro harmless
  have dials : ((((proxySystem sampleConfig).apply closingUnderDialState .closeIdle).handlers.deref 1).map
      (·.phase)) = some (.dialing 0) := by decide +kernel
  obtain ⟨h,found,phase⟩ := Option.map_eq_some_iff.mp dials
  exact harmless.2 [] _ .nil 1 h found phase (by decide +kernel)

end Kommodity.TalosProxy
