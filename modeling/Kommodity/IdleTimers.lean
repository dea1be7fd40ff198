import Kommodity.ProxyInvariants

/-! The timers that close idle tunnels. A tunnel in the pool whose cluster no handler is working
for has a callback to come: timers are cancelled only by a handler that takes the tunnel over, or
together with the tunnel, and the last connection to close sets a new one. -/
namespace Kommodity.TalosProxy

open Go Transition

namespace TunnelPool

/-- A callback for the cluster is still to run or to finish. -/
def PendingFor (p : TunnelPool) (clusterName : String) : Prop :=
  ∃ timer t, p.timers.deref timer = some t ∧ t.clusterName = clusterName ∧ t.Pending

/-- The timer under the name of a cluster is one of that cluster. -/
def TimersNamed (p : TunnelPool) : Prop :=
  ∀ c timer, p.idleTimers.lookup c = some timer →
    ∃ t, p.timers.deref timer = some t ∧ t.clusterName = c

theorem removeTunnel_timers (p : TunnelPool) (c : String) :
    (p.removeTunnel c).timers = (p.cancelIdleTimerLocked c).timers := by
  unfold removeTunnel; split <;> rfl

theorem removeTunnel_idleTimers (p : TunnelPool) (c : String) :
    (p.removeTunnel c).idleTimers = (p.cancelIdleTimerLocked c).idleTimers := by
  unfold removeTunnel; split <;> rfl

theorem cancel_fresh (p : TunnelPool) (c : String) :
    (p.cancelIdleTimerLocked c).timers.fresh = p.timers.fresh := by
  unfold cancelIdleTimerLocked; split <;> simp

theorem schedule_timers (p : TunnelPool) (cfg : Config.TalosProxyConfig) (now : Int) (c : String)
    (timer : Ref) : (p.scheduleIdleClose cfg now c).timers.deref timer =
      if timer = p.timers.fresh then some ⟨c,now + cfg.idleTimeout,.scheduled⟩
      else (p.cancelIdleTimerLocked c).timers.deref timer := by
  simp only [scheduleIdleClose,Heap.deref_alloc,cancel_fresh]

theorem schedule_idleTimers (p : TunnelPool) (cfg : Config.TalosProxyConfig) (now : Int)
    (c d : String) : (p.scheduleIdleClose cfg now c).idleTimers.lookup d =
      if d = c then some p.timers.fresh else p.idleTimers.lookup d := by
  simp only [scheduleIdleClose,Map.lookup_insert_eq,cancel_fresh,cancel_idleTimers]
  split <;> rfl

section Timers

variable {p : TunnelPool}

theorem TimersNamed.cancel (named : p.TimersNamed) (c : String) :
    (p.cancelIdleTimerLocked c).TimersNamed := by
  intro d timer found
  rw [cancel_idleTimers] at found
  split at found
  · cases found
  · obtain ⟨t,known,name⟩ := named d timer found
    rw [cancel_timers,known]
    split
    · exact ⟨t.stop,rfl,name⟩
    · exact ⟨t,rfl,name⟩

theorem TimersNamed.schedule (named : p.TimersNamed) (cfg : Config.TalosProxyConfig) (now : Int)
    (c : String) : (p.scheduleIdleClose cfg now c).TimersNamed := by
  intro d timer found
  rw [schedule_idleTimers] at found
  rw [schedule_timers]
  split at found
  · next same => cases found; exact ⟨_,if_pos rfl,same.symm⟩
  · next other =>
    have kept := named.cancel c d timer (by rw [cancel_idleTimers,if_neg other]; exact found)
    obtain ⟨t,known,name⟩ := kept
    have old : timer ≠ p.timers.fresh := by
      rw [← p.cancel_fresh c]
      exact Heap.ne_fresh known
    exact ⟨t,by rw [if_neg old]; exact known,name⟩

theorem PendingFor.cancel (pending : p.PendingFor d) (named : p.TimersNamed) (other : d ≠ c) :
    (p.cancelIdleTimerLocked c).PendingFor d := by
  obtain ⟨timer,t,known,name,alive⟩ := pending
  refine ⟨timer,t,?_,name,alive⟩
  rw [cancel_timers,if_neg ?_]
  · exact known
  · intro current
    obtain ⟨t',known',name'⟩ := named c timer current
    cases known.symm.trans known'
    exact other (name.symm.trans name')

theorem PendingFor.schedule (pending : p.PendingFor d) (named : p.TimersNamed)
    (cfg : Config.TalosProxyConfig) (now : Int) (c : String) :
    (p.scheduleIdleClose cfg now c).PendingFor d := by
  by_cases same : d = c
  · subst same
    exact ⟨p.timers.fresh,⟨d,now + cfg.idleTimeout,.scheduled⟩,by rw [schedule_timers,if_pos rfl],rfl,
      .inl rfl⟩
  · obtain ⟨timer,t,known,rest⟩ := pending.cancel named same
    refine ⟨timer,t,?_,rest⟩
    have old : timer ≠ p.timers.fresh := by
      rw [← p.cancel_fresh c]
      exact Heap.ne_fresh known
    rw [schedule_timers,if_neg old]
    exact known

theorem schedule_pendingFor (p : TunnelPool) (cfg : Config.TalosProxyConfig) (now : Int) (c : String) :
    (p.scheduleIdleClose cfg now c).PendingFor c :=
  ⟨p.timers.fresh,⟨c,now + cfg.idleTimeout,.scheduled⟩,by rw [schedule_timers,if_pos rfl],rfl,.inl rfl⟩

theorem PendingFor.of_timers {q : TunnelPool} (pending : p.PendingFor d) (same : q.timers = p.timers) :
    q.PendingFor d := by
  unfold PendingFor
  rwa [same]

theorem TimersNamed.modify {q : TunnelPool} (named : p.TimersNamed)
    (kept : ∀ t, (f t).clusterName = t.clusterName) (timers : q.timers = p.timers.modify timer f)
    (idleTimers : ∀ c r, q.idleTimers.lookup c = some r → p.idleTimers.lookup c = some r) :
    q.TimersNamed := by
  intro c r found
  obtain ⟨t,known,name⟩ := named c r (idleTimers c r found)
  rw [timers,Heap.deref_modify]
  split
  · exact ⟨f t,by rw [known]; rfl,(kept t).trans name⟩
  · exact ⟨t,known,name⟩

theorem PendingFor.fire {q : TunnelPool} (pending : p.PendingFor d)
    (timers : q.timers = p.timers.modify timer Timer.fire) : q.PendingFor d := by
  obtain ⟨r,t,known,name,alive⟩ := pending
  by_cases same : r = timer
  · refine ⟨r,t.fire,?_,name,.inr rfl⟩
    rw [timers,Heap.deref_modify,if_pos same,known]
    rfl
  · exact ⟨r,t,by rw [timers,Heap.deref_modify,if_neg same]; exact known,name,alive⟩

theorem PendingFor.finish {q : TunnelPool} (pending : p.PendingFor d)
    (timers : q.timers = p.timers.modify timer Timer.finish) (known : p.timers.deref timer = some t)
    (other : d ≠ t.clusterName) : q.PendingFor d := by
  obtain ⟨r,t',known',name,alive⟩ := pending
  have away : r ≠ timer := by
    rintro rfl
    cases known.symm.trans known'
    exact other name.symm
  exact ⟨r,t',by rw [timers,Heap.deref_modify,if_neg away]; exact known',name,alive⟩

end Timers

end TunnelPool

/-- Between its call of `GetOrCreateTunnel` and the close of the connection it obtained, or the
removal after a failure. -/
def Phase.inFlight : Phase → Bool
  | .retrying | .done => false
  | _ => true

def InFlight (handlers : Heap Handler) (clusterName : String) : Prop :=
  ∃ i h, handlers.deref i = some h ∧ h.cluster = clusterName ∧ h.phase.inFlight = true

section Moves

variable {cfg : Config.TalosProxyConfig} {now : Int} {p p' : TunnelPool} {h h' : Handler}

theorem TunnelPool.Cleared.timers (cleared : p.Cleared c q) :
    (q.timers = p.timers ∧ q.idleTimers = p.idleTimers) ∨
    (q.timers = (p.cancelIdleTimerLocked c).timers ∧
      q.idleTimers = (p.cancelIdleTimerLocked c).idleTimers) := by
  obtain ⟨_,rfl⟩ | ⟨_,rfl⟩ := cleared
  · exact .inl ⟨rfl,rfl⟩
  · exact .inr ⟨p.removeTunnel_timers c,p.removeTunnel_idleTimers c⟩

theorem Handler.Moves.timers (moves : h.Moves cfg now p answer p' h') :
    (p'.timers = p.timers ∧ p'.idleTimers = p.idleTimers) ∨
    (p'.timers = (p.cancelIdleTimerLocked h.cluster).timers ∧
      p'.idleTimers = (p.cancelIdleTimerLocked h.cluster).idleTimers) ∨
    ∃ tunnel handshakeFailed, h.phase = .releasing tunnel handshakeFailed ∧
      p' = p.scheduleIdleClose cfg now h.cluster := by
  cases moves with
  | reuse => exact .inr (.inl ⟨rfl,rfl⟩)
  | wait _ cleared => exact cleared.timers.imp_right .inl
  | create _ cleared => exact cleared.timers.imp_right .inl
  | idles before => exact .inr (.inr ⟨_,_,before,rfl⟩)
  | removes => exact .inr (.inl ⟨p.removeTunnel_timers _,p.removeTunnel_idleTimers _⟩)
  | _ => exact .inl ⟨rfl,rfl⟩

theorem TunnelPool.TimersNamed.of_eq (named : p.TimersNamed) (timers : p'.timers = p.timers)
    (idleTimers : p'.idleTimers = p.idleTimers) : p'.TimersNamed := by
  unfold TunnelPool.TimersNamed
  rwa [timers,idleTimers]

theorem Handler.Moves.timersNamed (moves : h.Moves cfg now p answer p' h') (named : p.TimersNamed) :
    p'.TimersNamed := by
  obtain ⟨timers,idleTimers⟩ | ⟨timers,idleTimers⟩ | ⟨_,_,_,rfl⟩ := moves.timers
  · exact named.of_eq timers idleTimers
  · exact (named.cancel h.cluster).of_eq timers idleTimers
  · exact named.schedule cfg now h.cluster

theorem Handler.Moves.pendingFor (moves : h.Moves cfg now p answer p' h') (named : p.TimersNamed)
    (pending : p.PendingFor c) (other : c ≠ h.cluster) : p'.PendingFor c := by
  obtain ⟨timers,_⟩ | ⟨timers,_⟩ | ⟨_,_,_,rfl⟩ := moves.timers
  · exact pending.of_timers timers
  · exact (pending.cancel named other).of_timers timers
  · exact pending.schedule named cfg now h.cluster

/-- A handler that leaves its tunnel behind has removed it, has set a timer, or was not the last. -/
theorem Handler.Moves.leaves (moves : h.Moves cfg now p answer p' h')
    (left : h'.phase.inFlight = false) :
    p'.tunnels.lookup h.cluster = none ∨ p'.PendingFor h.cluster ∨
    (∃ tunnel, h.phase.conn = some tunnel ∧ p'.activeConns tunnel ≠ 0) ∨
    (p' = p ∧ h.phase.inFlight = false) := by
  cases moves with
  | removes => exact .inl (by rw [TunnelPool.removeTunnel_tunnels,if_pos rfl])
  | idles => exact .inr (.inl (p.schedule_pendingFor cfg now h.cluster))
  | closes tunnel handshakeFailed before =>
    refine .inr (.inr (.inl ⟨tunnel,?_,?_⟩))
    · rw [before]; cases handshakeFailed <;> rfl
    · intro zero
      have zero' : (p.onTunnel tunnel Tunnel.releaseConn).activeConns tunnel = 0 := zero
      simp [Handler.closeConn,Handler.goto,zero',Phase.inFlight] at left
  | retries before => exact .inr (.inr (.inr ⟨rfl,by rw [before]; rfl⟩))
  | _ => cases left

end Moves

/-- A tunnel in the pool whose cluster nobody is working for has a callback to come. -/
structure Attended (s : State) : Prop where
  named : s.pool.TimersNamed
  attended : ∀ c t, s.pool.tunnels.lookup c = some t → InFlight s.handlers c ∨ s.pool.PendingFor c

theorem InFlight.of_conns (tracked : Tracked p handlers) (known : p.clusterOf t = some c)
    (active : p.activeConns t ≠ 0) : InFlight handlers c := by
  rw [tracked.counted] at active
  obtain ⟨i,h,found,conn⟩ := (Heap.count_pos_iff _ handlers).mp (Nat.pos_of_ne_zero (by simpa using active))
  have conn' : h.phase.conn = some t := by simpa using conn
  cases phase : h.phase with
  | handshaking tunnel | piping tunnel =>
    rw [phase] at conn'
    cases conn'
    have cluster := tracked.held i h t found (by rw [phase]; rfl)
    exact ⟨i,h,found,Option.some.inj (cluster.symm.trans known),by rw [phase]; rfl⟩
  | _ => rw [phase] at conn'; cases conn'

theorem Attended.moves (inv : Attended s) (sound : Sound s) (found : s.handlers.deref i = some h)
    (moves : h.Moves cfg s.now s.pool answer pool h') :
    Attended { s with pool, handlers := s.handlers.set i h' } := by
  have tracked := sound.tracked.moves found moves
  have here : (s.handlers.set i h').deref i = some h' := by rw [Heap.deref_set found,if_pos rfl]
  refine ⟨moves.timersNamed inv.named,?_⟩
  intro c t pooled
  by_cases own : c = h.cluster
  · subst own
    by_cases flies : h'.phase.inFlight = true
    · exact .inl ⟨i,h',here,moves.cluster,flies⟩
    · rcases moves.leaves (by simpa using flies) with gone | pending | ⟨tunnel,conn,active⟩ | ⟨rfl,landed⟩
      · cases gone.symm.trans pooled
      · exact .inr pending
      · -- the count is above zero, so another handler has a connection through this tunnel
        have points : h.phase.tunnel = some tunnel := by
          cases phase : h.phase <;> rw [phase] at conn <;> first | exact conn | cases conn
        exact .inl (.of_conns tracked (moves.clusterOf (sound.tracked.held i h tunnel found points)) active)
      · rcases inv.attended _ t pooled with ⟨j,g,at_j,cluster,flying⟩ | pending
        · have away : j ≠ i := by
            rintro rfl
            cases found.symm.trans at_j
            rw [landed] at flying
            cases flying
          exact .inl ⟨j,g,by rw [Heap.deref_set found,if_neg away]; exact at_j,cluster,flying⟩
        · exact .inr pending
  · have before : s.pool.tunnels.lookup c = some t := by
      rcases moves.tunnels pooled with before | ⟨same,_⟩
      · exact before
      · exact absurd same own
    rcases inv.attended c t before with ⟨j,g,at_j,cluster,flying⟩ | pending
    · have away : j ≠ i := by
        rintro rfl
        cases found.symm.trans at_j
        exact own cluster.symm
      exact .inl ⟨j,g,by rw [Heap.deref_set found,if_neg away]; exact at_j,cluster,flying⟩
    · exact .inr (moves.pendingFor inv.named pending own)

private theorem erase_of {m : Map String Ref} (found : (m.erase c).lookup d = some r) :
    m.lookup d = some r := by
  rw [Map.lookup_erase_eq] at found
  split at found
  · cases found
  · exact found

theorem Attended.step (inv : Attended s) (sound : Sound s)
    (allowed : (proxySystem cfg).allowed s event) : Attended ((proxySystem cfg).apply s event) := by
  cases event with
  | register | deregister | closeServer | tick | portForwardExits => exact ⟨inv.named,inv.attended⟩
  | removeTunnel clusterName =>
    refine ⟨(inv.named.cancel clusterName).of_eq (s.pool.removeTunnel_timers _)
      (s.pool.removeTunnel_idleTimers _),?_⟩
    intro c t pooled
    simp only [proxySystem,TunnelPool.removeTunnel_tunnels] at pooled
    split at pooled
    · cases pooled
    · next other =>
      refine (inv.attended c t pooled).imp id fun pending => ?_
      exact (pending.cancel inv.named other).of_timers (s.pool.removeTunnel_timers _)
  | closeAll =>
    refine ⟨?_,?_⟩
    · intro c timer found; simp [proxySystem,TunnelPool.closeAll] at found
    · intro c t pooled; simp [proxySystem,TunnelPool.closeAll] at pooled
  | connect order ip =>
    simp only [proxySystem]
    split
    · refine ⟨inv.named,?_⟩
      intro c t pooled
      refine (inv.attended c t pooled).imp ?_ id
      rintro ⟨i,h,found,rest⟩
      exact ⟨i,h,Heap.deref_alloc_of _ found,rest⟩
    · exact inv
  | advance i answer =>
    obtain ⟨h,⟨pool,h'⟩,found,_,step⟩ := allowed
    simp only [proxySystem,found,step]
    exact inv.moves sound found (Handler.moves_of_step step)
  | fire timer =>
    refine ⟨inv.named.modify (fun t => (rfl : t.fire.clusterName = _)) rfl fun _ _ same => same,?_⟩
    intro c t pooled
    exact (inv.attended c t pooled).imp id fun pending => pending.fire rfl
  | enterIdle timer =>
    obtain ⟨_,t,known,_⟩ := allowed
    simp only [proxySystem,known]
    obtain ⟨tunnel,pooled,_,eq⟩ | ⟨active,eq⟩ := s.enterIdle_cases timer t.clusterName
    · rw [eq]
      exact ⟨fun c r found => inv.named c r (erase_of found),inv.attended⟩
    · rw [eq]
      refine ⟨inv.named.modify (fun t => (rfl : t.finish.clusterName = _)) rfl fun _ _ => erase_of,?_⟩
      intro c tunnel pooled
      by_cases own : c = t.clusterName
      · subst own
        have pooled' : s.pool.tunnels.lookup t.clusterName = some tunnel := pooled
        have positive := active tunnel pooled'
        exact .inl (.of_conns sound.tracked (sound.tracked.pooled _ tunnel pooled') (by omega))
      · exact (inv.attended c tunnel pooled).imp id fun pending => pending.finish rfl known own
  | closeIdle =>
    obtain ⟨timer,tunnel,held⟩ := allowed
    obtain ⟨t,known,_⟩ := sound.closing timer tunnel held
    simp only [proxySystem,held,known,State.closeIdle]
    refine ⟨inv.named.modify (fun t => (rfl : t.finish.clusterName = _)) rfl fun _ _ same => same,?_⟩
    intro c r pooled
    simp only [TunnelPool.discard_tunnels] at pooled
    split at pooled
    · cases pooled
    · next other =>
      exact (inv.attended c r pooled).imp id fun pending => pending.finish rfl known other

theorem attended_of_run (run : (proxySystem cfg).Run (newProxy now) events s) : Attended s := by
  have both : Sound s ∧ Attended s := by
    refine run.invariant (fun s => Sound s ∧ Attended s)
      (fun s e inv allowed => ⟨inv.1.step allowed,inv.2.step inv.1 allowed⟩)
      ⟨sound_newProxy now,?_,?_⟩
    · intro c timer found; simp [newProxy,newTunnelPool] at found
    · intro c t pooled; simp [newProxy,newTunnelPool] at pooled
  exact both.2

/-- The tunnel is out of the pool and closed. -/
def Closed (c : String) (t : Ref) (s : State) : Prop :=
  s.pool.tunnels.lookup c = none ∧ s.pool.isClosed t = true

/-- The clock and the callbacks, without any handler. -/
def Event.ofTimers : Event → Bool
  | .tick _ | .fire _ | .enterIdle _ | .closeIdle => true
  | _ => false

/-- A callback that gets the mutex while the tunnel is idle closes it. -/
theorem fired_closes (cfg : Config.TalosProxyConfig)
    (fired : s.pool.timers.deref timer = some ⟨c,deadline,.fired⟩) (free : s.closing = none)
    (pooled : s.pool.tunnels.lookup c = some t) (object : s.pool.clusterOf t ≠ none) (idle : s.pool.activeConns t = 0) :
    ∃ u, (proxySystem cfg).Run s [.enterIdle timer,.closeIdle] u ∧ Closed c t u := by
  obtain ⟨tunnel,found,_,eq⟩ | ⟨active,_⟩ := s.enterIdle_cases timer c
  · cases pooled.symm.trans found
    have entered : (proxySystem cfg).apply s (.enterIdle timer) = s.enterIdle timer c := by
      simp only [proxySystem,fired]
    rw [eq] at entered
    refine ⟨_,.cons ⟨free,_,fired,rfl⟩ (.cons ⟨timer,t,by rw [entered]⟩ .nil),?_⟩
    rw [entered]
    simp only [proxySystem,fired,State.closeIdle]
    refine ⟨by rw [TunnelPool.discard_tunnels,if_pos rfl],?_⟩
    exact TunnelPool.close_isClosed _ t object
  · have := active t pooled
    omega

theorem pending_closes (cfg : Config.TalosProxyConfig) (known : s.pool.timers.deref timer = some T)
    (name : T.clusterName = c) (pending : T.Pending) (free : s.closing = none)
    (pooled : s.pool.tunnels.lookup c = some t) (object : s.pool.clusterOf t ≠ none)
    (idle : s.pool.activeConns t = 0) :
    ∃ events u, events.all Event.ofTimers = true ∧ (proxySystem cfg).Run s events u ∧ Closed c t u := by
  obtain ⟨clusterName,deadline,status⟩ := T
  subst name
  rcases pending with scheduled | fired
  · have due : deadline ≤ s.now + (deadline - s.now).toNat := by omega
    let ticked := (proxySystem cfg).apply s (.tick (deadline - s.now).toNat)
    let expired := (proxySystem cfg).apply ticked (.fire timer)
    have fired : expired.pool.timers.deref timer = some ⟨clusterName,deadline,.fired⟩ := by
      simp [expired,ticked,proxySystem,Heap.deref_modify,known,Timer.fire]
    obtain ⟨u,run,closed⟩ := fired_closes cfg (s := expired) fired free pooled object idle
    exact ⟨[.tick (deadline - s.now).toNat,.fire timer,.enterIdle timer,.closeIdle],u,rfl,
      .cons trivial (.cons ⟨_,known,scheduled,due⟩ run),closed⟩
  · cases fired
    obtain ⟨u,run,closed⟩ := fired_closes cfg known free pooled object idle
    exact ⟨[.enterIdle timer,.closeIdle],u,rfl,run,closed⟩

/-- In every state the proxy reaches, a tunnel in the pool without connections, for whose cluster no
handler is on its way, has a callback that is scheduled or waits for the mutex; and the callbacks
alone close it. -/
theorem idle_tunnel_attended (run : (proxySystem cfg).Run (newProxy now) events s)
    (pooled : s.pool.tunnels.lookup c = some t) (idle : s.pool.activeConns t = 0)
    (quiet : ∀ i h, s.handlers.deref i = some h → h.cluster = c → h.phase.inFlight = false) :
    s.pool.PendingFor c ∧
    ∃ events' u, events'.all Event.ofTimers = true ∧ (proxySystem cfg).Run s events' u ∧ Closed c t u := by
  have sound := sound_of_run run
  have inv := attended_of_run run
  have pending : s.pool.PendingFor c := by
    rcases inv.attended c t pooled with ⟨i,h,found,cluster,flying⟩ | pending
    · rw [quiet i h found cluster] at flying
      cases flying
    · exact pending
  refine ⟨pending,?_⟩
  have object : s.pool.clusterOf t ≠ none := by simp [sound.tracked.pooled c t pooled]
  cases held : s.closing with
  | none =>
    obtain ⟨timer,T,known,name,alive⟩ := pending
    exact pending_closes cfg known name alive held pooled object idle
  | some callback =>
    -- another callback has the mutex; it finishes first, and it may be the one for this tunnel
    obtain ⟨timer,tunnel⟩ := callback
    have allowed : (proxySystem cfg).allowed s .closeIdle := ⟨timer,tunnel,held⟩
    obtain ⟨T,known,_,found⟩ := sound.closing timer tunnel held
    have after : (proxySystem cfg).apply s .closeIdle = s.closeIdle timer tunnel T.clusterName := by
      simp only [proxySystem,held,known]
    by_cases own : c = T.clusterName
    · subst own
      cases pooled.symm.trans found
      refine ⟨[.closeIdle],_,rfl,.single allowed,?_⟩
      rw [after]
      exact ⟨by simp [State.closeIdle,TunnelPool.discard_tunnels],
        TunnelPool.close_isClosed _ t object⟩
    · obtain ⟨timer',T',known',name',alive'⟩ : (s.closeIdle timer tunnel T.clusterName).pool.PendingFor c :=
        pending.finish rfl known own
      have idle' : (s.closeIdle timer tunnel T.clusterName).pool.activeConns t = 0 :=
        (s.pool.discard_activeConns T.clusterName tunnel t).trans idle
      have pooled' : (s.closeIdle timer tunnel T.clusterName).pool.tunnels.lookup c = some t := by
        simp only [State.closeIdle,TunnelPool.discard_tunnels,if_neg own,pooled]
      have object' : (s.closeIdle timer tunnel T.clusterName).pool.clusterOf t ≠ none := by
        rw [show (s.closeIdle timer tunnel T.clusterName).pool.clusterOf t = s.pool.clusterOf t from
          s.pool.discard_clusterOf T.clusterName tunnel t]
        exact object
      obtain ⟨rest,u,timed,run',closed⟩ := pending_closes cfg known' name' alive' rfl pooled' object' idle'
      exact ⟨.closeIdle :: rest,u,by simpa [Event.ofTimers] using timed,
        .cons allowed (by rw [after]; exact run'),closed⟩

/-- A connection through a fresh tunnel that has been closed again. -/
def connectionClosed : List Event :=
  [.register [] "west" "default" lowBlock,.connect ["west"] [10,0,0,9],.advance 0 .proceed,
    .advance 0 (.establish (.ready 40000)),.advance 0 .proceed,.advance 0 .proceed,.advance 0 (.dial true),
    .advance 0 (.handshake true),.tick 30,.advance 0 .proceed,.advance 0 .proceed]

def connectionClosedState : State := connectionClosed.foldl (proxySystem sampleConfig).apply (newProxy 0)

theorem idle_tunnel_attended_connectionClosed :
    connectionClosedState.pool.isClosed 0 = false ∧ connectionClosedState.pool.PendingFor "west" := by
  have run : (proxySystem sampleConfig).Run (newProxy 0) connectionClosed connectionClosedState :=
    System.run_of_admits _ _ _ (by decide +kernel)
  have quiet : connectionClosedState.handlers.objects.all (fun h => !h.phase.inFlight) = true := by
    decide +kernel
  refine ⟨by decide +kernel,(idle_tunnel_attended run (t := 0) (by decide +kernel) (by decide +kernel) ?_).1⟩
  intro i h found _
  simpa using List.all_eq_true.mp quiet h (List.mem_of_getElem? found)

end Kommodity.TalosProxy
