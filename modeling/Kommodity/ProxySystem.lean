import Kommodity.CidrRegistry
import Kommodity.TunnelPool

/-! The proxy as one system: any number of CONNECT handlers, registrations, deregistrations and
the shutdown, timer callbacks, port-forwards that break and the clock. A step is what one
goroutine does between two points at which another one can be seen: a critical section of the
registry or of the pool, an atomic operation on a tunnel, or the return of a call on the network,
whose result the step carries. -/
namespace Kommodity.TalosProxy

open Go Transition

/-- Where a handler stands in `dialTunnel` and after it. `releasing` is `trackedConn.Close` between
the count that reached zero and `onIdle`; `failed` keeps the tunnel the attempt went through. -/
inductive Phase where
  | acquiring
  | waiting (channel : Ref)
  | establishing (tunnel channel : Ref)
  | established (tunnel channel : Ref) (ok : Bool)
  | acquired (tunnel : Ref)
  | dialing (tunnel : Ref)
  | handshaking (tunnel : Ref)
  | piping (tunnel : Ref)
  | releasing (tunnel : Ref) (handshakeFailed : Bool)
  | failed (via : Option Ref)
  | retrying
  | done
  deriving DecidableEq

/-- The next step takes the pool mutex. -/
def Phase.locks : Phase → Bool
  | .acquiring | .established _ _ _ | .releasing _ _ | .failed _ => true
  | _ => false

/-- A request whose target lies in a registered block, in `dialTunnel` or past it. -/
structure Handler where
  entry : CIDREntry
  attempt : Int
  phase : Phase

def Handler.goto (h : Handler) (phase : Phase) : Handler := { h with phase }

def Handler.cluster (h : Handler) : String := h.entry.clusterName

/-- What a handler learns from outside in its step. -/
inductive Answer where
  | proceed
  | cancelled
  | establish (outcome : Forwarding)
  | dial (ok : Bool)
  | handshake (ok : Bool)
  deriving DecidableEq

/-- `handleHandshakeFailure` goes on to remove the tunnel; a closed upstream ends the request. -/
def afterClose (tunnel : Ref) (handshakeFailed : Bool) : Phase :=
  if handshakeFailed then .failed (some tunnel) else .done

/-- `trackedConn.Close`, up to the call of `onIdle`. The connection counts as open until it is released
here; `Conn.Close`, which comes last, is left out. -/
def Handler.closeConn (p : TunnelPool) (h : Handler) (tunnel : Ref) (handshakeFailed : Bool) :
    TunnelPool × Handler :=
  let p := p.onTunnel tunnel Tunnel.releaseConn
  (p,h.goto (if p.activeConns tunnel = 0 then .releasing tunnel handshakeFailed
    else afterClose tunnel handshakeFailed))

/-- The loop head of `dialTunnel`. -/
def Handler.next (cfg : Config.TalosProxyConfig) (h : Handler) (attempt : Int) : Handler :=
  { h with attempt, phase := if attempt ≤ cfg.maxRetries then .acquiring else .done }

/-- `dialTunnel` begins with its first attempt. -/
def Handler.start (cfg : Config.TalosProxyConfig) (entry : CIDREntry) : Handler :=
  Handler.next cfg ⟨entry,0,.done⟩ 1

/-- The next step of a handler. -/
def Handler.step (cfg : Config.TalosProxyConfig) (now : Int) (p : TunnelPool) (h : Handler)
    (answer : Answer) : Option (TunnelPool × Handler) :=
  match h.phase,answer with
  | .acquiring,.proceed =>
    match p.getOrCreateTunnel h.cluster with
    | (.reuse tunnel,p) => some (p,h.goto (.acquired tunnel))
    | (.wait channel,p) => some (p,h.goto (.waiting channel))
    | (.create tunnel channel,p) => some (p,h.goto (.establishing tunnel channel))
  | .waiting channel,.proceed =>
    if p.isSignalled channel then some (p,h.goto .acquiring) else none
  | .waiting _,.cancelled => some (p,h.goto (.failed none))
  | .establishing tunnel channel,.establish outcome =>
    (p.objects.deref tunnel).map fun t =>
      (p.onTunnel tunnel fun t => (t.establish outcome).2,
        h.goto (.established tunnel channel (t.establish outcome).1))
  | .established tunnel channel ok,.proceed =>
    some (p.doEstablish h.cluster tunnel channel ok,
      h.goto (if ok then .acquired tunnel else .failed (some tunnel)))
  | .acquired tunnel,.proceed =>
    (p.objects.deref tunnel).map fun t =>
      (p,h.goto (if t.dialCheck = none then .dialing tunnel else .failed (some tunnel)))
  | .dialing tunnel,.dial true =>
    some (p.onTunnel tunnel Tunnel.acquireConn,h.goto (.handshaking tunnel))
  | .dialing tunnel,.dial false => some (p,h.goto (.failed (some tunnel)))
  | .handshaking tunnel,.handshake true => some (p,h.goto (.piping tunnel))
  | .handshaking tunnel,.handshake false => some (h.closeConn p tunnel true)
  | .piping tunnel,.proceed => some (h.closeConn p tunnel false)
  | .releasing tunnel handshakeFailed,.proceed =>
    some (p.scheduleIdleClose cfg now h.cluster,h.goto (afterClose tunnel handshakeFailed))
  | .failed _,.proceed =>
    some (p.removeTunnel h.cluster,
      if cfg.maxRetries ≤ h.attempt then h.next cfg (h.attempt + 1) else h.goto .retrying)
  | .retrying,.proceed => some (p,h.next cfg (h.attempt + 1))
  | _,_ => none

/-- How far `cleanup` has come. -/
inductive Shutdown where
  | running
  | serverClosed
  | finished
  deriving DecidableEq

/-- `closing` is the callback that holds the pool mutex in `closeIdleTunnel`, between its reading
of the count and `Close`; `removing` are the calls of `DeregisterCluster` between their two halves. -/
structure State where
  registry : Registry
  pool : TunnelPool
  handlers : Heap Handler
  removing : List String
  closing : Option (Ref × Ref)
  shutdown : Shutdown
  now : Int

def newProxy (now : Int) : State := ⟨newCIDRRegistry,newTunnelPool,.empty,[],none,.running,now⟩

inductive Event where
  | register (order : List String) (clusterName namespaceName : String) (cidr : Block)
  | deregister (clusterName : String)
  | removeTunnel (clusterName : String)
  | closeServer
  | closeAll
  | connect (order : List String) (ip : Bytes)
  | advance (handler : Ref) (answer : Answer)
  | fire (timer : Ref)
  | enterIdle (timer : Ref)
  | closeIdle
  | portForwardExits (tunnel : Ref)
  | tick (elapsed : Nat)

/-- The first half of `closeIdleTunnel` for a callback that has got the mutex. -/
def State.enterIdle (s : State) (timer : Ref) (clusterName : String) : State :=
  match s.pool.idleTunnel clusterName with
  | (some tunnel,pool) => { s with pool, closing := some (timer,tunnel) }
  | (none,pool) => { s with pool := { pool with timers := pool.timers.modify timer Timer.finish } }

/-- The second half. -/
def State.closeIdle (s : State) (timer tunnel : Ref) (clusterName : String) : State :=
  let pool := s.pool.discard clusterName tunnel
  { s with pool := { pool with timers := pool.timers.modify timer Timer.finish }, closing := none }

def proxySystem (cfg : Config.TalosProxyConfig) : System State Event where
  allowed s
    | .register order _ _ _ => order.Perm s.registry.keys
    | .deregister _ => True
    | .removeTunnel clusterName => clusterName ∈ s.removing ∧ s.closing = none
    | .closeServer => s.shutdown = .running
    | .closeAll => s.shutdown = .serverClosed ∧ s.closing = none
    | .connect order _ => order.Perm s.registry.keys
    | .advance handler answer => ∃ h next, s.handlers.deref handler = some h ∧
        (h.phase.locks = true → s.closing = none) ∧ h.step cfg s.now s.pool answer = some next
    | .fire timer => ∃ t, s.pool.timers.deref timer = some t ∧ t.status = .scheduled ∧
        t.deadline ≤ s.now
    | .enterIdle timer => s.closing = none ∧ ∃ t, s.pool.timers.deref timer = some t ∧
        t.status = .fired
    | .closeIdle => ∃ timer tunnel, s.closing = some (timer,tunnel)
    | .portForwardExits tunnel => ∃ t, s.pool.objects.deref tunnel = some t ∧ t.localPort ≠ 0
    | .tick _ => True
  apply s
    | .register order clusterName namespaceName cidr =>
      { s with registry := (register order s.registry clusterName namespaceName cidr).2 }
    | .deregister clusterName =>
      { s with registry := deregister s.registry clusterName, removing := clusterName :: s.removing }
    | .removeTunnel clusterName =>
      { s with pool := s.pool.removeTunnel clusterName, removing := s.removing.erase clusterName }
    | .closeServer => { s with shutdown := .serverClosed }
    | .closeAll => { s with pool := s.pool.closeAll, shutdown := .finished }
    | .connect order ip =>
      match lookup order s.registry ip with
      | .ok entry => { s with handlers := s.handlers.alloc (.start cfg entry) }
      | .error _ => s
    | .advance handler answer =>
      match s.handlers.deref handler with
      | none => s
      | some h =>
        match h.step cfg s.now s.pool answer with
        | none => s
        | some (pool,h') => { s with pool, handlers := s.handlers.set handler h' }
    | .fire timer => { s with pool := { s.pool with timers := s.pool.timers.modify timer Timer.fire } }
    | .enterIdle timer =>
      match s.pool.timers.deref timer with
      | none => s
      | some t => s.enterIdle timer t.clusterName
    | .closeIdle =>
      match s.closing with
      | none => s
      | some (timer,tunnel) =>
        match s.pool.timers.deref timer with
        | none => s
        | some t => s.closeIdle timer tunnel t.clusterName
    | .portForwardExits tunnel => { s with pool := s.pool.onTunnel tunnel Tunnel.close }
    | .tick elapsed => { s with now := s.now + elapsed }

instance (cfg : Config.TalosProxyConfig) (s : State) (event : Event) :
    Decidable ((proxySystem cfg).allowed s event) :=
  match event with
  | .register order _ _ _ | .connect order _ => inferInstanceAs (Decidable (order.Perm _))
  | .deregister _ | .tick _ => isTrue trivial
  | .removeTunnel _ | .closeAll => inferInstanceAs (Decidable (_ ∧ _))
  | .closeServer => inferInstanceAs (Decidable (_ = _))
  | .advance handler answer =>
    decidable_of_iff ((s.handlers.deref handler).any (fun h => (!h.phase.locks || s.closing = none) &&
        (h.step cfg s.now s.pool answer).isSome) = true) (by
      rw [Option.any_eq_true]
      simp only [proxySystem,Bool.and_eq_true,Bool.or_eq_true,Option.isSome_iff_exists]
      constructor
      · rintro ⟨h,found,free,next,step⟩
        exact ⟨h,next,found,fun locks => by simpa [locks] using free,step⟩
      · rintro ⟨h,next,found,free,step⟩
        refine ⟨h,found,?_,next,step⟩
        cases locks : h.phase.locks <;> simp [free,locks])
  | .fire timer =>
    decidable_of_iff ((s.pool.timers.deref timer).any (fun t => t.status = .scheduled &&
        t.deadline ≤ s.now) = true) (by simp [proxySystem,Option.any_eq_true])
  | .enterIdle timer =>
    decidable_of_iff (s.closing = none ∧ (s.pool.timers.deref timer).any (fun t => t.status = .fired) = true)
      (by simp [proxySystem,Option.any_eq_true])
  | .closeIdle =>
    decidable_of_iff (s.closing ≠ none) (by
      rw [Option.ne_none_iff_exists']
      exact ⟨fun ⟨(timer,tunnel),held⟩ => ⟨timer,tunnel,held⟩,fun ⟨timer,tunnel,held⟩ => ⟨_,held⟩⟩)
  | .portForwardExits tunnel =>
    decidable_of_iff ((s.pool.objects.deref tunnel).any (fun t => t.localPort ≠ 0) = true)
      (by simp [proxySystem,Option.any_eq_true])

/-- The callback goes on to close a tunnel whose count it read as zero, or it returns. -/
theorem State.enterIdle_cases (s : State) (timer : Ref) (clusterName : String) :
    (∃ tunnel, s.pool.tunnels.lookup clusterName = some tunnel ∧ ¬ 0 < s.pool.activeConns tunnel ∧
      s.enterIdle timer clusterName =
        { s with
          pool := { s.pool with idleTimers := s.pool.idleTimers.erase clusterName }
          closing := some (timer,tunnel) }) ∨
    (∀ tunnel, s.pool.tunnels.lookup clusterName = some tunnel → 0 < s.pool.activeConns tunnel) ∧
      s.enterIdle timer clusterName =
        { s with
          pool := { s.pool with
            idleTimers := s.pool.idleTimers.erase clusterName
            timers := s.pool.timers.modify timer Timer.finish } } := by
  obtain ⟨tunnel,found,idle,eq⟩ | ⟨active,eq⟩ := s.pool.idleTunnel_cases clusterName
  · exact .inl ⟨tunnel,found,idle,by simp [State.enterIdle,eq]⟩
  · exact .inr ⟨active,by simp [State.enterIdle,eq]⟩

section Moves

variable (cfg : Config.TalosProxyConfig) (now : Int) (p : TunnelPool) (h : Handler)

/-- Everything a step of a handler can do. -/
inductive Handler.Moves : Answer → TunnelPool → Handler → Prop where
  | reuse (before : h.phase = .acquiring) (found : p.tunnels.lookup h.cluster = some tunnel)
      (opened : p.isClosed tunnel = false) :
      Handler.Moves .proceed (p.cancelIdleTimerLocked h.cluster) (h.goto (.acquired tunnel))
  | wait (before : h.phase = .acquiring) (cleared : p.Cleared h.cluster q)
      (busy : q.establishing.lookup h.cluster = some channel) :
      Handler.Moves .proceed q (h.goto (.waiting channel))
  | create (before : h.phase = .acquiring) (cleared : p.Cleared h.cluster q)
      (free : q.establishing.lookup h.cluster = none) :
      Handler.Moves .proceed (q.beginEstablish h.cluster)
        (h.goto (.establishing q.objects.fresh q.channels.fresh))
  | wake (before : h.phase = .waiting channel) (signalled : p.isSignalled channel = true) :
      Handler.Moves .proceed p (h.goto .acquiring)
  | cancelled (before : h.phase = .waiting channel) :
      Handler.Moves .cancelled p (h.goto (.failed none))
  | returned (outcome : Forwarding) (before : h.phase = .establishing tunnel channel)
      (found : p.objects.deref tunnel = some t) :
      Handler.Moves (.establish outcome) (p.onTunnel tunnel fun t => (t.establish outcome).2)
        (h.goto (.established tunnel channel (t.establish outcome).1))
  | pooled (before : h.phase = .established tunnel channel true) :
      Handler.Moves .proceed (p.doEstablish h.cluster tunnel channel true)
        (h.goto (.acquired tunnel))
  | unestablished (before : h.phase = .established tunnel channel false) :
      Handler.Moves .proceed (p.doEstablish h.cluster tunnel channel false)
        (h.goto (.failed (some tunnel)))
  | refused (before : h.phase = .acquired tunnel) :
      Handler.Moves .proceed p (h.goto (.failed (some tunnel)))
  | dials (before : h.phase = .acquired tunnel) (found : p.objects.deref tunnel = some t)
      (ready : t.dialCheck = none) : Handler.Moves .proceed p (h.goto (.dialing tunnel))
  | connected (before : h.phase = .dialing tunnel) :
      Handler.Moves (.dial true) (p.onTunnel tunnel Tunnel.acquireConn)
        (h.goto (.handshaking tunnel))
  | unconnected (before : h.phase = .dialing tunnel) :
      Handler.Moves (.dial false) p (h.goto (.failed (some tunnel)))
  | pipes (before : h.phase = .handshaking tunnel) :
      Handler.Moves (.handshake true) p (h.goto (.piping tunnel))
  | closes (tunnel : Ref) (handshakeFailed : Bool)
      (before : h.phase = if handshakeFailed then .handshaking tunnel else .piping tunnel) :
      Handler.Moves answer (h.closeConn p tunnel handshakeFailed).1
        (h.closeConn p tunnel handshakeFailed).2
  | idles (before : h.phase = .releasing tunnel handshakeFailed) :
      Handler.Moves .proceed (p.scheduleIdleClose cfg now h.cluster)
        (h.goto (afterClose tunnel handshakeFailed))
  | removes (before : h.phase = .failed via) (entry : h'.entry = h.entry)
      (after : h'.phase = .retrying ∨ h'.phase = .done) :
      Handler.Moves .proceed (p.removeTunnel h.cluster) h'
  | retries (before : h.phase = .retrying) (entry : h'.entry = h.entry)
      (after : h'.phase = .acquiring ∨ h'.phase = .done) : Handler.Moves .proceed p h'

theorem afterClose_cases (tunnel : Ref) (handshakeFailed : Bool) :
    afterClose tunnel handshakeFailed = .failed (some tunnel) ∨ afterClose tunnel handshakeFailed = .done := by
  cases handshakeFailed
  · exact .inr rfl
  · exact .inl rfl

theorem Handler.closeConn_phase (tunnel : Ref) (handshakeFailed : Bool) :
    (h.closeConn p tunnel handshakeFailed).2.phase = .releasing tunnel handshakeFailed ∨
    (h.closeConn p tunnel handshakeFailed).2.phase = .failed (some tunnel) ∨
    (h.closeConn p tunnel handshakeFailed).2.phase = .done := by
  simp only [Handler.closeConn,Handler.goto]
  split
  · exact .inl rfl
  · exact .inr (afterClose_cases tunnel handshakeFailed)

theorem Handler.next_phase (attempt : Int) :
    (h.next cfg attempt).phase = .acquiring ∨ (h.next cfg attempt).phase = .done := by
  unfold Handler.next
  split <;> simp

variable {cfg now p h}

theorem Handler.moves_of_step (step : h.step cfg now p answer = some (p',h')) :
    h.Moves cfg now p answer p' h' := by
  unfold Handler.step at step
  split at step
  next before =>
    obtain ⟨tunnel,found,opened,acquired⟩ | ⟨q,cleared,acquired⟩ :=
      p.getOrCreateTunnel_cases h.cluster
    · simp only [acquired,Option.some.injEq,Prod.mk.injEq] at step
      obtain ⟨rfl,rfl⟩ := step
      exact .reuse before found opened
    · cases busy : q.establishing.lookup h.cluster with
      | some channel =>
        simp only [acquired,TunnelPool.waitOrCreate,busy,Option.some.injEq,Prod.mk.injEq] at step
        obtain ⟨rfl,rfl⟩ := step
        exact .wait before cleared busy
      | none =>
        simp only [acquired,TunnelPool.waitOrCreate,busy,Option.some.injEq,Prod.mk.injEq] at step
        obtain ⟨rfl,rfl⟩ := step
        exact .create before cleared busy
  next channel before =>
    split at step
    next signalled => cases step; exact .wake before signalled
    next => cases step
  next channel before => cases step; exact .cancelled before
  next tunnel channel outcome before =>
    obtain ⟨t,found,same⟩ := Option.map_eq_some_iff.mp step
    cases same
    exact .returned outcome before found
  next tunnel channel ok before =>
    cases ok
    · cases step; exact .unestablished before
    · cases step; exact .pooled before
  next tunnel before =>
    obtain ⟨t,found,same⟩ := Option.map_eq_some_iff.mp step
    cases same
    by_cases ready : t.dialCheck = none
    · rw [if_pos ready]; exact .dials before found ready
    · rw [if_neg ready]; exact .refused before
  next tunnel before => cases step; exact .connected before
  next tunnel before => cases step; exact .unconnected before
  next tunnel before => cases step; exact .pipes before
  next tunnel before => cases step; exact .closes tunnel true before
  next tunnel before => cases step; exact .closes tunnel false before
  next tunnel handshakeFailed before => cases step; exact .idles before
  next via before =>
    simp only [Option.some.injEq,Prod.mk.injEq] at step
    obtain ⟨rfl,rfl⟩ := step
    split
    · next last =>
      refine .removes before rfl (.inr ?_)
      have beyond : ¬ h.attempt + 1 ≤ cfg.maxRetries := by omega
      simp [Handler.next,beyond]
    · exact .removes before rfl (.inl rfl)
  next before => cases step; exact .retries before rfl (h.next_phase cfg _)
  next => cases step

theorem Handler.Moves.entry (moves : h.Moves cfg now p answer p' h') : h'.entry = h.entry := by
  cases moves <;> first | rfl | assumption

theorem Handler.Moves.cluster (moves : h.Moves cfg now p answer p' h') : h'.cluster = h.cluster :=
  congrArg CIDREntry.clusterName moves.entry

end Moves

end Kommodity.TalosProxy
