import Kommodity.ProxySystem

/-! What holds in every state the proxy reaches: pointers lead to tunnels of their own cluster,
the count of a tunnel is the number of its open connections, and the two maps that coordinate
establishment exclude each other. -/
namespace Kommodity.TalosProxy

open Go Transition

/-- The tunnel a handler has a pointer to. -/
def Phase.tunnel : Phase → Option Ref
  | .establishing tunnel _ | .established tunnel _ _ | .acquired tunnel | .dialing tunnel
  | .handshaking tunnel | .piping tunnel | .releasing tunnel _ => some tunnel
  | .failed via => via
  | _ => none

/-- The tunnel through which a handler has a connection that its `Close` has not released. -/
def Phase.conn : Phase → Option Ref
  | .handshaking tunnel | .piping tunnel => some tunnel
  | _ => none

/-- The tunnel a handler is establishing, and the channel others wait on. -/
def Phase.establishment : Phase → Option (Ref × Ref)
  | .establishing tunnel channel | .established tunnel channel _ => some (tunnel,channel)
  | _ => none

/-- The channel a handler waits on. -/
def Phase.awaited : Phase → Option Ref
  | .waiting channel => some channel
  | _ => none

@[simp] theorem afterClose_conn : (afterClose tunnel handshakeFailed).conn = none := by
  rcases afterClose_cases tunnel handshakeFailed with after | after <;> rw [after] <;> rfl

@[simp] theorem afterClose_establishment : (afterClose tunnel handshakeFailed).establishment = none := by
  rcases afterClose_cases tunnel handshakeFailed with after | after <;> rw [after] <;> rfl

@[simp] theorem afterClose_awaited : (afterClose tunnel handshakeFailed).awaited = none := by
  rcases afterClose_cases tunnel handshakeFailed with after | after <;> rw [after] <;> rfl

theorem afterClose_tunnel (points : (afterClose tunnel handshakeFailed).tunnel = some t) : t = tunnel := by
  rcases afterClose_cases tunnel handshakeFailed with after | after <;> rw [after] at points <;> cases points
  rfl

/-- Pointers and counts. -/
structure Tracked (p : TunnelPool) (handlers : Heap Handler) : Prop where
  pooled : ∀ c t, p.tunnels.lookup c = some t → p.clusterOf t = some c
  held : ∀ i h t, handlers.deref i = some h → h.phase.tunnel = some t → p.clusterOf t = some h.cluster
  counted : ∀ t, p.activeConns t = handlers.count fun h => h.phase.conn = some t

section Steps

variable {cfg : Config.TalosProxyConfig} {now : Int} {p p' : TunnelPool} {h h' : Handler}

theorem Handler.Moves.clusterOf (moves : h.Moves cfg now p answer p' h')
    (known : p.clusterOf r = some c) : p'.clusterOf r = some c := by
  cases moves with
  | reuse | removes => simpa using known
  | wait _ cleared => rwa [cleared.shrinks.clusterOf]
  | create _ cleared =>
    rw [← cleared.shrinks.clusterOf] at known
    rw [TunnelPool.beginEstablish_clusterOf,if_neg ?_]
    · exact known
    · rintro rfl
      simp [TunnelPool.clusterOf] at known
  | returned outcome =>
    rwa [p.onTunnel_clusterOf _ _ fun t => t.establish_clusterName outcome]
  | @connected tunnel =>
    exact (p.onTunnel_clusterOf tunnel r fun t => (rfl : t.acquireConn.clusterName = _)).trans known
  | closes tunnel =>
    exact (p.onTunnel_clusterOf tunnel r fun t => (rfl : t.releaseConn.clusterName = _)).trans known
  | idles => simpa [TunnelPool.clusterOf] using known
  | _ => exact known

/-- The only tunnel a step of a handler puts into the pool is the one it has established. -/
theorem Handler.Moves.tunnels (moves : h.Moves cfg now p answer p' h')
    (found : p'.tunnels.lookup c = some t) : p.tunnels.lookup c = some t ∨
      c = h.cluster ∧ (∃ channel, h.phase = .established t channel true) ∧ h'.phase = .acquired t := by
  cases moves with
  | reuse | idles => exact .inl (by simpa using found)
  | wait _ cleared | create _ cleared => exact .inl (cleared.shrinks.tunnels _ _ found)
  | pooled before =>
    simp only [TunnelPool.doEstablish,if_true,Map.lookup_insert_eq] at found
    split at found
    · next same => cases found; exact .inr ⟨same,⟨_,before⟩,rfl⟩
    · exact .inl found
  | unestablished => exact .inl (by simpa [TunnelPool.doEstablish] using found)
  | removes =>
    rw [TunnelPool.removeTunnel_tunnels] at found
    split at found
    · cases found
    · exact .inl found
  | _ => exact .inl found

/-- A step of a handler leads to no pointer that it did not have, but to the pool's tunnel or to a
new one of its own cluster. -/
theorem Handler.Moves.held (moves : h.Moves cfg now p answer p' h')
    (pooled : ∀ c t, p.tunnels.lookup c = some t → p.clusterOf t = some c)
    (held : ∀ t, h.phase.tunnel = some t → p.clusterOf t = some h.cluster)
    (points : h'.phase.tunnel = some t) : p'.clusterOf t = some h.cluster := by
  have kept : ∀ {r}, h.phase.tunnel = some r → p'.clusterOf r = some h.cluster :=
    fun pointed => moves.clusterOf (held _ pointed)
  cases moves with
  | reuse _ found => cases points; simpa using pooled _ _ found
  | create => cases points; simp [TunnelPool.beginEstablish_clusterOf]
  | wait | wake | cancelled => cases points
  | removes _ _ after | retries _ _ after =>
    rcases after with after | after
    · rw [after] at points; cases points
    · rw [after] at points; cases points
  | closes tunnel handshakeFailed before =>
    have same : t = tunnel := by
      rcases h.closeConn_phase p tunnel handshakeFailed with after | after | after <;>
        rw [after] at points <;> cases points <;> rfl
    subst same
    refine kept ?_
    rw [before]
    cases handshakeFailed <;> rfl
  | idles before =>
    have same := afterClose_tunnel points
    subst same
    exact kept (by rw [before]; rfl)
  | returned _ before | pooled before | unestablished before | refused before | dials before
  | connected before | unconnected before | pipes before =>
    cases points
    exact kept (by rw [before]; rfl)

/-- The count of every tunnel moves with the connection of the handler that takes the step. -/
theorem Handler.Moves.balance (moves : h.Moves cfg now p answer p' h')
    (held : ∀ t, h.phase.tunnel = some t → p.clusterOf t = some h.cluster) (r : Ref) :
    p'.activeConns r + (if h.phase.conn = some r then 1 else 0) =
      p.activeConns r + if h'.phase.conn = some r then 1 else 0 := by
  cases moves with
  | reuse before => simp [before,Handler.goto,Phase.conn]
  | wait before cleared => simp [before,Handler.goto,Phase.conn,cleared.shrinks.activeConns]
  | create before cleared => simp [before,Handler.goto,Phase.conn,cleared.shrinks.activeConns]
  | returned outcome before =>
    rw [p.onTunnel_activeConns_of _ _ fun t => t.establish_activeConns outcome]
    simp [before,Handler.goto,Phase.conn]
  | @connected tunnel before =>
    obtain ⟨t,found,_⟩ := Option.map_eq_some_iff.mp (held tunnel (by rw [before]; rfl))
    rw [TunnelPool.onTunnel_activeConns]
    by_cases same : r = tunnel
    · subst same
      simp [before,Handler.goto,Phase.conn,found,Tunnel.acquireConn,TunnelPool.activeConns]
    · simp [before,Handler.goto,Phase.conn,same,Ne.symm same]
  | closes tunnel handshakeFailed before =>
    have points : h.phase.tunnel = some tunnel := by rw [before]; cases handshakeFailed <;> rfl
    have opened : h.phase.conn = some tunnel := by rw [before]; cases handshakeFailed <;> rfl
    have closed : (h.closeConn p tunnel handshakeFailed).2.phase.conn = none := by
      rcases h.closeConn_phase p tunnel handshakeFailed with after | after | after <;> rw [after] <;> rfl
    obtain ⟨t,found,_⟩ := Option.map_eq_some_iff.mp (held tunnel points)
    rw [opened,closed]
    show (p.onTunnel tunnel Tunnel.releaseConn).activeConns r + _ = _
    rw [TunnelPool.onTunnel_activeConns]
    by_cases same : r = tunnel
    · subst same
      simp [found,Tunnel.releaseConn,TunnelPool.activeConns]
    · simp [same,Ne.symm same]
  | idles before =>
    have : h.phase.conn = none := by rw [before]; rfl
    simp [this,Handler.goto,TunnelPool.activeConns]
  | removes before _ after => rcases after with after | after <;> simp [before,after,Phase.conn]
  | retries before _ after => rcases after with after | after <;> simp [before,after,Phase.conn]
  | wake before | cancelled before | refused before | dials before | unconnected before | pipes before =>
    simp [before,Handler.goto,Phase.conn]
  | pooled before | unestablished before =>
    simp [before,Handler.goto,Phase.conn,TunnelPool.doEstablish,TunnelPool.activeConns]

/-- A step without the pool mutex changes no map and no timer. -/
theorem Handler.Moves.unlocked (moves : h.Moves cfg now p answer p' h') (free : h.phase.locks = false) :
    p'.tunnels = p.tunnels ∧ p'.idleTimers = p.idleTimers ∧ p'.timers = p.timers := by
  cases moves with
  | reuse before | wait before | create before | pooled before | unestablished before | idles before
  | removes before => simp [before,Phase.locks] at free
  | _ => exact ⟨rfl,rfl,rfl⟩

end Steps

/-- A callback inside `closeIdleTunnel` has fired and is about to close the tunnel of its cluster. -/
def Closing (s : State) : Prop :=
  ∀ timer tunnel, s.closing = some (timer,tunnel) → ∃ t, s.pool.timers.deref timer = some t ∧
    t.status = .fired ∧ s.pool.tunnels.lookup t.clusterName = some tunnel

/-- What a step of the proxy can do to its handlers and its pool, timers apart. -/
inductive Change (cfg : Config.TalosProxyConfig) (s : State) : Event → State → Prop where
  | moves (found : s.handlers.deref i = some h) (mutex : h.phase.locks = true → s.closing = none)
      (moves : h.Moves cfg s.now s.pool answer pool h') :
      Change cfg s (.advance i answer) { s with pool, handlers := s.handlers.set i h' }
  | starts (routed : lookup order s.registry ip = .ok entry) :
      Change cfg s (.connect order ip)
        { s with handlers := s.handlers.alloc (.start cfg entry) }
  | rest (handlers : s'.handlers = s.handlers) (shrinks : s.pool.Shrinks s'.pool) : Change cfg s event s'

theorem change_of_allowed (closing : Closing s) (allowed : (proxySystem cfg).allowed s event) :
    Change cfg s event ((proxySystem cfg).apply s event) := by
  have unchanged : s.pool.Shrinks s.pool := .of_timers s.pool s.pool.idleTimers s.pool.timers
  cases event with
  | register | deregister | closeServer | tick => exact .rest rfl unchanged
  | removeTunnel clusterName => exact .rest rfl (s.pool.removeTunnel_shrinks clusterName)
  | closeAll => exact .rest rfl s.pool.closeAll_shrinks
  | connect order ip =>
    simp only [proxySystem]
    split
    · next entry routed => exact .starts routed
    · exact .rest rfl unchanged
  | advance i answer =>
    obtain ⟨h,⟨pool,h'⟩,found,mutex,step⟩ := allowed
    simp only [proxySystem,found,step]
    exact .moves found mutex (Handler.moves_of_step step)
  | fire timer => exact .rest rfl (.of_timers ..)
  | enterIdle timer =>
    obtain ⟨_,t,found,_⟩ := allowed
    simp only [proxySystem,found]
    obtain ⟨tunnel,_,_,eq⟩ | ⟨_,eq⟩ := s.enterIdle_cases timer t.clusterName
    · rw [eq]; exact .rest rfl (.of_timers ..)
    · rw [eq]; exact .rest rfl (.of_timers ..)
  | closeIdle =>
    obtain ⟨timer,tunnel,held⟩ := allowed
    obtain ⟨t,found,_,pooled⟩ := closing timer tunnel held
    simp only [proxySystem,held,found,State.closeIdle]
    exact .rest rfl ((s.pool.discard_shrinks _ _ pooled).trans (.of_timers ..))
  | portForwardExits tunnel => exact .rest rfl (s.pool.close_shrinks tunnel)

theorem Closing.step (inv : Closing s) (allowed : (proxySystem cfg).allowed s event) :
    Closing ((proxySystem cfg).apply s event) := by
  cases event with
  | register | deregister | closeServer | tick | portForwardExits => exact inv
  | removeTunnel clusterName =>
    intro timer tunnel held
    cases allowed.2.symm.trans held
  | closeAll =>
    intro timer tunnel held
    cases allowed.2.symm.trans held
  | connect order ip =>
    simp only [proxySystem]
    split <;> exact inv
  | advance i answer =>
    obtain ⟨h,⟨pool,h'⟩,found,mutex,step⟩ := allowed
    simp only [proxySystem,found,step]
    intro timer tunnel held
    have held' : s.closing = some (timer,tunnel) := held
    have free : h.phase.locks = false := by
      by_contra locks
      rw [mutex (by simpa using locks)] at held'
      cases held'
    obtain ⟨tunnels,_,timers⟩ := (Handler.moves_of_step step).unlocked free
    obtain ⟨t,known,fired,pooled⟩ := inv timer tunnel held'
    exact ⟨t,by rw [timers]; exact known,fired,by rw [tunnels]; exact pooled⟩
  | fire other =>
    obtain ⟨o,scheduled,status,_⟩ := allowed
    intro timer tunnel held
    obtain ⟨t,known,fired,pooled⟩ := inv timer tunnel held
    refine ⟨t,?_,fired,pooled⟩
    have different : timer ≠ other := by
      rintro rfl
      cases known.symm.trans scheduled
      rw [fired] at status
      cases status
    simpa [proxySystem,Heap.deref_modify,different] using known
  | enterIdle timer =>
    obtain ⟨free,t,known,fired⟩ := allowed
    simp only [proxySystem,known]
    obtain ⟨tunnel,pooled,_,eq⟩ | ⟨_,eq⟩ := s.enterIdle_cases timer t.clusterName
    · rw [eq]
      intro timer' tunnel' held
      cases held
      exact ⟨t,known,fired,pooled⟩
    · rw [eq]
      intro timer' tunnel' held
      cases free.symm.trans held
  | closeIdle =>
    obtain ⟨timer,tunnel,held⟩ := allowed
    obtain ⟨t,known,_⟩ := inv timer tunnel held
    simp only [proxySystem,held,known]
    intro timer' tunnel' held'
    cases held'

theorem Handler.start_phase (cfg : Config.TalosProxyConfig) (entry : CIDREntry) :
    (Handler.start cfg entry).phase = .acquiring ∨ (Handler.start cfg entry).phase = .done :=
  Handler.next_phase ..

theorem Handler.start_none (cfg : Config.TalosProxyConfig) (entry : CIDREntry) :
    (Handler.start cfg entry).phase.tunnel = none ∧ (Handler.start cfg entry).phase.conn = none ∧
    (Handler.start cfg entry).phase.establishment = none ∧
    (Handler.start cfg entry).phase.awaited = none := by
  rcases Handler.start_phase cfg entry with phase | phase
  · rw [phase]; exact ⟨rfl,rfl,rfl,rfl⟩
  · rw [phase]; exact ⟨rfl,rfl,rfl,rfl⟩

theorem Tracked.shrinks (inv : Tracked p handlers) (shrinks : p.Shrinks p') : Tracked p' handlers where
  pooled c t found := by rw [shrinks.clusterOf]; exact inv.pooled c t (shrinks.tunnels c t found)
  held i h t found points := by rw [shrinks.clusterOf]; exact inv.held i h t found points
  counted t := by rw [shrinks.activeConns]; exact inv.counted t

theorem Tracked.moves (inv : Tracked p handlers) (found : handlers.deref i = some h)
    (moves : h.Moves cfg now p answer p' h') : Tracked p' (handlers.set i h') where
  pooled c t pooled := by
    rcases moves.tunnels pooled with before | ⟨rfl,⟨channel,established⟩,_⟩
    · exact moves.clusterOf (inv.pooled c t before)
    · exact moves.clusterOf (inv.held i h t found (by rw [established]; rfl))
  held j g t at_j points := by
    rw [Heap.deref_set found] at at_j
    split at at_j
    · cases at_j
      rw [moves.cluster]
      exact moves.held inv.pooled (fun t => inv.held i h t found) points
    · exact moves.clusterOf (inv.held j g t at_j points)
  counted t := by
    have balance := moves.balance (fun t => inv.held i h t found) t
    have counted := inv.counted t
    have count := Heap.count_set (fun h => decide (h.phase.conn = some t)) found h'
    simp only [decide_eq_true_eq] at count
    split at balance <;> split at balance <;> simp_all
    all_goals omega

theorem Tracked.step (inv : Tracked s.pool s.handlers) (change : Change cfg s event s') :
    Tracked s'.pool s'.handlers := by
  cases change with
  | moves found _ moves => exact inv.moves found moves
  | @starts order ip entry =>
    obtain ⟨noTunnel,noConn,_⟩ := Handler.start_none cfg entry
    refine ⟨inv.pooled,?_,?_⟩
    · intro i h t found points
      rw [Heap.deref_alloc] at found
      split at found
      · cases found; rw [noTunnel] at points; cases points
      · exact inv.held i h t found points
    · intro t
      rw [inv.counted,Heap.count_alloc,noConn]
      simp
  | rest handlers shrinks => rw [handlers]; exact inv.shrinks shrinks

/-- The map `establishing`: it names the one handler that establishes a tunnel for a cluster, by the
channel that the others wait on, and such a cluster has no tunnel in the pool. -/
structure Coordinated (p : TunnelPool) (handlers : Heap Handler) : Prop where
  own : ∀ i h t ch, handlers.deref i = some h → h.phase.establishment = some (t,ch) →
    p.establishing.lookup h.cluster = some ch
  alone : ∀ i j g h, handlers.deref i = some g → handlers.deref j = some h →
    g.phase.establishment ≠ none → h.phase.establishment ≠ none → g.cluster = h.cluster → i = j
  running : ∀ c ch, p.establishing.lookup c = some ch → ∃ i h t, handlers.deref i = some h ∧
    h.cluster = c ∧ h.phase.establishment = some (t,ch)
  vacant : ∀ c ch, p.establishing.lookup c = some ch → p.tunnels.lookup c = none
  unsignalled : ∀ c ch, p.establishing.lookup c = some ch → p.channels.deref ch = some false
  distinct : ∀ c d ch, p.establishing.lookup c = some ch → p.establishing.lookup d = some ch → c = d
  awaited : ∀ i h ch, handlers.deref i = some h → h.phase.awaited = some ch →
    p.isSignalled ch = true ∨ p.establishing.lookup h.cluster = some ch

section Coordination

variable {cfg : Config.TalosProxyConfig} {now : Int} {p p' : TunnelPool} {h h' : Handler}

/-- A step leaves the establishments as they are, begins one or ends one. -/
theorem Handler.Moves.coordination (moves : h.Moves cfg now p answer p' h') :
    (p'.establishing = p.establishing ∧ p'.channels = p.channels ∧
      (∀ c t, p'.tunnels.lookup c = some t → p.tunnels.lookup c = some t) ∧
      h'.phase.establishment = h.phase.establishment ∧
      ∀ ch, h'.phase.awaited = some ch → p.establishing.lookup h.cluster = some ch) ∨
    (∃ q, p.Cleared h.cluster q ∧ q.establishing.lookup h.cluster = none ∧
      p' = q.beginEstablish h.cluster ∧ h.phase = .acquiring ∧
      h' = h.goto (.establishing q.objects.fresh q.channels.fresh)) ∨
    (∃ t ch ok, h.phase = .established t ch ok ∧ p' = p.doEstablish h.cluster t ch ok ∧
      h'.phase.establishment = none ∧ h'.phase.awaited = none) := by
  have none_awaited : ∀ {phase : Phase}, phase.awaited = none →
      ∀ ch, phase.awaited = some ch → p.establishing.lookup h.cluster = some ch := by
    intro phase absent ch awaited
    rw [absent] at awaited
    cases awaited
  cases moves with
  | create before cleared free => exact .inr (.inl ⟨_,cleared,free,rfl,before,rfl⟩)
  | pooled before | unestablished before => exact .inr (.inr ⟨_,_,_,before,rfl,rfl,rfl⟩)
  | wait before cleared busy =>
    have shrinks := cleared.shrinks
    refine .inl ⟨shrinks.establishing,shrinks.channels,shrinks.tunnels,by rw [before]; rfl,?_⟩
    intro ch awaited
    cases awaited
    rwa [shrinks.establishing] at busy
  | reuse before =>
    exact .inl ⟨by simp,by simp,by simp,by rw [before]; rfl,none_awaited rfl⟩
  | idles before =>
    exact .inl ⟨by simp,by simp,by simp,by rw [before]; exact afterClose_establishment,
      none_awaited afterClose_awaited⟩
  | closes tunnel handshakeFailed before =>
    have establishment : (h.closeConn p tunnel handshakeFailed).2.phase.establishment = none := by
      rcases h.closeConn_phase p tunnel handshakeFailed with after | after | after <;> rw [after] <;> rfl
    have awaited : (h.closeConn p tunnel handshakeFailed).2.phase.awaited = none := by
      rcases h.closeConn_phase p tunnel handshakeFailed with after | after | after <;> rw [after] <;> rfl
    refine .inl ⟨rfl,rfl,fun _ _ found => found,?_,none_awaited awaited⟩
    rw [establishment,before]
    cases handshakeFailed <;> rfl
  | removes before _ after =>
    have shrinks := p.removeTunnel_shrinks h.cluster
    refine .inl ⟨shrinks.establishing,shrinks.channels,shrinks.tunnels,?_,?_⟩
    · rcases after with after | after <;> rw [before,after] <;> rfl
    · rcases after with after | after <;> exact none_awaited (by rw [after]; rfl)
  | retries before _ after =>
    refine .inl ⟨rfl,rfl,fun _ _ found => found,?_,?_⟩
    · rcases after with after | after <;> rw [before,after] <;> rfl
    · rcases after with after | after <;> exact none_awaited (by rw [after]; rfl)
  | wake before | cancelled before | returned _ before | refused before | dials before
  | connected before | unconnected before | pipes before =>
    exact .inl ⟨rfl,rfl,fun _ _ found => found,by rw [before]; rfl,none_awaited rfl⟩

/-- A step takes a tunnel out of the pool only once it is closed, and puts none over another. -/
theorem Handler.Moves.discarded (moves : h.Moves cfg now p answer p' h')
    (vacant : h.phase.establishment ≠ none → p.tunnels.lookup h.cluster = none)
    (known : p.clusterOf t ≠ none) (found : p.tunnels.lookup c = some t) :
    p'.tunnels.lookup c = some t ∨ p'.isClosed t = true := by
  cases moves with
  | reuse => exact (p.cancel_shrinks h.cluster).discarded c t found known
  | wait _ cleared => exact cleared.shrinks.discarded c t found known
  | create _ cleared =>
    exact (cleared.shrinks.discarded c t found known).imp id
      (TunnelPool.beginEstablish_isClosed_of _ h.cluster)
  | pooled before =>
    have other : c ≠ h.cluster := by
      rintro rfl
      rw [vacant (by rw [before]; exact Option.some_ne_none _)] at found
      cases found
    simp only [TunnelPool.doEstablish,if_true,Map.lookup_insert_eq,if_neg other]
    exact .inl found
  | unestablished => exact .inl (by simpa [TunnelPool.doEstablish] using found)
  | idles => exact .inl (by simpa using found)
  | removes => exact (p.removeTunnel_shrinks h.cluster).discarded c t found known
  | _ => exact .inl found

theorem Coordinated.frame (inv : Coordinated p handlers) (establishing : p'.establishing = p.establishing)
    (channels : p'.channels = p.channels)
    (tunnels : ∀ c t, p'.tunnels.lookup c = some t → p.tunnels.lookup c = some t) :
    Coordinated p' handlers where
  own := by rw [establishing]; exact inv.own
  alone := inv.alone
  running := by rw [establishing]; exact inv.running
  vacant c ch busy := by
    rw [establishing] at busy
    cases found : p'.tunnels.lookup c with
    | none => rfl
    | some t => cases (inv.vacant c ch busy).symm.trans (tunnels c t found)
  unsignalled := by rw [establishing,channels]; exact inv.unsignalled
  distinct := by rw [establishing]; exact inv.distinct
  awaited := by
    unfold TunnelPool.isSignalled
    rw [establishing,channels]
    exact inv.awaited

theorem Coordinated.calm (inv : Coordinated p handlers) (found : handlers.deref i = some h)
    (cluster : h'.cluster = h.cluster) (same : h'.phase.establishment = h.phase.establishment)
    (waits : ∀ ch, h'.phase.awaited = some ch → p.establishing.lookup h.cluster = some ch) :
    Coordinated p (handlers.set i h') where
  own j g t ch at_j establishment := by
    rw [Heap.deref_set found] at at_j
    split at at_j
    · cases at_j
      rw [cluster]
      exact inv.own i h t ch found (by rw [← same]; exact establishment)
    · exact inv.own j g t ch at_j establishment
  alone := by
    -- both handlers have counterparts before the step with the same cluster and establishment
    have before : ∀ j g, (handlers.set i h').deref j = some g → ∃ g', handlers.deref j = some g' ∧
        g'.cluster = g.cluster ∧ g'.phase.establishment = g.phase.establishment := by
      intro j g at_j
      rw [Heap.deref_set found] at at_j
      split at at_j
      · next here => cases at_j; exact ⟨h,by rw [here]; exact found,cluster.symm,same.symm⟩
      · exact ⟨g,at_j,rfl,rfl⟩
    intro j k g g' at_j at_k some_g some_g' clusters
    obtain ⟨f,at_f,cluster_f,same_f⟩ := before j g at_j
    obtain ⟨f',at_f',cluster_f',same_f'⟩ := before k g' at_k
    exact inv.alone j k f f' at_f at_f' (by rwa [same_f]) (by rwa [same_f'])
      (by rw [cluster_f,cluster_f',clusters])
  running c ch busy := by
    obtain ⟨j,g,t,at_j,cluster_g,establishment⟩ := inv.running c ch busy
    by_cases here : j = i
    · subst here
      cases found.symm.trans at_j
      refine ⟨j,h',t,?_,cluster.trans cluster_g,same.trans establishment⟩
      rw [Heap.deref_set found,if_pos rfl]
    · exact ⟨j,g,t,by rw [Heap.deref_set found,if_neg here]; exact at_j,cluster_g,establishment⟩
  vacant := inv.vacant
  unsignalled := inv.unsignalled
  distinct := inv.distinct
  awaited j g ch at_j awaits := by
    rw [Heap.deref_set found] at at_j
    split at at_j
    · cases at_j; rw [cluster]; exact .inr (waits ch awaits)
    · exact inv.awaited j g ch at_j awaits

theorem Coordinated.alloc (inv : Coordinated p handlers) (idle : h.phase.establishment = none)
    (awake : h.phase.awaited = none) : Coordinated p (handlers.alloc h) where
  own i g t ch found establishment := by
    rw [Heap.deref_alloc] at found
    split at found
    · cases found; rw [idle] at establishment; cases establishment
    · exact inv.own i g t ch found establishment
  alone i j g g' at_i at_j some_g some_g' clusters := by
    rw [Heap.deref_alloc] at at_i at_j
    split at at_i
    · cases at_i; exact absurd idle some_g
    · split at at_j
      · cases at_j; exact absurd idle some_g'
      · exact inv.alone i j g g' at_i at_j some_g some_g' clusters
  running c ch busy := by
    obtain ⟨i,g,t,found,rest⟩ := inv.running c ch busy
    exact ⟨i,g,t,Heap.deref_alloc_of h found,rest⟩
  vacant := inv.vacant
  unsignalled := inv.unsignalled
  distinct := inv.distinct
  awaited i g ch found awaits := by
    rw [Heap.deref_alloc] at found
    split at found
    · cases found; rw [awake] at awaits; cases awaits
    · exact inv.awaited i g ch found awaits

theorem Coordinated.begin (inv : Coordinated p handlers) (found : handlers.deref i = some h)
    (idle : h.phase = .acquiring) (free : p.establishing.lookup h.cluster = none)
    (vacant : p.tunnels.lookup h.cluster = none) :
    Coordinated (p.beginEstablish h.cluster)
      (handlers.set i (h.goto (.establishing p.objects.fresh p.channels.fresh))) := by
  have inserted : ∀ c, (p.beginEstablish h.cluster).establishing.lookup c =
      if c = h.cluster then some p.channels.fresh else p.establishing.lookup c :=
    fun c => Map.lookup_insert_eq ..
  have others : ∀ {j g}, handlers.deref j = some g → g.phase.establishment ≠ none → g.cluster ≠ h.cluster := by
    intro j g at_j some_g same
    obtain ⟨⟨t,ch⟩,establishment⟩ := Option.ne_none_iff_exists'.mp some_g
    have := inv.own j g t ch at_j establishment
    rw [same,free] at this
    cases this
  have old : ∀ {c ch}, p.establishing.lookup c = some ch → c ≠ h.cluster := by
    rintro c ch busy rfl
    rw [free] at busy
    cases busy
  have known : ∀ {c ch}, p.establishing.lookup c = some ch → ch ≠ p.channels.fresh :=
    fun busy => Heap.ne_fresh (inv.unsignalled _ _ busy)
  refine ⟨?_,?_,?_,?_,?_,?_,?_⟩
  · intro j g t ch at_j establishment
    rw [Heap.deref_set found] at at_j
    split at at_j
    · cases at_j; cases establishment
      exact (inserted _).trans (if_pos rfl)
    · rw [inserted,if_neg (others at_j (by simp [establishment]))]
      exact inv.own j g t ch at_j establishment
  · intro j k g g' at_j at_k some_g some_g' clusters
    rw [Heap.deref_set found] at at_j at_k
    split at at_j
    · next here =>
      split at at_k
      · next here' => exact here.trans here'.symm
      · cases at_j
        exact absurd clusters.symm (others at_k some_g')
    · split at at_k
      · cases at_k
        exact absurd clusters (others at_j some_g)
      · exact inv.alone j k g g' at_j at_k some_g some_g' clusters
  · intro c ch busy
    rw [inserted] at busy
    split at busy
    · next same =>
      cases busy
      refine ⟨i,h.goto (.establishing p.objects.fresh p.channels.fresh),p.objects.fresh,?_,same.symm,rfl⟩
      rw [Heap.deref_set found,if_pos rfl]
    · obtain ⟨j,g,t,at_j,cluster,establishment⟩ := inv.running c ch busy
      have away : j ≠ i := by
        rintro rfl
        cases found.symm.trans at_j
        rw [idle] at establishment
        cases establishment
      exact ⟨j,g,t,by rw [Heap.deref_set found,if_neg away]; exact at_j,cluster,establishment⟩
  · intro c ch busy
    rw [inserted] at busy
    split at busy
    · next same => rw [same]; exact vacant
    · exact inv.vacant c ch busy
  · intro c ch busy
    rw [inserted] at busy
    show (p.channels.alloc false).deref ch = some false
    split at busy
    · cases busy; rw [Heap.deref_alloc,if_pos rfl]
    · exact Heap.deref_alloc_of _ (inv.unsignalled c ch busy)
  · intro c d ch busy busy'
    rw [inserted] at busy busy'
    split at busy
    · cases busy
      split at busy'
      · next same same' => exact same.trans same'.symm
      · exact absurd rfl (known busy')
    · split at busy'
      · cases busy'; exact absurd rfl (known busy)
      · exact inv.distinct c d ch busy busy'
  · intro j g ch at_j awaits
    rw [Heap.deref_set found] at at_j
    split at at_j
    · cases at_j; cases awaits
    · rcases inv.awaited j g ch at_j awaits with signalled | busy
      · have signalled' : p.channels.deref ch = some true := by simpa [TunnelPool.isSignalled] using signalled
        exact .inl (decide_eq_true (Heap.deref_alloc_of _ signalled'))
      · exact .inr (by rw [inserted,if_neg (old busy)]; exact busy)

theorem Coordinated.finish (inv : Coordinated p handlers) (found : handlers.deref i = some h)
    (establishment : h.phase.establishment = some (t,ch)) (ok : Bool)
    (ended : h'.phase.establishment = none) (awake : h'.phase.awaited = none) :
    Coordinated (p.doEstablish h.cluster t ch ok) (handlers.set i h') := by
  have erased : ∀ c, (p.doEstablish h.cluster t ch ok).establishing.lookup c =
      if c = h.cluster then none else p.establishing.lookup c :=
    fun c => Map.lookup_erase_eq ..
  have busy := inv.own i h t ch found establishment
  have signals : ∀ d, (p.doEstablish h.cluster t ch ok).channels.deref d =
      if d = ch then some true else p.channels.deref d :=
    fun d => Heap.deref_set (inv.unsignalled _ _ busy) true d
  have elsewhere : ∀ {c d}, c ≠ h.cluster → p.establishing.lookup c = some d → d ≠ ch := by
    rintro c d other busy' rfl
    exact other (inv.distinct c h.cluster d busy' busy)
  refine ⟨?_,?_,?_,?_,?_,?_,?_⟩
  · intro j g t' ch' at_j establishment'
    rw [Heap.deref_set found] at at_j
    split at at_j
    · cases at_j; rw [ended] at establishment'; cases establishment'
    · next away =>
      have other : g.cluster ≠ h.cluster := fun same => away
        (inv.alone j i g h at_j found (by simp [establishment']) (by simp [establishment]) same)
      rw [erased,if_neg other]
      exact inv.own j g t' ch' at_j establishment'
  · intro j k g g' at_j at_k some_g some_g' clusters
    rw [Heap.deref_set found] at at_j at_k
    split at at_j
    · cases at_j; exact absurd ended some_g
    · split at at_k
      · cases at_k; exact absurd ended some_g'
      · exact inv.alone j k g g' at_j at_k some_g some_g' clusters
  · intro c d busy'
    rw [erased] at busy'
    split at busy'
    · cases busy'
    · next other =>
      obtain ⟨j,g,t',at_j,cluster',establishment'⟩ := inv.running c d busy'
      have away : j ≠ i := by
        rintro rfl
        cases found.symm.trans at_j
        exact other cluster'.symm
      exact ⟨j,g,t',by rw [Heap.deref_set found,if_neg away]; exact at_j,cluster',establishment'⟩
  · intro c d busy'
    rw [erased] at busy'
    split at busy'
    · cases busy'
    · next other =>
      have vacant := inv.vacant c d busy'
      cases ok
      · exact vacant
      · show (p.tunnels.insert h.cluster t).lookup c = none
        rw [Map.lookup_insert_eq,if_neg other]
        exact vacant
  · intro c d busy'
    rw [erased] at busy'
    split at busy'
    · cases busy'
    · next other =>
      rw [signals,if_neg (elsewhere other busy')]
      exact inv.unsignalled c d busy'
  · intro c d e busy₁ busy₂
    rw [erased] at busy₁ busy₂
    split at busy₁
    · cases busy₁
    · split at busy₂
      · cases busy₂
      · exact inv.distinct c d e busy₁ busy₂
  · intro j g d at_j awaits
    rw [Heap.deref_set found] at at_j
    split at at_j
    · cases at_j; rw [awake] at awaits; cases awaits
    · simp only [TunnelPool.isSignalled,signals,erased]
      rcases inv.awaited j g d at_j awaits with signalled | busy'
      · have signalled' : p.channels.deref d = some true := by simpa [TunnelPool.isSignalled] using signalled
        exact .inl (by simp [signalled'])
      · by_cases same : g.cluster = h.cluster
        · have : d = ch := by rw [same,busy] at busy'; exact (Option.some.inj busy').symm
          exact .inl (by simp [this])
        · exact .inr (by rw [if_neg same]; exact busy')

theorem Coordinated.moves (inv : Coordinated p handlers) (found : handlers.deref i = some h)
    (moves : h.Moves cfg now p answer p' h') : Coordinated p' (handlers.set i h') := by
  obtain ⟨establishing,channels,tunnels,same,waits⟩ | ⟨q,cleared,free,rfl,idle,rfl⟩ |
    ⟨t,ch,ok,established,rfl,ended,awake⟩ := moves.coordination
  · exact (inv.calm found moves.cluster same waits).frame establishing channels tunnels
  · have shrinks := cleared.shrinks
    exact (inv.frame shrinks.establishing shrinks.channels shrinks.tunnels).begin found idle free
      cleared.tunnels
  · exact inv.finish found (by rw [established]; rfl) ok ended awake

theorem Coordinated.step (inv : Coordinated s.pool s.handlers) (change : Change cfg s event s') :
    Coordinated s'.pool s'.handlers := by
  cases change with
  | moves found _ moves => exact inv.moves found moves
  | @starts order ip entry =>
    obtain ⟨_,_,noEstablishment,noChannel⟩ := Handler.start_none cfg entry
    exact inv.alloc noEstablishment noChannel
  | rest handlers shrinks =>
    rw [handlers]
    exact inv.frame shrinks.establishing shrinks.channels shrinks.tunnels

end Coordination

/-- The invariant of every run. -/
structure Sound (s : State) : Prop where
  closing : Closing s
  tracked : Tracked s.pool s.handlers
  coordinated : Coordinated s.pool s.handlers

theorem Sound.step (inv : Sound s) (allowed : (proxySystem cfg).allowed s event) :
    Sound ((proxySystem cfg).apply s event) :=
  have change := change_of_allowed inv.closing allowed
  ⟨inv.closing.step allowed,inv.tracked.step change,inv.coordinated.step change⟩

theorem sound_newProxy (now : Int) : Sound (newProxy now) := by
  refine ⟨?_,⟨?_,?_,?_⟩,⟨?_,?_,?_,?_,?_,?_,?_⟩⟩
  · intro timer tunnel held; cases held
  · simp [newProxy,newTunnelPool]
  · simp [newProxy]
  · intro t; rfl
  · simp [newProxy]
  · simp [newProxy]
  · simp [newProxy,newTunnelPool]
  · simp [newProxy,newTunnelPool]
  · simp [newProxy,newTunnelPool]
  · simp [newProxy,newTunnelPool]
  · simp [newProxy]

theorem Sound.vacant (inv : Sound s) (found : s.handlers.deref i = some h)
    (some_h : h.phase.establishment ≠ none) : s.pool.tunnels.lookup h.cluster = none := by
  obtain ⟨⟨t,ch⟩,establishment⟩ := Option.ne_none_iff_exists'.mp some_h
  exact inv.coordinated.vacant _ ch (inv.coordinated.own i h t ch found establishment)

theorem Sound.discarded (inv : Sound s) (change : Change cfg s event s')
    (found : s.pool.tunnels.lookup c = some t) :
    s'.pool.tunnels.lookup c = some t ∨ s'.pool.isClosed t = true := by
  have known : s.pool.clusterOf t ≠ none := by simp [inv.tracked.pooled c t found]
  cases change with
  | moves at_i _ moves => exact moves.discarded (inv.vacant at_i) known found
  | starts => exact .inl found
  | rest _ shrinks => exact shrinks.discarded c t found known

/-- No step puts one tunnel in the place of another. -/
theorem Sound.kept (inv : Sound s) (change : Change cfg s event s')
    (found : s.pool.tunnels.lookup c = some t) (after : s'.pool.tunnels.lookup c = some t') : t' = t := by
  have same : s.pool.tunnels.lookup c = some t' := by
    cases change with
    | @moves i h _ _ _ at_i _ moves =>
      rcases moves.tunnels after with before | ⟨rfl,⟨ch,established⟩,_⟩
      · exact before
      · rw [inv.vacant at_i (by rw [established]; exact Option.some_ne_none _)] at found
        cases found
    | starts => exact after
    | rest _ shrinks => exact shrinks.tunnels c t' after
  exact Option.some.inj (same.symm.trans found)

/-- The step that ends an establishment closes the channel of its waiters. -/
theorem Sound.signals (inv : Sound s) (change : Change cfg s event s')
    (found : s.handlers.deref i = some h) (establishment : h.phase.establishment = some (t,ch))
    (ended : ∀ h', s'.handlers.deref i = some h' → h'.phase.establishment ≠ some (t,ch)) :
    s'.pool.isSignalled ch = true := by
  cases change with
  | @moves j g _ _ g' at_j _ moves =>
    by_cases here : i = j
    · subst here
      cases found.symm.trans at_j
      have after : (s.handlers.set i g').deref i = some g' := by rw [Heap.deref_set found,if_pos rfl]
      obtain ⟨_,_,_,same,_⟩ | ⟨q,_,_,_,idle,_⟩ | ⟨t',ch',ok,established,eq,_⟩ := moves.coordination
      · exact absurd (same.trans establishment) (ended g' after)
      · rw [idle] at establishment; cases establishment
      · rw [established] at establishment
        cases establishment
        have open' := inv.coordinated.unsignalled _ ch
          (inv.coordinated.own i h t ch found (by rw [established]; rfl))
        simp only [eq]
        exact decide_eq_true ((Heap.deref_set open' true ch).trans (if_pos rfl))
    · exact absurd establishment (ended h (by rw [Heap.deref_set at_j,if_neg here]; exact found))
  | starts => exact absurd establishment (ended h (Heap.deref_alloc_of _ found))
  | rest handlers _ => exact absurd establishment (ended h (by rw [handlers]; exact found))

/-- A handler that waits can go on, or the establishment it waits for is still in progress. -/
theorem Sound.waiting (inv : Sound s) (cfg : Config.TalosProxyConfig)
    (found : s.handlers.deref i = some h) (waits : h.phase = .waiting ch) :
    (proxySystem cfg).allowed s (.advance i .proceed) ∨
    ∃ j g t, s.handlers.deref j = some g ∧ g.cluster = h.cluster ∧
      g.phase.establishment = some (t,ch) := by
  rcases inv.coordinated.awaited i h ch found (by rw [waits]; rfl) with signalled | busy
  · refine .inl ⟨h,(s.pool,h.goto .acquiring),found,by simp [waits,Phase.locks],?_⟩
    simp [Handler.step,waits,signalled]
  · exact .inr (inv.coordinated.running h.cluster ch busy)

theorem sound_of_run (run : (proxySystem cfg).Run (newProxy now) events s) : Sound s :=
  run.invariant Sound (fun _ _ inv allowed => inv.step allowed) (sound_newProxy now)

/-- In every state the proxy reaches: a cluster has at most one `Establish` in progress and no
tunnel in the pool meanwhile; a handler that waits can go on or its establishment is in progress.
And in every step from there: the end of an establishment closes the channel of its waiters, no
tunnel in the pool is overwritten, and one that is taken out has been closed. -/
theorem single_establishment (run : (proxySystem cfg).Run (newProxy now) events s) :
    (∀ i j g h t t' ch ch', s.handlers.deref i = some g → s.handlers.deref j = some h →
      g.phase = .establishing t ch → h.phase = .establishing t' ch' → g.cluster = h.cluster → i = j) ∧
    (∀ i h t ch, s.handlers.deref i = some h → h.phase.establishment = some (t,ch) →
      s.pool.tunnels.lookup h.cluster = none) ∧
    (∀ i h ch, s.handlers.deref i = some h → h.phase = .waiting ch →
      (proxySystem cfg).allowed s (.advance i .proceed) ∨
      ∃ j g t, s.handlers.deref j = some g ∧ g.cluster = h.cluster ∧
        g.phase.establishment = some (t,ch)) ∧
    ∀ event s', (proxySystem cfg).allowed s event → s' = (proxySystem cfg).apply s event →
      (∀ i h t ch, s.handlers.deref i = some h → h.phase.establishment = some (t,ch) →
        (∀ h', s'.handlers.deref i = some h' → h'.phase.establishment ≠ some (t,ch)) →
        s'.pool.isSignalled ch = true) ∧
      (∀ c t t', s.pool.tunnels.lookup c = some t → s'.pool.tunnels.lookup c = some t' → t' = t) ∧
      (∀ c t, s.pool.tunnels.lookup c = some t →
        s'.pool.tunnels.lookup c = some t ∨ s'.pool.isClosed t = true) := by
  have inv := sound_of_run run
  refine ⟨?_,?_,?_,?_⟩
  · intro i j g h t t' ch ch' at_i at_j phase_g phase_h clusters
    refine inv.coordinated.alone i j g h at_i at_j ?_ ?_ clusters
    · rw [phase_g]; exact Option.some_ne_none _
    · rw [phase_h]; exact Option.some_ne_none _
  · intro i h t ch found establishment
    exact inv.vacant found (by simp [establishment])
  · intro i h ch found waits
    exact inv.waiting cfg found waits
  · rintro event s' allowed rfl
    have change := change_of_allowed inv.closing allowed
    refine ⟨?_,?_,?_⟩
    · intro i h t ch found establishment ended
      exact inv.signals change found establishment ended
    · intro c t t' found after
      exact inv.kept change found after
    · intro c t found
      exact inv.discarded change found

def sampleConfig : Config.TalosProxyConfig :=
  ⟨true,15050,"talos-cluster-proxy","talos-cluster-proxy",60,5⟩

/-- A registered cluster and two requests for it, of which the second waits for the first. -/
def secondWaits : List Event :=
  [.register [] "west" "default" lowBlock,.connect ["west"] [10,0,0,9],.connect ["west"] [10,0,0,10],
    .advance 0 .proceed,.advance 1 .proceed]

def secondWaitsState : State := secondWaits.foldl (proxySystem sampleConfig).apply (newProxy 0)

theorem single_establishment_secondWaits :
    (secondWaitsState.handlers.deref 0).map (·.phase) = some (.establishing 0 0) ∧
    (secondWaitsState.handlers.deref 1).map (·.phase) = some (.waiting 0) ∧
    ∀ i h t ch, secondWaitsState.handlers.deref i = some h → h.phase.establishment = some (t,ch) →
      secondWaitsState.pool.tunnels.lookup h.cluster = none := by
  have run : (proxySystem sampleConfig).Run (newProxy 0) secondWaits secondWaitsState :=
    System.run_of_admits _ _ _ (by decide +kernel)
  exact ⟨by decide +kernel,by decide +kernel,(single_establishment run).2.1⟩

end Kommodity.TalosProxy
