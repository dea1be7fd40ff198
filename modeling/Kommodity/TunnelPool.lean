import Kommodity.Config
import Kommodity.GoHeap

/-! The pool of port-forward tunnels, one for each workload cluster. A method that holds the pool
mutex from its first to its last statement is one function here; a method that gives it up in
between is one function for each part. Tunnels, timers and channels are objects of their own, so
that code which kept a pointer still reaches one that the pool has replaced. -/
namespace Kommodity.TalosProxy

open Go

/-- `Tunnel`. Closing `stopChan` ends the port-forward; `closed` records that it was done. -/
structure Tunnel where
  clusterName : String
  localPort : Nat
  closed : Bool
  activeConns : Int
  deriving DecidableEq, Repr

def newTunnel (clusterName : String) : Tunnel := ⟨clusterName,0,false,0⟩

/-- `Tunnel.Close` and `markClosedLocked`. -/
def Tunnel.close (t : Tunnel) : Tunnel := { t with closed := true }

/-- What the workload cluster makes of a port-forward: an error, after the forwarder had started
or before, or a local port. -/
inductive Forwarding where
  | failed (started : Bool)
  | ready (localPort : Nat)
  deriving DecidableEq, Repr

/-- `Tunnel.Establish`: whether it returned no error, and the tunnel. -/
def Tunnel.establish (t : Tunnel) (outcome : Forwarding) : Bool × Tunnel :=
  if t.closed then (false,t)
  else
    match outcome with
    | .failed started => (false,if started then t.close else t)
    | .ready localPort => (true,{ t with localPort })

@[simp] theorem Tunnel.establish_clusterName (t : Tunnel) (outcome : Forwarding) :
    (t.establish outcome).2.clusterName = t.clusterName := by
  unfold Tunnel.establish
  repeat' split
  all_goals rfl

@[simp] theorem Tunnel.establish_activeConns (t : Tunnel) (outcome : Forwarding) :
    (t.establish outcome).2.activeConns = t.activeConns := by
  unfold Tunnel.establish
  repeat' split
  all_goals rfl

inductive DialError where
  | tunnelClosed
  | tunnelNotReady
  deriving DecidableEq, Repr

/-- What `Tunnel.Dial` checks under the tunnel's mutex before it dials. -/
def Tunnel.dialCheck (t : Tunnel) : Option DialError :=
  if t.closed then some .tunnelClosed
  else if t.localPort = 0 then some .tunnelNotReady
  else none

def Tunnel.acquireConn (t : Tunnel) : Tunnel := { t with activeConns := t.activeConns + 1 }

/-- The atomic part of `ReleaseConn`; `onIdle` follows when the new count is zero. -/
def Tunnel.releaseConn (t : Tunnel) : Tunnel := { t with activeConns := t.activeConns - 1 }

/-- A timer of `time.AfterFunc`. Once `fired`, its callback runs or waits for the pool mutex. -/
inductive TimerStatus where
  | scheduled
  | stopped
  | fired
  | returned
  deriving DecidableEq, Repr

structure Timer where
  clusterName : String
  deadline : Int
  status : TimerStatus
  deriving DecidableEq, Repr

/-- `Timer.Stop` does nothing to a timer that has fired. -/
def Timer.stop (t : Timer) : Timer :=
  { t with status := if t.status = .scheduled then .stopped else t.status }

def Timer.fire (t : Timer) : Timer := { t with status := .fired }

def Timer.finish (t : Timer) : Timer := { t with status := .returned }

/-- The callback is still to run or to finish. -/
def Timer.Pending (t : Timer) : Prop := t.status = .scheduled ∨ t.status = .fired

instance (t : Timer) : Decidable t.Pending := inferInstanceAs (Decidable (_ ∨ _))

/-- `TunnelPool`, with the objects its code allocates. A channel is the flag that it is closed. -/
structure TunnelPool where
  tunnels : Map String Ref
  idleTimers : Map String Ref
  establishing : Map String Ref
  objects : Heap Tunnel
  timers : Heap Timer
  channels : Heap Bool
  deriving DecidableEq

def newTunnelPool : TunnelPool := ⟨∅,∅,∅,.empty,.empty,.empty⟩

namespace TunnelPool

def isClosed (p : TunnelPool) (tunnel : Ref) : Bool := (p.objects.deref tunnel).any (·.closed)

def activeConns (p : TunnelPool) (tunnel : Ref) : Int :=
  ((p.objects.deref tunnel).map (·.activeConns)).getD 0

def isSignalled (p : TunnelPool) (channel : Ref) : Bool := p.channels.deref channel = some true

def cancelIdleTimerLocked (p : TunnelPool) (clusterName : String) : TunnelPool :=
  match p.idleTimers.lookup clusterName with
  | none => p
  | some timer =>
    { p with timers := p.timers.modify timer Timer.stop, idleTimers := p.idleTimers.erase clusterName }

/-- A method of a tunnel, called through its pointer. -/
def onTunnel (p : TunnelPool) (tunnel : Ref) (method : Tunnel → Tunnel) : TunnelPool :=
  { p with objects := p.objects.modify tunnel method }

/-- `closeTunnelLogged` and the deletion from the map that follows it. -/
def discard (p : TunnelPool) (clusterName : String) (tunnel : Ref) : TunnelPool :=
  { p.onTunnel tunnel Tunnel.close with tunnels := p.tunnels.erase clusterName }

/-- How one round of the loop of `GetOrCreateTunnel` goes on without the mutex. -/
inductive Acquisition where
  | reuse (tunnel : Ref)
  | wait (channel : Ref)
  | create (tunnel channel : Ref)

/-- The create path, up to the `Unlock` of `doEstablish`. -/
def beginEstablish (p : TunnelPool) (clusterName : String) : TunnelPool :=
  { p with
    establishing := p.establishing.insert clusterName p.channels.fresh
    channels := p.channels.alloc false
    objects := p.objects.alloc (newTunnel clusterName) }

/-- The wait path and the create path. -/
def waitOrCreate (p : TunnelPool) (clusterName : String) : Acquisition × TunnelPool :=
  match p.establishing.lookup clusterName with
  | some channel => (.wait channel,p)
  | none => (.create p.objects.fresh p.channels.fresh,p.beginEstablish clusterName)

/-- One round of the loop of `GetOrCreateTunnel`, from `Lock` to `Unlock`. -/
def getOrCreateTunnel (p : TunnelPool) (clusterName : String) : Acquisition × TunnelPool :=
  match p.tunnels.lookup clusterName with
  | none => p.waitOrCreate clusterName
  | some tunnel =>
    if p.isClosed tunnel then
      ((p.cancelIdleTimerLocked clusterName).discard clusterName tunnel).waitOrCreate clusterName
    else (.reuse tunnel,p.cancelIdleTimerLocked clusterName)

/-- What `doEstablish` does after `Establish` has returned. -/
def doEstablish (p : TunnelPool) (clusterName : String) (tunnel channel : Ref) (ok : Bool) :
    TunnelPool :=
  { p with
    establishing := p.establishing.erase clusterName
    channels := p.channels.set channel true
    tunnels := if ok then p.tunnels.insert clusterName tunnel else p.tunnels }

def removeTunnel (p : TunnelPool) (clusterName : String) : TunnelPool :=
  match p.tunnels.lookup clusterName with
  | none => p.cancelIdleTimerLocked clusterName
  | some tunnel => (p.cancelIdleTimerLocked clusterName).discard clusterName tunnel

/-- The two loops commute with themselves, so the order of the maps does not show. -/
def closeAll (p : TunnelPool) : TunnelPool :=
  { p with
    timers := p.timers.modifyAll (p.idleTimers.entries.map (·.2)) Timer.stop
    idleTimers := ∅
    objects := p.objects.modifyAll (p.tunnels.entries.map (·.2)) Tunnel.close
    tunnels := ∅ }

def scheduleIdleClose (p : TunnelPool) (cfg : Config.TalosProxyConfig) (now : Int)
    (clusterName : String) : TunnelPool :=
  let p := p.cancelIdleTimerLocked clusterName
  { p with
    timers := p.timers.alloc ⟨clusterName,now + cfg.idleTimeout,.scheduled⟩
    idleTimers := p.idleTimers.insert clusterName p.timers.fresh }

/-- `closeIdleTunnel` up to the reading of the count: the tunnel it goes on to close. -/
def idleTunnel (p : TunnelPool) (clusterName : String) : Option Ref × TunnelPool :=
  let p := { p with idleTimers := p.idleTimers.erase clusterName }
  match p.tunnels.lookup clusterName with
  | none => (none,p)
  | some tunnel => if 0 < p.activeConns tunnel then (none,p) else (some tunnel,p)

/-- The cluster a tunnel object was created for. -/
def clusterOf (p : TunnelPool) (tunnel : Ref) : Option String :=
  (p.objects.deref tunnel).map (·.clusterName)

section Cancel

variable (p : TunnelPool) (clusterName : String)

@[simp] theorem cancel_tunnels : (p.cancelIdleTimerLocked clusterName).tunnels = p.tunnels := by
  unfold cancelIdleTimerLocked; split <;> rfl

@[simp] theorem cancel_establishing :
    (p.cancelIdleTimerLocked clusterName).establishing = p.establishing := by
  unfold cancelIdleTimerLocked; split <;> rfl

@[simp] theorem cancel_objects : (p.cancelIdleTimerLocked clusterName).objects = p.objects := by
  unfold cancelIdleTimerLocked; split <;> rfl

@[simp] theorem cancel_channels : (p.cancelIdleTimerLocked clusterName).channels = p.channels := by
  unfold cancelIdleTimerLocked; split <;> rfl

theorem cancel_timers (timer : Ref) : (p.cancelIdleTimerLocked clusterName).timers.deref timer =
    if p.idleTimers.lookup clusterName = some timer then (p.timers.deref timer).map Timer.stop
    else p.timers.deref timer := by
  unfold cancelIdleTimerLocked
  split
  · next absent => simp [absent]
  · next current found =>
    rw [Heap.deref_modify,found]
    simp only [Option.some.injEq,eq_comm]

theorem cancel_idleTimers (other : String) :
    (p.cancelIdleTimerLocked clusterName).idleTimers.lookup other =
      if other = clusterName then none else p.idleTimers.lookup other := by
  unfold cancelIdleTimerLocked
  split
  · next absent =>
    split
    · next same => rw [same,absent]
    · rfl
  · exact Map.lookup_erase_eq ..

end Cancel

section Objects

variable (p : TunnelPool) (clusterName other : String) (tunnel channel r : Ref)

@[simp] theorem cancel_clusterOf :
    (p.cancelIdleTimerLocked clusterName).clusterOf r = p.clusterOf r := by
  simp [clusterOf]

@[simp] theorem cancel_activeConns :
    (p.cancelIdleTimerLocked clusterName).activeConns r = p.activeConns r := by
  simp [activeConns]

theorem onTunnel_clusterOf (kept : ∀ t, (method t).clusterName = t.clusterName) :
    (p.onTunnel tunnel method).clusterOf r = p.clusterOf r :=
  Heap.map_deref_modify kept ..

theorem onTunnel_activeConns : (p.onTunnel tunnel method).activeConns r =
    if r = tunnel then ((p.objects.deref r).map fun t => (method t).activeConns).getD 0
    else p.activeConns r := by
  simp only [activeConns,onTunnel,Heap.deref_modify]
  split
  · simp [Function.comp_def]
  · rfl

theorem onTunnel_activeConns_of (kept : ∀ t, (method t).activeConns = t.activeConns) :
    (p.onTunnel tunnel method).activeConns r = p.activeConns r := by
  rw [onTunnel_activeConns]
  simp [kept,activeConns]

@[simp] theorem discard_clusterOf : (p.discard clusterName tunnel).clusterOf r = p.clusterOf r :=
  p.onTunnel_clusterOf tunnel r fun _ => rfl

@[simp] theorem discard_activeConns :
    (p.discard clusterName tunnel).activeConns r = p.activeConns r :=
  p.onTunnel_activeConns_of tunnel r fun _ => rfl

theorem discard_tunnels : (p.discard clusterName tunnel).tunnels.lookup other =
    if other = clusterName then none else p.tunnels.lookup other :=
  Map.lookup_erase_eq ..

theorem removeTunnel_tunnels : (p.removeTunnel clusterName).tunnels.lookup other =
    if other = clusterName then none else p.tunnels.lookup other := by
  unfold removeTunnel
  cases found : p.tunnels.lookup clusterName with
  | none =>
    rw [cancel_tunnels]
    split
    · next same => rw [same,found]
    · rfl
  | some tunnel => rw [discard_tunnels,cancel_tunnels]

@[simp] theorem removeTunnel_clusterOf : (p.removeTunnel clusterName).clusterOf r = p.clusterOf r := by
  unfold removeTunnel; split <;> simp

@[simp] theorem removeTunnel_activeConns :
    (p.removeTunnel clusterName).activeConns r = p.activeConns r := by
  unfold removeTunnel; split <;> simp

@[simp] theorem removeTunnel_establishing :
    (p.removeTunnel clusterName).establishing = p.establishing := by
  unfold removeTunnel; split <;> simp [discard,onTunnel]

@[simp] theorem removeTunnel_channels : (p.removeTunnel clusterName).channels = p.channels := by
  unfold removeTunnel; split <;> simp [discard,onTunnel]

@[simp] theorem schedule_tunnels (cfg : Config.TalosProxyConfig) (now : Int) :
    (p.scheduleIdleClose cfg now clusterName).tunnels = p.tunnels := p.cancel_tunnels clusterName

@[simp] theorem schedule_establishing (cfg : Config.TalosProxyConfig) (now : Int) :
    (p.scheduleIdleClose cfg now clusterName).establishing = p.establishing :=
  p.cancel_establishing clusterName

@[simp] theorem schedule_channels (cfg : Config.TalosProxyConfig) (now : Int) :
    (p.scheduleIdleClose cfg now clusterName).channels = p.channels := p.cancel_channels clusterName

@[simp] theorem schedule_objects (cfg : Config.TalosProxyConfig) (now : Int) :
    (p.scheduleIdleClose cfg now clusterName).objects = p.objects := p.cancel_objects clusterName

@[simp] theorem closeAll_clusterOf : p.closeAll.clusterOf r = p.clusterOf r := by
  exact Heap.map_deref_modifyAll (fun t : Tunnel => (rfl : t.close.clusterName = t.clusterName)) ..

@[simp] theorem closeAll_activeConns : p.closeAll.activeConns r = p.activeConns r := by
  unfold activeConns closeAll
  rw [Heap.map_deref_modifyAll fun t : Tunnel => (rfl : t.close.activeConns = t.activeConns)]

/-- The pool in which a caller of `GetOrCreateTunnel` finds no open tunnel: as it was, or with the
closed one taken out. -/
def Cleared (p : TunnelPool) (clusterName : String) (q : TunnelPool) : Prop :=
  (p.tunnels.lookup clusterName = none ∧ q = p) ∨
  (∃ tunnel, p.tunnels.lookup clusterName = some tunnel ∧ p.isClosed tunnel = true) ∧
    q = p.removeTunnel clusterName

theorem getOrCreateTunnel_cases :
    (∃ tunnel, p.tunnels.lookup clusterName = some tunnel ∧ p.isClosed tunnel = false ∧
      p.getOrCreateTunnel clusterName = (.reuse tunnel,p.cancelIdleTimerLocked clusterName)) ∨
    ∃ q, p.Cleared clusterName q ∧ p.getOrCreateTunnel clusterName = q.waitOrCreate clusterName := by
  cases found : p.tunnels.lookup clusterName with
  | none => exact .inr ⟨p,.inl ⟨found,rfl⟩,by simp [getOrCreateTunnel,found]⟩
  | some tunnel =>
    cases closed : p.isClosed tunnel with
    | false => exact .inl ⟨tunnel,rfl,closed,by simp [getOrCreateTunnel,found,closed]⟩
    | true =>
      refine .inr ⟨p.removeTunnel clusterName,.inr ⟨⟨tunnel,found,closed⟩,rfl⟩,?_⟩
      simp [getOrCreateTunnel,removeTunnel,found,closed]

theorem beginEstablish_clusterOf : (p.beginEstablish clusterName).clusterOf r =
    if r = p.objects.fresh then some clusterName else p.clusterOf r := by
  simp only [clusterOf,beginEstablish,Heap.deref_alloc]
  split <;> rfl

@[simp] theorem beginEstablish_activeConns :
    (p.beginEstablish clusterName).activeConns r = p.activeConns r := by
  simp only [activeConns,beginEstablish,Heap.deref_alloc]
  split
  · next new => subst new; simp [newTunnel]
  · rfl

end Objects

/-- What an operation can do that neither creates a tunnel nor touches a connection: it takes
tunnels out of the pool, each of them closed, and closes tunnels. -/
structure Shrinks (p p' : TunnelPool) : Prop where
  tunnels : ∀ c t, p'.tunnels.lookup c = some t → p.tunnels.lookup c = some t
  clusterOf : ∀ r, p'.clusterOf r = p.clusterOf r
  activeConns : ∀ r, p'.activeConns r = p.activeConns r
  establishing : p'.establishing = p.establishing
  channels : p'.channels = p.channels
  closed : ∀ r, p.isClosed r = true → p'.isClosed r = true
  discarded : ∀ c t, p.tunnels.lookup c = some t → p.clusterOf t ≠ none →
    p'.tunnels.lookup c = some t ∨ p'.isClosed t = true

section Shrinking

variable (p : TunnelPool) (clusterName : String) (tunnel : Ref)

theorem onTunnel_isClosed (method : Tunnel → Tunnel) (r : Ref) : (p.onTunnel tunnel method).isClosed r =
    if r = tunnel then (p.objects.deref r).any fun t => (method t).closed else p.isClosed r := by
  simp only [isClosed,onTunnel,Heap.deref_modify]
  split
  · cases p.objects.deref r <;> rfl
  · rfl

theorem close_isClosed (known : p.clusterOf tunnel ≠ none) :
    (p.onTunnel tunnel Tunnel.close).isClosed tunnel = true := by
  rw [onTunnel_isClosed,if_pos rfl]
  cases found : p.objects.deref tunnel with
  | none => simp [clusterOf,found] at known
  | some t => rfl

theorem beginEstablish_isClosed_of (closed : p.isClosed r = true) :
    (p.beginEstablish clusterName).isClosed r = true := by
  cases object : p.objects.deref r with
  | none => simp [isClosed,object] at closed
  | some t =>
    simp only [isClosed,object] at closed
    simpa [isClosed,beginEstablish,Heap.deref_alloc_of _ object] using closed

theorem onTunnel_isClosed_of {method : Tunnel → Tunnel} (kept : ∀ t, t.closed = true → (method t).closed = true)
    (closed : p.isClosed r = true) : (p.onTunnel tunnel method).isClosed r = true := by
  rw [onTunnel_isClosed]
  split
  · cases found : p.objects.deref r with
    | none => simp [isClosed,found] at closed
    | some t =>
      simp only [isClosed,found,Option.any_some] at closed ⊢
      exact kept t closed
  · exact closed

theorem Shrinks.of_timers (p : TunnelPool) (idleTimers : Map String Ref) (timers : Heap Timer) :
    p.Shrinks { p with idleTimers, timers } where
  tunnels _ _ found := found
  clusterOf _ := rfl
  activeConns _ := rfl
  establishing := rfl
  channels := rfl
  closed _ closed := closed
  discarded _ _ found _ := .inl found

theorem Shrinks.trans {p q r : TunnelPool} (first : p.Shrinks q) (second : q.Shrinks r) : p.Shrinks r where
  tunnels c t found := first.tunnels c t (second.tunnels c t found)
  clusterOf t := (second.clusterOf t).trans (first.clusterOf t)
  activeConns t := (second.activeConns t).trans (first.activeConns t)
  establishing := second.establishing.trans first.establishing
  channels := second.channels.trans first.channels
  closed t closed := second.closed t (first.closed t closed)
  discarded c t found known := by
    rcases first.discarded c t found known with kept | closed
    · exact second.discarded c t kept (by rwa [first.clusterOf])
    · exact .inr (second.closed t closed)

theorem cancel_shrinks : p.Shrinks (p.cancelIdleTimerLocked clusterName) := by
  unfold cancelIdleTimerLocked
  split
  · exact .of_timers p p.idleTimers p.timers
  · exact .of_timers p _ _

theorem close_shrinks : p.Shrinks (p.onTunnel tunnel Tunnel.close) where
  tunnels _ _ found := found
  clusterOf r := p.onTunnel_clusterOf tunnel r fun _ => rfl
  activeConns r := p.onTunnel_activeConns_of tunnel r fun _ => rfl
  establishing := rfl
  channels := rfl
  closed _ closed := p.onTunnel_isClosed_of tunnel (fun _ _ => rfl) closed
  discarded _ _ found _ := .inl found

theorem discard_shrinks (found : p.tunnels.lookup clusterName = some tunnel) :
    p.Shrinks (p.discard clusterName tunnel) where
  tunnels c t kept := by
    rw [discard_tunnels] at kept
    split at kept
    · cases kept
    · exact kept
  clusterOf := p.discard_clusterOf clusterName tunnel
  activeConns := p.discard_activeConns clusterName tunnel
  establishing := rfl
  channels := rfl
  closed _ closed := p.onTunnel_isClosed_of tunnel (fun _ _ => rfl) closed
  discarded c t found' known := by
    rw [discard_tunnels]
    by_cases same : c = clusterName
    · subst same
      cases found.symm.trans found'
      exact .inr (p.close_isClosed tunnel known)
    · exact .inl (by rwa [if_neg same])

theorem removeTunnel_shrinks : p.Shrinks (p.removeTunnel clusterName) := by
  unfold removeTunnel
  split
  · exact p.cancel_shrinks clusterName
  · next tunnel found =>
    exact (p.cancel_shrinks clusterName).trans (discard_shrinks _ _ _ (by simpa using found))

theorem closeAll_isClosed (r : Ref) : p.closeAll.isClosed r =
    if r ∈ p.tunnels.entries.map (·.2) then (p.objects.deref r).isSome else p.isClosed r := by
  simp only [isClosed,closeAll]
  rw [Heap.deref_modifyAll fun t => (rfl : t.close.close = t.close)]
  split
  · cases p.objects.deref r <;> rfl
  · rfl

theorem closeAll_shrinks : p.Shrinks p.closeAll where
  tunnels _ _ found := by simp [closeAll] at found
  clusterOf := p.closeAll_clusterOf
  activeConns := p.closeAll_activeConns
  establishing := rfl
  channels := rfl
  closed r closed := by
    rw [closeAll_isClosed]
    split
    · cases found : p.objects.deref r with
      | none => simp [isClosed,found] at closed
      | some t => rfl
    · exact closed
  discarded c t found known := by
    have listed : t ∈ p.tunnels.entries.map (·.2) :=
      List.mem_map.mpr ⟨⟨c,t⟩,AList.mem_lookup_iff.mp found,rfl⟩
    refine .inr ?_
    rw [closeAll_isClosed,if_pos listed]
    cases found : p.objects.deref t with
    | none => simp [clusterOf,found] at known
    | some t => rfl

theorem idleTunnel_cases :
    (∃ tunnel, p.tunnels.lookup clusterName = some tunnel ∧ ¬ 0 < p.activeConns tunnel ∧
      p.idleTunnel clusterName =
        (some tunnel,{ p with idleTimers := p.idleTimers.erase clusterName })) ∨
    (∀ tunnel, p.tunnels.lookup clusterName = some tunnel → 0 < p.activeConns tunnel) ∧
      p.idleTunnel clusterName = (none,{ p with idleTimers := p.idleTimers.erase clusterName }) := by
  cases found : p.tunnels.lookup clusterName with
  | none => exact .inr ⟨by simp,by simp [idleTunnel,found]⟩
  | some tunnel =>
    by_cases active : 0 < p.activeConns tunnel
    · refine .inr ⟨fun _ same => by cases same; exact active,?_⟩
      have active' : 0 < TunnelPool.activeConns
          { p with idleTimers := p.idleTimers.erase clusterName } tunnel := active
      simp [idleTunnel,found,active']
    · refine .inl ⟨tunnel,rfl,active,?_⟩
      have active' : ¬ 0 < TunnelPool.activeConns
          { p with idleTimers := p.idleTimers.erase clusterName } tunnel := active
      simp [idleTunnel,found,active']

end Shrinking

section Clearing

variable {p q : TunnelPool} {clusterName : String}

theorem Cleared.tunnels (cleared : p.Cleared clusterName q) :
    q.tunnels.lookup clusterName = none := by
  obtain ⟨absent,rfl⟩ | ⟨_,rfl⟩ := cleared
  · exact absent
  · simp [removeTunnel_tunnels]

theorem Cleared.shrinks (cleared : p.Cleared clusterName q) : p.Shrinks q := by
  obtain ⟨_,rfl⟩ | ⟨_,rfl⟩ := cleared
  · exact .of_timers q q.idleTimers q.timers
  · exact p.removeTunnel_shrinks clusterName

end Clearing

end TunnelPool

end Kommodity.TalosProxy
