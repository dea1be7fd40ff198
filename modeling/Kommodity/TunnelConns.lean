import Kommodity.CidrRegistry
import Kommodity.Interaction
import Kommodity.TunnelPool

/-! Connections through the tunnels. `Dial`, `trackedConn.Close` and `dialTunnel` run in any number of
goroutines over the counts of the tunnels; a call here is an atomic operation, the entry into or the exit
from a `sync.Once`, or a call on the network or of the pool. What the pool answers is left open: any tunnel
that exists, or an error. -/
namespace Kommodity.TalosProxy.Conns

open Go Interaction Transition

inductive Cause where
  | tunnel (err : DialError)
  | library (text : String)
  | noError
  deriving DecidableEq

abbrev Error := Err Cause

/-- `acquireConn` names the connection that is counted, and `addConns` and `onIdle` the one whose
`ReleaseConn` runs. -/
inductive Call where
  | getOrCreateTunnel (clusterName namespaceName : String)
  | removeTunnel (clusterName : String)
  | waitBeforeRetry
  | clusterName (tunnel : Ref)
  | dialCheck (tunnel : Ref)
  | dialContext (tunnel : Ref)
  | acquireConn (conn : Ref)
  | establishConnectTunnel (conn : Ref) (targetAddr : String)
  | onceEnter (conn : Ref)
  | addConns (conn : Ref)
  | onIdle (conn : Ref)
  | onceExit (conn : Ref)
  | closeConn (conn : Ref)

/-- `addConns` answers the new count and whether the tunnel has a callback. -/
abbrev Call.Answer : Call → Type
  | .getOrCreateTunnel _ _ => Except Error Ref
  | .clusterName _ => String
  | .dialCheck _ => Option DialError
  | .dialContext _ => Except Error Ref
  | .establishConnectTunnel _ _ => Option Error
  | .onceEnter _ => Bool
  | .addConns _ => Int × Bool
  | .closeConn _ => Option Error
  | _ => Unit

abbrev ConnProgram := Program Call Call.Answer

/-- `Tunnel.Dial`. -/
def dial (tunnel : Ref) : ConnProgram (Except Error Ref) := do
  match ← request (Call.dialCheck tunnel) with
  | some err => return .error (.of (.tunnel err))
  | none =>
    match ← request (Call.dialContext tunnel) with
    | .error err =>
      let clusterName ← request (Call.clusterName tunnel)
      return .error (.wrap ("failed to dial tunnel for cluster " ++ clusterName) err)
    | .ok conn =>
      request (Call.acquireConn conn)
      return .ok conn

/-- `Tunnel.ReleaseConn`. -/
def releaseConn (conn : Ref) : ConnProgram Unit := do
  let (activeConns,onIdle) ← request (Call.addConns conn)
  if activeConns = 0 ∧ onIdle then request (Call.onIdle conn) else return ()

/-- `releaseOnce.Do`, which waits for a first call that is still running. -/
def releaseOnce (conn : Ref) : ConnProgram Unit := do
  match ← request (Call.onceEnter conn) with
  | false => return ()
  | true =>
    releaseConn conn
    request (Call.onceExit conn)

/-- `trackedConn.Close`. -/
def close (conn : Ref) : ConnProgram (Option Error) := do
  releaseOnce conn
  let err ← request (Call.closeConn conn)
  return err.map (.wrap "failed to close tracked connection")

def dialTunnelOnce (entry : CIDREntry) : ConnProgram (Except Error Ref) := do
  match ← request (Call.getOrCreateTunnel entry.clusterName entry.namespaceName) with
  | .error err => return .error (.wrap ("failed to get tunnel for cluster " ++ entry.clusterName) err)
  | .ok tunnel =>
    match ← dial tunnel with
    | .error err =>
      return .error (.wrap ("failed to dial through tunnel for cluster " ++ entry.clusterName) err)
    | .ok conn => return .ok conn

section DialTunnel

variable (maxRetries : Int) (entry : CIDREntry)

/-- The `select` ends after the delay or when the context is done. -/
def waitBeforeRetry (attempt : Int) : ConnProgram Unit :=
  if maxRetries ≤ attempt then return () else request Call.waitBeforeRetry

def handleDialFailure (attempt : Int) : ConnProgram Unit := do
  request (Call.removeTunnel entry.clusterName)
  waitBeforeRetry maxRetries attempt

def handleHandshakeFailure (attempt : Int) (conn : Ref) : ConnProgram Unit := do
  let _ ← close conn
  request (Call.removeTunnel entry.clusterName)
  waitBeforeRetry maxRetries attempt

/-- The loop of `dialTunnel`, with the attempts that are left. -/
def dialTunnelFrom (targetAddr : String) : Nat → Option Error → ConnProgram (Option Ref × Option Error)
  | 0,lastErr => return (none,some (.wrap ("failed to establish tunnel for cluster " ++ entry.clusterName ++
      " after " ++ toString maxRetries ++ " attempts") (lastErr.getD (.of .noError))))
  | left + 1,_ => do
    match ← dialTunnelOnce entry with
    | .error err =>
      handleDialFailure maxRetries entry (maxRetries - left)
      dialTunnelFrom targetAddr left (some err)
    | .ok conn =>
      match ← request (Call.establishConnectTunnel conn targetAddr) with
      | some err =>
        handleHandshakeFailure maxRetries entry (maxRetries - left) conn
        dialTunnelFrom targetAddr left (some err)
      | none => return (some conn,none)

def dialTunnel (targetAddr : String) : ConnProgram (Option Ref × Option Error) :=
  dialTunnelFrom maxRetries entry targetAddr maxRetries.toNat none

end DialTunnel

/-- What a goroutine does. -/
inductive Task where
  | dial (tunnel : Ref)
  | close (conn : Ref)
  | dialTunnel (entry : CIDREntry) (targetAddr : String)

inductive Outcome where
  | dialed (conn : Option Ref) (err : Option Error)
  | closed (err : Option Error)

def Task.program (maxRetries : Int) : Task → ConnProgram Outcome
  | .dial tunnel => do
    match ← Conns.dial tunnel with
    | .error err => return .dialed none (some err)
    | .ok conn => return .dialed (some conn) none
  | .close conn => do
    let err ← Conns.close conn
    return .closed err
  | .dialTunnel entry targetAddr => do
    let (conn,err) ← Conns.dialTunnel maxRetries entry targetAddr
    return .dialed conn err

/-- How far a connection has come. From `releasing` to `released` its `sync.Once` runs; `idling` has
brought the count to zero and `onIdle` is still to be called. -/
inductive Stage where
  | dialed
  | counted
  | releasing
  | idling
  | released
  | closed
  deriving DecidableEq

def Stage.running : Stage → Bool
  | .releasing | .idling | .released => true
  | _ => false

def Stage.afterRelease (count : Int) (onIdle : Bool) : Stage :=
  if count = 0 ∧ onIdle then .idling else .released

/-- `returned` is set when the call that dialed the connection has returned it; until then no other
goroutine has it. -/
structure TrackedConn where
  tunnel : Ref
  stage : Stage
  returned : Bool
  deriving DecidableEq

/-- Counted by `AcquireConn` and not yet by `ReleaseConn`. -/
def TrackedConn.activeOn (t : Ref) (conn : TrackedConn) : Bool :=
  conn.tunnel = t ∧ (conn.stage = .counted ∨ conn.stage = .releasing)

def TrackedConn.idlingOn (t : Ref) (conn : TrackedConn) : Bool := conn.tunnel = t ∧ conn.stage = .idling

/-- The tunnels and their connections. The code does not read the rest: the connections on which a
`Close` has begun and those on which one has returned, how often the count of a tunnel went from one to
zero, and how often its callback was called. -/
structure Shared where
  tunnels : Heap Tunnel
  conns : Heap TrackedConn
  begun : List Ref
  closed : List Ref
  emptied : Ref → Nat
  idled : Ref → Nat

def Shared.start (tunnels : Heap Tunnel) : Shared := ⟨tunnels,.empty,[],[],fun _ => 0,fun _ => 0⟩

def Shared.activeConns (s : Shared) (tunnel : Ref) : Int :=
  ((s.tunnels.deref tunnel).map (·.activeConns)).getD 0

/-- What the surroundings decide about a call: its error if it has one, and a tunnel. -/
structure Choice where
  err : Option Error
  tunnel : Ref

/-- A connection goes on to another stage. -/
def Shared.advance (s : Shared) (c : Ref) (conn : TrackedConn) (stage : Stage) : Shared :=
  { s with conns := s.conns.set c { conn with stage } }

def Shared.onTunnel (s : Shared) (tunnel : Ref) (method : Tunnel → Tunnel) : Shared :=
  { s with tunnels := s.tunnels.modify tunnel method }

section Serve

variable (onIdle : Ref → Bool) (s : Shared)

def serveAcquire (c : Ref) (conn : TrackedConn) : Shared :=
  (s.onTunnel conn.tunnel Tunnel.acquireConn).advance c conn .counted

def serveEnter (c : Ref) (conn : TrackedConn) : Bool × Shared :=
  let s := { s with begun := s.begun ++ [c] }
  if conn.stage = .counted then (true,s.advance c conn .releasing) else (false,s)

def serveRelease (c : Ref) (conn : TrackedConn) : (Int × Bool) × Shared :=
  let s := s.onTunnel conn.tunnel Tunnel.releaseConn
  let count := s.activeConns conn.tunnel
  ((count,onIdle conn.tunnel),
    s.advance c conn (Stage.afterRelease count (onIdle conn.tunnel)))

def serveIdle (c : Ref) (conn : TrackedConn) : Shared :=
  { s.advance c conn .released with
    idled := fun t => s.idled t + if t = conn.tunnel then 1 else 0 }

/-- A method of a connection, called through its pointer. -/
def onConn (c : Ref) (absent : α × Shared) (method : TrackedConn → α × Shared) : α × Shared :=
  match s.conns.deref c with
  | none => absent
  | some conn => method conn

/-- `onIdle` says which tunnels were given a callback. -/
def serve : (c : Call) → Choice → c.Answer × Shared
  | .getOrCreateTunnel _ _,f =>
    match f.err with
    | some err => (.error err,s)
    | none => (.ok f.tunnel,s)
  | .removeTunnel _,f => ((),s.onTunnel f.tunnel Tunnel.close)
  | .waitBeforeRetry,_ => ((),s)
  | .clusterName tunnel,_ => (((s.tunnels.deref tunnel).map (·.clusterName)).getD "",s)
  | .dialCheck tunnel,_ => ((s.tunnels.deref tunnel).bind Tunnel.dialCheck,s)
  | .dialContext tunnel,f =>
    match f.err with
    | some err => (.error err,s)
    | none => (.ok s.conns.fresh,{ s with conns := s.conns.alloc ⟨tunnel,.dialed,false⟩ })
  | .acquireConn c,_ => onConn s c ((),s) fun conn => ((),serveAcquire s c conn)
  | .establishConnectTunnel _ _,f => (f.err,s)
  | .onceEnter c,_ => onConn s c (false,s) (serveEnter s c)
  | .addConns c,_ => onConn s c ((0,false),s) (serveRelease onIdle s c)
  | .onIdle c,_ => onConn s c ((),s) fun conn => ((),serveIdle s c conn)
  | .onceExit c,_ => onConn s c ((),s) fun conn => ((),s.advance c conn .closed)
  | .closeConn c,f => (f.err,{ s with closed := s.closed ++ [c] })

end Serve

/-- The transitions of the counts from one to zero, seen from outside. -/
def Shared.observe (before after : Shared) : Shared :=
  { after with emptied := fun t => before.emptied t +
      if before.activeConns t = 1 ∧ after.activeConns t = 0 then 1 else 0 }

/-- What happens to the tunnels apart from their connections. -/
inductive Disturbance where
  | newTunnel (clusterName : String)
  | establish (tunnel : Ref) (outcome : Forwarding)
  | closeTunnel (tunnel : Ref)

def disturb (s : Shared) : Disturbance → Shared
  | .newTunnel clusterName => { s with tunnels := s.tunnels.alloc (newTunnel clusterName) }
  | .establish tunnel outcome => s.onTunnel tunnel fun t => (t.establish outcome).2
  | .closeTunnel tunnel => s.onTunnel tunnel Tunnel.close

/-- What a goroutine has done: its attempts and its calls on the network, the connection it has in its
hands and how far that one is, the connections it has counted, those it has begun to close and those
whose `Close` has returned. -/
structure Notes where
  attempts : Nat
  dials : Nat
  holding : Option (Ref × Stage)
  dialed : List Ref
  closed : List Ref
  shut : List Ref

def Notes.fresh : Notes := ⟨0,0,none,[],[],[]⟩

def note (h : Notes) : (c : Call) → c.Answer → Notes
  | .getOrCreateTunnel _ _,_ => { h with attempts := h.attempts + 1 }
  | .dialContext _,.error _ => { h with dials := h.dials + 1 }
  | .dialContext _,.ok c => { h with dials := h.dials + 1, holding := some (c,.dialed) }
  | .acquireConn c,_ => { h with holding := none, dialed := h.dialed ++ [c] }
  | .onceEnter c,first =>
    { h with holding := if first then some (c,.releasing) else none, closed := h.closed ++ [c] }
  | .addConns c,(count,onIdle) =>
    { h with holding := some (c,Stage.afterRelease count onIdle) }
  | .onIdle c,_ => { h with holding := some (c,.released) }
  | .onceExit _,_ => { h with holding := none }
  | .closeConn c,_ => { h with shut := h.shut ++ [c] }
  | _,_ => h

/-- A connection can be closed by the goroutine that dials it, and by all once it was returned. -/
def answerable (s : Shared) (h : Notes) : Call → Choice → Prop
  | .getOrCreateTunnel _ _,f => f.err = none → (s.tunnels.deref f.tunnel).isSome = true
  | .dialContext tunnel,_ => (s.tunnels.deref tunnel).isSome = true
  | .onceEnter c,_ => ∃ conn, s.conns.deref c = some conn ∧ (conn.stage = .counted ∨ conn.stage = .closed) ∧
      (conn.returned = true ∨ c ∈ h.dialed)
  | _,_ => True

def finish (s : Shared) : Outcome → Shared
  | .dialed (some c) _ => { s with conns := s.conns.modify c fun conn => { conn with returned := true } }
  | _ => s

/-- Goroutines that dial and close, over the tunnels. -/
def goroutines (task : I → Task) (onIdle : Ref → Bool) (maxRetries : Int) :
    Threads I Shared Call Call.Answer Choice Disturbance Notes Outcome where
  program i := (task i).program maxRetries
  fresh := Notes.fresh
  note := note
  ready _ := True
  begin s := s
  answerable := answerable
  serve s c f := ((serve onIdle s c f).1,s.observe (serve onIdle s c f).2)
  finish s _ a := finish s a
  possible _ _ := True
  disturb s e := s.observe (disturb s e)

section Decidable

variable (task : I → Task) (onIdle : Ref → Bool) (maxRetries : Int)

instance (s : Shared) (h : Notes) : (c : Call) → (f : Choice) → Decidable (answerable s h c f)
  | .getOrCreateTunnel _ _,f => inferInstanceAs (Decidable (f.err = none → _))
  | .dialContext tunnel,_ => inferInstanceAs (Decidable ((s.tunnels.deref tunnel).isSome = true))
  | .onceEnter c,_ =>
    decidable_of_iff ((s.conns.deref c).any fun conn =>
        (conn.stage = .counted ∨ conn.stage = .closed) ∧ (conn.returned = true ∨ c ∈ h.dialed))
      (by simp [answerable,Option.any_eq_true])
  | .removeTunnel _,_ | .waitBeforeRetry,_ | .clusterName _,_ | .dialCheck _,_ | .acquireConn _,_
  | .establishConnectTunnel _ _,_ | .addConns _,_ | .onIdle _,_ | .onceExit _,_ | .closeConn _,_ =>
    inferInstanceAs (Decidable True)

instance (s : Shared) : Decidable ((goroutines task onIdle maxRetries).ready s) :=
  inferInstanceAs (Decidable True)

instance (s : Shared) (h : Notes) (c : Call) (f : Choice) :
    Decidable ((goroutines task onIdle maxRetries).answerable s h c f) :=
  inferInstanceAs (Decidable (answerable s h c f))

instance (s : Shared) (e : Disturbance) : Decidable ((goroutines task onIdle maxRetries).possible s e) :=
  inferInstanceAs (Decidable True)

end Decidable

section Programs

/-- No connection is in hand and every `Close` has returned. -/
def Notes.Settled (h : Notes) : Prop := h.holding = none ∧ h.shut = h.closed

/-- In the `Close` of a connection. -/
def Notes.Closing (h : Notes) (c : Ref) (holding : Option (Ref × Stage)) : Prop :=
  h.holding = holding ∧ h.closed = h.shut ++ [c]

/-- The calls a goroutine can come to. It closes the connection it has dialed last; one that has dialed
nothing closes one of another goroutine, unless it is `dialing`. -/
def Next (dialing : Prop) (h : Notes) : Call → Prop
  | .acquireConn c => h.holding = some (c,.dialed) ∧ h.shut = h.closed
  | .onceEnter c => h.Settled ∧ (h.dialed = h.closed ++ [c] ∨ ¬ dialing ∧ h.dialed = [] ∧ h.closed = [])
  | .addConns c => h.Closing c (some (c,.releasing))
  | .onIdle c => h.Closing c (some (c,.idling))
  | .onceExit c => h.Closing c (some (c,.released))
  | .closeConn c => h.Closing c none
  | _ => h.Settled

/-- The notes of a goroutine that has returned. -/
def Returns (h : Notes) (a : Outcome) : Prop :=
  h.Settled ∧
    match a with
    | .dialed (some c) err => err = none ∧ h.dialed = h.closed ++ [c]
    | .dialed none err => err ≠ none ∧ h.dialed = h.closed
    | .closed _ => h.dialed = []

/-- What `Dial` adds to the notes. -/
structure Dialed (h h' : Notes) (a : Except Error Ref) : Prop where
  settled : h'.Settled
  dials : h'.dials ≤ h.dials + 1
  closed : h'.closed = h.closed
  dialed : h'.dialed = match a with
    | .ok c => h.dialed ++ [c]
    | .error _ => h.dialed

variable {dialing : Prop} {h : Notes}

theorem dial_traced (tunnel : Ref) (settled : h.Settled) :
    (dial tunnel).Traced note (Next dialing) (fun h' a => Dialed h h' a ∧ h'.attempts = h.attempts) h := by
  refine ⟨settled,?_⟩
  rintro (_ | err)
  · refine ⟨settled,?_⟩
    rintro (err | c)
    · exact ⟨settled,fun _ => ⟨⟨settled,Nat.le_refl _,rfl,rfl⟩,rfl⟩⟩
    · exact ⟨⟨rfl,settled.2⟩,fun _ => ⟨⟨⟨rfl,settled.2⟩,Nat.le_refl _,rfl,rfl⟩,rfl⟩⟩
  · exact ⟨⟨settled,Nat.le_succ _,rfl,rfl⟩,rfl⟩

/-- What `Close` adds to the notes. -/
def Closes (h : Notes) (c : Ref) (h' : Notes) : Prop :=
  h' = { h with closed := h.closed ++ [c], shut := h.closed ++ [c] }

theorem close_traced (c : Ref) (permitted : Next dialing h (.onceEnter c)) :
    (close c).Traced note (Next dialing) (fun h' _ => Closes h c h') h := by
  obtain ⟨attempts,dials,holding,dialed,closed,shut⟩ := h
  obtain rfl : holding = none := permitted.1.1
  obtain rfl : shut = closed := permitted.1.2
  refine ⟨permitted,?_⟩
  rintro (_ | _)
  · exact ⟨⟨rfl,rfl⟩,fun _ => rfl⟩
  · refine ⟨⟨rfl,rfl⟩,?_⟩
    rintro ⟨count,onIdle⟩
    dsimp only [Program.bind]
    split
    · next last => exact ⟨⟨by simp [note,Stage.afterRelease,last],rfl⟩,fun _ => ⟨⟨rfl,rfl⟩,fun _ => ⟨⟨rfl,rfl⟩,fun _ => rfl⟩⟩⟩
    · next more => exact ⟨⟨by simp [note,Stage.afterRelease,more],rfl⟩,fun _ => ⟨⟨rfl,rfl⟩,fun _ => rfl⟩⟩

theorem dialTunnelOnce_traced (entry : CIDREntry) (settled : h.Settled) :
    (dialTunnelOnce entry).Traced note (Next dialing)
      (fun h' a => Dialed h h' a ∧ h'.attempts = h.attempts + 1) h := by
  refine ⟨settled,?_⟩
  rintro (err | tunnel)
  · exact ⟨⟨settled,Nat.le_succ _,rfl,rfl⟩,rfl⟩
  · dsimp only [Program.bind]
    refine traced_bind (dial_traced tunnel settled) ?_
    rintro h' (err | c) ⟨dialed,attempts⟩
    · exact ⟨⟨dialed.settled,dialed.dials,dialed.closed,dialed.dialed⟩,attempts⟩
    · exact ⟨⟨dialed.settled,dialed.dials,dialed.closed,dialed.dialed⟩,attempts⟩

theorem waitBeforeRetry_traced (maxRetries attempt : Int) (settled : h.Settled) :
    (waitBeforeRetry maxRetries attempt).Traced note (Next dialing) (fun h' _ => h' = h) h := by
  unfold waitBeforeRetry
  split
  · rfl
  · exact ⟨settled,fun _ => rfl⟩

theorem handleDialFailure_traced (maxRetries attempt : Int) (entry : CIDREntry) (settled : h.Settled) :
    (handleDialFailure maxRetries entry attempt).Traced note (Next dialing) (fun h' _ => h' = h) h :=
  ⟨settled,fun _ => waitBeforeRetry_traced maxRetries attempt settled⟩

theorem handleHandshakeFailure_traced (maxRetries attempt : Int) (entry : CIDREntry) (c : Ref)
    (permitted : Next dialing h (.onceEnter c)) :
    (handleHandshakeFailure maxRetries entry attempt c).Traced note (Next dialing)
      (fun h' _ => Closes h c h') h := by
  refine traced_bind (close_traced c permitted) ?_
  rintro h' _ rfl
  exact handleDialFailure_traced maxRetries attempt entry ⟨permitted.1.1,rfl⟩

/-- What the loop of `dialTunnel` adds to notes that balance, in as many attempts as are left. -/
structure Balanced (h : Notes) (left : Nat) (h' : Notes) (a : Option Ref × Option Error) : Prop where
  returns : Returns h' (.dialed a.1 a.2)
  attempts : h'.attempts ≤ h.attempts + left
  dials : h'.dials ≤ h.dials + left

theorem dialTunnelFrom_traced (maxRetries : Int) (entry : CIDREntry) (targetAddr : String) (left : Nat)
    (lastErr : Option Error) (settled : h.Settled) (balance : h.dialed = h.closed) :
    (dialTunnelFrom maxRetries entry targetAddr left lastErr).Traced note (Next dialing) (Balanced h left) h := by
  induction left generalizing h lastErr with
  | zero => exact ⟨⟨settled,by simp,balance⟩,Nat.le_refl _,Nat.le_refl _⟩
  | succ left ih =>
    -- the rest of the loop, from notes that have used up one attempt
    have again {k h' : Notes} {a : Option Ref × Option Error} (rest : Balanced k left h' a)
        (attempts : k.attempts = h.attempts + 1) (dials : k.dials ≤ h.dials + 1) :
        Balanced h (left + 1) h' a :=
      ⟨rest.returns,by have := rest.attempts; omega,by have := rest.dials; omega⟩
    refine traced_bind (dialTunnelOnce_traced entry settled) ?_
    rintro h₁ (err | c) ⟨dialed,attempts⟩
    · have balance₁ : h₁.dialed = h₁.closed := by rw [dialed.dialed,dialed.closed,balance]
      refine traced_bind (handleDialFailure_traced maxRetries _ entry dialed.settled) ?_
      rintro _ _ rfl
      exact (ih (some err) dialed.settled balance₁).returns fun _ _ rest => again rest attempts dialed.dials
    · have last : h₁.dialed = h₁.closed ++ [c] := by rw [dialed.dialed,dialed.closed,balance]
      refine ⟨dialed.settled,?_⟩
      rintro (_ | err)
      · exact ⟨⟨dialed.settled,rfl,last⟩,by simp only [note]; omega,by have := dialed.dials; simp only [note]; omega⟩
      · dsimp only [Program.bind]
        refine traced_bind (handleHandshakeFailure_traced maxRetries _ entry c ⟨dialed.settled,.inl last⟩) ?_
        rintro h₂ _ rfl
        have settled₂ : Notes.Settled { h₁ with closed := h₁.closed ++ [c], shut := h₁.closed ++ [c] } :=
          ⟨dialed.settled.1,rfl⟩
        exact (ih (some err) settled₂ last).returns fun _ _ rest => again rest attempts dialed.dials

theorem dialTunnel_traced (maxRetries : Int) (entry : CIDREntry) (targetAddr : String) :
    (dialTunnel maxRetries entry targetAddr).Traced note (Next dialing)
      (Balanced Notes.fresh maxRetries.toNat) Notes.fresh :=
  dialTunnelFrom_traced maxRetries entry targetAddr _ none ⟨rfl,rfl⟩ rfl

theorem program_traced (maxRetries : Int) (task : Task) :
    (task.program maxRetries).Traced note (Next False) Returns Notes.fresh := by
  cases task with
  | dial tunnel =>
    refine traced_bind (dial_traced tunnel ⟨rfl,rfl⟩) ?_
    rintro h (err | c) ⟨dialed,_⟩
    · exact ⟨dialed.settled,by simp,by rw [dialed.dialed,dialed.closed]; rfl⟩
    · exact ⟨dialed.settled,rfl,by rw [dialed.dialed,dialed.closed]; rfl⟩
  | close c =>
    refine traced_bind (close_traced c ⟨⟨rfl,rfl⟩,.inr ⟨not_false,rfl,rfl⟩⟩) ?_
    rintro h err rfl
    exact ⟨⟨rfl,rfl⟩,rfl⟩
  | dialTunnel entry targetAddr =>
    refine traced_bind (dialTunnel_traced maxRetries entry targetAddr) ?_
    rintro h ⟨conn,err⟩ balanced
    exact balanced.returns

end Programs

end Kommodity.TalosProxy.Conns
