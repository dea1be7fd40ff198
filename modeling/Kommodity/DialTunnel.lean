import Kommodity.ProxySystem
import Kommodity.TunnelCounts

/-! `dialTunnel` conserves connections. Its notes are an account of the connections it has counted and
closed; every step moves the sum of all counts as it moves the account, and the account is even when it
returns an error. Run alone, `Dial` and `Close` do to the tunnels what the steps of a handler of the proxy
do. -/
namespace Kommodity.TalosProxy.Conns

open Go Interaction Transition

/-- The number of active connections of all tunnels. -/
def Shared.total (s : Shared) : Int := s.tunnels.total (·.activeConns)

/-- The connections of the notes that are still counted. -/
def Notes.credit (h : Notes) : Int :=
  h.dialed.length - h.closed.length + if h.holding.any fun held => held.2 = .releasing then 1 else 0

section Account

variable {onIdle : Ref → Bool} {s : Shared} {h : Notes}

theorem total_onTunnel (s : Shared) (known : (s.tunnels.deref r).isSome = true) (method : Tunnel → Tunnel)
    (k : Int) (shift : ∀ t, (method t).activeConns = t.activeConns + k) :
    (s.onTunnel r method).total = s.total + k := by
  obtain ⟨tunnel,found⟩ := Option.isSome_iff_exists.mp known
  exact Heap.total_modify k shift found

theorem serve_first (held : Held s h) (permitted : Next True h (.onceEnter c)) :
    ∃ conn, s.conns.deref c = some conn ∧ conn.stage = .counted := by
  obtain ⟨_,order | ⟨other,_⟩⟩ := permitted
  · have once := held.dialedOnce
    rw [order,List.nodup_append] at once
    have open' : c ∉ h.closed := fun listed => once.2.2 c listed c (by simp) rfl
    exact Option.map_eq_some_iff.mp ((held.own c (by simp [order])).2 open')
  · exact absurd trivial other

/-- Every step moves the counts as it moves the account. -/
theorem total_answer (exact : Exact onIdle s) (held : Held s h) (permitted : Next True h call) :
    (s.observe (serve onIdle s call f).2).total - s.total =
      (note h call (serve onIdle s call f).1).credit - h.credit := by
  show (serve onIdle s call f).2.total - s.total = _
  cases call with
  | getOrCreateTunnel clusterName namespaceName =>
    rw [serve_getOrCreateTunnel,Int.sub_self]
    exact (Int.sub_self _).symm
  | removeTunnel clusterName =>
    have quiet : (s.onTunnel f.tunnel Tunnel.close).total = s.total := by
      apply Heap.total_modify_of
      exact fun _ => rfl
    simp only [serve,quiet,note,Int.sub_self]
  | waitBeforeRetry => simp only [serve,note,Int.sub_self]
  | clusterName tunnel => simp only [serve,note,Int.sub_self]
  | dialCheck tunnel => simp only [serve,note,Int.sub_self]
  | establishConnectTunnel c targetAddr => simp only [serve,note,Int.sub_self]
  | dialContext tunnel =>
    have none := permitted.1
    simp only [serve]
    cases f.err with
    | some err => simp [note,Notes.credit,none]
    | none => simp [note,Notes.credit,none,Shared.total]
  | acquireConn c =>
    obtain ⟨mine,_⟩ := permitted
    obtain ⟨conn,found,_⟩ := held.deref mine
    have up := total_onTunnel s (exact.known c conn found) Tunnel.acquireConn 1 fun _ => rfl
    simp only [serve,onConn,found]
    show (s.onTunnel conn.tunnel Tunnel.acquireConn).total - s.total = _
    simp [up,note,Notes.credit,mine]
  | onceEnter c =>
    obtain ⟨conn,found,counted⟩ := serve_first held permitted
    have none := permitted.1.1
    simp only [serve,onConn,found,serveEnter,counted,if_true]
    show s.total - s.total = _
    simp [note,Notes.credit,none]
    omega
  | addConns c =>
    obtain ⟨mine,_⟩ := permitted
    obtain ⟨conn,found,_⟩ := held.deref mine
    have down := total_onTunnel s (exact.known c conn found) Tunnel.releaseConn (-1) fun _ => rfl
    have later (count : Int) (set : Bool) : Stage.afterRelease count set ≠ .releasing := by
      unfold Stage.afterRelease
      split <;> simp
    simp only [serve,onConn,found]
    show (s.onTunnel conn.tunnel Tunnel.releaseConn).total - s.total = _
    simp [down,note,Notes.credit,mine,later,serveRelease]
  | onIdle c =>
    obtain ⟨mine,_⟩ := permitted
    obtain ⟨conn,found,_⟩ := held.deref mine
    simp only [serve,onConn,found]
    show s.total - s.total = _
    simp [note,Notes.credit,mine]
  | onceExit c =>
    obtain ⟨mine,_⟩ := permitted
    obtain ⟨conn,found,_⟩ := held.deref mine
    simp only [serve,onConn,found]
    show s.total - s.total = _
    simp [note,Notes.credit,mine]
  | closeConn c =>
    show s.total - s.total = _
    simp [note,Notes.credit,permitted.1]

theorem total_finish (s : Shared) (a : Outcome) : (finish s a).total = s.total := by
  unfold finish
  split <;> rfl

end Account

section Calls

variable {I : Type} {task : I → Task} {onIdle : Ref → Bool} {maxRetries : Int}
  {tunnels : Heap Tunnel} {i : I} {s : Interaction.State I Shared Call Call.Answer Notes Outcome}

/-- The notes of `dialTunnel` when it returns. -/
def Accounted (maxRetries : Int) (h : Notes) : Outcome → Prop
  | .dialed conn err => Balanced Notes.fresh maxRetries.toNat h (conn,err)
  | .closed _ => False

theorem dialTunnel_program_traced (maxRetries : Int) (dials : task i = .dialTunnel entry targetAddr) :
    ((task i).program maxRetries).Traced note (Next True) (Accounted maxRetries) Notes.fresh := by
  rw [dials]
  refine traced_bind (dialTunnel_traced maxRetries entry targetAddr) ?_
  rintro h ⟨conn,err⟩ balanced
  exact balanced

variable [DecidableEq I]

theorem dialing_pending (unused : ∀ t, (Shared.start tunnels).activeConns t = 0)
    (dials : task i = .dialTunnel entry targetAddr)
    (run : (goroutines task onIdle maxRetries).system.Run (idle (.start tunnels)) actions s)
    (running : s.thread i = some (h,.call c next)) :
    (Exact onIdle s.shared ∧ Held s.shared h) ∧
      (Program.call c next).Traced note (Next True) (Accounted maxRetries) h := by
  have good := (run_good unused run).1.1
  have reached := Threads.reaches_of_run run i running
  exact ⟨⟨good.1,(good.2 i h _ running).1⟩,reached.traced (dialTunnel_program_traced maxRetries dials)⟩

def Reached (task : I → Task) (onIdle : Ref → Bool) (maxRetries : Int) (tunnels : Heap Tunnel)
    (s : Interaction.State I Shared Call Call.Answer Notes Outcome) : Prop :=
  ∃ actions, (goroutines task onIdle maxRetries).system.Run (idle (.start tunnels)) actions s

theorem reached_step (s : Interaction.State I Shared Call Call.Answer Notes Outcome)
    (a : Interaction.Action I Choice Disturbance)
    (reached : Reached task onIdle maxRetries tunnels s)
    (allowed : (goroutines task onIdle maxRetries).system.allowed s a) :
    Reached task onIdle maxRetries tunnels ((goroutines task onIdle maxRetries).system.apply s a) := by
  obtain ⟨actions,run⟩ := reached
  exact ⟨_,run.append (.single allowed)⟩

theorem total_reached (unused : ∀ t, (Shared.start tunnels).activeConns t = 0)
    (dials : task i = .dialTunnel entry targetAddr) (reached : Reached task onIdle maxRetries tunnels s)
    (running : s.thread i = some (h,.call c next)) (_ : answerable s.shared h c f) :
    (s.shared.observe (serve onIdle s.shared c f).2).total - s.shared.total =
      (note h c (serve onIdle s.shared c f).1).credit - h.credit := by
  obtain ⟨actions,run⟩ := reached
  obtain ⟨⟨exact,held⟩,traced⟩ := dialing_pending unused dials run running
  exact total_answer exact held traced.1

/-- A call has no part in the counts when it begins, and then the part its account says. -/
theorem contribution_credit (unused : ∀ t, (Shared.start tunnels).activeConns t = 0)
    (dials : task i = .dialTunnel entry targetAddr)
    (before : (goroutines task onIdle maxRetries).system.Run (idle (.start tunnels)) earlier s₀)
    (call : (goroutines task onIdle maxRetries).system.Run s₀ (.begin i :: actions) s)
    (once : .begin i ∉ actions) (running : s.thread i = some (h,.call c next)) :
    (goroutines task onIdle maxRetries).contribution Shared.total i s₀ (.begin i :: actions) = h.credit := by
  cases call with
  | cons ok rest =>
    have begun := before.append (.single ok)
    have same : ((goroutines task onIdle maxRetries).system.apply s₀ (.begin i)).shared.total =
        s₀.shared.total := by
      simp only [Threads.system]
      cases (goroutines task onIdle maxRetries).program i with
      | pure a => exact total_finish s₀.shared a
      | call d more => rfl
    cases start : ((goroutines task onIdle maxRetries).system.apply s₀ (.begin i)).thread i with
    | none =>
      rw [thread_none_of_run rest once start] at running
      cases running
    | some now =>
      obtain ⟨h₁,p⟩ := now
      have fresh : h₁ = Notes.fresh := by
        simp only [Threads.system] at start
        cases program : (goroutines task onIdle maxRetries).program i with
        | pure a => simp [program,Threads.settle] at start
        | call d more =>
          simp only [program,Threads.settle,Function.update_self,Option.some.injEq,Prod.mk.injEq] at start
          exact start.1.symm
      have later := Threads.contribution_eq (P := Reached task onIdle maxRetries tunnels) reached_step
        (fun s h c next f reached => total_reached unused dials reached) rest ⟨_,begun⟩ once start running
      rw [Threads.contribution,later,same,fresh]
      simp [Notes.credit,Notes.fresh]

/-- `dialTunnel` conserves connections. From the state in which a call begins to the answer with which
it returns, and whatever other goroutines do meanwhile, it makes at most `maxRetries` attempts and as many
calls on the network. It closes each connection it has counted once, except the one it returns, and it
returns one if and only if it returns no error. Its own steps change the number of all active connections
by one on success and by zero on error. -/
theorem dialTunnel_conserves (task : I → Task) (onIdle : Ref → Bool) (maxRetries : Int) (tunnels : Heap Tunnel)
    (unused : ∀ t, (Shared.start tunnels).activeConns t = 0) (dials : task i = .dialTunnel entry targetAddr)
    (before : (goroutines task onIdle maxRetries).system.Run (idle (.start tunnels)) earlier s₀)
    (call : (goroutines task onIdle maxRetries).system.Run s₀ (.begin i :: actions) s)
    (once : .begin i ∉ actions) (running : s.thread i = some (h,.call c next))
    (able : answerable s.shared h c f)
    (returns : next (serve onIdle s.shared c f).1 = .pure (.dialed conn err)) :
    (note h c (serve onIdle s.shared c f).1).attempts ≤ maxRetries.toNat ∧
    (note h c (serve onIdle s.shared c f).1).dials ≤ maxRetries.toNat ∧
    (note h c (serve onIdle s.shared c f).1).dialed.Nodup ∧
    (note h c (serve onIdle s.shared c f).1).dialed =
      (note h c (serve onIdle s.shared c f).1).closed ++ conn.toList ∧
    (note h c (serve onIdle s.shared c f).1).shut = (note h c (serve onIdle s.shared c f).1).closed ∧
    (conn ≠ none ↔ err = none) ∧
    (goroutines task onIdle maxRetries).contribution Shared.total i s₀
        (.begin i :: actions ++ [.answer i f]) = if err = none then 1 else 0 := by
  obtain ⟨⟨exact,held⟩,traced⟩ := dialing_pending unused dials (before.append call) running
  have good := (run_good unused (before.append call)).1.1
  have kept := kept_answer exact held (good.pending running).2 able
  have balanced : Balanced Notes.fresh maxRetries.toNat (note h c (serve onIdle s.shared c f).1) (conn,err) := by
    have last := traced.2 (serve onIdle s.shared c f).1
    rw [returns] at last
    exact last
  have part := contribution_credit unused dials before call once running
  have change := total_answer (f := f) exact held traced.1
  -- the answer with which the call returns
  have final : ((goroutines task onIdle maxRetries).system.apply s (.answer i f)).shared.total =
      (s.shared.observe (serve onIdle s.shared c f).2).total := by
    simp only [Threads.system,running]
    have done : next ((goroutines task onIdle maxRetries).serve s.shared c f).1 = .pure (.dialed conn err) := returns
    rw [done]
    exact total_finish _ _
  have whole : (goroutines task onIdle maxRetries).contribution Shared.total i s₀
      (.begin i :: actions ++ [.answer i f]) = (note h c (serve onIdle s.shared c f).1).credit := by
    rw [contribution_append,call.foldl_eq,part]
    simp only [Threads.contribution,Action.isOf,decide_true,if_true,final]
    omega
  rw [whole]
  have settled := balanced.returns.1
  obtain ⟨returned,attempts,dials⟩ := balanced
  have bounds : Notes.fresh.attempts = 0 ∧ Notes.fresh.dials = 0 := ⟨rfl,rfl⟩
  refine ⟨by omega,by omega,kept.held.dialedOnce,?_⟩
  cases conn with
  | none =>
    obtain ⟨_,failed,even⟩ := returned
    simp only at failed even
    refine ⟨by simp [even],settled.2,by simp [failed],?_⟩
    simp [Notes.credit,settled.1,even,failed]
  | some conn =>
    obtain ⟨_,failed,even⟩ := returned
    simp only at failed even
    refine ⟨by simp [even],settled.2,by simp [failed],?_⟩
    simp [Notes.credit,settled.1,even,failed]

end Calls

section Handlers

variable {cfg : Config.TalosProxyConfig} {now : Int} {p : TunnelPool} {h : Handler} {onIdle : Ref → Bool}
  {s : Shared}

/-- Where a handler comes to from `acquired` with the result of `Dial`. -/
inductive DialSteps (cfg : Config.TalosProxyConfig) (now : Int) (p : TunnelPool) (h : Handler) (tunnel : Ref) :
    Except Error Ref → TunnelPool → Prop where
  | refused (step : h.step cfg now p .proceed = some (p,h.goto (.failed (some tunnel)))) :
      DialSteps cfg now p h tunnel (.error err) p
  | answered (step : h.step cfg now p .proceed = some (p,h.goto (.dialing tunnel)))
      (dialed : (h.goto (.dialing tunnel)).step cfg now p (.dial result.isOk) = some (p',h')) :
      DialSteps cfg now p h tunnel result p'

/-- Alone, `Dial` goes through the steps of a handler and leaves the tunnels as these do. -/
theorem dial_as_handler (acquired : h.phase = .acquired tunnel) (found : p.objects.deref tunnel = some held)
    (same : s.tunnels = p.objects) :
    (dial tunnel).Ensures (serve onIdle) (fun _ _ _ => True)
      (fun result t => ∃ p', DialSteps cfg now p h tunnel result p' ∧ t.tunnels = p'.objects) s := by
  have step : h.step cfg now p .proceed =
      some (p,h.goto (if held.dialCheck = none then .dialing tunnel else .failed (some tunnel))) := by
    simp [Handler.step,acquired,found]
  intro f _
  have checked : serve onIdle s (.dialCheck tunnel) f = (held.dialCheck,s) := by simp [serve,same,found]
  rw [checked]
  cases ready : held.dialCheck with
  | some err =>
    rw [ready] at step
    exact ⟨p,.refused step,same⟩
  | none =>
    rw [ready] at step
    rintro ⟨_ | err,_⟩ _
    · intro _ _
      refine ⟨_,.answered step rfl,?_⟩
      simp [serve,onConn,Heap.deref_alloc,serveAcquire,Shared.advance,Shared.onTunnel,TunnelPool.onTunnel,same]
    · exact fun _ _ => ⟨p,.answered step rfl,same⟩

/-- The tunnels are as after `closeConn`, and `onIdle` was called if that goes on to `releasing`. -/
def ReleasedAs (p : TunnelPool) (h : Handler) (tunnel : Ref) (handshakeFailed : Bool) (s t : Shared) : Prop :=
  t.tunnels = (h.closeConn p tunnel handshakeFailed).1.objects ∧
  t.idled tunnel = s.idled tunnel +
    if (h.closeConn p tunnel handshakeFailed).2.phase = .releasing tunnel handshakeFailed then 1 else 0

theorem closeConn_releasing_iff (p : TunnelPool) (h : Handler) (tunnel : Ref) (handshakeFailed : Bool) :
    (h.closeConn p tunnel handshakeFailed).2.phase = .releasing tunnel handshakeFailed ↔
      (p.onTunnel tunnel Tunnel.releaseConn).activeConns tunnel = 0 := by
  simp only [Handler.closeConn,Handler.goto]
  split
  · next last => simp [last]
  · next more =>
    rcases afterClose_cases tunnel handshakeFailed with after | after <;> simp [after,more]

theorem advance_deref (found : s.conns.deref c = some conn) (stage : Stage) :
    (s.advance c conn stage).conns.deref c = some { conn with stage } := by
  simp [Shared.advance,Heap.deref_set found]

theorem releaseConn_as_handler (found : s.conns.deref c = some conn) (callback : onIdle conn.tunnel = true)
    (same : s.tunnels = p.objects) (handshakeFailed : Bool) :
    (releaseConn c).Ensures (serve onIdle) (fun _ _ _ => True)
      (fun _ t => ReleasedAs p h conn.tunnel handshakeFailed s t) s := by
  have count : (s.onTunnel conn.tunnel Tunnel.releaseConn).activeConns conn.tunnel =
      (p.onTunnel conn.tunnel Tunnel.releaseConn).activeConns conn.tunnel := by
    simp [Shared.activeConns,Shared.onTunnel,TunnelPool.activeConns,TunnelPool.onTunnel,same]
  have tunnels : (s.onTunnel conn.tunnel Tunnel.releaseConn).tunnels =
      (p.onTunnel conn.tunnel Tunnel.releaseConn).objects := congrArg (Heap.modify · _ _) same
  simp only [ReleasedAs,closeConn_releasing_iff,releaseConn,ensures_request_bind]
  intro _ _
  simp only [serve,onConn,found,serveRelease,count,callback]
  by_cases last : (p.onTunnel conn.tunnel Tunnel.releaseConn).activeConns conn.tunnel = 0
  · simp only [last,true_and,↓reduceIte]
    intro _ _
    have emptied := advance_deref (s := s.onTunnel conn.tunnel Tunnel.releaseConn) found
    simp only [serve,onConn,emptied]
    exact ⟨tunnels,by simp [serveIdle,Shared.advance,Shared.onTunnel]⟩
  · simp only [last,false_and,↓reduceIte]
    exact ⟨tunnels,rfl⟩

/-- Alone, the first `Close` of a connection leaves the tunnels as a handler's `closeConn` does, and calls
`onIdle` exactly when that goes on to `releasing`. -/
theorem close_as_handler (found : s.conns.deref c = some conn) (counted : conn.stage = .counted)
    (callback : onIdle conn.tunnel = true) (same : s.tunnels = p.objects) (handshakeFailed : Bool) :
    (close c).Ensures (serve onIdle) (fun _ _ _ => True)
      (fun _ t => ReleasedAs p h conn.tunnel handshakeFailed s t) s := by
  let s' : Shared := { s with begun := s.begun ++ [c] }
  have entered : (s'.advance c conn .releasing).conns.deref c = _ := advance_deref found .releasing
  have once : (releaseOnce c).Ensures (serve onIdle) (fun _ _ _ => True)
      (fun _ t => ReleasedAs p h conn.tunnel handshakeFailed s t) s := by
    simp only [releaseOnce,ensures_request_bind]
    intro _ _
    simp only [serve,onConn,found,serveEnter,counted,↓reduceIte]
    have release := releaseConn_as_handler (h := h) entered callback same handshakeFailed
    refine ensures_bind release fun _ t released _ _ => ?_
    simp only [serve,onConn]
    split <;> exact released
  exact ensures_bind once fun _ _ released _ _ => released

end Handlers

section Sample

/-- One goroutine in `dialTunnel`. -/
def dialTask : Unit → Task := fun _ => .dialTunnel ⟨"west","default",lowBlock⟩ "10.0.0.1:50000"

def refused : Choice := ⟨some (.of (.library "EOF")),0⟩

/-- The handshake of the first attempt fails. -/
def secondAttempt : List (Interaction.Action Unit Choice Disturbance) :=
  [.answer () proceed,.answer () proceed,.answer () proceed,.answer () proceed,.answer () refused,
    .answer () proceed,.answer () proceed,.answer () proceed,.answer () proceed,.answer () proceed,
    .answer () ⟨none,1⟩,.answer () proceed,
    .answer () proceed,.answer () proceed,.answer () proceed,.answer () proceed]

theorem dialTunnel_conserves_secondAttempt :
    ∃ s h next, (goroutines dialTask (fun _ => true) 2).system.Run (idle (.start ⟨[readyTunnel]⟩))
        (.begin () :: secondAttempt) s ∧
      s.thread () = some (h,.call (.establishConnectTunnel 1 "10.0.0.1:50000") next) ∧
      next none = .pure (.dialed (some 1) none) ∧ h.closed = [0] ∧
      (goroutines dialTask (fun _ => true) 2).contribution Shared.total () (idle (.start ⟨[readyTunnel]⟩))
        (.begin () :: secondAttempt ++ [.answer () proceed]) = 1 := by
  have unused : ∀ t, (Shared.start ⟨[readyTunnel]⟩).activeConns t = 0 := by
    intro t
    cases t <;> rfl
  have run : (goroutines dialTask (fun _ => true) 2).system.Run (idle (.start ⟨[readyTunnel]⟩))
      (.begin () :: secondAttempt) _ := System.run_of_admits _ _ _ (by decide +kernel)
  have conserves := dialTunnel_conserves (f := proceed) dialTask (fun _ => true) 2 ⟨[readyTunnel]⟩ unused rfl
    .nil run (by simp [secondAttempt]) rfl trivial rfl
  exact ⟨_,_,_,run,rfl,rfl,rfl,conserves.2.2.2.2.2.2⟩

end Sample

end Kommodity.TalosProxy.Conns
