import Kommodity.GoValues
import Kommodity.Interaction

/-! The life of a libkapi server: one call of `ListenAndServe` and one of `Shutdown`, with the goroutines
they start. The controller manager is started last, after hooks that can take any time, under a context
of its own; only `Shutdown` cancels it, with the function it finds in the server. -/
namespace Kommodity.Libkapi.Lifecycle

open Go Interaction Transition

inductive Cause where
  | serverAlreadyStarted
  | serverNotStarted
  | serverClosed
  | contextDone
  | nilFunctionCall
  | other (detail : String)
  deriving DecidableEq

abbrev Error := Err Cause

structure Config where
  addr : String
  manager : Bool
  grpcServer : Bool
  postStartHooks : Nat
  preShutdownHooks : Nat

/-- The functions `Shutdown` takes from the server, each of which can be nil. -/
structure Taken where
  cancel : Bool
  mgrCancel : Bool
  internalHooksCancel : Bool
  deriving DecidableEq

/-- The steps of the two calls, one for each critical section, goroutine, wait, or call of other code. -/
inductive Call where
  | start
  | listen
  | registerShutdownWatcher
  | goServe
  | nonBlockingRun
  | postStartHook (index : Nat)
  | goRunLoop
  | setManager
  | goManager
  | awaitServe
  | waitForInternalHooksHealthy
  | clear
  | cancel
  | internalHooksCancel
  | storageClose
  | take
  | mgrCancel
  | awaitManager
  | preShutdownHooks
  | stopGRPC
  | shutdownHTTP
  | awaitRunLoop
  | apiserverPreShutdownHooks
  | destroy
  | ctxErr
  deriving DecidableEq

abbrev Answer : Call → Type
  | .start => Bool
  | .take => Taken
  | .listen | .nonBlockingRun | .postStartHook _ | .awaitServe | .shutdownHTTP | .ctxErr => Option Error
  | _ => Unit

abbrev ServerProgram := Program Call Answer

def ask (c : Call) : ServerProgram (Answer c) := request c

def abortListenAndServe (err : Error) : ServerProgram (Option Error) := do
  ask .clear
  ask .cancel
  ask .internalHooksCancel
  ask .storageClose
  return some err

def abortAfterInternalHooksStarted (err : Error) : ServerProgram (Option Error) := do
  ask .waitForInternalHooksHealthy
  ask .clear
  ask .internalHooksCancel
  ask .cancel
  ask .storageClose
  return some err

/-- The hooks from an index on. -/
def runPostStartHooks (i : Nat) : Nat → ServerProgram (Option Error)
  | 0 => return none
  | left + 1 => do
    match ← ask (.postStartHook i) with
    | some err => return some (err.wrap ("post-start hook " ++ toString i ++ " failed"))
    | none => runPostStartHooks (i + 1) left

theorem runPostStartHooks_unnoted {note : H → (c : Call) → Answer c → H} {Next : H → Call → Prop} {h : H}
    (permitted : ∀ i, Next h (.postStartHook i)) (unnoted : ∀ i a, note h (.postStartHook i) a = h)
    (i left : Nat) : (runPostStartHooks i left).Traced note Next (fun h' _ => h' = h) h := by
  induction left generalizing i with
  | zero => rfl
  | succ left ih =>
    refine ⟨permitted i,?_⟩
    rintro (_ | err)
    · rw [unnoted]
      exact ih (i + 1)
    · exact unnoted i _

def startManager (cfg : Config) : ServerProgram Unit := do
  if ¬ cfg.manager then return ()
  else
    ask .setManager
    ask .goManager

def listenAndServe (cfg : Config) : ServerProgram (Option Error) := do
  if ← ask .start then return some (.of .serverAlreadyStarted)
  else
    match ← ask .listen with
    | some err => abortListenAndServe (err.wrap ("failed to listen on \"" ++ cfg.addr ++ "\""))
    | none =>
      ask .registerShutdownWatcher
      ask .goServe
      match ← ask .nonBlockingRun with
      | some err => abortListenAndServe (err.wrap "failed to start apiserver")
      | none =>
        match ← runPostStartHooks 0 cfg.postStartHooks with
        | some err => abortAfterInternalHooksStarted (err.wrap "post-start hook failed")
        | none =>
          ask .goRunLoop
          startManager cfg
          match ← ask .awaitServe with
          | some err =>
            if err.cause ≠ .serverClosed then return some (err.wrap "http server exited") else return none
          | none => return none

def runPreShutdownHooks (cfg : Config) : ServerProgram Unit := do
  if cfg.preShutdownHooks = 0 then return ()
  else ask .preShutdownHooks

def shutdownGRPCServer (cfg : Config) : ServerProgram Unit := do
  if ¬ cfg.grpcServer then return ()
  else ask .stopGRPC

/-- `Shutdown` from the point on where the manager is stopped. -/
def stopServer (cfg : Config) (taken : Taken) : ServerProgram (Option Error) := do
  runPreShutdownHooks cfg
  ask .cancel
  if ¬ taken.internalHooksCancel then return some (.of .nilFunctionCall)
  else
    ask .internalHooksCancel
    shutdownGRPCServer cfg
    let err ← ask .shutdownHTTP
    ask .awaitRunLoop
    ask .apiserverPreShutdownHooks
    ask .destroy
    ask .storageClose
    match err with
    | some err => return some (err.wrap "failed to shut down http server")
    | none =>
      match ← ask .ctxErr with
      | some ctxErr => return some (ctxErr.wrap "failed to shut down http server")
      | none => return none

def shutdown (cfg : Config) : ServerProgram (Option Error) := do
  let taken ← ask .take
  if ¬ taken.cancel then return some (.of .serverNotStarted)
  else
    if taken.mgrCancel then
      ask .mgrCancel
      ask .awaitManager
      stopServer cfg taken
    else stopServer cfg taken

inductive Goroutine where
  | notStarted
  | spawned
  | running
  | ended
  deriving DecidableEq

/-- What the calls and the goroutines share: the fields under the mutex, the contexts, and how far each
goroutine is. `taken` says that `Shutdown` has read the fields, `closing` that the HTTP server is told
to shut down. -/
structure Server where
  cancelRun : Bool
  mgrCancel : Bool
  internalHooksCancel : Bool
  taken : Bool
  ctxDone : Bool
  runCtxDone : Bool
  internalHooksCtxDone : Bool
  mgrCtxDone : Bool
  expired : Bool
  watcher : Bool
  closing : Bool
  serving : Bool
  serveErr : Option Error
  runLoop : Goroutine
  manager : Goroutine
  storageClosed : Bool
  deriving DecidableEq

/-- A wait ends when what it waits for is there; the manager is awaited until the context expires. -/
def Server.ready (s : Server) : Call → Prop
  | .awaitServe => s.serveErr.isSome
  | .awaitManager => s.manager = .ended ∨ s.expired
  | .awaitRunLoop => s.runLoop ≠ .running
  | _ => True

def Server.effect (s : Server) : Call → Server
  | .start => if s.cancelRun then s else { s with cancelRun := true, internalHooksCancel := true }
  | .registerShutdownWatcher => { s with watcher := true }
  | .goServe => { s with serving := true }
  | .goRunLoop => { s with runLoop := .running }
  | .setManager => { s with mgrCancel := true }
  | .goManager => { s with manager := .spawned }
  | .clear => { s with cancelRun := false, internalHooksCancel := false }
  | .cancel => { s with runCtxDone := true }
  | .internalHooksCancel => { s with internalHooksCtxDone := true }
  | .storageClose => { s with storageClosed := true }
  | .take => { s with cancelRun := false, taken := true }
  | .mgrCancel => { s with mgrCtxDone := true }
  | .shutdownHTTP => { s with closing := true }
  | _ => s

/-- The answers that are not up to the server are the reply. -/
def Server.answer (s : Server) (reply : Option Error) : (c : Call) → Answer c
  | .start => s.cancelRun
  | .take => ⟨s.cancelRun,s.mgrCancel,s.internalHooksCancel⟩
  | .awaitServe => s.serveErr
  | .ctxErr => if s.expired then some (.of .contextDone) else none
  | .listen | .nonBlockingRun | .postStartHook _ | .shutdownHTTP => reply
  | .registerShutdownWatcher | .goServe | .goRunLoop | .setManager | .goManager
  | .waitForInternalHooksHealthy | .clear | .cancel | .internalHooksCancel | .storageClose
  | .mgrCancel | .awaitManager | .preShutdownHooks | .stopGRPC | .awaitRunLoop
  | .apiserverPreShutdownHooks | .destroy => ()

structure State where
  server : Server
  listenAndServe : ServerProgram (Option Error)
  shutdown : ServerProgram (Option Error)

/-- `cancelCtx` is about the context of `ListenAndServe`, `expire` about the one of `Shutdown`. -/
inductive Action where
  | listenAndServe (reply : Option Error)
  | shutdown (reply : Option Error)
  | cancelCtx
  | expire
  | watcher
  | serveReturns (err : Error)
  | runLoopEnds
  | managerStarts
  | managerReturns (err : Option Error)

def Server.possible (s : Server) : ServerProgram α → Prop
  | .pure _ => False
  | .call c _ => s.ready c

def Server.advance (s : Server) (reply : Option Error) : ServerProgram α → ServerProgram α × Server
  | .pure a => (.pure a,s)
  | .call c next => (next (s.answer reply c),s.effect c)

/-- `Serve` returns `ErrServerClosed` only once the HTTP server is told to shut down, and the manager
returns without an error only once its context is done. -/
def State.possible (s : State) : Action → Prop
  | .listenAndServe _ => s.server.possible s.listenAndServe
  | .shutdown _ => s.server.possible s.shutdown
  | .cancelCtx => True
  | .expire => True
  | .watcher => s.server.watcher ∧ (s.server.runCtxDone ∨ s.server.ctxDone)
  | .serveReturns err => s.server.serving ∧ s.server.serveErr = none ∧
    (err.cause = .serverClosed → s.server.closing)
  | .runLoopEnds => s.server.runLoop = .running ∧ s.server.internalHooksCtxDone
  | .managerStarts => s.server.manager = .spawned
  | .managerReturns err => s.server.manager = .running ∧ (err = none → s.server.mgrCtxDone)

def State.act (s : State) : Action → State
  | .listenAndServe reply =>
    let (p,server) := s.server.advance reply s.listenAndServe
    { s with server, listenAndServe := p }
  | .shutdown reply =>
    let (p,server) := s.server.advance reply s.shutdown
    { s with server, shutdown := p }
  | .cancelCtx => { s with server.ctxDone := true }
  | .expire => { s with server.expired := true }
  | .watcher => { s with server.closing := true }
  | .serveReturns err => { s with server.serveErr := some err }
  | .runLoopEnds => { s with server.runLoop := .ended }
  | .managerStarts => { s with server.manager := .running }
  | .managerReturns _ => { s with server.manager := .ended }

def system : System State Action := ⟨State.possible,State.act⟩

def fresh : Server where
  cancelRun := false
  mgrCancel := false
  internalHooksCancel := false
  taken := false
  ctxDone := false
  runCtxDone := false
  internalHooksCtxDone := false
  mgrCtxDone := false
  expired := false
  watcher := false
  closing := false
  serving := false
  serveErr := none
  runLoop := .notStarted
  manager := .notStarted
  storageClosed := false

def initial (cfg : Config) : State := ⟨fresh,listenAndServe cfg,shutdown cfg⟩

/-- A manager that runs, or whose goroutine is about to start it. -/
def Server.Active (s : Server) : Prop := s.manager = .spawned ∨ s.manager = .running

/-- The step a call is about to take. -/
def pending : ServerProgram α → Option Call
  | .pure _ => none
  | .call c _ => some c

/-- `ListenAndServe` does not get to the manager after `Shutdown` has looked for it. -/
def Condition (s : State) : Action → Prop
  | .listenAndServe _ => pending s.listenAndServe = some .setManager → s.server.taken = false
  | _ => True

section Decidable

instance (s : Server) : (c : Call) → Decidable (s.ready c)
  | .awaitServe => inferInstanceAs (Decidable (_ = true))
  | .awaitManager => inferInstanceAs (Decidable (_ ∨ _))
  | .awaitRunLoop => inferInstanceAs (Decidable (_ ≠ _))
  | .start | .listen | .registerShutdownWatcher | .goServe | .nonBlockingRun | .postStartHook _ | .goRunLoop
  | .setManager | .goManager | .waitForInternalHooksHealthy | .clear | .cancel | .internalHooksCancel
  | .storageClose | .take | .mgrCancel | .preShutdownHooks | .stopGRPC | .shutdownHTTP
  | .apiserverPreShutdownHooks | .destroy | .ctxErr => .isTrue trivial

instance (s : Server) : (p : ServerProgram α) → Decidable (s.possible p)
  | .pure _ => .isFalse id
  | .call c _ => inferInstanceAs (Decidable (s.ready c))

instance (s : State) : (action : Action) → Decidable (system.allowed s action)
  | .listenAndServe _ => inferInstanceAs (Decidable (s.server.possible s.listenAndServe))
  | .shutdown _ => inferInstanceAs (Decidable (s.server.possible s.shutdown))
  | .cancelCtx => .isTrue trivial
  | .expire => .isTrue trivial
  | .watcher => inferInstanceAs (Decidable (_ ∧ _))
  | .serveReturns _ => inferInstanceAs (Decidable (_ ∧ _ ∧ _))
  | .runLoopEnds => inferInstanceAs (Decidable (_ ∧ _))
  | .managerStarts => inferInstanceAs (Decidable (_ = _))
  | .managerReturns _ => inferInstanceAs (Decidable (_ ∧ _))

instance (s : State) : (action : Action) → Decidable (Condition s action)
  | .listenAndServe _ => inferInstanceAs (Decidable (_ → _))
  | .shutdown _ | .cancelCtx | .expire | .watcher | .serveReturns _ | .runLoopEnds | .managerStarts
  | .managerReturns _ => .isTrue trivial

end Decidable

/-- How far `ListenAndServe` is. `started` is over again once the server is cleared. -/
structure Listening where
  started : Bool
  stored : Bool
  spawned : Bool
  closed : Bool

namespace Listening

def note (h : Listening) : (c : Call) → Answer c → Listening
  | .start,already => { h with started := !already }
  | .clear,_ => { h with started := false }
  | .setManager,_ => { h with stored := true }
  | .goManager,_ => { h with spawned := true }
  | .storageClose,_ => { h with closed := true }
  | _,_ => h

/-- The manager is started once, in a server that is started, and storage is closed only without it. -/
def Next (h : Listening) : Call → Prop
  | .start => h.started = false ∧ h.stored = false ∧ h.closed = false
  | .setManager => h.started = true
  | .goManager => h.stored = true ∧ h.spawned = false
  | .clear => h.stored = false
  | .storageClose => h.started = false
  | .take => False
  | _ => True

theorem abortListenAndServe_spec (err : Error) (without : h.stored = false) :
    (abortListenAndServe err).Traced note Next (fun _ _ => True) h :=
  ⟨without,fun _ => ⟨trivial,fun _ => ⟨trivial,fun _ => ⟨rfl,fun _ => trivial⟩⟩⟩⟩

theorem abortAfterInternalHooksStarted_spec (err : Error) (without : h.stored = false) :
    (abortAfterInternalHooksStarted err).Traced note Next (fun _ _ => True) h :=
  ⟨trivial,fun _ => ⟨without,fun _ => ⟨trivial,fun _ => ⟨trivial,fun _ => ⟨rfl,fun _ => trivial⟩⟩⟩⟩⟩

theorem runPostStartHooks_spec (i left : Nat) (h : Listening) :
    (runPostStartHooks i left).Traced note Next (fun h' _ => h' = h) h :=
  runPostStartHooks_unnoted (fun _ => trivial) (fun _ _ => rfl) i left

theorem startManager_spec (cfg : Config) (started : h.started = true) (once : h.spawned = false) :
    (startManager cfg).Traced note Next (fun _ _ => True) h := by
  unfold startManager
  split
  · trivial
  · exact ⟨started,fun _ => ⟨⟨rfl,once⟩,fun _ => trivial⟩⟩

theorem listenAndServe_spec (cfg : Config) :
    (listenAndServe cfg).Traced note Next (fun _ _ => True) ⟨false,false,false,false⟩ := by
  refine ⟨⟨rfl,rfl,rfl⟩,?_⟩
  rintro (_ | _)
  · refine ⟨trivial,?_⟩
    rintro (_ | err)
    · refine ⟨trivial,fun _ => ⟨trivial,fun _ => ⟨trivial,?_⟩⟩⟩
      rintro (_ | err)
      · dsimp only [Program.bind]
        refine traced_bind (runPostStartHooks_spec 0 cfg.postStartHooks _) ?_
        rintro _ (_ | err) rfl
        · refine ⟨trivial,fun _ => ?_⟩
          dsimp only [Program.bind]
          refine traced_bind (startManager_spec cfg rfl rfl) ?_
          intro h _ _
          refine ⟨trivial,?_⟩
          rintro (_ | err)
          · trivial
          · dsimp only [Program.bind]
            split <;> trivial
        · exact abortAfterInternalHooksStarted_spec _ rfl
      · exact abortListenAndServe_spec _ rfl
    · exact abortListenAndServe_spec _ rfl
  · trivial

end Listening

/-- How far `Shutdown` is, and what it has found in the server. -/
structure Stopping where
  taken : Option Taken
  waited : Bool
  closed : Bool

namespace Stopping

def note (h : Stopping) : (c : Call) → Answer c → Stopping
  | .take,taken => { h with taken := some taken }
  | .awaitManager,_ => { h with waited := true }
  | .storageClose,_ => { h with closed := true }
  | _,_ => h

/-- A manager that was found has been waited for. -/
def Waited (h : Stopping) : Prop := ∃ taken, h.taken = some taken ∧ (taken.mgrCancel = true → h.waited = true)

def Next (h : Stopping) : Call → Prop
  | .take => h.taken = none
  | .storageClose => h.Waited
  | .start | .clear | .setManager | .goManager => False
  | _ => True

def Returns (h : Stopping) (_ : Option Error) : Prop :=
  (∃ taken, h.taken = some taken ∧ taken.cancel = false) ∨ h.Waited

theorem runPreShutdownHooks_spec (cfg : Config) (h : Stopping) :
    (runPreShutdownHooks cfg).Traced note Next (fun h' _ => h' = h) h := by
  unfold runPreShutdownHooks
  split
  · rfl
  · exact ⟨trivial,fun _ => rfl⟩

theorem shutdownGRPCServer_spec (cfg : Config) (h : Stopping) :
    (shutdownGRPCServer cfg).Traced note Next (fun h' _ => h' = h) h := by
  unfold shutdownGRPCServer
  split
  · rfl
  · exact ⟨trivial,fun _ => rfl⟩

theorem stopServer_spec (cfg : Config) (taken : Taken) (waited : h.Waited) :
    (stopServer cfg taken).Traced note Next Returns h := by
  refine traced_bind (runPreShutdownHooks_spec cfg h) ?_
  rintro _ _ rfl
  refine ⟨trivial,fun _ => ?_⟩
  dsimp only [Program.bind]
  split
  · exact .inr waited
  · refine ⟨trivial,fun _ => ?_⟩
    dsimp only [Program.bind]
    refine traced_bind (shutdownGRPCServer_spec cfg _) ?_
    rintro _ _ rfl
    refine ⟨trivial,fun err => ⟨trivial,fun _ => ⟨trivial,fun _ => ⟨trivial,fun _ => ⟨waited,fun _ => ?_⟩⟩⟩⟩⟩
    dsimp only [Program.bind]
    cases err with
    | some err => exact .inr waited
    | none =>
      refine ⟨trivial,?_⟩
      rintro (_ | ctxErr) <;> exact .inr waited

theorem shutdown_spec (cfg : Config) :
    (shutdown cfg).Traced note Next Returns ⟨none,false,false⟩ := by
  refine ⟨rfl,fun taken => ?_⟩
  dsimp only [Program.bind]
  split
  · next none => exact .inl ⟨taken,rfl,by simpa using none⟩
  · split
    · exact ⟨trivial,fun _ => ⟨trivial,fun _ => stopServer_spec cfg taken ⟨taken,rfl,fun _ => rfl⟩⟩⟩
    · next without => exact stopServer_spec cfg taken ⟨taken,rfl,fun found => absurd found without⟩

end Stopping

/-- What the server has to do with how far the two calls are. -/
structure Agrees (s : Server) (l : Listening) (d : Stopping) : Prop where
  started : l.stored = true → l.started = true
  stored : l.spawned = true → l.stored = true
  cleared : l.closed = true → l.started = false
  mgrCancel : s.mgrCancel = l.stored
  manager : s.manager ≠ .notStarted → l.spawned = true
  cancelRun : l.started = true → s.taken = false → s.cancelRun = true
  taken : s.taken = d.taken.isSome
  found : ∀ taken, d.taken = some taken → s.mgrCancel = taken.mgrCancel ∧
    (taken.mgrCancel = true → taken.cancel = true)
  waited : d.waited = true → s.expired = false → s.manager = .ended
  shut : d.closed = true → d.Waited
  closed : s.storageClosed = true → l.closed = true ∨ d.closed = true

/-- A manager that `Shutdown` has waited for, or has not found, is not there any more. -/
theorem Agrees.inactive (agrees : Agrees s l d) (unexpired : s.expired = false) (waited : d.Waited) :
    ¬s.Active := by
  obtain ⟨taken,found,stopped⟩ := waited
  have same := (agrees.found taken found).1
  cases there : taken.mgrCancel with
  | true =>
    have ended := agrees.waited (stopped there) unexpired
    simp [Server.Active,ended]
  | false =>
    intro active
    have spawned := agrees.manager (by rcases active with now | now <;> simp [now])
    have stored := agrees.stored spawned
    rw [← agrees.mgrCancel,same,there] at stored
    cases stored

/-- `ListenAndServe` closes storage only when it has not started the manager. -/
theorem Agrees.inactive_of_aborted (agrees : Agrees s l d) (aborted : l.closed = true) : ¬s.Active := by
  intro active
  have spawned := agrees.manager (by rcases active with now | now <;> simp [now])
  have started := agrees.started (agrees.stored spawned)
  rw [agrees.cleared aborted] at started
  cases started

theorem Agrees.listen (agrees : Agrees s l d) (permitted : l.Next c)
    (condition : c = .setManager → s.taken = false) (reply : Option Error) :
    Agrees (s.effect c) (l.note c (s.answer reply c)) d := by
  cases c with
  | start =>
    obtain ⟨_,without,unclosed⟩ := permitted
    cases already : s.cancelRun with
    | true =>
      simp only [Server.effect,Server.answer,Listening.note,already,if_true]
      exact { agrees with
        started := fun stored => nomatch without.symm.trans stored
        cleared := fun _ => rfl
        cancelRun := nofun }
    | false =>
      simp only [Server.effect,Server.answer,Listening.note,already]
      exact { agrees with
        started := fun _ => rfl
        cleared := fun closed => nomatch unclosed.symm.trans closed
        cancelRun := fun _ _ => rfl }
  | setManager =>
    have early := condition rfl
    exact { agrees with
      started := fun _ => permitted
      stored := fun _ => rfl
      mgrCancel := rfl
      found := fun taken found => by rw [agrees.taken,found] at early; cases early }
  | goManager =>
    obtain ⟨stored,once⟩ := permitted
    exact { agrees with
      stored := fun _ => stored
      manager := fun _ => rfl
      waited := fun waited unexpired => by
        have spawned := agrees.manager (by simp [agrees.waited waited unexpired])
        exact nomatch once.symm.trans spawned }
  | clear =>
    have without : l.stored = false := permitted
    exact { agrees with
      started := fun stored => nomatch without.symm.trans stored
      cleared := fun _ => rfl
      cancelRun := nofun }
  | storageClose => exact { agrees with cleared := fun _ => permitted, closed := fun _ => .inl rfl }
  | take => exact permitted.elim
  | _ => exact { agrees with }

theorem Agrees.stop (agrees : Agrees s l d) (permitted : d.Next c) (ready : s.ready c) (reply : Option Error) :
    Agrees (s.effect c) l (d.note c (s.answer reply c)) := by
  cases c with
  | start | clear | setManager | goManager => exact permitted.elim
  | take =>
    have first : d.taken = none := permitted
    have untaken : s.taken = false := by rw [agrees.taken,first]; rfl
    exact { agrees with
      cancelRun := nofun
      taken := rfl
      found := by
        rintro _ ⟨⟩
        refine ⟨rfl,fun there => ?_⟩
        exact agrees.cancelRun (agrees.started (agrees.mgrCancel ▸ there)) untaken
      shut := fun closed => by
        obtain ⟨taken,found,_⟩ := agrees.shut closed
        rw [first] at found; cases found }
  | awaitManager =>
    exact { agrees with
      waited := fun _ unexpired => by
        rcases ready with ended | expired
        · exact ended
        · rw [show s.expired = false from unexpired] at expired; cases expired
      shut := fun closed => by
        obtain ⟨taken,found,_⟩ := agrees.shut closed
        exact ⟨taken,found,fun _ => rfl⟩ }
  | storageClose => exact { agrees with shut := fun _ => permitted, closed := fun _ => .inr rfl }
  | _ => exact { agrees with }

/-- Both calls are on their way, and the server agrees with how far they are. -/
def Inv (s : State) : Prop :=
  ∃ l d, s.listenAndServe.Traced Listening.note Listening.Next (fun _ _ => True) l ∧
    s.shutdown.Traced Stopping.note Stopping.Next Stopping.Returns d ∧ Agrees s.server l d

theorem inv_initial (cfg : Config) : Inv (initial cfg) := by
  refine ⟨_,_,Listening.listenAndServe_spec cfg,Stopping.shutdown_spec cfg,?_⟩
  constructor <;> simp [fresh,initial]

theorem Inv.step (inv : Inv s) (possible : s.possible action) (condition : Condition s action) :
    Inv (s.act action) := by
  obtain ⟨l,d,listening,stopping,agrees⟩ := inv
  cases action with
  | listenAndServe reply =>
    cases at_listen : s.listenAndServe with
    | pure r => rw [State.possible,at_listen] at possible; exact possible.elim
    | call c next =>
      rw [at_listen] at listening
      have early : c = .setManager → s.server.taken = false := by
        rintro rfl
        exact condition (by rw [at_listen]; rfl)
      simp only [State.act,Server.advance,at_listen]
      exact ⟨_,d,listening.2 _,stopping,agrees.listen listening.1 early reply⟩
  | shutdown reply =>
    cases at_shutdown : s.shutdown with
    | pure r => rw [State.possible,at_shutdown] at possible; exact possible.elim
    | call c next =>
      rw [at_shutdown] at stopping
      rw [State.possible,at_shutdown] at possible
      simp only [State.act,Server.advance,at_shutdown]
      exact ⟨l,_,listening,stopping.2 _,agrees.stop stopping.1 possible reply⟩
  | expire => exact ⟨l,d,listening,stopping,{ agrees with waited := fun _ => nofun }⟩
  | managerStarts =>
    have spawned : s.server.manager = .spawned := possible
    refine ⟨l,d,listening,stopping,{ agrees with
      manager := fun _ => agrees.manager (by simp [spawned])
      waited := fun waited unexpired => ?_ }⟩
    have ended := agrees.waited waited unexpired
    rw [spawned] at ended; cases ended
  | managerReturns err =>
    obtain ⟨running,_⟩ := possible
    exact ⟨l,d,listening,stopping,{ agrees with
      manager := fun _ => agrees.manager (by simp [running])
      waited := fun _ _ => rfl }⟩
  | cancelCtx => exact ⟨l,d,listening,stopping,{ agrees with }⟩
  | watcher => exact ⟨l,d,listening,stopping,{ agrees with }⟩
  | serveReturns err => exact ⟨l,d,listening,stopping,{ agrees with }⟩
  | runLoopEnds => exact ⟨l,d,listening,stopping,{ agrees with }⟩

/-- Both calls have returned. -/
def Returned (s : State) : Prop := (∃ r, s.listenAndServe = .pure r) ∧ ∃ r, s.shutdown = .pure r

theorem Inv.closed (inv : Inv s) (unexpired : s.server.expired = false)
    (closed : s.server.storageClosed = true) : ¬s.server.Active := by
  obtain ⟨l,d,_,_,agrees⟩ := inv
  rcases agrees.closed closed with aborted | shut
  · exact agrees.inactive_of_aborted aborted
  · exact agrees.inactive unexpired (agrees.shut shut)

theorem Inv.returned (inv : Inv s) (unexpired : s.server.expired = false) (returned : Returned s) :
    ¬s.server.Active := by
  obtain ⟨l,d,_,stopping,agrees⟩ := inv
  obtain ⟨_,r,at_end⟩ := returned
  rw [at_end] at stopping
  rcases stopping with ⟨taken,found,unstarted⟩ | waited
  · refine agrees.inactive unexpired ⟨taken,found,fun there => ?_⟩
    have started := (agrees.found taken found).2 there
    rw [unstarted] at started; cases started
  · exact agrees.inactive unexpired waited

/-- Once both calls have returned, no goroutine starts the manager. -/
theorem inactive_step (after : Returned s ∧ ¬s.server.Active) (possible : s.possible action) :
    Returned (s.act action) ∧ ¬(s.act action).server.Active := by
  obtain ⟨⟨⟨r,at_listen⟩,r',at_shutdown⟩,inactive⟩ := after
  cases action with
  | listenAndServe reply => rw [State.possible,at_listen] at possible; exact possible.elim
  | shutdown reply => rw [State.possible,at_shutdown] at possible; exact possible.elim
  | managerStarts => exact absurd (.inl possible) inactive
  | managerReturns err => exact ⟨⟨⟨r,at_listen⟩,r',at_shutdown⟩,by simp [State.act,Server.Active]⟩
  | _ => exact ⟨⟨⟨r,at_listen⟩,r',at_shutdown⟩,inactive⟩

theorem nothing_runs_after_shutdown (cfg : Config)
    (run : (system.restrict Condition).Run (initial cfg) actions s) (unexpired : s.server.expired = false) :
    (s.server.storageClosed = true → ¬s.server.Active) ∧
    (Returned s → ¬s.server.Active ∧ ∀ later t, system.Run s later t → ¬t.server.Active) := by
  have inv : Inv s := run.invariant_restrict Inv (fun _ _ inv ok condition => inv.step ok condition)
    (inv_initial cfg)
  refine ⟨inv.closed unexpired,fun returned => ?_⟩
  have inactive := inv.returned unexpired returned
  refine ⟨inactive,fun later t rest => ?_⟩
  exact (rest.invariant (fun s => Returned s ∧ ¬s.server.Active)
    (fun _ _ after ok => inactive_step after ok) ⟨returned,inactive⟩).2

section Sample

/-- A server with a manager and one hook. -/
def withManager : Config := ⟨":8443",true,false,1,0⟩

def times (n : Nat) (action : Action) : List Action := List.replicate n action

/-- The manager runs when `Shutdown` comes. -/
def orderly : List Action :=
  times 9 (.listenAndServe none) ++ [Action.managerStarts,.shutdown none,.shutdown none,.managerReturns none] ++
    times 4 (.shutdown none) ++ [Action.runLoopEnds] ++ times 5 (.shutdown none) ++
    [Action.serveReturns (.of .serverClosed),.listenAndServe none]

theorem nothing_runs_after_shutdown_orderly :
    ∃ s, (system.restrict Condition).Run (initial withManager) orderly s ∧ Returned s ∧
      s.server.storageClosed = true ∧ ¬s.server.Active := by
  have run := System.run_of_admits (system.restrict Condition) (initial withManager) orderly (by decide +kernel)
  have returned : Returned (orderly.foldl (system.restrict Condition).apply (initial withManager)) :=
    ⟨⟨none,rfl⟩,⟨none,rfl⟩⟩
  exact ⟨_,run,returned,rfl,((nothing_runs_after_shutdown withManager run rfl).2 returned).1⟩

/-- `Shutdown` runs while the hook of `ListenAndServe` does. -/
def duringHook : List Action :=
  times 5 (.listenAndServe none) ++ times 9 (.shutdown none) ++ times 4 (.listenAndServe none) ++
    [Action.serveReturns (.of .serverClosed),.listenAndServe none,.managerStarts]

/-- `Shutdown` comes before `ListenAndServe`, whose context is cancelled later. -/
def beforeStart : List Action :=
  [Action.shutdown none] ++ times 9 (.listenAndServe none) ++
    [Action.managerStarts,.cancelCtx,.watcher,.serveReturns (.of .serverClosed),.listenAndServe none]

/-- A manager that is started behind the back of `Shutdown` goes on, and storage can be closed under it. -/
theorem manager_outlives_shutdown :
    (∃ s, system.Run (initial withManager) duringHook s ∧ Returned s ∧ s.server.expired = false ∧
      s.server.storageClosed = true ∧ s.server.manager = .running) ∧
    ∃ s, system.Run (initial withManager) beforeStart s ∧ Returned s ∧ s.server.expired = false ∧
      s.server.manager = .running := by
  have first := System.run_of_admits system (initial withManager) duringHook (by decide +kernel)
  have second := System.run_of_admits system (initial withManager) beforeStart (by decide +kernel)
  exact ⟨⟨_,first,⟨⟨none,rfl⟩,⟨none,rfl⟩⟩,rfl,rfl,rfl⟩,
    ⟨_,second,⟨⟨none,rfl⟩,⟨_,rfl⟩⟩,rfl,rfl⟩⟩

end Sample

end Kommodity.Libkapi.Lifecycle
