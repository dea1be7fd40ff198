import Kommodity.GoHeap
import Kommodity.LibkapiServer

/-! The context of the apiserver's internal post-start hooks, in any number of calls of `ListenAndServe` and
`Shutdown` on one server. A hook in flight takes the end of its context for a timeout and ends the process.
A call that fails after it has started the hooks waits for `/healthz` before it cancels; `Shutdown` does
not. The functions that cancel are those of one call each, and the server keeps the last ones stored. -/
namespace Kommodity.Libkapi.InternalHooks

open Go Interaction Transition
open Lifecycle (Call Answer ServerProgram Config Error listenAndServe shutdown abortListenAndServe
  abortAfterInternalHooksStarted runPostStartHooks_unnoted startManager pending)

/-- Milliseconds. -/
def internalHooksHealthyTimeout : Int := 5000
def healthzPollInterval : Int := 50

inductive Hooks where
  | notStarted
  | inFlight
  | finished
  deriving DecidableEq

/-- Where the loop of `waitForInternalHooksHealthy` is: in the request, or in the `select`. -/
inductive Poll where
  | asking
  | pausing (resume : Int)
  | done
  deriving DecidableEq

def Poll.pausedUntil : Poll → Option Int
  | .pausing resume => some resume
  | _ => none

structure Wait where
  deadline : Int
  poll : Poll
  deriving DecidableEq

/-- A call of `ListenAndServe`, with the hooks it has started under its `internalHooksCtx`. -/
structure Listen where
  program : ServerProgram (Option Error)
  hooks : Hooks
  wait : Option Wait
  hooksCtxDone : Bool

/-- A call of `Shutdown`; `target` is the call whose `internalHooksCancel` it has taken. -/
structure Stop where
  program : ServerProgram (Option Error)
  target : Option Ref

structure State where
  listens : Heap Listen
  stops : Heap Stop
  cancelRun : Option Ref
  internalHooksCancel : Option Ref
  mgrCancel : Bool
  now : Int

def initial (now : Int) : State := ⟨.empty,.empty,none,none,false,now⟩

/-- The five seconds of its wait are over. -/
def Listen.elapsed (now : Int) (run : Listen) : Bool := run.wait.any fun w => w.deadline ≤ now

/-- The hooks can do without their context. -/
def Listen.Settled (now : Int) (run : Listen) : Prop :=
  run.hooks = .notStarted ∨ run.hooks = .finished ∨ run.elapsed now = true

instance (now : Int) (run : Listen) : Decidable (run.Settled now) := inferInstanceAs (Decidable (_ ∨ _ ∨ _))

/-- What is not up to the fields of the server is the reply, also for the calls that wait. -/
def State.answer (s : State) (reply : Option Error) : (c : Call) → Answer c
  | .start => s.cancelRun.isSome
  | .take => ⟨s.cancelRun.isSome,s.mgrCancel,s.internalHooksCancel.isSome⟩
  | .listen | .nonBlockingRun | .postStartHook _ | .awaitServe | .shutdownHTTP | .ctxErr => reply
  | .registerShutdownWatcher | .goServe | .goRunLoop | .setManager | .goManager
  | .waitForInternalHooksHealthy | .clear | .cancel | .internalHooksCancel | .storageClose
  | .mgrCancel | .awaitManager | .preShutdownHooks | .stopGRPC | .awaitRunLoop
  | .apiserverPreShutdownHooks | .destroy => ()

/-- What a step of `ListenAndServe` does to the fields of the server. -/
def State.store (s : State) (i : Ref) : Call → State
  | .start =>
    if s.cancelRun.isSome then s else { s with cancelRun := some i, internalHooksCancel := some i }
  | .clear => { s with cancelRun := none, internalHooksCancel := none }
  | .setManager => { s with mgrCancel := true }
  | _ => s

/-- What it does to its own hooks; they are not started when `NonBlockingRunWithContext` fails. -/
def Listen.effect (run : Listen) (reply : Option Error) : Call → Listen
  | .nonBlockingRun => if reply.isNone then { run with hooks := .inFlight } else run
  | .internalHooksCancel => { run with hooksCtxDone := true }
  | _ => run

def State.setListen (s : State) (i : Ref) (run : Listen) : State := { s with listens := s.listens.set i run }

def State.setStop (s : State) (j : Ref) (stop : Stop) : State := { s with stops := s.stops.set j stop }

/-- The wait for the hooks begins with its call, and the call returns when it is over. -/
def State.listen (s : State) (i : Ref) (run : Listen) (reply : Option Error) : State :=
  match run.program with
  | .pure _ => s
  | .call c next =>
    if c = .waitForInternalHooksHealthy ∧ run.wait = none then
      s.setListen i { run with wait := some ⟨s.now + internalHooksHealthyTimeout,.asking⟩ }
    else
      (s.store i c).setListen i { run.effect reply c with program := next (s.answer reply c) }

def State.cancelHooks (s : State) : Option Ref → State
  | none => s
  | some i => { s with listens := s.listens.modify i fun run => { run with hooksCtxDone := true } }

def State.stop (s : State) (j : Ref) (stop : Stop) (reply : Option Error) : State :=
  match stop.program with
  | .pure _ => s
  | .call c next =>
    let program := next (s.answer reply c)
    match c with
    | .take =>
      { s with cancelRun := none }.setStop j
        { program, target := if s.cancelRun.isSome then s.internalHooksCancel else none }
    | .internalHooksCancel => (s.cancelHooks stop.target).setStop j { stop with program }
    | _ => s.setStop j { stop with program }

inductive Action where
  | listenAndServe (cfg : Config)
  | shutdown (cfg : Config)
  | listen (i : Ref) (reply : Option Error)
  | stop (j : Ref) (reply : Option Error)
  | hooksFinish (i : Ref)
  | healthz (i : Ref) (ok : Bool)
  | resume (i : Ref)
  | giveUp (i : Ref)
  | tick (elapsed : Nat)

/-- The call can take its next step. -/
def Listen.ready (run : Listen) : Prop :=
  match run.program with
  | .pure _ => False
  | .call c _ => c = .waitForInternalHooksHealthy → ∀ w ∈ run.wait, w.poll = .done

def Stop.ready (stop : Stop) : Prop :=
  match stop.program with
  | .pure _ => False
  | .call _ _ => True

/-- The loop waits at a point. -/
def Listen.polls (run : Listen) (point : Wait → Prop) : Prop := ∃ w ∈ run.wait, point w

/-- `/healthz` answers 200 only when all hooks have finished. -/
def State.possible (s : State) : Action → Prop
  | .listenAndServe _ => True
  | .shutdown _ => True
  | .listen i _ => ∃ run ∈ s.listens.deref i, run.ready
  | .stop j _ => ∃ stop ∈ s.stops.deref j, stop.ready
  | .hooksFinish i => ∃ run ∈ s.listens.deref i, run.hooks = .inFlight
  | .healthz i ok => ∃ run ∈ s.listens.deref i, run.polls (·.poll = .asking) ∧
      (ok = true → run.hooks = .finished)
  | .resume i => ∃ run ∈ s.listens.deref i, run.polls fun w => ∃ resume ∈ w.poll.pausedUntil, resume ≤ s.now
  | .giveUp i => ∃ run ∈ s.listens.deref i, run.polls fun w => w.deadline ≤ s.now ∧ w.poll.pausedUntil ≠ none
  | .tick _ => True

/-- The loop goes on to another point. -/
def Listen.goOn (run : Listen) (poll : Poll) : Listen :=
  { run with wait := run.wait.map fun w => { w with poll } }

def State.poll (s : State) (i : Ref) (poll : Poll) : State :=
  { s with listens := s.listens.modify i fun run => run.goOn poll }

def State.act (s : State) : Action → State
  | .listenAndServe cfg =>
    { s with listens := s.listens.alloc ⟨Lifecycle.listenAndServe cfg,.notStarted,none,false⟩ }
  | .shutdown cfg => { s with stops := s.stops.alloc ⟨Lifecycle.shutdown cfg,none⟩ }
  | .listen i reply =>
    match s.listens.deref i with
    | none => s
    | some run => s.listen i run reply
  | .stop j reply =>
    match s.stops.deref j with
    | none => s
    | some stop => s.stop j stop reply
  | .hooksFinish i => { s with listens := s.listens.modify i fun run => { run with hooks := .finished } }
  | .healthz i ok => s.poll i (if ok then .done else .pausing (s.now + healthzPollInterval))
  | .resume i => s.poll i .asking
  | .giveUp i => s.poll i .done
  | .tick elapsed => { s with now := s.now + elapsed }

def system : System State Action := ⟨State.possible,State.act⟩

def State.ctxDone (s : State) (i : Ref) : Bool := (s.listens.deref i).any (·.hooksCtxDone)

/-- The step cancels the context of a call's hooks. -/
def Cancels (s : State) (action : Action) (i : Ref) : Prop :=
  s.ctxDone i = false ∧ (s.act action).ctxDone i = true

/-- A `Shutdown` that finds a started server comes when the hooks can do without their context, and no
call starts its hooks between the look of a `Shutdown` at the server and its cancelling. -/
def Condition (s : State) : Action → Prop
  | .stop j _ => (∃ stop ∈ s.stops.deref j, pending stop.program = some .take) → s.cancelRun ≠ none →
      ∀ i ∈ s.internalHooksCancel, ∀ run ∈ s.listens.deref i, run.Settled s.now
  | .listen i _ => (∃ run ∈ s.listens.deref i, pending run.program = some .nonBlockingRun) →
      ∀ stop ∈ s.stops.objects, stop.target = some i → s.ctxDone i = true
  | _ => True

/-- How far a call of `ListenAndServe` is with its hooks. -/
structure Progress where
  started : Bool
  waited : Bool

namespace Progress

def note (h : Progress) : (c : Call) → Answer c → Progress
  | .nonBlockingRun,none => { h with started := true }
  | .waitForInternalHooksHealthy,_ => { h with waited := true }
  | _,_ => h

/-- A call cancels before it has started the hooks or after it has waited for them. -/
def Next (h : Progress) : Call → Prop
  | .nonBlockingRun => h.started = false
  | .internalHooksCancel => h.started = false ∨ h.waited = true
  | _ => True

variable {h : Progress}

theorem abortListenAndServe_traced (err : Error) (unstarted : h.started = false) :
    (abortListenAndServe err).Traced note Next (fun _ _ => True) h :=
  ⟨trivial,fun _ => ⟨trivial,fun _ => ⟨.inl unstarted,fun _ => ⟨trivial,fun _ => trivial⟩⟩⟩⟩

theorem abortAfterInternalHooksStarted_traced (err : Error) :
    (abortAfterInternalHooksStarted err).Traced note Next (fun _ _ => True) h :=
  ⟨trivial,fun _ => ⟨trivial,fun _ => ⟨.inr rfl,fun _ => ⟨trivial,fun _ => ⟨trivial,fun _ => trivial⟩⟩⟩⟩⟩

theorem startManager_traced (cfg : Config) : (startManager cfg).Traced note Next (fun _ _ => True) h := by
  unfold startManager
  split
  · trivial
  · exact ⟨trivial,fun _ => ⟨trivial,fun _ => trivial⟩⟩

theorem listenAndServe_traced (cfg : Config) :
    (listenAndServe cfg).Traced note Next (fun _ _ => True) ⟨false,false⟩ := by
  refine ⟨trivial,?_⟩
  rintro (_ | _)
  · refine ⟨trivial,?_⟩
    rintro (_ | err)
    · refine ⟨trivial,fun _ => ⟨trivial,fun _ => ⟨rfl,?_⟩⟩⟩
      rintro (_ | err)
      · dsimp only [Program.bind]
        refine traced_bind (runPostStartHooks_unnoted (fun _ => trivial) (fun _ _ => rfl) 0 cfg.postStartHooks) ?_
        rintro _ (_ | err) rfl
        · refine ⟨trivial,fun _ => ?_⟩
          dsimp only [Program.bind]
          refine traced_bind (startManager_traced cfg) ?_
          intro h _ _
          refine ⟨trivial,?_⟩
          rintro (_ | err)
          · trivial
          · dsimp only [Program.bind]
            split <;> trivial
        · exact abortAfterInternalHooksStarted_traced _
      · exact abortListenAndServe_traced _ rfl
    · exact abortListenAndServe_traced _ rfl
  · trivial

end Progress

variable {s : State} {run : Listen} {stop : Stop} {now : Int} {c : Call} {h : Progress} {w : Wait} {poll : Poll}

/-- What the hooks of a call have to do with how far it is. -/
structure Agrees (now : Int) (run : Listen) (h : Progress) : Prop where
  unstarted : h.started = false → run.hooks = .notStarted
  ended : ∀ w, run.wait = some w → w.poll = .done → run.hooks = .finished ∨ w.deadline ≤ now
  waited : h.waited = true → ∃ w, run.wait = some w ∧ w.poll = .done

/-- A call is on its way, and its hooks agree with how far it is. -/
def Underway (now : Int) (run : Listen) : Prop :=
  ∃ h : Progress, run.program.Traced Progress.note Progress.Next (fun _ _ => True) h ∧ Agrees now run h

theorem Agrees.settled (agrees : Agrees now run h) (ready : h.started = false ∨ h.waited = true) :
    run.Settled now := by
  rcases ready with unstarted | waited
  · exact .inl (agrees.unstarted unstarted)
  · obtain ⟨w,found,done⟩ := agrees.waited waited
    rcases agrees.ended w found done with finished | late
    · exact .inr (.inl finished)
    · exact .inr (.inr (by simp [Listen.elapsed,found,late]))

/-- The hooks of a call that a `Shutdown` is about to cancel, or has cancelled. -/
def Spared (now : Int) (run : Listen) : Prop := run.hooksCtxDone = true ∨ run.Settled now

structure Inv (s : State) : Prop where
  underway : ∀ i run, s.listens.deref i = some run → Underway s.now run
  targets : ∀ j stop, s.stops.deref j = some stop → ∀ i, stop.target = some i →
    ∀ run, s.listens.deref i = some run → Spared s.now run

theorem inv_initial (now : Int) : Inv (initial now) where
  underway i run found := by simp [initial] at found
  targets j stop found := by simp [initial] at found

theorem Inv.modify (inv : Inv s) (i : Ref) (f : Listen → Listen)
    (underway : ∀ run, s.listens.deref i = some run → Underway s.now run → Underway s.now (f run))
    (spared : ∀ run, s.listens.deref i = some run → (∃ stop ∈ s.stops.objects, stop.target = some i) →
      Spared s.now run → Spared s.now (f run)) :
    Inv { s with listens := s.listens.modify i f, cancelRun, internalHooksCancel, mgrCancel } where
  underway r run found := by
    simp only [Heap.deref_modify] at found
    split at found
    · next same =>
      subst same
      obtain ⟨before,there,rfl⟩ := Option.map_eq_some_iff.mp found
      exact underway before there (inv.underway r before there)
    · exact inv.underway r run found
  targets j stop at_j r target run found := by
    simp only [Heap.deref_modify] at found
    split at found
    · next same =>
      subst same
      obtain ⟨before,there,rfl⟩ := Option.map_eq_some_iff.mp found
      exact spared before there ⟨stop,List.mem_of_getElem? at_j,target⟩
        (inv.targets j stop at_j r target before there)
    · exact inv.targets j stop at_j r target run found

theorem Inv.setStop (inv : Inv s) (there : s.stops.deref j = some before) (stop : Stop)
    (target : ∀ i, stop.target = some i → before.target = some i ∨
      ∀ run, s.listens.deref i = some run → run.Settled s.now) :
    Inv ({ s with cancelRun }.setStop j stop) where
  underway := inv.underway
  targets k other at_k r taken run found := by
    have at_k : (s.stops.set j stop).deref k = some other := at_k
    rw [Heap.deref_set there] at at_k
    split at at_k
    · cases at_k
      rcases target r taken with same | settled
      · exact inv.targets j before there r same run found
      · exact .inr (settled run found)
    · exact inv.targets k other at_k r taken run found

theorem setListen_store (s : State) (i : Ref) (c : Call) (run : Listen) :
    (s.store i c).setListen i run =
      { s with
        listens := s.listens.set i run
        cancelRun := (s.store i c).cancelRun
        internalHooksCancel := (s.store i c).internalHooksCancel
        mgrCancel := (s.store i c).mgrCancel } := by
  unfold State.store
  split
  · split <;> rfl
  all_goals rfl

theorem Listen.Settled.began (settled : run.Settled now) (unasked : run.wait = none) (w : Wait) :
    { run with wait := some w }.Settled now := by
  rcases settled with fresh | finished | late
  · exact .inl fresh
  · exact .inr (.inl finished)
  · simp [Listen.elapsed,unasked] at late

theorem Agrees.began (agrees : Agrees now run h) (unasked : run.wait = none) :
    Agrees now { run with wait := some ⟨deadline,.asking⟩ } h where
  unstarted := agrees.unstarted
  ended := by
    rintro w ⟨⟩ done
    cases done
  waited waited := by
    obtain ⟨w,asked,_⟩ := agrees.waited waited
    rw [unasked] at asked
    cases asked

/-- A step that is not the start of the hooks, seen from the hooks. -/
theorem Listen.Settled.effect (settled : run.Settled now) (other : c ≠ .nonBlockingRun)
    (reply : Option Error) (program : ServerProgram (Option Error)) :
    { run.effect reply c with program }.Settled now := by
  unfold Listen.effect
  split
  · exact absurd rfl other
  all_goals exact settled

theorem Listen.effect_ctxDone (run : Listen) (reply : Option Error) (c : Call)
    (cancelled : run.hooksCtxDone = true) : (run.effect reply c).hooksCtxDone = true := by
  unfold Listen.effect
  split
  · split <;> exact cancelled
  · rfl
  · exact cancelled

theorem Agrees.effect (agrees : Agrees s.now run h) (next : Progress.Next h c)
    (waits : c = .waitForInternalHooksHealthy → ∃ w, run.wait = some w ∧ w.poll = .done)
    (reply : Option Error) (program : ServerProgram (Option Error)) :
    Agrees s.now { run.effect reply c with program } (Progress.note h c (s.answer reply c)) := by
  obtain ⟨unstarted,ended,waited⟩ := agrees
  cases c with
  | nonBlockingRun =>
    cases reply with
    | some err => exact ⟨unstarted,ended,waited⟩
    | none =>
      refine ⟨fun impossible => (by cases impossible),?_,waited⟩
      intro w asked done
      rcases ended w asked done with finished | late
      · rw [unstarted next] at finished
        cases finished
      · exact .inr late
  | waitForInternalHooksHealthy => exact ⟨unstarted,ended,fun _ => waits rfl⟩
  | _ => exact ⟨unstarted,ended,waited⟩

theorem Inv.listenStep (inv : Inv s) (found : s.listens.deref i = some run) (ready : run.ready)
    (condition : pending run.program = some .nonBlockingRun →
      ∀ stop ∈ s.stops.objects, stop.target = some i → run.hooksCtxDone = true) (reply : Option Error) :
    Inv (s.listen i run reply) := by
  obtain ⟨h,traced,agrees⟩ := inv.underway i run found
  have only {other : Listen} (there : s.listens.deref i = some other) : other = run := by
    cases found.symm.trans there
    rfl
  unfold State.listen
  unfold Listen.ready at ready
  cases program : run.program with
  | pure a => exact inv
  | call c next =>
    rw [program] at traced ready condition
    dsimp only
    split
    · next begins =>
      refine inv.modify i _ ?_ ?_
      · intro other there _
        refine ⟨h,traced,?_⟩
        rw [← program]
        exact agrees.began begins.2
      · intro other there _ spared
        rw [only there] at spared
        exact spared.imp_right fun settled => Listen.Settled.began settled begins.2 _
    · next goes =>
      rw [setListen_store]
      refine inv.modify i _ ?_ ?_
      · intro other there _
        refine ⟨_,traced.2 _,agrees.effect traced.1 ?_ reply _⟩
        rintro rfl
        obtain ⟨w,asked⟩ := Option.ne_none_iff_exists'.mp fun unasked => goes ⟨rfl,unasked⟩
        exact ⟨w,asked,ready rfl w asked⟩
      · rintro other there ⟨stop,listed,target⟩ spared
        rw [only there] at spared
        by_cases starts : c = .nonBlockingRun
        · exact .inl (run.effect_ctxDone reply c (condition (congrArg some starts) stop listed target))
        · rcases spared with cancelled | settled
          · exact .inl (run.effect_ctxDone reply c cancelled)
          · exact .inr (Listen.Settled.effect settled starts reply _)

theorem Inv.cancelHooks (inv : Inv s) (target : Option Ref) : Inv (s.cancelHooks target) := by
  cases target with
  | none => exact inv
  | some i =>
    refine inv.modify i _ ?_ ?_
    · rintro run _ ⟨h,traced,agrees⟩
      exact ⟨h,traced,agrees.unstarted,agrees.ended,agrees.waited⟩
    · intro run _ _ _
      exact .inl rfl

theorem cancelHooks_stops (s : State) (target : Option Ref) : (s.cancelHooks target).stops = s.stops := by
  cases target <;> rfl

theorem Inv.stopStep (inv : Inv s) (found : s.stops.deref j = some stop)
    (condition : pending stop.program = some .take → s.cancelRun ≠ none →
      ∀ i ∈ s.internalHooksCancel, ∀ run ∈ s.listens.deref i, run.Settled s.now) (reply : Option Error) :
    Inv (s.stop j stop reply) := by
  unfold State.stop
  cases program : stop.program with
  | pure a => exact inv
  | call c next =>
    rw [program] at condition
    dsimp only
    split
    · refine inv.setStop found _ ?_
      intro i target
      dsimp only at target
      split at target
      · next started =>
        exact .inr fun run there => condition rfl (Option.isSome_iff_ne_none.mp started) i target run there
      · cases target
    · have there : (s.cancelHooks stop.target).stops.deref j = some stop := by
        rw [cancelHooks_stops,found]
      exact (inv.cancelHooks stop.target).setStop there _ fun i target => .inl target
    · exact inv.setStop found _ fun i target => .inl target

theorem Agrees.finish (agrees : Agrees now run h) (flying : run.hooks = .inFlight) :
    Agrees now { run with hooks := .finished } h where
  unstarted unstarted := by
    have := agrees.unstarted unstarted
    rw [flying] at this
    cases this
  ended _ _ _ := .inl rfl
  waited := agrees.waited

theorem Agrees.polled (agrees : Agrees now run h) (asked : run.wait = some w) (undone : w.poll ≠ .done)
    (reached : poll = .done → run.hooks = .finished ∨ w.deadline ≤ now) :
    Agrees now (run.goOn poll) h where
  unstarted := agrees.unstarted
  ended := by
    rw [Listen.goOn,asked]
    rintro _ ⟨⟩ done
    exact reached done
  waited waited := by
    obtain ⟨v,same,done⟩ := agrees.waited waited
    cases asked.symm.trans same
    exact absurd done undone

theorem Listen.Settled.polled (settled : run.Settled now) (poll : Poll) : (run.goOn poll).Settled now := by
  refine settled.imp id (Or.imp id ?_)
  intro late
  simpa [Listen.goOn,Listen.elapsed,Option.any_map,Function.comp_def] using late

theorem Inv.polled (inv : Inv s) (found : s.listens.deref i = some run) (asked : run.wait = some w)
    (undone : w.poll ≠ .done) (reached : poll = .done → run.hooks = .finished ∨ w.deadline ≤ s.now) :
    Inv (s.poll i poll) := by
  refine inv.modify i _ ?_ ?_
  · rintro other there ⟨h,traced,agrees⟩
    cases found.symm.trans there
    exact ⟨h,traced,agrees.polled asked undone reached⟩
  · intro other there _ spared
    exact spared.imp_right fun settled => Listen.Settled.polled settled poll

theorem Listen.Settled.later (settled : run.Settled now) (elapsed : Nat) : run.Settled (now + elapsed) := by
  refine settled.imp id (Or.imp id ?_)
  intro late
  obtain ⟨w,asked,before⟩ := (Option.any_eq_true _ _).mp late
  refine (Option.any_eq_true _ _).mpr ⟨w,asked,?_⟩
  have before : w.deadline ≤ now := of_decide_eq_true before
  exact decide_eq_true (by omega)

theorem Inv.tick (inv : Inv s) (elapsed : Nat) : Inv { s with now := s.now + elapsed } where
  underway i run found := by
    obtain ⟨h,traced,agrees⟩ := inv.underway i run found
    refine ⟨h,traced,agrees.unstarted,?_,agrees.waited⟩
    intro w asked done
    refine (agrees.ended w asked done).imp_right fun late => ?_
    dsimp only
    omega
  targets j stop at_j i target run found :=
    (inv.targets j stop at_j i target run found).imp_right fun settled =>
      Listen.Settled.later settled elapsed

theorem undone_of_paused (paused : poll.pausedUntil ≠ none) : poll ≠ .done := by
  rintro rfl
  exact paused rfl

theorem Inv.listenAndServe (inv : Inv s) (cfg : Config) : Inv (s.act (.listenAndServe cfg)) where
  underway i run found := by
    simp only [State.act,Heap.deref_alloc] at found
    split at found
    · cases found
      refine ⟨_,Progress.listenAndServe_traced cfg,fun _ => rfl,?_,?_⟩
      · intro w asked
        cases asked
      · intro waited
        cases waited
    · exact inv.underway i run found
  targets j stop at_j i target run found := by
    simp only [State.act,Heap.deref_alloc] at found
    split at found
    · cases found
      exact .inr (.inl rfl)
    · exact inv.targets j stop at_j i target run found

theorem Inv.shutdown (inv : Inv s) (cfg : Config) : Inv (s.act (.shutdown cfg)) where
  underway := inv.underway
  targets j stop at_j i target run found := by
    simp only [State.act,Heap.deref_alloc] at at_j
    split at at_j
    · cases at_j
      cases target
    · exact inv.targets j stop at_j i target run found

theorem Inv.step (inv : Inv s) (possible : s.possible action) (condition : Condition s action) :
    Inv (s.act action) := by
  cases action with
  | listenAndServe cfg => exact inv.listenAndServe cfg
  | shutdown cfg => exact inv.shutdown cfg
  | listen i reply =>
    obtain ⟨run,found,ready⟩ := possible
    have found : s.listens.deref i = some run := found
    simp only [State.act,found]
    refine inv.listenStep found ready ?_ reply
    intro starts stop listed target
    have cancelled := condition ⟨run,found,starts⟩ stop listed target
    simpa [State.ctxDone,found] using cancelled
  | stop j reply =>
    obtain ⟨stop,found,_⟩ := possible
    have found : s.stops.deref j = some stop := found
    simp only [State.act,found]
    exact inv.stopStep found (fun takes => condition ⟨stop,found,takes⟩) reply
  | hooksFinish i =>
    obtain ⟨run,found,flying⟩ := possible
    refine inv.modify i _ ?_ ?_
    · rintro other there ⟨h,traced,agrees⟩
      cases found.symm.trans there
      exact ⟨h,traced,agrees.finish flying⟩
    · intro other there _ _
      exact .inr (.inr (.inl rfl))
  | healthz i ok =>
    obtain ⟨run,found,⟨w,asked,asking⟩,finished⟩ := possible
    refine inv.polled found asked (by rw [asking]; simp) ?_
    intro done
    cases ok
    · cases done
    · exact .inl (finished rfl)
  | resume i =>
    obtain ⟨run,found,w,asked,resume,paused,_⟩ := possible
    refine inv.polled found asked (undone_of_paused (Option.ne_none_iff_exists'.mpr ⟨resume,paused⟩)) ?_
    intro done
    cases done
  | giveUp i =>
    obtain ⟨run,found,w,asked,late,paused⟩ := possible
    exact inv.polled found asked (undone_of_paused paused) fun _ => .inr late
  | tick elapsed => exact inv.tick elapsed

theorem reached_inv (run : (system.restrict Condition).Run (initial now) actions s) : Inv s :=
  run.invariant_restrict Inv (fun _ _ inv => inv.step) (inv_initial now)

theorem ctxDone_iff : s.ctxDone i = true ↔ ∃ run, s.listens.deref i = some run ∧ run.hooksCtxDone = true :=
  Option.any_eq_true _ _

theorem ctxDone_modify (s : State) (r i : Ref) {f : Listen → Listen}
    (done : { s with listens := s.listens.modify r f }.ctxDone i = true)
    (kept : ∀ run, (f run).hooksCtxDone = run.hooksCtxDone) : s.ctxDone i = true := by
  obtain ⟨run,found,cancelled⟩ := ctxDone_iff.mp done
  have same := Heap.map_deref_modify kept s.listens r i
  rw [show (s.listens.modify r f).deref i = some run from found] at same
  obtain ⟨before,there,equal⟩ := Option.map_eq_some_iff.mp same.symm
  exact ctxDone_iff.mpr ⟨before,there,equal.trans cancelled⟩

theorem ctxDone_listen (found : s.listens.deref r = some run) (done : (s.listen r run reply).ctxDone i = true) :
    s.ctxDone i = true ∨ r = i ∧ pending run.program = some .internalHooksCancel := by
  obtain ⟨after,there,cancelled⟩ := ctxDone_iff.mp done
  have own {new : Listen} (there : (s.listens.set r new).deref i = some after)
      (same : new.hooksCtxDone = run.hooksCtxDone) : s.ctxDone i = true := by
    rw [Heap.deref_set found] at there
    split at there
    · next equal =>
      cases there
      exact ctxDone_iff.mpr ⟨run,equal ▸ found,same ▸ cancelled⟩
    · exact ctxDone_iff.mpr ⟨after,there,cancelled⟩
  unfold State.listen at there
  cases program : run.program with
  | pure a =>
    rw [program] at there
    exact .inl (ctxDone_iff.mpr ⟨after,there,cancelled⟩)
  | call c next =>
    rw [program] at there
    dsimp only at there
    split at there
    · exact .inl (own there rfl)
    · rw [setListen_store] at there
      by_cases cancels : c = .internalHooksCancel
      · by_cases equal : i = r
        · exact .inr ⟨equal.symm,congrArg some cancels⟩
        · rw [Heap.deref_set found,if_neg equal] at there
          exact .inl (ctxDone_iff.mpr ⟨after,there,cancelled⟩)
      · refine .inl (own there ?_)
        unfold Listen.effect
        split
        · split <;> rfl
        · exact absurd rfl cancels
        · rfl

theorem ctxDone_stop (done : (s.stop j stop reply).ctxDone i = true) :
    s.ctxDone i = true ∨ stop.target = some i ∧ ∃ run, s.listens.deref i = some run := by
  obtain ⟨after,there,cancelled⟩ := ctxDone_iff.mp done
  unfold State.stop at there
  split at there
  · exact .inl (ctxDone_iff.mpr ⟨after,there,cancelled⟩)
  · dsimp only at there
    split at there
    · exact .inl (ctxDone_iff.mpr ⟨after,there,cancelled⟩)
    · have there : (s.cancelHooks stop.target).listens.deref i = some after := there
      cases target : stop.target with
      | none =>
        rw [target] at there
        exact .inl (ctxDone_iff.mpr ⟨after,there,cancelled⟩)
      | some r =>
        simp only [target,State.cancelHooks,Heap.deref_modify] at there
        split at there
        · next equal =>
          obtain ⟨run,found,_⟩ := Option.map_eq_some_iff.mp there
          exact .inr ⟨congrArg some equal.symm,run,found⟩
        · exact .inl (ctxDone_iff.mpr ⟨after,there,cancelled⟩)
    · exact .inl (ctxDone_iff.mpr ⟨after,there,cancelled⟩)

theorem cancels_cases (cancels : Cancels s action i) :
    ∃ run, s.listens.deref i = some run ∧
      (pending run.program = some .internalHooksCancel ∨
        ∃ j stop, s.stops.deref j = some stop ∧ stop.target = some i) := by
  obtain ⟨undone,done⟩ := cancels
  have before {p : Prop} (done : s.ctxDone i = true) : p := by
    rw [undone] at done
    cases done
  cases action with
  | listenAndServe cfg =>
    obtain ⟨run,there,cancelled⟩ := ctxDone_iff.mp done
    simp only [State.act,Heap.deref_alloc] at there
    split at there
    · cases there
      cases cancelled
    · exact before (ctxDone_iff.mpr ⟨run,there,cancelled⟩)
  | shutdown cfg => exact before done
  | listen r reply =>
    simp only [State.act] at done
    split at done
    · exact before done
    · next run found =>
      rcases ctxDone_listen found done with already | ⟨rfl,asks⟩
      · exact before already
      · exact ⟨run,found,.inl asks⟩
  | stop j reply =>
    simp only [State.act] at done
    split at done
    · exact before done
    · next stop found =>
      rcases ctxDone_stop done with already | ⟨target,run,there⟩
      · exact before already
      · exact ⟨run,there,.inr ⟨j,stop,found,target⟩⟩
  | hooksFinish r => exact before (ctxDone_modify s r i done fun _ => rfl)
  | healthz r ok => exact before (ctxDone_modify s r i done fun _ => rfl)
  | resume r => exact before (ctxDone_modify s r i done fun _ => rfl)
  | giveUp r => exact before (ctxDone_modify s r i done fun _ => rfl)
  | tick elapsed => exact before done

theorem Underway.settled (underway : Underway now run)
    (asks : pending run.program = some .internalHooksCancel) : run.Settled now := by
  obtain ⟨h,traced,agrees⟩ := underway
  cases program : run.program with
  | pure a =>
    rw [program] at asks
    cases asks
  | call c next =>
    rw [program] at asks traced
    cases asks
    exact agrees.settled traced.1

/-- The context of the internal hooks is cancelled before they start, after they have finished, or after the
five seconds of the wait, on every run whose steps meet the condition. -/
theorem internalHooks_settled_of_cancelled
    (run : (system.restrict Condition).Run (initial now) actions s) (cancels : Cancels s action i) :
    ∃ r ∈ s.listens.deref i, r.Settled s.now := by
  have inv := reached_inv run
  obtain ⟨r,found,asks | ⟨j,stop,at_j,target⟩⟩ := cancels_cases cancels
  · exact ⟨r,found,(inv.underway i r found).settled asks⟩
  · rcases inv.targets j stop at_j i target r found with cancelled | settled
    · have already := ctxDone_iff.mpr ⟨r,found,cancelled⟩
      rw [cancels.1] at already
      cases already
    · exact ⟨r,found,settled⟩

section Sample

instance (run : Listen) : Decidable run.ready :=
  match program : run.program with
  | .pure _ => isFalse (by simp [Listen.ready,program])
  | .call c _ => decidable_of_iff (c = .waitForInternalHooksHealthy → ∀ w ∈ run.wait, w.poll = .done)
      (by simp [Listen.ready,program])

instance (stop : Stop) : Decidable stop.ready :=
  match program : stop.program with
  | .pure _ => isFalse (by simp [Stop.ready,program])
  | .call _ _ => isTrue (by simp [Stop.ready,program])

instance (run : Listen) (point : Wait → Prop) [DecidablePred point] : Decidable (run.polls point) :=
  inferInstanceAs (Decidable (∃ w ∈ run.wait, point w))

instance (s : State) : (action : Action) → Decidable (system.allowed s action)
  | .listenAndServe _ | .shutdown _ | .tick _ => isTrue trivial
  | .listen i _ => inferInstanceAs (Decidable (∃ run ∈ s.listens.deref i, run.ready))
  | .stop j _ => inferInstanceAs (Decidable (∃ stop ∈ s.stops.deref j, stop.ready))
  | .hooksFinish i => inferInstanceAs (Decidable (∃ run ∈ s.listens.deref i, run.hooks = .inFlight))
  | .healthz i ok => inferInstanceAs (Decidable (∃ run ∈ s.listens.deref i, run.polls (·.poll = .asking) ∧
      (ok = true → run.hooks = .finished)))
  | .resume i => inferInstanceAs (Decidable (∃ run ∈ s.listens.deref i, run.polls fun w =>
      ∃ resume ∈ w.poll.pausedUntil, resume ≤ s.now))
  | .giveUp i => inferInstanceAs (Decidable (∃ run ∈ s.listens.deref i, run.polls fun w =>
      w.deadline ≤ s.now ∧ w.poll.pausedUntil ≠ none))

instance (s : State) : (action : Action) → Decidable (Condition s action)
  | .stop j _ => inferInstanceAs (Decidable ((∃ stop ∈ s.stops.deref j, pending stop.program = some .take) →
      s.cancelRun ≠ none → ∀ i ∈ s.internalHooksCancel, ∀ run ∈ s.listens.deref i, run.Settled s.now))
  | .listen i _ => inferInstanceAs (Decidable ((∃ run ∈ s.listens.deref i,
      pending run.program = some .nonBlockingRun) → ∀ stop ∈ s.stops.objects, stop.target = some i →
      s.ctxDone i = true))
  | .listenAndServe _ | .shutdown _ | .hooksFinish _ | .healthz _ _ | .resume _ | .giveUp _ | .tick _ =>
    isTrue trivial

instance (s : State) (action : Action) (i : Ref) : Decidable (Cancels s action i) :=
  inferInstanceAs (Decidable (_ ∧ _))

/-- A server with one hook. -/
def oneHook : Config := ⟨":8443",false,false,1,0⟩

def steps (n : Nat) (action : Action) : List Action := List.replicate n action

/-- The hook fails while the internal hooks are in flight; they finish during the wait. -/
def failingHook : List Action :=
  [Action.listenAndServe oneHook] ++ steps 5 (.listen 0 none) ++
    [Action.listen 0 (some (.of (.other "refused"))),.listen 0 none,.healthz 0 false,.hooksFinish 0,.tick 50,.resume 0,
      .healthz 0 true] ++ steps 2 (.listen 0 none)

theorem internalHooks_settled_of_cancelled_failingHook :
    ∃ s, (system.restrict Condition).Run (initial 0) failingHook s ∧ Cancels s (.listen 0 none) 0 ∧
      ∃ r ∈ s.listens.deref 0, r.Settled s.now := by
  have run := System.run_of_admits (system.restrict Condition) (initial 0) failingHook (by decide +kernel)
  have cancels : Cancels (failingHook.foldl (system.restrict Condition).apply (initial 0)) (.listen 0 none) 0 := by
    decide +kernel
  exact ⟨_,run,cancels,internalHooks_settled_of_cancelled run cancels⟩

/-- `Shutdown` comes while the hook of `ListenAndServe` runs, and the internal hooks are in flight. -/
def shutdownDuringHook : List Action :=
  [Action.listenAndServe oneHook] ++ steps 5 (.listen 0 none) ++ [Action.shutdown oneHook] ++ steps 2 (.stop 0 none)

/-- `Shutdown` looks at the server before `ListenAndServe` starts the internal hooks. -/
def shutdownBeforeHooks : List Action :=
  [Action.listenAndServe oneHook] ++ steps 4 (.listen 0 none) ++ [Action.shutdown oneHook] ++ steps 2 (.stop 0 none) ++
    [Action.listen 0 none]

theorem shutdown_cancels_in_flight :
    (∃ s, system.Run (initial 0) shutdownDuringHook s ∧ system.allowed s (.stop 0 none) ∧
      Cancels s (.stop 0 none) 0 ∧ ∃ r ∈ s.listens.deref 0, r.hooks = .inFlight ∧ ¬r.Settled s.now) ∧
    ∃ s, system.Run (initial 0) shutdownBeforeHooks s ∧ system.allowed s (.stop 0 none) ∧
      Cancels s (.stop 0 none) 0 ∧ ∃ r ∈ s.listens.deref 0, r.hooks = .inFlight ∧ ¬r.Settled s.now := by
  constructor
  all_goals exact ⟨_,System.run_of_admits _ _ _ (by decide +kernel),by decide +kernel,by decide +kernel,
    by decide +kernel⟩

end Sample

end Kommodity.Libkapi.InternalHooks
