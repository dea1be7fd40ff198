import Mathlib.Logic.Nontrivial.Defs
import Mathlib.Logic.Function.Basic
import Kommodity.Transition

/-! Programs that reach their surroundings through calls, and threads that run such programs
over a shared state. An observer notes the calls of a run and their answers; `Traced` says what
the notes and the next call can be, whatever the answers are. `Keeps` is the invariant rule: one
obligation for each kind of step, with the interference of other threads apart. -/
namespace Interaction

open Transition

inductive Program (C : Type) (A : C → Type) (α : Type) where
  | pure (result : α)
  | call (c : C) (next : A c → Program C A α)

variable {C : Type} {A : C → Type} {α β H : Type}

def Program.bind : Program C A α → (α → Program C A β) → Program C A β
  | .pure a,k => k a
  | .call c next,k => .call c fun a => (next a).bind k

instance : Monad (Program C A) where
  pure := .pure
  bind := .bind

def request (c : C) : Program C A (A c) := .call c .pure

/-- Every call of the program meets `Next` and every result meets `Returns`, given the notes
taken up to there. -/
def Program.Traced (note : H → (c : C) → A c → H) (Next : H → C → Prop) (Returns : H → α → Prop) :
    H → Program C A α → Prop
  | h,.pure a => Returns h a
  | h,.call c next => Next h c ∧ ∀ a, (next a).Traced note Next Returns (note h c a)

section Rules

variable {note : H → (c : C) → A c → H} {Next : H → C → Prop}

@[simp] theorem traced_pure {Returns : H → α → Prop} (h : H) (a : α) :
    (pure a : Program C A α).Traced note Next Returns h ↔ Returns h a := Iff.rfl

@[simp] theorem traced_request_bind {Returns : H → α → Prop} (h : H) (c : C)
    (k : A c → Program C A α) :
    (request c >>= k).Traced note Next Returns h ↔
      Next h c ∧ ∀ a, (k a).Traced note Next Returns (note h c a) := Iff.rfl

theorem traced_bind {Middle : H → α → Prop} {Returns : H → β → Prop} {p : Program C A α}
    {k : α → Program C A β} (first : p.Traced note Next Middle h)
    (rest : ∀ h a, Middle h a → (k a).Traced note Next Returns h) :
    (p >>= k).Traced note Next Returns h := by
  induction p generalizing h with
  | pure a => exact rest h a first
  | call c next ih => exact ⟨first.1,fun a => ih a (first.2 a)⟩

theorem Program.Traced.imp {Next' : H → C → Prop} {Returns : H → α → Prop} {p : Program C A α}
    (traced : p.Traced note Next Returns h) (weaker : ∀ h c, Next h c → Next' h c) :
    p.Traced note Next' Returns h := by
  induction p generalizing h with
  | pure a => exact traced
  | call c next ih => exact ⟨weaker h c traced.1,fun a => ih a (traced.2 a)⟩

theorem Program.Traced.returns {Returns Returns' : H → α → Prop} {p : Program C A α}
    (traced : p.Traced note Next Returns h) (weaker : ∀ h a, Returns h a → Returns' h a) :
    p.Traced note Next Returns' h := by
  induction p generalizing h with
  | pure a => exact weaker h a traced
  | call c next ih => exact ⟨traced.1,fun a => ih a (traced.2 a)⟩

/-- Notes under which everything is permitted, and which no answer leaves. -/
theorem traced_of_closed {P : H → Prop} {Returns : H → α → Prop}
    (closed : ∀ h c, P h → Next h c ∧ ∀ a, P (note h c a)) (returns : ∀ h a, P h → Returns h a)
    (p : Program C A α) (start : P h) : p.Traced note Next Returns h := by
  induction p generalizing h with
  | pure a => exact returns h a start
  | call c next ih => exact ⟨(closed h c start).1,fun a => ih a ((closed h c start).2 a)⟩

/-- The notes and the rest of the program that some answers lead to. -/
inductive Program.Reaches (note : H → (c : C) → A c → H) (h : H) (p : Program C A α) :
    H → Program C A α → Prop where
  | start : Program.Reaches note h p h p
  | answer (a : A c) : Program.Reaches note h p h' (.call c next) →
      Program.Reaches note h p (note h' c a) (next a)

theorem Program.Reaches.traced {Returns : H → α → Prop} {p q : Program C A α}
    (reached : p.Reaches note h h' q) (traced : p.Traced note Next Returns h) :
    q.Traced note Next Returns h' := by
  induction reached with
  | start => exact traced
  | answer a _ ih => exact ih.2 a

theorem reaches_request (note : H → (c : C) → A c → H) (h : H) (c : C) (a : A c)
    (k : A c → Program C A α) : (request c >>= k).Reaches note h (note h c a) (k a) := .answer a .start

theorem Program.Reaches.trans {p q r : Program C A α} (first : p.Reaches note h h' q)
    (second : q.Reaches note h' h'' r) : p.Reaches note h h'' r := by
  induction second with
  | start => exact first
  | answer a _ ih => exact .answer a ih

theorem Program.Reaches.bind {p q : Program C A α} (reached : p.Reaches note h h' q)
    (k : α → Program C A β) : (p >>= k).Reaches note h h' (q >>= k) := by
  induction reached with
  | start => exact .start
  | answer a _ ih => exact .answer a ih

/-- A program for a part of the surroundings, as one for the whole. -/
def Program.embed {C' : Type} {A' : C' → Type} (f : C → C') :
    Program C (fun c => A' (f c)) α → Program C' A' α
  | .pure a => .pure a
  | .call c next => .call (f c) fun a => (next a).embed f

/-- Its trace is that of the program, as far as the notes are about the part; what the notes say
about the rest stays. -/
theorem Program.Traced.embed {C' H' : Type} {A' : C' → Type} (f : C → C') {note' : H' → (c : C') → A' c → H'}
    {note : H → (c : C) → A' (f c) → H} {Next' : H' → C' → Prop} {Returns : H → α → Prop}
    {p : Program C (fun c => A' (f c)) α} {h : H'} (part : H' → H) (Rest : H' → Prop)
    (noted : ∀ h c a, part (note' h (f c) a) = note (part h) c a)
    (rest : ∀ h c a, Rest h → Rest (note' h (f c) a))
    (next : ∀ h c, Rest h → Next (part h) c → Next' h (f c))
    (traced : p.Traced note Next Returns (part h)) (start : Rest h) :
    (p.embed f).Traced note' Next' (fun h a => Rest h ∧ Returns (part h) a) h := by
  induction p generalizing h with
  | pure a => exact ⟨start,traced⟩
  | call c next' ih =>
    refine ⟨next h c start traced.1,?_⟩
    intro a
    refine ih a ?_ (rest h c a start)
    rw [noted]
    exact traced.2 a

end Rules

/-- The result when every call gets the answer the function has for it. -/
def Program.answered (answers : (c : C) → A c) : Program C A α → α
  | .pure a => a
  | .call c next => (next (answers c)).answered answers

/-- The calls made then. -/
def Program.asked (answers : (c : C) → A c) : Program C A α → List C
  | .pure _ => []
  | .call c next => c :: (next (answers c)).asked answers

/-- The notes taken then. -/
def Program.noted (answers : (c : C) → A c) (note : H → (c : C) → A c → H) : H → Program C A α → H
  | h,.pure _ => h
  | h,.call c next => (next (answers c)).noted answers note (note h c (answers c))

section Answered

variable (answers : (c : C) → A c)

theorem reaches_answered (note : H → (c : C) → A c → H) (h : H) (p : Program C A α) :
    p.Reaches note h (p.noted answers note h) (.pure (p.answered answers)) := by
  induction p generalizing h with
  | pure a => exact .start
  | call c next ih => exact Program.Reaches.trans (.answer (answers c) .start) (ih (answers c) _)

@[simp] theorem answered_pure (a : α) : (pure a : Program C A α).answered answers = a := rfl

@[simp] theorem answered_request (c : C) : (request c : Program C A (A c)).answered answers = answers c := rfl

@[simp] theorem answered_bind (p : Program C A α) (k : α → Program C A β) :
    (p >>= k).answered answers = (k (p.answered answers)).answered answers := by
  induction p with
  | pure a => rfl
  | call c next ih => exact ih (answers c)

@[simp] theorem asked_pure (a : α) : (pure a : Program C A α).asked answers = [] := rfl

@[simp] theorem asked_request (c : C) : (request c : Program C A (A c)).asked answers = [c] := rfl

@[simp] theorem asked_bind (p : Program C A α) (k : α → Program C A β) :
    (p >>= k).asked answers = p.asked answers ++ (k (p.answered answers)).asked answers := by
  induction p with
  | pure a => rfl
  | call c next ih => exact congrArg (c :: ·) (ih (answers c))

end Answered

section Alone

variable {S F : Type} (serve : S → (c : C) → F → A c × S) (allowed : S → (c : C) → F → Prop)

/-- A program that runs alone from a state to a result and a state. -/
inductive Program.Runs : S → Program C A α → α → S → Prop where
  | pure : Program.Runs s (.pure a) a s
  | call (f : F) (admitted : allowed s c f)
      (rest : Program.Runs (serve s c f).2 (next (serve s c f).1) a t) : Program.Runs s (.call c next) a t

/-- Whatever the replies are, the program ends with a result and a state that meet `Post`. -/
def Program.Ensures (Post : α → S → Prop) : S → Program C A α → Prop
  | s,.pure a => Post a s
  | s,.call c next => ∀ f, allowed s c f →
    Program.Ensures Post (serve s c f).2 (next (serve s c f).1)

/-- The result and the state with the given replies, when they are allowed and as many as the calls. -/
def Program.play [∀ s c f, Decidable (allowed s c f)] : S → Program C A α → List F → Option (α × S)
  | s,.pure a,[] => some (a,s)
  | s,.call c next,f :: rest =>
    if allowed s c f then Program.play (serve s c f).2 (next (serve s c f).1) rest else none
  | _,_,_ => none

variable {serve allowed}

theorem Program.Ensures.runs {Post : α → S → Prop} {p : Program C A α}
    (ensures : p.Ensures serve allowed Post s) (runs : p.Runs serve allowed s a t) : Post a t := by
  induction runs with
  | pure => exact ensures
  | call f admitted _ ih => exact ih (ensures f admitted)

@[simp] theorem ensures_pure {Post : α → S → Prop} (a : α) :
    (pure a : Program C A α).Ensures serve allowed Post s ↔ Post a s := Iff.rfl

@[simp] theorem ensures_request_bind {Post : α → S → Prop} (c : C) (k : A c → Program C A α) :
    (request c >>= k).Ensures serve allowed Post s ↔
      ∀ f, allowed s c f → (k (serve s c f).1).Ensures serve allowed Post (serve s c f).2 := Iff.rfl

theorem ensures_bind {Middle : α → S → Prop} {Post : β → S → Prop} {p : Program C A α}
    {k : α → Program C A β} (first : p.Ensures serve allowed Middle s)
    (rest : ∀ a t, Middle a t → (k a).Ensures serve allowed Post t) :
    (p >>= k).Ensures serve allowed Post s := by
  induction p generalizing s with
  | pure a => exact rest a s first
  | call c next ih => exact fun f admitted => ih _ (first f admitted)

theorem Program.Ensures.imp {Post Post' : α → S → Prop} {p : Program C A α}
    (ensures : p.Ensures serve allowed Post s) (weaker : ∀ a t, Post a t → Post' a t) :
    p.Ensures serve allowed Post' s := by
  induction p generalizing s with
  | pure a => exact weaker a s ensures
  | call c next ih => exact fun f admitted => ih _ (ensures f admitted)

/-- A program whose calls can all be answered comes to an end. -/
theorem Program.exists_runs (answerable : ∀ s c, ∃ f, allowed s c f) (p : Program C A α) (s : S) :
    ∃ a t, p.Runs serve allowed s a t := by
  induction p generalizing s with
  | pure a => exact ⟨a,s,.pure⟩
  | call c next ih =>
    obtain ⟨f,admitted⟩ := answerable s c
    obtain ⟨a,t,rest⟩ := ih (serve s c f).1 (serve s c f).2
    exact ⟨a,t,.call f admitted rest⟩

theorem runs_of_play [∀ s c f, Decidable (allowed s c f)] {p : Program C A α} {replies : List F}
    (played : p.play serve allowed s replies = some (a,t)) : p.Runs serve allowed s a t := by
  induction p generalizing s replies with
  | pure b =>
    cases replies with
    | nil =>
      cases played
      exact .pure
    | cons f rest => cases played
  | call c next ih =>
    cases replies with
    | nil => cases played
    | cons f rest =>
      rw [Program.play] at played
      split at played
      · next admitted => exact .call f admitted (ih _ played)
      · cases played

end Alone

/-- Threads of type `I` that each run a program, over a shared state `S`. A call is answered by
`serve` from the state and a choice `F` of the surroundings, which can also change the state on
their own by a disturbance `E`. -/
structure Threads (I S C : Type) (A : C → Type) (F E H α : Type) where
  program : I → Program C A α
  fresh : H
  note : H → (c : C) → A c → H
  ready : S → Prop
  begin : S → S
  answerable : S → H → C → F → Prop
  serve : S → (c : C) → F → A c × S
  finish : S → H → α → S
  possible : S → E → Prop
  disturb : S → E → S

inductive Action (I F E : Type) where
  | begin (thread : I)
  | answer (thread : I) (choice : F)
  | disturb (disturbance : E)
  deriving DecidableEq

structure State (I S C : Type) (A : C → Type) (H α : Type) where
  shared : S
  thread : I → Option (H × Program C A α)

section Shared

variable {I S F E : Type}

/-- The same threads with fewer answers and disturbances. -/
def Threads.restrict (M : Threads I S C A F E H α) (answers : S → H → C → F → Prop)
    (disturbances : S → E → Prop) : Threads I S C A F E H α :=
  { M with
    answerable := fun s h c f => M.answerable s h c f ∧ answers s h c f
    possible := fun s e => M.possible s e ∧ disturbances s e }

section Obligations

variable (M : Threads I S C A F E H α) (Next : H → C → Prop) (Returns : H → α → Prop)
  (Inv : S → Prop) (Held : S → H → Prop)

/-- One obligation for each kind of step, of a thread that runs alone. `Held` relates the notes of a
running thread to the state. -/
structure Threads.Steps : Prop where
  begins : ∀ s, Inv s → M.ready s → Inv (M.begin s) ∧ Held (M.begin s) M.fresh
  answers : ∀ s h c f, Inv s → Held s h → Next h c → M.answerable s h c f →
    Inv (M.serve s c f).2 ∧ Held (M.serve s c f).2 (M.note h c (M.serve s c f).1)
  finishes : ∀ s h a, Inv s → Held s h → Returns h a → Inv (M.finish s h a)
  disturbs : ∀ s e, Inv s → M.possible s e →
    Inv (M.disturb s e) ∧ ∀ h, Held s h → Held (M.disturb s e) h

/-- The last three fields are about the threads that do not move. -/
structure Threads.Keeps : Prop extends M.Steps Next Returns Inv Held where
  begins_other : Nontrivial I → ∀ s h, Inv s → Held s h → Held (M.begin s) h
  answers_other : Nontrivial I → ∀ s h c f h', Inv s → Held s h → Next h c → M.answerable s h c f →
    Held s h' → Held (M.serve s c f).2 h'
  finishes_other : Nontrivial I → ∀ s h a h', Inv s → Held s h → Returns h a → Held s h' →
    Held (M.finish s h a) h'

/-- Obligations with a relation between the notes of any two threads, for what one of them has to
itself. -/
structure Threads.KeepsApart (Apart : H → H → Prop) : Prop extends M.Steps Next Returns Inv Held where
  symm : ∀ h h', Apart h h' → Apart h' h
  begins_other : Nontrivial I → ∀ s h, Inv s → Held s h → Held (M.begin s) h ∧ Apart M.fresh h
  answers_other : Nontrivial I → ∀ s h c f h', Inv s → Held s h → Next h c → M.answerable s h c f →
    Held s h' → Apart h h' →
      Held (M.serve s c f).2 h' ∧ Apart (M.note h c (M.serve s c f).1) h'
  finishes_other : Nontrivial I → ∀ s h a h', Inv s → Held s h → Returns h a → Held s h' → Apart h h' →
    Held (M.finish s h a) h'

/-- Obligations for what the shared state says is in somebody's hands: a thread that gets hold of it
has it in its notes, and none lets go of it while it is `Owned`. -/
structure Threads.Covers (Owned : S → X → Prop) (Holds : H → X → Prop) : Prop where
  begins : ∀ s x, Inv s → M.ready s → Owned (M.begin s) x → Owned s x
  answers : ∀ s h c f x, Inv s → Held s h → Next h c → M.answerable s h c f → Owned (M.serve s c f).2 x →
    Holds (M.note h c (M.serve s c f).1) x ∨ (Owned s x ∧ ¬ Holds h x)
  finishes : ∀ s h a x, Inv s → Held s h → Returns h a → Owned (M.finish s h a) x → Owned s x ∧ ¬ Holds h x
  disturbs : ∀ s e x, Inv s → M.possible s e → Owned (M.disturb s e) x → Owned s x

/-- The state keeps `Inv`, and every running thread is held and on its trace. -/
def Threads.Good (s : State I S C A H α) : Prop :=
  Inv s.shared ∧ ∀ i h p, s.thread i = some (h,p) →
    Held s.shared h ∧ p.Traced M.note Next Returns h

end Obligations

variable {M : Threads I S C A F E H α} {Next : H → C → Prop} {Returns : H → α → Prop}
  {Inv : S → Prop} {Held : S → H → Prop}

/-- A state in which no thread runs. -/
def idle (shared : S) : State I S C A H α := ⟨shared,fun _ => none⟩

theorem good_idle (inv : Inv shared) : M.Good Next Returns Inv Held (idle shared) :=
  ⟨inv,fun _ _ _ running => by simp [idle] at running⟩

theorem Threads.Keeps.single [Subsingleton I] (steps : M.Steps Next Returns Inv Held) :
    M.Keeps Next Returns Inv Held where
  toSteps := steps
  begins_other two := absurd two (not_nontrivial I)
  answers_other two := absurd two (not_nontrivial I)
  finishes_other two := absurd two (not_nontrivial I)

theorem Threads.Keeps.apart (keeps : M.Keeps Next Returns Inv Held) :
    M.KeepsApart Next Returns Inv Held fun _ _ => True where
  toSteps := keeps.toSteps
  symm _ _ _ := trivial
  begins_other two s h inv held := ⟨keeps.begins_other two s h inv held,trivial⟩
  answers_other two s h c f h' inv held permitted answerable held' _ :=
    ⟨keeps.answers_other two s h c f h' inv held permitted answerable held',trivial⟩
  finishes_other two s h a h' inv held returned held' _ :=
    keeps.finishes_other two s h a h' inv held returned held'

/-- The notes of any two running threads are apart. -/
def Threads.Separate (Apart : H → H → Prop) (s : State I S C A H α) : Prop :=
  ∀ i j h p h' p', i ≠ j → s.thread i = some (h,p) → s.thread j = some (h',p') → Apart h h'

def Threads.Covered (Owned : S → X → Prop) (Holds : H → X → Prop) (s : State I S C A H α) : Prop :=
  ∀ x, Owned s.shared x → ∃ i h p, s.thread i = some (h,p) ∧ Holds h x

theorem Threads.Keeps.restrict (keeps : M.Keeps Next Returns Inv Held)
    (answers : S → H → C → F → Prop) (disturbances : S → E → Prop) :
    (M.restrict answers disturbances).Keeps Next Returns Inv Held where
  begins := keeps.begins
  answers s h c f inv held permitted answerable := keeps.answers s h c f inv held permitted answerable.1
  finishes := keeps.finishes
  disturbs s e inv possible := keeps.disturbs s e inv possible.1
  begins_other := keeps.begins_other
  answers_other two s h c f h' inv held permitted answerable :=
    keeps.answers_other two s h c f h' inv held permitted answerable.1
  finishes_other := keeps.finishes_other

theorem Threads.Good.pending (good : M.Good Next Returns Inv Held s)
    (running : s.thread i = some (h,.call c next)) : Held s.shared h ∧ Next h c :=
  ⟨(good.2 i h _ running).1,(good.2 i h _ running).2.1⟩

variable [DecidableEq I]

/-- A program that has returned ends its thread at once. -/
def Threads.settle (M : Threads I S C A F E H α) (s : State I S C A H α) (i : I) (shared : S) (h : H) :
    Program C A α → State I S C A H α
  | .pure a => ⟨M.finish shared h a,Function.update s.thread i none⟩
  | p => ⟨shared,Function.update s.thread i (some (h,p))⟩

def Threads.system (M : Threads I S C A F E H α) : System (State I S C A H α) (Action I F E) where
  allowed s
    | .begin i => s.thread i = none ∧ M.ready s.shared
    | .answer i f => ∃ h c next, s.thread i = some (h,.call c next) ∧ M.answerable s.shared h c f
    | .disturb e => M.possible s.shared e
  apply s
    | .begin i => M.settle s i (M.begin s.shared) M.fresh (M.program i)
    | .answer i f =>
      match s.thread i with
      | some (h,.call c next) =>
        let (a,shared) := M.serve s.shared c f
        M.settle s i shared (M.note h c a) (next a)
      | _ => s
    | .disturb e => ⟨M.disturb s.shared e,s.thread⟩

instance Threads.decidableAllowed (M : Threads I S C A F E H α) [∀ s, Decidable (M.ready s)]
    [∀ s h c f, Decidable (M.answerable s h c f)] [∀ s e, Decidable (M.possible s e)]
    (s : State I S C A H α) : (action : Action I F E) → Decidable (M.system.allowed s action)
  | .begin i => inferInstanceAs (Decidable (s.thread i = none ∧ M.ready s.shared))
  | .answer i f =>
    match running : s.thread i with
    | some (h,.call c next) =>
      decidable_of_iff (M.answerable s.shared h c f) (by simp [Threads.system,running])
    | some (h,.pure a) => isFalse (by simp [Threads.system,running])
    | none => isFalse (by simp [Threads.system,running])
  | .disturb e => inferInstanceAs (Decidable (M.possible s.shared e))

section Apart

variable {Apart : H → H → Prop}

private theorem good_settle (keeps : M.KeepsApart Next Returns Inv Held Apart) {s : State I S C A H α}
    (inv : Inv shared) (held : Held shared h) (traced : p.Traced M.note Next Returns h)
    (others : ∀ j h' p', j ≠ i → s.thread j = some (h',p') →
      Nontrivial I ∧ (Held shared h' ∧ Apart h h') ∧ p'.Traced M.note Next Returns h')
    (separate : Threads.Separate Apart s) :
    M.Good Next Returns Inv Held (M.settle s i shared h p) ∧
      Threads.Separate Apart (M.settle s i shared h p) := by
  cases p with
  | pure a =>
    have running {j h' p'} (at_j : (M.settle s i shared h (.pure a)).thread j = some (h',p')) :
        j ≠ i ∧ s.thread j = some (h',p') := by
      by_cases same : j = i
      · subst same; simp [Threads.settle] at at_j
      · exact ⟨same,by simpa only [Threads.settle,Function.update_of_ne same] using at_j⟩
    refine ⟨⟨keeps.finishes shared h a inv held traced,?_⟩,?_⟩
    · intro j h' p' at_j
      obtain ⟨other,before⟩ := running at_j
      obtain ⟨two,⟨held',apart⟩,traced'⟩ := others j h' p' other before
      exact ⟨keeps.finishes_other two shared h a h' inv held traced held' apart,traced'⟩
    · intro j k h' p' h'' p'' differ at_j at_k
      exact separate j k h' p' h'' p'' differ (running at_j).2 (running at_k).2
  | call c next =>
    have running {j h' p'} (at_j : (M.settle s i shared h (.call c next)).thread j = some (h',p')) :
        (j = i ∧ h = h' ∧ Program.call c next = p') ∨ (j ≠ i ∧ s.thread j = some (h',p')) := by
      by_cases same : j = i
      · subst same
        simp only [Threads.settle,Function.update_self,Option.some.injEq,Prod.mk.injEq] at at_j
        exact .inl ⟨rfl,at_j⟩
      · exact .inr ⟨same,by simpa only [Threads.settle,Function.update_of_ne same] using at_j⟩
    refine ⟨⟨inv,?_⟩,?_⟩
    · intro j h' p' at_j
      rcases running at_j with ⟨_,rfl,rfl⟩ | ⟨other,before⟩
      · exact ⟨held,traced⟩
      · obtain ⟨_,⟨held',_⟩,traced'⟩ := others j h' p' other before
        exact ⟨held',traced'⟩
    · intro j k h' p' h'' p'' differ at_j at_k
      rcases running at_j with ⟨rfl,rfl,_⟩ | ⟨other,before⟩ <;>
        rcases running at_k with ⟨rfl,rfl,_⟩ | ⟨other',before'⟩
      · exact absurd rfl differ
      · exact (others k h'' p'' other' before').2.1.2
      · exact keeps.symm _ _ (others j h' p' other before).2.1.2
      · exact separate j k h' p' h'' p'' differ before before'

theorem Threads.KeepsApart.step (keeps : M.KeepsApart Next Returns Inv Held Apart)
    (traced : ∀ i, (M.program i).Traced M.note Next Returns M.fresh)
    (good : M.Good Next Returns Inv Held s) (separate : Threads.Separate Apart s)
    (allowed : M.system.allowed s action) :
    M.Good Next Returns Inv Held (M.system.apply s action) ∧
      Threads.Separate Apart (M.system.apply s action) := by
  obtain ⟨inv,threads⟩ := good
  cases action with
  | begin i =>
    obtain ⟨inv',held'⟩ := keeps.begins s.shared inv allowed.2
    refine good_settle keeps inv' held' (traced i) ?_ separate
    intro j h p other running
    have two : Nontrivial I := ⟨j,i,other⟩
    obtain ⟨held,onTrace⟩ := threads j h p running
    exact ⟨two,keeps.begins_other two s.shared h inv held,onTrace⟩
  | answer i f =>
    obtain ⟨h,c,next,running,answerable⟩ := allowed
    obtain ⟨held,permitted,onTrace⟩ := threads i h _ running
    obtain ⟨inv',held'⟩ := keeps.answers s.shared h c f inv held permitted answerable
    simp only [Threads.system,running]
    refine good_settle keeps inv' held' (onTrace _) ?_ separate
    intro j h' p' other running'
    have two : Nontrivial I := ⟨j,i,other⟩
    obtain ⟨held'',onTrace'⟩ := threads j h' p' running'
    have apart := separate i j h _ h' p' (Ne.symm other) running running'
    exact ⟨two,keeps.answers_other two s.shared h c f h' inv held permitted answerable held'' apart,onTrace'⟩
  | disturb e =>
    obtain ⟨inv',kept⟩ := keeps.disturbs s.shared e inv allowed
    refine ⟨⟨inv',?_⟩,separate⟩
    intro i h p running
    obtain ⟨held,onTrace⟩ := threads i h p running
    exact ⟨kept h held,onTrace⟩

theorem Threads.KeepsApart.run (keeps : M.KeepsApart Next Returns Inv Held Apart)
    (traced : ∀ i, (M.program i).Traced M.note Next Returns M.fresh)
    (good : M.Good Next Returns Inv Held s) (separate : Threads.Separate Apart s)
    (run : M.system.Run s actions t) : M.Good Next Returns Inv Held t ∧ Threads.Separate Apart t :=
  run.invariant (fun s => M.Good Next Returns Inv Held s ∧ Threads.Separate Apart s)
    (fun _ _ both allowed => keeps.step traced both.1 both.2 allowed) ⟨good,separate⟩

section Covers

variable {X : Type} {Owned : S → X → Prop} {Holds : H → X → Prop}

private theorem covered_settle (covers : M.Covers Next Returns Inv Held Owned Holds) {s : State I S C A H α}
    (inv : Inv shared) (held : Held shared h) (traced : p.Traced M.note Next Returns h)
    (owned : ∀ x, Owned shared x →
      Holds h x ∨ ∃ j h' p', j ≠ i ∧ s.thread j = some (h',p') ∧ Holds h' x) :
    Threads.Covered Owned Holds (M.settle s i shared h p) := by
  intro x now
  cases p with
  | pure a =>
    obtain ⟨before,free⟩ := covers.finishes shared h a x inv held traced now
    obtain ⟨j,h',p',other,running,holds⟩ := (owned x before).resolve_left free
    exact ⟨j,h',p',by simpa only [Threads.settle,Function.update_of_ne other] using running,holds⟩
  | call c next =>
    rcases owned x now with here | ⟨j,h',p',other,running,holds⟩
    · exact ⟨i,h,.call c next,by simp only [Threads.settle,Function.update_self],here⟩
    · exact ⟨j,h',p',by simpa only [Threads.settle,Function.update_of_ne other] using running,holds⟩

theorem Threads.Covers.step (covers : M.Covers Next Returns Inv Held Owned Holds)
    (keeps : M.KeepsApart Next Returns Inv Held Apart)
    (traced : ∀ i, (M.program i).Traced M.note Next Returns M.fresh)
    (good : M.Good Next Returns Inv Held s) (covered : Threads.Covered Owned Holds s)
    (allowed : M.system.allowed s action) :
    Threads.Covered Owned Holds (M.system.apply s action) := by
  obtain ⟨inv,threads⟩ := good
  cases action with
  | begin i =>
    obtain ⟨inv',held'⟩ := keeps.begins s.shared inv allowed.2
    refine covered_settle covers inv' held' (traced i) ?_
    intro x now
    obtain ⟨j,h,p,running,holds⟩ := covered x (covers.begins s.shared x inv allowed.2 now)
    refine .inr ⟨j,h,p,?_,running,holds⟩
    rintro rfl
    rw [allowed.1] at running
    cases running
  | answer i f =>
    obtain ⟨h,c,next,running,answerable⟩ := allowed
    obtain ⟨held,permitted,onTrace⟩ := threads i h _ running
    obtain ⟨inv',held'⟩ := keeps.answers s.shared h c f inv held permitted answerable
    simp only [Threads.system,running]
    refine covered_settle covers inv' held' (onTrace _) ?_
    intro x now
    rcases covers.answers s.shared h c f x inv held permitted answerable now with here | ⟨before,free⟩
    · exact .inl here
    · obtain ⟨j,h',p',running',holds⟩ := covered x before
      refine .inr ⟨j,h',p',?_,running',holds⟩
      rintro rfl
      rw [running] at running'
      cases running'
      exact free holds
  | disturb e =>
    intro x now
    exact covered x (covers.disturbs s.shared e x inv allowed now)

theorem Threads.Covers.run (covers : M.Covers Next Returns Inv Held Owned Holds)
    (keeps : M.KeepsApart Next Returns Inv Held Apart)
    (traced : ∀ i, (M.program i).Traced M.note Next Returns M.fresh)
    (good : M.Good Next Returns Inv Held s) (separate : Threads.Separate Apart s)
    (covered : Threads.Covered Owned Holds s) (run : M.system.Run s actions t) :
    Threads.Covered Owned Holds t := by
  have all := run.invariant (fun s => (M.Good Next Returns Inv Held s ∧ Threads.Separate Apart s) ∧
      Threads.Covered Owned Holds s)
    (fun _ _ both allowed => ⟨keeps.step traced both.1.1 both.1.2 allowed,
      covers.step keeps traced both.1.1 both.2 allowed⟩) ⟨⟨good,separate⟩,covered⟩
  exact all.2

end Covers

end Apart

theorem Threads.Keeps.step (keeps : M.Keeps Next Returns Inv Held)
    (traced : ∀ i, (M.program i).Traced M.note Next Returns M.fresh)
    (good : M.Good Next Returns Inv Held s) (allowed : M.system.allowed s action) :
    M.Good Next Returns Inv Held (M.system.apply s action) :=
  (keeps.apart.step traced good (fun _ _ _ _ _ _ _ _ _ => trivial) allowed).1

/-- An answer to the only thread establishes another invariant, from which a run can go on. -/
theorem Threads.Keeps.resume [Subsingleton I] (keeps : M.Keeps Next Returns Inv Held)
    (running : s.thread i = some (h,.call c next)) (inv : Inv (M.serve s.shared c f).2)
    (held : Held (M.serve s.shared c f).2 (M.note h c (M.serve s.shared c f).1))
    (traced : (Program.call c next).Traced M.note Next Returns h) :
    M.Good Next Returns Inv Held (M.system.apply s (.answer i f)) := by
  simp only [Threads.system,running]
  refine (good_settle keeps.apart inv held (traced.2 _) ?_ (fun _ _ _ _ _ _ _ _ _ => trivial)).1
  intro j h' p' other
  exact absurd (Subsingleton.elim j i) other

theorem Threads.Keeps.run (keeps : M.Keeps Next Returns Inv Held)
    (traced : ∀ i, (M.program i).Traced M.note Next Returns M.fresh)
    (good : M.Good Next Returns Inv Held s) (run : M.system.Run s actions t) :
    M.Good Next Returns Inv Held t :=
  run.invariant _ (fun _ _ good allowed => keeps.step traced good allowed) good

section Contribution

/-- The action is a step of the thread. -/
def Action.isOf (i : I) : Action I F E → Bool
  | .begin j => j = i
  | .answer j _ => j = i
  | .disturb _ => false

theorem Action.answer_of_isOf {a : Action I F E} (mine : a.isOf i = true) (begun : .begin i ≠ a) :
    ∃ f, a = .answer i f := by
  cases a with
  | begin j =>
    obtain rfl : j = i := by simpa [Action.isOf] using mine
    exact absurd rfl begun
  | answer j f =>
    obtain rfl : j = i := by simpa [Action.isOf] using mine
    exact ⟨f,rfl⟩
  | disturb e => cases mine

/-- What the steps of one thread change of a measure of the shared state, in whatever company. -/
def Threads.contribution (M : Threads I S C A F E H α) (measure : S → Int) (i : I) :
    State I S C A H α → List (Action I F E) → Int
  | _,[] => 0
  | s,a :: rest =>
    (if a.isOf i then measure (M.system.apply s a).shared - measure s.shared else 0) +
      M.contribution measure i (M.system.apply s a) rest

theorem contribution_append (measure : S → Int) (i : I) (s : State I S C A H α)
    (first second : List (Action I F E)) :
    M.contribution measure i s (first ++ second) = M.contribution measure i s first +
      M.contribution measure i (first.foldl M.system.apply s) second := by
  induction first generalizing s with
  | nil => simp [Threads.contribution]
  | cons a rest ih =>
    simp only [List.cons_append,Threads.contribution,List.foldl_cons,ih]
    omega

theorem settle_thread_other {s : State I S C A H α} (other : j ≠ i) (shared : S) (h : H) (p : Program C A α) :
    (M.settle s i shared h p).thread j = s.thread j := by
  cases p <;> simp [Threads.settle,Function.update_of_ne other]

theorem thread_of_other {s : State I S C A H α} {a : Action I F E} (other : a.isOf i = false) :
    (M.system.apply s a).thread i = s.thread i := by
  cases a with
  | begin j => exact settle_thread_other (by simpa [Action.isOf,eq_comm] using other) ..
  | answer j f =>
    have apart : i ≠ j := by simpa [Action.isOf,eq_comm] using other
    simp only [Threads.system]
    split
    · exact settle_thread_other apart ..
    · rfl
  | disturb e => rfl

theorem thread_none_of_run (run : M.system.Run s actions t) (once : .begin i ∉ actions)
    (done : s.thread i = none) : t.thread i = none := by
  induction run with
  | nil => exact done
  | @cons s a rest t ok _ ih =>
    rw [List.mem_cons,not_or] at once
    refine ih once.2 ?_
    cases mine : a.isOf i with
    | false => rw [thread_of_other mine,done]
    | true =>
      obtain ⟨f,rfl⟩ := Action.answer_of_isOf mine once.1
      obtain ⟨h,c,next,running,_⟩ := ok
      rw [done] at running
      cases running

/-- If every step of a thread moves a measure as it moves the credit in the thread's notes, a call
contributes the credit that it has gathered. -/
theorem Threads.contribution_eq {P : State I S C A H α → Prop} {measure : S → Int} {credit : H → Int} {i : I}
    (preserved : ∀ s a, P s → M.system.allowed s a → P (M.system.apply s a))
    (steps : ∀ s h c next f, P s → s.thread i = some (h,.call c next) → M.answerable s.shared h c f →
      measure (M.serve s.shared c f).2 - measure s.shared =
        credit (M.note h c (M.serve s.shared c f).1) - credit h)
    (run : M.system.Run s actions t) (start : P s) (once : .begin i ∉ actions)
    (running : s.thread i = some (h,p)) (still : t.thread i = some (h',p')) :
    M.contribution measure i s actions = credit h' - credit h := by
  induction run generalizing h p with
  | nil =>
    cases running.symm.trans still
    simp [Threads.contribution]
  | @cons s a rest t ok later ih =>
    rw [List.mem_cons,not_or] at once
    have next := preserved s a start ok
    simp only [Threads.contribution]
    cases mine : a.isOf i with
    | false =>
      have same := (thread_of_other (M := M) (s := s) mine).trans running
      rw [ih next once.2 same still]
      simp
    | true =>
      obtain ⟨f,rfl⟩ := Action.answer_of_isOf mine once.1
      obtain ⟨h₁,c,rest',running',able⟩ := ok
      cases running.symm.trans running'
      have change := steps s h c rest' f start running able
      have applied : M.system.apply s (.answer i f) = M.settle s i (M.serve s.shared c f).2
          (M.note h c (M.serve s.shared c f).1) (rest' (M.serve s.shared c f).1) := by
        simp only [Threads.system,running]
      cases onward : rest' (M.serve s.shared c f).1 with
      | pure a =>
        have gone : (M.system.apply s (.answer i f)).thread i = none := by
          rw [applied,onward]
          simp [Threads.settle]
        rw [thread_none_of_run later once.2 gone] at still
        cases still
      | call d more =>
        have onThread : (M.system.apply s (.answer i f)).thread i =
            some (M.note h c (M.serve s.shared c f).1,.call d more) := by
          rw [applied,onward]
          simp [Threads.settle]
        have shared : (M.system.apply s (.answer i f)).shared = (M.serve s.shared c f).2 := by
          rw [applied,onward]
          rfl
        rw [ih next once.2 onThread still,if_pos rfl,shared]
        omega

end Contribution

/-- A running thread is where the answers have led its program. -/
theorem Threads.reaches_of_run (run : M.system.Run (idle shared) actions t) (i : I)
    (running : t.thread i = some (h,p)) : (M.program i).Reaches M.note M.fresh h p := by
  have settles {s : State I S C A H α} {i j : I} {shared : S} {h h' : H} {p p' : Program C A α}
      (others : ∀ h p, s.thread j = some (h,p) → (M.program j).Reaches M.note M.fresh h p)
      (here : (M.program i).Reaches M.note M.fresh h p)
      (running : (M.settle s i shared h p).thread j = some (h',p')) :
      (M.program j).Reaches M.note M.fresh h' p' := by
    by_cases same : j = i
    · subst same
      cases p <;> simp only [Threads.settle,Function.update_self] at running
      · cases running
      · cases running; exact here
    · cases p <;> simp only [Threads.settle,Function.update_of_ne same] at running <;>
        exact others _ _ running
  have all := run.invariant
    (fun s => ∀ i h p, s.thread i = some (h,p) → (M.program i).Reaches M.note M.fresh h p) ?_ ?_
  · exact all i h p running
  · intro s action inv allowed j h' p' running
    cases action with
    | begin i => exact settles (inv j) .start running
    | answer i f =>
      obtain ⟨h,c,next,at_i,_⟩ := allowed
      simp only [Threads.system,at_i] at running
      exact settles (inv j) (.answer _ (inv i h _ at_i)) running
    | disturb e => exact inv j h' p' running
  · intro i h p running
    simp [idle] at running

end Shared

end Interaction
