import Mathlib.Data.List.Basic

/-! Finite runs of a guarded transition system. The guard says which actions the
environment may take in a state; the effect of an action is a function, so a run is
determined by its start and its actions. -/
namespace Transition

structure System (S A : Type) where
  allowed : S → A → Prop
  apply : S → A → S

variable {S A : Type} {M : System S A}

inductive System.Run (M : System S A) : S → List A → S → Prop where
  | nil : System.Run M s [] s
  | cons : M.allowed s a → System.Run M (M.apply s a) rest t → System.Run M s (a :: rest) t

/-- The runs of a system all of whose steps meet a condition on the state they start from. -/
def System.restrict (M : System S A) (condition : S → A → Prop) : System S A :=
  { M with allowed := fun s a => M.allowed s a ∧ condition s a }

instance (M : System S A) (condition : S → A → Prop) (s : S) (a : A) [Decidable (M.allowed s a)]
    [Decidable (condition s a)] : Decidable ((M.restrict condition).allowed s a) :=
  inferInstanceAs (Decidable (_ ∧ _))

namespace System.Run

theorem append (first : M.Run s xs m) (second : M.Run m ys t) : M.Run s (xs ++ ys) t := by
  induction first with
  | nil => exact second
  | cons ok _ ih => exact .cons ok (ih second)

theorem single (ok : M.allowed s a) : M.Run s [a] (M.apply s a) := .cons ok .nil

theorem foldl_eq (run : M.Run s actions t) : actions.foldl M.apply s = t := by
  induction run with
  | nil => rfl
  | cons _ _ ih => exact ih

/-- A property that every step allowed on the run keeps holds at its end. The side
condition `good` restricts the actions of the run. -/
theorem invariant_of (property : S → Prop) (good : A → Prop)
    (preserved : ∀ s a, property s → M.allowed s a → good a → property (M.apply s a))
    (run : M.Run s actions t) (within : ∀ a ∈ actions, good a) (initial : property s) :
    property t := by
  induction run with
  | nil => exact initial
  | cons ok _ ih =>
    have head := within _ (List.mem_cons_self ..)
    exact ih (fun a member => within a (List.mem_cons_of_mem _ member)) (preserved _ _ initial ok head)

theorem invariant (property : S → Prop)
    (preserved : ∀ s a, property s → M.allowed s a → property (M.apply s a))
    (run : M.Run s actions t) (initial : property s) : property t :=
  run.invariant_of property (fun _ => True) (fun s a h ok _ => preserved s a h ok)
    (fun _ _ => trivial) initial

/-- The invariant rule for runs whose steps meet a condition. -/
theorem invariant_restrict (property : S → Prop)
    (preserved : ∀ s a, property s → M.allowed s a → condition s a → property (M.apply s a))
    (run : (M.restrict condition).Run s actions t) (initial : property s) : property t := by
  induction run with
  | nil => exact initial
  | cons ok _ ih => exact ih (preserved _ _ initial ok.1 ok.2)

end System.Run

/-- Every action is allowed where it comes. -/
@[reducible] def System.Allows (M : System S A) : S → List A → Prop
  | _,[] => True
  | s,a :: rest => M.allowed s a ∧ M.Allows (M.apply s a) rest

theorem System.Run.of (allows : M.Allows s actions) : M.Run s actions (actions.foldl M.apply s) := by
  induction actions generalizing s with
  | nil => exact .nil
  | cons a rest ih => exact .cons allows.1 (ih allows.2)

/-- A check, by running it, that a list of actions is a run. -/
def System.admits (M : System S A) [∀ s a, Decidable (M.allowed s a)] : S → List A → Bool
  | _,[] => true
  | s,a :: rest => decide (M.allowed s a) && M.admits (M.apply s a) rest

theorem System.run_of_admits (M : System S A) [∀ s a, Decidable (M.allowed s a)] (s : S)
    (actions : List A) (ok : M.admits s actions = true) :
    M.Run s actions (actions.foldl M.apply s) := by
  induction actions generalizing s with
  | nil => exact .nil
  | cons a rest ih =>
    simp only [System.admits,Bool.and_eq_true,decide_eq_true_eq] at ok
    exact .cons ok.1 (ih _ ok.2)

end Transition
