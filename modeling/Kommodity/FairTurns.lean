import Mathlib.Data.Fintype.Card
import Mathlib.Logic.Relation
import Mathlib.Data.Set.Finite.Lattice

/-! Finitely many parties that take turns. A party may have to wait until others have settled;
under a fair order all of them settle when nobody waits for itself in the end. -/
namespace FairTurns

open Relation

variable {α : Type}

/-- Everybody has a turn again and again. -/
def Fair (turn : Nat → α) : Prop := ∀ a k, ∃ m, k ≤ m ∧ turn m = a

/-- Nobody waits, through others, for itself. -/
def Acyclic (waits : α → α → Prop) : Prop := ∀ a, ¬ TransGen waits a a

theorem Acyclic.wellFounded [Finite α] {waits : α → α → Prop} (acyclic : Acyclic waits) :
    WellFounded (Function.swap waits) := by
  have : Std.Irrefl (TransGen (Function.swap waits)) :=
    ⟨fun a cycle => acyclic a (transGen_swap.mp cycle)⟩
  exact Subrelation.wf TransGen.single (Finite.wellFounded_of_trans_of_irrefl _)

/-- On a cycle everybody waits for somebody on the cycle. -/
theorem waits_on_cycle {waits : α → α → Prop} (cycle : TransGen waits a a) :
    ∃ b, waits a b ∧ TransGen waits b b := by
  obtain ⟨b,first,rest⟩ := TransGen.head'_iff.mp cycle
  exact ⟨b,first,TransGen.tail' rest first⟩

theorem stable_le {settled : Nat → Prop} (stable : ∀ k, settled k → settled (k + 1)) (le : k ≤ m)
    (now : settled k) : settled m := by
  induction le with
  | refl => exact now
  | step _ ih => exact stable _ ih

theorem exists_common [Finite α] {settled : α → Nat → Prop}
    (stable : ∀ a k, settled a k → settled a (k + 1)) (each : ∀ a, ∃ k, settled a k) :
    ∃ k, ∀ a, settled a k := by
  choose time done using each
  obtain ⟨last,bound⟩ := (Set.finite_range time).bddAbove
  exact ⟨last,fun a => stable_le (stable a) (bound ⟨a,rfl⟩) (done a)⟩

/-- If whoever has a turn settles once those it waits for have, everybody settles. -/
theorem eventually_settled [Finite α] {waits : α → α → Prop} {settled : α → Nat → Prop}
    {turn : Nat → α} (acyclic : Acyclic waits) (fair : Fair turn)
    (stable : ∀ a k, settled a k → settled a (k + 1))
    (progress : ∀ k, (∀ b, waits (turn k) b → settled b k) → settled (turn k) (k + 1)) :
    ∃ k, ∀ a, settled a k := by
  refine exists_common stable fun a => ?_
  induction a using acyclic.wellFounded.induction with
  | h a ih =>
    -- the turn that counts is one after everybody `a` waits for has settled
    obtain ⟨k,all⟩ : ∃ k, ∀ b : { b // waits a b }, settled b.1 k :=
      exists_common (fun b => stable b.1) (fun b => ih b.1 b.2)
    obtain ⟨m,later,rfl⟩ := fair a k
    exact ⟨m + 1,progress m fun b waiting => stable_le (stable b) later (all ⟨b,waiting⟩)⟩

end FairTurns
