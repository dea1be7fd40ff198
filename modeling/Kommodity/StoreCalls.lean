import Kommodity.VersionedStore
import Kommodity.Interaction

/-! Programs over a versioned store that is reached through calls which can fail. A call is answered
from the store as it is, or fails with any error at all; a write that fails may have taken effect. -/
namespace StoreCalls

open Versioned

variable {K V O E : Type} {B : O → Type} [DecidableEq K]

/-- Calls on the store, and others that do not touch it. -/
inductive Call (K V O : Type) where
  | get (key : K)
  | list (select : K → Bool)
  | create (key : K) (value : V)
  | update (key : K) (read : Entry V)
  | delete (key : K)
  | other (call : O)

abbrev Answer (E : Type) (B : O → Type) : Call K V O → Type
  | .get _ => Except E (Entry V)
  | .list _ => Except E (List V)
  | .create _ _ => Except E Unit
  | .update _ _ => Except E Unit
  | .delete _ => Except E Unit
  | .other call => B call

inductive Fault (E : Type) where
  | none
  | refused (error : E)
  | lost (error : E)

/-- What the surroundings choose for a call. -/
structure Reply (E : Type) (B : O → Type) where
  fault : Fault E
  answers : (call : O) → B call

section Serve

variable (refuse : Versioned.Error → E)

def read (found : Except Versioned.Error α) : Fault E → Except E α
  | .none => found.mapError refuse
  | .refused error => .error error
  | .lost error => .error error

def write (s : Store K V) (attempt : Except Versioned.Error (Store K V)) : Fault E → Except E Unit × Store K V
  | .none =>
    match attempt with
    | .ok next => (.ok (),next)
    | .error error => (.error (refuse error),s)
  | .refused error => (.error error,s)
  | .lost error => (.error error,attempt.toOption.getD s)

def lookup (s : Store K V) (key : K) : Except Versioned.Error (Entry V) :=
  match s.get key with
  | some entry => .ok entry
  | none => .error .notFound

/-- A list shows the objects in the order of the store. -/
def select (s : Store K V) (select : K → Bool) : List V :=
  (s.objects.entries.filter fun e => select e.1).map fun e => e.2.value

def delete (s : Store K V) (key : K) : Except Versioned.Error (Store K V) :=
  match s.get key with
  | some _ => .ok (s.remove key)
  | none => .error .notFound

def serve (s : Store K V) : (c : Call K V O) → Reply E B → Answer E B c × Store K V
  | .get key,f => (read refuse (lookup s key) f.fault,s)
  | .list select,f => (read refuse (.ok (StoreCalls.select s select)) f.fault,s)
  | .create key value,f => write refuse s (s.create key value) f.fault
  | .update key entry,f => write refuse s (s.update key entry.value entry.version) f.fault
  | .delete key,f => write refuse s (delete s key) f.fault
  | .other call,f => (f.answers call,s)

end Serve

variable (refuse : Versioned.Error → E)

theorem write_cases (s : Store K V) (attempt : Except Versioned.Error (Store K V)) (f : Fault E) :
    ((write refuse s attempt f).2 = s ∧ (write refuse s attempt f).1.toOption = none) ∨
    ∃ next, attempt = .ok next ∧ (write refuse s attempt f).2 = next := by
  cases attempt <;> cases f <;> simp [write,Except.toOption]

theorem write_create (s : Store K V) (k : K) (value : V) (f : Fault E) :
    ((write refuse s (s.create k value) f).2 = s ∧ (write refuse s (s.create k value) f).1.toOption = none) ∨
    s.get k = none ∧ (write refuse s (s.create k value) f).2 = s.put k value := by
  rcases write_cases refuse s (s.create k value) f with failed | ⟨next,done,after⟩
  · exact .inl failed
  · obtain ⟨free,rfl⟩ := create_ok done
    exact .inr ⟨free,after⟩

theorem write_update (s : Store K V) (k : K) (entry : Entry V) (f : Fault E) :
    ((write refuse s (s.update k entry.value entry.version) f).2 = s ∧
      (write refuse s (s.update k entry.value entry.version) f).1.toOption = none) ∨
    (∃ e, s.get k = some e ∧ e.version = entry.version) ∧
      (write refuse s (s.update k entry.value entry.version) f).2 = s.put k entry.value := by
  rcases write_cases refuse s (s.update k entry.value entry.version) f with failed | ⟨next,done,after⟩
  · exact .inl failed
  · obtain ⟨present,rfl⟩ := update_ok done
    exact .inr ⟨present,after⟩

theorem write_delete (s : Store K V) (k : K) (f : Fault E) :
    ((write refuse s (delete s k) f).2 = s ∧ (write refuse s (delete s k) f).1.toOption = none) ∨
    (write refuse s (delete s k) f).2 = s.remove k := by
  rcases write_cases refuse s (delete s k) f with failed | ⟨next,done,after⟩
  · exact .inl failed
  · unfold delete at done
    split at done
    · cases done; exact .inr after
    · cases done

theorem read_get {s : Store K V} {f : Fault E} (answered : (read refuse (lookup s k) f).toOption = some entry) :
    s.get k = some entry := by
  unfold lookup at answered
  cases found : s.get k <;> cases f <;> simp_all [read,Except.mapError,Except.toOption]

end StoreCalls
