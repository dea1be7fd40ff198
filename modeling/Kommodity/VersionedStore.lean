import Kommodity.GoValues

/-! An object store with optimistic concurrency. Every write stamps the object with a
revision that no earlier object carries, so a writer that presents the version it read
overwrites exactly the value it read. -/
namespace Versioned

open Go

structure Entry (V : Type) where
  value : V
  version : Nat
  deriving Repr

/-- Versions never exceed the store's revision; the field rules out a store that could
hand out a version twice. -/
structure Store (K V : Type) [DecidableEq K] where
  objects : Map K (Entry V)
  revision : Nat
  bounded : ∀ k e, objects.lookup k = some e → e.version ≤ revision

inductive Error where
  | alreadyExists
  | notFound
  | conflict
  deriving DecidableEq, Repr

section Operations

variable {K V : Type} [DecidableEq K]

def Store.get (s : Store K V) (k : K) : Option (Entry V) := s.objects.lookup k

def Store.empty : Store K V := ⟨∅,0,by simp⟩

/-- Write `value` under a new revision. -/
def Store.put (s : Store K V) (k : K) (value : V) : Store K V where
  objects := s.objects.insert k ⟨value,s.revision + 1⟩
  revision := s.revision + 1
  bounded := by
    intro key e found
    rw [Map.lookup_insert_eq] at found
    split at found
    · cases found; simp
    · have := s.bounded key e found; omega

def Store.remove (s : Store K V) (k : K) : Store K V where
  objects := s.objects.erase k
  revision := s.revision + 1
  bounded := by
    intro key e found
    by_cases same : key = k
    · subst key; simp at found
    · rw [AList.lookup_erase_ne same] at found
      have := s.bounded key e found; omega

/-- Creation is refused when the key is taken. -/
def Store.create (s : Store K V) (k : K) (value : V) : Except Error (Store K V) :=
  match s.get k with
  | some _ => .error .alreadyExists
  | none => .ok (s.put k value)

/-- An update must present the version of the stored object. -/
def Store.update (s : Store K V) (k : K) (value : V) (version : Nat) : Except Error (Store K V) :=
  match s.get k with
  | none => .error .notFound
  | some e => if e.version = version then .ok (s.put k value) else .error .conflict

@[simp] theorem get_empty (k : K) : (Store.empty : Store K V).get k = none := by
  simp [Store.empty,Store.get]

@[simp] theorem get_put_same (s : Store K V) (k : K) (value : V) :
    (s.put k value).get k = some ⟨value,s.revision + 1⟩ := by
  simp [Store.get,Store.put]

@[simp] theorem get_put_other (s : Store K V) (value : V) (apart : other ≠ k) :
    (s.put k value).get other = s.get other := by
  simp [Store.get,Store.put,AList.lookup_insert_ne apart]

@[simp] theorem get_remove_same (s : Store K V) (k : K) : (s.remove k).get k = none := by
  simp [Store.get,Store.remove]

@[simp] theorem get_remove_other (s : Store K V) (apart : other ≠ k) :
    (s.remove k).get other = s.get other := by
  simp [Store.get,Store.remove,AList.lookup_erase_ne apart]

@[simp] theorem revision_put (s : Store K V) (k : K) (value : V) :
    (s.put k value).revision = s.revision + 1 := rfl

@[simp] theorem revision_remove (s : Store K V) (k : K) :
    (s.remove k).revision = s.revision + 1 := rfl

theorem create_ok {s t : Store K V} (done : s.create k value = .ok t) :
    s.get k = none ∧ t = s.put k value := by
  cases found : s.get k with
  | some e => simp [Store.create,found] at done
  | none => simp [Store.create,found] at done; exact ⟨rfl,done.symm⟩

theorem update_ok {s t : Store K V} (done : s.update k value version = .ok t) :
    (∃ e, s.get k = some e ∧ e.version = version) ∧ t = s.put k value := by
  cases found : s.get k with
  | none => simp [Store.update,found] at done
  | some e =>
    simp only [Store.update,found] at done
    split at done
    · next same => exact ⟨⟨e,rfl,same⟩,by cases done; rfl⟩
    · simp at done

/-- What a reader may rely on: as long as the object carries the version that was read,
it is the object that was read. -/
def Store.Current (s : Store K V) (k : K) (read : Entry V) : Prop :=
  read.version ≤ s.revision ∧
  ∀ e, s.get k = some e → e.version = read.version → e.value = read.value

theorem current_of_get {s : Store K V} (found : s.get k = some e) : s.Current k e := by
  refine ⟨s.bounded k e found,?_⟩
  intro e' found' _
  rw [found] at found'
  cases found'; rfl

theorem current_put {s : Store K V} {read : Entry V} (current : s.Current k read) (key : K)
    (value : V) : (s.put key value).Current k read := by
  refine ⟨Nat.le_succ_of_le current.1,?_⟩
  intro e found same
  by_cases eq : k = key
  · subst key
    rw [get_put_same] at found
    cases found
    have := current.1
    simp at same; omega
  · rw [get_put_other _ _ eq] at found
    exact current.2 e found same

theorem current_remove {s : Store K V} {read : Entry V} (current : s.Current k read) (key : K) :
    (s.remove key).Current k read := by
  refine ⟨Nat.le_succ_of_le current.1,?_⟩
  intro e found same
  by_cases eq : k = key
  · subst key; simp at found
  · rw [get_remove_other _ eq] at found
    exact current.2 e found same

end Operations

end Versioned
