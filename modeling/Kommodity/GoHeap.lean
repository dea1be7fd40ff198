import Mathlib.Data.List.Basic

/-! Objects that code reaches through pointers. A heap hands out references in order and never
takes one back, so a reference stands for one object for ever. -/
namespace Go

abbrev Ref := Nat

structure Heap (α : Type) where
  objects : List α
  deriving DecidableEq, Repr

namespace Heap

variable {α : Type}

def empty : Heap α := ⟨[]⟩

def deref (h : Heap α) (r : Ref) : Option α := h.objects[r]?

/-- The reference that the next allocation returns. -/
def fresh (h : Heap α) : Ref := h.objects.length

def alloc (h : Heap α) (a : α) : Heap α := ⟨h.objects ++ [a]⟩

def modify (h : Heap α) (r : Ref) (f : α → α) : Heap α := ⟨h.objects.modify r f⟩

def set (h : Heap α) (r : Ref) (a : α) : Heap α := h.modify r fun _ => a

/-- A loop that applies `f` to the objects of a list of references. -/
def modifyAll (h : Heap α) (refs : List Ref) (f : α → α) : Heap α :=
  refs.foldl (fun h r => h.modify r f) h

def count (p : α → Bool) (h : Heap α) : Nat := h.objects.countP p

@[simp] theorem deref_empty (r : Ref) : (empty : Heap α).deref r = none := rfl

@[simp] theorem deref_fresh (h : Heap α) : h.deref h.fresh = none := by
  simp [deref,fresh]

theorem ne_fresh {h : Heap α} (found : h.deref r = some a) : r ≠ h.fresh := by
  rintro rfl
  simp at found

theorem deref_alloc (h : Heap α) (a : α) (r : Ref) :
    (h.alloc a).deref r = if r = h.fresh then some a else h.deref r := by
  simp only [deref,alloc,fresh,List.getElem?_append]
  rcases Nat.lt_trichotomy r h.objects.length with below | last | past
  · simp [below,Nat.ne_of_lt below]
  · simp [last]
  · have gap : r - h.objects.length ≠ 0 := Nat.sub_ne_zero_of_lt past
    simp [Nat.not_lt_of_gt past,Nat.ne_of_gt past,gap]

theorem deref_alloc_of {h : Heap α} (b : α) (found : h.deref r = some a) :
    (h.alloc b).deref r = some a := by
  rw [deref_alloc,if_neg (ne_fresh found),found]

theorem deref_modify (h : Heap α) (r q : Ref) (f : α → α) :
    (h.modify r f).deref q = if q = r then (h.deref q).map f else h.deref q := by
  simp only [deref,modify,List.getElem?_modify]
  by_cases same : q = r
  · simp [same]
  · simp [same,Ne.symm same]

theorem map_deref_modify {f : α → α} {g : α → β} (kept : ∀ a, g (f a) = g a) (h : Heap α)
    (r q : Ref) : ((h.modify r f).deref q).map g = (h.deref q).map g := by
  rw [deref_modify]
  split
  · simp [Function.comp_def,kept]
  · rfl

theorem map_deref_modifyAll {f : α → α} {g : α → β} (kept : ∀ a, g (f a) = g a) (refs : List Ref)
    (h : Heap α) (q : Ref) : ((h.modifyAll refs f).deref q).map g = (h.deref q).map g := by
  induction refs generalizing h with
  | nil => rfl
  | cons r rest ih => exact (ih (h.modify r f)).trans (map_deref_modify kept h r q)

@[simp] theorem fresh_modify (h : Heap α) (r : Ref) (f : α → α) : (h.modify r f).fresh = h.fresh := by
  simp [fresh,modify]

theorem deref_set {h : Heap α} (found : h.deref r = some b) (a : α) (q : Ref) :
    (h.set r a).deref q = if q = r then some a else h.deref q := by
  rw [set,deref_modify]
  by_cases same : q = r
  · subst same; simp [found]
  · simp [same]

theorem deref_modifyAll {f : α → α} (idempotent : ∀ a, f (f a) = f a) (refs : List Ref)
    (h : Heap α) (q : Ref) :
    (h.modifyAll refs f).deref q = if q ∈ refs then (h.deref q).map f else h.deref q := by
  induction refs generalizing h with
  | nil => simp [modifyAll]
  | cons r rest ih =>
    have step : h.modifyAll (r :: rest) f = (h.modify r f).modifyAll rest f := rfl
    rw [step,ih,deref_modify]
    by_cases same : q = r
    · subst same
      cases h.deref q <;> simp [idempotent]
    · simp [same]

theorem count_alloc (p : α → Bool) (h : Heap α) (a : α) :
    (h.alloc a).count p = h.count p + if p a then 1 else 0 := by
  simp [count,alloc,List.countP_append,List.countP_cons]

theorem count_set {h : Heap α} (p : α → Bool) (found : h.deref r = some b) (a : α) :
    (h.set r a).count p + (if p b then 1 else 0) = h.count p + if p a then 1 else 0 := by
  obtain ⟨bound,value⟩ := List.getElem?_eq_some_iff.mp found
  have listed : p b = true → 0 < h.objects.countP p := fun holds =>
    List.countP_pos_iff.mpr ⟨b,value ▸ List.getElem_mem bound,holds⟩
  have stored : h.objects[r]? = some b := found
  simp only [count,set,modify,List.modify_eq_set_getElem?,stored,Option.map_eq_map,Option.map_some,
    Option.getD_some,List.countP_set bound,value]
  by_cases before : p b
  · have := listed before
    simp [before]
    omega
  · simp [before]

theorem count_modify {p : α → Bool} {f : α → α} (kept : ∀ a, p (f a) = p a) (h : Heap α) (r : Ref) :
    (h.modify r f).count p = h.count p := by
  simp only [count,modify]
  induction h.objects generalizing r with
  | nil => simp
  | cons a rest ih =>
    cases r with
    | zero => simp [List.countP_cons,kept]
    | succ r => simp [List.countP_cons,ih]

theorem count_pos_iff (p : α → Bool) (h : Heap α) :
    0 < h.count p ↔ ∃ r a, h.deref r = some a ∧ p a = true := by
  rw [count,List.countP_pos_iff]
  constructor
  · rintro ⟨a,member,holds⟩
    obtain ⟨r,found⟩ := List.mem_iff_getElem?.mp member
    exact ⟨r,a,found,holds⟩
  · rintro ⟨r,a,found,holds⟩
    exact ⟨a,List.mem_of_getElem? found,holds⟩

theorem count_eq_zero_iff (p : α → Bool) (h : Heap α) :
    h.count p = 0 ↔ ∀ r a, h.deref r = some a → p a = false := by
  constructor
  · intro zero r a found
    by_contra holds
    have := (count_pos_iff p h).mpr ⟨r,a,found,by simpa using holds⟩
    omega
  · intro none'
    by_contra nonzero
    obtain ⟨r,a,found,holds⟩ := (count_pos_iff p h).mp (Nat.pos_of_ne_zero nonzero)
    simp [none' r a found] at holds

/-- The sum of a measure over the objects. -/
def total (g : α → Int) (h : Heap α) : Int := h.objects.foldr (fun a sum => g a + sum) 0

theorem total_modify {g : α → Int} {f : α → α} (k : Int) (shift : ∀ a, g (f a) = g a + k) {h : Heap α}
    (found : h.deref r = some a) : (h.modify r f).total g = h.total g + k := by
  obtain ⟨objects⟩ := h
  have there : objects[r]? = some a := found
  show (objects.modify r f).foldr (fun a sum => g a + sum) 0 = objects.foldr (fun a sum => g a + sum) 0 + k
  clear found
  induction objects generalizing r with
  | nil => simp at there
  | cons b rest ih =>
    cases r with
    | zero =>
      simp only [List.modify_zero_cons,List.foldr_cons,shift]
      omega
    | succ r =>
      have tail := ih (by simpa using there)
      simp only [List.modify_succ_cons,List.foldr_cons,tail]
      omega

theorem total_modify_of {g : α → Int} {f : α → α} (kept : ∀ a, g (f a) = g a) (h : Heap α) (r : Ref) :
    (h.modify r f).total g = h.total g := by
  cases found : h.deref r with
  | none =>
    have past : h.objects.length ≤ r := List.getElem?_eq_none_iff.mp found
    rw [total,modify,List.modify_eq_self past]
    rfl
  | some a => rw [total_modify 0 (fun a => by rw [kept,Int.add_zero]) found,Int.add_zero]

end Heap

end Go
