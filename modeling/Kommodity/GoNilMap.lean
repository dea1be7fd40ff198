import Kommodity.GoValues

/-! Go maps and byte slices that may be nil. A nil map is read as an empty one, but an assignment to it
panics, and `reflect.DeepEqual` tells it from an empty one. A computation that may panic returns an
option. -/
namespace Go

abbrev NilMap (K V : Type) := Option (Map K V)

/-- A byte slice: nil, or made. -/
abbrev Slice := Option Bytes

def Slice.len (s : Slice) : Nat := s.elim 0 List.length

/-- The conversion `[]byte(s)`, which makes a slice for every string. -/
def Slice.ofString (s : String) : Slice := some (bytes s)

section NilMaps

variable {K V W : Type} [DecidableEq K]

def NilMap.lookup (m : NilMap K V) (k : K) : Option V := m.bind (AList.lookup k)

/-- The entries that a range loop visits. -/
def NilMap.entries (m : NilMap K V) : List (Sigma fun _ : K => V) := m.elim [] AList.entries

def NilMap.keys (m : NilMap K V) : List K := m.entries.map Sigma.fst

def NilMap.len (m : NilMap K V) : Nat := m.entries.length

/-- The assignment `m[k] = v`. -/
def NilMap.assign (m : NilMap K V) (k : K) (v : V) : Option (NilMap K V) :=
  m.map fun made => some (made.insert k v)

/-- The loop `for k, v := range src { dst[k] = f(v) }`. -/
def NilMap.assignAll (f : V → W) (dst : NilMap K W) (src : NilMap K V) : Option (NilMap K W) :=
  src.entries.foldlM (fun m e => m.assign e.1 (f e.2)) dst

/-- `reflect.DeepEqual`. -/
def NilMap.deepEqual [DecidableEq V] : NilMap K V → NilMap K V → Bool
  | none,none => true
  | some m,some m' => m.deepEqual m'
  | _,_ => false

/-- Maps that are both nil or both made, with the same entries. -/
structure NilMap.Same (m m' : NilMap K V) : Prop where
  made : m = none ↔ m' = none
  entries : ∀ k, m.lookup k = m'.lookup k

theorem NilMap.deepEqual_iff [DecidableEq V] (m m' : NilMap K V) : m.deepEqual m' = true ↔ m.Same m' := by
  cases m with
  | none =>
    cases m' with
    | none => exact iff_of_true rfl ⟨Iff.rfl,fun _ => rfl⟩
    | some m' => exact iff_of_false (by simp [NilMap.deepEqual]) fun same => by simpa using same.made
  | some m =>
    cases m' with
    | none => exact iff_of_false (by simp [NilMap.deepEqual]) fun same => by simpa using same.made
    | some m' =>
      rw [NilMap.deepEqual,Map.deepEqual_iff]
      exact ⟨fun entries => ⟨by simp,entries⟩,fun same => same.entries⟩

theorem NilMap.Same.refl (m : NilMap K V) : m.Same m := ⟨Iff.rfl,fun _ => rfl⟩

theorem NilMap.Same.symm {m m' : NilMap K V} (same : m.Same m') : m'.Same m :=
  ⟨same.made.symm,fun k => (same.entries k).symm⟩

theorem NilMap.Same.trans {m m' m'' : NilMap K V} (first : m.Same m') (second : m'.Same m'') : m.Same m'' :=
  ⟨first.made.trans second.made,fun k => (first.entries k).trans (second.entries k)⟩

theorem NilMap.lookup_of_len_eq_zero {m : NilMap K V} (empty : m.len = 0) (k : K) : m.lookup k = none := by
  cases m with
  | none => rfl
  | some made =>
    have entries : made.entries = [] := List.length_eq_zero_iff.mp empty
    simp [NilMap.lookup,AList.lookup,entries]

private theorem foldlM_assign (f : V → W) (entries : List (Sigma fun _ : K => V)) (made : Map K W) :
    entries.foldlM (fun (m : NilMap K W) e => m.assign e.1 (f e.2)) (some made) =
      some (some (entries.foldl (fun m e => m.insert e.1 (f e.2)) made)) := by
  induction entries generalizing made with
  | nil => rfl
  | cons e rest ih => exact ih _

theorem NilMap.assignAll_some (f : V → W) (made : Map K W) (src : NilMap K V) :
    NilMap.assignAll f (some made) src = some (some (Map.assignAll f made (src.getD ∅))) := by
  rw [NilMap.assignAll,foldlM_assign,Map.assignAll]
  cases src <;> rfl

theorem NilMap.lookup_getD (m : NilMap K V) (k : K) : (m.getD ∅).lookup k = m.lookup k := by
  cases m with
  | none => exact Map.lookup_empty k
  | some made => rfl

end NilMaps

section Values

/-- The map with a function applied to its values. -/
def Map.mapValues (f : V → W) (m : Map K V) : Map K W where
  entries := m.entries.map fun e => ⟨e.1,f e.2⟩
  nodupKeys := by
    have keys : (m.entries.map fun e => (⟨e.1,f e.2⟩ : Sigma fun _ : K => W)).keys = m.entries.keys := by
      simp [List.keys,Function.comp_def]
    rw [List.NodupKeys,keys]
    exact m.nodupKeys

theorem Map.entries_mapValues (f : V → W) (m : Map K V) :
    (m.mapValues f).entries = m.entries.map fun e => ⟨e.1,f e.2⟩ := rfl

theorem Map.lookup_mapValues [DecidableEq K] (f : V → W) (m : Map K V) (k : K) :
    (m.mapValues f).lookup k = (m.lookup k).map f :=
  List.dlookup_map₂ (f := fun _ : K => f) k

end Values

end Go
