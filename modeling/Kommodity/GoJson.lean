import Mathlib.Data.List.Basic
import Mathlib.Data.List.Nodup

/-! JSON values as they are decoded into `any`, the accessors of unstructured objects, and merge
patches. A map is a list of fields in which the first of a name counts. -/
namespace Go

inductive Json where
  | null
  | bool (value : Bool)
  | number (literal : String)
  | string (value : String)
  | array (items : List Json)
  | object (fields : List (String × Json))

namespace Json

abbrev Fields := List (String × Json)

def deleteField : Fields → String → Fields
  | [],_ => []
  | (name,value) :: rest,key =>
    if name = key then deleteField rest key else (name,value) :: deleteField rest key

def setField (fields : Fields) (key : String) (value : Json) : Fields := (key,value) :: deleteField fields key

theorem lookup_cons_eq (name k : String) (value : Json) (rest : Fields) :
    List.lookup k ((name,value) :: rest) = if k = name then some value else rest.lookup k := by
  by_cases same : k = name
  · simp [same]
  · have other : (k == name) = false := by simpa using same
    simp [List.lookup_cons,other,same]

@[simp] theorem lookup_deleteField (fields : Fields) (key k : String) :
    (deleteField fields key).lookup k = if k = key then none else fields.lookup k := by
  induction fields with
  | nil => simp [deleteField]
  | cons field rest ih =>
    obtain ⟨name,value⟩ := field
    rw [deleteField,lookup_cons_eq]
    split
    · next removed =>
      subst name
      rw [ih]
      by_cases same : k = key <;> simp [same]
    · next kept =>
      rw [lookup_cons_eq,ih]
      by_cases same : k = name
      · subst same
        simp [kept]
      · simp [same]

@[simp] theorem lookup_setField (fields : Fields) (key k : String) (value : Json) :
    (setField fields key value).lookup k = if k = key then some value else fields.lookup k := by
  rw [setField,lookup_cons_eq,lookup_deleteField]
  split <;> rfl

/-- The fields of a map, and none of another value. -/
def fields : Json → Fields
  | .object fields => fields
  | _ => []

@[simp] theorem fields_object (fs : Fields) : (Json.object fs).fields = fs := rfl

/-- The value at a path of fields. -/
def atPath (value : Json) : List String → Option Json
  | [] => some value
  | key :: rest => (value.fields.lookup key).bind fun child => child.atPath rest

@[simp] theorem atPath_nil (value : Json) : value.atPath [] = some value := rfl

theorem atPath_cons (value : Json) (key : String) (rest : List String) :
    value.atPath (key :: rest) = (value.fields.lookup key).bind fun child => child.atPath rest := rfl

@[simp] theorem atPath_object_fields (value : Json) (key : String) (rest : List String) :
    (Json.object value.fields).atPath (key :: rest) = value.atPath (key :: rest) := rfl

section Accessors

/-- The path at which an accessor has met a value of another type. -/
abbrev AccessorError := List String

/-- `unstructured.NestedFieldNoCopy`. A null on the way counts as absent. -/
def nestedField : Json → List String → Except AccessorError (Option Json)
  | value,[] => .ok (some value)
  | .null,_ :: _ => .ok none
  | .object fields,key :: rest =>
    match fields.lookup key with
    | none => .ok none
    | some child => (child.nestedField rest).mapError (key :: ·)
  | _,key :: _ => .error [key]

/-- `unstructured.NestedString`. -/
def nestedString (value : Json) (path : List String) : Except AccessorError (Option String) :=
  match value.nestedField path with
  | .error err => .error err
  | .ok none => .ok none
  | .ok (some (.string text)) => .ok (some text)
  | .ok (some _) => .error path

/-- `unstructured.NestedSlice`. -/
def nestedSlice (value : Json) (path : List String) : Except AccessorError (Option (List Json)) :=
  match value.nestedField path with
  | .error err => .error err
  | .ok none => .ok none
  | .ok (some (.array items)) => .ok (some items)
  | .ok (some _) => .error path

/-- `unstructured.SetNestedField` for a path that is not empty. Maps on the way that are absent are made. -/
def setNestedField (fields : Fields) (value : Json) (key : String) : List String → Except AccessorError Fields
  | [] => .ok (setField fields key value)
  | next :: rest =>
    match fields.lookup key with
    | none => (setNestedField [] value next rest).map fun child => setField fields key (.object child)
    | some (.object children) =>
      match setNestedField children value next rest with
      | .error err => .error (key :: err)
      | .ok child => .ok (setField fields key (.object child))
    | some _ => .error [key]

theorem nestedField_found (value : Json) (path : List String) :
    value.nestedField path = .ok (some found) ↔ value.atPath path = some found := by
  induction path generalizing value with
  | nil => simp [nestedField]
  | cons key rest ih =>
    cases value with
    | object fs =>
      rw [nestedField,atPath_cons,fields_object]
      cases fs.lookup key with
      | none => simp
      | some child =>
        rw [Option.bind_some,← ih child]
        cases inside : child.nestedField rest <;> simp [Except.mapError,inside]
    | _ => simp [nestedField,atPath_cons,fields]

theorem nestedString_found (value : Json) (path : List String) :
    value.nestedString path = .ok (some text) ↔ value.atPath path = some (.string text) := by
  rw [← nestedField_found,nestedString]
  split <;> simp_all

theorem nestedSlice_found (value : Json) (path : List String) :
    value.nestedSlice path = .ok (some items) ↔ value.atPath path = some (.array items) := by
  rw [← nestedField_found,nestedSlice]
  split <;> simp_all

/-- Two paths that part at some field. -/
inductive Part : List String → List String → Prop where
  | here (other : k ≠ key) : Part (k :: rest) (key :: rest')
  | later (parted : Part rest rest') : Part (key :: rest) (key :: rest')

@[simp] theorem part_cons_iff (k key : String) (rest rest' : List String) :
    Part (k :: rest) (key :: rest') ↔ k ≠ key ∨ Part rest rest' := by
  constructor
  · rintro (other | parted)
    · exact .inl other
    · exact .inr parted
  · rintro (other | parted)
    · exact .here other
    · by_cases same : k = key
      · exact same ▸ .later parted
      · exact .here same

instance Part.decidable : (path path' : List String) → Decidable (Part path path')
  | [],_ => isFalse nofun
  | _ :: _,[] => isFalse nofun
  | k :: rest,key :: rest' =>
    have := Part.decidable rest rest'
    decidable_of_iff _ (part_cons_iff k key rest rest').symm

theorem setNestedField_ok (set : setNestedField fs value key rest = .ok fs') :
    (Json.object fs').atPath (key :: rest) = some value ∧
    ∀ path, Part path (key :: rest) → (Json.object fs').atPath path = (Json.object fs).atPath path := by
  induction rest generalizing fs fs' key with
  | nil =>
    simp only [setNestedField,Except.ok.injEq] at set
    subst set
    refine ⟨by simp [atPath_cons],?_⟩
    rintro path (other | parted)
    · simp [atPath_cons,other]
    · cases parted
  | cons next rest ih =>
    have below : ∀ children child, setNestedField children value next rest = .ok child →
        (∀ path, path ≠ [] → ((fs.lookup key).bind fun child => child.atPath path) =
          (Json.object children).atPath path) → fs' = setField fs key (.object child) →
        (Json.object fs').atPath (key :: next :: rest) = some value ∧
          ∀ path, Part path (key :: next :: rest) →
            (Json.object fs').atPath path = (Json.object fs).atPath path := by
      rintro children child done same rfl
      obtain ⟨found,others⟩ := ih done
      refine ⟨by simpa [atPath_cons] using found,?_⟩
      rintro path (other | ⟨parted⟩)
      · simp [atPath_cons,other]
      · next path' =>
        have nonempty : path' ≠ [] := by rintro rfl; cases parted
        rw [atPath_cons,atPath_cons,fields_object,fields_object,same path' nonempty,← others path' parted]
        simp
    simp only [setNestedField] at set
    split at set
    · next absent =>
      cases done : setNestedField [] value next rest with
      | error err => simp [done,Except.map] at set
      | ok child =>
        refine below [] child done ?_ (by simpa [done,Except.map,eq_comm] using set)
        intro path nonempty
        cases path with
        | nil => exact absurd rfl nonempty
        | cons k path => simp [absent,atPath_cons]
    · next children present =>
      cases done : setNestedField children value next rest with
      | error err => simp [done] at set
      | ok child =>
        refine below children child done ?_ (by simpa [done,eq_comm] using set)
        intro path _
        rw [present,Option.bind_some]
    · cases set

end Accessors

section MergePatch

mutual

/-- A JSON merge patch: null deletes a field, a map is merged, and any other value replaces. -/
def mergePatch (target : Json) : Json → Json
  | .object changes => .object (mergeFields target.fields changes)
  | patch => patch

def mergeFields (fields : Fields) : Fields → Fields
  | [] => fields
  | (key,change) :: rest =>
    match change with
    | .null => mergeFields (deleteField fields key) rest
    | change => mergeFields (setField fields key (mergePatch ((fields.lookup key).getD .null) change)) rest

end

@[simp] theorem mergePatch_object (target : Json) (changes : Fields) :
    mergePatch target (.object changes) = .object (mergeFields target.fields changes) := by
  rw [mergePatch]

end MergePatch

end Json

end Go
