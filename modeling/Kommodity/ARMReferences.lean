import Kommodity.AzureARM

/-! The references of a resource to other resources, which a walk by reflection finds in its spec. A
value is what `reflect` makes of it: the kinds that can hold others, and a leaf for all that cannot.
`MapIndex` finds nothing under a key that is not equal to itself. -/
namespace Kommodity.AzureARM.References

open Go

inductive Value where
  | leaf
  /-- A struct of the type `genruntime.ResourceReference`. -/
  | reference (r : ResourceReference)
  | nilPointer
  | pointer (target : Value)
  | nilInterface
  | interface (element : Value)
  /-- The fields, with whether each is exported. -/
  | struct (fields : List (Bool × Value))
  | slice (elements : List Value)
  | array (elements : List Value)
  /-- The values, with whether the key of each is equal to itself; a float that is not a number is not. -/
  | map (values : List (Bool × Value))

/-- `map[genruntime.ResourceReference]struct{}`. -/
abbrev Collected := Map ResourceReference Unit

mutual

def collectReferences : Value → Collected → Collected
  | .leaf,result => result
  | .reference r,result => result.insert r ()
  | .nilPointer,result => result
  | .pointer target,result => collectReferences target result
  | .nilInterface,result => result
  | .interface element,result => collectReferences element result
  | .struct fields,result => collectFlagged fields result
  | .slice elements,result => collectElements elements result
  | .array elements,result => collectElements elements result
  | .map values,result => collectFlagged values result

def collectElements : List Value → Collected → Collected
  | [],result => result
  | v :: rest,result => collectElements rest (collectReferences v result)

/-- The loops over the fields of a struct and the keys of a map: a field that is not exported is passed
over, and `MapIndex` returns the zero `Value` for a key that is not equal to itself. -/
def collectFlagged : List (Bool × Value) → Collected → Collected
  | [],result => result
  | (visible,v) :: rest,result =>
    collectFlagged rest (if visible then collectReferences v result else result)

end

def findResourceReferences (obj : Value) : Collected := collectReferences obj ∅

/-- The loop of `buildResolvedDetails` over the references, in the order in which the map yields them. -/
def resolveAll : List ResourceReference → Map ResourceReference String →
    Except Error (Map ResourceReference String)
  | [],resolved => .ok resolved
  | r :: rest,resolved =>
    if r.armID = "" then .error (.of (.referenceUnresolved r)) else resolveAll rest (resolved.insert r r.armID)

/-- `ConvertToARMResolvedDetails`. -/
structure Details where
  name : String
  resolvedReferences : Map ResourceReference String

def buildResolvedDetails (azureName : String) (references : List ResourceReference) : Except Error Details :=
  match resolveAll references ∅ with
  | .error err => .error err
  | .ok resolved => .ok ⟨azureName,resolved⟩

/-- A reference is in a value, through exported fields, pointers and interfaces that are not nil,
elements, and the values of maps under the keys that meet `Key`. -/
inductive Reachable (Key : Bool → Prop) (r : ResourceReference) : Value → Prop where
  | here : Reachable Key r (.reference r)
  | pointer (inside : Reachable Key r v) : Reachable Key r (.pointer v)
  | interface (inside : Reachable Key r v) : Reachable Key r (.interface v)
  | field (listed : (true,v) ∈ fields) (inside : Reachable Key r v) : Reachable Key r (.struct fields)
  | sliceElement (listed : v ∈ elements) (inside : Reachable Key r v) : Reachable Key r (.slice elements)
  | arrayElement (listed : v ∈ elements) (inside : Reachable Key r v) : Reachable Key r (.array elements)
  | mapValue (listed : (key,v) ∈ values) (found : Key key) (inside : Reachable Key r v) :
      Reachable Key r (.map values)

/-- Induction over values, with a hypothesis for every field, element and map value. -/
theorem Value.induction {P : Value → Prop} (leaf : P .leaf) (reference : ∀ r, P (.reference r))
    (nilPointer : P .nilPointer) (pointer : ∀ v, P v → P (.pointer v)) (nilInterface : P .nilInterface)
    (interface : ∀ v, P v → P (.interface v)) (struct : ∀ fields, (∀ e ∈ fields, P e.2) → P (.struct fields))
    (slice : ∀ elements, (∀ v ∈ elements, P v) → P (.slice elements))
    (array : ∀ elements, (∀ v ∈ elements, P v) → P (.array elements))
    (map : ∀ values, (∀ e ∈ values, P e.2) → P (.map values)) (v : Value) : P v :=
  @Value.rec P (fun l => ∀ e ∈ l, P e.2) (fun l => ∀ v ∈ l, P v) (fun e => P e.2)
    leaf reference nilPointer pointer nilInterface interface struct slice array map
    (by simp) (fun _ _ first rest => List.forall_mem_cons.mpr ⟨first,rest⟩)
    (by simp) (fun _ _ first rest => List.forall_mem_cons.mpr ⟨first,rest⟩) (fun _ _ second => second) v

section Reachable

variable {Key : Bool → Prop} {r : ResourceReference}

@[simp] theorem not_reachable_leaf : ¬ Reachable Key r .leaf := by
  rintro ⟨⟩

@[simp] theorem reachable_reference : Reachable Key r (.reference ref) ↔ r = ref := by
  constructor
  · rintro ⟨⟩
    rfl
  · rintro rfl
    exact .here

@[simp] theorem not_reachable_nilPointer : ¬ Reachable Key r .nilPointer := by
  rintro ⟨⟩

@[simp] theorem reachable_pointer : Reachable Key r (.pointer v) ↔ Reachable Key r v := by
  refine ⟨?_,.pointer⟩
  intro found
  cases found with
  | pointer inside => exact inside

@[simp] theorem not_reachable_nilInterface : ¬ Reachable Key r .nilInterface := by
  rintro ⟨⟩

@[simp] theorem reachable_interface : Reachable Key r (.interface v) ↔ Reachable Key r v := by
  refine ⟨?_,.interface⟩
  intro found
  cases found with
  | interface inside => exact inside

theorem reachable_struct : Reachable Key r (.struct fields) ↔ ∃ v, (true,v) ∈ fields ∧ Reachable Key r v := by
  constructor
  · intro found
    cases found with
    | field listed inside => exact ⟨_,listed,inside⟩
  · rintro ⟨v,listed,inside⟩
    exact .field listed inside

theorem reachable_slice : Reachable Key r (.slice elements) ↔ ∃ v ∈ elements, Reachable Key r v := by
  constructor
  · intro found
    cases found with
    | sliceElement listed inside => exact ⟨_,listed,inside⟩
  · rintro ⟨v,listed,inside⟩
    exact .sliceElement listed inside

theorem reachable_array : Reachable Key r (.array elements) ↔ ∃ v ∈ elements, Reachable Key r v := by
  constructor
  · intro found
    cases found with
    | arrayElement listed inside => exact ⟨_,listed,inside⟩
  · rintro ⟨v,listed,inside⟩
    exact .arrayElement listed inside

theorem reachable_map : Reachable Key r (.map values) ↔
    ∃ key v, (key,v) ∈ values ∧ Key key ∧ Reachable Key r v := by
  constructor
  · intro found
    cases found with
    | mapValue listed found inside => exact ⟨_,_,listed,found,inside⟩
  · rintro ⟨key,v,listed,found,inside⟩
    exact .mapValue listed found inside

end Reachable

/-- What the walk finds: keys that are equal to themselves lead to their values. -/
abbrev Found (r : ResourceReference) (v : Value) : Prop := Reachable (· = true) r v

/-- The walk adds what is in the value to what it has collected. -/
def Collects (v : Value) : Prop :=
  ∀ r result, r ∈ collectReferences v result ↔ r ∈ result ∨ Found r v

theorem mem_collectElements (each : ∀ v ∈ elements, Collects v) (r : ResourceReference) (result : Collected) :
    r ∈ collectElements elements result ↔ r ∈ result ∨ ∃ v ∈ elements, Found r v := by
  induction elements generalizing result with
  | nil => simp [collectElements]
  | cons v rest ih =>
    obtain ⟨first,others⟩ := List.forall_mem_cons.mp each
    rw [collectElements,ih others,first r result]
    simp [or_assoc]

theorem mem_collectFlagged (each : ∀ e ∈ flagged, Collects e.2) (r : ResourceReference) (result : Collected) :
    r ∈ collectFlagged flagged result ↔ r ∈ result ∨ ∃ v, (true,v) ∈ flagged ∧ Found r v := by
  induction flagged generalizing result with
  | nil => simp [collectFlagged]
  | cons e rest ih =>
    obtain ⟨first,others⟩ := List.forall_mem_cons.mp each
    obtain ⟨visible,v⟩ := e
    rw [collectFlagged,ih others]
    cases visible with
    | false => simp
    | true =>
      rw [if_pos rfl,first r result]
      simp [or_assoc,or_and_right,exists_or]

theorem collects (v : Value) : Collects v := by
  induction v using Value.induction with
  | leaf => simp [Collects,collectReferences]
  | reference ref => simp [Collects,collectReferences,or_comm]
  | nilPointer => simp [Collects,collectReferences]
  | pointer v ih =>
    intro r result
    rw [collectReferences,ih r result]
    exact or_congr_right reachable_pointer.symm
  | nilInterface => simp [Collects,collectReferences]
  | interface v ih =>
    intro r result
    rw [collectReferences,ih r result]
    exact or_congr_right reachable_interface.symm
  | struct fields ih =>
    intro r result
    rw [collectReferences,mem_collectFlagged ih r result]
    exact or_congr_right reachable_struct.symm
  | slice elements ih =>
    intro r result
    rw [collectReferences,mem_collectElements ih r result]
    exact or_congr_right reachable_slice.symm
  | array elements ih =>
    intro r result
    rw [collectReferences,mem_collectElements ih r result]
    exact or_congr_right reachable_array.symm
  | map values ih =>
    intro r result
    rw [collectReferences,mem_collectFlagged ih r result]
    refine or_congr_right (Iff.trans ?_ reachable_map.symm)
    simp

theorem mem_findResourceReferences (v : Value) (r : ResourceReference) :
    r ∈ findResourceReferences v ↔ Found r v := by
  rw [findResourceReferences,collects v r ∅]
  simp

/-- The loop fails at the first reference without an ARM ID, or maps each reference to its own. -/
theorem resolveAll_spec (references : List ResourceReference) (resolved : Map ResourceReference String) :
    (∃ r, references.find? (·.armID = "") = some r ∧
      resolveAll references resolved = .error (.of (.referenceUnresolved r))) ∨
    references.find? (·.armID = "") = none ∧ ∃ final, resolveAll references resolved = .ok final ∧
      ∀ r, final.lookup r = if r ∈ references then some r.armID else resolved.lookup r := by
  induction references generalizing resolved with
  | nil => exact .inr ⟨rfl,resolved,rfl,by simp⟩
  | cons ref rest ih =>
    rw [resolveAll]
    by_cases empty : ref.armID = ""
    · exact .inl ⟨ref,by simp [empty],by rw [if_pos empty]⟩
    · rw [if_neg empty,List.find?_cons_of_neg (by simpa using empty)]
      rcases ih (resolved.insert ref ref.armID) with failed | ⟨filled,final,ok,values⟩
      · exact .inl failed
      · refine .inr ⟨filled,final,ok,?_⟩
        intro r
        rw [values r,Map.lookup_insert_eq]
        by_cases same : r = ref
        · subst same
          simp
        · simp [same]

/-- The details that the reconciler is modelled with are those of this loop over its references. -/
theorem buildResolvedDetails_eq (env : Env Spec Body) (spec : Spec) :
    (∀ err, AzureARM.buildResolvedDetails env spec = .error err ↔
      buildResolvedDetails (env.azureName spec) (env.references spec) = .error err) ∧
    ∀ resolved, AzureARM.buildResolvedDetails env spec = .ok resolved →
      ∃ details, buildResolvedDetails (env.azureName spec) (env.references spec) = .ok details ∧
        details.name = resolved.name ∧
        ∀ r armID, details.resolvedReferences.lookup r = some armID ↔ (r,armID) ∈ resolved.resolved := by
  unfold AzureARM.buildResolvedDetails buildResolvedDetails
  rcases resolveAll_spec (env.references spec) ∅ with ⟨r,bare,failed⟩ | ⟨filled,final,ok,values⟩
  · rw [bare,failed]
    exact ⟨by simp,by simp⟩
  · rw [filled,ok]
    refine ⟨by simp,?_⟩
    intro resolved built
    obtain rfl := Except.ok.inj built
    refine ⟨_,rfl,rfl,?_⟩
    intro r armID
    rw [values r,AList.lookup_empty]
    by_cases member : r ∈ env.references spec
    · simp [member,eq_comm]
    · simp [member]

/-- The references that are found, and what they are resolved to. Values under keys that are not equal
to themselves are not visited. -/
theorem references_exact (v : Value) (azureName : String)
    (order : references.Perm (findResourceReferences v).keys) :
    (∀ r, r ∈ findResourceReferences v ↔ Found r v) ∧
    ((∃ details, buildResolvedDetails azureName references = .ok details) ↔ ∀ r, Found r v → r.armID ≠ "") ∧
    ∀ details, buildResolvedDetails azureName references = .ok details → details.name = azureName ∧
      ∀ r armID, details.resolvedReferences.lookup r = some armID ↔ Found r v ∧ armID = r.armID := by
  have listed (r : ResourceReference) : r ∈ references ↔ Found r v := by
    rw [order.mem_iff,← AList.mem_keys,mem_findResourceReferences]
  refine ⟨mem_findResourceReferences v,?_⟩
  unfold buildResolvedDetails
  rcases resolveAll_spec references ∅ with ⟨r,bare,failed⟩ | ⟨filled,final,ok,values⟩
  · rw [failed]
    refine ⟨⟨by simp,?_⟩,by simp⟩
    intro all
    have found := (listed r).mp (List.mem_of_find?_eq_some bare)
    exact absurd (by simpa using List.find?_some bare) (all r found)
  · rw [ok]
    refine ⟨⟨?_,fun _ => ⟨_,rfl⟩⟩,?_⟩
    · intro _ r found
      simpa using List.find?_eq_none.mp filled r ((listed r).mpr found)
    · intro details built
      obtain rfl := Except.ok.inj built
      refine ⟨rfl,?_⟩
      intro r armID
      rw [values r,AList.lookup_empty]
      by_cases member : r ∈ references
      · simp [member,(listed r).mp member,eq_comm]
      · simp [member,mt (listed r).mpr member]

def sampleReference (armID : String) : ResourceReference := ⟨armID,"","",""⟩

/-- A spec with a reference behind a pointer, one in a field that is not exported, and one in a map. -/
def sampleSpec : Value :=
  .struct [(true,.pointer (.reference (sampleReference "/nsg"))),(false,.reference (sampleReference "")),
    (true,.slice [.map [(true,.interface (.reference (sampleReference "/routeTable")))]])]

theorem references_exact_sampleSpec :
    (∃ details, buildResolvedDetails "vnet" (findResourceReferences sampleSpec).keys = .ok details) ↔
      ∀ r, Found r sampleSpec → r.armID ≠ "" :=
  (references_exact sampleSpec "vnet" (List.Perm.refl _)).2.1

/-- A map from floats with a reference under a key that is not a number. -/
def nanKeySpec : Value := .map [(false,.reference (sampleReference ""))]

/-- The reference is a value of the map, but it is not found; without an ARM ID it is not refused. -/
theorem nanKey_reference_missed :
    Reachable (fun _ => True) (sampleReference "") nanKeySpec ∧
    sampleReference "" ∉ findResourceReferences nanKeySpec ∧
    ∃ details, buildResolvedDetails "vnet" (findResourceReferences nanKeySpec).keys = .ok details := by
  refine ⟨.mapValue List.mem_cons_self trivial .here,?_,⟨_,rfl⟩⟩
  rw [mem_findResourceReferences]
  simp [nanKeySpec,reachable_map]

end Kommodity.AzureARM.References
