import Kommodity.GoValues

/-! The custom resource definitions of the providers. Deprecated versions are taken out of a
definition before it is served; the version the objects are stored in is one of its versions. -/
namespace Kommodity.Provider

open Go

/-- A version of a definition; `Rest` has its schema, subresources and columns. -/
structure CRDVersion (Rest : Type) where
  name : String
  served : Bool
  storage : Bool
  deprecated : Bool
  rest : Rest
  deriving DecidableEq

/-- A definition: its versions, and the other fields. -/
structure CRD (Rest Fields : Type) where
  versions : List (CRDVersion Rest)
  fields : Fields
  deriving DecidableEq

inductive ProviderError where
  | conversion (detail : String)
  deriving DecidableEq

/-- `runtime.DefaultUnstructuredConverter` for definitions, and the name in the metadata. -/
structure Converter (Object Rest Fields : Type) where
  getName : Object → String
  fromUnstructured : Object → Except String (CRD Rest Fields)
  toUnstructured : CRD Rest Fields → Except String Object

/-- A definition that is written can be read again. -/
def Converter.RoundTrips (conv : Converter Object Rest Fields) : Prop :=
  ∀ crd, ∃ obj, conv.toUnstructured crd = .ok obj ∧ conv.fromUnstructured obj = .ok crd

/-- `slices.DeleteFunc` with the closure that records the names of what it deletes. -/
def deleteDeprecated : List (CRDVersion Rest) → List (CRDVersion Rest) × List String
  | [] => ([],[])
  | v :: versions =>
    let (kept,dropped) := deleteDeprecated versions
    if v.deprecated then (kept,v.name :: dropped) else (v :: kept,dropped)

/-- The error, and the object afterwards. -/
def stripDeprecatedVersions (conv : Converter Object Rest Fields) (obj : Object) :
    Option (Err ProviderError) × Object :=
  match conv.fromUnstructured obj with
  | .error detail =>
    (some ((Err.of (.conversion detail)).wrap ("failed to convert CRD " ++ conv.getName obj)),obj)
  | .ok crd =>
    let (kept,dropped) := deleteDeprecated crd.versions
    if dropped = [] ∨ kept = [] then (none,obj)
    else
      match conv.toUnstructured { crd with versions := kept } with
      | .error detail =>
        (some ((Err.of (.conversion detail)).wrap
          ("failed to convert CRD " ++ conv.getName obj ++ " back to unstructured")),obj)
      | .ok updated => (none,updated)

/-- What the API server asks of the versions of a definition. -/
structure ValidVersions (versions : List (CRDVersion Rest)) : Prop where
  filled : versions ≠ []
  storage : versions.countP (·.storage) = 1

theorem deleteDeprecated_eq (versions : List (CRDVersion Rest)) : deleteDeprecated versions =
    (versions.filter (!·.deprecated),(versions.filter (·.deprecated)).map (·.name)) := by
  induction versions with
  | nil => rfl
  | cons v versions ih =>
    rw [deleteDeprecated,ih]
    cases flag : v.deprecated <;> simp [flag]

/-- The versions that stay. -/
def keptVersions (versions : List (CRDVersion Rest)) : List (CRDVersion Rest) :=
  if versions.all (·.deprecated) then versions else versions.filter (!·.deprecated)

theorem stripDeprecatedVersions_spec {conv : Converter Object Rest Fields} (roundTrips : conv.RoundTrips)
    (decoded : conv.fromUnstructured obj = .ok crd) :
    ∃ obj', stripDeprecatedVersions conv obj = (none,obj') ∧
      conv.fromUnstructured obj' = .ok { crd with versions := keptVersions crd.versions } := by
  simp only [stripDeprecatedVersions,decoded,deleteDeprecated_eq]
  split
  · next same =>
    refine ⟨obj,rfl,?_⟩
    rw [decoded,keptVersions]
    split
    · rfl
    · next notAll =>
      rcases same with noneDropped | noneKept
      · have kept : crd.versions.filter (!·.deprecated) = crd.versions := by
          rw [List.filter_eq_self]
          intro v listed
          simpa using List.filter_eq_nil_iff.mp (List.map_eq_nil_iff.mp noneDropped) v listed
        rw [kept]
      · refine absurd (List.all_eq_true.mpr ?_) notAll
        intro v listed
        simpa using List.filter_eq_nil_iff.mp noneKept v listed
  · next changed =>
    obtain ⟨dropped,kept⟩ := not_or.mp changed
    obtain ⟨obj',written,read⟩ := roundTrips { crd with versions := crd.versions.filter (!·.deprecated) }
    have notAll : ¬ crd.versions.all (·.deprecated) = true := by
      intro all
      refine kept (List.filter_eq_nil_iff.mpr ?_)
      intro v listed
      simpa using List.all_eq_true.mp all v listed
    refine ⟨obj',by rw [written],?_⟩
    rw [read,keptVersions,if_neg notAll]

theorem keptVersions_sublist (versions : List (CRDVersion Rest)) :
    (keptVersions versions).Sublist versions ∧
    (versions.filter (!·.deprecated)).Sublist (keptVersions versions) := by
  unfold keptVersions
  split
  · exact ⟨List.Sublist.refl _,List.filter_sublist⟩
  · exact ⟨List.filter_sublist,List.Sublist.refl _⟩

/-- The version of the store is kept when it is not deprecated, or nothing else is there to be kept. -/
theorem keptVersions_valid_iff (valid : ValidVersions versions) : ValidVersions (keptVersions versions) ↔
    (∀ v ∈ versions, v.storage = true → v.deprecated = false) ∨ ∀ v ∈ versions, v.deprecated = true := by
  unfold keptVersions
  split
  · next all => exact ⟨fun _ => .inr (by simpa using all),fun _ => valid⟩
  · next notAll =>
    have stored : (versions.filter (!·.deprecated)).countP (·.storage) +
        (versions.filter (·.deprecated)).countP (·.storage) = 1 := by
      rw [← valid.storage,List.countP_filter,List.countP_filter,
        List.countP_eq_countP_filter_add versions (·.storage) (!·.deprecated),List.countP_filter,List.countP_filter]
      simp
    constructor
    · intro left
      refine .inl ?_
      intro v listed storage
      have none' : (versions.filter (·.deprecated)).countP (·.storage) = 0 := by
        have := left.storage
        omega
      rw [List.countP_eq_zero] at none'
      by_contra deprecated
      exact none' v (List.mem_filter.mpr ⟨listed,by simpa using deprecated⟩) storage
    · rintro (current | all)
      · have none' : (versions.filter (·.deprecated)).countP (·.storage) = 0 := by
          rw [List.countP_eq_zero]
          intro v listed storage
          obtain ⟨listed,deprecated⟩ := List.mem_filter.mp listed
          rw [current v listed storage] at deprecated
          cases deprecated
        refine ⟨?_,by omega⟩
        intro empty
        rw [empty] at stored
        simp at stored
        omega
      · exact absurd (List.all_eq_true.mpr all) notAll

/-- What is left of a definition is valid, and has all that is not deprecated, exactly when the version
of the store is not deprecated or every version is. -/
theorem stripDeprecatedVersions_valid_iff {conv : Converter Object Rest Fields} (roundTrips : conv.RoundTrips)
    (decoded : conv.fromUnstructured obj = .ok crd) (valid : ValidVersions crd.versions) :
    (∃ left, conv.fromUnstructured (stripDeprecatedVersions conv obj).2 = .ok left ∧
      ValidVersions left.versions ∧ left.versions.Sublist crd.versions ∧
      (crd.versions.filter (!·.deprecated)).Sublist left.versions) ↔
    (∀ v ∈ crd.versions, v.storage = true → v.deprecated = false) ∨
      ∀ v ∈ crd.versions, v.deprecated = true := by
  obtain ⟨obj',stripped,read⟩ := stripDeprecatedVersions_spec roundTrips decoded
  rw [stripped,read,← keptVersions_valid_iff valid]
  constructor
  · rintro ⟨left,same,kept,-⟩
    obtain rfl := Except.ok.inj same
    exact kept
  · intro kept
    exact ⟨_,rfl,kept,keptVersions_sublist crd.versions⟩

/-- Definitions that are written as they are. -/
def plainConverter : Converter (CRD Unit Unit) Unit Unit := ⟨fun _ => "widgets.example.com",.ok,.ok⟩

theorem plainConverter_roundTrips : plainConverter.RoundTrips := fun crd => ⟨crd,rfl,rfl⟩

def widgets (oldStorage : Bool) : CRD Unit Unit :=
  ⟨[⟨"v1beta1",true,oldStorage,true,()⟩,⟨"v1",true,!oldStorage,false,()⟩],()⟩

theorem stripDeprecatedVersions_valid_widgets :
    ∃ left, plainConverter.fromUnstructured (stripDeprecatedVersions plainConverter (widgets false)).2 = .ok left ∧
      ValidVersions left.versions ∧ left.versions.Sublist (widgets false).versions ∧
      ((widgets false).versions.filter (!·.deprecated)).Sublist left.versions :=
  (stripDeprecatedVersions_valid_iff plainConverter_roundTrips rfl ⟨by decide,by decide⟩).mpr (.inl (by decide))

/-- A definition whose objects are stored in a deprecated version is left without a version for them. -/
theorem strip_removes_storage_version :
    ValidVersions (widgets true).versions ∧
    stripDeprecatedVersions plainConverter (widgets true) = (none,⟨[⟨"v1",true,false,false,()⟩],()⟩) ∧
    ¬ ValidVersions [(⟨"v1",true,false,false,()⟩ : CRDVersion Unit)] := by
  refine ⟨⟨by decide,by decide⟩,by decide,?_⟩
  intro valid
  have storage := valid.storage
  revert storage
  decide

end Kommodity.Provider
