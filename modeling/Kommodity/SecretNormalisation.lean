import Kommodity.GoNilMap
import Kommodity.SecretStorage
import Kommodity.Transition

/-! The Secret strategy on Secrets as Go holds them, with maps and slices that may be nil. Requests are
normalised by two merges, that of the conversion library, which may fail, and the strategy's own; the
outcome of the conversion is part of the request. -/
namespace Kommodity.Secrets.V1

open Go Versioned Transition

structure Secret where
  metadata : ObjectMeta
  type : String
  data : NilMap String Slice
  stringData : NilMap String String
  immutable : Option Bool

/-- What `scheme.Convert` has returned for a Secret: the data of the internal one, or an error. -/
abbrev Outcome := Except String (NilMap String Slice)

/-- The data under a key once the string data has been merged in. -/
def Secret.merged (secret : Secret) (k : String) : Option Slice :=
  ((secret.stringData.lookup k).map Slice.ofString).or (secret.data.lookup k)

/-- The rule of the registered conversion: string data overrides data, and a map is made only when
there is something to put into it. -/
structure Merges (secret : Secret) (data : NilMap String Slice) : Prop where
  entries : ∀ k, data.lookup k = secret.merged k
  made : data = none ↔ secret.data = none ∧ secret.stringData.len = 0

/-- The conversion fails, or it follows the rule. -/
def Converts (secret : Secret) (outcome : Outcome) : Prop := ∀ data, outcome = .ok data → Merges secret data

/-- The data after the conversion. -/
def converted (outcome : Outcome) (secret : Secret) : NilMap String Slice :=
  match outcome with
  | .ok data => data
  | .error _ => secret.data

/-- The strategy's own merge. -/
def mergeStringData (data : NilMap String Slice) (stringData : NilMap String String) : Option (NilMap String Slice) :=
  if 0 < stringData.len then
    NilMap.assignAll Slice.ofString (if data = none then some ∅ else data) stringData
  else some data

def conversionError : Outcome → Option String
  | .ok _ => none
  | .error cause => some ("failed to convert v1 Secret via scheme: " ++ cause)

/-- The Secret after the call, and the error it returns. -/
def applySecretConversions (outcome : Outcome) (secret : Secret) : Option (Secret × Option String) :=
  (mergeStringData (converted outcome secret) secret.stringData).map fun data =>
    ({ secret with data := data, stringData := none },conversionError outcome)

def prepareForCreate (outcome : Outcome) (secret : Secret) : Option Secret :=
  (applySecretConversions outcome secret).map Prod.fst

def prepareForUpdate (outcome : Outcome) (new old : Secret) : Option Secret :=
  (applySecretConversions outcome (if new.type = "" then { new with type := old.type } else new)).map Prod.fst

def totalSize (data : NilMap String Slice) : Nat := (data.entries.map fun e => e.2.len).sum

section Normalisation

/-- The strategy's merge follows the rule of the library, and does not panic. -/
theorem mergeStringData_eq (data : NilMap String Slice) (stringData : NilMap String String) :
    ∃ merged, mergeStringData data stringData = some merged ∧
      (∀ k, merged.lookup k = ((stringData.lookup k).map Slice.ofString).or (data.lookup k)) ∧
      (merged = none ↔ data = none ∧ stringData.len = 0) := by
  unfold mergeStringData
  split
  · next filled =>
    obtain ⟨made,same,entries⟩ : ∃ made, (if data = none then some ∅ else data) = some made ∧
        ∀ k, made.lookup k = data.lookup k := by
      cases data with
      | none => exact ⟨∅,rfl,Map.lookup_empty⟩
      | some made => exact ⟨made,rfl,fun _ => rfl⟩
    rw [same,NilMap.assignAll_some]
    refine ⟨_,rfl,?_,by simp; omega⟩
    intro k
    rw [NilMap.lookup,Option.bind_some,Map.lookup_assignAll,NilMap.lookup_getD,entries]
  · next empty =>
    have empty : stringData.len = 0 := by omega
    exact ⟨data,rfl,fun k => by simp [NilMap.lookup_of_len_eq_zero empty],by simp [empty]⟩

/-- For either outcome of the conversion the data is what the library's rule says. -/
theorem applySecretConversions_eq (converts : Converts secret outcome) :
    ∃ data, applySecretConversions outcome secret =
      some ({ secret with data := data, stringData := none },conversionError outcome) ∧ Merges secret data := by
  obtain ⟨data,merged,entries,made⟩ := mergeStringData_eq (converted outcome secret) secret.stringData
  refine ⟨data,by rw [applySecretConversions,merged]; rfl,?_⟩
  cases outcome with
  | error cause => exact ⟨entries,made⟩
  | ok library =>
    have merges := converts library rfl
    have entries : ∀ k, data.lookup k = ((secret.stringData.lookup k).map Slice.ofString).or (library.lookup k) :=
      entries
    refine ⟨?_,?_⟩
    · intro k
      rw [entries,merges.entries,Secret.merged,← Option.or_assoc,Option.or_self]
    · refine made.trans ?_
      have library' : library = none ↔ secret.data = none ∧ secret.stringData.len = 0 := merges.made
      tauto

/-- An update is normalised like a creation; an empty type is that of the stored Secret. -/
theorem prepareForUpdate_eq (converts : Converts new outcome) (old : Secret) :
    ∃ data, prepareForUpdate outcome new old = some { new with
      type := if new.type = "" then old.type else new.type, data := data, stringData := none } ∧ Merges new data := by
  unfold prepareForUpdate
  split
  · have converts' : Converts { new with type := old.type } outcome :=
      fun data ok => ⟨(converts data ok).entries,(converts data ok).made⟩
    obtain ⟨data,applied,merges⟩ := applySecretConversions_eq converts'
    exact ⟨data,by rw [applied]; rfl,merges.entries,merges.made⟩
  · obtain ⟨data,applied,merges⟩ := applySecretConversions_eq converts
    exact ⟨data,by rw [applied]; rfl,merges⟩

end Normalisation

section Strategy

variable (up : Upstream)

def validateSecret (secret : Secret) : List FieldError :=
  up.validateObjectMeta secret.metadata ++
  secret.data.keys.flatMap (fun key =>
    (up.isConfigMapKey key).map (FieldError.invalid ("data[" ++ key ++ "]") key)) ++
  (if maxSecretSize < totalSize secret.data then [FieldError.tooLong "data" maxSecretSize] else [])

def validateUpdate (new old : Secret) : List FieldError :=
  up.validateObjectMetaUpdate new.metadata old.metadata ++
  validateImmutableField new.type old.type "type" ++
  (if old.immutable = some true then
    (if new.immutable = some true then []
      else [FieldError.forbidden "immutable" "field is immutable when `immutable` is set"]) ++
    (if new.data.deepEqual old.data then []
      else [FieldError.forbidden "data" "field is immutable when `immutable` is set"])
  else []) ++
  validateSecret up new

/-- What clients ask of the API server. An update without a version is unconditional. -/
inductive Action where
  | create (secret : Secret) (outcome : Outcome)
  | update (secret : Secret) (version : Option Nat) (outcome : Outcome)
  | delete (name : String)

/-- A request that panics or is not valid stores nothing. -/
def create (store : Store String Secret) (secret : Secret) (outcome : Outcome) : Except APIError (Store String Secret) :=
  match prepareForCreate outcome secret with
  | none => .error .unavailable
  | some prepared =>
    match validateSecret up prepared with
    | [] => (store.create prepared.metadata.name prepared).mapError .store
    | errors => .error (.invalid errors)

def update (store : Store String Secret) (secret : Secret) (version : Option Nat) (outcome : Outcome) :
    Except APIError (Store String Secret) :=
  match store.get secret.metadata.name with
  | none => .error (.store .notFound)
  | some old =>
    match prepareForUpdate outcome secret old.value with
    | none => .error .unavailable
    | some prepared =>
      match validateUpdate up prepared old.value with
      | [] => (store.update secret.metadata.name prepared (version.getD old.version)).mapError .store
      | errors => .error (.invalid errors)

def step (store : Store String Secret) : Action → Store String Secret
  | .create secret outcome => (create up store secret outcome).toOption.getD store
  | .update secret version outcome => (update up store secret version outcome).toOption.getD store
  | .delete name => store.remove name

def system : System (Store String Secret) Action := ⟨fun _ _ => True,step up⟩

end Strategy

section Runs

variable {up : Upstream}

theorem applySecretConversions_cleared
    (done : (applySecretConversions outcome secret).map Prod.fst = some prepared) : prepared.stringData = none := by
  simp only [applySecretConversions,Option.map_map,Option.map_eq_some_iff,Function.comp_apply] at done
  obtain ⟨data,_,rfl⟩ := done
  rfl

theorem prepareForUpdate_cleared (done : prepareForUpdate outcome new old = some prepared) :
    prepared.stringData = none := by
  unfold prepareForUpdate at done
  split at done
  · exact applySecretConversions_cleared done
  · exact applySecretConversions_cleared done

/-- Everything one request can do. -/
inductive Effect (up : Upstream) (s : Store String Secret) : Action → Store String Secret → Prop where
  | refused : Effect up s a s
  | created (prepared : Secret) (free : s.get prepared.metadata.name = none) (cleared : prepared.stringData = none) :
      Effect up s (.create secret outcome) (s.put prepared.metadata.name prepared)
  | updated (prepared : Secret) (found : s.get secret.metadata.name = some old)
      (valid : validateUpdate up prepared old.value = []) (cleared : prepared.stringData = none) :
      Effect up s (.update secret version outcome) (s.put secret.metadata.name prepared)
  | deleted : Effect up s (.delete name) (s.remove name)

theorem step_create (s : Store String Secret) (secret : Secret) (outcome : Outcome) :
    Effect up s (.create secret outcome) (step up s (.create secret outcome)) := by
  rw [step]
  cases done : create up s secret outcome with
  | error cause => exact .refused
  | ok t =>
    unfold create at done
    split at done
    · cases done
    · next prepared prepares =>
      split at done
      · obtain ⟨free,rfl⟩ := create_ok (mapError_ok done)
        exact .created prepared free (applySecretConversions_cleared prepares)
      · cases done

theorem step_update (s : Store String Secret) (secret : Secret) (version : Option Nat) (outcome : Outcome) :
    Effect up s (.update secret version outcome) (step up s (.update secret version outcome)) := by
  rw [step]
  cases done : update up s secret version outcome with
  | error cause => exact .refused
  | ok t =>
    unfold update at done
    split at done
    · cases done
    · next old found =>
      split at done
      · cases done
      · next prepared prepares =>
        split at done
        · next valid =>
          obtain ⟨_,rfl⟩ := update_ok (mapError_ok done)
          exact .updated prepared found valid (prepareForUpdate_cleared prepares)
        · cases done

theorem step_effect (s : Store String Secret) (a : Action) : Effect up s a (step up s a) := by
  cases a with
  | create secret outcome => exact step_create s secret outcome
  | update secret version outcome => exact step_update s secret version outcome
  | delete name => exact .deleted

/-- No stored Secret has string data. -/
def Cleared (s : Store String Secret) : Prop := ∀ name e, s.get name = some e → e.value.stringData = none

theorem Cleared.put (cleared : Cleared s) (name : String) {secret : Secret} (own : secret.stringData = none) :
    Cleared (s.put name secret) := by
  intro other e found
  by_cases same : other = name
  · subst same
    rw [get_put_same] at found
    cases found
    exact own
  · rw [get_put_other _ _ same] at found
    exact cleared other e found

theorem cleared_step (cleared : Cleared s) (a : Action) : Cleared (step up s a) := by
  have effect : Effect up s a (step up s a) := step_effect s a
  generalize step up s a = t at effect
  cases effect with
  | refused => exact cleared
  | created prepared free own => exact cleared.put _ own
  | updated prepared found valid own => exact cleared.put _ own
  | @deleted name =>
    intro other e found
    by_cases same : other = name
    · subst same
      rw [get_remove_same] at found
      cases found
    · rw [get_remove_other _ same] at found
      exact cleared other e found

theorem cleared_run (run : (system up).Run Store.empty actions t) : Cleared t :=
  run.invariant Cleared (fun _ a cleared _ => cleared_step cleared a) (by simp [Cleared])

/-- The Secret has its data, type and flag. -/
structure Fixed (secret other : Secret) : Prop where
  data : other.data.Same secret.data
  type : other.type = secret.type
  immutable : other.immutable = secret.immutable

theorem validateUpdate_fixed (valid : validateUpdate up new old = []) (flag : old.immutable = some true) :
    Fixed old new := by
  simp only [validateUpdate,List.append_eq_nil_iff,flag,if_true] at valid
  obtain ⟨⟨⟨_,type⟩,immutable,data⟩,_⟩ := valid
  refine ⟨?_,?_,?_⟩
  · rw [← NilMap.deepEqual_iff]
    by_contra other
    simp [other] at data
  · by_contra other
    simp [validateImmutableField,other] at type
  · rw [flag]
    by_contra other
    simp [other] at immutable

theorem Fixed.trans (first : Fixed a b) (second : Fixed b c) : Fixed a c :=
  ⟨second.data.trans first.data,second.type.trans first.type,second.immutable.trans first.immutable⟩

/-- Under the name there is the Secret, with all that is fixed of it. -/
def Holds (name : String) (secret : Secret) (s : Store String Secret) : Prop :=
  ∃ e, s.get name = some e ∧ Fixed secret e.value

theorem holds_step (flag : secret.immutable = some true) (holds : Holds name secret s) (a : Action)
    (kept : a ≠ .delete name) : Holds name secret (step up s a) := by
  obtain ⟨e,found,fixed⟩ := holds
  have effect : Effect up s a (step up s a) := step_effect s a
  generalize step up s a = t at effect
  cases effect with
  | refused => exact ⟨e,found,fixed⟩
  | created prepared free own =>
    have apart : name ≠ prepared.metadata.name := by
      rintro rfl
      rw [found] at free
      cases free
    exact ⟨e,by rw [get_put_other _ _ apart,found],fixed⟩
  | @updated old request version outcome prepared found' valid own =>
    by_cases same : name = request.metadata.name
    · subst same
      rw [found] at found'
      cases found'
      refine ⟨_,get_put_same _ _ _,fixed.trans (validateUpdate_fixed valid ?_)⟩
      rw [fixed.immutable,flag]
    · exact ⟨e,by rw [get_put_other _ _ same,found],fixed⟩
  | @deleted other =>
    have apart : name ≠ other := by
      rintro rfl
      exact kept rfl
    exact ⟨e,by rw [get_remove_other _ apart,found],fixed⟩

end Runs

section Forgetting

/-- The data without the difference between nil and empty. -/
def forgetData (data : NilMap String Slice) : Map String Bytes :=
  Map.mapValues (fun s : Slice => s.getD []) (data.getD ∅)

/-- The Secret as the other modules have it. -/
def Secret.forget (secret : Secret) : Secrets.Secret where
  metadata := secret.metadata
  type := secret.type
  data := forgetData secret.data
  stringData := secret.stringData.getD ∅
  immutable := secret.immutable

theorem lookup_forgetData (data : NilMap String Slice) (k : String) :
    (forgetData data).lookup k = (data.lookup k).map fun s => s.getD [] := by
  rw [forgetData,Map.lookup_mapValues,NilMap.lookup_getD]

theorem totalSize_forgetData (data : NilMap String Slice) :
    Secrets.totalSize (forgetData data) = totalSize data := by
  have size (s : Slice) : (s.getD []).length = s.len := by cases s <;> rfl
  cases data with
  | none => rfl
  | some made =>
    simp only [Secrets.totalSize,totalSize,forgetData,Option.getD_some,Map.entries_mapValues,NilMap.entries,
      Option.elim_some,List.map_map,Function.comp_def,size]

theorem keys_forgetData (data : NilMap String Slice) : (forgetData data).keys = data.keys := by
  cases data with
  | none => rfl
  | some made => simp [forgetData,NilMap.keys,NilMap.entries,AList.keys,List.keys,Map.entries_mapValues,Function.comp_def]

theorem validateSecret_forget (up : Upstream) (secret : Secret) :
    Secrets.validateSecret up secret.forget = validateSecret up secret := by
  rw [Secrets.validateSecret,validateSecret]
  simp only [Secret.forget,keys_forgetData,totalSize_forgetData]

/-- What the strategy accepts is accepted when nil and empty are not told apart. -/
theorem validateUpdate_forget (valid : validateUpdate up new old = []) :
    Secrets.validateUpdate up new.forget old.forget = [] := by
  unfold validateUpdate at valid
  unfold Secrets.validateUpdate
  simp only [List.append_eq_nil_iff] at valid ⊢
  obtain ⟨⟨⟨metadata,type⟩,fixed⟩,secret⟩ := valid
  refine ⟨⟨⟨metadata,type⟩,?_⟩,by rw [validateSecret_forget,secret]⟩
  by_cases flag : old.immutable = some true
  · rw [if_pos flag,List.append_eq_nil_iff] at fixed
    have data : new.data.Same old.data := by
      rw [← NilMap.deepEqual_iff]
      by_contra other
      simp [other] at fixed
    have shared : new.forget.data.deepEqual old.forget.data = true :=
      (Map.deepEqual_iff _ _).mpr fun k => by simp only [Secret.forget,lookup_forgetData,data.entries]
    rw [if_pos (show old.forget.immutable = some true from flag),shared,if_pos rfl,List.append_nil]
    exact fixed.1
  · rw [if_neg (show old.forget.immutable ≠ some true from flag)]

theorem lookup_forget_merges (merges : Merges secret data) (k : String) : (forgetData data).lookup k =
    ((secret.forget.stringData.lookup k).map bytes).or (secret.forget.data.lookup k) := by
  have strings : (secret.stringData.getD ∅).lookup k = secret.stringData.lookup k := NilMap.lookup_getD _ _
  simp only [Secret.forget,lookup_forgetData,merges.entries,Secret.merged,strings]
  cases secret.stringData.lookup k <;> rfl

/-- The data that a creation stores is that of the other modules' model. -/
theorem lookup_forget_prepareForCreate (merges : up.Merges) (converts : Converts secret outcome)
    (done : prepareForCreate outcome secret = some prepared) (k : String) :
    prepared.forget.data.lookup k = (Secrets.prepareForCreate up secret.forget).data.lookup k := by
  obtain ⟨data,applied,merged⟩ := applySecretConversions_eq converts
  rw [prepareForCreate,applied] at done
  cases done
  rw [prepareForCreate_lookup merges]
  exact lookup_forget_merges merged k

theorem lookup_forget_prepareForUpdate (merges : up.Merges) (converts : Converts new outcome)
    (done : prepareForUpdate outcome new old = some prepared) (k : String) :
    prepared.forget.data.lookup k = (Secrets.prepareForUpdate up new.forget old.forget).data.lookup k := by
  obtain ⟨data,applied,merged⟩ := prepareForUpdate_eq converts old
  rw [applied] at done
  cases done
  rw [prepareForUpdate_lookup merges]
  exact lookup_forget_merges merged k

end Forgetting

/-- A Secret is normalised to the merge of its data and string data for either outcome of the
conversion, and stays as it is when that is done again; so no Secret is stored with string data. -/
theorem secrets_normalised (up : Upstream) :
    (∀ secret outcome, Converts secret outcome → ∃ normal, applySecretConversions outcome secret =
        some (normal,conversionError outcome) ∧
      normal = { secret with data := normal.data, stringData := none } ∧
      (∀ k, normal.data.lookup k = ((secret.stringData.lookup k).map Slice.ofString).or (secret.data.lookup k)) ∧
      ∀ outcome', Converts normal outcome' → ∃ again, applySecretConversions outcome' normal =
        some (again,conversionError outcome') ∧
        again = { normal with data := again.data } ∧ again.data.Same normal.data) ∧
    ∀ actions t, (system up).Run Store.empty actions t → ∀ name e, t.get name = some e →
      e.value.stringData = none := by
  refine ⟨?_,fun actions t run => cleared_run run⟩
  intro secret outcome converts
  obtain ⟨data,applied,merges⟩ := applySecretConversions_eq converts
  refine ⟨_,applied,rfl,merges.entries,?_⟩
  intro outcome' converts'
  obtain ⟨data',applied',merges'⟩ := applySecretConversions_eq converts'
  refine ⟨_,applied',rfl,?_,merges'.entries⟩
  refine merges'.made.trans ?_
  exact and_iff_left rfl

/-- A Secret whose string data replaces its data. -/
def resetSecret : Secret where
  metadata := ⟨"token","default",∅,∅⟩
  type := "Opaque"
  data := some ((∅ : Map String Slice).insert "key" (some [1]))
  stringData := some ((∅ : Map String String).insert "key" "other")
  immutable := none

theorem resetSecret_converts :
    Converts resetSecret (.ok (some ((∅ : Map String Slice).insert "key" (Slice.ofString "other")))) := by
  rintro data ⟨⟩
  refine ⟨?_,by decide⟩
  intro k
  simp only [Secret.merged,resetSecret,NilMap.lookup,Option.bind_some,Map.lookup_insert_eq]
  split
  · rfl
  · rfl

theorem secrets_normalised_resetSecret : ∃ normal, applySecretConversions
    (.ok (some ((∅ : Map String Slice).insert "key" (Slice.ofString "other")))) resetSecret = some (normal,none) ∧
      normal.stringData = none ∧ normal.data.lookup "key" = some (Slice.ofString "other") := by
  obtain ⟨normal,applied,cleared,entries,_⟩ :=
    (secrets_normalised sampleUpstream).1 resetSecret _ resetSecret_converts
  exact ⟨normal,applied,congrArg Secret.stringData cleared,(entries "key").trans (by decide)⟩

/-- An immutable Secret keeps its data, type and flag until it is deleted. -/
theorem immutable_secret_stays (run : (system up).Run s actions t) (found : s.get name = some e)
    (flag : e.value.immutable = some true) (kept : ∀ a ∈ actions, a ≠ .delete name) :
    ∃ e', t.get name = some e' ∧ e'.value.data.Same e.value.data ∧ e'.value.type = e.value.type ∧
      e'.value.immutable = some true := by
  have start : Holds name e.value s := ⟨e,found,.refl _,rfl,rfl⟩
  obtain ⟨e',found',fixed⟩ := run.invariant_of (Holds name e.value) (· ≠ .delete name)
    (fun _ a holds _ kept => holds_step flag holds a kept) kept start
  exact ⟨e',found',fixed.data,fixed.type,fixed.immutable.trans flag⟩

def lockedSecret : Secret where
  metadata := ⟨"token","default",∅,∅⟩
  type := "Opaque"
  data := some ((∅ : Map String Slice).insert "key" (some [1]))
  stringData := none
  immutable := some true

/-- A request for other data whose conversion fails, and one that leaves the type out. -/
def lockedRequests : List Action :=
  [Action.update { lockedSecret with stringData := some ((∅ : Map String String).insert "key" "other") } none
    (.error "no conversion"),.update { lockedSecret with type := "" } none (.ok lockedSecret.data)]

theorem immutable_secret_stays_locked : ∃ t e,
    (system sampleUpstream).Run (Store.empty.put "token" lockedSecret) lockedRequests t ∧
      t.get "token" = some e ∧ e.value.data.lookup "key" = some (some [1]) ∧ e.value.type = "Opaque" ∧
      e.value.immutable = some true := by
  have run : (system sampleUpstream).Run (Store.empty.put "token" lockedSecret) lockedRequests _ :=
    .cons trivial (.cons trivial .nil)
  obtain ⟨e,found,data,type,flag⟩ := immutable_secret_stays run (get_put_same _ _ _) rfl (by simp [lockedRequests])
  exact ⟨_,e,run,found,(data.entries "key").trans (by decide),type,flag⟩

end Kommodity.Secrets.V1
