import Kommodity.VersionedStore

/-! The storage strategy of the API server for Secrets. Validation and conversion code of
the Kubernetes libraries is a parameter; the strategy's own steps, their order and the
errors they add are the server's. -/
namespace Kommodity

open Go

def kommodityNamespace : String := "kommodity-system"
def managedByLabel : String := "app.kubernetes.io/managed-by"

def deploymentNameLabel : String := "cluster.x-k8s.io/deployment-name"

def getKommodityLabels (nodeUUID nodeIP : String) : Map String String :=
  ((∅ : Map String String).insert managedByLabel "kommodity").insert "talos.dev/node-uuid" nodeUUID
    |>.insert "talos.dev/node-ip" nodeIP

end Kommodity

namespace Kommodity.Secrets

open Go Versioned

structure ObjectMeta where
  name : String
  namespaceName : String
  labels : Map String String
  annotations : Map String String
  deriving DecidableEq

structure Secret where
  metadata : ObjectMeta
  type : String
  data : Map String Bytes
  stringData : Map String String
  immutable : Option Bool
  deriving DecidableEq

inductive FieldError where
  | invalid (field value detail : String)
  | forbidden (field detail : String)
  | tooLong (field : String) (maxLength : Nat)
  deriving DecidableEq, Repr

/-- The library code the strategy calls: `scheme.Convert` to the internal Secret (only its
data is used), the object-metadata validators, and the check of one data key. -/
structure Upstream where
  convert : Secret → Except String (Map String Bytes)
  validateObjectMeta : ObjectMeta → List FieldError
  validateObjectMetaUpdate : ObjectMeta → ObjectMeta → List FieldError
  isConfigMapKey : String → List String

/-- What the registered conversion does when it succeeds: string data overrides data. -/
def Upstream.Merges (up : Upstream) : Prop :=
  ∀ secret data, up.convert secret = .ok data → ∀ k,
    data.lookup k = ((secret.stringData.lookup k).map bytes).or (secret.data.lookup k)

/-- The merge runs whether or not the conversion succeeded, and string data is cleared. The
conversion error is only reported. -/
def applySecretConversions (up : Upstream) (secret : Secret) : Secret × Option String :=
  let converted := up.convert secret
  let data := match converted with
    | .ok data => data
    | .error _ => secret.data
  ({ secret with data := Map.assignAll bytes data secret.stringData, stringData := ∅ },
    match converted with
    | .ok _ => none
    | .error cause => some ("failed to convert v1 Secret via scheme: " ++ cause))

def prepareForCreate (up : Upstream) (secret : Secret) : Secret :=
  (applySecretConversions up secret).1

def prepareForUpdate (up : Upstream) (new old : Secret) : Secret :=
  (applySecretConversions up
    (if new.type = "" then { new with type := old.type } else new)).1

/-- `corev1.MaxSecretSize`. -/
def maxSecretSize : Nat := 1024 * 1024

def totalSize (data : Map String Bytes) : Nat := (data.entries.map fun e => e.2.length).sum

def validateSecret (up : Upstream) (secret : Secret) : List FieldError :=
  up.validateObjectMeta secret.metadata ++
  secret.data.keys.flatMap (fun key =>
    (up.isConfigMapKey key).map (.invalid ("data[" ++ key ++ "]") key)) ++
  (if maxSecretSize < totalSize secret.data then [.tooLong "data" maxSecretSize] else [])

def validateImmutableField (new old field : String) : List FieldError :=
  if new = old then [] else [.invalid field new "field is immutable"]

def validateUpdate (up : Upstream) (new old : Secret) : List FieldError :=
  up.validateObjectMetaUpdate new.metadata old.metadata ++
  validateImmutableField new.type old.type "type" ++
  (if old.immutable = some true then
    (if new.immutable = some true then []
      else [.forbidden "immutable" "field is immutable when `immutable` is set"]) ++
    (if new.data.deepEqual old.data then []
      else [.forbidden "data" "field is immutable when `immutable` is set"])
  else []) ++
  validateSecret up new

/-- The answer of the API server to a request it refuses. -/
inductive APIError where
  | store (cause : Versioned.Error)
  | invalid (errors : List FieldError)
  | unavailable
  deriving DecidableEq, Repr

def APIError.isNotFound : APIError → Bool
  | .store .notFound => true
  | _ => false

abbrev SecretStore := Store String Secret

def getSecret (store : SecretStore) (name : String) : Except APIError (Entry Secret) :=
  match store.get name with
  | some entry => .ok entry
  | none => .error (.store .notFound)

def createSecret (up : Upstream) (store : SecretStore) (secret : Secret) :
    Except APIError SecretStore :=
  let prepared := prepareForCreate up secret
  match validateSecret up prepared with
  | [] => (store.create prepared.metadata.name prepared).mapError .store
  | errors => .error (.invalid errors)

/-- The request carries the version its writer read. Validation sees the stored object. -/
def updateSecret (up : Upstream) (store : SecretStore) (secret : Secret) (version : Nat) :
    Except APIError SecretStore :=
  match store.get secret.metadata.name with
  | none => .error (.store .notFound)
  | some old =>
    let prepared := prepareForUpdate up secret old.value
    match validateUpdate up prepared old.value with
    | [] => (store.update secret.metadata.name prepared version).mapError .store
    | errors => .error (.invalid errors)

/-- A call to the API that may also fail without effect for reasons of its own. -/
def request (available : Bool) (answer : Except APIError α) : Except APIError α :=
  if available then answer else .error .unavailable

section Laws

variable {up : Upstream}

/-- After the conversion step the data holds the merge, for either outcome of the scheme. -/
theorem applySecretConversions_lookup (merges : up.Merges) (secret : Secret) (k : String) :
    (applySecretConversions up secret).1.data.lookup k =
      ((secret.stringData.lookup k).map bytes).or (secret.data.lookup k) := by
  simp only [applySecretConversions,Map.lookup_assignAll]
  cases converted : up.convert secret with
  | error cause => rfl
  | ok data =>
    rw [merges secret data converted]
    cases secret.stringData.lookup k <;> simp

theorem prepareForCreate_lookup (merges : up.Merges) (secret : Secret) (k : String) :
    (prepareForCreate up secret).data.lookup k =
      ((secret.stringData.lookup k).map bytes).or (secret.data.lookup k) :=
  applySecretConversions_lookup merges secret k

theorem prepareForUpdate_lookup (merges : up.Merges) (new old : Secret) (k : String) :
    (prepareForUpdate up new old).data.lookup k =
      ((new.stringData.lookup k).map bytes).or (new.data.lookup k) := by
  rw [prepareForUpdate,applySecretConversions_lookup merges]
  split <;> rfl

@[simp] theorem prepareForCreate_metadata (up : Upstream) (secret : Secret) :
    (prepareForCreate up secret).metadata = secret.metadata := rfl

@[simp] theorem prepareForCreate_stringData (up : Upstream) (secret : Secret) :
    (prepareForCreate up secret).stringData = ∅ := rfl

@[simp] theorem prepareForUpdate_metadata (up : Upstream) (new old : Secret) :
    (prepareForUpdate up new old).metadata = new.metadata := by
  unfold prepareForUpdate
  split <;> rfl

theorem mapError_ok {x : Except ε α} (done : x.mapError f = .ok a) : x = .ok a := by
  cases x with
  | ok b => simpa [Except.mapError] using done
  | error e => simp [Except.mapError] at done

theorem request_ok {answer : Except APIError α} (done : request available answer = .ok value) :
    answer = .ok value := by
  cases available <;> simp_all [request]

theorem createSecret_ok {store next : SecretStore} {secret : Secret}
    (done : createSecret up store secret = .ok next) :
    store.get secret.metadata.name = none ∧
    next = store.put secret.metadata.name (prepareForCreate up secret) := by
  simp only [createSecret] at done
  split at done
  · obtain ⟨free,rfl⟩ := create_ok (mapError_ok done)
    exact ⟨free,rfl⟩
  · simp at done

theorem createSecret_fits {store : SecretStore} {secret : Secret}
    (fits : validateSecret up (prepareForCreate up secret) = [])
    (free : store.get secret.metadata.name = none) :
    createSecret up store secret = .ok (store.put secret.metadata.name (prepareForCreate up secret)) := by
  simp [createSecret,fits,Store.create,free,Except.mapError]

theorem createSecret_error {store : SecretStore} {secret : Secret}
    (failed : createSecret up store secret = .error cause)
    (fits : validateSecret up (prepareForCreate up secret) = []) : store.get secret.metadata.name ≠ none := by
  intro free
  rw [createSecret_fits fits free] at failed
  simp at failed

theorem createSecret_valid {store : SecretStore} {secret : Secret}
    (done : createSecret up store secret = .ok next) : validateSecret up (prepareForCreate up secret) = [] := by
  simp only [createSecret] at done
  split at done
  · assumption
  · simp at done

/-- An accepted update replaces the stored object whose version the request carried. -/
theorem updateSecret_ok {store next : SecretStore} {secret : Secret} {version : Nat}
    (done : updateSecret up store secret version = .ok next) :
    ∃ old, store.get secret.metadata.name = some old ∧ old.version = version ∧
      next = store.put secret.metadata.name (prepareForUpdate up secret old.value) := by
  unfold updateSecret at done
  split at done
  · simp at done
  · next old found =>
    dsimp only at done
    split at done
    · obtain ⟨⟨e,again,same⟩,rfl⟩ := update_ok (mapError_ok done)
      rw [found] at again
      cases again
      exact ⟨old,found,same,rfl⟩
    · simp at done

end Laws

/-- Libraries that accept every object. -/
def sampleUpstream : Upstream where
  convert secret := .ok (Map.assignAll bytes secret.data secret.stringData)
  validateObjectMeta _ := []
  validateObjectMetaUpdate _ _ := []
  isConfigMapKey _ := []

theorem sampleUpstream_merges : sampleUpstream.Merges := by
  intro secret data converted k
  cases converted
  exact Map.lookup_assignAll bytes secret.data secret.stringData k

end Kommodity.Secrets
