import Kommodity.SecretStorage

/-! The storage strategy of the API server for ConfigMaps. Unlike that for Secrets it leaves the
object as the client sent it. -/
namespace Kommodity.ConfigMaps

open Go Versioned Secrets

structure ConfigMap where
  metadata : ObjectMeta
  data : Map String String
  binaryData : Map String Bytes
  immutable : Option Bool
  deriving DecidableEq

def totalSize (cfg : ConfigMap) : Nat :=
  (cfg.data.entries.map fun e => (bytes e.2).length).sum +
  (cfg.binaryData.entries.map fun e => e.2.length).sum

def validateConfigMap (up : Upstream) (cfg : ConfigMap) : List FieldError :=
  up.validateObjectMeta cfg.metadata ++
  cfg.data.keys.flatMap (fun key =>
    (up.isConfigMapKey key).map (.invalid ("data[" ++ key ++ "]") key) ++
    if key ∈ cfg.binaryData then
      [.invalid ("data[" ++ key ++ "]") key "duplicate of key present in binaryData"] else []) ++
  cfg.binaryData.keys.flatMap (fun key =>
    (up.isConfigMapKey key).map (.invalid ("binaryData[" ++ key ++ "]") key)) ++
  if maxSecretSize < totalSize cfg then [.tooLong "" maxSecretSize] else []

abbrev ConfigMapStore := Store String ConfigMap

def getConfigMap (store : ConfigMapStore) (name : String) : Except APIError (Entry ConfigMap) :=
  match store.get name with
  | some entry => .ok entry
  | none => .error (.store .notFound)

def createConfigMap (up : Upstream) (store : ConfigMapStore) (cfg : ConfigMap) :
    Except APIError ConfigMapStore :=
  match validateConfigMap up cfg with
  | [] => (store.create cfg.metadata.name cfg).mapError .store
  | errors => .error (.invalid errors)

theorem createConfigMap_ok {store next : ConfigMapStore}
    (done : createConfigMap up store cfg = .ok next) :
    store.get cfg.metadata.name = none ∧ next = store.put cfg.metadata.name cfg := by
  unfold createConfigMap at done
  split at done
  · exact create_ok (mapError_ok done)
  · simp at done

theorem createConfigMap_fits {store : ConfigMapStore} {cfg : ConfigMap} (fits : validateConfigMap up cfg = [])
    (free : store.get cfg.metadata.name = none) :
    createConfigMap up store cfg = .ok (store.put cfg.metadata.name cfg) := by
  simp [createConfigMap,fits,Store.create,free,Except.mapError]

theorem createConfigMap_error {store : ConfigMapStore} {cfg : ConfigMap}
    (failed : createConfigMap up store cfg = .error cause) (fits : validateConfigMap up cfg = []) :
    store.get cfg.metadata.name ≠ none := by
  intro free
  rw [createConfigMap_fits fits free] at failed
  simp at failed

theorem createConfigMap_valid {store : ConfigMapStore} {cfg : ConfigMap}
    (done : createConfigMap up store cfg = .ok next) : validateConfigMap up cfg = [] := by
  unfold createConfigMap at done
  split at done
  · assumption
  · simp at done

end Kommodity.ConfigMaps
