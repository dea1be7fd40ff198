import Kommodity.ConfigMapStorage
import Kommodity.Interaction

/-! The service-account signing key: how it is read or created, how the start-up hook persists
it, and how the reconciler rotates the token Secrets after a change. The code is written as
programs over the calls it makes on the API; `serve` is the API server, with the failures its
surroundings may choose. Reads are answered from the current state. -/
namespace Kommodity.SigningKeys

open Go Versioned Interaction Secrets ConfigMaps

abbrev ObjectKey := String × String

def objectKey (metadata : ObjectMeta) : ObjectKey := (metadata.namespaceName,metadata.name)

def signingKeySecretName : String := "service-account-signing-key"
def signingKeyDataKey : String := "key"
def signingKeyControllerName : String := "kommodity-signing-key-controller"
def signingKeyUpdatedAnnotation : String := "kommodity.io/signing-key-updated"
def serviceAccountNameAnnotation : String := "kubernetes.io/service-account.name"
def clusterNameLabel : String := "cluster.x-k8s.io/cluster-name"
def autoscalerConfigMapSuffix : String := "-cluster-autoscaler-config"
def secretTypeServiceAccountToken : String := "kubernetes.io/service-account-token"
def secretTypeOpaque : String := "Opaque"

def signingKeySecret : ObjectKey := (kommodityNamespace,signingKeySecretName)

/-- The parts of `encoding/pem` and `crypto/x509` in use. A PKCS8 block may hold a key that is
not an RSA key. -/
structure Codec (Key : Type) where
  pemEncode : Bytes → Bytes
  pemDecode : Bytes → Option Bytes
  marshalPKCS1 : Key → Bytes
  parsePKCS1 : Bytes → Except String Key
  parsePKCS8 : Bytes → Except String (Option Key)

/-- Encoded keys decode to themselves. -/
structure Codec.RoundTrip (codec : Codec Key) : Prop where
  pem : ∀ block, codec.pemDecode (codec.pemEncode block) = some block
  pkcs1 : ∀ key, codec.parsePKCS1 (codec.marshalPKCS1 key) = .ok key

inductive Cause where
  | api (error : APIError)
  | dataMissingFromSecret (detail : String)
  | failedToDecodePEMBlock
  | failedToParsePrivateKey (pkcs1 pkcs8 : String)
  | privateKeyNotRSA
  | randomness (detail : String)
  | nilMapAssignment
  | annotationMissingFromSecret (secret annotation : String)
  | labelMissingFromSecret (secret label : String)
  deriving DecidableEq

abbrev Error := Err Cause

def convertRSAKeyToPEM (codec : Codec Key) (key : Key) : Bytes :=
  codec.pemEncode (codec.marshalPKCS1 key)

def convertPEMToRSAKey (codec : Codec Key) (pemBytes : Bytes) : Except Error Key :=
  match codec.pemDecode pemBytes with
  | none => .error (.of .failedToDecodePEMBlock)
  | some block =>
    match codec.parsePKCS1 block with
    | .ok key => .ok key
    | .error err =>
      match codec.parsePKCS8 block with
      | .error err2 => .error (.of (.failedToParsePrivateKey err err2))
      | .ok none => .error (.of .privateKeyNotRSA)
      | .ok (some key) => .ok key

inductive Call where
  | getSecret (key : ObjectKey)
  | createSecret (secret : Secret)
  | updateSecret (secret : Entry Secret)
  | deleteSecret (key : ObjectKey)
  | listSecrets (namespaceName : String)
  | getConfigMap (key : ObjectKey)
  | updateConfigMap (configMap : Entry ConfigMap)
  | generateKey
  | unixTime

abbrev Answer (Key : Type) : Call → Type
  | .getSecret _ => Except APIError (Entry Secret)
  | .createSecret _ => Except APIError Unit
  | .updateSecret _ => Except APIError Unit
  | .deleteSecret _ => Except APIError Unit
  | .listSecrets _ => Except APIError (List Secret)
  | .getConfigMap _ => Except APIError (Entry ConfigMap)
  | .updateConfigMap _ => Except APIError Unit
  | .generateKey => Except String Key
  | .unixTime => Int

abbrev KeyProgram (Key α : Type) := Program Call (Answer Key) α

def apiError (context : String) (error : APIError) : Error := (Err.of (.api error)).wrap context

/-- The Secret `persistSigningKey` writes. -/
def newSigningKeySecret (keyPEM : Bytes) : Secret where
  metadata := ⟨signingKeySecretName,kommodityNamespace,
    (∅ : Map String String).insert "cluster.x-k8s.io/watch-filter" signingKeyControllerName,∅⟩
  type := secretTypeOpaque
  data := (∅ : Map String Bytes).insert signingKeyDataKey keyPEM
  stringData := ∅
  immutable := none

/-- An existing Secret is left alone unless `updateIfExists`. Assigning into the data of a Secret
without data is a panic in Go. -/
def persistSigningKey (codec : Codec Key) (key : Key) (updateIfExists : Bool) :
    KeyProgram Key (Option Error) := do
  let keyPEM := convertRSAKeyToPEM codec key
  match ← request (Call.createSecret (newSigningKeySecret keyPEM)) with
  | .ok () => return none
  | .error err =>
    if err ≠ .store .alreadyExists then
      return some (apiError "failed to create signing key secret" err)
    else if ¬ updateIfExists then
      return none
    else
      match ← request (Call.getSecret signingKeySecret) with
      | .error err => return some (apiError "failed to get existing signing key secret" err)
      | .ok existing =>
        if existing.value.data.keys = [] then return some (.of .nilMapAssignment)
        else
          let secret := { existing.value with
            data := existing.value.data.insert signingKeyDataKey keyPEM }
          match ← request (Call.updateSecret ⟨secret,existing.version⟩) with
          | .error err => return some (apiError "failed to update signing key secret" err)
          | .ok () => return none

/-- Any failure of the first read counts as an absent Secret. -/
def getOrCreateSigningKey (codec : Codec Key) : KeyProgram Key (Except Error Key) := do
  match ← request (Call.getSecret signingKeySecret) with
  | .ok secret =>
    match secret.value.data.lookup signingKeyDataKey with
    | none =>
      return .error (.of (.dataMissingFromSecret "signing key secret exists but missing: key"))
    | some keyPEM => return convertPEMToRSAKey codec keyPEM
  | .error _ =>
    match ← request Call.generateKey with
    | .error err =>
      return .error (((Err.of (.randomness err)).wrap "failed to generate RSA key").wrap
        "failed to generate signing key")
    | .ok key =>
      match ← persistSigningKey codec key false with
      | some err => return .error (err.wrap "failed to persist signing key")
      | none => return .ok key

/-- The cluster name, labels and annotations a recreated token Secret carries over. -/
def extractSecretMetadata (oldSecret : Secret) :
    Except Error (String × Map String String × Map String String) :=
  match oldSecret.metadata.annotations.lookup serviceAccountNameAnnotation with
  | none =>
    .error (.of (.annotationMissingFromSecret oldSecret.metadata.name serviceAccountNameAnnotation))
  | some saName =>
    match oldSecret.metadata.labels.lookup clusterNameLabel with
    | none => .error (.of (.labelMissingFromSecret oldSecret.metadata.name clusterNameLabel))
    | some clusterName =>
      let labels := (∅ : Map String String).insert clusterNameLabel clusterName
      let labels := match oldSecret.metadata.labels.lookup managedByLabel with
        | some managedBy => labels.insert managedByLabel managedBy
        | none => labels
      let annotations := oldSecret.metadata.annotations.entries.foldl (fun kept e =>
          if hasPrefix e.1 "meta.helm.sh" then kept.insert e.1 e.2 else kept)
        ((∅ : Map String String).insert serviceAccountNameAnnotation saName)
      .ok (clusterName,labels,annotations)

def recreated (oldSecret : Secret) (labels annotations : Map String String) : Secret where
  metadata := ⟨oldSecret.metadata.name,oldSecret.metadata.namespaceName,labels,annotations⟩
  type := secretTypeServiceAccountToken
  data := ∅
  stringData := ∅
  immutable := none

def updateAutoscalerConfigMap (clusterName namespaceName : String) :
    KeyProgram Key (Option Error) := do
  let configMapName := clusterName ++ autoscalerConfigMapSuffix
  match ← request (Call.getConfigMap (namespaceName,configMapName)) with
  | .error err => return some (apiError ("failed to get autoscaler ConfigMap " ++ configMapName) err)
  | .ok configMap =>
    let time ← request Call.unixTime
    let metadata := { configMap.value.metadata with
      annotations := configMap.value.metadata.annotations.insert signingKeyUpdatedAnnotation
        (toString time) }
    match ← request (Call.updateConfigMap ⟨{ configMap.value with metadata },configMap.version⟩) with
    | .error err =>
      return some (apiError ("failed to update autoscaler ConfigMap " ++ configMapName) err)
    | .ok () => return none

/-- Delete, then create under the same name. A failure to touch the autoscaler's ConfigMap is
only logged. -/
def rotateServiceAccountTokenSecret (oldSecret : Secret) : KeyProgram Key (Option Error) := do
  match extractSecretMetadata oldSecret with
  | .error err => return some (err.wrap "failed to extract metadata from old secret")
  | .ok (clusterName,labels,annotations) =>
    match ← request (Call.deleteSecret (objectKey oldSecret.metadata)) with
    | .error err => return some (apiError ("failed to delete old secret " ++ oldSecret.metadata.name) err)
    | .ok () =>
      match ← request (Call.createSecret (recreated oldSecret labels annotations)) with
      | .error err =>
        return some (apiError ("failed to create new secret " ++ oldSecret.metadata.name) err)
      | .ok () =>
        let _ ← updateAutoscalerConfigMap clusterName oldSecret.metadata.namespaceName
        return none

/-- The loop of `Reconcile` over the listed Secrets. -/
def rotateSecrets : List Secret → KeyProgram Key (Option Error)
  | [] => return none
  | secret :: rest => do
    if secret.type ≠ secretTypeServiceAccountToken then rotateSecrets rest
    else if (secret.metadata.annotations.lookup serviceAccountNameAnnotation).isNone then
      rotateSecrets rest
    else
      match ← rotateServiceAccountTokenSecret secret with
      | some err =>
        return some (err.wrap ("failed to rotate service account token secret " ++ secret.metadata.name))
      | none => rotateSecrets rest

/-- `ctrl.Result` and the error; durations are in seconds. -/
structure Outcome where
  requeue : Bool
  requeueAfter : Nat
  error : Option Error
  deriving DecidableEq

def requeueAfter : Nat := 10

/-- `SigningKeyReconciler.Reconcile`. -/
def reconcile (codec : Codec Key) : KeyProgram Key Outcome := do
  match ← getOrCreateSigningKey codec with
  | .error err =>
    return ⟨true,requeueAfter,some (err.wrap "failed to fetch or regenerate signing key")⟩
  | .ok _ =>
    match ← request (Call.listSecrets "kube-system") with
    | .error err => return ⟨true,requeueAfter,some (apiError "failed to list secrets" err)⟩
    | .ok secretList =>
      match ← rotateSecrets secretList with
      | some err => return ⟨true,requeueAfter,some err⟩
      | none => return ⟨false,0,none⟩

/-- The API server's objects. A Secret is stored under its own namespace and name. -/
structure API where
  secrets : Store ObjectKey Secret
  configMaps : Store ObjectKey ConfigMap
  named : ∀ key e, secrets.get key = some e → objectKey e.value.metadata = key

def API.putSecret (api : API) (secret : Secret) : API :=
  { api with
    secrets := api.secrets.put (objectKey secret.metadata) secret
    named := by
      intro key e found
      by_cases same : key = objectKey secret.metadata
      · subst same; rw [get_put_same] at found; cases found; rfl
      · rw [get_put_other _ _ same] at found; exact api.named key e found }

def API.removeSecret (api : API) (key : ObjectKey) : API :=
  { api with
    secrets := api.secrets.remove key
    named := by
      intro other e found
      by_cases same : other = key
      · subst same; simp at found
      · rw [get_remove_other _ same] at found; exact api.named other e found }

def API.createSecret (api : API) (secret : Secret) : Except Versioned.Error API :=
  match api.secrets.get (objectKey secret.metadata) with
  | some _ => .error .alreadyExists
  | none => .ok (api.putSecret secret)

def API.updateSecret (api : API) (secret : Entry Secret) : Except Versioned.Error API :=
  match api.secrets.get (objectKey secret.value.metadata) with
  | none => .error .notFound
  | some stored =>
    if stored.version = secret.version then .ok (api.putSecret secret.value) else .error .conflict

def API.deleteSecret (api : API) (key : ObjectKey) : Except Versioned.Error API :=
  match api.secrets.get key with
  | none => .error .notFound
  | some _ => .ok (api.removeSecret key)

def API.updateConfigMap (api : API) (configMap : Entry ConfigMap) : Except Versioned.Error API :=
  match api.configMaps.update (objectKey configMap.value.metadata) configMap.value configMap.version with
  | .error e => .error e
  | .ok configMaps => .ok { api with configMaps }

/-- What the surroundings choose for a call. A call can be refused without effect, or take effect
and have its answer lost; a list comes in any order. -/
inductive Reply (Key : Type) where
  | fine
  | refused
  | lost
  | listed (order : List ObjectKey)
  | drawn (key : Key)
  | time (seconds : Int)

def answerWrite (api : API) (attempt : Except Versioned.Error API) : Reply Key → Except APIError Unit × API
  | .refused => (.error .unavailable,api)
  | .lost => (.error .unavailable,attempt.toOption.getD api)
  | _ =>
    match attempt with
    | .ok next => (.ok (),next)
    | .error e => (.error (.store e),api)

def answerRead (found : Option α) : Reply Key → Except APIError α
  | .refused => .error .unavailable
  | .lost => .error .unavailable
  | _ =>
    match found with
    | some value => .ok value
    | none => .error (.store .notFound)

def API.list (api : API) (namespaceName : String) (order : List ObjectKey) : List Secret :=
  order.filterMap fun key =>
    if key.1 = namespaceName then (api.secrets.get key).map Entry.value else none

def serve (api : API) : (c : Call) → Reply Key → Answer Key c × API
  | .getSecret key,reply => (answerRead (api.secrets.get key) reply,api)
  | .createSecret secret,reply => answerWrite api (api.createSecret secret) reply
  | .updateSecret secret,reply => answerWrite api (api.updateSecret secret) reply
  | .deleteSecret key,reply => answerWrite api (api.deleteSecret key) reply
  | .listSecrets namespaceName,.listed order => (.ok (api.list namespaceName order),api)
  | .listSecrets _,_ => (.error .unavailable,api)
  | .getConfigMap key,reply => (answerRead (api.configMaps.get key) reply,api)
  | .updateConfigMap configMap,reply => answerWrite api (api.updateConfigMap configMap) reply
  | .generateKey,.drawn key => (.ok key,api)
  | .generateKey,_ => (.error "entropy source unavailable",api)
  | .unixTime,.time seconds => (seconds,api)
  | .unixTime,_ => (0,api)

/-- A list shows every object once. -/
def Listable (api : API) : Call → Reply Key → Prop
  | .listSecrets _,.listed order => order.Perm api.secrets.objects.keys
  | _,_ => True

/-- The key the signing-key Secret holds. -/
def storedKey (codec : Codec Key) (api : API) : Option Key :=
  match api.secrets.get signingKeySecret with
  | none => none
  | some secret =>
    match secret.value.data.lookup signingKeyDataKey with
    | none => none
    | some keyPEM => (convertPEMToRSAKey codec keyPEM).toOption

@[simp] theorem get_putSecret (api : API) (secret : Secret) (key : ObjectKey) :
    (api.putSecret secret).secrets.get key =
      if key = objectKey secret.metadata then some ⟨secret,api.secrets.revision + 1⟩
      else api.secrets.get key := by
  by_cases same : key = objectKey secret.metadata
  · subst same; simp [API.putSecret,Store.get,Store.put]
  · simp [API.putSecret,same]

@[simp] theorem get_removeSecret (api : API) (removed key : ObjectKey) :
    (api.removeSecret removed).secrets.get key =
      if key = removed then none else api.secrets.get key := by
  by_cases same : key = removed
  · subst same; simp [API.removeSecret]
  · simp [API.removeSecret,same]

theorem answerRead_ok {reply : Reply Key} (answered : answerRead found reply = .ok value) :
    found = some value := by
  cases found <;> cases reply <;> simp_all [answerRead]

/-- A write succeeds, or takes effect without an answer, or is refused, or fails by the state. -/
theorem answerWrite_cases (api : API) (attempt : Except Versioned.Error API) (reply : Reply Key) :
    (∃ next, attempt = .ok next ∧ answerWrite api attempt reply = (.ok (),next)) ∨
    (∃ next, attempt = .ok next ∧ reply = .lost ∧
      answerWrite api attempt reply = (.error .unavailable,next)) ∨
    ((reply = .refused ∨ reply = .lost ∧ ∃ e, attempt = .error e) ∧
      answerWrite api attempt reply = (.error .unavailable,api)) ∨
    ∃ e, attempt = .error e ∧ (reply ≠ .refused ∧ reply ≠ .lost) ∧
      answerWrite api attempt reply = (.error (.store e),api) := by
  cases attempt <;> cases reply <;> simp [answerWrite,Except.toOption]

theorem createSecret_eq_ok (done : API.createSecret api secret = .ok next) :
    api.secrets.get (objectKey secret.metadata) = none ∧ next = api.putSecret secret := by
  unfold API.createSecret at done
  split at done
  · cases done
  · next free => exact ⟨free,(Except.ok.inj done).symm⟩

theorem serve_createSecret (api : API) (secret : Secret) (f : Reply Key) :
    (api.secrets.get (objectKey secret.metadata) = none ∧ f ≠ .refused ∧
      (serve api (.createSecret secret) f).2 = api.putSecret secret) ∨
    ((f = .refused ∨ ∃ e, api.secrets.get (objectKey secret.metadata) = some e) ∧
      (serve api (.createSecret secret) f).2 = api) := by
  cases found : api.secrets.get (objectKey secret.metadata) with
  | none => cases f <;> simp [serve,answerWrite,API.createSecret,found,Except.toOption]
  | some e => cases f <;> simp [serve,answerWrite,API.createSecret,found,Except.toOption]

/-- A Delete succeeds, or fails without effect, or its answer is lost and the object is gone. -/
theorem serve_deleteSecret (api : API) (key : ObjectKey) (f : Reply Key) :
    (f ≠ .lost ∧ serve api (.deleteSecret key) f = (.ok (),api.removeSecret key) ∧
      ∃ e, api.secrets.get key = some e) ∨
    (f ≠ .lost ∧ ∃ e, serve api (.deleteSecret key) f = (.error e,api)) ∨
    (f = .lost ∧ (serve api (.deleteSecret key) f).1 = .error .unavailable ∧
      ∀ k, (serve api (.deleteSecret key) f).2.secrets.get k =
        if k = key then none else api.secrets.get k) := by
  cases found : api.secrets.get key with
  | some e => cases f <;> simp [serve,answerWrite,API.deleteSecret,found,Except.toOption]
  | none =>
    have kept : ∀ k, api.secrets.get k = if k = key then none else api.secrets.get k := by
      intro k
      split
      · next same => rw [same,found]
      · rfl
    cases f <;> simp [serve,answerWrite,API.deleteSecret,found,Except.toOption,← kept]

theorem serve_updateConfigMap (api : API) (configMap : Entry ConfigMap) (f : Reply Key) :
    (serve api (.updateConfigMap configMap) f).2.secrets = api.secrets := by
  have kept : ∀ next, api.updateConfigMap configMap = .ok next → next.secrets = api.secrets := by
    intro next done
    unfold API.updateConfigMap at done
    split at done
    · cases done
    · cases done; rfl
  have outcome := answerWrite_cases api (api.updateConfigMap configMap) f
  rcases outcome with ⟨next,done,answer⟩ | ⟨next,done,_,answer⟩ | ⟨_,answer⟩ | ⟨_,_,_,answer⟩
  · simp only [serve,answer]; exact kept next done
  · simp only [serve,answer]; exact kept next done
  · simp only [serve,answer]
  · simp only [serve,answer]

theorem Codec.RoundTrip.convert {codec : Codec Key} (laws : codec.RoundTrip) (key : Key) :
    convertPEMToRSAKey codec (convertRSAKeyToPEM codec key) = .ok key := by
  simp [convertPEMToRSAKey,convertRSAKeyToPEM,laws.pem,laws.pkcs1]

theorem storedKey_congr {api next : API}
    (same : next.secrets.get signingKeySecret = api.secrets.get signingKeySecret) :
    storedKey codec next = storedKey codec api := by
  rw [storedKey,storedKey,same]

theorem objectKey_newSigningKeySecret (keyPEM : Bytes) :
    objectKey (newSigningKeySecret keyPEM).metadata = signingKeySecret := rfl

theorem storedKey_putSecret_new {codec : Codec Key} (laws : codec.RoundTrip) (api : API) (key : Key) :
    storedKey codec (api.putSecret (newSigningKeySecret (convertRSAKeyToPEM codec key))) = some key := by
  have held : (newSigningKeySecret (convertRSAKeyToPEM codec key)).data.lookup signingKeyDataKey =
      some (convertRSAKeyToPEM codec key) := AList.lookup_insert _
  simp [storedKey,objectKey_newSigningKeySecret,held,laws.convert,Except.toOption]

/-- Keys that are their own encodings. -/
def plainCodec : Codec Bytes where
  pemEncode block := block
  pemDecode block := some block
  marshalPKCS1 key := key
  parsePKCS1 block := .ok block
  parsePKCS8 _ := .error "not a PKCS8 block"

def emptyAPI : API := ⟨.empty,.empty,by simp⟩

theorem plainCodec_roundTrip : plainCodec.RoundTrip := ⟨fun _ => rfl,fun _ => rfl⟩

end Kommodity.SigningKeys
