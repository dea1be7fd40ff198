import Kommodity.SigningKeys
import Kommodity.WriteOnce

/-! The signing key of libkapi in its Secret: how it is loaded, created and persisted. The first
part of `LoadOrCreateSigningKey` and its answer to a lost race both load the Secret, and the kind of
error decides between them. -/
namespace Kommodity.Libkapi

open Go Versioned Interaction Secrets StoreCalls WriteOnce

abbrev ObjectKey := SigningKeys.ObjectKey
abbrev Codec := SigningKeys.Codec

def signingKeyDataKey : String := "key"
def signingKeyLabel : String := "kommodity.io/managed-by"
def signingKeyValue : String := "libkapi"
def defaultSigningKeyNamespace : String := "kube-system"
def defaultSigningKeySecretName : String := "libkapi-service-account-signing-key"

structure KeyPersistenceConfig where
  namespaceName : String
  secretName : String
  tokenSecretsNamespace : String

def resolveSigningKeyNamespace (kp : KeyPersistenceConfig) : String :=
  if kp.namespaceName ≠ "" then kp.namespaceName else defaultSigningKeyNamespace

def resolveSigningKeySecretName (kp : KeyPersistenceConfig) : String :=
  if kp.secretName ≠ "" then kp.secretName else defaultSigningKeySecretName

def signingKeySecret (kp : KeyPersistenceConfig) : ObjectKey :=
  (resolveSigningKeyNamespace kp,resolveSigningKeySecretName kp)

inductive Cause where
  | api (error : APIError)
  | pemDecodeFailed
  | keyParseFailed (pkcs1 pkcs8 : String)
  | keyNotRSA
  | signingKeyDataMissing (key : String)
  | randomness (detail : String)
  | nilMapAssignment
  deriving DecidableEq

abbrev Error := Err Cause

def apiError (context : String) (error : APIError) : Error := (Err.of (.api error)).wrap context

/-- `apierrors.IsNotFound` and `IsAlreadyExists` look through the wrapping. -/
def isNotFound (err : Error) : Bool :=
  match err.cause with
  | .api error => error.isNotFound
  | _ => false

def isAlreadyExists (err : Error) : Bool :=
  match err.cause with
  | .api error => error = .store .alreadyExists
  | _ => false

/-- The calls that are not about Secrets; `onTokenRotated` is the callback of the configuration. -/
inductive OtherCall where
  | generateKey
  | createNamespace (name : String)
  | onTokenRotated (secret : Secret)

abbrev OtherAnswer (Key : Type) : OtherCall → Type
  | .generateKey => Except String Key
  | .createNamespace _ => Except APIError Unit
  | .onTokenRotated _ => Except String Unit

abbrev KeyProgram (Key α : Type) :=
  Program (Call ObjectKey Secret OtherCall) (Answer APIError (OtherAnswer Key)) α

variable {Key : Type}

def otherCall (call : OtherCall) : KeyProgram Key (OtherAnswer Key call) := request (Call.other call)

def generateRSAPrivateKey : KeyProgram Key (Except Error Key) := do
  match ← otherCall .generateKey with
  | .error err => return .error ((Err.of (.randomness err)).wrap "failed to generate RSA key")
  | .ok key => return .ok key

def convertRSAKeyToPEM (codec : Codec Key) (key : Key) : Bytes := codec.pemEncode (codec.marshalPKCS1 key)

def convertPEMToRSAKey (codec : Codec Key) (pemBytes : Bytes) : Except Error Key :=
  match codec.pemDecode pemBytes with
  | none => .error (.of .pemDecodeFailed)
  | some block =>
    match codec.parsePKCS1 block with
    | .ok key => .ok key
    | .error err =>
      match codec.parsePKCS8 block with
      | .error err2 => .error (.of (.keyParseFailed err err2))
      | .ok none => .error (.of .keyNotRSA)
      | .ok (some key) => .ok key

/-- The verb `%q` puts a name between quotes. -/
def ensureNamespace (namespaceName : String) : KeyProgram Key (Option Error) := do
  match ← otherCall (.createNamespace namespaceName) with
  | .ok () => return none
  | .error err =>
    if err = .store .alreadyExists then return none
    else return some (apiError ("failed to create namespace \"" ++ namespaceName ++ "\"") err)

/-- The Secret that holds a key. -/
def newSigningKeySecret (secret : ObjectKey) (keyPEM : Bytes) : Secret where
  metadata := ⟨secret.2,secret.1,(∅ : Map String String).insert signingKeyLabel signingKeyValue,∅⟩
  type := SigningKeys.secretTypeOpaque
  data := (∅ : Map String Bytes).insert signingKeyDataKey keyPEM
  stringData := ∅
  immutable := none

def createSigningKeySecret (codec : Codec Key) (key : Key) (secret : ObjectKey) :
    KeyProgram Key (Option Error) := do
  match ← ensureNamespace secret.1 with
  | some err => return some err
  | none =>
    match ← request (Call.create secret (newSigningKeySecret secret (convertRSAKeyToPEM codec key))) with
    | .error err => return some (apiError "failed to create signing key secret" err)
    | .ok () => return none

/-- What `LoadSigningKeyFromSecret` makes of the Secret it reads. -/
def keyFromSecret (codec : Codec Key) (secret : Secret) : Except Error Key :=
  match secret.data.lookup signingKeyDataKey with
  | none => .error (.of (.signingKeyDataMissing signingKeyDataKey))
  | some keyPEM => convertPEMToRSAKey codec keyPEM

def loadSigningKeyFromSecret (codec : Codec Key) (secret : ObjectKey) : KeyProgram Key (Except Error Key) := do
  match ← request (Call.get secret) with
  | .error err => return .error (apiError "failed to get signing key secret" err)
  | .ok found => return keyFromSecret codec found.value

def loadOrCreateSigningKey (codec : Codec Key) (kp : KeyPersistenceConfig) :
    KeyProgram Key (Except Error Key) := do
  match ← loadSigningKeyFromSecret codec (signingKeySecret kp) with
  | .ok key => return .ok key
  | .error err =>
    if ¬ isNotFound err then return .error (err.wrap "failed to load signing key from secret")
    else
      match ← generateRSAPrivateKey with
      | .error err => return .error err
      | .ok newKey =>
        match ← createSigningKeySecret codec newKey (signingKeySecret kp) with
        | none => return .ok newKey
        | some err =>
          if isAlreadyExists err then loadSigningKeyFromSecret codec (signingKeySecret kp)
          else return .error err

/-- Unlike `createSigningKeySecret` this overwrites the key of a Secret that is there. Assigning into
the data of a Secret without data is a panic in Go. -/
def persistSigningKey (codec : Codec Key) (key : Key) (secret : ObjectKey) : KeyProgram Key (Option Error) := do
  match ← ensureNamespace secret.1 with
  | some err => return some err
  | none =>
    let keyPEM := convertRSAKeyToPEM codec key
    match ← request (Call.create secret (newSigningKeySecret secret keyPEM)) with
    | .ok () => return none
    | .error err =>
      if err ≠ .store .alreadyExists then return some (apiError "failed to create signing key secret" err)
      else
        match ← request (Call.get secret) with
        | .error err => return some (apiError "failed to get existing signing key secret" err)
        | .ok existing =>
          if existing.value.data.keys = [] then return some (.of .nilMapAssignment)
          else
            let updated := { existing.value with data := existing.value.data.insert signingKeyDataKey keyPEM }
            match ← request (Call.update secret ⟨updated,existing.version⟩) with
            | .error err => return some (apiError "failed to update signing key secret" err)
            | .ok () => return none

/-- The key that a Secret holds. -/
def keyOf (codec : Codec Key) (secret : Secret) : Option Key := (keyFromSecret codec secret).toOption

theorem keyOf_eq_some (held : keyFromSecret codec secret = .ok key) : keyOf codec secret = some key := by
  simp [keyOf,held,Except.toOption]

theorem keyOf_data {codec : Codec Key} (laws : codec.RoundTrip) {secret : Secret}
    (data : secret.data.lookup signingKeyDataKey = some (convertRSAKeyToPEM codec key)) :
    keyOf codec secret = some key := by
  simp [keyOf,keyFromSecret,data,convertPEMToRSAKey,convertRSAKeyToPEM,laws.pem,laws.pkcs1,Except.toOption]

section Discipline

variable {codec : Codec Key}

theorem ensureNamespace_traced (codec : Codec Key) (k : ObjectKey) (namespaceName : String) (h : Notes Secret) :
    (ensureNamespace namespaceName : KeyProgram Key (Option Error)).Traced note (Next k (keyOf codec))
      (fun h' _ => h' = h) h := by
  simp only [ensureNamespace,otherCall,traced_request_bind]
  refine ⟨trivial,?_⟩
  rintro (err | _)
  · dsimp only
    split <;> exact rfl
  · exact rfl

theorem generateRSAPrivateKey_traced (codec : Codec Key) (k : ObjectKey) (h : Notes Secret) :
    (generateRSAPrivateKey : KeyProgram Key (Except Error Key)).Traced note (Next k (keyOf codec))
      (fun h' _ => h' = h) h := by
  refine ⟨trivial,?_⟩
  rintro (err | key)
  · exact rfl
  · exact rfl

theorem createSigningKeySecret_traced (laws : codec.RoundTrip) (k : ObjectKey) (h : Notes Secret) :
    (createSigningKeySecret codec key k).Traced note (Next k (keyOf codec))
      (fun h' err => err = none → ∃ value, h'.wrote = some value ∧ keyOf codec value = some key) h := by
  refine traced_bind (ensureNamespace_traced codec k k.1 h) ?_
  rintro _ (_ | err) rfl
  · refine ⟨rfl,?_⟩
    rintro (err | _)
    · exact nofun
    · intro _
      exact ⟨_,rfl,keyOf_data laws (AList.lookup_insert _)⟩
  · exact nofun

theorem loadSigningKeyFromSecret_traced (k : ObjectKey) (h : Notes Secret) :
    (loadSigningKeyFromSecret codec k).Traced note (Next k (keyOf codec)) (Returns (keyOf codec)) h := by
  refine ⟨rfl,?_⟩
  rintro (err | found)
  · exact returns_error _ _ _
  · intro key held
    exact .inl ⟨found,rfl,keyOf_eq_some held⟩

theorem loadOrCreateSigningKey_traced (laws : codec.RoundTrip) (kp : KeyPersistenceConfig) :
    (loadOrCreateSigningKey codec kp).Traced note (Next (signingKeySecret kp) (keyOf codec))
      (Returns (keyOf codec)) ⟨none,none⟩ := by
  unfold loadOrCreateSigningKey
  refine traced_bind (loadSigningKeyFromSecret_traced _ _) ?_
  rintro h (err | key) returns
  · dsimp only
    split
    · exact returns_error _ _ _
    · refine traced_bind (generateRSAPrivateKey_traced codec _ h) ?_
      rintro _ (err | newKey) _
      · exact returns_error _ _ _
      · refine traced_bind (createSigningKeySecret_traced laws (signingKeySecret kp) _) ?_
        rintro h' (_ | err) wrote
        · rintro _ ⟨⟩
          exact .inr (wrote rfl)
        · dsimp only
          split
          · exact loadSigningKeyFromSecret_traced _ _
          · exact returns_error _ _ _
  · exact returns

end Discipline

/-- The key that is stored. -/
def storedKey (codec : Codec Key) (kp : KeyPersistenceConfig) (store : Store ObjectKey Secret) : Option Key :=
  storedContent (signingKeySecret kp) (keyOf codec) store

/-- Any number of concurrent callers on one Secret. -/
def keyCallers (I : Type) (codec : Codec Key) (kp : KeyPersistenceConfig) :
    Threads I (Shared ObjectKey Secret Error Key) (Call ObjectKey Secret OtherCall)
      (Answer APIError (OtherAnswer Key)) (Reply APIError (OtherAnswer Key)) Empty (Notes Secret)
      (Except Error Key) :=
  callers (signingKeySecret kp) (keyOf codec) APIError.store fun _ => loadOrCreateSigningKey codec kp

/-- Callers that succeed all return one key, which is the stored one; a key that is stored stays. -/
theorem libkapi_key_callers_agree [DecidableEq I] (codec : Codec Key) (laws : codec.RoundTrip)
    (run : (keyCallers I codec kp).system.Run (idle ⟨store,[]⟩) actions s) :
    (∀ r ∈ s.shared.returned, ∀ key, r.result = .ok key →
      r.stored = some key ∧ storedKey codec kp s.shared.store = some key) ∧
    (∀ r ∈ s.shared.returned, ∀ r' ∈ s.shared.returned, ∀ key key',
      r.result = .ok key → r'.result = .ok key' → key = key') ∧
    ∀ key later t, storedKey codec kp s.shared.store = some key →
      (keyCallers I codec kp).system.Run s later t → storedKey codec kp t.shared.store = some key := by
  have disciplined := loadOrCreateSigningKey_traced laws kp
  have stored := agreement (fun _ => disciplined) run
  refine ⟨stored,?_,fun key later t held rest => settled (fun _ => disciplined) run rest held⟩
  intro r member r' member' key key' result result'
  have first := (stored r member key result).2
  have second := (stored r' member' key' result').2
  exact Option.some.inj (first.symm.trans second)

section Sample

def defaultPersistence : KeyPersistenceConfig := ⟨"","",""⟩

/-- A successful answer to every call; a key that is drawn is the given byte. -/
def fine (byte : UInt8) : Reply APIError (OtherAnswer Bytes) where
  fault := .none
  answers
    | .generateKey => .ok [byte]
    | .createNamespace _ => .error (.store .alreadyExists)
    | .onTokenRotated _ => .ok ()

/-- Two callers find no Secret, and the second loads what the first has created. -/
def race : List (Action Nat (Reply APIError (OtherAnswer Bytes)) Empty) :=
  [Action.begin 0,Action.begin 1,Action.answer 0 (fine 1),Action.answer 1 (fine 2)] ++
    List.replicate 3 (Action.answer 0 (fine 1)) ++ List.replicate 4 (Action.answer 1 (fine 2))

theorem libkapi_key_callers_agree_race :
    ∃ s, (keyCallers Nat SigningKeys.plainCodec defaultPersistence).system.Run (idle ⟨Store.empty,[]⟩) race s ∧
      s.shared.returned.map (·.result.toOption) = [some [1],some [1]] ∧
      ∀ r ∈ s.shared.returned, ∀ key, r.result = .ok key →
        r.stored = some key ∧ storedKey SigningKeys.plainCodec defaultPersistence s.shared.store = some key := by
  have run : (keyCallers Nat SigningKeys.plainCodec defaultPersistence).system.Run
      (idle ⟨Store.empty,[]⟩) race _ :=
    .of ⟨⟨rfl,trivial⟩,⟨rfl,trivial⟩,⟨_,_,_,rfl,trivial⟩,⟨_,_,_,rfl,trivial⟩,⟨_,_,_,rfl,trivial⟩,
      ⟨_,_,_,rfl,trivial⟩,⟨_,_,_,rfl,trivial⟩,⟨_,_,_,rfl,trivial⟩,⟨_,_,_,rfl,trivial⟩,⟨_,_,_,rfl,trivial⟩,
      ⟨_,_,_,rfl,trivial⟩,trivial⟩
  exact ⟨_,run,by decide +kernel,(libkapi_key_callers_agree _ SigningKeys.plainCodec_roundTrip run).1⟩

end Sample

end Kommodity.Libkapi
