import Kommodity.SigningKeys
import Kommodity.WriteOnce

/-! The serving certificate of the webhook server, which is kept in a Secret. Callers at start-up
read it, make it when it is absent, and repair it when it is malformed. -/
namespace Kommodity.WebhookCert

open Go Versioned Interaction Secrets SigningKeys StoreCalls WriteOnce

def webhookServingCertSecretName : String := "webhook-serving-cert"
def webhookCertSerialBits : Nat := 128
/-- Durations are in nanoseconds. -/
def hour : Int := 3600 * 1000000000
def webhookCertValidity : Int := 100 * 365 * 24 * hour
def webhookCertBackdate : Int := hour
def tlsCertKey : String := "tls.crt"
def tlsPrivateKeyKey : String := "tls.key"
def loopbackBindAddress : String := "127.0.0.1"

def webhookServingCertSecret : ObjectKey := (kommodityNamespace,webhookServingCertSecretName)

/-- The fields of the template that are not flags of its usage. -/
structure Certificate where
  serialNumber : Nat
  commonName : String
  dnsNames : List String
  ipAddresses : List String
  notBefore : Int
  notAfter : Int
  isCA : Bool

/-- What the generation of a certificate asks of `crypto` and of the clock. -/
inductive CryptoCall (Key : Type) where
  | generateKey
  | randInt (limit : Nat)
  | timeNow
  | createCertificate (template : Certificate) (key : Key)

abbrev CryptoAnswer (Key : Type) : CryptoCall Key → Type
  | .generateKey => Except String Key
  | .randInt _ => Except String Nat
  | .timeNow => Int
  | .createCertificate _ _ => Except String Bytes

abbrev CertProgram (Key α : Type) := Program (StoreCalls.Call ObjectKey Secret (CryptoCall Key))
  (StoreCalls.Answer APIError (CryptoAnswer Key)) α

/-- `pem.EncodeToMemory` of a block without headers, and `x509.MarshalPKCS1PrivateKey`. -/
structure Encoding (Key : Type) where
  pemEncode : String → Bytes → Bytes
  marshalPKCS1 : Key → Bytes

/-- A block is written with its header line at least. -/
def Encoding.WritesBlocks (encoding : Encoding Key) : Prop := ∀ type der, encoding.pemEncode type der ≠ []

inductive Cause where
  | api (error : APIError)
  | dataMissingFromSecret (detail : String)
  | crypto (detail : String)
  deriving DecidableEq

abbrev Error := Err Cause

def apiError (context : String) (error : APIError) : Error := (Err.of (.api error)).wrap context

variable {Key : Type}

/-- A certificate and its key, in PEM. -/
abbrev Pair := Bytes × Bytes

def cryptoCall (call : CryptoCall Key) : CertProgram Key (CryptoAnswer Key call) := request (Call.other call)

def generateSelfSignedWebhookCert (encoding : Encoding Key) : CertProgram Key (Except Error Pair) := do
  match ← cryptoCall .generateKey with
  | .error err =>
    return .error (((Err.of (.crypto err)).wrap "failed to generate RSA key").wrap
      "failed to generate webhook private key")
  | .ok key =>
    match ← cryptoCall (.randInt (2 ^ webhookCertSerialBits)) with
    | .error err => return .error ((Err.of (.crypto err)).wrap "failed to generate certificate serial number")
    | .ok serialNumber =>
      let now ← cryptoCall .timeNow
      let template : Certificate :=
        { serialNumber
          commonName := "localhost"
          dnsNames := ["localhost","apiserver-loopback-client"]
          ipAddresses := [loopbackBindAddress]
          notBefore := now - webhookCertBackdate
          notAfter := now + webhookCertValidity
          isCA := true }
      match ← cryptoCall (.createCertificate template key) with
      | .error err => return .error ((Err.of (.crypto err)).wrap "failed to create webhook certificate")
      | .ok der =>
        return .ok (encoding.pemEncode "CERTIFICATE" der,
          encoding.pemEncode "RSA PRIVATE KEY" (encoding.marshalPKCS1 key))

def missingData : Error :=
  .of (.dataMissingFromSecret ("webhook serving cert secret missing " ++ tlsCertKey ++ "/" ++ tlsPrivateKeyKey))

def webhookCertDataFromSecret (secret : Secret) : Except Error Pair :=
  match secret.data.lookup tlsCertKey,secret.data.lookup tlsPrivateKeyKey with
  | some cert,some key => if cert = [] ∨ key = [] then .error missingData else .ok (cert,key)
  | _,_ => .error missingData

/-- The Secret that is read, with the new pair in its data. -/
def withPair (secret : Secret) (pair : Pair) : Secret :=
  { secret with data := (secret.data.insert tlsCertKey pair.1).insert tlsPrivateKeyKey pair.2 }

def regenerateAndUpdateWebhookCert (encoding : Encoding Key) (existing : Entry Secret) :
    CertProgram Key (Except Error Pair) := do
  match ← generateSelfSignedWebhookCert encoding with
  | .error err => return .error (err.wrap "failed to generate webhook serving cert")
  | .ok pair =>
    match ← request (Call.update webhookServingCertSecret ⟨withPair existing.value pair,existing.version⟩) with
    | .error err => return .error (apiError "failed to update malformed webhook serving cert secret" err)
    | .ok () => return .ok pair

def desiredSecret (pair : Pair) : Secret where
  metadata := ⟨webhookServingCertSecretName,kommodityNamespace,∅,∅⟩
  type := secretTypeOpaque
  data := ((∅ : Map String Bytes).insert tlsCertKey pair.1).insert tlsPrivateKeyKey pair.2
  stringData := ∅
  immutable := none

def getOrCreateWebhookServingCert (encoding : Encoding Key) : CertProgram Key (Except Error Pair) := do
  match ← request (Call.get webhookServingCertSecret) with
  | .ok existing =>
    match webhookCertDataFromSecret existing.value with
    | .ok pair => return .ok pair
    | .error _ => regenerateAndUpdateWebhookCert encoding existing
  | .error getErr =>
    if ¬ getErr.isNotFound then
      return .error (apiError "failed to get webhook serving cert secret" getErr)
    else
      match ← generateSelfSignedWebhookCert encoding with
      | .error err => return .error (err.wrap "failed to generate webhook serving cert")
      | .ok pair =>
        match ← request (Call.create webhookServingCertSecret (desiredSecret pair)) with
        | .ok () => return .ok pair
        | .error createErr =>
          if createErr ≠ .store .alreadyExists then
            return .error (apiError "failed to create webhook serving cert secret" createErr)
          else
            match ← request (Call.get webhookServingCertSecret) with
            | .error err => return .error (apiError "failed to get existing webhook serving cert secret" err)
            | .ok created => return webhookCertDataFromSecret created.value

/-- The pair of a Secret that is well formed. -/
def pairOf (secret : Secret) : Option Pair := (webhookCertDataFromSecret secret).toOption

theorem pairOf_eq_some (data : webhookCertDataFromSecret secret = .ok pair) : pairOf secret = some pair := by
  simp [pairOf,data,Except.toOption]

theorem pairOf_inserted (rest : Map String Bytes) {secret : Secret} (cert : pair.1 ≠ []) (key : pair.2 ≠ [])
    (data : secret.data = (rest.insert tlsCertKey pair.1).insert tlsPrivateKeyKey pair.2) :
    pairOf secret = some pair := by
  have found : secret.data.lookup tlsCertKey = some pair.1 ∧ secret.data.lookup tlsPrivateKeyKey = some pair.2 := by
    rw [data]
    simp [tlsCertKey,tlsPrivateKeyKey]
  simp [pairOf,webhookCertDataFromSecret,found,cert,key,Except.toOption]

section Discipline

variable {encoding : Encoding Key}

theorem generateSelfSignedWebhookCert_traced (writes : encoding.WritesBlocks) (h : Notes Secret) :
    (generateSelfSignedWebhookCert encoding).Traced note (Next webhookServingCertSecret pairOf)
      (fun h' result => h' = h ∧ ∀ pair, result = .ok pair → pair.1 ≠ [] ∧ pair.2 ≠ []) h := by
  unfold generateSelfSignedWebhookCert cryptoCall
  simp only [traced_request_bind]
  refine ⟨trivial,?_⟩
  rintro (err | key)
  · exact ⟨rfl,by simp⟩
  · refine ⟨trivial,?_⟩
    rintro (err | serialNumber)
    · exact ⟨rfl,by simp⟩
    · refine ⟨trivial,fun now => ⟨trivial,?_⟩⟩
      rintro (err | der)
      · exact ⟨rfl,by simp⟩
      · refine ⟨rfl,?_⟩
        rintro _ ⟨⟩
        exact ⟨writes _ _,writes _ _⟩

theorem regenerateAndUpdateWebhookCert_traced (writes : encoding.WritesBlocks) {h : Notes Secret}
    (read : h.seen = some existing) (malformed : pairOf existing.value = none) :
    (regenerateAndUpdateWebhookCert encoding existing).Traced note (Next webhookServingCertSecret pairOf)
      (Returns pairOf) h := by
  refine traced_bind (generateSelfSignedWebhookCert_traced writes h) ?_
  rintro _ (err | pair) ⟨rfl,nonempty⟩
  · exact returns_error _ _ _
  · refine ⟨⟨rfl,existing,read,rfl,malformed⟩,?_⟩
    rintro (err | _)
    · exact returns_error _ _ _
    · rintro _ ⟨⟩
      obtain ⟨cert,key⟩ := nonempty pair rfl
      exact .inr ⟨_,rfl,pairOf_inserted _ cert key rfl⟩

theorem getOrCreateWebhookServingCert_traced (writes : encoding.WritesBlocks) :
    (getOrCreateWebhookServingCert encoding).Traced note (Next webhookServingCertSecret pairOf)
      (Returns pairOf) ⟨none,none⟩ := by
  simp only [getOrCreateWebhookServingCert,traced_request_bind]
  refine ⟨rfl,?_⟩
  rintro (getErr | existing)
  · dsimp only
    split
    · exact returns_error _ _ _
    · refine traced_bind (generateSelfSignedWebhookCert_traced writes _) ?_
      rintro _ (err | pair) ⟨rfl,nonempty⟩
      · exact returns_error _ _ _
      · simp only [traced_request_bind]
        refine ⟨rfl,?_⟩
        rintro (createErr | _)
        · dsimp only
          split
          · exact returns_error _ _ _
          · refine ⟨rfl,?_⟩
            rintro (err | created)
            · exact returns_error _ _ _
            · intro pair data
              exact .inl ⟨created,rfl,pairOf_eq_some data⟩
        · rintro _ ⟨⟩
          obtain ⟨cert,key⟩ := nonempty pair rfl
          exact .inr ⟨_,rfl,pairOf_inserted _ cert key rfl⟩
  · dsimp only
    cases data : webhookCertDataFromSecret existing.value with
    | ok pair =>
      rintro _ ⟨⟩
      exact .inl ⟨existing,rfl,pairOf_eq_some data⟩
    | error err =>
      exact regenerateAndUpdateWebhookCert_traced writes rfl (by simp [pairOf,data,Except.toOption])

end Discipline

/-- The pair that is stored, if the Secret is well formed. -/
def storedPair (store : Store ObjectKey Secret) : Option Pair :=
  storedContent webhookServingCertSecret pairOf store

/-- Any number of concurrent callers. -/
def certCallers (I : Type) (encoding : Encoding Key) :
    Threads I (WriteOnce.Shared ObjectKey Secret Error Pair) (StoreCalls.Call ObjectKey Secret (CryptoCall Key))
      (StoreCalls.Answer APIError (CryptoAnswer Key)) (StoreCalls.Reply APIError (CryptoAnswer Key)) Empty (Notes Secret)
      (Except Error Pair) :=
  callers webhookServingCertSecret pairOf APIError.store fun _ => getOrCreateWebhookServingCert encoding

/-- Callers that succeed all return one pair, which is the stored one. -/
theorem webhook_cert_callers_agree [DecidableEq I] (encoding : Encoding Key) (writes : encoding.WritesBlocks)
    (run : (certCallers I encoding).system.Run (idle ⟨store,[]⟩) actions t) :
    (∀ r ∈ t.shared.returned, ∀ pair, r.result = .ok pair →
      r.stored = some pair ∧ storedPair t.shared.store = some pair) ∧
    ∀ r ∈ t.shared.returned, ∀ r' ∈ t.shared.returned, ∀ pair pair',
      r.result = .ok pair → r'.result = .ok pair' → pair = pair' := by
  have stored := agreement (fun _ => getOrCreateWebhookServingCert_traced writes) run
  refine ⟨stored,?_⟩
  intro r member r' member' pair pair' result result'
  have first := (stored r member pair result).2
  have second := (stored r' member' pair' result').2
  exact Option.some.inj (first.symm.trans second)

section Sample

def plainEncoding : Encoding Bytes := ⟨fun type der => 45 :: bytes type ++ der,id⟩

theorem plainEncoding_writes : plainEncoding.WritesBlocks := by
  intro type der
  simp [plainEncoding]

/-- A successful answer to every call; the key is the given byte. -/
def fine (byte : UInt8) : StoreCalls.Reply APIError (CryptoAnswer Bytes) where
  fault := .none
  answers
    | .generateKey => .ok [byte]
    | .randInt _ => .ok 7
    | .timeNow => 0
    | .createCertificate _ key => .ok key

/-- Two callers find the Secret malformed, and the first repairs it before the second. -/
def repairs : List (Action Nat (StoreCalls.Reply APIError (CryptoAnswer Bytes)) Empty) :=
  [Action.begin 0,Action.begin 1,Action.answer 0 (fine 1),Action.answer 1 (fine 2)] ++
    List.replicate 5 (Action.answer 0 (fine 1)) ++ List.replicate 5 (Action.answer 1 (fine 2)) ++
    [Action.begin 2,Action.answer 2 (fine 3)]

def malformedStore : Store ObjectKey Secret :=
  Store.empty.put webhookServingCertSecret { desiredSecret ([],[]) with data := ∅ }

theorem webhook_cert_callers_agree_repairs :
    ∃ t, (certCallers Nat plainEncoding).system.Run (idle ⟨malformedStore,[]⟩) repairs t ∧
      t.shared.returned.map (·.result.toOption.isSome) = [true,false,true] ∧
      ∀ r ∈ t.shared.returned, ∀ pair, r.result = .ok pair →
        r.stored = some pair ∧ storedPair t.shared.store = some pair := by
  have run : (certCallers Nat plainEncoding).system.Run (idle ⟨malformedStore,[]⟩) repairs _ :=
    .of ⟨⟨rfl,trivial⟩,⟨rfl,trivial⟩,⟨_,_,_,rfl,trivial⟩,⟨_,_,_,rfl,trivial⟩,⟨_,_,_,rfl,trivial⟩,
      ⟨_,_,_,rfl,trivial⟩,⟨_,_,_,rfl,trivial⟩,⟨_,_,_,rfl,trivial⟩,⟨_,_,_,rfl,trivial⟩,⟨_,_,_,rfl,trivial⟩,
      ⟨_,_,_,rfl,trivial⟩,⟨_,_,_,rfl,trivial⟩,⟨_,_,_,rfl,trivial⟩,⟨_,_,_,rfl,trivial⟩,⟨rfl,trivial⟩,
      ⟨_,_,_,rfl,trivial⟩,trivial⟩
  exact ⟨_,run,by decide +kernel,(webhook_cert_callers_agree plainEncoding plainEncoding_writes run).1⟩

end Sample

end Kommodity.WebhookCert
