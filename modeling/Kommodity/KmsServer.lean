import Kommodity.KmsClientAddress
import Kommodity.Aead

/-! The Talos KMS service. One Secret per node holds a triple of data keys for every sealed
volume. `Seal` is one read of the node Secret followed by one create or update; `Unseal` is one
read followed by trial decryption. Randomness, the block cipher and the API server's library
code are inputs. -/
namespace Kommodity.Kms

open Go Versioned Secrets

def secretPrefix : String := "talos-kms"
def keySize : Nat := 32
def aadNonceSize : Nat := 32
def volumePrefixSize : Nat := 8
def gcmNonceSize : Nat := 12
def sealedFromIPKey : String := "sealedFromIP"
def keySuffix : String := ".key"
def nonceSuffix : String := ".nonce"
def luksKeySuffix : String := ".luksKey"
/-- AES-GCM as the package uses it, with the key passed at every call. -/
abbrev Gcm := Aead.Scheme Bytes Bytes Bytes Bytes Bytes

/-- The code outside the package: the cipher, the Secret libraries of the API server,
`uuid.Parse`, and the Unicode lower-case table. -/
structure Env where
  gcm : Gcm
  upstream : Upstream
  uuidParse : String → Bool
  lowerRune : Char → Char

/-- What one Seal reads from `crypto/rand`; the reads fill their buffers. -/
structure Draw where
  volume : Bytes
  key : Bytes
  aadNonce : Bytes
  gcmNonce : Bytes
  volume_length : volume.length = volumePrefixSize
  key_length : key.length = keySize
  aadNonce_length : aadNonce.length = aadNonceSize
  gcmNonce_length : gcmNonce.length = gcmNonceSize

structure VolumeKeySet where
  volumePrefix : String
  encryptionKey : Bytes
  aadNonce : Bytes
  luksKey : Bytes
  deriving DecidableEq, Repr

structure Request where
  nodeUuid : String
  data : Bytes

def newCipher (key : Bytes) : Except Error Unit :=
  if key.length = 16 ∨ key.length = 24 ∨ key.length = 32 then .ok ()
  else .error (.library "crypto/aes: invalid key size")

def encrypt (gcm : Gcm) (nonce key plaintext aad : Bytes) : Except Error Bytes :=
  match newCipher key with
  | .error cause => .error (.wrap "failed to create AES cipher" cause)
  | .ok () => .ok (nonce ++ gcm.sealText key nonce plaintext aad)

def decrypt (gcm : Gcm) (key encryptedtext aad : Bytes) : Except Error Bytes :=
  match newCipher key with
  | .error cause => .error (.wrap "failed to create AES cipher" cause)
  | .ok () =>
    if encryptedtext.length < gcmNonceSize then .error .cipherTooShort
    else match gcm.openText key (encryptedtext.take gcmNonceSize) (encryptedtext.drop gcmNonceSize)
        aad with
      | some data => .ok data
      | none => .error (.wrap "failed to decrypt data"
          (.library "cipher: message authentication failed"))

def buildAAD (nodeUUID : String) (aadNonce : Bytes) (peerIP : String) : Bytes :=
  bytes nodeUUID ++ aadNonce ++ bytes peerIP

def generateVolumePrefix (draw : Draw) : String := hexEncodeToString draw.volume

def secretName (nodeUUID : String) : String := secretPrefix ++ "-" ++ nodeUUID

/-- The body of the loop over the data keys, with the sets found and the prefixes seen. -/
def parseVolumeKey (secretData : Map String Bytes) (acc : List VolumeKeySet × List String)
    (k : String) : List VolumeKeySet × List String :=
  if ¬ hasSuffix k keySuffix then acc
  else
    let volume := trimSuffix k keySuffix
    if volume = "" ∨ volume ∈ acc.2 then acc
    else
      let encKey := secretData.index (volume ++ keySuffix)
      let nonce := secretData.index (volume ++ nonceSuffix)
      let luksKey := secretData.index (volume ++ luksKeySuffix)
      if encKey.length ≠ keySize ∨ nonce.length ≠ aadNonceSize ∨ luksKey.length = 0 then
        (acc.1,volume :: acc.2)
      else (acc.1 ++ [⟨volume,encKey,nonce,luksKey⟩],volume :: acc.2)

/-- `order` is the order in which the loop visits the keys of the map. -/
def parseVolumeKeySets (secretData : Map String Bytes) (order : List String) : List VolumeKeySet :=
  (order.foldl (parseVolumeKey secretData) ([],[])).1

def validateNodeUUID (env : Env) (req : Request) : Except Error String :=
  let nodeUUID := toLower env.lowerRune req.nodeUuid
  if nodeUUID = "" then .error (.status .invalidArgument "node_uuid is required")
  else if env.uuidParse nodeUUID then .ok nodeUUID
  else .error (.status .invalidArgument "bad node_uuid")

/-- A request after the checks that both calls make before they reach the API server. -/
structure Accepted where
  nodeUUID : String
  clientIP : String
  data : Bytes

def acceptRequest (env : Env) (ctx : Context) (req : Request) : Except Error Accepted :=
  match validateNodeUUID env req with
  | .error cause => .error (.wrap "failed to validate node UUID" cause)
  | .ok nodeUUID =>
    if req.data.length = 0 then .error (.status .invalidArgument "data is required")
    else match extractClientIP ctx with
      | .error cause => .error (.wrap "failed to extract client IP" cause)
      | .ok clientIP => .ok ⟨nodeUUID,clientIP,req.data⟩

/-- The Secret that the first Seal of a node creates. -/
def nodeSecret (nodeUUID peerIP : String) (draw : Draw) (encryptedData : Bytes) : Secret where
  metadata := ⟨secretName nodeUUID,kommodityNamespace,getKommodityLabels nodeUUID peerIP,∅⟩
  type := "Opaque"
  data := ((∅ : Map String Bytes).insert sealedFromIPKey (bytes peerIP))
    |>.insert (generateVolumePrefix draw ++ keySuffix) draw.key
    |>.insert (generateVolumePrefix draw ++ nonceSuffix) draw.aadNonce
    |>.insert (generateVolumePrefix draw ++ luksKeySuffix) encryptedData
  stringData := ∅
  immutable := none

def createNodeSecret (env : Env) (store : SecretStore) (available : Bool) (draw : Draw)
    (nodeUUID peerIP : String) (plaintext : Bytes) : Except Error (Bytes × SecretStore) :=
  let aad := buildAAD nodeUUID draw.aadNonce peerIP
  match encrypt env.gcm draw.gcmNonce draw.key plaintext aad with
  | .error cause => .error (.wrap "failed to encrypt data" cause)
  | .ok encryptedData =>
    match request available (createSecret env.upstream store
        (nodeSecret nodeUUID peerIP draw encryptedData)) with
    | .error cause =>
      .error (.wrap ("failed to create secret " ++ secretName nodeUUID) (.api cause))
    | .ok next => .ok (encryptedData,next)

/-- The Secret with the triple of one more volume. -/
def withVolume (secret : Secret) (draw : Draw) (encryptedData : Bytes) : Secret :=
  { secret with data := (secret.data
      |>.insert (generateVolumePrefix draw ++ keySuffix) draw.key
      |>.insert (generateVolumePrefix draw ++ nonceSuffix) draw.aadNonce
      |>.insert (generateVolumePrefix draw ++ luksKeySuffix) encryptedData) }

def addVolumeToSecret (env : Env) (store : SecretStore) (available : Bool) (draw : Draw)
    (secret : Entry Secret) (nodeUUID peerIP : String) (plaintext : Bytes) :
    Except Error (Bytes × SecretStore) :=
  let storedIP := secret.value.data.index sealedFromIPKey
  if storedIP ≠ bytes peerIP then .error (.ipMismatch storedIP peerIP)
  else
    let aad := buildAAD nodeUUID draw.aadNonce peerIP
    match encrypt env.gcm draw.gcmNonce draw.key plaintext aad with
    | .error cause => .error (.wrap "failed to encrypt data" cause)
    | .ok encryptedData =>
      match request available (updateSecret env.upstream store
          (withVolume secret.value draw encryptedData) secret.version) with
      | .error cause =>
        .error (.wrap ("failed to update secret " ++ secret.value.metadata.name) (.api cause))
      | .ok next => .ok (encryptedData,next)

/-- The read of `Seal`: an absent Secret is not an error. -/
def sealGet (store : SecretStore) (available : Bool) (accepted : Accepted) :
    Except Error (Option (Entry Secret)) :=
  match request available (getSecret store (secretName accepted.nodeUUID)) with
  | .ok entry => .ok (some entry)
  | .error cause =>
    if cause.isNotFound then .ok none
    else .error (.wrap ("failed to get secret " ++ secretName accepted.nodeUUID) (.api cause))

/-- The write of `Seal`, which depends only on what its read returned: it succeeds, or fails without
effect. A write whose answer is lost is a step of its own in the runs. -/
def sealWrite (env : Env) (store : SecretStore) (available : Bool) (draw : Draw)
    (accepted : Accepted) (seen : Option (Entry Secret)) : Except Error (Bytes × SecretStore) :=
  match seen with
  | none => (createNodeSecret env store available draw accepted.nodeUUID accepted.clientIP
      accepted.data).mapError (.wrap "failed to create node secret")
  | some secret => (addVolumeToSecret env store available draw secret accepted.nodeUUID
      accepted.clientIP accepted.data).mapError (.wrap "failed to add volume to secret")

/-- A Seal that no other writer interleaves with. -/
def sealData (env : Env) (store : SecretStore) (available : Bool) (draw : Draw) (ctx : Context)
    (req : Request) : Except Error (Bytes × SecretStore) :=
  match acceptRequest env ctx req with
  | .error cause => .error cause
  | .ok accepted =>
    match sealGet store available accepted with
    | .error cause => .error cause
    | .ok seen => sealWrite env store available draw accepted seen

/-- Trial decryption: the first key set that opens the data answers the request. -/
def tryKeySets (env : Env) (nodeUUID clientIP : String) (data : Bytes) :
    List VolumeKeySet → Option Bytes
  | [] => none
  | ks :: rest =>
    match decrypt env.gcm ks.encryptionKey data (buildAAD nodeUUID ks.aadNonce clientIP) with
    | .ok decryptedData => some decryptedData
    | .error _ => tryKeySets env nodeUUID clientIP data rest

/-- The part of `Unseal` after the node Secret was read. -/
def unsealFrom (env : Env) (secretData : Map String Bytes) (order : List String)
    (accepted : Accepted) : Except Error Bytes :=
  let storedIP := secretData.index sealedFromIPKey
  if storedIP ≠ bytes accepted.clientIP then .error (.ipMismatch storedIP accepted.clientIP)
  else match parseVolumeKeySets secretData order with
    | [] => .error (.noVolumeKeySets (secretName accepted.nodeUUID))
    | keySets =>
      match tryKeySets env accepted.nodeUUID accepted.clientIP accepted.data keySets with
      | some data => .ok data
      | none => .error (.noMatchingSecret (secretName accepted.nodeUUID))

def unsealData (env : Env) (store : SecretStore) (available : Bool)
    (order : Map String Bytes → List String) (ctx : Context) (req : Request) : Except Error Bytes :=
  match acceptRequest env ctx req with
  | .error cause => .error cause
  | .ok accepted =>
    match request available (getSecret store (secretName accepted.nodeUUID)) with
    | .error cause =>
      .error (.wrap ("failed to get secret " ++ secretName accepted.nodeUUID) (.api cause))
    | .ok entry => unsealFrom env entry.value.data (order entry.value.data) accepted

end Kommodity.Kms
