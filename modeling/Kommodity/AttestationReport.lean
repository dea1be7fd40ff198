import Kommodity.GoValues

/-! The verifier of attestation reports. A report carries PCR values, a TPM quote and a signature
over the quote; the quote authenticates, through a digest, the PCR values of its SHA-256
selection. TPM decoding, key parsing, hashing and signature checking are library code. -/
namespace Kommodity.Attestation

open Go

structure ComponentReport where
  name : String
  measurement : String
  evidence : Map String String

structure Report where
  components : List ComponentReport
  pcrs : Map Int String
  quote : String
  signature : String
  tpmPublicKey : String
  timestamp : Int

inductive Error where
  | invalidNonce
  | expiredNonce
  | ipMismatch
  | noPEMBlock
  | noPCRSelection
  | nonceMismatch
  | pcrDigestMismatch
  | tpmSignatureInvalid
  | missingPCR (index : Int)
  | unexpectedSignatureAlgorithm (algorithm : Nat)
  | unexpectedAttestationType (type : Nat)
  | missingComponent (name : String)
  | componentMismatch (name : String)
  | pcrMismatch (index : Int)
  | parseAddr (text : String)
  | library (message : String)
  | wrap (context : String) (cause : Error)
  deriving DecidableEq, Repr

/-- `refusal` gives the text of `netip.ParseAddr` about what is no address. -/
def Error.message (refusal : String → String) : Error → String
  | .invalidNonce => "invalid nonce"
  | .expiredNonce => "expired nonce"
  | .ipMismatch => "ip address does not match nonce's bound IP"
  | .noPEMBlock => "no PEM block found"
  | .noPCRSelection => "no PCR selection found in attestation report"
  | .nonceMismatch => "nonce mismatch in attestation report"
  | .pcrDigestMismatch => "PCR digest mismatch in attestation report"
  | .tpmSignatureInvalid => "invalid TPM signature"
  | .missingPCR index => "missing required PCR in attestation report: " ++ toString index
  | .unexpectedSignatureAlgorithm algorithm =>
    "unexpected signature algorithm in attestation report: " ++ toString algorithm
  | .unexpectedAttestationType type => "unexpected attestation type: " ++ toString type
  | .missingComponent name => "missing required component in attestation report: " ++ name
  | .componentMismatch name => "component mismatch in attestation report: " ++ name
  | .pcrMismatch index => "PCR mismatch in attestation report: " ++ toString index
  | .parseAddr text => refusal text
  | .library message => message
  | .wrap context cause => context ++ ": " ++ cause.message refusal

/-- `tpm2.TPMSPCRSelection`: a hash algorithm and a bitmap. -/
structure PCRSelection where
  hash : Nat
  pcrSelect : Bytes

structure QuoteInfo where
  pcrSelections : List PCRSelection
  pcrDigest : Bytes

/-- `tpm2.TPMSAttest`, with the result of its `Attested.Quote` accessor. -/
structure Attest where
  type : Nat
  extraData : Bytes
  attestedQuote : Except String QuoteInfo

/-- The two numbers of an ECDSA signature as the TPM encodes them. -/
structure SignatureECC where
  signatureR : Bytes
  signatureS : Bytes

structure TPMSignature where
  sigAlg : Nat
  ecdsa : Except String SignatureECC

def tpmAlgSHA256 : Nat := 0x000B
def tpmAlgECDSA : Nat := 0x0018
def tpmSTAttestQuote : Nat := 0x8018

/-- Library code of the verifier. A parsed public key of another kind is `none`. -/
structure Crypto (PublicKey : Type) where
  attestContents : Bytes → Except String Attest
  unmarshalSignature : Bytes → Except String TPMSignature
  pemDecode : Bytes → Option Bytes
  parsePKIXPublicKey : Bytes → Except String (Option PublicKey)
  sha256 : Bytes → Bytes
  ecdsaVerify : PublicKey → Bytes → Nat → Nat → Bool

/-- `big.Int.SetBytes`. -/
def setBytes (data : Bytes) : Nat := data.foldl (fun n b => 256 * n + b.toNat) 0

/-- The verb `%#U` for a byte. -/
def sharpU (b : UInt8) : String :=
  "U+00" ++ (hexEncodeToString [b]).toUpper ++
    if (32 ≤ b ∧ b < 127) ∨ (160 < b ∧ b ≠ 173) then " '" ++ String.singleton (.ofNat b.toNat) ++ "'" else ""

/-- The first byte that is no digit counts before an odd length. -/
def hexError (text : String) : String :=
  match (bytes text).find? fun b => (fromHexChar (.ofNat b.toNat)).isNone with
  | some b => "encoding/hex: invalid byte: " ++ sharpU b
  | none => "encoding/hex: odd length hex string"

/-- `hex.DecodeString` with an error that names what was decoded. -/
def decodeHex (context text : String) : Except Error Bytes :=
  match hexDecodeString text with
  | some data => .ok data
  | none => .error (.wrap context (.library (hexError text)))

def library (context : String) (result : Except String α) : Except Error α :=
  result.mapError fun cause => .wrap context (.library cause)

def validateComponents (reportComponents policyComponents : List ComponentReport) :
    Except Error Bool :=
  let reportMap := reportComponents.foldl (fun m comp => m.insert comp.name comp)
    (∅ : Map String ComponentReport)
  let rec check : List ComponentReport → Except Error Bool
    | [] => .ok true
    | want :: rest =>
      match reportMap.lookup want.name with
      | none => .error (.missingComponent want.name)
      | some got =>
        if got.measurement ≠ want.measurement then .error (.componentMismatch want.name)
        else check rest
  check policyComponents

/-- The loop over the policy's PCRs; `order` is the order in which the map is visited. -/
def validatePCRs (reportPCRs policyPCRs : Map Int String) : List Int → Except Error Bool
  | [] => .ok true
  | idx :: rest =>
    if reportPCRs.lookup idx = some (policyPCRs.index idx) then
      validatePCRs reportPCRs policyPCRs rest
    else .error (.pcrMismatch idx)

/-- Bit `bit` of the byte at `byteIdx` selects the PCR with index `8 * byteIdx + bit`. -/
def pcrIndicesFromSelection (sel : PCRSelection) : List Int :=
  (sel.pcrSelect.zipIdx.flatMap fun (b,byteIdx) =>
    ((List.range 8).filter fun bit => b.toNat.testBit bit).map fun bit =>
      (byteIdx * 8 + bit : Int)).mergeSort (· ≤ ·)

/-- What the digest loop writes into the hash. -/
def pcrBytes (pcrs : Map Int String) : List Int → Except Error Bytes
  | [] => .ok []
  | idx :: rest =>
    match pcrs.lookup idx with
    | none => .error (.missingPCR idx)
    | some value =>
      let digits := if hasPrefix value "0x" || hasPrefix value "0X" then
        String.ofList (value.toList.drop 2) else value
      match decodeHex ("PCR " ++ toString idx ++ " hex decode") digits with
      | .error cause => .error cause
      | .ok raw =>
        match pcrBytes pcrs rest with
        | .error cause => .error cause
        | .ok more => .ok (raw ++ more)

section Verifier

variable (crypto : Crypto PublicKey)

def pcrDigest (pcrs : Map Int String) (indices : List Int) : Except Error Bytes :=
  match pcrBytes pcrs indices with
  | .error cause => .error cause
  | .ok data => .ok (crypto.sha256 data)

/-- The first SHA-256 selection of a quote. -/
def sha256Selection (quoteInfo : QuoteInfo) : Option PCRSelection :=
  quoteInfo.pcrSelections.find? fun sel => sel.hash = tpmAlgSHA256

def computePCRDigest (quoteInfo : QuoteInfo) (pcrs : Map Int String) : Except Error Bytes :=
  match sha256Selection quoteInfo with
  | none => .error .noPCRSelection
  | some sel =>
    match pcrDigest crypto pcrs (pcrIndicesFromSelection sel) with
    | .error cause => .error (.wrap "compute PCR digest" cause)
    | .ok recomputed => .ok recomputed

/-- The quote and the digest that its signature covers. -/
def parseTPMAttest (hexQuote nonce : String) : Except Error (QuoteInfo × Bytes) := do
  let quoteBytes ← decodeHex "invalid quote hex" hexQuote
  let att ← library "decode TPMS_ATTEST" (crypto.attestContents quoteBytes)
  if att.type ≠ tpmSTAttestQuote then .error (.unexpectedAttestationType att.type)
  else if att.extraData ≠ bytes nonce then .error .nonceMismatch
  else do
    let quoteInfo ← library "attested.Quote()" att.attestedQuote
    .ok (quoteInfo,crypto.sha256 quoteBytes)

def parsePEMPublicKey (pemBytes : Bytes) : Except Error (Option PublicKey) :=
  match crypto.pemDecode pemBytes with
  | none => .error .noPEMBlock
  | some block => library "parse PEM public key" (crypto.parsePKIXPublicKey block)

def parseTPMSignature (hexSignature hexPublicKey : String) :
    Except Error (SignatureECC × PublicKey) := do
  let sigBytes ← decodeHex "invalid signature hex" hexSignature
  let pemHex ← decodeHex "invalid TPM public key hex" hexPublicKey
  let pubKey ← (parsePEMPublicKey crypto pemHex).mapError (.wrap "parse TPM public key")
  let tpmSig ← library "decode TPMT_SIGNATURE" (crypto.unmarshalSignature sigBytes)
  if tpmSig.sigAlg ≠ tpmAlgECDSA then .error (.unexpectedSignatureAlgorithm tpmSig.sigAlg)
  else do
    let ecc ← library "ECDSA()" tpmSig.ecdsa
    match pubKey with
    | none => .error .tpmSignatureInvalid
    | some key => .ok (ecc,key)

/-- The first half of `CompliantWith`: the quote has the nonce, its digest is that of the reported
PCRs it selects, and its signature verifies. -/
def verifyQuote (r : Report) (nonce : String) : Except Error QuoteInfo := do
  let (quoteInfo,quoteDigest) ← (parseTPMAttest crypto r.quote nonce).mapError
    (.wrap "parse TPM attestation")
  let recomputed ← (computePCRDigest crypto quoteInfo r.pcrs).mapError (.wrap "compute PCR digest")
  if recomputed ≠ quoteInfo.pcrDigest then .error .pcrDigestMismatch
  else do
    let (eccSig,ecdsaPub) ← (parseTPMSignature crypto r.signature r.tpmPublicKey).mapError
      (.wrap "parse TPM signature")
    if crypto.ecdsaVerify ecdsaPub quoteDigest (setBytes eccSig.signatureR)
        (setBytes eccSig.signatureS) then .ok quoteInfo
    else .error .tpmSignatureInvalid

/-- `CompliantWith`, with the order in which the policy's PCR map is visited. -/
def compliantWith (r : Report) (nonce : String) (policy : Report) (order : List Int) :
    Except Error Bool := do
  let _ ← verifyQuote crypto r nonce
  let componentsValid ← (validateComponents r.components policy.components).mapError
    (.wrap "validate components")
  if !componentsValid then .ok false
  else (validatePCRs r.pcrs policy.pcrs order).mapError (.wrap "validate PCRs")

end Verifier

/-- The PCR indices that a quote authenticates. -/
def quotedIndices (quoteInfo : QuoteInfo) : List Int :=
  match sha256Selection quoteInfo with
  | none => []
  | some sel => pcrIndicesFromSelection sel

theorem validatePCRs_ok_iff (reportPCRs policyPCRs : Map Int String) (order : List Int) :
    validatePCRs reportPCRs policyPCRs order = .ok true ↔
      ∀ idx ∈ order, reportPCRs.lookup idx = some (policyPCRs.index idx) := by
  induction order with
  | nil => simp [validatePCRs]
  | cons idx rest ih =>
    simp only [validatePCRs]
    split
    · next same => simp [ih,same]
    · next other => simp [other]

@[simp] theorem ok_bind (a : α) (f : α → Except ε β) : (Except.ok a >>= f) = f a := rfl

@[simp] theorem library_ok (context : String) (a : α) : library context (.ok a) = .ok a := rfl

theorem bind_ok {x : Except ε α} {f : α → Except ε β} (done : (x >>= f) = .ok b) :
    ∃ a, x = .ok a ∧ f a = .ok b := by
  cases x with
  | error e => cases done
  | ok a => exact ⟨a,rfl,done⟩

theorem parseTPMAttest_intro {crypto : Crypto PublicKey}
    (hex : decodeHex "invalid quote hex" text = .ok data)
    (contents : crypto.attestContents data = .ok att) (kind : att.type = tpmSTAttestQuote)
    (fresh : att.extraData = bytes nonce) (quoted : att.attestedQuote = .ok quoteInfo) :
    parseTPMAttest crypto text nonce = .ok (quoteInfo,crypto.sha256 data) := by
  simp [parseTPMAttest,hex,contents,kind,fresh,quoted]

theorem parseTPMSignature_intro {crypto : Crypto PublicKey}
    (sigHex : decodeHex "invalid signature hex" hexSignature = .ok sigBytes)
    (keyHex : decodeHex "invalid TPM public key hex" hexPublicKey = .ok pem)
    (block : crypto.pemDecode pem = some der)
    (parsed : crypto.parsePKIXPublicKey der = .ok (some key))
    (decoded : crypto.unmarshalSignature sigBytes = .ok tpmSig)
    (algorithm : tpmSig.sigAlg = tpmAlgECDSA) (ecdsa : tpmSig.ecdsa = .ok ecc) :
    parseTPMSignature crypto hexSignature hexPublicKey = .ok (ecc,key) := by
  simp [parseTPMSignature,sigHex,keyHex,parsePEMPublicKey,block,parsed,decoded,algorithm,ecdsa,
    Except.mapError]

theorem verifyQuote_intro {crypto : Crypto PublicKey}
    (attest : parseTPMAttest crypto r.quote nonce = .ok (quoteInfo,digest))
    (pcrs : computePCRDigest crypto quoteInfo r.pcrs = .ok quoteInfo.pcrDigest)
    (signature : parseTPMSignature crypto r.signature r.tpmPublicKey = .ok (ecc,key))
    (checks : crypto.ecdsaVerify key digest (setBytes ecc.signatureR) (setBytes ecc.signatureS)) :
    verifyQuote crypto r nonce = .ok quoteInfo := by
  simp [verifyQuote,attest,pcrs,signature,checks,Except.mapError]

theorem compliantWith_ok (done : compliantWith crypto r nonce policy order = .ok true) :
    (∃ quoteInfo, verifyQuote crypto r nonce = .ok quoteInfo) ∧
    ∀ idx ∈ order, r.pcrs.lookup idx = some (policy.pcrs.index idx) := by
  unfold compliantWith at done
  obtain ⟨quoteInfo,verified,rest⟩ := bind_ok done
  obtain ⟨valid,_,last⟩ := bind_ok rest
  refine ⟨⟨quoteInfo,verified⟩,?_⟩
  cases valid with
  | false => simp at last
  | true =>
    cases checked : validatePCRs r.pcrs policy.pcrs order with
    | error cause => simp [checked,Except.mapError] at last
    | ok answer =>
      rw [← validatePCRs_ok_iff,checked]
      simpa [checked,Except.mapError] using last

/-- A policy that constrains one PCR. -/
def singlePCR (idx : Int) (value : String) : Report :=
  ⟨[],(∅ : Map Int String).insert idx value,"","","",0⟩

/-- Whatever PCR a report with a verified quote lists, some policy that relies on it accepts the
report: the verifier never asks whether the quote covers it. -/
theorem compliantWith_singlePCR (verified : verifyQuote crypto r nonce = .ok quoteInfo)
    (listed : r.pcrs.lookup idx = some value) :
    compliantWith crypto r nonce (singlePCR idx value) [idx] = .ok true := by
  have agree : validatePCRs r.pcrs (singlePCR idx value).pcrs [idx] = .ok true := by
    rw [validatePCRs_ok_iff]
    intro other member
    rw [List.mem_singleton.mp member,listed,singlePCR,Map.index,Map.lookup_insert_eq,if_pos rfl]
    rfl
  simp only [compliantWith,verified,agree]
  rfl

/-- The verifier is sound on PCR coverage for exactly those reports that list no PCR outside the
selection of their quote. -/
theorem pcr_coverage_iff (crypto : Crypto PublicKey) (r : Report) (nonce : String) :
    (∀ policy order, order.Perm policy.pcrs.keys →
      compliantWith crypto r nonce policy order = .ok true →
      ∃ quoteInfo, verifyQuote crypto r nonce = .ok quoteInfo ∧
        ∀ idx ∈ policy.pcrs.keys, idx ∈ quotedIndices quoteInfo) ↔
    ∀ quoteInfo, verifyQuote crypto r nonce = .ok quoteInfo →
      ∀ idx ∈ r.pcrs.keys, idx ∈ quotedIndices quoteInfo := by
  constructor
  · intro covered quoteInfo verified idx listed
    obtain ⟨value,found⟩ := Map.lookup_of_mem listed
    obtain ⟨again,same,inside⟩ := covered (singlePCR idx value) [idx] (by simp [singlePCR])
      (compliantWith_singlePCR verified found)
    rw [verified] at same
    cases same
    exact inside idx (by simp [singlePCR])
  · intro only policy order visits accepted
    obtain ⟨⟨quoteInfo,verified⟩,agree⟩ := compliantWith_ok accepted
    refine ⟨quoteInfo,verified,?_⟩
    intro idx member
    apply only quoteInfo verified
    exact Map.mem_of_lookup (agree idx (visits.mem_iff.mpr member))

section Sample

def sampleNonce : String := hexEncodeToString (List.replicate 31 0 ++ [7])

/-- SHA-256 of 32 bytes 0xaa. -/
def sampleDigest : Bytes :=
  [224,231,122,80,116,18,177,32,246,237,230,31,98,41,91,26,123,47,241,157,61,204,143,114,83,229,22,
   99,71,12,136,142]

/-- A quote over PCR 0 with the sample nonce. -/
def sampleQuote : Bytes :=
  [0xff,0x54,0x43,0x47,0x80,0x18,0,0,0,64] ++ bytes sampleNonce ++ List.replicate 25 0 ++
  [0,0,0,1,0,0x0b,3,1,0,0,0,32] ++ sampleDigest

/-- SHA-256 of the quote. -/
def sampleQuoteDigest : Bytes :=
  [241,229,247,245,65,17,226,191,16,117,244,80,16,119,111,207,141,229,204,199,182,207,97,252,195,15,
   128,158,42,251,130,205]

def samplePEM : Bytes :=
  bytes ("-----BEGIN PUBLIC KEY-----\n" ++
    "MFkwEwYHKoZIzj0CAQYIKoZIzj0DAQcDQgAERxw+dYxJBChbun5TEY7Q9SSt6wdX\n" ++
    "0lvS+Oew1236cUzdUg96yoqLkXrMN/Ud6PDJu+OthYOC5wLcJaEtCfeoWA==\n" ++
    "-----END PUBLIC KEY-----\n")

/-- The DER header of a P-256 public key. -/
def keyHeader : Bytes :=
  [0x30,0x59,0x30,0x13,6,7,0x2a,0x86,0x48,0xce,0x3d,2,1,6,8,0x2a,0x86,0x48,0xce,0x3d,3,1,7,3,0x42,0]

def sampleKey : Bytes :=
  [4,71,28,62,117,140,73,4,40,91,186,126,83,17,142,208,245,36,173,235,7,87,210,91,210,248,231,176,
   215,109,250,113,76,221,82,15,122,202,138,139,145,122,204,55,245,29,232,240,201,187,227,173,133,
   131,130,231,2,220,37,161,45,9,247,168,88]

def sampleSignature : SignatureECC where
  signatureR :=
    [163,227,19,199,142,121,180,69,17,231,221,232,128,247,38,137,142,37,16,105,72,123,37,64,207,176,
     8,199,172,33,83,27]
  signatureS :=
    [1,26,152,224,134,29,94,149,60,50,227,249,44,39,55,215,17,101,118,11,47,23,22,108,218,241,158,
     244,61,166,200,177]

def sampleSignatureBytes : Bytes :=
  [0,0x18,0,0x0b,0,32] ++ sampleSignature.signatureR ++ [0,32] ++ sampleSignature.signatureS

def sampleQuoteInfo : QuoteInfo := ⟨[⟨tpmAlgSHA256,[1,0,0]⟩],sampleDigest⟩

/-- The libraries at the sample inputs. -/
def sampleCrypto : Crypto Bytes where
  attestContents data :=
    if data = sampleQuote then .ok ⟨tpmSTAttestQuote,bytes sampleNonce,.ok sampleQuoteInfo⟩
    else .error "unexpected EOF"
  unmarshalSignature data :=
    if data = sampleSignatureBytes then .ok ⟨tpmAlgECDSA,.ok sampleSignature⟩
    else .error "unexpected EOF"
  pemDecode data := if data = samplePEM then some (keyHeader ++ sampleKey) else none
  parsePKIXPublicKey block := .ok (some (block.drop 26))
  sha256 data :=
    if data = List.replicate 32 0xaa then sampleDigest
    else if data = sampleQuote then sampleQuoteDigest else []
  ecdsaVerify key digest r s := key = sampleKey ∧ digest = sampleQuoteDigest ∧
    r = setBytes sampleSignature.signatureR ∧ s = setBytes sampleSignature.signatureS

/-- The quote covers PCR 0 only; the report also claims a value for PCR 7. -/
def sampleReport : Report where
  components := []
  pcrs := ((∅ : Map Int String).insert 0 (hexEncodeToString (List.replicate 32 0xaa))).insert 7
    (hexEncodeToString (List.replicate 32 0xbb))
  quote := hexEncodeToString sampleQuote
  signature := hexEncodeToString sampleSignatureBytes
  tpmPublicKey := hexEncodeToString samplePEM
  timestamp := 0

theorem decodeHex_encode (context : String) (data : Bytes) :
    decodeHex context (hexEncodeToString data) = .ok data := by
  simp [decodeHex,hexDecode_encode]

theorem quotedIndices_sample : quotedIndices sampleQuoteInfo = [0] := by decide +kernel

theorem sampleReport_pcr : sampleReport.pcrs.lookup 0 =
    some (hexEncodeToString (List.replicate 32 0xaa)) := by
  simp only [sampleReport,Map.lookup_insert_eq]
  rfl

theorem computePCRDigest_sample :
    computePCRDigest sampleCrypto sampleQuoteInfo sampleReport.pcrs = .ok sampleDigest := by
  have plain : (hasPrefix (hexEncodeToString (List.replicate 32 0xaa)) "0x" ||
      hasPrefix (hexEncodeToString (List.replicate 32 0xaa)) "0X") = false := by
    decide +kernel
  have data : pcrBytes sampleReport.pcrs [0] = .ok (List.replicate 32 0xaa) := by
    simp only [pcrBytes,sampleReport_pcr,plain,Bool.false_eq_true,↓reduceIte,decodeHex_encode]
    rfl
  have select : sha256Selection sampleQuoteInfo = some ⟨tpmAlgSHA256,[1,0,0]⟩ := by rfl
  have indices : pcrIndicesFromSelection ⟨tpmAlgSHA256,[1,0,0]⟩ = [0] := by decide +kernel
  simp only [computePCRDigest,select,indices,pcrDigest,data]
  rfl

theorem parseTPMAttest_sample : parseTPMAttest sampleCrypto sampleReport.quote sampleNonce =
    .ok (sampleQuoteInfo,sampleQuoteDigest) := by
  have contents : sampleCrypto.attestContents sampleQuote =
      .ok ⟨tpmSTAttestQuote,bytes sampleNonce,.ok sampleQuoteInfo⟩ := by
    simp only [sampleCrypto,↓reduceIte]
  have other : sampleQuote ≠ List.replicate 32 0xaa := by
    intro same
    have first := congrArg List.head? same
    simp [sampleQuote] at first
  have digest : sampleCrypto.sha256 sampleQuote = sampleQuoteDigest := by
    simp only [sampleCrypto,other,↓reduceIte]
  rw [← digest]
  exact parseTPMAttest_intro (decodeHex_encode _ _) contents rfl rfl rfl

theorem parseTPMSignature_sample : parseTPMSignature sampleCrypto sampleReport.signature
    sampleReport.tpmPublicKey = .ok (sampleSignature,sampleKey) := by
  have block : sampleCrypto.pemDecode samplePEM = some (keyHeader ++ sampleKey) := by
    simp only [sampleCrypto,↓reduceIte]
  have decoded : sampleCrypto.unmarshalSignature sampleSignatureBytes =
      .ok ⟨tpmAlgECDSA,.ok sampleSignature⟩ := by
    simp only [sampleCrypto,↓reduceIte]
  exact parseTPMSignature_intro (decodeHex_encode _ _) (decodeHex_encode _ _) block rfl decoded rfl rfl

theorem verifyQuote_sample :
    verifyQuote sampleCrypto sampleReport sampleNonce = .ok sampleQuoteInfo := by
  refine verifyQuote_intro parseTPMAttest_sample computePCRDigest_sample parseTPMSignature_sample ?_
  simp [sampleCrypto]

/-- A report is compliant with a policy for PCR 7 although its quote covers only PCR 0. -/
theorem unquoted_pcr_accepted :
    compliantWith sampleCrypto sampleReport sampleNonce
      (singlePCR 7 (hexEncodeToString (List.replicate 32 0xbb))) [7] = .ok true ∧
    verifyQuote sampleCrypto sampleReport sampleNonce = .ok sampleQuoteInfo ∧
    7 ∉ quotedIndices sampleQuoteInfo := by
  refine ⟨compliantWith_singlePCR verifyQuote_sample rfl,verifyQuote_sample,?_⟩
  rw [quotedIndices_sample]
  decide

end Sample

end Kommodity.Attestation
