import Kommodity.KmsBinding
import Kommodity.GoText
import Kommodity.GoUuid

/-! The node of a KMS request is the text it sent, in lower case, and not the UUID that the text stands
for. No accepted text starts another one, so the associated data of a Seal determines its parts; two
forms of one UUID are two nodes. -/
namespace Kommodity.Kms

open Go Versioned Secrets Transition

/-- `uuid.Parse` of google/uuid, as far as the KMS looks at its answer. -/
def Env.GoogleUuid (env : Env) : Prop := ∀ s, env.uuidParse s = (Uuid.parse (bytes s)).isSome

/-- The lower-case table of Unicode gives no upper-case ASCII letter. -/
def Env.Lowers (env : Env) : Prop := ∀ c : Char, 128 ≤ c.val.toNat →
  ¬ (65 ≤ (env.lowerRune c).val.toNat ∧ (env.lowerRune c).val.toNat ≤ 90)

def uuidForm (nodeUUID : String) : Option Uuid.Form := (Uuid.parse (bytes nodeUUID)).map Prod.fst

/-- The 16 bytes that an accepted text stands for. -/
def uuidValue (nodeUUID : String) : Option Bytes := (Uuid.parse (bytes nodeUUID)).map Prod.snd

theorem validateNodeUUID_ok (accepts : validateNodeUUID env req = .ok u) :
    u = toLower env.lowerRune req.nodeUuid ∧ env.uuidParse u = true := by
  simp only [validateNodeUUID] at accepts
  split at accepts
  · cases accepts
  · split at accepts
    · next parsed => cases accepts; exact ⟨rfl,parsed⟩
    · cases accepts

theorem parsed_of_accepts (google : env.GoogleUuid) (accepts : validateNodeUUID env req = .ok u) :
    ∃ form value, Uuid.parse (bytes u) = some (form,value) := by
  have parsed := (validateNodeUUID_ok accepts).2
  rw [google,Option.isSome_iff_exists] at parsed
  obtain ⟨⟨form,value⟩,found⟩ := parsed
  exact ⟨form,value,found⟩

section AssociatedData

theorem accepted_eq_of_starts (google : env.GoogleUuid) (accepts : validateNodeUUID env req = .ok u)
    (accepts' : validateNodeUUID env req' = .ok u') (starts : bytes u <+: bytes u') : u = u' := by
  obtain ⟨form,value,found⟩ := parsed_of_accepts google accepts
  obtain ⟨form',value',found'⟩ := parsed_of_accepts google accepts'
  exact bytes_injective (Uuid.prefix_free found found' starts)

/-- Lower-casing goes character by character, so what one text starts it starts in lower case too. -/
theorem sent_eq_of_starts (google : env.GoogleUuid) (accepts : validateNodeUUID env req = .ok u)
    (accepts' : validateNodeUUID env req' = .ok u') (starts : req.nodeUuid.toList <+: req'.nodeUuid.toList) :
    req.nodeUuid = req'.nodeUuid := by
  have lowered := (validateNodeUUID_ok accepts).1
  have lowered' := (validateNodeUUID_ok accepts').1
  have shorter : u.toList <+: u'.toList := by
    rw [lowered,lowered',toLower,toLower,String.toList_ofList,String.toList_ofList]
    exact starts.map _
  have same := accepted_eq_of_starts google accepts accepts' (bytes_starts shorter)
  have lengths : req.nodeUuid.toList.length = req'.nodeUuid.toList.length := by
    have lists := congrArg (fun s => s.toList.length) same
    simpa [lowered,lowered',toLower] using lists
  exact String.toList_inj.mp (starts.eq_of_length lengths)

theorem buildAAD_rest (same : buildAAD u nonce ip = buildAAD u nonce' ip')
    (long : nonce.length = aadNonceSize) (long' : nonce'.length = aadNonceSize) :
    nonce = nonce' ∧ ip = ip' := by
  simp only [buildAAD,List.append_assoc] at same
  obtain ⟨rfl,rest⟩ := List.append_inj (List.append_cancel_left same) (long.trans long'.symm)
  exact ⟨rfl,bytes_injective rest⟩

theorem buildAAD_accepted (google : env.GoogleUuid) (accepts : validateNodeUUID env req = .ok u)
    (accepts' : validateNodeUUID env req' = .ok u') (same : buildAAD u nonce ip = buildAAD u' nonce' ip') :
    u = u' := by
  simp only [buildAAD,List.append_assoc] at same
  have front : bytes u <+: bytes u ++ (nonce ++ bytes ip) := List.prefix_append _ _
  have front' : bytes u' <+: bytes u ++ (nonce ++ bytes ip) := same ▸ List.prefix_append _ _
  rcases List.prefix_or_prefix_of_prefix front front' with starts | starts
  · exact accepted_eq_of_starts google accepts accepts' starts
  · exact (accepted_eq_of_starts google accepts' accepts starts).symm

/-- The associated data of a Seal determines the node, the nonce and the address, whether the node is
taken as it was sent or as the validation returns it. -/
theorem buildAAD_injective (env : Env) (google : env.GoogleUuid) (req req' : Request) (nonce nonce' : Bytes)
    (ip ip' : String) (accepts : validateNodeUUID env req = .ok u)
    (accepts' : validateNodeUUID env req' = .ok u') (long : nonce.length = aadNonceSize)
    (long' : nonce'.length = aadNonceSize) :
    (buildAAD u nonce ip = buildAAD u' nonce' ip' → u = u' ∧ nonce = nonce' ∧ ip = ip') ∧
    (buildAAD req.nodeUuid nonce ip = buildAAD req'.nodeUuid nonce' ip' →
      req.nodeUuid = req'.nodeUuid ∧ nonce = nonce' ∧ ip = ip') := by
  refine ⟨?_,?_⟩
  · intro same
    obtain rfl := buildAAD_accepted google accepts accepts' same
    exact ⟨rfl,buildAAD_rest same long long'⟩
  · intro same
    have whole := same
    simp only [buildAAD,List.append_assoc] at whole
    have equal : req.nodeUuid = req'.nodeUuid := by
      rcases bytes_comparable whole with starts | starts
      · exact sent_eq_of_starts google accepts accepts' starts
      · exact (sent_eq_of_starts google accepts' accepts starts).symm
    rw [← equal] at same
    exact ⟨equal,buildAAD_rest same long long'⟩

/-- The environment of the samples with the library's parser. -/
def spellingEnv : Env := { sampleEnv with uuidParse := fun s => (Uuid.parse (bytes s)).isSome }

def plainUUID : String := "550e8400e29b41d4a716446655440000"

theorem spellingEnv_googleUuid : spellingEnv.GoogleUuid := fun _ => rfl

theorem spellingEnv_lowers : spellingEnv.Lowers := by
  rintro c high ⟨_,below⟩
  have bound : c.val.toNat ≤ 90 := below
  omega

theorem buildAAD_injective_spellings :
    buildAAD sampleUUID sampleDraw.aadNonce "10.0.0.1" ≠ buildAAD plainUUID sampleDraw.aadNonce "10.0.0.1" := by
  have accepts : validateNodeUUID spellingEnv ⟨sampleUUID,[1]⟩ = .ok sampleUUID := by decide +kernel
  have accepts' : validateNodeUUID spellingEnv ⟨plainUUID,[1]⟩ = .ok plainUUID := by decide +kernel
  intro same
  have equal := (buildAAD_injective spellingEnv spellingEnv_googleUuid _ _ _ _ _ _ accepts accepts'
    sampleDraw.aadNonce_length sampleDraw.aadNonce_length).1 same
  exact absurd equal.1 (by decide)

end AssociatedData

section Spellings

theorem toLower_not_upper (c : Char) : ¬ (65 ≤ c.toLower.val.toNat ∧ c.toLower.val.toNat ≤ 90) := by
  unfold Char.toLower
  split
  · next upper =>
    have above : 65 ≤ c.val.toNat := upper.1
    have below : c.val.toNat ≤ 90 := upper.2
    have shifted : (c.val + ('a'.val - 'A'.val)).toNat = c.val.toNat + 32 := by
      rw [UInt32.toNat_add,Nat.mod_eq_of_lt]
      · rfl
      · show c.val.toNat + 32 < 2 ^ 32
        omega
    rw [shifted]
    omega
  · next other => exact other

theorem lowered_accepted (lowers : env.Lowers) (accepts : validateNodeUUID env req = .ok u) :
    Uuid.Lowered (bytes u) := by
  intro b listed
  rw [(validateNodeUUID_ok accepts).1,bytes_toList,toLower,String.toList_ofList,List.mem_flatMap] at listed
  obtain ⟨c,member,encoded⟩ := listed
  obtain ⟨d,_,rfl⟩ := List.mem_map.mp member
  rw [Uuid.lowerByte,if_neg]
  rintro ⟨above,below⟩
  have above : 65 ≤ b.toNat := above
  have below : b.toNat ≤ 90 := below
  have value := ascii_of_utf8 encoded (by omega)
  split at value
  · exact toLower_not_upper d (by omega)
  · next high =>
    refine lowers d ?_ (by omega)
    have bound : ¬ d.val.toNat < 128 := high
    omega

/-- A volume sealed under one text opens under another only if validation gives the same node. -/
theorem unseal_kept_node (google : env.GoogleUuid) (sound : Sound s) (kept : Kept env.gcm σ s)
    (ideal : Aead.Ideal env.gcm (s.sealed.map Sealed.call)) (visits : ∀ data, (order data).Perm data.keys)
    (accepts : validateNodeUUID env req = .ok σ.accepted.nodeUUID)
    (accepts' : validateNodeUUID env req' = .ok u) (sent : req'.data = σ.ciphertext env.gcm)
    (done : unsealData env s.secrets available order ctx req' = .ok plaintext) : σ.accepted.nodeUUID = u := by
  obtain ⟨accepted,e,checked,_,answered⟩ := unsealData_ok done
  obtain ⟨uuid,_,data⟩ := acceptRequest_fields checked
  obtain ⟨_,tried⟩ := unsealFrom_ok answered
  obtain ⟨ks,parsed,opened⟩ := tryKeySets_origin tried
  have stored := (mem_parseVolumeKeySets _ _ (visits e.value.data) ks).mp parsed
  have fresh : ((s.sealed.map Sealed.call).map Aead.Call.nonce).Nodup := by
    simpa [List.map_map,Function.comp_def,Sealed.call] using sound.nonces
  rw [data,sent,decrypt_ok_iff env.gcm stored.keyLength (σ.ciphertext_long _),σ.ciphertext_take] at opened
  obtain ⟨_,_,aad,_⟩ := ideal.origin_of_nonce fresh (List.mem_map_of_mem kept.sealed) opened
  rw [accepts'] at uuid
  cases uuid
  exact buildAAD_accepted google accepts accepts' aad

/-- Two texts of one UUID are one node exactly when they have one form. In any run, what is sealed
under the first text is unsealed under the second then, and only then. -/
theorem uuid_spellings_iff (env : Env) (google : env.GoogleUuid) (lowers : env.Lowers)
    (merges : env.upstream.Merges) (secrets : SecretStore) (stored : WellStored secrets)
    (before : (system env).Run (initial secrets) actions s) (fresh : Fresh s draw)
    (waiting : s.pending.lookup ticket = some p)
    (returned : sealWrite env s.secrets available draw p.accepted p.seen = .ok (text,next))
    (after : (system env).Run (step env s (.sealWrite ticket draw available)) later t)
    (untouched : ∀ change, Action.external change ∈ later → change.name ≠ secretName p.accepted.nodeUUID)
    (ideal : Aead.Ideal env.gcm (t.sealed.map Sealed.call))
    (order : Map String Bytes → List String) (visits : ∀ data, (order data).Perm data.keys)
    (ctx : Context) (req req' : Request) (accepts : validateNodeUUID env req = .ok p.accepted.nodeUUID)
    (accepts' : validateNodeUUID env req' = .ok u) (denotes : uuidValue p.accepted.nodeUUID = uuidValue u)
    (address : extractClientIP ctx = .ok p.accepted.clientIP) (data : req'.data = text) :
    (secretName p.accepted.nodeUUID = secretName u ∧
      (∀ nonce ip, buildAAD p.accepted.nodeUUID nonce ip = buildAAD u nonce ip) ∧
      unsealData env t.secrets true order ctx req' = .ok p.accepted.data ↔
        uuidForm p.accepted.nodeUUID = uuidForm u) ∧
    (unsealData env t.secrets true order ctx req' = .ok p.accepted.data →
      uuidForm p.accepted.nodeUUID = uuidForm u) := by
  obtain ⟨rfl,sound,kept⟩ := sealWrite_kept merges stored before fresh waiting returned after untouched
  have only (done : unsealData env t.secrets true order ctx req' = .ok p.accepted.data) :
      uuidForm p.accepted.nodeUUID = uuidForm u := by
    have node : p.accepted.nodeUUID = u :=
      unseal_kept_node google sound kept ideal visits accepts accepts' data done
    rw [node]
  refine ⟨⟨fun together => only together.2.2,?_⟩,only⟩
  intro forms
  obtain ⟨form,value,found⟩ := parsed_of_accepts google accepts
  obtain ⟨form',value',found'⟩ := parsed_of_accepts google accepts'
  simp only [uuidForm,uuidValue,found,found',Option.map_some,Option.some.injEq] at forms denotes
  subst forms denotes
  have node : p.accepted.nodeUUID = u := bytes_injective
    (Uuid.parse_injective found found' (lowered_accepted lowers accepts) (lowered_accepted lowers accepts'))
  refine ⟨by rw [node],by simp [node],?_⟩
  exact unseal_kept sound kept ideal visits (node ▸ accepts') address data

def upperUUID : String := "550E8400-E29B-41D4-A716-446655440000"

/-- The ciphertext of the sample Seal. -/
def spellingText : Bytes := Sealed.ciphertext spellingEnv.gcm ⟨sampleDraw,sampleAccepted⟩

def spellingState : State :=
  step spellingEnv (initial Store.empty) (.sealGet 0 sampleContext ⟨sampleUUID,[7,8,9]⟩ true)

theorem uuid_spellings_upper :
    unsealData spellingEnv (step spellingEnv spellingState (.sealWrite 0 sampleDraw true)).secrets true
      (fun data => data.keys) sampleContext ⟨upperUUID,spellingText⟩ = .ok [7,8,9] := by
  have reached : spellingState = ⟨Store.empty,(∅ : Map Nat Pending).insert 0 ⟨sampleAccepted,none⟩,[],[],[]⟩ := by
    rfl
  have fresh : Fresh spellingState sampleDraw := by
    rw [reached]
    exact ⟨by simp,by simp,by simp,by simp⟩
  have before : (system spellingEnv).Run (initial Store.empty)
      [.sealGet 0 sampleContext ⟨sampleUUID,[7,8,9]⟩ true] spellingState := System.Run.single trivial
  have ideal : Aead.Ideal spellingEnv.gcm
      ((step spellingEnv spellingState (.sealWrite 0 sampleDraw true)).sealed.map Sealed.call) :=
    Aead.tabulated_ideal _ (List.nodup_singleton _)
  have waiting : spellingState.pending.lookup 0 = some ⟨sampleAccepted,none⟩ := rfl
  have accepts : validateNodeUUID spellingEnv ⟨sampleUUID,[7,8,9]⟩ = .ok sampleUUID := by decide +kernel
  have accepts' : validateNodeUUID spellingEnv ⟨upperUUID,spellingText⟩ = .ok sampleUUID := by decide +kernel
  have address : extractClientIP sampleContext = .ok "10.0.0.1" := by decide
  exact ((uuid_spellings_iff spellingEnv spellingEnv_googleUuid spellingEnv_lowers sampleUpstream_merges
    Store.empty (by simp [WellStored]) before fresh waiting rfl .nil (by simp) ideal _ (fun _ => .refl _)
    sampleContext ⟨sampleUUID,[7,8,9]⟩ ⟨upperUUID,spellingText⟩ accepts accepts' rfl address rfl).1.mpr rfl).2.2

/-- Sealed under the dashed form, the data is not found under the 32 digits of the same UUID. -/
theorem plain_spelling_apart :
    validateNodeUUID spellingEnv ⟨plainUUID,spellingText⟩ = .ok plainUUID ∧
    uuidValue sampleUUID = uuidValue plainUUID ∧ secretName sampleUUID ≠ secretName plainUUID ∧
    unsealData spellingEnv (step spellingEnv spellingState (.sealWrite 0 sampleDraw true)).secrets true
        (fun data => data.keys) sampleContext ⟨sampleUUID,spellingText⟩ = .ok [7,8,9] ∧
    unsealData spellingEnv (step spellingEnv spellingState (.sealWrite 0 sampleDraw true)).secrets true
        (fun data => data.keys) sampleContext ⟨plainUUID,spellingText⟩ =
      .error (.wrap ("failed to get secret " ++ secretName plainUUID) (.api (.store .notFound))) := by
  refine ⟨by decide +kernel,by decide +kernel,by decide,?_,?_⟩
  · decide +kernel
  · decide +kernel

end Spellings

end Kommodity.Kms
