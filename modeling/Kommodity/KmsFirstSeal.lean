import Kommodity.GoNetText
import Kommodity.ObjectNames
import Kommodity.KmsDurability

/-! The first Seal of a node. It creates the node Secret, and the Secret strategy checks the
name, the labels, the data keys and the size of what it is given. The client address becomes a
label value, and only the dotted form of an address is one. -/
namespace Kommodity.Secrets

open Go Versioned Kubernetes

/-- What the library validators accept: metadata without annotations whose name, namespace and
labels follow the character rules, and data keys that do. -/
structure Upstream.Lawful (up : Upstream) : Prop where
  metadata : ∀ m : ObjectMeta, m.annotations = ∅ → (up.validateObjectMeta m = [] ↔
    DNSSubdomain m.name ∧ DNSLabel m.namespaceName ∧
      ∀ e ∈ m.labels.entries, QualifiedName e.1 ∧ LabelValue e.2)
  dataKey : ∀ key, up.isConfigMapKey key = [] ↔ DataKey key

theorem validateSecret_nil_iff (up : Upstream) (secret : Secret) :
    validateSecret up secret = [] ↔ up.validateObjectMeta secret.metadata = [] ∧
      (∀ key ∈ secret.data.keys, up.isConfigMapKey key = []) ∧
      totalSize secret.data ≤ maxSecretSize := by
  simp only [validateSecret,List.append_eq_nil_iff,List.flatMap_eq_nil_iff,List.map_eq_nil_iff,
    and_assoc]
  refine and_congr_right fun _ => and_congr_right fun _ => ?_
  split
  · next big => simp; omega
  · next small => simp; omega

theorem keys_size_of_lookup {a b : Map String Bytes} (same : ∀ k, a.lookup k = b.lookup k) :
    (∀ k, k ∈ a.keys ↔ k ∈ b.keys) ∧ totalSize a = totalSize b := by
  have perm : a.entries.Perm b.entries := by
    apply List.lookup_ext a.nodupKeys b.nodupKeys
    intro k v
    have here := same k
    simp only [AList.lookup] at here
    rw [here]
  refine ⟨fun k => (perm.map Sigma.fst).mem_iff,?_⟩
  exact (perm.map fun e => e.2.length).sum_nat

theorem totalSize_insert (data : Map String Bytes) (value : Bytes) (absent : k ∉ data) :
    totalSize (data.insert k value) = value.length + totalSize data := by
  rw [totalSize,AList.entries_insert_of_notMem absent]
  rfl

theorem createSecret_ok_iff (up : Upstream) (store : SecretStore) (secret : Secret)
    (free : store.get secret.metadata.name = none) :
    (∃ next, createSecret up store secret = .ok next) ↔
      validateSecret up (prepareForCreate up secret) = [] := by
  simp only [createSecret]
  split
  · next valid => simp [valid,Store.create,free,Except.mapError]
  · next invalid => simpa using invalid

end Kommodity.Secrets

namespace Kommodity.Kms

open Go Go.Net Versioned Secrets Kubernetes

/-- The 36-character text of a UUID: hexadecimal digits with dashes at four places. -/
def CanonicalUUID (s : String) : Prop :=
  s.toList.length = 36 ∧ ∀ p ∈ s.toList.zipIdx,
    if p.2 = 8 ∨ p.2 = 13 ∨ p.2 = 18 ∨ p.2 = 23 then p.1 = '-' else isHex p.1

instance : Decidable (CanonicalUUID s) := by unfold CanonicalUUID; infer_instance

/-- The tag that GCM appends to the encrypted text. -/
def gcmTagSize : Nat := 16

theorem hex_ascii (hex : isHex c) : c.toNat < 128 := by
  have bounded : ∀ last : Char, last.toNat < 128 → c ≤ last → c.toNat < 128 := by
    intro last small below
    have order : c.toNat ≤ last.toNat := below
    omega
  simp only [isHex,fromHexChar] at hex
  split at hex
  · next digit => exact bounded '9' (by decide) digit.2
  · split at hex
    · next lower => exact bounded 'f' (by decide) lower.2
    · split at hex
      · next upper => exact bounded 'F' (by decide) upper.2
      · simp at hex

theorem hex_lower (hex : isHex c) : isLowerAlnum c.toLower ∧ isHex c.toLower := by
  have table : ∀ n : Fin 128, isHex (Char.ofNat n) →
      isLowerAlnum (Char.ofNat n).toLower ∧ isHex (Char.ofNat n).toLower := by
    decide
  have here := table ⟨c.toNat,hex_ascii hex⟩
  rw [Char.ofNat_toNat] at here
  exact here hex

theorem toLower_place (lowerRune : Char → Char) (canonical : CanonicalUUID s)
    (found : (toLower lowerRune s).toList[i]? = some c) :
    if i = 8 ∨ i = 13 ∨ i = 18 ∨ i = 23 then c = '-' else isLowerAlnum c ∧ isHex c := by
  simp only [toLower,String.toList_ofList,List.getElem?_map,Option.map_eq_some_iff] at found
  obtain ⟨source,there,rfl⟩ := found
  have place := canonical.2 (source,i) (List.mem_zipIdx_iff_getElem?.mpr there)
  simp only at place
  split at place
  · next dash => rw [if_pos dash,place]; rfl
  · next digit =>
    have ascii : source.val < 128 := hex_ascii place
    rw [if_neg digit,if_pos ascii]
    exact hex_lower place

theorem toLower_canonical (lowerRune : Char → Char) (canonical : CanonicalUUID s) :
    CanonicalUUID (toLower lowerRune s) := by
  refine ⟨by simp [toLower,canonical.1],?_⟩
  rintro ⟨c,i⟩ member
  have place := toLower_place lowerRune canonical (List.mem_zipIdx_iff_getElem?.mp member)
  simp only at place ⊢
  split at place
  · next dash => rw [if_pos dash]; exact place
  · next digit => rw [if_neg digit]; exact place.2

theorem uuid_bracketed (lowerRune : Char → Char) (canonical : CanonicalUUID s) :
    Bracketed isLowerAlnum isDNSChar (toLower lowerRune s).toList := by
  have size := (toLower_canonical lowerRune canonical).1
  have digit : ∀ i c, i = 0 ∨ i = 35 → (toLower lowerRune s).toList[i]? = some c →
      isLowerAlnum c := by
    intro i c outermost found
    have place := toLower_place lowerRune canonical found
    rw [if_neg (by omega)] at place
    exact place.1
  refine ⟨?_,?_,?_,?_⟩
  · intro empty
    simp [empty] at size
  · intro c member
    obtain ⟨i,bound,rfl⟩ := List.getElem_of_mem member
    have place := toLower_place lowerRune canonical (List.getElem?_eq_getElem bound)
    split at place
    · rw [place]; rfl
    · simp [isDNSChar,place.1]
  · intro c first
    rw [List.head?_eq_getElem?] at first
    exact digit 0 c (.inl rfl) first
  · intro c last
    rw [List.getLast?_eq_getElem?,size] at last
    exact digit 35 c (.inr rfl) last

theorem decimal_bracketed (n : UInt8) :
    Bracketed isLowerAlnum isDNSChar (decimal n) ∧ (decimal n).length ≤ 3 := by
  have table : ∀ m : Fin 256, Bracketed isLowerAlnum isDNSChar (Nat.toDigits 10 m) ∧
      (Nat.toDigits 10 m).length ≤ 3 := by decide +kernel
  exact table ⟨n.toNat,n.toNat_lt⟩

theorem octets_label (o : Octets) : LabelValue o.string := by
  have label : ∀ n : UInt8, Bracketed isAlnum isLabelChar (decimal n) := fun n =>
    (decimal_bracketed n).1.mono (fun _ => isAlnum_of_lower) (fun _ => isLabelChar_of_dns)
  refine .inr ⟨?_,?_⟩
  · have a := (decimal_bracketed o.a).2
    have b := (decimal_bracketed o.b).2
    have c := (decimal_bracketed o.c).2
    have d := (decimal_bracketed o.d).2
    simp only [Octets.string,String.toList_ofList,Octets.toChars,List.length_append,List.length_cons]
    omega
  · simp only [Octets.string,String.toList_ofList,Octets.toChars]
    exact (((label o.a).append (by decide) (label o.b)).append (by decide) (label o.c)).append
      (by decide) (label o.d)

/-- Every other address prints with a colon, which no label value has. -/
theorem ipString_label (address : IP) :
    LabelValue (ipString address) ↔ ∃ octets : Octets, ipString address = octets.string := by
  constructor
  · intro valid
    cases dotted : to4 address with
    | some octets => exact ⟨octets,by simp [ipString,dotted]⟩
    | none =>
      refine absurd valid (not_labelValue_of_mem (c := ':') ?_ (by decide))
      simpa [ipString,dotted] using Groups.colon_mem_toChars address
  · rintro ⟨octets,same⟩
    rw [same]
    exact octets_label octets

theorem secretName_valid (uuid : Bracketed isLowerAlnum isDNSChar nodeUUID.toList)
    (length : nodeUUID.toList.length = 36) : DNSSubdomain (secretName nodeUUID) := by
  have text : (secretName nodeUUID).toList = "talos-kms".toList ++ '-' :: nodeUUID.toList := by
    simp [secretName,secretPrefix]
  apply dnsSubdomain_of_bracketed
  · rw [text]
    exact Bracketed.append (by decide) (by decide) uuid
  · rw [text,List.length_append,List.length_cons,length]
    decide

theorem hexDigit_alnum (n : Nat) (small : n < 16) : isAlnum (hexDigit n) := by
  have table : ∀ n : Fin 16, isAlnum (hexDigit n) := by decide
  exact table ⟨n,small⟩

theorem hexEncode_alnum (data : Bytes) : ∀ c ∈ (hexEncodeToString data).toList, isAlnum c := by
  intro c member
  simp only [hexEncodeToString,String.toList_ofList,List.mem_flatMap,List.mem_cons,
    List.not_mem_nil,or_false] at member
  obtain ⟨b,_,rfl | rfl⟩ := member
  · exact hexDigit_alnum _ (by have := b.toNat_lt; omega)
  · exact hexDigit_alnum _ (Nat.mod_lt _ (by decide))

theorem volumeKey_valid (draw : Draw) (ending : String)
    (inside : ending.toList.all isLabelChar = true) (short : ending.toList.length ≤ 200) :
    DataKey (generateVolumePrefix draw ++ ending) := by
  have length : (generateVolumePrefix draw).toList.length = 16 := by
    rw [generateVolumePrefix,hexEncodeToString_length,draw.volume_length]
    rfl
  obtain ⟨c,rest,text⟩ := List.exists_cons_of_length_pos
    (show 0 < (generateVolumePrefix draw).toList.length by omega)
  have alnum := hexEncode_alnum draw.volume
  rw [← generateVolumePrefix] at alnum
  apply dataKey_of_first (c := c)
  · simp [text]
  · exact alnum c (by simp [text])
  · intro d member
    rw [String.toList_append,List.mem_append] at member
    rcases member with left | right
    · simp [isLabelChar,alnum d left]
    · exact List.all_eq_true.mp inside d right
  · rw [String.toList_append,List.length_append,length]
    omega

theorem nodeSecret_keys (member : k ∈ (nodeSecret nodeUUID peerIP draw text).data.keys) :
    DataKey k := by
  have cases_ : k = generateVolumePrefix draw ++ luksKeySuffix ∨
      k = generateVolumePrefix draw ++ nonceSuffix ∨
      k = generateVolumePrefix draw ++ keySuffix ∨ k = sealedFromIPKey := by
    rw [← AList.mem_keys] at member
    simpa only [nodeSecret,AList.mem_insert,AList.notMem_empty,or_false] using member
  rcases cases_ with rfl | rfl | rfl | rfl
  · exact volumeKey_valid draw _ (by decide) (by decide)
  · exact volumeKey_valid draw _ (by decide) (by decide)
  · exact volumeKey_valid draw _ (by decide) (by decide)
  · decide

theorem nodeSecret_size (nodeUUID peerIP : String) (draw : Draw) (text : Bytes) :
    totalSize (nodeSecret nodeUUID peerIP draw text).data =
      text.length + (aadNonceSize + (keySize + ((bytes peerIP).length + 0))) := by
  simp only [nodeSecret]
  rw [totalSize_insert,totalSize_insert,totalSize_insert,totalSize_insert,draw.aadNonce_length,
    draw.key_length]
  · rfl
  · exact AList.notMem_empty _
  · simp only [AList.mem_insert,AList.notMem_empty,or_false]
    exact (sealedFromIPKey_ne _ keySuffix (.inl rfl)).symm
  · simp only [AList.mem_insert,AList.notMem_empty,or_false,not_or]
    exact ⟨(keySuffix_ne_nonceSuffix _ _).symm,
      (sealedFromIPKey_ne _ nonceSuffix (.inr (.inl rfl))).symm⟩
  · simp only [AList.mem_insert,AList.notMem_empty,or_false,not_or]
    exact ⟨(nonceSuffix_ne_luksKeySuffix _ _).symm,(keySuffix_ne_luksKeySuffix _ _).symm,
      (sealedFromIPKey_ne _ luksKeySuffix (.inr (.inr rfl))).symm⟩

/-- Of all that the strategy checks, only the address label can be at fault. -/
theorem nodeSecret_valid_iff {up : Upstream} (merges : up.Merges) (lawful : up.Lawful)
    (uuid : Bracketed isLowerAlnum isDNSChar nodeUUID.toList)
    (length : nodeUUID.toList.length = 36)
    (fits : totalSize (nodeSecret nodeUUID peerIP draw text).data ≤ maxSecretSize) :
    validateSecret up (prepareForCreate up (nodeSecret nodeUUID peerIP draw text)) = [] ↔
      LabelValue peerIP := by
  have same : ∀ k, (prepareForCreate up (nodeSecret nodeUUID peerIP draw text)).data.lookup k =
      (nodeSecret nodeUUID peerIP draw text).data.lookup k := by
    intro k
    rw [prepareForCreate_lookup merges]
    simp [nodeSecret]
  obtain ⟨keys,size⟩ := keys_size_of_lookup same
  have labels : (getKommodityLabels nodeUUID peerIP).entries =
      [⟨"talos.dev/node-ip",peerIP⟩,⟨"talos.dev/node-uuid",nodeUUID⟩,
        ⟨managedByLabel,"kommodity"⟩] := rfl
  rw [validateSecret_nil_iff,prepareForCreate_metadata,lawful.metadata _ rfl,size]
  constructor
  · rintro ⟨⟨_,_,valid⟩,_⟩
    exact (valid ⟨"talos.dev/node-ip",peerIP⟩ (by simp [nodeSecret,labels])).2
  · intro address
    have space : DNSLabel kommodityNamespace := by decide
    have ipName : QualifiedName "talos.dev/node-ip" := by decide
    have uuidName : QualifiedName "talos.dev/node-uuid" := by decide
    have uuidLabel : LabelName nodeUUID := labelName_of_dns uuid (by omega)
    refine ⟨⟨secretName_valid uuid length,space,?_⟩,?_,fits⟩
    · intro e member
      simp only [nodeSecret,labels,List.mem_cons,List.not_mem_nil,or_false] at member
      rcases member with rfl | rfl | rfl
      · exact ⟨ipName,address⟩
      · exact ⟨uuidName,.inr uuidLabel⟩
      · exact ⟨by decide,by decide⟩
    · intro k member
      exact (lawful.dataKey k).mpr (nodeSecret_keys ((keys k).mp member))

/-- The first Seal of a node goes through exactly for clients whose address has an IPv4 form. -/
theorem first_seal_succeeds_iff (env : Env) (merges : env.upstream.Merges)
    (lawful : env.upstream.Lawful)
    (tag : ∀ key nonce plaintext aad,
      (env.gcm.sealText key nonce plaintext aad).length = plaintext.length + gcmTagSize)
    (parses : ∀ s, CanonicalUUID s → env.uuidParse s) (store : SecretStore) (draw : Draw)
    (ctx : Context) (req : Request) (canonical : CanonicalUUID req.nodeUuid)
    (nonempty : req.data.length ≠ 0) (address : extractClientIP ctx = .ok ip)
    (fits : gcmNonceSize + req.data.length + gcmTagSize + aadNonceSize + keySize +
      (bytes ip).length ≤ maxSecretSize)
    (absent : store.get (secretName (toLower env.lowerRune req.nodeUuid)) = none) :
    (∃ text next, sealData env store true draw ctx req = .ok (text,next)) ↔
      ∃ octets : Octets, ip = octets.string := by
  have lower := toLower_canonical env.lowerRune canonical
  have uuid : validateNodeUUID env req = .ok (toLower env.lowerRune req.nodeUuid) := by
    have named : toLower env.lowerRune req.nodeUuid ≠ "" := by
      intro empty
      have length := lower.1
      simp [empty] at length
    simp [validateNodeUUID,named,parses _ lower]
  obtain ⟨parsed,rfl⟩ := extractClientIP_address address
  rw [← ipString_label parsed]
  generalize ipString parsed = ip at *
  have free : sealGet store true ⟨toLower env.lowerRune req.nodeUuid,ip,req.data⟩ = .ok none := by
    simp [sealGet,request,getSecret,absent,APIError.isNotFound]
  have size : totalSize (nodeSecret (toLower env.lowerRune req.nodeUuid) ip draw
      (draw.gcmNonce ++ env.gcm.sealText draw.key draw.gcmNonce req.data
        (buildAAD (toLower env.lowerRune req.nodeUuid) draw.aadNonce ip))).data ≤
      maxSecretSize := by
    rw [nodeSecret_size,List.length_append,tag,draw.gcmNonce_length]
    omega
  rw [← nodeSecret_valid_iff merges lawful (uuid_bracketed env.lowerRune canonical) lower.1 size,
    ← createSecret_ok_iff _ store _ absent]
  simp only [sealData,acceptRequest_ok uuid address nonempty,free,sealWrite,createNodeSecret,
    encrypt_ok env.gcm _ _ _ draw.key_length,request,↓reduceIte]
  split
  · next refused => simp [refused,Except.mapError]
  · next next accepted => simp [accepted,Except.mapError]

/-- The character rules as the validators apply them, one error for each broken rule. -/
def strictUpstream : Upstream where
  convert := sampleUpstream.convert
  validateObjectMeta m :=
    (if DNSSubdomain m.name then [] else [.invalid "metadata.name" m.name "RFC 1123 subdomain"]) ++
    (if DNSLabel m.namespaceName then []
      else [.invalid "metadata.namespace" m.namespaceName "RFC 1123 label"]) ++
    m.labels.entries.flatMap fun e =>
      (if QualifiedName e.1 then [] else [.invalid "metadata.labels" e.1 "qualified name"]) ++
      (if LabelValue e.2 then [] else [.invalid "metadata.labels" e.2 "label value"])
  validateObjectMetaUpdate _ _ := []
  isConfigMapKey key := if DataKey key then [] else ["config map key"]

theorem strictUpstream_lawful : strictUpstream.Lawful := by
  refine ⟨?_,?_⟩
  · intro m _
    simp [strictUpstream,List.append_eq_nil_iff,List.flatMap_eq_nil_iff]
  · intro key
    simp [strictUpstream]

def strictEnv : Env where
  gcm := sampleEnv.gcm
  upstream := strictUpstream
  uuidParse s := CanonicalUUID s
  lowerRune c := c

def forwardedFrom (address : String) : Context :=
  ⟨some ((∅ : Map String (List String)).insert headerXForwardedFor [address]),none⟩

/-- A node with an IPv6 address cannot seal its first volume. -/
theorem first_seal_ipv6_refused :
    strictUpstream.Lawful ∧ strictUpstream.Merges ∧ CanonicalUUID sampleUUID ∧
    extractClientIP (forwardedFrom "2001:db8::1") = .ok "2001:db8::1" ∧
    (sealData strictEnv Store.empty true sampleDraw (forwardedFrom "2001:db8::1")
      ⟨sampleUUID,[7,8,9]⟩).isOk = false :=
  ⟨strictUpstream_lawful,sampleUpstream_merges,by decide,by decide,by decide⟩

theorem first_seal_ipv4_accepted :
    ∃ text next, sealData strictEnv Store.empty true sampleDraw (forwardedFrom "10.0.0.1")
      ⟨sampleUUID,[7,8,9]⟩ = .ok (text,next) := by
  refine (first_seal_succeeds_iff strictEnv sampleUpstream_merges strictUpstream_lawful ?_ ?_
    Store.empty sampleDraw (forwardedFrom "10.0.0.1") ⟨sampleUUID,[7,8,9]⟩ (by decide) (by decide)
    (show extractClientIP (forwardedFrom "10.0.0.1") = .ok "10.0.0.1" by decide) (by decide)
    rfl).mpr ⟨⟨10,0,0,1⟩,by decide⟩
  · intro key nonce plaintext aad
    simp [strictEnv,sampleEnv,gcmTagSize,Aead.tabulated]
  · intro s canonical
    simpa [strictEnv] using canonical

end Kommodity.Kms
