import Kommodity.KmsServer

/-! The key sets that `Unseal` reads back from the flat data map of a node Secret, for every
order in which the map is visited, and what trial decryption over them returns. -/
namespace Kommodity.Kms

open Go Versioned Secrets

theorem keySuffix_ne_nonceSuffix (v w : String) : v ++ keySuffix ≠ w ++ nonceSuffix := by
  intro same
  have lists := congrArg (fun s => s.toList.getLast?) same
  simp [keySuffix,nonceSuffix] at lists

theorem nonceSuffix_ne_luksKeySuffix (v w : String) : v ++ nonceSuffix ≠ w ++ luksKeySuffix := by
  intro same
  have lists := congrArg (fun s => s.toList.getLast?) same
  simp [nonceSuffix,luksKeySuffix] at lists

theorem keySuffix_ne_luksKeySuffix (v w : String) : v ++ keySuffix ≠ w ++ luksKeySuffix := by
  intro same
  have lists := congrArg (fun s => s.toList.reverse[3]?) same
  simp [keySuffix,luksKeySuffix] at lists

theorem sealedFromIPKey_ne (v ending : String)
    (known : ending = keySuffix ∨ ending = nonceSuffix ∨ ending = luksKeySuffix) :
    sealedFromIPKey ≠ v ++ ending := by
  intro same
  have lists := congrArg (fun s => s.toList.getLast?) same
  rcases known with rfl | rfl | rfl <;>
    simp [sealedFromIPKey,keySuffix,nonceSuffix,luksKeySuffix] at lists

/-- The key set stored under a prefix, when the three entries have their sizes. -/
structure Stored (data : Map String Bytes) (ks : VolumeKeySet) : Prop where
  named : ks.volumePrefix ≠ ""
  key : data.index (ks.volumePrefix ++ keySuffix) = ks.encryptionKey
  nonce : data.index (ks.volumePrefix ++ nonceSuffix) = ks.aadNonce
  luksKey : data.index (ks.volumePrefix ++ luksKeySuffix) = ks.luksKey
  keyLength : ks.encryptionKey.length = keySize
  nonceLength : ks.aadNonce.length = aadNonceSize
  luksKeyLength : ks.luksKey.length ≠ 0

/-- The loop has collected exactly the stored sets whose prefix it has seen. -/
structure Collected (data : Map String Bytes) (acc : List VolumeKeySet × List String) : Prop where
  sound : ∀ ks ∈ acc.1, Stored data ks
  complete : ∀ ks, Stored data ks → ks.volumePrefix ∈ acc.2 → ks ∈ acc.1

theorem Stored.ext {data : Map String Bytes} {a b : VolumeKeySet} (ha : Stored data a)
    (hb : Stored data b) (same : a.volumePrefix = b.volumePrefix) : a = b := by
  have key := hb.key
  have nonce := hb.nonce
  have luksKey := hb.luksKey
  rw [← same,ha.key] at key
  rw [← same,ha.nonce] at nonce
  rw [← same,ha.luksKey] at luksKey
  cases a; cases b
  simp_all

theorem parseVolumeKey_collected (data : Map String Bytes) (acc : List VolumeKeySet × List String)
    (k : String) (valid : Collected data acc) : Collected data (parseVolumeKey data acc k) := by
  simp only [parseVolumeKey]
  split
  · exact valid
  · split
    · exact valid
    · next unseen =>
      rw [not_or] at unseen
      split
      · next short =>
        refine ⟨valid.sound,?_⟩
        intro ks stored seen
        rcases List.mem_cons.mp seen with here | earlier
        · have key := stored.key
          have nonce := stored.nonce
          have luksKey := stored.luksKey
          rw [here] at key nonce luksKey
          rw [key,nonce,luksKey] at short
          have := stored.keyLength
          have := stored.nonceLength
          have := stored.luksKeyLength
          tauto
        · exact valid.complete ks stored earlier
      · next full =>
        rw [not_or,not_or,not_not,not_not] at full
        have stored : Stored data ⟨trimSuffix k keySuffix,data.index (trimSuffix k keySuffix ++ keySuffix),
            data.index (trimSuffix k keySuffix ++ nonceSuffix),
            data.index (trimSuffix k keySuffix ++ luksKeySuffix)⟩ :=
          ⟨unseen.1,rfl,rfl,rfl,full.1,full.2.1,full.2.2⟩
        refine ⟨?_,?_⟩
        · intro ks member
          rcases List.mem_append.mp member with old | new
          · exact valid.sound ks old
          · rw [List.mem_singleton.mp new]; exact stored
        · intro ks other seen
          rcases List.mem_cons.mp seen with here | earlier
          · rw [Stored.ext other stored here]; simp
          · exact List.mem_append_left _ (valid.complete ks other earlier)

theorem parseVolumeKey_seen (data : Map String Bytes) (acc : List VolumeKeySet × List String)
    (k v : String) (nonempty : v ≠ "") (seen : v ∈ acc.2 ∨ k = v ++ keySuffix) :
    v ∈ (parseVolumeKey data acc k).2 := by
  simp only [parseVolumeKey]
  rcases seen with seen | rfl
  · split_ifs <;> simp [seen]
  · simp only [hasSuffix_append,trimSuffix_append,not_true_eq_false,↓reduceIte,nonempty,false_or]
    split_ifs with known <;> simp [known]

theorem parse_fold (data : Map String Bytes) (order : List String)
    (acc : List VolumeKeySet × List String) (valid : Collected data acc) :
    Collected data (order.foldl (parseVolumeKey data) acc) ∧
    ∀ v, v ≠ "" → (v ∈ acc.2 ∨ v ++ keySuffix ∈ order) →
      v ∈ (order.foldl (parseVolumeKey data) acc).2 := by
  induction order generalizing acc with
  | nil => exact ⟨valid,fun v _ seen => by simpa using seen⟩
  | cons k rest ih =>
    obtain ⟨collected,seen⟩ := ih _ (parseVolumeKey_collected data acc k valid)
    refine ⟨collected,?_⟩
    intro v nonempty known
    apply seen v nonempty
    rcases known with old | listed
    · exact .inl (parseVolumeKey_seen data acc k v nonempty (.inl old))
    · rcases List.mem_cons.mp listed with here | later
      · exact .inl (parseVolumeKey_seen data acc k v nonempty (.inr here.symm))
      · exact .inr later

/-- Exactly the stored key sets are parsed, in whatever order the map is visited. -/
theorem mem_parseVolumeKeySets (data : Map String Bytes) (order : List String)
    (visits : order.Perm data.keys) (ks : VolumeKeySet) :
    ks ∈ parseVolumeKeySets data order ↔ Stored data ks := by
  obtain ⟨collected,seen⟩ := parse_fold data order ([],[]) ⟨by simp,by simp⟩
  constructor
  · exact collected.sound ks
  · intro stored
    apply collected.complete ks stored
    apply seen _ stored.named
    right
    rw [visits.mem_iff]
    cases found : data.lookup (ks.volumePrefix ++ keySuffix) with
    | some value => exact Map.mem_of_lookup found
    | none =>
      have key := stored.key
      have length := stored.keyLength
      simp [Map.index,found] at key
      simp [← key,keySize] at length

theorem newCipher_ok (key : Bytes) (size : key.length = keySize) : newCipher key = .ok () := by
  simp [newCipher,size,keySize]

theorem encrypt_ok (gcm : Gcm) (nonce plaintext aad : Bytes) (size : key.length = keySize) :
    encrypt gcm nonce key plaintext aad = .ok (nonce ++ gcm.sealText key nonce plaintext aad) := by
  simp [encrypt,newCipher_ok key size]

theorem decrypt_ok_iff (gcm : Gcm) (size : key.length = keySize)
    (long : gcmNonceSize ≤ encryptedtext.length) :
    decrypt gcm key encryptedtext aad = .ok plaintext ↔
      gcm.openText key (encryptedtext.take gcmNonceSize) (encryptedtext.drop gcmNonceSize) aad =
        some plaintext := by
  rw [decrypt,newCipher_ok key size]
  simp only [Nat.not_lt.mpr long,↓reduceIte]
  split <;> simp_all

theorem decrypt_long (opened : decrypt gcm key encryptedtext aad = .ok plaintext) :
    gcmNonceSize ≤ encryptedtext.length := by
  unfold decrypt at opened
  split at opened
  · simp at opened
  · split at opened
    · simp at opened
    · next long => omega

theorem tryKeySets_origin {sets : List VolumeKeySet}
    (found : tryKeySets env nodeUUID clientIP data sets = some plaintext) :
    ∃ ks ∈ sets, decrypt env.gcm ks.encryptionKey data (buildAAD nodeUUID ks.aadNonce clientIP) =
      .ok plaintext := by
  induction sets with
  | nil => simp [tryKeySets] at found
  | cons ks rest ih =>
    simp only [tryKeySets] at found
    split at found
    · next opened => cases found; exact ⟨ks,List.mem_cons_self ..,opened⟩
    · obtain ⟨other,member,opened⟩ := ih found
      exact ⟨other,List.mem_cons_of_mem _ member,opened⟩

/-- When some key set opens the data and none opens it to anything else, the order of the sets
does not matter. -/
theorem tryKeySets_agrees {sets : List VolumeKeySet} (member : ks ∈ sets)
    (opens : decrypt env.gcm ks.encryptionKey data (buildAAD nodeUUID ks.aadNonce clientIP) =
      .ok plaintext)
    (agree : ∀ other ∈ sets, ∀ text, decrypt env.gcm other.encryptionKey data
      (buildAAD nodeUUID other.aadNonce clientIP) = .ok text → text = plaintext) :
    tryKeySets env nodeUUID clientIP data sets = some plaintext := by
  induction sets with
  | nil => simp at member
  | cons head rest ih =>
    simp only [tryKeySets]
    split
    · next text opened => rw [agree head (List.mem_cons_self ..) text opened]
    · next failed =>
      rcases List.mem_cons.mp member with rfl | later
      · simp [opens] at failed
      · exact ih later (fun other listed => agree other (List.mem_cons_of_mem _ listed))

theorem generateVolumePrefix_ne (draw : Draw) : generateVolumePrefix draw ≠ "" := by
  intro empty
  have length := hexEncodeToString_length draw.volume
  rw [show hexEncodeToString draw.volume = "" from empty,draw.volume_length] at length
  exact absurd length (by decide)

theorem withVolume_lookup (secret : Secret) (draw : Draw) (encryptedData : Bytes) (k : String) :
    (withVolume secret draw encryptedData).data.lookup k =
      if k = generateVolumePrefix draw ++ luksKeySuffix then some encryptedData
      else if k = generateVolumePrefix draw ++ nonceSuffix then some draw.aadNonce
      else if k = generateVolumePrefix draw ++ keySuffix then some draw.key
      else secret.data.lookup k := by
  simp only [withVolume,Map.lookup_insert_eq]

theorem withVolume_key (secret : Secret) (draw : Draw) (encryptedData : Bytes) :
    (withVolume secret draw encryptedData).data.lookup (generateVolumePrefix draw ++ keySuffix) =
      some draw.key := by
  rw [withVolume_lookup,if_neg (keySuffix_ne_luksKeySuffix _ _),if_neg (keySuffix_ne_nonceSuffix _ _),
    if_pos rfl]

theorem withVolume_nonce (secret : Secret) (draw : Draw) (encryptedData : Bytes) :
    (withVolume secret draw encryptedData).data.lookup (generateVolumePrefix draw ++ nonceSuffix) =
      some draw.aadNonce := by
  rw [withVolume_lookup,if_neg (nonceSuffix_ne_luksKeySuffix _ _),if_pos rfl]

theorem withVolume_luksKey (secret : Secret) (draw : Draw) (encryptedData : Bytes) :
    (withVolume secret draw encryptedData).data.lookup (generateVolumePrefix draw ++ luksKeySuffix) =
      some encryptedData := by
  rw [withVolume_lookup,if_pos rfl]

theorem withVolume_sealedFromIP (secret : Secret) (draw : Draw) (encryptedData : Bytes) :
    (withVolume secret draw encryptedData).data.lookup sealedFromIPKey =
      secret.data.lookup sealedFromIPKey := by
  rw [withVolume_lookup]
  simp [sealedFromIPKey_ne _ luksKeySuffix (by simp),sealedFromIPKey_ne _ nonceSuffix (by simp),
    sealedFromIPKey_ne _ keySuffix (by simp)]

@[simp] theorem withVolume_metadata (secret : Secret) (draw : Draw) (encryptedData : Bytes) :
    (withVolume secret draw encryptedData).metadata = secret.metadata := rfl

/-- The node Secret before its first volume: only the address. -/
def bareSecret (nodeUUID peerIP : String) : Secret where
  metadata := ⟨secretName nodeUUID,kommodityNamespace,getKommodityLabels nodeUUID peerIP,∅⟩
  type := "Opaque"
  data := (∅ : Map String Bytes).insert sealedFromIPKey (bytes peerIP)
  stringData := ∅
  immutable := none

theorem nodeSecret_eq (nodeUUID peerIP : String) (draw : Draw) (encryptedData : Bytes) :
    nodeSecret nodeUUID peerIP draw encryptedData =
      withVolume (bareSecret nodeUUID peerIP) draw encryptedData := rfl

theorem bareSecret_lookup (nodeUUID peerIP k : String) :
    (bareSecret nodeUUID peerIP).data.lookup k =
      if k = sealedFromIPKey then some (bytes peerIP) else none := by
  simp only [bareSecret,Map.lookup_insert_eq,Map.lookup_empty]

end Kommodity.Kms
