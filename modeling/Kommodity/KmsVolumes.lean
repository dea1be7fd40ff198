import Kommodity.KmsDurability

/-! The key sets of a node Secret, one for each volume that was sealed. Three kinds of data keys share
the names of the data map with the address and with each other, and are told apart by their endings
alone. -/
namespace Kommodity.Kms

open Go Versioned Secrets

section Parsing

/-- The sets that the loop has found have prefixes that it has seen, each once. -/
structure Listed (acc : List VolumeKeySet × List String) : Prop where
  once : (acc.1.map VolumeKeySet.volumePrefix).Nodup
  seen : ∀ ks ∈ acc.1, ks.volumePrefix ∈ acc.2

theorem parseVolumeKey_listed (data : Map String Bytes) (k : String) (listed : Listed acc) :
    Listed (parseVolumeKey data acc k) := by
  have later (volume : String) : ∀ ks ∈ acc.1, ks.volumePrefix ∈ volume :: acc.2 :=
    fun ks member => List.mem_cons_of_mem _ (listed.seen ks member)
  simp only [parseVolumeKey]
  split
  · exact listed
  · split
    · exact listed
    · next unseen =>
      rw [not_or] at unseen
      split
      · exact ⟨listed.once,later _⟩
      · refine ⟨?_,?_⟩
        · rw [List.map_append,List.map_singleton,← List.concat_eq_append,List.nodup_concat]
          refine ⟨?_,listed.once⟩
          intro found
          obtain ⟨ks,member,same⟩ := List.mem_map.mp found
          have seen := listed.seen ks member
          rw [same] at seen
          exact unseen.2 seen
        · rw [List.forall_mem_append,List.forall_mem_singleton]
          exact ⟨later _,List.mem_cons_self⟩

theorem parseVolumeKeySets_nodup (data : Map String Bytes) (order : List String) :
    ((parseVolumeKeySets data order).map VolumeKeySet.volumePrefix).Nodup := by
  have whole (acc : List VolumeKeySet × List String) (listed : Listed acc) :
      Listed (order.foldl (parseVolumeKey data) acc) := by
    induction order generalizing acc with
    | nil => exact listed
    | cons k rest ih => exact ih _ (parseVolumeKey_listed data k listed)
  exact (whole ([],[]) ⟨by simp,by simp⟩).once

theorem lookup_of_index {data : Map String Bytes} (indexed : data.index k = v) (filled : v.length ≠ 0) :
    data.lookup k = some v := by
  unfold Map.index at indexed
  cases found : data.lookup k with
  | some w => rw [found,Option.getD_some] at indexed; rw [indexed]
  | none =>
    rw [found,Option.getD_none] at indexed
    rw [← indexed] at filled
    exact absurd rfl filled

theorem stored_iff (data : Map String Bytes) (ks : VolumeKeySet) : Stored data ks ↔ ks.volumePrefix ≠ "" ∧
    (data.lookup (ks.volumePrefix ++ keySuffix) = some ks.encryptionKey ∧ ks.encryptionKey.length = keySize) ∧
    (data.lookup (ks.volumePrefix ++ nonceSuffix) = some ks.aadNonce ∧ ks.aadNonce.length = aadNonceSize) ∧
    (data.lookup (ks.volumePrefix ++ luksKeySuffix) = some ks.luksKey ∧ ks.luksKey ≠ []) := by
  constructor
  · intro stored
    have key : ks.encryptionKey.length ≠ 0 := by rw [stored.keyLength]; decide
    have nonce : ks.aadNonce.length ≠ 0 := by rw [stored.nonceLength]; decide
    refine ⟨stored.named,⟨lookup_of_index stored.key key,stored.keyLength⟩,
      ⟨lookup_of_index stored.nonce nonce,stored.nonceLength⟩,
      lookup_of_index stored.luksKey stored.luksKeyLength,?_⟩
    exact fun empty => stored.luksKeyLength (List.length_eq_zero_iff.mpr empty)
  · rintro ⟨named,⟨key,keyLength⟩,⟨nonce,nonceLength⟩,luksKey,filled⟩
    exact ⟨named,Map.index_of_lookup key,Map.index_of_lookup nonce,Map.index_of_lookup luksKey,keyLength,
      nonceLength,fun zero => filled (List.length_eq_zero_iff.mp zero)⟩

end Parsing

section Sealing

/-- One `createNodeSecret` and any number of `addVolumeToSecret` after it, each on the Secret that is
stored by then, with what they have drawn and the store they leave. -/
inductive Seals (env : Env) (nodeUUID : String) : List Draw → SecretStore → Prop where
  | create (done : createNodeSecret env store available draw nodeUUID peerIP plaintext = .ok (text,next)) :
      Seals env nodeUUID [draw] next
  | add (before : Seals env nodeUUID draws store) (read : store.get (secretName nodeUUID) = some e)
      (done : addVolumeToSecret env store available draw e nodeUUID peerIP plaintext = .ok (text,next)) :
      Seals env nodeUUID (draws ++ [draw]) next

/-- The data has a key set for every draw, and no other key with the ending of one. -/
structure Volumes (draws : List Draw) (data : Map String Bytes) : Prop where
  stored : ∀ draw ∈ draws, ∃ ks, Stored data ks ∧ ks.volumePrefix = generateVolumePrefix draw
  only : ∀ volume v, data.lookup (volume ++ keySuffix) = some v → volume ∈ draws.map generateVolumePrefix

theorem withVolume_lookup_other (secret : Secret) (text : Bytes) (apart : volume ≠ generateVolumePrefix draw)
    (known : ending = keySuffix ∨ ending = nonceSuffix ∨ ending = luksKeySuffix) :
    (withVolume secret draw text).data.lookup (volume ++ ending) = secret.data.lookup (volume ++ ending) := by
  rw [withVolume_lookup]
  rcases known with rfl | rfl | rfl
  · rw [if_neg (keySuffix_ne_luksKeySuffix _ _),if_neg (keySuffix_ne_nonceSuffix _ _),
      if_neg (mt (String.append_left_inj _).mp apart)]
  · rw [if_neg (nonceSuffix_ne_luksKeySuffix _ _),if_neg (mt (String.append_left_inj _).mp apart),
      if_neg (keySuffix_ne_nonceSuffix _ _).symm]
  · rw [if_neg (mt (String.append_left_inj _).mp apart),if_neg (nonceSuffix_ne_luksKeySuffix _ _).symm,
      if_neg (keySuffix_ne_luksKeySuffix _ _).symm]

theorem Volumes.add {base : Secret} {data : Map String Bytes} (volumes : Volumes draws base.data)
    (filled : text ≠ []) (written : ∀ k, data.lookup k = (withVolume base draw text).data.lookup k) :
    Volumes (draws ++ [draw]) data := by
  have here : Stored data ⟨generateVolumePrefix draw,draw.key,draw.aadNonce,text⟩ := by
    rw [stored_iff]
    simp only [written,withVolume_key,withVolume_nonce,withVolume_luksKey,true_and]
    exact ⟨generateVolumePrefix_ne draw,draw.key_length,draw.aadNonce_length,filled⟩
  refine ⟨?_,?_⟩
  · intro other member
    by_cases same : generateVolumePrefix other = generateVolumePrefix draw
    · exact ⟨_,here,same.symm⟩
    · have earlier : other ∈ draws := by
        rcases List.mem_append.mp member with old | new
        · exact old
        · rw [List.mem_singleton.mp new] at same
          exact absurd rfl same
      obtain ⟨ks,stored,named⟩ := volumes.stored other earlier
      refine ⟨ks,?_,named⟩
      rw [← named] at same
      rw [stored_iff] at stored ⊢
      simpa only [written,withVolume_lookup_other base text same (.inl rfl),
        withVolume_lookup_other base text same (.inr (.inl rfl)),
        withVolume_lookup_other base text same (.inr (.inr rfl))] using stored
  · intro volume v found
    rw [List.map_append,List.mem_append]
    by_cases same : volume = generateVolumePrefix draw
    · exact .inr (by simp [same])
    · rw [written,withVolume_lookup_other base text same (.inl rfl)] at found
      exact .inl (volumes.only volume v found)

theorem createNodeSecret_free
    (done : createNodeSecret env store available draw nodeUUID peerIP plaintext = .ok (text,next)) :
    store.get (secretName nodeUUID) = none := by
  simp only [createNodeSecret,encrypt_ok env.gcm _ _ _ draw.key_length] at done
  split at done
  · simp at done
  · next accepts => exact (createSecret_ok (request_ok accepts)).1

theorem Sealed.ciphertext_ne (gcm : Gcm) (σ : Sealed) : σ.ciphertext gcm ≠ [] := by
  intro empty
  have long := σ.ciphertext_long gcm
  rw [empty] at long
  exact absurd long (by decide)

theorem Seals.volumes (merges : env.upstream.Merges) (seals : Seals env nodeUUID draws store) :
    ∃ e, store.get (secretName nodeUUID) = some e ∧ e.value.metadata.name = secretName nodeUUID ∧
      e.value.stringData = ∅ ∧ Volumes draws e.value.data := by
  induction seals with
  | @create store available draw peerIP plaintext text next done =>
    have free := createNodeSecret_free done
    obtain ⟨rfl,base,stored,written⟩ :=
      @createNodeSecret_ok env available draw text next (initial store) ⟨nodeUUID,peerIP,plaintext⟩ merges done
    refine ⟨_,by rw [written.put]; exact get_put_same .. ,written.named,written.cleared,?_⟩
    rcases written.prior with ⟨_,bare⟩ | ⟨old,found,_⟩
    · have empty : Volumes [] base.data := by
        refine ⟨by simp,?_⟩
        intro volume v found
        rw [bare,if_neg (sealedFromIPKey_ne volume keySuffix (.inl rfl)).symm] at found
        cases found
      exact empty.add (Sealed.ciphertext_ne _ _) written.data
    · rw [show (initial store).secrets.get _ = none from free] at found
      cases found
  | @add draws store e available draw peerIP plaintext text next before read done ih =>
    obtain ⟨e',found,named,cleared,volumes⟩ := ih
    rw [read] at found
    cases found
    have reads : Reads (initial store).secrets ⟨⟨nodeUUID,peerIP,plaintext⟩,some e⟩ e :=
      ⟨current_of_get read,named,cleared⟩
    obtain ⟨rfl,base,stored,written⟩ :=
      @addVolumeToSecret_ok env available draw text next (initial store) ⟨nodeUUID,peerIP,plaintext⟩ e merges
        reads done
    refine ⟨_,by rw [written.put]; exact get_put_same .. ,written.named,written.cleared,?_⟩
    rcases written.prior with ⟨free,_⟩ | ⟨old,present,rfl⟩
    · rw [show (initial store).secrets.get _ = some e from read] at free
      cases free
    · rw [show (initial store).secrets.get _ = some e from read] at present
      cases present
      exact volumes.add (Sealed.ciphertext_ne _ _) written.data

/-- The prefixes that are parsed are those of the draws. -/
theorem Volumes.length (volumes : Volumes draws data) (visits : order.Perm data.keys)
    (distinct : (draws.map generateVolumePrefix).Nodup) : (parseVolumeKeySets data order).length = draws.length := by
  have same : ((parseVolumeKeySets data order).map VolumeKeySet.volumePrefix).Perm
      (draws.map generateVolumePrefix) := by
    rw [List.perm_ext_iff_of_nodup (parseVolumeKeySets_nodup data order) distinct]
    intro volume
    constructor
    · intro parsed
      obtain ⟨ks,member,rfl⟩ := List.mem_map.mp parsed
      have stored := (mem_parseVolumeKeySets data order visits ks).mp member
      rw [stored_iff] at stored
      exact volumes.only _ _ stored.2.1.1
    · intro drawn
      obtain ⟨draw,member,rfl⟩ := List.mem_map.mp drawn
      obtain ⟨ks,stored,named⟩ := volumes.stored draw member
      exact List.mem_map.mpr ⟨ks,(mem_parseVolumeKeySets data order visits ks).mpr stored,named⟩
  simpa using same.length_eq

/-- Exactly the complete key sets under a prefix are parsed, each once, in whatever order the data is
visited; after a number of Seals with distinct prefixes there is one for each. -/
theorem parseVolumeKeySets_exact (visits : order.Perm data.keys) :
    ((parseVolumeKeySets data order).map VolumeKeySet.volumePrefix).Nodup ∧
    (∀ ks, ks ∈ parseVolumeKeySets data order ↔ ks.volumePrefix ≠ "" ∧
      (data.lookup (ks.volumePrefix ++ ".key") = some ks.encryptionKey ∧ ks.encryptionKey.length = 32) ∧
      (data.lookup (ks.volumePrefix ++ ".nonce") = some ks.aadNonce ∧ ks.aadNonce.length = 32) ∧
      (data.lookup (ks.volumePrefix ++ ".luksKey") = some ks.luksKey ∧ ks.luksKey ≠ [])) ∧
    (∀ env nodeUUID draws store e, env.upstream.Merges → Seals env nodeUUID draws store →
      store.get (secretName nodeUUID) = some e → e.value.data = data →
      (draws.map generateVolumePrefix).Nodup → (parseVolumeKeySets data order).length = draws.length) := by
  refine ⟨parseVolumeKeySets_nodup data order,?_,?_⟩
  · intro ks
    rw [mem_parseVolumeKeySets data order visits,stored_iff]
    rfl
  · rintro env nodeUUID draws store e merges seals found rfl distinct
    obtain ⟨e',found',_,_,volumes⟩ := seals.volumes merges
    rw [found] at found'
    cases found'
    exact volumes.length visits distinct

end Sealing

/-- A node seals two volumes. -/
def sampleSeals : Option SecretStore :=
  (createNodeSecret sampleEnv Store.empty true sampleDraw sampleUUID "10.0.0.1" [7,8,9]).toOption.bind fun first =>
    (first.2.get (secretName sampleUUID)).bind fun e =>
      (addVolumeToSecret sampleEnv first.2 true secondDraw e sampleUUID "10.0.0.1" [7,8]).toOption.map Prod.snd

theorem ok_of_toOption {x : Except ε α} (some' : x.toOption = some a) : x = .ok a := by
  cases x with
  | error e => cases some'
  | ok b => cases some'; rfl

theorem seals_sampleSeals (done : sampleSeals = some next) :
    Seals sampleEnv sampleUUID [sampleDraw,secondDraw] next := by
  unfold sampleSeals at done
  obtain ⟨⟨text,store⟩,first,done⟩ := Option.bind_eq_some_iff.mp done
  obtain ⟨e,read,done⟩ := Option.bind_eq_some_iff.mp done
  obtain ⟨⟨text',next'⟩,second,rfl⟩ := Option.map_eq_some_iff.mp done
  exact .add (.create (ok_of_toOption first)) read (ok_of_toOption second)

theorem parseVolumeKeySets_exact_sampleSeals : ∃ store e, Seals sampleEnv sampleUUID [sampleDraw,secondDraw] store ∧
    store.get (secretName sampleUUID) = some e ∧
    (parseVolumeKeySets e.value.data e.value.data.keys).length = 2 := by
  have made : sampleSeals.isSome = true := by decide +kernel
  obtain ⟨store,done⟩ := Option.isSome_iff_exists.mp made
  have seals := seals_sampleSeals done
  obtain ⟨e,found,_⟩ := seals.volumes sampleUpstream_merges
  refine ⟨store,e,seals,found,?_⟩
  exact (parseVolumeKeySets_exact (.refl _)).2.2 sampleEnv sampleUUID _ store e sampleUpstream_merges seals found rfl
    (by decide +kernel)

end Kommodity.Kms
