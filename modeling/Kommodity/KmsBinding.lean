import Kommodity.KmsDurability

/-! Who can read a sealed volume. In runs where only the KMS writes node Secrets, every key in
a node Secret belongs to a Seal whose write took effect for that node from the address stored beside
it, so data opens only for the node and address that sealed it. -/
namespace Kommodity.Kms

open Go Versioned Secrets Transition

theorem secretName_injective (same : secretName u = secretName v) : u = v :=
  (String.append_right_inj _).mp same

/-- Every key of the data was drawn by one of the Seals, for this node and address. -/
def Owned (seals : List Sealed) (nodeUUID : String) (data : Map String Bytes) : Prop :=
  ∀ volume key, data.lookup (volume ++ keySuffix) = some key →
    ∃ σ ∈ seals, σ.accepted.nodeUUID = nodeUUID ∧
      data.index sealedFromIPKey = bytes σ.accepted.clientIP ∧ σ.draw.key = key

structure Bound (gcm : Gcm) (s : State) : Prop where
  sound : Sound s
  owned : ∀ nodeUUID e, s.secrets.get (secretName nodeUUID) = some e →
    Owned (s.granted ++ s.lost) nodeUUID e.value.data
  kept : ∀ σ ∈ s.granted ++ s.lost, Kept gcm σ s

/-- Changes by other writers stay away from the Secrets of the KMS. -/
def Private : Action → Prop
  | .external change => ∀ nodeUUID, change.name ≠ secretName nodeUUID
  | _ => True

theorem Owned.mono (owned : Owned seals nodeUUID data)
    (more : ∀ σ ∈ seals, σ ∈ larger) : Owned larger nodeUUID data := by
  intro volume key found
  obtain ⟨σ,member,rest⟩ := owned volume key found
  exact ⟨σ,more σ member,rest⟩

/-- The Secret that a Seal leaves is owned, given that the one it replaced was. -/
theorem written_owned (bound : Bound gcm s)
    (written : Written s draw accepted text next base stored)
    (entered : ∀ σ, σ ∈ seals ↔ σ ∈ s.granted ++ s.lost ∨ σ = ⟨draw,accepted⟩) :
    Owned seals accepted.nodeUUID stored.data := by
  intro volume key found
  rw [written.address_index]
  rw [written.data,withVolume_lookup,if_neg (keySuffix_ne_luksKeySuffix _ _),
    if_neg (keySuffix_ne_nonceSuffix _ _)] at found
  split at found
  · cases found
    exact ⟨⟨draw,accepted⟩,(entered _).mpr (.inr rfl),rfl,rfl,rfl⟩
  · rcases written.prior with ⟨_,bare⟩ | ⟨old,present,same⟩
    · rw [bare,if_neg (sealedFromIPKey_ne volume keySuffix (.inl rfl)).symm] at found
      simp at found
    · rw [← same] at found
      obtain ⟨σ,member,node,address,drawn⟩ := bound.owned _ _ present volume key found
      refine ⟨σ,(entered σ).mpr (.inl member),node,?_,drawn⟩
      rw [← address,same,written.address]

theorem bound_step (merges : env.upstream.Merges) (bound : Bound env.gcm s) (ok : allowed s a)
    (away : Private a) : Bound env.gcm (step env s a) := by
  have sound := step_sound merges bound.sound ok
  have keep : ∀ σ ∈ s.granted ++ s.lost, Kept env.gcm σ (step env s a) := by
    intro σ member
    apply kept_step merges bound.sound ok _ (bound.kept σ member)
    cases a with
    | external change => exact away σ.accepted.nodeUUID
    | _ => simp [Touches]
  have effect := step_effect merges bound.sound a
  generalize step env s a = t at *
  cases effect with
  | idle => exact bound
  | read ticket accepted seen _ => exact ⟨sound,bound.owned,keep⟩
  | refused => exact ⟨sound,bound.owned,keep⟩
  | @wrote ticket draw p next base stored granted lost _ drawn waiting written entered =>
    refine ⟨sound,?_,?_⟩
    · intro nodeUUID e found
      simp only [written.put] at found
      by_cases same : nodeUUID = p.accepted.nodeUUID
      · subst nodeUUID
        rw [get_put_same] at found
        cases found
        exact written_owned bound written entered
      · rw [get_put_other _ _ (fun eq => same (secretName_injective eq))] at found
        exact (bound.owned nodeUUID e found).mono (fun σ member => (entered σ).mpr (.inl member))
    · intro σ member
      rcases (entered σ).mp member with old | rfl
      · exact keep σ old
      · refine ⟨by simp,⟨stored,s.secrets.revision + 1⟩,?_,written_holds written⟩
        simp only [written.put,get_put_same]
  | changed change =>
    refine ⟨sound,?_,keep⟩
    intro nodeUUID e found
    simp only [change_other _ _ change (away nodeUUID).symm] at found
    exact bound.owned nodeUUID e found

theorem bound_run (merges : env.upstream.Merges) (stored : WellStored secrets)
    (none_ : ∀ nodeUUID, secrets.get (secretName nodeUUID) = none)
    (run : (system env).Run (initial secrets) actions t) (away : ∀ a ∈ actions, Private a) :
    Bound env.gcm t := by
  apply run.invariant_of (Bound env.gcm) Private
    (fun s a valid ok privately => bound_step merges valid ok privately) away
  refine ⟨initial_sound stored,?_,by simp [initial]⟩
  intro nodeUUID e found
  simp [initial,none_] at found

/-- A key set of a node Secret that opens data is the set of the Seal that sealed it. -/
theorem opened_grant (bound : Bound gcm s)
    (ideal : Aead.Ideal gcm (s.sealed.map Sealed.call))
    (found : s.secrets.get (secretName nodeUUID) = some e) (stored : Stored e.value.data ks)
    (address : e.value.data.index sealedFromIPKey = bytes clientIP)
    (opened : decrypt gcm ks.encryptionKey data (buildAAD nodeUUID ks.aadNonce clientIP) =
      .ok plaintext) :
    ∃ σ ∈ s.granted ++ s.lost, σ.accepted.nodeUUID = nodeUUID ∧ σ.accepted.clientIP = clientIP ∧
      data = σ.ciphertext gcm ∧ plaintext = σ.accepted.data := by
  have fresh : ((s.sealed.map Sealed.call).map Aead.Call.key).Nodup := by
    simpa [List.map_map,Function.comp_def,Sealed.call] using bound.sound.keys
  have key : e.value.data.lookup (ks.volumePrefix ++ keySuffix) = some ks.encryptionKey := by
    have index := stored.key
    have length := stored.keyLength
    rw [Map.index] at index
    cases inside : e.value.data.lookup (ks.volumePrefix ++ keySuffix) with
    | some value => simpa [inside] using index
    | none => simp [inside] at index; simp [← index,keySize] at length
  obtain ⟨σ,member,node,ip,drawn⟩ := bound.owned _ _ found _ _ key
  have listed : σ.call ∈ s.sealed.map Sealed.call :=
    List.mem_map_of_mem (bound.sound.written σ member)
  have long := decrypt_long opened
  rw [decrypt_ok_iff gcm stored.keyLength long,← drawn] at opened
  obtain ⟨nonce,plain,_,text⟩ := ideal.origin_of_key fresh listed opened
  refine ⟨σ,member,node,?_,?_,plain.symm⟩
  · exact bytes_injective (ip.symm.trans address)
  · calc data = data.take gcmNonceSize ++ data.drop gcmNonceSize := (List.take_append_drop _ _).symm
      _ = σ.ciphertext gcm := by rw [← nonce,← text]; rfl

theorem unsealFrom_ok (done : unsealFrom env data order accepted = .ok plaintext) :
    data.index sealedFromIPKey = bytes accepted.clientIP ∧
    tryKeySets env accepted.nodeUUID accepted.clientIP accepted.data
      (parseVolumeKeySets data order) = some plaintext := by
  simp only [unsealFrom] at done
  split at done
  · simp at done
  · next address =>
    refine ⟨not_not.mp address,?_⟩
    split at done
    · simp at done
    · split at done
      · next answer => cases done; exact answer
      · simp at done

theorem acceptRequest_fields (done : acceptRequest env ctx req = .ok accepted) :
    validateNodeUUID env req = .ok accepted.nodeUUID ∧
    extractClientIP ctx = .ok accepted.clientIP ∧ accepted.data = req.data := by
  unfold acceptRequest at done
  split at done
  · simp at done
  · next uuid =>
    split at done
    · simp at done
    · split at done
      · simp at done
      · next address => cases done; exact ⟨uuid,address,rfl⟩

theorem unsealData_ok (done : unsealData env store available order ctx req = .ok plaintext) :
    ∃ accepted e, acceptRequest env ctx req = .ok accepted ∧
      store.get (secretName accepted.nodeUUID) = some e ∧
      unsealFrom env e.value.data (order e.value.data) accepted = .ok plaintext := by
  unfold unsealData at done
  split at done
  · simp at done
  · next accepted checked =>
    split at done
    · simp at done
    · next e answered =>
      refine ⟨accepted,e,checked,?_,done⟩
      have read := request_ok answered
      unfold getSecret at read
      split at read
      · next found => cases read; exact found
      · simp at read

/-- An answered Unseal presents the ciphertext of a Seal by the same node from the same address
whose write took effect, and gets that Seal's plaintext. -/
theorem unseal_origin (bound : Bound env.gcm s)
    (ideal : Aead.Ideal env.gcm (s.sealed.map Sealed.call))
    (visits : ∀ data, (order data).Perm data.keys)
    (done : unsealData env s.secrets available order ctx req = .ok plaintext) :
    ∃ σ ∈ s.granted ++ s.lost, validateNodeUUID env req = .ok σ.accepted.nodeUUID ∧
      extractClientIP ctx = .ok σ.accepted.clientIP ∧ req.data = σ.ciphertext env.gcm ∧
      plaintext = σ.accepted.data := by
  obtain ⟨accepted,e,checked,found,answered⟩ := unsealData_ok done
  obtain ⟨uuid,client,sent⟩ := acceptRequest_fields checked
  obtain ⟨address,tried⟩ := unsealFrom_ok answered
  obtain ⟨ks,parsed,opened⟩ := tryKeySets_origin tried
  have stored := (mem_parseVolumeKeySets _ _ (visits e.value.data) ks).mp parsed
  obtain ⟨σ,member,node,ip,data,plain⟩ := opened_grant bound ideal found stored address opened
  refine ⟨σ,member,?_,?_,?_,plain⟩
  · rw [uuid,node]
  · rw [client,ip]
  · rw [← sent,data]

theorem ciphertext_unique (sound : Sound s) (hσ : σ ∈ s.granted ++ s.lost) (hτ : τ ∈ s.granted ++ s.lost)
    (same : σ.ciphertext gcm = τ.ciphertext gcm) : σ = τ := by
  have nonce := congrArg (List.take gcmNonceSize) same
  rw [σ.ciphertext_take,τ.ciphertext_take] at nonce
  exact List.inj_on_of_nodup_map sound.nonces (sound.written σ hσ) (sound.written τ hτ) nonce

theorem sealGet_secrets (env : Env) (s : State) (ticket : Nat) (ctx : Context) (req : Request)
    (available : Bool) :
    (step env s (.sealGet ticket ctx req available)).secrets = s.secrets := by
  simp only [step]
  split
  · rfl
  · split <;> rfl

/-- The Secret of a Seal names the address it was sealed from, so a Seal that goes through for the
same node comes from that address. -/
theorem written_same_address (bound : Bound gcm s) (member : σ ∈ s.granted ++ s.lost)
    (written : Written s draw accepted text next base stored)
    (node : accepted.nodeUUID = σ.accepted.nodeUUID) :
    accepted.clientIP = σ.accepted.clientIP := by
  obtain ⟨_,e,found,holds⟩ := bound.kept σ member
  rw [← node] at found
  rcases written.prior with ⟨absent,_⟩ | ⟨old,present,same⟩
  · rw [absent] at found
    simp at found
  · rw [present] at found
    cases found
    have address := written.address
    rw [← same,holds.address] at address
    exact (bytes_injective address).symm

/-- The write of another node's Seal leaves the Secret of a Seal as it is, and the write of one by the
same node from another address leaves every Secret as it is. -/
theorem seal_other_unchanged (merges : env.upstream.Merges) (bound : Bound env.gcm s)
    (member : σ ∈ s.granted ++ s.lost) (waiting : s.pending.lookup ticket = some p)
    (draws : a.draws = some (ticket,draw)) :
    (p.accepted.nodeUUID ≠ σ.accepted.nodeUUID →
      (step env s a).secrets.get (secretName σ.accepted.nodeUUID) =
        s.secrets.get (secretName σ.accepted.nodeUUID)) ∧
    (p.accepted.nodeUUID = σ.accepted.nodeUUID → p.accepted.clientIP ≠ σ.accepted.clientIP →
      (step env s a).secrets = s.secrets) := by
  have effect := step_effect merges bound.sound a
  generalize step env s a = t at effect
  cases effect with
  | idle => exact ⟨fun _ => rfl,fun _ _ => rfl⟩
  | read => exact ⟨fun _ => rfl,fun _ _ => rfl⟩
  | refused => exact ⟨fun _ => rfl,fun _ _ => rfl⟩
  | wrote drawn again written =>
    cases draws.symm.trans drawn
    cases waiting.symm.trans again
    refine ⟨?_,?_⟩
    · intro apart
      simp only [written.put]
      exact get_put_other _ _ (fun same => apart (secretName_injective same).symm)
    · intro node elsewhere
      exact absurd (written_same_address bound member written node) elsewhere
  | changed => cases draws

/-- Access binding over every run in which only the KMS writes node Secrets. An Unseal that succeeds
presents the ciphertext of a Seal by the same node from the same address whose write took effect; that
Seal returned the ciphertext, unless the answer to its write was lost. -/
theorem unseal_access_binding (env : Env) (merges : env.upstream.Merges) (secrets : SecretStore)
    (stored : WellStored secrets) (absent : ∀ nodeUUID, secrets.get (secretName nodeUUID) = none)
    (run : (system env).Run (initial secrets) actions t) (away : ∀ a ∈ actions, Private a)
    (ideal : Aead.Ideal env.gcm (t.sealed.map Sealed.call)) :
    (∀ available order ctx req plaintext, (∀ data, (order data).Perm data.keys) →
      unsealData env t.secrets available order ctx req = .ok plaintext →
      ∃ σ ∈ t.granted ++ t.lost, validateNodeUUID env req = .ok σ.accepted.nodeUUID ∧
        extractClientIP ctx = .ok σ.accepted.clientIP ∧ req.data = σ.ciphertext env.gcm ∧
        plaintext = σ.accepted.data ∧
        ∀ order', (∀ data, (order' data).Perm data.keys) →
          unsealData env t.secrets true order' ctx req = .ok plaintext) ∧
    (∀ σ ∈ t.granted ++ t.lost, ∀ ctx req nodeUUID clientIP, validateNodeUUID env req = .ok nodeUUID →
      extractClientIP ctx = .ok clientIP →
      nodeUUID ≠ σ.accepted.nodeUUID ∨ clientIP ≠ σ.accepted.clientIP →
      (∀ available order plaintext, (∀ data, (order data).Perm data.keys) →
        req.data = σ.ciphertext env.gcm →
        unsealData env t.secrets available order ctx req ≠ .ok plaintext) ∧
      (∀ available, (step env t (.unsealData ctx req available)).secrets = t.secrets) ∧
      (∀ ticket available, (step env t (.sealGet ticket ctx req available)).secrets = t.secrets) ∧
      (∀ ticket p draw a, t.pending.lookup ticket = some p → p.accepted = ⟨nodeUUID,clientIP,req.data⟩ →
        a.draws = some (ticket,draw) →
        (step env t a).secrets.get (secretName σ.accepted.nodeUUID) =
          t.secrets.get (secretName σ.accepted.nodeUUID) ∧
        (nodeUUID = σ.accepted.nodeUUID → (step env t a).secrets = t.secrets))) := by
  have bound := bound_run merges stored absent run away
  refine ⟨?_,?_⟩
  · intro available order ctx req plaintext visits done
    obtain ⟨σ,member,uuid,client,sent,plain⟩ := unseal_origin bound ideal visits done
    refine ⟨σ,member,uuid,client,sent,plain,?_⟩
    intro order' visits'
    rw [plain]
    exact unseal_kept bound.sound (bound.kept σ member) ideal visits' uuid client sent
  · intro σ member ctx req nodeUUID clientIP uuid client other
    refine ⟨?_,fun _ => rfl,?_,?_⟩
    · intro available order plaintext visits sent done
      obtain ⟨τ,memberτ,uuidτ,clientτ,sentτ,_⟩ := unseal_origin bound ideal visits done
      have same := ciphertext_unique bound.sound member memberτ (sent.symm.trans sentτ)
      rw [uuid] at uuidτ
      rw [client] at clientτ
      cases uuidτ
      cases clientτ
      simp [same] at other
    · intro ticket available
      exact sealGet_secrets env t ticket ctx req available
    · intro ticket p draw a waiting request draws
      obtain ⟨otherNode,otherAddress⟩ := seal_other_unchanged merges bound member waiting draws
      simp only [request] at otherNode otherAddress
      by_cases node : nodeUUID = σ.accepted.nodeUUID
      · have same := otherAddress node (other.resolve_left (fun apart => apart node))
        exact ⟨by rw [same],fun _ => same⟩
      · exact ⟨otherNode node,fun same => absurd same node⟩

/-- The sample Seal has written its Secret, and has not got the answer. -/
def lostState : State := step sampleEnv sampleState (.sealLost 0 sampleDraw)

theorem lostState_run : (system sampleEnv).Run (initial Store.empty)
    [.sealGet 0 sampleContext ⟨sampleUUID,[7,8,9]⟩ true,.sealLost 0 sampleDraw] lostState := by
  refine .cons trivial (.cons ?_ .nil)
  show Fresh sampleState sampleDraw
  rw [sampleState_eq]
  exact ⟨by simp,by simp,by simp,by simp⟩

theorem lostState_ideal : Aead.Ideal sampleEnv.gcm (lostState.sealed.map Sealed.call) :=
  Aead.tabulated_ideal _ (List.nodup_singleton _)

theorem unseal_access_binding_sample :
    ∃ σ ∈ lostState.lost, σ.accepted.nodeUUID = sampleUUID ∧ σ.accepted.data = [7,8,9] := by
  have binding := unseal_access_binding sampleEnv sampleUpstream_merges Store.empty
    (by simp [WellStored]) (by simp) lostState_run (by simp [Private]) lostState_ideal
  obtain ⟨σ,member,uuid,_,_,plain,_⟩ := binding.1 true (fun data => data.keys) sampleContext
    ⟨sampleUUID,Sealed.ciphertext sampleEnv.gcm ⟨sampleDraw,sampleAccepted⟩⟩ [7,8,9]
    (fun _ => .refl _) (by rfl)
  refine ⟨σ,member,?_,plain.symm⟩
  have valid : validateNodeUUID sampleEnv
      ⟨sampleUUID,Sealed.ciphertext sampleEnv.gcm ⟨sampleDraw,sampleAccepted⟩⟩ = .ok sampleUUID := by
    decide
  rw [valid] at uuid
  exact (Except.ok.inj uuid).symm

/-- No Seal has returned a ciphertext, and yet an Unseal succeeds. -/
theorem lost_seal_unsealed :
    (system sampleEnv).Run (initial Store.empty)
      [.sealGet 0 sampleContext ⟨sampleUUID,[7,8,9]⟩ true,.sealLost 0 sampleDraw] lostState ∧
    Aead.Ideal sampleEnv.gcm (lostState.sealed.map Sealed.call) ∧ lostState.granted = [] ∧
    unsealData sampleEnv lostState.secrets true (fun data => data.keys) sampleContext
      ⟨sampleUUID,Sealed.ciphertext sampleEnv.gcm ⟨sampleDraw,sampleAccepted⟩⟩ = .ok [7,8,9] :=
  ⟨lostState_run,lostState_ideal,rfl,rfl⟩

end Kommodity.Kms
