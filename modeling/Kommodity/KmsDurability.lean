import Kommodity.KmsRun

/-! A ciphertext that a Seal returned stays readable. The triple of its volume is never lost to
a concurrent Seal, because an update that succeeds extends the Secret it read, and the trial
loop of Unseal cannot be diverted by another key set. -/
namespace Kommodity.Kms

open Go Versioned Secrets Transition

/-- The data of a node Secret holds the triple of a sealed volume and its address. -/
structure Holds (gcm : Gcm) (σ : Sealed) (data : Map String Bytes) : Prop where
  address : data.index sealedFromIPKey = bytes σ.accepted.clientIP
  key : data.lookup (generateVolumePrefix σ.draw ++ keySuffix) = some σ.draw.key
  nonce : data.lookup (generateVolumePrefix σ.draw ++ nonceSuffix) = some σ.draw.aadNonce
  luksKey : data.lookup (generateVolumePrefix σ.draw ++ luksKeySuffix) =
    some (σ.ciphertext gcm)

structure Kept (gcm : Gcm) (σ : Sealed) (s : State) : Prop where
  sealed : σ ∈ s.sealed
  holds : ∃ e, s.secrets.get (secretName σ.accepted.nodeUUID) = some e ∧ Holds gcm σ e.value.data

theorem withVolume_extends (secret : Secret) (draw : Draw) (text : Bytes)
    (fresh : ∀ ending, secret.data.lookup (generateVolumePrefix draw ++ ending) = none)
    (found : secret.data.lookup k = some v) :
    (withVolume secret draw text).data.lookup k = some v := by
  have apart (ending : String) : k ≠ generateVolumePrefix draw ++ ending := by
    rintro rfl
    simp [fresh ending] at found
  rw [withVolume_lookup,if_neg (apart _),if_neg (apart _),if_neg (apart _),found]

theorem Written.address_index (written : Written s draw accepted text next base stored) :
    stored.data.index sealedFromIPKey = bytes accepted.clientIP := by
  have address := written.address
  rw [Map.index] at address ⊢
  rw [written.data,withVolume_sealedFromIP,address]

theorem written_holds
    (written : Written s draw accepted (Sealed.ciphertext gcm ⟨draw,accepted⟩) next base stored) :
    Holds gcm ⟨draw,accepted⟩ stored.data := by
  refine ⟨written.address_index,?_,?_,?_⟩
  · rw [written.data]; exact withVolume_key ..
  · rw [written.data]; exact withVolume_nonce ..
  · rw [written.data]; exact withVolume_luksKey ..

theorem Holds.add_volume {base stored : Secret} (holds : Holds gcm σ base.data)
    (fresh : ∀ ending, base.data.lookup (generateVolumePrefix draw ++ ending) = none)
    (data : ∀ k, stored.data.lookup k = (withVolume base draw text).data.lookup k) :
    Holds gcm σ stored.data := by
  have keep {k v} (found : base.data.lookup k = some v) : stored.data.lookup k = some v := by
    rw [data]; exact withVolume_extends base draw text fresh found
  refine ⟨?_,keep holds.key,keep holds.nonce,keep holds.luksKey⟩
  have address := holds.address
  rw [Map.index] at address ⊢
  rw [data,withVolume_sealedFromIP,address]

def Touches (name : String) : Action → Prop
  | .external change => change.name = name
  | _ => False

theorem change_other (up : Upstream) (store : SecretStore) (change : Change)
    (apart : name ≠ change.name) : (change.apply up store).get name = store.get name := by
  cases change with
  | put secret => exact get_put_other _ _ apart
  | delete other => exact get_remove_other _ apart

theorem kept_step (merges : env.upstream.Merges) (sound : Sound s) (ok : allowed s a)
    (apart : ¬ Touches (secretName σ.accepted.nodeUUID) a) (kept : Kept env.gcm σ s) :
    Kept env.gcm σ (step env s a) := by
  obtain ⟨sealed,e,found,holds⟩ := kept
  have effect := step_effect merges sound a
  generalize step env s a = t at effect
  cases effect with
  | idle => exact ⟨sealed,e,found,holds⟩
  | read ticket accepted seen _ => exact ⟨sealed,e,found,holds⟩
  | refused => exact ⟨List.mem_append_left _ sealed,e,found,holds⟩
  | @wrote ticket draw p next base stored granted lost _ drawn waiting written =>
    have fresh := fresh_of_draws ok drawn
    refine ⟨List.mem_append_left _ sealed,?_⟩
    simp only [written.put]
    by_cases same : secretName σ.accepted.nodeUUID = secretName p.accepted.nodeUUID
    · rw [same,get_put_same]
      refine ⟨_,rfl,?_⟩
      rcases written.prior with ⟨absent,_⟩ | ⟨old,present,rfl⟩
      · rw [same,absent] at found; simp at found
      · rw [same,present] at found
        cases found
        exact holds.add_volume (fresh.volume _ _ present) written.data
    · rw [get_put_other _ _ same]
      exact ⟨e,found,holds⟩
  | changed change =>
    refine ⟨sealed,e,?_,holds⟩
    exact (change_other _ _ change (fun same => apart same.symm)).trans found

theorem kept_run (merges : env.upstream.Merges) (run : (system env).Run s actions t)
    (sound : Sound s) (apart : ∀ a ∈ actions, ¬ Touches (secretName σ.accepted.nodeUUID) a)
    (kept : Kept env.gcm σ s) : Kept env.gcm σ t := by
  have both := run.invariant_of (fun s => Sound s ∧ Kept env.gcm σ s)
    (fun a => ¬ Touches (secretName σ.accepted.nodeUUID) a)
    (fun s a valid ok away => ⟨step_sound merges valid.1 ok,kept_step merges valid.1 ok away valid.2⟩)
    apart ⟨sound,kept⟩
  exact both.2

theorem Sealed.ciphertext_take (gcm : Gcm) (σ : Sealed) :
    (σ.ciphertext gcm).take gcmNonceSize = σ.draw.gcmNonce := by
  rw [Sealed.ciphertext,← σ.draw.gcmNonce_length,List.take_left]

theorem Sealed.ciphertext_drop (gcm : Gcm) (σ : Sealed) :
    (σ.ciphertext gcm).drop gcmNonceSize = σ.call.text gcm := by
  rw [Sealed.ciphertext,← σ.draw.gcmNonce_length,List.drop_left]

theorem Sealed.ciphertext_long (gcm : Gcm) (σ : Sealed) :
    gcmNonceSize ≤ (σ.ciphertext gcm).length := by
  rw [Sealed.ciphertext,List.length_append,σ.draw.gcmNonce_length]
  omega

theorem Holds.stored (holds : Holds gcm σ data) :
    Stored data ⟨generateVolumePrefix σ.draw,σ.draw.key,σ.draw.aadNonce,σ.ciphertext gcm⟩ where
  named := generateVolumePrefix_ne σ.draw
  key := Map.index_of_lookup holds.key
  nonce := Map.index_of_lookup holds.nonce
  luksKey := Map.index_of_lookup holds.luksKey
  keyLength := σ.draw.key_length
  nonceLength := σ.draw.aadNonce_length
  luksKeyLength := by
    have long := σ.ciphertext_long gcm
    simp only [gcmNonceSize] at long
    simp only
    omega

/-- Unseal of a stored volume's ciphertext returns its plaintext in every visiting order. -/
theorem unsealFrom_holds (sound : Sound s) (sealed : σ ∈ s.sealed)
    (ideal : Aead.Ideal env.gcm (s.sealed.map Sealed.call)) (holds : Holds env.gcm σ data)
    (visits : order.Perm data.keys) :
    unsealFrom env data order ⟨σ.accepted.nodeUUID,σ.accepted.clientIP,σ.ciphertext env.gcm⟩ =
      .ok σ.accepted.data := by
  have listed : σ.call ∈ s.sealed.map Sealed.call := List.mem_map_of_mem sealed
  have fresh : ((s.sealed.map Sealed.call).map Aead.Call.nonce).Nodup := by
    simpa [List.map_map,Function.comp_def,Sealed.call] using sound.nonces
  have member := (mem_parseVolumeKeySets data order visits _).mpr holds.stored
  have opens : decrypt env.gcm σ.draw.key (σ.ciphertext env.gcm)
      (buildAAD σ.accepted.nodeUUID σ.draw.aadNonce σ.accepted.clientIP) = .ok σ.accepted.data := by
    rw [decrypt_ok_iff env.gcm σ.draw.key_length (σ.ciphertext_long _),σ.ciphertext_take,
      σ.ciphertext_drop]
    exact ideal.opens listed
  have agree : ∀ ks ∈ parseVolumeKeySets data order, ∀ text,
      decrypt env.gcm ks.encryptionKey (σ.ciphertext env.gcm)
        (buildAAD σ.accepted.nodeUUID ks.aadNonce σ.accepted.clientIP) = .ok text →
      text = σ.accepted.data := by
    intro ks parsed text opened
    have stored := (mem_parseVolumeKeySets data order visits ks).mp parsed
    rw [decrypt_ok_iff env.gcm stored.keyLength (σ.ciphertext_long _),σ.ciphertext_take] at opened
    exact (ideal.origin_of_nonce fresh listed opened).2.1.symm
  have answer := tryKeySets_agrees member opens agree
  simp only [unsealFrom,holds.address,ne_eq,not_true_eq_false,↓reduceIte]
  split
  · next empty => simp [empty] at member
  · rw [answer]

theorem acceptRequest_ok (uuid : validateNodeUUID env req = .ok u)
    (address : extractClientIP ctx = .ok ip) (nonempty : req.data.length ≠ 0) :
    acceptRequest env ctx req = .ok ⟨u,ip,req.data⟩ := by
  simp [acceptRequest,uuid,address,nonempty]

theorem unseal_kept (sound : Sound s) (kept : Kept env.gcm σ s)
    (ideal : Aead.Ideal env.gcm (s.sealed.map Sealed.call)) (visits : ∀ data, (order data).Perm data.keys)
    (uuid : validateNodeUUID env req = .ok σ.accepted.nodeUUID)
    (client : extractClientIP ctx = .ok σ.accepted.clientIP) (sent : req.data = σ.ciphertext env.gcm) :
    unsealData env s.secrets true order ctx req = .ok σ.accepted.data := by
  obtain ⟨sealed,e,found,holds⟩ := kept
  have long := σ.ciphertext_long env.gcm
  have nonempty : req.data.length ≠ 0 := by
    rw [sent]; simp only [gcmNonceSize] at long; omega
  have answer := unsealFrom_holds sound sealed ideal holds (visits e.value.data)
  simp only [unsealData,acceptRequest_ok uuid client nonempty,request,getSecret,found,↓reduceIte]
  rw [sent]
  exact answer

theorem sealWrite_kept (merges : env.upstream.Merges) (stored : WellStored secrets)
    (before : (system env).Run (initial secrets) actions s) (fresh : Fresh s draw)
    (waiting : s.pending.lookup ticket = some p)
    (returned : sealWrite env s.secrets available draw p.accepted p.seen = .ok (text,next))
    (after : (system env).Run (step env s (.sealWrite ticket draw available)) later t)
    (untouched : ∀ change, Action.external change ∈ later → change.name ≠ secretName p.accepted.nodeUUID) :
    text = Sealed.ciphertext env.gcm ⟨draw,p.accepted⟩ ∧ Sound t ∧ Kept env.gcm ⟨draw,p.accepted⟩ t := by
  have sound := run_sound merges before (initial_sound stored)
  obtain ⟨encrypts,rfl,base,new,written⟩ :=
    sealWrite_ok merges (fun e seen => sound.reads ticket p e waiting seen) returned
  have kept : Kept env.gcm ⟨draw,p.accepted⟩ (step env s (.sealWrite ticket draw available)) := by
    simp only [step,waiting,finishSeal,returned,callsOf,encrypts,↓reduceIte]
    refine ⟨by simp,⟨new,s.secrets.revision + 1⟩,?_,written_holds written⟩
    simp only [written.put,get_put_same]
  have soundNext : Sound (step env s (.sealWrite ticket draw available)) :=
    step_sound merges sound fresh
  have apart : ∀ a ∈ later, ¬ Touches (secretName p.accepted.nodeUUID) a := by
    intro a member
    cases a with
    | external change => exact untouched change member
    | _ => simp [Touches]
  exact ⟨rfl,run_sound merges after soundNext,kept_run merges after soundNext apart kept⟩

/-- Durability. A Seal of an arbitrary run returned `text`; then in every later state, however
other Seals interleave and whatever other writers do to other Secrets, Unseal of `text` by the
same node from the same address returns the sealed plaintext. -/
theorem seal_durable (env : Env) (merges : env.upstream.Merges) (secrets : SecretStore)
    (stored : WellStored secrets) (before : (system env).Run (initial secrets) actions s)
    (fresh : Fresh s draw) (waiting : s.pending.lookup ticket = some p)
    (returned : sealWrite env s.secrets available draw p.accepted p.seen = .ok (text,next))
    (after : (system env).Run (step env s (.sealWrite ticket draw available)) later t)
    (untouched : ∀ change, Action.external change ∈ later →
      change.name ≠ secretName p.accepted.nodeUUID)
    (ideal : Aead.Ideal env.gcm (t.sealed.map Sealed.call))
    (order : Map String Bytes → List String) (visits : ∀ data, (order data).Perm data.keys)
    (ctx : Context) (req : Request) (uuid : validateNodeUUID env req = .ok p.accepted.nodeUUID)
    (address : extractClientIP ctx = .ok p.accepted.clientIP) (data : req.data = text) :
    unsealData env t.secrets true order ctx req = .ok p.accepted.data := by
  obtain ⟨rfl,sound,kept⟩ := sealWrite_kept merges stored before fresh waiting returned after untouched
  exact unseal_kept sound kept ideal visits uuid address data

def sampleDraw : Draw :=
  ⟨List.replicate 8 0x11,List.replicate 32 1,List.replicate 32 2,List.replicate 12 3,rfl,rfl,rfl,rfl⟩

def sampleUUID : String := "550e8400-e29b-41d4-a716-446655440000"

def sampleAccepted : Accepted := ⟨sampleUUID,"10.0.0.1",[7,8,9]⟩

def sampleEnv : Env where
  gcm := Aead.tabulated (fun _ _ plaintext _ => plaintext ++ List.replicate 16 0)
    [Sealed.call ⟨sampleDraw,sampleAccepted⟩]
  upstream := sampleUpstream
  uuidParse s := s.length = 36
  lowerRune c := c

def sampleContext : Context := ⟨none,some "10.0.0.1:4000"⟩

/-- The state after the sample Seal has read that its node has no Secret. -/
def sampleState : State :=
  step sampleEnv (initial Store.empty) (.sealGet 0 sampleContext ⟨sampleUUID,[7,8,9]⟩ true)

theorem sampleState_eq :
    sampleState = ⟨Store.empty,(∅ : Map Nat Pending).insert 0 ⟨sampleAccepted,none⟩,[],[],[]⟩ := rfl

def secondDraw : Draw :=
  ⟨List.replicate 8 0x22,List.replicate 32 4,List.replicate 32 5,List.replicate 12 6,rfl,rfl,rfl,rfl⟩

/-- The volume that the node seals next. -/
def secondAccepted : Accepted := ⟨sampleUUID,"10.0.0.1",[7,8]⟩

def volumesEnv : Env :=
  { sampleEnv with
    gcm := Aead.tabulated (fun _ _ plaintext _ => plaintext ++ List.replicate 16 0)
      [Sealed.call ⟨sampleDraw,sampleAccepted⟩,Sealed.call ⟨secondDraw,secondAccepted⟩] }

/-- The node has sealed a volume. -/
def firstSealed : State := step volumesEnv sampleState (.sealWrite 0 sampleDraw true)

/-- The node seals another volume while somebody deletes a Secret. -/
def laterSteps : List Action :=
  [.sealGet 1 sampleContext ⟨sampleUUID,[7,8]⟩ true,.external (.delete "spare"),.sealWrite 1 secondDraw true]

theorem secondDraw_fresh :
    Fresh ((laterSteps.take 2).foldl (step volumesEnv) firstSealed) secondDraw := by
  have drawn : ((laterSteps.take 2).foldl (step volumesEnv) firstSealed).sealed =
      [⟨sampleDraw,sampleAccepted⟩] := rfl
  refine ⟨by rw [drawn]; decide,by rw [drawn]; decide,by rw [drawn]; decide,?_⟩
  generalize read : ((laterSteps.take 2).foldl (step volumesEnv) firstSealed).secrets = store
  have begins : ∀ name ∈ store.objects.keys, (store.get name).all fun e =>
      e.value.data.keys.all fun k => k.toList.head? ≠ some '2' := by
    rw [← read]
    decide +kernel
  intro name entry found ending
  cases looked : entry.value.data.lookup (generateVolumePrefix secondDraw ++ ending) with
  | none => rfl
  | some v =>
    have other := begins name (Map.mem_of_lookup found)
    rw [found,Option.all_some,List.all_eq_true] at other
    have apart := other _ (Map.mem_of_lookup looked)
    simp [String.toList_append,show (generateVolumePrefix secondDraw).toList = '2' :: _ from rfl] at apart

theorem laterSteps_run :
    (system volumesEnv).Run firstSealed laterSteps (laterSteps.foldl (step volumesEnv) firstSealed) :=
  .of ⟨trivial,trivial,secondDraw_fresh,trivial⟩

theorem seal_durable_sample :
    (system volumesEnv).Run firstSealed laterSteps (laterSteps.foldl (step volumesEnv) firstSealed) ∧
    unsealData volumesEnv (laterSteps.foldl (step volumesEnv) firstSealed).secrets true (fun data => data.keys)
      sampleContext ⟨sampleUUID,Sealed.ciphertext volumesEnv.gcm ⟨sampleDraw,sampleAccepted⟩⟩ = .ok [7,8,9] := by
  have fresh : Fresh sampleState sampleDraw := by
    rw [sampleState_eq]
    exact ⟨by simp,by simp,by simp,by simp⟩
  have before : (system volumesEnv).Run (initial Store.empty)
      [.sealGet 0 sampleContext ⟨sampleUUID,[7,8,9]⟩ true] sampleState := System.Run.single trivial
  have ideal : Aead.Ideal volumesEnv.gcm
      ((laterSteps.foldl (step volumesEnv) firstSealed).sealed.map Sealed.call) :=
    Aead.tabulated_ideal _ (by decide)
  have waiting : sampleState.pending.lookup 0 = some ⟨sampleAccepted,none⟩ := rfl
  have uuid : validateNodeUUID volumesEnv
      ⟨sampleUUID,Sealed.ciphertext volumesEnv.gcm ⟨sampleDraw,sampleAccepted⟩⟩ = .ok sampleUUID := by
    decide
  have address : extractClientIP sampleContext = .ok "10.0.0.1" := by decide
  have untouched : ∀ change, Action.external change ∈ laterSteps → change.name ≠ secretName sampleUUID := by
    intro change listed
    obtain rfl : change = .delete "spare" := by simpa [laterSteps] using listed
    decide
  exact ⟨laterSteps_run,seal_durable volumesEnv sampleUpstream_merges Store.empty (by simp [WellStored]) before
    fresh waiting rfl laterSteps_run untouched ideal _ (fun _ => .refl _) sampleContext _ uuid address rfl⟩

end Kommodity.Kms
