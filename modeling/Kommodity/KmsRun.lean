import Kommodity.KmsKeySets
import Kommodity.Transition

/-! Runs of the KMS. The read and the write of a Seal are separate steps, so any number of
Seals interleave with each other, with Unseals and with other writers of Secrets. The state
also records every call of the cipher and every Seal whose write took effect; the code does not
read these lists. -/
namespace Kommodity.Kms

open Go Versioned Secrets Transition

/-- A call of the cipher inside the Seal of an accepted request. -/
structure Sealed where
  draw : Draw
  accepted : Accepted

def Sealed.call (σ : Sealed) : Aead.Call Bytes Bytes Bytes Bytes :=
  ⟨σ.draw.key,σ.draw.gcmNonce,σ.accepted.data,
    buildAAD σ.accepted.nodeUUID σ.draw.aadNonce σ.accepted.clientIP⟩

def Sealed.ciphertext (gcm : Gcm) (σ : Sealed) : Bytes := σ.draw.gcmNonce ++ σ.call.text gcm

structure Pending where
  accepted : Accepted
  seen : Option (Entry Secret)

/-- The write reaches the cipher unless the address check of an existing Secret fails. -/
def Pending.encrypts (p : Pending) : Bool :=
  match p.seen with
  | none => true
  | some secret => secret.value.data.index sealedFromIPKey = bytes p.accepted.clientIP

/-- `granted` has the Seals that returned their ciphertext, `lost` those whose Secret was written
but which returned an error, since the answer of the API server did not reach them. -/
structure State where
  secrets : SecretStore
  pending : Map Nat Pending
  sealed : List Sealed
  granted : List Sealed
  lost : List Sealed

/-- A change of a Secret by another client of the API server. -/
inductive Change where
  | put (secret : Secret)
  | delete (name : String)

def Change.name : Change → String
  | .put secret => secret.metadata.name
  | .delete name => name

def Change.apply (up : Upstream) (store : SecretStore) : Change → SecretStore
  | .put secret => store.put secret.metadata.name (prepareForCreate up secret)
  | .delete name => store.remove name

inductive Action where
  | sealGet (ticket : Nat) (ctx : Context) (req : Request) (available : Bool)
  | sealWrite (ticket : Nat) (draw : Draw) (available : Bool)
  | sealLost (ticket : Nat) (draw : Draw)
  | unsealData (ctx : Context) (req : Request) (available : Bool)
  | external (change : Change)

/-- A draw is fresh when none of its parts was used by an earlier call and no stored Secret
has a data key under its volume prefix. -/
structure Fresh (s : State) (draw : Draw) : Prop where
  key : ∀ σ ∈ s.sealed, σ.draw.key ≠ draw.key
  aadNonce : ∀ σ ∈ s.sealed, σ.draw.aadNonce ≠ draw.aadNonce
  gcmNonce : ∀ σ ∈ s.sealed, σ.draw.gcmNonce ≠ draw.gcmNonce
  volume : ∀ name entry, s.secrets.get name = some entry → ∀ ending,
    entry.value.data.lookup (generateVolumePrefix draw ++ ending) = none

def callsOf (p : Pending) (draw : Draw) : List Sealed :=
  if p.encrypts then [⟨draw,p.accepted⟩] else []

def finishSeal (env : Env) (s : State) (ticket : Nat) (draw : Draw) (available answered : Bool) : State :=
  match s.pending.lookup ticket with
  | none => s
  | some p =>
    let calls := callsOf p draw
    match sealWrite env s.secrets available draw p.accepted p.seen with
    | .error _ => { s with pending := s.pending.erase ticket, sealed := s.sealed ++ calls }
    | .ok (_,store) => ⟨store,s.pending.erase ticket,s.sealed ++ calls,
        if answered then s.granted ++ calls else s.granted,if answered then s.lost else s.lost ++ calls⟩

def step (env : Env) (s : State) : Action → State
  | .sealGet ticket ctx req available =>
    match acceptRequest env ctx req with
    | .error _ => s
    | .ok accepted =>
      match sealGet s.secrets available accepted with
      | .error _ => s
      | .ok seen => { s with pending := s.pending.insert ticket ⟨accepted,seen⟩ }
  | .sealWrite ticket draw available => finishSeal env s ticket draw available true
  | .sealLost ticket draw => finishSeal env s ticket draw true false
  | .unsealData _ _ _ => s
  | .external change => { s with secrets := change.apply env.upstream s.secrets }

/-- The ticket of the Seal that writes, and what it has drawn. -/
def Action.draws : Action → Option (Nat × Draw)
  | .sealWrite ticket draw _ | .sealLost ticket draw => some (ticket,draw)
  | _ => none

def allowed (s : State) : Action → Prop
  | .sealWrite _ draw _ | .sealLost _ draw => Fresh s draw
  | _ => True

def system (env : Env) : System State Action := ⟨allowed,step env⟩

/-- Secrets are stored under their own name and without string data. -/
def WellStored (store : SecretStore) : Prop :=
  ∀ name entry, store.get name = some entry →
    entry.value.metadata.name = name ∧ entry.value.stringData = ∅

def initial (secrets : SecretStore) : State := ⟨secrets,∅,[],[],[]⟩

theorem wellStored_put {store : SecretStore} (valid : WellStored store)
    (named : secret.metadata.name = name) (cleared : secret.stringData = ∅) :
    WellStored (store.put name secret) := by
  intro other entry found
  by_cases same : other = name
  · subst other
    rw [get_put_same] at found
    cases found
    exact ⟨named,cleared⟩
  · rw [get_put_other _ _ same] at found
    exact valid other entry found

theorem wellStored_change (up : Upstream) {store : SecretStore} (valid : WellStored store)
    (change : Change) : WellStored (change.apply up store) := by
  cases change with
  | put secret => exact wellStored_put valid rfl rfl
  | delete name =>
    intro other entry found
    by_cases same : other = name
    · subst other; simp [Change.apply] at found
    · rw [Change.apply,get_remove_other _ same] at found
      exact valid other entry found

/-- What a pending Seal read is still what its update would replace. -/
structure Reads (store : SecretStore) (p : Pending) (e : Entry Secret) : Prop where
  current : store.Current (secretName p.accepted.nodeUUID) e
  named : e.value.metadata.name = secretName p.accepted.nodeUUID
  cleared : e.value.stringData = ∅

structure Sound (s : State) : Prop where
  stored : WellStored s.secrets
  reads : ∀ ticket p e, s.pending.lookup ticket = some p → p.seen = some e → Reads s.secrets p e
  keys : (s.sealed.map fun σ => σ.draw.key).Nodup
  nonces : (s.sealed.map fun σ => σ.draw.gcmNonce).Nodup
  written : ∀ σ ∈ s.granted ++ s.lost, σ ∈ s.sealed

theorem initial_sound {secrets : SecretStore} (stored : WellStored secrets) :
    Sound (initial secrets) := by
  refine ⟨stored,?_,by simp [initial],by simp [initial],by simp [initial]⟩
  intro ticket p e found
  simp [initial] at found

/-- The effect of a Seal whose write took place: under the node's name there is now a
Secret that differs from `base` by the triple of the drawn volume, and `base` was the stored
Secret if there was one. -/
structure Written (s : State) (draw : Draw) (accepted : Accepted) (text : Bytes)
    (next : SecretStore) (base stored : Secret) : Prop where
  put : next = s.secrets.put (secretName accepted.nodeUUID) stored
  named : stored.metadata.name = secretName accepted.nodeUUID
  cleared : stored.stringData = ∅
  data : ∀ k, stored.data.lookup k = (withVolume base draw text).data.lookup k
  address : base.data.index sealedFromIPKey = bytes accepted.clientIP
  prior : (s.secrets.get (secretName accepted.nodeUUID) = none ∧
      ∀ k, base.data.lookup k = if k = sealedFromIPKey then some (bytes accepted.clientIP) else none) ∨
    ∃ old, s.secrets.get (secretName accepted.nodeUUID) = some old ∧ old.value = base

theorem createNodeSecret_ok {accepted : Accepted} (merges : env.upstream.Merges)
    (done : createNodeSecret env s.secrets available draw accepted.nodeUUID accepted.clientIP
      accepted.data = .ok (text,next)) :
    text = Sealed.ciphertext env.gcm ⟨draw,accepted⟩ ∧
    ∃ base stored, Written s draw accepted text next base stored := by
  simp only [createNodeSecret,encrypt_ok env.gcm _ _ _ draw.key_length] at done
  split at done
  · simp at done
  · next store accepts =>
    cases done
    obtain ⟨free,rfl⟩ := createSecret_ok (request_ok accepts)
    refine ⟨rfl,bareSecret accepted.nodeUUID accepted.clientIP,_,rfl,rfl,rfl,?_,?_,
      .inl ⟨free,bareSecret_lookup _ _⟩⟩
    · intro k
      rw [prepareForCreate_lookup merges,nodeSecret_eq]
      simp [withVolume,bareSecret]
    · exact Map.index_of_lookup (by simp [bareSecret_lookup])

theorem addVolumeToSecret_ok {accepted : Accepted} {e : Entry Secret}
    (merges : env.upstream.Merges) (reads : Reads s.secrets ⟨accepted,some e⟩ e)
    (done : addVolumeToSecret env s.secrets available draw e accepted.nodeUUID accepted.clientIP
      accepted.data = .ok (text,next)) :
    text = Sealed.ciphertext env.gcm ⟨draw,accepted⟩ ∧
    ∃ base stored, Written s draw accepted text next base stored := by
  simp only [addVolumeToSecret] at done
  split at done
  · simp at done
  · next address =>
    simp only [encrypt_ok env.gcm _ _ _ draw.key_length] at done
    split at done
    · simp at done
    · next store accepts =>
      cases done
      obtain ⟨old,found,version,rfl⟩ := updateSecret_ok (request_ok accepts)
      rw [withVolume_metadata,reads.named] at found ⊢
      refine ⟨rfl,e.value,_,rfl,?_,rfl,?_,not_not.mp address,
        .inr ⟨old,found,reads.current.2 old found version⟩⟩
      · rw [prepareForUpdate_metadata]; exact reads.named
      · intro k
        have cleared := reads.cleared
        rw [prepareForUpdate_lookup merges]
        simp [withVolume,cleared]

/-- One description covers both ways a Seal can succeed. -/
theorem sealWrite_ok {p : Pending} (merges : env.upstream.Merges)
    (reads : ∀ e, p.seen = some e → Reads s.secrets p e)
    (done : sealWrite env s.secrets available draw p.accepted p.seen = .ok (text,next)) :
    p.encrypts = true ∧ text = Sealed.ciphertext env.gcm ⟨draw,p.accepted⟩ ∧
    ∃ base stored, Written s draw p.accepted text next base stored := by
  obtain ⟨accepted,seen⟩ := p
  cases seen with
  | none => exact ⟨rfl,createNodeSecret_ok merges (mapError_ok done)⟩
  | some e =>
    have written := addVolumeToSecret_ok merges (reads e rfl) (mapError_ok done)
    refine ⟨?_,written⟩
    have inner := mapError_ok done
    simp only [addVolumeToSecret] at inner
    split at inner
    · simp at inner
    · next address => simpa [Pending.encrypts] using not_not.mp address

/-- Everything one step can do. -/
inductive Effect (env : Env) (s : State) : Action → State → Prop where
  | idle : Effect env s a s
  | read (ticket : Nat) (accepted : Accepted) (seen : Option (Entry Secret))
      (found : ∀ e, seen = some e → s.secrets.get (secretName accepted.nodeUUID) = some e) :
      Effect env s a { s with pending := s.pending.insert ticket ⟨accepted,seen⟩ }
  | refused (drawn : a.draws = some (ticket,draw)) (waiting : s.pending.lookup ticket = some p) :
      Effect env s a
        { s with pending := s.pending.erase ticket, sealed := s.sealed ++ callsOf p draw }
  | wrote (drawn : a.draws = some (ticket,draw)) (waiting : s.pending.lookup ticket = some p)
      (written : Written s draw p.accepted (Sealed.ciphertext env.gcm ⟨draw,p.accepted⟩) next
        base stored)
      (entered : ∀ σ, σ ∈ granted ++ lost ↔ σ ∈ s.granted ++ s.lost ∨ σ = ⟨draw,p.accepted⟩) :
      Effect env s a ⟨next,s.pending.erase ticket,s.sealed ++ [⟨draw,p.accepted⟩],granted,lost⟩
  | changed (change : Change) : Effect env s (.external change)
      { s with secrets := change.apply env.upstream s.secrets }

theorem sealGet_found (done : sealGet store available accepted = .ok (some e)) :
    store.get (secretName accepted.nodeUUID) = some e := by
  unfold sealGet at done
  split at done
  · next answered =>
    cases done
    have read := request_ok answered
    unfold getSecret at read
    split at read
    · next found => cases read; exact found
    · simp at read
  · split at done <;> simp at done

theorem finishSeal_effect (merges : env.upstream.Merges) (sound : Sound s)
    (drawn : a.draws = some (ticket,draw)) (available answered : Bool) :
    Effect env s a (finishSeal env s ticket draw available answered) := by
  unfold finishSeal
  cases waiting : s.pending.lookup ticket with
  | none => exact .idle
  | some p =>
    cases result : sealWrite env s.secrets available draw p.accepted p.seen with
    | error cause => simpa only [result] using .refused drawn waiting
    | ok done =>
      obtain ⟨text,next⟩ := done
      obtain ⟨encrypts,rfl,base,stored,written⟩ :=
        sealWrite_ok merges (fun e seen => sound.reads ticket p e waiting seen) result
      simp only [result,callsOf,encrypts,↓reduceIte]
      refine .wrote drawn waiting written fun σ => ?_
      cases answered <;> simp [or_assoc,or_comm (a := σ = _)]

theorem step_effect (merges : env.upstream.Merges) (sound : Sound s) (a : Action) :
    Effect env s a (step env s a) := by
  cases a with
  | sealGet ticket ctx req available =>
    simp only [step]
    split
    · exact .idle
    · next accepted _ =>
      split
      · exact .idle
      · next seen got =>
        refine .read ticket accepted seen ?_
        rintro e rfl
        exact sealGet_found got
  | sealWrite ticket draw available => exact finishSeal_effect merges sound rfl available true
  | sealLost ticket draw => exact finishSeal_effect merges sound rfl true false
  | unsealData ctx req available => exact .idle
  | external change => exact .changed change

theorem Reads.of_current {store next : SecretStore} (reads : Reads store p e)
    (current : next.Current (secretName p.accepted.nodeUUID) e) : Reads next p e :=
  ⟨current,reads.named,reads.cleared⟩

theorem current_change (up : Upstream) {store : SecretStore} (current : store.Current name e)
    (change : Change) : (change.apply up store).Current name e := by
  cases change with
  | put secret => exact current_put current _ _
  | delete other => exact current_remove current _

theorem lookup_erase_some {m : Map Nat Pending} (found : (m.erase ticket).lookup other = some p) :
    m.lookup other = some p := by
  by_cases same : other = ticket
  · subst other; simp at found
  · rwa [AList.lookup_erase_ne same] at found

theorem nodup_calls (f : Sealed → Bytes) (calls : List Sealed) (fresh : List Sealed)
    (nodup : (calls.map f).Nodup) (short : fresh.length ≤ 1)
    (apart : ∀ σ ∈ fresh, ∀ τ ∈ calls, f τ ≠ f σ) : ((calls ++ fresh).map f).Nodup := by
  rw [List.map_append,List.nodup_append]
  refine ⟨nodup,?_,?_⟩
  · match fresh,short with
    | [],_ => simp
    | [σ],_ => simp
  · intro a inCalls b inFresh same
    obtain ⟨τ,hτ,rfl⟩ := List.mem_map.mp inCalls
    obtain ⟨σ,hσ,rfl⟩ := List.mem_map.mp inFresh
    exact apart σ hσ τ hτ same

theorem callsOf_length (p : Pending) (draw : Draw) : (callsOf p draw).length ≤ 1 := by
  unfold callsOf
  split <;> simp

theorem callsOf_draw (member : σ ∈ callsOf p draw) : σ.draw = draw := by
  unfold callsOf at member
  split at member
  · rw [List.mem_singleton.mp member]
  · simp at member

theorem fresh_of_draws (ok : allowed s a) (drawn : a.draws = some (ticket,draw)) : Fresh s draw := by
  cases a with
  | sealWrite | sealLost => cases drawn; exact ok
  | _ => cases drawn

theorem step_sound (merges : env.upstream.Merges) (sound : Sound s) (ok : allowed s a) :
    Sound (step env s a) := by
  have effect := step_effect merges sound a
  generalize step env s a = t at effect
  cases effect with
  | idle => exact sound
  | read ticket accepted seen found =>
    refine ⟨sound.stored,?_,sound.keys,sound.nonces,sound.written⟩
    intro other p e waiting hseen
    rw [Map.lookup_insert_eq] at waiting
    split at waiting
    · cases waiting
      have got := found e hseen
      obtain ⟨named,cleared⟩ := sound.stored _ _ got
      exact ⟨current_of_get got,named,cleared⟩
    · exact sound.reads other p e waiting hseen
  | @refused ticket draw p _ drawn waiting =>
    have fresh := fresh_of_draws ok drawn
    refine ⟨sound.stored,?_,?_,?_,?_⟩
    · intro other q e pending hseen
      exact sound.reads other q e (lookup_erase_some pending) hseen
    · exact nodup_calls _ _ _ sound.keys (callsOf_length p draw)
        (fun σ hσ τ hτ => by rw [callsOf_draw hσ]; exact fresh.key τ hτ)
    · exact nodup_calls _ _ _ sound.nonces (callsOf_length p draw)
        (fun σ hσ τ hτ => by rw [callsOf_draw hσ]; exact fresh.gcmNonce τ hτ)
    · intro σ member
      exact List.mem_append_left _ (sound.written σ member)
  | @wrote ticket draw p next base stored granted lost _ drawn waiting written entered =>
    have fresh := fresh_of_draws ok drawn
    refine ⟨?_,?_,?_,?_,?_⟩
    · simp only [written.put]
      exact wellStored_put sound.stored written.named written.cleared
    · intro other q e pending hseen
      have reads := sound.reads other q e (lookup_erase_some pending) hseen
      refine reads.of_current ?_
      simp only [written.put]
      exact current_put reads.current _ _
    · exact nodup_calls _ _ _ sound.keys (by simp) (by simpa using fresh.key)
    · exact nodup_calls _ _ _ sound.nonces (by simp) (by simpa using fresh.gcmNonce)
    · intro σ member
      rcases (entered σ).mp member with old | rfl
      · exact List.mem_append_left _ (sound.written σ old)
      · exact List.mem_append_right _ (List.mem_singleton_self _)
  | changed change =>
    refine ⟨wellStored_change _ sound.stored change,?_,sound.keys,sound.nonces,sound.written⟩
    intro other p e waiting hseen
    have reads := sound.reads other p e waiting hseen
    exact reads.of_current (current_change _ reads.current change)

theorem run_sound (merges : env.upstream.Merges) (run : (system env).Run s actions t)
    (sound : Sound s) : Sound t :=
  run.invariant Sound (fun _ _ valid ok => step_sound merges valid ok) sound

end Kommodity.Kms
