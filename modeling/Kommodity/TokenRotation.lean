import Kommodity.SigningKeys

/-! The signing-key controller in a running server. The token controller and the authenticator
keep the key they were built with at start-up; the reconciler reads or creates the key in the
Secret and then deletes and recreates every token Secret. -/
namespace Kommodity.SigningKeys.Rotation

open Go Versioned Interaction Transition Secrets

variable {Key : Type}

/-- The two in-memory holders of the key. -/
structure Server (Key : Type) where
  tokenGenerator : Key
  staticPublicKeys : List Key

/-- `startTokenControllerHook`: the generator signs with the key it is given once. -/
def startTokenControllerHook (signingKey : Key) : Key := signingKey

/-- `setupServiceAccountAuth`: a static getter of one public key. -/
def setupServiceAccountAuth (signingKey : Key) : List Key := [signingKey]

def startServer (signingKey : Key) : Server Key :=
  ⟨startTokenControllerHook signingKey,setupServiceAccountAuth signingKey⟩

/-- A Reconcile that has returned: the key stored when it began, whether an operator touched the
Secret while it ran, the objects it left, and the token Secrets that failures had dropped up to
then. -/
structure Completion (Key : Type) where
  outcome : Outcome
  before : Option Key
  edited : Bool
  api : API
  dropped : List ObjectKey

structure Cluster (Key : Type) where
  api : API
  server : Server Key
  busy : Bool
  before : Option Key
  edited : Bool
  drawn : List Key
  dropped : List ObjectKey
  completed : List (Completion Key)

/-- The token Secret a failed call leaves deleted: a Create without effect, or a Delete that took
effect though its caller is told otherwise. -/
def drops : Call → Reply Key → Option ObjectKey
  | .createSecret secret,.refused =>
    if secret.type = secretTypeServiceAccountToken then some (objectKey secret.metadata) else none
  | .deleteSecret key,.lost => some key
  | _,_ => none

def draws : Call → Reply Key → Option Key
  | .generateKey,.drawn key => some key
  | _,_ => none

inductive Disturbance where
  /-- An operator writes the signing-key Secret. -/
  | edit (secret : Secret)
  /-- An operator deletes the signing-key Secret. -/
  | delete
  /-- The token controller fills in a token Secret. -/
  | populate (key : ObjectKey)

def Disturbance.apply (sign : Key → Secret → Bytes) (server : Server Key) (api : API) : Disturbance → API
  | .edit secret => api.putSecret secret
  | .delete => api.removeSecret signingKeySecret
  | .populate key =>
    match api.secrets.get key with
    | none => api
    | some secret =>
      if secret.value.type = secretTypeServiceAccountToken then
        api.putSecret { secret.value with
          data := secret.value.data.insert "token" (sign server.tokenGenerator secret.value) }
      else api

def Disturbance.edits : Disturbance → Bool
  | .populate _ => false
  | _ => true

def Disturbance.possible : Disturbance → Prop
  | .edit secret => objectKey secret.metadata = signingKeySecret
  | _ => True

/-- The Secrets listed, the token Secret deleted and not yet recreated, and the key drawn. -/
structure Notes (Key : Type) where
  listed : List Secret
  removed : Option ObjectKey
  drawn : Option Key

def note (h : Notes Key) : (c : Call) → Answer Key c → Notes Key
  | .listSecrets _,.ok list => { h with listed := list }
  | .deleteSecret key,.ok () => { h with removed := some key }
  | .createSecret _,_ => { h with removed := none }
  | .generateKey,.ok key => { h with drawn := some key }
  | _,_ => h

/-- The controller runs one Reconcile at a time. -/
def controller (codec : Codec Key) (sign : Key → Secret → Bytes) :
    Threads Unit (Cluster Key) Call (Answer Key) (Reply Key) Disturbance (Notes Key) Outcome where
  program _ := reconcile codec
  fresh := ⟨[],none,none⟩
  note := note
  ready s := s.busy = false
  begin s := { s with busy := true, before := storedKey codec s.api, edited := false }
  answerable s _ c f := Listable s.api c f
  serve s c f := ((serve s.api c f).1,{ s with
    api := (serve s.api c f).2
    drawn := (draws c f).toList ++ s.drawn
    dropped := (drops c f).toList ++ s.dropped })
  finish s _ outcome := { s with
    busy := false
    completed := ⟨outcome,s.before,s.edited,s.api,s.dropped⟩ :: s.completed }
  possible _ e := e.possible
  disturb s e := { s with api := e.apply sign s.server s.api, edited := s.edited || e.edits }

def initialCluster (api : API) (server : Server Key) : Cluster Key := ⟨api,server,false,none,false,[],[],[]⟩

/-- A listed Secret the loop rotates. -/
def Rotated (h : Notes Key) (old : Secret) : Prop :=
  old ∈ h.listed ∧ old.type = secretTypeServiceAccountToken

def Next (codec : Codec Key) (h : Notes Key) : Call → Prop
  | .createSecret secret =>
    (h.removed = none ∧ ∃ key, h.drawn = some key ∧
      secret = newSigningKeySecret (convertRSAKeyToPEM codec key)) ∨
    ∃ old, Rotated h old ∧ h.removed = some (objectKey old.metadata) ∧
      ∃ cluster labels annotations, extractSecretMetadata old = .ok (cluster,labels,annotations) ∧
        secret = recreated old labels annotations
  | .deleteSecret key => h.removed = none ∧ ∃ old, Rotated h old ∧ key = objectKey old.metadata
  | .listSecrets namespaceName => h.removed = none ∧ namespaceName = "kube-system"
  | .updateSecret _ => False
  | _ => h.removed = none

def Returns (h : Notes Key) (_ : Outcome) : Prop := h.removed = none

section Trace

variable {codec : Codec Key}

theorem persistSigningKey_traced {h : Notes Key} (idle : h.removed = none) (drawn : h.drawn = some key) :
    (persistSigningKey codec key false).Traced note (Next codec) (fun h' _ => h'.removed = none) h := by
  simp only [persistSigningKey,traced_request_bind]
  refine ⟨Or.inl ⟨idle,key,drawn,rfl⟩,?_⟩
  rintro (err | _)
  · by_cases met : err = .store .alreadyExists <;> simp [met,note]
  · simp [note]

theorem getOrCreateSigningKey_traced {h : Notes Key} (idle : h.removed = none) :
    (getOrCreateSigningKey codec).Traced note (Next codec) (fun h' _ => h'.removed = none) h := by
  simp only [getOrCreateSigningKey,traced_request_bind]
  refine ⟨idle,?_⟩
  rintro (err | secret)
  · simp only [traced_request_bind]
    refine ⟨idle,?_⟩
    rintro (err | key)
    · simpa [note] using idle
    · refine traced_bind (persistSigningKey_traced idle rfl) ?_
      rintro h' (_ | err) idle' <;> simpa using idle'
  · cases data : secret.value.data.lookup signingKeyDataKey <;> simpa [data,note] using idle

theorem updateAutoscalerConfigMap_traced {h : Notes Key} (idle : h.removed = none) :
    (updateAutoscalerConfigMap cluster namespaceName).Traced note (Next codec)
      (fun h' _ => h' = h) h := by
  simp only [updateAutoscalerConfigMap,traced_request_bind]
  refine ⟨idle,?_⟩
  rintro (err | configMap)
  · simp [note]
  · simp only [traced_request_bind]
    refine ⟨idle,fun _ => ⟨idle,?_⟩⟩
    rintro (err | _) <;> simp [note]

theorem rotateServiceAccountTokenSecret_traced {h : Notes Key} (idle : h.removed = none)
    (rotated : Rotated h old) :
    (rotateServiceAccountTokenSecret old).Traced note (Next codec)
      (fun h' _ => h'.removed = none ∧ h'.listed = h.listed) h := by
  simp only [rotateServiceAccountTokenSecret]
  cases extracted : extractSecretMetadata old with
  | error err => simpa using idle
  | ok parts =>
    obtain ⟨cluster,labels,annotations⟩ := parts
    simp only [traced_request_bind]
    refine ⟨⟨idle,old,rotated,rfl⟩,?_⟩
    rintro (err | _)
    · simpa [note] using idle
    · simp only [traced_request_bind]
      refine ⟨Or.inr ⟨old,rotated,rfl,cluster,labels,annotations,extracted,rfl⟩,?_⟩
      rintro (err | _)
      · simp [note]
      · refine traced_bind (updateAutoscalerConfigMap_traced rfl) ?_
        rintro h' _ rfl
        simp [note]

theorem rotateSecrets_traced (list : List Secret) {h : Notes Key} (idle : h.removed = none)
    (within : ∀ secret ∈ list, secret ∈ h.listed) :
    (rotateSecrets list).Traced note (Next codec) (fun h' _ => h'.removed = none) h := by
  induction list generalizing h with
  | nil => simpa [rotateSecrets] using idle
  | cons secret rest ih =>
    have tail : ∀ secret ∈ rest, secret ∈ h.listed :=
      fun other member => within other (List.mem_cons_of_mem _ member)
    rw [rotateSecrets]
    split
    · exact ih idle tail
    · next token =>
      split
      · exact ih idle tail
      · have rotated : Rotated h secret := ⟨within secret (List.mem_cons_self ..),not_not.mp token⟩
        refine traced_bind (rotateServiceAccountTokenSecret_traced idle rotated) ?_
        rintro h' (_ | err) ⟨idle',listed⟩
        · exact ih idle' (by rw [listed]; exact tail)
        · simpa using idle'

theorem reconcile_traced (codec : Codec Key) :
    (reconcile codec).Traced note (Next codec) Returns ⟨[],none,none⟩ := by
  refine traced_bind (getOrCreateSigningKey_traced rfl) ?_
  rintro h (err | _) idle
  · simpa [Returns] using idle
  · simp only [traced_request_bind]
    refine ⟨⟨idle,rfl⟩,?_⟩
    rintro (err | list)
    · simpa [Returns,note] using idle
    · refine traced_bind (rotateSecrets_traced list (by simpa [note] using idle) (by simp [note])) ?_
      rintro h' (_ | err) idle' <;> simpa [Returns] using idle'

end Trace

def saName (secret : Secret) : Option String :=
  secret.metadata.annotations.lookup serviceAccountNameAnnotation

/-- A token Secret of the same name and for the same service account was there at the start. -/
def Matches (origin : API) (key : ObjectKey) (secret : Secret) : Prop :=
  secret.type = secretTypeServiceAccountToken ∧
  ∃ e, origin.secrets.get key = some e ∧ e.value.type = secretTypeServiceAccountToken ∧
    saName secret = saName e.value

/-- Every token Secret of the start exists, with its name, type and service account. -/
def Restored (origin api : API) : Prop :=
  ∀ key e, origin.secrets.get key = some e → e.value.type = secretTypeServiceAccountToken →
    ∃ e', api.secrets.get key = some e' ∧ e'.value.type = secretTypeServiceAccountToken ∧
      saName e'.value = saName e.value

private theorem lookup_foldl_helm (entries : List (Sigma fun _ : String => String))
    (kept : Map String String) :
    (entries.foldl (fun kept e =>
        if hasPrefix e.1 "meta.helm.sh" then kept.insert e.1 e.2 else kept) kept).lookup
      serviceAccountNameAnnotation = kept.lookup serviceAccountNameAnnotation := by
  induction entries generalizing kept with
  | nil => rfl
  | cons e rest ih =>
    rw [List.foldl_cons,ih]
    split
    · next helm =>
      have other : serviceAccountNameAnnotation ≠ e.1 := by
        intro same
        rw [← same] at helm
        exact absurd helm (by decide)
      rw [AList.lookup_insert_ne other]
    · rfl

theorem saName_recreated (extracted : extractSecretMetadata old = .ok (cluster,labels,annotations)) :
    saName (recreated old labels annotations) = saName old := by
  unfold extractSecretMetadata at extracted
  split at extracted
  · cases extracted
  · next account found =>
    split at extracted
    · cases extracted
    · simp only [Except.ok.injEq,Prod.mk.injEq] at extracted
      obtain ⟨_,_,rfl⟩ := extracted
      simp only [saName,recreated,lookup_foldl_helm,AList.lookup_insert,found]

/-- The Secrets at the start, the token Secrets dropped since, and what is there now. -/
structure Inv (origin : API) (s : Cluster Key) : Prop where
  tokens : ∀ key e, s.api.secrets.get key = some e → e.value.type = secretTypeServiceAccountToken →
    Matches origin key e.value
  absent : ∀ key ∈ s.dropped, s.api.secrets.get key = none ∧ key.1 = "kube-system" ∧
    ∃ e, origin.secrets.get key = some e ∧ e.value.type = secretTypeServiceAccountToken
  resting : s.busy = false → s.dropped = [] → Restored origin s.api
  completed : ∀ c ∈ s.completed, Restored origin c.api ↔ c.dropped = []

structure Held (origin : API) (s : Cluster Key) (h : Notes Key) : Prop where
  busy : s.busy = true
  listed : ∀ old ∈ h.listed, old.type = secretTypeServiceAccountToken →
    old.metadata.namespaceName = "kube-system" ∧ Matches origin (objectKey old.metadata) old
  removed : ∀ key, h.removed = some key → s.api.secrets.get key = none ∧ key ∉ s.dropped
  kept : s.dropped = [] → ∀ key e, origin.secrets.get key = some e →
    e.value.type = secretTypeServiceAccountToken →
    h.removed = some key ∨ ∃ e', s.api.secrets.get key = some e' ∧
      e'.value.type = secretTypeServiceAccountToken ∧ saName e'.value = saName e.value

theorem not_restored_of_dropped (inv : Inv origin s) (dropped : s.dropped ≠ []) :
    ¬ Restored origin s.api := by
  intro restored
  obtain ⟨key,member⟩ := List.exists_mem_of_ne_nil _ dropped
  obtain ⟨gone,_,e,found,token⟩ := inv.absent key member
  obtain ⟨e',found',_⟩ := restored key e found token
  rw [gone] at found'
  cases found'

theorem Held.restored (held : Held origin s h) (idle : h.removed = none) (clean : s.dropped = []) :
    Restored origin s.api := by
  intro key e found token
  rcases held.kept clean key e found token with removed | there
  · rw [idle] at removed; cases removed
  · exact there

section Steps

variable {s next : Cluster Key} {h h' : Notes Key}

/-- What the invariant sees of a Secret. -/
def view (api : API) (key : ObjectKey) : Option (String × Option String) :=
  (api.secrets.get key).map fun e => (e.value.type,saName e.value)

theorem get_of_view {api next : API} (same : view next key = view api key)
    (found : api.secrets.get key = some e) :
    ∃ e', next.secrets.get key = some e' ∧ e'.value.type = e.value.type ∧ saName e'.value = saName e.value := by
  simp only [view,found,Option.map_some,Option.map_eq_some_iff,Prod.mk.injEq] at same
  exact same

theorem get_none_of_view {api next : API} (same : view next key = view api key)
    (absent : api.secrets.get key = none) : next.secrets.get key = none := by
  simpa [view,absent] using same

theorem Inv.frame (inv : Inv origin s) (same : ∀ key, view next.api key = view s.api key)
    (busy : next.busy = s.busy) (dropped : next.dropped = s.dropped)
    (completed : next.completed = s.completed) : Inv origin next := by
  refine ⟨?_,?_,?_,?_⟩
  · intro key e found token
    obtain ⟨e',found',type,account⟩ := get_of_view (same key).symm found
    obtain ⟨token',e0,original,isToken,account'⟩ := inv.tokens key e' found' (type.trans token)
    exact ⟨token,e0,original,isToken,account.symm.trans account'⟩
  · intro key member
    rw [dropped] at member
    obtain ⟨gone,rest⟩ := inv.absent key member
    exact ⟨get_none_of_view (same key) gone,rest⟩
  · intro rest clean key e found token
    obtain ⟨e',found',token',account⟩ := inv.resting (busy ▸ rest) (dropped ▸ clean) key e found token
    obtain ⟨e'',found'',type,account'⟩ := get_of_view (same key) found'
    exact ⟨e'',found'',type.trans token',account'.trans account⟩
  · rw [completed]; exact inv.completed

theorem Held.frame (held : Held origin s h) (same : ∀ key, view next.api key = view s.api key)
    (busy : next.busy = s.busy) (dropped : next.dropped = s.dropped) (removed : h'.removed = h.removed)
    (listed : ∀ old ∈ h'.listed, old.type = secretTypeServiceAccountToken →
      old.metadata.namespaceName = "kube-system" ∧ Matches origin (objectKey old.metadata) old) :
    Held origin next h' := by
  refine ⟨busy.trans held.busy,listed,?_,?_⟩
  · intro key isRemoved
    obtain ⟨gone,clear⟩ := held.removed key (removed ▸ isRemoved)
    exact ⟨get_none_of_view (same key) gone,dropped ▸ clear⟩
  · intro clean key e found token
    rcases held.kept (dropped ▸ clean) key e found token with isRemoved | ⟨e',found',token',account⟩
    · exact Or.inl (removed.trans isRemoved)
    · obtain ⟨e'',found'',type,account'⟩ := get_of_view (same key) found'
      exact Or.inr ⟨e'',found'',type.trans token',account'.trans account⟩

theorem view_of_secrets {api next : API} (same : next.secrets = api.secrets) (key : ObjectKey) :
    view next key = view api key := by
  rw [view,view,same]

theorem view_populate (sign : Key → Secret → Bytes) (server : Server Key) (api : API)
    (populated key : ObjectKey) :
    view (Disturbance.apply sign server api (.populate populated)) key = view api key := by
  simp only [Disturbance.apply]
  split
  · rfl
  · next e found =>
    split
    · have name := api.named populated e found
      simp only [view,get_putSecret]
      split
      · next same => rw [same,name,found]; rfl
      · rfl
    · rfl

theorem mem_list (inv : Inv origin s) (member : old ∈ s.api.list "kube-system" order)
    (token : old.type = secretTypeServiceAccountToken) :
    old.metadata.namespaceName = "kube-system" ∧ Matches origin (objectKey old.metadata) old := by
  obtain ⟨key,_,found⟩ := List.mem_filterMap.mp member
  split at found
  · next inNamespace =>
    obtain ⟨e,stored,rfl⟩ := Option.map_eq_some_iff.mp found
    have name := s.api.named key e stored
    refine ⟨?_,name ▸ inv.tokens key e stored token⟩
    rw [← inNamespace,← name]; rfl
  · cases found

theorem Inv.put (inv : Inv origin s) (held : Held origin s h)
    (token : secret.type = secretTypeServiceAccountToken →
      Matches origin (objectKey secret.metadata) secret)
    (clear : objectKey secret.metadata ∉ s.dropped) (api : next.api = s.api.putSecret secret)
    (busy : next.busy = s.busy) (dropped : next.dropped = s.dropped)
    (completed : next.completed = s.completed) : Inv origin next := by
  refine ⟨?_,?_,?_,?_⟩
  · intro key e found isToken
    rw [api,get_putSecret] at found
    split at found
    · next same => cases found; subst same; exact token isToken
    · exact inv.tokens key e found isToken
  · intro key member
    rw [dropped] at member
    have other : key ≠ objectKey secret.metadata := fun same => clear (same ▸ member)
    rw [api,get_putSecret,if_neg other]
    exact inv.absent key member
  · intro rest
    rw [busy,held.busy] at rest; cases rest
  · rw [completed]; exact inv.completed

theorem Held.put (held : Held origin s h)
    (keeps : ∀ key, h.removed = some key → key = objectKey secret.metadata ∧ ∀ e,
      origin.secrets.get key = some e → secret.type = secretTypeServiceAccountToken ∧
        saName secret = saName e.value)
    (free : s.api.secrets.get (objectKey secret.metadata) = none)
    (api : next.api = s.api.putSecret secret)
    (busy : next.busy = s.busy) (dropped : next.dropped = s.dropped) (removed : h'.removed = none)
    (listed : h'.listed = h.listed) : Held origin next h' := by
  refine ⟨busy.trans held.busy,listed ▸ held.listed,?_,?_⟩
  · intro key isRemoved
    rw [removed] at isRemoved; cases isRemoved
  · intro clean key e found token
    refine Or.inr ?_
    rw [api,get_putSecret]
    rcases held.kept (dropped ▸ clean) key e found token with isRemoved | ⟨e',there,same⟩
    · obtain ⟨rfl,like⟩ := keeps key isRemoved
      exact ⟨_,if_pos rfl,like e found⟩
    · have other : key ≠ objectKey secret.metadata := by
        rintro rfl
        rw [free] at there; cases there
      exact ⟨e',by rw [if_neg other]; exact there,same⟩

theorem Inv.remove (inv : Inv origin s) (held : Held origin s h) (rotated : Rotated h old)
    (secrets : ∀ key, next.api.secrets.get key =
      if key = objectKey old.metadata then none else s.api.secrets.get key)
    (busy : next.busy = s.busy)
    (dropped : next.dropped = s.dropped ∨ next.dropped = objectKey old.metadata :: s.dropped)
    (completed : next.completed = s.completed) : Inv origin next := by
  obtain ⟨inNamespace,_,e,original,token,_⟩ := held.listed old rotated.1 rotated.2
  refine ⟨?_,?_,?_,?_⟩
  · intro key e found isToken
    rw [secrets] at found
    split at found
    · cases found
    · exact inv.tokens key e found isToken
  · intro key member
    by_cases same : key = objectKey old.metadata
    · subst same
      exact ⟨by rw [secrets,if_pos rfl],inNamespace,e,original,token⟩
    · have earlier : key ∈ s.dropped := by
        rcases dropped with unchanged | added
        · rwa [unchanged] at member
        · rw [added] at member
          exact (List.mem_cons.mp member).resolve_left same
      rw [secrets,if_neg same]
      exact inv.absent key earlier
  · intro rest
    rw [busy,held.busy] at rest; cases rest
  · rw [completed]; exact inv.completed

theorem Held.remove (held : Held origin s h) (idle : h.removed = none)
    (stays : h'.removed = none → next.dropped ≠ [])
    (secrets : ∀ key, next.api.secrets.get key = if key = gone then none else s.api.secrets.get key)
    (busy : next.busy = s.busy) (dropped : next.dropped = [] → s.dropped = [])
    (removed : ∀ key, h'.removed = some key → key = gone ∧ key ∉ next.dropped)
    (listed : h'.listed = h.listed) : Held origin next h' := by
  refine ⟨busy.trans held.busy,listed ▸ held.listed,?_,?_⟩
  · intro key isRemoved
    obtain ⟨rfl,clear⟩ := removed key isRemoved
    exact ⟨by rw [secrets,if_pos rfl],clear⟩
  · intro clean key e found token
    obtain ⟨last,isLast⟩ := Option.ne_none_iff_exists'.mp fun empty => stays empty clean
    obtain ⟨rfl,_⟩ := removed last isLast
    rcases held.kept (dropped clean) key e found token with isRemoved | ⟨e',there,same⟩
    · rw [idle] at isRemoved; cases isRemoved
    · by_cases isGone : key = last
      · subst isGone; exact Or.inl isLast
      · exact Or.inr ⟨e',by rw [secrets,if_neg isGone]; exact there,same⟩

private theorem answered_createKey (inv : Inv origin s) (held : Held origin s h)
    (idle : h.removed = none) (keyPEM : Bytes) (f : Reply Key) :
    Inv origin ((controller codec sign).serve s (.createSecret (newSigningKeySecret keyPEM)) f).2 ∧
    Held origin ((controller codec sign).serve s (.createSecret (newSigningKeySecret keyPEM)) f).2
      { h with removed := none } := by
  have other : (newSigningKeySecret keyPEM).type ≠ secretTypeServiceAccountToken := by
    simp [newSigningKeySecret,secretTypeOpaque,secretTypeServiceAccountToken]
  have quiet : drops (.createSecret (newSigningKeySecret keyPEM)) f = none := by
    cases f <;> simp [drops,other]
  have dropped : ((controller codec sign).serve s (.createSecret (newSigningKeySecret keyPEM)) f).2.dropped
      = s.dropped := by
    simp [controller,quiet]
  rcases serve_createSecret s.api (newSigningKeySecret keyPEM) f with ⟨free,_,api⟩ | ⟨_,api⟩
  · have clear : objectKey (newSigningKeySecret keyPEM).metadata ∉ s.dropped := by
      intro member
      have name := (inv.absent _ member).2.1
      simp [objectKey,newSigningKeySecret,kommodityNamespace] at name
    refine ⟨inv.put held (fun token => absurd token other) clear api rfl dropped rfl,?_⟩
    refine held.put ?_ free api rfl dropped rfl rfl
    intro key isRemoved
    rw [idle] at isRemoved; cases isRemoved
  · have secrets : ((controller codec sign).serve s
        (.createSecret (newSigningKeySecret keyPEM)) f).2.api.secrets = s.api.secrets :=
      congrArg API.secrets api
    exact ⟨inv.frame (view_of_secrets secrets) rfl dropped rfl,
      held.frame (view_of_secrets secrets) rfl dropped idle.symm held.listed⟩

private theorem answered_recreate (inv : Inv origin s) (held : Held origin s h) (rotated : Rotated h old)
    (isRemoved : h.removed = some (objectKey old.metadata))
    (extracted : extractSecretMetadata old = .ok (cluster,labels,annotations)) (f : Reply Key) :
    Inv origin ((controller codec sign).serve s (.createSecret (recreated old labels annotations)) f).2 ∧
    Held origin ((controller codec sign).serve s (.createSecret (recreated old labels annotations)) f).2
      { h with removed := none } := by
  obtain ⟨free,clear⟩ := held.removed _ isRemoved
  obtain ⟨_,_,e,original,token,account⟩ := held.listed old rotated.1 rotated.2
  have same := saName_recreated extracted
  rcases serve_createSecret s.api (recreated old labels annotations) f with
    ⟨free',sent,api⟩ | ⟨refused | ⟨e,taken⟩,api⟩
  · have dropped : ((controller codec sign).serve s
        (.createSecret (recreated old labels annotations)) f).2.dropped = s.dropped := by
      cases f <;> simp_all [controller,drops]
    have token' : (recreated old labels annotations).type = secretTypeServiceAccountToken →
        Matches origin (objectKey (recreated old labels annotations).metadata)
          (recreated old labels annotations) :=
      fun _ => ⟨rfl,e,original,token,same.trans account⟩
    refine ⟨inv.put held token' clear api rfl dropped rfl,held.put ?_ free' api rfl dropped rfl rfl⟩
    intro key isKey
    obtain rfl : key = objectKey old.metadata := Option.some.inj (isKey.symm.trans isRemoved)
    refine ⟨rfl,fun e' original' => ⟨rfl,?_⟩⟩
    obtain rfl : e' = e := Option.some.inj (original'.symm.trans original)
    exact same.trans account
  · subst refused
    have secrets : ∀ key, ((controller codec sign).serve s
        (.createSecret (recreated old labels annotations)) .refused).2.api.secrets.get key =
        if key = objectKey old.metadata then none else s.api.secrets.get key := by
      intro key
      refine (congrArg (fun api : API => api.secrets.get key) api).trans ?_
      split
      · next isGone => rw [isGone,free]
      · rfl
    refine ⟨inv.remove held rotated secrets rfl (Or.inr rfl) rfl,?_⟩
    exact ⟨held.busy,held.listed,(fun _ isKey => by cases isKey),(fun clean => by cases clean)⟩
  · have taken' : s.api.secrets.get (objectKey old.metadata) = some e := taken
    rw [free] at taken'; cases taken'

private theorem answered_delete (inv : Inv origin s) (held : Held origin s h) (rotated : Rotated h old)
    (idle : h.removed = none) (f : Reply Key) :
    Inv origin ((controller codec sign).serve s (.deleteSecret (objectKey old.metadata)) f).2 ∧
    Held origin ((controller codec sign).serve s (.deleteSecret (objectKey old.metadata)) f).2
      (note h (.deleteSecret (objectKey old.metadata))
        ((controller codec sign).serve s (.deleteSecret (objectKey old.metadata)) f).1) := by
  rcases serve_deleteSecret s.api (objectKey old.metadata) f with
    ⟨told,answer,e,there⟩ | ⟨told,e,answer⟩ | ⟨rfl,answer,secrets⟩
  · have quiet : drops (.deleteSecret (objectKey old.metadata)) f = none := by
      cases f <;> simp_all [drops]
    have clear : objectKey old.metadata ∉ s.dropped := by
      intro member
      rw [(inv.absent _ member).1] at there; cases there
    simp only [controller,answer,quiet,note,Option.toList_none,List.nil_append]
    have secrets := get_removeSecret s.api (objectKey old.metadata)
    refine ⟨inv.remove held rotated secrets rfl (Or.inl rfl) rfl,?_⟩
    refine held.remove idle (by simp) secrets rfl (fun clean => clean) ?_ rfl
    intro key isKey
    cases isKey
    exact ⟨rfl,clear⟩
  · have quiet : drops (.deleteSecret (objectKey old.metadata)) f = none := by
      cases f <;> simp_all [drops]
    simp only [controller,answer,quiet,note,Option.toList_none,List.nil_append]
    exact ⟨inv.frame (fun _ => rfl) rfl rfl rfl,held.frame (fun _ => rfl) rfl rfl rfl held.listed⟩
  · simp only [controller,answer,note]
    refine ⟨inv.remove held rotated secrets rfl (Or.inr rfl) rfl,?_⟩
    refine held.remove idle (by simp [drops]) secrets rfl (by simp [drops]) ?_ rfl
    intro key isKey
    rw [idle] at isKey; cases isKey

theorem Inv.answered (inv : Inv origin s) (held : Held origin s h) (permitted : Next codec h c)
    (sign : Key → Secret → Bytes) (f : Reply Key) :
    Inv origin ((controller codec sign).serve s c f).2 ∧
    Held origin ((controller codec sign).serve s c f).2
      (note h c ((controller codec sign).serve s c f).1) := by
  cases c with
  | getSecret key => exact ⟨inv.frame (fun _ => rfl) rfl rfl rfl,held.frame (fun _ => rfl) rfl rfl rfl held.listed⟩
  | createSecret secret =>
    rcases permitted with ⟨idle,key,_,rfl⟩ | ⟨old,rotated,isRemoved,_,_,_,extracted,rfl⟩
    · exact answered_createKey inv held idle _ f
    · exact answered_recreate inv held rotated isRemoved extracted f
  | updateSecret secret => exact permitted.elim
  | deleteSecret key =>
    obtain ⟨idle,old,rotated,rfl⟩ := permitted
    exact answered_delete inv held rotated idle f
  | listSecrets namespaceName =>
    obtain ⟨_,rfl⟩ := permitted
    cases f with
    | listed order =>
      refine ⟨inv.frame (fun _ => rfl) rfl rfl rfl,held.frame (fun _ => rfl) rfl rfl rfl ?_⟩
      exact fun old member token => mem_list inv member token
    | _ => exact ⟨inv.frame (fun _ => rfl) rfl rfl rfl,held.frame (fun _ => rfl) rfl rfl rfl held.listed⟩
  | getConfigMap key => exact ⟨inv.frame (fun _ => rfl) rfl rfl rfl,held.frame (fun _ => rfl) rfl rfl rfl held.listed⟩
  | updateConfigMap configMap =>
    have secrets := serve_updateConfigMap s.api configMap f
    exact ⟨inv.frame (view_of_secrets secrets) rfl rfl rfl,held.frame (view_of_secrets secrets) rfl rfl rfl held.listed⟩
  | generateKey =>
    cases f <;> exact ⟨inv.frame (fun _ => rfl) rfl rfl rfl,held.frame (fun _ => rfl) rfl rfl rfl held.listed⟩
  | unixTime =>
    cases f <;> exact ⟨inv.frame (fun _ => rfl) rfl rfl rfl,held.frame (fun _ => rfl) rfl rfl rfl held.listed⟩

end Steps

/-- Operators leave the cluster alone; the token controller works. -/
def OnlyTokens (_ : Cluster Key) : Disturbance → Prop
  | .populate _ => True
  | _ => False

def undisturbed (codec : Codec Key) (sign : Key → Secret → Bytes) :
    Threads Unit (Cluster Key) Call (Answer Key) (Reply Key) Disturbance (Notes Key) Outcome :=
  (controller codec sign).restrict (fun _ _ _ _ => True) OnlyTokens

theorem undisturbed_keeps (origin : API) (codec : Codec Key) (sign : Key → Secret → Bytes) :
    (undisturbed codec sign).Keeps (Next codec) Returns (Inv origin) (Held origin) :=
  .single {
    begins := by
      intro s inv ready
      refine ⟨⟨inv.tokens,inv.absent,(fun rest => by cases rest),inv.completed⟩,rfl,?_,?_,?_⟩
      · exact fun _ member => by cases member
      · exact fun _ isRemoved => by cases isRemoved
      · exact fun clean key e found token => Or.inr (inv.resting ready clean key e found token)
    answers := fun s h c f inv held permitted _ => inv.answered held permitted sign f
    finishes := by
      intro s h outcome inv held returns
      have settled : Restored origin s.api ↔ s.dropped = [] := by
        refine ⟨fun restored => ?_,held.restored returns⟩
        by_contra dropped
        exact not_restored_of_dropped inv dropped restored
      refine ⟨inv.tokens,inv.absent,fun _ clean => settled.mpr clean,?_⟩
      intro c member
      rcases List.mem_cons.mp member with rfl | earlier
      · exact settled
      · exact inv.completed c earlier
    disturbs := by
      intro s e inv possible
      cases e with
      | edit secret => exact possible.2.elim
      | delete => exact possible.2.elim
      | populate key =>
        have same := view_populate sign s.server s.api key
        exact ⟨inv.frame same rfl rfl rfl,fun h held => held.frame same rfl rfl rfl held.listed⟩
  }

/-- Whenever a Reconcile has returned, the token Secrets of the start are all there exactly if no
Create was refused and no Delete was lost on the way. -/
theorem tokens_restored_iff
    (run : (undisturbed codec sign).system.Run (idle (initialCluster api server)) actions t) :
    ∀ c ∈ t.shared.completed, Restored api c.api ↔ c.dropped = [] := by
  have initial : Inv api (initialCluster api server) := by
    refine ⟨?_,?_,?_,?_⟩
    · exact fun key e found token => ⟨token,e,found,token,rfl⟩
    · exact fun key member => by cases member
    · exact fun _ _ key e found token => ⟨e,found,token,rfl⟩
    · exact fun c member => by cases member
  have good := (undisturbed_keeps api codec sign).run (fun _ => reconcile_traced codec)
    (good_idle initial) run
  exact good.1.completed

def workloadToken : Secret where
  metadata := ⟨"workload-token","kube-system",
    (∅ : Map String String).insert clusterNameLabel "workload",
    (∅ : Map String String).insert serviceAccountNameAnnotation "workload"⟩
  type := secretTypeServiceAccountToken
  data := ∅
  stringData := ∅
  immutable := none

/-- The signing key `[7]` and one token Secret. -/
def oneToken : API := (emptyAPI.putSecret (newSigningKeySecret [7])).putSecret workloadToken

def plainSign : Bytes → Secret → Bytes := fun key _ => key

theorem tokens_restored_oneToken :
    ∃ t, (undisturbed plainCodec plainSign).system.Run (idle (initialCluster oneToken (startServer [7])))
        [.begin (),.answer () .fine,.answer () (.listed oneToken.secrets.objects.keys),.answer () .fine,
          .answer () .fine,.answer () .refused] t ∧
      ∃ c ∈ t.shared.completed, c.outcome.error = none ∧ Restored oneToken c.api := by
  have run : (undisturbed plainCodec plainSign).system.Run
      (idle (initialCluster oneToken (startServer [7]))) [.begin (),.answer () .fine,
        .answer () (.listed oneToken.secrets.objects.keys),.answer () .fine,.answer () .fine,
        .answer () .refused] _ :=
    .of ⟨⟨rfl,rfl⟩,⟨_,_,_,rfl,trivial,trivial⟩,⟨_,_,_,rfl,List.Perm.refl _,trivial⟩,
      ⟨_,_,_,rfl,trivial,trivial⟩,⟨_,_,_,rfl,trivial,trivial⟩,⟨_,_,_,rfl,trivial,trivial⟩,trivial⟩
  exact ⟨_,run,_,List.mem_cons_self ..,rfl,
    (tokens_restored_iff run _ (List.mem_cons_self ..)).mpr rfl⟩

/-- One refused Create, and the retry finds nothing left to rotate. -/
theorem refused_create_loses_token :
    ∃ t, (undisturbed plainCodec plainSign).system.Run (idle (initialCluster oneToken (startServer [7])))
        [.begin (),.answer () .fine,.answer () (.listed oneToken.secrets.objects.keys),.answer () .fine,
          .answer () .refused,.begin (),.answer () .fine,.answer () (.listed [signingKeySecret])] t ∧
      ∃ c ∈ t.shared.completed, c.outcome.error = none ∧ ¬ Restored oneToken c.api := by
  refine ⟨_,.of ⟨⟨rfl,rfl⟩,⟨_,_,_,rfl,trivial,trivial⟩,⟨_,_,_,rfl,List.Perm.refl _,trivial⟩,
    ⟨_,_,_,rfl,trivial,trivial⟩,⟨_,_,_,rfl,trivial,trivial⟩,⟨rfl,rfl⟩,⟨_,_,_,rfl,trivial,trivial⟩,
    ⟨_,_,_,rfl,List.Perm.refl _,trivial⟩,trivial⟩,_,List.mem_cons_self ..,rfl,?_⟩
  intro restored
  obtain ⟨e,found,_⟩ := restored ("kube-system","workload-token") ⟨workloadToken,2⟩ rfl rfl
  cases found

end Kommodity.SigningKeys.Rotation
