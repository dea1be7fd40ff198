import Kommodity.TokenRotation

/-! One Reconcile of the signing-key controller that runs alone, with no call refused or lost:
which token Secrets it creates anew, whatever the order of the list. -/
namespace Kommodity.SigningKeys.Coverage

open Go Versioned Interaction Secrets Rotation

variable {Key : Type}

/-- No call fails: a list shows every Secret once, in any order, and a key can be drawn. -/
def Succeeds (api : API) : Call → Reply Key → Prop
  | .listSecrets _,.listed order => order.Perm api.secrets.objects.keys
  | .listSecrets _,_ => False
  | .generateKey,.drawn _ => True
  | .generateKey,_ => False
  | .unixTime,.time _ => True
  | .unixTime,_ => False
  | _,.fine => True
  | _,_ => False

instance (api : API) (c : Call) (reply : Reply Key) : Decidable (Succeeds api c reply) := by
  unfold Succeeds
  split <;> infer_instance

/-- The Secrets the loop does not skip. -/
def isToken (secret : Secret) : Bool :=
  secret.type = secretTypeServiceAccountToken && (saName secret).isSome

/-- Some cluster owns the token. -/
def labelled (secret : Secret) : Bool := (secret.metadata.labels.lookup clusterNameLabel).isSome

/-- From `s` to `t` the given Secrets are created anew, under their names and for their service
accounts, and no other Secret changes. -/
structure Renews (tokens : List Secret) (s t : API) : Prop where
  created : ∀ old ∈ tokens, ∃ labels annotations version, s.secrets.revision < version ∧
    t.secrets.get (objectKey old.metadata) = some ⟨recreated old labels annotations,version⟩ ∧
    saName (recreated old labels annotations) = saName old
  kept : ∀ key, (∀ old ∈ tokens, objectKey old.metadata ≠ key) →
    t.secrets.get key = s.secrets.get key
  later : s.secrets.revision ≤ t.secrets.revision

theorem renews_nil (s : API) : Renews [] s s :=
  ⟨by simp,fun _ _ => rfl,Nat.le_refl _⟩

theorem Renews.cons (apart : ∀ other ∈ rest, objectKey other.metadata ≠ objectKey old.metadata)
    (first : Renews [old] s m) (others : Renews rest m t) : Renews (old :: rest) s t := by
  refine ⟨?_,?_,Nat.le_trans first.later others.later⟩
  · intro token member
    rcases List.mem_cons.mp member with rfl | member
    · obtain ⟨labels,annotations,version,newer,found,account⟩ := first.created token (by simp)
      refine ⟨labels,annotations,version,newer,?_,account⟩
      rw [others.kept _ apart,found]
    · obtain ⟨labels,annotations,version,newer,found⟩ := others.created token member
      exact ⟨labels,annotations,version,Nat.lt_of_le_of_lt first.later newer,found⟩
  · intro key free
    rw [others.kept key (fun other member => free other (List.mem_cons_of_mem _ member))]
    exact first.kept key (by simpa using free old (by simp))

theorem updateAutoscalerConfigMap_ensures (api : API) (clusterName namespaceName : String) :
    (updateAutoscalerConfigMap clusterName namespaceName : KeyProgram Key _).Ensures serve Succeeds
      (fun _ t => t.secrets = api.secrets) api := by
  unfold updateAutoscalerConfigMap
  simp only [ensures_request_bind]
  intro f _
  split
  · rfl
  · simp only [ensures_request_bind]
    intro g _ k _
    split <;> exact (serve_updateConfigMap _ _ k).trans (by cases g <;> rfl)

theorem extractSecretMetadata_unlabelled (account : (saName old).isSome) (bare : labelled old = false) :
    ∃ err, extractSecretMetadata old = .error err := by
  simp only [labelled,Option.isSome_eq_false_iff,Option.isNone_iff_eq_none] at bare
  obtain ⟨name,found⟩ := Option.isSome_iff_exists.mp account
  exact ⟨_,by simp [extractSecretMetadata,show old.metadata.annotations.lookup _ = _ from found,bare]; rfl⟩

theorem extractSecretMetadata_labelled (account : (saName old).isSome) (owned : labelled old = true) :
    ∃ found, extractSecretMetadata old = .ok found := by
  obtain ⟨name,found⟩ := Option.isSome_iff_exists.mp account
  obtain ⟨cluster,owner⟩ := Option.isSome_iff_exists.mp owned
  exact ⟨_,by simp [extractSecretMetadata,show old.metadata.annotations.lookup _ = _ from found,owner]; rfl⟩

/-- Delete and create: the name holds a new object for the same service account. -/
theorem renews_recreated (api : API)
    (extracted : extractSecretMetadata old = .ok (cluster,labels,annotations)) :
    Renews [old] api ((api.removeSecret (objectKey old.metadata)).putSecret
      (recreated old labels annotations)) := by
  refine ⟨?_,?_,?_⟩
  · intro token member
    cases List.mem_singleton.mp member
    refine ⟨labels,annotations,api.secrets.revision + 2,by omega,?_,saName_recreated extracted⟩
    simp [recreated,objectKey,API.removeSecret]
  · intro key free
    have apart : key ≠ objectKey old.metadata := (free old (by simp)).symm
    have apart' : key ≠ objectKey (recreated old labels annotations).metadata := apart
    simp [apart,apart']
  · simp [API.removeSecret,API.putSecret]
    omega

theorem rotateServiceAccountTokenSecret_ensures (api : API) (account : (saName old).isSome)
    (stored : api.secrets.get (objectKey old.metadata) = some e) :
    (rotateServiceAccountTokenSecret old : KeyProgram Key _).Ensures serve Succeeds
      (fun err t => (err = none ↔ labelled old = true) ∧ (err = none → Renews [old] api t)) api := by
  unfold rotateServiceAccountTokenSecret
  cases owned : labelled old with
  | false =>
    obtain ⟨err,extracted⟩ := extractSecretMetadata_unlabelled account owned
    simp [extracted]
  | true =>
    obtain ⟨⟨cluster,labels,annotations⟩,extracted⟩ := extractSecretMetadata_labelled account owned
    simp only [extracted,ensures_request_bind]
    intro f admitted
    cases f <;> simp only [Succeeds] at admitted
    simp only [serve,answerWrite,API.deleteSecret,stored,ensures_request_bind]
    intro f admitted
    cases f <;> simp only [Succeeds] at admitted
    have free : (api.removeSecret (objectKey old.metadata)).secrets.get
        (objectKey (recreated old labels annotations).metadata) = none := by
      simp [recreated,objectKey]
    simp only [API.createSecret,free]
    refine ensures_bind (updateAutoscalerConfigMap_ensures _ _ _) ?_
    intro _ t same
    simp only [ensures_pure,true_and,true_implies]
    have renewed := renews_recreated api extracted
    exact ⟨by rw [same]; exact renewed.created,by rw [same]; exact renewed.kept,
      by rw [same]; exact renewed.later⟩

/-- The loop ends without error exactly when every token in the list has an owner, and then it has
created all of them anew. -/
theorem rotateSecrets_ensures (api : API)
    (stored : ∀ secret ∈ list, ∃ e, api.secrets.get (objectKey secret.metadata) = some e)
    (apart : (list.map fun secret => objectKey secret.metadata).Nodup) :
    (rotateSecrets list : KeyProgram Key _).Ensures serve Succeeds
      (fun err t => (err = none ↔ ∀ secret ∈ list.filter isToken, labelled secret = true) ∧
        (err = none → Renews (list.filter isToken) api t)) api := by
  induction list generalizing api with
  | nil =>
    rw [rotateSecrets]
    simpa using renews_nil api
  | cons old rest ih =>
    obtain ⟨fresh,apart⟩ := List.nodup_cons.mp apart
    have fresh : ∀ other ∈ rest, objectKey other.metadata ≠ objectKey old.metadata := by
      intro other member same
      exact fresh (List.mem_map.mpr ⟨other,member,same⟩)
    have skipped := ih api (fun secret member => stored secret (List.mem_cons_of_mem _ member)) apart
    rw [rotateSecrets]
    by_cases typed : old.type = secretTypeServiceAccountToken
    swap
    · have skip : isToken old = false := by simp [isToken,typed]
      simpa [typed,skip] using skipped
    cases account : (saName old).isSome with
    | false =>
      have skip : isToken old = false := by simp [isToken,account]
      have none' : (old.metadata.annotations.lookup serviceAccountNameAnnotation).isNone := by
        simpa [saName] using account
      simpa [typed,skip,none'] using skipped
    | true =>
      have token : isToken old = true := by simp [isToken,typed,account]
      have some' : (old.metadata.annotations.lookup serviceAccountNameAnnotation).isNone = false := by
        simpa [saName,Option.isSome_iff_ne_none] using account
      obtain ⟨e,found⟩ := stored old (by simp)
      simp only [typed,some',ne_eq,not_true_eq_false,if_false,Bool.false_eq_true]
      refine ensures_bind (rotateServiceAccountTokenSecret_ensures api account found) ?_
      rintro (_ | err) m ⟨owned,renewed⟩
      · have owned := owned.mp rfl
        have renewed := renewed rfl
        have there : ∀ secret ∈ rest, ∃ e, m.secrets.get (objectKey secret.metadata) = some e := by
          intro secret member
          rw [renewed.kept _ (by simpa using (fresh secret member).symm)]
          exact stored secret (List.mem_cons_of_mem _ member)
        refine (ih m there apart).imp ?_
        rintro err t ⟨all,others⟩
        rw [List.filter_cons_of_pos token]
        refine ⟨by simpa [owned] using all,fun done => Renews.cons ?_ renewed (others done)⟩
        intro other member
        exact fresh other (List.mem_filter.mp member).1
      · have bare : labelled old ≠ true := fun owned' => by cases owned.mpr owned'
        simp [token,bare]

/-- The signing key can be read, or there is none yet. -/
def KeyAvailable (codec : Codec Key) (api : API) : Prop :=
  api.secrets.get signingKeySecret = none ∨ (storedKey codec api).isSome

/-- Nothing changes but that the signing-key Secret may appear. -/
structure KeyAdded (s t : API) : Prop where
  others : ∀ key, key ≠ signingKeySecret → t.secrets.get key = s.secrets.get key
  kept : ∀ e, s.secrets.get signingKeySecret = some e → t.secrets.get signingKeySecret = some e
  later : s.secrets.revision ≤ t.secrets.revision

theorem keyAdded_refl (api : API) : KeyAdded api api := ⟨fun _ _ => rfl,fun _ h => h,Nat.le_refl _⟩

theorem getOrCreateSigningKey_ensures (codec : Codec Key) (api : API) :
    (getOrCreateSigningKey codec).Ensures serve Succeeds
      (fun result t => (result.toOption.isSome ↔ KeyAvailable codec api) ∧ KeyAdded api t) api := by
  unfold getOrCreateSigningKey
  simp only [ensures_request_bind]
  intro f admitted
  cases f <;> simp only [Succeeds] at admitted
  cases found : api.secrets.get signingKeySecret with
  | some secret =>
    simp only [serve,answerRead,found]
    cases held : secret.value.data.lookup signingKeyDataKey with
    | none => simp [KeyAvailable,storedKey,found,held,Except.toOption,keyAdded_refl]
    | some keyPEM => simp [KeyAvailable,storedKey,found,held,keyAdded_refl]
  | none =>
    simp only [serve,answerRead,found,ensures_request_bind]
    intro f admitted
    cases f <;> simp only [Succeeds] at admitted
    rename_i key
    simp only [persistSigningKey]
    intro f admitted
    cases f <;> simp only [Succeeds] at admitted
    have free : api.secrets.get (objectKey (newSigningKeySecret (convertRSAKeyToPEM codec key)).metadata) =
        none := found
    simp only [serve,answerWrite,API.createSecret,free,Program.bind]
    refine ⟨by simp [KeyAvailable,found,Except.toOption],?_,?_,?_⟩
    · intro other apart
      simp [objectKey_newSigningKeySecret,apart]
    · intro e stored
      rw [found] at stored
      cases stored
    · simp [API.putSecret]

theorem list_keys (api : API) (namespaceName : String) (order : List ObjectKey) :
    (api.list namespaceName order).map (fun secret => objectKey secret.metadata) =
      order.filter fun key => key.1 = namespaceName && (api.secrets.get key).isSome := by
  induction order with
  | nil => rfl
  | cons key rest ih =>
    unfold API.list at ih ⊢
    by_cases here : key.1 = namespaceName
    · cases found : api.secrets.get key with
      | none => simp [here,found,ih]
      | some e => simp [here,found,ih,api.named key e found]
    · simp [here,ih]

theorem mem_api_list {api : API} (complete : order.Perm api.secrets.objects.keys) :
    secret ∈ api.list namespaceName order ↔
      ∃ name e, api.secrets.get (namespaceName,name) = some e ∧ e.value = secret := by
  simp only [API.list,List.mem_filterMap]
  constructor
  · rintro ⟨⟨_,name⟩,_,shown⟩
    split at shown
    · next same =>
      cases same
      obtain ⟨e,found,rfl⟩ := Option.map_eq_some_iff.mp shown
      exact ⟨name,e,found,rfl⟩
    · cases shown
  · rintro ⟨name,e,found,rfl⟩
    have member : (namespaceName,name) ∈ api.secrets.objects.keys :=
      AList.mem_keys.mp (AList.lookup_isSome.mp (by rw [show api.secrets.objects.lookup _ = _ from found]; rfl))
    exact ⟨_,complete.mem_iff.mpr member,by simp [found]⟩

/-- The pass ends without error, every token Secret of the namespace is created anew under its name
and for its service account, and no other Secret that was there is touched. -/
structure Covered (s : API) (outcome : Outcome) (t : API) : Prop where
  succeeded : outcome.error = none
  created : ∀ name e, s.secrets.get ("kube-system",name) = some e → isToken e.value = true →
    ∃ labels annotations version, s.secrets.revision < version ∧
      t.secrets.get ("kube-system",name) = some ⟨recreated e.value labels annotations,version⟩ ∧
      saName (recreated e.value labels annotations) = saName e.value
  others : ∀ key e, s.secrets.get key = some e → ¬ (key.1 = "kube-system" ∧ isToken e.value = true) →
    t.secrets.get key = some e
  absent : ∀ key, key ≠ signingKeySecret → s.secrets.get key = none → t.secrets.get key = none

/-- Every token Secret of the namespace names the cluster that owns it. -/
def TokensOwned (api : API) : Prop :=
  ∀ name e, api.secrets.get ("kube-system",name) = some e → isToken e.value = true →
    labelled e.value = true

theorem kubeSystem_ne_signingKeySecret (name : String) : ("kube-system",name) ≠ signingKeySecret := by
  intro same
  have namespaces : "kube-system" = kommodityNamespace := congrArg Prod.fst same
  exact absurd namespaces (by decide)

theorem KeyAdded.tokensOwned_iff (added : KeyAdded s t) : TokensOwned t ↔ TokensOwned s := by
  simp only [TokensOwned,added.others _ (kubeSystem_ne_signingKeySecret _)]

/-- With every Secret of the namespace in the list, renewing its tokens covers them all. -/
theorem covered_of_renews (added : KeyAdded s m) (complete : order.Perm m.secrets.objects.keys)
    (renewed : Renews ((m.list "kube-system" order).filter isToken) m t) :
    Covered s ⟨false,0,none⟩ t := by
  -- a name that is not one of the tokens' keeps what it had when the list was read
  have frame : ∀ key, ¬ (key.1 = "kube-system" ∧ ∃ e, m.secrets.get key = some e ∧ isToken e.value = true) →
      t.secrets.get key = m.secrets.get key := by
    intro key other
    refine renewed.kept key ?_
    rintro old member rfl
    obtain ⟨listed,token⟩ := List.mem_filter.mp member
    obtain ⟨name,e,found,rfl⟩ := (mem_api_list complete).mp listed
    have named := m.named _ e found
    exact other ⟨by rw [named],e,by rw [named,found],token⟩
  refine ⟨rfl,?_,?_,?_⟩
  · intro name e found token
    have found' := (added.others _ (kubeSystem_ne_signingKeySecret name)).trans found
    have listed := (mem_api_list complete).mpr ⟨name,e,found',rfl⟩
    obtain ⟨labels,annotations,version,newer,there,account⟩ :=
      renewed.created e.value (List.mem_filter.mpr ⟨listed,token⟩)
    rw [m.named _ e found'] at there
    exact ⟨labels,annotations,version,Nat.lt_of_le_of_lt added.later newer,there,account⟩
  · intro key e found other
    have found' : m.secrets.get key = some e := by
      by_cases same : key = signingKeySecret
      · subst same
        exact added.kept e found
      · rw [added.others key same,found]
    rw [frame key (by simpa [found'] using other),found']
  · intro key apart missing
    have missing' := (added.others key apart).trans missing
    rw [frame key (by simp [missing']),missing']

/-- A pass covers every token exactly when the key is available and every token has an owner. -/
theorem reconcile_covers_iff (codec : Codec Key) (api : API)
    (run : (reconcile codec).Runs serve Succeeds api outcome t) :
    Covered api outcome t ↔ KeyAvailable codec api ∧ TokensOwned api := by
  suffices ensures : (reconcile codec).Ensures serve Succeeds (fun outcome t =>
      Covered api outcome t ↔ KeyAvailable codec api ∧ TokensOwned api) api from ensures.runs run
  unfold reconcile
  refine ensures_bind (getOrCreateSigningKey_ensures codec api) ?_
  rintro (err | key) m ⟨available,added⟩
  · have unavailable : ¬ KeyAvailable codec api := by
      simpa [Except.toOption] using available
    simp only [ensures_pure,unavailable,false_and,iff_false]
    intro covered
    cases covered.succeeded
  have available : KeyAvailable codec api := by
    simpa [Except.toOption] using available
  simp only [ensures_request_bind]
  intro f complete
  cases f <;> simp only [Succeeds] at complete
  rename_i order
  have stored : ∀ secret ∈ m.list "kube-system" order,
      ∃ e, m.secrets.get (objectKey secret.metadata) = some e := by
    intro secret member
    obtain ⟨name,e,found,rfl⟩ := (mem_api_list complete).mp member
    exact ⟨e,by rw [m.named _ e found,found]⟩
  have apart : ((m.list "kube-system" order).map fun secret => objectKey secret.metadata).Nodup := by
    rw [list_keys]
    exact (complete.nodup_iff.mpr m.secrets.objects.nodupKeys).filter _
  have owned : (∀ secret ∈ (m.list "kube-system" order).filter isToken, labelled secret = true) ↔
      TokensOwned api := by
    rw [← added.tokensOwned_iff]
    simp only [List.mem_filter,mem_api_list complete,TokensOwned]
    constructor
    · intro all name e found token
      exact all e.value ⟨⟨name,e,found,rfl⟩,token⟩
    · rintro all _ ⟨⟨name,e,found,rfl⟩,token⟩
      exact all name e found token
  refine ensures_bind (rotateSecrets_ensures m stored apart) ?_
  rintro (_ | err) t ⟨done,renewed⟩
  · have all := owned.mp (done.mp rfl)
    simpa [available,all] using covered_of_renews added complete (renewed rfl)
  · have some' : ¬ TokensOwned api := fun all => by cases done.mpr (owned.mpr all)
    simp only [ensures_pure,some',and_false,iff_false]
    intro covered
    cases covered.succeeded

/-- A token Secret of a service account, with the given labels. -/
def tokenSecret (name : String) (labels : Map String String) : Secret :=
  ⟨⟨name,"kube-system",labels,(∅ : Map String String).insert serviceAccountNameAnnotation name⟩,
    secretTypeServiceAccountToken,∅,∅,none⟩

/-- One token that its cluster owns. -/
def ownedToken : API :=
  emptyAPI.putSecret (tokenSecret "autoscaler" ((∅ : Map String String).insert clusterNameLabel "prod"))

theorem reconcile_covers_ownedToken : ∃ outcome t,
    (reconcile plainCodec).Runs serve Succeeds ownedToken outcome t ∧ Covered ownedToken outcome t := by
  have played : ((reconcile plainCodec).play serve Succeeds ownedToken
      [.fine,.drawn (bytes "k1"),.fine,
        .listed [signingKeySecret,("kube-system","autoscaler")],.fine,.fine,.fine]).isSome = true := by
    decide +kernel
  obtain ⟨⟨outcome,t⟩,played⟩ := Option.isSome_iff_exists.mp played
  refine ⟨outcome,t,runs_of_play played,
    (reconcile_covers_iff plainCodec ownedToken (runs_of_play played)).mpr ⟨Or.inl ?_,?_⟩⟩
  · decide +kernel
  · intro name e found _
    unfold ownedToken at found
    rw [get_putSecret] at found
    split at found
    · cases found
      decide +kernel
    · simp [emptyAPI] at found

/-- A token that no cluster owns, beside one that its cluster owns. -/
def unownedToken : API := ownedToken.putSecret (tokenSecret "default" ∅)

/-- The first token has no owner, and the pass ends there: it fails, and the other token stays as it
was. -/
theorem unowned_token_stops_rotation : ∃ outcome t,
    (reconcile plainCodec).Runs serve Succeeds unownedToken outcome t ∧
    outcome.error ≠ none ∧
    (t.secrets.get ("kube-system","autoscaler")).map Entry.version =
      (unownedToken.secrets.get ("kube-system","autoscaler")).map Entry.version ∧
    ¬ Covered unownedToken outcome t := by
  have played : (((reconcile plainCodec).play serve Succeeds unownedToken
      [.fine,.drawn (bytes "k1"),.fine,
        .listed [signingKeySecret,("kube-system","default"),("kube-system","autoscaler")]]).any
      fun r => r.1.error.isSome && ((r.2.secrets.get ("kube-system","autoscaler")).map Entry.version =
        (unownedToken.secrets.get ("kube-system","autoscaler")).map Entry.version)) = true := by
    decide +kernel
  obtain ⟨⟨outcome,t⟩,played,result⟩ := (Option.any_eq_true _ _).mp played
  simp only [Bool.and_eq_true,decide_eq_true_eq] at result
  obtain ⟨failed,same⟩ := result
  have failed : outcome.error ≠ none := Option.isSome_iff_ne_none.mp failed
  exact ⟨outcome,t,runs_of_play played,failed,same,fun covered => failed covered.succeeded⟩

end Kommodity.SigningKeys.Coverage
