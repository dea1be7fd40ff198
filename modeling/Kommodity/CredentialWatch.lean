import Kommodity.CredentialOwnership

/-! The watch of the credential materializer on Secrets. A changed Secret is mapped back to the
clusters of its namespace whose identity names it; the reconcile of a cluster goes the other way, and
there the namespace of the Secret is the one the identity gives. -/
namespace Kommodity.CredentialMaterializer

open Go Versioned Interaction Secrets SigningKeys

inductive WatchCall where
  | listClusters (namespaceName : String)
  | getAzureCluster (key : ObjectKey)
  | getIdentity (key : ObjectKey)

abbrev WatchAnswer : WatchCall → Type
  | .listClusters _ => Except APIError (List (ObjectKey × Cluster))
  | .getAzureCluster _ => Except APIError AzureCluster
  | .getIdentity _ => Except APIError AzureClusterIdentity

abbrev WatchProgram (α : Type) := Program WatchCall WatchAnswer α

def identitySecretMatches (key : ObjectKey) (cluster : Cluster) (secretName : String) : WatchProgram Bool := do
  if ¬ isAzureCluster cluster then return false
  else
    let azureKey : ObjectKey := (key.1,infrastructureName cluster)
    match ← request (WatchCall.getAzureCluster azureKey) with
    | .error _ => return false
    | .ok azureCluster =>
      match azureCluster.identityRef with
      | none => return false
      | some identityRef =>
        match ← request (WatchCall.getIdentity (identityRefKey azureKey identityRef)) with
        | .error _ => return false
        | .ok identity => return identity.clientSecret.2 = secretName

/-- The loop over the listed clusters. -/
def matchingClusters (secretName : String) : List (ObjectKey × Cluster) → WatchProgram (List ObjectKey)
  | [] => return []
  | (key,cluster) :: clusters => do
    let found ← identitySecretMatches key cluster secretName
    let requests ← matchingClusters secretName clusters
    return if found then key :: requests else requests

/-- The label by which the materializer knows its own Secrets. -/
def Materialized (secret : OwnedSecret) : Prop :=
  secret.metadata.labels.index materializerManagedByLabel = managedByLabelValue

instance (secret : OwnedSecret) : Decidable (Materialized secret) := inferInstanceAs (Decidable (_ = _))

def clustersForIdentitySecret (secret : OwnedSecret) : WatchProgram (List ObjectKey) := do
  if Materialized secret then return []
  else
    match ← request (WatchCall.listClusters secret.metadata.namespaceName) with
    | .error _ => return []
    | .ok clusters => matchingClusters secret.metadata.name clusters

/-- The clusters of a namespace, as they are listed. -/
def clustersIn (s : Resources) (namespaceName : String) : List (ObjectKey × Cluster) :=
  (s.clusters.entries.filter (·.1.1 = namespaceName)).map fun e => (e.1,e.2)

/-- The answers to the watch when reads succeed. -/
def watchAnswers (s : Resources) : (c : WatchCall) → WatchAnswer c
  | .listClusters namespaceName => .ok (clustersIn s namespaceName)
  | .getAzureCluster key => read .fine (s.azureClusters.lookup key)
  | .getIdentity key => read .fine (s.identities.lookup key)

/-- The answers to a reconcile when reads succeed. -/
def readAnswers (s : Resources) (c : Call) : Answer c := (serve s c .fine).1

/-- The requests that an event on the Secret enqueues. -/
def enqueued (s : Resources) (secret : OwnedSecret) : List ObjectKey :=
  (clustersForIdentitySecret secret).answered (watchAnswers s)

/-- The reconcile of the cluster asks for the Secret when it resolves the credentials. -/
def ReadsPassword (s : Resources) (req key : ObjectKey) : Prop :=
  ∃ cluster, s.clusters.lookup req = some cluster ∧ isAzureCluster cluster ∧
    Call.getSecret key ∈ (resolveIdentityCredentials req cluster).asked (readAnswers s)

/-- The identity that the objects give an Azure cluster. -/
def identityOf (s : Resources) (req : ObjectKey) : Option AzureClusterIdentity := do
  let cluster ← s.clusters.lookup req
  guard (isAzureCluster cluster)
  let azureCluster ← s.azureClusters.lookup (req.1,infrastructureName cluster)
  let identityRef ← azureCluster.identityRef
  s.identities.lookup (identityRefKey (req.1,infrastructureName cluster) identityRef)

theorem readAnswers_azureCluster (s : Resources) (key : ObjectKey) :
    readAnswers s (.getAzureCluster key) = read .fine (s.azureClusters.lookup key) := rfl

theorem readAnswers_identity (s : Resources) (key : ObjectKey) :
    readAnswers s (.getIdentity key) = read .fine (s.identities.lookup key) := rfl

theorem asked_readClientSecret (s : Resources) (identity : AzureClusterIdentity) :
    (readClientSecret identity).asked (readAnswers s) = [.getSecret identity.clientSecret] := by
  unfold readClientSecret
  simp only [asked_bind,asked_request,answered_request]
  split
  · split <;> rfl
  · split <;> rfl

theorem identityOf_none (s : Resources) (found : s.clusters.lookup req = some cluster)
    (other : ¬ isAzureCluster cluster) : identityOf s req = none := by
  simp [identityOf,found,other,guard]

theorem identityOf_some (s : Resources) (found : s.clusters.lookup req = some cluster)
    (azure : isAzureCluster cluster) :
    identityOf s req = (s.azureClusters.lookup (req.1,infrastructureName cluster)).bind fun azureCluster =>
      azureCluster.identityRef.bind fun identityRef =>
        s.identities.lookup (identityRefKey (req.1,infrastructureName cluster) identityRef) := by
  simp [identityOf,found,azure]

theorem asked_resolveIdentityCredentials (s : Resources) (found : s.clusters.lookup req = some cluster)
    (azure : isAzureCluster cluster) (key : ObjectKey) :
    Call.getSecret key ∈ (resolveIdentityCredentials req cluster).asked (readAnswers s) ↔
      ∃ identity, identityOf s req = some identity ∧ identity.type = .servicePrincipal ∧
        identity.clientSecret = key := by
  rw [identityOf_some s found azure]
  unfold resolveIdentityCredentials
  simp only [asked_bind,asked_request,answered_request,readAnswers_azureCluster]
  cases s.azureClusters.lookup (req.1,infrastructureName cluster) with
  | none => simp [read,APIError.isNotFound]
  | some azureCluster =>
    simp only [read,↓reduceIte,Option.bind_some]
    cases ref : azureCluster.identityRef with
    | none => simp
    | some identityRef =>
      simp only [asked_bind,asked_request,answered_request,readAnswers_identity,Option.bind_some]
      cases s.identities.lookup (identityRefKey (req.1,infrastructureName cluster) identityRef) with
      | none => simp [read,APIError.isNotFound]
      | some identity =>
        simp only [read,↓reduceIte]
        by_cases principal : identity.type = .servicePrincipal
        · simp only [principal,ne_eq,not_true_eq_false,↓reduceIte,asked_bind,asked_readClientSecret]
          split <;> simp [principal,eq_comm]
        · simp [principal]

theorem readsPassword_iff (s : Resources) (req key : ObjectKey) :
    ReadsPassword s req key ↔ ∃ identity, identityOf s req = some identity ∧
      identity.type = .servicePrincipal ∧ identity.clientSecret = key := by
  constructor
  · rintro ⟨cluster,found,azure,asked⟩
    exact (asked_resolveIdentityCredentials s found azure key).mp asked
  · intro named
    obtain ⟨identity,reached,_⟩ := id named
    obtain ⟨cluster,found,_⟩ := Option.bind_eq_some_iff.mp reached
    by_cases azure : isAzureCluster cluster = true
    · exact ⟨cluster,found,azure,(asked_resolveIdentityCredentials s found azure key).mpr named⟩
    · rw [identityOf_none s found azure] at reached
      cases reached

theorem watchAnswers_azureCluster (s : Resources) (key : ObjectKey) :
    watchAnswers s (.getAzureCluster key) = read .fine (s.azureClusters.lookup key) := rfl

theorem watchAnswers_identity (s : Resources) (key : ObjectKey) :
    watchAnswers s (.getIdentity key) = read .fine (s.identities.lookup key) := rfl

theorem answered_identitySecretMatches (s : Resources) (found : s.clusters.lookup req = some cluster)
    (secretName : String) :
    (identitySecretMatches req cluster secretName).answered (watchAnswers s) = true ↔
      ∃ identity, identityOf s req = some identity ∧ identity.clientSecret.2 = secretName := by
  unfold identitySecretMatches
  by_cases azure : isAzureCluster cluster = true
  · rw [identityOf_some s found azure]
    simp only [azure,not_true_eq_false,↓reduceIte,answered_bind,answered_request,watchAnswers_azureCluster]
    cases s.azureClusters.lookup (req.1,infrastructureName cluster) with
    | none => simp [read]
    | some azureCluster =>
      simp only [read,↓reduceIte,Option.bind_some]
      cases azureCluster.identityRef with
      | none => simp
      | some identityRef =>
        simp only [answered_bind,answered_request,watchAnswers_identity,Option.bind_some]
        cases s.identities.lookup (identityRefKey (req.1,infrastructureName cluster) identityRef) with
        | none => simp [read]
        | some identity => simp [read]
  · simp [azure,identityOf_none s found azure]

theorem answered_matchingClusters (s : Resources) (secretName : String) (clusters : List (ObjectKey × Cluster))
    (stored : ∀ e ∈ clusters, s.clusters.lookup e.1 = some e.2) (req : ObjectKey) :
    req ∈ (matchingClusters secretName clusters).answered (watchAnswers s) ↔
      req ∈ clusters.map Prod.fst ∧ ∃ identity, identityOf s req = some identity ∧
        identity.clientSecret.2 = secretName := by
  induction clusters with
  | nil => simp [matchingClusters]
  | cons e rest ih =>
    obtain ⟨key,cluster⟩ := e
    have here := answered_identitySecretMatches s (stored _ List.mem_cons_self) secretName
    have ih := ih fun e member => stored e (List.mem_cons_of_mem _ member)
    simp only [matchingClusters,answered_bind,answered_pure,List.map_cons,List.mem_cons]
    split
    · next matched =>
      rw [List.mem_cons,ih]
      constructor
      · rintro (rfl | ⟨member,named⟩)
        · exact ⟨.inl rfl,here.mp matched⟩
        · exact ⟨.inr member,named⟩
      · rintro ⟨rfl | member,named⟩
        · exact .inl rfl
        · exact .inr ⟨member,named⟩
    · next unmatched =>
      rw [ih]
      constructor
      · rintro ⟨member,named⟩
        exact ⟨.inr member,named⟩
      · rintro ⟨rfl | member,named⟩
        · exact absurd (here.mpr named) unmatched
        · exact ⟨member,named⟩

theorem mem_clustersIn (s : Resources) (namespaceName : String) (e : ObjectKey × Cluster) :
    e ∈ clustersIn s namespaceName ↔ s.clusters.lookup e.1 = some e.2 ∧ e.1.1 = namespaceName := by
  rw [← Option.mem_def,AList.mem_lookup_iff]
  simp only [clustersIn,List.mem_map,List.mem_filter,decide_eq_true_eq]
  constructor
  · rintro ⟨entry,⟨member,here⟩,rfl⟩
    exact ⟨member,here⟩
  · rintro ⟨member,here⟩
    exact ⟨⟨e.1,e.2⟩,⟨member,here⟩,rfl⟩

theorem mem_enqueued_iff (s : Resources) (secret : OwnedSecret) (req : ObjectKey) :
    req ∈ enqueued s secret ↔ ¬ Materialized secret ∧ req.1 = secret.metadata.namespaceName ∧
      ∃ identity, identityOf s req = some identity ∧ identity.clientSecret.2 = secret.metadata.name := by
  unfold enqueued clustersForIdentitySecret
  by_cases own : Materialized secret
  · simp [own]
  · simp only [own,↓reduceIte,answered_bind,answered_request,not_false_eq_true,true_and]
    rw [show watchAnswers s (.listClusters secret.metadata.namespaceName) =
      .ok (clustersIn s secret.metadata.namespaceName) from rfl]
    dsimp only
    rw [answered_matchingClusters s _ _ fun e member => ((mem_clustersIn s _ e).mp member).1]
    refine and_congr_left ?_
    rintro ⟨identity,reached,_⟩
    obtain ⟨cluster,found,_⟩ := Option.bind_eq_some_iff.mp reached
    simp only [List.mem_map,mem_clustersIn]
    constructor
    · rintro ⟨e,⟨_,here⟩,rfl⟩
      exact here
    · intro here
      exact ⟨(req,cluster),⟨found,here⟩,rfl⟩

/-- An event on the Secret reaches the cluster if it has to, and only then. -/
def Reached (s : Resources) (secret : OwnedSecret) (req : ObjectKey) : Prop :=
  (ReadsPassword s req (secret.metadata.namespaceName,secret.metadata.name) → ¬ Materialized secret →
    req ∈ enqueued s secret) ∧
  (req ∈ enqueued s secret → ReadsPassword s req (secret.metadata.namespaceName,secret.metadata.name))

/-- The watch and the reads agree on a cluster exactly when an identity that names a Secret of this
name is a service principal and names it in this namespace if, and only if, the cluster is there. -/
theorem rotation_reaches_iff (s : Resources) (secret : OwnedSecret) (req : ObjectKey) :
    Reached s secret req ↔ Materialized secret ∨ ∀ identity, identityOf s req = some identity →
      identity.clientSecret.2 = secret.metadata.name →
      (req.1 = secret.metadata.namespaceName ↔ identity.type = .servicePrincipal ∧
        identity.clientSecret.1 = secret.metadata.namespaceName) := by
  unfold Reached
  rw [mem_enqueued_iff,readsPassword_iff]
  by_cases own : Materialized secret
  · simp [own]
  · simp only [own,not_false_eq_true,true_and,forall_const,false_or,← iff_def]
    constructor
    · intro inverse identity reached name
      constructor
      · intro here
        obtain ⟨identity',reached',principal,named⟩ := inverse.mpr ⟨here,identity,reached,name⟩
        cases reached.symm.trans reached'
        exact ⟨principal,by rw [named]⟩
      · rintro ⟨principal,space⟩
        exact (inverse.mp ⟨identity,reached,principal,Prod.ext space name⟩).1
    · intro condition
      constructor
      · rintro ⟨identity,reached,principal,named⟩
        have name : identity.clientSecret.2 = secret.metadata.name := by rw [named]
        exact ⟨(condition identity reached name).mpr ⟨principal,by rw [named]⟩,identity,reached,name⟩
      · rintro ⟨here,identity,reached,name⟩
        obtain ⟨principal,space⟩ := (condition identity reached name).mp here
        exact ⟨identity,reached,principal,Prod.ext space name⟩

/-- The cluster of an identity whose Secret is in another namespace. -/
def sharedIdentity : Resources :=
  { westResources with
    identities := AList.insert ("fleet","principal") ⟨.servicePrincipal,"t","c",("shared","password")⟩ ∅ }

/-- The rotation of the Secret it reads does not reach the cluster, that of another one does. -/
theorem rotation_missed :
    (ReadsPassword sharedIdentity ("fleet","west") ("shared","password") ∧
      ¬ Materialized (emptySecret ("shared","password")) ∧
      enqueued sharedIdentity (emptySecret ("shared","password")) = []) ∧
    (¬ ReadsPassword sharedIdentity ("fleet","west") ("fleet","password") ∧
      enqueued sharedIdentity (emptySecret ("fleet","password")) = [("fleet","west")]) := by
  have reached : identityOf sharedIdentity ("fleet","west") =
      some ⟨.servicePrincipal,"t","c",("shared","password")⟩ := rfl
  refine ⟨⟨(readsPassword_iff ..).mpr ⟨_,reached,rfl,rfl⟩,by decide +kernel,by decide +kernel⟩,?_,by decide +kernel⟩
  intro reads
  obtain ⟨identity,reached',_,named⟩ := (readsPassword_iff ..).mp reads
  cases reached.symm.trans reached'
  revert named
  decide

end Kommodity.CredentialMaterializer
