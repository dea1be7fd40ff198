import Kommodity.CredentialOwnership

/-! A reconcile of the materializer that runs alone, whatever its calls are answered: what the
Secrets hold when it succeeds, and what a second one does to them. The two upserts replace the
whole data of a Secret, and the cluster chooses one of the names. -/
namespace Kommodity.CredentialMaterializer

open Go Versioned Interaction Secrets SigningKeys

def AnyReply (_ : Resources) (_ : Call) (_ : Reply) : Prop := True

instance (s : Resources) (c : Call) (f : Reply) : Decidable (AnyReply s c f) :=
  inferInstanceAs (Decidable True)

/-- Writing the Secret for the cluster once more changes nothing. -/
def Settled (req : ObjectKey) (uid : String) (data : Map String Bytes) (secret : OwnedSecret) : Prop :=
  deepEqual (mutateSecret req uid data secret) secret = true

theorem managedByLabel_ne_clusterNameLabel : materializerManagedByLabel ≠ clusterNameLabel := by decide

theorem lookup_labels (labels : Map String String) (req : ObjectKey) (k : String) :
    ((labels.insert materializerManagedByLabel managedByLabelValue).insert clusterNameLabel req.2).lookup k =
      if k = clusterNameLabel then some req.2
      else if k = materializerManagedByLabel then some managedByLabelValue else labels.lookup k := by
  rw [Map.lookup_insert_eq,Map.lookup_insert_eq]

theorem deepEqual_iff (a b : OwnedSecret) : deepEqual a b = true ↔
    (a.metadata.name = b.metadata.name ∧ a.metadata.namespaceName = b.metadata.namespaceName) ∧
    (∀ k, a.metadata.labels.lookup k = b.metadata.labels.lookup k) ∧
    (∀ k, a.metadata.annotations.lookup k = b.metadata.annotations.lookup k) ∧
    a.type = b.type ∧ (∀ k, a.data.lookup k = b.data.lookup k) ∧
    (∀ k, a.stringData.lookup k = b.stringData.lookup k) ∧ a.immutable = b.immutable ∧ a.owners = b.owners := by
  simp only [deepEqual,Bool.and_eq_true,decide_eq_true_eq,Map.deepEqual_iff,and_assoc]

theorem settled_iff : Settled req uid data secret ↔
    secret.metadata.labels.lookup materializerManagedByLabel = some managedByLabelValue ∧
    secret.metadata.labels.lookup clusterNameLabel = some req.2 ∧
    secret.type = secretTypeOpaque ∧ (∀ k, secret.data.lookup k = data.lookup k) ∧
    secret.owners = [⟨"cluster.x-k8s.io/v1beta1","Cluster",req.2,uid⟩] := by
  simp only [Settled,deepEqual_iff,mutateSecret,lookup_labels,true_and,implies_true]
  constructor
  · rintro ⟨labels,type,same,owners⟩
    refine ⟨?_,?_,type.symm,fun k => (same k).symm,owners.symm⟩
    · have managed := labels materializerManagedByLabel
      rw [if_neg managedByLabel_ne_clusterNameLabel,if_pos rfl] at managed
      exact managed.symm
    · have owner := labels clusterNameLabel
      rw [if_pos rfl] at owner
      exact owner.symm
  · rintro ⟨managed,owner,type,same,owners⟩
    refine ⟨?_,type.symm,fun k => (same k).symm,owners.symm⟩
    intro k
    split
    · next here => rw [here,owner]
    · split
      · next here => rw [here,managed]
      · rfl

theorem settled_mutateSecret (req : ObjectKey) (uid : String) (data : Map String Bytes) (secret : OwnedSecret) :
    Settled req uid data (mutateSecret req uid data secret) := by
  rw [settled_iff]
  refine ⟨?_,?_,rfl,fun _ => rfl,rfl⟩
  · exact (lookup_labels _ req _).trans (by rw [if_neg managedByLabel_ne_clusterNameLabel,if_pos rfl])
  · exact (lookup_labels _ req _).trans (by rw [if_pos rfl])

theorem Settled.not_foreign (settled : Settled req uid data secret) : ¬ Foreign req.2 secret := by
  obtain ⟨managed,owner,_⟩ := settled_iff.mp settled
  simp [Foreign,Map.index,managed,owner]

/-- The Secret under the key is what the materializer makes of it; nothing else changes. -/
structure Upserted (req : ObjectKey) (uid name : String) (data : Map String Bytes) (s t : Resources) : Prop where
  settled : ∃ e, t.secrets.get (req.1,name) = some e ∧ Settled req uid data e.value
  frame : ∀ key, key ≠ (req.1,name) → t.secrets.get key = s.secrets.get key
  clusters : t.clusters = s.clusters
  azureClusters : t.azureClusters = s.azureClusters
  identities : t.identities = s.identities

theorem upserted_put (s : Resources) (secret : OwnedSecret) :
    Upserted req uid name data s
      { s with secrets := s.secrets.put (req.1,name) (mutateSecret req uid data secret) } := by
  refine ⟨⟨_,get_put_same _ _ _,settled_mutateSecret _ _ _ _⟩,?_,rfl,rfl,rfl⟩
  intro key apart
  exact get_put_other _ _ apart

theorem read_ok (answered : read f found = .ok value) : found = some value := by
  cases found <;> cases f <;> simp_all [read]

theorem Upserted.not_foreign (upserted : Upserted req uid name data s t)
    (free : ∀ e, s.secrets.get (req.1,other) = some e → ¬ Foreign req.2 e.value) :
    ∀ e, t.secrets.get (req.1,other) = some e → ¬ Foreign req.2 e.value := by
  intro e found
  by_cases same : (req.1,other) = (req.1,name)
  · obtain ⟨e',found',settled⟩ := upserted.settled
    rw [same,found'] at found
    cases found
    exact settled.not_foreign
  · rw [upserted.frame _ same] at found
    exact free e found

theorem write_ok (answered : (write f s result).1 = .ok ()) :
    ∃ secrets, result = .ok secrets ∧ (write f s result).2 = { s with secrets } := by
  cases f <;> cases result <;> simp_all [write]

theorem serve_createSecret_ok (answered : (serve s (.createSecret key secret) f).1 = .ok ()) :
    (serve s (.createSecret key secret) f).2 = { s with secrets := s.secrets.put key secret } := by
  obtain ⟨secrets,created,eq⟩ := write_ok answered
  exact eq.trans (by rw [(create_ok created).2])

theorem serve_updateSecret_ok (answered : (serve s (.updateSecret key secret) f).1 = .ok ()) :
    (serve s (.updateSecret key secret) f).2 = { s with secrets := s.secrets.put key secret.value } := by
  obtain ⟨secrets,updated,eq⟩ := write_ok answered
  exact eq.trans (by rw [(update_ok updated).2])

theorem createOrUpdate_ensures (s : Resources) (uid name : String) (data : Map String Bytes) :
    (createOrUpdate (req.1,name) (mutateSecret req uid data)).Ensures serve AnyReply
      (fun result t => result = .ok () → Upserted req uid name data s t) s := by
  unfold createOrUpdate
  rw [ensures_request_bind]
  intro f _
  simp only [serve]
  split
  · split
    · intro g _ done
      rw [serve_createSecret_ok done]
      exact upserted_put s _
    · intro done
      cases done
  · next existing found =>
    split
    · next same =>
      intro _
      exact ⟨⟨existing,read_ok found,same⟩,fun _ _ => rfl,rfl,rfl,rfl⟩
    · intro g _ done
      rw [serve_updateSecret_ok done]
      exact upserted_put s _

theorem writeSecret_ensures (s : Resources) (uid name : String) (data : Map String Bytes) :
    (writeSecret req uid (req.1,name) data).Ensures serve AnyReply
      (fun err t => err = none → Upserted req uid name data s t) s := by
  refine ensures_bind (createOrUpdate_ensures s uid name data) ?_
  rintro (err | _) t upserted
  · intro done
    cases done
  · intro _
    exact upserted rfl

theorem upsertManagedSecret_ensures (s : Resources) (uid : String) (data : Map String Bytes)
    (free : ∀ e, s.secrets.get (req.1,name) = some e → ¬ Foreign req.2 e.value) :
    (upsertManagedSecret req uid name data).Ensures serve AnyReply
      (fun err t => err = none → Upserted req uid name data s t) s := by
  unfold upsertManagedSecret
  rw [ensures_request_bind]
  intro f _
  simp only [serve]
  split
  · split
    · exact writeSecret_ensures s uid name data
    · intro done
      cases done
  · next existing found =>
    rw [guardExisting_eq_none_iff.mpr (free existing (read_ok found))]
    exact writeSecret_ensures s uid name data

theorem createOrUpdate_quiet (stored : s.secrets.get key = some e)
    (same : deepEqual (mutate e.value) e.value = true) :
    (createOrUpdate key mutate).Ensures serve AnyReply (fun _ t => t = s) s := by
  unfold createOrUpdate
  rw [ensures_request_bind]
  intro f _
  cases f with
  | refused | lost => rfl
  | fine =>
    simp only [serve,read,if_pos,stored,same]
    rfl

theorem upsertManagedSecret_quiet (stored : s.secrets.get (req.1,name) = some e)
    (settled : Settled req uid data e.value) :
    (upsertManagedSecret req uid name data).Ensures serve AnyReply (fun _ t => t = s) s := by
  unfold upsertManagedSecret
  rw [ensures_request_bind]
  intro f _
  cases f with
  | refused | lost => rfl
  | fine =>
    simp only [serve,read,if_pos,stored,guardExisting_eq_none_iff.mpr settled.not_foreign]
    refine ensures_bind (createOrUpdate_quiet stored settled) ?_
    rintro (err | _) t same <;> exact same

/-- The objects that a Reconcile of an Azure cluster with a service principal reads first. -/
structure Principal (s : Resources) (req : ObjectKey) (cluster : Cluster) (azureCluster : AzureCluster)
    (identity : AzureClusterIdentity) : Prop where
  requested : s.clusters.lookup req = some cluster
  azure : isAzureCluster cluster = true
  infrastructure : s.azureClusters.lookup (req.1,infrastructureName cluster) = some azureCluster
  identified : ∃ ref, azureCluster.identityRef = some ref ∧
    s.identities.lookup (identityRefKey (req.1,infrastructureName cluster) ref) = some identity
  principal : identity.type = .servicePrincipal

/-- The credentials that the objects come to. -/
def credentialsIn (s : Resources) (azureCluster : AzureCluster) (identity : AzureClusterIdentity) :
    AzureCredentials where
  subscriptionID := azureCluster.subscriptionID
  tenantID := identity.tenantID
  clientID := identity.clientID
  clientSecret := (s.secrets.get identity.clientSecret).elim [] (·.value.data.index identityClientSecretKey)
  resourceGroup := azureCluster.resourceGroup
  location := azureCluster.location
  vnetName := azureCluster.vnetName
  vnetRG := azureCluster.vnetResourceGroup

theorem readClientSecret_ensures (s : Resources) (azureCluster : AzureCluster) (identity : AzureClusterIdentity) :
    (readClientSecret identity).Ensures serve AnyReply
      (fun result t => t = s ∧ ∀ value, result = .ok (some value) →
        value = (credentialsIn s azureCluster identity).clientSecret ∧ value ≠ []) s := by
  unfold readClientSecret
  simp only [ensures_request_bind,serve]
  intro f _
  split
  · split <;> simp
  · next secret found =>
    split
    · simp
    · next present =>
      rw [ensures_pure]
      refine ⟨rfl,?_⟩
      rintro value same
      cases same
      exact ⟨by simp [credentialsIn,read_ok found],present⟩

/-- The walk changes nothing, and the credentials it returns are those of the objects. -/
theorem resolveIdentityCredentials_ensures (there : Principal s req cluster azureCluster identity) :
    (resolveIdentityCredentials req cluster).Ensures serve AnyReply
      (fun result t => t = s ∧ result ≠ .ok .nothing ∧ ∀ creds, result = .ok (.credentials creds) →
        creds = credentialsIn s azureCluster identity ∧ creds.clientSecret ≠ []) s := by
  obtain ⟨ref,referenced,identified⟩ := there.identified
  unfold resolveIdentityCredentials
  simp only [ensures_request_bind,serve]
  intro f _
  split
  · split <;> simp
  · next azureCluster' found =>
    cases there.infrastructure.symm.trans (read_ok found)
    simp only [referenced,ensures_request_bind,serve]
    intro f _
    split
    · split <;> simp
    · next identity' found =>
      cases identified.symm.trans (read_ok found)
      rw [if_neg (by simp [there.principal])]
      refine ensures_bind (readClientSecret_ensures s azureCluster identity) ?_
      rintro (err | _ | value) t ⟨rfl,read⟩
      · simp
      · simp
      · obtain ⟨same,present⟩ := read value rfl
        rw [ensures_pure]
        refine ⟨rfl,by simp,?_⟩
        intro creds eq
        cases eq
        exact ⟨by rw [same]; rfl,present⟩

/-- The names of the Secrets that a reconcile of the cluster derives. -/
def derivedNames (req : ObjectKey) (cluster : Cluster) : List String :=
  let secretName := cluster.annotations.index ccmSecretNameAnnotation
  (req.2 ++ asoSecretSuffix) :: (if secretName = "" then [] else [secretName])

def ccmData (cloudConfig : Bytes) : Map String Bytes :=
  (∅ : Map String Bytes).insert ccmCloudConfigKey cloudConfig

/-- What the second upsert comes to: without an annotation nothing is done. -/
def CCMUpserted (marshal : Marshal) (req : ObjectKey) (cluster : Cluster) (creds : AzureCredentials)
    (s t : Resources) : Prop :=
  (cluster.annotations.index ccmSecretNameAnnotation = "" ∧ t = s) ∨
  ∃ cloudConfig, cluster.annotations.index ccmSecretNameAnnotation ≠ "" ∧
    marshal (azureCloudConfig req.2 creds) = .ok cloudConfig ∧
    Upserted req cluster.uid (cluster.annotations.index ccmSecretNameAnnotation) (ccmData cloudConfig) s t

theorem materializeCCMSecret_ensures (marshal : Marshal) (s : Resources) (creds : AzureCredentials)
    (free : cluster.annotations.index ccmSecretNameAnnotation ≠ "" →
      ∀ e, s.secrets.get (req.1,cluster.annotations.index ccmSecretNameAnnotation) = some e →
        ¬ Foreign req.2 e.value) :
    (materializeCCMSecret marshal req cluster creds).Ensures serve AnyReply
      (fun err t => err = none → CCMUpserted marshal req cluster creds s t) s := by
  unfold materializeCCMSecret
  dsimp only
  split
  · next bare => exact fun _ => .inl ⟨bare,rfl⟩
  · next annotated =>
    split
    · intro done
      cases done
    · next cloudConfig marshalled =>
      refine (upsertManagedSecret_ensures s cluster.uid (ccmData cloudConfig) (free annotated)).imp ?_
      intro err t upserted done
      exact .inr ⟨cloudConfig,annotated,marshalled,upserted done⟩

/-- A reconcile of the cluster ends without writing, or it has read the credentials and goes on to the
one Secret and then the other. -/
theorem reconcile_rule {Post : Outcome → Resources → Prop} (marshal : Marshal)
    (there : Principal s req cluster azureCluster identity) (stopped : ∀ outcome, outcome ≠ .done → Post outcome s)
    (writes : (credentialsIn s azureCluster identity).clientSecret ≠ [] →
      (materializeASOSecret req cluster.uid (credentialsIn s azureCluster identity)).Ensures serve AnyReply
        (fun err m => (∀ e, err = some e → Post (.failed e) m) ∧ (err = none →
          (materializeCCMSecret marshal req cluster (credentialsIn s azureCluster identity)).Ensures serve AnyReply
            (fun err t => Post (err.elim .done .failed) t) m)) s) :
    (reconcile marshal req).Ensures serve AnyReply Post s := by
  unfold reconcile
  simp only [ensures_request_bind,serve]
  intro f _
  cases f with
  | refused | lost => exact stopped _ (by simp)
  | fine =>
    simp only [read,if_pos,there.requested,there.azure,not_true_eq_false,if_false]
    refine ensures_bind (resolveIdentityCredentials_ensures there) ?_
    rintro (err | creds | _ | _) t ⟨rfl,something,resolved⟩
    · exact stopped _ (by simp)
    · obtain ⟨rfl,present⟩ := resolved creds rfl
      refine ensures_bind (writes present) ?_
      rintro (_ | err) m ⟨failed,goes⟩
      · refine ensures_bind (goes rfl) ?_
        rintro (_ | err) u post
        · exact post
        · exact post
      · exact failed err rfl
    · exact stopped _ (by simp)
    · exact absurd rfl something

/-- A reconcile that succeeds has upserted the one Secret and then the other. -/
theorem reconcile_ensures (marshal : Marshal) (there : Principal s req cluster azureCluster identity)
    (free : ∀ name ∈ derivedNames req cluster,
      ∀ e, s.secrets.get (req.1,name) = some e → ¬ Foreign req.2 e.value) :
    (reconcile marshal req).Ensures serve AnyReply (fun outcome t => outcome = .done →
      ∃ m, Upserted req cluster.uid (req.2 ++ asoSecretSuffix)
          (asoData (credentialsIn s azureCluster identity)) s m ∧
        CCMUpserted marshal req cluster (credentialsIn s azureCluster identity) m t) s := by
  refine reconcile_rule marshal there (fun outcome other done => absurd done other) fun _ => ?_
  refine (upsertManagedSecret_ensures s cluster.uid _ (free _ (by simp [derivedNames]))).imp ?_
  intro err m upserted
  refine ⟨by simp,?_⟩
  rintro rfl
  have upserted := upserted rfl
  refine (materializeCCMSecret_ensures marshal m _ ?_).imp ?_
  · intro annotated
    exact upserted.not_foreign (free _ (by simp [derivedNames,annotated]))
  · rintro (_ | err) t ccm done
    · exact ⟨m,upserted,ccm rfl⟩
    · cases done

/-- The derived Secrets are there as the materializer makes them of the credentials. -/
structure Derived (marshal : Marshal) (req : ObjectKey) (cluster : Cluster) (creds : AzureCredentials)
    (t : Resources) : Prop where
  aso : ∃ e, t.secrets.get (req.1,req.2 ++ asoSecretSuffix) = some e ∧
    Settled req cluster.uid (asoData creds) e.value
  ccm : cluster.annotations.index ccmSecretNameAnnotation ≠ "" →
    ∃ cloudConfig e, marshal (azureCloudConfig req.2 creds) = .ok cloudConfig ∧
      t.secrets.get (req.1,cluster.annotations.index ccmSecretNameAnnotation) = some e ∧
      Settled req cluster.uid (ccmData cloudConfig) e.value

theorem materializeCCMSecret_quiet (derived : Derived marshal req cluster creds t) :
    (materializeCCMSecret marshal req cluster creds).Ensures serve AnyReply (fun _ u => u = t) t := by
  unfold materializeCCMSecret
  dsimp only
  split
  · rfl
  · next annotated =>
    obtain ⟨cloudConfig,e,marshalled,found,settled⟩ := derived.ccm annotated
    rw [marshalled]
    exact upsertManagedSecret_quiet found settled

/-- A reconcile that can read no credentials but those the Secrets were derived of writes nothing. -/
theorem reconcile_quiet (there : Principal t req cluster azureCluster identity)
    (derived : Derived marshal req cluster creds t)
    (same : (credentialsIn t azureCluster identity).clientSecret ≠ [] →
      credentialsIn t azureCluster identity = creds) :
    (reconcile marshal req).Ensures serve AnyReply (fun _ u => u = t) t := by
  refine reconcile_rule marshal there (fun _ _ => rfl) fun present => ?_
  cases same present
  obtain ⟨e,stored,settled⟩ := derived.aso
  refine (upsertManagedSecret_quiet stored settled).imp ?_
  rintro err m rfl
  exact ⟨fun _ _ => rfl,fun _ => materializeCCMSecret_quiet derived⟩

/-- An upsert under the name of the identity's own Secret leaves no password to read there. -/
theorem credentialsIn_upserted (upserted : Upserted req uid name data s t)
    (lacks : data.lookup identityClientSecretKey = none)
    (present : (credentialsIn t azureCluster identity).clientSecret ≠ []) :
    credentialsIn t azureCluster identity = credentialsIn s azureCluster identity := by
  by_cases same : identity.clientSecret = (req.1,name)
  · obtain ⟨e,found,settled⟩ := upserted.settled
    have gone := (settled_iff.mp settled).2.2.2.1 identityClientSecretKey
    rw [lacks] at gone
    refine absurd ?_ present
    simp only [credentialsIn,same,found,Option.elim_some,Map.index,gone]
    rfl
  · simp only [credentialsIn,upserted.frame _ same]

theorem lookup_asoData (creds : AzureCredentials) :
    (asoData creds).lookup identityClientSecretKey = none ∧
    (asoData creds).lookup "AZURE_TENANT_ID" = some (bytes creds.tenantID) := by
  simp only [asoData,Map.lookup_insert_eq]
  exact ⟨rfl,rfl⟩

theorem lookup_ccmData (cloudConfig : Bytes) :
    (ccmData cloudConfig).lookup identityClientSecretKey = none ∧
    (ccmData cloudConfig).lookup "AZURE_TENANT_ID" = none ∧
    (ccmData cloudConfig).lookup ccmCloudConfigKey = some cloudConfig := by
  simp only [ccmData,Map.lookup_insert_eq]
  exact ⟨rfl,rfl,rfl⟩

theorem Principal.upserted (there : Principal s req cluster azureCluster identity)
    (upserted : Upserted req uid name data s t) : Principal t req cluster azureCluster identity where
  requested := upserted.clusters ▸ there.requested
  azure := there.azure
  infrastructure := upserted.azureClusters ▸ there.infrastructure
  identified := upserted.identities ▸ there.identified
  principal := there.principal

/-- The Secret of the ARM reconciler holds its four keys, the annotated Secret the cloud-config, and
another Reconcile changes nothing. -/
structure Materialization (marshal : Marshal) (req : ObjectKey) (cluster : Cluster) (creds : AzureCredentials)
    (t : Resources) : Prop where
  aso : ∃ e, t.secrets.get (req.1,req.2 ++ asoSecretSuffix) = some e ∧
    ∀ k v, (asoData creds).lookup k = some v → e.value.data.lookup k = some v
  ccm : cluster.annotations.index ccmSecretNameAnnotation ≠ "" →
    ∃ cloudConfig e, marshal (azureCloudConfig req.2 creds) = .ok cloudConfig ∧
      t.secrets.get (req.1,cluster.annotations.index ccmSecretNameAnnotation) = some e ∧
      e.value.data.lookup ccmCloudConfigKey = some cloudConfig
  stable : ∀ outcome u, (reconcile marshal req).Runs serve AnyReply t outcome u → u = t

theorem Derived.materialization (there : Principal t req cluster azureCluster identity)
    (derived : Derived marshal req cluster creds t)
    (same : (credentialsIn t azureCluster identity).clientSecret ≠ [] →
      credentialsIn t azureCluster identity = creds) : Materialization marshal req cluster creds t := by
  refine ⟨?_,?_,?_⟩
  · obtain ⟨e,found,settled⟩ := derived.aso
    refine ⟨e,found,fun k v held => ?_⟩
    rw [(settled_iff.mp settled).2.2.2.1 k,held]
  · intro annotated
    obtain ⟨cloudConfig,e,marshalled,found,settled⟩ := derived.ccm annotated
    refine ⟨cloudConfig,e,marshalled,found,?_⟩
    rw [(settled_iff.mp settled).2.2.2.1,(lookup_ccmData cloudConfig).2.2]
  · intro outcome u run
    exact (reconcile_quiet there derived same).runs run

theorem asoName_ne_empty (name : String) : name ++ asoSecretSuffix ≠ "" := by
  intro same
  have length := congrArg String.length same
  simp [asoSecretSuffix] at length

/-- A Reconcile that succeeds materializes the credentials for good exactly when the annotation does
not name the Secret of the ARM reconciler. -/
theorem materialization_iff (marshal : Marshal) (there : Principal s req cluster azureCluster identity)
    (free : ∀ name ∈ derivedNames req cluster,
      ∀ e, s.secrets.get (req.1,name) = some e → ¬ Foreign req.2 e.value)
    (run : (reconcile marshal req).Runs serve AnyReply s .done t) :
    Materialization marshal req cluster (credentialsIn s azureCluster identity) t ↔
      cluster.annotations.index ccmSecretNameAnnotation ≠ req.2 ++ asoSecretSuffix := by
  obtain ⟨m,first,second⟩ := (reconcile_ensures marshal there free).runs run rfl
  have same (unread : (credentialsIn m azureCluster identity).clientSecret ≠ []) :=
    credentialsIn_upserted first (lookup_asoData _).1 unread
  constructor
  · intro materialization collides
    obtain ⟨e,found,held⟩ := materialization.aso
    rcases second with ⟨bare,_⟩ | ⟨cloudConfig,_,_,upserted⟩
    · exact asoName_ne_empty _ (collides.symm.trans bare)
    · obtain ⟨e',found',settled⟩ := upserted.settled
      rw [collides,found] at found'
      cases found'
      have replaced := (settled_iff.mp settled).2.2.2.1 "AZURE_TENANT_ID"
      rw [held _ _ (lookup_asoData _).2,(lookup_ccmData cloudConfig).2.1] at replaced
      cases replaced
  · intro apart
    rcases second with ⟨bare,rfl⟩ | ⟨cloudConfig,annotated,marshalled,upserted⟩
    · exact Derived.materialization (there.upserted first)
        ⟨first.settled,fun annotated => absurd bare annotated⟩ same
    · have kept := upserted.frame (req.1,req.2 ++ asoSecretSuffix)
        (fun collides => apart (congrArg Prod.snd collides).symm)
      obtain ⟨e,found,settled⟩ := upserted.settled
      refine Derived.materialization ((there.upserted first).upserted upserted)
        ⟨by rw [kept]; exact first.settled,fun _ => ⟨cloudConfig,e,marshalled,found,settled⟩⟩ ?_
      intro unread
      have back := credentialsIn_upserted upserted (lookup_ccmData _).1 unread
      exact back.trans (same (back ▸ unread))

def westCluster (secretName : String) : Cluster :=
  ⟨"1",AList.insert ccmSecretNameAnnotation secretName ∅,some ⟨azureInfraKind,"west"⟩⟩

/-- The cluster with an annotation, and no Secret yet but that of its identity. -/
def annotatedResources (secretName : String) : Resources :=
  { westResources with clusters := AList.insert ("fleet","west") (westCluster secretName) ∅ }

def westAzureCluster : AzureCluster := ⟨some ⟨"","principal"⟩,"s","g","l","v","g"⟩

def westIdentity : AzureClusterIdentity := ⟨.servicePrincipal,"t","c",("fleet","password")⟩

theorem westPrincipal (secretName : String) :
    Principal (annotatedResources secretName) ("fleet","west") (westCluster secretName) westAzureCluster
      westIdentity :=
  ⟨rfl,rfl,rfl,⟨_,rfl,rfl⟩,rfl⟩

theorem materialization_westCCM : ∃ t,
    (reconcile plainMarshal ("fleet","west")).Runs serve AnyReply (annotatedResources "west-ccm") .done t ∧
    Materialization plainMarshal ("fleet","west") (westCluster "west-ccm")
      (credentialsIn (annotatedResources "west-ccm") westAzureCluster westIdentity) t := by
  have played : ((reconcile plainMarshal ("fleet","west")).play serve AnyReply
      (annotatedResources "west-ccm") (List.replicate 10 .fine)).any (fun r => r.1 = .done) = true := by
    decide +kernel
  obtain ⟨⟨outcome,t⟩,played,done⟩ := (Option.any_eq_true _ _).mp played
  cases of_decide_eq_true done
  have free : ∀ name ∈ derivedNames ("fleet","west") (westCluster "west-ccm"),
      ((annotatedResources "west-ccm").secrets.get ("fleet",name)).isNone = true := by
    decide +kernel
  refine ⟨t,runs_of_play played,(materialization_iff plainMarshal (westPrincipal "west-ccm") ?_
    (runs_of_play played)).mpr (by decide +kernel)⟩
  intro name member e found
  have absent := free name member
  rw [found] at absent
  cases absent

/-- The annotation names the Secret of the ARM reconciler: the cloud-config replaces the credentials
that the same Reconcile has just written, and the next one writes both again. -/
theorem collision_replaces_credentials : ∃ t u,
    Principal (annotatedResources "west-aso-secret") ("fleet","west") (westCluster "west-aso-secret")
      westAzureCluster westIdentity ∧
    (annotatedResources "west-aso-secret").secrets.get asoKey = none ∧
    (reconcile plainMarshal ("fleet","west")).Runs serve AnyReply (annotatedResources "west-aso-secret") .done t ∧
    (t.secrets.get asoKey).map (fun e => e.value.data.keys) = some ["cloud-config"] ∧
    (reconcile plainMarshal ("fleet","west")).Runs serve AnyReply t .done u ∧
    u.secrets.revision = t.secrets.revision + 2 := by
  have played : ((reconcile plainMarshal ("fleet","west")).play serve AnyReply
      (annotatedResources "west-aso-secret") (List.replicate 10 .fine)).any (fun r => r.1 = .done &&
        (r.2.secrets.get asoKey).map (fun e => e.value.data.keys) = some ["cloud-config"] &&
        ((reconcile plainMarshal ("fleet","west")).play serve AnyReply r.2 (List.replicate 10 .fine)).any
          fun r' => r'.1 = .done && r'.2.secrets.revision = r.2.secrets.revision + 2) = true := by
    decide +kernel
  obtain ⟨⟨outcome,t⟩,played,result⟩ := (Option.any_eq_true _ _).mp played
  simp only [Bool.and_eq_true,decide_eq_true_eq] at result
  obtain ⟨⟨rfl,replaced⟩,again⟩ := result
  obtain ⟨⟨outcome,u⟩,played',result⟩ := (Option.any_eq_true _ _).mp again
  simp only [Bool.and_eq_true,decide_eq_true_eq] at result
  obtain ⟨rfl,written⟩ := result
  exact ⟨t,u,westPrincipal _,rfl,runs_of_play played,replaced,runs_of_play played',written⟩

end Kommodity.CredentialMaterializer
