import Kommodity.SigningKeys

/-! The reconciler that derives the credential Secrets of an Azure cluster from its identity. It is
written as programs over the calls it makes on the API; `serve` is the API server, with the
failures its surroundings may choose. Reads are answered from the current state. -/
namespace Kommodity.CredentialMaterializer

open Go Versioned Interaction Secrets SigningKeys

def azureInfraKind : String := "AzureCluster"
def asoSecretSuffix : String := "-aso-secret"
def identityClientSecretKey : String := "clientSecret"
def ccmCloudConfigKey : String := "cloud-config"
def materializerManagedByLabel : String := "kommodity.io/azure-credential-materializer"
def managedByLabelValue : String := "true"
def ccmSecretNameAnnotation : String := "kommodity.io/ccm-secret-name"
def ccmBackoffRetries : Nat := 6
def ccmRateLimitQPS : Nat := 3
def ccmRateLimitBucket : Nat := 10
def ccmValueStandard : String := "standard"

structure OwnerReference where
  apiVersion : String
  kind : String
  name : String
  uid : String
  deriving DecidableEq

/-- A Secret with its owners. -/
structure OwnedSecret extends Secret where
  owners : List OwnerReference

structure InfrastructureRef where
  kind : String
  name : String

/-- The fields of a Cluster object in use; its name and namespace are those of the request. -/
structure Cluster where
  uid : String
  annotations : Map String String
  infrastructureRef : Option InfrastructureRef

structure IdentityRef where
  namespaceName : String
  name : String

structure AzureCluster where
  identityRef : Option IdentityRef
  subscriptionID : String
  resourceGroup : String
  location : String
  vnetName : String
  vnetResourceGroup : String

inductive IdentityType where
  | servicePrincipal
  | other (name : String)
  deriving DecidableEq

structure AzureClusterIdentity where
  type : IdentityType
  tenantID : String
  clientID : String
  clientSecret : ObjectKey

structure AzureCredentials where
  subscriptionID : String
  tenantID : String
  clientID : String
  clientSecret : Bytes
  resourceGroup : String
  location : String
  vnetName : String
  vnetRG : String

inductive Cause where
  | api (error : APIError)
  | valueNotFoundInSecret (key : String) (secret : ObjectKey)
  | secretOwnedByAnotherCluster (secret : ObjectKey) (owner cluster : String)
  | marshal (detail : String)
  deriving DecidableEq

abbrev Error := Err Cause

def keyString (key : ObjectKey) : String := key.1 ++ "/" ++ key.2

/-- The text of a cause; `quote` is the verb `%q` of `fmt`, `api` the text of an API error. -/
def Cause.error (quote : String → String) (api : APIError → String) : Cause → String
  | .api error => api error
  | .valueNotFoundInSecret key secret => "value not found in secret: " ++ key ++ " in " ++ keyString secret
  | .secretOwnedByAnotherCluster secret owner cluster =>
    "secret is materialized for another cluster: Secret " ++ keyString secret ++
      " is materialized for cluster " ++ quote owner ++ ", not " ++ quote cluster ++
      " (likely a duplicate provider.secret.name copied from another cluster's values)"
  | .marshal detail => detail

def apiError (context : String) (error : APIError) : Error := (Err.of (.api error)).wrap context

/-- `rereadSecret` is the Get of `controllerutil.CreateOrUpdate`. -/
inductive Call where
  | getCluster (key : ObjectKey)
  | getAzureCluster (key : ObjectKey)
  | getIdentity (key : ObjectKey)
  | getSecret (key : ObjectKey)
  | rereadSecret (key : ObjectKey)
  | createSecret (key : ObjectKey) (secret : OwnedSecret)
  | updateSecret (key : ObjectKey) (secret : Entry OwnedSecret)

abbrev Answer : Call → Type
  | .getCluster _ => Except APIError Cluster
  | .getAzureCluster _ => Except APIError AzureCluster
  | .getIdentity _ => Except APIError AzureClusterIdentity
  | .getSecret _ => Except APIError (Entry OwnedSecret)
  | .rereadSecret _ => Except APIError (Entry OwnedSecret)
  | .createSecret _ _ => Except APIError Unit
  | .updateSecret _ _ => Except APIError Unit

abbrev CredentialProgram (α : Type) := Program Call Answer α

def isAzureCluster (cluster : Cluster) : Bool := cluster.infrastructureRef.any (·.kind = azureInfraKind)

/-- `cluster.Spec.InfrastructureRef.Name`, which is read of clusters with a reference only. -/
def infrastructureName (cluster : Cluster) : String := (cluster.infrastructureRef.map (·.name)).getD ""

/-- The namespace of the reference, or that of the AzureCluster. -/
def identityRefKey (azureCluster : ObjectKey) (ref : IdentityRef) : ObjectKey :=
  (if ref.namespaceName = "" then azureCluster.1 else ref.namespaceName,ref.name)

/-- What the walk from a Cluster to its credentials comes to. -/
inductive Resolution where
  | credentials (creds : AzureCredentials)
  | requeue
  | nothing

def readClientSecret (identity : AzureClusterIdentity) : CredentialProgram (Except Error (Option Bytes)) := do
  match ← request (Call.getSecret identity.clientSecret) with
  | .error err =>
    if err.isNotFound then return .ok none
    else
      return .error (apiError ("failed to get identity clientSecret Secret " ++ keyString identity.clientSecret) err)
  | .ok secret =>
    let value := secret.value.data.index identityClientSecretKey
    if value = [] then
      return .error (.of (.valueNotFoundInSecret identityClientSecretKey identity.clientSecret))
    else return .ok (some value)

def resolveIdentityCredentials (req : ObjectKey) (cluster : Cluster) :
    CredentialProgram (Except Error Resolution) := do
  let key : ObjectKey := (req.1,infrastructureName cluster)
  match ← request (Call.getAzureCluster key) with
  | .error err =>
    if err.isNotFound then return .ok .requeue
    else return .error (apiError ("failed to get AzureCluster " ++ keyString key) err)
  | .ok azureCluster =>
    match azureCluster.identityRef with
    | none => return .ok .nothing
    | some identityRef =>
      let identityKey := identityRefKey key identityRef
      match ← request (Call.getIdentity identityKey) with
      | .error err =>
        if err.isNotFound then return .ok .requeue
        else return .error (apiError ("failed to get AzureClusterIdentity " ++ keyString identityKey) err)
      | .ok identity =>
        if identity.type ≠ .servicePrincipal then return .ok .nothing
        else
          match ← readClientSecret identity with
          | .error err => return .error err
          | .ok none => return .ok .requeue
          | .ok (some clientSecret) =>
            return .ok (.credentials
              { subscriptionID := azureCluster.subscriptionID
                tenantID := identity.tenantID
                clientID := identity.clientID
                clientSecret
                resourceGroup := azureCluster.resourceGroup
                location := azureCluster.location
                vnetName := azureCluster.vnetName
                vnetRG := azureCluster.vnetResourceGroup })

/-- A Secret that the materializer may not touch for the cluster: it holds data and is not marked
as managed, or it is labelled for another cluster. -/
def Foreign (cluster : String) (secret : OwnedSecret) : Prop :=
  (secret.data.keys ≠ [] ∧ secret.metadata.labels.index materializerManagedByLabel ≠ managedByLabelValue) ∨
  (secret.metadata.labels.index clusterNameLabel ≠ "" ∧ secret.metadata.labels.index clusterNameLabel ≠ cluster)

instance (cluster : String) (secret : OwnedSecret) : Decidable (Foreign cluster secret) :=
  inferInstanceAs (Decidable (_ ∨ _))

/-- The two guards on the Secret that exists: how `upsertManagedSecret` returns, if it does. -/
def guardExisting (req key : ObjectKey) (existing : OwnedSecret) : Option (Option Error) :=
  if existing.data.keys ≠ [] ∧
      existing.metadata.labels.index materializerManagedByLabel ≠ managedByLabelValue then some none
  else
    let owner := existing.metadata.labels.index clusterNameLabel
    if owner ≠ "" ∧ owner ≠ req.2 then some (some (.of (.secretOwnedByAnotherCluster key owner req.2)))
    else none

theorem guardExisting_eq_none_iff : guardExisting req key existing = none ↔ ¬ Foreign req.2 existing := by
  unfold guardExisting Foreign
  split <;> simp_all

/-- The function that `upsertManagedSecret` hands to `CreateOrUpdate`. -/
def mutateSecret (req : ObjectKey) (uid : String) (data : Map String Bytes) (secret : OwnedSecret) : OwnedSecret :=
  { secret with
    type := secretTypeOpaque
    data
    metadata := { secret.metadata with
      labels := (secret.metadata.labels.insert materializerManagedByLabel managedByLabelValue).insert
        clusterNameLabel req.2 }
    owners := [⟨"cluster.x-k8s.io/v1beta1","Cluster",req.2,uid⟩] }

/-- The object that `CreateOrUpdate` starts from when it finds none. -/
def emptySecret (key : ObjectKey) : OwnedSecret :=
  ⟨⟨⟨key.2,key.1,∅,∅⟩,"",∅,∅,none⟩,[]⟩

/-- `equality.Semantic.DeepEqual` on Secrets. -/
def deepEqual (a b : OwnedSecret) : Bool :=
  a.metadata.name = b.metadata.name && a.metadata.namespaceName = b.metadata.namespaceName &&
    a.metadata.labels.deepEqual b.metadata.labels && a.metadata.annotations.deepEqual b.metadata.annotations &&
    a.type = b.type && a.data.deepEqual b.data && a.stringData.deepEqual b.stringData &&
    a.immutable = b.immutable && a.owners = b.owners

/-- `controllerutil.CreateOrUpdate`. -/
def createOrUpdate (key : ObjectKey) (mutate : OwnedSecret → OwnedSecret) :
    CredentialProgram (Except APIError Unit) := do
  match ← request (Call.rereadSecret key) with
  | .error err =>
    if err.isNotFound then request (Call.createSecret key (mutate (emptySecret key)))
    else return .error err
  | .ok existing =>
    if deepEqual (mutate existing.value) existing.value then return .ok ()
    else request (Call.updateSecret key ⟨mutate existing.value,existing.version⟩)

def writeSecret (req : ObjectKey) (uid : String) (key : ObjectKey) (data : Map String Bytes) :
    CredentialProgram (Option Error) := do
  match ← createOrUpdate key (mutateSecret req uid data) with
  | .error err => return some (apiError ("failed to upsert materialized Secret " ++ keyString key) err)
  | .ok () => return none

def upsertManagedSecret (req : ObjectKey) (uid name : String) (data : Map String Bytes) :
    CredentialProgram (Option Error) := do
  let key : ObjectKey := (req.1,name)
  match ← request (Call.getSecret key) with
  | .error err =>
    if err.isNotFound then writeSecret req uid key data
    else return some (apiError ("failed to get Secret " ++ keyString key) err)
  | .ok existing =>
    match guardExisting req key existing.value with
    | some result => return result
    | none => writeSecret req uid key data

def asoData (creds : AzureCredentials) : Map String Bytes :=
  ((((∅ : Map String Bytes).insert "AZURE_SUBSCRIPTION_ID" (bytes creds.subscriptionID)).insert
    "AZURE_TENANT_ID" (bytes creds.tenantID)).insert "AZURE_CLIENT_ID" (bytes creds.clientID)).insert
    "AZURE_CLIENT_SECRET" creds.clientSecret

def materializeASOSecret (req : ObjectKey) (uid : String) (creds : AzureCredentials) :
    CredentialProgram (Option Error) :=
  upsertManagedSecret req uid (req.2 ++ asoSecretSuffix) (asoData creds)

/-- A value of the cloud-config. -/
inductive ConfigValue where
  | text (value : Bytes)
  | flag (value : Bool)
  | number (value : Nat)
  deriving DecidableEq

/-- The map that `buildAzureCloudConfig` marshals. -/
def azureCloudConfig (clusterName : String) (creds : AzureCredentials) : List (String × ConfigValue) :=
  [("tenantId",.text (bytes creds.tenantID)),
    ("subscriptionId",.text (bytes creds.subscriptionID)),
    ("resourceGroup",.text (bytes creds.resourceGroup)),
    ("location",.text (bytes creds.location)),
    ("useManagedIdentityExtension",.flag false),
    ("aadClientId",.text (bytes creds.clientID)),
    ("aadClientSecret",.text creds.clientSecret),
    ("loadBalancerSku",.text (bytes ccmValueStandard)),
    ("vmType",.text (bytes ccmValueStandard)),
    ("useInstanceMetadata",.flag true),
    ("securityGroupName",.text (bytes (clusterName ++ "-node-nsg"))),
    ("securityGroupResourceGroup",.text (bytes creds.resourceGroup)),
    ("vnetName",.text (bytes creds.vnetName)),
    ("vnetResourceGroup",.text (bytes creds.vnetRG)),
    ("subnetName",.text (bytes (clusterName ++ "-node-subnet"))),
    ("routeTableName",.text (bytes (clusterName ++ "-node-routetable"))),
    ("cloudProviderBackoff",.flag true),
    ("cloudProviderBackoffRetries",.number ccmBackoffRetries),
    ("cloudProviderRateLimit",.flag true),
    ("cloudProviderRateLimitQPS",.number ccmRateLimitQPS),
    ("cloudProviderRateLimitBucket",.number ccmRateLimitBucket)]

/-- `json.Marshal` of a cloud-config. -/
abbrev Marshal := List (String × ConfigValue) → Except String Bytes

def materializeCCMSecret (marshal : Marshal) (req : ObjectKey) (cluster : Cluster) (creds : AzureCredentials) :
    CredentialProgram (Option Error) := do
  let secretName := cluster.annotations.index ccmSecretNameAnnotation
  if secretName = "" then return none
  else
    match marshal (azureCloudConfig req.2 creds) with
    | .error detail => return some ((Err.of (.marshal detail)).wrap "failed to marshal Azure cloud-config")
    | .ok cloudConfig =>
      upsertManagedSecret req cluster.uid secretName ((∅ : Map String Bytes).insert ccmCloudConfigKey cloudConfig)

inductive Outcome where
  | done
  | requeue
  | failed (error : Error)
  deriving DecidableEq

def reconcile (marshal : Marshal) (req : ObjectKey) : CredentialProgram Outcome := do
  match ← request (Call.getCluster req) with
  | .error err =>
    if err.isNotFound then return .done
    else return .failed (apiError ("failed to get Cluster " ++ keyString req) err)
  | .ok cluster =>
    if ¬ isAzureCluster cluster then return .done
    else
      match ← resolveIdentityCredentials req cluster with
      | .error err => return .failed err
      | .ok .requeue => return .requeue
      | .ok .nothing => return .done
      | .ok (.credentials creds) =>
        match ← materializeASOSecret req cluster.uid creds with
        | some err => return .failed err
        | none =>
          match ← materializeCCMSecret marshal req cluster creds with
          | some err => return .failed err
          | none => return .done

end Kommodity.CredentialMaterializer
