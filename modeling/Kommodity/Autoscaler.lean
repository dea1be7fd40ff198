import Kommodity.SigningKeys
import Kommodity.StoreCalls

/-! The autoscaler of a downstream cluster and the token it calls home with. The reconciler renders the
token of a service account into a kubeconfig Secret of the downstream cluster and stamps the hash of the
token on the Deployment; it is woken up by changes of its ConfigMap and of the token. -/
namespace Kommodity.Autoscaler

open Go Interaction Secrets ConfigMaps StoreCalls
open SigningKeys (ObjectKey clusterNameLabel secretTypeServiceAccountToken secretTypeOpaque)

def autoscalerConfigMapSuffix : String := "-cluster-autoscaler-config"
def autoscalerDeploymentName : String := "cluster-autoscaler"
def autoscalerSATokenSecretSuffix : String := "-cluster-autoscaler"
def autoscalerSecretTokenKey : String := "token"
def autoscalerControllerName : String := "kommodity-autoscaler-controller"
def autoscalerKubeconfigHashAnnotation : String := "kommodity.io/kubeconfig-hash"
def watchLabel : String := "cluster.x-k8s.io/watch-filter"

/-- Seconds. -/
def requeueAfter : Nat := 10

inductive Cause where
  | api (error : APIError)
  | valueNotFoundInSecret (detail : String)
  | valueNotFoundInConfigMap (detail : String)
  | tokenNotPopulated (secret : String)
  | client (detail : String)
  | job (detail : String)
  | nothing
  deriving DecidableEq

abbrev Error := Err Cause

def apiError (context : String) (error : APIError) : Error := (Err.of (.api error)).wrap context

/-- `apierrors.IsNotFound` looks through the wrapping. -/
def isNotFound (err : Error) : Bool :=
  match err.cause with
  | .api error => error.isNotFound
  | _ => false

def isTokenNotPopulated (err : Error) : Bool :=
  match err.cause with
  | .tokenNotPopulated _ => true
  | _ => false

structure AutoscalerJobConfig where
  name : String
  namespaceName : String
  chartName : String
  chartVersion : String
  chartRepository : String
  hasExtraValues : Bool

/-- Where the Deployment and the values of the chart are. -/
def AutoscalerJobConfig.targetNamespace (config : AutoscalerJobConfig) : String :=
  if config.namespaceName = "" then config.name else config.namespaceName

def AutoscalerJobConfig.deploymentKey (config : AutoscalerJobConfig) : ObjectKey :=
  (config.targetNamespace,autoscalerDeploymentName)

/-- The annotations of the pod template are what is read of a Deployment. -/
structure Deployment where
  annotations : Map String String
  deriving DecidableEq

/-- The calls of the reconciler. The Gets of Secrets are told apart by what they are for; the client of
the downstream cluster serves all calls from `checkClusterReady` on but `getExtraValues`. -/
inductive Call where
  | getConfigMap (key : ObjectKey)
  | getKubeconfig (key : ObjectKey)
  | restConfig (kubeconfig : Bytes)
  | newClient (kubeconfig : Bytes)
  | getTokenSecret (key : ObjectKey)
  | checkClusterReady
  | createSecret (key : ObjectKey) (secret : Secret)
  | updateSecret (key : ObjectKey) (secret : Secret)
  | getDeployment (key : ObjectKey)
  | patchDeployment (key : ObjectKey) (mark value : String)
  | getExtraValues (key : ObjectKey)
  | applyTemplate (config : AutoscalerJobConfig)

abbrev Answer : Call → Type
  | .getConfigMap _ => Except APIError ConfigMap
  | .getKubeconfig _ => Except APIError Secret
  | .restConfig _ => Except String Unit
  | .newClient _ => Except String Unit
  | .getTokenSecret _ => Except APIError Secret
  | .checkClusterReady => Except APIError Unit
  | .createSecret _ _ => Except APIError Unit
  | .updateSecret _ _ => Except APIError Unit
  | .getDeployment _ => Except APIError Deployment
  | .patchDeployment _ _ _ => Except APIError Unit
  | .getExtraValues _ => Except APIError Secret
  | .applyTemplate _ => Except String Unit

abbrev AutoscalerProgram := Program Call Answer

section Kubeconfig

structure Kubeconfig where
  baseURL : String
  token : Bytes
  namespaceName : Bytes

/-- `html/template` in plain text. Bytes of other characters stay as they are. -/
def htmlReplacement (b : UInt8) : Bytes :=
  if b = 0 then bytes "�"
  else if b = 34 then bytes "&#34;"
  else if b = 38 then bytes "&amp;"
  else if b = 39 then bytes "&#39;"
  else if b = 43 then bytes "&#43;"
  else if b = 60 then bytes "&lt;"
  else if b = 62 then bytes "&gt;"
  else [b]

def htmlEscape (text : Bytes) : Bytes := text.flatMap htmlReplacement

/-- The template `kubeconfig.tmpl`. -/
def Kubeconfig.render (k : Kubeconfig) : Bytes :=
  bytes "apiVersion: v1\nkind: Config\nclusters:\n- name: kommodity\n  cluster:\n    server: " ++
  htmlEscape (bytes k.baseURL) ++
  bytes "\n\nusers:\n- name: cluster-autoscaler\n  user:\n    token: " ++ htmlEscape k.token ++
  bytes "\n\ncontexts:\n- name: cluster-autoscaler-context\n  context:\n    cluster: kommodity\n" ++
  bytes "    user: cluster-autoscaler\n    namespace: " ++ htmlEscape k.namespaceName ++
  bytes "\n\ncurrent-context: cluster-autoscaler-context\n"

theorem Kubeconfig.infix_render (k : Kubeconfig) : htmlEscape k.token <:+: k.render := by
  have append {text more : Bytes} (inside : htmlEscape k.token <:+: text) :
      htmlEscape k.token <:+: text ++ more :=
    inside.trans (List.prefix_append text more).isInfix
  exact append (append (append (append (List.suffix_append _ _).isInfix)))

def kubeconfigKey : ObjectKey := ("kube-system","kommodity-cluster-autoscaler-kubeconfig")

def kubeconfigSecret (k : Kubeconfig) : Secret where
  metadata := ⟨kubeconfigKey.2,kubeconfigKey.1,∅,∅⟩
  type := secretTypeOpaque
  data := (∅ : Map String Bytes).insert "value" k.render
  stringData := ∅
  immutable := none

end Kubeconfig

/-- Only these fields are taken over. -/
def applySecretToClient (secret : Secret) : AutoscalerProgram (Option Error) := do
  let newSecret : Secret :=
    ⟨⟨secret.metadata.name,secret.metadata.namespaceName,secret.metadata.labels,∅⟩,secret.type,secret.data,
      secret.stringData,none⟩
  let key := (secret.metadata.namespaceName,secret.metadata.name)
  match ← request (Call.createSecret key newSecret) with
  | .ok () => return none
  | .error err =>
    if err = .store .alreadyExists then
      match ← request (Call.updateSecret key newSecret) with
      | .ok () => return none
      | .error err => return some (apiError ("failed to update provider secret " ++ secret.metadata.name) err)
    else return some (apiError ("failed to create provider secret " ++ secret.metadata.name) err)

section Job

variable (sha256 : Bytes → Bytes) (baseURL : String)

def tokenHash (token : Bytes) : String := hexEncodeToString (sha256 token)

def deploymentError (action : String) (config : AutoscalerJobConfig) (ending : String) (err : APIError) :
    Error :=
  apiError ("failed to " ++ action ++ " cluster-autoscaler Deployment " ++ config.targetNamespace ++ "/" ++
    autoscalerDeploymentName ++ ending) err

def ensureAutoscalerRolloutOnTokenChange (config : AutoscalerJobConfig) (token : Bytes) :
    AutoscalerProgram (Option Error) := do
  match ← request (Call.getDeployment config.deploymentKey) with
  | .error err =>
    if err.isNotFound then return none
    else return some (deploymentError "get" config "" err)
  | .ok deployment =>
    if deployment.annotations.index autoscalerKubeconfigHashAnnotation = tokenHash sha256 token then return none
    else
      match ← request (Call.patchDeployment config.deploymentKey autoscalerKubeconfigHashAnnotation
          (tokenHash sha256 token)) with
      | .error err => return some (deploymentError "patch" config " with kubeconfig hash" err)
      | .ok () => return none

def tokenSecretKey (clusterName : String) : ObjectKey :=
  ("default",clusterName ++ autoscalerSATokenSecretSuffix)

def prepareForApply (config : AutoscalerJobConfig) (clusterName : String) :
    AutoscalerProgram (Option Error) := do
  match ← request (Call.getTokenSecret (tokenSecretKey clusterName)) with
  | .error err => return some (apiError "failed to get Autoscaler kubeconfig secret" err)
  | .ok autoscalerSecret =>
    let token := autoscalerSecret.data.index autoscalerSecretTokenKey
    if token = [] then return some (.of (.tokenNotPopulated autoscalerSecret.metadata.name))
    else
      let namespaceName := autoscalerSecret.data.index "namespace"
      if namespaceName = [] then
        return some (.of (.valueNotFoundInSecret ("namespace: " ++ autoscalerSecret.metadata.name)))
      else
        match ← applySecretToClient (kubeconfigSecret ⟨baseURL,token,namespaceName⟩) with
        | some err => return some (err.wrap "failed to apply autoscaler kubeconfig secret to downstream cluster")
        | none =>
          match ← ensureAutoscalerRolloutOnTokenChange sha256 config token with
          | some err => return some (err.wrap "failed to ensure autoscaler rollout on token change")
          | none => return none

def isInstalled (config : AutoscalerJobConfig) : AutoscalerProgram (Except Error Bool) := do
  match ← request (Call.getDeployment config.deploymentKey) with
  | .ok _ => return .ok true
  | .error err =>
    if err.isNotFound then return .ok false
    else return .error (apiError "failed to check autoscaler deployment" err)

/-- The Secret of the values as it is applied downstream; without one it is empty. -/
def extraValuesSecret (config : AutoscalerJobConfig) (found : Option Secret) : Secret where
  metadata := ⟨config.name ++ "-extra-values",config.targetNamespace,
    (found.map (·.metadata.labels)).getD ∅,(found.map (·.metadata.annotations)).getD ∅⟩
  type := (found.map (·.type)).getD ""
  data := (found.map (·.data)).getD ∅
  stringData := (found.map (·.stringData)).getD ∅
  immutable := found.bind (·.immutable)

def applyExtraValues (config : AutoscalerJobConfig) (found : Option Secret) :
    AutoscalerProgram (Except Error AutoscalerJobConfig) := do
  match ← applySecretToClient (extraValuesSecret config found) with
  | some err => return .error (err.wrap "failed to apply autoscaler secret to downstream cluster")
  | none => return .ok { config with hasExtraValues := found.isSome }

def applySecret (config : AutoscalerJobConfig) (clusterName : String) :
    AutoscalerProgram (Except Error AutoscalerJobConfig) := do
  match ← request (Call.getExtraValues ("default",clusterName ++ "-cluster-autoscaler-extra-values")) with
  | .ok yamlSecret => applyExtraValues config (some yamlSecret)
  | .error err =>
    if err.isNotFound then applyExtraValues config none
    else return .error (apiError "failed to get extra values secret" err)

def apply (config : AutoscalerJobConfig) (clusterName : String) : AutoscalerProgram (Option Error) := do
  match ← applySecret config clusterName with
  | .error err => return some (err.wrap "failed to apply Autoscaler values secret")
  | .ok config =>
    match ← request (Call.applyTemplate config) with
    | .error err => return some ((Err.of (.job err)).wrap "failed to apply Autoscaler Helm install job")
    | .ok () => return none

/-- `ctrl.Result` and the error. -/
structure Outcome where
  requeueAfter : Nat
  error : Option Error
  deriving DecidableEq

def Outcome.succeeded (o : Outcome) : Bool := o.requeueAfter = 0 ∧ o.error = none

def fetchKubeConfigFromSecret (clusterName : String) : AutoscalerProgram (Except Error Bytes) := do
  let name := clusterName ++ "-kubeconfig"
  match ← request (Call.getKubeconfig ("default",name)) with
  | .error err => return .error (apiError ("failed to get kubeconfig secret " ++ name) err)
  | .ok secret =>
    match secret.data.lookup "value" with
    | none => return .error (.of (.valueNotFoundInSecret ("kubeconfig: " ++ name)))
    | some kubeconfig => return .ok kubeconfig

def fetchDownstreamKubernetesClient (clusterName : String) : AutoscalerProgram (Option Error) := do
  match ← fetchKubeConfigFromSecret clusterName with
  | .error err => return some (err.wrap "failed to fetch kubeconfig from secret")
  | .ok kubeconfig =>
    match ← request (Call.restConfig kubeconfig) with
    | .error err => return some ((Err.of (.client err)).wrap "failed to create REST config from kubeconfig")
    | .ok () =>
      match ← request (Call.newClient kubeconfig) with
      | .error err => return some ((Err.of (.client err)).wrap "failed to create downstream Kubernetes client")
      | .ok () => return none

/-- The chart that the ConfigMap describes. -/
def jobConfig (clusterName : String) (data : Map String String) : Except Error AutoscalerJobConfig :=
  match data.lookup "namespace" with
  | none => .error (.of (.valueNotFoundInConfigMap ("namespace: cluster " ++ clusterName)))
  | some namespaceName =>
    match data.lookup "repository" with
    | none => .error (.of (.valueNotFoundInConfigMap "repository"))
    | some url =>
      match data.lookup "name" with
      | none => .error (.of (.valueNotFoundInConfigMap "name"))
      | some chartName =>
        .ok ⟨chartName,namespaceName,chartName,(data.lookup "version").getD "latest",url,false⟩

/-- The part of `installAutoscaler` after the checks. -/
def installJob (config : AutoscalerJobConfig) (clusterName : String) : AutoscalerProgram Outcome := do
  match ← prepareForApply sha256 baseURL config clusterName with
  | some err =>
    if isNotFound err ∨ isTokenNotPopulated err then return ⟨requeueAfter,none⟩
    else return ⟨0,some (err.wrap "failed to prepare Autoscaler Job")⟩
  | none =>
    match ← isInstalled config with
    | .error err => return ⟨0,some (err.wrap "failed to check if autoscaler is installed")⟩
    | .ok true => return ⟨0,none⟩
    | .ok false =>
      match ← apply config clusterName with
      | some err => return ⟨0,some (err.wrap "failed to apply Autoscaler Job")⟩
      | none => return ⟨0,none⟩

def installAutoscaler (clusterName : String) (configMapData : Map String String) :
    AutoscalerProgram Outcome := do
  match ← fetchDownstreamKubernetesClient clusterName with
  | some err =>
    if isNotFound err then return ⟨requeueAfter,none⟩
    else return ⟨0,some (err.wrap "failed to fetch kubeconfig from secret")⟩
  | none =>
    match ← request Call.checkClusterReady with
    | .error _ => return ⟨requeueAfter,none⟩
    | .ok () =>
      match jobConfig clusterName configMapData with
      | .error err => return ⟨0,some err⟩
      | .ok config => installJob sha256 baseURL config clusterName

/-- An error that `client.IgnoreNotFound` drops leaves nothing to wrap, and is an error all the same. -/
def reconcile (req : ObjectKey) : AutoscalerProgram Outcome := do
  match ← request (Call.getConfigMap req) with
  | .error err =>
    let cause : Cause := if err.isNotFound then .nothing else .api err
    return ⟨0,some ((Err.of cause).wrap ("failed to get ConfigMap " ++ req.1 ++ "/" ++ req.2))⟩
  | .ok ccmConfigMap =>
    match ccmConfigMap.metadata.labels.lookup clusterNameLabel with
    | none => return ⟨0,some (.of (.valueNotFoundInConfigMap ("clusterName: " ++ req.1 ++ "/" ++ req.2)))⟩
    | some clusterName =>
      let outcome ← installAutoscaler sha256 baseURL clusterName ccmConfigMap.data
      return { outcome with
        error := outcome.error.map (Err.wrap ("failed to install Autoscaler for cluster " ++ clusterName)) }

end Job

section Watch

/-- An event of the Secret informer. -/
inductive Event where
  | create (secret : Secret)
  | update (old new : Secret)
  | delete (secret : Secret)

def asAutoscalerTokenSecret (secret : Secret) : Bool :=
  if secret.type ≠ secretTypeServiceAccountToken then false
  else
    match secret.metadata.labels.lookup clusterNameLabel with
    | none => false
    | some clusterName => secret.metadata.name = clusterName ++ autoscalerSATokenSecretSuffix

def autoscalerTokenSecretPredicate : Event → Bool
  | .create secret =>
    asAutoscalerTokenSecret secret ∧ secret.data.index autoscalerSecretTokenKey ≠ []
  | .update old new =>
    asAutoscalerTokenSecret new ∧
      old.data.index autoscalerSecretTokenKey ≠ new.data.index autoscalerSecretTokenKey
  | .delete _ => false

/-- The requests for a Secret; `get` is the read of the ConfigMap. -/
def configMapForAutoscalerTokenSecret (get : ObjectKey → Except APIError ConfigMap) (secret : Secret) :
    List ObjectKey :=
  match secret.metadata.labels.lookup clusterNameLabel with
  | none => []
  | some clusterName =>
    if secret.metadata.name ≠ clusterName ++ autoscalerSATokenSecretSuffix then []
    else
      let configMapKey := (secret.metadata.namespaceName,clusterName ++ autoscalerConfigMapSuffix)
      match get configMapKey with
      | .error _ => []
      | .ok configMap =>
        if configMap.metadata.labels.index watchLabel ≠ autoscalerControllerName then [] else [configMapKey]

/-- `EnqueueRequestsFromMapFunc` maps both objects of an update. -/
def requests (first second : ObjectKey → Except APIError ConfigMap) (event : Event) : List ObjectKey :=
  if ¬ autoscalerTokenSecretPredicate event then []
  else
    match event with
    | .create secret => configMapForAutoscalerTokenSecret first secret
    | .update old new =>
      configMapForAutoscalerTokenSecret first old ++ configMapForAutoscalerTokenSecret second new
    | .delete secret => configMapForAutoscalerTokenSecret first secret

end Watch

end Kommodity.Autoscaler
