import Kommodity.AttestationNonces
import Kommodity.Machines

/-! The handlers of the attestation service. A node posts its report with a nonce it was issued;
the report goes into a ConfigMap and the nonce into a Secret, both named after a machine. The
trust handler reads both back and evaluates the report against the policy of the machine's
cluster. -/
namespace Kommodity.Attestation

open Go Versioned Secrets ConfigMaps Net

structure NodeInfo where
  uuid : String
  ip : String

structure AttestationReportRequest where
  nonce : String
  node : NodeInfo
  report : Report

/-- What the handlers read and write through the API server. -/
structure Cluster where
  machines : List Machine
  configMaps : ConfigMapStore
  secrets : SecretStore

/-- The calls of the HTTP handlers that can fail on their own. -/
inductive Call where
  | kubeClient
  | controllerClient
  | listMachines
  | createConfigMap
  | createSecret
  | getPolicy
  | getReport
  | getSecret
  | getBootstrapSecret
  deriving DecidableEq, Repr

/-- Code outside the service: the verifier's libraries, the API server's, JSON, the texts of API
errors and of `netip.ParseAddr`, and the order in which a PCR map is visited. -/
structure Env (PublicKey : Type) where
  crypto : Crypto PublicKey
  upstream : Upstream
  decodeRequest : Bytes → Option AttestationReportRequest
  marshalReport : Report → Except String String
  unmarshalReport : String → Except String Report
  apiText : APIError → String
  parseAddrText : String → String
  visit : Map Int String → List Int

inductive HandlerError where
  | client (context : String)
  | find (context : String) (cause : Net.Error)
  | json (context cause : String)
  | api (context : String) (cause : APIError)
  | wrap (context : String) (cause : HandlerError)

def HandlerError.message (text : APIError → String) : HandlerError → String
  | .client context => context
  | .find context _ => context
  | .json context cause => context ++ ": " ++ cause
  | .api context cause => context ++ ": " ++ text cause
  | .wrap context cause => context ++ ": " ++ cause.message text

section Post

variable (env : Env PublicKey) (up : Call → Bool)

def reportConfigMap (machine : Machine) (node : NodeInfo) (json : String) : ConfigMap where
  metadata := ⟨getConfigMapReportName machine,kommodityNamespace,
    getKommodityLabels node.uuid node.ip,∅⟩
  data := (∅ : Map String String).insert "report" json
  binaryData := ∅
  immutable := none

def nonceSecret (machine : Machine) (node : NodeInfo) (nonce : String) : Secret where
  metadata := ⟨getConfigMapReportName machine,kommodityNamespace,
    getKommodityLabels node.uuid node.ip,∅⟩
  type := ""
  data := ∅
  stringData := (∅ : Map String String).insert "nonce" nonce
  immutable := none

/-- The machine is looked up by the address in the request body. A ConfigMap that was created
stays when the Secret is refused. -/
def saveAttestationReport (cluster : Cluster) (req : AttestationReportRequest) :
    Except HandlerError Unit × Cluster :=
  if ¬ up .kubeClient then (.error (.client "failed to create kube client"),cluster)
  else if ¬ up .controllerClient then
    (.error (.client "failed to create controller client"),cluster)
  else match findManagedMachineByIP (request (up .listMachines) (.ok cluster.machines))
      req.node.ip with
    | .error cause =>
      (.error (.find ("failed to find managed machine by IP " ++ req.node.ip) cause),cluster)
    | .ok machine =>
      match env.marshalReport req.report with
      | .error cause => (.error (.json "failed to marshal report" cause),cluster)
      | .ok json =>
        match request (up .createConfigMap) (ConfigMaps.createConfigMap env.upstream
            cluster.configMaps (reportConfigMap machine req.node json)) with
        | .error cause =>
          (.error (.api ("failed to save attestation report for node " ++ req.node.ip) cause),cluster)
        | .ok configMaps =>
          match request (up .createSecret) (Secrets.createSecret env.upstream cluster.secrets
              (nonceSecret machine req.node req.nonce)) with
          | .error cause =>
            (.error (.api ("failed to save node secret for node " ++ req.node.ip) cause),
              { cluster with configMaps })
          | .ok secrets => (.ok (),{ cluster with configMaps, secrets })

/-- `PostReport`, with the nonce store and the cluster it leaves. -/
def postReport (nonces : NonceStore) (cluster : Cluster) (now : Int) (req : HTTPRequest) :
    HTTPResponse × NonceStore × Cluster :=
  if req.method ≠ "POST" then (httpError "Method not allowed" 405,nonces,cluster)
  else match env.decodeRequest req.body with
    | none => (httpError "Failed to decode request" 400,nonces,cluster)
    | some body =>
      match getOriginalIPFromRequest req with
      | .error _ => (httpError ipRequiredMessage 400,nonces,cluster)
      | .ok ip =>
        match nonces.use ip body.nonce now with
        | (.error cause,rest) => (httpError (cause.message env.parseAddrText) 400,rest,cluster)
        | (.ok false,rest) => (httpError "Invalid nonce" 401,rest,cluster)
        | (.ok true,rest) =>
          match saveAttestationReport env up cluster body with
          | (.error _,after) => (httpError "Failed to save attestation report" 500,rest,after)
          | (.ok (),after) => (⟨200,""⟩,rest,after)

end Post

section Trust

variable (env : Env PublicKey) (up : Call → Bool) (cluster : Cluster)

def transformConfigMapToReport (configMap : ConfigMap) : Except HandlerError Report :=
  match env.unmarshalReport (configMap.data.index "report") with
  | .error cause => .error (.json "failed to unmarshal attestation report" cause)
  | .ok report => .ok report

def getConfigMap (call : Call) (configMapName : String) : Except HandlerError ConfigMap :=
  match request (up call) (ConfigMaps.getConfigMap cluster.configMaps configMapName) with
  | .error cause => .error (.api "failed to get attestation policy config map" cause)
  | .ok entry => .ok entry.value

/-- A stored report, by the name of its ConfigMap. -/
def readReport (call : Call) (configMapName : String) : Except HandlerError Report :=
  match getConfigMap up cluster call configMapName with
  | .error cause => .error (.wrap "failed to get attestation report" cause)
  | .ok configMap =>
    match transformConfigMapToReport env configMap with
    | .error cause => .error (.wrap "failed to transform config map to report" cause)
    | .ok report => .ok report

def configMapPolicyPrefix : String := "attestation-policy"

def getAttestationPolicy (clusterName : String) : Except HandlerError Report :=
  readReport env up cluster .getPolicy (configMapPolicyPrefix ++ "-" ++ clusterName)

/-- The report of a machine and the nonce, which is read from the string data of the Secret. -/
def getMachineAttestationReport (machine : Machine) : Except HandlerError (Report × String) :=
  match readReport env up cluster .getReport (getConfigMapReportName machine) with
  | .error cause => .error cause
  | .ok report =>
    match request (up .getSecret) (Secrets.getSecret cluster.secrets
        (getConfigMapReportName machine)) with
    | .error cause => .error (.api "failed to get attestation nonce secret" cause)
    | .ok entry => .ok (report,entry.value.stringData.index "nonce")

/-- `GetTrust`. The address comes from the request itself, not from its path. -/
def getTrust (req : HTTPRequest) : HTTPResponse :=
  if req.method ≠ "GET" then httpError "Method not allowed" 405
  else match getOriginalIPFromRequest req with
    | .error _ => httpError ipRequiredMessage 400
    | .ok ip =>
      if ¬ up .kubeClient then httpError "Failed to create kube client" 500
      else if ¬ up .controllerClient then httpError "Failed to create controller client" 500
      else match findManagedMachineByIP (request (up .listMachines) (.ok cluster.machines)) ip with
        | .error .noMachineFound => httpError "Machine not found" 404
        | .error _ => httpError "Failed to find machine by IP" 500
        | .ok machine =>
          match getAttestationPolicy env up cluster machine.clusterName with
          | .error cause =>
            httpError ("Failed to get attestation policy: " ++ cause.message env.apiText) 500
          | .ok policy =>
            match getMachineAttestationReport env up cluster machine with
            | .error cause =>
              httpError ("Failed to get attestation report: " ++ cause.message env.apiText) 500
            | .ok (report,nonce) =>
              match compliantWith env.crypto report nonce policy (env.visit policy.pcrs) with
              | .error cause =>
                httpError ("Failed to evaluate attestation report: " ++ cause.message env.parseAddrText) 500
              | .ok false => httpError "Machine is not trusted" 401
              | .ok true => ⟨200,""⟩

end Trust

end Kommodity.Attestation
