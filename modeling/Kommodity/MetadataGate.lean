import Kommodity.AttestationStorage

/-! The metadata service hands a machine its bootstrap configuration when the attestation service
trusts it. It asks over HTTP: a request to the trust endpoint of its own server, whose handler
sees the loopback connection as its client. -/
namespace Kommodity.Metadata

open Go Versioned Secrets Net Attestation

/-- What becomes of a request to a URL of the server itself. It may end at another endpoint; one
that reaches the trust handler has the peer address that the HTTP server sets. -/
inductive Delivery where
  | badURL (cause : String)
  | failed (cause : String)
  | elsewhere (status : Nat)
  | handled (peer : String) (known : peer ≠ "")

inductive Error where
  | unexpectedResponse
  | library (context cause : String)
  | api (context : String) (cause : APIError)

structure Env (PublicKey Config : Type) where
  attestation : Attestation.Env PublicKey
  serverPort : Int
  deliver : String → Delivery
  unmarshalConfig : Bytes → Except String Config
  encodeConfig : Config → Option String

section Gate

variable (env : Env PublicKey Config) (up inner : Call → Bool) (cluster : Cluster)

/-- The trust endpoint with the address filled in. -/
def trustURL (ip : String) : String :=
  "http://localhost:" ++ toString env.serverPort ++ "/report/" ++ ip ++ "/trust"

def trustDecision (status : Nat) : Except Error Bool :=
  if status = 200 then .ok true
  else if status = 401 ∨ status = 403 then .ok false
  else .error .unexpectedResponse

/-- `inner` are the calls that the trust handler makes for this request. -/
def isTrusted (ip : String) : Except Error Bool :=
  match env.deliver (trustURL env ip) with
  | .badURL cause => .error (.library "failed to create trust request" cause)
  | .failed cause => .error (.library "failed to call trust endpoint" cause)
  | .elsewhere status => trustDecision status
  | .handled peer _ =>
    trustDecision (getTrust env.attestation inner cluster ⟨"GET","",peer,[]⟩).status

/-- A machine without a bootstrap Secret name makes the handler panic: `none`. -/
def fetchMachineConfig (machine : Machine) : Option (Except Error Config) :=
  if ¬ up .kubeClient then some (.error (.library "failed to create kube client" ""))
  else machine.dataSecretName.map fun secretName =>
    match request (up .getBootstrapSecret) (getSecret cluster.secrets secretName) with
    | .error cause => .error (.api "failed to get secret" cause)
    | .ok entry =>
      match env.unmarshalConfig (entry.value.data.index "value") with
      | .error cause => .error (.library "failed to unmarshal machine config" cause)
      | .ok config => .ok config

/-- The first half of `GetUserData`: the machine that is to be served, or the refusal. -/
def admittedMachine (req : HTTPRequest) : Except HTTPResponse Machine :=
  if req.method ≠ "GET" then .error (httpError "Method not allowed" 405)
  else match getOriginalIPFromRequest req with
    | .error _ => .error (httpError ipRequiredMessage 400)
    | .ok ip =>
      match isTrusted env inner cluster ip with
      | .error _ => .error (httpError "Failed to verify trust status" 500)
      | .ok false => .error (httpError "Unauthorized: machine is not trusted" 401)
      | .ok true =>
        if ¬ up .controllerClient then .error (httpError "Failed to create controller client" 500)
        else match findManagedMachineByIP (request (up .listMachines) (.ok cluster.machines)) ip with
          | .error .noMachineFound => .error (httpError "Machine not found" 404)
          | .error _ => .error (httpError "Failed to find machine by IP" 500)
          | .ok machine => .ok machine

def talosHeader : String := "#!talos\n"

/-- `GetUserData`. The status line is out before the configuration is encoded. -/
def getUserData (req : HTTPRequest) : Option HTTPResponse :=
  match admittedMachine env up inner cluster req with
  | .error refusal => some refusal
  | .ok machine =>
    (fetchMachineConfig env up cluster machine).map fun fetched =>
      match fetched with
      | .error _ => httpError "Failed to fetch machine config" 500
      | .ok config =>
        match env.encodeConfig config with
        | none => ⟨200,talosHeader ++ "Failed to encode machine config\n"⟩
        | some text => ⟨200,talosHeader ++ text⟩

end Gate

/-- The stored report of a machine passes the policy of its cluster with a nonce taken from its
stored Secret. -/
def Evaluates (env : Attestation.Env PublicKey) (cluster : Cluster)
    (nonceOf : Secret → String → Prop) (machine : Machine) : Prop :=
  ∃ policy report entry nonce,
    getAttestationPolicy env (fun _ => true) cluster machine.clusterName = .ok policy ∧
    readReport env (fun _ => true) cluster .getReport (getConfigMapReportName machine) = .ok report ∧
    cluster.secrets.get (getConfigMapReportName machine) = some entry ∧ nonceOf entry.value nonce ∧
    compliantWith env.crypto report nonce policy (env.visit policy.pcrs) = .ok true

/-- The stored nonce is the `nonce` entry of the Secret's data. -/
def Compliant (env : Attestation.Env PublicKey) (cluster : Cluster) (machine : Machine) : Prop :=
  Evaluates env cluster (fun secret nonce => bytes nonce = secret.data.index "nonce") machine

/-- What the gate asks instead: the answer of whatever endpoint the URL leads to, and for the
trust handler the evaluation of the machine that lists the peer address of the loopback
connection, with the nonce entry of the string data. -/
def PeerTrusted (env : Env PublicKey Config) (cluster : Cluster) (ip : String) : Prop :=
  env.deliver (trustURL env ip) = .elsewhere 200 ∨
  ∃ peer known machine, env.deliver (trustURL env ip) = .handled peer known ∧
    machineByAddress cluster.machines peer = some machine ∧
    Evaluates env.attestation cluster (fun secret nonce => nonce = secret.stringData.index "nonce")
      machine

/-- The encoded bootstrap configuration of a machine. -/
def bootstrapText (env : Env PublicKey Config) (cluster : Cluster) (machine : Machine) :
    Option String :=
  match fetchMachineConfig env (fun _ => true) cluster machine with
  | some (.ok config) => env.encodeConfig config
  | _ => none

/-- The request is answered 200 with the bootstrap configuration of this machine. -/
def Serves (env : Env PublicKey Config) (cluster : Cluster) (req : HTTPRequest)
    (machine : Machine) : Prop :=
  admittedMachine env (fun _ => true) (fun _ => true) cluster req = .ok machine ∧
  ∃ text, bootstrapText env cluster machine = some text ∧
    getUserData env (fun _ => true) (fun _ => true) cluster req = some ⟨200,talosHeader ++ text⟩

/-- The gate serves the machine of the address, and only when that machine is compliant. -/
def GateHolds (env : Env PublicKey Config) (cluster : Cluster) (req : HTTPRequest)
    (ip : String) : Prop :=
  ∀ machine, Serves env cluster req machine ↔
    machineByAddress cluster.machines ip = some machine ∧
    Compliant env.attestation cluster machine

theorem getMachineAttestationReport_ok_iff {env : Attestation.Env PublicKey} :
    getMachineAttestationReport env (fun _ => true) cluster machine = .ok (report,nonce) ↔
      readReport env (fun _ => true) cluster .getReport (getConfigMapReportName machine) =
        .ok report ∧
      ∃ entry, cluster.secrets.get (getConfigMapReportName machine) = some entry ∧
        nonce = entry.value.stringData.index "nonce" := by
  simp only [getMachineAttestationReport,request,↓reduceIte,getSecret]
  cases readReport env (fun _ => true) cluster .getReport (getConfigMapReportName machine) with
  | error cause => simp
  | ok read =>
    cases cluster.secrets.get (getConfigMapReportName machine) with
    | none => simp
    | some entry => simp [eq_comm]

/-- The evaluation in the words of the trust handler. -/
theorem evaluates_stringData_iff (env : Attestation.Env PublicKey) (cluster : Cluster)
    (machine : Machine) :
    Evaluates env cluster (fun secret nonce => nonce = secret.stringData.index "nonce") machine ↔
      ∃ policy report nonce,
        getAttestationPolicy env (fun _ => true) cluster machine.clusterName = .ok policy ∧
        getMachineAttestationReport env (fun _ => true) cluster machine = .ok (report,nonce) ∧
        compliantWith env.crypto report nonce policy (env.visit policy.pcrs) = .ok true := by
  constructor
  · rintro ⟨policy,report,entry,nonce,named,read,found,same,accepted⟩
    exact ⟨policy,report,nonce,named,
      getMachineAttestationReport_ok_iff.mpr ⟨read,entry,found,same⟩,accepted⟩
  · rintro ⟨policy,report,nonce,named,stored,accepted⟩
    obtain ⟨read,entry,found,same⟩ := getMachineAttestationReport_ok_iff.mp stored
    exact ⟨policy,report,entry,nonce,named,read,found,same,accepted⟩

theorem getTrust_ok_iff (env : Attestation.Env PublicKey) (cluster : Cluster)
    (known : peer ≠ "") :
    (getTrust env (fun _ => true) cluster ⟨"GET","",peer,[]⟩).status = 200 ↔
      ∃ machine, machineByAddress cluster.machines peer = some machine ∧
        Evaluates env cluster (fun secret nonce => nonce = secret.stringData.index "nonce")
          machine := by
  have source : getOriginalIPFromRequest ⟨"GET","",peer,[]⟩ = .ok peer := by
    simp [getOriginalIPFromRequest,known]
  simp only [getTrust,source,ne_eq,not_true_eq_false,↓reduceIte,request,findManagedMachineByIP,
    evaluates_stringData_iff]
  cases machineByAddress cluster.machines peer with
  | none => simp [httpError]
  | some machine =>
    simp only [Option.some.injEq,exists_eq_left']
    cases getAttestationPolicy env (fun _ => true) cluster machine.clusterName with
    | error cause => simp [httpError]
    | ok policy =>
      cases getMachineAttestationReport env (fun _ => true) cluster machine with
      | error cause => simp [httpError]
      | ok pair =>
        obtain ⟨report,nonce⟩ := pair
        simp only [Except.ok.injEq,Prod.mk.injEq,exists_and_left,exists_eq_left',and_assoc]
        cases compliantWith env.crypto report nonce policy (env.visit policy.pcrs) with
        | error cause => simp [httpError]
        | ok answer => cases answer <;> simp [httpError]

theorem trustDecision_true_iff : trustDecision status = .ok true ↔ status = 200 := by
  unfold trustDecision
  split
  · next accepted => simp [accepted]
  · next other => split <;> simp [other]

theorem isTrusted_iff (env : Env PublicKey Config) (cluster : Cluster) (ip : String) :
    isTrusted env (fun _ => true) cluster ip = .ok true ↔ PeerTrusted env cluster ip := by
  simp only [isTrusted,PeerTrusted]
  cases env.deliver (trustURL env ip) with
  | badURL cause => simp
  | failed cause => simp
  | elsewhere status => simp [trustDecision_true_iff]
  | handled peer known =>
    simp only [trustDecision_true_iff,getTrust_ok_iff env.attestation cluster known]
    constructor
    · rintro ⟨machine,found,evaluates⟩
      exact .inr ⟨peer,known,machine,rfl,found,evaluates⟩
    · rintro (other | ⟨_,_,machine,same,found,evaluates⟩)
      · simp at other
      · cases same
        exact ⟨machine,found,evaluates⟩

section Request

variable {env : Env PublicKey Config} {cluster : Cluster} {req : HTTPRequest}

theorem admittedMachine_ok_iff (get : req.method = "GET")
    (source : getOriginalIPFromRequest req = .ok ip) :
    admittedMachine env (fun _ => true) (fun _ => true) cluster req = .ok machine ↔
      PeerTrusted env cluster ip ∧ machineByAddress cluster.machines ip = some machine := by
  rw [← isTrusted_iff]
  simp only [admittedMachine,get,source,ne_eq,not_true_eq_false,↓reduceIte,request,
    findManagedMachineByIP]
  cases isTrusted env (fun _ => true) cluster ip with
  | error cause => simp
  | ok trusted =>
    cases trusted with
    | false => simp
    | true => cases machineByAddress cluster.machines ip <;> simp

/-- A machine that is let through is served its own configuration. -/
theorem serves_iff (get : req.method = "GET") (source : getOriginalIPFromRequest req = .ok ip)
    (reads : ∀ machine, machineByAddress cluster.machines ip = some machine →
      (bootstrapText env cluster machine).isSome) (machine : Machine) :
    Serves env cluster req machine ↔
      PeerTrusted env cluster ip ∧ machineByAddress cluster.machines ip = some machine := by
  rw [Serves,admittedMachine_ok_iff get source]
  refine and_iff_left_of_imp ?_
  intro admitted
  obtain ⟨text,encoded⟩ := Option.isSome_iff_exists.mp (reads machine admitted.2)
  refine ⟨text,encoded,?_⟩
  have selected := (admittedMachine_ok_iff get source).mpr admitted
  unfold bootstrapText at encoded
  split at encoded
  · next config fetched => simp [getUserData,selected,fetched,encoded]
  · simp at encoded

/-- The gate is right exactly when compliance of the address's machine agrees with what the
loopback request evaluates. When no machine lists the peer address of that request, this means:
only when there is nobody to let through. -/
theorem metadata_gate_iff (env : Env PublicKey Config) (cluster : Cluster) (req : HTTPRequest)
    (get : req.method = "GET") (source : getOriginalIPFromRequest req = .ok ip)
    (reads : ∀ machine, machineByAddress cluster.machines ip = some machine →
      (bootstrapText env cluster machine).isSome) :
    (GateHolds env cluster req ip ↔
      ∀ machine, machineByAddress cluster.machines ip = some machine →
        (Compliant env.attestation cluster machine ↔ PeerTrusted env cluster ip)) ∧
    (env.deliver (trustURL env ip) ≠ .elsewhere 200 →
      (∀ peer known, env.deliver (trustURL env ip) = .handled peer known →
        machineByAddress cluster.machines peer = none) →
      (GateHolds env cluster req ip ↔
        ∀ machine, machineByAddress cluster.machines ip = some machine →
          ¬ Compliant env.attestation cluster machine)) := by
  have exact_ : GateHolds env cluster req ip ↔
      ∀ machine, machineByAddress cluster.machines ip = some machine →
        (Compliant env.attestation cluster machine ↔ PeerTrusted env cluster ip) := by
    simp only [GateHolds,serves_iff get source reads]
    constructor
    · intro gate machine found
      have here := gate machine
      simp only [found,and_true,true_and] at here
      exact here.symm
    · intro agree machine
      rw [and_comm]
      exact and_congr_right fun found => (agree machine found).symm
  refine ⟨exact_,?_⟩
  intro here nobody
  have untrusted : ¬ PeerTrusted env cluster ip := by
    rintro (other | ⟨peer,known,machine,delivered,found,_⟩)
    · exact here other
    · rw [nobody peer known delivered] at found
      simp at found
  rw [exact_]
  simp only [untrusted,iff_false]

end Request

section Sample

def node : Machine := sampleMachine "node" "10.0.0.2"

def spare : Machine := sampleMachine "spare" "10.0.0.3"

def pcrJSON : String := "\"0\":\"" ++ hexEncodeToString (List.replicate 32 0xaa) ++ "\""

def nodeReportRest : String :=
  pcrJSON ++ ",\"7\":\"" ++ hexEncodeToString (List.replicate 32 0xbb) ++
    "\"\x7d,\"quote\":\"" ++ sampleReport.quote ++ "\",\"signature\":\"" ++
    sampleReport.signature ++ "\",\"tpmPublicKey\":\"" ++ sampleReport.tpmPublicKey ++
    "\",\"timestamp\":\"0001-01-01T00:00:00Z\"\x7d"

/-- The JSON of the sample report. -/
def nodeReportJSON : String := "\x7b\"components\":[],\"pcrs\":\x7b" ++ nodeReportRest

/-- A policy that asks for the quoted value of PCR 0. -/
def policyJSON : String := "\x7b\"pcrs\":\x7b" ++ (pcrJSON ++ "\x7d\x7d")

def policy : Report := singlePCR 0 (hexEncodeToString (List.replicate 32 0xaa))

def configMapWith (name json : String) : ConfigMaps.ConfigMap :=
  ⟨⟨name,kommodityNamespace,∅,∅⟩,(∅ : Map String String).insert "report" json,∅,none⟩

def secretWith (name key : String) (value : Bytes) : Secret :=
  ⟨⟨name,kommodityNamespace,∅,∅⟩,"",(∅ : Map String Bytes).insert key value,∅,none⟩

/-- A cluster with two machines, one of which has an accepted report. -/
def gateCluster : Cluster where
  machines := [node,spare]
  configMaps := (Store.empty.put "attestation-policy-prod"
    (configMapWith "attestation-policy-prod" policyJSON)).put (getConfigMapReportName node)
    (configMapWith (getConfigMapReportName node) nodeReportJSON)
  secrets := ((Store.empty.put "node-bootstrap"
      (secretWith "node-bootstrap" "value" (bytes "version: v1alpha1\n"))).put "spare-bootstrap"
      (secretWith "spare-bootstrap" "value" (bytes "version: v1alpha1\n"))).put
    (getConfigMapReportName node)
    (secretWith (getConfigMapReportName node) "nonce" (bytes sampleNonce))

def gateEnv : Env Bytes String where
  attestation := { claimingEnv "10.0.0.2" with
    unmarshalReport := fun json =>
      if json = policyJSON then .ok policy
      else if json = nodeReportJSON then .ok sampleReport
      else .error "unexpected end of JSON input" }
  serverPort := 5000
  deliver _ := .handled "127.0.0.1:54321" (by decide)
  unmarshalConfig data := if data = bytes "version: v1alpha1\n" then .ok "v1alpha1"
    else .error "yaml: invalid document"
  encodeConfig version := some ("version: " ++ version ++ "\n")

def gateRequest (ip : String) : HTTPRequest := ⟨"GET",ip,"192.0.2.1:4000",[]⟩

theorem append_ne_at {a b : String} (i : Nat) (inA : i < a.toList.length)
    (inB : i < b.toList.length) (apart : a.toList[i]? ≠ b.toList[i]?) (s t : String) :
    a ++ s ≠ b ++ t := by
  intro same
  have there := congrArg (fun text : String => text.toList[i]?) same
  simp only [String.toList_append] at there
  rw [List.getElem?_append_left inA,List.getElem?_append_left inB] at there
  exact apart there

theorem policyJSON_ne : nodeReportJSON ≠ policyJSON :=
  append_ne_at 2 (by decide) (by decide) (by decide) _ _

theorem readReport_of_get {env : Attestation.Env PublicKey} (json : String)
    (found : cluster.configMaps.get name = some e) (text : e.value.data.lookup "report" = some json)
    (decoded : env.unmarshalReport json = .ok report) :
    readReport env (fun _ => true) cluster call name = .ok report := by
  have index : e.value.data.index "report" = json := Map.index_of_lookup text
  simp [readReport,getConfigMap,request,ConfigMaps.getConfigMap,found,transformConfigMapToReport,
    index,decoded]

theorem node_compliant : Compliant gateEnv.attestation gateCluster node := by
  have apart : "attestation-policy-prod" ≠ getConfigMapReportName node := by decide
  have listed : sampleReport.pcrs.lookup 0 = some (hexEncodeToString (List.replicate 32 0xaa)) :=
    sampleReport_pcr
  refine ⟨policy,sampleReport,_,sampleNonce,?_,?_,get_put_same ..,?_,
    compliantWith_singlePCR verifyQuote_sample listed⟩
  · apply readReport_of_get policyJSON
    · exact (get_put_other _ _ apart).trans (get_put_same ..)
    · simp only [configMapWith,Map.lookup_insert_eq,↓reduceIte]
    · simp only [gateEnv,↓reduceIte]
  · apply readReport_of_get nodeReportJSON
    · exact get_put_same ..
    · simp only [configMapWith,Map.lookup_insert_eq,↓reduceIte]
    · simp only [gateEnv,policyJSON_ne,↓reduceIte]
  · refine (Map.index_of_lookup ?_).symm
    simp only [secretWith,Map.lookup_insert_eq,↓reduceIte]

/-- A compliant machine is not served. -/
theorem compliant_machine_refused :
    machineByAddress gateCluster.machines "10.0.0.2" = some node ∧
    Compliant gateEnv.attestation gateCluster node ∧
    getUserData gateEnv (fun _ => true) (fun _ => true) gateCluster (gateRequest "10.0.0.2") =
      some ⟨500,"Failed to verify trust status\n"⟩ :=
  ⟨by rfl,node_compliant,by decide +kernel⟩

/-- A server whose trust requests reach another endpoint, which answers 200. -/
def divertedEnv : Env Bytes String := { gateEnv with deliver := fun _ => .elsewhere 200 }

/-- The gate is right for the machine without a report, which is not served, and where another
endpoint answers for the trust handler it serves the compliant one. -/
theorem metadata_gate_spare :
    GateHolds gateEnv gateCluster (gateRequest "10.0.0.3") "10.0.0.3" ∧
    Serves divertedEnv gateCluster (gateRequest "10.0.0.2") node := by
  have foundSpare : machineByAddress gateCluster.machines "10.0.0.3" = some spare := by rfl
  have foundNode : machineByAddress gateCluster.machines "10.0.0.2" = some node := by rfl
  have gate := metadata_gate_iff gateEnv gateCluster (gateRequest "10.0.0.3") rfl
    (show getOriginalIPFromRequest (gateRequest "10.0.0.3") = .ok "10.0.0.3" by decide)
  have diverted := metadata_gate_iff divertedEnv gateCluster (gateRequest "10.0.0.2") rfl
    (show getOriginalIPFromRequest (gateRequest "10.0.0.2") = .ok "10.0.0.2" by decide)
  simp only [foundSpare,Option.some.injEq,forall_eq'] at gate
  simp only [foundNode,Option.some.injEq,forall_eq'] at diverted
  constructor
  · refine ((gate (by decide +kernel)).2 (by simp [gateEnv]) ?_).mpr ?_
    · intro peer known delivered
      cases delivered
      rfl
    · rintro ⟨_,_,entry,_,_,_,stored,_⟩
      have absent : gateCluster.secrets.get (getConfigMapReportName spare) = none := by rfl
      rw [absent] at stored
      simp at stored
  · have holds := (diverted (by decide +kernel)).1.mpr ⟨fun _ => .inl rfl,fun _ => node_compliant⟩
    exact (holds node).mpr ⟨foundNode,node_compliant⟩

end Sample

end Kommodity.Metadata
