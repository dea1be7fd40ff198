import Kommodity.AttestationStorage

/-! Reports share their storage by name. Two machines whose names are left with the same rest under
their own deployment prefixes read each other's reports, and a report that was left half stored
refuses the next one of its machine. -/
namespace Kommodity.Attestation

open Go Versioned Secrets ConfigMaps Net Transition

/-- The deployment of a machine with a hyphen, as the names of its machines begin. -/
def deploymentPart (machine : Machine) : String := machine.labels.index deploymentNameLabel ++ "-"

/-- The name of the machine is its deployment and the rest, or does not begin with its deployment
and is all of the rest. -/
def Remainder (machine : Machine) (rest : String) : Prop :=
  machine.name = deploymentPart machine ++ rest ∨
  machine.name = rest ∧ ∀ other, machine.name ≠ deploymentPart machine ++ other

theorem trimPrefix_append (start p : String) : trimPrefix (start ++ p) start = p := by
  rw [trimPrefix,if_pos ((hasPrefix_iff _ _).mpr ⟨p,rfl⟩)]
  simp

theorem trimPrefix_eq_iff (machine : Machine) (rest : String) :
    trimPrefix machine.name (deploymentPart machine) = rest ↔ Remainder machine rest := by
  unfold Remainder
  by_cases begins : hasPrefix machine.name (deploymentPart machine) = true
  · obtain ⟨p,eq⟩ := (hasPrefix_iff _ _).mp begins
    rw [eq,trimPrefix_append]
    constructor
    · rintro rfl; exact .inl rfl
    · rintro (same | ⟨_,apart⟩)
      · exact (String.append_right_inj _).mp same
      · exact absurd rfl (apart p)
  · have apart : ∀ other, machine.name ≠ deploymentPart machine ++ other :=
      fun other same => begins ((hasPrefix_iff _ _).mpr ⟨other,same⟩)
    rw [trimPrefix,if_neg begins]
    exact ⟨fun same => .inr ⟨same,apart⟩,fun either => either.elim (fun same => absurd same (apart rest)) (·.1)⟩

theorem reportName_eq_iff (m m' : Machine) :
    getConfigMapReportName m = getConfigMapReportName m' ↔ ∃ rest, Remainder m rest ∧ Remainder m' rest := by
  simp only [← trimPrefix_eq_iff]
  constructor
  · intro same
    exact ⟨_,rfl,((String.append_right_inj _).mp same).symm⟩
  · rintro ⟨rest,first,second⟩
    unfold deploymentPart at first second
    simp only [getConfigMapReportName,first,second]

theorem policyName_ne_reportName (clusterName : String) (machine : Machine) :
    configMapPolicyPrefix ++ "-" ++ clusterName ≠ getConfigMapReportName machine := by
  intro same
  have letters := congrArg (fun s => (s.toList.drop 12).head?) same
  simp [configMapPolicyPrefix,getConfigMapReportName,configMapReportPrefix] at letters

theorem readReport_put (env : Env PublicKey) (up : Call → Bool) {before after : Cluster} (call : Call)
    (configMaps : after.configMaps = before.configMaps.put name cfg) (other : wanted ≠ name) :
    readReport env up after call wanted = readReport env up before call wanted := by
  simp only [readReport,getConfigMap,ConfigMaps.getConfigMap,configMaps,get_put_other _ _ other]

/-- A report that was saved for one machine changes no answer about a machine of another report name. -/
theorem Saved.getTrust_eq {env : Env PublicKey} (saved : Saved env before after req machine json)
    (resolves : ∀ ip, getOriginalIPFromRequest http = .ok ip → machineByAddress before.machines ip = some other)
    (apart : getConfigMapReportName other ≠ getConfigMapReportName machine) (up : Call → Bool) :
    getTrust env up after http = getTrust env up before http := by
  have policy := readReport_put env up .getPolicy saved.configMaps
    (policyName_ne_reportName other.clusterName machine)
  have report := readReport_put env up .getReport saved.configMaps apart
  unfold getTrust
  split
  · rfl
  · cases source : getOriginalIPFromRequest http with
    | error err => rfl
    | ok ip =>
      simp only [saved.machines]
      split
      · rfl
      · split
        · rfl
        · cases located : findManagedMachineByIP (request (up .listMachines) (.ok before.machines)) ip with
          | error err => cases err <;> rfl
          | ok found =>
            have same : found = other := by
              cases listed : up .listMachines with
              | false => rw [listed] at located; simp [Secrets.request,findManagedMachineByIP] at located
              | true =>
                rw [listed] at located
                exact Option.some.inj ((findManagedMachineByIP_ok.mp located).symm.trans (resolves ip source))
            subst same
            simp only [getAttestationPolicy,policy,getMachineAttestationReport,report,saved.secrets,
              Secrets.getSecret,get_put_other _ _ apart]

/-- The report names differ, and no report that `PostReport` stores for the first machine changes
what `GetTrust` answers about the second. -/
def Separate (m m' : Machine) : Prop :=
  getConfigMapReportName m ≠ getConfigMapReportName m' ∧
  ∀ (PublicKey : Type) (env : Env PublicKey) up nonces cluster now http response rest after req,
    postReport env up nonces cluster now http = (response,rest,after) → response.status = 200 →
    env.decodeRequest http.body = some req → machineByAddress cluster.machines req.node.ip = some m →
    ∀ up' http', (∀ ip, getOriginalIPFromRequest http' = .ok ip →
        machineByAddress cluster.machines ip = some m') →
      getTrust env up' after http' = getTrust env up' cluster http'

/-- Two machines keep their reports apart exactly when their names leave different rests. -/
theorem reports_separate_iff (m m' : Machine) :
    Separate m m' ↔ ¬ ∃ rest, Remainder m rest ∧ Remainder m' rest := by
  rw [← reportName_eq_iff]
  constructor
  · exact And.left
  · intro apart
    refine ⟨apart,?_⟩
    intro PublicKey env up nonces cluster now http response rest after req posted accepted decoded resolved
      up' http' resolves
    obtain ⟨req',ip,machine,json,decoded',_,_,saved⟩ := postReport_ok posted accepted
    cases decoded.symm.trans decoded'
    cases resolved.symm.trans saved.found
    exact saved.getTrust_eq resolves (Ne.symm apart) up'

/-- A machine of a deployment. -/
def deployed (deployment name address : String) : Machine :=
  { sampleMachine name address with
    name := deployment ++ "-" ++ name
    labels := ((∅ : Map String String).insert managedByLabel "kommodity").insert deploymentNameLabel deployment }

theorem remainder_deployed (deployment name address : String) :
    Remainder (deployed deployment name address) name := by
  refine .inl ?_
  simp [deploymentPart,deployed,Map.index]

/-- Machines of two deployments that end alike, of which the second posts its report. -/
def alikeCluster : Cluster :=
  ⟨[deployed "prod" "0" "10.0.0.1",deployed "test" "0" "10.0.0.2"],Store.empty,Store.empty⟩

def alikePost : HTTPResponse × NonceStore × Cluster :=
  postReport (claimingEnv "10.0.0.2") (fun _ => true) sampleNonces alikeCluster 10 (claimingRequest "10.0.0.2")

theorem not_separate_alike :
    Managed (deployed "test" "0" "10.0.0.2") ∧ Managed (deployed "prod" "0" "10.0.0.1") ∧
    ¬ Separate (deployed "test" "0" "10.0.0.2") (deployed "prod" "0" "10.0.0.1") ∧
    alikePost.1.status = 200 ∧
    (getMachineAttestationReport (claimingEnv "10.0.0.2") (fun _ => true) alikeCluster
      (deployed "prod" "0" "10.0.0.1")).isOk = false ∧
    (getMachineAttestationReport (claimingEnv "10.0.0.2") (fun _ => true) alikePost.2.2
      (deployed "prod" "0" "10.0.0.1")).isOk = true := by
  refine ⟨by decide,by decide,?_,by decide +kernel,by decide +kernel,by decide +kernel⟩
  intro separate
  exact separate.1 ((reportName_eq_iff _ _).mpr ⟨"0",remainder_deployed ..,remainder_deployed ..⟩)

section Retry

variable {env : Env PublicKey} {machine : Machine}

/-- A single failure: a call without effect, or a call whose answer is lost. -/
inductive Fault where
  | refused (call : Call)
  | lost (call : Call)
  deriving DecidableEq, Repr

/-- The calls that still take effect. After the lost answer of a ConfigMap's creation the handler
does not come to the Secret. -/
def Fault.up : Fault → Call → Bool
  | .refused call,c => c ≠ call
  | .lost .createConfigMap,c => c ≠ .createSecret
  | .lost .createSecret,_ => true
  | .lost call,c => c ≠ call

/-- `PostReport` under a failure. A Secret that was created without an answer is reported as an
error of its own. -/
def failingPost (env : Env PublicKey) (fault : Fault) (nonces : NonceStore) (cluster : Cluster)
    (now : Int) (req : HTTPRequest) : HTTPResponse × NonceStore × Cluster :=
  let (response,rest,after) := postReport env fault.up nonces cluster now req
  (if fault = .lost .createSecret ∧ response.status = 200 then
    httpError "Failed to save attestation report" 500 else response,rest,after)

/-- The report can be encoded and its ConfigMap passes validation. -/
def ReportFits (env : Env PublicKey) (machine : Machine) (req : AttestationReportRequest) : Prop :=
  ∃ json, env.marshalReport req.report = .ok json ∧
    validateConfigMap env.upstream (reportConfigMap machine req.node json) = []

/-- The Secret of the nonce passes validation. -/
def NonceFits (env : Env PublicKey) (machine : Machine) (req : AttestationReportRequest) : Prop :=
  validateSecret env.upstream (prepareForCreate env.upstream (nonceSecret machine req.node req.nonce)) = []

/-- No call fails up to the ConfigMap's creation. -/
def Reaches (up : Call → Bool) : Prop :=
  up .kubeClient ∧ up .controllerClient ∧ up .listMachines ∧ up .createConfigMap

/-- Nothing is stored under the report name of the machine. -/
def Free (cluster : Cluster) (machine : Machine) : Prop :=
  cluster.configMaps.get (getConfigMapReportName machine) = none ∧
  cluster.secrets.get (getConfigMapReportName machine) = none

/-- Where a submission stops: before the ConfigMap, at the Secret, or not at all. -/
inductive Stops (env : Env PublicKey) (up : Call → Bool) (cluster : Cluster) (req : AttestationReportRequest)
    (machine : Machine) : Except HandlerError Unit × Cluster → Prop where
  | before (cause : HandlerError) (why : Reaches up → ReportFits env machine req →
      cluster.configMaps.get (getConfigMapReportName machine) ≠ none) :
      Stops env up cluster req machine (.error cause,cluster)
  | atSecret (cause : HandlerError) (configMap : ConfigMap) (reaches : Reaches up)
      (fits : ReportFits env machine req)
      (why : up .createSecret → NonceFits env machine req →
        cluster.secrets.get (getConfigMapReportName machine) ≠ none) :
      Stops env up cluster req machine (.error cause,
        { cluster with configMaps := cluster.configMaps.put (getConfigMapReportName machine) configMap })
  | never (reaches : Reaches up) (fits : ReportFits env machine req) (nonceFits : NonceFits env machine req)
      (after : Cluster) (saved : Saved env cluster after req machine json) :
      Stops env up cluster req machine (.ok (),after)

theorem saveAttestationReport_stops (env : Env PublicKey) (up : Call → Bool)
    (found : machineByAddress cluster.machines req.node.ip = some machine) :
    Stops env up cluster req machine (saveAttestationReport env up cluster req) := by
  unfold saveAttestationReport
  split
  · next down => exact .before _ (fun reaches => absurd reaches.1 down)
  · next kube =>
    split
    · next down => exact .before _ (fun reaches => absurd reaches.2.1 down)
    · next controller =>
      cases listed : up .listMachines with
      | false => exact .before _ (fun reaches => absurd reaches.2.2.1 (by simp [listed]))
      | true =>
        simp only [Secrets.request,↓reduceIte,findManagedMachineByIP_ok.mpr found]
        split
        · next cause failed =>
          refine .before _ ?_
          rintro _ ⟨json,encoded,_⟩
          simp [failed] at encoded
        · next json encoded =>
          cases create : up .createConfigMap with
          | false => exact .before _ (fun reaches => absurd reaches.2.2.2 (by simp [create]))
          | true =>
            have reaches : Reaches up := ⟨by simpa using kube,by simpa using controller,listed,create⟩
            simp only [↓reduceIte]
            split
            · next cause failed =>
              refine .before _ ?_
              rintro _ ⟨json',encoded',fits⟩
              cases encoded.symm.trans encoded'
              exact createConfigMap_error failed fits
            · next configMaps created =>
              have fits : ReportFits env machine req := ⟨json,encoded,createConfigMap_valid created⟩
              obtain ⟨noReport,rfl⟩ := createConfigMap_ok created
              split
              · next cause failed =>
                refine .atSecret _ _ reaches fits fun secret nonceFits => ?_
                rw [if_pos secret] at failed
                exact createSecret_error failed nonceFits
              · next secrets stored =>
                have stored := request_ok stored
                have nonceFits := createSecret_valid stored
                obtain ⟨noNonce,rfl⟩ := createSecret_ok stored
                exact .never reaches fits nonceFits _ ⟨found,encoded,noReport,noNonce,rfl,rfl,rfl⟩

/-- A submission that comes to the ConfigMap's creation leaves something stored, and one that does not
leaves the cluster as it is. -/
theorem saveAttestationReport_free (found : machineByAddress cluster.machines req.node.ip = some machine) :
    Free (saveAttestationReport env up cluster req).2 machine ↔
      Free cluster machine ∧ ¬ (Reaches up ∧ ReportFits env machine req) := by
  have stops := saveAttestationReport_stops env up found
  revert stops
  generalize saveAttestationReport env up cluster req = result
  intro stops
  cases stops with
  | before cause why =>
    exact ⟨fun free => ⟨free,fun ⟨reaches,fits⟩ => why reaches fits free.1⟩,And.left⟩
  | atSecret cause configMap reaches fits why => simp [Free,reaches,fits]
  | never reaches fits nonceFits after saved => simp [Free,reaches,fits,saved.configMaps]

/-- Without failures a submission is stored exactly when it fits and its name is free. -/
theorem saveAttestationReport_all (found : machineByAddress cluster.machines req.node.ip = some machine) :
    (saveAttestationReport env (fun _ => true) cluster req).1 = .ok () ↔
      Free cluster machine ∧ ReportFits env machine req ∧ NonceFits env machine req := by
  have stops := saveAttestationReport_stops env (fun _ => true) found
  revert stops
  generalize saveAttestationReport env (fun _ => true) cluster req = result
  intro stops
  have all : Reaches fun _ => true := ⟨rfl,rfl,rfl,rfl⟩
  cases stops with
  | before cause why => simpa using fun free fits _ => why all fits free.1
  | atSecret cause configMap _ _ why => simpa using fun free _ nonceFits => why rfl nonceFits free.2
  | never _ fits nonceFits after saved => simp [Free,fits,nonceFits,saved.noReport,saved.noNonce]

/-- A report request of the machine whose nonce is accepted. -/
structure Submission (env : Env PublicKey) (nonces : NonceStore) (cluster : Cluster) (now : Int)
    (http : HTTPRequest) (req : AttestationReportRequest) (machine : Machine) : Prop where
  method : http.method = "POST"
  decoded : env.decodeRequest http.body = some req
  nonce : ∃ ip, getOriginalIPFromRequest http = .ok ip ∧ (nonces.use ip req.nonce now).1 = .ok true
  found : machineByAddress cluster.machines req.node.ip = some machine

/-- The report and the nonce stored for the machine are those of the request. -/
structure Holds (env : Env PublicKey) (cluster : Cluster) (machine : Machine)
    (req : AttestationReportRequest) : Prop where
  report : ∃ json entry, env.marshalReport req.report = .ok json ∧
    cluster.configMaps.get (getConfigMapReportName machine) = some entry ∧
    entry.value.data.lookup "report" = some json
  nonce : ∃ entry, cluster.secrets.get (getConfigMapReportName machine) = some entry ∧
    entry.value.data.lookup "nonce" = some (bytes req.nonce)

theorem Saved.holds (saved : Saved env before after req machine json) : Holds env after machine req := by
  refine ⟨⟨json,_,saved.encoded,by rw [saved.configMaps,get_put_same],?_⟩,⟨_,by rw [saved.secrets,get_put_same],?_⟩⟩
  · simp only [reportConfigMap,Map.lookup_insert_eq,↓reduceIte]
  · simp only [prepareForCreate,applySecretConversions,nonceSecret,Map.lookup_assignAll,Map.lookup_insert_eq,
      ↓reduceIte,Option.map_some,Option.some_or]

theorem Submission.status (submission : Submission env nonces cluster now http req machine) (up : Call → Bool) :
    (postReport env up nonces cluster now http).1.status = 200 ↔
      (saveAttestationReport env up cluster req).1 = .ok () := by
  obtain ⟨method,decoded,⟨ip,source,used⟩,found⟩ := submission
  unfold postReport
  simp only [method,ne_eq,not_true_eq_false,↓reduceIte,decoded,source]
  split
  · next rejected => simp [rejected] at used
  · next rejected => simp [rejected] at used
  · split
    · next failed => simp [failed,httpError]
    · next stored => simp [stored]

/-- A report request is answered 500 or 200 by what the storage left. -/
theorem postReport_saves (decoded : env.decodeRequest http.body = some req)
    (reached : (postReport env up nonces cluster now http).1.status = 500 ∨
      (postReport env up nonces cluster now http).1.status = 200) :
    (postReport env up nonces cluster now http).2.2 = (saveAttestationReport env up cluster req).2 := by
  revert reached
  unfold postReport
  simp only [decoded]
  split
  · simp [httpError]
  · split
    · simp [httpError]
    · split
      · simp [httpError]
      · simp [httpError]
      · split
        · next failed => simp [failed]
        · next stored => simp [stored]

theorem failingPost_saves (decoded : env.decodeRequest http.body = some req)
    (answered : (failingPost env fault nonces cluster now http).1.status = 500) :
    (failingPost env fault nonces cluster now http).2.2 = (saveAttestationReport env fault.up cluster req).2 := by
  refine postReport_saves decoded ?_
  simp only [failingPost] at answered
  split at answered
  · next lost => exact .inr lost.2
  · exact .inl answered

/-- After a failure that was answered 500, the next submission of the machine is stored and answered
200 exactly when it fits, the machine had nothing stored before, and the failed submission did not
come to its ConfigMap's creation. -/
theorem resubmission_iff (env : Env PublicKey) (fault : Fault)
    (answered : (failingPost env fault nonces cluster now http).1.status = 500)
    (decoded : env.decodeRequest http.body = some first)
    (found : machineByAddress cluster.machines first.node.ip = some machine)
    (again : Submission env nonces' later now' http' second machine)
    (reports : later.configMaps.get (getConfigMapReportName machine) =
      (failingPost env fault nonces cluster now http).2.2.configMaps.get (getConfigMapReportName machine))
    (secrets : later.secrets.get (getConfigMapReportName machine) =
      (failingPost env fault nonces cluster now http).2.2.secrets.get (getConfigMapReportName machine)) :
    ((postReport env (fun _ => true) nonces' later now' http').1.status = 200 ∧
      Holds env (postReport env (fun _ => true) nonces' later now' http').2.2 machine second) ↔
    Free cluster machine ∧ ¬ (Reaches fault.up ∧ ReportFits env machine first) ∧
      ReportFits env machine second ∧ NonceFits env machine second := by
  have left : Free later machine ↔ Free cluster machine ∧ ¬ (Reaches fault.up ∧ ReportFits env machine first) := by
    rw [Free,reports,secrets,failingPost_saves decoded answered]
    exact saveAttestationReport_free found
  have stored : (postReport env (fun _ => true) nonces' later now' http').1.status = 200 →
      Holds env (postReport env (fun _ => true) nonces' later now' http').2.2 machine second := by
    intro accepted
    obtain ⟨req,ip,machine',json,decoded',_,_,saved⟩ := postReport_ok rfl accepted
    cases again.decoded.symm.trans decoded'
    cases again.found.symm.trans saved.found
    exact saved.holds
  rw [and_iff_left_of_imp stored,again.status,saveAttestationReport_all again.found,left,and_assoc]

end Retry

section Sample

def secondReservation : Reservation := ⟨List.replicate 31 0 ++ [8],rfl⟩

/-- The JSON of a report of the second machine. -/
def submissionJSON (nonce : String) : String :=
  "\x7b\"nonce\":\"" ++ nonce ++ "\",\"node\":\x7b\"uuid\":\"u\",\"ip\":\"10.0.0.2\"\x7d,\"report\":\x7b\x7d\x7d"

def submission (nonce : String) : AttestationReportRequest := ⟨nonce,⟨"u","10.0.0.2"⟩,emptyReport⟩

def submissionRequest (nonce : String) : HTTPRequest :=
  ⟨"POST","","10.0.0.2:4000",bytes (submissionJSON nonce)⟩

/-- The libraries at the requests of the two nonces. -/
def submissionEnv : Env Bytes :=
  { claimingEnv "10.0.0.2" with
    decodeRequest := fun body =>
      if body = bytes (submissionJSON sampleNonce) then some (submission sampleNonce)
      else if body = bytes (submissionJSON secondReservation.nonce) then
        some (submission secondReservation.nonce)
      else none }

/-- A submission that fails. -/
def failedSubmission (fault : Fault) : HTTPResponse × NonceStore × Cluster :=
  failingPost submissionEnv fault sampleNonces sampleCluster 10 (submissionRequest sampleNonce)

/-- The nonces when the machine has asked for another one. -/
def renewedNonces (fault : Fault) : NonceStore :=
  NonceStore.step (failedSubmission fault).2.1 (.generate "10.0.0.2:4000" secondReservation 20)

/-- The next submission, without failures. -/
def resubmission (fault : Fault) : HTTPResponse × NonceStore × Cluster :=
  postReport submissionEnv (fun _ => true) (renewedNonces fault) (failedSubmission fault).2.2 30
    (submissionRequest secondReservation.nonce)

/-- After a Secret that was not created, the machine cannot submit a report again. -/
theorem resubmission_refused :
    (failedSubmission (.refused .createSecret)).1.status = 500 ∧
    ((renewedNonces (.refused .createSecret)).use "10.0.0.2:4000" secondReservation.nonce 30).1 = .ok true ∧
    (resubmission (.refused .createSecret)).1.status = 500 := by
  refine ⟨by decide +kernel,by decide +kernel,by decide +kernel⟩

private theorem second_decoded :
    submissionEnv.decodeRequest (submissionRequest secondReservation.nonce).body =
      some (submission secondReservation.nonce) := by
  have apart : bytes (submissionJSON secondReservation.nonce) ≠ bytes (submissionJSON sampleNonce) := by
    decide +kernel
  simp only [submissionEnv,submissionRequest,apart,↓reduceIte]

theorem resubmission_afterList :
    (resubmission (.refused .listMachines)).1.status = 200 ∧
    Holds submissionEnv (resubmission (.refused .listMachines)).2.2 (sampleMachine "attacker" "10.0.0.2")
      (submission secondReservation.nonce) := by
  have again : Submission submissionEnv (renewedNonces (.refused .listMachines))
      (failedSubmission (.refused .listMachines)).2.2 30 (submissionRequest secondReservation.nonce)
      (submission secondReservation.nonce) (sampleMachine "attacker" "10.0.0.2") :=
    ⟨rfl,second_decoded,⟨"10.0.0.2:4000",by decide +kernel,by decide +kernel⟩,by rfl⟩
  have decoded : submissionEnv.decodeRequest (submissionRequest sampleNonce).body =
      some (submission sampleNonce) := by
    simp only [submissionEnv,submissionRequest,↓reduceIte]
  refine (resubmission_iff submissionEnv (.refused .listMachines) (by decide +kernel) decoded (by rfl) again
    rfl rfl).mpr ⟨?_,?_,?_,?_⟩
  · exact ⟨by decide +kernel,by decide +kernel⟩
  · exact fun ⟨reaches,_⟩ => absurd reaches.2.2.1 (by decide)
  · exact ⟨reportJSON,rfl,by decide +kernel⟩
  · unfold NonceFits
    decide +kernel

end Sample

end Kommodity.Attestation
