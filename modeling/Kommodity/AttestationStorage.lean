import Kommodity.AttestationHandlers

/-! What an accepted report leaves in the cluster, whose name it is stored under, and what the
trust handler later reads. -/
namespace Kommodity.Attestation

open Go Versioned Secrets ConfigMaps Net Transition

/-- The effect of an accepted report: a new ConfigMap and a new Secret under the report name of
the machine that the body's address resolves to. -/
structure Saved (env : Env PublicKey) (before after : Cluster) (req : AttestationReportRequest)
    (machine : Machine) (json : String) : Prop where
  found : machineByAddress before.machines req.node.ip = some machine
  encoded : env.marshalReport req.report = .ok json
  noReport : before.configMaps.get (getConfigMapReportName machine) = none
  noNonce : before.secrets.get (getConfigMapReportName machine) = none
  machines : after.machines = before.machines
  configMaps : after.configMaps = before.configMaps.put (getConfigMapReportName machine)
    (reportConfigMap machine req.node json)
  secrets : after.secrets = before.secrets.put (getConfigMapReportName machine)
    (prepareForCreate env.upstream (nonceSecret machine req.node req.nonce))

theorem saveAttestationReport_ok {env : Env PublicKey}
    (done : saveAttestationReport env up cluster req = (.ok (),after)) :
    ∃ machine json, Saved env cluster after req machine json := by
  unfold saveAttestationReport at done
  split at done
  · simp at done
  · split at done
    · simp at done
    · split at done
      · simp at done
      · next machine located =>
        split at done
        · simp at done
        · next json encoded =>
          split at done
          · simp at done
          · next configMaps created =>
            split at done
            · simp at done
            · next secrets stored =>
              obtain ⟨_,rfl⟩ := Prod.mk.inj done
              obtain ⟨noReport,rfl⟩ := createConfigMap_ok (request_ok created)
              obtain ⟨noNonce,rfl⟩ := createSecret_ok (request_ok stored)
              have found : machineByAddress cluster.machines req.node.ip = some machine := by
                cases listed : up .listMachines with
                | true =>
                  rw [listed] at located
                  exact findManagedMachineByIP_ok.mp located
                | false =>
                  rw [listed] at located
                  simp [request,findManagedMachineByIP] at located
              exact ⟨machine,json,found,encoded,noReport,noNonce,rfl,rfl,rfl⟩

theorem postReport_ok {env : Env PublicKey}
    (done : postReport env up nonces cluster now http = (response,rest,after))
    (accepted : response.status = 200) :
    ∃ req ip machine json, env.decodeRequest http.body = some req ∧
      getOriginalIPFromRequest http = .ok ip ∧
      (nonces.use ip req.nonce now).1 = .ok true ∧ Saved env cluster after req machine json := by
  unfold postReport at done
  split at done
  · cases done; simp [httpError] at accepted
  · split at done
    · cases done; simp [httpError] at accepted
    · next req decoded =>
      split at done
      · cases done; simp [httpError] at accepted
      · next ip source =>
        split at done
        · cases done; simp [httpError] at accepted
        · cases done; simp [httpError] at accepted
        · next used =>
          split at done
          · cases done; simp [httpError] at accepted
          · next saved =>
            cases done
            obtain ⟨machine,json,effect⟩ := saveAttestationReport_ok saved
            exact ⟨req,ip,machine,json,decoded,source,by rw [used],effect⟩

/-- The Secret that is stored has its nonce in the data, where the trust handler does not look. -/
theorem storedNonce (up : Upstream) (machine : Machine) (node : NodeInfo) (nonce : String) :
    (prepareForCreate up (nonceSecret machine node nonce)).stringData.index "nonce" = "" := by
  simp [Map.index]

/-- Whenever an accepted report is read back for its machine, the nonce that goes into the
evaluation is empty, and so never the one the report was accepted with. -/
theorem nonce_never_read_back (env : Env PublicKey)
    (readable : ∀ report json, env.marshalReport report = .ok json →
      ∃ back, env.unmarshalReport json = .ok back)
    {ttl : Int} (issued : NonceStore.system.Run (.newNonceStore ttl) actions nonces)
    (posted : postReport env up nonces cluster now http = (response,rest,after))
    (accepted : response.status = 200) (decoded : env.decodeRequest http.body = some req)
    (machine : Machine) (found : machineByAddress cluster.machines req.node.ip = some machine)
    (later : Cluster)
    (report : later.configMaps.get (getConfigMapReportName machine) =
      after.configMaps.get (getConfigMapReportName machine))
    (secret : later.secrets.get (getConfigMapReportName machine) =
      after.secrets.get (getConfigMapReportName machine)) :
    ∃ back nonce, getMachineAttestationReport env (fun _ => true) later machine =
      .ok (back,nonce) ∧ nonce = "" ∧ nonce ≠ req.nonce := by
  obtain ⟨req',ip,machine',json,decoded',_,used,saved⟩ := postReport_ok posted accepted
  rw [decoded] at decoded'
  cases decoded'
  have same := saved.found
  rw [found] at same
  cases same
  obtain ⟨back,parsed⟩ := readable req.report json saved.encoded
  have nonempty := NonceStore.use_nonempty (NonceStore.run_issued issued) used
  refine ⟨back,"",?_,rfl,nonempty.symm⟩
  rw [saved.configMaps,get_put_same] at report
  rw [saved.secrets,get_put_same] at secret
  have text : (reportConfigMap machine req.node json).data.index "report" = json :=
    Map.index_of_lookup (by simp only [reportConfigMap,Map.lookup_insert_eq,↓reduceIte])
  simp only [getMachineAttestationReport,readReport,getConfigMap,Secrets.request,↓reduceIte,
    ConfigMaps.getConfigMap,report,transformConfigMapToReport,text,parsed,Secrets.getSecret,secret,
    storedNonce]

/-- The machine is managed and lists the address, up to its port and spelling. -/
structure Owner (cluster : Cluster) (ip : String) (machine : Machine) : Prop where
  member : machine ∈ cluster.machines
  managed : Managed machine
  owns : ∃ canonical, canonicalIP ip = .ok canonical ∧
    ∃ address ∈ machine.addresses, canonicalIP address = .ok canonical

/-- A report ConfigMap and a nonce Secret are new under this name. -/
structure StoredUnder (before after : Cluster) (name : String) : Prop where
  noReport : before.configMaps.get name = none
  report : (after.configMaps.get name).isSome
  noNonce : before.secrets.get name = none
  nonce : (after.secrets.get name).isSome

theorem Saved.storedUnder {env : Env PublicKey} (saved : Saved env before after req machine json)
    (name : String) : StoredUnder before after name ↔ name = getConfigMapReportName machine := by
  constructor
  · intro stored
    by_contra other
    have report := stored.report
    rw [saved.configMaps,get_put_other _ _ other,stored.noReport] at report
    simp at report
  · rintro rfl
    exact ⟨saved.noReport,by simp [saved.configMaps],saved.noNonce,by simp [saved.secrets]⟩

/-- The nonce of an accepted report was issued to the source address. The report is stored under
the name of a machine owning that address exactly when the address in the body resolves to a
machine of that name. -/
theorem attested_identity_iff (env : Env PublicKey)
    (posted : postReport env up nonces cluster now http = (response,rest,after))
    (accepted : response.status = 200) (decoded : env.decodeRequest http.body = some req)
    (source : getOriginalIPFromRequest http = .ok ip) :
    (∃ record, nonces.data.lookup req.nonce = some record ∧ canonicalIP ip = .ok record.ip) ∧
    ((∃ owner, Owner cluster ip owner ∧
        StoredUnder cluster after (getConfigMapReportName owner)) ↔
      ∃ machine owner, machineByAddress cluster.machines req.node.ip = some machine ∧
        Owner cluster ip owner ∧ getConfigMapReportName owner = getConfigMapReportName machine) := by
  obtain ⟨req',ip',machine,json,decoded',source',used,saved⟩ := postReport_ok posted accepted
  rw [decoded] at decoded'
  rw [source] at source'
  cases decoded'
  cases source'
  refine ⟨NonceStore.use_ok used,?_⟩
  simp only [saved.storedUnder,saved.found,Option.some.injEq]
  constructor
  · rintro ⟨owner,owns,same⟩
    exact ⟨machine,owner,rfl,owns,same⟩
  · rintro ⟨_,owner,rfl,owns,same⟩
    exact ⟨owner,owns,same⟩

section Sample

def sampleMachine (name address : String) : Machine where
  name := "prod-" ++ name
  namespaceName := "default"
  labels := ((∅ : Map String String).insert managedByLabel "kommodity").insert
    deploymentNameLabel "prod"
  clusterName := "prod"
  addresses := [address]
  dataSecretName := some (name ++ "-bootstrap")

def sampleCluster : Cluster :=
  ⟨[sampleMachine "victim" "10.0.0.1",sampleMachine "attacker" "10.0.0.2"],Store.empty,Store.empty⟩

/-- A store that has issued one nonce to the second machine. -/
def sampleNonces : NonceStore :=
  NonceStore.step (.newNonceStore 300) (.generate "10.0.0.2:4000" sampleReservation 0)

def emptyReport : Report := ⟨[],∅,"","","",0⟩

/-- The JSON of a request with an empty report that claims an address. -/
def requestJSON (claimed : String) : String :=
  "\x7b\"nonce\":\"" ++ sampleNonce ++ "\",\"node\":\x7b\"uuid\":\"u\",\"ip\":\"" ++
    claimed ++ "\"\x7d,\"report\":\x7b\x7d\x7d"

def reportJSON : String :=
  "\x7b\"components\":null,\"pcrs\":null,\"quote\":\"\",\"signature\":\"\"," ++
    "\"tpmPublicKey\":\"\",\"timestamp\":\"0001-01-01T00:00:00Z\"\x7d"

/-- The libraries at the sample request. -/
def claimingEnv (claimed : String) : Env Bytes where
  crypto := sampleCrypto
  upstream := sampleUpstream
  decodeRequest body :=
    if body = bytes (requestJSON claimed) then some ⟨sampleNonce,⟨"u",claimed⟩,emptyReport⟩
    else none
  marshalReport _ := .ok reportJSON
  unmarshalReport json :=
    if json = reportJSON then .ok emptyReport else .error "unexpected end of JSON input"
  apiText _ := ""
  parseAddrText host := "ParseAddr(\"" ++ host ++ "\"): unable to parse IP"
  visit pcrs := pcrs.keys

/-- A report request of the second machine that claims an address. -/
def claimingRequest (claimed : String) : HTTPRequest :=
  ⟨"POST","","10.0.0.2:4000",bytes (requestJSON claimed)⟩

/-- The answer to that request, with the nonce store and the cluster after it. -/
def claimingPost (claimed : String) : HTTPResponse × NonceStore × Cluster :=
  postReport (claimingEnv claimed) (fun _ => true) sampleNonces sampleCluster 10
    (claimingRequest claimed)

theorem claimingPost_eq (claimed : String) :
    postReport (claimingEnv claimed) (fun _ => true) sampleNonces sampleCluster 10
      (claimingRequest claimed) =
    ((claimingPost claimed).1,(claimingPost claimed).2.1,(claimingPost claimed).2.2) := by
  rw [← claimingPost]

private theorem honestPost_status : (claimingPost "10.0.0.2").1.status = 200 := by decide +kernel

private theorem honestRequest_decoded :
    (claimingEnv "10.0.0.2").decodeRequest (claimingRequest "10.0.0.2").body =
      some ⟨sampleNonce,⟨"u","10.0.0.2"⟩,emptyReport⟩ := by
  simp [claimingEnv,claimingRequest]

private theorem attacker_source : canonicalIP "10.0.0.2:4000" = .ok "10.0.0.2" := by decide +kernel

private theorem attacker_owner : Owner sampleCluster "10.0.0.2:4000" (sampleMachine "attacker" "10.0.0.2") :=
  ⟨by simp [sampleCluster],by decide +kernel,"10.0.0.2",attacker_source,"10.0.0.2",
    by simp [sampleMachine],by decide +kernel⟩

/-- The second machine's report is accepted with its nonce, and evaluated with an empty one. -/
theorem nonce_lost_in_secret :
    (claimingPost "10.0.0.2").1.status = 200 ∧ sampleNonce ≠ "" ∧
    (getMachineAttestationReport (claimingEnv "10.0.0.2") (fun _ => true)
      (claimingPost "10.0.0.2").2.2 (sampleMachine "attacker" "10.0.0.2")).toOption.map Prod.snd =
        some "" :=
  ⟨honestPost_status,by decide +kernel,by decide +kernel⟩

theorem nonce_never_read_back_sample :
    ∃ back nonce, getMachineAttestationReport (claimingEnv "10.0.0.2") (fun _ => true)
      (claimingPost "10.0.0.2").2.2 (sampleMachine "attacker" "10.0.0.2") = .ok (back,nonce) ∧
      nonce = "" ∧ nonce ≠ sampleNonce := by
  have readable : ∀ report json, (claimingEnv "10.0.0.2").marshalReport report = .ok json →
      ∃ back, (claimingEnv "10.0.0.2").unmarshalReport json = .ok back := by
    intro report json encoded
    cases encoded
    exact ⟨emptyReport,by simp [claimingEnv]⟩
  have issued : NonceStore.system.Run (.newNonceStore 300)
      [.generate "10.0.0.2:4000" sampleReservation 0] sampleNonces := .single trivial
  exact nonce_never_read_back (claimingEnv "10.0.0.2") readable issued
    (claimingPost_eq "10.0.0.2") honestPost_status honestRequest_decoded (sampleMachine "attacker" "10.0.0.2")
    (by rfl) _ rfl rfl

/-- A machine that claims the address of another is stored under that one's name. -/
theorem claimed_identity_stored :
    (claimingPost "10.0.0.1").1.status = 200 ∧
    getOriginalIPFromRequest (claimingRequest "10.0.0.1") = .ok "10.0.0.2:4000" ∧
    Owner sampleCluster "10.0.0.2:4000" (sampleMachine "attacker" "10.0.0.2") ∧
    ¬ Owner sampleCluster "10.0.0.2:4000" (sampleMachine "victim" "10.0.0.1") ∧
    StoredUnder sampleCluster (claimingPost "10.0.0.1").2.2
      (getConfigMapReportName (sampleMachine "victim" "10.0.0.1")) ∧
    ¬ StoredUnder sampleCluster (claimingPost "10.0.0.1").2.2
      (getConfigMapReportName (sampleMachine "attacker" "10.0.0.2")) := by
  refine ⟨by decide +kernel,by decide +kernel,?_,?_,?_,?_⟩
  · exact attacker_owner
  · rintro ⟨_,_,canonical,parsed,address,member,same⟩
    rw [attacker_source] at parsed
    cases parsed
    rw [List.mem_singleton.mp member] at same
    exact absurd same (by decide +kernel)
  · exact ⟨by decide +kernel,by decide +kernel,by decide +kernel,by decide +kernel⟩
  · intro stored
    exact absurd stored.report (by decide +kernel)

theorem attested_identity_honest :
    ∃ owner, Owner sampleCluster "10.0.0.2:4000" owner ∧
      StoredUnder sampleCluster (claimingPost "10.0.0.2").2.2 (getConfigMapReportName owner) := by
  exact (attested_identity_iff (claimingEnv "10.0.0.2") (claimingPost_eq "10.0.0.2")
    honestPost_status honestRequest_decoded (by decide +kernel)).2.mpr
    ⟨sampleMachine "attacker" "10.0.0.2",sampleMachine "attacker" "10.0.0.2",by rfl,attacker_owner,rfl⟩

end Sample

end Kommodity.Attestation
