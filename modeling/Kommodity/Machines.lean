import Kommodity.ConfigMapStorage

/-! Requests to the plain HTTP services, and the managed machines they are resolved to. -/
namespace Kommodity

open Go

/-- An HTTP request: `forwardedFor` is what `Header.Get` returns for `X-Forwarded-For`. -/
structure HTTPRequest where
  method : String
  forwardedFor : String
  remoteAddr : String
  body : Bytes

structure HTTPResponse where
  status : Nat
  body : String
  deriving DecidableEq, Repr

/-- `http.Error`. -/
def httpError (message : String) (status : Nat) : HTTPResponse := ⟨status,message ++ "\n"⟩

/-- The fields of a Cluster API machine that the services read. -/
structure Machine where
  name : String
  namespaceName : String
  labels : Map String String
  clusterName : String
  addresses : List String
  dataSecretName : Option String
  deriving DecidableEq

namespace Net

inductive Error where
  | ipRequired
  | noMachineFound
  | list (context : String) (cause : Secrets.APIError)
  deriving DecidableEq, Repr

def ipRequiredMessage : String := "IP address is required"

/-- The forwarded header wins over the peer of the connection; neither is parsed. -/
def getOriginalIPFromRequest (request : HTTPRequest) : Except Error String :=
  if request.forwardedFor ≠ "" then .ok request.forwardedFor
  else if request.remoteAddr ≠ "" then .ok request.remoteAddr
  else .error .ipRequired

/-- The label selector of the machine list. -/
def Managed (machine : Machine) : Prop := machine.labels.lookup managedByLabel = some "kommodity"

instance : Decidable (Managed machine) := by unfold Managed; infer_instance

/-- The loop over the listed machines. -/
def machineByAddress (machines : List Machine) (ip : String) : Option Machine :=
  machines.find? fun machine => Managed machine ∧ ip ∈ machine.addresses

def findManagedMachineByIP (listed : Except Secrets.APIError (List Machine)) (ip : String) :
    Except Error Machine :=
  match listed with
  | .error cause => .error (.list "failed to list managed-by kommodity machines" cause)
  | .ok machines =>
    match machineByAddress machines ip with
    | some machine => .ok machine
    | none => .error .noMachineFound

theorem findManagedMachineByIP_ok {machines : List Machine} :
    findManagedMachineByIP (.ok machines) ip = .ok machine ↔
      machineByAddress machines ip = some machine := by
  simp only [findManagedMachineByIP]
  split
  · next found => simp [found]
  · next absent => simp [absent]

end Net

namespace Attestation

def configMapReportPrefix : String := "attestation-report"

/-- The part of the machine's name after its deployment, under a fixed first part. -/
def getConfigMapReportName (machine : Machine) : String :=
  configMapReportPrefix ++ "-" ++
    trimPrefix machine.name (machine.labels.index deploymentNameLabel ++ "-")

end Attestation

end Kommodity
