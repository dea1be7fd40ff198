import Kommodity.SecretStorage
import Kommodity.GoTime
import Kommodity.Interaction

/-! The embedded reconciler that materialises a custom resource in Azure through the Resource
Manager (ARM). `reconcile` is one pass of the controller as a program over its calls on the
Kubernetes API, the ARM API, the credential and identifier lookups, and the clock. The generated
conversions of a resource kind, JSON, SHA-256 and the policy predicates of the resource library
are in `Env`. -/
namespace Kommodity.AzureARM

open Go Versioned Interaction
open Secrets (APIError)

def finalizerName : String := "kommodity.io/azurearm-finalizer"
def armSpecHashAnnotation : String := "kommodity.io/arm-spec-hash"
def deletionStartedAnnotation : String := "kommodity.io/azurearm-delete-started-at"
def reconcilerFinalizer : String := "serviceoperator.azure.com/finalizer"
def reconcilePolicyAnnotation : String := "serviceoperator.azure.com/reconcile-policy"
def resourceIDAnnotation : String := "serviceoperator.azure.com/resource-id"
def reconcilePolicyManage : String := "manage"
def reconcilePolicySkip : String := "skip"
def reconcilePolicyDetachOnDelete : String := "detach-on-delete"
def reconcilingRequeueInterval : Int := 15 * Time.second
def driftRequeueInterval : Int := 10 * Time.minute
def defaultRateLimitRequeue : Int := 60 * Time.second

inductive Severity where
  | none
  | info
  | error
  deriving DecidableEq, Repr

/-- The Ready condition. -/
structure Condition where
  status : Bool
  severity : Severity
  observedGeneration : Nat
  reason : String
  message : String
  deriving DecidableEq, Repr

/-- The custom resource: what the reconciler reads and writes of it. -/
structure Resource (Spec : Type) where
  spec : Spec
  generation : Nat
  annotations : Map String String
  finalizers : List String
  deleting : Bool
  ready : Option Condition

abbrev Object (Spec : Type) := Entry (Resource Spec)

structure ResourceReference where
  armID : String
  group : String
  kind : String
  name : String
  deriving DecidableEq

/-- `ConvertToARMResolvedDetails`. -/
structure ResolvedDetails where
  name : String
  resolved : List (ResourceReference × String)

inductive Cause where
  | api (error : APIError)
  | credentialSecretNotFound
  | credentialSecretIncomplete
  | armIDUnresolvable
  | armTerminal (statusCode : Nat)
  | referenceUnresolved (reference : ResourceReference)
  | unsupportedResourceType
  | other (detail : String)
  deriving DecidableEq

abbrev Error := Err Cause

def Error.isConflict (err : Error) : Bool := err.cause = .api (.store .conflict)

/-- Conversions of the resource kind, encodings, policy predicates and the rule by which a new
condition replaces one of the same type. -/
structure Env (Spec Body : Type) where
  azureName : Spec → String
  references : Spec → List ResourceReference
  toARM : Spec → Option (ResolvedDetails → Except String Body)
  marshal : Body → Except String Bytes
  sha256 : Bytes → Bytes
  sha256_length : ∀ data, (sha256 data).length = 32
  provisioningState : Bytes → Option String
  populateStatus : Spec → Bytes → Except String Unit
  overwrites : Condition → Condition → Bool
  allowsModify : String → Bool
  allowsDelete : String → Bool
  apiVersion : String
  deletionGracePeriod : Int

/-- The policy semantics of the resource library. -/
structure Env.Policies (env : Env Spec Body) : Prop where
  modify : ∀ policy, env.allowsModify policy = true ↔
    policy = reconcilePolicyManage ∨ policy = reconcilePolicyDetachOnDelete
  delete : ∀ policy, env.allowsDelete policy = true ↔ policy = reconcilePolicyManage

structure ARMResponse where
  statusCode : Nat
  body : Bytes
  retryAfter : Int
  deriving DecidableEq, Repr

/-- `parseRetryAfter` on the header's value. -/
def parseRetryAfter (value : String) : Int :=
  if value = "" then defaultRateLimitRequeue
  else
    match atoi value with
    | none => defaultRateLimitRequeue
    | some seconds =>
      if seconds ≤ 0 then defaultRateLimitRequeue else Time.wrapDuration (seconds * Time.second)

/-- `armClient.do` after the request was performed. Every status is a response. -/
def armClientDo (statusCode : Nat) (body : Bytes) (retryAfterHeader : String) : ARMResponse :=
  ⟨statusCode,body,if statusCode = 429 then parseRetryAfter retryAfterHeader else 0⟩

structure Credentials where
  subscriptionID : String
  deriving DecidableEq, Repr

/-- The places that update the object, and those that update its status. -/
inductive UpdateSite where
  | finalizers
  | specHash
  | succeeded
  | deletionStarted
  | release
  deriving DecidableEq, Repr

inductive StatusSite where
  | reconciling
  | notFound
  | failed
  | succeeded
  | deleting
  deriving DecidableEq, Repr

inductive Call (Spec : Type) where
  | get
  | resolveCredentials (obj : Resource Spec)
  | armIDFor (obj : Resource Spec) (subscriptionID : String)
  | armGet (armID apiVersion : String)
  | armPut (armID apiVersion : String) (body : Bytes)
  | armDelete (armID apiVersion : String)
  | update (site : UpdateSite) (obj : Object Spec)
  | updateStatus (site : StatusSite) (obj : Object Spec)
  | now

abbrev Answer (Spec : Type) : Call Spec → Type
  | .get => Except APIError (Object Spec)
  | .resolveCredentials _ => Except Error Credentials
  | .armIDFor _ _ => Except Error String
  | .armGet _ _ => Except Error ARMResponse
  | .armPut _ _ _ => Except Error ARMResponse
  | .armDelete _ _ => Except Error ARMResponse
  | .update _ _ => Except APIError (Object Spec)
  | .updateStatus _ _ => Except APIError (Object Spec)
  | .now => Nat

abbrev ARMProgram (Spec α : Type) := Program (Call Spec) (Answer Spec) α

/-- `ctrl.Result` and the error. -/
structure Outcome where
  requeue : Bool
  requeueAfter : Int
  error : Option Error
  deriving DecidableEq

def Outcome.done : Outcome := ⟨false,0,none⟩
def Outcome.again : Outcome := ⟨true,0,none⟩
def Outcome.after (interval : Int) : Outcome := ⟨false,interval,none⟩
def Outcome.failed (err : Error) : Outcome := ⟨false,0,some err⟩

def apiError (context : String) (error : APIError) : Error := (Err.of (.api error)).wrap context

section Objects

variable {Spec : Type}

/-- `genruntime.AddAnnotation`: an empty value removes the annotation. -/
def Resource.annotate (obj : Resource Spec) (key value : String) : Resource Spec :=
  { obj with annotations :=
      if value = "" then obj.annotations.erase key else obj.annotations.insert key value }

def Resource.setResourceID (obj : Resource Spec) (armID : String) : Resource Spec :=
  obj.annotate resourceIDAnnotation armID

/-- `controllerutil.AddFinalizer`, with whether it changed the list. -/
def addFinalizer (finalizers : List String) (name : String) : List String × Bool :=
  if name ∈ finalizers then (finalizers,false) else (finalizers ++ [name],true)

/-- `controllerutil.RemoveFinalizer`. -/
def removeFinalizerFrom (finalizers : List String) (name : String) : List String × Bool :=
  (finalizers.filter (· ≠ name),decide (name ∈ finalizers))

/-- The policy annotation, or "manage" without one. -/
def reconcilePolicyFor (obj : Resource Spec) : String :=
  let value := obj.annotations.index reconcilePolicyAnnotation
  if value = "" then reconcilePolicyManage else value

def Resource.specHash (obj : Resource Spec) : String := obj.annotations.index armSpecHashAnnotation

end Objects

/-- `buildResolvedDetails`: only references by ARM ID are supported. -/
def buildResolvedDetails (env : Env Spec Body) (spec : Spec) : Except Error ResolvedDetails :=
  match (env.references spec).find? (·.armID = "") with
  | some reference => .error (.of (.referenceUnresolved reference))
  | none => .ok ⟨env.azureName spec,(env.references spec).map fun r => (r,r.armID)⟩

/-- The conversion shared by `buildARMBody` and `computeSpecHash`, which word its errors
differently. -/
def convertSpec (env : Env Spec Body) (details converting : String) (spec : Spec) :
    Except Error Body :=
  match buildResolvedDetails env spec with
  | .error err => .error (err.wrap details)
  | .ok resolved =>
    match env.toARM spec with
    | none => .error (.of .unsupportedResourceType)
    | some convert =>
      match convert resolved with
      | .error detail => .error ((Err.of (.other detail)).wrap converting)
      | .ok body => .ok body

def buildARMBody (env : Env Spec Body) (spec : Spec) : Except Error Body :=
  convertSpec env "building resolved details" "converting spec to ARM" spec

/-- Sixteen hex digits: the first eight bytes of the SHA-256 of the body. -/
def computeSpecHash (env : Env Spec Body) (spec : Spec) : Except Error String :=
  match convertSpec env "building resolved details for hash" "converting spec for hash" spec with
  | .error err => .error err
  | .ok body =>
    match env.marshal body with
    | .error detail => .error ((Err.of (.other detail)).wrap "marshaling spec for hash")
    | .ok data => .ok (hexEncodeToString ((env.sha256 data).take 8))

/-- An empty stored hash, and a hash that cannot be computed, count as no drift. -/
def specDrifted (env : Env Spec Body) (obj : Resource Spec) : Bool :=
  match computeSpecHash env obj.spec with
  | .error _ => false
  | .ok currentHash => obj.specHash ≠ "" && obj.specHash ≠ currentHash

def parseProvisioningState (env : Env Spec Body) (body : Bytes) : String :=
  if body = [] then "" else (env.provisioningState body).getD ""

/-- Terminal: a client error other than 404, 409 and 429. -/
def isTerminalARMError (statusCode : Nat) : Bool :=
  400 ≤ statusCode && statusCode < 500 && statusCode ≠ 404 && statusCode ≠ 409 && statusCode ≠ 429

def isTransientCredentialError (err : Error) : Bool :=
  err.cause = .credentialSecretNotFound || err.cause = .credentialSecretIncomplete

section Conditions

variable {Spec Body : Type}

/-- `conditions.SetCondition` for the Ready condition. -/
def setCondition (env : Env Spec Body) (obj : Resource Spec) (condition : Condition) : Resource Spec :=
  { obj with ready :=
      match obj.ready with
      | none => some condition
      | some old => if env.overwrites condition old then some condition else some old }

def setReconciling (env : Env Spec Body) (obj : Resource Spec) : Resource Spec :=
  setCondition env obj ⟨false,.info,obj.generation,"Reconciling",
    "The resource is in the process of being reconciled by the operator"⟩

def setDeleting (env : Env Spec Body) (obj : Resource Spec) : Resource Spec :=
  setCondition env obj ⟨false,.info,obj.generation,"Deleting","The resource is being deleted"⟩

def setSucceeded (env : Env Spec Body) (obj : Resource Spec) : Resource Spec :=
  setCondition env obj ⟨true,.none,obj.generation,"Succeeded",""⟩

def setNotFound (env : Env Spec Body) (obj : Resource Spec) : Resource Spec :=
  setCondition env obj ⟨false,.info,obj.generation,"AzureResourceNotFound",
    "the Azure resource was not found"⟩

def setFailed (env : Env Spec Body) (obj : Resource Spec) (message : String) : Resource Spec :=
  setCondition env obj ⟨false,.error,obj.generation,"AzureError",message⟩

end Conditions

section Programs

variable {Spec Body : Type} (env : Env Spec Body)

/-- The finalizers the policy asks for, and whether they differ from those present. -/
def settleFinalizers (policy : String) (finalizers : List String) : List String × Bool :=
  let own := if env.allowsDelete policy then addFinalizer finalizers finalizerName
    else removeFinalizerFrom finalizers finalizerName
  let stale := removeFinalizerFrom own.1 reconcilerFinalizer
  (stale.1,own.2 || stale.2)

/-- Whether the caller should requeue. -/
def ensureFinalizers (obj : Object Spec) (policy : String) : ARMProgram Spec (Except Error Bool) :=
  let settled := settleFinalizers env policy obj.value.finalizers
  if settled.2 = false then return .ok false
  else do
    match ← request (Call.update .finalizers ⟨{ obj.value with finalizers := settled.1 },obj.version⟩) with
    | .ok _ => return .ok true
    | .error err =>
      if err = .store .conflict then return .ok true
      else return .error (apiError "updating finalizers" err)

def updateStatus (site : StatusSite) (context : String) (obj : Object Spec) (interval : Int) :
    ARMProgram Spec Outcome := do
  match ← request (Call.updateStatus site obj) with
  | .error err => return .failed (apiError context err)
  | .ok _ => return .after interval

def requeueReconciling (obj : Object Spec) : ARMProgram Spec Outcome :=
  updateStatus .reconciling "updating status" ⟨setReconciling env obj.value,obj.version⟩
    reconcilingRequeueInterval

/-- The object in memory afterwards: refreshed by a successful update, else with the annotation
and its old version. Conflicts are dropped, other errors only logged. -/
def storeSpecHash (obj : Object Spec) : ARMProgram Spec (Object Spec) :=
  match computeSpecHash env obj.value.spec with
  | .error _ => return obj
  | .ok specHash => do
    let stamped : Object Spec := ⟨obj.value.annotate armSpecHashAnnotation specHash,obj.version⟩
    match ← request (Call.update .specHash stamped) with
    | .ok refreshed => return refreshed
    | .error _ => return stamped

def handleTerminalPUTError (obj : Object Spec) (statusCode : Nat) : ARMProgram Spec Outcome := do
  let message := "ARM PUT failed with HTTP " ++ toString statusCode ++ " (terminal); fix the resource spec"
  match ← request (Call.updateStatus .failed ⟨setFailed env obj.value message,obj.version⟩) with
  | .error err => return .failed (apiError "updating status after terminal ARM error" err)
  | .ok _ => return .failed (.of (.armTerminal statusCode))

/-- `armClient.put` marshals the body before it sends anything. -/
def putResource (obj : Object Spec) (armID : String) : ARMProgram Spec Outcome :=
  match buildARMBody env obj.value.spec with
  | .error err => return .failed err
  | .ok armBody =>
    match env.marshal armBody with
    | .error detail =>
      return .failed (((Err.of (.other detail)).wrap "marshaling ARM request body").wrap
        ("putting resource " ++ armID))
    | .ok data => do
      match ← request (Call.armPut armID env.apiVersion data) with
      | .error err => return .failed (err.wrap ("putting resource " ++ armID))
      | .ok putResp =>
        if putResp.statusCode = 429 then return .after putResp.retryAfter
        else if isTerminalARMError putResp.statusCode then
          handleTerminalPUTError env obj putResp.statusCode
        else do
          let obj ← storeSpecHash env obj
          requeueReconciling env obj

/-- The object `reconcileSucceeded` writes: the ARM ID and, where it can be computed, the hash. -/
def stampSucceeded (obj : Resource Spec) (armID : String) : Resource Spec :=
  match computeSpecHash env obj.spec with
  | .error _ => obj.setResourceID armID
  | .ok specHash => (obj.setResourceID armID).annotate armSpecHashAnnotation specHash

/-- Setting the status replaces it as a whole, conditions included, before Ready is set. -/
def reconcileSucceeded (obj : Object Spec) (armID : String) (body : Bytes) : ARMProgram Spec Outcome := do
  match ← request (Call.update .succeeded ⟨stampSucceeded env obj.value armID,obj.version⟩) with
  | .error err => return .failed (apiError "setting resource-id annotation" err)
  | .ok refreshed =>
    match env.populateStatus refreshed.value.spec body with
    | .error detail => return .failed ((Err.of (.other detail)).wrap "populating status")
    | .ok () =>
      updateStatus .succeeded "updating status"
        ⟨setSucceeded env { refreshed.value with ready := none },refreshed.version⟩ driftRequeueInterval

def reconcileExisting (obj : Object Spec) (armID : String) (body : Bytes) : ARMProgram Spec Outcome :=
  let state := parseProvisioningState env body
  if equalFold state "Succeeded" then
    if specDrifted env obj.value then putResource env obj armID
    else reconcileSucceeded env obj armID body
  else if equalFold state "Failed" || equalFold state "Canceled" then putResource env obj armID
  else requeueReconciling env obj

/-- Credentials, ARM ID and GET, as `reconcileNormal` and `reconcileReadOnly` both begin. -/
def readResource (obj : Object Spec) (found : String → ARMResponse → ARMProgram Spec Outcome) :
    ARMProgram Spec Outcome := do
  match ← request (Call.resolveCredentials obj.value) with
  | .error err =>
    if isTransientCredentialError err then requeueReconciling env obj
    else return .failed (err.wrap "resolving credentials")
  | .ok creds =>
    match ← request (Call.armIDFor obj.value creds.subscriptionID) with
    | .error err =>
      if err.cause = .armIDUnresolvable then requeueReconciling env obj
      else return .failed (err.wrap "resolving ARM ID")
    | .ok armID =>
      match ← request (Call.armGet armID env.apiVersion) with
      | .error err => return .failed (err.wrap ("getting resource " ++ armID))
      | .ok getResp =>
        if getResp.statusCode = 429 then return .after getResp.retryAfter
        else found armID getResp

def reconcileNormal (obj : Object Spec) : ARMProgram Spec Outcome :=
  readResource env obj fun armID getResp =>
    if getResp.statusCode = 404 then putResource env obj armID
    else reconcileExisting env obj armID getResp.body

def reconcileReadOnly (obj : Object Spec) : ARMProgram Spec Outcome :=
  readResource env obj fun armID getResp =>
    if getResp.statusCode = 404 then
      updateStatus .notFound "updating not-found status" ⟨setNotFound env obj.value,obj.version⟩
        driftRequeueInterval
    else reconcileSucceeded env obj armID getResp.body

def removeFinalizer (obj : Object Spec) : ARMProgram Spec Outcome :=
  let rest := removeFinalizerFrom obj.value.finalizers finalizerName
  if rest.2 then do
    match ← request (Call.update .release ⟨{ obj.value with finalizers := rest.1 },obj.version⟩) with
    | .error err => return .failed (apiError "removing finalizer" err)
    | .ok _ => return .done
  else return .done

/-- Whether the grace period is over, and the object in memory afterwards. The first time, the
start of the deletion is stamped; a stamp that does not parse never expires. -/
def deletionGraceExpired (obj : Object Spec) : ARMProgram Spec (Except Error (Bool × Object Spec)) :=
  if env.deletionGracePeriod ≤ 0 then return .ok (false,obj)
  else
    let started := obj.value.annotations.index deletionStartedAnnotation
    if started = "" then do
      let time ← request Call.now
      let stamped : Object Spec :=
        ⟨obj.value.annotate deletionStartedAnnotation (Time.formatRFC3339 time),obj.version⟩
      match ← request (Call.update .deletionStarted stamped) with
      | .error err => return .error (apiError "stamping deletion-started annotation" err)
      | .ok refreshed => return .ok (false,refreshed)
    else
      match Time.parseRFC3339 started with
      | none => return .ok (false,obj)
      | some startedAt => do
        let time ← request Call.now
        return .ok (env.deletionGracePeriod < Time.sub time startedAt,obj)

def reconcileDeleteARM (obj : Object Spec) (armID : String) : ARMProgram Spec Outcome := do
  match ← request (Call.armGet armID env.apiVersion) with
  | .error err => return .failed (err.wrap ("getting resource " ++ armID ++ " during delete"))
  | .ok getResp =>
    if getResp.statusCode = 429 then return .after getResp.retryAfter
    else if getResp.statusCode = 404 then removeFinalizer obj
    else
      match ← deletionGraceExpired env obj with
      | .error graceErr => return .failed graceErr
      | .ok (true,obj) => removeFinalizer obj
      | .ok (false,obj) =>
        match ← request (Call.armDelete armID env.apiVersion) with
        | .error err => return .failed (err.wrap ("deleting resource " ++ armID))
        | .ok delResp =>
          if delResp.statusCode = 429 then return .after delResp.retryAfter
          else
            updateStatus .deleting "updating status" ⟨setDeleting env obj.value,obj.version⟩
              reconcilingRequeueInterval

/-- Missing credentials and an unresolvable ARM ID do not hold up the teardown. -/
def reconcileDelete (obj : Object Spec) (policy : String) : ARMProgram Spec Outcome :=
  if finalizerName ∉ obj.value.finalizers then return .done
  else if ¬ env.allowsDelete policy then removeFinalizer obj
  else do
    match ← request (Call.resolveCredentials obj.value) with
    | .error _ => removeFinalizer obj
    | .ok creds =>
      match ← request (Call.armIDFor obj.value creds.subscriptionID) with
      | .error _ => removeFinalizer obj
      | .ok armID => reconcileDeleteARM env obj armID

/-- A conflict is retried without an error. -/
def requeueOnConflict (outcome : Outcome) : Outcome :=
  if outcome.error.any Error.isConflict then .again else outcome

/-- `Reconciler.Reconcile`. -/
def reconcile : ARMProgram Spec Outcome := do
  match ← request Call.get with
  | .error err =>
    if err.isNotFound then return .done else return .failed (apiError "getting resource" err)
  | .ok obj =>
    let policy := reconcilePolicyFor obj.value
    if obj.value.deleting then
      let outcome ← reconcileDelete env obj policy
      return requeueOnConflict outcome
    else
      match ← ensureFinalizers env obj policy with
      | .error err => return .failed err
      | .ok true => return .again
      | .ok false =>
        if ¬ env.allowsModify policy then reconcileReadOnly env obj
        else
          let outcome ← reconcileNormal env obj
          return requeueOnConflict outcome

end Programs

end Kommodity.AzureARM
