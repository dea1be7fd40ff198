import Kommodity.AzureARM

/-! What one pass of the ARM reconciler can do, call by call. `Next` says, from the answers noted
so far, which calls may come next and with which object; `Returns` what has been settled when the
pass ends on an object it has to delete. Both are proved once, along the program. -/
namespace Kommodity.AzureARM

open Go Versioned Interaction
open Secrets (APIError)

variable {Spec Body : Type}

/-- The answers of one pass: the last of each kind. -/
structure Notes (Spec : Type) where
  obj : Option (Object Spec)
  credentials : Option (Except Error Credentials)
  armID : Option (Except Error String)
  get : Option (Except Error ARMResponse)
  put : Option (Bytes × Except Error ARMResponse)
  clock : Option Nat
  updated : Option (UpdateSite × Except APIError (Object Spec))
  statusUpdated : Option (StatusSite × Except APIError (Object Spec))

def Notes.fresh : Notes Spec := ⟨none,none,none,none,none,none,none,none⟩

def note (h : Notes Spec) : (c : Call Spec) → Answer Spec c → Notes Spec
  | .get,a => { h with obj := a.toOption }
  | .resolveCredentials _,a => { h with credentials := some a }
  | .armIDFor _ _,a => { h with armID := some a }
  | .armGet _ _,a => { h with get := some a }
  | .armPut _ _ body,a => { h with put := some (body,a) }
  | .armDelete _ _,_ => h
  | .update site _,a => { h with updated := some (site,a) }
  | .updateStatus site _,a => { h with statusUpdated := some (site,a) }
  | .now,a => { h with clock := some a }

/-- The bytes a PUT of the spec carries. -/
def bodyOf (env : Env Spec Body) (spec : Spec) : Option Bytes :=
  match buildARMBody env spec with
  | .error _ => none
  | .ok body => (env.marshal body).toOption

def hashOf (env : Env Spec Body) (body : Bytes) : String :=
  hexEncodeToString ((env.sha256 body).take 8)

theorem convertSpec_ok (converted : convertSpec env details converting spec = .ok body) :
    convertSpec env details' converting' spec = .ok body := by
  unfold convertSpec at converted ⊢
  split at converted
  · cases converted
  · split at converted
    · cases converted
    · split at converted
      · cases converted
      · exact converted

/-- The hash is computed exactly for the specs that can be put. -/
theorem computeSpecHash_of_body (body : bodyOf env spec = some data) :
    computeSpecHash env spec = .ok (hashOf env data) := by
  unfold bodyOf buildARMBody at body
  split at body
  · cases body
  · next armBody converted =>
    unfold computeSpecHash
    rw [convertSpec_ok converted]
    cases marshaled : env.marshal armBody with
    | error detail => simp [marshaled,Except.toOption] at body
    | ok data' =>
      simp only [marshaled,Except.toOption,Option.some.injEq] at body
      simp [marshaled,hashOf,body]

theorem body_of_computeSpecHash {found : String} (computed : computeSpecHash env spec = .ok found) :
    ∃ data, bodyOf env spec = some data ∧ found = hashOf env data := by
  unfold computeSpecHash at computed
  split at computed
  · cases computed
  · next armBody converted =>
    split at computed
    · cases computed
    · next data marshaled =>
      refine ⟨data,?_,(Except.ok.inj computed).symm⟩
      unfold bodyOf buildARMBody
      rw [convertSpec_ok converted]
      simp [marshaled,Except.toOption]

/-- The object is there to be reconciled and carries the finalizers its policy asks for. -/
structure Normal (env : Env Spec Body) (obj : Resource Spec) : Prop where
  live : obj.deleting = false
  settled : (settleFinalizers env (reconcilePolicyFor obj) obj.finalizers).2 = false

/-- The object is to be deleted in Azure before it may go. -/
structure Deleting (env : Env Spec Body) (obj : Resource Spec) : Prop where
  deleting : obj.deleting = true
  finalizer : finalizerName ∈ obj.finalizers
  allows : env.allowsDelete (reconcilePolicyFor obj) = true

/-- The answers to a GET that make the normal path PUT. -/
def Writes (env : Env Spec Body) (obj : Resource Spec) (resp : ARMResponse) : Prop :=
  resp.statusCode ≠ 429 ∧
  (resp.statusCode = 404 ∨
    let state := parseProvisioningState env resp.body
    if equalFold state "Succeeded" then specDrifted env obj = true
    else (equalFold state "Failed" || equalFold state "Canceled") = true)

/-- The answers to a GET after which the pass takes the resource as it is. -/
def Adopts (env : Env Spec Body) (obj : Resource Spec) (resp : ARMResponse) : Prop :=
  resp.statusCode ≠ 429 ∧ resp.statusCode ≠ 404 ∧
  (env.allowsModify (reconcilePolicyFor obj) = true →
    equalFold (parseProvisioningState env resp.body) "Succeeded" = true ∧ specDrifted env obj = false)

/-- Why the finalizer of a deleting object may go. -/
def Releases (env : Env Spec Body) (h : Notes Spec) (obj : Resource Spec) : Prop :=
  env.allowsDelete (reconcilePolicyFor obj) = false ∨
  (∃ err, h.credentials = some (.error err)) ∨ (∃ err, h.armID = some (.error err)) ∨
  (∃ resp, h.get = some (.ok resp) ∧ resp.statusCode = 404) ∨
  (0 < env.deletionGracePeriod ∧ ∃ startedAt time,
    Time.parseRFC3339 (obj.annotations.index deletionStartedAnnotation) = some startedAt ∧
    h.clock = some time ∧ env.deletionGracePeriod < Time.sub time startedAt)

/-- The resource was seen in Azure while it has to be deleted. -/
def Present (h : Notes Spec) : Prop :=
  ∃ resp, h.get = some (.ok resp) ∧ resp.statusCode ≠ 429 ∧ resp.statusCode ≠ 404

def NextUpdate (env : Env Spec Body) (h : Notes Spec) (e obj : Object Spec) : UpdateSite → Prop
  | .finalizers => e.value.deleting = false ∧ h.get = none ∧
    obj = ⟨{ e.value with
      finalizers := (settleFinalizers env (reconcilePolicyFor e.value) e.value.finalizers).1 },e.version⟩
  | .specHash => Normal env e.value ∧ ∃ body resp, h.put = some (body,.ok resp) ∧
    bodyOf env e.value.spec = some body ∧ resp.statusCode ≠ 429 ∧
    isTerminalARMError resp.statusCode = false ∧
    obj = ⟨e.value.annotate armSpecHashAnnotation (hashOf env body),e.version⟩
  | .succeeded => Normal env e.value ∧ h.put = none ∧ ∃ armID resp, h.armID = some (.ok armID) ∧
    h.get = some (.ok resp) ∧ Adopts env e.value resp ∧ obj = ⟨stampSucceeded env e.value armID,e.version⟩
  | .deletionStarted => Deleting env e.value ∧ Present h ∧ 0 < env.deletionGracePeriod ∧
    e.value.annotations.index deletionStartedAnnotation = "" ∧
    ∃ time, h.clock = some time ∧
      obj = ⟨e.value.annotate deletionStartedAnnotation (Time.formatRFC3339 time),e.version⟩
  | .release => e.value.deleting = true ∧ finalizerName ∈ e.value.finalizers ∧
    Releases env h e.value ∧
    obj = ⟨{ e.value with finalizers := e.value.finalizers.filter (· ≠ finalizerName) },e.version⟩

/-- Before the GET of a pass. -/
def Early (env : Env Spec Body) (h : Notes Spec) : Prop :=
  ∃ e, h.obj = some e ∧ h.get = none ∧ h.put = none ∧ (Normal env e.value ∨ Deleting env e.value)

/-- The states of an operation in flight. -/
def InFlight (env : Env Spec Body) (resp : ARMResponse) : Prop :=
  let state := parseProvisioningState env resp.body
  equalFold state "Succeeded" = false ∧ (equalFold state "Failed" || equalFold state "Canceled") = false

def NextStatus (env : Env Spec Body) (h : Notes Spec) (e obj : Object Spec) : StatusSite → Prop
  | .reconciling => Normal env e.value ∧
    (h.get = none ∨ (∃ body resp, h.put = some (body,.ok resp)) ∨
      ∃ resp, h.get = some (.ok resp) ∧ resp.statusCode ≠ 404 ∧ InFlight env resp)
  | .notFound => Normal env e.value ∧ env.allowsModify (reconcilePolicyFor e.value) = false
  | .failed => Normal env e.value ∧
    ∃ body resp, h.put = some (body,.ok resp) ∧ isTerminalARMError resp.statusCode = true
  | .succeeded => Normal env e.value ∧ h.put = none ∧ ∃ armID resp refreshed, h.armID = some (.ok armID) ∧
    h.get = some (.ok resp) ∧ Adopts env e.value resp ∧ h.updated = some (.succeeded,.ok refreshed) ∧
    obj = ⟨setSucceeded env { refreshed.value with ready := none },refreshed.version⟩
  | .deleting => Deleting env e.value

/-- Which call may come next, given the answers so far. -/
def Next (env : Env Spec Body) (h : Notes Spec) : Call Spec → Prop
  | .get => h = .fresh
  | .resolveCredentials _ => Early env h
  | .armIDFor _ _ => Early env h
  | .armGet _ _ => Early env h
  | .armPut _ _ body => ∃ e resp, h.obj = some e ∧ Normal env e.value ∧ h.put = none ∧
    env.allowsModify (reconcilePolicyFor e.value) = true ∧
    h.get = some (.ok resp) ∧ Writes env e.value resp ∧ bodyOf env e.value.spec = some body
  | .armDelete _ _ => ∃ e, h.obj = some e ∧ Deleting env e.value ∧ Present h
  | .now => ∃ e, h.obj = some e ∧ Deleting env e.value ∧ Present h
  | .update site obj => ∃ e, h.obj = some e ∧ NextUpdate env h e obj site
  | .updateStatus site obj => ∃ e, h.obj = some e ∧ NextStatus env h e obj site

/-- How a pass over an object to be deleted can end. -/
def Settled (env : Env Spec Body) (h : Notes Spec) (obj : Resource Spec) : Prop :=
  let started := obj.annotations.index deletionStartedAnnotation
  (∃ a, h.updated = some (.release,a)) ∨
  (∃ err, h.get = some (.error err)) ∨ (∃ resp, h.get = some (.ok resp) ∧ resp.statusCode = 429) ∨
  env.deletionGracePeriod ≤ 0 ∨
  (started = "" ∧ ∃ a, h.updated = some (.deletionStarted,a)) ∨
  (started ≠ "" ∧ Time.parseRFC3339 started = none) ∨
  ∃ startedAt time, Time.parseRFC3339 started = some startedAt ∧ h.clock = some time ∧
    ¬ env.deletionGracePeriod < Time.sub time startedAt

/-- A pass that has to PUT has done so. -/
def PutDone (env : Env Spec Body) (h : Notes Spec) : Prop :=
  ∀ e resp body, h.obj = some e → env.allowsModify (reconcilePolicyFor e.value) = true →
    h.get = some (.ok resp) → Writes env e.value resp → bodyOf env e.value.spec = some body →
    h.put ≠ none

structure Returns (env : Env Spec Body) (h : Notes Spec) (_ : Outcome) : Prop where
  settled : ∀ e, h.obj = some e → Deleting env e.value → Settled env h e.value
  put : ∀ e, h.obj = some e → Normal env e.value → PutDone env h

section Trace

variable {env : Env Spec Body} {h : Notes Spec} {e : Object Spec}

theorem InFlight.not_writes {resp : ARMResponse} (running : InFlight env resp)
    (found : resp.statusCode ≠ 404) (obj : Resource Spec) : ¬ Writes env obj resp := by
  rintro ⟨_,writes⟩
  simp [found,running.1,running.2] at writes

theorem putDone_of_quiet (read : h.obj = some e)
    (quiet : ∀ resp, h.get = some (.ok resp) →
      env.allowsModify (reconcilePolicyFor e.value) = true → ¬ Writes env e.value resp) :
    PutDone env h := by
  intro e' resp body read' allows get writes _
  obtain rfl : e' = e := Option.some.inj (read'.symm.trans read)
  exact absurd writes (quiet resp get allows)

theorem putDone_of_unread (read : h.obj = some e) (unread : h.get = none) : PutDone env h :=
  putDone_of_quiet read fun resp get => by rw [unread] at get; cases get

theorem putDone_of_put (sent : h.put = some answer) : PutDone env h := by
  intro _ _ _ _ _ _ _ _ unsent
  rw [sent] at unsent
  cases unsent

theorem putDone_of_unbuilt (read : h.obj = some e) (unbuilt : bodyOf env e.value.spec = none) :
    PutDone env h := by
  intro e' resp body read' _ _ _ built
  obtain rfl : e' = e := Option.some.inj (read'.symm.trans read)
  rw [unbuilt] at built
  cases built

theorem returns_of_live (read : h.obj = some e) (live : e.value.deleting = false)
    (done : PutDone env h) (outcome : Outcome) : Returns env h outcome := by
  refine ⟨?_,fun _ _ _ => done⟩
  intro e' read' managed
  obtain rfl : e' = e := Option.some.inj (read'.symm.trans read)
  have deleting := managed.deleting
  rw [live] at deleting
  cases deleting

theorem returns_of_normal (read : h.obj = some e) (normal : Normal env e.value)
    (done : PutDone env h) (outcome : Outcome) : Returns env h outcome :=
  returns_of_live read normal.live done outcome

theorem updateStatus_traced (permitted : Next env h (.updateStatus site obj))
    (returns : ∀ a outcome, Returns env { h with statusUpdated := some (site,a) } outcome) :
    (updateStatus site context obj interval).Traced note (Next env) (Returns env) h := by
  simp only [updateStatus,traced_request_bind]
  refine ⟨permitted,?_⟩
  rintro (err | refreshed)
  · exact returns _ _
  · exact returns _ _

theorem requeueReconciling_traced (read : h.obj = some e) (normal : Normal env e.value)
    (done : PutDone env h)
    (phase : h.get = none ∨ (∃ body resp, h.put = some (body,.ok resp)) ∨
      ∃ resp, h.get = some (.ok resp) ∧ resp.statusCode ≠ 404 ∧ InFlight env resp) (obj : Object Spec) :
    (requeueReconciling env obj).Traced note (Next env) (Returns env) h := by
  refine updateStatus_traced ⟨e,read,normal,phase⟩ ?_
  intro a outcome
  exact returns_of_normal (by exact read) normal (by exact done) outcome

theorem storeSpecHash_traced (read : h.obj = some e) (normal : Normal env e.value)
    (put : h.put = some (body,.ok resp)) (carried : bodyOf env e.value.spec = some body)
    (limited : resp.statusCode ≠ 429) (terminal : isTerminalARMError resp.statusCode = false) :
    (storeSpecHash env e).Traced note (Next env)
      (fun h' _ => h'.obj = some e ∧ h'.put = some (body,.ok resp)) h := by
  unfold storeSpecHash
  rw [computeSpecHash_of_body carried]
  simp only [traced_request_bind]
  refine ⟨⟨e,read,normal,body,resp,put,carried,limited,terminal,rfl⟩,?_⟩
  rintro (err | refreshed)
  · exact ⟨read,put⟩
  · exact ⟨read,put⟩

theorem putResource_traced (read : h.obj = some e) (normal : Normal env e.value) (first : h.put = none)
    (allows : env.allowsModify (reconcilePolicyFor e.value) = true) (get : h.get = some (.ok resp))
    (writes : Writes env e.value resp) (armID : String) :
    (putResource env e armID).Traced note (Next env) (Returns env) h := by
  unfold putResource
  cases built : buildARMBody env e.value.spec with
  | error err =>
    have unbuilt : bodyOf env e.value.spec = none := by simp [bodyOf,built]
    exact returns_of_normal read normal (putDone_of_unbuilt read unbuilt) _
  | ok armBody =>
    cases marshaled : env.marshal armBody with
    | error detail =>
      have unbuilt : bodyOf env e.value.spec = none := by
        simp [bodyOf,built,marshaled,Except.toOption]
      simpa only [marshaled,traced_pure] using
        returns_of_normal read normal (putDone_of_unbuilt read unbuilt) _
    | ok data =>
      have carried : bodyOf env e.value.spec = some data := by
        simp [bodyOf,built,marshaled,Except.toOption]
      simp only [marshaled,traced_request_bind]
      refine ⟨⟨e,resp,read,normal,first,allows,get,writes,carried⟩,?_⟩
      rintro (err | putResp)
      · exact returns_of_normal (by exact read) normal (putDone_of_put rfl) _
      · dsimp only
        split
        · exact returns_of_normal (by exact read) normal (putDone_of_put rfl) _
        · next limited =>
          split
          · next terminal =>
            simp only [handleTerminalPUTError,traced_request_bind]
            refine ⟨⟨e,read,normal,data,putResp,rfl,terminal⟩,?_⟩
            rintro (err | refreshed) <;>
              exact returns_of_normal (by exact read) normal (putDone_of_put rfl) _
          · next terminal =>
            refine traced_bind (storeSpecHash_traced (by exact read) normal rfl carried limited
              (Bool.eq_false_iff.mpr terminal)) ?_
            rintro h' obj ⟨read',sent⟩
            exact requeueReconciling_traced read' normal (putDone_of_put sent)
              (Or.inr (Or.inl ⟨_,_,sent⟩)) obj

theorem putDone_of_adopts (read : h.obj = some e) (get : h.get = some (.ok resp))
    (adopts : Adopts env e.value resp) : PutDone env h := by
  refine putDone_of_quiet read ?_
  rintro resp' get' allows ⟨_,writes⟩
  obtain rfl : resp = resp' := Except.ok.inj (Option.some.inj (get.symm.trans get'))
  obtain ⟨_,found,settled⟩ := adopts
  obtain ⟨succeeded,undrifted⟩ := settled allows
  simp [found,succeeded,undrifted] at writes

theorem reconcileSucceeded_traced (read : h.obj = some e) (normal : Normal env e.value)
    (first : h.put = none) (known : h.armID = some (.ok armID)) (get : h.get = some (.ok resp))
    (adopts : Adopts env e.value resp) (body : Bytes) :
    (reconcileSucceeded env e armID body).Traced note (Next env) (Returns env) h := by
  simp only [reconcileSucceeded,traced_request_bind]
  refine ⟨⟨e,read,normal,first,armID,resp,known,get,adopts,rfl⟩,?_⟩
  have done := putDone_of_adopts read get adopts
  rintro (err | refreshed)
  · exact returns_of_normal (by exact read) normal (by exact done) _
  · cases populated : env.populateStatus refreshed.value.spec body with
    | error detail =>
      simpa only [populated,traced_pure] using returns_of_normal (by exact read) normal (by exact done) _
    | ok =>
      simp only [populated]
      refine updateStatus_traced
        ⟨e,read,normal,first,armID,resp,refreshed,known,get,adopts,rfl,rfl⟩ ?_
      intro a outcome
      exact returns_of_normal (by exact read) normal (by exact done) outcome

theorem reconcileExisting_traced (read : h.obj = some e) (normal : Normal env e.value)
    (first : h.put = none) (allows : env.allowsModify (reconcilePolicyFor e.value) = true)
    (known : h.armID = some (.ok armID)) (get : h.get = some (.ok resp))
    (limited : resp.statusCode ≠ 429) (found : resp.statusCode ≠ 404) :
    (reconcileExisting env e armID resp.body).Traced note (Next env) (Returns env) h := by
  unfold reconcileExisting
  dsimp only
  split
  · next succeeded =>
    split
    · next drifted =>
      refine putResource_traced read normal first allows get ⟨limited,Or.inr ?_⟩ armID
      simp only [succeeded,if_true,drifted]
    · next settled =>
      exact reconcileSucceeded_traced read normal first known get
        ⟨limited,found,fun _ => ⟨succeeded,Bool.eq_false_iff.mpr settled⟩⟩ resp.body
  · next unfinished =>
    split
    · next stopped =>
      refine putResource_traced read normal first allows get ⟨limited,Or.inr ?_⟩ armID
      simp only [unfinished,Bool.false_eq_true,if_false,stopped]
    · next running =>
      have inFlight : InFlight env resp :=
        ⟨Bool.eq_false_iff.mpr unfinished,Bool.eq_false_iff.mpr running⟩
      have done : PutDone env h := by
        refine putDone_of_quiet read ?_
        intro resp' get' _
        obtain rfl : resp = resp' := Except.ok.inj (Option.some.inj (get.symm.trans get'))
        exact inFlight.not_writes found e.value
      exact requeueReconciling_traced read normal done (Or.inr (Or.inr ⟨resp,get,found,inFlight⟩)) e

theorem readResource_traced (read : h.obj = some e) (normal : Normal env e.value)
    (unread : h.get = none) (first : h.put = none)
    {found : String → ARMResponse → ARMProgram Spec Outcome}
    (rest : ∀ h' : Notes Spec, ∀ armID resp, h'.obj = some e → h'.put = none →
      h'.armID = some (.ok armID) → h'.get = some (.ok resp) → resp.statusCode ≠ 429 →
      (found armID resp).Traced note (Next env) (Returns env) h') :
    (readResource env e found).Traced note (Next env) (Returns env) h := by
  have done : PutDone env h := putDone_of_unread read unread
  simp only [readResource,traced_request_bind]
  refine ⟨⟨e,read,unread,first,Or.inl normal⟩,?_⟩
  rintro (err | creds)
  · dsimp only
    split
    · exact requeueReconciling_traced (by exact read) normal (by exact done) (Or.inl (by exact unread)) e
    · exact returns_of_normal (by exact read) normal (by exact done) _
  · simp only [traced_request_bind]
    refine ⟨⟨e,read,unread,first,Or.inl normal⟩,?_⟩
    rintro (err | armID)
    · dsimp only
      split
      · exact requeueReconciling_traced (by exact read) normal (by exact done) (Or.inl (by exact unread)) e
      · exact returns_of_normal (by exact read) normal (by exact done) _
    · simp only [traced_request_bind]
      refine ⟨⟨e,read,unread,first,Or.inl normal⟩,?_⟩
      rintro (err | resp)
      · refine returns_of_normal (by exact read) normal (putDone_of_quiet (by exact read) ?_) _
        intro resp get
        cases get
      · dsimp only
        split
        · next limited =>
          refine returns_of_normal (by exact read) normal (putDone_of_quiet (by exact read) ?_) _
          intro resp' get _ writes
          obtain rfl : resp = resp' := Except.ok.inj (Option.some.inj get)
          exact writes.1 limited
        · next limited => exact rest _ armID resp read first rfl rfl limited

theorem reconcileNormal_traced (read : h.obj = some e) (normal : Normal env e.value)
    (unread : h.get = none) (first : h.put = none)
    (allows : env.allowsModify (reconcilePolicyFor e.value) = true) :
    (reconcileNormal env e).Traced note (Next env) (Returns env) h := by
  refine readResource_traced read normal unread first ?_
  intro h' armID resp read' first' known get limited
  split
  · next absent =>
    exact putResource_traced read' normal first' allows get ⟨limited,Or.inl absent⟩ armID
  · next found => exact reconcileExisting_traced read' normal first' allows known get limited found

theorem reconcileReadOnly_traced (read : h.obj = some e) (normal : Normal env e.value)
    (unread : h.get = none) (first : h.put = none)
    (refuses : env.allowsModify (reconcilePolicyFor e.value) = false) :
    (reconcileReadOnly env e).Traced note (Next env) (Returns env) h := by
  refine readResource_traced read normal unread first ?_
  intro h' armID resp read' first' known get limited
  split
  · refine updateStatus_traced ⟨e,read',normal,refuses⟩ ?_
    intro a outcome
    refine returns_of_normal (by exact read') normal (putDone_of_quiet (by exact read') ?_) outcome
    intro _ _ allows
    rw [refuses] at allows
    cases allows
  · next found =>
    have adopts : Adopts env e.value resp :=
      ⟨limited,found,fun allows => by rw [refuses] at allows; cases allows⟩
    exact reconcileSucceeded_traced read' normal first' known get adopts resp.body

theorem ensureFinalizers_traced (read : h.obj = some e) (live : e.value.deleting = false)
    (unread : h.get = none) (first : h.put = none) :
    (ensureFinalizers env e (reconcilePolicyFor e.value)).Traced note (Next env)
      (fun h' requeue => h'.obj = some e ∧ h'.get = none ∧ h'.put = none ∧
        (requeue = .ok false → Normal env e.value)) h := by
  unfold ensureFinalizers
  dsimp only
  split
  · next settled => exact ⟨read,unread,first,fun _ => ⟨live,settled⟩⟩
  · simp only [traced_request_bind]
    refine ⟨⟨e,read,live,unread,rfl⟩,?_⟩
    rintro (err | refreshed)
    · dsimp only
      split
      · exact ⟨read,unread,first,by simp⟩
      · exact ⟨read,unread,first,by simp⟩
    · exact ⟨read,unread,first,by simp⟩

theorem returns_of_settled (read : h.obj = some e) (deleting : e.value.deleting = true)
    (settled : Settled env h e.value) (outcome : Outcome) : Returns env h outcome := by
  refine ⟨?_,?_⟩
  · intro e' read' _
    obtain rfl : e' = e := Option.some.inj (read'.symm.trans read)
    exact settled
  · intro e' read' normal
    obtain rfl : e' = e := Option.some.inj (read'.symm.trans read)
    have live := normal.live
    rw [deleting] at live
    cases live

theorem removeFinalizer_traced (read : h.obj = some e) (deleting : e.value.deleting = true)
    (finalizer : finalizerName ∈ e.value.finalizers) (releases : Releases env h e.value) :
    (removeFinalizer e).Traced note (Next env) (Returns env) h := by
  unfold removeFinalizer
  simp only [removeFinalizerFrom,finalizer,decide_true,if_true,traced_request_bind]
  refine ⟨⟨e,read,deleting,finalizer,releases,rfl⟩,?_⟩
  rintro (err | refreshed)
  · exact returns_of_settled (by exact read) deleting (Or.inl ⟨_,rfl⟩) _
  · exact returns_of_settled (by exact read) deleting (Or.inl ⟨_,rfl⟩) _

/-- What is known after the grace check, by its result. -/
def GraceChecked (env : Env Spec Body) (e : Object Spec) (h : Notes Spec) :
    Except Error (Bool × Object Spec) → Prop
  | .ok (true,obj) => h.obj = some e ∧ obj = e ∧ Releases env h e.value
  | _ => h.obj = some e ∧ Present h ∧ Settled env h e.value

theorem deletionGraceExpired_traced (read : h.obj = some e) (deleting : Deleting env e.value)
    (present : Present h) :
    (deletionGraceExpired env e).Traced note (Next env) (GraceChecked env e) h := by
  unfold deletionGraceExpired
  dsimp only
  split
  · next disabled => exact ⟨read,present,Or.inr (Or.inr (Or.inr (Or.inl disabled)))⟩
  · next enabled =>
    have positive : 0 < env.deletionGracePeriod := by omega
    split
    · next unstamped =>
      simp only [traced_request_bind]
      refine ⟨⟨e,read,deleting,present⟩,fun time => ?_⟩
      refine ⟨⟨e,read,deleting,present,positive,unstamped,time,rfl,rfl⟩,?_⟩
      have settled : ∀ a, Settled env { h with clock := some time, updated := some (.deletionStarted,a) }
          e.value :=
        fun a => Or.inr (Or.inr (Or.inr (Or.inr (Or.inl ⟨unstamped,a,rfl⟩))))
      rintro (err | refreshed)
      · exact ⟨read,present,settled _⟩
      · exact ⟨read,present,settled _⟩
    · next stamped =>
      split
      · next unparsed =>
        refine ⟨read,present,?_⟩
        exact Or.inr (Or.inr (Or.inr (Or.inr (Or.inr (Or.inl ⟨stamped,unparsed⟩)))))
      · next startedAt parsed =>
        simp only [traced_request_bind]
        refine ⟨⟨e,read,deleting,present⟩,fun time => ?_⟩
        by_cases expired : env.deletionGracePeriod < Time.sub time startedAt
        · simp only [expired,decide_true]
          refine ⟨read,rfl,?_⟩
          exact Or.inr (Or.inr (Or.inr (Or.inr ⟨positive,startedAt,time,parsed,rfl,expired⟩)))
        · simp only [expired,decide_false]
          refine ⟨read,present,?_⟩
          exact Or.inr (Or.inr (Or.inr (Or.inr (Or.inr (Or.inr ⟨startedAt,time,parsed,rfl,expired⟩)))))

theorem reconcileDeleteARM_traced (read : h.obj = some e) (deleting : Deleting env e.value)
    (unread : h.get = none) (first : h.put = none) (armID : String) :
    (reconcileDeleteARM env e armID).Traced note (Next env) (Returns env) h := by
  simp only [reconcileDeleteARM,traced_request_bind]
  refine ⟨⟨e,read,unread,first,Or.inr deleting⟩,?_⟩
  rintro (err | resp)
  · exact returns_of_settled (by exact read) deleting.deleting (Or.inr (Or.inl ⟨err,rfl⟩)) _
  · dsimp only
    split
    · next limited =>
      refine returns_of_settled (by exact read) deleting.deleting ?_ _
      exact Or.inr (Or.inr (Or.inl ⟨resp,rfl,limited⟩))
    · next limited =>
      split
      · next absent =>
        refine removeFinalizer_traced (by exact read) deleting.deleting deleting.finalizer ?_
        exact Or.inr (Or.inr (Or.inr (Or.inl ⟨resp,rfl,absent⟩)))
      · next found =>
        refine traced_bind (deletionGraceExpired_traced (by exact read) deleting
          ⟨resp,rfl,limited,found⟩) ?_
        rintro h' (graceErr | ⟨expired,obj⟩) checked
        · exact returns_of_settled checked.1 deleting.deleting checked.2.2 _
        · cases expired with
          | true =>
            obtain ⟨read',rfl,releases⟩ := checked
            exact removeFinalizer_traced read' deleting.deleting deleting.finalizer releases
          | false =>
            obtain ⟨read',present,settled⟩ := checked
            simp only [traced_request_bind]
            refine ⟨⟨e,read',deleting,present⟩,?_⟩
            rintro (err | delResp)
            · exact returns_of_settled (by exact read') deleting.deleting settled _
            · dsimp only
              split
              · exact returns_of_settled (by exact read') deleting.deleting settled _
              · refine updateStatus_traced ⟨e,read',deleting⟩ ?_
                intro a outcome
                exact returns_of_settled (by exact read') deleting.deleting (by exact settled) outcome

theorem reconcileDelete_traced (read : h.obj = some e) (deleting : e.value.deleting = true)
    (unread : h.get = none) (first : h.put = none) :
    (reconcileDelete env e (reconcilePolicyFor e.value)).Traced note (Next env) (Returns env) h := by
  unfold reconcileDelete
  split
  · next finalizer =>
    refine ⟨?_,?_⟩
    · intro e' read' managed
      obtain rfl : e' = e := Option.some.inj (read'.symm.trans read)
      exact absurd managed.finalizer finalizer
    · exact fun _ _ _ => putDone_of_unread read unread
  · next finalizer =>
    have finalizer := not_not.mp finalizer
    split
    · next refuses =>
      exact removeFinalizer_traced read deleting finalizer (Or.inl (Bool.eq_false_iff.mpr refuses))
    · next allows =>
      have managed : Deleting env e.value := ⟨deleting,finalizer,not_not.mp allows⟩
      simp only [traced_request_bind]
      refine ⟨⟨e,read,unread,first,Or.inr managed⟩,?_⟩
      rintro (err | creds)
      · exact removeFinalizer_traced (by exact read) deleting finalizer (Or.inr (Or.inl ⟨err,rfl⟩))
      · simp only [traced_request_bind]
        refine ⟨⟨e,read,unread,first,Or.inr managed⟩,?_⟩
        rintro (err | armID)
        · exact removeFinalizer_traced (by exact read) deleting finalizer
            (Or.inr (Or.inr (Or.inl ⟨err,rfl⟩)))
        · exact reconcileDeleteARM_traced (by exact read) managed (by exact unread) (by exact first) armID

theorem reconcile_traced (env : Env Spec Body) :
    (reconcile env).Traced note (Next env) (Returns env) .fresh := by
  simp only [reconcile,traced_request_bind]
  refine ⟨rfl,?_⟩
  rintro (err | e)
  · dsimp only
    split <;> exact ⟨fun e read => (by cases read),fun e read => (by cases read)⟩
  · dsimp only
    split
    · next deleting =>
      refine traced_bind (reconcileDelete_traced (by exact rfl) deleting rfl rfl) ?_
      intro h outcome returns
      exact ⟨returns.settled,returns.put⟩
    · next live =>
      have live := Bool.eq_false_iff.mpr live
      refine traced_bind (ensureFinalizers_traced (by exact rfl) live rfl rfl) ?_
      rintro h (err | requeue) ⟨read,unread,first,normal⟩
      · exact returns_of_live read live (putDone_of_unread read unread) _
      · cases requeue with
        | true => exact returns_of_live read live (putDone_of_unread read unread) _
        | false =>
          have normal := normal rfl
          dsimp only
          split
          · next refuses =>
            exact reconcileReadOnly_traced read normal unread first (Bool.eq_false_iff.mpr refuses)
          · next allows =>
            refine traced_bind (reconcileNormal_traced read normal unread first (not_not.mp allows)) ?_
            intro h' outcome returns
            exact ⟨returns.settled,returns.put⟩

theorem next_of_writes (permitted : Next env h c) (read : h.obj = some e) (normal : Normal env e.value)
    (get : h.get = some (.ok resp)) (writes : Writes env e.value resp) (first : h.put = none)
    (allows : env.allowsModify (reconcilePolicyFor e.value) = true)
    (carried : bodyOf env e.value.spec = some body) :
    ∃ armID apiVersion, c = .armPut armID apiVersion body := by
  have unread : ∀ {P : Prop}, h.get = none → P := by
    intro P unread
    rw [unread] at get
    cases get
  have same : ∀ {e'}, h.obj = some e' → e' = e := fun read' => Option.some.inj (read'.symm.trans read)
  have sameResp : ∀ {resp'}, h.get = some (.ok resp') → resp' = resp :=
    fun get' => Except.ok.inj (Option.some.inj (get'.symm.trans get))
  have live : ∀ {P : Prop}, e.value.deleting = true → P := by
    intro P deleting
    rw [normal.live] at deleting
    cases deleting
  have adopted : ∀ {P : Prop}, Adopts env e.value resp → P := by
    intro P adopts
    exact absurd first (putDone_of_adopts read get adopts e resp body read allows get writes carried)
  have sent : ∀ {P : Prop} {answer}, h.put = some answer → P := by
    intro P answer sent
    rw [first] at sent
    cases sent
  cases c with
  | get =>
    obtain rfl := permitted
    cases get
  | resolveCredentials obj => obtain ⟨_,_,none',_⟩ := permitted; exact unread none'
  | armIDFor obj subscriptionID => obtain ⟨_,_,none',_⟩ := permitted; exact unread none'
  | armGet armID apiVersion => obtain ⟨_,_,none',_⟩ := permitted; exact unread none'
  | armPut armID apiVersion body' =>
    obtain ⟨e',_,read',_,_,_,_,_,carried'⟩ := permitted
    obtain rfl := same read'
    obtain rfl := Option.some.inj (carried'.symm.trans carried)
    exact ⟨armID,apiVersion,rfl⟩
  | armDelete armID apiVersion =>
    obtain ⟨e',read',deleting,_⟩ := permitted
    exact live (same read' ▸ deleting.deleting)
  | now =>
    obtain ⟨e',read',deleting,_⟩ := permitted
    exact live (same read' ▸ deleting.deleting)
  | update site obj =>
    obtain ⟨e',read',permitted⟩ := permitted
    obtain rfl := same read'
    cases site with
    | finalizers => exact unread permitted.2.1
    | specHash => obtain ⟨_,_,_,put,_⟩ := permitted; exact sent put
    | succeeded =>
      obtain ⟨_,_,_,resp',_,get',adopts,_⟩ := permitted
      exact adopted (sameResp get' ▸ adopts)
    | deletionStarted => exact live permitted.1.deleting
    | release => exact live permitted.1
  | updateStatus site obj =>
    obtain ⟨e',read',permitted⟩ := permitted
    obtain rfl := same read'
    cases site with
    | reconciling =>
      obtain ⟨_,none' | ⟨_,_,put⟩ | ⟨resp',get',found,running⟩⟩ := permitted
      · exact unread none'
      · exact sent put
      · obtain rfl := sameResp get'
        exact absurd writes (running.not_writes found e'.value)
    | notFound =>
      rw [permitted.2] at allows
      cases allows
    | failed => obtain ⟨_,_,_,put,_⟩ := permitted; exact sent put
    | succeeded =>
      obtain ⟨_,_,_,resp',_,_,get',adopts,_⟩ := permitted
      exact adopted (sameResp get' ▸ adopts)
    | deleting => exact live (Deleting.deleting permitted)

theorem put_of_traced {p : ARMProgram Spec Outcome}
    (traced : p.Traced note (Next env) (Returns env) h) (read : h.obj = some e)
    (normal : Normal env e.value) (get : h.get = some (.ok resp)) (writes : Writes env e.value resp)
    (first : h.put = none) (allows : env.allowsModify (reconcilePolicyFor e.value) = true)
    (carried : bodyOf env e.value.spec = some body) :
    ∃ armID apiVersion next, p = .call (.armPut armID apiVersion body) next := by
  cases p with
  | pure outcome =>
    exact absurd first (traced.put e read normal e resp body read allows get writes carried)
  | call c next =>
    obtain ⟨armID,apiVersion,rfl⟩ := next_of_writes traced.1 read normal get writes first allows carried
    exact ⟨armID,apiVersion,next,rfl⟩

end Trace

end Kommodity.AzureARM
