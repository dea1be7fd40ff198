import Kommodity.ARMCluster

/-! What Ready says about Azure. A pass marks the resource Ready after it has taken the answer to
its GET for the resource: under a policy that modifies, if the answer shows a provisioning state
of Succeeded, and otherwise whatever the answer is. -/
namespace Kommodity.AzureARM

open Go Versioned Interaction Transition

variable {Spec Body : Type}

/-- The pass has stamped the resource ID, or has marked the resource Ready. -/
def Marked (h : Notes Spec) : Prop :=
  (∃ refreshed, h.updated = some (.succeeded,.ok refreshed)) ∨
  ∃ refreshed, h.statusUpdated = some (.succeeded,.ok refreshed)

section Reached

variable {env : Env Spec Body} {h : Notes Spec} {e : Object Spec}

/-- Both marks are set on the object as read, after an answer that is adopted. -/
def Justified (env : Env Spec Body) (h : Notes Spec) : Prop :=
  Marked h → ∃ e resp, h.obj = some e ∧ h.get = some (.ok resp) ∧ Normal env e.value ∧
    Adopts env e.value resp

theorem justified_note (permitted : Next env h c) (justified : Justified env h) (a : Answer Spec c) :
    Justified env (note h c a) := by
  cases c with
  | get =>
    obtain rfl := permitted
    rintro (⟨_,marked⟩ | ⟨_,marked⟩) <;> cases marked
  | armGet armID apiVersion =>
    intro marked
    obtain ⟨e,read,unread,_⟩ := permitted
    obtain ⟨_,resp,_,get,_⟩ := justified marked
    rw [unread] at get
    cases get
  | update site obj =>
    obtain ⟨e,read,permitted⟩ := permitted
    by_cases succeeded : site = .succeeded
    · subst succeeded
      obtain ⟨normal,_,_,resp,_,get,adopts,_⟩ := permitted
      exact fun _ => ⟨e,resp,read,get,normal,adopts⟩
    · rintro (⟨_,marked⟩ | marked)
      · simp [note,succeeded] at marked
      · exact justified (Or.inr marked)
  | updateStatus site obj =>
    obtain ⟨e,read,permitted⟩ := permitted
    by_cases succeeded : site = .succeeded
    · subst succeeded
      obtain ⟨normal,_,_,resp,_,_,get,adopts,_⟩ := permitted
      exact fun _ => ⟨e,resp,read,get,normal,adopts⟩
    · rintro (marked | ⟨_,marked⟩)
      · exact justified (Or.inl marked)
      · simp [note,succeeded] at marked
  | _ => exact justified

theorem justified_reached (reached : (reconcile env).Reaches note .fresh h p) : Justified env h := by
  induction reached with
  | start => rintro (⟨_,marked⟩ | ⟨_,marked⟩) <;> cases marked
  | answer a before ih => exact justified_note (before.traced (reconcile_traced env)).1 ih a

end Reached

section Reaching

variable (env : Env Spec Body) (h : Notes Spec) (e : Object Spec)

theorem readResource_reaches (armID : String) (limited : resp.statusCode ≠ 429)
    (found : String → ARMResponse → ARMProgram Spec Outcome) :
    (readResource env e found).Reaches note h
      { h with credentials := some (.ok ⟨""⟩), armID := some (.ok armID), get := some (.ok resp) }
      (found armID resp) := by
  unfold readResource
  refine (reaches_request note h (Call.resolveCredentials e.value) (Except.ok ⟨""⟩) _).trans ?_
  refine (reaches_request note _ (Call.armIDFor e.value "") (Except.ok armID) _).trans ?_
  refine (reaches_request note _ (Call.armGet armID env.apiVersion) (Except.ok resp) _).trans ?_
  simp only [limited,if_false]
  exact .start

theorem reconcileSucceeded_reaches (armID : String) (body : Bytes) :
    ∃ p, (reconcileSucceeded env e armID body).Reaches note h
      { h with updated := some (.succeeded,.ok e) } p := by
  unfold reconcileSucceeded
  exact ⟨_,reaches_request note h
    (Call.update .succeeded ⟨stampSucceeded env e.value armID,e.version⟩) (Except.ok e) _⟩

theorem reconcileNormal_reaches_mark (limited : resp.statusCode ≠ 429) (found : resp.statusCode ≠ 404)
    (succeeded : equalFold (parseProvisioningState env resp.body) "Succeeded" = true)
    (undrifted : specDrifted env e.value = false) (read : h.obj = some e) :
    ∃ h' p, (reconcileNormal env e).Reaches note h h' p ∧ h'.obj = some e ∧
      h'.get = some (.ok resp) ∧ Marked h' := by
  have reached := readResource_reaches env h e "" limited fun armID getResp =>
    if getResp.statusCode = 404 then putResource env e armID
    else reconcileExisting env e armID getResp.body
  have adopted : (if resp.statusCode = 404 then putResource env e ""
      else reconcileExisting env e "" resp.body) = reconcileSucceeded env e "" resp.body := by
    simp [found,reconcileExisting,succeeded,undrifted]
  rw [adopted] at reached
  obtain ⟨p,marked⟩ := reconcileSucceeded_reaches env _ e "" resp.body
  exact ⟨_,p,reached.trans marked,read,rfl,Or.inl ⟨e,rfl⟩⟩

theorem reconcileReadOnly_reaches_mark (limited : resp.statusCode ≠ 429) (found : resp.statusCode ≠ 404)
    (read : h.obj = some e) :
    ∃ h' p, (reconcileReadOnly env e).Reaches note h h' p ∧ h'.obj = some e ∧
      h'.get = some (.ok resp) ∧ Marked h' := by
  have reached := readResource_reaches env h e "" limited fun armID getResp =>
    if getResp.statusCode = 404 then
      updateStatus .notFound "updating not-found status" ⟨setNotFound env e.value,e.version⟩
        driftRequeueInterval
    else reconcileSucceeded env e armID getResp.body
  rw [if_neg found] at reached
  obtain ⟨p,marked⟩ := reconcileSucceeded_reaches env _ e "" resp.body
  exact ⟨_,p,reached.trans marked,read,rfl,Or.inl ⟨e,rfl⟩⟩

theorem reconcile_reaches_mark (normal : Normal env e.value) (adopts : Adopts env e.value resp) :
    ∃ h p, (reconcile env).Reaches note .fresh h p ∧ h.obj = some e ∧ h.get = some (.ok resp) ∧
      Marked h := by
  obtain ⟨limited,found,settled⟩ := adopts
  have first : (reconcile env).Reaches note .fresh _ _ :=
    reaches_request note Notes.fresh Call.get (Except.ok e) _
  simp only [normal.live,Bool.false_eq_true,if_false,ensureFinalizers,normal.settled,if_true] at first
  by_cases allows : env.allowsModify (reconcilePolicyFor e.value) = true
  · obtain ⟨succeeded,undrifted⟩ := settled allows
    obtain ⟨h,p,reached,read,get,marked⟩ :=
      reconcileNormal_reaches_mark env (note .fresh .get (Except.ok e)) e limited found succeeded
        undrifted rfl
    simp only [allows,not_true,if_false] at first
    exact ⟨h,_,first.trans (reached.bind _),read,get,marked⟩
  · obtain ⟨h,p,reached,read,get,marked⟩ :=
      reconcileReadOnly_reaches_mark env (note .fresh .get (Except.ok e)) e limited found rfl
    simp only [allows] at first
    exact ⟨h,p,first.trans reached,read,get,marked⟩

/-- What a pass that read `e` and got `resp` may do to it: nothing in Ready or the resource ID
unless the answer is 2xx. -/
theorem marked_only_after_success_iff (resp : ARMResponse) :
    (∀ h p, (reconcile env).Reaches note .fresh h p → h.obj = some e → h.get = some (.ok resp) →
      Marked h → successful resp.statusCode = true) ↔
    successful resp.statusCode = true ∨ resp.statusCode = 404 ∨ resp.statusCode = 429 ∨
    e.value.deleting = true ∨
    (settleFinalizers env (reconcilePolicyFor e.value) e.value.finalizers).2 = true ∨
    env.allowsModify (reconcilePolicyFor e.value) = true ∧
      (equalFold (parseProvisioningState env resp.body) "Succeeded" = false ∨
        specDrifted env e.value = true) := by
  constructor
  · intro only
    by_contra fails
    simp only [not_or,not_and,Bool.not_eq_true,Bool.not_eq_false] at fails
    obtain ⟨refused,found,limited,live,settled,adopted⟩ := fails
    obtain ⟨h,p,reached,read,get,marked⟩ :=
      reconcile_reaches_mark env e ⟨live,settled⟩ ⟨limited,found,adopted⟩
    rw [only h p reached read get marked] at refused
    cases refused
  · intro condition h p reached read get marked
    obtain ⟨e',resp',read',get',normal,limited,found,settled⟩ := justified_reached reached marked
    obtain rfl : e = e' := Option.some.inj (read.symm.trans read')
    obtain rfl : resp = resp' := Except.ok.inj (Option.some.inj (get.symm.trans get'))
    rcases condition with success | absent | throttled | deleting | unsettled | ⟨allows,unadopted⟩
    · exact success
    · exact absurd absent found
    · exact absurd throttled limited
    · simp [normal.live] at deleting
    · simp [normal.settled] at unsettled
    · obtain ⟨succeeded,undrifted⟩ := settled allows
      simp [succeeded,undrifted] at unadopted

end Reaching

def skippedObject : Resource Bool :=
  { sampleObject ((∅ : Map String String).insert reconcilePolicyAnnotation reconcilePolicySkip) with
    finalizers := [] }

/-- Under policy skip a GET that is refused with 403 makes the resource Ready. -/
theorem forbidden_read_marks_ready :
    ∃ t h e refreshed next,
      (controller (sampleEnv 0)).system.Run (idle (sampleCluster skippedObject))
        (upToGet ++ [.answer () (.http 403 [] ""),.answer () .served]) t ∧
      t.thread () = some (h,.call (.updateStatus .succeeded refreshed) next) ∧
      h.obj = some e ∧ h.get = some (.ok ⟨403,[],0⟩) ∧ Marked h ∧
      refreshed.value.ready = some ⟨true,.none,1,"Succeeded",""⟩ ∧
      refreshed.value.annotations.lookup resourceIDAnnotation = some "/vnet" ∧
      successful 403 = false :=
  ⟨_,_,_,_,_,.of ⟨⟨rfl,rfl⟩,⟨_,_,_,rfl,trivial⟩,⟨_,_,_,rfl,trivial⟩,⟨_,_,_,rfl,trivial⟩,
    ⟨_,_,_,rfl,trivial⟩,⟨_,_,_,rfl,trivial⟩,trivial⟩,
    rfl,rfl,rfl,Or.inl ⟨_,rfl⟩,rfl,rfl,rfl⟩

/-! Whether a Ready resource has been applied. ARM accepts every PUT, the owner edits the spec and
switches between the policies manage and skip, and Kubernetes may refuse any call. -/

section Applied

/-- The owner's edits. `used` has the specs that occur. -/
def OwnerEdits (used : Spec → Prop) (s : Cluster Spec) : Disturbance Spec → Prop
  | .tick _ => True
  | .resync => True
  | .editSpec spec => used spec
  | .editAnnotations annotations =>
    ∃ policy, (policy = reconcilePolicyManage ∨ policy = reconcilePolicySkip) ∧
      ∀ stored, s.store.get () = some stored →
        annotations = (stored.value.annotate reconcilePolicyAnnotation policy).annotations
  | _ => False

def PutsAccepted : Call Spec → Reply → Prop
  | .armPut _ _ _,f => accepts f = true
  | _,_ => True

def ownedResource (env : Env Spec Body) (used : Spec → Prop) :=
  (controller env).restrict (fun _ _ c f => PutsAccepted c f) (OwnerEdits used)

/-- The stored hash speaks for the spec that was read: it is there when a Succeeded resource is
adopted under a policy that modifies, and it is the hash of the spec when the policy does not. -/
def HashKnown (env : Env Spec Body) (obj : Resource Spec) (resp : ARMResponse) : Prop :=
  resp.statusCode ≠ 404 → resp.statusCode ≠ 429 →
    if env.allowsModify (reconcilePolicyFor obj) then
      equalFold (parseProvisioningState env resp.body) "Succeeded" = true →
        obj.specHash ≠ "" ∧ (bodyOf env obj.spec).isSome
    else ∀ body, bodyOf env obj.spec = some body → obj.specHash = hashOf env body

def ReadsKnown (env : Env Spec Body) (h : Notes Spec) : Call Spec → Reply → Prop
  | .armGet _ _,f => ∀ e resp, h.obj = some e → armAnswer f = .ok resp → HashKnown env e.value resp
  | _,_ => True

/-- The same runs, as long as the hash is known. -/
def hashedResource (env : Env Spec Body) (used : Spec → Prop) :=
  (ownedResource env used).restrict (fun _ h c f => ReadsKnown env h c f) fun _ _ => True

variable {env : Env Spec Body} {used : Spec → Prop}

/-- A stored hash is that of an accepted body. -/
def Recorded (env : Env Spec Body) (used : Spec → Prop) (accepted : List Bytes) (obj : Resource Spec) :
    Prop :=
  used obj.spec ∧ (obj.specHash = "" ∨ ∃ body ∈ accepted, obj.specHash = hashOf env body)

structure AppliedInv (env : Env Spec Body) (used : Spec → Prop) (s : Cluster Spec) : Prop where
  stored : ∀ e, s.store.get () = some e → Recorded env used s.accepted e.value
  carried : ∀ body ∈ s.accepted, ∃ spec, used spec ∧ bodyOf env spec = some body

structure AppliedHeld (env : Env Spec Body) (used : Spec → Prop) (s : Cluster Spec) (h : Notes Spec) :
    Prop where
  reads : Reads s h
  obj : ∀ e, h.obj = some e → Recorded env used s.accepted e.value
  known : ∀ e resp, h.obj = some e → h.get = some (.ok resp) → HashKnown env e.value resp
  put : ∀ body resp, h.put = some (body,.ok resp) → body ∈ s.accepted
  refreshed : ∀ o, h.updated = some (.succeeded,.ok o) →
    ∃ e, h.obj = some e ∧ o.value.spec = e.value.spec ∧
      reconcilePolicyFor o.value = reconcilePolicyFor e.value

theorem Recorded.mono (recorded : Recorded env used accepted obj)
    (more : ∀ body ∈ accepted, body ∈ accepted') : Recorded env used accepted' obj := by
  refine ⟨recorded.1,?_⟩
  rcases recorded.2 with empty | ⟨body,member,same⟩
  · exact Or.inl empty
  · exact Or.inr ⟨body,more body member,same⟩

/-- What is adopted under a known hash has that hash already. -/
theorem specHash_of_adopted (known : HashKnown env obj resp) (adopts : Adopts env obj resp)
    (carried : bodyOf env obj.spec = some body) : obj.specHash = hashOf env body := by
  obtain ⟨limited,found,settled⟩ := adopts
  have known := known found limited
  by_cases allows : env.allowsModify (reconcilePolicyFor obj) = true
  · obtain ⟨succeeded,undrifted⟩ := settled allows
    rw [if_pos allows] at known
    have stored := (known succeeded).1
    simpa [specDrifted,computeSpecHash_of_body carried,stored] using undrifted
  · rw [if_neg allows] at known
    exact known body carried

theorem AppliedHeld.hashed (held : AppliedHeld env used s h) (read : h.obj = some e)
    (hashed : Hashed env h e specHash) : ∃ body ∈ s.accepted, specHash = hashOf env body := by
  cases hashed with
  | @put body resp put carried _ _ same => exact ⟨body,held.put body resp put,same⟩
  | @adopted resp body _ get _ adopts carried same =>
    have stored := specHash_of_adopted (held.known e resp read get) adopts carried
    rcases (held.obj e read).2 with empty | ⟨body',member,same'⟩
    · exact absurd (stored.symm.trans empty) (hashOf_ne_empty env body)
    · exact ⟨body',member,by rw [same,← stored,same']⟩

theorem accepted_mono (s : Cluster Spec) (c : Call Spec) (f : Reply) (member : body ∈ s.accepted) :
    body ∈ (serve s c f).2.accepted := by
  rcases serve_accepted s c f with same | ⟨_,_,_,_,_,more⟩
  · rwa [same]
  · rw [more]
    exact List.mem_cons_of_mem _ member

theorem AppliedInv.answered (inv : AppliedInv env used s) (held : AppliedHeld env used s h)
    (permitted : Next env h c) (f : Reply) : AppliedInv env used (serve s c f).2 := by
  have effect := serve_effect held.reads permitted f
  refine ⟨?_,?_⟩
  · intro e' found
    obtain ⟨stored,before,spec,_⟩ := effect.frame found
    refine ⟨by rw [spec]; exact (inv.stored stored before).1,?_⟩
    rcases effect.specHash found with ⟨stored',before',same⟩ | ⟨e,read,hashed⟩
    · rw [same]
      exact ((inv.stored stored' before').mono fun _ => accepted_mono s c f).2
    · obtain ⟨body,member,same⟩ := held.hashed read hashed
      exact Or.inr ⟨body,accepted_mono s c f member,same⟩
  · intro body member
    rcases serve_accepted s c f with same | ⟨armID,apiVersion,sent,rfl,_,more⟩
    · rw [same] at member
      exact inv.carried body member
    · rw [more] at member
      rcases List.mem_cons.mp member with rfl | earlier
      · obtain ⟨e,_,read,_,_,_,_,_,carried⟩ := permitted
        exact ⟨e.value.spec,(held.obj e read).1,carried⟩
      · exact inv.carried body earlier

theorem AppliedHeld.answered (inv : AppliedInv env used s) (held : AppliedHeld env used s h)
    (permitted : Next env h c) (accepted : PutsAccepted c f) (known : ReadsKnown env h c f) :
    AppliedHeld env used (serve s c f).2 (note h c (serve s c f).1) := by
  have reads := held.reads.answered permitted f
  have obj : ∀ e, h.obj = some e → Recorded env used (serve s c f).2.accepted e.value :=
    fun e read => (held.obj e read).mono fun _ => accepted_mono s c f
  have put : ∀ body resp, h.put = some (body,.ok resp) → body ∈ (serve s c f).2.accepted :=
    fun body resp sent => accepted_mono s c f (held.put body resp sent)
  cases c with
  | get =>
    obtain rfl := permitted
    refine ⟨reads,?_,(fun _ _ _ get => by cases get),(fun _ _ sent => by cases sent),
      (fun _ updated => by cases updated)⟩
    intro e read
    have found := read_stored read
    exact (inv.stored e found).mono fun _ => accepted_mono s .get f
  | armGet armID apiVersion =>
    refine ⟨reads,obj,?_,put,held.refreshed⟩
    intro e resp read get
    exact known e resp read (Option.some.inj get)
  | armPut armID apiVersion body =>
    refine ⟨reads,obj,held.known,?_,held.refreshed⟩
    intro body' resp sent
    obtain ⟨rfl,_⟩ := Prod.mk.inj (Option.some.inj sent)
    simp [serve,show accepts f = true from accepted]
  | update site updated =>
    refine ⟨reads,obj,held.known,put,?_⟩
    intro o answered
    obtain ⟨rfl,answer⟩ := Prod.mk.inj (Option.some.inj answered)
    obtain ⟨e,read,_,_,armID,_,_,_,_,rfl⟩ := permitted
    obtain ⟨stored,value⟩ := update_answer answer
    refine ⟨e,read,?_,?_⟩
    · rw [value]
      dsimp only [replaceObject,stampSucceeded]
      split <;> rfl
    · rw [value]
      exact policy_stampSucceeded env e.value armID
  | _ => exact ⟨reads,obj,held.known,put,held.refreshed⟩

theorem AppliedInv.disturbed (inv : AppliedInv env used s) (edits : OwnerEdits used s d) :
    AppliedInv env used (disturb s d) := by
  have edited : ∀ change : Resource Spec → Resource Spec,
      (∀ stored, s.store.get () = some stored → used (change stored.value).spec ∧
        (change stored.value).specHash = stored.value.specHash) →
      AppliedInv env used (s.edit change) := by
    intro change harmless
    unfold Cluster.edit
    split
    · exact inv
    · next stored found =>
      refine ⟨?_,inv.carried⟩
      intro e kept
      rw [value_of_get_keep kept]
      obtain ⟨spec,same⟩ := harmless stored found
      refine ⟨spec,?_⟩
      rw [same]
      exact (inv.stored stored found).2
  cases d with
  | tick elapsed => exact ⟨inv.stored,inv.carried⟩
  | resync => exact ⟨inv.stored,inv.carried⟩
  | editSpec spec =>
    exact edited (fun obj => { obj with spec, generation := obj.generation + 1 }) fun _ _ => ⟨edits,rfl⟩
  | editAnnotations annotations =>
    obtain ⟨policy,_,annotated⟩ := edits
    refine edited (fun obj => { obj with annotations }) fun stored found =>
      ⟨(inv.stored stored found).1,?_⟩
    have other : armSpecHashAnnotation ≠ reconcilePolicyAnnotation := by decide
    dsimp only [Resource.specHash]
    rw [annotated stored found,index_annotate,if_neg other]
  | _ => exact edits.elim

theorem applied_keeps (env : Env Spec Body) (used : Spec → Prop) :
    (hashedResource env used).Keeps (Next env) (Returns env) (AppliedInv env used)
      (AppliedHeld env used) :=
  .single {
    begins s inv _ := by
      refine ⟨⟨inv.stored,inv.carried⟩,reads_fresh _,?_,?_,?_,?_⟩
      · intro e read; cases read
      · intro e resp read; cases read
      · intro body resp sent; cases sent
      · intro o updated; cases updated
    answers s h c f inv held permitted answerable :=
      ⟨inv.answered held permitted f,held.answered inv permitted answerable.1.2 answerable.2⟩
    finishes s h outcome inv _ _ := ⟨inv.stored,inv.carried⟩
    disturbs s d inv possible := by
      refine ⟨inv.disturbed possible.1.2,?_⟩
      intro h held
      have accepted := (disturb_frame s d).2.2.2
      refine ⟨held.reads.disturbed d,?_,held.known,?_,held.refreshed⟩
      · intro e read
        exact accepted ▸ held.obj e read
      · intro body resp sent
        exact accepted ▸ held.put body resp sent
  }

/-- As long as the stored hash is known whenever an existing resource is read, Ready is set under
policy manage only for a spec that ARM has accepted. -/
theorem ready_means_applied (policies : env.Policies) (collisions : env.NoCollisions used)
    (nothing : start.accepted = [])
    (unhashed : ∀ e, start.store.get () = some e → used e.value.spec ∧ e.value.specHash = "")
    (run : (hashedResource env used).system.Run (idle start) actions t)
    (running : t.thread () = some (h,.call (.updateStatus .succeeded obj) next))
    (managed : reconcilePolicyFor obj.value = reconcilePolicyManage) :
    ∃ condition body, obj.value.ready = some condition ∧ condition.status = true ∧
      condition.observedGeneration = obj.value.generation ∧
      bodyOf env obj.value.spec = some body ∧ body ∈ t.shared.accepted := by
  have initial : AppliedInv env used start := by
    refine ⟨?_,by simp [nothing]⟩
    intro e found
    obtain ⟨spec,empty⟩ := unhashed e found
    exact ⟨spec,Or.inl empty⟩
  have good := (applied_keeps env used).run (fun _ => reconcile_traced env) (good_idle initial) run
  obtain ⟨held,e,read,normal,_,armID,resp,refreshed,_,get,adopts,updated,rfl⟩ := good.pending running
  obtain ⟨e',read',spec,policy⟩ := held.refreshed refreshed updated
  obtain rfl : e = e' := Option.some.inj (read.symm.trans read')
  have policy : reconcilePolicyFor e.value = reconcilePolicyManage := policy.symm.trans managed
  have allows := (policies.modify _).mpr (Or.inl policy)
  have known := held.known e resp read get
  obtain ⟨succeeded,_⟩ := adopts.2.2 allows
  have computable := known adopts.2.1 adopts.1
  rw [if_pos allows] at computable
  obtain ⟨stored,hasBody⟩ := computable succeeded
  obtain ⟨body,carried⟩ := Option.isSome_iff_exists.mp hasBody
  have same := specHash_of_adopted known adopts carried
  obtain ⟨usedSpec,recorded⟩ := held.obj e read
  obtain ⟨body',member,same'⟩ := recorded.resolve_left stored
  obtain ⟨spec',usedSpec',carried'⟩ := good.1.carried body' member
  obtain rfl := collisions _ _ body body' usedSpec usedSpec' carried carried' (same.symm.trans same')
  refine ⟨_,body,rfl,rfl,rfl,?_,member⟩
  exact spec ▸ carried

end Applied

/-- A resource that is created, read again and found Succeeded. -/
theorem ready_means_applied_created :
    ∃ t h obj next,
      (hashedResource (sampleEnv 0) fun _ => True).system.Run (idle (sampleCluster (sampleObject ∅)))
        (upToGet ++ [.answer () (.http 404 [] ""),.answer () (.http 201 [] ""),.answer () .served,
          .answer () .served] ++ upToGet ++ [.answer () (.http 200 [1] ""),.answer () .served]) t ∧
      t.thread () = some (h,.call (.updateStatus .succeeded obj) next) ∧
      ∃ condition body, obj.value.ready = some condition ∧ condition.status = true ∧
        condition.observedGeneration = obj.value.generation ∧
        bodyOf (sampleEnv 0) obj.value.spec = some body ∧ body ∈ t.shared.accepted := by
  have unhashed : ∀ e, (sampleCluster (sampleObject ∅)).store.get () = some e →
      True ∧ e.value.specHash = "" := by
    intro e found
    obtain rfl := Option.some.inj found
    exact ⟨trivial,rfl⟩
  have absent : ∀ h : Notes Bool,
      ReadsKnown (sampleEnv 0) h (.armGet "/vnet" "2024-01-01") (.http 404 [] "") := by
    intro h e resp _ answer missing
    obtain rfl := Except.ok.inj answer
    exact absurd rfl missing
  have hashed : ∀ (h : Notes Bool) (e : Object Bool), h.obj = some e →
      (sampleEnv 0).allowsModify (reconcilePolicyFor e.value) = true →
      e.value.specHash = hashOf (sampleEnv 0) [0] →
      ReadsKnown (sampleEnv 0) h (.armGet "/vnet" "2024-01-01") (.http 200 [1] "") := by
    intro h e read allows stored e' resp read' answer _ _
    obtain rfl := Option.some.inj (read.symm.trans read')
    rw [if_pos allows,stored]
    exact fun _ => ⟨hashOf_ne_empty (sampleEnv 0) [0],rfl⟩
  have run : (hashedResource (sampleEnv 0) fun _ => True).system.Run
      (idle (sampleCluster (sampleObject ∅)))
      (upToGet ++ [Action.answer () (Reply.http 404 [] ""),.answer () (.http 201 [] ""),.answer () .served,
        .answer () .served] ++ upToGet ++ [Action.answer () (Reply.http 200 [1] ""),.answer () .served]) _ :=
    .of ⟨⟨rfl,rfl⟩,⟨_,_,_,rfl,⟨trivial,trivial⟩,trivial⟩,⟨_,_,_,rfl,⟨trivial,trivial⟩,trivial⟩,
      ⟨_,_,_,rfl,⟨trivial,trivial⟩,trivial⟩,⟨_,_,_,rfl,⟨trivial,trivial⟩,absent _⟩,
      ⟨_,_,_,rfl,⟨trivial,rfl⟩,trivial⟩,⟨_,_,_,rfl,⟨trivial,trivial⟩,trivial⟩,
      ⟨_,_,_,rfl,⟨trivial,trivial⟩,trivial⟩,⟨rfl,rfl⟩,⟨_,_,_,rfl,⟨trivial,trivial⟩,trivial⟩,
      ⟨_,_,_,rfl,⟨trivial,trivial⟩,trivial⟩,⟨_,_,_,rfl,⟨trivial,trivial⟩,trivial⟩,
      ⟨_,_,_,rfl,⟨trivial,trivial⟩,hashed _ _ rfl rfl rfl⟩,⟨_,_,_,rfl,⟨trivial,trivial⟩,trivial⟩,trivial⟩
  exact ⟨_,_,_,_,run,rfl,ready_means_applied (sampleEnv_policies 0) (sampleEnv_noCollisions 0) rfl
    unhashed run rfl rfl⟩

/-- The owner edits the spec while its first version is put. The update of the hash meets a
conflict and is dropped, so the next pass finds no hash, sees no drift, and marks the new spec
Ready. -/
theorem dropped_hash_marks_unapplied_ready :
    ∃ t stored,
      (ownedResource (sampleEnv 0) fun _ => True).system.Run (idle (sampleCluster (sampleObject ∅)))
        (upToGet ++ [.answer () (.http 404 [] ""),.answer () (.http 201 [] ""),
          .disturb (.editSpec true),.answer () .served,.answer () .served] ++
        upToGet ++ [.answer () (.http 200 [1] ""),.answer () .served,.answer () .served]) t ∧
      t.shared.store.get () = some stored ∧
      stored.value.ready = some ⟨true,.none,2,"Succeeded",""⟩ ∧ stored.value.generation = 2 ∧
      reconcilePolicyFor stored.value = reconcilePolicyManage ∧
      bodyOf (sampleEnv 0) stored.value.spec = some [1] ∧ t.shared.accepted = [[0]] :=
  ⟨_,_,.of ⟨⟨rfl,rfl⟩,⟨_,_,_,rfl,trivial,trivial⟩,⟨_,_,_,rfl,trivial,trivial⟩,⟨_,_,_,rfl,trivial,trivial⟩,
    ⟨_,_,_,rfl,trivial,trivial⟩,⟨_,_,_,rfl,trivial,rfl⟩,⟨trivial,trivial⟩,⟨_,_,_,rfl,trivial,trivial⟩,
    ⟨_,_,_,rfl,trivial,trivial⟩,⟨rfl,rfl⟩,⟨_,_,_,rfl,trivial,trivial⟩,⟨_,_,_,rfl,trivial,trivial⟩,
    ⟨_,_,_,rfl,trivial,trivial⟩,⟨_,_,_,rfl,trivial,trivial⟩,⟨_,_,_,rfl,trivial,trivial⟩,
    ⟨_,_,_,rfl,trivial,trivial⟩,trivial⟩,
    rfl,rfl,rfl,rfl,rfl,rfl⟩

end Kommodity.AzureARM
