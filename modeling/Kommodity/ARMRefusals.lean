import Kommodity.ARMCluster

/-! What follows a PUT that ARM refuses: whether the hash of the refused body is stored, so that
the spec passes for applied, and whether the body is put again though nothing has changed. -/
namespace Kommodity.AzureARM

open Go Versioned Interaction Transition

variable {Spec Body : Type}

section Drift

/-- The owner edits the spec and nothing else. -/
def SpecEdits (used : Spec → Prop) : Disturbance Spec → Prop
  | .tick _ => True
  | .resync => True
  | .editSpec spec => used spec
  | _ => False

def editedResource (env : Env Spec Body) (used : Spec → Prop) :=
  (controller env).restrict (fun _ _ _ _ => True) fun _ d => SpecEdits used d

/-- A refused PUT is throttled or refused for good, and meets a stored hash that is neither empty
nor the hash of its body. -/
def RefusesCleanly (env : Env Spec Body) (s : Cluster Spec) : Call Spec → Reply → Prop
  | .armPut _ _ body,.http statusCode _ _ => successful statusCode = false →
    (statusCode = 429 ∨ isTerminalARMError statusCode = true) ∧
    ∀ stored, s.store.get () = some stored →
      stored.value.specHash ≠ "" ∧ stored.value.specHash ≠ hashOf env body
  | _,_ => True

def cleanResource (env : Env Spec Body) (used : Spec → Prop) :=
  (editedResource env used).restrict (fun s _ c f => RefusesCleanly env s c f) fun _ _ => True

/-- ARM does not accept the body. -/
def Withholds (body : Bytes) : Call Spec → Reply → Prop
  | .armPut _ _ sent,f => sent = body → accepts f = false
  | _,_ => True

def refusedResource (env : Env Spec Body) (used : Spec → Prop) (body : Bytes) :=
  (cleanResource env used).restrict (fun _ _ c f => Withholds body c f) fun _ _ => True

variable {env : Env Spec Body} {used : Spec → Prop} {policy : String} {deleting : Bool} {body : Bytes}

/-- What spec edits leave as it is. -/
structure Framed (used : Spec → Prop) (policy : String) (deleting : Bool) (obj : Resource Spec) :
    Prop where
  spec : used obj.spec
  policy : reconcilePolicyFor obj = policy
  deleting : obj.deleting = deleting

def FramedInv (used : Spec → Prop) (policy : String) (deleting : Bool) (s : Cluster Spec) : Prop :=
  ∀ e, s.store.get () = some e → Framed used policy deleting e.value

def FramedHeld (used : Spec → Prop) (policy : String) (deleting : Bool) (s : Cluster Spec)
    (h : Notes Spec) : Prop :=
  Reads s h ∧ ∀ e, h.obj = some e → Framed used policy deleting e.value

theorem FramedInv.answered (inv : FramedInv used policy deleting s) (reads : Reads s h)
    (permitted : Next env h c) (f : Reply) : FramedInv used policy deleting (serve s c f).2 := by
  intro e' found
  obtain ⟨stored,before,spec,live,same⟩ := (serve_effect reads permitted f).frame found
  have framed := inv stored before
  exact ⟨spec ▸ framed.spec,same.trans framed.policy,live.trans framed.deleting⟩

theorem FramedHeld.answered (inv : FramedInv used policy deleting s)
    (held : FramedHeld used policy deleting s h) (permitted : Next env h c) (f : Reply) :
    FramedHeld used policy deleting (serve s c f).2 (note h c (serve s c f).1) := by
  refine ⟨held.1.answered permitted f,fun e read => ?_⟩
  exact (read_cases read).elim (inv e) (held.2 e)

theorem stored_specEdit {P : Resource Spec → Prop}
    (kept : ∀ obj spec, P obj → used spec → P { obj with spec, generation := obj.generation + 1 })
    (inv : ∀ e, s.store.get () = some e → P e.value) (edits : SpecEdits used d) :
    ∀ e, (disturb s d).store.get () = some e → P e.value := by
  cases d with
  | tick elapsed => exact inv
  | resync => exact inv
  | editSpec spec =>
    intro e found
    rcases s.edit_store fun obj => { obj with spec, generation := obj.generation + 1 } with
      same | ⟨stored,before,written⟩
    · exact inv e (same ▸ found)
    · change (s.edit _).store.get () = some e at found
      rw [written] at found
      rw [value_of_get_keep found]
      exact kept _ spec (inv stored before) edits
  | _ => exact edits.elim

theorem framed_keeps (env : Env Spec Body) (used : Spec → Prop) (policy : String) (deleting : Bool) :
    (editedResource env used).Keeps (Next env) (Returns env) (FramedInv used policy deleting)
      (FramedHeld used policy deleting) :=
  .single {
    begins _ inv _ := ⟨inv,reads_fresh _,fun _ read => by cases read⟩
    answers _ _ _ f inv held permitted _ :=
      ⟨inv.answered held.1 permitted f,held.answered inv permitted f⟩
    finishes _ _ _ inv _ _ := inv
    disturbs _ d inv possible := by
      refine ⟨stored_specEdit ?_ inv possible.2,fun h held => ⟨held.1.disturbed d,held.2⟩⟩
      intro obj spec framed usedSpec
      exact ⟨usedSpec,framed.policy,framed.deleting⟩
  }

/-- A hash that shows the body as not applied. -/
structure Outstanding (env : Env Spec Body) (body : Bytes) (obj : Resource Spec) : Prop where
  stored : obj.specHash ≠ ""
  other : obj.specHash ≠ hashOf env body

def DriftInv (env : Env Spec Body) (used : Spec → Prop) (policy : String) (body : Bytes)
    (s : Cluster Spec) : Prop :=
  ∀ e, s.store.get () = some e → Framed used policy false e.value ∧ Outstanding env body e.value

structure DriftHeld (env : Env Spec Body) (used : Spec → Prop) (policy : String) (body : Bytes)
    (s : Cluster Spec) (h : Notes Spec) : Prop where
  framed : FramedHeld used policy false s h
  outstanding : h.put = none → ∀ e, h.obj = some e → Outstanding env body e.value
  put : ∀ sent resp, h.put = some (sent,.ok resp) → resp.statusCode ≠ 429 →
    isTerminalARMError resp.statusCode = false → sent ≠ body

/-- Every hash the reconciler stores leaves the body outstanding. -/
theorem DriftHeld.hashed (collisions : env.NoCollisions used)
    (allows : env.allowsModify policy = true) (usedSpec : used spec)
    (carried : bodyOf env spec = some body) (held : DriftHeld env used policy body s h)
    (read : h.obj = some e) (hashed : Hashed env h e specHash) :
    specHash ≠ "" ∧ specHash ≠ hashOf env body := by
  have framed := held.framed.2 e read
  cases hashed with
  | @put sent resp put carried' limited terminal same =>
    refine ⟨same ▸ hashOf_ne_empty env sent,?_⟩
    intro collides
    refine held.put sent resp put limited terminal ?_
    exact collisions _ _ sent body framed.spec usedSpec carried' carried (same.symm.trans collides)
  | @adopted resp sent first get _ adopts carried' same =>
    have outstanding := held.outstanding first e read
    have undrifted := (adopts.2.2 (framed.policy ▸ allows)).2
    have stored : e.value.specHash = hashOf env sent := by
      simpa [specDrifted,computeSpecHash_of_body carried',outstanding.stored] using undrifted
    rw [same,← stored]
    exact ⟨outstanding.stored,outstanding.other⟩

theorem DriftInv.framed (inv : DriftInv env used policy body s) : FramedInv used policy false s :=
  fun e found => (inv e found).1

theorem DriftInv.answered (collisions : env.NoCollisions used)
    (allows : env.allowsModify policy = true) (usedSpec : used spec)
    (carried : bodyOf env spec = some body) (inv : DriftInv env used policy body s)
    (held : DriftHeld env used policy body s h) (permitted : Next env h c) (f : Reply) :
    DriftInv env used policy body (serve s c f).2 := by
  intro e' found
  refine ⟨inv.framed.answered held.framed.1 permitted f e' found,?_⟩
  rcases (serve_effect held.framed.1 permitted f).specHash found with
    ⟨stored,before,same⟩ | ⟨e,read,hashed⟩
  · have outstanding := (inv stored before).2
    exact ⟨same ▸ outstanding.stored,same ▸ outstanding.other⟩
  · obtain ⟨stored,other⟩ := held.hashed collisions allows usedSpec carried read hashed
    exact ⟨stored,other⟩

/-- A PUT after which the hash is stored was accepted, so it did not carry the body. -/
theorem put_other {s : Cluster Spec} (clean : RefusesCleanly env s (.armPut armID apiVersion sent) f)
    (withheld : Withholds body (.armPut armID apiVersion sent : Call Spec) f)
    (answer : armAnswer f = .ok resp) (limited : resp.statusCode ≠ 429)
    (terminal : isTerminalARMError resp.statusCode = false) : sent ≠ body := by
  intro same
  have refused := withheld same
  cases f with
  | http statusCode respBody retryAfter =>
    obtain rfl := Except.ok.inj answer
    rcases (clean refused).1 with throttled | refusedForGood
    · exact limited throttled
    · simp [armClientDo,refusedForGood] at terminal
  | _ => cases answer

theorem DriftHeld.answered (inv : DriftInv env used policy body s)
    (held : DriftHeld env used policy body s h) (permitted : Next env h c)
    (clean : RefusesCleanly env s c f) (withheld : Withholds body c f) :
    DriftHeld env used policy body (serve s c f).2 (note h c (serve s c f).1) := by
  refine ⟨held.framed.answered inv.framed permitted f,?_,?_⟩
  · intro first e read
    rcases read_cases read with found | read
    · exact (inv e found).2
    · refine held.outstanding ?_ e read
      cases c with
      | armPut armID apiVersion sent => cases first
      | _ => exact first
  · intro sent resp put limited terminal
    cases c with
    | armPut armID apiVersion sent' =>
      obtain ⟨rfl,answer⟩ := Prod.mk.inj (Option.some.inj put)
      exact put_other clean withheld answer limited terminal
    | _ => exact held.put sent resp put limited terminal

theorem drift_keeps (collisions : env.NoCollisions used) (allows : env.allowsModify policy = true)
    (usedSpec : used spec) (carried : bodyOf env spec = some body) :
    (refusedResource env used body).Keeps (Next env) (Returns env) (DriftInv env used policy body)
      (DriftHeld env used policy body) :=
  .single {
    begins s inv _ := by
      refine ⟨inv,⟨reads_fresh _,?_⟩,?_,?_⟩
      · intro e read; cases read
      · intro _ e read; cases read
      · intro sent resp put; cases put
    answers s h c f inv held permitted answerable :=
      ⟨inv.answered collisions allows usedSpec carried held permitted f,
        held.answered inv permitted answerable.1.2 answerable.2⟩
    finishes _ _ _ inv _ _ := inv
    disturbs s d inv possible := by
      have kept : ∀ (obj : Resource Spec) (edited : Spec),
          Framed used policy false obj ∧ Outstanding env body obj → used edited →
          Framed used policy false { obj with spec := edited, generation := obj.generation + 1 } ∧
          Outstanding env body { obj with spec := edited, generation := obj.generation + 1 } :=
        fun obj edited ⟨framed,outstanding⟩ usedEdit =>
          ⟨⟨usedEdit,framed.policy,framed.deleting⟩,outstanding.stored,outstanding.other⟩
      refine ⟨stored_specEdit kept inv possible.1.1.2,?_⟩
      intro h held
      exact ⟨⟨held.framed.1.disturbed d,held.framed.2⟩,held.outstanding,held.put⟩
  }

/-- A cleanly refused PUT leaves its body outstanding, and does not store its hash. -/
theorem drift_of_refused (inv : FramedInv used policy false s) (held : FramedHeld used policy false s h)
    (permitted : Next env h (.armPut armID apiVersion body))
    (clean : RefusesCleanly env s (.armPut armID apiVersion body) (.http statusCode answer retryAfter))
    (refused : successful statusCode = false) :
    DriftInv env used policy body
      (serve s (.armPut armID apiVersion body) (.http statusCode answer retryAfter)).2 ∧
    DriftHeld env used policy body
      (serve s (.armPut armID apiVersion body) (.http statusCode answer retryAfter)).2
      (note h (.armPut armID apiVersion body) (.ok (armClientDo statusCode answer retryAfter))) := by
  obtain ⟨kind,outstanding⟩ := clean refused
  refine ⟨?_,held.answered inv permitted _,?_,?_⟩
  · intro stored found
    have found : s.store.get () = some stored := by
      simpa [serve,accepts,refused] using found
    obtain ⟨hashed,other⟩ := outstanding stored found
    exact ⟨inv stored found,hashed,other⟩
  · intro unsent
    cases unsent
  · intro sent resp put limited terminal
    obtain ⟨_,same⟩ := Prod.mk.inj (Option.some.inj put)
    obtain rfl := Except.ok.inj same
    rcases kind with throttled | refusedForGood
    · exact absurd throttled limited
    · simp [armClientDo,refusedForGood] at terminal

/-- A pass that has read a spec of the outstanding body puts it when it finds the resource
Succeeded. -/
theorem DriftHeld.puts {next : Except Error ARMResponse → ARMProgram Spec Outcome}
    (held : DriftHeld env used policy body s h) (allows : env.allowsModify policy = true)
    (traced : (Program.call (.armGet armID apiVersion) next).Traced note (Next env) (Returns env) h)
    (read : h.obj = some e) (carried : bodyOf env e.value.spec = some body)
    (limited : statusCode ≠ 429)
    (succeeded : equalFold (parseProvisioningState env answer) "Succeeded" = true)
    (retryAfter : String) :
    ∃ armID' apiVersion' next', next (.ok (armClientDo statusCode answer retryAfter)) =
      .call (.armPut armID' apiVersion' body) next' := by
  obtain ⟨⟨e',read',_,first,phase⟩,rest⟩ := traced
  obtain rfl := Option.some.inj (read.symm.trans read')
  have framed := held.framed.2 e read
  have outstanding := held.outstanding first e read
  have normal : Normal env e.value := by
    rcases phase with normal | deleting
    · exact normal
    · have := framed.deleting.symm.trans deleting.deleting
      cases this
  have drifted : specDrifted env e.value = true := by
    simp [specDrifted,computeSpecHash_of_body carried,outstanding.stored,outstanding.other]
  have writes : Writes env e.value (armClientDo statusCode answer retryAfter) := by
    refine ⟨limited,Or.inr ?_⟩
    simp [armClientDo,succeeded,drifted]
  exact put_of_traced (rest (.ok (armClientDo statusCode answer retryAfter))) (by exact read) normal rfl
    writes (by exact first) (framed.policy ▸ allows) carried

/-- From a refused PUT on, in runs whose refusals are clean and as long as ARM does not accept the
body: the stored hash is not that of the body, and a pass that reads the spec of the body and finds
the resource Succeeded puts the body next. -/
theorem refused_put_keeps_drift (collisions : env.NoCollisions used)
    (present : start.store.get () = some first) (usedFirst : used first.value.spec)
    (run : (cleanResource env used).system.Run (idle start) before s)
    (running : s.thread () = some (h,.call (.armPut armID apiVersion body) next))
    (allowed : (cleanResource env used).system.allowed s (.answer () (.http statusCode answer retryAfter)))
    (refused : successful statusCode = false)
    (later : (refusedResource env used body).system.Run
      ((cleanResource env used).system.apply s (.answer () (.http statusCode answer retryAfter))) after t) :
    (∀ stored, t.shared.store.get () = some stored → stored.value.specHash ≠ hashOf env body) ∧
    ∀ h' armID' apiVersion' next' e statusCode' answer' retryAfter',
      t.thread () = some (h',.call (.armGet armID' apiVersion') next') → h'.obj = some e →
      bodyOf env e.value.spec = some body → statusCode' ≠ 404 → statusCode' ≠ 429 →
      equalFold (parseProvisioningState env answer') "Succeeded" = true →
      ∃ h'' armID'' apiVersion'' next'',
        ((controller env).system.apply t (.answer () (.http statusCode' answer' retryAfter'))).thread () =
          some (h'',.call (.armPut armID'' apiVersion'' body) next'') := by
  have initial : FramedInv used (reconcilePolicyFor first.value) first.value.deleting start := by
    intro e found
    obtain rfl := Option.some.inj (present.symm.trans found)
    exact ⟨usedFirst,rfl,rfl⟩
  have keeps := (framed_keeps env used (reconcilePolicyFor first.value) first.value.deleting).restrict
    (fun s _ c f => RefusesCleanly env s c f) fun _ _ => True
  have good := keeps.run (fun _ => reconcile_traced env) (good_idle initial) run
  obtain ⟨held,permitted⟩ := good.pending running
  obtain ⟨e,resp,read,normal,_,allows,_,_,carried⟩ := permitted
  have framed := held.2 e read
  have live : first.value.deleting = false := framed.deleting.symm.trans normal.live
  rw [framed.policy] at allows
  have clean : RefusesCleanly env s.shared (.armPut armID apiVersion body)
      (.http statusCode answer retryAfter) := by
    obtain ⟨h',c,next',running',_,clean⟩ := allowed
    obtain ⟨rfl,same⟩ := Prod.mk.inj (Option.some.inj (running.symm.trans running'))
    obtain ⟨rfl,_⟩ := Program.call.inj same
    exact clean
  obtain ⟨inv,resumed⟩ := drift_of_refused (live ▸ good.1) (live ▸ held) (good.pending running).2 clean
    refused
  have driftKeeps := drift_keeps collisions allows framed.spec carried
  have goodLater := driftKeeps.run (fun _ => reconcile_traced env)
    (driftKeeps.resume running inv resumed (good.2 () h _ running).2) later
  refine ⟨fun stored found => (goodLater.1 stored found).2.other,?_⟩
  intro h' armID' apiVersion' next' e' statusCode' answer' retryAfter' running' read' carried' _
    limited succeeded
  obtain ⟨held',traced⟩ := goodLater.2 () h' _ running'
  obtain ⟨armID'',apiVersion'',next'',put⟩ :=
    held'.puts allows traced read' carried' limited succeeded retryAfter'
  refine ⟨note h' (.armGet armID' apiVersion') (.ok (armClientDo statusCode' answer' retryAfter')),
    armID'',apiVersion'',next'',?_⟩
  simp only [Threads.system,running']
  change ((controller env).settle t () t.shared _
    (next' (.ok (armClientDo statusCode' answer' retryAfter')))).thread () = _
  rw [put]
  simp [Threads.settle,controller,serve,armAnswer]

end Drift

/-- An object that was applied with another spec. -/
def appliedObject : Resource Bool :=
  sampleObject ((∅ : Map String String).insert armSpecHashAnnotation "0100000000000000")

/-- The resource is not found in Azure, and its PUT is under way. -/
def puttingState : State Unit (Cluster Bool) (Call Bool) (Answer Bool) (Notes Bool) Outcome :=
  (upToGet ++ [Action.answer () (Reply.http 404 [] "")]).foldl (controller (sampleEnv 0)).system.apply
    (idle (sampleCluster appliedObject))

/-- A PUT that is refused for good, after which the resource is read again. -/
theorem refused_put_keeps_drift_terminal :
    ∃ t,
      (cleanResource (sampleEnv 0) fun _ => True).system.Run (idle (sampleCluster appliedObject))
        (upToGet ++ [.answer () (.http 404 [] "")]) puttingState ∧
      (refusedResource (sampleEnv 0) (fun _ => True) [0]).system.Run
        ((cleanResource (sampleEnv 0) fun _ => True).system.apply puttingState
          (.answer () (.http 400 [] ""))) ([.answer () .served] ++ upToGet) t ∧
      (∀ stored, t.shared.store.get () = some stored →
        stored.value.specHash ≠ hashOf (sampleEnv 0) [0]) ∧
      ∃ h armID apiVersion next,
        ((controller (sampleEnv 0)).system.apply t (.answer () (.http 200 [1] ""))).thread () =
          some (h,.call (.armPut armID apiVersion [0]) next) := by
  have clean : RefusesCleanly (sampleEnv 0) puttingState.shared (.armPut "/vnet" "2024-01-01" [0])
      (.http 400 [] "") := by
    intro _
    refine ⟨Or.inr rfl,?_⟩
    intro stored found
    obtain rfl := Option.some.inj found
    exact ⟨by decide,by decide⟩
  have run : (cleanResource (sampleEnv 0) fun _ => True).system.Run (idle (sampleCluster appliedObject))
      (upToGet ++ [Action.answer () (Reply.http 404 [] "")]) puttingState :=
    .of ⟨⟨rfl,rfl⟩,⟨_,_,_,rfl,⟨trivial,trivial⟩,trivial⟩,⟨_,_,_,rfl,⟨trivial,trivial⟩,trivial⟩,
      ⟨_,_,_,rfl,⟨trivial,trivial⟩,trivial⟩,⟨_,_,_,rfl,⟨trivial,trivial⟩,trivial⟩,trivial⟩
  have later : (refusedResource (sampleEnv 0) (fun _ => True) [0]).system.Run
      ((cleanResource (sampleEnv 0) fun _ => True).system.apply puttingState
        (.answer () (.http 400 [] ""))) ([.answer () .served] ++ upToGet) _ :=
    .of ⟨⟨_,_,_,rfl,⟨⟨trivial,trivial⟩,trivial⟩,trivial⟩,⟨rfl,rfl⟩,
      ⟨_,_,_,rfl,⟨⟨trivial,trivial⟩,trivial⟩,trivial⟩,⟨_,_,_,rfl,⟨⟨trivial,trivial⟩,trivial⟩,trivial⟩,
      ⟨_,_,_,rfl,⟨⟨trivial,trivial⟩,trivial⟩,trivial⟩,trivial⟩
  have drift := refused_put_keeps_drift (sampleEnv_noCollisions 0) rfl trivial run rfl
    ⟨_,_,_,rfl,⟨trivial,trivial⟩,clean⟩ rfl later
  exact ⟨_,run,later,drift.1,
    drift.2 _ _ _ _ _ 200 [1] "" rfl rfl rfl (by decide) (by decide) (by decide)⟩

/-- ARM fails a PUT with 500, its hash is stored all the same, and the next pass takes the resource
it finds for the spec that was never applied. -/
theorem failed_put_silences_drift :
    ∃ t stored h obj next,
      (editedResource (sampleEnv 0) fun _ => True).system.Run (idle (sampleCluster appliedObject))
        (upToGet ++ [.answer () (.http 200 [1] ""),.answer () (.http 500 [] ""),.answer () .served,
          .answer () .served] ++ upToGet ++ [.answer () (.http 200 [1] "")]) t ∧
      t.shared.store.get () = some stored ∧
      stored.value.specHash = hashOf (sampleEnv 0) [0] ∧
      bodyOf (sampleEnv 0) stored.value.spec = some [0] ∧ t.shared.accepted = [] ∧
      t.thread () = some (h,.call (.update .succeeded obj) next) :=
  ⟨_,_,_,_,_,.of ⟨⟨rfl,rfl⟩,⟨_,_,_,rfl,trivial,trivial⟩,⟨_,_,_,rfl,trivial,trivial⟩,
    ⟨_,_,_,rfl,trivial,trivial⟩,⟨_,_,_,rfl,trivial,trivial⟩,⟨_,_,_,rfl,trivial,trivial⟩,
    ⟨_,_,_,rfl,trivial,trivial⟩,⟨_,_,_,rfl,trivial,trivial⟩,⟨rfl,rfl⟩,⟨_,_,_,rfl,trivial,trivial⟩,
    ⟨_,_,_,rfl,trivial,trivial⟩,⟨_,_,_,rfl,trivial,trivial⟩,⟨_,_,_,rfl,trivial,trivial⟩,trivial⟩,
    rfl,rfl,rfl,rfl,rfl⟩

section Spinning

/-- The same spec and policy, and the same drift if the policy lets it be written. -/
structure Steady (env : Env Spec Body) (base obj : Resource Spec) : Prop where
  spec : obj.spec = base.spec
  policy : reconcilePolicyFor obj = reconcilePolicyFor base
  drifted : env.allowsModify (reconcilePolicyFor base) = true → specDrifted env obj = specDrifted env base

/-- As long as there is an object, it is steady since it was `base`. -/
def SteadyInv (env : Env Spec Body) (base : Option (Object Spec)) (s : Cluster Spec) : Prop :=
  ∀ e, s.store.get () = some e → ∃ b, base = some b ∧ Steady env b.value e.value

structure SteadyHeld (env : Env Spec Body) (base : Option (Object Spec)) (s : Cluster Spec)
    (h : Notes Spec) : Prop where
  reads : Reads s h
  refused : ∀ sent resp, h.put = some (sent,.ok resp) → isTerminalARMError resp.statusCode = true
  steady : h.put = none → ∀ e, h.obj = some e → ∃ b, base = some b ∧ Steady env b.value e.value

/-- Nobody edits the object, and no further PUT is answered. -/
def unfixedResource (env : Env Spec Body) :=
  (controller env).restrict (fun _ _ c _ => ∀ armID apiVersion body, c ≠ .armPut armID apiVersion body)
    fun _ d => Untouched d

variable {env : Env Spec Body} {base : Option (Object Spec)}

/-- The refused pass stores no hash, and one that adopts the resource has found no drift. -/
theorem SteadyInv.answered (inv : SteadyInv env base s) (held : SteadyHeld env base s h)
    (permitted : Next env h c) (f : Reply) : SteadyInv env base (serve s c f).2 := by
  intro e' found
  have effect := serve_effect held.reads permitted f
  obtain ⟨stored,before,spec,_,policy⟩ := effect.frame found
  obtain ⟨b,known,steady⟩ := inv stored before
  refine ⟨b,known,spec.trans steady.spec,policy.trans steady.policy,fun allows => ?_⟩
  rcases effect.specHash found with ⟨stored',before',same⟩ | ⟨e,read,hashed⟩
  · obtain rfl := Option.some.inj (before.symm.trans before')
    rw [← steady.drifted allows]
    simp only [specDrifted,spec,same]
  · cases hashed with
    | put put _ _ terminal =>
      rw [held.refused _ _ put] at terminal
      cases terminal
    | adopted first _ _ adopts carried same =>
      obtain ⟨b',known',read'⟩ := held.steady first e read
      obtain rfl := Option.some.inj (known.symm.trans known')
      have spec' : e'.value.spec = e.value.spec := spec.trans (steady.spec.trans read'.spec.symm)
      rw [← read'.drifted allows,(adopts.2.2 (read'.policy ▸ allows)).2]
      simp [specDrifted,spec',computeSpecHash_of_body carried,same]

theorem SteadyHeld.answered (inv : SteadyInv env base s) (held : SteadyHeld env base s h)
    (permitted : Next env h c) (other : ∀ armID apiVersion body, c ≠ .armPut armID apiVersion body)
    (f : Reply) : SteadyHeld env base (serve s c f).2 (note h c (serve s c f).1) := by
  have same : (note h c (serve s c f).1).put = h.put := by
    cases c with
    | armPut armID apiVersion body => exact absurd rfl (other armID apiVersion body)
    | _ => rfl
  refine ⟨held.reads.answered permitted f,by rw [same]; exact held.refused,?_⟩
  intro first e read
  exact (read_cases read).elim (inv e) (held.steady (same ▸ first) e)

theorem steady_keeps (env : Env Spec Body) (base : Option (Object Spec)) :
    (unfixedResource env).Keeps (Next env) (Returns env) (SteadyInv env base) (SteadyHeld env base) :=
  .single {
    begins _ inv _ := ⟨inv,reads_fresh _,by rintro _ _ ⟨⟩,by rintro _ _ ⟨⟩⟩
    answers _ _ _ f inv held permitted answerable :=
      ⟨inv.answered held permitted f,held.answered inv permitted answerable.2 f⟩
    finishes _ _ _ inv _ _ := inv
    disturbs _ d inv possible := by
      refine ⟨?_,fun h held => ⟨held.reads.disturbed d,held.refused,held.steady⟩⟩
      intro e found
      obtain ⟨stored,before,change⟩ := stored_untouched possible.2 found
      obtain ⟨b,known,steady⟩ := inv stored before
      rcases change with same | deleted
      · exact ⟨b,known,same ▸ steady⟩
      · exact ⟨b,known,deleted ▸ ⟨steady.spec,steady.policy,steady.drifted⟩⟩
  }

theorem Steady.writes_iff (steady : Steady env b obj)
    (allows : env.allowsModify (reconcilePolicyFor b) = true) (resp : ARMResponse) :
    Writes env obj resp ↔ Writes env b resp := by
  simp only [Writes,steady.drifted allows]

/-- After a PUT that was refused for good, and as long as nobody edits the object: the next PUT is
issued exactly when a pass over the object, not deleting and with its finalizers, has read an answer
that calls for one by the hash stored at the refusal, and the policy and the spec stored then
allow it. -/
theorem terminal_put_repeated_iff
    (run : (controller env).system.Run (idle start) before s)
    (running : s.thread () = some (h,.call (.armPut armID apiVersion body) next))
    (terminal : isTerminalARMError statusCode = true)
    (later : (unfixedResource env).system.Run
      ((controller env).system.apply s (.answer () (.http statusCode answer retryAfter))) after t)
    (h' : Notes Spec) (body' : Bytes) :
    (∃ armID' apiVersion' next', t.thread () = some (h',.call (.armPut armID' apiVersion' body') next')) ↔
    ∃ p stored e resp, t.thread () = some (h',p) ∧ s.shared.store.get () = some stored ∧
      env.allowsModify (reconcilePolicyFor stored.value) = true ∧
      bodyOf env stored.value.spec = some body' ∧ h'.obj = some e ∧ Normal env e.value ∧
      h'.put = none ∧ h'.get = some (.ok resp) ∧ Writes env stored.value resp := by
  have good := (controller_keeps_reads env).run (fun _ => reconcile_traced env) (good_idle trivial) run
  obtain ⟨reads,permitted⟩ := good.pending running
  have inv : SteadyInv env (s.shared.store.get ())
      (serve s.shared (.armPut armID apiVersion body) (.http statusCode answer retryAfter)).2 := by
    intro e found
    refine ⟨e,?_,rfl,rfl,fun _ => rfl⟩
    simp only [serve] at found
    split at found <;> exact found
  have held : SteadyHeld env (s.shared.store.get ())
      (serve s.shared (.armPut armID apiVersion body) (.http statusCode answer retryAfter)).2
      (note h (.armPut armID apiVersion body) (.ok (armClientDo statusCode answer retryAfter))) := by
    refine ⟨reads.answered permitted _,?_,by rintro ⟨⟩⟩
    intro sent resp put
    obtain ⟨_,same⟩ := Prod.mk.inj (Option.some.inj put)
    obtain rfl := Except.ok.inj same
    exact terminal
  have keeps := steady_keeps env (s.shared.store.get ())
  have goodLater := keeps.run (fun _ => reconcile_traced env)
    (keeps.resume running inv held (good.2 () h _ running).2) later
  constructor
  · rintro ⟨armID',apiVersion',next',running'⟩
    obtain ⟨held',e,resp,read,normal,first,allows,get,writes,carried⟩ := goodLater.pending running'
    obtain ⟨stored,known,steady⟩ := held'.steady first e read
    rw [steady.policy] at allows
    exact ⟨_,stored,e,resp,running',known,allows,steady.spec ▸ carried,read,normal,first,get,
      (steady.writes_iff allows resp).mp writes⟩
  · rintro ⟨p,stored,e,resp,running',known,allows,carried,read,normal,first,get,writes⟩
    obtain ⟨held',traced⟩ := goodLater.2 () h' p running'
    obtain ⟨b,known',steady⟩ := held'.steady first e read
    obtain rfl := Option.some.inj (known.symm.trans known')
    obtain ⟨armID',apiVersion',next',rfl⟩ := put_of_traced traced read normal get
      ((steady.writes_iff allows resp).mpr writes) first (steady.policy ▸ allows) (steady.spec ▸ carried)
    exact ⟨armID',apiVersion',next',running'⟩

end Spinning

/-- After the refusal the object is deleted, and a pass that does not find it in Azure puts nothing. -/
theorem terminal_put_repeated_iff_deleted :
    ∃ t,
      (unfixedResource (sampleEnv 0)).system.Run
        ((controller (sampleEnv 0)).system.apply puttingState (.answer () (.http 400 [] "")))
        ([.answer () .served,.disturb .delete] ++ upToGet ++ [.answer () (.http 404 [] "")]) t ∧
      ∀ h armID apiVersion body next,
        t.thread () ≠ some (h,.call (.armPut armID apiVersion body) next) := by
  have run : (controller (sampleEnv 0)).system.Run (idle (sampleCluster appliedObject))
      (upToGet ++ [Action.answer () (Reply.http 404 [] "")]) puttingState :=
    .of ⟨⟨rfl,rfl⟩,⟨_,_,_,rfl,trivial⟩,⟨_,_,_,rfl,trivial⟩,⟨_,_,_,rfl,trivial⟩,⟨_,_,_,rfl,trivial⟩,
      trivial⟩
  have later : (unfixedResource (sampleEnv 0)).system.Run
      ((controller (sampleEnv 0)).system.apply puttingState (.answer () (.http 400 [] "")))
      ([Action.answer () Reply.served,.disturb .delete] ++ upToGet ++
        [Action.answer () (Reply.http 404 [] "")]) _ :=
    .of ⟨⟨_,_,_,rfl,trivial,by simp⟩,⟨trivial,trivial⟩,⟨rfl,rfl⟩,⟨_,_,_,rfl,trivial,by simp⟩,
      ⟨_,_,_,rfl,trivial,by simp⟩,⟨_,_,_,rfl,trivial,by simp⟩,⟨_,_,_,rfl,trivial,by simp⟩,trivial⟩
  refine ⟨_,later,fun h armID apiVersion body next running => ?_⟩
  obtain ⟨p,stored,e,resp,running',_,_,_,read,normal,_⟩ :=
    (terminal_put_repeated_iff run rfl rfl later h body).mp ⟨armID,apiVersion,next,running⟩
  cases running'
  cases read
  cases normal.live

/-- A PUT is refused with 400. The error puts the resource back in the queue, the next pass does
not find it in Azure, and puts the same body again, though nobody has touched the object. -/
theorem terminal_put_repeated :
    ∃ s t h armID apiVersion next stored stored',
      (controller (sampleEnv 0)).system.Run (idle (sampleCluster appliedObject))
        (upToGet ++ [.answer () (.http 404 [] ""),.answer () (.http 400 [] "")]) s ∧
      (controller (sampleEnv 0)).system.Run s
        ([.answer () .served] ++ upToGet ++ [.answer () (.http 404 [] "")]) t ∧
      isTerminalARMError 400 = true ∧
      t.thread () = some (h,.call (.armPut armID apiVersion [0]) next) ∧
      s.shared.store.get () = some stored ∧ t.shared.store.get () = some stored' ∧
      stored'.value.spec = stored.value.spec ∧ stored'.value.annotations = stored.value.annotations :=
  ⟨_,_,_,_,_,_,_,_,.of ⟨⟨rfl,rfl⟩,⟨_,_,_,rfl,trivial⟩,⟨_,_,_,rfl,trivial⟩,⟨_,_,_,rfl,trivial⟩,
    ⟨_,_,_,rfl,trivial⟩,⟨_,_,_,rfl,trivial⟩,trivial⟩,
    .of ⟨⟨_,_,_,rfl,trivial⟩,⟨rfl,rfl⟩,⟨_,_,_,rfl,trivial⟩,⟨_,_,_,rfl,trivial⟩,⟨_,_,_,rfl,trivial⟩,
      ⟨_,_,_,rfl,trivial⟩,trivial⟩,
    rfl,rfl,rfl,rfl,rfl,rfl⟩

end Kommodity.AzureARM
