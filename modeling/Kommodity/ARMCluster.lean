import Kommodity.ARMTrace

/-! The ARM reconciler at work on one custom resource: the stored object, the work queue of the
controller, the clock, and the other writers of the object. The answers of the Kubernetes API, of
ARM and of the lookups are chosen from outside, one call at a time. -/
namespace Kommodity.AzureARM

open Go Versioned Interaction Transition
open Secrets (APIError)

/-- A pass that has returned, with the object stored at that moment. -/
structure Pass (Spec : Type) where
  began : Nat
  ended : Nat
  notes : Notes Spec
  stored : Option (Object Spec)

/-- `accepted` has the bodies of the PUTs that were answered 2xx. -/
structure Cluster (Spec : Type) where
  store : Store Unit (Resource Spec)
  now : Nat
  queued : Bool
  began : Nat
  accepted : List Bytes
  passes : List (Pass Spec)

/-- How a call fares. A lost write takes effect, but its caller gets an error. -/
inductive Reply where
  | served
  | refused (err : APIError)
  | lost
  | credentials (answer : Except Error Credentials)
  | armID (answer : Except Error String)
  | http (statusCode : Nat) (body : Bytes) (retryAfter : String)
  | broken (err : Error)

inductive Disturbance (Spec : Type) where
  | tick (elapsed : Nat)
  | resync
  | create (obj : Resource Spec)
  | editSpec (spec : Spec)
  | editAnnotations (annotations : Map String String)
  | editFinalizers (finalizers : List String)
  | delete

def successful (statusCode : Nat) : Bool := 200 ≤ statusCode && statusCode < 300

section Cluster

variable {Spec Body : Type}

/-- A deleting object goes with its last finalizer. -/
def keep (store : Store Unit (Resource Spec)) (obj : Resource Spec) : Store Unit (Resource Spec) :=
  if obj.deleting = true ∧ obj.finalizers = [] then store.remove () else store.put () obj

/-- Every write is an event of the watch, which queues the object. -/
def Cluster.write (s : Cluster Spec) (obj : Resource Spec) : Cluster Spec :=
  { s with store := keep s.store obj, queued := true }

/-- A write against the version that was read. -/
def Cluster.replace (s : Cluster Spec) (version : Nat) (change : Resource Spec → Resource Spec) :
    Except APIError (Object Spec × Cluster Spec) :=
  match s.store.get () with
  | none => .error (.store .notFound)
  | some stored =>
    if stored.version = version then
      .ok (⟨change stored.value,s.store.revision + 1⟩,s.write (change stored.value))
    else .error (.store .conflict)

/-- What an update of the object stores: the status, the generation and the deletion are the
server's. The reconciler leaves the spec as it is. -/
def replaceObject (obj stored : Resource Spec) : Resource Spec :=
  { obj with generation := stored.generation, deleting := stored.deleting, ready := stored.ready }

def replaceStatus (obj stored : Resource Spec) : Resource Spec := { stored with ready := obj.ready }

def answerWrite (s : Cluster Spec) (done : Except APIError (Object Spec × Cluster Spec)) :
    Reply → Except APIError (Object Spec) × Cluster Spec
  | .refused err => (.error err,s)
  | .lost =>
    match done with
    | .ok (_,t) => (.error .unavailable,t)
    | .error _ => (.error .unavailable,s)
  | _ =>
    match done with
    | .ok (obj,t) => (.ok obj,t)
    | .error err => (.error err,s)

def armAnswer : Reply → Except Error ARMResponse
  | .http statusCode body retryAfter => .ok (armClientDo statusCode body retryAfter)
  | .broken err => .error err
  | _ => .error (.of (.other "performing ARM request"))

def accepts : Reply → Bool
  | .http statusCode _ _ => successful statusCode
  | _ => false

def serve (s : Cluster Spec) : (c : Call Spec) → Reply → Answer Spec c × Cluster Spec
  | .get,.refused err => (.error err,s)
  | .get,_ =>
    match s.store.get () with
    | none => (.error (.store .notFound),s)
    | some e => (.ok e,s)
  | .resolveCredentials _,.credentials answer => (answer,s)
  | .resolveCredentials _,_ => (.error (.of .credentialSecretNotFound),s)
  | .armIDFor _ _,.armID answer => (answer,s)
  | .armIDFor _ _,_ => (.error (.of .armIDUnresolvable),s)
  | .armGet _ _,f => (armAnswer f,s)
  | .armPut _ _ body,f =>
    (armAnswer f,if accepts f then { s with accepted := body :: s.accepted } else s)
  | .armDelete _ _,f => (armAnswer f,s)
  | .update _ obj,f => answerWrite s (s.replace obj.version (replaceObject obj.value)) f
  | .updateStatus _ obj,f => answerWrite s (s.replace obj.version (replaceStatus obj.value)) f
  | .now,_ => (s.now,s)

/-- An edit of the stored object, if there is one. -/
def Cluster.edit (s : Cluster Spec) (change : Resource Spec → Resource Spec) : Cluster Spec :=
  match s.store.get () with
  | none => s
  | some stored => s.write (change stored.value)

def disturb (s : Cluster Spec) : Disturbance Spec → Cluster Spec
  | .tick elapsed => { s with now := s.now + elapsed }
  | .resync => { s with queued := true }
  | .create obj =>
    match s.store.get () with
    | none => s.write { obj with generation := 1, deleting := false, ready := none }
    | some _ => s
  | .editSpec spec => s.edit fun obj => { obj with spec, generation := obj.generation + 1 }
  | .editAnnotations annotations => s.edit fun obj => { obj with annotations }
  | .editFinalizers finalizers => s.edit fun obj => { obj with finalizers }
  | .delete => s.edit fun obj => { obj with deleting := true }

/-- The controller queues a request again after an error, a requeue or a positive delay. No error
of the reconciler is a `reconcile.TerminalError`. -/
def Outcome.requeues (outcome : Outcome) : Bool :=
  outcome.error.isSome || outcome.requeue || 0 < outcome.requeueAfter

/-- The controller runs one pass at a time for the object. The clock stays within the years that
RFC 3339 can write. -/
def controller (env : Env Spec Body) : Threads Unit (Cluster Spec) (Call Spec) (Answer Spec) Reply
    (Disturbance Spec) (Notes Spec) Outcome where
  program _ := reconcile env
  fresh := .fresh
  note := note
  ready s := s.queued = true
  begin s := { s with queued := false, began := s.now }
  answerable _ _ _ _ := True
  serve := serve
  finish s h outcome :=
    { s with
      queued := s.queued || outcome.requeues
      passes := ⟨s.began,s.now,h,s.store.get ()⟩ :: s.passes }
  possible s
    | .tick elapsed => (s.now + elapsed) / 1000000000 < Time.endOfYears
    | _ => True
  disturb := disturb

theorem get_keep (store : Store Unit (Resource Spec)) (obj : Resource Spec) :
    (keep store obj).get () =
      if obj.deleting = true ∧ obj.finalizers = [] then none else some ⟨obj,store.revision + 1⟩ := by
  unfold keep
  split <;> simp

theorem value_of_get_keep {store : Store Unit (Resource Spec)} (found : (keep store obj).get () = some e) :
    e.value = obj := by
  rw [get_keep] at found
  split at found
  · cases found
  · cases found; rfl

theorem current_keep {store : Store Unit (Resource Spec)} (current : store.Current () e)
    (obj : Resource Spec) : (keep store obj).Current () e := by
  unfold keep
  split
  · exact current_remove current ()
  · exact current_put current () obj

theorem replace_ok {s : Cluster Spec} (done : s.replace version change = .ok (obj,t)) :
    ∃ stored, s.store.get () = some stored ∧ stored.version = version ∧
      obj.value = change stored.value ∧ t = s.write (change stored.value) := by
  unfold Cluster.replace at done
  split at done
  · cases done
  · next stored found =>
    split at done
    · next same =>
      cases done
      exact ⟨stored,found,same,rfl,rfl⟩
    · cases done

theorem answerWrite_cases (s : Cluster Spec) (done : Except APIError (Object Spec × Cluster Spec))
    (f : Reply) :
    (answerWrite s done f).2 = s ∧ (∀ obj, (answerWrite s done f).1 ≠ .ok obj) ∨
    ∃ obj t, done = .ok (obj,t) ∧ (answerWrite s done f).2 = t ∧
      ∀ obj', (answerWrite s done f).1 = .ok obj' → obj' = obj := by
  rcases done with err | ⟨obj,t⟩
  · left
    cases f <;> simp [answerWrite]
  · cases f with
    | refused err => left; simp [answerWrite]
    | lost => right; exact ⟨obj,t,rfl,rfl,by simp [answerWrite]⟩
    | _ => right; exact ⟨obj,t,rfl,rfl,fun _ same => (Except.ok.inj same).symm⟩

theorem replaceObject_annotate (obj : Resource Spec) (key value : String) :
    replaceObject (obj.annotate key value) obj = obj.annotate key value := rfl

/-- What a call can do: nothing, have a PUT accepted, or write the object or its status over the
version it presents. -/
theorem serve_cases (s : Cluster Spec) (c : Call Spec) (f : Reply) :
    (serve s c f).2 = s ∨
    (∃ armID apiVersion body, c = .armPut armID apiVersion body ∧ accepts f = true ∧
      (serve s c f).2 = { s with accepted := body :: s.accepted }) ∨
    (∃ site obj stored, c = .update site obj ∧ s.store.get () = some stored ∧
      stored.version = obj.version ∧
      (serve s c f).2 = s.write (replaceObject obj.value stored.value)) ∨
    ∃ site obj stored, c = .updateStatus site obj ∧ s.store.get () = some stored ∧
      stored.version = obj.version ∧
      (serve s c f).2 = s.write (replaceStatus obj.value stored.value) := by
  cases c with
  | get =>
    left
    cases f with
    | refused err => rfl
    | _ => simp only [serve]; split <;> rfl
  | resolveCredentials obj => left; cases f <;> rfl
  | armIDFor obj subscriptionID => left; cases f <;> rfl
  | armPut armID apiVersion body =>
    cases accepted : accepts f with
    | true => exact Or.inr (Or.inl ⟨armID,apiVersion,body,rfl,rfl,by simp [serve,accepted]⟩)
    | false => exact Or.inl (by simp [serve,accepted])
  | update site obj =>
    rcases answerWrite_cases s (s.replace obj.version (replaceObject obj.value)) f with
      ⟨same,_⟩ | ⟨obj',t,done,written,_⟩
    · exact Or.inl same
    · obtain ⟨stored,found,version,_,rfl⟩ := replace_ok done
      exact Or.inr (Or.inr (Or.inl ⟨site,obj,stored,rfl,found,version,written⟩))
  | updateStatus site obj =>
    rcases answerWrite_cases s (s.replace obj.version (replaceStatus obj.value)) f with
      ⟨same,_⟩ | ⟨obj',t,done,written,_⟩
    · exact Or.inl same
    · obtain ⟨stored,found,version,_,rfl⟩ := replace_ok done
      exact Or.inr (Or.inr (Or.inr ⟨site,obj,stored,rfl,found,version,written⟩))
  | _ => exact Or.inl rfl

/-- An update presents the version that was read, and changes nothing the server would not take
from it. -/
theorem nextUpdate_object {env : Env Spec Body} (permitted : NextUpdate env h e obj site) :
    obj.version = e.version ∧ replaceObject obj.value e.value = obj.value := by
  cases site with
  | finalizers =>
    obtain ⟨_,_,rfl⟩ := permitted
    exact ⟨rfl,rfl⟩
  | specHash =>
    obtain ⟨_,_,_,_,_,_,_,rfl⟩ := permitted
    exact ⟨rfl,replaceObject_annotate _ _ _⟩
  | succeeded =>
    obtain ⟨_,_,armID,_,_,_,_,rfl⟩ := permitted
    refine ⟨rfl,?_⟩
    dsimp only [stampSucceeded]
    split <;> rfl
  | deletionStarted =>
    obtain ⟨_,_,_,_,_,_,rfl⟩ := permitted
    exact ⟨rfl,replaceObject_annotate _ _ _⟩
  | release =>
    obtain ⟨_,_,_,rfl⟩ := permitted
    exact ⟨rfl,rfl⟩

/-- The object a pass has read is the stored one as long as the versions agree. -/
def Reads (s : Cluster Spec) (h : Notes Spec) : Prop := ∀ e, h.obj = some e → s.store.Current () e

/-- What a call of the reconciler can do to the stored object. -/
inductive Effect (env : Env Spec Body) (h : Notes Spec) (c : Call Spec)
    (before : Store Unit (Resource Spec)) : Store Unit (Resource Spec) → Prop where
  | kept : Effect env h c before before
  | updated : h.obj = some e → c = .update site obj → NextUpdate env h e obj site →
      before.get () = some stored → stored.value = e.value → Effect env h c before (keep before obj.value)
  | statusUpdated (ready : Option Condition) : before.get () = some stored →
      Effect env h c before (keep before { stored.value with ready })

theorem serve_effect {env : Env Spec Body} {s : Cluster Spec} (reads : Reads s h)
    (permitted : Next env h c) (f : Reply) : Effect env h c s.store (serve s c f).2.store := by
  rcases serve_cases s c f with same | ⟨_,_,_,_,_,put⟩ | ⟨site,obj,stored,rfl,found,version,written⟩ |
    ⟨site,obj,stored,rfl,found,_,written⟩
  · rw [same]
    exact .kept
  · rw [put]
    exact .kept
  · obtain ⟨e,read,permitted⟩ := permitted
    obtain ⟨presented,object⟩ := nextUpdate_object permitted
    have value := (reads e read).2 stored found (version.trans presented)
    rw [written,value,object]
    exact .updated read rfl permitted found value
  · rw [written]
    exact .statusUpdated obj.value.ready found

theorem Effect.current (effect : Effect env h c before after) (current : before.Current () e) :
    after.Current () e := by
  cases effect with
  | kept => exact current
  | updated _ _ _ _ _ => exact current_keep current _
  | statusUpdated ready _ => exact current_keep current _

theorem reads_fresh (s : Cluster Spec) : Reads s .fresh := fun _ read => by cases read

theorem read_stored {s : Cluster Spec} (read : (note h .get (serve s .get f).1).obj = some e) :
    s.store.get () = some e := by
  cases f with
  | refused err => cases read
  | _ =>
    cases found : s.store.get () with
    | none => simp [note,serve,found,Except.toOption] at read
    | some stored =>
      simp only [note,serve,found,Except.toOption,Option.some.injEq] at read
      rw [read]

theorem note_obj (h : Notes Spec) {c : Call Spec} (other : c ≠ .get) (a : Answer Spec c) :
    (note h c a).obj = h.obj := by
  cases c with
  | get => exact absurd rfl other
  | _ => rfl

theorem read_cases {s : Cluster Spec} (read : (note h c (serve s c f).1).obj = some e) :
    s.store.get () = some e ∨ h.obj = some e := by
  by_cases reading : c = .get
  · subst reading
    exact .inl (read_stored read)
  · exact .inr (note_obj h reading _ ▸ read)

theorem Reads.answered {env : Env Spec Body} {s : Cluster Spec} (reads : Reads s h)
    (permitted : Next env h c) (f : Reply) : Reads (serve s c f).2 (note h c (serve s c f).1) := by
  have effect := serve_effect reads permitted f
  intro e read
  rcases read_cases read with found | read
  · exact effect.current (current_of_get found)
  · exact effect.current (reads e read)

theorem Cluster.edit_store (s : Cluster Spec) (change : Resource Spec → Resource Spec) :
    (s.edit change).store = s.store ∨
    ∃ stored, s.store.get () = some stored ∧ (s.edit change).store = keep s.store (change stored.value) := by
  unfold Cluster.edit
  split
  · exact Or.inl rfl
  · next stored found => exact Or.inr ⟨stored,found,rfl⟩

theorem disturb_store (s : Cluster Spec) (d : Disturbance Spec) :
    (disturb s d).store = s.store ∨ ∃ obj, (disturb s d).store = keep s.store obj := by
  have edited : ∀ change, (s.edit change).store = s.store ∨
      ∃ obj, (s.edit change).store = keep s.store obj := by
    intro change
    rcases s.edit_store change with same | ⟨stored,_,written⟩
    · exact Or.inl same
    · exact Or.inr ⟨_,written⟩
  cases d with
  | tick elapsed => exact Or.inl rfl
  | resync => exact Or.inl rfl
  | create obj =>
    simp only [disturb]
    split
    · exact Or.inr ⟨{ obj with generation := 1, deleting := false, ready := none },rfl⟩
    · exact Or.inl rfl
  | editSpec spec => exact edited _
  | editAnnotations annotations => exact edited _
  | editFinalizers finalizers => exact edited _
  | delete => exact edited _

theorem disturb_frame (s : Cluster Spec) (d : Disturbance Spec) :
    s.now ≤ (disturb s d).now ∧ (disturb s d).began = s.began ∧ (disturb s d).passes = s.passes ∧
      (disturb s d).accepted = s.accepted := by
  have edited : ∀ change, s.now ≤ (s.edit change).now ∧ (s.edit change).began = s.began ∧
      (s.edit change).passes = s.passes ∧ (s.edit change).accepted = s.accepted := by
    intro change
    unfold Cluster.edit
    split <;> exact ⟨Nat.le_refl _,rfl,rfl,rfl⟩
  cases d with
  | tick elapsed => exact ⟨Nat.le_add_right _ _,rfl,rfl,rfl⟩
  | resync => exact ⟨Nat.le_refl _,rfl,rfl,rfl⟩
  | create obj => simp only [disturb]; split <;> exact ⟨Nat.le_refl _,rfl,rfl,rfl⟩
  | editSpec spec => exact edited _
  | editAnnotations annotations => exact edited _
  | editFinalizers finalizers => exact edited _
  | delete => exact edited _

theorem Reads.disturbed (reads : Reads s h) (d : Disturbance Spec) : Reads (disturb s d) h := by
  intro e read
  rcases disturb_store s d with same | ⟨obj,written⟩
  · rw [same]
    exact reads e read
  · rw [written]
    exact current_keep (reads e read) obj

theorem serve_accepted (s : Cluster Spec) (c : Call Spec) (f : Reply) :
    (serve s c f).2.accepted = s.accepted ∨
    ∃ armID apiVersion body, c = .armPut armID apiVersion body ∧ accepts f = true ∧
      (serve s c f).2.accepted = body :: s.accepted := by
  rcases serve_cases s c f with same | ⟨armID,apiVersion,body,call,accepted,put⟩ |
    ⟨_,_,_,_,_,_,written⟩ | ⟨_,_,_,_,_,_,written⟩
  · exact Or.inl (by rw [same])
  · exact Or.inr ⟨armID,apiVersion,body,call,accepted,by rw [put]⟩
  · exact Or.inl (by rw [written]; rfl)
  · exact Or.inl (by rw [written]; rfl)

theorem serve_frame (s : Cluster Spec) (c : Call Spec) (f : Reply) :
    (serve s c f).2.now = s.now ∧ (serve s c f).2.began = s.began ∧
      (serve s c f).2.passes = s.passes := by
  rcases serve_cases s c f with same | ⟨_,_,_,_,_,put⟩ | ⟨_,_,_,_,_,_,written⟩ | ⟨_,_,_,_,_,_,written⟩
  · rw [same]; exact ⟨rfl,rfl,rfl⟩
  · rw [put]; exact ⟨rfl,rfl,rfl⟩
  · rw [written]; exact ⟨rfl,rfl,rfl⟩
  · rw [written]; exact ⟨rfl,rfl,rfl⟩

theorem update_stored {s : Cluster Spec} {obj o e : Object Spec}
    (answered : (serve s (.update site obj) f).1 = .ok o)
    (found : (serve s (.update site obj) f).2.store.get () = some e) :
    ∃ stored : Resource Spec, e.value = replaceObject obj.value stored := by
  rcases answerWrite_cases s (s.replace obj.version (replaceObject obj.value)) f with
    ⟨_,failed⟩ | ⟨obj',t,done,written,_⟩
  · exact absurd answered (failed o)
  · obtain ⟨stored,_,_,_,rfl⟩ := replace_ok done
    simp only [serve,written,Cluster.write] at found
    exact ⟨stored.value,value_of_get_keep found⟩

theorem update_answer {s : Cluster Spec} {obj o : Object Spec}
    (answered : (serve s (.update site obj) f).1 = .ok o) :
    ∃ stored : Resource Spec, o.value = replaceObject obj.value stored := by
  rcases answerWrite_cases s (s.replace obj.version (replaceObject obj.value)) f with
    ⟨_,failed⟩ | ⟨obj',t,done,_,answer⟩
  · exact absurd answered (failed o)
  · obtain rfl := answer o answered
    obtain ⟨stored,_,_,value,_⟩ := replace_ok done
    exact ⟨stored.value,value⟩

theorem index_annotate (obj : Resource Spec) (key value k : String) :
    (obj.annotate key value).annotations.index k =
      if k = key then value else obj.annotations.index k := by
  unfold Resource.annotate Map.index
  by_cases same : k = key
  · subst same
    by_cases empty : value = "" <;> simp [empty]
  · by_cases empty : value = ""
    · simp [empty,same,AList.lookup_erase_ne same]
    · simp [empty,same,AList.lookup_insert_ne same]

@[simp] theorem spec_annotate (obj : Resource Spec) (key value : String) :
    (obj.annotate key value).spec = obj.spec := rfl

@[simp] theorem deleting_annotate (obj : Resource Spec) (key value : String) :
    (obj.annotate key value).deleting = obj.deleting := rfl

@[simp] theorem finalizers_annotate (obj : Resource Spec) (key value : String) :
    (obj.annotate key value).finalizers = obj.finalizers := rfl

theorem policy_annotate (obj : Resource Spec) (value : String)
    (other : key ≠ reconcilePolicyAnnotation) :
    reconcilePolicyFor (obj.annotate key value) = reconcilePolicyFor obj := by
  simp [reconcilePolicyFor,index_annotate,other.symm]

theorem policy_stampSucceeded (env : Env Spec Body) (obj : Resource Spec) (armID : String) :
    reconcilePolicyFor (stampSucceeded env obj armID) = reconcilePolicyFor obj := by
  unfold stampSucceeded Resource.setResourceID
  split
  · exact policy_annotate obj armID (by decide)
  · rw [policy_annotate _ _ (by decide),policy_annotate _ _ (by decide)]

/-- The stamp of a Ready resource carries the hash of its spec, if it has one. -/
theorem specHash_stampSucceeded (env : Env Spec Body) (obj : Resource Spec) (armID : String) :
    (stampSucceeded env obj armID).specHash = obj.specHash ∨
    ∃ body, bodyOf env obj.spec = some body ∧
      (stampSucceeded env obj armID).specHash = hashOf env body := by
  cases computed : computeSpecHash env obj.spec with
  | error err =>
    left
    have other : armSpecHashAnnotation ≠ resourceIDAnnotation := by decide
    simp [stampSucceeded,computed,Resource.specHash,Resource.setResourceID,index_annotate,other]
  | ok found =>
    right
    obtain ⟨body,carried,rfl⟩ := body_of_computeSpecHash computed
    exact ⟨body,carried,by simp [stampSucceeded,computed,Resource.specHash,index_annotate]⟩

theorem Effect.frame {env : Env Spec Body} (effect : Effect env h c before after)
    (found : after.get () = some e') :
    ∃ stored, before.get () = some stored ∧ e'.value.spec = stored.value.spec ∧
      e'.value.deleting = stored.value.deleting ∧
      reconcilePolicyFor e'.value = reconcilePolicyFor stored.value := by
  cases effect with
  | kept => exact ⟨e',found,rfl,rfl,rfl⟩
  | statusUpdated ready found' =>
    rw [value_of_get_keep found]
    exact ⟨_,found',rfl,rfl,rfl⟩
  | @updated e site obj stored read call permitted found' same =>
    rw [value_of_get_keep found]
    refine ⟨stored,found',?_⟩
    rw [same]
    cases site with
    | finalizers => obtain ⟨_,_,rfl⟩ := permitted; exact ⟨rfl,rfl,rfl⟩
    | specHash =>
      obtain ⟨_,_,_,_,_,_,_,rfl⟩ := permitted
      exact ⟨spec_annotate _ _ _,deleting_annotate _ _ _,policy_annotate _ _ (by decide)⟩
    | succeeded =>
      obtain ⟨_,_,armID,_,_,_,_,rfl⟩ := permitted
      refine ⟨?_,?_,policy_stampSucceeded env e.value armID⟩
      · dsimp only [stampSucceeded]; split <;> rfl
      · dsimp only [stampSucceeded]; split <;> rfl
    | deletionStarted =>
      obtain ⟨_,_,_,_,_,_,rfl⟩ := permitted
      exact ⟨spec_annotate _ _ _,deleting_annotate _ _ _,policy_annotate _ _ (by decide)⟩
    | release => obtain ⟨_,_,_,rfl⟩ := permitted; exact ⟨rfl,rfl,rfl⟩

/-- Where a stored hash comes from: a PUT that was neither throttled nor refused for good, or an
answer to a GET that was adopted. -/
inductive Hashed (env : Env Spec Body) (h : Notes Spec) (e : Object Spec) (specHash : String) : Prop
  | put : h.put = some (body,.ok resp) → bodyOf env e.value.spec = some body →
      resp.statusCode ≠ 429 → isTerminalARMError resp.statusCode = false →
      specHash = hashOf env body → Hashed env h e specHash
  | adopted : h.put = none → h.get = some (.ok resp) → Normal env e.value → Adopts env e.value resp →
      bodyOf env e.value.spec = some body → specHash = hashOf env body → Hashed env h e specHash

theorem Effect.specHash {env : Env Spec Body} (effect : Effect env h c before after)
    (found : after.get () = some e') :
    (∃ stored, before.get () = some stored ∧ e'.value.specHash = stored.value.specHash) ∨
    ∃ e, h.obj = some e ∧ Hashed env h e e'.value.specHash := by
  cases effect with
  | kept => exact Or.inl ⟨e',found,rfl⟩
  | statusUpdated ready found' =>
    rw [value_of_get_keep found]
    exact Or.inl ⟨_,found',rfl⟩
  | @updated e site obj stored read call permitted found' same =>
    rw [value_of_get_keep found]
    cases site with
    | finalizers =>
      obtain ⟨_,_,rfl⟩ := permitted
      exact Or.inl ⟨stored,found',by rw [same]; rfl⟩
    | specHash =>
      obtain ⟨_,body,resp,put,carried,limited,terminal,rfl⟩ := permitted
      refine Or.inr ⟨e,read,.put put carried limited terminal ?_⟩
      simp [Resource.specHash,index_annotate]
    | succeeded =>
      obtain ⟨normal,first,armID,resp,_,get,adopts,rfl⟩ := permitted
      rcases specHash_stampSucceeded env e.value armID with unchanged | ⟨body,carried,stamped⟩
      · exact Or.inl ⟨stored,found',by rw [same]; exact unchanged⟩
      · exact Or.inr ⟨e,read,.adopted first get normal adopts carried stamped⟩
    | deletionStarted =>
      obtain ⟨_,_,_,_,time,_,rfl⟩ := permitted
      have other : armSpecHashAnnotation ≠ deletionStartedAnnotation := by decide
      refine Or.inl ⟨stored,found',?_⟩
      simp [same,Resource.specHash,index_annotate,other]
    | release =>
      obtain ⟨_,_,_,rfl⟩ := permitted
      exact Or.inl ⟨stored,found',by rw [same]; rfl⟩

/-- Distinct bodies of the specs in use have distinct hashes. -/
def Env.NoCollisions (env : Env Spec Body) (used : Spec → Prop) : Prop :=
  ∀ spec spec' body body', used spec → used spec' → bodyOf env spec = some body →
    bodyOf env spec' = some body' → hashOf env body = hashOf env body' → body = body'

theorem hashOf_ne_empty (env : Env Spec Body) (body : Bytes) : hashOf env body ≠ "" := by
  intro empty
  have length := hexEncodeToString_length ((env.sha256 body).take 8)
  rw [show hexEncodeToString ((env.sha256 body).take 8) = "" from empty] at length
  simp [env.sha256_length] at length

/-- Nobody else writes the object, except to delete it. -/
def Untouched : Disturbance Spec → Prop
  | .tick _ => True
  | .resync => True
  | .delete => True
  | _ => False

theorem stored_untouched {s : Cluster Spec} (untouched : Untouched d)
    (found : (disturb s d).store.get () = some e) :
    ∃ stored, s.store.get () = some stored ∧
      (e.value = stored.value ∨ e.value = { stored.value with deleting := true }) := by
  cases d with
  | tick elapsed => exact ⟨e,found,.inl rfl⟩
  | resync => exact ⟨e,found,.inl rfl⟩
  | delete =>
    rcases s.edit_store fun obj => { obj with deleting := true } with same | ⟨stored,before,written⟩
    · exact ⟨e,same ▸ found,.inl rfl⟩
    · change (s.edit _).store.get () = some e at found
      rw [written] at found
      exact ⟨stored,before,.inr (value_of_get_keep found)⟩
  | _ => exact untouched.elim

theorem controller_keeps_reads (env : Env Spec Body) :
    (controller env).Keeps (Next env) (Returns env) (fun _ => True) Reads :=
  .single {
    begins _ _ _ := ⟨trivial,reads_fresh _⟩
    answers _ _ _ f _ reads permitted _ := ⟨trivial,reads.answered permitted f⟩
    finishes _ _ _ _ _ _ := trivial
    disturbs _ d _ _ := ⟨trivial,fun _ reads => reads.disturbed d⟩
  }

theorem answered_store {env : Env Spec Body} {t : State Unit (Cluster Spec) (Call Spec) (Answer Spec)
    (Notes Spec) Outcome} (running : t.thread () = some (h,.call c next)) (f : Reply) :
    ((controller env).system.apply t (.answer () f)).shared.store = (serve t.shared c f).2.store := by
  simp only [Threads.system,running]
  change ((controller env).settle t () (serve t.shared c f).2 _ (next (serve t.shared c f).1)).shared.store = _
  cases next (serve t.shared c f).1 <;> rfl

end Cluster

/-- A resource kind with two specs, of one byte each. -/
def sampleEnv (grace : Int) : Env Bool Bytes where
  azureName _ := "vnet"
  references _ := []
  toARM spec := some fun _ => .ok [if spec then 1 else 0]
  marshal body := .ok body
  sha256 data := (data ++ List.replicate 32 0).take 32
  sha256_length data := by simp
  provisioningState body := if body = [1] then some "Succeeded" else none
  populateStatus _ _ := .ok ()
  overwrites _ _ := true
  allowsModify policy := policy = reconcilePolicyManage ∨ policy = reconcilePolicyDetachOnDelete
  allowsDelete policy := policy = reconcilePolicyManage
  apiVersion := "2024-01-01"
  deletionGracePeriod := grace

theorem sampleEnv_policies (grace : Int) : (sampleEnv grace).Policies :=
  ⟨fun policy => by simp [sampleEnv],fun policy => by simp [sampleEnv]⟩

theorem sampleEnv_noCollisions (grace : Int) : (sampleEnv grace).NoCollisions fun _ => True := by
  have apart : hashOf (sampleEnv grace) [0] ≠ hashOf (sampleEnv grace) [1] := by
    change hexEncodeToString [0,0,0,0,0,0,0,0] ≠ hexEncodeToString [1,0,0,0,0,0,0,0]
    decide
  intro spec spec' body body' _ _ carried carried' same
  obtain rfl := Option.some.inj carried
  obtain rfl := Option.some.inj carried'
  cases spec <;> cases spec'
  · rfl
  · exact absurd same apart
  · exact absurd same.symm apart
  · rfl

def sampleObject (annotations : Map String String) : Resource Bool where
  spec := false
  generation := 1
  annotations := annotations
  finalizers := [finalizerName]
  deleting := false
  ready := none

def sampleCluster (obj : Resource Bool) : Cluster Bool where
  store := Store.empty.put () obj
  now := 0
  queued := true
  began := 0
  accepted := []
  passes := []

/-- A pass up to its GET. -/
def upToGet : List (Action Unit Reply (Disturbance Bool)) :=
  [.begin (),.answer () .served,.answer () (.credentials (.ok ⟨"subscription"⟩)),
    .answer () (.armID (.ok "/vnet"))]

end Kommodity.AzureARM
