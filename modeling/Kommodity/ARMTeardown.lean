import Kommodity.ARMCluster

/-! How long a deleting resource can hold its finalizer. The grace period starts with a stamp on
the object and is checked behind the GET, so an answer of ARM that ends the pass before, or a stamp
that does not parse or lies in the future, keeps the finalizer for as long as it lasts. -/
namespace Kommodity.AzureARM

open Go Versioned Interaction Transition

variable {Spec Body : Type}

def Resource.stamp (obj : Resource Spec) : String := obj.annotations.index deletionStartedAnnotation

/-- What can become of an object while nobody else writes it: a deletion stays, and with it a
finalizer that is gone; a stamp that is set stays as it is. -/
structure Later (old new : Resource Spec) : Prop where
  policy : reconcilePolicyFor new = reconcilePolicyFor old
  deleting : old.deleting = true → new.deleting = true
  finalizer : old.deleting = true → finalizerName ∈ new.finalizers → finalizerName ∈ old.finalizers
  stamp : old.stamp ≠ "" → new.stamp = old.stamp

theorem Later.refl (obj : Resource Spec) : Later obj obj := ⟨rfl,id,fun _ => id,fun _ => rfl⟩

theorem Later.trans {a b c : Resource Spec} (first : Later a b) (second : Later b c) : Later a c where
  policy := second.policy.trans first.policy
  deleting deleting := second.deleting (first.deleting deleting)
  finalizer deleting member :=
    first.finalizer deleting (second.finalizer (first.deleting deleting) member)
  stamp set := by
    have same := first.stamp set
    exact (second.stamp (same ▸ set)).trans same

theorem stamp_annotate (obj : Resource Spec) (value : String)
    (other : deletionStartedAnnotation ≠ key) : (obj.annotate key value).stamp = obj.stamp := by
  simp [Resource.stamp,index_annotate,other]

theorem stamp_stampSucceeded (env : Env Spec Body) (obj : Resource Spec) (armID : String) :
    (stampSucceeded env obj armID).stamp = obj.stamp := by
  unfold stampSucceeded Resource.setResourceID
  split
  · exact stamp_annotate obj armID (by decide)
  · rw [stamp_annotate _ _ (by decide),stamp_annotate _ _ (by decide)]

theorem finalizers_stampSucceeded (env : Env Spec Body) (obj : Resource Spec) (armID : String) :
    (stampSucceeded env obj armID).finalizers = obj.finalizers := by
  unfold stampSucceeded
  split <;> rfl

theorem later_annotate (obj : Resource Spec) (value : String) (other : key ≠ reconcilePolicyAnnotation)
    (stamp : obj.stamp ≠ "" → (obj.annotate key value).stamp = obj.stamp) : Later obj (obj.annotate key value) :=
  ⟨policy_annotate _ _ other,id,fun _ => id,stamp⟩

/-- A call makes the stored object later, and sets the stamp only to the time it has read. -/
theorem Effect.later {env : Env Spec Body} (effect : Effect env h c before after)
    (found : after.get () = some e') :
    ∃ stored, before.get () = some stored ∧ Later stored.value e'.value ∧
      (e'.value.stamp = stored.value.stamp ∨
        ∃ time, h.clock = some time ∧ e'.value.stamp = Time.formatRFC3339 time) := by
  cases effect with
  | kept => exact ⟨e',found,.refl _,Or.inl rfl⟩
  | statusUpdated ready found' =>
    rw [value_of_get_keep found]
    exact ⟨_,found',⟨rfl,id,fun _ => id,fun _ => rfl⟩,Or.inl rfl⟩
  | @updated e site obj stored read call permitted found' same =>
    rw [value_of_get_keep found]
    refine ⟨stored,found',?_⟩
    rw [same]
    cases site with
    | finalizers =>
      obtain ⟨live,_,rfl⟩ := permitted
      refine ⟨⟨rfl,id,?_,fun _ => rfl⟩,Or.inl rfl⟩
      intro deleting
      rw [live] at deleting
      cases deleting
    | specHash =>
      obtain ⟨_,body,_,_,_,_,_,rfl⟩ := permitted
      have same : (e.value.annotate armSpecHashAnnotation (hashOf env body)).stamp = e.value.stamp :=
        stamp_annotate _ _ (by decide)
      exact ⟨later_annotate _ _ (by decide) fun _ => same,Or.inl same⟩
    | succeeded =>
      obtain ⟨normal,_,armID,_,_,_,_,rfl⟩ := permitted
      have same := stamp_stampSucceeded env e.value armID
      refine ⟨⟨policy_stampSucceeded env e.value armID,?_,?_,fun _ => same⟩,Or.inl same⟩
      · intro deleting
        rw [normal.live] at deleting
        cases deleting
      · intro _ member
        rwa [finalizers_stampSucceeded] at member
    | deletionStarted =>
      obtain ⟨_,_,_,unset,time,clock,rfl⟩ := permitted
      have stamped : (e.value.annotate deletionStartedAnnotation (Time.formatRFC3339 time)).stamp =
          Time.formatRFC3339 time := by simp [Resource.stamp,index_annotate]
      refine ⟨later_annotate _ _ (by decide) ?_,Or.inr ⟨time,clock,stamped⟩⟩
      intro set
      exact absurd unset set
    | release =>
      obtain ⟨_,_,_,rfl⟩ := permitted
      refine ⟨⟨rfl,id,?_,fun _ => rfl⟩,Or.inl rfl⟩
      intro _ member
      exact (List.mem_filter.mp member).1

/-- Updates of the object succeed. -/
def UpdatesSucceed (s : Cluster Spec) : Call Spec → Reply → Prop
  | .update site obj,f => ∃ refreshed, (serve s (.update site obj) f).1 = .ok refreshed
  | _,_ => True

def deletedResource (env : Env Spec Body) :=
  (controller env).restrict (fun s _ c f => UpdatesSucceed s c f) fun _ d => Untouched d

/-- The GET of a pass over a deleting object gets an answer, and is not throttled. -/
def GetsAnswered (h : Notes Spec) : Call Spec → Reply → Prop
  | .armGet _ _,f => ∀ e, h.obj = some e → e.value.deleting = true →
    ∃ resp, armAnswer f = .ok resp ∧ resp.statusCode ≠ 429
  | _,_ => True

def answeredResource (env : Env Spec Body) :=
  (deletedResource env).restrict (fun _ h c f => GetsAnswered h c f) fun _ _ => True

/-- The pass read the object as deleting. -/
def Pass.SawDeleting (p : Pass Spec) : Prop := ∃ e, p.notes.obj = some e ∧ e.value.deleting = true

section Teardown

variable {env : Env Spec Body} {policy initial : String}

/-- The deletion is stamped: as it was at first, or with a time up to a limit. -/
structure Started (initial : String) (limit : Nat) (stamp : String) : Prop where
  set : stamp ≠ ""
  origin : stamp = initial ∨ ∃ time, stamp = Time.formatRFC3339 time ∧ time ≤ limit ∧
    time / 1000000000 < Time.endOfYears

theorem Started.mono (started : Started initial limit stamp) (le : limit ≤ limit') :
    Started initial limit' stamp := by
  refine ⟨started.set,?_⟩
  rcases started.origin with same | ⟨time,formatted,before,within⟩
  · exact Or.inl same
  · exact Or.inr ⟨time,formatted,Nat.le_trans before le,within⟩

theorem parse_empty : Time.parseRFC3339 "" = none := by decide

theorem format_ne_empty (within : time / 1000000000 < Time.endOfYears) : Time.formatRFC3339 time ≠ "" := by
  intro empty
  have parsed := Time.parse_format within
  rw [empty,parse_empty] at parsed
  cases parsed

/-- The first stamp is unset, or names an instant up to a limit. -/
def StampUsable (initial : String) (limit : Nat) : Prop :=
  initial = "" ∨ ∃ startedAt, Time.parseRFC3339 initial = some startedAt ∧ startedAt ≤ (limit : Int)

theorem Started.parses (started : Started initial limit stamp) (usable : StampUsable initial limit) :
    ∃ startedAt, Time.parseRFC3339 stamp = some startedAt ∧ startedAt ≤ (limit : Int) := by
  rcases started.origin with rfl | ⟨time,rfl,before,within⟩
  · exact usable.resolve_left started.set
  · refine ⟨_,Time.parse_format within,?_⟩
    omega

/-- What a pass that saw the deletion leaves behind for good. -/
def Begun (initial : String) (limit : Nat) (obj : Resource Spec) : Prop :=
  obj.deleting = true ∧ (finalizerName ∈ obj.finalizers → Started initial limit obj.stamp)

theorem Begun.later (begun : Begun initial limit old) (later : Later old new) :
    Begun initial limit new := by
  refine ⟨later.deleting begun.1,?_⟩
  intro member
  have started := begun.2 (later.finalizer begun.1 member)
  rw [later.stamp started.set]
  exact started

/-- The deletion holds the object no more. -/
def Released (obj : Resource Spec) : Prop := obj.deleting = true ∧ finalizerName ∉ obj.finalizers

theorem Released.later (released : Released old) (later : Later old new) : Released new :=
  ⟨later.deleting released.1,fun member => released.2 (later.finalizer released.1 member)⟩

structure TeardownInv (env : Env Spec Body) (policy initial : String) (s : Cluster Spec) : Prop where
  clock : s.now / 1000000000 < Time.endOfYears
  began : s.began ≤ s.now
  past : ∀ p ∈ s.passes, p.began ≤ s.now
  policy : ∀ e, s.store.get () = some e → reconcilePolicyFor e.value = policy
  stamp : ∀ e, s.store.get () = some e → e.value.stamp = "" ∨ Started initial s.now e.value.stamp
  seen : ∀ p ∈ s.passes, p.SawDeleting → p.ended ≤ s.now ∧
    ∀ e, s.store.get () = some e → Begun initial p.ended e.value
  done : ∀ p ∈ s.passes, ∀ q ∈ s.passes, p.SawDeleting → StampUsable initial p.ended →
    (p.ended : Int) + env.deletionGracePeriod < q.began → q.notes.obj ≠ none →
    ∀ e, q.stored = some e → finalizerName ∉ e.value.finalizers

structure TeardownHeld (policy initial : String) (s : Cluster Spec) (h : Notes Spec) : Prop where
  reads : Reads s h
  policy : ∀ e, h.obj = some e → reconcilePolicyFor e.value = policy
  later : ∀ e stored, h.obj = some e → s.store.get () = some stored → Later e.value stored.value
  seen : ∀ p ∈ s.passes, p.SawDeleting → ∀ e, h.obj = some e → Begun initial p.ended e.value
  clock : ∀ time, h.clock = some time → s.began ≤ time ∧ time ≤ s.now
  get : ∀ e, h.obj = some e → e.value.deleting = true →
    (∀ err, h.get ≠ some (.error err)) ∧ ∀ resp, h.get = some (.ok resp) → resp.statusCode ≠ 429
  released : ∀ a, h.updated = some (.release,a) → ∀ e, s.store.get () = some e → Released e.value
  started : ∀ a, h.updated = some (.deletionStarted,a) →
    ∀ e, s.store.get () = some e → Started initial s.now e.value.stamp

/-- A pass that leaves the finalizer of a deleting object has found the deletion stamped, and not
expired, or has stamped it. -/
theorem TeardownHeld.settled (inv : TeardownInv env policy initial s)
    (held : TeardownHeld policy initial s h) (positive : 0 < env.deletionGracePeriod)
    (allows : env.allowsDelete policy = true) (returns : Returns env h outcome)
    (read : h.obj = some e) (deleting : e.value.deleting = true)
    (found : s.store.get () = some stored) (member : finalizerName ∈ stored.value.finalizers) :
    Started initial s.now stored.value.stamp ∧
    (e.value.stamp = "" ∨ Time.parseRFC3339 e.value.stamp = none ∨
      ∃ startedAt time, Time.parseRFC3339 e.value.stamp = some startedAt ∧ h.clock = some time ∧
        ¬ env.deletionGracePeriod < Time.sub time startedAt) := by
  have later := held.later e stored read found
  have managed : Deleting env e.value :=
    ⟨deleting,later.finalizer deleting member,held.policy e read ▸ allows⟩
  have kept : e.value.stamp ≠ "" → Started initial s.now stored.value.stamp := by
    intro set
    refine (inv.stamp stored found).resolve_left ?_
    rwa [later.stamp set]
  obtain ⟨unbroken,unthrottled⟩ := held.get e read deleting
  rcases returns.settled e read managed with
    ⟨a,released⟩ | ⟨err,broken⟩ | ⟨resp,get,throttled⟩ | disabled | ⟨unset,a,stamped⟩ | ⟨set,unparsed⟩ |
      ⟨startedAt,time,parsed,clock,unexpired⟩
  · exact absurd member (held.released a released stored found).2
  · exact absurd broken (unbroken err)
  · exact absurd throttled (unthrottled resp get)
  · omega
  · exact ⟨held.started a stamped stored found,Or.inl unset⟩
  · exact ⟨kept set,Or.inr (Or.inl unparsed)⟩
  · refine ⟨kept ?_,Or.inr (Or.inr ⟨startedAt,time,parsed,clock,unexpired⟩)⟩
    intro empty
    rw [show e.value.annotations.index deletionStartedAnnotation = "" from empty,parse_empty] at parsed
    cases parsed

/-- A pass that begins more than the grace period after one that saw the deletion releases the
object. -/
theorem TeardownHeld.expired (inv : TeardownInv env policy initial s)
    (held : TeardownHeld policy initial s h) (positive : 0 < env.deletionGracePeriod)
    (representable : env.deletionGracePeriod < Time.maxDuration)
    (allows : env.allowsDelete policy = true) (returns : Returns env h outcome)
    (earlier : p ∈ s.passes) (saw : p.SawDeleting) (usable : StampUsable initial p.ended)
    (elapsed : (p.ended : Int) + env.deletionGracePeriod < s.began) (read : h.obj = some e)
    (found : s.store.get () = some stored) : finalizerName ∉ stored.value.finalizers := by
  intro member
  have begun := held.seen p earlier saw e read
  have later := held.later e stored read found
  have started := begun.2 (later.finalizer begun.1 member)
  obtain ⟨startedAt,parsed,before⟩ := started.parses usable
  obtain ⟨_,unset | unparsed | ⟨startedAt',time,parsed',clock,unexpired⟩⟩ :=
    held.settled inv positive allows returns read begun.1 found member
  · exact started.set unset
  · rw [parsed] at unparsed
    cases unparsed
  · obtain rfl := Option.some.inj (parsed.symm.trans parsed')
    have after := (held.clock time clock).1
    refine unexpired ((Time.lt_sub_iff positive representable).mpr ?_)
    omega

theorem TeardownInv.finished (inv : TeardownInv env policy initial s)
    (held : TeardownHeld policy initial s h) (positive : 0 < env.deletionGracePeriod)
    (representable : env.deletionGracePeriod < Time.maxDuration)
    (allows : env.allowsDelete policy = true) (returns : Returns env h outcome) :
    TeardownInv env policy initial ((controller env).finish s h outcome) := by
  have began := inv.began
  refine ⟨inv.clock,inv.began,?_,inv.policy,inv.stamp,?_,?_⟩
  · intro p member
    rcases List.mem_cons.mp member with rfl | earlier
    · exact inv.began
    · exact inv.past p earlier
  · intro p member saw
    rcases List.mem_cons.mp member with rfl | earlier
    · obtain ⟨e,read,deleting⟩ := saw
      refine ⟨Nat.le_refl _,?_⟩
      intro stored found
      refine ⟨(held.later e stored read found).deleting deleting,?_⟩
      intro finalizer
      exact (held.settled inv positive allows returns read deleting found finalizer).1
    · exact inv.seen p earlier saw
  · intro p member q member' saw usable elapsed readIt e stored
    rcases List.mem_cons.mp member with rfl | earlier
    · have past : q.began ≤ s.now := by
        rcases List.mem_cons.mp member' with rfl | earlier'
        · exact inv.began
        · exact inv.past q earlier'
      dsimp only at elapsed
      omega
    · rcases List.mem_cons.mp member' with rfl | earlier'
      · obtain ⟨e',read⟩ := Option.ne_none_iff_exists'.mp readIt
        exact held.expired inv positive representable allows returns earlier saw usable elapsed read stored
      · exact inv.done p earlier q earlier' saw usable elapsed readIt e stored

theorem TeardownInv.answered (inv : TeardownInv env policy initial s)
    (held : TeardownHeld policy initial s h) (permitted : Next env h c) (f : Reply) :
    TeardownInv env policy initial (serve s c f).2 := by
  have effect := serve_effect held.reads permitted f
  obtain ⟨now,began,passes⟩ := serve_frame s c f
  refine ⟨?_,?_,?_,?_,?_,?_,?_⟩
  · rw [now]; exact inv.clock
  · rw [now,began]; exact inv.began
  · rw [now,passes]; exact inv.past
  · intro e found
    obtain ⟨stored,before,later,_⟩ := effect.later found
    exact later.policy.trans (inv.policy stored before)
  · intro e found
    obtain ⟨stored,before,_,same | ⟨time,clock,stamped⟩⟩ := effect.later found
    · rw [now,same]
      exact inv.stamp stored before
    · have range := (held.clock time clock).2
      have within : time / 1000000000 < Time.endOfYears :=
        Nat.lt_of_le_of_lt (Nat.div_le_div_right range) inv.clock
      rw [now,stamped]
      exact Or.inr ⟨format_ne_empty within,Or.inr ⟨time,rfl,range,within⟩⟩
  · rw [now,passes]
    intro p member saw
    refine ⟨(inv.seen p member saw).1,?_⟩
    intro e found
    obtain ⟨stored,before,later,_⟩ := effect.later found
    exact ((inv.seen p member saw).2 stored before).later later
  · rw [passes]
    exact inv.done

theorem TeardownHeld.carried (held : TeardownHeld policy initial s h) (permitted : Next env h c)
    (f : Reply) :
    (∀ e stored, h.obj = some e → (serve s c f).2.store.get () = some stored →
      Later e.value stored.value) ∧
    (∀ a, h.updated = some (.release,a) → ∀ e, (serve s c f).2.store.get () = some e →
      Released e.value) ∧
    ∀ a, h.updated = some (.deletionStarted,a) → ∀ e, (serve s c f).2.store.get () = some e →
      Started initial s.now e.value.stamp := by
  have effect := serve_effect held.reads permitted f
  refine ⟨?_,?_,?_⟩
  · intro e stored read found
    obtain ⟨old,before,later,_⟩ := effect.later found
    exact (held.later e old read before).trans later
  · intro a released e found
    obtain ⟨old,before,later,_⟩ := effect.later found
    exact (held.released a released old before).later later
  · intro a stamped e found
    obtain ⟨old,before,later,_⟩ := effect.later found
    have started := held.started a stamped old before
    rw [later.stamp started.set]
    exact started

theorem TeardownHeld.answered_get (inv : TeardownInv env policy initial s)
    (held : TeardownHeld policy initial s h) (permitted : Next env h .get) (f : Reply) :
    TeardownHeld policy initial (serve s .get f).2 (note h .get (serve s .get f).1) := by
  have reads := held.reads.answered permitted f
  have effect := serve_effect held.reads permitted f
  obtain ⟨_,_,passes⟩ := serve_frame s .get f
  obtain rfl := permitted
  refine ⟨reads,?_,?_,?_,?_,?_,?_,?_⟩
  · intro e read
    exact inv.policy e (read_stored read)
  · intro e stored read found
    obtain ⟨old,before,later,_⟩ := effect.later found
    obtain rfl := Option.some.inj (before.symm.trans (read_stored read))
    exact later
  · rw [passes]
    intro p member saw e read
    exact (inv.seen p member saw).2 e (read_stored read)
  · intro time clock; cases clock
  · intro e _ _
    exact ⟨fun err broken => (by cases broken),fun resp get => (by cases get)⟩
  · intro a released; cases released
  · intro a stamped; cases stamped

theorem TeardownHeld.answered_update (inv : TeardownInv env policy initial s)
    (held : TeardownHeld policy initial s h) (permitted : Next env h (.update site obj))
    (succeeds : UpdatesSucceed s (.update site obj) f) :
    TeardownHeld policy initial (serve s (.update site obj) f).2
      (note h (.update site obj) (serve s (.update site obj) f).1) := by
  have reads := held.reads.answered permitted f
  have effect := serve_effect held.reads permitted f
  obtain ⟨later,_,_⟩ := held.carried permitted f
  obtain ⟨now,began,passes⟩ := serve_frame s (.update site obj) f
  obtain ⟨refreshed,answer⟩ := succeeds
  obtain ⟨e,read,permitted⟩ := permitted
  refine ⟨reads,held.policy,later,by rw [passes]; exact held.seen,by rw [now,began]; exact held.clock,
    held.get,?_,?_⟩
  · intro a released e' found
    obtain ⟨rfl,_⟩ := Prod.mk.inj (Option.some.inj released)
    obtain ⟨deleting,_,_,rfl⟩ := permitted
    obtain ⟨stored,value⟩ := update_stored answer found
    refine ⟨(later e e' read found).deleting deleting,?_⟩
    rw [value]
    simp [replaceObject]
  · intro a stamped e' found
    obtain ⟨rfl,_⟩ := Prod.mk.inj (Option.some.inj stamped)
    obtain ⟨_,_,_,_,time,clock,rfl⟩ := permitted
    obtain ⟨stored,value⟩ := update_stored answer found
    have range := (held.clock time clock).2
    have within : time / 1000000000 < Time.endOfYears :=
      Nat.lt_of_le_of_lt (Nat.div_le_div_right range) inv.clock
    have formatted : e'.value.stamp = Time.formatRFC3339 time := by
      rw [value]
      simp [replaceObject,Resource.stamp,index_annotate]
    rw [now,formatted]
    exact ⟨format_ne_empty within,Or.inr ⟨time,rfl,range,within⟩⟩

theorem TeardownHeld.answered (inv : TeardownInv env policy initial s)
    (held : TeardownHeld policy initial s h) (permitted : Next env h c)
    (succeeds : UpdatesSucceed s c f) (answered : GetsAnswered h c f) :
    TeardownHeld policy initial (serve s c f).2 (note h c (serve s c f).1) := by
  have reads := held.reads.answered permitted f
  obtain ⟨later,released,started⟩ := held.carried permitted f
  obtain ⟨now,began,passes⟩ := serve_frame s c f
  have seen : ∀ p ∈ (serve s c f).2.passes, p.SawDeleting → ∀ e, h.obj = some e →
      Begun initial p.ended e.value := by rw [passes]; exact held.seen
  have clock : ∀ time, h.clock = some time →
      (serve s c f).2.began ≤ time ∧ time ≤ (serve s c f).2.now := by rw [now,began]; exact held.clock
  rw [← now] at started
  cases c with
  | get => exact held.answered_get inv permitted f
  | update site obj => exact held.answered_update inv permitted succeeds
  | armGet armID apiVersion =>
    refine ⟨reads,held.policy,later,seen,clock,?_,released,started⟩
    intro e read deleting
    obtain ⟨resp,answer,unthrottled⟩ := answered e read deleting
    refine ⟨?_,?_⟩
    · intro err broken
      have broken : armAnswer f = .error err := Option.some.inj broken
      rw [answer] at broken
      cases broken
    · intro resp' get
      obtain rfl : resp = resp' := Except.ok.inj (answer.symm.trans (Option.some.inj get))
      exact unthrottled
  | now =>
    refine ⟨reads,held.policy,later,seen,?_,held.get,released,started⟩
    intro time read
    obtain rfl := Option.some.inj read
    exact ⟨inv.began,Nat.le_refl _⟩
  | _ => exact ⟨reads,held.policy,later,seen,clock,held.get,released,started⟩

theorem disturb_later {s : Cluster Spec} (untouched : Untouched d)
    (found : (disturb s d).store.get () = some e) :
    ∃ stored, s.store.get () = some stored ∧ Later stored.value e.value ∧
      e.value.stamp = stored.value.stamp := by
  obtain ⟨stored,before,same | deleted⟩ := stored_untouched untouched found
  · exact ⟨stored,before,same ▸ .refl _,by rw [same]⟩
  · rw [deleted]
    exact ⟨stored,before,⟨rfl,fun _ => rfl,fun _ => id,fun _ => rfl⟩,rfl⟩

theorem TeardownInv.disturbed (inv : TeardownInv env policy initial s) (untouched : Untouched d)
    (possible : (controller env).possible s d) : TeardownInv env policy initial (disturb s d) := by
  obtain ⟨now,began,passes,_⟩ := disturb_frame s d
  have clock : (disturb s d).now / 1000000000 < Time.endOfYears := by
    cases d with
    | tick elapsed => exact possible
    | resync => exact inv.clock
    | delete =>
      simp only [disturb,Cluster.edit]
      split <;> exact inv.clock
    | _ => exact untouched.elim
  refine ⟨clock,?_,?_,?_,?_,?_,?_⟩
  · rw [began]; exact Nat.le_trans inv.began now
  · rw [passes]; exact fun p member => Nat.le_trans (inv.past p member) now
  · intro e found
    obtain ⟨stored,before,later,_⟩ := disturb_later untouched found
    exact later.policy.trans (inv.policy stored before)
  · intro e found
    obtain ⟨stored,before,_,same⟩ := disturb_later untouched found
    rw [same]
    exact (inv.stamp stored before).imp_right fun started => started.mono now
  · rw [passes]
    intro p member saw
    obtain ⟨ended,begun⟩ := inv.seen p member saw
    refine ⟨Nat.le_trans ended now,?_⟩
    intro e found
    obtain ⟨stored,before,later,_⟩ := disturb_later untouched found
    exact (begun stored before).later later
  · rw [passes]
    exact inv.done

theorem TeardownHeld.disturbed (held : TeardownHeld policy initial s h) (untouched : Untouched d) :
    TeardownHeld policy initial (disturb s d) h := by
  obtain ⟨now,began,passes,_⟩ := disturb_frame s d
  refine ⟨held.reads.disturbed d,held.policy,?_,by rw [passes]; exact held.seen,?_,held.get,?_,?_⟩
  · intro e stored read found
    obtain ⟨old,before,later,_⟩ := disturb_later untouched found
    exact (held.later e old read before).trans later
  · intro time clock
    rw [began]
    exact ⟨(held.clock time clock).1,Nat.le_trans (held.clock time clock).2 now⟩
  · intro a released e found
    obtain ⟨old,before,later,_⟩ := disturb_later untouched found
    exact (held.released a released old before).later later
  · intro a stamped e found
    obtain ⟨old,before,_,same⟩ := disturb_later untouched found
    rw [same]
    exact (held.started a stamped old before).mono now

theorem teardown_keeps (positive : 0 < env.deletionGracePeriod)
    (representable : env.deletionGracePeriod < Time.maxDuration)
    (allows : env.allowsDelete policy = true) :
    (answeredResource env).Keeps (Next env) (Returns env) (TeardownInv env policy initial)
      (TeardownHeld policy initial) :=
  .single {
    begins s inv _ := by
      refine ⟨⟨inv.clock,Nat.le_refl _,inv.past,inv.policy,inv.stamp,inv.seen,inv.done⟩,reads_fresh _,
        ?_,?_,?_,?_,?_,?_,?_⟩
      · intro e read; cases read
      · intro e stored read; cases read
      · intro p member saw e read; cases read
      · intro time clock; cases clock
      · intro e read; cases read
      · intro a released; cases released
      · intro a stamped; cases stamped
    answers s h c f inv held permitted answerable :=
      ⟨inv.answered held permitted f,held.answered inv permitted answerable.1.2 answerable.2⟩
    finishes s h outcome inv held returns :=
      inv.finished held positive representable allows returns
    disturbs s d inv possible :=
      ⟨inv.disturbed possible.1.2 possible.1.1,fun h held => held.disturbed possible.1.2⟩
  }

/-- As long as the GETs of a deleting resource are answered and not throttled, and its stamp was
unset or names an instant before the end of a pass that saw the deletion, every pass that begins
more than the grace period later leaves the object without the finalizer. -/
theorem teardown_within_grace (positive : 0 < env.deletionGracePeriod)
    (representable : env.deletionGracePeriod < Time.maxDuration)
    (clock : start.now / 1000000000 < Time.endOfYears) (began : start.began ≤ start.now)
    (unpassed : start.passes = []) (present : start.store.get () = some first)
    (managed : env.allowsDelete (reconcilePolicyFor first.value) = true)
    (run : (answeredResource env).system.Run (idle start) actions t)
    (earlier : p ∈ t.shared.passes) (saw : p.SawDeleting)
    (usable : StampUsable first.value.stamp p.ended) (late : q ∈ t.shared.passes)
    (elapsed : (p.ended : Int) + env.deletionGracePeriod < q.began) (read : q.notes.obj ≠ none) :
    ∀ e, q.stored = some e → finalizerName ∉ e.value.finalizers := by
  have initially : TeardownInv env (reconcilePolicyFor first.value) first.value.stamp start := by
    refine ⟨clock,began,by simp [unpassed],?_,?_,by simp [unpassed],by simp [unpassed]⟩
    · intro e found
      obtain rfl := Option.some.inj (present.symm.trans found)
      rfl
    · intro e found
      obtain rfl := Option.some.inj (present.symm.trans found)
      by_cases unset : first.value.stamp = ""
      · exact Or.inl unset
      · exact Or.inr ⟨unset,Or.inl rfl⟩
  have good := (teardown_keeps positive representable managed).run (fun _ => reconcile_traced env)
    (good_idle initially) run
  exact good.1.done p earlier q late saw usable elapsed read

end Teardown

def deletingObject (annotations : Map String String) : Resource Bool :=
  { sampleObject annotations with deleting := true, finalizers := [finalizerName,"other"] }

def stampedObject : Resource Bool :=
  deletingObject ((∅ : Map String String).insert deletionStartedAnnotation "0000-01-01T00:00:00Z")

/-- A stamped deletion that ARM does not finish: the second pass comes after the grace period. -/
theorem teardown_within_grace_stamped :
    ∃ t p q,
      (answeredResource (sampleEnv 5)).system.Run (idle (sampleCluster stampedObject))
        (upToGet ++ [.answer () (.http 200 [] ""),.answer () .served,.answer () (.http 202 [] ""),
          .answer () .served,.disturb (.tick 100)] ++
        upToGet ++ [.answer () (.http 200 [] ""),.answer () .served,.answer () .served]) t ∧
      t.shared.passes = [q,p] ∧ q.stored ≠ none ∧
      ∀ e, q.stored = some e → finalizerName ∉ e.value.finalizers := by
  have soon : (0 + 100) / 1000000000 < Time.endOfYears := by decide
  have answered : ∀ h : Notes Bool,
      GetsAnswered h (.armGet "/vnet" "2024-01-01") (.http 200 [] "") :=
    fun _ _ _ _ => ⟨_,rfl,by decide⟩
  have run : (answeredResource (sampleEnv 5)).system.Run (idle (sampleCluster stampedObject))
      (upToGet ++ [Action.answer () (Reply.http 200 [] ""),.answer () .served,.answer () (.http 202 [] ""),
        .answer () .served,.disturb (.tick 100)] ++
      upToGet ++ [Action.answer () (Reply.http 200 [] ""),.answer () .served,.answer () .served]) _ :=
    .of ⟨⟨rfl,rfl⟩,⟨_,_,_,rfl,⟨trivial,trivial⟩,trivial⟩,⟨_,_,_,rfl,⟨trivial,trivial⟩,trivial⟩,
      ⟨_,_,_,rfl,⟨trivial,trivial⟩,trivial⟩,⟨_,_,_,rfl,⟨trivial,trivial⟩,answered _⟩,
      ⟨_,_,_,rfl,⟨trivial,trivial⟩,trivial⟩,⟨_,_,_,rfl,⟨trivial,trivial⟩,trivial⟩,
      ⟨_,_,_,rfl,⟨trivial,trivial⟩,trivial⟩,⟨⟨soon,trivial⟩,trivial⟩,⟨rfl,rfl⟩,
      ⟨_,_,_,rfl,⟨trivial,trivial⟩,trivial⟩,⟨_,_,_,rfl,⟨trivial,trivial⟩,trivial⟩,
      ⟨_,_,_,rfl,⟨trivial,trivial⟩,trivial⟩,⟨_,_,_,rfl,⟨trivial,trivial⟩,answered _⟩,
      ⟨_,_,_,rfl,⟨trivial,trivial⟩,trivial⟩,⟨_,_,_,rfl,⟨trivial,⟨_,rfl⟩⟩,trivial⟩,trivial⟩
  have usable : StampUsable stampedObject.stamp 0 := Or.inr ⟨0,by decide,by decide⟩
  have elapsed : ((0 : Nat) : Int) + (sampleEnv 5).deletionGracePeriod < (100 : Nat) := by decide
  exact ⟨_,_,_,run,rfl,Option.some_ne_none _,
    teardown_within_grace (by decide) (by decide) (by decide) (by decide) rfl rfl rfl run
      (List.mem_cons_of_mem _ (List.mem_singleton.mpr rfl)) ⟨_,rfl,rfl⟩ usable (List.mem_cons_self ..)
      elapsed (Option.some_ne_none _)⟩

/-- Every GET of the deletion is throttled: the pass returns before it would stamp the deletion, and
the finalizer stays, however much time passes. -/
theorem throttled_teardown_wedged :
    ∃ t p q e,
      (deletedResource (sampleEnv 5)).system.Run (idle (sampleCluster (deletingObject ∅)))
        (upToGet ++ [.answer () (.http 429 [] ""),.disturb (.tick 100)] ++
        upToGet ++ [.answer () (.http 429 [] "")]) t ∧
      t.shared.passes = [q,p] ∧ p.SawDeleting ∧ q.SawDeleting ∧
      (p.ended : Int) + (sampleEnv 5).deletionGracePeriod < q.began ∧ q.stored = some e ∧
      reconcilePolicyFor e.value = reconcilePolicyManage ∧ finalizerName ∈ e.value.finalizers ∧
      e.value.stamp = "" := by
  have soon : (0 + 100) / 1000000000 < Time.endOfYears := by decide
  have elapsed : ((0 : Nat) : Int) + (sampleEnv 5).deletionGracePeriod < (100 : Nat) := by decide
  exact ⟨_,_,_,_,.of ⟨⟨rfl,rfl⟩,⟨_,_,_,rfl,trivial,trivial⟩,⟨_,_,_,rfl,trivial,trivial⟩,
    ⟨_,_,_,rfl,trivial,trivial⟩,⟨_,_,_,rfl,trivial,trivial⟩,⟨soon,trivial⟩,⟨rfl,rfl⟩,
    ⟨_,_,_,rfl,trivial,trivial⟩,⟨_,_,_,rfl,trivial,trivial⟩,⟨_,_,_,rfl,trivial,trivial⟩,
    ⟨_,_,_,rfl,trivial,trivial⟩,trivial⟩,
    rfl,⟨_,rfl,rfl⟩,⟨_,rfl,rfl⟩,elapsed,rfl,rfl,List.mem_cons_self ..,rfl⟩

end Kommodity.AzureARM
