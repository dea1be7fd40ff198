import Kommodity.ARMCluster

/-! When the ARM reconciler may change, destroy or let go of a resource in Azure, over every run:
with any edits and deletions of the object, any answers of ARM and any failures of updates. -/
namespace Kommodity.AzureARM

open Go Versioned Interaction Transition

variable {Spec Body : Type}

/-- The finalizer is carried once the finalizers are settled under a policy that deletes. -/
theorem Normal.finalizer {env : Env Spec Body} (normal : Normal env obj)
    (allows : env.allowsDelete (reconcilePolicyFor obj) = true) : finalizerName ∈ obj.finalizers := by
  have settled := normal.settled
  simp only [settleFinalizers,allows,if_true,Bool.or_eq_false_iff] at settled
  by_contra missing
  simp [addFinalizer,missing] at settled

/-- Settling the finalizers of an object that is not deleting does not touch a deleting one. -/
theorem Effect.release {env : Env Spec Body} (effect : Effect env h c before after)
    (found : before.get () = some stored) (deleting : stored.value.deleting = true)
    (finalizer : finalizerName ∈ stored.value.finalizers)
    (gone : ∀ e, after.get () = some e → finalizerName ∉ e.value.finalizers) :
    Releases env h stored.value := by
  have keeps : ∀ obj : Resource Spec, obj.finalizers = stored.value.finalizers →
      after = keep before obj → False := by
    rintro obj same rfl
    have nonempty : obj.finalizers ≠ [] := by
      rw [same]
      exact List.ne_nil_of_mem finalizer
    refine gone ⟨obj,before.revision + 1⟩ ?_ (by rw [same]; exact finalizer)
    simp [get_keep,nonempty]
  cases effect with
  | kept => exact absurd finalizer (gone stored found)
  | statusUpdated ready found' =>
    obtain rfl := Option.some.inj (found.symm.trans found')
    exact (keeps { stored.value with ready } rfl rfl).elim
  | @updated e site obj stored' read call permitted found' same =>
    obtain rfl := Option.some.inj (found.symm.trans found')
    cases site with
    | finalizers =>
      rw [same,permitted.1] at deleting
      cases deleting
    | specHash =>
      obtain ⟨_,_,_,_,_,_,_,rfl⟩ := permitted
      exact (keeps _ (by rw [same,finalizers_annotate]) rfl).elim
    | succeeded =>
      rw [same,permitted.1.live] at deleting
      cases deleting
    | deletionStarted =>
      obtain ⟨_,_,_,_,_,_,rfl⟩ := permitted
      exact (keeps _ (by rw [same,finalizers_annotate]) rfl).elim
    | release =>
      rw [same]
      exact permitted.2.2.1

theorem write_authority {env : Env Spec Body} (policies : env.Policies)
    (run : (controller env).system.Run (idle start) actions t) :
    (∀ h armID apiVersion body next, t.thread () = some (h,.call (.armPut armID apiVersion body) next) →
      ∃ e, h.obj = some e ∧ e.value.deleting = false ∧
        env.allowsModify (reconcilePolicyFor e.value) = true ∧
        (reconcilePolicyFor e.value = reconcilePolicyManage → finalizerName ∈ e.value.finalizers)) ∧
    (∀ h armID apiVersion next, t.thread () = some (h,.call (.armDelete armID apiVersion) next) →
      ∃ e resp, h.obj = some e ∧ e.value.deleting = true ∧ finalizerName ∈ e.value.finalizers ∧
        reconcilePolicyFor e.value = reconcilePolicyManage ∧
        h.get = some (.ok resp) ∧ resp.statusCode ≠ 404 ∧ resp.statusCode ≠ 429) ∧
    (∀ h c next reply stored, t.thread () = some (h,.call c next) →
      t.shared.store.get () = some stored → stored.value.deleting = true →
      reconcilePolicyFor stored.value = reconcilePolicyManage →
      finalizerName ∈ stored.value.finalizers →
      (∀ e, ((controller env).system.apply t (.answer () reply)).shared.store.get () = some e →
        finalizerName ∉ e.value.finalizers) →
      (∃ err, h.credentials = some (.error err)) ∨ (∃ err, h.armID = some (.error err)) ∨
      (∃ resp, h.get = some (.ok resp) ∧ resp.statusCode = 404) ∨
      (0 < env.deletionGracePeriod ∧ ∃ startedAt time,
        Time.parseRFC3339 (stored.value.annotations.index deletionStartedAnnotation) = some startedAt ∧
        h.clock = some time ∧ env.deletionGracePeriod < (time : Int) - startedAt)) := by
  have good := (controller_keeps_reads env).run (fun _ => reconcile_traced env) (good_idle trivial) run
  refine ⟨?_,?_,?_⟩
  · intro h armID apiVersion body next running
    obtain ⟨_,e,resp,read,normal,_,allows,_⟩ := good.pending running
    refine ⟨e,read,normal.live,allows,?_⟩
    intro managed
    exact normal.finalizer ((policies.delete _).mpr managed)
  · intro h armID apiVersion next running
    obtain ⟨_,e,read,deleting,resp,get,limited,found⟩ := good.pending running
    exact ⟨e,resp,read,deleting.deleting,deleting.finalizer,(policies.delete _).mp deleting.allows,
      get,found,limited⟩
  · intro h c next reply stored running found deleting managed finalizer gone
    obtain ⟨reads,permitted⟩ := good.pending running
    rw [answered_store running] at gone
    have releases := (serve_effect reads permitted reply).release found deleting finalizer gone
    rcases releases with refuses | credentials | armID | absent | ⟨positive,startedAt,time,parsed,clock,longer⟩
    · rw [(policies.delete _).mpr managed] at refuses
      cases refuses
    · exact Or.inl credentials
    · exact Or.inr (Or.inl armID)
    · exact Or.inr (Or.inr (Or.inl absent))
    · exact Or.inr (Or.inr (Or.inr
        ⟨positive,startedAt,time,parsed,clock,Time.lt_of_lt_sub positive longer⟩))

theorem write_authority_creation :
    ∃ t h armID apiVersion body next,
      (controller (sampleEnv 0)).system.Run (idle (sampleCluster (sampleObject ∅)))
        (upToGet ++ [.answer () (.http 404 [] "")]) t ∧
      t.thread () = some (h,.call (.armPut armID apiVersion body) next) ∧
      ∃ e, h.obj = some e ∧ e.value.deleting = false ∧
        (sampleEnv 0).allowsModify (reconcilePolicyFor e.value) = true ∧
        (reconcilePolicyFor e.value = reconcilePolicyManage → finalizerName ∈ e.value.finalizers) := by
  have run : (controller (sampleEnv 0)).system.Run (idle (sampleCluster (sampleObject ∅)))
      (upToGet ++ [Action.answer () (Reply.http 404 [] "")]) _ :=
    .of ⟨⟨rfl,rfl⟩,⟨_,_,_,rfl,trivial⟩,⟨_,_,_,rfl,trivial⟩,⟨_,_,_,rfl,trivial⟩,⟨_,_,_,rfl,trivial⟩,
      trivial⟩
  exact ⟨_,_,_,_,_,_,run,rfl,(write_authority (sampleEnv_policies 0) run).1 _ _ _ _ _ rfl⟩

end Kommodity.AzureARM
