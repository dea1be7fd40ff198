import Kommodity.ARMCluster

/-! Passes that ARM throttles. A pass ends at the first answer 429 and asks to be run again after the
duration made of the answer's header, which a controller does only for a positive one. -/
namespace Kommodity.AzureARM

open Go Versioned Interaction

variable {Spec Body : Type}

/-- When a controller runs a pass again: after an error, and when the result asks for it. -/
def Outcome.Scheduled (outcome : Outcome) : Prop :=
  outcome.error.isSome = true ∨ outcome.requeue = true ∨ 0 < outcome.requeueAfter

instance (outcome : Outcome) : Decidable outcome.Scheduled := inferInstanceAs (Decidable (_ ∨ _ ∨ _))

/-- The response 429 among the answers of a pass. -/
def throttledBy (resp : ARMResponse) (h : Option ARMResponse) : Option ARMResponse :=
  if resp.statusCode = 429 then some resp else h

def noteThrottled (h : Option ARMResponse) : (c : Call Spec) → Answer Spec c → Option ARMResponse
  | .armGet _ _,.ok resp => throttledBy resp h
  | .armPut _ _ _,.ok resp => throttledBy resp h
  | .armDelete _ _,.ok resp => throttledBy resp h
  | _,_ => h

/-- Nothing is called after a response 429. -/
def Unthrottled (h : Option ARMResponse) (_ : Call Spec) : Prop := h = none

/-- A pass that was throttled asks for the interval of the response. -/
def Honours (h : Option ARMResponse) (outcome : Outcome) : Prop :=
  ∀ resp, h = some resp → outcome = .after resp.retryAfter

theorem honours_none (outcome : Outcome) : Honours none outcome := by
  intro resp throttled
  cases throttled

theorem honours_throttledBy (limited : resp.statusCode = 429) :
    Honours (throttledBy resp none) (.after resp.retryAfter) := by
  intro resp' throttled
  rw [throttledBy,if_pos limited] at throttled
  rw [Option.some.inj throttled]

theorem throttledBy_of_ne (free : resp.statusCode ≠ 429) : throttledBy resp none = none := if_neg free

variable {env : Env Spec Body}

theorem updateStatus_honours (site : StatusSite) (context : String) (obj : Object Spec) (interval : Int) :
    (updateStatus site context obj interval).Traced noteThrottled Unthrottled Honours none := by
  simp only [updateStatus,traced_request_bind]
  refine ⟨rfl,?_⟩
  rintro (err | refreshed)
  · exact honours_none _
  · exact honours_none _

theorem storeSpecHash_honours (obj : Object Spec) :
    (storeSpecHash env obj).Traced noteThrottled Unthrottled (fun h _ => h = none) none := by
  unfold storeSpecHash
  split
  · rfl
  · simp only [traced_request_bind]
    refine ⟨rfl,?_⟩
    rintro (err | refreshed)
    · rfl
    · rfl

theorem putResource_honours (obj : Object Spec) (armID : String) :
    (putResource env obj armID).Traced noteThrottled Unthrottled Honours none := by
  unfold putResource
  split
  · exact honours_none _
  · split
    · exact honours_none _
    · simp only [traced_request_bind]
      refine ⟨rfl,?_⟩
      rintro (err | resp)
      · exact honours_none _
      · dsimp only [noteThrottled]
        split
        · next limited => exact honours_throttledBy limited
        · next free =>
          rw [throttledBy_of_ne free]
          split
          · simp only [handleTerminalPUTError,traced_request_bind]
            refine ⟨rfl,?_⟩
            rintro (err | refreshed)
            · exact honours_none _
            · exact honours_none _
          · refine traced_bind (storeSpecHash_honours obj) ?_
            rintro h obj rfl
            exact updateStatus_honours ..

theorem reconcileSucceeded_honours (obj : Object Spec) (armID : String) (body : Bytes) :
    (reconcileSucceeded env obj armID body).Traced noteThrottled Unthrottled Honours none := by
  simp only [reconcileSucceeded,traced_request_bind]
  refine ⟨rfl,?_⟩
  rintro (err | refreshed)
  · exact honours_none _
  · dsimp only
    split
    · exact honours_none _
    · exact updateStatus_honours ..

theorem readResource_honours (obj : Object Spec) {found : String → ARMResponse → ARMProgram Spec Outcome}
    (later : ∀ armID resp, (found armID resp).Traced noteThrottled Unthrottled Honours none) :
    (readResource env obj found).Traced noteThrottled Unthrottled Honours none := by
  simp only [readResource,traced_request_bind]
  refine ⟨rfl,?_⟩
  rintro (err | creds)
  · dsimp only
    split
    · exact updateStatus_honours ..
    · exact honours_none _
  · simp only [traced_request_bind]
    refine ⟨rfl,?_⟩
    rintro (err | armID)
    · dsimp only
      split
      · exact updateStatus_honours ..
      · exact honours_none _
    · simp only [traced_request_bind]
      refine ⟨rfl,?_⟩
      rintro (err | resp)
      · exact honours_none _
      · dsimp only [noteThrottled]
        split
        · next limited => exact honours_throttledBy limited
        · next free =>
          rw [throttledBy_of_ne free]
          exact later armID resp

theorem reconcileNormal_honours (obj : Object Spec) :
    (reconcileNormal env obj).Traced noteThrottled Unthrottled Honours none := by
  refine readResource_honours obj fun armID resp => ?_
  split
  · exact putResource_honours ..
  · unfold reconcileExisting
    dsimp only
    split
    · split
      · exact putResource_honours ..
      · exact reconcileSucceeded_honours ..
    · split
      · exact putResource_honours ..
      · exact updateStatus_honours ..

theorem reconcileReadOnly_honours (obj : Object Spec) :
    (reconcileReadOnly env obj).Traced noteThrottled Unthrottled Honours none := by
  refine readResource_honours obj fun armID resp => ?_
  split
  · exact updateStatus_honours ..
  · exact reconcileSucceeded_honours ..

theorem removeFinalizer_honours (obj : Object Spec) :
    (removeFinalizer obj).Traced noteThrottled Unthrottled Honours none := by
  unfold removeFinalizer
  dsimp only
  split
  · simp only [traced_request_bind]
    refine ⟨rfl,?_⟩
    rintro (err | refreshed)
    · exact honours_none _
    · exact honours_none _
  · exact honours_none _

theorem deletionGraceExpired_honours (obj : Object Spec) :
    (deletionGraceExpired env obj).Traced noteThrottled Unthrottled (fun h _ => h = none) none := by
  unfold deletionGraceExpired
  dsimp only
  split
  · rfl
  · split
    · simp only [traced_request_bind]
      refine ⟨rfl,fun time => ⟨rfl,?_⟩⟩
      rintro (err | refreshed)
      · rfl
      · rfl
    · split
      · rfl
      · simp only [traced_request_bind]
        exact ⟨rfl,fun time => rfl⟩

theorem reconcileDelete_honours (obj : Object Spec) (policy : String) :
    (reconcileDelete env obj policy).Traced noteThrottled Unthrottled Honours none := by
  unfold reconcileDelete
  split
  · exact honours_none _
  split
  · exact removeFinalizer_honours obj
  simp only [traced_request_bind]
  refine ⟨rfl,?_⟩
  rintro (err | creds)
  · exact removeFinalizer_honours obj
  simp only [traced_request_bind]
  refine ⟨rfl,?_⟩
  rintro (err | armID)
  · exact removeFinalizer_honours obj
  simp only [reconcileDeleteARM,traced_request_bind]
  refine ⟨rfl,?_⟩
  rintro (err | resp)
  · exact honours_none _
  dsimp only [noteThrottled]
  split
  · next limited => exact honours_throttledBy limited
  next free =>
  rw [throttledBy_of_ne free]
  split
  · exact removeFinalizer_honours obj
  refine traced_bind (deletionGraceExpired_honours obj) ?_
  rintro h (graceErr | ⟨expired,obj⟩) rfl
  · exact honours_none _
  cases expired with
  | true => exact removeFinalizer_honours obj
  | false =>
    simp only [traced_request_bind]
    refine ⟨rfl,?_⟩
    rintro (err | delResp)
    · exact honours_none _
    · dsimp only [noteThrottled]
      split
      · next limited => exact honours_throttledBy limited
      · next free =>
        rw [throttledBy_of_ne free]
        exact updateStatus_honours ..

theorem Honours.requeueOnConflict (honours : Honours h outcome) : Honours h (requeueOnConflict outcome) := by
  intro resp throttled
  rw [honours resp throttled]
  rfl

theorem ensureFinalizers_honours (obj : Object Spec) (policy : String) :
    (ensureFinalizers env obj policy).Traced noteThrottled Unthrottled (fun h _ => h = none) none := by
  unfold ensureFinalizers
  dsimp only
  split
  · rfl
  · simp only [traced_request_bind]
    refine ⟨rfl,?_⟩
    rintro (err | refreshed)
    · dsimp only
      split <;> rfl
    · rfl

theorem reconcile_honours (env : Env Spec Body) :
    (reconcile env).Traced noteThrottled Unthrottled Honours none := by
  simp only [reconcile,traced_request_bind]
  refine ⟨rfl,?_⟩
  rintro (err | obj)
  · dsimp only
    split <;> exact honours_none _
  dsimp only
  split
  · refine traced_bind (reconcileDelete_honours obj _) ?_
    intro h outcome honours
    exact honours.requeueOnConflict
  refine traced_bind (ensureFinalizers_honours obj _) ?_
  rintro h (err | requeue) rfl
  · exact honours_none _
  cases requeue with
  | true => exact honours_none _
  | false =>
    dsimp only
    split
    · exact reconcileReadOnly_honours obj
    · refine traced_bind (reconcileNormal_honours obj) ?_
      intro h outcome honours
      exact honours.requeueOnConflict

theorem wrapDuration_of_le (positive : 0 < d) (representable : d ≤ Time.maxDuration) :
    Time.wrapDuration d = d := by
  unfold Time.maxDuration at representable
  exact Int.bmod_eq_of_le (by omega) (by omega)

theorem wrapDuration_le (d : Int) : Time.wrapDuration d ≤ Time.maxDuration := by
  have bound := Int.bmod_lt (x := d) (m := 18446744073709551616) (by omega)
  unfold Time.wrapDuration Time.maxDuration
  omega

theorem parseRetryAfter_cases (v : String) :
    (∃ n, decimal v = some n ∧ 0 < n ∧ n < 2 ^ 63 ∧ parseRetryAfter v = Time.wrapDuration (n * Time.second)) ∨
    (∀ n, decimal v = some n → 0 < n → 2 ^ 63 ≤ n) ∧ parseRetryAfter v = defaultRateLimitRequeue := by
  unfold parseRetryAfter
  split
  · next empty =>
    refine .inr ⟨?_,rfl⟩
    intro n denotes
    rw [empty] at denotes
    cases denotes
  · rw [atoi]
    cases denoted : decimal v with
    | none => exact .inr ⟨by simp,rfl⟩
    | some n =>
      by_cases small : -2 ^ 63 ≤ n ∧ n < 2 ^ 63
      · rw [Option.filter_some,if_pos (by simpa using small)]
        by_cases positive : 0 < n
        · exact .inl ⟨n,rfl,positive,small.2,if_neg (by omega)⟩
        · refine .inr ⟨?_,if_pos (by omega)⟩
          intro m same more
          exact absurd (Option.some.inj same ▸ more) positive
      · rw [Option.filter_some,if_neg (by simpa using small)]
        refine .inr ⟨?_,rfl⟩
        intro m same more
        obtain rfl := Option.some.inj same
        omega

theorem parseRetryAfter_pos (fits : ∀ n, decimal v = some n → n * Time.second ≤ Time.maxDuration) :
    0 < parseRetryAfter v := by
  rcases parseRetryAfter_cases v with ⟨n,denotes,positive,_,value⟩ | ⟨_,value⟩
  · have more : 0 < n * Time.second := by unfold Time.second; omega
    rw [value,wrapDuration_of_le more (fits n denotes)]
    exact more
  · rw [value]
    decide

/-- The seconds of a header are its duration exactly when they fit a duration. -/
theorem parseRetryAfter_eq_iff (denotes : decimal v = some n) (positive : 0 < n) :
    parseRetryAfter v = n * Time.second ↔ n * Time.second ≤ Time.maxDuration := by
  have more : 0 < n * Time.second := by unfold Time.second; omega
  rcases parseRetryAfter_cases v with ⟨m,denotes',_,_,value⟩ | ⟨large,value⟩
  · obtain rfl : m = n := Option.some.inj (denotes'.symm.trans denotes)
    rw [value]
    constructor
    · intro same
      rw [← same]
      exact wrapDuration_le _
    · exact wrapDuration_of_le more
  · have far := large n denotes positive
    rw [value]
    unfold defaultRateLimitRequeue Time.second Time.maxDuration
    omega

theorem outcome_of_throttled (reached : (reconcile env).Reaches noteThrottled none (some resp) (pure outcome)) :
    outcome = .after resp.retryAfter :=
  reached.traced (reconcile_honours env) resp rfl

/-- The header's duration is positive and its seconds, and the pass that got it is run again, exactly
when the seconds of the header fit a duration. -/
theorem throttled_scheduled_iff (env : Env Spec Body) (retryAfter : String) :
    (0 < parseRetryAfter retryAfter ∧
      (∀ n, decimal retryAfter = some n → 0 < n → parseRetryAfter retryAfter = n * Time.second) ∧
      ∀ body outcome, (reconcile env).Reaches noteThrottled none
        (some (armClientDo 429 body retryAfter)) (pure outcome) → outcome.Scheduled) ↔
    ∀ n, decimal retryAfter = some n → n * Time.second ≤ Time.maxDuration := by
  constructor
  · rintro ⟨_,seconds,_⟩ n denotes
    by_cases positive : 0 < n
    · exact (parseRetryAfter_eq_iff denotes positive).mp (seconds n denotes positive)
    · unfold Time.second Time.maxDuration
      omega
  · intro fits
    have positive := parseRetryAfter_pos fits
    refine ⟨positive,?_,?_⟩
    · intro n denotes more
      exact (parseRetryAfter_eq_iff denotes more).mpr (fits n denotes)
    · intro body outcome reached
      rw [outcome_of_throttled reached]
      exact .inr (.inr positive)

/-- The answers of a pass over a resource that is there, whose GET is throttled. -/
def throttledAnswers (retryAfter : String) : (c : Call Bool) → Answer Bool c
  | .get => .ok ⟨sampleObject ∅,1⟩
  | .resolveCredentials _ => .ok ⟨"subscription"⟩
  | .armIDFor _ _ => .ok "/vnet"
  | .armGet _ _ => .ok (armClientDo 429 [] retryAfter)
  | .armPut _ _ _ => .ok (armClientDo 429 [] retryAfter)
  | .armDelete _ _ => .ok (armClientDo 429 [] retryAfter)
  | .update _ obj => .ok obj
  | .updateStatus _ obj => .ok obj
  | .now => 0

/-- Seconds that do not fit give a negative duration or none, and the pass is not run again. -/
theorem throttled_pass_dropped : parseRetryAfter "9223372037" < 0 ∧ parseRetryAfter "36028797018963968" = 0 ∧
    ∃ outcome, (reconcile (sampleEnv 0)).Reaches noteThrottled none
      (some (armClientDo 429 [] "9223372037")) (pure outcome) ∧ ¬ outcome.Scheduled := by
  refine ⟨by decide +kernel,by decide +kernel,
    (reconcile (sampleEnv 0)).answered (throttledAnswers "9223372037"),?_,?_⟩
  · have reached := reaches_answered (throttledAnswers "9223372037") noteThrottled none (reconcile (sampleEnv 0))
    have noted : (reconcile (sampleEnv 0)).noted (throttledAnswers "9223372037") noteThrottled none =
      some (armClientDo 429 [] "9223372037") := by decide +kernel
    rw [noted] at reached
    exact reached
  · decide +kernel

end Kommodity.AzureARM
