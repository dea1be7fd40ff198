import Kommodity.AttestationNonces
import Kommodity.Interaction

/-! The nonce store in use by any number of goroutines. `Generate`, `Use` and the reaper each read
the clock first and take the lock then, so that the section under the lock works with a time that
may have passed. A log keeps what the sections did and when. -/
namespace Kommodity.Attestation.NonceRuns

open Go Go.Net Transition Interaction

/-- The random source, the clock, and the three sections under the lock. -/
inductive Call where
  | randRead
  | timeNow
  | generate (ip : String) (reservation : Reservation) (now : Int)
  | use (ip nonce : String) (now : Int)
  | reap (now : Int)

abbrev Answer : Call → Type
  | .randRead => Except String Reservation
  | .timeNow => Int
  | .generate _ _ _ => Except Error (String × Int)
  | .use _ _ _ => Except Error Bool
  | .reap _ => Unit

inductive Operation where
  | generate (ip : String)
  | use (ip nonce : String)
  | reap
  deriving DecidableEq

inductive Outcome where
  | generated (result : Except Error (String × Int))
  | used (result : Except Error Bool)
  | reaped

def generate (ip : String) : Program Call Answer Outcome := do
  match canonicalIP ip with
  | .error cause => return .generated (.error (.wrap "failed to canonicalize IP" cause))
  | .ok _ =>
    match ← request Call.randRead with
    | .error cause => return .generated (.error (.wrap "failed to generate nonce" (.library cause)))
    | .ok reservation =>
      let now ← request Call.timeNow
      let result ← request (Call.generate ip reservation now)
      return .generated result

def use (ip nonce : String) : Program Call Answer Outcome := do
  match canonicalIP ip with
  | .error cause => return .used (.error (.wrap "failed to canonicalize IP" cause))
  | .ok _ =>
    let now ← request Call.timeNow
    let result ← request (Call.use ip nonce now)
    return .used result

/-- One round of the reaper. -/
def reap : Program Call Answer Outcome := do
  let now ← request Call.timeNow
  request (Call.reap now)
  return .reaped

def Operation.program : Operation → Program Call Answer Outcome
  | .generate ip => NonceRuns.generate ip
  | .use ip nonce => NonceRuns.use ip nonce
  | .reap => NonceRuns.reap

/-- A nonce that was returned with its expiry, or the result of a `Use`: the time it had read, and
the time at which it held the lock. -/
inductive Event where
  | generated (ip nonce : String) (expiresAt : Int)
  | used (ip nonce : String) (now time : Int) (result : Except Error Bool)

def Event.accepts (nonce : String) : Event → Bool
  | .used _ n _ _ (.ok true) => n = nonce
  | _ => false

def Event.issues (nonce : String) : Event → Bool
  | .generated _ n _ => n = nonce
  | _ => false

structure Shared where
  clock : Int
  store : NonceStore
  log : List Event

/-- A nonce that was stored is returned to its caller. -/
def returning (s : Shared) (ip : String) :
    Except Error ((String × Int) × NonceStore) → Except Error (String × Int) × Shared
  | .error cause => (.error cause,s)
  | .ok ((nonce,exp),store) => (.ok (nonce,exp),{ s with store, log := .generated ip nonce exp :: s.log })

def serve (s : Shared) : (c : Call) → Except String Reservation → Answer c × Shared
  | .randRead,f => (f,s)
  | .timeNow,_ => (s.clock,s)
  | .generate ip reservation now,_ => returning s ip (s.store.generate ip reservation now)
  | .use ip nonce now,_ =>
    ((s.store.use ip nonce now).1,
      { s with
        store := (s.store.use ip nonce now).2
        log := .used ip nonce now s.clock (s.store.use ip nonce now).1 :: s.log })
  | .reap now,_ => ((),{ s with store := s.store.reap now })

/-- The nonce of a `Generate` is not one that was returned before. -/
def Fresh (s : Shared) : Call → Prop
  | .generate _ reservation _ => ∀ e ∈ s.log, e.issues reservation.nonce = false
  | _ => True

/-- The time a goroutine has read last. -/
def note (h : Option Int) : (c : Call) → Answer c → Option Int
  | .timeNow,now => some now
  | _,_ => h

/-- One goroutine for each element of `I`, which does its operation again and again. The clock
moves on between the steps. -/
def clients (operation : I → Operation) :
    Threads I Shared Call Answer (Except String Reservation) Nat (Option Int) Outcome where
  program i := (operation i).program
  fresh := none
  note := note
  ready _ := True
  begin s := s
  answerable s _ c _ := Fresh s c
  serve := serve
  finish s _ _ := s
  possible _ _ := True
  disturb s d := { s with clock := s.clock + d }

/-- The nonce is unknown, or the address given is not the one it is bound to. -/
def Unmatched (store : NonceStore) (ip nonce : String) : Prop :=
  ∀ record, store.data.lookup nonce = some record → canonicalIP ip ≠ .ok record.ip

/-- A `Use` that does not match fails and changes nothing; any other removes the nonce. -/
theorem use_cases (store : NonceStore) (ip nonce : String) (now : Int) :
    (Unmatched store ip nonce ∧ ∃ cause, store.use ip nonce now = (.error cause,store)) ∨
    ∃ record, store.data.lookup nonce = some record ∧ canonicalIP ip = .ok record.ip ∧
      store.use ip nonce now = (if record.expiresAt < now then .error .expiredNonce else .ok true,
        ⟨store.ttl,store.data.erase nonce⟩) := by
  unfold NonceStore.use Unmatched
  cases parsed : canonicalIP ip with
  | error cause => exact .inl ⟨fun _ _ => by simp,_,rfl⟩
  | ok canonical =>
    cases found : store.data.lookup nonce with
    | none => exact .inl ⟨fun _ found => by simp at found,_,rfl⟩
    | some record =>
      dsimp only
      by_cases other : canonical ≠ record.ip
      · rw [if_pos other]
        refine .inl ⟨?_,_,rfl⟩
        rintro _ ⟨⟩ same
        exact other (Except.ok.inj same)
      · refine .inr ⟨record,rfl,by rw [not_not.mp other],?_⟩
        rw [if_neg other]
        split <;> rfl

/-- Every accepted `Use` in the log came after a `Generate` that returned its nonce, for an address
of the same canonical form, and had read a time at which the nonce had not expired. -/
def Justified (log : List Event) : Prop :=
  ∀ later ip nonce now time earlier, log = later ++ .used ip nonce now time (.ok true) :: earlier →
    ∃ ip' exp canonical, .generated ip' nonce exp ∈ earlier ∧ canonicalIP ip = .ok canonical ∧
      canonicalIP ip' = .ok canonical ∧ now ≤ exp

theorem Justified.cons (justified : Justified log)
    (head : ∀ ip nonce now time, e = .used ip nonce now time (.ok true) →
      ∃ ip' exp canonical, .generated ip' nonce exp ∈ log ∧ canonicalIP ip = .ok canonical ∧
        canonicalIP ip' = .ok canonical ∧ now ≤ exp) : Justified (e :: log) := by
  intro later ip nonce now time earlier split
  cases later with
  | nil =>
    obtain ⟨rfl,rfl⟩ := List.cons.inj split
    exact head ip nonce now time rfl
  | cons e' later => exact justified later ip nonce now time earlier (List.cons.inj split).2

theorem Justified.unissued (justified : Justified log) (fresh : ∀ e ∈ log, e.issues nonce = false) :
    log.countP (·.accepts nonce) = 0 := by
  rw [List.countP_eq_zero]
  intro e member accepted
  cases e with
  | generated ip n exp => simp [Event.accepts] at accepted
  | used ip n now time result =>
    cases result with
    | error cause => simp [Event.accepts] at accepted
    | ok valid =>
      cases valid with
      | false => simp [Event.accepts] at accepted
      | true =>
        obtain rfl : n = nonce := by simpa [Event.accepts] using accepted
        obtain ⟨later,earlier,rfl⟩ := List.append_of_mem member
        obtain ⟨ip',exp,_,returned,_⟩ := justified later ip n now time earlier rfl
        have unissued := fresh (.generated ip' n exp) (by simp [returned])
        simp [Event.issues] at unissued

/-- What holds of the store and its log. -/
structure Inv (s : Shared) : Prop where
  /-- A stored nonce was returned for an address with the canonical form it is bound to, and was not
  accepted so far. -/
  stored : ∀ nonce record, s.store.data.lookup nonce = some record →
    (∃ ip, .generated ip nonce record.expiresAt ∈ s.log ∧ canonicalIP ip = .ok record.ip) ∧
    s.log.countP (·.accepts nonce) = 0
  /-- A nonce that was returned and not accepted is stored, unless it has expired. -/
  kept : ∀ ip nonce exp, .generated ip nonce exp ∈ s.log → s.log.countP (·.accepts nonce) = 0 →
    exp < s.clock ∨ ∃ record, s.store.data.lookup nonce = some record ∧ record.expiresAt = exp ∧
      canonicalIP ip = .ok record.ip
  once : ∀ nonce, s.log.countP (·.accepts nonce) ≤ 1
  justified : Justified s.log

def Held (s : Shared) (h : Option Int) : Prop := ∀ now, h = some now → now ≤ s.clock

/-- The sections are entered with the time that was read last, and `Generate` with an address. -/
def Next (h : Option Int) : Call → Prop
  | .generate ip _ now => h = some now ∧ ∃ canonical, canonicalIP ip = .ok canonical
  | .use _ _ now => h = some now
  | .reap now => h = some now
  | _ => True

theorem generate_traced (ip : String) : (generate ip).Traced note Next (fun _ _ => True) none := by
  unfold generate
  cases parsed : canonicalIP ip with
  | error cause => exact trivial
  | ok canonical =>
    refine ⟨trivial,?_⟩
    rintro (cause | reservation)
    · exact trivial
    · exact ⟨trivial,fun now => ⟨⟨rfl,canonical,parsed⟩,fun _ => trivial⟩⟩

/-- A goroutine in `Use` makes no other calls than those of its own address and nonce. -/
theorem use_traced (ip nonce : String) :
    (use ip nonce).Traced note (fun h c => c = .timeNow ∨ ∃ now, c = .use ip nonce now ∧ h = some now)
      (fun _ _ => True) none := by
  unfold use
  cases canonicalIP ip with
  | error cause => exact trivial
  | ok canonical => exact ⟨.inl rfl,fun now => ⟨.inr ⟨now,rfl,rfl⟩,fun _ => trivial⟩⟩

theorem program_traced (operation : Operation) :
    operation.program.Traced note Next (fun _ _ => True) none := by
  cases operation with
  | generate ip => exact generate_traced ip
  | use ip nonce =>
    refine (use_traced ip nonce).imp ?_
    rintro h _ (rfl | ⟨now,rfl,read⟩)
    · trivial
    · exact read
  | reap => exact ⟨trivial,fun now => ⟨rfl,fun _ => trivial⟩⟩

theorem Inv.advance (inv : Inv s) (d : Nat) : Inv { s with clock := s.clock + d } where
  stored := inv.stored
  kept ip nonce exp returned unused :=
    (inv.kept ip nonce exp returned unused).imp (fun past => by dsimp only; omega) id
  once := inv.once
  justified := inv.justified

theorem Inv.reap (inv : Inv s) (past : now ≤ s.clock) : Inv { s with store := s.store.reap now } where
  stored nonce record found := by
    dsimp only [NonceStore.reap] at found
    rw [Map.lookup_deleteWhere] at found
    exact inv.stored nonce record (Option.filter_eq_some_iff.mp found).1
  kept ip nonce exp returned unused := by
    rcases inv.kept ip nonce exp returned unused with expired | ⟨record,found,rfl,bound⟩
    · exact .inl expired
    · by_cases expired : record.expiresAt < now
      · exact .inl (lt_of_lt_of_le expired past)
      · refine .inr ⟨record,?_,rfl,bound⟩
        dsimp only [NonceStore.reap]
        rw [Map.lookup_deleteWhere,found]
        simp [expired]
  once := inv.once
  justified := inv.justified

theorem Inv.generate (inv : Inv s) (parsed : canonicalIP ip = .ok canonical)
    (fresh : ∀ e ∈ s.log, e.issues nonce = false) :
    Inv { s with
      store := ⟨s.store.ttl,s.store.data.insert nonce ⟨exp,canonical⟩⟩
      log := .generated ip nonce exp :: s.log } where
  stored n record found := by
    dsimp only at found
    rw [Map.lookup_insert_eq] at found
    split at found
    · next same =>
      subst same
      cases found
      exact ⟨⟨ip,List.mem_cons_self,parsed⟩,by simpa [Event.accepts] using inv.justified.unissued fresh⟩
    · obtain ⟨⟨ip',returned,bound⟩,unused⟩ := inv.stored n record found
      exact ⟨⟨ip',List.mem_cons_of_mem _ returned,bound⟩,by simpa [Event.accepts] using unused⟩
  kept ip' n exp' returned unused := by
    rcases List.mem_cons.mp returned with same | earlier
    · cases same
      exact .inr ⟨⟨exp,canonical⟩,by simp,rfl,parsed⟩
    · have other : n ≠ nonce := by
        rintro rfl
        simpa [Event.issues] using fresh _ earlier
      rcases inv.kept ip' n exp' earlier (by simpa [Event.accepts] using unused) with expired | stored
      · exact .inl expired
      · exact .inr (by simpa [Map.lookup_insert_eq,other] using stored)
  once n := by simpa [Event.accepts] using inv.once n
  justified := inv.justified.cons (by simp)

theorem Inv.refuse (inv : Inv s) :
    Inv { s with log := .used ip nonce now time (.error cause) :: s.log } where
  stored n record found := by
    obtain ⟨⟨ip',returned,bound⟩,unused⟩ := inv.stored n record found
    exact ⟨⟨ip',List.mem_cons_of_mem _ returned,bound⟩,by simpa [Event.accepts] using unused⟩
  kept ip' n exp returned unused := by
    refine inv.kept ip' n exp ?_ (by simpa [Event.accepts] using unused)
    simpa using returned
  once n := by simpa [Event.accepts] using inv.once n
  justified := inv.justified.cons (by simp)

theorem Inv.expire (inv : Inv s) (found : s.store.data.lookup nonce = some record)
    (expired : record.expiresAt < s.clock) :
    Inv { s with store := ⟨s.store.ttl,s.store.data.erase nonce⟩ } where
  stored n record' found' := inv.stored n record' (NonceStore.lookup_erase_some found')
  kept ip n exp returned unused := by
    rcases inv.kept ip n exp returned unused with past | ⟨record',found',rfl,bound⟩
    · exact .inl past
    · by_cases same : n = nonce
      · subst same
        cases found.symm.trans found'
        exact .inl expired
      · exact .inr ⟨record',by simpa [AList.lookup_erase_ne same] using found',rfl,bound⟩
  once := inv.once
  justified := inv.justified

theorem Inv.accept (inv : Inv s) (found : s.store.data.lookup nonce = some record)
    (parsed : canonicalIP ip = .ok record.ip) (valid : now ≤ record.expiresAt) :
    Inv { s with
      store := ⟨s.store.ttl,s.store.data.erase nonce⟩
      log := .used ip nonce now time (.ok true) :: s.log } := by
  have counted (n : String) : List.countP (·.accepts n) (.used ip nonce now time (.ok true) :: s.log) =
      s.log.countP (·.accepts n) + if nonce = n then 1 else 0 := by
    simp [List.countP_cons,Event.accepts]
  constructor
  · intro n record' found'
    have other : nonce ≠ n := by
      rintro rfl
      simp at found'
    obtain ⟨⟨ip',returned,bound⟩,unused⟩ := inv.stored n record' (NonceStore.lookup_erase_some found')
    exact ⟨⟨ip',List.mem_cons_of_mem _ returned,bound⟩,by rw [counted,unused,if_neg other]⟩
  · intro ip' n exp returned unused
    rw [counted] at unused
    have other : nonce ≠ n := by
      rintro rfl
      simp at unused
    rcases inv.kept ip' n exp (by simpa using returned) (by omega) with past | ⟨record',found',same,bound⟩
    · exact .inl past
    · exact .inr ⟨record',by simpa [AList.lookup_erase_ne other.symm] using found',same,bound⟩
  · intro n
    rw [counted]
    split
    · next same =>
      subst same
      have unused := (inv.stored nonce record found).2
      omega
    · exact inv.once n
  · refine inv.justified.cons ?_
    rintro _ _ _ _ ⟨⟩
    obtain ⟨⟨ip',returned,bound⟩,_⟩ := inv.stored nonce record found
    exact ⟨ip',record.expiresAt,record.ip,returned,parsed,bound,valid⟩

theorem Inv.use (inv : Inv s) (past : now ≤ s.clock) :
    Inv { s with
      store := (s.store.use ip nonce now).2
      log := .used ip nonce now s.clock (s.store.use ip nonce now).1 :: s.log } := by
  rcases use_cases s.store ip nonce now with ⟨_,cause,failed⟩ | ⟨record,found,parsed,done⟩
  · rw [failed]
    exact inv.refuse
  · rw [done]
    by_cases expired : record.expiresAt < now
    · rw [if_pos expired]
      exact (inv.expire found (lt_of_lt_of_le expired past)).refuse
    · rw [if_neg expired]
      exact inv.accept found parsed (not_lt.mp expired)

theorem serve_clock (s : Shared) (c : Call) (f : Except String Reservation) :
    (serve s c f).2.clock = s.clock := by
  cases c with
  | generate ip reservation now =>
    rw [serve]
    cases s.store.generate ip reservation now <;> rfl
  | _ => rfl

theorem Inv.serve (inv : Inv s) (held : Held s h) (permitted : Next h c) (fresh : Fresh s c) :
    Inv (serve s c f).2 := by
  cases c with
  | randRead => exact inv
  | timeNow => exact inv
  | generate ip reservation now =>
    obtain ⟨_,canonical,parsed⟩ := permitted
    have stored : s.store.generate ip reservation now = .ok ((reservation.nonce,now + s.store.ttl),
        ⟨s.store.ttl,s.store.data.insert reservation.nonce ⟨now + s.store.ttl,canonical⟩⟩) := by
      unfold NonceStore.generate
      rw [parsed]
    show Inv (returning s ip (s.store.generate ip reservation now)).2
    rw [stored]
    exact inv.generate parsed fresh
  | use ip nonce now => exact inv.use (held now permitted)
  | reap now => exact inv.reap (held now permitted)

theorem Held.answered (held : Held s h) : Held (serve s c f).2 (note h c (serve s c f).1) := by
  intro now read
  rw [serve_clock]
  cases c with
  | timeNow => cases read; exact le_rfl
  | _ => exact held now read

theorem clients_keep (operation : I → Operation) :
    (clients operation).Keeps Next (fun _ _ => True) Inv Held where
  begins _ inv _ := ⟨inv,nofun⟩
  answers _ _ _ _ inv held permitted fresh := ⟨inv.serve held permitted fresh,held.answered⟩
  finishes _ _ _ inv _ _ := inv
  disturbs s d inv _ := by
    refine ⟨inv.advance d,fun h held now read => ?_⟩
    have := held now read
    simp only [clients]
    omega
  begins_other _ _ _ _ held := held
  answers_other _ s _ c f h' _ _ _ _ held' now read := by
    have := held' now read
    simp only [clients,serve_clock]
    exact this
  finishes_other _ _ _ _ _ _ _ _ held := held

/-- A new store. -/
def start (clock ttl : Int) : Shared := ⟨clock,.newNonceStore ttl,[]⟩

theorem start_inv (clock ttl : Int) : Inv (start clock ttl) where
  stored nonce record found := by simp [start,NonceStore.newNonceStore] at found
  kept ip nonce exp returned := by simp [start] at returned
  once nonce := by simp [start]
  justified later ip nonce now time earlier eq := by simp [start] at eq

variable [DecidableEq I] {operation : I → Operation}

theorem shared_begin (s : State I Shared Call Answer (Option Int) Outcome) (i : I) :
    ((clients operation).system.apply s (.begin i)).shared = s.shared := by
  simp only [Threads.system,Threads.settle]
  split <;> rfl

theorem shared_answer {s : State I Shared Call Answer (Option Int) Outcome}
    (running : s.thread i = some (h,.call c next)) :
    ((clients operation).system.apply s (.answer i f)).shared = (serve s.shared c f).2 := by
  simp only [Threads.system,running,Threads.settle]
  split <;> rfl

/-- A nonce is accepted at most once, and only after it was returned for an address of the same
canonical form and by a `Use` that read a time at which it had not expired. A `Use` with a wrong
address, an unknown nonce or no address changes nothing. A nonce that was not accepted is accepted
from its own address by every `Use` that has the lock before it expires. -/
theorem nonce_runs_safe (run : (clients operation).system.Run (idle (start clock ttl)) actions s) :
    (∀ nonce, s.shared.log.countP (·.accepts nonce) ≤ 1) ∧ Justified s.shared.log ∧
    (∀ i ip nonce, operation i = .use ip nonce → Unmatched s.shared.store ip nonce →
      ∀ action, action = .begin i ∨ (∃ f, action = .answer i f) →
      (clients operation).system.allowed s action →
      ((clients operation).system.apply s action).shared.store = s.shared.store) ∧
    (∀ i h ip nonce now next f ip' exp, s.thread i = some (h,.call (.use ip nonce now) next) →
      .generated ip' nonce exp ∈ s.shared.log → canonicalIP ip = canonicalIP ip' →
      s.shared.log.countP (·.accepts nonce) = 0 → s.shared.clock ≤ exp →
      ((clients operation).system.apply s (.answer i f)).shared.log =
        .used ip nonce now s.shared.clock (.ok true) :: s.shared.log) := by
  obtain ⟨inv,held⟩ := (clients_keep operation).run (fun i => program_traced (operation i))
    (good_idle (start_inv clock ttl)) run
  refine ⟨inv.once,inv.justified,?_,?_⟩
  · rintro i ip nonce same unmatched _ (rfl | ⟨f,rfl⟩) allowed
    · rw [shared_begin]
    · obtain ⟨h,c,next,running,_⟩ := allowed
      rw [shared_answer running]
      have calls := (Threads.reaches_of_run run i running).traced
        (show ((clients operation).program i).Traced note _ _ none by
          simp only [clients,same]; exact use_traced ip nonce)
      rcases calls.1 with rfl | ⟨now,rfl,_⟩
      · rfl
      · rcases use_cases s.shared.store ip nonce now with ⟨_,cause,failed⟩ | ⟨record,found,parsed,_⟩
        · simp only [serve,failed]
        · exact absurd parsed (unmatched record found)
  · intro i h ip nonce now next f ip' exp running returned address unused valid
    have past : now ≤ s.shared.clock := (held i h _ running).1 now (held i h _ running).2.1
    rw [shared_answer running]
    rcases inv.kept ip' nonce exp returned unused with expired | ⟨record,found,rfl,bound⟩
    · omega
    · rcases use_cases s.shared.store ip nonce now with ⟨unmatched,_⟩ | ⟨record',found',_,done⟩
      · exact absurd (address.trans bound) (unmatched record found)
      · cases found.symm.trans found'
        simp only [serve,done]
        rw [if_neg (by omega)]

def sampleOperation : Nat → Operation
  | 0 => .generate "10.0.0.2:4000"
  | 1 => .use "10.0.0.2:4001" sampleNonce
  | _ => .reap

/-- The first goroutine gets a nonce that expires at 5. -/
def issue : List (Action Nat (Except String Reservation) Nat) :=
  .begin 0 :: List.replicate 3 (.answer 0 (.ok sampleReservation))

/-- The second one uses it at once. -/
def promptUse : List (Action Nat (Except String Reservation) Nat) :=
  issue ++ [Action.begin 1,.answer 1 (Except.ok sampleReservation),.disturb 5,.answer 1 (Except.ok sampleReservation)]

theorem nonce_runs_safe_promptUse :
    ∃ s, (clients sampleOperation).system.Run (idle (start 0 5)) promptUse s ∧
      s.shared.log.countP (·.accepts sampleNonce) = 1 ∧ Justified s.shared.log := by
  have run : (clients sampleOperation).system.Run (idle (start 0 5)) promptUse _ :=
    .of ⟨⟨rfl,trivial⟩,⟨_,_,_,rfl,trivial⟩,⟨_,_,_,rfl,trivial⟩,⟨_,_,_,rfl,nofun⟩,⟨rfl,trivial⟩,
      ⟨_,_,_,rfl,trivial⟩,trivial,⟨_,_,_,rfl,trivial⟩,trivial⟩
  exact ⟨_,run,by decide +kernel,(nonce_runs_safe run).2.1⟩

/-- The second one has read the clock when the nonce expires. -/
def lateLock : List (Action Nat (Except String Reservation) Nat) :=
  issue ++ [Action.begin 1,.answer 1 (Except.ok sampleReservation),.disturb 10,.answer 1 (Except.ok sampleReservation)]

/-- The reaper comes in between. -/
def reapedFirst : List (Action Nat (Except String Reservation) Nat) :=
  issue ++ [Action.begin 1,.answer 1 (Except.ok sampleReservation),.disturb 10,.begin 2] ++
    List.replicate 2 (Action.answer 2 (Except.ok sampleReservation)) ++ [Action.answer 1 (Except.ok sampleReservation)]

/-- A nonce is accepted after it has expired, and it is refused though it had not expired when its
`Use` read the clock. -/
theorem nonce_times_differ :
    (∃ s, (clients sampleOperation).system.Run (idle (start 0 5)) lateLock s ∧
      s.shared.log = [.used "10.0.0.2:4001" sampleNonce 0 10 (.ok true),
        .generated "10.0.0.2:4000" sampleNonce 5]) ∧
    ∃ s, (clients sampleOperation).system.Run (idle (start 0 5)) reapedFirst s ∧
      s.shared.log = [.used "10.0.0.2:4001" sampleNonce 0 10 (.error .invalidNonce),
        .generated "10.0.0.2:4000" sampleNonce 5] := by
  constructor
  · exact ⟨_,.of ⟨⟨rfl,trivial⟩,⟨_,_,_,rfl,trivial⟩,⟨_,_,_,rfl,trivial⟩,⟨_,_,_,rfl,nofun⟩,⟨rfl,trivial⟩,
    ⟨_,_,_,rfl,trivial⟩,trivial,⟨_,_,_,rfl,trivial⟩,trivial⟩,by rfl⟩
  · exact ⟨_,.of ⟨⟨rfl,trivial⟩,⟨_,_,_,rfl,trivial⟩,⟨_,_,_,rfl,trivial⟩,⟨_,_,_,rfl,nofun⟩,⟨rfl,trivial⟩,
    ⟨_,_,_,rfl,trivial⟩,trivial,⟨rfl,trivial⟩,⟨_,_,_,rfl,trivial⟩,⟨_,_,_,rfl,trivial⟩,⟨_,_,_,rfl,trivial⟩,
    trivial⟩,by rfl⟩

end Kommodity.Attestation.NonceRuns
