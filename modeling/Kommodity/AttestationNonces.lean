import Kommodity.AttestationReport
import Kommodity.GoNet
import Kommodity.Transition

/-! The nonce store of the attestation service: single-use nonces with an expiry, each bound to
the canonical form of the address it was issued to. -/
namespace Kommodity.Attestation

open Go Go.Net Transition

def nonceSize : Nat := 32

structure NonceRecord where
  expiresAt : Int
  ip : String
  deriving DecidableEq, Repr

structure NonceStore where
  ttl : Int
  data : Map String NonceRecord

/-- The port, if there is one, is dropped. -/
def canonicalIP (hostport : String) : Except Error String :=
  let host := match splitHostPort hostport with
    | some (host,_) => host
    | none => hostport
  match parseAddr host with
  | none => .error (.wrap "failed to parse IP address" (.parseAddr host))
  | some addr => .ok addr.string

/-- What `Generate` reads from `crypto/rand`. -/
structure Reservation where
  data : Bytes
  full : data.length = nonceSize

def Reservation.nonce (r : Reservation) : String := hexEncodeToString r.data

/-- Random bytes that give the sample nonce. -/
def sampleReservation : Reservation := ⟨List.replicate 31 0 ++ [7],rfl⟩

namespace NonceStore

def newNonceStore (ttl : Int) : NonceStore := ⟨ttl,∅⟩

/-- The nonce and its expiry, with the store that remembers them. -/
def generate (s : NonceStore) (ip : String) (reservation : Reservation) (now : Int) :
    Except Error ((String × Int) × NonceStore) :=
  match canonicalIP ip with
  | .error cause => .error (.wrap "failed to canonicalize IP" cause)
  | .ok canonical =>
    let exp := now + s.ttl
    .ok ((reservation.nonce,exp),⟨s.ttl,s.data.insert reservation.nonce ⟨exp,canonical⟩⟩)

/-- A valid nonce is consumed. So is an expired one, but not one presented from another address. -/
def use (s : NonceStore) (ip nonce : String) (now : Int) : Except Error Bool × NonceStore :=
  match canonicalIP ip with
  | .error cause => (.error (.wrap "failed to canonicalize IP" cause),s)
  | .ok canonical =>
    match s.data.lookup nonce with
    | none => (.error .invalidNonce,s)
    | some record =>
      if canonical ≠ record.ip then (.error .ipMismatch,s)
      else if record.expiresAt < now then (.error .expiredNonce,⟨s.ttl,s.data.erase nonce⟩)
      else (.ok true,⟨s.ttl,s.data.erase nonce⟩)

/-- One round of the background reaper. -/
def reap (s : NonceStore) (now : Int) : NonceStore :=
  ⟨s.ttl,s.data.deleteWhere fun record => record.expiresAt < now⟩

inductive Action where
  | generate (ip : String) (reservation : Reservation) (now : Int)
  | use (ip nonce : String) (now : Int)
  | reap (now : Int)

def step (s : NonceStore) : Action → NonceStore
  | .generate ip reservation now =>
    match s.generate ip reservation now with
    | .ok (_,next) => next
    | .error _ => s
  | .use ip nonce now => (s.use ip nonce now).2
  | .reap now => s.reap now

/-- The store under any interleaving of its operations. -/
def system : System NonceStore Action := ⟨fun _ _ => True,step⟩

/-- Every stored nonce was drawn by `Generate` and is bound to a canonical address. -/
def Issued (s : NonceStore) : Prop :=
  ∀ nonce record, s.data.lookup nonce = some record →
    (∃ reservation : Reservation, nonce = reservation.nonce) ∧
    ∃ ip, canonicalIP ip = .ok record.ip

theorem newNonceStore_issued (ttl : Int) : Issued (newNonceStore ttl) := by
  intro nonce record found
  simp [newNonceStore] at found

theorem Issued.of_less (issued : Issued s) (less : ∀ nonce record,
    t.data.lookup nonce = some record → s.data.lookup nonce = some record) : Issued t :=
  fun nonce record found => issued nonce record (less nonce record found)

theorem lookup_erase_some {m : Map String V} (found : (m.erase a).lookup k = some v) :
    m.lookup k = some v := by
  by_cases same : k = a
  · subst same
    simp at found
  · rwa [AList.lookup_erase_ne same] at found

theorem use_less (s : NonceStore) (ip nonce : String) (now : Int)
    (found : (s.use ip nonce now).2.data.lookup k = some record) :
    s.data.lookup k = some record := by
  unfold use at found
  split at found
  · exact found
  · split at found
    · exact found
    · split at found
      · exact found
      · split at found
        · exact lookup_erase_some found
        · exact lookup_erase_some found

theorem step_issued (issued : Issued s) (a : Action) : Issued (step s a) := by
  cases a with
  | generate ip reservation now =>
    unfold step generate
    dsimp only
    split
    · next granted =>
      split at granted
      · simp at granted
      · next canonical parsed =>
        cases granted
        intro nonce record found
        rw [Map.lookup_insert_eq] at found
        split at found
        · next same =>
          cases found
          exact ⟨⟨reservation,same⟩,ip,parsed⟩
        · exact issued nonce record found
    · exact issued
  | use ip nonce now => exact issued.of_less (fun _ _ => use_less s ip nonce now)
  | reap now =>
    apply issued.of_less
    intro nonce record found
    have found : (s.reap now).data.lookup nonce = some record := found
    rw [reap,Map.lookup_deleteWhere] at found
    exact (Option.filter_eq_some_iff.mp found).1

theorem run_issued {ttl : Int} (run : system.Run (newNonceStore ttl) actions s) : Issued s :=
  run.invariant Issued (fun _ a valid _ => step_issued valid a) (newNonceStore_issued ttl)

theorem use_ok (accepted : (use s ip nonce now).1 = .ok valid) :
    ∃ record, s.data.lookup nonce = some record ∧ canonicalIP ip = .ok record.ip := by
  unfold use at accepted
  split at accepted
  · simp at accepted
  · next canonical parsed =>
    split at accepted
    · simp at accepted
    · next record found =>
      split at accepted
      · simp at accepted
      · next same =>
        refine ⟨record,found,?_⟩
        rw [parsed,not_not.mp same]

theorem use_nonempty (issued : Issued s) (accepted : (use s ip nonce now).1 = .ok valid) :
    nonce ≠ "" := by
  obtain ⟨record,found,_⟩ := use_ok accepted
  obtain ⟨⟨reservation,rfl⟩,_⟩ := issued nonce record found
  intro empty
  have length := hexEncodeToString_length reservation.data
  rw [show hexEncodeToString reservation.data = "" from empty,reservation.full] at length
  simp [nonceSize] at length

end NonceStore

end Kommodity.Attestation
