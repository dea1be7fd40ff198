import Mathlib.Order.Lattice
import Mathlib.Algebra.Order.Ring.Int

/-! A token bucket in exact arithmetic. One token is worth an interval of time, so that a credit in
units of time takes the place of fractions of tokens. -/
namespace TokenBucket

/-- The credit at the time of the last grant. -/
structure Bucket where
  credit : Int
  last : Int
  deriving DecidableEq, Repr

variable (interval : Int) (burst : Nat)

/-- A full bucket. Nothing was granted from it, and any time will do for the last grant. -/
def Bucket.full : Bucket := ⟨burst * interval,0⟩

/-- The credit at a time, which never is more than that of a full bucket. A time before the last
grant counts as that of the grant. -/
def Bucket.refill (b : Bucket) (now : Int) : Int := min (burst * interval) (b.credit + max 0 (now - b.last))

/-- Take a token if there is one. -/
def Bucket.allow (b : Bucket) (now : Int) : Bool × Bucket :=
  if interval ≤ b.refill interval burst now then (true,⟨b.refill interval burst now - interval,now⟩)
  else (false,b)

variable {interval burst}

theorem allow_refused {b : Bucket} (refused : (b.allow interval burst now).1 = false) :
    (b.allow interval burst now).2 = b := by
  unfold Bucket.allow at *
  split at refused
  · cases refused
  · rw [if_neg ‹_›]

theorem allow_granted {b : Bucket} (granted : (b.allow interval burst now).1 = true) :
    interval ≤ b.refill interval burst now ∧
    (b.allow interval burst now).2 = ⟨b.refill interval burst now - interval,now⟩ := by
  unfold Bucket.allow at *
  split at granted
  · next enough => exact ⟨enough,by rw [if_pos enough]⟩
  · cases granted

theorem allow_drains {b : Bucket} (granted : (b.allow interval 1 now).1 = true) :
    (b.allow interval 1 now).2.credit ≤ 0 ∧ (b.allow interval 1 now).2.last = now := by
  obtain ⟨_,after⟩ := allow_granted granted
  rw [after]
  refine ⟨?_,rfl⟩
  have full : b.refill interval 1 now ≤ ((1 : Nat) : Int) * interval := min_le_left _ _
  dsimp only
  omega

theorem allow_waits {b : Bucket} (empty : b.credit ≤ 0) (later : b.last ≤ now)
    (granted : (b.allow interval burst now).1 = true) : b.last + interval ≤ now := by
  obtain ⟨enough,_⟩ := allow_granted granted
  have refilled : b.refill interval burst now ≤ b.credit + max 0 (now - b.last) := min_le_right _ _
  omega

end TokenBucket
