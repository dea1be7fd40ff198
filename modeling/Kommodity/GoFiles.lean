import Kommodity.GoValues
import Kommodity.Interaction

/-! Files on disk, and `os.WriteFile`: the file is opened, which makes it or empties it, then written at the
position of the descriptor, then closed. The kernel can take the bytes in any portions; here it takes them
one at a time, so that others can come in, and a failure or a kill can fall, between any two of them. -/
namespace Go

open Interaction

/-- The bytes of a file after one of them is written; a hole reads as zeros. -/
def putByte (content : Bytes) (offset : Nat) (b : UInt8) : Bytes :=
  content.take offset ++ List.replicate (offset - content.length) 0 ++ b :: content.drop (offset + 1)

theorem putByte_take {data : Bytes} (next : data[n]? = some b) : putByte (data.take n) n b = data.take (n + 1) := by
  obtain ⟨bound,value⟩ := List.getElem?_eq_some_iff.mp next
  have full : (data.take n).length = n := by
    rw [List.length_take]
    omega
  have rest : (data.take n).drop (n + 1) = [] := List.drop_eq_nil_of_le (by omega)
  have before : (data.take n).take n = data.take n := by rw [List.take_take,Nat.min_self]
  rw [putByte,rest,before,full,Nat.sub_self,List.replicate_zero,List.append_nil,
    List.take_add_one,next]
  rfl

inductive FileCall (P : Type) where
  | stat (path : P)
  | mkdirAll
  | openTruncate (path : P)
  | writeByte (path : P) (offset : Nat) (b : UInt8)
  | close (path : P)
  deriving DecidableEq

/-- The answer to a call is its error. -/
abbrev OsError := Option String

structure Files (P : Type) where
  content : P → Option Bytes

namespace Files

variable {P : Type} [DecidableEq P]

def empty : Files P := ⟨fun _ => none⟩

def put (files : Files P) (path : P) (content : Option Bytes) : Files P :=
  ⟨Function.update files.content path content⟩

@[simp] theorem content_put (files : Files P) (path q : P) (content : Option Bytes) :
    (files.put path content).content q = if q = path then content else files.content q := by
  simp [put,Function.update_apply]

/-- `os.Stat` finds only what is there; every call can fail for a reason of its own. -/
def answerable (files : Files P) : FileCall P → OsError → Prop
  | .stat path,none => files.content path ≠ none
  | _,_ => True

instance (files : Files P) : (call : FileCall P) → (err : OsError) → Decidable (files.answerable call err)
  | .stat path,none => inferInstanceAs (Decidable (files.content path ≠ none))
  | .stat _,some _ | .mkdirAll,_ | .openTruncate _,_ | .writeByte _ _ _,_ | .close _,_ => isTrue trivial

/-- A call that fails changes nothing. -/
def serve (files : Files P) : FileCall P → OsError → Files P
  | .openTruncate path,none => files.put path (some [])
  | .writeByte path offset b,none =>
    files.put path ((files.content path).map fun content => putByte content offset b)
  | _,_ => files

@[simp] theorem serve_error (files : Files P) (call : FileCall P) (err : String) :
    files.serve call (some err) = files := by
  cases call <;> rfl

theorem serve_present (files : Files P) (call : FileCall P) (err : OsError) (path : P)
    (present : files.content path ≠ none) : (files.serve call err).content path ≠ none := by
  unfold serve
  split
  · rw [content_put]
    split
    · simp
    · exact present
  · rw [content_put]
    split
    · next same =>
      subst same
      simpa using present
    · exact present
  · exact present

/-- Only an opening and a write change a file, and only their own. -/
def writes : FileCall P → Option P
  | .openTruncate path | .writeByte path _ _ => some path
  | .stat _ | .mkdirAll | .close _ => none

theorem serve_other (files : Files P) (call : FileCall P) (err : OsError) (path : P)
    (other : writes call ≠ some path) : (files.serve call err).content path = files.content path := by
  unfold serve
  split
  · rw [content_put,if_neg]
    rintro rfl
    exact other rfl
  · rw [content_put,if_neg]
    rintro rfl
    exact other rfl
  · rfl

end Files

section WriteFile

variable {P C : Type} {A : C → Type} (ask : FileCall P → Program C A OsError)

def writeBytes (path : P) (offset : Nat) : Bytes → Program C A OsError
  | [] => return none
  | b :: rest => do
    match ← ask (.writeByte path offset b) with
    | some err => return some err
    | none => writeBytes path (offset + 1) rest

def writeFile (path : P) (data : Bytes) : Program C A OsError := do
  match ← ask (.openTruncate path) with
  | some err => return some err
  | none =>
    let written ← writeBytes ask path 0 data
    let closed ← ask (.close path)
    return written.or closed

end WriteFile

end Go
