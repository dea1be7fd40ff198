import Kommodity.GoValues

/-! Connections as streams of bytes. What a peer sends arrives in segments of any length, and a
`Read` returns a part of one segment; bytes that are written go out in order. No connection here
fails: a stream ends with `io.EOF`. -/
namespace Go

/-- What the reads of a connection find, one after another, up to the end of the stream. -/
structure Reader where
  segments : List Bytes
  deriving DecidableEq

namespace Reader

/-- The stream, however it is segmented. -/
def bytes (r : Reader) : Bytes := r.segments.flatten

/-- `Read` into a buffer of the given length; `none` is `io.EOF`. -/
def read (r : Reader) (length : Nat) : Option (Bytes × Reader) :=
  match r.segments with
  | [] => none
  | segment :: rest =>
    some (segment.take length,⟨if segment.length ≤ length then rest else segment.drop length :: rest⟩)

/-- `io.ReadFull` into a buffer of one byte, which reads again after a `Read` of no bytes. -/
def readByteFrom : List Bytes → Option (UInt8 × Reader)
  | [] => none
  | [] :: rest => readByteFrom rest
  | (b :: segment) :: rest => some (b,⟨if segment = [] then rest else segment :: rest⟩)

def readByte (r : Reader) : Option (UInt8 × Reader) := readByteFrom r.segments

/-- A bound on the reads that are left. -/
def work (r : Reader) : Nat := r.bytes.length + r.segments.length

theorem read_eq_none_iff (r : Reader) (length : Nat) : r.read length = none ↔ r.segments = [] := by
  unfold read
  split <;> simp_all

theorem bytes_of_read {r : Reader} (read : r.read length = some (chunk,rest)) :
    r.bytes = chunk ++ rest.bytes := by
  obtain ⟨segments⟩ := r
  cases segments with
  | nil => cases read
  | cons segment others =>
    cases read
    by_cases fits : segment.length ≤ length
    · simp [bytes,fits,List.take_of_length_le fits]
    · simp [bytes,fits,← List.append_assoc]

theorem work_of_read {r : Reader} (positive : 0 < length) (read : r.read length = some (chunk,rest)) :
    rest.work < r.work := by
  obtain ⟨segments⟩ := r
  cases segments with
  | nil => cases read
  | cons segment others =>
    cases read
    by_cases fits : segment.length ≤ length
    · simp [work,bytes,fits]
      omega
    · simp [work,bytes,fits]
      omega

theorem bytes_of_readByte {r : Reader} (read : r.readByte = some (b,rest)) : r.bytes = b :: rest.bytes := by
  obtain ⟨segments⟩ := r
  simp only [readByte] at read
  induction segments with
  | nil => cases read
  | cons segment others ih =>
    cases segment with
    | nil => simpa [bytes] using ih read
    | cons b segment =>
      cases read
      by_cases last : segment = []
      · simp [bytes,last]
      · simp [bytes,last]

theorem bytes_of_readByte_none {r : Reader} (ended : r.readByte = none) : r.bytes = [] := by
  obtain ⟨segments⟩ := r
  simp only [readByte] at ended
  induction segments with
  | nil => rfl
  | cons segment others ih =>
    cases segment with
    | nil => simpa [bytes] using ih ended
    | cons b segment => cases ended

end Reader

/-- A connection as its owner sees it: what is to be read, and what has been written. -/
structure Conn where
  incoming : Reader
  written : Bytes
  writeClosed : Bool
  deriving DecidableEq

namespace Conn

/-- A connection through which nothing has been written. -/
def fresh (incoming : Reader) : Conn := ⟨incoming,[],false⟩

def write (c : Conn) (data : Bytes) : Conn := { c with written := c.written ++ data }

/-- `CloseWrite`. -/
def closeWrite (c : Conn) : Conn := { c with writeClosed := true }

end Conn

/-- The length of the buffer of `io.Copy`. -/
def copyBufferLength : Nat := 32 * 1024

/-- `strings.SplitN` at a separator of one byte. -/
def splitN (separator : UInt8) : Nat → Bytes → List Bytes
  | 0,_ => []
  | 1,s => [s]
  | n + 2,s =>
    match s.dropWhile (· ≠ separator) with
    | [] => [s]
    | _ :: rest => s.takeWhile (· ≠ separator) :: splitN separator (n + 1) rest

private theorem all_ne {s : Bytes} (absent : separator ∉ s) : ∀ b ∈ s, decide (b ≠ separator) = true := by
  intro b mem
  rw [decide_eq_true_iff]
  rintro rfl
  exact absent mem

theorem splitN_of_not_mem {separator : UInt8} (absent : separator ∉ s) : splitN separator (n + 2) s = [s] := by
  have dropped : s.dropWhile (· ≠ separator) = [] := by
    have cut := @List.dropWhile_append_of_pos _ _ s [] (all_ne absent)
    rwa [List.append_nil] at cut
  simp only [splitN,dropped]

theorem splitN_append {separator : UInt8} (absent : separator ∉ s) :
    splitN separator (n + 2) (s ++ separator :: rest) = s :: splitN separator (n + 1) rest := by
  have dropped : (s ++ separator :: rest).dropWhile (· ≠ separator) = separator :: rest := by
    rw [List.dropWhile_append_of_pos (all_ne absent)]
    simp
  have taken : (s ++ separator :: rest).takeWhile (· ≠ separator) = s := by
    rw [List.takeWhile_append_of_pos (all_ne absent)]
    simp
  simp only [splitN,dropped,taken]

end Go
