import Mathlib.Data.Nat.Bitwise
import Kommodity.AttestationReport

/-! The PCRs that a selection bitmap names. The indices are collected by two nested loops, over the
bytes and over the bits of a byte, and sorted at the end; the digest of a quote is computed over them
in that order. -/
namespace Kommodity.Attestation

open Go

/-- `b&(1<<bit) != 0`. -/
def maskSet (b : UInt8) (bit : Nat) : Bool := b &&& 1 <<< UInt8.ofNat bit ≠ 0

/-- The body of the loop over the bits. -/
def selectBit (byteIdx : Nat) (b : UInt8) (indices : List Int) (bit : Nat) : List Int :=
  if maskSet b bit then indices ++ [(byteIdx * 8 + bit : Int)] else indices

/-- The body of the loop over the bytes. -/
def selectByte (byteIdx : Nat) (b : UInt8) (indices : List Int) : List Int :=
  (List.range 8).foldl (selectBit byteIdx b) indices

/-- The loop over the bytes from `byteIdx` on. -/
def selectBytes (byteIdx : Nat) (indices : List Int) : Bytes → List Int
  | [] => indices
  | b :: rest => selectBytes (byteIdx + 1) (selectByte byteIdx b indices) rest

theorem maskSet_eq_testBit (b : UInt8) (low : bit < 8) : maskSet b bit = b.toNat.testBit bit := by
  have mask : (1 <<< UInt8.ofNat bit : UInt8).toNat = 2 ^ bit := by
    have small : 2 ^ bit < 2 ^ 8 := Nat.pow_lt_pow_right (by omega) low
    have shift : bit % 2 ^ 8 % 8 = bit := by omega
    rw [UInt8.toNat_shiftLeft,UInt8.toNat_ofNat',shift,UInt8.toNat_one,Nat.one_shiftLeft,Nat.mod_eq_of_lt small]
  have zero : b &&& 1 <<< UInt8.ofNat bit = 0 ↔ b.toNat.testBit bit = false := by
    rw [← UInt8.toNat_inj,UInt8.toNat_and,mask,Nat.and_two_pow,UInt8.toNat_zero]
    cases b.toNat.testBit bit <;> simp
  rw [Bool.eq_iff_iff,maskSet,decide_eq_true_eq,ne_eq,zero,Bool.not_eq_false]

/-- Bit `n % 8` of byte `n / 8` is set. -/
def Selects (select : Bytes) (n : Nat) : Prop := ∃ b, select[n / 8]? = some b ∧ b.toNat.testBit (n % 8) = true

theorem Selects.lt (selects : Selects select n) : n < select.length * 8 := by
  obtain ⟨b,found,_⟩ := selects
  have inside := (List.getElem?_eq_some_iff.mp found).1
  omega

theorem selects_concat (before : Bytes) (b : UInt8) (n : Nat) : Selects (before ++ [b]) n ↔
    Selects before n ∨ n / 8 = before.length ∧ b.toNat.testBit (n % 8) = true := by
  unfold Selects
  rcases Nat.lt_trichotomy (n / 8) before.length with inside | last | outside
  · simp [List.getElem?_append_left inside,Nat.ne_of_lt inside]
  · simp [last]
  · have beyond : (before ++ [b]).length ≤ n / 8 := by
      rw [List.length_append,List.length_singleton]
      omega
    simp [List.getElem?_eq_none (Nat.le_of_lt outside),List.getElem?_eq_none beyond,Nat.ne_of_gt outside]

/-- The loops have collected the bits of the bytes behind them, in ascending order. -/
structure Selected (select : Bytes) (indices : List Int) : Prop where
  ascending : indices.Pairwise (· < ·)
  members : ∀ i, i ∈ indices ↔ ∃ n : Nat, i = n ∧ Selects select n

theorem selectByte_eq (byteIdx : Nat) (b : UInt8) (indices : List Int) : selectByte byteIdx b indices =
    indices ++ ((List.range 8).filter (maskSet b)).map fun bit : Nat => (byteIdx * 8 + bit : Int) := by
  have inner (bits : List Nat) : bits.foldl (selectBit byteIdx b) indices =
      indices ++ (bits.filter (maskSet b)).map fun bit : Nat => (byteIdx * 8 + bit : Int) := by
    induction bits generalizing indices with
    | nil => simp
    | cons bit bits ih =>
      rw [List.foldl_cons,ih,selectBit]
      by_cases set : maskSet b bit = true
      · simp [set]
      · simp [set]
  exact inner (List.range 8)

theorem mem_selectByte (b : UInt8) (indices : List Int) (i : Int) : i ∈ selectByte byteIdx b indices ↔
    i ∈ indices ∨ ∃ n : Nat, i = n ∧ n / 8 = byteIdx ∧ b.toNat.testBit (n % 8) = true := by
  rw [selectByte_eq,List.mem_append]
  refine or_congr Iff.rfl ?_
  simp only [List.mem_map,List.mem_filter,List.mem_range]
  constructor
  · rintro ⟨bit,⟨low,set⟩,rfl⟩
    rw [maskSet_eq_testBit b low] at set
    have bit' : (byteIdx * 8 + bit) % 8 = bit := by omega
    exact ⟨byteIdx * 8 + bit,by push_cast; rfl,by omega,by rwa [bit']⟩
  · rintro ⟨n,rfl,here,set⟩
    have low : n % 8 < 8 := Nat.mod_lt n (by decide)
    exact ⟨n % 8,⟨low,by rwa [maskSet_eq_testBit b low]⟩,by omega⟩

theorem Selected.selectByte (selected : Selected before indices) (b : UInt8) :
    Selected (before ++ [b]) (selectByte before.length b indices) := by
  refine ⟨?_,?_⟩
  · rw [selectByte_eq,List.pairwise_append]
    refine ⟨selected.ascending,?_,?_⟩
    · rw [List.pairwise_map]
      refine (List.pairwise_lt_range.filter _).imp ?_
      intro x y less
      omega
    · intro i old j new
      obtain ⟨n,rfl,selects⟩ := (selected.members i).mp old
      obtain ⟨bit,_,rfl⟩ := List.mem_map.mp new
      have := selects.lt
      omega
  · intro i
    rw [mem_selectByte,selected.members]
    simp only [selects_concat,and_or_left,exists_or]

theorem Selected.selectBytes (selected : Selected before indices) (rest : Bytes) :
    Selected (before ++ rest) (selectBytes before.length indices rest) := by
  induction rest generalizing before indices with
  | nil => simpa [Attestation.selectBytes] using selected
  | cons b rest ih => simpa [Attestation.selectBytes] using ih (selected.selectByte b)

theorem pcrIndicesFromSelection_eq (sel : PCRSelection) :
    pcrIndicesFromSelection sel = (selectBytes 0 [] sel.pcrSelect).mergeSort (· ≤ ·) := by
  have loop (before : Nat) (rest : Bytes) (indices : List Int) : selectBytes before indices rest =
      indices ++ (rest.zipIdx before).flatMap fun p =>
        ((List.range 8).filter fun bit => p.1.toNat.testBit bit).map fun bit : Nat => (p.2 * 8 + bit : Int) := by
    induction rest generalizing before indices with
    | nil => simp [selectBytes]
    | cons b rest ih =>
      have same : (List.range 8).filter (maskSet b) = (List.range 8).filter fun bit => b.toNat.testBit bit :=
        List.filter_congr fun bit low => maskSet_eq_testBit b (List.mem_range.mp low)
      rw [selectBytes,ih,selectByte_eq,same]
      simp
  rw [pcrIndicesFromSelection,loop,List.nil_append]
  refine congrArg (List.mergeSort · _) (List.flatMap_congr fun p _ => ?_)
  rw [List.map_eq_flatMap]
  simp [List.flatMap,Function.comp_def]

/-- A selection is decoded to the indices of its set bits, in ascending order. -/
theorem pcrIndicesFromSelection_exact (sel : PCRSelection) :
    (pcrIndicesFromSelection sel).Pairwise (· < ·) ∧
    ∀ i : Int, i ∈ pcrIndicesFromSelection sel ↔
      ∃ n : Nat, i = n ∧ ∃ b, sel.pcrSelect[n / 8]? = some b ∧ b.toNat.testBit (n % 8) = true := by
  have start : Selected [] [] := ⟨.nil,by simp [Selects]⟩
  have collected : Selected sel.pcrSelect (selectBytes 0 [] sel.pcrSelect) := start.selectBytes sel.pcrSelect
  have sorted : pcrIndicesFromSelection sel = selectBytes 0 [] sel.pcrSelect := by
    rw [pcrIndicesFromSelection_eq]
    refine List.mergeSort_of_pairwise (collected.ascending.imp ?_)
    intro i j less
    simpa using Int.le_of_lt less
  rw [sorted]
  exact ⟨collected.ascending,collected.members⟩

end Kommodity.Attestation
