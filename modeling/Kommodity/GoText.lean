import Mathlib.Data.List.TakeWhile
import Mathlib.Data.List.Infix
import Kommodity.GoValues

/-! Laws of `strings.Split`, `strings.Join`, `strings.TrimSpace` and `strings.Contains`: a list of texts that is joined and
split again gives the fields of all of them, and space around a field does not survive trimming. UTF-8
is read from left to right. -/
namespace Go

theorem split_append_mark (text rest : String) (mark : Char) :
    split (text ++ String.singleton mark ++ rest) mark = split text mark ++ split rest mark := by
  simp [split,List.splitOn_append_cons_self]

theorem split_join (parts : List String) (filled : parts ≠ []) (mark : Char) :
    split (join parts (String.singleton mark)) mark = parts.flatMap (split · mark) := by
  induction parts with
  | nil => exact absurd rfl filled
  | cons first rest ih =>
    cases rest with
    | nil => simp [join]
    | cons second rest =>
      rw [List.flatMap_cons,← ih (by simp),← split_append_mark]
      simp only [join,String.intercalate_cons_cons]

/-- `strings.Contains`. -/
def contains (s part : String) : Bool := decide (part.toList <:+: s.toList)

theorem contains_iff (s part : String) : contains s part = true ↔ part.toList <:+: s.toList := by
  rw [contains,decide_eq_true_iff]

theorem contains_join (listed : part ∈ parts) (separator : String) :
    contains (join parts separator) part = true := by
  rw [contains_iff,join]
  induction parts with
  | nil => cases listed
  | cons first rest ih =>
    cases rest with
    | nil =>
      have whole : String.intercalate separator [first] = part := by
        rw [String.intercalate_singleton,List.mem_singleton.mp listed]
      exact whole ▸ List.infix_refl _
    | cons second rest =>
      rw [String.intercalate_cons_cons]
      rcases List.mem_cons.mp listed with rfl | later
      · rw [String.append_assoc,String.toList_append]
        exact (List.prefix_append ..).isInfix
      · rw [String.toList_append]
        exact (ih later).trans (List.suffix_append ..).isInfix

theorem join_cons (first : String) (lines : List String) (separator : String) :
    ∃ more, join (first :: lines) separator = first ++ more := by
  cases lines with
  | nil => exact ⟨"",by simp [join]⟩
  | cons second lines =>
    exact ⟨separator ++ join (second :: lines) separator,by simp [join,String.append_assoc]⟩

theorem join_append (first : xs ≠ []) (second : ys ≠ []) (separator : String) :
    join (xs ++ ys) separator = join xs separator ++ separator ++ join ys separator := by
  induction xs with
  | nil => exact absurd rfl first
  | cons x xs ih =>
    cases xs with
    | nil =>
      cases ys with
      | nil => exact absurd rfl second
      | cons y ys => simp [join,String.intercalate_cons_cons]
    | cons x' xs =>
      have rest := ih (by simp)
      simp only [join,List.cons_append,String.intercalate_cons_cons] at rest ⊢
      rw [rest]
      simp only [String.append_assoc]

theorem mem_join (listed : c ∈ (join parts separator).toList) :
    c ∈ separator.toList ∨ ∃ part ∈ parts, c ∈ part.toList := by
  rw [join] at listed
  induction parts with
  | nil => simp at listed
  | cons first rest ih =>
    cases rest with
    | nil => exact .inr ⟨first,List.mem_singleton_self first,by simpa using listed⟩
    | cons second rest =>
      rw [String.intercalate_cons_cons] at listed
      simp only [String.toList_append,List.mem_append] at listed
      rcases listed with (here | mark) | later
      · exact .inr ⟨first,List.mem_cons_self,here⟩
      · exact .inl mark
      · rcases ih later with mark | ⟨part,member,inside⟩
        · exact .inl mark
        · exact .inr ⟨part,List.mem_cons_of_mem _ member,inside⟩

theorem contains_trans (outer : contains s part = true) (within : contains part piece = true) :
    contains s piece = true := by
  rw [contains_iff] at *
  exact within.trans outer

/-- `strings.Cut` at a one-character separator: the texts before and after the first one. -/
def cut (s : String) (mark : Char) : Option (String × String) :=
  if mark ∈ s.toList then
    some (String.ofList (s.toList.takeWhile (· ≠ mark)),String.ofList ((s.toList.dropWhile (· ≠ mark)).drop 1))
  else none

/-- Text that `strings.TrimSpace` takes away. -/
def Blank (s : String) : Prop := ∀ c ∈ s.toList, isSpace c = true

instance (s : String) : Decidable (Blank s) := List.decidableBAll _ s.toList

theorem trimSpace_toList (s : String) : (trimSpace s).toList =
    ((s.toList.dropWhile isSpace).reverse.dropWhile isSpace).reverse := by
  simp [trimSpace]

theorem trimSpace_blank_left (blank : Blank before) (s : String) : trimSpace (before ++ s) = trimSpace s := by
  apply String.toList_inj.mp
  rw [trimSpace_toList,trimSpace_toList,String.toList_append,List.dropWhile_append_of_pos blank]

theorem trimSpace_blank_right (blank : Blank after) (s : String) : trimSpace (s ++ after) = trimSpace s := by
  have outer : ∀ c ∈ after.toList.reverse, isSpace c = true :=
    fun c listed => blank c (List.mem_reverse.mp listed)
  apply String.toList_inj.mp
  rw [trimSpace_toList,trimSpace_toList,String.toList_append,List.dropWhile_append]
  split
  · next empty =>
    rw [List.isEmpty_iff] at empty
    rw [empty,List.dropWhile_eq_nil_iff.mpr blank]
  · rw [List.reverse_append,List.dropWhile_append_of_pos outer]

theorem trimSpace_append (begins : s.toList = c :: later) (ends : s.toList = initial ++ [e])
    (first : isSpace c = false) (last : isSpace e = false) (rest : String) :
    trimSpace (s ++ rest) = s ++ String.ofList (rest.toList.reverse.dropWhile isSpace).reverse := by
  have kept : (s.toList ++ rest.toList).dropWhile isSpace = s.toList ++ rest.toList := by
    rw [begins,List.cons_append,List.dropWhile_cons_of_neg (by simp [first])]
  have stops : s.toList.reverse.dropWhile isSpace = s.toList.reverse := by
    rw [ends,List.reverse_concat,List.dropWhile_cons_of_neg (by simp [last])]
  apply String.toList_inj.mp
  rw [trimSpace_toList,String.toList_append,kept,List.reverse_append,List.dropWhile_append,stops,
    String.toList_append,String.toList_ofList]
  split
  · next blank =>
    rw [List.isEmpty_iff] at blank
    simp [blank]
  · simp

theorem trimSpace_eq_self (begins : s.toList = c :: later) (ends : s.toList = initial ++ [e])
    (first : isSpace c = false) (last : isSpace e = false) : trimSpace s = s := by
  simpa using trimSpace_append begins ends first last ""

theorem trimSpace_ne_empty (listed : c ∈ s.toList) (solid : isSpace c = false) : trimSpace s ≠ "" := by
  intro empty
  have trimmed := congrArg String.toList empty
  rw [trimSpace_toList,String.toList_empty,List.reverse_eq_nil_iff,List.dropWhile_eq_nil_iff] at trimmed
  rw [← List.takeWhile_append_dropWhile (p := isSpace) (l := s.toList),List.mem_append] at listed
  rcases listed with before | after
  · rw [List.mem_takeWhile_imp before] at solid
    cases solid
  · rw [trimmed c (List.mem_reverse.mpr after)] at solid
    cases solid

/-- The same text with space before and after it. -/
def Padded (padded text : String) : Prop :=
  ∃ before after, Blank before ∧ Blank after ∧ padded = before ++ text ++ after

theorem Blank.not_mem (blank : Blank s) (solid : isSpace mark = false) : mark ∉ s.toList := by
  intro listed
  rw [blank mark listed] at solid
  cases solid

theorem split_of_not_mem (absent : mark ∉ s.toList) : split s mark = [s] := by
  simp [split,List.splitOn_eq_singleton absent]

theorem eq_first_part (s : String) (mark : Char) : mark ∉ s.toList ∨
    ∃ first rest : String, mark ∉ first.toList ∧ s = first ++ String.singleton mark ++ rest := by
  by_cases listed : mark ∈ s.toList
  · obtain ⟨first,rest,parts,absent⟩ := List.eq_append_cons_of_mem listed
    refine .inr ⟨String.ofList first,String.ofList rest,by simpa using absent,?_⟩
    apply String.toList_inj.mp
    simp [parts]
  · exact .inl listed

theorem split_blank_left (blank : Blank before) (solid : isSpace mark = false) (s : String) :
    (split (before ++ s) mark).map trimSpace = (split s mark).map trimSpace := by
  have clear := blank.not_mem solid
  rcases eq_first_part s mark with absent | ⟨first,rest,absent,rfl⟩
  · rw [split_of_not_mem absent,split_of_not_mem (by simp [clear,absent])]
    simp [trimSpace_blank_left blank]
  · rw [← String.append_assoc,← String.append_assoc,split_append_mark,split_append_mark,
      split_of_not_mem absent,split_of_not_mem (by simp [clear,absent])]
    simp [trimSpace_blank_left blank]

theorem split_blank_right (blank : Blank after) (solid : isSpace mark = false) (s : String) :
    (split (s ++ after) mark).map trimSpace = (split s mark).map trimSpace := by
  have clear := blank.not_mem solid
  rcases eq_first_part s mark with absent | ⟨first,rest,absent,rfl⟩
  · rw [split_of_not_mem absent,split_of_not_mem (by simp [clear,absent])]
    simp [trimSpace_blank_right blank]
  · have shorter : rest.toList.length < (first ++ String.singleton mark ++ rest).toList.length := by
      simp; omega
    rw [String.append_assoc,split_append_mark,split_append_mark,List.map_append,List.map_append,
      split_blank_right blank solid rest]
termination_by s.toList.length

theorem Padded.split (padded : Padded p s) (solid : isSpace mark = false) :
    (Go.split p mark).map trimSpace = (Go.split s mark).map trimSpace := by
  obtain ⟨before,after,left,right,rfl⟩ := padded
  rw [split_blank_right right solid,split_blank_left left solid]

theorem utf8_comparable {s t : List Char} {x y : ByteArray} (same : s.utf8Encode ++ x = t.utf8Encode ++ y) :
    s <+: t ∨ t <+: s := by
  induction s generalizing t with
  | nil => exact .inl t.nil_prefix
  | cons c s ih =>
    cases t with
    | nil => exact .inr List.nil_prefix
    | cons d t =>
      simp only [List.utf8Encode_cons (l := s),List.utf8Encode_cons (l := t),ByteArray.append_assoc] at same
      have heads := congrArg (ByteArray.utf8DecodeChar? · 0) same
      simp only [List.utf8DecodeChar?_utf8Encode_singleton_append,Option.some.injEq] at heads
      subst d
      have tails := (ByteArray.append_right_inj _).mp same
      simpa only [List.prefix_cons_inj] using ih tails

theorem bytes_comparable {s t : String} {x y : Bytes} (same : bytes s ++ x = bytes t ++ y) :
    s.toList <+: t.toList ∨ t.toList <+: s.toList := by
  have arrays : s.toList.utf8Encode ++ ⟨⟨x⟩⟩ = t.toList.utf8Encode ++ ⟨⟨y⟩⟩ := by
    apply ByteArray.ext
    apply Array.toList_inj.mp
    simpa [bytes] using same
  exact utf8_comparable arrays

theorem bytes_toList (s : String) : bytes s = s.toList.flatMap String.utf8EncodeChar := by
  have whole : s.toByteArray = s.toList.utf8Encode := by simp
  rw [bytes,whole,List.utf8Encode,List.data_toByteArray]

theorem bytes_starts {s t : String} (starts : s.toList <+: t.toList) : bytes s <+: bytes t := by
  rw [bytes_toList,bytes_toList]
  obtain ⟨rest,whole⟩ := starts
  rw [← whole,List.flatMap_append]
  exact List.prefix_append _ _

theorem ascii_of_utf8 (listed : b ∈ String.utf8EncodeChar c) (low : b.toNat < 128) :
    c.val.toNat = b.toNat := by
  have high {n : Nat} (wide : 128 ≤ n) (fits : n < 256) : b ≠ UInt8.ofNat n := by
    rintro rfl
    rw [UInt8.toNat_ofNat',Nat.mod_eq_of_lt fits] at low
    omega
  unfold String.utf8EncodeChar at listed
  dsimp only at listed
  split at listed
  · rw [List.mem_singleton.mp listed,UInt8.toNat_ofNat']
    omega
  exfalso
  simp only [apply_ite (b ∈ ·),List.mem_cons,List.not_mem_nil,or_false] at listed
  split at listed
  · rcases listed with same | same
    all_goals exact high (by omega) (by omega) same
  split at listed
  · rcases listed with same | same | same
    all_goals exact high (by omega) (by omega) same
  · rcases listed with same | same | same | same
    all_goals exact high (by omega) (by omega) same

/-- The characters of an ASCII text, byte by byte. -/
def asciiRunes (s : String) : List Char := (bytes s).map fun b => Char.ofNat b.toNat

theorem utf8EncodeChar_of_ascii (low : ∀ b ∈ String.utf8EncodeChar c, b.toNat < 128) :
    (String.utf8EncodeChar c).map (fun b => Char.ofNat b.toNat) = [c] := by
  obtain ⟨b,rest,eq⟩ := List.exists_cons_of_ne_nil (String.utf8EncodeChar_ne_nil (c := c))
  have same := ascii_of_utf8 (c := c) (by simp [eq]) (low b (by simp [eq]))
  have small : c.val.toNat ≤ 127 := by
    have := low b (by simp [eq])
    omega
  have encoded : String.utf8EncodeChar c = [UInt8.ofNat c.val.toNat] := by
    simp only [String.utf8EncodeChar,if_pos small]
  rw [encoded,List.map_singleton,UInt8.toNat_ofNat',Nat.mod_eq_of_lt (by omega)]
  exact congrArg (fun d => [d]) (Char.ofNat_toNat c)

theorem toList_of_ascii (low : (bytes s).all (·.toNat < 128) = true) : s.toList = asciiRunes s := by
  simp only [List.all_eq_true,decide_eq_true_eq] at low
  rw [bytes_toList] at low
  rw [asciiRunes,bytes_toList]
  generalize s.toList = runes at low ⊢
  induction runes with
  | nil => rfl
  | cons c rest ih =>
    simp only [List.flatMap_cons,List.mem_append,List.map_append] at low ⊢
    rw [utf8EncodeChar_of_ascii fun b member => low b (.inl member),
      ← ih fun b member => low b (.inr member)]
    rfl

end Go
