import Kommodity.GoValues

/-! The character rules Kubernetes puts on object names, labels and data keys, as decidable
predicates on text, with the rules for text that is put together from parts. -/
namespace Kubernetes

def isLowerAlnum (c : Char) : Bool := ('a' ≤ c && c ≤ 'z') || ('0' ≤ c && c ≤ '9')
def isAlnum (c : Char) : Bool := isLowerAlnum c || ('A' ≤ c && c ≤ 'Z')
def isDNSChar (c : Char) : Bool := isLowerAlnum c || c == '-'
def isLabelChar (c : Char) : Bool := isAlnum c || c == '-' || c == '_' || c == '.'

/-- Non-empty text of `body` characters whose first and last character are `outer` ones. -/
def Bracketed (outer body : Char → Bool) (s : List Char) : Prop :=
  s ≠ [] ∧ (∀ c ∈ s, body c) ∧ (∀ c ∈ s.head?, outer c) ∧ ∀ c ∈ s.getLast?, outer c

theorem bracketed_iff_all : Bracketed outer body s ↔
    s.isEmpty = false ∧ s.all body = true ∧ s.head?.all outer = true ∧ s.getLast?.all outer = true := by
  simp [Bracketed,Option.all_eq_true]

instance : Decidable (Bracketed outer body s) := decidable_of_iff' _ bracketed_iff_all

def DNSLabel (s : String) : Prop :=
  s.toList.length ≤ 63 ∧ Bracketed isLowerAlnum isDNSChar s.toList

def DNSSubdomain (s : String) : Prop :=
  s.toList.length ≤ 253 ∧ ∀ part ∈ s.toList.splitOn '.', Bracketed isLowerAlnum isDNSChar part

def LabelName (s : String) : Prop :=
  s.toList.length ≤ 63 ∧ Bracketed isAlnum isLabelChar s.toList

def LabelValue (s : String) : Prop := s = "" ∨ LabelName s

/-- A label name with an optional subdomain before a slash. -/
def QualifiedName (s : String) : Prop :=
  match Go.split s '/' with
  | [name] => LabelName name
  | [domain,name] => DNSSubdomain domain ∧ LabelName name
  | _ => False

def DataKey (s : String) : Prop :=
  s.toList.length ≤ 253 ∧ s ≠ "" ∧ (∀ c ∈ s.toList, isLabelChar c) ∧ s ≠ "." ∧
    Go.hasPrefix s ".." = false

instance : Decidable (DNSLabel s) := by unfold DNSLabel; infer_instance
instance : Decidable (DNSSubdomain s) := by unfold DNSSubdomain; infer_instance
instance : Decidable (LabelName s) := by unfold LabelName; infer_instance
instance : Decidable (LabelValue s) := by unfold LabelValue; infer_instance
instance : Decidable (QualifiedName s) := by unfold QualifiedName; split <;> infer_instance
instance : Decidable (DataKey s) :=
  decidable_of_iff (s.toList.length ≤ 253 ∧ s ≠ "" ∧ s.toList.all isLabelChar = true ∧ s ≠ "." ∧
    Go.hasPrefix s ".." = false) (by rw [DataKey,List.all_eq_true])

theorem Bracketed.mono (valid : Bracketed outer body s) (ends : ∀ c, outer c → outer' c)
    (middle : ∀ c, body c → body' c) : Bracketed outer' body' s :=
  ⟨valid.1,fun c member => middle c (valid.2.1 c member),fun c first => ends c (valid.2.2.1 c first),
    fun c last => ends c (valid.2.2.2 c last)⟩

theorem Bracketed.append (left : Bracketed outer body s) (middle : body m)
    (right : Bracketed outer body t) : Bracketed outer body (s ++ m :: t) := by
  refine ⟨by simp,?_,?_,?_⟩
  · intro c member
    simp only [List.mem_append,List.mem_cons] at member
    rcases member with inS | rfl | inT
    · exact left.2.1 c inS
    · exact middle
    · exact right.2.1 c inT
  · intro c first
    rw [List.head?_append_of_ne_nil _ left.1] at first
    exact left.2.2.1 c first
  · intro c last
    rw [List.append_cons,List.getLast?_append_of_ne_nil _ right.1] at last
    exact right.2.2.2 c last

theorem dnsSubdomain_of_bracketed {s : String}
    (valid : Bracketed isLowerAlnum isDNSChar s.toList) (short : s.toList.length ≤ 253) :
    DNSSubdomain s := by
  refine ⟨short,?_⟩
  have single : s.toList.splitOn '.' = [s.toList] := by
    apply List.splitOnP_eq_singleton
    intro c member
    rw [beq_eq_false_iff_ne]
    rintro rfl
    exact absurd (valid.2.1 _ member) (by decide)
  intro part member
  rw [single,List.mem_singleton] at member
  rw [member]
  exact valid

theorem isAlnum_of_lower (lower : isLowerAlnum c) : isAlnum c := by
  simp [isAlnum,lower]

theorem isLabelChar_of_dns (valid : isDNSChar c) : isLabelChar c := by
  simp only [isDNSChar,Bool.or_eq_true] at valid
  rcases valid with lower | dash
  · simp [isLabelChar,isAlnum,lower]
  · simp [isLabelChar,dash]

theorem labelName_of_dns {s : String} (valid : Bracketed isLowerAlnum isDNSChar s.toList)
    (short : s.toList.length ≤ 63) : LabelName s :=
  ⟨short,valid.mono (fun _ => isAlnum_of_lower) (fun _ => isLabelChar_of_dns)⟩

theorem not_labelValue_of_mem {s : String} (member : c ∈ s.toList) (bad : isLabelChar c = false) :
    ¬ LabelValue s := by
  rintro (rfl | valid)
  · simp at member
  · have good := valid.2.2.1 c member
    rw [bad] at good
    exact absurd good (by decide)

theorem dataKey_of_first {s : String} (first : s.toList.head? = some c) (alnum : isAlnum c)
    (inside : ∀ c ∈ s.toList, isLabelChar c) (short : s.toList.length ≤ 253) : DataKey s := by
  have notDot : c ≠ '.' := by
    rintro rfl
    exact absurd alnum (by decide)
  refine ⟨short,?_,inside,?_,?_⟩
  · rintro rfl
    simp at first
  · rintro rfl
    simp at first
    exact notDot first.symm
  · cases text : s.toList with
    | nil => simp [text] at first
    | cons d rest =>
      rw [text,List.head?_cons,Option.some_inj] at first
      subst d
      simp [Go.hasPrefix,text,List.isPrefixOf,notDot.symm]

end Kubernetes
