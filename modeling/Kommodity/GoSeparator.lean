import Kommodity.GoText

/-! `strings.Split` at a separator of several characters. Occurrences are found from left to right; an
occurrence never reaches across a character that the separator does not have. -/
namespace Go

theorem prefix_of_prefix_append_cons {mark s z : List α} (foreign : c ∉ mark)
    (start : mark <+: s ++ c :: z) : mark <+: s := by
  rcases List.prefix_or_prefix_of_prefix start (List.prefix_append s (c :: z)) with within | ⟨rest,rfl⟩
  · exact within
  · cases rest with
    | nil => simp
    | cons d rest =>
      obtain ⟨same,_⟩ := List.cons_prefix_cons.mp ((List.prefix_append_right_inj s).mp start)
      exact absurd (by simp [same]) foreign

theorem infix_append_cons {mark x y : List α} (foreign : c ∉ mark) :
    mark <:+: x ++ c :: y ↔ mark <:+: x ∨ mark <:+: y := by
  induction x with
  | nil =>
    rw [List.nil_append,List.infix_cons_iff,List.infix_nil]
    exact or_congr_left ⟨fun start => List.prefix_nil.mp (prefix_of_prefix_append_cons foreign (by simpa using start)),
      fun empty => by simp [empty]⟩
  | cons a x ih =>
    rw [List.cons_append,List.infix_cons_iff,ih,List.infix_cons_iff,← or_assoc]
    refine or_congr_left (or_congr_left ⟨fun start => ?_,fun start => ?_⟩)
    · exact prefix_of_prefix_append_cons foreign (by simpa using start)
    · exact start.trans (List.prefix_append (a :: x) _)

theorem infix_foreign_append {mark x y : List α} (filled : mark ≠ []) (apart : ∀ c ∈ x, c ∉ mark) :
    mark <:+: x ++ y ↔ mark <:+: y := by
  induction x with
  | nil => rfl
  | cons c x ih =>
    have empty : ¬ mark <:+: ([] : List α) := fun found => filled (List.infix_nil.mp found)
    rw [List.cons_append,← List.nil_append (c :: (x ++ y)),infix_append_cons (apart c (by simp)),
      ih fun d member => apart d (List.mem_cons_of_mem _ member)]
    simp [empty]

section FlatMap

variable {mark : List α} {f : α → List α} (own : ∀ a ∈ mark, f a = [a])
  (foreign : ∀ a ∉ mark, ∃ b bs, f a = b :: bs ∧ ∀ c ∈ f a, c ∉ mark)
include own foreign

/-- Replacing foreign elements by foreign elements keeps the places where a text can begin. -/
theorem prefix_flatMap_iff (within : ∀ a ∈ m, a ∈ mark) (s : List α) : m <+: s.flatMap f ↔ m <+: s := by
  induction s generalizing m with
  | nil => rfl
  | cons a s ih =>
    cases m with
    | nil => simp
    | cons x m =>
      rw [List.flatMap_cons]
      by_cases listed : a ∈ mark
      · rw [own a listed,List.singleton_append,List.cons_prefix_cons,List.cons_prefix_cons,
          ih fun b member => within b (List.mem_cons_of_mem _ member)]
      · obtain ⟨b,bs,eq,apart⟩ := foreign a listed
        have other : x ≠ b ∧ x ≠ a := by
          refine ⟨?_,?_⟩
          · rintro rfl
            exact apart x (by simp [eq]) (within x (by simp))
          · rintro rfl
            exact listed (within x (by simp))
        simp [eq,other.1,other.2]

/-- Replacing foreign elements by foreign elements makes no occurrence and undoes none. -/
theorem infix_flatMap_iff (filled : mark ≠ []) (s : List α) : mark <:+: s.flatMap f ↔ mark <:+: s := by
  induction s with
  | nil => rfl
  | cons a s ih =>
    rw [List.flatMap_cons]
    by_cases listed : a ∈ mark
    · have start := prefix_flatMap_iff own foreign (fun _ member => member) (m := mark) (a :: s)
      rw [List.flatMap_cons,own a listed,List.singleton_append] at start
      rw [own a listed,List.singleton_append,List.infix_cons_iff,List.infix_cons_iff,start,ih]
    · obtain ⟨b,bs,eq,apart⟩ := foreign a listed
      rw [infix_foreign_append filled apart,ih,← List.singleton_append,
        infix_foreign_append filled (by simpa using listed)]

end FlatMap

/-- The element goes to the first piece. -/
def pushPiece (a : α) : List (List α) → List (List α)
  | [] => [[a]]
  | piece :: pieces => (a :: piece) :: pieces

theorem pushPiece_append (a : α) (filled : xs ≠ []) : pushPiece a (xs ++ ys) = pushPiece a xs ++ ys := by
  cases xs with
  | nil => exact absurd rfl filled
  | cons x xs => rfl

theorem pushPiece_ne_nil (a : α) (xs : List (List α)) : pushPiece a xs ≠ [] := by
  cases xs <;> simp [pushPiece]

section Pieces

variable {α : Type} [DecidableEq α] {mark : List α}

/-- The pieces between the occurrences, when `skip` elements of one are still to be passed. -/
def piecesFrom (mark : List α) : Nat → List α → List (List α)
  | _,[] => [[]]
  | skip + 1,_ :: s => piecesFrom mark skip s
  | 0,a :: s =>
    if mark <+: a :: s then [] :: piecesFrom mark (mark.length - 1) s else pushPiece a (piecesFrom mark 0 s)

def pieces (mark s : List α) : List (List α) := piecesFrom mark 0 s

theorem piecesFrom_ne_nil (skip : Nat) (s : List α) : piecesFrom mark skip s ≠ [] := by
  induction s generalizing skip with
  | nil => simp [piecesFrom]
  | cons a s ih =>
    cases skip with
    | succ skip => exact ih skip
    | zero =>
      rw [piecesFrom]
      split
      · simp
      · exact pushPiece_ne_nil _ _

theorem piecesFrom_skip (x y : List α) : piecesFrom mark x.length (x ++ y) = pieces mark y := by
  induction x with
  | nil => rfl
  | cons a x ih => exact ih

theorem pieces_mark (filled : mark ≠ []) (y : List α) : pieces mark (mark ++ y) = [] :: pieces mark y := by
  obtain ⟨a,rest,rfl⟩ := List.exists_cons_of_ne_nil filled
  rw [pieces,List.cons_append,piecesFrom,if_pos (by simp)]
  simp only [List.length_cons,Nat.add_sub_cancel]
  rw [piecesFrom_skip]

/-- Splitting goes on as from the start after an occurrence that follows a foreign element. -/
theorem piecesFrom_append_mark (filled : mark ≠ []) (foreign : last ∉ mark) (s y : List α)
    (short : skip ≤ (s ++ [last]).length) :
    piecesFrom mark skip (s ++ [last] ++ (mark ++ y)) = piecesFrom mark skip (s ++ [last]) ++ pieces mark y := by
  induction s generalizing skip with
  | nil =>
    cases skip with
    | succ skip =>
      have none' : skip = 0 := by simpa using short
      subst none'
      exact pieces_mark filled y
    | zero =>
      have outside (z : List α) : ¬ mark <+: last :: z := by
        intro start
        obtain ⟨a,rest,rfl⟩ := List.exists_cons_of_ne_nil filled
        obtain ⟨same,_⟩ := List.cons_prefix_cons.mp start
        exact foreign (by simp [same])
      simp only [List.nil_append,List.singleton_append,piecesFrom,if_neg (outside _)]
      rw [show piecesFrom mark 0 (mark ++ y) = _ from pieces_mark filled y]
      rfl
  | cons a s ih =>
    cases skip with
    | succ skip => exact ih (by simpa using short)
    | zero =>
      simp only [List.cons_append,piecesFrom]
      by_cases start : mark <+: a :: (s ++ [last])
      · have start' : mark <+: a :: (s ++ [last] ++ (mark ++ y)) :=
          start.trans (List.prefix_append (a :: (s ++ [last])) _)
        rw [if_pos start,if_pos start',ih,List.cons_append]
        have length := start.length_le
        simp only [List.length_cons] at length
        omega
      · have start' : ¬ mark <+: a :: (s ++ [last] ++ (mark ++ y)) :=
          fun found => start ((prefix_of_prefix_append_cons foreign (by simpa using found)).trans
            (List.prefix_append (a :: s) [last]))
        rw [if_neg start,if_neg start',ih (Nat.zero_le _),pushPiece_append _ (piecesFrom_ne_nil _ _)]

theorem pieces_append_mark (filled : mark ≠ []) (foreign : last ∉ mark) (s y : List α) :
    pieces mark (s ++ [last] ++ mark ++ y) = pieces mark (s ++ [last]) ++ pieces mark y := by
  rw [List.append_assoc _ mark]
  exact piecesFrom_append_mark filled foreign s y (Nat.zero_le _)

theorem pieces_of_absent (absent : ¬ mark <:+: s) : pieces mark s = [s] := by
  induction s with
  | nil => rfl
  | cons a s ih =>
    rw [List.infix_cons_iff,not_or] at absent
    rw [pieces,piecesFrom,if_neg absent.1,show piecesFrom mark 0 s = _ from ih absent.2]
    rfl

theorem pieces_of_occurs (filled : mark ≠ []) (found : mark <:+: s) :
    ∃ x y, s = x ++ mark ++ y ∧ pieces mark s = x :: pieces mark y := by
  induction s with
  | nil => exact absurd (List.infix_nil.mp found) filled
  | cons a s ih =>
    by_cases start : mark <+: a :: s
    · obtain ⟨y,eq⟩ := start
      exact ⟨[],y,eq.symm,by rw [← eq]; exact pieces_mark filled y⟩
    · obtain ⟨x,y,rfl,eq⟩ := ih ((List.infix_cons_iff.mp found).resolve_left start)
      refine ⟨a :: x,y,rfl,?_⟩
      rw [pieces,piecesFrom,if_neg start,show piecesFrom mark 0 _ = _ from eq]
      rfl

theorem exists_pushPiece_mem (listed : a = b ∨ ∃ piece ∈ ps, a ∈ piece) : ∃ piece ∈ pushPiece b ps, a ∈ piece := by
  cases ps with
  | nil =>
    rcases listed with rfl | ⟨piece,member,_⟩
    · exact ⟨[a],by simp [pushPiece],by simp⟩
    · cases member
  | cons p ps =>
    rcases listed with rfl | ⟨piece,member,inside⟩
    · exact ⟨a :: p,by simp [pushPiece],by simp⟩
    · rcases List.mem_cons.mp member with rfl | later
      · exact ⟨b :: piece,by simp [pushPiece],by simp [inside]⟩
      · exact ⟨piece,by simp [pushPiece,later],inside⟩

theorem exists_piecesFrom_mem (filled : mark ≠ []) (foreign : a ∉ mark) (listed : a ∈ s.drop skip) :
    ∃ piece ∈ piecesFrom mark skip s, a ∈ piece := by
  induction s generalizing skip with
  | nil => simp at listed
  | cons b s ih =>
    cases skip with
    | succ skip => exact ih listed
    | zero =>
      rw [piecesFrom]
      split
      · next start =>
        obtain ⟨y,eq⟩ := start
        have after : a ∈ s.drop (mark.length - 1) := by
          cases mark with
          | nil => exact absurd rfl filled
          | cons d mark =>
            obtain ⟨rfl,rfl⟩ := List.cons.inj eq
            simp_all
        obtain ⟨piece,member,inside⟩ := ih after
        exact ⟨piece,List.mem_cons_of_mem _ member,inside⟩
      · refine exists_pushPiece_mem ?_
        rcases List.mem_cons.mp listed with same | later
        · exact .inl same
        · exact .inr (ih later)

theorem exists_piece_mem (filled : mark ≠ []) (foreign : a ∉ mark) (listed : a ∈ s) :
    ∃ piece ∈ pieces mark s, a ∈ piece :=
  exists_piecesFrom_mem filled foreign listed

end Pieces

/-- `strings.Split` at a separator that is not empty. -/
def splitText (s separator : String) : List String :=
  (pieces separator.toList s.toList).map String.ofList

end Go
