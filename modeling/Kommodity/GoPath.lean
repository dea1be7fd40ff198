import Kommodity.GoValues

/-! `path.Join` and `path.Clean` on slash-separated paths. -/
namespace Go.Path

/-- One element of a path: what stands between two slashes and is none of the dot names. -/
def Segment (s : String) : Prop := s ≠ "" ∧ '/' ∉ s.toList ∧ s ≠ "." ∧ s ≠ ".."

instance : Decidable (Segment s) := by unfold Segment; infer_instance

/-- How `Clean` treats the next element, given the kept ones with the last in front. -/
def cleanStep (rooted : Bool) (kept : List String) (element : String) : List String :=
  if element = "" ∨ element = "." then kept
  else if element = ".." then
    match kept with
    | [] => if rooted then [] else [".."]
    | ".." :: _ => ".." :: kept
    | _ :: rest => rest
  else element :: kept

def clean (path : String) : String :=
  let rooted := hasPrefix path "/"
  let kept := ((split path '/').foldl (cleanStep rooted) []).reverse
  if rooted then "/" ++ Go.join kept "/"
  else if kept = [] then "." else Go.join kept "/"

/-- Empty elements are left out before the path is cleaned. -/
def join (elements : List String) : String :=
  match elements.filter (· ≠ "") with
  | [] => ""
  | kept => clean (Go.join kept "/")

theorem cleanStep_segment (valid : Segment element) :
    cleanStep rooted kept element = element :: kept := by
  obtain ⟨nonempty,_,notDot,notParent⟩ := valid
  simp [cleanStep,nonempty,notDot,notParent]

theorem split_slash (noSlash : '/' ∉ a.toList) (rest : String) :
    split (a ++ "/" ++ rest) '/' = a :: split rest '/' := by
  have first : (a.toList ++ '/' :: rest.toList).splitOn '/' =
      a.toList :: rest.toList.splitOn '/' := by
    apply List.splitOnP_append_cons_of_forall_mem
    · intro c member
      rw [beq_eq_false_iff_ne]
      rintro rfl
      exact noSlash member
    · simp
  simp only [split,String.toList_append,List.append_assoc]
  rw [show "/".toList ++ rest.toList = '/' :: rest.toList from rfl,first]
  simp

theorem split_single (noSlash : '/' ∉ a.toList) : split a '/' = [a] := by
  have single : a.toList.splitOn '/' = [a.toList] := by
    apply List.splitOnP_eq_singleton
    intro c member
    rw [beq_eq_false_iff_ne]
    rintro rfl
    exact noSlash member
  simp [split,single]

theorem join_segments (validA : Segment a) (validB : Segment b) :
    join ["/" ++ a,b] = "/" ++ a ++ "/" ++ b := by
  have rooted : hasPrefix ("/" ++ a ++ "/" ++ b) "/" = true := by
    rw [hasPrefix_iff]
    exact ⟨a ++ "/" ++ b,by simp [String.append_assoc]⟩
  have parts : split ("/" ++ a ++ "/" ++ b) '/' = ["",a,b] := by
    have outer := split_slash (a := "") (by simp) (a ++ "/" ++ b)
    rw [String.empty_append] at outer
    have regroup : "/" ++ a ++ "/" ++ b = "/" ++ (a ++ "/" ++ b) := by
      simp only [String.append_assoc]
    rw [regroup,outer,split_slash validA.2.1,split_single validB.2.1]
  have kept : ["/" ++ a,b].filter (· ≠ "") = ["/" ++ a,b] := by
    simp [validB.1]
  have text : Go.join ["/" ++ a,b] "/" = "/" ++ a ++ "/" ++ b := rfl
  simp only [join,kept,text,clean,rooted,parts,↓reduceIte,List.foldl_cons,List.foldl_nil]
  rw [show cleanStep true [] "" = [] from rfl,cleanStep_segment validA,cleanStep_segment validB]
  simp [Go.join,String.append_assoc]

example : join ["/secrets","../x"] = "/x" := by decide

end Go.Path
