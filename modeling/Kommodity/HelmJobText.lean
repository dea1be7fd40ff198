import Kommodity.HelmJob

/-! The rendered text of the Helm install job. Values are escaped when they are printed, and the text is
cut at every `---`, also at those inside values: it falls into its three manifests exactly when no value
in the Job holds such a mark. -/
namespace Kommodity.HelmJob

open Go

/-- No document ends within the text. -/
def Clear (s : String) : Prop := contains s "---" = false

instance (s : String) : Decidable (Clear s) := inferInstanceAs (Decidable (_ = _))

theorem clear_iff (s : String) : Clear s ↔ ¬ "---".toList <:+: s.toList := by
  rw [Clear,← contains_iff,Bool.not_eq_true]

theorem mark_toList : "---".toList = ['-','-','-'] := rfl

theorem clear_append (x y : String) (edge : c ≠ '-') :
    Clear (x ++ (String.singleton c ++ y)) ↔ Clear x ∧ Clear y := by
  simp only [clear_iff,String.toList_append,String.toList_singleton,List.singleton_append]
  rw [infix_append_cons (by simpa [mark_toList] using edge),not_or]

theorem Clear.append_left (clear : Clear (x ++ y)) : Clear x := by
  rw [clear_iff] at *
  intro found
  exact clear (by rw [String.toList_append]; exact found.trans (List.prefix_append ..).isInfix)

theorem Clear.append_right (clear : Clear (x ++ y)) : Clear y := by
  rw [clear_iff] at *
  intro found
  exact clear (by rw [String.toList_append]; exact found.trans (List.suffix_append ..).isInfix)

theorem clear_join (clear : ∀ line ∈ lines, Clear line) : Clear (join lines "\n") := by
  induction lines with
  | nil => decide
  | cons first rest ih =>
    cases rest with
    | nil => simpa [join] using clear first (by simp)
    | cons second rest =>
      rw [join,String.intercalate_cons_cons,String.append_assoc]
      refine (clear_append first _ (by decide : '\n' ≠ '-')).mpr ⟨clear first (by simp),ih ?_⟩
      exact fun line member => clear line (List.mem_cons_of_mem _ member)

/-- The characters of a YAML text that do not end a line; `unicode.IsPrint` holds of no others. -/
def printable (c : Char) : Bool :=
  (0x20 ≤ c.val && c.val ≤ 0x7E) || (0xA0 ≤ c.val && c.val ≤ 0xFFFD && c.val ∉ [0x2028,0x2029,0xFEFF]) ||
    0x10000 ≤ c.val

/-- The characters that stand for themselves between double quotes in a shell: all but a quote, a
dollar sign, a backquote and a backslash. -/
def literal (c : Char) : Bool := c ∉ ['"','$',Char.ofNat 96,'\\']

def quotes : List Char := ['"',Char.ofNat 39]

section Escaping

theorem htmlEscape_append (x y : String) : htmlEscape (x ++ y) = htmlEscape x ++ htmlEscape y := by
  apply String.toList_inj.mp
  simp [htmlEscape]

theorem escapeRune_cases (c : Char) : (c ∉ htmlReplacement.map Prod.fst ∧ escapeRune c = [c]) ∨
    ∃ text, (c,text) ∈ htmlReplacement ∧ escapeRune c = text.toList := by
  rw [escapeRune]
  cases found : htmlReplacement.lookup c with
  | none =>
    refine .inl ⟨?_,rfl⟩
    intro listed
    obtain ⟨p,member,rfl⟩ := List.mem_map.mp listed
    simpa using List.lookup_eq_none_iff.mp found p member
  | some text =>
    obtain ⟨before,after,eq,_⟩ := List.lookup_eq_some_iff.mp found
    exact .inr ⟨text,by simp [eq],rfl⟩

/-- An escape is some text, and none of its characters is a dash or means anything to YAML or a shell. -/
theorem htmlReplacement_sound : ∀ p ∈ htmlReplacement, p.2.toList ≠ [] ∧
    (2 ≤ p.2.toList.length ∨ p.2.toList.head? ≠ some p.1) ∧
    ∀ c ∈ p.2.toList, c ≠ '-' ∧ printable c = true ∧ literal c = true ∧ c ∉ quotes := by
  have checked : ∀ p ∈ htmlReplacement, p.2.toList ≠ [] ∧
      (2 ≤ p.2.toList.length ∨ p.2.toList.head? ≠ some p.1) ∧
      p.2.toList.all (fun c => c ≠ '-' ∧ printable c = true ∧ literal c = true ∧ c ∉ quotes) = true := by
    decide
  intro p listed
  obtain ⟨filled,other,sound⟩ := checked p listed
  refine ⟨filled,other,?_⟩
  simpa only [List.all_eq_true,decide_eq_true_eq] using sound

/-- An escaped text has the marks of the text itself. -/
theorem clear_htmlEscape (s : String) : Clear (htmlEscape s) ↔ Clear s := by
  simp only [clear_iff,htmlEscape,String.toList_ofList]
  refine not_congr (infix_flatMap_iff ?_ ?_ (by simp [mark_toList]) _)
  · intro c listed
    have dash : c = '-' := by simpa [mark_toList] using listed
    subst dash
    rfl
  · intro c other
    have dash : c ≠ '-' := by simpa [mark_toList] using other
    rcases escapeRune_cases c with ⟨_,eq⟩ | ⟨text,listed,eq⟩
    · exact ⟨c,[],eq,by simpa [eq,mark_toList] using dash⟩
    · obtain ⟨filled,_,sound⟩ := htmlReplacement_sound _ listed
      obtain ⟨b,bs,cons⟩ := List.exists_cons_of_ne_nil filled
      refine ⟨b,bs,eq.trans cons,?_⟩
      intro d member
      rw [eq] at member
      simpa [mark_toList] using (sound d member).1

/-- No character of the text is escaped. -/
def Plain (s : String) : Prop := ∀ c ∈ s.toList, c ∉ htmlReplacement.map Prod.fst

instance (s : String) : Decidable (Plain s) := List.decidableBAll _ s.toList

theorem length_le_flatMap_escapeRune (s : List Char) : s.length ≤ (s.flatMap escapeRune).length := by
  induction s with
  | nil => simp
  | cons c s ih =>
    have some' : 1 ≤ (escapeRune c).length := by
      rcases escapeRune_cases c with ⟨_,eq⟩ | ⟨text,listed,eq⟩
      · simp [eq]
      · rw [eq]
        exact List.length_pos_of_ne_nil (htmlReplacement_sound _ listed).1
    simp only [List.flatMap_cons,List.length_append,List.length_cons]
    omega

theorem flatMap_escapeRune_eq_iff (s : List Char) :
    s.flatMap escapeRune = s ↔ ∀ c ∈ s, c ∉ htmlReplacement.map Prod.fst := by
  induction s with
  | nil => simp
  | cons c s ih =>
    rw [List.flatMap_cons,List.forall_mem_cons,← ih]
    rcases escapeRune_cases c with ⟨plain,eq⟩ | ⟨text,listed,eq⟩
    · simp [eq,plain]
    · have special : c ∈ htmlReplacement.map Prod.fst := List.mem_map.mpr ⟨_,listed,rfl⟩
      simp only [special,not_true_eq_false,false_and,iff_false]
      intro same
      rw [eq] at same
      rcases (htmlReplacement_sound _ listed).2.1 with long | other
      · have long : 2 ≤ text.toList.length := long
        have lengths := congrArg List.length same
        have shorter := length_le_flatMap_escapeRune s
        simp only [List.length_append,List.length_cons] at lengths
        omega
      · have filled := (htmlReplacement_sound _ listed).1
        obtain ⟨b,bs,cons⟩ := List.exists_cons_of_ne_nil filled
        rw [cons] at same other
        exact other (by simp [(List.cons.inj same).1])

theorem htmlEscape_eq_iff (s : String) : htmlEscape s = s ↔ Plain s := by
  rw [← String.toList_inj,htmlEscape,String.toList_ofList,Plain]
  exact flatMap_escapeRune_eq_iff s.toList

theorem forall_mem_htmlEscape {P : Char → Prop} (escapes : ∀ p ∈ htmlReplacement, ∀ c ∈ p.2.toList, P c)
    (others : ∀ c ∈ s.toList, c ∉ htmlReplacement.map Prod.fst → P c) : ∀ c ∈ (htmlEscape s).toList, P c := by
  intro c listed
  rw [htmlEscape,String.toList_ofList,List.mem_flatMap] at listed
  obtain ⟨d,member,inside⟩ := listed
  rcases escapeRune_cases d with ⟨plain,eq⟩ | ⟨text,listed,eq⟩
  · rw [eq,List.mem_singleton] at inside
    subst inside
    exact others c member plain
  · rw [eq] at inside
    exact escapes _ listed c inside

end Escaping

section Lines

/-- The characters of a text are all printable, and it holds no mark. -/
def checkedText (runes : List Char) : Bool := runes.all printable && !decide ("---".toList <:+: runes)

/-- The first letters of the settings of the script. -/
def initials : List Char := ['R','C','V','I','U','N']

/-- What stands before an action does not end in a dash; what stands after it does not begin with one,
but that one dash may follow the name or the full name. A line without an action is no setting. -/
def Line.checked (line : Line) : Bool :=
  (bytes line.before).all (·.toNat < 128) && (bytes line.after).all (·.toNat < 128) &&
  checkedText (asciiRunes line.before) && checkedText (asciiRunes line.after) &&
  (line.action.isNone && (bytes line.after).isEmpty ||
    (asciiRunes line.before).getLast?.any (· ≠ '-')) &&
  ((asciiRunes line.after).head?.all (· ≠ '-') ||
    line.action ∈ [some .name,some .fullName] && ((asciiRunes line.after).drop 1).head?.any (· ≠ '-')) &&
  (line.action.isSome || (asciiRunes line.before).head?.all (· ∉ initials))

/-- The lines of the manifests below their headers, with those that stand there under a condition. -/
def bodyLines : List Line := clusterRoleBinding ++ serviceAccount ++ jobHead true true

/-- All lines of the template. -/
def templateLines : List Line :=
  header "rbac.authorization.k8s.io/v1" "ClusterRoleBinding" ++ header "v1" "ServiceAccount" ++
    header "batch/v1" "Job" ++ bodyLines ++ script

theorem templateLines_checked : ∀ line ∈ templateLines, line.checked = true := by decide +kernel

/-- A line that values can be put into without making a mark or an unprintable text. -/
structure Line.Sound (line : Line) : Prop where
  printableBefore : ∀ c ∈ line.before.toList, printable c = true
  printableAfter : ∀ c ∈ line.after.toList, printable c = true
  clearBefore : Clear line.before
  clearAfter : Clear line.after
  edge : line.action = none ∧ line.after = "" ∨
    ∃ start c, line.before = start ++ String.singleton c ∧ c ≠ '-'
  joint : line.after = "" ∨ (∃ c rest, line.after = String.singleton c ++ rest ∧ c ≠ '-') ∨
    line.action ∈ [some .name,some .fullName] ∧
      ∃ c rest, line.after = "-" ++ String.singleton c ++ rest ∧ c ≠ '-'
  initial : line.action = none → line.before.toList.head?.all (· ∉ initials) = true

theorem eq_append_singleton {s : String} (last : s.toList.getLast? = some c) :
    ∃ start, s = start ++ String.singleton c := by
  obtain ⟨init,eq⟩ := List.getLast?_eq_some_iff.mp last
  exact ⟨String.ofList init,String.toList_inj.mp (by simp [eq])⟩

theorem eq_singleton_append {s : String} (cons : s.toList = c :: rest) :
    s = String.singleton c ++ String.ofList rest :=
  String.toList_inj.mp (by simp [cons])

theorem Line.sound_of_checked {line : Line} (passed : line.checked = true) : line.Sound := by
  simp only [Line.checked,checkedText,Bool.and_eq_true] at passed
  obtain ⟨⟨⟨⟨⟨⟨before,after⟩,⟨printB,clearB⟩⟩,⟨printA,clearA⟩⟩,edge⟩,joint⟩,initial⟩ := passed
  rw [← toList_of_ascii before] at printB clearB edge initial
  rw [← toList_of_ascii after] at printA clearA joint
  refine ⟨List.all_eq_true.mp printB,List.all_eq_true.mp printA,(clear_iff _).mpr (by simpa using clearB),
    (clear_iff _).mpr (by simpa using clearA),?_,?_,
    fun none' => (Bool.or_eq_true_iff.mp initial).resolve_left (by simp [none'])⟩
  · simp only [Bool.or_eq_true,Bool.and_eq_true,Option.isNone_iff_eq_none,List.isEmpty_iff,
      Option.any_eq_true,decide_eq_true_eq] at edge
    rcases edge with ⟨none',empty⟩ | ⟨c,last,other⟩
    · exact .inl ⟨none',bytes_injective empty⟩
    · obtain ⟨start,eq⟩ := eq_append_singleton last
      exact .inr ⟨start,c,eq,other⟩
  · cases cons : line.after.toList with
    | nil => exact .inl (String.toList_inj.mp cons)
    | cons c rest =>
      simp only [cons,List.head?_cons,Option.all_some,List.drop_one,List.tail_cons,Bool.or_eq_true,
        Bool.and_eq_true,decide_eq_true_eq,Option.any_eq_true] at joint
      by_cases dash : c = '-'
      · subst dash
        obtain ⟨named,d,head,other⟩ := joint.resolve_left (by simp)
        obtain ⟨rest',rfl⟩ := List.head?_eq_some_iff.mp head
        refine .inr (.inr ⟨named,d,String.ofList rest',?_,other⟩)
        rw [eq_singleton_append cons]
        exact String.toList_inj.mp (by simp)
      · exact .inr (.inl ⟨c,_,eq_singleton_append cons,dash⟩)

/-- The values that a template can be rendered with in one piece. -/
structure ClearValues (value : Field → String) : Prop where
  each : ∀ field, Clear (value field)
  name : Clear (value .name ++ "-")
  fullName : Clear (value .fullName ++ "-")

theorem clear_of_append_singleton (clear : Clear (x ++ String.singleton c)) (edge : c ≠ '-') : Clear x :=
  ((clear_append x "" edge).mp (by rwa [String.append_empty])).1

theorem Line.Sound.clear {line : Line} (sound : line.Sound) (values : ClearValues value) :
    Clear (line.render value) := by
  cases action : line.action with
  | none =>
    rcases sound.edge with ⟨_,empty⟩ | ⟨start,c,before,other⟩
    · simpa [Line.render,action,empty] using sound.clearBefore
    · have clear := sound.clearBefore
      rw [before] at clear
      simp only [Line.render,action,before,Option.elim_none,String.append_empty,String.append_assoc]
      exact (clear_append start _ other).mpr ⟨clear_of_append_singleton clear other,sound.clearAfter⟩
  | some field =>
    obtain ⟨start,c,before,other⟩ := sound.edge.resolve_left (by simp [action])
    have clear := sound.clearBefore
    rw [before] at clear
    simp only [Line.render,action,before,Option.elim_some,String.append_assoc]
    refine (clear_append start _ other).mpr ⟨clear_of_append_singleton clear other,?_⟩
    have after := sound.clearAfter
    rcases sound.joint with empty | ⟨d,rest,eq,apart⟩ | ⟨named,d,rest,eq,apart⟩
    · rw [empty,String.append_empty]
      exact values.each field
    · rw [eq] at after ⊢
      exact (clear_append _ _ apart).mpr ⟨values.each field,after.append_right⟩
    · rw [eq] at after ⊢
      rw [String.append_assoc,← @String.append_assoc (value field)]
      refine (clear_append _ _ apart).mpr ⟨?_,after.append_right⟩
      rw [action] at named
      rcases (by simpa using named : field = .name ∨ field = .fullName) with rfl | rfl
      · exact values.name
      · exact values.fullName

end Lines

section Values

/-- A printable text on one line without quotes, dollar signs, backquotes and backslashes. -/
def Readable (s : String) : Prop := ∀ c ∈ s.toList, printable c = true ∧ literal c = true

instance (s : String) : Decidable (Readable s) := List.decidableBAll _ s.toList

theorem Readable.append (first : Readable x) (second : Readable y) : Readable (x ++ y) := by
  intro c listed
  rw [String.toList_append,List.mem_append] at listed
  exact listed.elim (first c) (second c)

/-- A text that has been escaped has no quote at all. -/
def Escaped (s : String) : Prop := Readable s ∧ ∀ c ∈ s.toList, c ∉ quotes

instance (s : String) : Decidable (Escaped s) :=
  @instDecidableAnd _ _ _ (List.decidableBAll _ s.toList)

theorem Readable.escaped (readable : Readable s) : Escaped (htmlEscape s) := by
  refine ⟨?_,?_⟩
  · exact forall_mem_htmlEscape
      (fun p listed c inside => ⟨((htmlReplacement_sound p listed).2.2 c inside).2.1,
        ((htmlReplacement_sound p listed).2.2 c inside).2.2.1⟩)
      (fun c inside _ => readable c inside)
  · refine forall_mem_htmlEscape (fun p listed c inside => ((htmlReplacement_sound p listed).2.2 c inside).2.2.2) ?_
    intro c _ plain quoted
    rcases (by simpa [quotes] using quoted : c = '"' ∨ c = Char.ofNat 39) with rfl | rfl
    · exact plain (by decide)
    · exact plain (by decide)

theorem Escaped.append (first : Escaped x) (second : Escaped y) : Escaped (x ++ y) := by
  refine ⟨first.1.append second.1,?_⟩
  intro c listed
  rw [String.toList_append,List.mem_append] at listed
  exact listed.elim (first.2 c) (second.2 c)

/-- The texts of a configuration. -/
def Config.strings (c : Config) : List String :=
  [c.name,c.namespaceName,c.chart.name,c.chart.version,c.chart.repository,c.installMode,c.condition.kind] ++
    c.condition.matchLabels.entries.flatMap fun e => [e.1,e.2]

def Config.Readable (c : Config) : Prop := ∀ s ∈ c.strings, HelmJob.Readable s

instance (c : Config) : Decidable c.Readable := inferInstanceAs (Decidable (∀ s ∈ c.strings, _))

theorem readable_dashed (readable : Readable s) : Readable (dashed s) := by
  intro c listed
  simp only [dashed,String.toList_ofList,List.mem_map] at listed
  obtain ⟨d,member,rfl⟩ := listed
  split
  · decide
  · exact readable d member

theorem readable_defaultText (replacement : Readable r) (given : Readable s) : Readable (defaultText r s) := by
  unfold defaultText
  split
  · exact replacement
  · exact given

theorem Config.Readable.getFullName {c : Config} (readable : c.Readable) : HelmJob.Readable c.getFullName :=
  ((readable _ (by simp [Config.strings])).append (by decide)).append
    (readable_dashed (readable _ (by simp [Config.strings])))

theorem Config.Readable.targetNamespace {c : Config} (readable : c.Readable) :
    HelmJob.Readable c.targetNamespace :=
  readable_defaultText (readable _ (by simp [Config.strings])) (readable _ (by simp [Config.strings]))

theorem escaped_flag (b : Bool) : Escaped (toString b) := by
  cases b <;> decide

theorem Config.Readable.labels {c : Config} (readable : c.Readable) : Escaped c.condition.labels := by
  suffices each : ∀ part ∈ (c.condition.matchLabels.entries.mergeSort fun a b => a.1 ≤ b.1).map fun e =>
      "-l " ++ htmlEscape e.1 ++ "=" ++ htmlEscape e.2 ++ " ", Escaped part by
    refine ⟨fun ch listed => ?_,fun ch listed => ?_⟩
    all_goals
      obtain ⟨part,member,inside⟩ := (mem_join listed).resolve_left (by simp)
    · exact (each part member).1 ch inside
    · exact (each part member).2 ch inside
  intro part listed
  obtain ⟨e,member,rfl⟩ := List.mem_map.mp listed
  rw [List.mem_mergeSort] at member
  have each (s : String) (own : s ∈ [e.1,e.2]) : Escaped (htmlEscape s) :=
    (readable s (List.mem_append_right _ (List.mem_flatMap.mpr ⟨e,member,own⟩))).escaped
  have mark : Escaped "-l " := by decide
  exact (((mark.append (each e.1 (by simp))).append (by decide)).append (each e.2 (by simp))).append (by decide)

/-- What the template prints of a readable configuration is readable, with no quote in it. -/
theorem Config.Readable.value {c : Config} (readable : c.Readable) (field : Field) : Escaped (c.value field) := by
  cases field with
  | name | version | repository | chartName => exact (readable _ (by simp [Config.strings])).escaped
  | fullName => exact readable.getFullName.escaped
  | namespaceName => exact readable.targetNamespace.escaped
  | installMode | conditionKind =>
    exact (readable_defaultText (by decide) (readable _ (by simp [Config.strings]))).escaped
  | upgradeDisable | conditionDefined => exact escaped_flag _
  | conditionLabels => exact readable.labels

end Values

section Marks

/-- The texts in which a mark would cut a document in two. -/
def Config.marked (c : Config) : List String :=
  [c.getFullName ++ "-install",c.targetNamespace,c.chart.repository,c.chart.name,c.installMode,
    c.condition.kind] ++ c.condition.matchLabels.entries.flatMap fun e => [e.1,e.2]

theorem clear_defaultText (replacement : Clear r) (given : Clear s) : Clear (defaultText r s) := by
  unfold defaultText
  split
  · exact replacement
  · exact given

theorem clear_of_defaultText (clear : Clear (defaultText r s)) : Clear s := by
  unfold defaultText at clear
  split at clear
  · next empty =>
    rw [empty]
    decide
  · exact clear

theorem clear_of_dashed (clear : Clear (dashed s)) : Clear s := by
  rw [clear_iff] at *
  intro found
  refine clear ?_
  have replaced := found.map fun c => if c = '.' then '-' else c
  simpa [dashed,mark_toList] using replaced

theorem clear_join_blank {parts : List String} (blank : ∀ part ∈ parts, ∃ q, part = q ++ String.singleton ' ') :
    Clear (join parts "") ↔ ∀ part ∈ parts, Clear part := by
  induction parts with
  | nil => exact iff_of_true (by decide) (by simp)
  | cons first rest ih =>
    obtain ⟨q,eq⟩ := blank first (by simp)
    have rest' := ih fun part member => blank part (List.mem_cons_of_mem _ member)
    have joined : join (first :: rest) "" = q ++ (String.singleton ' ' ++ join rest "") := by
      cases rest <;> simp [join,eq,String.intercalate_cons_cons,String.append_assoc]
    rw [joined,clear_append _ _ (by decide),rest',List.forall_mem_cons,eq]
    refine and_congr_left' ?_
    have last := clear_append q "" (by decide : ' ' ≠ '-')
    rw [String.append_empty] at last
    rw [last]
    exact (and_iff_left (by decide)).symm

theorem clear_label (key value : String) :
    Clear ("-l " ++ htmlEscape key ++ "=" ++ htmlEscape value ++ " ") ↔ Clear key ∧ Clear value := by
  have text : "-l " ++ htmlEscape key ++ "=" ++ htmlEscape value ++ " " =
      "-l" ++ (String.singleton ' ' ++ (htmlEscape key ++ (String.singleton '=' ++
        (htmlEscape value ++ (String.singleton ' ' ++ ""))))) := String.toList_inj.mp (by simp)
  rw [text,clear_append _ _ (by decide),clear_append _ _ (by decide),clear_append _ _ (by decide),
    clear_htmlEscape,clear_htmlEscape]
  have start : Clear "-l" := by decide
  have empty : Clear "" := by decide
  simp only [start,empty,true_and,and_true]

theorem clear_labels (condition : Condition) : Clear condition.labels ↔
    ∀ s ∈ condition.matchLabels.entries.flatMap fun e => [e.1,e.2], Clear s := by
  rw [Condition.labels,clear_join_blank]
  · simp only [List.forall_mem_map,List.mem_mergeSort,clear_label,List.forall_mem_flatMap,List.forall_mem_cons,
      List.not_mem_nil,false_implies,implies_true,and_true]
  · simp only [List.forall_mem_map]
    intro e _
    exact ⟨"-l " ++ htmlEscape e.1 ++ "=" ++ htmlEscape e.2,by rw [show " " = String.singleton ' ' by decide]⟩

theorem clearValues {c : Config} (clear : ∀ s ∈ c.marked, Clear s) : ClearValues c.value := by
  have full : Clear (c.getFullName ++ "-") := by
    have clear := clear (c.getFullName ++ "-install") (by simp [Config.marked])
    have parts : c.getFullName ++ "-install" = (c.getFullName ++ "-") ++ "install" :=
      String.toList_inj.mp (by simp)
    rw [parts] at clear
    exact clear.append_left
  have name : Clear (c.name ++ "-") := full.append_left.append_left
  have escaped {s : String} (clear : Clear (s ++ "-")) : Clear (htmlEscape s ++ "-") := by
    have dash : htmlEscape "-" = "-" := by decide +kernel
    have whole := htmlEscape_append s "-"
    rw [dash] at whole
    rw [← whole]
    exact (clear_htmlEscape _).mpr clear
  refine ⟨?_,escaped name,escaped full⟩
  intro field
  cases field with
  | name => exact (escaped name).append_left
  | fullName => exact (escaped full).append_left
  | namespaceName => exact (clear_htmlEscape _).mpr (clear _ (by simp [Config.marked]))
  | version => exact (clear_htmlEscape _).mpr (clear_of_dashed full.append_left.append_right)
  | repository | chartName => exact (clear_htmlEscape _).mpr (clear _ (by simp [Config.marked]))
  | installMode | conditionKind =>
    exact (clear_htmlEscape _).mpr (clear_defaultText (by decide +kernel) (clear _ (by simp [Config.marked])))
  | upgradeDisable | conditionDefined =>
    show Clear (toString _)
    generalize defaultFlag _ _ = b
    cases b <;> decide +kernel
  | conditionLabels =>
    exact (clear_labels _).mpr fun s listed => clear s (List.mem_append_right _ listed)

theorem jobHead_subset (kubeSystem extraValues : Bool) :
    ∀ line ∈ jobHead kubeSystem extraValues, line ∈ jobHead true true := by
  intro line
  simp only [jobHead,List.mem_append]
  cases kubeSystem <;> cases extraValues <;>
    simp only [if_true,if_false,Bool.false_eq_true,List.not_mem_nil,or_false] <;> tauto

theorem sound_of_mem (listed : line ∈ templateLines) : line.Sound :=
  Line.sound_of_checked (templateLines_checked line listed)

theorem sound_bindingLines
    (listed : line ∈ header "rbac.authorization.k8s.io/v1" "ClusterRoleBinding" ++ clusterRoleBinding) :
    line.Sound := by
  refine sound_of_mem (List.mem_append_left _ ?_)
  rcases List.mem_append.mp listed with top | body
  · exact List.mem_append_left _ (List.mem_append_left _ (List.mem_append_left _ top))
  · exact List.mem_append_right _ (List.mem_append_left _ (List.mem_append_left _ body))

theorem sound_accountLines (listed : line ∈ header "v1" "ServiceAccount" ++ serviceAccount) : line.Sound := by
  refine sound_of_mem (List.mem_append_left _ ?_)
  rcases List.mem_append.mp listed with top | body
  · exact List.mem_append_left _ (List.mem_append_left _ (List.mem_append_right _ top))
  · exact List.mem_append_right _ (List.mem_append_left _ (List.mem_append_right _ body))

theorem sound_jobLines (listed : line ∈ header "batch/v1" "Job" ++ jobHead kubeSystem extraValues) :
    line.Sound := by
  refine sound_of_mem (List.mem_append_left _ ?_)
  rcases List.mem_append.mp listed with top | body
  · exact List.mem_append_left _ (List.mem_append_right _ top)
  · exact List.mem_append_right _ (List.mem_append_right _ (jobHead_subset _ _ line body))

theorem clear_indent (line : String) : Clear (indent line) ↔ Clear line := by
  unfold indent
  split
  · next empty => rw [empty]
  · have blanks : "              " = "             " ++ String.singleton ' ' := by decide +kernel
    rw [blanks,String.append_assoc,clear_append _ _ (by decide)]
    exact and_iff_right (by decide +kernel)

theorem clear_of_join (clear : Clear (join lines "\n")) (listed : line ∈ lines) : Clear line := by
  rw [Clear,← Bool.not_eq_true] at *
  exact fun found => clear (contains_trans (contains_join listed "\n") found)

/-- A mark in what an action prints, or across its end, is a mark in its line. -/
theorem clear_of_render {line : Line} (clear : Clear (line.render value)) (action : line.action = some field) :
    Clear (value field ++ line.after) := by
  rw [Line.render,action,Option.elim_some,String.append_assoc] at clear
  exact clear.append_right

theorem fullName_mem_jobHead (kubeSystem extraValues : Bool) :
    ⟨"  name: ",some .fullName,"-install"⟩ ∈ header "batch/v1" "Job" ++ jobHead kubeSystem extraValues ∧
    ⟨"  namespace: ",some .namespaceName,""⟩ ∈ header "batch/v1" "Job" ++ jobHead kubeSystem extraValues := by
  simp only [jobHead,jobMetadata,List.mem_append,List.mem_cons,true_or,or_true,and_self]

/-- The variables of the script that say what to install and where. -/
def installSettings : List (String × Field) :=
  [("REPOSITORY",.repository),("CHART",.chartName),("VERSION",.version),("RELEASE",.name),
    ("INSTALL_MODE",.installMode),("UPGRADE_DISABLE",.upgradeDisable),("NAMESPACE",.namespaceName)]

/-- What each setting of the script is assigned. -/
def settings : List (String × Field) :=
  installSettings ++ [("CONDITION_DEFINED",.conditionDefined),("CONDITION_KIND",.conditionKind),
    ("CONDITION_LABELS",.conditionLabels)]

def setting (name : String) (field : Field) : Line := ⟨name ++ "=\"",some field,"\""⟩

theorem script_eq : script = .fixed "set -eu" :: .fixed "" :: settings.map (fun s => setting s.1 s.2) ++
    .fixed "" :: ⟨"HELM_EXTRA_VALUES_FILE=\"/etc/",some .fullName,"/values.yaml\""⟩ ::
      installation.map .fixed := by
  rfl

/-- The Job is in one piece exactly when none of its texts holds a mark. -/
theorem clear_jobLines (c : Config) : Clear (join c.jobLines "\n") ↔ ∀ s ∈ c.marked, Clear s := by
  constructor
  · intro clear
    have lines : ∀ line ∈ c.jobLines, Clear line := fun line => clear_of_join clear
    rw [Config.jobLines,jobLines,List.forall_mem_append] at lines
    simp only [renderLines,Config.scriptLines,List.map_map,List.forall_mem_map,Function.comp_apply,
      clear_indent] at lines
    obtain ⟨head,body⟩ := lines
    have each : ∀ s ∈ settings, Clear (c.value s.2) := by
      intro s listed
      have member : setting s.1 s.2 ∈ script := by
        rw [script_eq]
        exact List.mem_append_left _ (List.mem_cons_of_mem _ (List.mem_cons_of_mem _
          (List.mem_map.mpr ⟨_,listed,rfl⟩)))
      exact (clear_of_render (body _ member) rfl).append_left
    simp only [settings,installSettings,List.cons_append,List.nil_append,List.forall_mem_cons] at each
    obtain ⟨repository,chart,_,_,mode,_,_,_,kind,labels,_⟩ := each
    obtain ⟨name,target⟩ := fullName_mem_jobHead (decide (c.targetNamespace = "kube-system")) c.hasExtraValues
    have full := clear_of_render (head _ name) rfl
    have space := clear_of_render (head _ target) rfl
    simp only [Config.marked,List.forall_mem_append,List.forall_mem_cons]
    refine ⟨⟨?_,?_,?_,?_,?_,?_,by simp⟩,?_⟩
    · have ending : htmlEscape "-install" = "-install" := by decide +kernel
      have whole := htmlEscape_append c.getFullName "-install"
      rw [ending] at whole
      exact (clear_htmlEscape _).mp (by rw [whole]; exact full)
    · exact (clear_htmlEscape _).mp space.append_left
    · exact (clear_htmlEscape _).mp repository
    · exact (clear_htmlEscape _).mp chart
    · exact clear_of_defaultText ((clear_htmlEscape _).mp mode)
    · exact clear_of_defaultText ((clear_htmlEscape _).mp kind)
    · exact (clear_labels _).mp labels
  · intro clear
    have values := clearValues clear
    refine clear_join ?_
    rw [Config.jobLines,jobLines,List.forall_mem_append]
    simp only [renderLines,Config.scriptLines,List.map_map,List.forall_mem_map,Function.comp_apply,clear_indent]
    exact ⟨fun line listed => (sound_jobLines listed).clear values,
      fun line listed => (sound_of_mem (List.mem_append_right _ listed)).clear values⟩

end Marks

section Cutting

/-- A document, given by its lines; space around it has no part. -/
def document (lines : List String) : String := trimSpace (join lines "\n")

/-- What the loop decodes: the pieces that are not blank. -/
def documents (docs : List String) : List String := (docs.map trimSpace).filter (· ≠ "")

/-- The lines of a manifest as they stand in the rendered text. -/
def framed (lines : List String) : String := "\n" ++ join lines "\n" ++ "\n"

theorem getTemplatedJob_eq (c : Config) : c.getTemplatedJob =
    framed (bindingLines c.value) ++ "---" ++ (framed (accountLines c.value) ++ "---" ++ framed c.jobLines) := by
  have binding : bindingLines c.value ≠ [] := by simp [bindingLines,renderLines,header]
  have account : accountLines c.value ≠ [] := by simp [accountLines,renderLines,header]
  have job : c.jobLines ≠ [] := by simp [Config.jobLines,jobLines,renderLines,header]
  have mark : join ["---"] "\n" = "---" := String.intercalate_singleton
  simp only [Config.getTemplatedJob,framed]
  rw [join_append (by simp) job,join_append (by simp) (by simp),join_append (by simp) account,
    join_append binding (by simp),mark]
  simp only [String.append_assoc]

/-- The text is cut at a mark that follows the end of a line, whatever stands before it. -/
theorem splitText_framed (lines : List String) (rest : String) :
    splitText (framed lines ++ "---" ++ rest) "---" = splitText (framed lines) "---" ++ splitText rest "---" := by
  simp only [splitText,framed,String.toList_append,← List.map_append]
  exact congrArg _ (pieces_append_mark (by simp) (by decide) _ _)

theorem documents_append (xs ys : List String) : documents (xs ++ ys) = documents xs ++ documents ys := by
  simp [documents]

theorem documents_getTemplatedJob (c : Config) : documents (splitText c.getTemplatedJob "---") =
    documents (splitText (framed (bindingLines c.value)) "---") ++
      (documents (splitText (framed (accountLines c.value)) "---") ++
        documents (splitText (framed c.jobLines) "---")) := by
  rw [getTemplatedJob_eq,splitText_framed,splitText_framed,documents_append,documents_append]

theorem clear_framed (clear : Clear (join lines "\n")) : Clear (framed lines) := by
  have text : framed lines = "" ++ (String.singleton '\n' ++ (join lines "\n" ++ (String.singleton '\n' ++ ""))) :=
    String.toList_inj.mp (by simp [framed])
  rw [text,clear_append _ _ (by decide),clear_append _ _ (by decide)]
  exact ⟨by decide,clear,by decide⟩

theorem documents_of_clear (clear : Clear (join lines "\n")) (listed : c ∈ (join lines "\n").toList)
    (solid : isSpace c = false) : documents (splitText (framed lines) "---") = [document lines] := by
  have whole : splitText (framed lines) "---" = [framed lines] := by
    rw [splitText,pieces_of_absent ((clear_iff _).mp (clear_framed clear))]
    simp
  have blank : Blank "\n" := by decide
  have trimmed : trimSpace (framed lines) = document lines := by
    rw [framed,trimSpace_blank_right blank,trimSpace_blank_left blank]
    rfl
  have filled : document lines ≠ "" := trimSpace_ne_empty listed solid
  simp [documents,whole,trimmed,filled]

theorem documents_cons (listed : c ∈ first) (solid : isSpace c = false) :
    documents (String.ofList first :: rest) = trimSpace (String.ofList first) :: documents rest := by
  have filled : trimSpace (String.ofList first) ≠ "" := trimSpace_ne_empty (by simpa using listed) solid
  simp [documents,filled]

theorem documents_pos (listed : c ∈ s) (dash : c ≠ '-') (solid : isSpace c = false) :
    1 ≤ (documents ((pieces "---".toList s).map String.ofList)).length := by
  have found : ∃ piece ∈ pieces "---".toList s, c ∈ piece :=
    exists_piece_mem (by simp) (by simpa [mark_toList] using dash) listed
  obtain ⟨piece,member,inside⟩ := found
  refine List.length_pos_of_mem (a := trimSpace (String.ofList piece)) ?_
  rw [documents,List.mem_filter]
  refine ⟨List.mem_map_of_mem (List.mem_map_of_mem member),?_⟩
  simpa using trimSpace_ne_empty (s := String.ofList piece) (by simpa using inside) solid

/-- What stands before a mark begins as the text does, and what stands after it ends as the text does. -/
theorem mem_around_mark {x y start : List Char} (begins : x ++ '-' :: '-' :: '-' :: y = '\n' :: 'a' :: rest)
    (ends : x ++ '-' :: '-' :: '-' :: y = start ++ ['i','\n']) : 'a' ∈ x ∧ 'i' ∈ y := by
  refine ⟨?_,?_⟩
  · rcases x with _ | ⟨b,_ | ⟨d,x⟩⟩
    · cases begins
    · simp at begins
    · simp only [List.cons_append,List.cons.injEq] at begins
      simp [begins.2.1]
  · have ends : (x ++ ['-','-']) ++ ['-'] ++ y = start ++ ['i','\n'] := by simpa using ends
    rcases List.append_eq_append_iff.mp ends with ⟨more,_,eq⟩ | ⟨more,eq,short⟩
    · simp [eq]
    · rcases more with _ | ⟨b,_ | ⟨d,more⟩⟩
      · rw [List.nil_append] at short
        simp [← short]
      · obtain ⟨rfl,_⟩ := List.cons.inj short
        cases (List.append_inj' eq rfl).2
      · obtain ⟨rfl,second⟩ := List.cons.inj short
        obtain ⟨rfl,third⟩ := List.cons.inj second
        obtain ⟨rfl,rfl⟩ := List.append_eq_nil_iff.mp third.symm
        have eq : (x ++ ['-']) ++ ['-','-'] = start ++ ['i','\n'] := by simpa using eq
        cases (List.append_inj' eq rfl).2

theorem two_documents_of_mark (begins : (framed lines).toList = '\n' :: 'a' :: rest)
    (ends : (framed lines).toList = start ++ ['i','\n']) (marked : ¬ Clear (join lines "\n")) :
    2 ≤ (documents (splitText (framed lines) "---")).length := by
  have found : "---".toList <:+: (framed lines).toList := by
    rw [clear_iff,not_not] at marked
    refine marked.trans ?_
    simp only [framed,String.toList_append]
    exact ⟨_,_,rfl⟩
  obtain ⟨x,y,text,eq⟩ := pieces_of_occurs (by simp) found
  have text' : x ++ '-' :: '-' :: '-' :: y = (framed lines).toList := by simp [text,mark_toList]
  obtain ⟨before,after⟩ := mem_around_mark (text'.trans begins) (text'.trans ends)
  have more := documents_pos after (by decide) (by decide)
  rw [splitText,eq,List.map_cons,documents_cons before (by decide),List.length_cons]
  omega

theorem framed_begins (starts : first.toList = 'a' :: more) (lines : List String) :
    ∃ rest, (framed (first :: lines)).toList = '\n' :: 'a' :: rest := by
  obtain ⟨rest,eq⟩ := join_cons first lines "\n"
  exact ⟨more ++ rest.toList ++ ['\n'],by simp [framed,eq,starts]⟩

theorem framed_ends (filled : lines ≠ []) (ends : last.toList = before ++ ['i']) :
    ∃ start, (framed (lines ++ [last])).toList = start ++ ['i','\n'] := by
  refine ⟨'\n' :: (join lines "\n").toList ++ '\n' :: before,?_⟩
  rw [framed,join_append filled (by simp)]
  simp [join,ends]

theorem render_fixed (value : Field → String) (text : String) : (Line.fixed text).render value = text := by
  simp [Line.render,Line.fixed]

theorem renderLines_fixed (value : Field → String) (texts : List String) :
    renderLines value (texts.map .fixed) = texts := by
  simp [renderLines,Function.comp_def,render_fixed]

theorem scriptLines_eq (value : Field → String) : renderLines value script =
    "set -eu" :: "" :: settings.map (fun s => (setting s.1 s.2).render value) ++
      "" :: ("HELM_EXTRA_VALUES_FILE=\"/etc/" ++ value .fullName ++ "/values.yaml\"") :: installation := by
  rw [script_eq]
  simp only [renderLines,List.map_append,List.map_cons,List.map_map,render_fixed]
  refine congrArg₂ (· ++ ·) rfl ?_
  refine congrArg₂ List.cons rfl (congrArg₂ List.cons rfl ?_)
  exact (List.map_map ..).symm.trans (renderLines_fixed value installation)

theorem jobLines_ends (c : Config) : ∃ init, init ≠ [] ∧ c.jobLines = init ++ [indent "fi"] := by
  have ends : installation = installation.dropLast ++ ["fi"] := rfl
  rw [Config.jobLines,jobLines,Config.scriptLines,scriptLines_eq,ends]
  simp only [List.map_append,List.map_cons,List.map_nil,← List.append_assoc,← List.cons_append]
  exact ⟨_,by simp,rfl⟩

theorem renderLines_header (value : Field → String) (version kind : String) (body : List Line) :
    renderLines value (header version kind ++ body) =
      ("apiVersion: " ++ version) :: ("kind: " ++ kind) :: "metadata:" :: renderLines value body := by
  simp only [renderLines,header,List.map_cons,render_fixed,List.cons_append,List.nil_append]

theorem mem_join_manifest (version : String) (lines : List String) :
    'a' ∈ (join (("apiVersion: " ++ version) :: lines) "\n").toList := by
  obtain ⟨rest,eq⟩ := join_cons ("apiVersion: " ++ version) lines "\n"
  simp [eq]

theorem framed_manifest (version : String) (lines : List String) :
    ∃ rest, (framed (("apiVersion: " ++ version) :: lines)).toList = '\n' :: 'a' :: rest :=
  framed_begins (by rw [String.toList_append]; rfl) lines

/-- A mark anywhere in the Job makes for more than three documents. -/
theorem four_documents_of_mark (c : Config) (marked : ¬ Clear (join c.jobLines "\n")) :
    4 ≤ (documents (splitText c.getTemplatedJob "---")).length := by
  have one (version kind : String) (body : List Line) :
      1 ≤ (documents (splitText (framed (renderLines c.value (header version kind ++ body))) "---")).length := by
    rw [renderLines_header]
    obtain ⟨rest,eq⟩ := framed_manifest version (("kind: " ++ kind) :: "metadata:" :: renderLines c.value body)
    rw [splitText,eq]
    exact documents_pos (by simp : 'a' ∈ _) (by decide) (by decide)
  have two : 2 ≤ (documents (splitText (framed c.jobLines) "---")).length := by
    obtain ⟨init,filled,ends⟩ := jobLines_ends c
    have last : (indent "fi").toList = "              f".toList ++ ['i'] := by decide +kernel
    obtain ⟨start,eq⟩ := framed_ends filled last
    rw [← ends] at eq
    have begins : ∃ rest, (framed c.jobLines).toList = '\n' :: 'a' :: rest := by
      rw [Config.jobLines,jobLines,renderLines_header]
      exact framed_manifest _ _
    obtain ⟨rest,begins⟩ := begins
    exact two_documents_of_mark begins eq marked
  rw [documents_getTemplatedJob,List.length_append,List.length_append]
  have binding := one "rbac.authorization.k8s.io/v1" "ClusterRoleBinding" clusterRoleBinding
  have account := one "v1" "ServiceAccount" serviceAccount
  rw [bindingLines,accountLines]
  omega

theorem three_documents (c : Config) (clear : Clear (join c.jobLines "\n")) :
    documents (splitText c.getTemplatedJob "---") =
      [document (bindingLines c.value),document (accountLines c.value),document c.jobLines] := by
  have values := clearValues ((clear_jobLines c).mp clear)
  have whole {version kind : String} {body : List Line}
      (sound : ∀ line ∈ header version kind ++ body, line.Sound) :
      documents (splitText (framed (renderLines c.value (header version kind ++ body))) "---") =
        [document (renderLines c.value (header version kind ++ body))] := by
    have joined : Clear (join (renderLines c.value (header version kind ++ body)) "\n") := by
      refine clear_join ?_
      rw [renderLines,List.forall_mem_map]
      exact fun line listed => (sound line listed).clear values
    refine documents_of_clear joined ?_ (by decide : isSpace 'a' = false)
    rw [renderLines_header]
    exact mem_join_manifest _ _
  have job : documents (splitText (framed c.jobLines) "---") = [document c.jobLines] := by
    refine documents_of_clear clear ?_ (by decide : isSpace 'a' = false)
    rw [Config.jobLines,jobLines,renderLines_header]
    exact mem_join_manifest _ _
  rw [documents_getTemplatedJob,job,bindingLines,accountLines,whole,whole]
  · rfl
  · exact fun line listed => sound_accountLines listed
  · exact fun line listed => sound_bindingLines listed

end Cutting

end Kommodity.HelmJob
