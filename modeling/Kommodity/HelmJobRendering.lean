import Kommodity.HelmJobText

/-! Which configurations the Helm install job is rendered faithfully for: three objects are applied, and
the script of the Job assigns the fields as they are. The decoder of the documents is a parameter, with
what the format says of manifests like these. -/
namespace Kommodity.HelmJob

open Go Interaction

variable {Object : Type}

section Decoding

/-- A line below the header of a manifest: it belongs to a value of the outermost mapping, or it is a
key of that mapping other than `kind`, with its value on the lines below. -/
def inside (line : String) : Bool :=
  line = "" || hasPrefix line " " || hasPrefix line "-" ||
    hasSuffix line ":" && line.toList.dropLast.all Char.isAlpha && line ≠ "kind:"

/-- A text of letters, digits, dots and slashes. -/
def Word (s : String) : Prop := ∀ c ∈ s.toList, c.isAlphanum = true ∨ c = '.' ∨ c = '/'

instance (s : String) : Decidable (Word s) := List.decidableBAll _ s.toList

/-- The version and the kind of a manifest are words, and its other lines are below them. -/
structure Manifest (version kind : String) (rest : List String) : Prop where
  versionWord : Word version
  kindWord : Word kind
  named : kind ≠ ""
  inner : ∀ line ∈ rest, inside line = true
  printable : ∀ line ∈ rest, ∀ c ∈ line.toList, printable c = true

/-- The lines of a literal block, which neither begins nor ends with space. -/
structure Literal (block : List String) : Prop where
  printable : ∀ line ∈ block, ∀ c ∈ line.toList, printable c = true
  first : block.head?.any (fun line => line.toList.head?.any fun c => !isSpace c) = true
  last : block.getLast?.any (fun line => line.toList.getLast?.any fun c => !isSpace c) = true

/-- What YAML says of these manifests: the kind is what the key `kind` of the outermost mapping holds,
and a literal block is read as it stands, less its indentation, so that its text has no part in
whether the manifest is well-formed. -/
structure Decoder.Documented (d : Decoder Object) : Prop where
  kind : ∀ version kind rest obj, Manifest version kind rest →
    d.decode (document (("apiVersion: " ++ version) :: ("kind: " ++ kind) :: "metadata:" :: rest)) = .ok obj →
    d.kind obj = kind
  script : ∀ value kubeSystem extraValues block obj, (∀ field, Escaped (value field)) → Literal block →
    d.decode (document (jobLines value kubeSystem extraValues block)) = .ok obj →
    d.script obj = some (join block "\n")
  accepts : ∀ value kubeSystem extraValues block block', (∀ field, Escaped (value field)) →
    Literal block → Literal block' →
    (d.decode (document (jobLines value kubeSystem extraValues block))).isOk = true →
    (d.decode (document (jobLines value kubeSystem extraValues block'))).isOk = true

/-- A line of the template that is within a manifest, whatever its action prints. -/
def Line.inner (line : Line) : Bool :=
  (bytes line.before).all (·.toNat < 128) && (asciiRunes line.before).head?.any (fun c => c = ' ' || c = '-') ||
    line ∈ [Line.fixed "roleRef:",.fixed "subjects:",.fixed "spec:"]

theorem bodyLines_inner : ∀ line ∈ bodyLines, line.inner = true := by decide +kernel

theorem inside_of_head {s : String} (head : s.toList.head? = some c) (edge : c = ' ' ∨ c = '-') :
    inside s = true := by
  obtain ⟨rest,eq⟩ := List.head?_eq_some_iff.mp head
  rcases edge with rfl | rfl
  · simp [inside,hasPrefix,eq]
  · simp [inside,hasPrefix,eq]

theorem inside_render {line : Line} (inner : line.inner = true) : inside (line.render value) = true := by
  simp only [Line.inner,Bool.or_eq_true,Bool.and_eq_true,decide_eq_true_eq,List.mem_cons,List.not_mem_nil,
    or_false] at inner
  rcases inner with ⟨ascii,start⟩ | rfl | rfl | rfl
  · rw [← toList_of_ascii ascii,Option.any_eq_true] at start
    obtain ⟨c,head,edge⟩ := start
    have head : (line.render value).toList.head? = some c := by simp [Line.render,head]
    exact inside_of_head head (by simpa using edge)
  all_goals
    rw [render_fixed]
    decide +kernel

theorem Line.Sound.printable {line : Line} (sound : line.Sound) (escaped : ∀ field, Escaped (value field)) :
    ∀ c ∈ (line.render value).toList, printable c = true := by
  intro c inside
  simp only [Line.render,String.toList_append,List.mem_append] at inside
  rcases inside with (before | action) | after
  · exact sound.printableBefore c before
  · cases field : line.action with
    | none => simp [field] at action
    | some f => exact ((escaped f).1 c (by simpa [field] using action)).1
  · exact sound.printableAfter c after

theorem inside_indent (line : String) : inside (indent line) = true := by
  unfold indent
  split
  · decide
  · exact inside_of_head (c := ' ') (by simp) (.inl rfl)

end Decoding

section Runs

theorem applyObject_ensures (d : Decoder Object) (obj : Object) (applied : List Object) :
    (applyObject d obj).Ensures serve Succeeds (fun err t => err = none ∧ t = applied ++ [obj]) applied := by
  unfold applyObject
  rw [ensures_request_bind]
  intro f admitted
  cases f with
  | done => exact ⟨rfl,rfl⟩
  | failed => exact absurd rfl admitted
  | taken =>
    simp only [serve,if_true,ensures_request_bind]
    rintro g rfl
    exact ⟨rfl,rfl⟩

/-- A pass without an error has applied what the documents decode to, in their order; an error is that
of a document that does not decode. -/
theorem applyDocuments_ensures (d : Decoder Object) (docs : List String) (applied : List Object) :
    (applyDocuments d docs).Ensures serve Succeeds (fun err t =>
      (err = none → ∃ objs, t = applied ++ objs ∧
        List.Forall₂ (fun doc obj => d.decode doc = .ok obj) (documents docs) objs) ∧
      (err ≠ none → ∃ doc ∈ documents docs, (d.decode doc).isOk = false)) applied := by
  induction docs generalizing applied with
  | nil =>
    rw [applyDocuments,ensures_pure]
    exact ⟨fun _ => ⟨[],by simp,.nil⟩,fun failed => absurd rfl failed⟩
  | cons doc rest ih =>
    rw [applyDocuments]
    cases eq_or_ne (trimSpace doc) "" with
    | inl blank =>
      have skipped : documents (doc :: rest) = documents rest := by simp [documents,blank]
      rw [skipped,if_pos blank]
      exact ih applied
    | inr blank =>
      have kept : documents (doc :: rest) = trimSpace doc :: documents rest := by simp [documents,blank]
      rw [kept,if_neg blank]
      cases decoded : d.decode (trimSpace doc) with
      | error detail =>
        rw [ensures_pure]
        exact ⟨fun done => (by cases done),fun _ => ⟨_,List.mem_cons_self,by rw [decoded]; rfl⟩⟩
      | ok obj =>
        refine ensures_bind (applyObject_ensures d obj applied) ?_
        rintro _ t ⟨rfl,rfl⟩
        refine (ih _).imp ?_
        rintro err u ⟨done,failed⟩
        refine ⟨?_,?_⟩
        · intro none'
          obtain ⟨objs,eq,all⟩ := done none'
          exact ⟨obj :: objs,by simpa using eq,.cons decoded all⟩
        · intro some'
          obtain ⟨other,member,wrong⟩ := failed some'
          exact ⟨other,List.mem_cons_of_mem _ member,wrong⟩

end Runs

section Script

/-- A line of a script that assigns a text to a variable. -/
def assignment (line : String) : Option (String × String) :=
  let name := line.toList.takeWhile (· ≠ '=')
  let text := (line.toList.drop name.length).drop 2
  if (line.toList.drop name.length).take 2 = ['=','"'] ∧ text.getLast? = some '"' ∧
      text.dropLast.all literal then
    some (String.ofList name,String.ofList text.dropLast)
  else none

/-- The script assigns the variable once, and that is what it gets. -/
def Assigns (script name value : String) : Prop :=
  ((split script '\n').filterMap assignment).filter (fun a => a.1 = name) = [(name,value)]

theorem assignment_eq {name value : String} (plain : '=' ∉ name.toList) (readable : Readable value) :
    assignment (name ++ "=\"" ++ value ++ "\"") = some (name,value) := by
  have text : (name ++ "=\"" ++ value ++ "\"").toList = name.toList ++ '=' :: '"' :: (value.toList ++ ['"']) := by
    simp
  have before : (name.toList ++ '=' :: '"' :: (value.toList ++ ['"'])).takeWhile (· ≠ '=') = name.toList := by
    rw [List.takeWhile_append_of_pos]
    · simp
    · intro c listed
      rw [decide_eq_true_eq]
      rintro rfl
      exact plain listed
  have literals : value.toList.all literal = true := List.all_eq_true.mpr fun c listed => (readable c listed).2
  unfold assignment
  rw [text]
  simp only [before,List.drop_left,List.take_succ_cons,List.take_zero,List.drop_succ_cons,List.drop_zero,
    List.getLast?_concat,List.dropLast_concat,literals,and_self,if_true,String.ofList_toList]

theorem assignment_begins (assigned : assignment line = some (name,value)) : name.toList <+: line.toList := by
  unfold assignment at assigned
  dsimp only at assigned
  split at assigned
  · cases assigned
    rw [String.toList_ofList]
    exact List.takeWhile_prefix _
  · cases assigned

theorem filter_eq_nil_of_initial {lines : List String} (listed : s ∈ installSettings)
    (others : ∀ line ∈ lines, line.toList.head?.all (· ∉ initials) = true) :
    (lines.filterMap assignment).filter (fun a => a.1 = s.1) = [] := by
  have initial : ∃ c rest, s.1.toList = c :: rest ∧ c ∈ initials := by
    simp only [installSettings,List.mem_cons,List.not_mem_nil,or_false] at listed
    rcases listed with rfl | rfl | rfl | rfl | rfl | rfl | rfl
    all_goals exact ⟨_,_,by simp; exact ⟨rfl,rfl⟩,by decide⟩
  rw [List.filter_eq_nil_iff]
  rintro ⟨name,value⟩ member
  obtain ⟨line,inside,assigned⟩ := List.mem_filterMap.mp member
  obtain ⟨c,rest,eq,initial⟩ := initial
  simp only [decide_eq_true_eq]
  rintro rfl
  obtain ⟨more,whole⟩ := assignment_begins assigned
  have other := others line inside
  rw [← whole,eq] at other
  simp [initial] at other

theorem filter_settings (value : Field → String) (listed : s ∈ installSettings) :
    (settings.map fun s => (s.1,value s.2)).filter (fun a => a.1 = s.1) = [(s.1,value s.2)] := by
  simp only [installSettings,List.mem_cons,List.not_mem_nil,or_false] at listed
  rcases listed with rfl | rfl | rfl | rfl | rfl | rfl | rfl <;> simp [settings,installSettings]

theorem printable_script (escaped : ∀ field, Escaped (value field)) (listed : line ∈ renderLines value script) :
    ∀ c ∈ line.toList, printable c = true := by
  obtain ⟨text,member,rfl⟩ := List.mem_map.mp listed
  exact (sound_of_mem (List.mem_append_right _ member)).printable escaped

theorem split_lines (filled : lines ≠ []) (single : ∀ line ∈ lines, ∀ c ∈ line.toList, printable c = true) :
    split (join lines "\n") '\n' = lines := by
  have lone : ∀ line ∈ lines, split line '\n' = [line] := by
    intro line listed
    refine split_of_not_mem fun inside => ?_
    exact absurd (single line listed '\n' inside) (by decide)
  refine (split_join lines filled '\n').trans ?_
  rw [List.flatMap_congr lone]
  simp

theorem filterMap_settings (escaped : ∀ field, Escaped (value field)) :
    (settings.map fun s => (setting s.1 s.2).render value).filterMap assignment =
      settings.map fun s => (s.1,value s.2) := by
  have plain : ∀ s ∈ settings, '=' ∉ s.1.toList := by
    simp [settings,installSettings]
  rw [List.filterMap_map,← List.filterMap_eq_map]
  refine List.filterMap_congr fun s listed => ?_
  simp only [Function.comp_apply]
  exact assignment_eq (plain s listed) (escaped s.2).1

theorem initial_installation : ∀ line ∈ installation, line.toList.head?.all (· ∉ initials) = true := by
  intro line listed
  have member : Line.fixed line ∈ script := List.mem_append_right _ (List.mem_map_of_mem listed)
  exact (sound_of_mem (List.mem_append_right _ member)).initial rfl

theorem assigns_script (escaped : ∀ field, Escaped (value field)) (listed : s ∈ installSettings) :
    Assigns (join (renderLines value script) "\n") s.1 (value s.2) := by
  have before : (["set -eu",""].filterMap assignment).filter (fun a => a.1 = s.1) = [] :=
    filter_eq_nil_of_initial listed (by decide)
  have after : ((("" :: ("HELM_EXTRA_VALUES_FILE=\"/etc/" ++ value .fullName ++ "/values.yaml\"") ::
      installation).filterMap assignment).filter fun a => a.1 = s.1) = [] := by
    refine filter_eq_nil_of_initial listed ?_
    simp only [List.forall_mem_cons]
    refine ⟨by decide,?_,initial_installation⟩
    simp [initials]
  unfold Assigns
  rw [split_lines (by simp [renderLines,script]) (fun line => printable_script escaped),scriptLines_eq]
  have text : "set -eu" :: "" :: settings.map (fun s => (setting s.1 s.2).render value) =
    ["set -eu",""] ++ settings.map fun s => (setting s.1 s.2).render value := rfl
  rw [text,List.filterMap_append,List.filterMap_append,List.filter_append,List.filter_append,before,after,
    filterMap_settings escaped,filter_settings value listed]
  rfl

end Script

section Faithful

/-- The value that each action stands for: the field itself, or the documented default for an empty
text. -/
def Config.field (c : Config) : Field → String
  | .name => c.name
  | .fullName => c.getFullName
  | .namespaceName => c.targetNamespace
  | .version => c.chart.version
  | .repository => c.chart.repository
  | .chartName => c.chart.name
  | .installMode => defaultText "HelmInstall" c.installMode
  | .upgradeDisable => toString c.upgradeDisabled
  | .conditionDefined => toString c.condition.defined
  | .conditionKind => defaultText "Deployment" c.condition.kind
  | .conditionLabels => c.condition.labels

/-- Exactly the three objects are applied, and the script of the Job assigns the fields as they are. -/
structure Faithful (d : Decoder Object) (c : Config) (err : Option Error) (applied : List Object) : Prop where
  done : err = none
  kinds : applied.map d.kind = ["ClusterRoleBinding","ServiceAccount","Job"]
  script : ∃ text, applied.getLast?.bind d.script = some text ∧
    ∀ s ∈ installSettings, Assigns text s.1 (c.field s.2)

/-- The manifests with the fields in their places; the text of the script has no part in their form. -/
def Config.manifests (c : Config) : List (List String) :=
  [bindingLines c.field,accountLines c.field,
    HelmJob.jobLines c.field (c.targetNamespace = "kube-system") c.hasExtraValues ["set -eu"]]

/-- Upgrades are disabled, no text of the script is escaped, none in the Job holds a mark, and the
manifests are well-formed. -/
structure Renderable (d : Decoder Object) (c : Config) : Prop where
  upgradeDisabled : c.upgradeDisabled = true
  plain : ∀ s ∈ [c.chart.repository,c.chart.name,c.chart.version,c.name,c.installMode,c.targetNamespace],
    Plain s
  clear : ∀ s ∈ c.marked, Clear s
  wellFormed : ∀ lines ∈ c.manifests, (d.decode (document lines)).isOk = true

theorem plain_defaultText (replacement : Plain r) : Plain (defaultText r s) ↔ Plain s := by
  unfold defaultText
  split
  · next empty =>
    rw [empty]
    exact iff_of_true replacement (by simp [Plain])
  · rfl

theorem plain_helmInstall : Plain "HelmInstall" := by
  rw [← htmlEscape_eq_iff]
  decide +kernel

/-- The variables get their fields exactly when upgrades are disabled and nothing is escaped. -/
theorem value_eq_field_iff (c : Config) : (∀ s ∈ installSettings, c.value s.2 = c.field s.2) ↔
    c.upgradeDisabled = true ∧
      ∀ s ∈ [c.chart.repository,c.chart.name,c.chart.version,c.name,c.installMode,c.targetNamespace],
        Plain s := by
  have flag : toString (defaultFlag true c.upgradeDisabled) = toString c.upgradeDisabled ↔
      c.upgradeDisabled = true := by
    cases c.upgradeDisabled <;> decide
  simp only [installSettings,List.forall_mem_cons,Config.value,Config.field,htmlEscape_eq_iff,
    plain_defaultText plain_helmInstall,flag]
  tauto

theorem plain_append (first : Plain x) (second : Plain y) : Plain (x ++ y) := by
  intro c listed
  rw [String.toList_append,List.mem_append] at listed
  exact listed.elim (first c) (second c)

theorem plain_dashed (plain : Plain s) : Plain (dashed s) := by
  intro c listed
  simp only [dashed,String.toList_ofList,List.mem_map] at listed
  obtain ⟨d,member,rfl⟩ := listed
  split
  · decide
  · exact plain d member

theorem plain_getFullName {c : Config} (name : Plain c.name) (version : Plain c.chart.version) :
    Plain c.getFullName := by
  refine plain_append (plain_append name ?_) (plain_dashed version)
  rw [← htmlEscape_eq_iff]
  decide +kernel

theorem bodyLines_actions : ∀ line ∈ bodyLines, ∀ field, line.action = some field →
    field ∈ [Field.name,.fullName,.namespaceName,.version] := by
  have listed : ∀ line ∈ bodyLines,
      line.action ∈ [none,some Field.name,some .fullName,some .namespaceName,some .version] := by
    decide +kernel
  intro line member field action
  simpa [action] using listed line member

theorem renderLines_congr (same : ∀ field ∈ [Field.name,.fullName,.namespaceName,.version],
    value field = value' field) (body : ∀ line ∈ lines, line ∈ bodyLines) (version kind : String) :
    renderLines value (header version kind ++ lines) = renderLines value' (header version kind ++ lines) := by
  rw [renderLines_header,renderLines_header]
  suffices eq : renderLines value lines = renderLines value' lines by rw [eq]
  refine List.map_congr_left fun line listed => ?_
  rw [Line.render,Line.render]
  cases action : line.action with
  | none => rfl
  | some field => rw [Option.elim_some,Option.elim_some,same field (bodyLines_actions line (body line listed) field action)]

theorem mem_bodyLines_jobHead (listed : line ∈ jobHead kubeSystem extraValues) : line ∈ bodyLines :=
  List.mem_append_right _ (jobHead_subset _ _ line listed)

theorem manifests_eq {c : Config} (plain : ∀ s ∈ [c.chart.repository,c.chart.name,c.chart.version,c.name,
    c.installMode,c.targetNamespace], Plain s) : c.manifests = [bindingLines c.value,accountLines c.value,
      HelmJob.jobLines c.value (c.targetNamespace = "kube-system") c.hasExtraValues ["set -eu"]] := by
  simp only [List.forall_mem_cons] at plain
  obtain ⟨_,_,version,name,_,target,_⟩ := plain
  have same : ∀ field ∈ [Field.name,.fullName,.namespaceName,.version], c.field field = c.value field := by
    simp only [List.forall_mem_cons,Config.field,Config.value]
    exact ⟨((htmlEscape_eq_iff _).mpr name).symm,((htmlEscape_eq_iff _).mpr (plain_getFullName name version)).symm,
      ((htmlEscape_eq_iff _).mpr target).symm,((htmlEscape_eq_iff _).mpr version).symm,by simp⟩
  rw [Config.manifests,bindingLines,bindingLines,accountLines,accountLines,HelmJob.jobLines,HelmJob.jobLines]
  rw [renderLines_congr same (fun _ listed => List.mem_append_left _ (List.mem_append_left _ listed)),
    renderLines_congr same (fun _ listed => List.mem_append_left _ (List.mem_append_right _ listed)),
    renderLines_congr same (fun _ listed => mem_bodyLines_jobHead listed)]

theorem printable_indent {line : String} (printed : ∀ c ∈ line.toList, printable c = true) :
    ∀ c ∈ (indent line).toList, printable c = true := by
  unfold indent
  split
  · simp
  · intro c listed
    rw [String.toList_append,List.mem_append] at listed
    have blanks : Readable "              " := by decide +kernel
    exact listed.elim (fun before => (blanks c before).1) (printed c)

theorem literal_script (escaped : ∀ field, Escaped (value field)) : Literal (renderLines value script) := by
  refine ⟨fun line => printable_script escaped,?_,?_⟩
  · have first : (renderLines value script).head? = some "set -eu" := by
      rw [scriptLines_eq]
      rfl
    rw [first]
    decide +kernel
  · have ends : installation = installation.dropLast ++ ["fi"] := rfl
    have last : (renderLines value script).getLast? = some "fi" := by
      rw [scriptLines_eq,ends,← List.cons_append,← List.cons_append,← List.append_assoc]
      exact List.getLast?_concat
    rw [last]
    decide +kernel

section Objects

variable {d : Decoder Object} (documented : d.Documented) {value : Field → String}
  (escaped : ∀ field, Escaped (value field))
include documented escaped

theorem kind_manifest {version kind : String} {block : List String}
    (version' : Word version) (kind' : Word kind) (named : kind ≠ "") (body : ∀ line ∈ lines, line ∈ bodyLines)
    (printed : ∀ line ∈ block, ∀ c ∈ line.toList, printable c = true)
    (decoded : d.decode (document (renderLines value (header version kind ++ lines) ++ block.map indent)) =
      .ok obj) : d.kind obj = kind := by
  rw [renderLines_header] at decoded
  refine documented.kind version kind (renderLines value lines ++ block.map indent) obj ⟨version',kind',named,?_,?_⟩
    decoded
  · rw [List.forall_mem_append,renderLines,List.forall_mem_map,List.forall_mem_map]
    exact ⟨fun line listed => inside_render (bodyLines_inner line (body line listed)),
      fun line _ => inside_indent line⟩
  · rw [List.forall_mem_append,renderLines,List.forall_mem_map,List.forall_mem_map]
    refine ⟨fun line listed => ?_,fun line listed => printable_indent (printed line listed)⟩
    exact (sound_of_mem (List.mem_append_left _ (List.mem_append_right _ (body line listed)))).printable escaped

theorem kind_binding (decoded : d.decode (document (bindingLines value)) = .ok obj) :
    d.kind obj = "ClusterRoleBinding" := by
  rw [bindingLines,← List.append_nil (renderLines _ _)] at decoded
  exact kind_manifest documented escaped (by decide +kernel) (by decide +kernel) (by decide)
    (fun _ listed => List.mem_append_left _ (List.mem_append_left _ listed)) (by simp : ∀ line ∈ [], _) decoded

theorem kind_account (decoded : d.decode (document (accountLines value)) = .ok obj) :
    d.kind obj = "ServiceAccount" := by
  rw [accountLines,← List.append_nil (renderLines _ _)] at decoded
  exact kind_manifest documented escaped (by decide +kernel) (by decide +kernel) (by decide)
    (fun _ listed => List.mem_append_left _ (List.mem_append_right _ listed)) (by simp : ∀ line ∈ [], _) decoded

theorem kind_job {block : List String} (printed : ∀ line ∈ block, ∀ c ∈ line.toList, printable c = true)
    (decoded : d.decode (document (jobLines value kubeSystem extraValues block)) = .ok obj) :
    d.kind obj = "Job" :=
  kind_manifest documented escaped (by decide +kernel) (by decide +kernel) (by decide)
    (fun _ => mem_bodyLines_jobHead) printed decoded

end Objects

theorem forall₂_three {R : α → β → Prop} (all : List.Forall₂ R [a,b,c] l) :
    ∃ x y z, l = [x,y,z] ∧ R a x ∧ R b y ∧ R c z := by
  obtain ⟨x,_,first,rest,rfl⟩ := List.forall₂_cons_left_iff.mp all
  obtain ⟨y,_,second,rest',rfl⟩ := List.forall₂_cons_left_iff.mp rest
  obtain ⟨z,_,third,last,rfl⟩ := List.forall₂_cons_left_iff.mp rest'
  cases List.forall₂_nil_left_iff.mp last
  exact ⟨x,y,z,rfl,first,second,third⟩

theorem literal_single : Literal ["set -eu"] := by
  have readable : Readable "set -eu" := by decide +kernel
  refine ⟨?_,by decide +kernel,by decide +kernel⟩
  intro line listed c inside
  rw [List.mem_singleton.mp listed] at inside
  exact (readable c inside).1

section Lines

def outdent (line : String) : String := String.ofList (line.toList.drop 14)

/-- A decoder that takes any text for a manifest and reads it by its lines: the kind is on the second
one, and the script is below the last line that opens a literal block. -/
def byLines : Decoder (List String) where
  decode text := .ok (split text '\n')
  kind lines := String.ofList ((lines.getD 1 "").toList.drop 6)
  namespaceName _ := ""
  name _ := ""
  script lines := some (join ((lines.reverse.takeWhile (· ≠ "            - |")).reverse.map outdent) "\n")

theorem outdent_indent (line : String) : outdent (indent line) = line := by
  unfold indent outdent
  split
  · next empty => simp [empty]
  · simp

theorem indent_ne_opening (line : String) : indent line ≠ "            - |" := by
  unfold indent
  split
  · decide
  · intro eq
    have same := congrArg String.toList eq
    simp at same

theorem jobHead_ends (kubeSystem extraValues : Bool) :
    ∃ init, jobHead kubeSystem extraValues = init ++ [.fixed "            - |"] := by
  refine ⟨(jobHead kubeSystem extraValues).dropLast,?_⟩
  cases kubeSystem <;> cases extraValues <;> rfl

theorem literal_ends (literal : Literal block) : ∃ init last text c, block = init ++ [last] ∧
    last.toList = text ++ [c] ∧ isSpace c = false := by
  have last := literal.last
  cases held : block.getLast? with
  | none => simp [held] at last
  | some line =>
    cases solid : line.toList.getLast? with
    | none => simp [held,solid] at last
    | some c =>
      obtain ⟨init,eq⟩ := List.getLast?_eq_some_iff.mp held
      obtain ⟨text,eq'⟩ := List.getLast?_eq_some_iff.mp solid
      exact ⟨init,line,text,c,eq,eq',by simpa [held,solid] using last⟩

theorem byLines_decode (decoded : byLines.decode text = .ok obj) : split text '\n' = obj :=
  Except.ok.inj decoded

theorem Word.single_line (word : Word s) : '\n' ∉ s.toList := by
  intro inside
  exact absurd (word '\n' inside) (by decide)

/-- Trimming keeps the first two lines before one that is not blank. -/
theorem split_document (first : '\n' ∉ x.toList) (second : '\n' ∉ y.toList) (begins : x.toList = c :: later)
    (solid : isSpace c = false) (ends : z.toList = initial ++ [e]) (solid' : isSpace e = false)
    (rest : List String) : ∃ more, split (document (x :: y :: z :: rest)) '\n' = x :: y :: more := by
  obtain ⟨after,third⟩ := join_cons z rest "\n"
  have text : join (x :: y :: z :: rest) "\n" = x ++ "\n" ++ (y ++ "\n" ++ z) ++ after := by
    simp only [join,String.intercalate_cons_cons,String.append_assoc] at third ⊢
    rw [third]
  have begins' : (x ++ "\n" ++ (y ++ "\n" ++ z)).toList = c :: (later ++ ("\n" ++ (y ++ "\n" ++ z)).toList) := by
    simp [begins]
  have ends' : (x ++ "\n" ++ (y ++ "\n" ++ z)).toList = (x ++ "\n" ++ (y ++ "\n")).toList ++ initial ++ [e] := by
    simp [ends]
  rw [document,text,trimSpace_append begins' ends' solid solid']
  generalize String.ofList (after.toList.reverse.dropWhile isSpace).reverse = after
  have lines : split (x ++ "\n" ++ (y ++ "\n" ++ (z ++ after))) '\n' = split x '\n' ++ (split y '\n' ++
      split (z ++ after) '\n') :=
    (split_append_mark x _ '\n').trans (congrArg _ (split_append_mark y _ '\n'))
  refine ⟨split (z ++ after) '\n',?_⟩
  rw [String.append_assoc,@String.append_assoc (y ++ "\n") z,lines,split_of_not_mem first,
    split_of_not_mem second]
  rfl

theorem byLines_kind (manifest : Manifest version kind rest) : byLines.kind (split
    (document (("apiVersion: " ++ version) :: ("kind: " ++ kind) :: "metadata:" :: rest)) '\n') = kind := by
  have first : '\n' ∉ ("apiVersion: " ++ version).toList := by simp [manifest.versionWord.single_line]
  have second : '\n' ∉ ("kind: " ++ kind).toList := by simp [manifest.kindWord.single_line]
  have begins : ("apiVersion: " ++ version).toList = 'a' :: ("piVersion: " ++ version).toList := by simp
  have ends : "metadata:".toList = "metadata".toList ++ [':'] := by simp
  obtain ⟨more,lines⟩ := split_document first second begins (by decide) ends (by decide) rest
  rw [lines]
  simp [byLines]

theorem document_jobLines (literal : Literal block) : document (jobLines value kubeSystem extraValues block) =
    join (jobLines value kubeSystem extraValues block) "\n" := by
  obtain ⟨init,last,text,c,rfl,ends,solid⟩ := literal_ends literal
  have begins : ∃ later, (join (jobLines value kubeSystem extraValues (init ++ [last])) "\n").toList =
      'a' :: later := by
    rw [jobLines,renderLines_header,List.cons_append]
    obtain ⟨more,eq⟩ := join_cons ("apiVersion: " ++ "batch/v1") (("kind: " ++ "Job") :: "metadata:" ::
      renderLines value (jobHead kubeSystem extraValues) ++ (init ++ [last]).map indent) "\n"
    exact ⟨_,by rw [eq,String.toList_append]; rfl⟩
  have ends' : ∃ initial, (join (jobLines value kubeSystem extraValues (init ++ [last])) "\n").toList =
      initial ++ [c] := by
    have indented : ∃ start, (indent last).toList = start ++ [c] := by
      unfold indent
      split
      · next empty => simp [empty] at ends
      · exact ⟨"              ".toList ++ text,by simp [ends]⟩
    obtain ⟨start,eq⟩ := indented
    rw [jobLines,List.map_append,List.map_singleton,← List.append_assoc,
      join_append (by simp [renderLines,header]) (by simp),String.toList_append]
    have single : join [indent last] "\n" = indent last := by simp [join]
    rw [single,eq,← List.append_assoc]
    exact ⟨_,rfl⟩
  obtain ⟨_,begins⟩ := begins
  obtain ⟨_,ends'⟩ := ends'
  exact trimSpace_eq_self begins ends' (by decide) solid

theorem byLines_script (escaped : ∀ field, Escaped (value field)) (literal : Literal block) :
    byLines.script (split (document (jobLines value kubeSystem extraValues block)) '\n') =
      some (join block "\n") := by
  have printed : ∀ line ∈ jobLines value kubeSystem extraValues block, ∀ c ∈ line.toList, printable c = true := by
    rw [jobLines,List.forall_mem_append,renderLines,List.forall_mem_map,List.forall_mem_map]
    refine ⟨fun line listed => ?_,fun line listed => printable_indent (literal.printable line listed)⟩
    exact (sound_jobLines listed).printable escaped
  rw [document_jobLines literal,split_lines (by simp [jobLines,renderLines,header]) printed]
  obtain ⟨init,ends⟩ := jobHead_ends kubeSystem extraValues
  have opened : ∀ line ∈ (block.map indent).reverse, decide (line ≠ "            - |") = true := by
    simp only [List.mem_reverse,List.mem_map,decide_eq_true_eq]
    rintro _ ⟨line,_,rfl⟩
    exact indent_ne_opening line
  have lines : jobLines value kubeSystem extraValues block =
      renderLines value (header "batch/v1" "Job" ++ init) ++ "            - |" :: block.map indent := by
    rw [jobLines,ends]
    simp [renderLines,render_fixed]
  have below : (jobLines value kubeSystem extraValues block).reverse.takeWhile (· ≠ "            - |") =
      (block.map indent).reverse := by
    rw [lines,List.reverse_append,List.reverse_cons,List.append_assoc,List.takeWhile_append_of_pos opened]
    simp
  have restored : (block.map indent).map outdent = block := by
    simp [Function.comp_def,outdent_indent]
  simp only [byLines,below,List.reverse_reverse,restored]

theorem byLines_documented : byLines.Documented := by
  refine ⟨?_,?_,?_⟩
  · intro version kind rest obj manifest decoded
    rw [← byLines_decode decoded]
    exact byLines_kind manifest
  · intro value kubeSystem extraValues block obj escaped literal decoded
    rw [← byLines_decode decoded]
    exact byLines_script escaped literal
  · intros
    rfl

end Lines

theorem applyTemplate_runs {d : Decoder Object} {c : Config}
    (run : (c.applyTemplate d).Runs serve Succeeds [] err applied) :
    (err = none → List.Forall₂ (fun doc obj => d.decode doc = .ok obj)
      (documents (splitText c.getTemplatedJob "---")) applied) ∧
    (err ≠ none → ∃ doc ∈ documents (splitText c.getTemplatedJob "---"), (d.decode doc).isOk = false) := by
  unfold Config.applyTemplate at run
  generalize splitText c.getTemplatedJob "---" = docs at run
  obtain ⟨done,failed⟩ := (applyDocuments_ensures d docs []).runs run
  refine ⟨?_,failed⟩
  intro none'
  obtain ⟨objs,rfl,decoded⟩ := done none'
  exact decoded

section Runs

variable {d : Decoder Object} (documented : d.Documented) {c : Config} (readable : c.Readable)
  {err : Option Error} {applied : List Object}
  (run : (c.applyTemplate d).Runs serve Succeeds [] err applied)
include documented readable run

/-- In one piece and with well-formed manifests, the three objects are applied with the script as it is
rendered. -/
theorem applied_of_clear (clear : ∀ s ∈ c.marked, Clear s)
    (binding : (d.decode (document (bindingLines c.value))).isOk = true)
    (account : (d.decode (document (accountLines c.value))).isOk = true)
    (job : (d.decode (document c.jobLines)).isOk = true) :
    err = none ∧ applied.map d.kind = ["ClusterRoleBinding","ServiceAccount","Job"] ∧
      applied.getLast?.bind d.script = some (join c.scriptLines "\n") := by
  have escaped := readable.value
  obtain ⟨done,failed⟩ := applyTemplate_runs run
  rw [three_documents c ((clear_jobLines c).mpr clear)] at done failed
  have none' : err = none := by
    by_contra some'
    obtain ⟨doc,listed,wrong⟩ := failed some'
    simp only [List.mem_cons,List.not_mem_nil,or_false] at listed
    rcases listed with rfl | rfl | rfl
    · exact absurd (wrong.symm.trans binding) (by decide)
    · exact absurd (wrong.symm.trans account) (by decide)
    · exact absurd (wrong.symm.trans job) (by decide)
  obtain ⟨first,second,third,rfl,first',second',third'⟩ := forall₂_three (done none')
  refine ⟨none',?_,documented.script _ _ _ _ third escaped (literal_script escaped) third'⟩
  simp only [List.map_cons,List.map_nil,kind_binding documented escaped first',
    kind_account documented escaped second',kind_job documented escaped (literal_script escaped).printable third']

theorem renderable_of_faithful (faithful : Faithful d c err applied) : Renderable d c := by
  have escaped := readable.value
  have decoded := (applyTemplate_runs run).1 faithful.done
  have count : applied.length = 3 := by simpa using congrArg List.length faithful.kinds
  have clear : Clear (join c.jobLines "\n") := by
    by_contra marked
    have many := four_documents_of_mark c marked
    have same := decoded.length_eq
    omega
  rw [three_documents c clear] at decoded
  obtain ⟨binding,account,job,rfl,binding',account',job'⟩ := forall₂_three decoded
  obtain ⟨text,held,assigns⟩ := faithful.script
  have held : d.script job = some text := held
  rw [documented.script _ _ _ _ job escaped (literal_script escaped) job',Option.some.injEq] at held
  subst held
  have fields : ∀ s ∈ installSettings, c.value s.2 = c.field s.2 := by
    intro s listed
    have two := (assigns_script escaped listed).symm.trans (assigns s listed)
    simpa using two
  obtain ⟨disabled,plain⟩ := (value_eq_field_iff c).mp fields
  refine ⟨disabled,plain,(clear_jobLines c).mp clear,?_⟩
  rw [manifests_eq plain]
  simp only [List.forall_mem_cons]
  have job' : (d.decode (document c.jobLines)).isOk = true := by rw [job']; rfl
  exact ⟨by rw [binding']; rfl,by rw [account']; rfl,
    documented.accepts _ _ _ _ _ escaped (literal_script escaped) literal_single job',by simp⟩

/-- Alone and with no call failing, `ApplyTemplate` renders a readable configuration faithfully exactly
when it is renderable. -/
theorem applyTemplate_faithful_iff : Faithful d c err applied ↔ Renderable d c := by
  refine ⟨renderable_of_faithful documented readable run,fun renderable => ?_⟩
  have escaped := readable.value
  have wellFormed := renderable.wellFormed
  rw [manifests_eq renderable.plain] at wellFormed
  simp only [List.forall_mem_cons] at wellFormed
  obtain ⟨binding,account,job,_⟩ := wellFormed
  have job := documented.accepts _ _ _ _ _ escaped literal_single (literal_script escaped) job
  obtain ⟨done,kinds,script⟩ := applied_of_clear documented readable run renderable.clear binding account job
  refine ⟨done,kinds,_,script,?_⟩
  intro s listed
  rw [← (value_eq_field_iff c).mpr ⟨renderable.upgradeDisabled,renderable.plain⟩ s listed]
  exact assigns_script escaped listed

end Runs

theorem succeeds_answerable (applied : List Object) (call : Call Object) :
    ∃ reply, Succeeds applied call reply := by
  cases call with
  | create obj => exact ⟨.done,by simp [Succeeds]⟩
  | update obj => exact ⟨.done,rfl⟩

theorem byLines_script_values {c : Config} (readable : c.Readable) (clear : ∀ s ∈ c.marked, Clear s) :
    ∃ err applied text, (c.applyTemplate byLines).Runs serve Succeeds [] err applied ∧
      applied.getLast?.bind byLines.script = some text ∧
      ∀ s ∈ installSettings, Assigns text s.1 (c.value s.2) := by
  obtain ⟨err,applied,run⟩ := Program.exists_runs succeeds_answerable (c.applyTemplate byLines) []
  obtain ⟨_,_,script⟩ := applied_of_clear byLines_documented readable run clear rfl rfl rfl
  exact ⟨err,applied,_,run,script,fun s listed => assigns_script readable.value listed⟩

def autoscalerInstall : Config :=
  newHelmInstallConfig "autoscaler" "kube-system" "cluster-autoscaler" "9.46.6" "charts" false

theorem applyTemplate_faithful_autoscalerInstall : ∃ err applied,
    (autoscalerInstall.applyTemplate byLines).Runs serve Succeeds [] err applied ∧
      Faithful byLines autoscalerInstall err applied := by
  have readable : autoscalerInstall.Readable := by decide +kernel
  have renderable : Renderable byLines autoscalerInstall :=
    ⟨rfl,by decide +kernel,by decide +kernel,fun _ _ => rfl⟩
  obtain ⟨err,applied,run⟩ :=
    Program.exists_runs succeeds_answerable (autoscalerInstall.applyTemplate byLines) []
  exact ⟨err,applied,run,(applyTemplate_faithful_iff byLines_documented readable run).mpr renderable⟩

/-- The install of a chart whose upgrades are not disabled. -/
def upgradedInstall : Config := { autoscalerInstall with upgradeDisabled := false }

/-- The install of a chart from a repository with a plus sign in its address. -/
def plusInstall : Config :=
  newHelmInstallConfig "autoscaler" "kube-system" "cluster-autoscaler" "9.46.6" "charts/a+b" false

theorem renders_flag_and_repository_changed :
    (upgradedInstall.Readable ∧ ∃ err applied text,
      (upgradedInstall.applyTemplate byLines).Runs serve Succeeds [] err applied ∧
      applied.getLast?.bind byLines.script = some text ∧ Assigns text "UPGRADE_DISABLE" "true" ∧
      ¬ Faithful byLines upgradedInstall err applied) ∧
    (plusInstall.Readable ∧ ∃ err applied text,
      (plusInstall.applyTemplate byLines).Runs serve Succeeds [] err applied ∧
      applied.getLast?.bind byLines.script = some text ∧ Assigns text "REPOSITORY" "charts/a&#43;b" ∧
      ¬ Faithful byLines plusInstall err applied) := by
  have readable : upgradedInstall.Readable := by decide +kernel
  have readable' : plusInstall.Readable := by decide +kernel
  obtain ⟨err,applied,text,run,held,assigns⟩ := byLines_script_values readable (by decide +kernel)
  obtain ⟨err',applied',text',run',held',assigns'⟩ := byLines_script_values readable' (by decide +kernel)
  refine ⟨⟨readable,err,applied,text,run,held,?_,?_⟩,⟨readable',err',applied',text',run',held',?_,?_⟩⟩
  · exact assigns ("UPGRADE_DISABLE",.upgradeDisable) (by decide)
  · intro faithful
    cases (renderable_of_faithful byLines_documented readable run faithful).upgradeDisabled
  · have repository : plusInstall.value .repository = "charts/a&#43;b" := by decide +kernel
    rw [← repository]
    exact assigns' ("REPOSITORY",.repository) (by decide)
  · intro faithful
    have plain := (renderable_of_faithful byLines_documented readable' run' faithful).plain
    exact absurd plain (by decide +kernel)

end Faithful

end Kommodity.HelmJob
