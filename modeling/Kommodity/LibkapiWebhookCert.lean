import Kommodity.GoFiles
import Kommodity.GoHeap

/-! The certificate and key files of libkapi's webhook server, made by any number of calls that can run at
the same time, fail, or be killed at any point. Files that are there are taken for good. -/
namespace Kommodity.Libkapi.WebhookCert

open Go Interaction Transition

def webhookCertFileName : String := "tls.crt"
def webhookKeyFileName : String := "tls.key"

inductive File where
  | cert
  | key
  deriving DecidableEq

def File.path (webhookCertDir : String) : File → String
  | .cert => webhookCertDir ++ "/" ++ webhookCertFileName
  | .key => webhookCertDir ++ "/" ++ webhookKeyFileName

/-- A certificate and its key, in PEM. -/
structure Pair where
  cert : Bytes
  key : Bytes
  deriving DecidableEq

def Pair.data (pair : Pair) : File → Bytes
  | .cert => pair.cert
  | .key => pair.key

inductive Cause where
  | os (detail : String)
  | generation (detail : String)
  | indexOutOfRange
  deriving DecidableEq

abbrev Error := Err Cause

inductive Call where
  | file (call : FileCall File)
  | generateSelfSignedCertKey (host : String) (alternateDNS : List String)
  deriving DecidableEq

abbrev Answer : Call → Type
  | .file _ => OsError
  | .generateSelfSignedCertKey _ _ => Except String Pair

abbrev CertProgram := Program Call Answer

def ask (call : FileCall File) : CertProgram OsError := request (Call.file call)

def osError (context webhookCertDir : String) (file : File) (err : String) : Error :=
  (Err.of (.os err)).wrap (context ++ " \"" ++ file.path webhookCertDir ++ "\"")

/-- An index out of range does not return but panics; it is an error of its own here. -/
def ensureSelfSignedWebhookCert (webhookCertDir : String) (dnsNames : List String) :
    CertProgram (Option Error) := do
  let certErr ← ask (.stat .cert)
  let keyErr ← ask (.stat .key)
  if certErr = none ∧ keyErr = none then return none
  else
    match ← ask .mkdirAll with
    | some err =>
      return some ((Err.of (.os err)).wrap
        ("failed to create webhook certificate directory \"" ++ webhookCertDir ++ "\""))
    | none =>
      match dnsNames with
      | [] => return some (.of .indexOutOfRange)
      | host :: _ =>
        match ← request (Call.generateSelfSignedCertKey host dnsNames) with
        | .error err =>
          return some ((Err.of (.generation err)).wrap "failed to generate self-signed webhook certificate")
        | .ok pair =>
          match ← writeFile ask .cert pair.cert with
          | some err => return some (osError "failed to write webhook certificate" webhookCertDir .cert err)
          | none =>
            match ← writeFile ask .key pair.key with
            | some err => return some (osError "failed to write webhook key" webhookCertDir .key err)
            | none => return none

/-- What a call has found and done: it knows of a key file, it has a pair, and it is at a byte of a file. -/
structure Notes where
  keyThere : Bool
  pair : Option Pair
  position : Option (File × Nat)

namespace Notes

def fresh : Notes := ⟨false,none,none⟩

/-- A call that fails has stopped writing. -/
def noteFile (h : Notes) : FileCall File → OsError → Notes
  | _,some _ => { h with position := none }
  | .stat .key,none => { h with keyThere := true }
  | .openTruncate file,none =>
    { h with position := some (file,0), keyThere := h.keyThere || decide (file = .key) }
  | .writeByte _ _ _,none => { h with position := h.position.map fun p => (p.1,p.2 + 1) }
  | _,none => h

def note (h : Notes) : (c : Call) → Answer c → Notes
  | .file call,err => h.noteFile call err
  | .generateSelfSignedCertKey _ _,.ok pair => { h with pair := some pair }
  | .generateSelfSignedCertKey _ _,.error _ => h

/-- The call has opened the certificate file and has not written the last byte of the key. -/
def unfinished (h : Notes) : Bool :=
  match h.pair,h.position with
  | some _,some (.cert,_) => true
  | some pair,some (.key,n) => n < pair.key.length
  | _,_ => false

def NextFile (h : Notes) : FileCall File → Prop
  | .stat _ | .mkdirAll => h.position = none
  | .openTruncate .cert => h.position = none ∧ ∃ pair, h.pair = some pair
  | .openTruncate .key => ∃ pair, h.pair = some pair ∧ h.position = some (.cert,pair.cert.length)
  | .writeByte file offset b =>
    ∃ pair, h.pair = some pair ∧ h.position = some (file,offset) ∧ (pair.data file)[offset]? = some b
  | .close _ => True

def Next (h : Notes) : Call → Prop
  | .file call => h.NextFile call
  | .generateSelfSignedCertKey _ _ => h.position = none

def Returns (h : Notes) (result : Option Error) : Prop :=
  h.unfinished = false ∧ (result = none → h.keyThere = true)

variable {h : Notes} {pair : Pair}

@[simp] theorem noteFile_error (call : FileCall File) (err : String) :
    h.noteFile call (some err) = { h with position := none } := by
  cases call with
  | stat path => cases path <;> rfl
  | _ => rfl

@[simp] theorem noteFile_pair (call : FileCall File) (err : OsError) : (h.noteFile call err).pair = h.pair := by
  unfold noteFile
  split <;> rfl

theorem unfinished_of_none (unset : h.position = none) : h.unfinished = false := by
  unfold unfinished
  rw [unset]
  cases h.pair <;> rfl

theorem unfinished_cert (paired : h.pair = some pair) (position : h.position = some (.cert,n)) :
    h.unfinished = true := by
  simp [unfinished,paired,position]

theorem unfinished_key (paired : h.pair = some pair) (position : h.position = some (.key,n)) :
    h.unfinished = decide (n < pair.key.length) := by
  simp [unfinished,paired,position]

/-- Where the bytes of a file are all written, or its writing has failed. -/
structure Written (pair : Pair) (file : File) (h : Notes) (err : OsError) : Prop where
  paired : h.pair = some pair
  done : err = none → h.position = some (file,(pair.data file).length)
  failed : err ≠ none → h.position = none
  seen : err = none → file = .key → h.keyThere = true

theorem writeBytes_traced (pair : Pair) (file : File) (offset : Nat) (rest : Bytes) (h : Notes)
    (left : (pair.data file).drop offset = rest) (reached : offset ≤ (pair.data file).length)
    (paired : h.pair = some pair) (position : h.position = some (file,offset))
    (seen : file = .key → h.keyThere = true) :
    (writeBytes ask file offset rest).Traced note Next (Written pair file) h := by
  induction rest generalizing offset h with
  | nil =>
    have ended : offset = (pair.data file).length := Nat.le_antisymm reached (List.drop_eq_nil_iff.mp left)
    exact ⟨paired,fun _ => ended ▸ position,fun failed => absurd rfl failed,fun _ => seen⟩
  | cons b rest ih =>
    have next : (pair.data file)[offset]? = some b := by
      rw [← List.head?_drop,left]
      rfl
    have bound := (List.getElem?_eq_some_iff.mp next).1
    refine ⟨⟨pair,paired,position,next⟩,?_⟩
    rintro (_ | err)
    · refine ih (offset + 1) _ ?_ bound paired ?_ seen
      · rw [← List.drop_drop,left]
        rfl
      · simp [note,noteFile,position]
    · exact ⟨paired,fun ok => (by cases ok),fun _ => rfl,fun ok => (by cases ok)⟩

theorem writeFile_traced (file : File) (paired : h.pair = some pair) (opens : h.NextFile (.openTruncate file)) :
    (writeFile ask file (pair.data file)).Traced note Next (Written pair file) h := by
  refine ⟨opens,?_⟩
  rintro (_ | err)
  · dsimp only [Program.bind]
    refine traced_bind (writeBytes_traced pair file 0 _ _ List.drop_zero (Nat.zero_le _) paired rfl ?_) ?_
    · rintro rfl
      simp [note,noteFile]
    · rintro h written ⟨paired,done,failed,seen⟩
      refine ⟨trivial,?_⟩
      rintro (_ | closed)
      · cases written with
        | none => exact ⟨paired,fun _ => done rfl,fun failed => absurd rfl failed,fun _ => seen rfl⟩
        | some err => exact ⟨paired,fun ok => (by cases ok),fun _ => failed (by simp),fun ok => (by cases ok)⟩
      · have nonempty : written.or (some closed) ≠ none := by cases written <;> simp
        exact ⟨paired,fun ok => absurd ok nonempty,fun _ => rfl,fun ok => absurd ok nonempty⟩
  · exact ⟨paired,fun ok => (by cases ok),fun _ => rfl,fun ok => (by cases ok)⟩

theorem returns_of_unset (unset : h.position = none) (err : Error) : Returns h (some err) :=
  ⟨unfinished_of_none unset,fun ok => (by cases ok)⟩

theorem ensureSelfSignedWebhookCert_traced (webhookCertDir : String) (dnsNames : List String) :
    (ensureSelfSignedWebhookCert webhookCertDir dnsNames).Traced note Next Returns fresh := by
  refine ⟨rfl,fun certErr => ?_⟩
  have unset : (note fresh (.file (.stat .cert)) certErr).position = none := by cases certErr <;> rfl
  refine ⟨unset,fun keyErr => ?_⟩
  have unset : (note (note fresh (.file (.stat .cert)) certErr) (.file (.stat .key)) keyErr).position = none := by
    cases certErr <;> cases keyErr <;> rfl
  dsimp only [Program.bind]
  split
  · next found =>
    obtain ⟨rfl,rfl⟩ := found
    exact ⟨rfl,fun _ => rfl⟩
  · generalize note (note fresh (.file (.stat .cert)) certErr) (.file (.stat .key)) keyErr = h at unset
    refine ⟨unset,?_⟩
    rintro (_ | err)
    · dsimp only [Program.bind]
      split
      · exact returns_of_unset unset _
      · refine ⟨unset,?_⟩
        rintro (err | pair)
        · exact returns_of_unset unset _
        · dsimp only [Program.bind]
          refine traced_bind (writeFile_traced .cert rfl ⟨unset,pair,rfl⟩) ?_
          rintro h (_ | err) ⟨paired,done,failed,_⟩
          · refine traced_bind (writeFile_traced .key paired ⟨pair,paired,done rfl⟩) ?_
            rintro h (_ | err) ⟨paired,done,failed,seen⟩
            · refine ⟨?_,fun _ => seen rfl rfl⟩
              rw [unfinished_key paired (done rfl)]
              simp [Pair.data]
            · exact returns_of_unset (failed (by simp)) _
          · exact returns_of_unset (failed (by simp)) _
    · exact returns_of_unset rfl _

end Notes

/-- A call of the function. -/
inductive Run where
  | running (notes : Notes) (program : CertProgram (Option Error))
  | returned (result : Option Error)
  | killed

namespace Run

def settle (h : Notes) : CertProgram (Option Error) → Run
  | .pure result => .returned result
  | program => .running h program

def pending : Run → Option Call
  | .running _ (.call c _) => some c
  | _ => none

def isRunning : Run → Bool
  | .running _ _ => true
  | _ => false

def returnsNil : Run → Bool
  | .returned none => true
  | _ => false

theorem eq_of_returnsNil {run : Run} (nil : run.returnsNil = true) : run = .returned none := by
  rcases run with ⟨h,p⟩ | (_ | err) | _
  · cases nil
  · rfl
  · cases nil
  · cases nil

def unfinished : Run → Bool
  | .running h _ => h.unfinished
  | _ => false

@[simp] theorem unfinished_running (h : Notes) (p : CertProgram (Option Error)) :
    (Run.running h p).unfinished = h.unfinished := rfl

end Run

/-- `generated` keeps every pair that was made. -/
structure State where
  files : Files File
  generated : List Pair
  calls : Heap Run

def initial : State := ⟨.empty,[],.empty⟩

/-- What the system and the generation have to say to a call; the pair counts where there is no error. -/
structure Reply where
  err : OsError
  pair : Pair

def Reply.answer (reply : Reply) : (c : Call) → Answer c
  | .file _ => reply.err
  | .generateSelfSignedCertKey _ _ =>
    match reply.err with
    | some err => .error err
    | none => .ok reply.pair

def answerable (files : Files File) (reply : Reply) : Call → Prop
  | .file call => files.answerable call reply.err
  | .generateSelfSignedCertKey _ _ => True

def State.serve (s : State) (reply : Reply) : Call → State
  | .file call => { s with files := s.files.serve call reply.err }
  | .generateSelfSignedCertKey _ _ =>
    match reply.err with
    | some _ => s
    | none => { s with generated := reply.pair :: s.generated }

inductive Action where
  | begin (dnsNames : List String)
  | answer (i : Ref) (reply : Reply)
  | kill (i : Ref)

def State.possible (s : State) : Action → Prop
  | .begin _ => True
  | .answer i reply => ∃ run ∈ s.calls.deref i, ∃ c ∈ run.pending, answerable s.files reply c
  | .kill i => ∃ run ∈ s.calls.deref i, run.isRunning = true

def State.act (webhookCertDir : String) (s : State) : Action → State
  | .begin dnsNames =>
    { s with calls := s.calls.alloc (.settle .fresh (ensureSelfSignedWebhookCert webhookCertDir dnsNames)) }
  | .answer i reply =>
    match s.calls.deref i with
    | some (.running h (.call c next)) =>
      let a := reply.answer c
      { s.serve reply c with calls := s.calls.set i (.settle (h.note c a) (next a)) }
    | _ => s
  | .kill i => { s with calls := s.calls.set i .killed }

def system (webhookCertDir : String) : System State Action := ⟨State.possible,State.act webhookCertDir⟩

/-- Both files are complete, and of one pair. -/
def Matched (s : State) : Prop :=
  ∃ pair ∈ s.generated, ∀ file, s.files.content file = some (pair.data file)

/-- No call opens the certificate file while another is in its writes, and none is killed or fails in its
writes once there is a key file. -/
def Condition (s : State) : Action → Prop
  | .begin _ => True
  | .answer i reply => ∀ run ∈ s.calls.deref i,
      (run.pending = some (.file (.openTruncate .cert)) → ∀ other ∈ s.calls.objects, other.unfinished = false) ∧
      (run.unfinished = true → reply.err ≠ none → s.files.content .key = none)
  | .kill i => ∀ run ∈ s.calls.deref i, run.unfinished = true → s.files.content .key = none

/-- The files of a pair are written up to a byte of one of them, the certificate before the key. -/
def WrittenTo (files : Files File) (pair : Pair) (file : File) (n : Nat) : Prop :=
  files.content file = some ((pair.data file).take n) ∧ (file = .key → files.content .cert = some pair.cert)

theorem writtenTo_openCert (files : Files File) (pair : Pair) :
    WrittenTo (files.serve (.openTruncate .cert) none) pair .cert 0 := by
  refine ⟨?_,fun other => (by cases other)⟩
  simp [Files.serve]

theorem WrittenTo.openKey (written : WrittenTo files pair .cert pair.cert.length) :
    WrittenTo (files.serve (.openTruncate .key) none) pair .key 0 := by
  have complete : files.content .cert = some pair.cert := by
    rw [written.1]
    exact congrArg some List.take_length
  simp [WrittenTo,Files.serve,complete]

theorem WrittenTo.writeByte (written : WrittenTo files pair file n) (value : (pair.data file)[n]? = some b) :
    WrittenTo (files.serve (.writeByte file n b) none) pair file (n + 1) := by
  refine ⟨?_,?_⟩
  · simp [Files.serve,written.1,putByte_take value]
  · rintro rfl
    simp [Files.serve,written.2 rfl]

theorem WrittenTo.complete (written : WrittenTo files pair .key n) (past : pair.key.length ≤ n) :
    ∀ file, files.content file = some (pair.data file)
  | .cert => written.2 rfl
  | .key => by
    rw [written.1]
    exact congrArg some (List.take_of_length_le past)

/-- A call that is in its writes has the files as far as it is; one that knows of a key file is right. -/
structure Held (files : Files File) (h : Notes) : Prop where
  seen : h.keyThere = true → files.content .key ≠ none
  written : h.unfinished = true → ∀ pair file n, h.pair = some pair → h.position = some (file,n) →
    WrittenTo files pair file n

structure Inv (s : State) : Prop where
  traced : ∀ i h p, s.calls.deref i = some (.running h p) → p.Traced Notes.note Notes.Next Notes.Returns h
  held : ∀ i h p, s.calls.deref i = some (.running h p) → Held s.files h
  known : ∀ i h p pair, s.calls.deref i = some (.running h p) → h.pair = some pair → pair ∈ s.generated
  single : ∀ i j run other, s.calls.deref i = some run → s.calls.deref j = some other →
    run.unfinished = true → other.unfinished = true → i = j
  settled : (∀ i run, s.calls.deref i = some run → run.unfinished = false) →
    s.files.content .key = none ∨ Matched s
  returned : ∀ i, s.calls.deref i = some (.returned none) → s.files.content .key ≠ none

theorem inv_initial : Inv initial where
  traced i h p found := by simp [initial] at found
  held i h p found := by simp [initial] at found
  known i h p pair found := by simp [initial] at found
  single i j run other found := by simp [initial] at found
  settled _ := .inl rfl
  returned i found := by simp [initial] at found

variable {h : Notes} {files : Files File} {call : FileCall File}

/-- A call that changes a file is in its writes, or it opens the certificate file. -/
theorem unfinished_of_writes (next : h.NextFile call) (writes : Files.writes call = some file) :
    h.unfinished = true ∨ call = .openTruncate .cert := by
  cases call with
  | openTruncate path =>
    cases path with
    | cert => exact .inr rfl
    | key =>
      obtain ⟨pair,paired,position⟩ := next
      exact .inl (Notes.unfinished_cert paired position)
  | writeByte path offset b =>
    obtain ⟨pair,paired,position,value⟩ := next
    cases path with
    | cert => exact .inl (Notes.unfinished_cert paired position)
    | key =>
      rw [Notes.unfinished_key paired position]
      exact .inl (decide_eq_true (List.getElem?_eq_some_iff.mp value).1)
  | stat path => cases writes
  | mkdirAll => cases writes
  | close path => cases writes

theorem content_of_finished (next : h.NextFile call) (finished : h.unfinished = false)
    (other : call ≠ .openTruncate .cert) (err : OsError) (file : File) :
    (files.serve call err).content file = files.content file := by
  refine files.serve_other call err file ?_
  intro writes
  rcases unfinished_of_writes next writes with unfinished | opens
  · rw [finished] at unfinished
    cases unfinished
  · exact other opens

theorem Held.other (held : Held files h') (next : h.NextFile call) (err : OsError)
    (alone : h'.unfinished = true → h.unfinished = false ∧ call ≠ .openTruncate .cert) :
    Held (files.serve call err) h' where
  seen seen := files.serve_present call err .key (held.seen seen)
  written unfinished pair file n paired position := by
    obtain ⟨finished,other⟩ := alone unfinished
    rw [WrittenTo,content_of_finished next finished other,content_of_finished next finished other]
    exact held.written unfinished pair file n paired position

theorem held_of_unset (seen : h.keyThere = true → files.content .key ≠ none) (unset : h.position = none) :
    Held files h where
  seen := seen
  written unfinished := by
    rw [Notes.unfinished_of_none unset] at unfinished
    cases unfinished

/-- A call that changes a file has the files as far as it is, also when it has come to the end. -/
theorem Held.writtenTo (held : Held files h) (next : h.NextFile call) (writes : Files.writes call = some file) :
    ∃ pair n, h.pair = some pair ∧ (h.noteFile call none).position = some (file,n) ∧
      WrittenTo (files.serve call none) pair file n := by
  cases call with
  | openTruncate path =>
    cases writes
    cases file with
    | cert =>
      obtain ⟨_,pair,paired⟩ := next
      exact ⟨pair,0,paired,rfl,writtenTo_openCert files pair⟩
    | key =>
      obtain ⟨pair,paired,position⟩ := next
      have unfinished := Notes.unfinished_cert paired position
      exact ⟨pair,0,paired,rfl,(held.written unfinished pair .cert _ paired position).openKey⟩
  | writeByte path offset b =>
    cases writes
    have unfinished : h.unfinished = true := by
      rcases unfinished_of_writes next rfl with unfinished | opens
      · exact unfinished
      · cases opens
    obtain ⟨pair,paired,position,value⟩ := next
    refine ⟨pair,offset + 1,paired,?_,(held.written unfinished pair _ offset paired position).writeByte value⟩
    simp [Notes.noteFile,position]
  | stat path => cases writes
  | mkdirAll => cases writes
  | close path => cases writes

theorem Held.file (held : Held files h) (next : h.NextFile call) (answerable : files.answerable call err) :
    Held (files.serve call err) (h.noteFile call err) := by
  cases err with
  | some err =>
    rw [Notes.noteFile_error,Files.serve_error]
    exact held_of_unset held.seen rfl
  | none =>
    cases changed : Files.writes call with
    | some file =>
      obtain ⟨pair,n,paired,position,written⟩ := held.writtenTo next changed
      refine ⟨?_,?_⟩
      · intro seen
        by_cases own : file = .key
        · subst own
          rw [written.1]
          simp
        · refine files.serve_present call none .key (held.seen ?_)
          cases call with
          | openTruncate path =>
            cases changed
            simpa [Notes.noteFile,own] using seen
          | writeByte path offset b => exact seen
          | _ => cases changed
      · intro _ pair' file' n' paired' position'
        rw [Notes.noteFile_pair] at paired'
        cases paired.symm.trans paired'
        cases position.symm.trans position'
        exact written
    | none =>
      cases call with
      | stat path =>
        cases path with
        | cert => exact held
        | key => exact held_of_unset (fun _ => answerable) next
      | mkdirAll => exact held
      | close path => exact held
      | openTruncate path => cases changed
      | writeByte path offset b => cases changed

/-- What changes no file neither begins nor ends the writes, unless it fails. -/
theorem unfinished_noteFile_quiet (quiet : Files.writes call = none) :
    (h.noteFile call none).unfinished = h.unfinished := by
  cases call with
  | stat path => cases path <;> rfl
  | mkdirAll => rfl
  | close path => rfl
  | openTruncate path => cases quiet
  | writeByte path offset b => cases quiet

theorem Held.ends (held : Held files h) (next : h.NextFile call) (before : h.unfinished = true)
    (after : (h.noteFile call err).unfinished = false) :
    err ≠ none ∨
      ∃ pair, h.pair = some pair ∧ ∀ file, (files.serve call err).content file = some (pair.data file) := by
  cases err with
  | some err => exact .inl (by simp)
  | none =>
    right
    cases changed : Files.writes call with
    | none =>
      rw [unfinished_noteFile_quiet changed,before] at after
      cases after
    | some file =>
      obtain ⟨pair,n,paired,position,written⟩ := held.writtenTo next changed
      have paired' : (h.noteFile call none).pair = some pair := (Notes.noteFile_pair call none).trans paired
      cases file with
      | cert =>
        rw [Notes.unfinished_cert paired' position] at after
        cases after
      | key =>
        rw [Notes.unfinished_key paired' position] at after
        exact ⟨pair,paired,written.complete (Nat.le_of_not_lt (of_decide_eq_false after))⟩

theorem begins_of_unfinished (next : h.NextFile call) (before : h.unfinished = false)
    (after : (h.noteFile call err).unfinished = true) : call = .openTruncate .cert := by
  cases changed : Files.writes call with
  | some file =>
    rcases unfinished_of_writes next changed with unfinished | opens
    · rw [before] at unfinished
      cases unfinished
    · exact opens
  | none =>
    cases err with
    | some err =>
      rw [Notes.noteFile_error,Notes.unfinished_of_none rfl] at after
      cases after
    | none =>
      rw [unfinished_noteFile_quiet changed,before] at after
      cases after

theorem content_of_quiet (next : h.NextFile call) (before : h.unfinished = false)
    (after : (h.noteFile call err).unfinished = false) (file : File) :
    (files.serve call err).content file = files.content file := by
  by_cases opens : call = .openTruncate .cert
  · subst opens
    cases err with
    | some err => rw [Files.serve_error]
    | none =>
      obtain ⟨_,pair,paired⟩ := next
      have paired' : (h.noteFile (.openTruncate .cert) none).pair = some pair := paired
      have position : (h.noteFile (.openTruncate .cert) none).position = some (.cert,0) := rfl
      rw [Notes.unfinished_cert paired' position] at after
      cases after
  · exact content_of_finished next before opens err file

/-- What one answer does to the call that gets it, and to the files. -/
structure Advances (s t : State) (failed : Bool) (c : Call) (h h' : Notes) : Prop where
  held : Held t.files h'
  others : ∀ other, Held s.files other →
    (other.unfinished = true → h.unfinished = false ∧ c ≠ .file (.openTruncate .cert)) → Held t.files other
  present : s.files.content .key ≠ none → t.files.content .key ≠ none
  generated : s.generated ⊆ t.generated
  known : ∀ pair, h'.pair = some pair → h.pair = some pair ∨ pair ∈ t.generated
  begins : h.unfinished = false → h'.unfinished = true → c = .file (.openTruncate .cert)
  ends : h.unfinished = true → h'.unfinished = false →
    (failed = true ∧ t.files = s.files) ∨
      ∃ pair, h.pair = some pair ∧ ∀ file, t.files.content file = some (pair.data file)
  quiet : h.unfinished = false → h'.unfinished = false → ∀ file, t.files.content file = s.files.content file

theorem advances_file (held : Held s.files h) (next : h.NextFile call)
    (answerable : s.files.answerable call reply.err) :
    Advances s (s.serve reply (.file call)) reply.err.isSome (.file call) h (h.noteFile call reply.err) where
  held := held.file next answerable
  others other held' alone := held'.other next reply.err fun unfinished => by
    obtain ⟨finished,other⟩ := alone unfinished
    exact ⟨finished,fun opens => other (congrArg Call.file opens)⟩
  present := s.files.serve_present call reply.err .key
  generated := List.Subset.refl _
  known pair paired := .inl ((Notes.noteFile_pair call reply.err).symm.trans paired)
  begins before after := congrArg Call.file (begins_of_unfinished next before after)
  ends before after := by
    rcases held.ends next before after with failed | complete
    · obtain ⟨err,failed⟩ := Option.ne_none_iff_exists'.mp failed
      exact .inl (by simp [State.serve,failed])
    · exact .inr complete
  quiet := content_of_quiet next

theorem advances_of_unset (held : Held s.files h) (unset : h.position = none) (unset' : h'.position = none)
    (seen : h'.keyThere = h.keyThere) (files : t.files = s.files) (generated : s.generated ⊆ t.generated)
    (known : ∀ pair, h'.pair = some pair → h.pair = some pair ∨ pair ∈ t.generated) :
    Advances s t failed c h h' where
  held := held_of_unset (fun there => files ▸ held.seen (seen ▸ there)) unset'
  others other held' _ := files ▸ held'
  present present := files ▸ present
  generated := generated
  known := known
  begins _ after := by
    rw [Notes.unfinished_of_none unset'] at after
    cases after
  ends before := by
    rw [Notes.unfinished_of_none unset] at before
    cases before
  quiet _ _ file := by rw [files]

theorem advances (held : Held s.files h) (next : h.Next c) (answerable : answerable s.files reply c) :
    Advances s (s.serve reply c) reply.err.isSome c h (h.note c (reply.answer c)) := by
  cases c with
  | file call => exact advances_file held next answerable
  | generateSelfSignedCertKey host dns =>
    obtain ⟨err,pair⟩ := reply
    cases err with
    | some err => exact advances_of_unset held next next rfl rfl (List.Subset.refl _) fun _ => .inl
    | none =>
      refine advances_of_unset held next next rfl rfl (List.subset_cons_self ..) ?_
      rintro _ ⟨⟩
      exact .inr (List.mem_cons_self ..)

theorem Inv.replace (inv : Inv s) (found : s.calls.deref i = some before) (new : Run)
    (calls : t.calls = s.calls.set i new) (generated : s.generated ⊆ t.generated)
    (present : s.files.content .key ≠ none → t.files.content .key ≠ none)
    (own : ∀ h p, new = .running h p → p.Traced Notes.note Notes.Next Notes.Returns h ∧ Held t.files h ∧
      ∀ pair, h.pair = some pair → pair ∈ t.generated)
    (others : ∀ j h p, j ≠ i → s.calls.deref j = some (.running h p) → Held t.files h)
    (single : new.unfinished = true → ∀ j other, j ≠ i → s.calls.deref j = some other → other.unfinished = false)
    (settled : new.unfinished = false →
      (∀ j other, j ≠ i → s.calls.deref j = some other → other.unfinished = false) →
      t.files.content .key = none ∨ Matched t)
    (returned : new = .returned none → t.files.content .key ≠ none) : Inv t := by
  have deref (j : Ref) : t.calls.deref j = if j = i then some new else s.calls.deref j := by
    rw [calls,Heap.deref_set found]
  have at_i : t.calls.deref i = some new := by rw [deref,if_pos rfl]
  have at_other {j : Ref} {run : Run} (apart : j ≠ i) (there : t.calls.deref j = some run) :
      s.calls.deref j = some run := by
    rwa [deref,if_neg apart] at there
  have at_own {run : Run} (there : t.calls.deref i = some run) : run = new :=
    Option.some.inj (there.symm.trans at_i)
  refine ⟨?_,?_,?_,?_,?_,?_⟩
  · intro j h p there
    by_cases same : j = i
    · subst same
      exact (own h p (at_own there).symm).1
    · exact inv.traced j h p (at_other same there)
  · intro j h p there
    by_cases same : j = i
    · subst same
      exact (own h p (at_own there).symm).2.1
    · exact others j h p same (at_other same there)
  · intro j h p pair there paired
    by_cases same : j = i
    · subst same
      exact (own h p (at_own there).symm).2.2 pair paired
    · exact generated (inv.known j h p pair (at_other same there) paired)
  · intro j k run other at_j at_k unfinished unfinished'
    by_cases same : j = i
    · subst same
      by_contra apart
      rw [at_own at_j] at unfinished
      rw [single unfinished k other (Ne.symm apart) (at_other (Ne.symm apart) at_k)] at unfinished'
      cases unfinished'
    · by_cases same' : k = i
      · subst same'
        rw [at_own at_k] at unfinished'
        rw [single unfinished' j run same (at_other same at_j)] at unfinished
        cases unfinished
      · exact inv.single j k run other (at_other same at_j) (at_other same' at_k) unfinished unfinished'
  · intro finished
    refine settled (finished i new at_i) ?_
    intro j other apart there
    exact finished j other (by rw [deref,if_neg apart,there])
  · intro j there
    by_cases same : j = i
    · subst same
      exact returned (at_own there).symm
    · exact present (inv.returned j (at_other same there))

theorem Matched.mono (matched : Matched s) (generated : s.generated ⊆ t.generated)
    (files : ∀ file, t.files.content file = s.files.content file) : Matched t := by
  obtain ⟨pair,listed,complete⟩ := matched
  exact ⟨pair,generated listed,fun file => (files file).trans (complete file)⟩

theorem settle_unfinished {p : CertProgram (Option Error)}
    (traced : p.Traced Notes.note Notes.Next Notes.Returns h) : (Run.settle h p).unfinished = h.unfinished := by
  cases p with
  | pure result => exact traced.1.symm
  | call c next => rfl

theorem finished_of_others {s : State} {run : Run} (found : s.calls.deref i = some run) (own : run.unfinished = false)
    (others : ∀ j other, j ≠ i → s.calls.deref j = some other → other.unfinished = false) :
    ∀ j other, s.calls.deref j = some other → other.unfinished = false := by
  intro j other there
  by_cases same : j = i
  · subst same
    cases found.symm.trans there
    exact own
  · exact others j other same there

theorem Inv.answer (inv : Inv s) (found : s.calls.deref i = some (.running h (.call c next)))
    (answerable : answerable s.files reply c)
    (opens : c = .file (.openTruncate .cert) → ∀ other ∈ s.calls.objects, other.unfinished = false)
    (fails : h.unfinished = true → reply.err ≠ none → s.files.content .key = none) :
    Inv { s.serve reply c with
      calls := s.calls.set i (.settle (h.note c (reply.answer c)) (next (reply.answer c))) } := by
  obtain ⟨permitted,rest⟩ := inv.traced i h _ found
  have traced := rest (reply.answer c)
  obtain ⟨held,others,present,generated,known,begins,ends,quiet⟩ :=
    advances (inv.held i h _ found) permitted answerable
  have finished {j : Ref} {other : Run} (apart : j ≠ i) (there : s.calls.deref j = some other)
      (unfinished : h.unfinished = true) : other.unfinished = false := by
    by_contra undone
    exact apart (inv.single j i other _ there found (by simpa using undone) unfinished)
  refine inv.replace found _ rfl generated present ?_ ?_ ?_ ?_ ?_
  · intro h' p same
    have after : h' = h.note c (reply.answer c) ∧ p = next (reply.answer c) := by
      cases q : next (reply.answer c) with
      | pure result =>
        rw [q] at same
        cases same
      | call c' next' =>
        rw [q] at same
        cases same
        exact ⟨rfl,rfl⟩
    obtain ⟨rfl,rfl⟩ := after
    refine ⟨traced,held,fun pair paired => ?_⟩
    rcases known pair paired with old | new
    · exact generated (inv.known i h _ pair found old)
    · exact new
  · intro j h' p apart there
    refine others h' (inv.held j h' p there) fun unfinished => ⟨?_,?_⟩
    · by_contra undone
      have done := finished apart there (by simpa using undone)
      rw [Run.unfinished_running,unfinished] at done
      cases done
    · intro opened
      have done := opens opened _ (List.mem_of_getElem? there)
      rw [Run.unfinished_running,unfinished] at done
      cases done
  · intro unfinished j other apart there
    rw [settle_unfinished traced] at unfinished
    cases before : h.unfinished with
    | true => exact finished apart there before
    | false => exact opens (begins before unfinished) other (List.mem_of_getElem? there)
  · intro done finished
    rw [settle_unfinished traced] at done
    cases before : h.unfinished with
    | true =>
      rcases ends before done with ⟨failed,same⟩ | ⟨pair,paired,complete⟩
      · left
        show (s.serve reply c).files.content .key = none
        rw [same]
        exact fails before (Option.isSome_iff_ne_none.mp failed)
      · exact .inr ⟨pair,generated (inv.known i h _ pair found paired),complete⟩
    | false =>
      have same := quiet before done
      rcases inv.settled (finished_of_others found before finished) with absent | matched
      · exact .inl ((same .key).trans absent)
      · exact .inr (matched.mono generated same)
  · intro ended
    cases q : next (reply.answer c) with
    | pure result =>
      rw [q] at ended traced
      cases ended
      exact held.seen (traced.2 rfl)
    | call c' next' =>
      rw [q] at ended
      cases ended

theorem Inv.kill (inv : Inv s) (found : s.calls.deref i = some run)
    (early : run.unfinished = true → s.files.content .key = none) :
    Inv { s with calls := s.calls.set i .killed } := by
  refine inv.replace found .killed rfl (List.Subset.refl _) id ?_ ?_ ?_ ?_ ?_
  · intro h p same
    cases same
  · intro j h p _ there
    exact inv.held j h p there
  · intro unfinished
    cases unfinished
  · intro _ finished
    cases before : run.unfinished with
    | true => exact .inl (early before)
    | false => exact inv.settled (finished_of_others found before finished)
  · intro same
    cases same

theorem Inv.begin (inv : Inv s) (webhookCertDir : String) (dnsNames : List String) :
    Inv (s.act webhookCertDir (.begin dnsNames)) := by
  have deref {j : Ref} {run : Run} (there : (s.act webhookCertDir (.begin dnsNames)).calls.deref j = some run) :
      run = .running .fresh (ensureSelfSignedWebhookCert webhookCertDir dnsNames) ∨ s.calls.deref j = some run := by
    simp only [State.act,Heap.deref_alloc] at there
    split at there
    · cases there
      exact .inl rfl
    · exact .inr there
  refine ⟨?_,?_,?_,?_,?_,?_⟩
  · intro j h p there
    rcases deref there with same | old
    · cases same
      exact Notes.ensureSelfSignedWebhookCert_traced webhookCertDir dnsNames
    · exact inv.traced j h p old
  · intro j h p there
    rcases deref there with same | old
    · cases same
      exact held_of_unset (fun seen => (by cases seen)) rfl
    · exact inv.held j h p old
  · intro j h p pair there paired
    rcases deref there with same | old
    · cases same
      cases paired
    · exact inv.known j h p pair old paired
  · intro j k run other at_j at_k unfinished unfinished'
    rcases deref at_j with rfl | old
    · cases unfinished
    · rcases deref at_k with rfl | old'
      · cases unfinished'
      · exact inv.single j k run other old old' unfinished unfinished'
  · intro finished
    refine inv.settled fun j run there => finished j run ?_
    exact Heap.deref_alloc_of _ there
  · intro j there
    rcases deref there with same | old
    · cases same
    · exact inv.returned j old

theorem Inv.step (inv : Inv s) (possible : s.possible action) (condition : Condition s action) :
    Inv (s.act webhookCertDir action) := by
  cases action with
  | begin dnsNames => exact inv.begin webhookCertDir dnsNames
  | answer i reply =>
    obtain ⟨run,found,c,asks,answerable⟩ := possible
    have found : s.calls.deref i = some run := found
    obtain ⟨opens,fails⟩ := condition run found
    simp only [State.act,found]
    split
    · next same =>
      cases same
      cases asks
      exact inv.answer found answerable (fun opened => opens (congrArg some opened)) fails
    · exact inv
  | kill i =>
    obtain ⟨run,found,_⟩ := possible
    exact inv.kill found (condition run found)

/-- On every run whose steps meet the condition: once a call has returned nil and none is running, the two
files are complete and of one pair. -/
theorem webhookCert_matched_of_returned
    (run : ((system webhookCertDir).restrict Condition).Run initial actions s)
    (returned : ∃ run ∈ s.calls.deref i, run.returnsNil = true)
    (alone : ∀ j other, s.calls.deref j = some other → other.isRunning = false) : Matched s := by
  have inv : Inv s := run.invariant_restrict Inv (fun _ _ inv => inv.step) inv_initial
  have finished : ∀ j other, s.calls.deref j = some other → other.unfinished = false := by
    intro j other there
    have stopped := alone j other there
    cases other with
    | running h p => cases stopped
    | returned result => rfl
    | killed => rfl
  rcases inv.settled finished with absent | matched
  · obtain ⟨run,found,nil⟩ := returned
    exact absurd absent (inv.returned i (found.trans (congrArg some (Run.eq_of_returnsNil nil))))
  · exact matched

section Sample

instance (files : Files File) (reply : Reply) : (c : Call) → Decidable (answerable files reply c)
  | .file call => inferInstanceAs (Decidable (files.answerable call reply.err))
  | .generateSelfSignedCertKey _ _ => isTrue trivial

instance (s : State) : (action : Action) → Decidable ((system webhookCertDir).allowed s action)
  | .begin _ => isTrue trivial
  | .answer i reply =>
    inferInstanceAs (Decidable (∃ run ∈ s.calls.deref i, ∃ c ∈ run.pending, answerable s.files reply c))
  | .kill i => inferInstanceAs (Decidable (∃ run ∈ s.calls.deref i, run.isRunning = true))

instance (s : State) : (action : Action) → Decidable (Condition s action)
  | .begin _ => isTrue trivial
  | .answer i reply => inferInstanceAs (Decidable (∀ run ∈ s.calls.deref i,
      (run.pending = some (.file (.openTruncate .cert)) → ∀ other ∈ s.calls.objects, other.unfinished = false) ∧
      (run.unfinished = true → reply.err ≠ none → s.files.content .key = none)))
  | .kill i => inferInstanceAs (Decidable (∀ run ∈ s.calls.deref i, run.unfinished = true →
      s.files.content .key = none))

instance (s : State) : Decidable (Matched s) :=
  decidable_of_iff (∃ pair ∈ s.generated, s.files.content .cert = some pair.cert ∧
      s.files.content .key = some pair.key) <| by
    refine exists_congr fun pair => and_congr_right fun _ => ⟨?_,fun complete => ⟨complete .cert,complete .key⟩⟩
    rintro ⟨cert,key⟩ (_ | _)
    · exact cert
    · exact key

def firstPair : Pair := ⟨[1,2],[3,4]⟩
def secondPair : Pair := ⟨[5,6],[7,8]⟩

/-- A number of calls that succeed, and one that finds no file. -/
def goOn (i : Ref) (pair : Pair) (n : Nat) : List Action := List.replicate n (.answer i ⟨none,pair⟩)
def misses (i : Ref) (pair : Pair) : Action := .answer i ⟨some "no such file or directory",pair⟩

/-- A call finds no files and makes its pair. -/
def prepares (i : Ref) (pair : Pair) : List Action :=
  [Action.begin ["localhost"],misses i pair,misses i pair] ++ goOn i pair 2

/-- One call is killed in the certificate file; two others find no files and write one after the other. -/
def inTurn : List Action :=
  prepares 0 firstPair ++ goOn 0 firstPair 2 ++ [Action.kill 0,.begin ["localhost"],.answer 1 ⟨none,firstPair⟩,
    misses 1 firstPair] ++ goOn 1 firstPair 2 ++ [Action.begin ["localhost"],.answer 2 ⟨none,secondPair⟩,
    misses 2 secondPair] ++ goOn 2 secondPair 2 ++ goOn 1 firstPair 8 ++ goOn 2 secondPair 8

theorem webhookCert_matched_of_returned_inTurn :
    ∃ s, ((system "/tmp").restrict Condition).Run initial inTurn s ∧
      (∃ run ∈ s.calls.deref 2, run.returnsNil = true) ∧ Matched s := by
  have run := System.run_of_admits ((system "/tmp").restrict Condition) initial inTurn (by decide +kernel)
  have alone : ∀ other ∈ (inTurn.foldl ((system "/tmp").restrict Condition).apply initial).calls.objects,
      other.isRunning = false := by decide +kernel
  have returned : ∃ run ∈ (inTurn.foldl ((system "/tmp").restrict Condition).apply initial).calls.deref 2,
      run.returnsNil = true := by decide +kernel
  exact ⟨_,run,returned,webhookCert_matched_of_returned run returned fun j other there =>
    alone other (List.mem_of_getElem? there)⟩

/-- A call is killed after the first byte of the key; the next one finds both files. -/
def killedInKey : List Action :=
  prepares 0 firstPair ++ goOn 0 firstPair 6 ++ [Action.kill 0,.begin ["localhost"]] ++ goOn 1 firstPair 2

/-- Two calls find no files; the second writes both of its own between the files of the first. -/
def between : List Action :=
  prepares 0 firstPair ++ prepares 1 secondPair ++ goOn 0 firstPair 4 ++ goOn 1 secondPair 8 ++ goOn 0 firstPair 4

theorem webhookCert_unmatched :
    (∃ s, (system "/tmp").Run initial killedInKey s ∧ (∃ run ∈ s.calls.deref 1, run.returnsNil = true) ∧
      (∀ other ∈ s.calls.objects, other.isRunning = false) ∧ ¬Matched s) ∧
    ∃ s, (system "/tmp").Run initial between s ∧ (∃ run ∈ s.calls.deref 0, run.returnsNil = true) ∧
      (∀ other ∈ s.calls.objects, other.isRunning = false) ∧ ¬Matched s :=
  ⟨⟨_,System.run_of_admits _ _ _ (by decide +kernel),by decide +kernel,by decide +kernel,by decide +kernel⟩,
    ⟨_,System.run_of_admits _ _ _ (by decide +kernel),by decide +kernel,by decide +kernel,by decide +kernel⟩⟩

end Sample

end Kommodity.Libkapi.WebhookCert
