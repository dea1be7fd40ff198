import Mathlib.Data.List.Infix
import Kommodity.GoStream
import Kommodity.Transition

/-! The bytes of a CONNECT request: the handshake with the pod, the answer to the client, and the
two loops that copy. `Hijack` hands over the connection of the client together with a buffer of
what the server has read from it already, and the handler drops the buffer. -/
namespace Kommodity.TalosProxy

open Go Transition

def crlf : Bytes := [13,10]

def connectMaxLineBytes : Nat := 4096

def connectStatusLineParts : Nat := 3

inductive ConnectError where
  | eof
  | responseTooLarge
  | malformedResponse (statusLine : Bytes)
  | rejected (statusLine : Bytes)
  deriving DecidableEq

/-- The text of an error; `quote` is the verb `%q` and `text` the verb `%s` of a byte string. -/
def ConnectError.error (quote text : Bytes → String) : ConnectError → String
  | .eof => "EOF"
  | .responseTooLarge => "CONNECT response header line exceeds size limit"
  | .malformedResponse statusLine => "malformed CONNECT response status line: " ++ quote statusLine
  | .rejected statusLine => "talos-cluster-proxy rejected CONNECT request: " ++ text statusLine

/-- The loop of `readHeaderLine`, with the bytes that still fit into its buffer. -/
def readHeaderLineFrom : Nat → Bytes → Reader → Except (Err ConnectError) Bytes × Reader
  | 0,_,r => (.error (.of .responseTooLarge),r)
  | room + 1,buf,r =>
    match r.readByte with
    | none => (.error (.wrap "read byte" (.of .eof)),r)
    | some (b,r) =>
      let buf := buf ++ [b]
      if crlf <:+ buf then (.ok (buf.take (buf.length - 2)),r) else readHeaderLineFrom room buf r

def readHeaderLine (r : Reader) : Except (Err ConnectError) Bytes × Reader :=
  readHeaderLineFrom connectMaxLineBytes [] r

/-- The loop of `readConnectResponse` over the header lines, for at most `bound` of them. -/
def drainHeadersFrom : Nat → Reader → Option (Err ConnectError) × Reader
  | 0,r => (some (.wrap "failed to read header line" (.wrap "read byte" (.of .eof))),r)
  | bound + 1,r =>
    match readHeaderLine r with
    | (.error err,r) => (some (.wrap "failed to read header line" err),r)
    | (.ok line,r) => if line = [] then (none,r) else drainHeadersFrom bound r

/-- There are no more lines than bytes. -/
def drainHeaders (r : Reader) : Option (Err ConnectError) × Reader := drainHeadersFrom (r.bytes.length + 1) r

def readConnectResponse (r : Reader) : Option (Err ConnectError) × Reader :=
  match readHeaderLine r with
  | (.error err,r) => (some (.wrap "failed to read status line" err),r)
  | (.ok statusLine,r) =>
    match splitN 32 connectStatusLineParts statusLine with
    | _ :: status :: _ =>
      if status ≠ bytes "200" then (some (.of (.rejected statusLine)),r) else drainHeaders r
    | _ => (some (.of (.malformedResponse statusLine)),r)

/-- The request that `EstablishConnectTunnel` writes. -/
def connectRequest (target : String) : Bytes :=
  bytes ("CONNECT " ++ target ++ " HTTP/1.1\r\nHost: " ++ target ++ "\r\n\r\n")

def establishConnectTunnel (conn : Conn) (target : String) : Option (Err ConnectError) × Conn :=
  let conn := conn.write (connectRequest target)
  let (err,incoming) := readConnectResponse conn.incoming
  (err.map (.wrap "failed to read CONNECT response"),{ conn with incoming })

/-- A line without a line break before the one that ends it. -/
def Line (l : Bytes) : Prop := ∀ p, p <+: l ++ crlf → crlf <:+ p → p = l ++ crlf

instance (l : Bytes) : Decidable (Line l) :=
  decidable_of_iff (∀ p ∈ (l ++ crlf).inits, crlf <:+ p → p = l ++ crlf) (by simp only [Line,List.mem_inits])

/-- Lines that are not empty, and the empty one that ends them. -/
inductive HeaderLines : Bytes → Prop where
  | last : HeaderLines crlf
  | line (plain : Line l) (filled : l ≠ []) (more : HeaderLines rest) : HeaderLines (l ++ crlf ++ rest)

/-- The header of a response: a status line, header lines and an empty line. -/
def Header (head : Bytes) : Prop := ∃ status rest, Line status ∧ HeaderLines rest ∧ head = status ++ crlf ++ rest

theorem Line.unique (first : Line l) (second : Line m) (same : l ++ crlf ++ a = m ++ crlf ++ b) :
    l = m ∧ a = b := by
  have eq : l ++ crlf = m ++ crlf := by
    rcases List.prefix_or_prefix_of_prefix (List.prefix_append (l ++ crlf) a)
      (same ▸ List.prefix_append (m ++ crlf) b) with short | short
    · exact second _ short (List.suffix_append ..)
    · exact (first _ short (List.suffix_append ..)).symm
  rw [eq,List.append_cancel_left_eq] at same
  exact ⟨List.append_cancel_right eq,same⟩

/-- No line break ends in the bytes. -/
def Unbroken (part : Bytes) : Prop := ∀ p, p <+: part → ¬ crlf <:+ p

theorem unbroken_nil : Unbroken [] := by
  intro p empty ends
  rw [List.prefix_nil.mp empty] at ends
  simp [crlf] at ends

/-- What `readHeaderLine` has done when it returns, with the bytes in its buffer and the room in it:
it stops at the first line break, when the buffer is full, or at the end of the stream. -/
inductive LineRead (buf : Bytes) (room : Nat) (r : Reader) : Except (Err ConnectError) Bytes × Reader → Prop where
  | line (stream : r.bytes = found ++ rest.bytes) (whole : buf ++ found = l ++ crlf) (plain : Line l)
      (fits : found.length ≤ room) : LineRead buf room r (.ok l,rest)
  | failed (stream : r.bytes = part ++ rest.bytes) (unbroken : Unbroken (buf ++ part))
      (stopped : part.length = room ∨ part.length < room ∧ rest.bytes = []) :
      LineRead buf room r (.error err,rest)

theorem readHeaderLineFrom_lineRead (quiet : Unbroken buf) :
    LineRead buf room r (readHeaderLineFrom room buf r) := by
  induction room generalizing buf r with
  | zero =>
    have stream : r.bytes = [] ++ r.bytes := rfl
    exact .failed stream (by simpa using quiet) (.inl rfl)
  | succ room ih =>
    simp only [readHeaderLineFrom]
    split
    · next ended =>
      have stream : r.bytes = [] ++ r.bytes := rfl
      exact .failed stream (by simpa using quiet) (.inr ⟨by simp,Reader.bytes_of_readByte_none ended⟩)
    · next b rest byte =>
      have stream : r.bytes = [b] ++ rest.bytes := Reader.bytes_of_readByte byte
      have longer : ∀ p, p <+: buf ++ [b] → crlf <:+ p → p = buf ++ [b] := by
        intro p starts ends
        rcases List.prefix_concat_iff.mp starts with whole | short
        · exact whole
        · exact absurd ends (quiet p short)
      split
      · next ends =>
        obtain ⟨l,split⟩ := ends
        have line : (buf ++ [b]).take ((buf ++ [b]).length - 2) = l := by
          rw [← split]; simp [crlf]
        rw [line]
        exact .line stream split.symm (by rw [Line,split]; exact longer) (by simp)
      · next open' =>
        have quiet' : Unbroken (buf ++ [b]) := fun p starts ends => open' (longer p starts ends ▸ ends)
        have later := ih (r := rest) quiet'
        revert later
        generalize readHeaderLineFrom room (buf ++ [b]) rest = result
        intro later
        cases later with
        | @line found l later stream' whole plain fits =>
          have taken : r.bytes = b :: found ++ later.bytes := by rw [stream,stream']; rfl
          exact .line taken (by rw [← whole]; simp) plain (by simpa using fits)
        | @failed part err later stream' unbroken stopped =>
          have taken : r.bytes = b :: part ++ later.bytes := by rw [stream,stream']; rfl
          exact .failed taken (by simpa using unbroken) (by simpa using stopped)

theorem readHeaderLine_lineRead (r : Reader) : LineRead [] connectMaxLineBytes r (readHeaderLine r) :=
  readHeaderLineFrom_lineRead unbroken_nil

theorem readHeaderLine_ok (ok : readHeaderLine r = (.ok l,r')) :
    r.bytes = l ++ crlf ++ r'.bytes ∧ Line l := by
  have spec := readHeaderLine_lineRead r
  rw [ok] at spec
  cases spec with
  | line stream whole plain fits => exact ⟨by rw [stream,← whole]; rfl,plain⟩

theorem drainHeadersFrom_enough (first : r.bytes.length < n) (second : r.bytes.length < m) :
    drainHeadersFrom n r = drainHeadersFrom m r := by
  induction n generalizing m r with
  | zero => cases first
  | succ n ih =>
    cases m with
    | zero => cases second
    | succ m =>
      simp only [drainHeadersFrom]
      split
      · rfl
      · next line rest read =>
        have shorter := congrArg List.length (readHeaderLine_ok read).1
        simp only [crlf,List.length_append,List.length_cons,List.length_nil] at shorter
        rw [ih (m := m) (by omega) (by omega)]

/-- The loop as the source has it: its bound is never reached. -/
theorem drainHeaders_eq (r : Reader) : drainHeaders r =
    match readHeaderLine r with
    | (.error err,r) => (some (.wrap "failed to read header line" err),r)
    | (.ok line,r) => if line = [] then (none,r) else drainHeaders r := by
  unfold drainHeaders
  rw [drainHeadersFrom]
  split
  · rfl
  · next line rest read =>
    have shorter := congrArg List.length (readHeaderLine_ok read).1
    simp only [crlf,List.length_append,List.length_cons,List.length_nil] at shorter
    rw [drainHeadersFrom_enough (m := rest.bytes.length + 1) (by omega) (by omega)]

/-- Induction over the header lines that the loop reads. -/
theorem drainHeaders_induction {motive : Reader → Option (Err ConnectError) × Reader → Prop}
    (failed : ∀ r err rest, readHeaderLine r = (.error err,rest) →
      motive r (some (.wrap "failed to read header line" err),rest))
    (last : ∀ r rest, readHeaderLine r = (.ok [],rest) → motive r (none,rest))
    (line : ∀ r l rest, readHeaderLine r = (.ok l,rest) → l ≠ [] → motive rest (drainHeaders rest) →
      motive r (drainHeaders rest)) (r : Reader) : motive r (drainHeaders r) := by
  obtain ⟨n,bound⟩ : ∃ n, r.bytes.length = n := ⟨_,rfl⟩
  induction n using Nat.strong_induction_on generalizing r with
  | h n ih =>
    rw [drainHeaders_eq]
    split
    · next err rest read => exact failed r err rest read
    · next l rest read =>
      split
      · next empty => exact last r rest (empty ▸ read)
      · next filled =>
        have shorter := congrArg List.length (readHeaderLine_ok read).1
        simp only [crlf,List.length_append,List.length_cons,List.length_nil] at shorter
        exact line r l rest read filled (ih _ (by omega) rest rfl)

theorem drainHeaders_ok (r : Reader) : (drainHeaders r).1 = none →
    ∃ head, HeaderLines head ∧ r.bytes = head ++ (drainHeaders r).2.bytes := by
  induction r using drainHeaders_induction with
  | failed r err rest read =>
    intro ok
    cases ok
  | last r rest read => exact fun _ => ⟨crlf,.last,(readHeaderLine_ok read).1⟩
  | line r l rest read filled ih =>
    intro ok
    obtain ⟨stream,plain⟩ := readHeaderLine_ok read
    obtain ⟨head,lines,stream'⟩ := ih ok
    exact ⟨l ++ crlf ++ head,.line plain filled lines,by rw [stream,stream']; simp⟩

theorem readConnectResponse_ok (ok : readConnectResponse r = (none,r')) :
    ∃ head, Header head ∧ r.bytes = head ++ r'.bytes := by
  unfold readConnectResponse at ok
  split at ok
  · cases ok
  · next statusLine rest read =>
    obtain ⟨stream,plain⟩ := readHeaderLine_ok read
    split at ok
    · split at ok
      · cases ok
      · obtain ⟨head,lines,stream'⟩ := drainHeaders_ok rest (by rw [ok])
        rw [ok] at stream'
        exact ⟨statusLine ++ crlf ++ head,⟨statusLine,head,plain,lines,rfl⟩,by rw [stream,stream']; simp⟩
    · cases ok

theorem line_nil : Line [] := by
  intro p starts ends
  have short := starts.length_le
  have long := ends.length_le
  exact starts.eq_of_length (by simp [crlf] at short long ⊢; omega)

theorem HeaderLines.unique (first : HeaderLines head) (second : HeaderLines head')
    (same : head ++ a = head' ++ b) : head = head' ∧ a = b := by
  induction first generalizing head' with
  | last =>
    cases second with
    | last => exact ⟨rfl,List.append_cancel_left same⟩
    | @line m rest' plain filled more =>
      obtain ⟨empty,_⟩ := line_nil.unique (a := a) (b := rest' ++ b) plain (by simpa using same)
      exact absurd empty.symm filled
  | @line l rest plain filled more ih =>
    cases second with
    | last =>
      obtain ⟨empty,_⟩ := plain.unique (a := rest ++ a) (b := b) line_nil (by simpa using same)
      exact absurd empty filled
    | @line m rest' plain' filled' more' =>
      obtain ⟨rfl,tails⟩ := plain.unique (a := rest ++ a) (b := rest' ++ b) plain' (by simpa using same)
      obtain ⟨rfl,sent⟩ := ih more' tails
      exact ⟨rfl,sent⟩

/-- Where a header ends does not depend on what follows. -/
theorem Header.unique (first : Header head) (second : Header head') (same : head ++ a = head' ++ b) :
    head = head' ∧ a = b := by
  obtain ⟨status,rest,plain,lines,rfl⟩ := first
  obtain ⟨status',rest',plain',lines',rfl⟩ := second
  obtain ⟨rfl,tails⟩ := plain.unique (a := rest ++ a) (b := rest' ++ b) plain' (by simpa using same)
  obtain ⟨rfl,sent⟩ := lines.unique lines' tails
  exact ⟨rfl,sent⟩

def connectResponseEstablished : Bytes := bytes "HTTP/1.1 200 Connection Established\r\n\r\n"

/-- The two connections while `bidirectionalCopy` runs, and which of its goroutines are done. -/
structure Pipe where
  client : Conn
  upstream : Conn
  upDone : Bool
  downDone : Bool
  deriving DecidableEq

inductive Direction where
  | up
  | down
  deriving DecidableEq

/-- One round of the loop of `io.Copy`; at the end of the stream, the half-close that follows it. -/
def copyRound (src dst : Conn) : Conn × Conn × Bool :=
  match src.incoming.read copyBufferLength with
  | none => (src,dst.closeWrite,true)
  | some (chunk,incoming) => ({ src with incoming },dst.write chunk,false)

/-- The two goroutines of `bidirectionalCopy`, whose rounds come in any order. -/
def copySystem : System Pipe Direction where
  allowed p
    | .up => p.upDone = false
    | .down => p.downDone = false
  apply p
    | .up =>
      let (client,upstream,upDone) := copyRound p.client p.upstream
      { p with client, upstream, upDone }
    | .down =>
      let (upstream,client,downDone) := copyRound p.upstream p.client
      { p with client, upstream, downDone }

/-- `bidirectionalCopy` returns. -/
def Pipe.Finished (p : Pipe) : Prop := p.upDone = true ∧ p.downDone = true

instance (p : Pipe) : Decidable p.Finished := inferInstanceAs (Decidable (_ ∧ _))

/-- What `Hijack` returns of a client that sends the payload after its request: the connection, and
a buffer with the bytes the server has read from it. -/
structure Hijacked (payload : Bytes) where
  incoming : Reader
  buffered : Bytes
  kept : buffered ++ incoming.bytes = payload

/-- `hijackAndPipe`, up to the first round of the copies. -/
def hijackAndPipe (hijacked : Hijacked payload) (upstream : Conn) : Pipe :=
  ⟨(Conn.fresh hijacked.incoming).write connectResponseEstablished,upstream,false,false⟩

/-- `ServeHTTP` for a target behind a tunnel, from the connection that `Dial` returned. -/
def serveTunnel (target : String) (hijacked : Hijacked payload) (upstream : Reader) :
    Except (Err ConnectError) Pipe :=
  match establishConnectTunnel (Conn.fresh upstream) target with
  | (some err,_) => .error err
  | (none,conn) => .ok (hijackAndPipe hijacked conn)

theorem copyRound_cases (src dst : Conn) :
    (src.incoming.segments = [] ∧ copyRound src dst = (src,dst.closeWrite,true)) ∨
    ∃ chunk incoming, src.incoming.read copyBufferLength = some (chunk,incoming) ∧
      copyRound src dst = ({ src with incoming },dst.write chunk,false) := by
  cases read : src.incoming.read copyBufferLength with
  | none => exact .inl ⟨(src.incoming.read_eq_none_iff _).mp read,by simp [copyRound,read]⟩
  | some result => exact .inr ⟨result.1,result.2,rfl,by simp [copyRound,read]⟩

/-- No byte is lost, added or moved between what is read and what is written. -/
structure Copies (toUpstream toClient : Bytes) (p : Pipe) : Prop where
  up : p.upstream.written ++ p.client.incoming.bytes = toUpstream
  down : p.client.written ++ p.upstream.incoming.bytes = toClient
  upDone : p.upDone = true → p.client.incoming.bytes = []
  downDone : p.downDone = true → p.upstream.incoming.bytes = []

theorem Copies.step (inv : Copies toUpstream toClient p) (direction : Direction) :
    Copies toUpstream toClient (copySystem.apply p direction) := by
  have ended {r : Reader} (none' : r.segments = []) : r.bytes = [] := by simp [Reader.bytes,none']
  cases direction with
  | up =>
    obtain ⟨none',eq⟩ | ⟨chunk,incoming,read,eq⟩ := copyRound_cases p.client p.upstream
    · simp only [copySystem,eq]
      exact ⟨inv.up,inv.down,fun _ => ended none',inv.downDone⟩
    · simp only [copySystem,eq]
      refine ⟨?_,inv.down,by simp,inv.downDone⟩
      rw [← inv.up,Reader.bytes_of_read read]
      simp [Conn.write]
  | down =>
    obtain ⟨none',eq⟩ | ⟨chunk,incoming,read,eq⟩ := copyRound_cases p.upstream p.client
    · simp only [copySystem,eq]
      exact ⟨inv.up,inv.down,inv.upDone,fun _ => ended none'⟩
    · simp only [copySystem,eq]
      refine ⟨inv.up,?_,inv.upDone,by simp⟩
      rw [← inv.down,Reader.bytes_of_read read]
      simp [Conn.write]

theorem Copies.finished (inv : Copies toUpstream toClient p) (finished : p.Finished) :
    p.upstream.written = toUpstream ∧ p.client.written = toClient := by
  have sent := inv.up
  have received := inv.down
  rw [inv.upDone finished.1,List.append_nil] at sent
  rw [inv.downDone finished.2,List.append_nil] at received
  exact ⟨sent,received⟩

/-- A bound on the rounds that are left. -/
def Pipe.work (p : Pipe) : Nat :=
  p.client.incoming.work + p.upstream.incoming.work + (!p.upDone).toNat + (!p.downDone).toNat

theorem work_step (allowed : copySystem.allowed p direction) :
    (copySystem.apply p direction).work < p.work := by
  cases direction with
  | up =>
    have running : p.upDone = false := allowed
    obtain ⟨_,eq⟩ | ⟨chunk,incoming,read,eq⟩ := copyRound_cases p.client p.upstream
    · simp [copySystem,eq,Pipe.work,running,Conn.closeWrite]
    · have less := Reader.work_of_read (by decide) read
      simp only [copySystem,eq,Pipe.work,running,Conn.write]
      omega
  | down =>
    have running : p.downDone = false := allowed
    obtain ⟨_,eq⟩ | ⟨chunk,incoming,read,eq⟩ := copyRound_cases p.upstream p.client
    · simp [copySystem,eq,Pipe.work,running,Conn.closeWrite]
    · have less := Reader.work_of_read (by decide) read
      simp only [copySystem,eq,Pipe.work,running,Conn.write]
      omega

theorem length_le_work (run : copySystem.Run p events q) : events.length + q.work ≤ p.work := by
  induction run with
  | nil => simp
  | cons allowed _ ih =>
    have := work_step allowed
    simp only [List.length_cons]
    omega

theorem exists_finished (p : Pipe) : ∃ events q, copySystem.Run p events q ∧ q.Finished := by
  obtain ⟨n,bound⟩ : ∃ n, p.work = n := ⟨_,rfl⟩
  induction n using Nat.strong_induction_on generalizing p with
  | h n ih =>
    have goes_on {direction} (allowed : copySystem.allowed p direction) :
        ∃ events q, copySystem.Run p events q ∧ q.Finished := by
      have less := work_step allowed
      obtain ⟨events,q,run,finished⟩ := ih _ (bound ▸ less) (copySystem.apply p direction) rfl
      exact ⟨direction :: events,q,.cons allowed run,finished⟩
    cases up : p.upDone with
    | false => exact @goes_on .up up
    | true =>
      cases down : p.downDone with
      | false => exact @goes_on .down down
      | true => exact ⟨[],p,.nil,up,down⟩

theorem serveTunnel_ok (header : Header head) (response : upstream.bytes = head ++ sent)
    (accepted : serveTunnel target hijacked upstream = .ok start) :
    start.client = ⟨hijacked.incoming,connectResponseEstablished,false⟩ ∧
    start.upstream.written = connectRequest target ∧ start.upstream.incoming.bytes = sent ∧
    start.upDone = false ∧ start.downDone = false := by
  unfold serveTunnel at accepted
  split at accepted
  · cases accepted
  · next conn handshake =>
    cases accepted
    simp only [establishConnectTunnel,Prod.mk.injEq,Option.map_eq_none_iff] at handshake
    obtain ⟨ok,rfl⟩ := handshake
    obtain ⟨head',header',stream⟩ := readConnectResponse_ok (Prod.ext ok rfl)
    have same := (header.unique header' (response.symm.trans stream)).2
    exact ⟨by simp [hijackAndPipe,Conn.fresh,Conn.write],rfl,same.symm,rfl,rfl⟩

/-- The copies end, and then each side has got what the other one sent: the pod the request of the
handshake and the payload, the client the answer to its request and what follows the header. -/
def Transparent (target : String) (payload sent : Bytes) (start : Pipe) : Prop :=
  ∀ events p, copySystem.Run start events p →
    events.length ≤ start.work ∧ (∃ more q, copySystem.Run p more q ∧ q.Finished) ∧
    (p.Finished → p.upstream.written = connectRequest target ++ payload ∧
      p.client.written = connectResponseEstablished ++ sent)

/-- A tunnel is transparent exactly when `Hijack` finds the buffer of the server empty. -/
theorem connect_transparent_iff (hijacked : Hijacked payload) (header : Header head)
    (response : upstream.bytes = head ++ sent) (accepted : serveTunnel target hijacked upstream = .ok start) :
    Transparent target payload sent start ↔ hijacked.buffered = [] := by
  obtain ⟨client,written,incoming,upDone,downDone⟩ := serveTunnel_ok header response accepted
  have begins : Copies (connectRequest target ++ hijacked.incoming.bytes)
      (connectResponseEstablished ++ sent) start := by
    refine ⟨by rw [written,client],by rw [client,incoming],?_,?_⟩
    · simp [upDone]
    · simp [downDone]
  have ends {events p} (run : copySystem.Run start events p) (finished : p.Finished) :=
    (run.invariant (Copies (connectRequest target ++ hijacked.incoming.bytes) (connectResponseEstablished ++ sent))
      (fun p direction inv _ => inv.step direction) begins).finished finished
  constructor
  · intro transparent
    obtain ⟨events,p,run,finished⟩ := exists_finished start
    have sent := ((transparent events p run).2.2 finished).1
    rw [(ends run finished).1,List.append_cancel_left_eq] at sent
    simpa using hijacked.kept.trans sent.symm
  · intro empty events p run
    have bound := length_le_work run
    refine ⟨by omega,exists_finished p,fun finished => ?_⟩
    have payload' := hijacked.kept
    rw [empty,List.nil_append] at payload'
    rw [← payload']
    exact ends run finished

/-- The answer of a pod and two bytes of its stream, cut within the header. -/
def podStream : Reader := ⟨[bytes "HTTP/1.1 20",bytes "0 OK\r\n\r\n" ++ [7],[8]]⟩

def podHeader : Bytes := bytes "HTTP/1.1 200 OK" ++ crlf ++ crlf

theorem podHeader_header : Header podHeader :=
  ⟨bytes "HTTP/1.1 200 OK",crlf,by decide +kernel,.last,rfl⟩

/-- What is left to do for a client that sends three bytes, of which the server has read none. -/
def laterBytes : Hijacked [22,3,1] := ⟨⟨[[22],[3,1]]⟩,[],rfl⟩

def laterBytesStart : Pipe :=
  hijackAndPipe laterBytes ⟨⟨[[7],[8]]⟩,connectRequest "10.0.0.9:50000",false⟩

theorem connect_transparent_laterBytes : Transparent "10.0.0.9:50000" [22,3,1] [7,8] laterBytesStart := by
  have response : podStream.bytes = podHeader ++ [7,8] := by decide +kernel
  exact (connect_transparent_iff laterBytes podHeader_header response (by decide +kernel)).mpr rfl

/-- The first two of them came together with the request. -/
def earlyBytes : Hijacked [22,3,1] := ⟨⟨[[1]]⟩,[22,3],rfl⟩

def earlyBytesStart : Pipe :=
  hijackAndPipe earlyBytes ⟨⟨[[7],[8]]⟩,connectRequest "10.0.0.9:50000",false⟩

theorem not_transparent_earlyBytes :
    serveTunnel "10.0.0.9:50000" earlyBytes podStream = .ok earlyBytesStart ∧
    Header podHeader ∧ podStream.bytes = podHeader ++ [7,8] ∧
    ¬ Transparent "10.0.0.9:50000" [22,3,1] [7,8] earlyBytesStart := by
  refine ⟨by decide +kernel,podHeader_header,by decide +kernel,?_⟩
  intro transparent
  have run : copySystem.Run earlyBytesStart [.up,.down,.down,.up,.down] _ :=
    .of ⟨rfl,rfl,rfl,rfl,rfl,trivial⟩
  have written := ((transparent _ _ run).2.2 (by decide +kernel)).1
  revert written
  decide +kernel

end Kommodity.TalosProxy
