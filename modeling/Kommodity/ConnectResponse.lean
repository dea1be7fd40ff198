import Kommodity.ConnectTunnel

/-! The responses to a CONNECT request that the handshake accepts. The bytes are read one by one, so
that nothing after the header is taken from the stream, however the stream is segmented. -/
namespace Kommodity.TalosProxy

open Go

/-- The bytes of lines. -/
def unlines (ls : List Bytes) : Bytes := ls.flatMap (· ++ crlf)

/-- A line that fits with its line break into the buffer of `readHeaderLine`. -/
def Fits (l : Bytes) : Prop := Line l ∧ (l ++ crlf).length ≤ connectMaxLineBytes

/-- Between the first space of the line and the second one, or the end of the line, stands 200. -/
def StatusOK (l : Bytes) : Prop :=
  ∃ version rest, 32 ∉ version ∧ l = version ++ 32 :: rest ∧
    (rest = bytes "200" ∨ ∃ reason, rest = bytes "200" ++ 32 :: reason)

/-- Lines that the handshake reads past: a status line, and header lines that are not empty. -/
def GoodLines : List Bytes → Prop
  | [] => True
  | status :: headers => (Fits status ∧ StatusOK status) ∧ ∀ l ∈ headers, Fits l ∧ l ≠ []

/-- The header of a response that is accepted: a status line, header lines and an empty line. -/
def Accepted (head : Bytes) : Prop := ∃ ls, ls ≠ [] ∧ GoodLines ls ∧ head = unlines ls ++ crlf

/-- The bytes of a line of which only the last two can be a line break. -/
def WithinLine (part : Bytes) : Prop := ∀ p, p <+: part → crlf <:+ p → p = part

/-- Why the handshake fails in the line after those it has read: `part` is what it has taken of that
line, and `rest` is what follows in the stream. -/
inductive Refused (ls : List Bytes) : (part rest : Bytes) → Prop where
  | status (first : ls = []) (fits : Fits l) (wrong : ¬ StatusOK l) : Refused ls (l ++ crlf) rest
  | tooLong (unbroken : Unbroken part) (full : part.length = connectMaxLineBytes) : Refused ls part rest
  | ended (unbroken : Unbroken part) (short : part.length < connectMaxLineBytes) (last : rest = []) :
      Refused ls part rest

@[simp] theorem unlines_nil : unlines [] = [] := rfl

@[simp] theorem unlines_cons (l : Bytes) (ls : List Bytes) : unlines (l :: ls) = l ++ crlf ++ unlines ls := rfl

theorem Unbroken.withinLine (unbroken : Unbroken part) : WithinLine part := by
  intro p starts ends
  exact absurd ends (unbroken p starts)

theorem Refused.withinLine (refused : Refused ls part rest) : WithinLine part := by
  cases refused with
  | status first fits wrong => exact fits.1
  | tooLong unbroken full => exact unbroken.withinLine
  | ended unbroken short last => exact unbroken.withinLine

/-- The second part of a status line is the text between its first two spaces. -/
theorem statusOK_iff (l : Bytes) : StatusOK l ↔
    ∃ version more, splitN 32 connectStatusLineParts l = version :: bytes "200" :: more := by
  have plain : 32 ∉ bytes "200" := by decide
  constructor
  · rintro ⟨version,rest,absent,rfl,rfl | ⟨reason,rfl⟩⟩
    · exact ⟨version,[],by rw [connectStatusLineParts,splitN_append absent,splitN_of_not_mem plain]⟩
    · exact ⟨version,[reason],by rw [connectStatusLineParts,splitN_append absent,splitN_append plain]; rfl⟩
  · rintro ⟨version,more,parts⟩
    by_cases mem : 32 ∈ l
    · obtain ⟨first,rest,rfl,absent⟩ := List.eq_append_cons_of_mem mem
      rw [connectStatusLineParts,splitN_append absent] at parts
      obtain ⟨rfl,second⟩ := List.cons.inj parts
      refine ⟨first,rest,absent,rfl,?_⟩
      by_cases space : 32 ∈ rest
      · obtain ⟨word,reason,rfl,absent'⟩ := List.eq_append_cons_of_mem space
        rw [splitN_append absent'] at second
        exact .inr ⟨reason,by rw [(List.cons.inj second).1]⟩
      · rw [splitN_of_not_mem space] at second
        exact .inl (List.cons.inj second).1
    · rw [connectStatusLineParts,splitN_of_not_mem mem] at parts
      cases parts

theorem readConnectResponse_ok_status (read : readHeaderLine r = (.ok l,rest)) (ok : StatusOK l) :
    readConnectResponse r = drainHeaders rest := by
  obtain ⟨version,more,parts⟩ := (statusOK_iff l).mp ok
  simp [readConnectResponse,read,parts]

theorem readConnectResponse_wrong_status (read : readHeaderLine r = (.ok l,rest)) (wrong : ¬ StatusOK l) :
    ∃ err, readConnectResponse r = (some err,rest) := by
  simp only [readConnectResponse,read]
  split
  · next version status more parts =>
    split
    · exact ⟨_,rfl⟩
    · next same => exact absurd ((statusOK_iff l).mpr ⟨version,more,not_not.mp same ▸ parts⟩) wrong
  · exact ⟨_,rfl⟩

theorem readHeaderLine_error (failed : readHeaderLine r = (.error err,rest)) (ls : List Bytes) :
    ∃ part, r.bytes = part ++ rest.bytes ∧ Refused ls part rest.bytes := by
  have spec := readHeaderLine_lineRead r
  rw [failed] at spec
  cases spec with
  | @failed part _ _ stream unbroken stopped =>
    refine ⟨part,stream,?_⟩
    rcases stopped with full | ⟨short,ended⟩
    · exact .tooLong unbroken full
    · exact .ended unbroken short ended

theorem readHeaderLine_fits (ok : readHeaderLine r = (.ok l,rest)) :
    r.bytes = l ++ crlf ++ rest.bytes ∧ Fits l := by
  have spec := readHeaderLine_lineRead r
  rw [ok] at spec
  cases spec with
  | line stream whole plain fits =>
    rw [List.nil_append] at whole
    exact ⟨by rw [stream,whole],plain,whole ▸ fits⟩

theorem readHeaderLine_of_fits (fits : Fits l) (stream : r.bytes = l ++ crlf ++ sent) :
    ∃ rest, readHeaderLine r = (.ok l,rest) ∧ rest.bytes = sent := by
  have starts : l ++ crlf <+: r.bytes := ⟨sent,stream.symm⟩
  obtain ⟨result,rest,read⟩ : ∃ result rest, readHeaderLine r = (result,rest) := ⟨_,_,rfl⟩
  cases result with
  | ok m =>
    obtain ⟨stream',fits'⟩ := readHeaderLine_fits read
    obtain ⟨rfl,tails⟩ := fits'.1.unique fits.1 (stream'.symm.trans stream)
    exact ⟨rest,read,tails⟩
  | error err =>
    have spec := readHeaderLine_lineRead r
    rw [read] at spec
    cases spec with
    | @failed part _ _ stream' unbroken stopped =>
      rcases stopped with full | ⟨short,ended⟩
      · have short : (l ++ crlf).length ≤ part.length := full ▸ fits.2
        exact absurd (List.suffix_append ..)
          (unbroken _ (List.prefix_of_prefix_length_le starts ⟨_,stream'.symm⟩ short))
      · rw [stream',ended,List.append_nil] at starts
        exact absurd (List.suffix_append ..) (unbroken _ starts)

/-- The loop over the header lines fails in a line that it has not read to a line break. -/
theorem drainHeaders_error (status : Bytes) (r : Reader) : (drainHeaders r).1 ≠ none →
    ∃ ls part, (∀ l ∈ ls, Fits l ∧ l ≠ []) ∧ Refused (status :: ls) part (drainHeaders r).2.bytes ∧
      r.bytes = unlines ls ++ part ++ (drainHeaders r).2.bytes := by
  induction r using drainHeaders_induction with
  | failed r err rest read =>
    intro _
    obtain ⟨part,stream,refused⟩ := readHeaderLine_error read [status]
    exact ⟨[],part,by simp,refused,by simpa using stream⟩
  | last r rest read => exact fun failed => absurd rfl failed
  | line r l rest read filled ih =>
    intro failed
    obtain ⟨stream,fits⟩ := readHeaderLine_fits read
    obtain ⟨ls,part,good,refused,stream'⟩ := ih failed
    refine ⟨l :: ls,part,List.forall_mem_cons.mpr ⟨⟨fits,filled⟩,good⟩,?_,by rw [stream,stream']; simp⟩
    cases refused with
    | status first fits wrong => cases first
    | tooLong unbroken full => exact .tooLong unbroken full
    | ended unbroken short last => exact .ended unbroken short last

theorem drainHeaders_none (r : Reader) : (drainHeaders r).1 = none →
    ∃ ls, (∀ l ∈ ls, Fits l ∧ l ≠ []) ∧ r.bytes = unlines ls ++ crlf ++ (drainHeaders r).2.bytes := by
  induction r using drainHeaders_induction with
  | failed r err rest read =>
    intro ok
    cases ok
  | last r rest read =>
    intro _
    exact ⟨[],by simp,by rw [(readHeaderLine_ok read).1]; simp⟩
  | line r l rest read filled ih =>
    intro ok
    obtain ⟨stream,fits⟩ := readHeaderLine_fits read
    obtain ⟨ls,good,stream'⟩ := ih ok
    exact ⟨l :: ls,List.forall_mem_cons.mpr ⟨⟨fits,filled⟩,good⟩,by rw [stream,stream']; simp⟩

theorem drainHeaders_of_lines (good : ∀ l ∈ ls, Fits l ∧ l ≠ []) (stream : r.bytes = unlines ls ++ crlf ++ sent) :
    ∃ rest, drainHeaders r = (none,rest) ∧ rest.bytes = sent := by
  induction ls generalizing r with
  | nil =>
    have fits : Fits [] := ⟨line_nil,by decide⟩
    obtain ⟨rest,read,left⟩ := readHeaderLine_of_fits fits (by simpa using stream)
    exact ⟨rest,by rw [drainHeaders_eq,read]; rfl,left⟩
  | cons l ls ih =>
    obtain ⟨⟨fits,filled⟩,others⟩ := List.forall_mem_cons.mp good
    have stream' : r.bytes = l ++ crlf ++ (unlines ls ++ crlf ++ sent) := by rw [stream]; simp
    obtain ⟨later,read,left⟩ := readHeaderLine_of_fits fits stream'
    obtain ⟨rest,drained,left'⟩ := ih others left
    refine ⟨rest,?_,left'⟩
    rw [drainHeaders_eq,read]
    simp only [if_neg filled,drained]

/-- What is accepted begins with a good header, which is read to its end. -/
theorem readConnectResponse_none (ok : readConnectResponse r = (none,rest)) :
    ∃ head, Accepted head ∧ r.bytes = head ++ rest.bytes := by
  obtain ⟨result,later,read⟩ : ∃ result later, readHeaderLine r = (result,later) := ⟨_,_,rfl⟩
  cases result with
  | error err => simp [readConnectResponse,read] at ok
  | ok status =>
    obtain ⟨stream,fits⟩ := readHeaderLine_fits read
    by_cases fine : StatusOK status
    · rw [readConnectResponse_ok_status read fine] at ok
      obtain ⟨ls,good,stream'⟩ := drainHeaders_none later (by rw [ok])
      rw [ok] at stream'
      exact ⟨_,⟨status :: ls,by simp,⟨⟨fits,fine⟩,good⟩,rfl⟩,by rw [stream,stream']; simp⟩
    · obtain ⟨err,failed⟩ := readConnectResponse_wrong_status read fine
      cases failed.symm.trans ok

theorem readConnectResponse_of_accepted (accepted : Accepted head) (stream : r.bytes = head ++ sent) :
    ∃ rest, readConnectResponse r = (none,rest) ∧ rest.bytes = sent := by
  obtain ⟨ls,filled,good,rfl⟩ := accepted
  cases ls with
  | nil => exact absurd rfl filled
  | cons status ls =>
    obtain ⟨⟨fits,fine⟩,headers⟩ := good
    have stream' : r.bytes = status ++ crlf ++ (unlines ls ++ crlf ++ sent) := by rw [stream]; simp
    obtain ⟨later,read,left⟩ := readHeaderLine_of_fits fits stream'
    rw [readConnectResponse_ok_status read fine]
    exact drainHeaders_of_lines headers left

/-- What is refused has been read up to a place in the line that is at fault. -/
theorem readConnectResponse_some (failed : readConnectResponse r = (some err,rest)) :
    ∃ ls part, GoodLines ls ∧ Refused ls part rest.bytes ∧ r.bytes = unlines ls ++ part ++ rest.bytes := by
  obtain ⟨result,later,read⟩ : ∃ result later, readHeaderLine r = (result,later) := ⟨_,_,rfl⟩
  cases result with
  | error cause =>
    simp only [readConnectResponse,read] at failed
    cases failed
    obtain ⟨part,stream,refused⟩ := readHeaderLine_error read []
    exact ⟨[],part,trivial,refused,stream⟩
  | ok status =>
    obtain ⟨stream,fits⟩ := readHeaderLine_fits read
    by_cases fine : StatusOK status
    · rw [readConnectResponse_ok_status read fine] at failed
      obtain ⟨ls,part,good,refused,stream'⟩ := drainHeaders_error status later (by simp [failed])
      rw [failed] at refused stream'
      exact ⟨status :: ls,part,⟨⟨fits,fine⟩,good⟩,refused,by rw [stream,stream']; simp⟩
    · obtain ⟨err',failed'⟩ := readConnectResponse_wrong_status read fine
      cases failed'.symm.trans failed
      exact ⟨[],_,trivial,.status rfl fits fine,stream⟩

/-- The bytes stand at the beginning of a stream without an end. -/
def Begins (endless : Nat → UInt8) (part : Bytes) : Prop := ∀ i b, part[i]? = some b → endless i = b

theorem Begins.of_append (begins : Begins endless (part ++ more)) : Begins endless part := by
  intro i b found
  have inside := (List.getElem?_eq_some_iff.mp found).1
  exact begins i b (by rw [List.getElem?_append_left inside,found])

/-- The responses that are accepted are those that begin with an accepted header, however they are
segmented; exactly that header is read of them, and of the others nothing beyond the line at fault.
A stream without an end is accepted when some part of it is. -/
theorem readConnectResponse_language (r : Reader) (endless : Nat → UInt8) :
    ((∃ rest, readConnectResponse r = (none,rest)) ↔ ∃ head, Accepted head ∧ head <+: r.bytes) ∧
    (∀ rest, readConnectResponse r = (none,rest) →
      ∀ head, Accepted head → head <+: r.bytes → r.bytes = head ++ rest.bytes) ∧
    (∀ err rest, readConnectResponse r = (some err,rest) →
      ∃ ls part, GoodLines ls ∧ Refused ls part rest.bytes ∧ WithinLine part ∧
        r.bytes = unlines ls ++ part ++ rest.bytes) ∧
    ((∃ part : Reader, Begins endless part.bytes ∧ ∃ rest, readConnectResponse part = (none,rest)) ↔
      ∃ head, Accepted head ∧ Begins endless head) := by
  refine ⟨⟨?_,?_⟩,?_,?_,?_,?_⟩
  · rintro ⟨rest,ok⟩
    obtain ⟨head,accepted,stream⟩ := readConnectResponse_none ok
    exact ⟨head,accepted,rest.bytes,stream.symm⟩
  · rintro ⟨head,accepted,sent,stream⟩
    obtain ⟨rest,ok,_⟩ := readConnectResponse_of_accepted accepted stream.symm
    exact ⟨rest,ok⟩
  · rintro rest ok head accepted ⟨sent,stream⟩
    obtain ⟨rest',ok',left⟩ := readConnectResponse_of_accepted accepted stream.symm
    obtain rfl := (Prod.mk.inj (ok.symm.trans ok')).2
    rw [left,stream]
  · intro err rest failed
    obtain ⟨ls,part,good,refused,stream⟩ := readConnectResponse_some failed
    exact ⟨ls,part,good,refused,refused.withinLine,stream⟩
  · rintro ⟨part,begins,rest,ok⟩
    obtain ⟨head,accepted,stream⟩ := readConnectResponse_none ok
    exact ⟨head,accepted,(stream ▸ begins).of_append⟩
  · rintro ⟨head,accepted,begins⟩
    have stream : (Reader.mk [head]).bytes = head ++ [] := by simp [Reader.bytes]
    obtain ⟨rest,ok,_⟩ := readConnectResponse_of_accepted accepted stream
    exact ⟨⟨[head]⟩,by rw [stream,List.append_nil]; exact begins,rest,ok⟩

end Kommodity.TalosProxy
