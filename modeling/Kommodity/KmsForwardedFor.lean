import Kommodity.GoNetText
import Kommodity.GoText
import Kommodity.KmsClientAddress

/-! The client address as a function of what the proxies say, not of how they say it: the values of
the forwarded-for header are one list of entries, however it is cut into values and spaced, and an
address has one text, with or without a port. -/
namespace Kommodity.Kms

open Go Go.Net

/-- The entries of the header, over all its values. -/
def forwardedEntries (values : List String) : List String :=
  values.flatMap fun value => (split value ',').map trimSpace

/-- The first entry that sanitizes. -/
def firstAddress (entries : List String) : Option String := (entries.map sanitizeIP).find? (· ≠ "")

theorem forwardedEntries_append (values others : List String) :
    forwardedEntries (values ++ others) = forwardedEntries values ++ forwardedEntries others := by
  simp [forwardedEntries]

theorem forwardedEntries_join (filled : values ≠ []) :
    forwardedEntries [join values ","] = forwardedEntries values := by
  have fields := split_join values filled ','
  rw [show String.singleton ',' = "," from rfl] at fields
  simp [forwardedEntries,fields,List.map_flatMap]

theorem forwardedEntries_split (value : String) :
    forwardedEntries (split value ',') = forwardedEntries [value] := by
  have whole : join (split value ',') "," = value := by
    apply String.toList_inj.mp
    simp [join,split,String.toList_intercalate,Function.comp_def,List.intercalate_splitOn]
  rw [← forwardedEntries_join (by simp [split]),whole]

theorem forwardedEntries_padded (spaced : List.Forall₂ Padded padded values) :
    forwardedEntries padded = forwardedEntries values := by
  induction spaced with
  | nil => rfl
  | @cons p value padded values first _ ih =>
    have fields := first.split (show isSpace ',' = false by decide)
    simp only [forwardedEntries,List.flatMap_cons] at ih ⊢
    rw [fields,ih]

theorem leftmostIP_eq (entries : List String) :
    leftmostIP entries = firstAddress (entries.map trimSpace) := by
  induction entries with
  | nil => rfl
  | cons raw rest ih =>
    simp only [leftmostIP,firstAddress,List.map_cons,List.find?_cons] at ih ⊢
    by_cases found : sanitizeIP (trimSpace raw) = ""
    · simp [found,ih]
    · simp [found]

/-- The loop over the joined and split header finds the first entry of the whole list. -/
theorem ipFromXForwardedFor_eq (md : Map String (List String)) :
    ipFromXForwardedFor md = firstAddress (forwardedEntries (md.index headerXForwardedFor)) := by
  simp only [ipFromXForwardedFor]
  split
  · next empty => rw [empty]; rfl
  · next filled =>
    rw [leftmostIP_eq,← forwardedEntries_join filled]
    simp [forwardedEntries]

theorem sanitizeIP_of_parse (parsed : parseIP raw = some ip) : sanitizeIP raw = ipString ip := by
  have filled : raw ≠ "" := by
    rintro rfl
    cases parsed
  simp [sanitizeIP,filled,parsed]

theorem sanitizeIP_ipString (ip : IP) : sanitizeIP (ipString ip) = ipString ip :=
  sanitizeIP_of_parse (parseIP_ipString ip)

theorem parseIP_some (parsed : parseIP s = some ip) : ∃ address, parseAddr s = some address := by
  unfold parseIP at parsed
  split at parsed
  · next valid => exact ⟨_,valid⟩
  · next valid => exact ⟨_,valid⟩
  · cases parsed

theorem sanitizeIP_port (parts : splitHostPort raw = some (host,port)) (parsed : parseIP host = some ip) :
    sanitizeIP raw = sanitizeIP host := by
  obtain ⟨address,valid⟩ := parseIP_some parsed
  have filled : raw ≠ "" := by
    rintro rfl
    cases parts
  have noAddress : parseIP raw = none := by
    rw [parseIP,parseAddr_of_splitHostPort parts valid]
  rw [sanitizeIP_of_parse parsed]
  simp [sanitizeIP,filled,noAddress,parts,parsed]

theorem firstAddress_append (entries others : List String) :
    firstAddress (entries ++ others) = (firstAddress entries).or (firstAddress others) := by
  rw [firstAddress,List.map_append,List.find?_append]
  rfl

theorem firstAddress_singleton (raw : String) :
    firstAddress [raw] = if sanitizeIP raw ≠ "" then some (sanitizeIP raw) else none := by
  simp only [firstAddress,List.map_singleton,List.find?_singleton,decide_eq_true_eq]

theorem ipFromHeader_eq (md : Map String (List String)) (header : String) :
    ipFromHeader md header = firstAddress (((md.index header).take 1).map trimSpace) := by
  unfold ipFromHeader
  split
  · next absent => rw [absent]; rfl
  · next value _ values => rw [values]; exact (firstAddress_singleton _).symm

theorem ipFromPeer_eq (ctx : Context) : ipFromPeer ctx = firstAddress ctx.peer.toList := by
  unfold ipFromPeer
  split
  · next absent => rw [absent]; rfl
  · next address present => rw [present]; exact (firstAddress_singleton _).symm

theorem extractClientIP_forwarded (md : Map String (List String)) (peer : Option String) :
    extractClientIP ⟨some md,peer⟩ =
      ((firstAddress (forwardedEntries (md.index headerXForwardedFor))).or
        (firstAddress (((md.index headerXRealIP).take 1 ++ (md.index headerXEnvoyExternalAddr).take 1).map
          trimSpace ++ peer.toList))).elim (.error .noValidClientIP) .ok := by
  simp only [List.map_append,firstAddress_append,← ipFromHeader_eq,← ipFromPeer_eq ⟨some md,peer⟩,
    ← ipFromXForwardedFor_eq,← Option.or_assoc]
  rw [extractClientIP,Option.bind_some,ipFromMetadata,← Option.or_assoc]
  split
  · next ip found => rw [found,Option.elim_some]
  · next none' => rw [none',Option.elim_none]

/-- What the address depends on, how it is chosen, and that it is its own sanitized form. Without a
forwarded entry that sanitizes, the first values of the two other headers and the peer are tried. -/
theorem client_ip_canonical :
    (∀ (md md' : Map String (List String)) peer,
      forwardedEntries (md.index headerXForwardedFor) = forwardedEntries (md'.index headerXForwardedFor) →
      md.index headerXRealIP = md'.index headerXRealIP →
      md.index headerXEnvoyExternalAddr = md'.index headerXEnvoyExternalAddr →
      extractClientIP ⟨some md,peer⟩ = extractClientIP ⟨some md',peer⟩) ∧
    (∀ front value back,
      forwardedEntries (front ++ split value ',' ++ back) = forwardedEntries (front ++ [value] ++ back)) ∧
    (∀ front values back, values ≠ [] →
      forwardedEntries (front ++ [join values ","] ++ back) = forwardedEntries (front ++ values ++ back)) ∧
    (∀ front values padded back, List.Forall₂ Padded padded values → values ≠ [] →
      forwardedEntries (front ++ padded ++ back) = forwardedEntries (front ++ values ++ back) ∧
      forwardedEntries (front ++ [join padded ","] ++ back) =
        forwardedEntries (front ++ [join values ","] ++ back)) ∧
    (∀ (md : Map String (List String)) peer,
      (∀ ip, firstAddress (forwardedEntries (md.index headerXForwardedFor)) = some ip →
        extractClientIP ⟨some md,peer⟩ = .ok ip) ∧
      (firstAddress (forwardedEntries (md.index headerXForwardedFor)) = none →
        extractClientIP ⟨some md,peer⟩ =
          (firstAddress (((md.index headerXRealIP).take 1 ++ (md.index headerXEnvoyExternalAddr).take 1).map
            trimSpace ++ peer.toList)).elim (.error .noValidClientIP) .ok)) ∧
    (∀ ctx ip, extractClientIP ctx = .ok ip → sanitizeIP ip = ip) ∧
    ∀ raw host port ip, splitHostPort raw = some (host,port) → parseIP host = some ip →
      sanitizeIP raw = ipString ip ∧ sanitizeIP host = ipString ip := by
  refine ⟨?_,?_,?_,?_,?_,?_,?_⟩
  · intro md md' peer entries real envoy
    rw [extractClientIP_forwarded,extractClientIP_forwarded,entries,real,envoy]
  · intro front value back
    simp only [forwardedEntries_append,forwardedEntries_split]
  · intro front values back filled
    simp only [forwardedEntries_append,forwardedEntries_join filled]
  · intro front values padded back spaced filled
    have same := forwardedEntries_padded spaced
    have filled' : padded ≠ [] := by
      rintro rfl
      cases spaced
      exact filled rfl
    simp only [forwardedEntries_append,forwardedEntries_join filled,forwardedEntries_join filled',same,and_self]
  · intro md peer
    refine ⟨fun ip found => ?_,fun none' => ?_⟩
    · rw [extractClientIP_forwarded,found,Option.some_or,Option.elim_some]
    · rw [extractClientIP_forwarded,none',Option.none_or]
  · intro ctx ip done
    obtain ⟨address,rfl⟩ := extractClientIP_address done
    exact sanitizeIP_ipString address
  · intro raw host port ip parts parsed
    exact ⟨(sanitizeIP_port parts parsed).trans (sanitizeIP_of_parse parsed),sanitizeIP_of_parse parsed⟩

/-- The forwarded entry is no address, so the first value of the next header counts. -/
theorem client_ip_canonical_realIP :
    extractClientIP ⟨some (((∅ : Map String (List String)).insert headerXForwardedFor ["unknown"]).insert
      headerXRealIP [" 10.0.0.7:80 ","10.0.0.8"]),some "10.0.0.1:4000"⟩ = .ok "10.0.0.7" := by
  obtain ⟨_,_,_,_,chosen,_⟩ := client_ip_canonical
  rw [(chosen _ _).2 (by decide +kernel)]
  decide +kernel

end Kommodity.Kms
