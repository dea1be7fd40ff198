import Mathlib.Data.List.Flatten
import Mathlib.Data.List.Induction
import Kommodity.AttestationReport

/-! What an accepted report says about the machine. The digest of a quote covers the concatenation
of the PCR values, without their boundaries; the components of a report are looked up by name in a
map that keeps the last of those with the same name. -/
namespace Kommodity.Attestation

open Go

/-- The bytes that a PCR map has for an index. -/
def pcrValue (pcrs : Map Int String) (idx : Int) : Option Bytes :=
  (pcrs.lookup idx).bind fun value =>
    hexDecodeString (if hasPrefix value "0x" || hasPrefix value "0X" then
      String.ofList (value.toList.drop 2) else value)

theorem decodeHex_ok_iff : decodeHex context text = .ok data ↔ hexDecodeString text = some data := by
  unfold decodeHex
  split
  · next decoded => simp [decoded]
  · next invalid => simp [invalid]

theorem pcrBytes_cons_ok_iff (pcrs : Map Int String) (idx : Int) (rest : List Int) (data : Bytes) :
    pcrBytes pcrs (idx :: rest) = .ok data ↔
      ∃ raw more, pcrValue pcrs idx = some raw ∧ pcrBytes pcrs rest = .ok more ∧ data = raw ++ more := by
  rw [pcrBytes,pcrValue]
  cases pcrs.lookup idx with
  | none => simp
  | some value =>
    dsimp only [Option.bind_some]
    generalize (if hasPrefix value "0x" || hasPrefix value "0X" then
      String.ofList (value.toList.drop 2) else value) = digits
    cases decoded : decodeHex ("PCR " ++ toString idx ++ " hex decode") digits with
    | error cause =>
      have invalid : hexDecodeString digits = none := by
        rw [Option.eq_none_iff_forall_ne_some]
        intro raw valid
        rw [decodeHex_ok_iff.mpr valid] at decoded
        cases decoded
      simp [invalid]
    | ok raw =>
      rw [decodeHex_ok_iff.mp decoded]
      cases written : pcrBytes pcrs rest with
      | error cause => simp
      | ok more => simp [eq_comm]

theorem pcrBytes_ok_iff (pcrs : Map Int String) (indices : List Int) (data : Bytes) :
    pcrBytes pcrs indices = .ok data ↔
      ∃ values : List Bytes, indices.map (pcrValue pcrs) = values.map some ∧ data = values.flatten := by
  induction indices generalizing data with
  | nil =>
    constructor
    · intro done
      cases done
      exact ⟨[],rfl,rfl⟩
    · rintro ⟨values,empty,rfl⟩
      rw [List.map_nil,eq_comm,List.map_eq_nil_iff] at empty
      rw [empty]
      rfl
  | cons idx rest ih =>
    rw [pcrBytes_cons_ok_iff]
    constructor
    · rintro ⟨raw,more,first,written,rfl⟩
      obtain ⟨values,known,rfl⟩ := (ih more).mp written
      exact ⟨raw :: values,by rw [List.map_cons,first,known,List.map_cons],rfl⟩
    · rintro ⟨values,known,rfl⟩
      cases values with
      | nil => cases known
      | cons raw values =>
        obtain ⟨first,others⟩ := List.cons.inj known
        exact ⟨raw,values.flatten,first,(ih _).mpr ⟨values,others,rfl⟩,rfl⟩

theorem pcrDigest_ok (done : pcrDigest crypto pcrs indices = .ok digest) :
    ∃ values : List Bytes, indices.map (pcrValue pcrs) = values.map some ∧
      digest = crypto.sha256 values.flatten := by
  unfold pcrDigest at done
  split at done
  · cases done
  · next data written =>
    cases done
    obtain ⟨values,known,rfl⟩ := (pcrBytes_ok_iff ..).mp written
    exact ⟨values,known,rfl⟩

/-- Without a length for each value a concatenation does not say where one ends, with one it does. -/
theorem values_agree_iff {f g : α → Option Bytes} {indices : List α} {values others : List Bytes}
    (first : indices.map f = values.map some) (second : indices.map g = others.map some)
    (same : values.flatten = others.flatten) :
    (∀ idx ∈ indices, f idx = g idx) ↔
      ∀ idx ∈ indices, (f idx).map List.length = (g idx).map List.length := by
  constructor
  · intro agree idx listed
    rw [agree idx listed]
  · intro lengths
    have sizes : values.map List.length = others.map List.length := by
      have mapped : indices.map (fun idx => (f idx).map List.length) =
          indices.map fun idx => (g idx).map List.length := List.map_congr_left lengths
      have shape (h : α → Option Bytes) : indices.map (fun idx => (h idx).map List.length) =
          (indices.map h).map (Option.map List.length) := by simp
      rw [shape,shape,first,second,List.map_map,List.map_map] at mapped
      apply List.map_injective_iff.mpr (Option.some_injective Nat)
      simpa [Function.comp_def] using mapped
    have equal := List.eq_iff_flatten_eq.mpr ⟨same,sizes⟩
    rw [equal,← second] at first
    exact List.map_inj_left.mp first

/-- The size of a PCR of the SHA-256 bank. -/
def pcrSize : Nat := 32

theorem verifyQuote_ok (verified : verifyQuote crypto r nonce = .ok quoteInfo) :
    computePCRDigest crypto quoteInfo r.pcrs = .ok quoteInfo.pcrDigest := by
  unfold verifyQuote at verified
  obtain ⟨⟨quoted,digest⟩,_,rest⟩ := bind_ok verified
  obtain ⟨recomputed,computed,rest⟩ := bind_ok rest
  split at rest
  · cases rest
  · next same =>
    obtain ⟨⟨eccSig,ecdsaPub⟩,_,rest⟩ := bind_ok rest
    dsimp only at rest
    split at rest
    · cases rest
      cases direct : computePCRDigest crypto quoteInfo r.pcrs with
      | error cause => rw [direct] at computed; cases computed
      | ok data =>
        rw [direct] at computed
        cases computed
        rw [not_not.mp same]
    · cases rest

theorem computePCRDigest_ok (done : computePCRDigest crypto quoteInfo pcrs = .ok digest) :
    pcrDigest crypto pcrs (quotedIndices quoteInfo) = .ok digest := by
  unfold computePCRDigest at done
  unfold quotedIndices
  split at done
  · cases done
  · split at done
    · cases done
    · next data computed =>
      cases done
      exact computed

/-- The digest determines the values of a PCR map for exactly those maps that agree in the lengths
of their values; an accepted report has the values of the TPM exactly if they have the size of a PCR. -/
theorem pcr_digest_determines_iff (crypto : Crypto PublicKey)
    (injective : Function.Injective crypto.sha256) :
    (∀ indices pcrs others digest, pcrDigest crypto pcrs indices = .ok digest →
      pcrDigest crypto others indices = .ok digest →
      ((∀ idx ∈ indices, pcrValue pcrs idx = pcrValue others idx) ↔
        ∀ idx ∈ indices, (pcrValue pcrs idx).map List.length = (pcrValue others idx).map List.length)) ∧
    ∀ r nonce policy order quoteInfo (bank : Int → Bytes), (∀ idx, (bank idx).length = pcrSize) →
      compliantWith crypto r nonce policy order = .ok true → verifyQuote crypto r nonce = .ok quoteInfo →
      quoteInfo.pcrDigest = crypto.sha256 ((quotedIndices quoteInfo).flatMap bank) →
      ((∀ idx ∈ quotedIndices quoteInfo, pcrValue r.pcrs idx = some (bank idx)) ↔
        ∀ idx ∈ quotedIndices quoteInfo, (pcrValue r.pcrs idx).map List.length = some pcrSize) := by
  refine ⟨?_,?_⟩
  · intro indices pcrs others digest first second
    obtain ⟨values,known,rfl⟩ := pcrDigest_ok first
    obtain ⟨values',known',same⟩ := pcrDigest_ok second
    exact values_agree_iff known known' (injective same)
  · intro r nonce policy order quoteInfo bank sized _ verified quoted
    obtain ⟨values,known,same⟩ := pcrDigest_ok (computePCRDigest_ok (verifyQuote_ok verified))
    have banked : (quotedIndices quoteInfo).map (fun idx => some (bank idx)) =
        ((quotedIndices quoteInfo).map bank).map some := by simp
    have agree := values_agree_iff known banked (injective (same.symm.trans quoted))
    simp only [Option.map_some,sized] at agree
    exact agree

section SamplePCRs

/-- The libraries of the sample with an injective function in the place of the hash. -/
def injectiveCrypto : Crypto Bytes := { sampleCrypto with sha256 := id }

def twoPCRs (first second : String) : Map Int String :=
  ((∅ : Map Int String).insert 0 first).insert 1 second

/-- Two spellings of the same values. -/
theorem pcr_digest_determines_spellings :
    pcrDigest injectiveCrypto (twoPCRs "aabb" "cc") [0,1] = .ok [0xaa,0xbb,0xcc] ∧
    ∀ idx ∈ [0,1], pcrValue (twoPCRs "aabb" "cc") idx = pcrValue (twoPCRs "0xAABB" "0XCC") idx := by
  have first : pcrDigest injectiveCrypto (twoPCRs "aabb" "cc") [0,1] = .ok [0xaa,0xbb,0xcc] := by
    decide +kernel
  have second : pcrDigest injectiveCrypto (twoPCRs "0xAABB" "0XCC") [0,1] = .ok [0xaa,0xbb,0xcc] := by
    decide +kernel
  have determines := (pcr_digest_determines_iff injectiveCrypto Function.injective_id).1
  exact ⟨first,(determines _ _ _ _ first second).mpr (by decide +kernel)⟩

/-- The boundary between two values shifts, and the digest is the same. -/
theorem pcr_digest_collision :
    Function.Injective injectiveCrypto.sha256 ∧
    pcrDigest injectiveCrypto (twoPCRs "aabb" "cc") [0,1] = .ok [0xaa,0xbb,0xcc] ∧
    pcrDigest injectiveCrypto (twoPCRs "aa" "bbcc") [0,1] = .ok [0xaa,0xbb,0xcc] ∧
    pcrValue (twoPCRs "aabb" "cc") 0 ≠ pcrValue (twoPCRs "aa" "bbcc") 0 :=
  ⟨Function.injective_id,by decide +kernel,by decide +kernel,by decide +kernel⟩

end SamplePCRs

/-- The last component with a name. -/
def lastNamed (components : List ComponentReport) (name : String) : Option ComponentReport :=
  components.reverse.find? fun comp => comp.name = name

theorem lookup_reportMap (components : List ComponentReport) (name : String) :
    (components.foldl (fun m comp => m.insert comp.name comp)
      (∅ : Map String ComponentReport)).lookup name = lastNamed components name := by
  induction components using List.reverseRecOn with
  | nil => rfl
  | append_singleton rest comp ih =>
    rw [List.foldl_concat,Map.lookup_insert_eq,ih,lastNamed,lastNamed,List.reverse_concat,List.find?_cons]
    by_cases same : name = comp.name
    · simp [same]
    · simp [same,Ne.symm same]

theorem validateComponents_ok_iff (reportComponents policyComponents : List ComponentReport) :
    validateComponents reportComponents policyComponents = .ok true ↔
      ∀ want ∈ policyComponents, ∃ got, lastNamed reportComponents want.name = some got ∧
        got.measurement = want.measurement := by
  unfold validateComponents
  induction policyComponents with
  | nil => simp [validateComponents.check]
  | cons want rest ih =>
    dsimp only at ih ⊢
    rw [validateComponents.check,lookup_reportMap]
    cases found : lastNamed reportComponents want.name with
    | none => simp [found]
    | some got =>
      dsimp only
      by_cases same : got.measurement = want.measurement
      · rw [if_neg (not_not.mpr same),ih]
        simp [found,same]
      · rw [if_pos same]
        simp [found,same]

theorem compliantWith_ok_iff (crypto : Crypto PublicKey) (r : Report) (nonce : String) (policy : Report)
    (order : List Int) : compliantWith crypto r nonce policy order = .ok true ↔
      (∃ quoteInfo, verifyQuote crypto r nonce = .ok quoteInfo) ∧
      validateComponents r.components policy.components = .ok true ∧
      ∀ idx ∈ order, r.pcrs.lookup idx = some (policy.pcrs.index idx) := by
  constructor
  · intro done
    obtain ⟨verified,agree⟩ := compliantWith_ok done
    refine ⟨verified,?_,agree⟩
    unfold compliantWith at done
    obtain ⟨_,_,rest⟩ := bind_ok done
    obtain ⟨valid,checked,last⟩ := bind_ok rest
    cases direct : validateComponents r.components policy.components with
    | error cause => rw [direct] at checked; cases checked
    | ok answer =>
      rw [direct] at checked
      cases checked
      cases valid with
      | false => cases last
      | true => rfl
  · rintro ⟨⟨quoteInfo,verified⟩,components,agree⟩
    simp only [compliantWith,verified,components,(validatePCRs_ok_iff ..).mpr agree]
    rfl

/-- Components of the same name have the same measurement. -/
def Consistent (components : List ComponentReport) : Prop :=
  ∀ a ∈ components, ∀ b ∈ components, a.name = b.name → a.measurement = b.measurement

theorem Consistent.perm (consistent : Consistent components) (permuted : others.Perm components) :
    Consistent others :=
  fun a first b second => consistent a (permuted.mem_iff.mp first) b (permuted.mem_iff.mp second)

theorem lastNamed_some (found : lastNamed components name = some got) :
    got ∈ components ∧ got.name = name := by
  refine ⟨List.mem_reverse.mp (List.mem_of_find?_eq_some found),?_⟩
  simpa using List.find?_some found

/-- In a consistent report it does not matter which component of a name is taken. -/
theorem Consistent.validateComponents_iff (consistent : Consistent reportComponents)
    (policyComponents : List ComponentReport) :
    validateComponents reportComponents policyComponents = .ok true ↔
      ∀ want ∈ policyComponents, ∃ got ∈ reportComponents, got.name = want.name ∧
        got.measurement = want.measurement := by
  rw [validateComponents_ok_iff]
  constructor
  · intro valid want listed
    obtain ⟨got,found,same⟩ := valid want listed
    obtain ⟨member,named⟩ := lastNamed_some found
    exact ⟨got,member,named,same⟩
  · intro valid want listed
    obtain ⟨got,member,named,same⟩ := valid want listed
    have present : (lastNamed reportComponents want.name).isSome := by
      rw [lastNamed,List.find?_isSome]
      exact ⟨got,List.mem_reverse.mpr member,by simpa using named⟩
    obtain ⟨last,found⟩ := Option.isSome_iff_exists.mp present
    obtain ⟨member',named'⟩ := lastNamed_some found
    refine ⟨last,found,?_⟩
    rw [consistent last member' got member (named'.trans named.symm),same]

/-- A policy for one component and no PCR. -/
def singleComponent (name measurement : String) : Report :=
  ⟨[⟨name,measurement,∅⟩],∅,"","","",0⟩

theorem compliantWith_last (verified : verifyQuote crypto r nonce = .ok quoteInfo)
    (components : List ComponentReport) (comp : ComponentReport) (measurement : String) :
    compliantWith crypto { r with components := components ++ [comp] } nonce
      (singleComponent comp.name measurement) [] = .ok true ↔ comp.measurement = measurement := by
  have quoted : verifyQuote crypto { r with components := components ++ [comp] } nonce = .ok quoteInfo :=
    verified
  rw [compliantWith_ok_iff,validateComponents_ok_iff]
  simp [quoted,singleComponent,lastNamed]

/-- Verdicts are independent of the order of components, and binding for all of them, for exactly
those reports that do not list one name with two measurements. -/
theorem component_order_iff (crypto : Crypto PublicKey) (r : Report) (nonce : String) :
    (∀ policy order, order.Perm policy.pcrs.keys →
      (∀ reportComponents policyComponents order', reportComponents.Perm r.components →
        policyComponents.Perm policy.components → order'.Perm policy.pcrs.keys →
        (compliantWith crypto { r with components := reportComponents } nonce
          { policy with components := policyComponents } order' = .ok true ↔
        compliantWith crypto r nonce policy order = .ok true)) ∧
      (compliantWith crypto r nonce policy order = .ok true →
        ∀ comp ∈ r.components, ∀ want ∈ policy.components, comp.name = want.name →
          comp.measurement = want.measurement)) ↔
    ((∃ quoteInfo, verifyQuote crypto r nonce = .ok quoteInfo) → Consistent r.components) := by
  constructor
  · rintro stable ⟨quoteInfo,verified⟩ a first b second named
    obtain ⟨front,back,listed⟩ := List.append_of_mem first
    obtain ⟨front',back',listed'⟩ := List.append_of_mem second
    have last {c : ComponentReport} {u v : List ComponentReport} : (u ++ v ++ [c]).Perm (u ++ c :: v) :=
      (List.perm_append_singleton c (u ++ v)).trans List.perm_middle.symm
    have permuted : (front ++ back ++ [a]).Perm r.components := listed ▸ last
    have permuted' : (front' ++ back' ++ [b]).Perm r.components := listed' ▸ last
    have stable := (stable (singleComponent a.name a.measurement) [] (by simp [singleComponent])).1
    have accepted := (stable _ _ [] permuted (.refl _) (by simp [singleComponent])).mp
      ((compliantWith_last verified _ a _).mpr rfl)
    have again := (stable _ _ [] permuted' (.refl _) (by simp [singleComponent])).mpr accepted
    rw [named] at again
    exact ((compliantWith_last verified _ b _).mp again).symm
  · intro clean policy order visits
    refine ⟨?_,?_⟩
    · intro reportComponents policyComponents order' report wanted visits'
      rw [compliantWith_ok_iff,compliantWith_ok_iff]
      refine and_congr_right fun verified => ?_
      have consistent := clean verified
      rw [(consistent.perm report).validateComponents_iff,consistent.validateComponents_iff]
      simp only [report.mem_iff,wanted.mem_iff,visits.mem_iff,visits'.mem_iff]
    · intro accepted comp member want listed named
      obtain ⟨verified,components,_⟩ := (compliantWith_ok_iff ..).mp accepted
      have consistent := clean verified
      obtain ⟨got,member',named',same⟩ := (consistent.validateComponents_iff _).mp components want listed
      rw [consistent comp member got member' (named.trans named'.symm),same]

section SampleComponents

def kernel (measurement : String) : ComponentReport := ⟨"kernel",measurement,∅⟩

/-- The sample report with two measurements of the same component. -/
def repeatedReport (first second : String) : Report :=
  { sampleReport with components := [kernel first,kernel second] }

theorem verifyQuote_repeated (first second : String) :
    verifyQuote sampleCrypto (repeatedReport first second) sampleNonce = .ok sampleQuoteInfo :=
  verifyQuote_sample

/-- The same components in another order get another verdict, and in the order that is accepted one
of them contradicts the policy. -/
theorem component_order_matters :
    (repeatedReport "bb" "aa").components.Perm (repeatedReport "aa" "bb").components ∧
    compliantWith sampleCrypto (repeatedReport "aa" "bb") sampleNonce
      (singleComponent "kernel" "bb") [] = .ok true ∧
    compliantWith sampleCrypto (repeatedReport "bb" "aa") sampleNonce
      (singleComponent "kernel" "bb") [] ≠ .ok true ∧
    kernel "aa" ∈ (repeatedReport "aa" "bb").components := by
  refine ⟨List.Perm.swap ..,?_,?_,by simp [repeatedReport]⟩
  · exact (compliantWith_last (verifyQuote_repeated "aa" "bb") [kernel "aa"] (kernel "bb") "bb").mpr rfl
  · intro accepted
    have same := (compliantWith_last (verifyQuote_repeated "bb" "aa") [kernel "bb"] (kernel "aa") "bb").mp
      accepted
    simp [kernel] at same

end SampleComponents

end Kommodity.Attestation
