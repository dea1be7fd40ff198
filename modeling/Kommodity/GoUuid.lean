import Mathlib.Data.List.Induction
import Kommodity.GoValues

/-! The texts that `uuid.Parse` of google/uuid accepts: 36 bytes with dashes, the same after
`urn:uuid:` or between two bytes that are not looked at, and 32 digits. No accepted text starts
another one, and in lower case a form and a value have one text. -/
namespace Go.Uuid

/-- The value of a hexadecimal digit of either case. -/
def xvalue (b : UInt8) : Option Nat :=
  if 48 ≤ b ∧ b ≤ 57 then some (b.toNat - 48)
  else if 97 ≤ b ∧ b ≤ 102 then some (b.toNat - 87)
  else if 65 ≤ b ∧ b ≤ 70 then some (b.toNat - 55)
  else none

/-- Two digits a byte. -/
def decode : Bytes → Option Bytes
  | [] => some []
  | [_] => none
  | high :: low :: rest =>
    match xvalue high,xvalue low,decode rest with
    | some h,some l,some data => some (UInt8.ofNat (16 * h + l) :: data)
    | _,_,_ => none

def dash : UInt8 := 45

/-- The digits of `xxxxxxxx-xxxx-xxxx-xxxx-xxxxxxxxxxxx`. -/
def undash (s : Bytes) : Option Bytes :=
  if s.length = 36 ∧ s[8]? = some dash ∧ s[13]? = some dash ∧ s[18]? = some dash ∧ s[23]? = some dash then
    some (s.take 8 ++ (s.drop 9).take 4 ++ (s.drop 14).take 4 ++ (s.drop 19).take 4 ++ s.drop 24)
  else none

def redash (d : Bytes) : Bytes :=
  d.take 8 ++ dash :: (d.drop 8).take 4 ++ dash :: (d.drop 12).take 4 ++ dash :: (d.drop 16).take 4 ++
    dash :: d.drop 20

def lowerByte (b : UInt8) : UInt8 := if 65 ≤ b ∧ b ≤ 90 then b + 32 else b

def urnPrefix : Bytes := bytes "urn:uuid:"

inductive Form where
  | dashed
  | urn
  | braced (opening closing : Bytes)
  | plain
  deriving DecidableEq

def Form.length : Form → Nat
  | .dashed => 36
  | .urn => 45
  | .braced _ _ => 38
  | .plain => 32

/-- `uuid.Parse`, with the form that it has found. -/
def parse (s : Bytes) : Option (Form × Bytes) :=
  if s.length = 36 then ((undash s).bind decode).map (.dashed,·)
  else if s.length = 45 then
    if (s.take 9).map lowerByte = urnPrefix then ((undash (s.drop 9)).bind decode).map (.urn,·) else none
  else if s.length = 38 then
    ((undash ((s.drop 1).take 36)).bind decode).map (.braced (s.take 1) (s.drop 37),·)
  else if s.length = 32 then (decode s).map (.plain,·)
  else none

/-- The texts of a value. -/
inductive Spelled : Form → Bytes → Bytes → Prop where
  | dashed (full : d.length = 32) (digits : decode d = some u) : Spelled .dashed u (redash d)
  | urn (full : d.length = 32) (digits : decode d = some u) (front : p.map lowerByte = urnPrefix) :
      Spelled .urn u (p ++ redash d)
  | braced (full : d.length = 32) (digits : decode d = some u) (opening : a.length = 1)
      (closing : b.length = 1) : Spelled (.braced a b) u (a ++ redash d ++ b)
  | plain (full : d.length = 32) (digits : decode d = some u) : Spelled .plain u d

theorem decode_cons_cons (digits : decode (high :: low :: rest) = some u) :
    ∃ h l data, xvalue high = some h ∧ xvalue low = some l ∧ decode rest = some data ∧
      u = UInt8.ofNat (16 * h + l) :: data := by
  simp only [decode] at digits
  split at digits
  · next h l data first second tail =>
    cases digits
    exact ⟨h,l,data,first,second,tail,rfl⟩
  · cases digits

theorem split_at {s : List α} (found : s[i]? = some x) :
    ∃ front back, s = front ++ x :: back ∧ front.length = i := by
  obtain ⟨bound,value⟩ := List.getElem?_eq_some_iff.mp found
  refine ⟨s.take i,s.drop (i + 1),?_,by simp; omega⟩
  rw [← value,← List.drop_eq_getElem_cons bound,List.take_append_drop]

theorem undash_some (found : undash s = some d) : d.length = 32 ∧ s = redash d := by
  unfold undash at found
  split at found
  · next fits =>
    obtain ⟨full,first,second,third,fourth⟩ := fits
    obtain ⟨a,rest,rfl,eight⟩ := split_at first
    have second : rest[4]? = some dash := by simpa [List.getElem?_append,eight] using second
    have third : rest[9]? = some dash := by simpa [List.getElem?_append,eight] using third
    have fourth : rest[14]? = some dash := by simpa [List.getElem?_append,eight] using fourth
    obtain ⟨b,rest,rfl,four⟩ := split_at second
    have third : rest[4]? = some dash := by simpa [List.getElem?_append,four] using third
    have fourth : rest[9]? = some dash := by simpa [List.getElem?_append,four] using fourth
    obtain ⟨c,rest,rfl,four'⟩ := split_at third
    have fourth : rest[4]? = some dash := by simpa [List.getElem?_append,four'] using fourth
    obtain ⟨e,f,rfl,four''⟩ := split_at fourth
    cases found
    simp only [List.length_append,List.length_cons,eight,four,four',four''] at full
    have twelve : f.length = 12 := by omega
    simp (disch := omega) [redash,List.drop_append,List.drop_eq_nil_of_le,eight,four,four',four'',
      twelve]
  · cases found

/-- What `uuid.Parse` accepts is one of the texts of its value. -/
theorem parse_spelled (found : parse s = some (form,u)) : Spelled form u s ∧ s.length = form.length := by
  unfold parse at found
  split at found
  · next full =>
    obtain ⟨value,decoded,same⟩ := Option.map_eq_some_iff.mp found
    obtain ⟨d,undashed,digits⟩ := Option.bind_eq_some_iff.mp decoded
    obtain ⟨long,rfl⟩ := undash_some undashed
    cases same
    exact ⟨.dashed long digits,full⟩
  split at found
  · next full =>
    split at found
    · next front =>
      obtain ⟨value,decoded,same⟩ := Option.map_eq_some_iff.mp found
      obtain ⟨d,undashed,digits⟩ := Option.bind_eq_some_iff.mp decoded
      obtain ⟨long,rest⟩ := undash_some undashed
      cases same
      have whole : s = s.take 9 ++ redash d := by rw [← rest,List.take_append_drop]
      refine ⟨?_,full⟩
      rw [whole]
      exact .urn long digits front
    · cases found
  split at found
  · next full =>
    obtain ⟨value,decoded,same⟩ := Option.map_eq_some_iff.mp found
    obtain ⟨d,undashed,digits⟩ := Option.bind_eq_some_iff.mp decoded
    obtain ⟨long,middle⟩ := undash_some undashed
    cases same
    have whole : s = s.take 1 ++ redash d ++ s.drop 37 := by
      rw [← middle,List.append_assoc]
      have rest : (s.drop 1).take 36 ++ s.drop 37 = s.drop 1 := by
        rw [show s.drop 37 = (s.drop 1).drop 36 by rw [List.drop_drop],List.take_append_drop]
      rw [rest,List.take_append_drop]
    refine ⟨?_,full⟩
    have spelled := Spelled.braced (a := s.take 1) (b := s.drop 37) long digits (by simp; omega) (by simp; omega)
    rwa [← whole] at spelled
  split at found
  · next full =>
    obtain ⟨value,digits,same⟩ := Option.map_eq_some_iff.mp found
    cases same
    exact ⟨.plain full digits,full⟩
  · cases found

section PrefixFree

/-- Whether a text has a digit at a position. -/
def digitAt (s : Bytes) (i : Nat) : Bool := (s[i]?.bind xvalue).isSome

theorem digits_of_decode (digits : decode d = some u) : ∀ b ∈ d, (xvalue b).isSome = true := by
  induction d using List.twoStepInduction generalizing u with
  | nil => simp
  | singleton b => cases digits
  | cons_cons high low rest ih _ =>
    obtain ⟨h,l,data,first,second,tail,_⟩ := decode_cons_cons digits
    simp only [List.forall_mem_cons]
    exact ⟨by simp [first],by simp [second],ih tail⟩

theorem digitAt_of_decode (digits : decode d = some u) (bound : i < d.length) : digitAt d i = true := by
  rw [digitAt,List.getElem?_eq_getElem bound]
  exact digits_of_decode digits _ (List.getElem_mem bound)

theorem redash_length (full : d.length = 32) : (redash d).length = 36 := by simp [redash,full]

theorem redash_digit (digits : decode d = some u) (full : d.length = 32) (low : i < 8) :
    digitAt (redash d) i = true := by
  have same : (redash d)[i]? = d[i]? := by
    simp only [redash,List.append_assoc]
    rw [List.getElem?_append_left (by simp; omega),List.getElem?_take_of_lt low]
  rw [digitAt,same]
  exact digitAt_of_decode digits (by omega)

theorem redash_dash (full : d.length = 32) : digitAt (redash d) 8 = false := by
  have there : (redash d)[8]? = some dash := by simp [redash,full]
  rw [digitAt,there]
  rfl

theorem byte_forall {P : UInt8 → Prop} (table : ∀ n : Fin 256, P (UInt8.ofNat n)) (b : UInt8) : P b := by
  have value := table ⟨b.toNat,b.toNat_lt⟩
  rwa [UInt8.ofNat_toNat] at value

theorem urn_letter (front : p.map lowerByte = urnPrefix) (rest : Bytes) : digitAt (p ++ rest) 1 = false := by
  have lowered : (p.map lowerByte)[1]? = some 114 := by rw [front]; decide
  obtain ⟨b,there,letter⟩ := Option.map_eq_some_iff.mp (List.getElem?_map.symm.trans lowered)
  have other : ∀ b, lowerByte b = 114 → xvalue b = none := byte_forall (by decide +kernel)
  have bound : 1 < p.length := (List.getElem?_eq_some_iff.mp there).1
  rw [digitAt,List.getElem?_append_left bound,there,Option.bind_some,other b letter]
  rfl

theorem Spelled.length_eq (spelled : Spelled form u s) : form.length =
    if digitAt s 1 then if digitAt s 8 then if digitAt s 9 then 32 else 38 else 36 else 45 := by
  cases spelled with
  | dashed full digits => rw [redash_digit digits full (by omega),redash_dash full]; rfl
  | urn full digits front => rw [urn_letter front]; rfl
  | @braced d _ a b full digits opening closing =>
    have shifted {i : Nat} (low : i < 36) : digitAt (a ++ redash d ++ b) (i + 1) = digitAt (redash d) i := by
      rw [digitAt,List.append_assoc,List.getElem?_append_right (by omega),opening,Nat.add_sub_cancel,
        List.getElem?_append_left (by rw [redash_length full]; omega)]
      rfl
    rw [shifted (i := 0) (by omega),shifted (i := 7) (by omega),shifted (i := 8) (by omega),
      redash_digit digits full (by omega),redash_digit digits full (by omega),redash_dash full]
    rfl
  | plain full digits =>
    rw [digitAt_of_decode digits (by omega),digitAt_of_decode digits (by omega),
      digitAt_of_decode digits (by omega)]
    rfl

theorem Form.length_bound (form : Form) : 32 ≤ form.length := by cases form <;> simp [Form.length]

/-- No accepted text starts another one. -/
theorem prefix_free (first : parse s = some (form,u)) (second : parse s' = some (form',u'))
    (starts : s <+: s') : s = s' := by
  obtain ⟨spelled,length⟩ := parse_spelled first
  obtain ⟨spelled',length'⟩ := parse_spelled second
  have agree {i : Nat} (low : i < 32) : digitAt s i = digitAt s' i := by
    have bound : i < s.length := by have := form.length_bound; omega
    obtain ⟨rest,rfl⟩ := starts
    rw [digitAt,digitAt,List.getElem?_append_left bound]
  have same : form.length = form'.length := by
    rw [spelled.length_eq,spelled'.length_eq,agree (by omega),agree (by omega),agree (by omega)]
  exact starts.eq_of_length (by rw [length,length',same])

end PrefixFree

section LowerCase

/-- Without upper-case letters. -/
def Lowered (s : Bytes) : Prop := ∀ b ∈ s, lowerByte b = b

theorem xvalue_injective (first : xvalue b = some n) (second : xvalue c = some n) (lower : lowerByte b = b)
    (lower' : lowerByte c = c) : b = c := by
  have digit : ∀ b, lowerByte b = b → ∀ n ∈ xvalue b, b = UInt8.ofNat (if n < 10 then n + 48 else n + 87) :=
    byte_forall (by decide +kernel)
  rw [digit b lower n first,digit c lower' n second]

theorem xvalue_lt (found : xvalue b = some n) : n < 16 := by
  have small : ∀ b, ∀ n ∈ xvalue b, n < 16 := byte_forall (by decide +kernel)
  exact small b n found

theorem decode_cons_some (digits : decode d = some (x :: data)) :
    ∃ high low rest h l, d = high :: low :: rest ∧ xvalue high = some h ∧ xvalue low = some l ∧
      decode rest = some data ∧ x = UInt8.ofNat (16 * h + l) := by
  cases d with
  | nil => cases digits
  | cons high d =>
    cases d with
    | nil => cases digits
    | cons low rest =>
      obtain ⟨h,l,data',first,second,tail,same⟩ := decode_cons_cons digits
      cases same
      exact ⟨high,low,rest,h,l,rfl,first,second,tail,rfl⟩

theorem decode_nil_some (digits : decode d = some []) : d = [] := by
  cases d with
  | nil => rfl
  | cons high d =>
    cases d with
    | nil => cases digits
    | cons low rest =>
      obtain ⟨_,_,_,_,_,_,other⟩ := decode_cons_cons digits
      cases other

theorem halves_injective (small : h < 16) (small' : h' < 16) (low : l < 16) (low' : l' < 16)
    (same : UInt8.ofNat (16 * h + l) = UInt8.ofNat (16 * h' + l')) : h = h' ∧ l = l' := by
  have values := congrArg UInt8.toNat same
  simp only [UInt8.toNat_ofNat'] at values
  omega

/-- In lower case there is one text for each list of bytes. -/
theorem decode_injective (first : decode d = some u) (second : decode e = some u) (lower : Lowered d)
    (lower' : Lowered e) : d = e := by
  induction u generalizing d e with
  | nil => rw [decode_nil_some first,decode_nil_some second]
  | cons x data ih =>
    obtain ⟨high,low,rest,h,l,rfl,one,two,tail,rfl⟩ := decode_cons_some first
    obtain ⟨high',low',rest',h',l',rfl,one',two',tail',same⟩ := decode_cons_some second
    obtain ⟨rfl,rfl⟩ := halves_injective (xvalue_lt one) (xvalue_lt one') (xvalue_lt two) (xvalue_lt two') same
    simp only [Lowered,List.forall_mem_cons] at lower lower'
    rw [xvalue_injective one one' lower.1 lower'.1,xvalue_injective two two' lower.2.1 lower'.2.1,
      ih tail tail' lower.2.2 lower'.2.2]

theorem mem_redash (listed : b ∈ d) : b ∈ redash d := by
  have whole : d = d.take 8 ++ ((d.drop 8).take 4 ++ ((d.drop 12).take 4 ++ ((d.drop 16).take 4 ++ d.drop 20))) := by
    have cut (i n : Nat) : (d.drop i).take n ++ d.drop (i + n) = d.drop i := by
      rw [← List.drop_drop,List.take_append_drop]
    rw [cut 16 4,cut 12 4,cut 8 4,List.take_append_drop]
  rw [whole] at listed
  simp only [List.mem_append] at listed
  simp only [redash,List.mem_append,List.mem_cons]
  tauto

/-- In lower case a form and a value have one text. -/
theorem parse_injective (first : parse s = some (form,u)) (second : parse t = some (form,u)) (lower : Lowered s)
    (lower' : Lowered t) : s = t := by
  have fixed {p : Bytes} (low : Lowered p) : p.map lowerByte = p := (List.map_congr_left low).trans (List.map_id' p)
  obtain ⟨spelled,_⟩ := parse_spelled first
  obtain ⟨spelled',_⟩ := parse_spelled second
  cases spelled with
  | dashed full digits =>
    cases spelled' with
    | dashed full' digits' =>
      rw [decode_injective digits digits' (fun b listed => lower b (mem_redash listed))
        (fun b listed => lower' b (mem_redash listed))]
  | @urn d _ p full digits front =>
    cases spelled' with
    | @urn e _ q full' digits' front' =>
      have lowp : Lowered p := fun b listed => lower b (List.mem_append_left _ listed)
      have lowq : Lowered q := fun b listed => lower' b (List.mem_append_left _ listed)
      rw [fixed lowp] at front
      rw [fixed lowq] at front'
      rw [front,front',decode_injective digits digits'
        (fun b listed => lower b (List.mem_append_right _ (mem_redash listed)))
        (fun b listed => lower' b (List.mem_append_right _ (mem_redash listed)))]
  | @braced d _ a b full digits opening closing =>
    cases spelled' with
    | @braced e _ _ _ full' digits' _ _ =>
      rw [decode_injective digits digits'
        (fun c listed => lower c (by simp [mem_redash listed]))
        (fun c listed => lower' c (by simp [mem_redash listed]))]
  | plain full digits =>
    cases spelled' with
    | plain full' digits' => exact decode_injective digits digits' lower lower'

end LowerCase

example : parse (bytes "550e8400-e29b-41d4-a716-446655440000") =
    (parse (bytes "550E8400E29B41D4A716446655440000")).map fun (_,u) => (.dashed,u) := by decide +kernel

end Go.Uuid
