import Mathlib.Data.Nat.Find
import Kommodity.GoValues

/-! Instants and the RFC 3339 layout of `time`. An instant is a number of nanoseconds since the
start of year 0, UTC. Formatting drops the fraction of a second; parsing accepts what the layout
accepts, with an optional fraction and a zone offset. -/
namespace Go.Time

def second : Int := 1000000000
def minute : Int := 60 * second

/-- The extreme durations: a duration is an `int64` of nanoseconds. -/
def maxDuration : Int := 9223372036854775807
def minDuration : Int := -9223372036854775808

/-- A product of durations, which wraps. -/
def wrapDuration (d : Int) : Int := d.bmod 18446744073709551616

/-- `t.Sub(u)`, which saturates. -/
def sub (t u : Int) : Int := max minDuration (min maxDuration (t - u))

theorem lt_sub_iff (positive : 0 < d) (representable : d < maxDuration) : d < sub t u ↔ d < t - u := by
  unfold sub minDuration
  omega

theorem lt_of_lt_sub (positive : 0 < d) (longer : d < sub t u) : d < t - u := by
  unfold sub minDuration at longer
  omega

def isLeap (year : Nat) : Bool := year % 4 = 0 && (year % 100 ≠ 0 || year % 400 = 0)

/-- `daysIn`. -/
def daysIn (month year : Nat) : Nat :=
  if month = 2 then (if isLeap year then 29 else 28)
  else if month ∈ [4,6,9,11] then 30
  else 31

def daysBeforeYear (year : Nat) : Nat :=
  365 * year + (year + 3) / 4 + (year + 399) / 400 - (year + 99) / 100

/-- The days of the year before the first of a month, the months counted from one. -/
def daysBeforeMonth (year : Nat) : Nat → Nat
  | 0 => 0
  | 1 => 0
  | month + 2 => daysBeforeMonth year (month + 1) + daysIn (month + 1) year

/-- Seconds of a date and a time of day, the arithmetic of `time.Date` within its ranges. -/
def dateSeconds (year month day hour minute second : Nat) : Nat :=
  (daysBeforeYear year + daysBeforeMonth year month + (day - 1)) * 86400 +
    hour * 3600 + minute * 60 + second

/-- The year of a day counted from year 0, up to the last year the layout can write. -/
def yearOf (day : Nat) : Nat := Nat.findGreatest (daysBeforeYear · ≤ day) 9999

def monthOf (year dayOfYear : Nat) : Nat :=
  Nat.findGreatest (daysBeforeMonth year · ≤ dayOfYear) 12

/-- The seconds in the years that four digits can write. -/
def endOfYears : Nat := daysBeforeYear 10000 * 86400

def digitChar (n : Nat) : Char := Char.ofNat (48 + n % 10)

def digits2 (n : Nat) : List Char := [digitChar (n / 10),digitChar n]

def digits4 (n : Nat) : List Char := digits2 (n / 100) ++ digits2 n

def formatSeconds (t : Nat) : List Char :=
  let day := t / 86400
  let year := yearOf day
  let dayOfYear := day - daysBeforeYear year
  let month := monthOf year dayOfYear
  digits4 year ++ '-' :: digits2 month ++ '-' :: digits2 (dayOfYear - daysBeforeMonth year month + 1) ++
    'T' :: digits2 (t % 86400 / 3600) ++ ':' :: digits2 (t % 3600 / 60) ++ ':' :: digits2 (t % 60) ++ ['Z']

/-- `t.UTC().Format(time.RFC3339)` for years 0 to 9999. -/
def formatRFC3339 (t : Nat) : String := String.ofList (formatSeconds (t / 1000000000))

def digit (c : Char) : Option Nat := if '0' ≤ c ∧ c ≤ '9' then some (c.toNat - 48) else none

/-- `getnum` with a fixed width of two. -/
def twoDigits : List Char → Option (Nat × List Char)
  | a :: b :: rest =>
    match digit a,digit b with
    | some x,some y => some (10 * x + y,rest)
    | _,_ => none
  | _ => none

/-- `getnum` with one digit or two. -/
def oneOrTwoDigits : List Char → Option (Nat × List Char)
  | [] => none
  | a :: rest =>
    match twoDigits (a :: rest) with
    | some read => some read
    | none => (digit a).map (·,rest)

def fourDigits (s : List Char) : Option (Nat × List Char) :=
  match twoDigits s with
  | none => none
  | some (high,rest) => (twoDigits rest).map fun (low,rest) => (100 * high + low,rest)

def expect (c : Char) : List Char → Option (List Char)
  | [] => none
  | a :: rest => if a = c then some rest else none

/-- A number in a range after a separator, the shape of most fields of the layout. -/
def field (separator : Char) (read : List Char → Option (Nat × List Char)) (low high : Nat)
    (s : List Char) : Option (Nat × List Char) :=
  match expect separator s with
  | none => none
  | some s => (read s).filter fun (n,_) => low ≤ n && n ≤ high

/-- `parseNanoseconds`: nine digits count, further ones are dropped. -/
def nanoseconds (digits : List Char) : Nat :=
  let kept := digits.take 9
  kept.foldl (fun n c => 10 * n + (c.toNat - 48)) 0 * 10 ^ (9 - kept.length)

/-- The optional fraction, which the layout does not show but the parser accepts. -/
def fraction (s : List Char) : Nat × List Char :=
  match s with
  | separator :: rest =>
    let digits := rest.takeWhile fun c => (digit c).isSome
    if (separator = '.' ∨ separator = ',') ∧ digits ≠ [] then (nanoseconds digits,rest.drop digits.length)
    else (0,s)
  | [] => (0,[])

/-- The zone offset in seconds; it ends the text. -/
def zone : List Char → Option Int
  | ['Z'] => some 0
  | [sign,h1,h2,':',m1,m2] =>
    match twoDigits [h1,h2],twoDigits [m1,m2] with
    | some (hours,_),some (minutes,_) =>
      if 24 < hours ∨ 60 < minutes then none
      else
        let offset : Int := (hours * 60 + minutes) * 60
        if sign = '+' then some offset else if sign = '-' then some (-offset) else none
    | _,_ => none
  | _ => none

def parseSeconds (s : List Char) : Option Int := do
  let (year,s) ← fourDigits s
  let (month,s) ← field '-' twoDigits 1 12 s
  let (day,s) ← field '-' twoDigits 1 (daysIn month year) s
  let (hour,s) ← field 'T' oneOrTwoDigits 0 23 s
  let (minute,s) ← field ':' twoDigits 0 59 s
  let (sec,s) ← field ':' twoDigits 0 59 s
  let (nanos,s) := fraction s
  let offset ← zone s
  return ((dateSeconds year month day hour minute sec : Int) - offset) * 1000000000 + nanos

/-- `time.Parse(time.RFC3339, s)`. -/
def parseRFC3339 (s : String) : Option Int := parseSeconds s.toList

example : parseRFC3339 "0000-03-01T00:00:00+01:00" = some ((60 * 86400 - 3600) * 1000000000) := by decide
example : parseRFC3339 "2023-02-29T00:00:00Z" = none := by decide
example : parseRFC3339 "soon" = none := by decide

theorem digit_digitChar (n : Nat) : digit (digitChar n) = some (n % 10) := by
  have table : ∀ k : Fin 10, digit (Char.ofNat (48 + k.val)) = some k.val := by decide
  exact table ⟨n % 10,Nat.mod_lt _ (by decide)⟩

theorem twoDigits_digits2 (small : n < 100) (rest : List Char) :
    twoDigits (digits2 n ++ rest) = some (n,rest) := by
  have value : 10 * (n / 10 % 10) + n % 10 = n := by omega
  simp [twoDigits,digits2,digit_digitChar,value]

theorem fourDigits_digits4 (small : n < 10000) (rest : List Char) :
    fourDigits (digits4 n ++ rest) = some (n,rest) := by
  have last : digits2 n = digits2 (n % 100) := by
    have tens : n / 10 % 10 = n % 100 / 10 % 10 := by omega
    have ones : n % 10 = n % 100 % 10 := by omega
    simp only [digits2,digitChar,tens,ones]
  have value : 100 * (n / 100) + n % 100 = n := by omega
  rw [digits4,List.append_assoc,fourDigits,twoDigits_digits2 (by omega),last]
  simp [twoDigits_digits2 (show n % 100 < 100 by omega),value]

theorem field_digits2 (small : n < 100) (least : low ≤ n) (most : n ≤ high) (rest : List Char) :
    field separator twoDigits low high (separator :: (digits2 n ++ rest)) = some (n,rest) := by
  simp [field,expect,twoDigits_digits2 small,Option.filter,least,most]

theorem field_digits2_hour (small : n ≤ 23) (rest : List Char) :
    field separator oneOrTwoDigits 0 23 (separator :: (digits2 n ++ rest)) = some (n,rest) := by
  have read := twoDigits_digits2 (show n < 100 by omega) rest
  have whole : oneOrTwoDigits (digits2 n ++ rest) = some (n,rest) := by
    rw [digits2,List.cons_append] at read ⊢
    rw [oneOrTwoDigits,read]
  simp [field,expect,whole,Option.filter,small]

theorem multiples_succ (positive : 0 < step) (year : Nat) :
    (year + 1 + (step - 1)) / step = (year + (step - 1)) / step + if year % step = 0 then 1 else 0 := by
  obtain ⟨k,rfl⟩ : ∃ k, step = k + 1 := ⟨step - 1,by omega⟩
  rw [Nat.add_right_comm,Nat.add_sub_cancel,Nat.succ_div]
  have whole : (k + 1) ∣ (year + k + 1) ↔ year % (k + 1) = 0 := by
    rw [Nat.add_assoc,Nat.dvd_add_left (Nat.dvd_refl _),Nat.dvd_iff_mod_eq_zero]
  simp only [whole]

theorem daysBeforeYear_succ (year : Nat) :
    daysBeforeYear (year + 1) = daysBeforeYear year + daysBeforeMonth year 13 := by
  have months : daysBeforeMonth year 13 = if isLeap year then 366 else 365 := by
    cases leap : isLeap year <;> simp [daysBeforeMonth,daysIn,leap]
  have fours := multiples_succ (show 0 < 4 by decide) year
  have hundreds := multiples_succ (show 0 < 100 by decide) year
  have fourHundreds := multiples_succ (show 0 < 400 by decide) year
  have below : (year + 99) / 100 ≤ year := by omega
  simp only [Nat.add_one_sub_one] at fours hundreds fourHundreds
  rw [months,daysBeforeYear,daysBeforeYear,fours,hundreds,fourHundreds]
  have leap : isLeap year = true ↔ year % 4 = 0 ∧ (year % 100 ≠ 0 ∨ year % 400 = 0) := by simp [isLeap]
  have nested : year % 400 = 0 → year % 100 = 0 := by omega
  have nested' : year % 100 = 0 → year % 4 = 0 := by omega
  clear fours hundreds fourHundreds months
  generalize (year + 3) / 4 = a at *
  generalize (year + 99) / 100 = b at *
  generalize (year + 399) / 400 = c at *
  by_cases h4 : year % 4 = 0 <;> by_cases h100 : year % 100 = 0 <;> by_cases h400 : year % 400 = 0 <;>
    simp_all <;> omega

theorem yearOf_spec (within : day < daysBeforeYear 10000) :
    yearOf day ≤ 9999 ∧ daysBeforeYear (yearOf day) ≤ day ∧ day < daysBeforeYear (yearOf day + 1) := by
  have bound : yearOf day ≤ 9999 := Nat.findGreatest_le _
  refine ⟨bound,?_,?_⟩
  · exact Nat.findGreatest_spec (P := (daysBeforeYear · ≤ day)) (Nat.zero_le _) (Nat.zero_le day)
  · by_cases last : yearOf day = 9999
    · rw [last]; exact within
    · have later := Nat.findGreatest_is_greatest (P := (daysBeforeYear · ≤ day))
        (Nat.lt_succ_self (yearOf day)) (show yearOf day + 1 ≤ 9999 by omega)
      exact Nat.lt_of_not_le later

theorem monthOf_spec (within : day < daysBeforeMonth year 13) :
    1 ≤ monthOf year day ∧ monthOf year day ≤ 12 ∧ daysBeforeMonth year (monthOf year day) ≤ day ∧
      day < daysBeforeMonth year (monthOf year day + 1) := by
  have bound : monthOf year day ≤ 12 := Nat.findGreatest_le _
  have first : daysBeforeMonth year 1 ≤ day := Nat.zero_le day
  refine ⟨?_,bound,?_,?_⟩
  · exact Nat.le_findGreatest (P := (daysBeforeMonth year · ≤ day)) (by decide) first
  · exact Nat.findGreatest_spec (P := (daysBeforeMonth year · ≤ day)) (by decide) first
  · by_cases last : monthOf year day = 12
    · rw [last]; exact within
    · have later := Nat.findGreatest_is_greatest (P := (daysBeforeMonth year · ≤ day))
        (Nat.lt_succ_self (monthOf year day)) (show monthOf year day + 1 ≤ 12 by omega)
      exact Nat.lt_of_not_le later

theorem daysBeforeMonth_succ (first : 1 ≤ month) :
    daysBeforeMonth year (month + 1) = daysBeforeMonth year month + daysIn month year := by
  obtain ⟨k,rfl⟩ : ∃ k, month = k + 1 := ⟨month - 1,by omega⟩
  rfl

theorem daysIn_le (month year : Nat) : daysIn month year ≤ 31 := by
  unfold daysIn
  split
  · split <;> decide
  · split <;> decide

theorem fraction_Z : fraction ['Z'] = (0,['Z']) := by decide

theorem parseSeconds_format (within : t < endOfYears) :
    parseSeconds (formatSeconds t) = some ((t : Int) * 1000000000) := by
  have days : t / 86400 < daysBeforeYear 10000 := by
    unfold endOfYears at within
    generalize daysBeforeYear 10000 = n at *
    omega
  obtain ⟨year,fromYear,toYear⟩ := yearOf_spec days
  rw [daysBeforeYear_succ] at toYear
  have inYear : t / 86400 - daysBeforeYear (yearOf (t / 86400)) <
      daysBeforeMonth (yearOf (t / 86400)) 13 := by omega
  obtain ⟨firstMonth,lastMonth,fromMonth,toMonth⟩ := monthOf_spec inYear
  rw [daysBeforeMonth_succ firstMonth] at toMonth
  simp only [formatSeconds]
  generalize yearOf (t / 86400) = y at *
  generalize monthOf y (t / 86400 - daysBeforeYear y) = m at *
  generalize dayOfYear : t / 86400 - daysBeforeYear y = d at *
  have longest := daysIn_le m y
  simp only [parseSeconds,List.append_assoc,List.cons_append]
  rw [fourDigits_digits4 (by omega)]
  simp only [Option.bind_eq_bind,Option.bind_some]
  rw [field_digits2 (by omega) firstMonth lastMonth]
  simp only [Option.bind_some]
  rw [field_digits2 (by omega) (by omega) (by omega)]
  simp only [Option.bind_some]
  rw [field_digits2_hour (by omega)]
  simp only [Option.bind_some]
  rw [field_digits2 (by omega) (by omega) (by omega)]
  simp only [Option.bind_some]
  rw [field_digits2 (by omega) (by omega) (by omega)]
  simp only [Option.bind_some,fraction_Z,zone,dateSeconds]
  have whole : (daysBeforeYear y + daysBeforeMonth y m + (d - daysBeforeMonth y m + 1 - 1)) * 86400 +
      t % 86400 / 3600 * 3600 + t % 3600 / 60 * 60 + t % 60 = t := by omega
  rw [whole]
  simp

/-- The stamp reads back as the instant without its fraction of a second. -/
theorem parse_format (within : t / 1000000000 < endOfYears) :
    parseRFC3339 (formatRFC3339 t) = some ((t / 1000000000 : Nat) * 1000000000) := by
  simp [parseRFC3339,formatRFC3339,parseSeconds_format within]

end Go.Time
