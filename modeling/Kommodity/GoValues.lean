import Mathlib.Data.List.AList
import Mathlib.Algebra.Order.Ring.Int

/-! Go values that every package shares: byte slices, strings, maps, and the parts
of `strings` and `encoding/hex` the server calls. A Go string is a Lean `String`;
byte-level operations go through its UTF-8 encoding. -/
namespace Go

abbrev Bytes := List UInt8

/-- The conversion `[]byte(s)`. -/
def bytes (s : String) : Bytes := s.toByteArray.data.toList

theorem bytes_injective : Function.Injective bytes := by
  intro s t same
  apply String.toByteArray_inj.mp
  exact ByteArray.ext (Array.toList_inj.mp same)

/-- A Go map. Iteration order is not part of the value: code that ranges over a map
takes the order as an argument, a permutation of the keys. -/
abbrev Map (K V : Type) := AList (fun _ : K => V)

section Maps

variable {K V W : Type} [DecidableEq K]

/-- The index expression `m[k]`, with the zero value for an absent key. -/
def Map.index [Inhabited V] (m : Map K V) (k : K) : V := (m.lookup k).getD default

theorem Map.index_of_lookup [Inhabited V] {m : Map K V} (found : m.lookup k = some v) :
    m.index k = v := by
  simp [Map.index,found]

@[simp] theorem Map.lookup_empty (k : K) : (∅ : Map K V).lookup k = none := by
  simp

theorem Map.lookup_insert_eq (m : Map K V) (a k : K) (v : V) :
    (m.insert a v).lookup k = if k = a then some v else m.lookup k := by
  by_cases same : k = a
  · subst k; simp
  · simp [AList.lookup_insert_ne same,same]

theorem Map.lookup_erase_eq (m : Map K V) (a k : K) :
    (m.erase a).lookup k = if k = a then none else m.lookup k := by
  by_cases same : k = a
  · subst k; simp
  · simp [AList.lookup_erase_ne same,same]

theorem Map.mem_of_lookup {m : Map K V} (found : m.lookup k = some v) : k ∈ m.keys :=
  AList.mem_keys.mp (AList.lookup_isSome.mp (by simp [found]))

theorem Map.lookup_of_mem {m : Map K V} (member : k ∈ m.keys) : ∃ v, m.lookup k = some v :=
  Option.isSome_iff_exists.mp (AList.lookup_isSome.mpr (AList.mem_keys.mpr member))

/-- The loop `for k, v := range src { dst[k] = f(v) }`. -/
def Map.assignAll (f : V → W) (dst : Map K W) (src : Map K V) : Map K W :=
  src.entries.foldl (fun m e => m.insert e.1 (f e.2)) dst

private theorem lookup_foldl_insert (f : V → W) (entries : List (Sigma fun _ : K => V))
    (m : Map K W) (unique : (entries.map Sigma.fst).Nodup) (k : K) :
    (entries.foldl (fun m e => m.insert e.1 (f e.2)) m).lookup k =
      ((entries.dlookup k).map f).or (m.lookup k) := by
  induction entries generalizing m with
  | nil => simp
  | cons e rest ih =>
    obtain ⟨a,v⟩ := e
    simp only [List.map_cons,List.nodup_cons] at unique
    rw [List.foldl_cons,ih _ unique.2]
    by_cases same : k = a
    · subst k
      have absent : rest.dlookup a = none := List.dlookup_eq_none.mpr unique.1
      simp [absent]
    · rw [AList.lookup_insert_ne same,List.dlookup_cons_ne _ _ same]

theorem Map.lookup_assignAll (f : V → W) (dst : Map K W) (src : Map K V) (k : K) :
    (Map.assignAll f dst src).lookup k = ((src.lookup k).map f).or (dst.lookup k) :=
  lookup_foldl_insert f src.entries dst src.nodupKeys k

/-- Deep equality of maps, in which the order of insertion has no part. -/
def Map.deepEqual [DecidableEq V] (m m' : Map K V) : Bool :=
  (m.keys ++ m'.keys).all fun k => m.lookup k = m'.lookup k

theorem Map.deepEqual_iff [DecidableEq V] (m m' : Map K V) :
    m.deepEqual m' = true ↔ ∀ k, m.lookup k = m'.lookup k := by
  simp only [Map.deepEqual,List.all_eq_true,List.mem_append,decide_eq_true_eq]
  constructor
  · intro same k
    by_cases listed : k ∈ m.keys ∨ k ∈ m'.keys
    · exact same k listed
    · obtain ⟨absent,absent'⟩ := not_or.mp listed
      rw [AList.lookup_eq_none.mpr absent,AList.lookup_eq_none.mpr absent']
  · intro same k _
    exact same k

/-- A loop over a map that deletes the entries whose value satisfies `p`. -/
def Map.deleteWhere (p : V → Bool) (m : Map K V) : Map K V :=
  m.keys.foldl (fun rest k => if (m.lookup k).any p then rest.erase k else rest) m

private theorem lookup_foldl_erase (drop : K → Bool) (keys : List K) (m : Map K V) (k : K) :
    (keys.foldl (fun (rest : Map K V) a => if drop a then rest.erase a else rest) m).lookup k =
      if k ∈ keys ∧ drop k then none else m.lookup k := by
  induction keys generalizing m with
  | nil => simp
  | cons a rest ih =>
    rw [List.foldl_cons,ih]
    by_cases same : k = a
    · subst same
      by_cases dropped : drop k <;> simp [dropped]
    · by_cases dropped : drop a
      · simp [dropped,same,AList.lookup_erase_ne same]
      · simp [dropped,same]

theorem Map.lookup_deleteWhere (p : V → Bool) (m : Map K V) (k : K) :
    (m.deleteWhere p).lookup k = (m.lookup k).filter (fun v => !p v) := by
  rw [Map.deleteWhere,lookup_foldl_erase]
  cases found : m.lookup k with
  | none => simp
  | some v =>
    have listed := Map.mem_of_lookup found
    by_cases deleted : p v <;> simp [listed,deleted,Option.filter]

end Maps

/-- `strings.HasPrefix`. -/
def hasPrefix (s start : String) : Bool := start.toList.isPrefixOf s.toList

/-- `strings.HasSuffix`. -/
def hasSuffix (s ending : String) : Bool := ending.toList.isSuffixOf s.toList

/-- `strings.TrimPrefix`. -/
def trimPrefix (s start : String) : String :=
  if hasPrefix s start then String.ofList (s.toList.drop start.toList.length) else s

/-- `strings.TrimSuffix`. -/
def trimSuffix (s ending : String) : String :=
  if hasSuffix s ending then
    String.ofList (s.toList.take (s.toList.length - ending.toList.length))
  else s

theorem hasPrefix_iff (s start : String) : hasPrefix s start = true ↔ ∃ p, s = start ++ p := by
  rw [hasPrefix,List.isPrefixOf_iff_prefix]
  constructor
  · rintro ⟨rest,eq⟩
    refine ⟨String.ofList rest,String.toList_inj.mp ?_⟩
    simpa using eq.symm
  · rintro ⟨p,rfl⟩
    simp

theorem hasSuffix_iff (s ending : String) : hasSuffix s ending = true ↔ ∃ p, s = p ++ ending := by
  rw [hasSuffix,List.isSuffixOf_iff_suffix]
  constructor
  · rintro ⟨rest,eq⟩
    refine ⟨String.ofList rest,String.toList_inj.mp ?_⟩
    simpa using eq.symm
  · rintro ⟨p,rfl⟩
    simp

@[simp] theorem hasSuffix_append (p ending : String) : hasSuffix (p ++ ending) ending = true :=
  (hasSuffix_iff _ _).mpr ⟨p,rfl⟩

@[simp] theorem trimSuffix_append (p ending : String) : trimSuffix (p ++ ending) ending = p := by
  apply String.toList_inj.mp
  simp [trimSuffix]

/-- `unicode.IsSpace`: the characters with the White Space property. -/
def isSpace (c : Char) : Bool :=
  c.val ∈ ([0x09,0x0A,0x0B,0x0C,0x0D,0x20,0x85,0xA0,0x1680,0x2000,0x2001,0x2002,0x2003,0x2004,
    0x2005,0x2006,0x2007,0x2008,0x2009,0x200A,0x2028,0x2029,0x202F,0x205F,0x3000] : List UInt32)

/-- `strings.TrimSpace`. -/
def trimSpace (s : String) : String :=
  String.ofList ((s.toList.dropWhile isSpace).reverse.dropWhile isSpace).reverse

/-- `strings.Split` and `strings.SplitSeq` at a one-character separator. -/
def split (s : String) (separator : Char) : List String :=
  (s.toList.splitOn separator).map String.ofList

/-- `strings.Join`. -/
def join (parts : List String) (separator : String) : String := separator.intercalate parts

/-- `strings.ToLower`. The Unicode table for characters outside ASCII is a parameter. -/
def toLower (lowerRune : Char → Char) (s : String) : String :=
  String.ofList (s.toList.map fun c => if c.val < 128 then c.toLower else lowerRune c)

/-- Simple case folding as far as it reaches ASCII letters. -/
def foldRune (c : Char) : Char :=
  if c.val < 128 then c.toLower
  else if c.val = 0x17F then 's'
  else if c.val = 0x212A then 'k'
  else c

/-- `strings.EqualFold`, when one side is ASCII text. -/
def equalFold (s t : String) : Bool := s.toList.map foldRune = t.toList.map foldRune

/-- An error under the contexts that `fmt.Errorf("context: %w", err)` put around it, outermost
first. `errors.Is` and the Kubernetes reason tests look through them at the cause. -/
structure Err (Cause : Type) where
  context : List String
  cause : Cause
  deriving DecidableEq, Repr

def Err.of (cause : Cause) : Err Cause := ⟨[],cause⟩

def Err.wrap (context : String) (err : Err Cause) : Err Cause := ⟨context :: err.context,err.cause⟩

/-- The lower-case digits of `encoding/hex`. -/
def hexDigit (n : Nat) : Char := if n < 10 then Char.ofNat (48 + n) else Char.ofNat (87 + n)

/-- `hex.EncodeToString`, two digits a byte, the high half first. -/
def hexEncodeToString (data : Bytes) : String :=
  String.ofList (data.flatMap fun b => [hexDigit (b.toNat / 16),hexDigit (b.toNat % 16)])

def fromHexChar (c : Char) : Option Nat :=
  if '0' ≤ c ∧ c ≤ '9' then some (c.toNat - 48)
  else if 'a' ≤ c ∧ c ≤ 'f' then some (c.toNat - 87)
  else if 'A' ≤ c ∧ c ≤ 'F' then some (c.toNat - 55)
  else none

def hexDecode : List Char → Option Bytes
  | [] => some []
  | [_] => none
  | high :: low :: rest =>
    match fromHexChar high,fromHexChar low,hexDecode rest with
    | some h,some l,some data => some (UInt8.ofNat (16 * h + l) :: data)
    | _,_,_ => none

/-- `hex.DecodeString`: an odd length or a character that is no hex digit is an error. -/
def hexDecodeString (s : String) : Option Bytes := hexDecode s.toList

/-- `strconv.ParseBool`. -/
def parseBool (s : String) : Option Bool :=
  if s ∈ ["1","t","T","true","TRUE","True"] then some true
  else if s ∈ ["0","f","F","false","FALSE","False"] then some false
  else none

/-- The integer of any size that a text denotes: an optional sign and decimal digits. -/
def decimal (s : String) : Option Int :=
  let sign : Int := if s.toList.head? = some '-' then -1 else 1
  let digits := match s.toList with
    | '+' :: rest => rest
    | '-' :: rest => rest
    | rest => rest
  if digits = [] ∨ ¬ digits.all (fun c => '0' ≤ c ∧ c ≤ '9') then none
  else some (sign * (digits.foldl (fun n c => 10 * n + (c.toNat - 48)) 0 : Nat))

/-- `strconv.Atoi` for the 64-bit `int`. -/
def atoi (s : String) : Option Int := (decimal s).filter fun n => -2 ^ 63 ≤ n ∧ n < 2 ^ 63

@[simp] theorem hexEncodeToString_length (data : Bytes) :
    (hexEncodeToString data).toList.length = 2 * data.length := by
  induction data with
  | nil => rfl
  | cons b rest ih =>
    simp only [hexEncodeToString,String.toList_ofList] at ih ⊢
    simp [List.flatMap_cons,ih]
    omega

theorem fromHexChar_hexDigit (small : n < 16) : fromHexChar (hexDigit n) = some n := by
  have table : ∀ n : Fin 16, fromHexChar (hexDigit n) = some n.val := by decide
  exact table ⟨n,small⟩

theorem hexDecode_encode (data : Bytes) :
    hexDecodeString (hexEncodeToString data) = some data := by
  induction data with
  | nil => rfl
  | cons b rest ih =>
    have high : b.toNat / 16 < 16 := by have := b.toNat_lt; omega
    have low : b.toNat % 16 < 16 := Nat.mod_lt _ (by decide)
    have whole : 16 * (b.toNat / 16) + b.toNat % 16 = b.toNat := Nat.div_add_mod _ _
    simp only [hexDecodeString,hexEncodeToString,String.toList_ofList] at ih ⊢
    simp [List.flatMap_cons,hexDecode,fromHexChar_hexDigit high,fromHexChar_hexDigit low,ih,whole]

end Go
