import Mathlib.Data.Set.Basic
import Kommodity.GoNet

/-! Address blocks of `net`: `IP.To4`, `IP.Mask`, `CIDRMask`, `ParseCIDR` and `IPNet.Contains`.
An address is here the byte slice Go has, of four or sixteen bytes; a nil slice is the empty
one. The overlap of two parsed blocks is decided by their network addresses alone. -/
namespace Go.Net

theorem meet_iff {mask : Nat → α → β}
    (coarser : ∀ m n x y, m ≤ n → mask n x = mask n y → mask m x = mask m y) (m n : Nat) (a b : α) :
    (∃ x, mask m a = mask m x ∧ mask n b = mask n x) ↔ mask m a = mask m b ∨ mask n b = mask n a := by
  constructor
  · rintro ⟨x,left,right⟩
    rcases Nat.le_total m n with below | above
    · exact Or.inl (left.trans (coarser m n _ _ below right).symm)
    · exact Or.inr (right.trans (coarser n m _ _ above left).symm)
  · rintro (left | right)
    · exact ⟨b,left,rfl⟩
    · exact ⟨a,rfl,right⟩

def v4InV6Prefix : Bytes := [0,0,0,0,0,0,0,0,0,0,0xff,0xff]

/-- `IP.To4`. -/
def ipTo4 (ip : Bytes) : Option Bytes :=
  if ip.length = 4 then some ip
  else if ip.length = 16 ∧ ip.take 12 = v4InV6Prefix then some (ip.drop 12)
  else none

def masked (mask ip : Bytes) : Bytes := List.zipWith (· &&& ·) ip mask

/-- `IP.Mask`. -/
def ipMask (ip mask : Bytes) : Bytes :=
  let mask := if mask.length = 16 ∧ ip.length = 4 ∧ mask.take 12 = List.replicate 12 0xff then
    mask.drop 12 else mask
  let ip := if mask.length = 4 ∧ ip.length = 16 ∧ ip.take 12 = v4InV6Prefix then ip.drop 12 else ip
  if ip.length ≠ mask.length then [] else masked mask ip

/-- `CIDRMask`, with the length of the mask in bytes. -/
def cidrMask : Nat → Nat → Bytes
  | _,0 => []
  | ones,length + 1 =>
    if 8 ≤ ones then 0xff :: cidrMask (ones - 8) length
    else ~~~ ((0xff : UInt8) >>> UInt8.ofNat ones) :: cidrMask 0 length

structure IPNet where
  ip : Bytes
  mask : Bytes
  deriving DecidableEq, Repr

/-- `networkNumberAndMask`. -/
def IPNet.networkNumberAndMask (n : IPNet) : Bytes × Bytes :=
  match ipTo4 n.ip with
  | some ip =>
    if n.mask.length = 4 then (ip,n.mask)
    else if n.mask.length = 16 then (ip,n.mask.drop 12)
    else ([],[])
  | none =>
    if n.ip.length = 16 ∧ n.mask.length = 16 then (n.ip,n.mask) else ([],[])

/-- `IPNet.Contains`. -/
def IPNet.contains (n : IPNet) (ip : Bytes) : Bool :=
  let (network,mask) := n.networkNumberAndMask
  let ip := (ipTo4 ip).getD ip
  ip.length = network.length && masked mask network = masked mask ip

def Groups.bytes (g : Groups) : Bytes :=
  g.list.flatMap fun x => [UInt8.ofNat (x.toNat / 256),UInt8.ofNat (x.toNat % 256)]

/-- `netip.Addr.BitLen`, in bytes. -/
def Addr.byteLength : Addr → Nat
  | .v4 _ => 4
  | .v6 _ _ => 16

/-- The sixteen bytes of `netip.Addr.As16`. -/
def Addr.bytes16 : Addr → Bytes
  | .v4 o => v4InV6Prefix ++ [o.a,o.b,o.c,o.d]
  | .v6 groups _ => groups.bytes

def Addr.zone : Addr → String
  | .v4 _ => ""
  | .v6 _ zone => zone

/-- `dtoi` over a whole text: decimal digits and a value below its bound `big`. -/
def dtoi (s : List Char) : Option Nat :=
  if s = [] ∨ ¬ s.all isDecimal then none
  else
    let value := s.foldl (fun n c => 10 * n + (c.toNat - 48)) 0
    if value < 0xFFFFFF then some value else none

/-- `IP.String` of a byte slice. -/
def ipBytesString (ip : Bytes) : String :=
  match ip,ipTo4 ip with
  | [],_ => "<nil>"
  | _,some [a,b,c,d] => (Octets.mk a b c d).string
  | [a,b,c,d,e,f,g,h,i,j,k,l,m,n,o,p],_ =>
    String.ofList (Groups.mk [pair a b,pair c d,pair e f,pair g h,pair i j,pair k l,pair m n,pair o p]
      rfl).toChars
  | _,_ => "?" ++ hexEncodeToString ip

/-- `simpleMaskLength`: the number of leading ones if only zeros follow them. -/
def simpleMaskLength (mask : Bytes) : Option Nat :=
  (List.range (8 * mask.length + 1)).find? fun ones => mask = cidrMask ones mask.length

/-- `IPNet.String`. -/
def IPNet.string (n : IPNet) : String :=
  let (network,mask) := n.networkNumberAndMask
  if network = [] ∨ mask = [] then "<nil>"
  else
    match simpleMaskLength mask with
    | some ones => ipBytesString network ++ "/" ++ toString ones
    | none => ipBytesString network ++ "/" ++ hexEncodeToString mask

/-- `ParseCIDR`: the address as written, and the block it lies in. -/
def parseCIDR (s : String) : Option (Bytes × IPNet) :=
  match s.toList.dropWhile (· ≠ '/') with
  | [] => none
  | _ :: length =>
    match parseAddr (String.ofList (s.toList.takeWhile (· ≠ '/'))) with
    | none => none
    | some address =>
      if address.zone ≠ "" then none
      else
        match dtoi length with
        | none => none
        | some ones =>
          if 8 * address.byteLength < ones then none
          else
            let mask := cidrMask ones address.byteLength
            some (address.bytes16,⟨ipMask address.bytes16 mask,mask⟩)

example : (parseCIDR "10.1.2.3/20").map (·.2.string) = some "10.1.0.0/20" := by decide
example : (parseCIDR "::ffff:10.1.2.3/112").map (·.2.string) = some "10.1.0.0/16" := by decide

@[simp] theorem cidrMask_length (ones length : Nat) : (cidrMask ones length).length = length := by
  induction length generalizing ones with
  | zero => rfl
  | succ length ih =>
    rw [cidrMask]
    split <;> simp [ih]

@[simp] theorem masked_length (mask ip : Bytes) :
    (masked mask ip).length = min ip.length mask.length := by
  simp [masked]

private theorem maskByte_coarser (m n : Nat) (order : m ≤ n) (small : n < 8) (x : UInt8) :
    x &&& ~~~ ((0xff : UInt8) >>> UInt8.ofNat n) &&& ~~~ ((0xff : UInt8) >>> UInt8.ofNat m) =
      x &&& ~~~ ((0xff : UInt8) >>> UInt8.ofNat m) := by
  have table : ∀ n m : Fin 8, m ≤ n →
      ~~~ ((0xff : UInt8) >>> UInt8.ofNat n.val) &&& ~~~ ((0xff : UInt8) >>> UInt8.ofNat m.val) =
        ~~~ ((0xff : UInt8) >>> UInt8.ofNat m.val) := by decide
  rw [UInt8.and_assoc]
  exact congrArg (x &&& ·) (table ⟨n,small⟩ ⟨m,by omega⟩ order)

private theorem and_full (x : UInt8) : x &&& 255 = x := by
  have : (255 : UInt8) = -1 := by decide
  rw [this]
  exact UInt8.and_neg_one

theorem masked_masked (order : m ≤ n) (length : Nat) (x : Bytes) :
    masked (cidrMask m length) (masked (cidrMask n length) x) = masked (cidrMask m length) x := by
  induction length generalizing m n x with
  | zero => simp [masked,cidrMask]
  | succ length ih =>
    cases x with
    | nil => simp [masked]
    | cons b rest =>
      simp only [masked] at ih
      by_cases high : 8 ≤ n
      · by_cases low : 8 ≤ m
        · simp [masked,cidrMask,high,low,and_full,ih (m := m - 8) (n := n - 8) (by omega)]
        · simp [masked,cidrMask,high,low,and_full,ih (m := 0) (n := n - 8) (by omega)]
      · have low : ¬ 8 ≤ m := by omega
        have byte := maskByte_coarser m n order (by omega) b
        simp [masked,cidrMask,high,low,ih (m := 0) (n := 0) (by omega),byte]

theorem masked_coarser (length : Nat) (m n : Nat) (x y : Bytes) (order : m ≤ n)
    (same : masked (cidrMask n length) x = masked (cidrMask n length) y) :
    masked (cidrMask m length) x = masked (cidrMask m length) y := by
  rw [← masked_masked order,same,masked_masked order]

theorem cidrMask_drop (ones k length : Nat) :
    (cidrMask ones (k + length)).drop k = cidrMask (ones - 8 * k) length := by
  induction k generalizing ones with
  | zero => simp
  | succ k ih =>
    rw [Nat.add_right_comm,cidrMask]
    split
    · rw [List.drop_succ_cons,ih]
      congr 1; omega
    · rw [List.drop_succ_cons,ih]
      congr 1; omega

/-- An address in the form `IPNet.Contains` compares: four bytes where it has them. -/
def normalized (ip : Bytes) : Bytes := (ipTo4 ip).getD ip

/-- The blocks `ParseCIDR` builds: after normalisation the mask has the length of the network
address and is a run of ones. -/
structure IPNet.Aligned (n : IPNet) (size ones : Nat) : Prop where
  known : n.networkNumberAndMask = (normalized n.ip,cidrMask ones size)
  length : (normalized n.ip).length = size
  family : size = 4 ∨ size = 16

theorem Groups.bytes_length (g : Groups) : g.bytes.length = 16 := by
  have : ∀ l : List UInt16,
      (l.flatMap fun x => [UInt8.ofNat (x.toNat / 256),UInt8.ofNat (x.toNat % 256)]).length =
        2 * l.length := by
    intro l
    induction l with
    | nil => rfl
    | cons x rest ih => simp only [List.flatMap_cons,List.length_append,ih]; simp; omega
  rw [Groups.bytes,this,g.eight]

private theorem aligned_v4 (o : Octets) (ones : Nat) :
    (IPNet.mk (ipMask (Addr.v4 o).bytes16 (cidrMask ones 4)) (cidrMask ones 4)).Aligned 4 ones := by
  have net : ipMask (Addr.v4 o).bytes16 (cidrMask ones 4) = masked (cidrMask ones 4) [o.a,o.b,o.c,o.d] := by
    simp [ipMask,Addr.bytes16,v4InV6Prefix]
  rw [net]
  constructor
  · simp [IPNet.networkNumberAndMask,ipTo4,normalized]
  · simp [normalized,ipTo4]
  · decide

private theorem aligned_v6 {ip : Bytes} (full : ip.length = 16) (ones : Nat) :
    ∃ size ones', (IPNet.mk ip (cidrMask ones 16)).Aligned size ones' := by
  by_cases embedded : ip.take 12 = v4InV6Prefix
  · refine ⟨4,ones - 96,?_,?_,by decide⟩
    · have := cidrMask_drop ones 12 4
      simp [IPNet.networkNumberAndMask,ipTo4,normalized,full,embedded,this]
    · simp [normalized,ipTo4,full,embedded]
  · refine ⟨16,ones,?_,?_,by decide⟩ <;>
      simp [IPNet.networkNumberAndMask,ipTo4,normalized,full,embedded]

theorem parseCIDR_aligned (parsed : parseCIDR s = some (address,n)) :
    ∃ size ones, n.Aligned size ones := by
  unfold parseCIDR at parsed
  split at parsed
  · simp at parsed
  split at parsed
  · simp at parsed
  rename_i written _
  split at parsed
  · simp at parsed
  split at parsed
  · simp at parsed
  rename_i ones _
  split at parsed
  · simp at parsed
  simp only [Option.some.injEq,Prod.mk.injEq] at parsed
  rw [← parsed.2]
  cases written with
  | v4 o => exact ⟨4,ones,aligned_v4 o ones⟩
  | v6 groups zone =>
    apply aligned_v6
    simp [ipMask,Addr.bytes16,Addr.byteLength,groups.bytes_length]

theorem IPNet.Aligned.contains_iff {n : IPNet} (aligned : n.Aligned size ones) (ip : Bytes) :
    n.contains ip = true ↔ (normalized ip).length = size ∧
      masked (cidrMask ones size) (normalized n.ip) = masked (cidrMask ones size) (normalized ip) := by
  have length := aligned.length
  simp only [IPNet.contains,aligned.known,Bool.and_eq_true,decide_eq_true_eq,length]
  rfl

theorem IPNet.Aligned.contains_self {n : IPNet} (aligned : n.Aligned size ones) :
    n.contains n.ip = true :=
  (aligned.contains_iff n.ip).mpr ⟨aligned.length,rfl⟩

/-- Two aligned blocks share an address exactly if one holds the network address of the other. -/
theorem contains_meet_iff {a b : IPNet} (first : a.Aligned size ones) (second : b.Aligned size' ones') :
    (∃ ip, a.contains ip = true ∧ b.contains ip = true) ↔
      a.contains b.ip = true ∨ b.contains a.ip = true := by
  constructor
  · rintro ⟨ip,left,right⟩
    rw [first.contains_iff] at left
    rw [second.contains_iff] at right
    obtain rfl : size = size' := left.1.symm.trans right.1
    rw [first.contains_iff,second.contains_iff]
    have meet := (meet_iff (masked_coarser size) ones ones' _ _).mp ⟨_,left.2,right.2⟩
    exact meet.imp (⟨second.length,·⟩) (⟨first.length,·⟩)
  · rintro (left | right)
    · exact ⟨b.ip,left,second.contains_self⟩
    · exact ⟨a.ip,first.contains_self,right⟩

/-- The addresses of a block, in four-byte and in sixteen-byte form. -/
def IPNet.addresses (n : IPNet) : Set Bytes :=
  {ip | (ip.length = 4 ∨ ip.length = 16) ∧ n.contains ip = true}

theorem length_of_normalized (family : (normalized ip).length = 4 ∨ (normalized ip).length = 16) :
    ip.length = 4 ∨ ip.length = 16 := by
  by_cases four : ip.length = 4
  · exact Or.inl four
  by_cases sixteen : ip.length = 16
  · exact Or.inr sixteen
  · simp [normalized,ipTo4,four,sixteen] at family

theorem mem_addresses_iff {n : IPNet} (aligned : n.Aligned size ones) (ip : Bytes) :
    ip ∈ n.addresses ↔ n.contains ip = true := by
  refine ⟨And.right,fun held => ⟨length_of_normalized ?_,held⟩⟩
  rw [((aligned.contains_iff ip).mp held).1]
  exact aligned.family

/-- No address is in both blocks. -/
def IPNet.Apart (a b : IPNet) : Prop := a.addresses ∩ b.addresses = ∅

theorem IPNet.Apart.symm {a b : IPNet} (apart : a.Apart b) : b.Apart a := by
  rw [IPNet.Apart,Set.inter_comm]; exact apart

/-- The two containment tests are a complete test for overlap. -/
theorem apart_iff {a b : IPNet} (first : a.Aligned size ones) (second : b.Aligned size' ones') :
    a.Apart b ↔ (a.contains b.ip || b.contains a.ip) = false := by
  rw [IPNet.Apart,Set.eq_empty_iff_forall_notMem,← Bool.not_eq_true,Bool.or_eq_true,
    ← contains_meet_iff first second]
  simp only [Set.mem_inter_iff,mem_addresses_iff first,mem_addresses_iff second,not_exists]

end Go.Net
