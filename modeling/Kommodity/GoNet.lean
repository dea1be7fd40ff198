import Kommodity.GoValues

/-! Addresses of `net` and `net/netip`: the textual forms the parsers accept, the
canonical text they print, and the host/port split. Parse errors carry no data here,
since no caller looks at more than their presence. -/
namespace Go.Net

/-- An IPv4 address as its four octets. -/
structure Octets where
  a : UInt8
  b : UInt8
  c : UInt8
  d : UInt8
  deriving DecidableEq, Repr

/-- The eight 16-bit groups of an IPv6 address. -/
structure Groups where
  list : List UInt16
  eight : list.length = 8
  deriving DecidableEq

/-- `netip.Addr`: an IPv4 address, or an IPv6 address with an optional zone. -/
inductive Addr where
  | v4 (octets : Octets)
  | v6 (groups : Groups) (zone : String)
  deriving DecidableEq

def isDecimal (c : Char) : Bool := '0' ≤ c && c ≤ '9'
def isHex (c : Char) : Bool := (fromHexChar c).isSome

/-- One decimal field: no empty field, no leading zero, at most 255. -/
def parseOctet (field : List Char) : Option UInt8 :=
  if field = [] ∨ ¬ field.all isDecimal ∨ (field.length ≠ 1 ∧ field.head? = some '0') then none
  else
    let value := field.foldl (fun n c => 10 * n + (c.toNat - 48)) 0
    if value ≤ 255 then some (UInt8.ofNat value) else none

/-- `parseIPv4Fields`: exactly four fields between dots. -/
def parseIPv4Fields (s : List Char) : Option Octets :=
  match s.splitOn '.' with
  | [a,b,c,d] =>
    match parseOctet a,parseOctet b,parseOctet c,parseOctet d with
    | some a,some b,some c,some d => some ⟨a,b,c,d⟩
    | _,_,_,_ => none
  | _ => none

def hexValue (digits : List Char) : UInt16 :=
  UInt16.ofNat (digits.foldl (fun n c => 16 * n + (fromHexChar c).getD 0) 0)

def pair (high low : UInt8) : UInt16 := UInt16.ofNat (256 * high.toNat + low.toNat)

/-- The group loop of `parseIPv6`. `room` counts the groups that still fit; the result
holds the groups read, the position of the ellipsis and the unread text. -/
def parseGroups : Nat → List UInt16 → Option Nat → List Char →
    Option (List UInt16 × Option Nat × List Char)
  | 0,groups,ellipsis,s => some (groups,ellipsis,s)
  | room + 1,groups,ellipsis,s =>
    let digits := s.takeWhile isHex
    if digits = [] ∨ 4 < digits.length then none
    else
      match s.dropWhile isHex with
      | '.' :: _ =>
        if (ellipsis = none ∧ groups.length ≠ 6) ∨ 8 < groups.length + 2 then none
        else (parseIPv4Fields s).map fun o =>
          (groups ++ [pair o.a o.b,pair o.c o.d],ellipsis,[])
      | [] => some (groups ++ [hexValue digits],ellipsis,[])
      | ':' :: ':' :: rest =>
        if ellipsis.isSome then none
        else
          let read := groups ++ [hexValue digits]
          if rest = [] then some (read,some read.length,[])
          else parseGroups room read (some read.length) rest
      | ':' :: next :: rest =>
        parseGroups room (groups ++ [hexValue digits]) ellipsis (next :: rest)
      | _ => none

/-- The zeros an ellipsis stands for. It must stand for at least one group. -/
def expandEllipsis (groups : List UInt16) (ellipsis : Option Nat) : Option Groups :=
  let zeros := List.replicate (8 - groups.length) 0
  let full := match ellipsis with
    | none => groups
    | some position => groups.take position ++ zeros ++ groups.drop position
  if ellipsis.isSome ∧ zeros = [] then none
  else if eight : full.length = 8 then some ⟨full,eight⟩ else none

def parseIPv6Groups (s : List Char) : Option Groups :=
  match s with
  | [':',':'] => expandEllipsis [] (some 0)
  | ':' :: ':' :: rest => (parseGroups 8 [] (some 0) rest).bind fun (groups,ellipsis,unread) =>
      if unread = [] then expandEllipsis groups ellipsis else none
  | _ => (parseGroups 8 [] none s).bind fun (groups,ellipsis,unread) =>
      if unread = [] then expandEllipsis groups ellipsis else none

/-- `parseIPv6`: the zone is split off first and must not be empty when its mark is there. -/
def parseIPv6 (s : List Char) : Option Addr :=
  match s.dropWhile (· ≠ '%') with
  | [] => (parseIPv6Groups s).map (.v6 · "")
  | ['%'] => none
  | _ :: zone => (parseIPv6Groups (s.takeWhile (· ≠ '%'))).map (.v6 · (String.ofList zone))

/-- `netip.ParseAddr`: the first of `.`, `:` and `%` selects the grammar. -/
def parseAddr (s : String) : Option Addr :=
  match s.toList.find? (fun c => c = '.' ∨ c = ':' ∨ c = '%') with
  | some '.' => (parseIPv4Fields s.toList).map .v4
  | some ':' => parseIPv6 s.toList
  | _ => none

def decimal (n : UInt8) : List Char := Nat.toDigits 10 n.toNat

/-- The dotted form of an IPv4 address. -/
def Octets.toChars (o : Octets) : List Char :=
  decimal o.a ++ '.' :: decimal o.b ++ '.' :: decimal o.c ++ '.' :: decimal o.d

def Octets.string (o : Octets) : String := String.ofList o.toChars

/-- `appendHex`: lower-case digits without leading zeros. -/
def hexGroup (x : UInt16) : List Char :=
  let n := x.toNat
  (if 0x1000 ≤ n then [hexDigit (n / 0x1000)] else []) ++
  (if 0x100 ≤ n then [hexDigit (n / 0x100 % 16)] else []) ++
  (if 0x10 ≤ n then [hexDigit (n / 0x10 % 16)] else []) ++ [hexDigit (n % 16)]

def joinGroups (groups : List UInt16) : List Char := [':'].intercalate (groups.map hexGroup)

/-- The first longest run of at least two zero groups, as its bounds. -/
def zeroRun (groups : List UInt16) : Option (Nat × Nat) :=
  (List.range 8).foldl (fun best i =>
    let length := ((groups.drop i).takeWhile (· = 0)).length
    let known := match best with
      | none => 0
      | some (first,last) => last - first
    if 2 ≤ length ∧ known < length then some (i,i + length) else best) none

/-- The text of an IPv6 address without its zone. -/
def Groups.toChars (g : Groups) : List Char :=
  match zeroRun g.list with
  | none => joinGroups g.list
  | some (first,last) =>
    joinGroups (g.list.take first) ++ ':' :: ':' :: joinGroups (g.list.drop last)

def zoneChars (zone : String) : List Char := if zone = "" then [] else '%' :: zone.toList

/-- The IPv4 address that `::ffff:0:0/96` embeds. -/
def Groups.embedded (g : Groups) : Option Octets :=
  match g.list with
  | [0,0,0,0,0,0xffff,x,y] =>
    some ⟨UInt8.ofNat (x.toNat / 256),UInt8.ofNat (x.toNat % 256),
      UInt8.ofNat (y.toNat / 256),UInt8.ofNat (y.toNat % 256)⟩
  | _ => none

/-- `netip.Addr.String`. -/
def Addr.string : Addr → String
  | .v4 octets => octets.string
  | .v6 groups zone =>
    match groups.embedded with
    | some octets => String.ofList ("::ffff:".toList ++ octets.toChars ++ zoneChars zone)
    | none => String.ofList (groups.toChars ++ zoneChars zone)

/-- `net.IP`, always in its 16-byte form. -/
abbrev IP := Groups

/-- `netip.Addr.As16`. -/
def Addr.as16 : Addr → IP
  | .v4 o => ⟨[0,0,0,0,0,0xffff,pair o.a o.b,pair o.c o.d],rfl⟩
  | .v6 groups _ => groups

/-- `net.ParseIP`: as `netip.ParseAddr`, but a zone is refused. -/
def parseIP (s : String) : Option IP :=
  match parseAddr s with
  | some (.v6 groups "") => some groups
  | some (.v4 octets) => some (Addr.v4 octets).as16
  | _ => none

/-- `net.IP.To4`. -/
def to4 (ip : IP) : Option Octets := ip.embedded

/-- `net.IP.String`: an address with an IPv4 form prints in that form. -/
def ipString (ip : IP) : String :=
  match to4 ip with
  | some octets => octets.string
  | none => String.ofList ip.toChars

/-- `net.SplitHostPort`. -/
def splitHostPort (hostport : String) : Option (String × String) :=
  match hostport.toList with
  | '[' :: rest =>
    let host := rest.takeWhile (· ≠ ']')
    match rest.dropWhile (· ≠ ']') with
    | ']' :: ':' :: port =>
      if ':' ∈ port ∨ '[' ∈ host ∨ '[' ∈ port ∨ ']' ∈ port then none
      else some (String.ofList host,String.ofList port)
    | _ => none
  | text =>
    match text.dropWhile (· ≠ ':') with
    | _ :: port =>
      if ':' ∈ port ∨ '[' ∈ text ∨ ']' ∈ text then none
      else some (String.ofList (text.takeWhile (· ≠ ':')),String.ofList port)
    | [] => none

example : (parseIP "2001:db8::1").map ipString = some "2001:db8::1" := by decide
example : (parseIP "::ffff:10.0.0.1").map ipString = some "10.0.0.1" := by decide
example : (parseAddr "fe80::1%eth0").map Addr.string = some "fe80::1%eth0" := by decide
example : splitHostPort "[::1]:8080" = some ("::1","8080") := by decide

end Go.Net
