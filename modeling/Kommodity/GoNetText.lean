import Mathlib.Data.List.TakeWhile
import Kommodity.GoNet

/-! The text of addresses. What `net.IP.String` prints, `net.ParseIP` reads back as the same address;
what `net.SplitHostPort` takes apart into an address and a port is no address itself. -/
namespace Go.Net

theorem span_append {p : Char → Bool} {front rest : List Char} (inside : ∀ c ∈ front, p c = true)
    (outside : ∀ c, rest.head? = some c → p c = false) :
    (front ++ rest).takeWhile p = front ∧ (front ++ rest).dropWhile p = rest := by
  have stop : rest.takeWhile p = [] ∧ rest.dropWhile p = rest := by
    cases rest with
    | nil => exact ⟨rfl,rfl⟩
    | cons c rest => simp [outside c rfl]
  rw [List.takeWhile_append_of_pos inside,List.dropWhile_append_of_pos inside,stop.1,stop.2]
  exact ⟨List.append_nil _,rfl⟩

section Decimal

theorem parseOctet_decimal (n : UInt8) : parseOctet (decimal n) = some n := by
  have table : ∀ n : Fin 256, parseOctet (decimal (UInt8.ofNat n)) = some (UInt8.ofNat n) := by
    decide +kernel
  simpa using table ⟨n.toNat,n.toNat_lt⟩

theorem decimal_isDecimal (n : UInt8) : ∀ c ∈ decimal n, isDecimal c = true := by
  have table : ∀ n : Fin 256, (decimal (UInt8.ofNat n)).all isDecimal = true := by decide +kernel
  simpa using table ⟨n.toNat,n.toNat_lt⟩

theorem dot_not_mem_decimal (n : UInt8) : '.' ∉ decimal n := by
  intro dot
  have digit := decimal_isDecimal n _ dot
  revert digit
  decide

theorem Octets.toChars_eq (o : Octets) :
    o.toChars = ['.'].intercalate [decimal o.a,decimal o.b,decimal o.c,decimal o.d] := by
  simp [Octets.toChars,List.intercalate]

theorem parseIPv4Fields_toChars (o : Octets) : parseIPv4Fields o.toChars = some o := by
  have fields : o.toChars.splitOn '.' = [decimal o.a,decimal o.b,decimal o.c,decimal o.d] := by
    rw [o.toChars_eq]
    apply List.splitOn_intercalate
    · intro field listed
      simp only [List.mem_cons,List.not_mem_nil,or_false] at listed
      rcases listed with rfl | rfl | rfl | rfl <;> exact dot_not_mem_decimal _
    · simp
  simp [parseIPv4Fields,fields,parseOctet_decimal]

theorem Octets.mem_toChars (o : Octets) (c : Char) (listed : c ∈ o.toChars) :
    isDecimal c = true ∨ c = '.' := by
  simp only [Octets.toChars,List.mem_append,List.mem_cons] at listed
  rcases listed with ((digit | dot | digit) | dot | digit) | dot | digit
  all_goals first
    | exact .inr dot
    | exact .inl (decimal_isDecimal _ _ digit)

theorem mem_field {s : List Char} {c mark : Char} (listed : c ∈ s) (other : c ≠ mark) : ∃ f ∈ s.splitOn mark, c ∈ f := by
  induction s with
  | nil => cases listed
  | cons a s ih =>
    rw [List.splitOn_cons_eq_if_modifyHead]
    cases fields : s.splitOn mark with
    | nil => exact absurd fields (List.splitOn_ne_nil mark s)
    | cons first rest =>
      rw [fields] at ih
      by_cases same : c = a
      · rw [if_neg (by simpa [← same] using other)]
        exact ⟨a :: first,by simp,by simp [same]⟩
      · obtain ⟨f,member,inside⟩ := ih ((List.mem_cons.mp listed).resolve_left same)
        split
        · exact ⟨f,List.mem_cons_of_mem _ member,inside⟩
        · rcases List.mem_cons.mp member with rfl | later
          · exact ⟨a :: f,by simp,List.mem_cons_of_mem _ inside⟩
          · exact ⟨f,List.mem_cons_of_mem _ later,inside⟩

theorem parseOctet_none (listed : c ∈ field) (other : isDecimal c = false) : parseOctet field = none := by
  have mixed : ¬ field.all isDecimal = true := by
    intro all
    rw [List.all_eq_true.mp all c listed] at other
    cases other
  simp [parseOctet,mixed]

theorem parseIPv4Fields_none (listed : c ∈ s) (other : isDecimal c = false) (noDot : c ≠ '.') :
    parseIPv4Fields s = none := by
  obtain ⟨f,member,inside⟩ := mem_field listed noDot
  have bad := parseOctet_none inside other
  unfold parseIPv4Fields
  split
  · next a b d e fields =>
    rw [fields] at member
    simp only [List.mem_cons,List.not_mem_nil,or_false] at member
    rcases member with rfl | rfl | rfl | rfl <;> simp [bad]
  · rfl

end Decimal

section Hexadecimal

theorem hexDigit_isHex (small : n < 16) : isHex (hexDigit n) = true := by
  simp [isHex,fromHexChar_hexDigit small]

theorem hexGroup_isHex (x : UInt16) : ∀ c ∈ hexGroup x, isHex c = true := by
  have bound := x.toNat_lt
  have optional {p : Prop} [Decidable p] {n : Nat} {c : Char} (small : n < 16)
      (listed : c ∈ if p then [hexDigit n] else []) : isHex c = true := by
    split at listed
    · rw [List.mem_singleton.mp listed]
      exact hexDigit_isHex small
    · cases listed
  intro c listed
  simp only [hexGroup,List.mem_append,List.mem_singleton] at listed
  rcases listed with ((high | high) | high) | low
  · exact optional (by omega) high
  · exact optional (by omega) high
  · exact optional (by omega) high
  · rw [low]
    exact hexDigit_isHex (by omega)

theorem hexGroup_ne_nil (x : UInt16) : hexGroup x ≠ [] := by simp [hexGroup]

theorem hexGroup_length (x : UInt16) : (hexGroup x).length ≤ 4 := by
  simp only [hexGroup,List.length_append,List.length_singleton]
  split <;> split <;> split <;> simp

theorem hexValue_hexGroup (x : UInt16) : hexValue (hexGroup x) = x := by
  have bound := x.toNat_lt
  have digit (n : Nat) (small : n < 16) : (fromHexChar (hexDigit n)).getD 0 = n := by
    rw [fromHexChar_hexDigit small]; rfl
  have value : (hexGroup x).foldl (fun n c => 16 * n + (fromHexChar c).getD 0) 0 = x.toNat := by
    simp only [hexGroup]
    split <;> split <;> split <;>
      simp only [List.nil_append,List.cons_append,List.foldl_cons,List.foldl_nil] <;>
      (repeat rw [digit _ (by omega)]) <;> omega
  rw [hexValue,value]
  simp

end Hexadecimal

section Groups

theorem isHex_colon : isHex ':' = false := by decide

theorem hexGroup_span (x : UInt16) (rest : List Char) (outside : ∀ c, rest.head? = some c → isHex c = false) :
    (hexGroup x ++ rest).takeWhile isHex = hexGroup x ∧ (hexGroup x ++ rest).dropWhile isHex = rest :=
  span_append (hexGroup_isHex x) outside

theorem parseGroups_last (room : Nat) (groups : List UInt16) (ellipsis : Option Nat) (x : UInt16) :
    parseGroups (room + 1) groups ellipsis (hexGroup x) = some (groups ++ [x],ellipsis,[]) := by
  have span := hexGroup_span x [] (by simp)
  rw [List.append_nil] at span
  simp [parseGroups,span,hexGroup_ne_nil,hexGroup_length,hexValue_hexGroup]

theorem parseGroups_next (room : Nat) (groups : List UInt16) (ellipsis : Option Nat) (x : UInt16)
    (more : c ≠ ':') : parseGroups (room + 1) groups ellipsis (hexGroup x ++ ':' :: c :: rest) =
      parseGroups room (groups ++ [x]) ellipsis (c :: rest) := by
  have span := hexGroup_span x (':' :: c :: rest) (by simp [isHex_colon])
  have short := hexGroup_length x
  simp only [parseGroups,span,hexGroup_ne_nil,hexValue_hexGroup,false_or,Nat.not_lt.mpr short,if_false]

theorem parseGroups_ellipsis (room : Nat) (groups : List UInt16) (x : UInt16) (rest : List Char) :
    parseGroups (room + 1) groups none (hexGroup x ++ ':' :: ':' :: rest) =
      if rest = [] then some (groups ++ [x],some (groups.length + 1),[])
      else parseGroups room (groups ++ [x]) (some (groups.length + 1)) rest := by
  have span := hexGroup_span x (':' :: ':' :: rest) (by simp [isHex_colon])
  have short := hexGroup_length x
  simp [parseGroups,span,hexGroup_ne_nil,hexValue_hexGroup,Nat.not_lt.mpr short]

theorem joinGroups_cons_cons (x y : UInt16) (rest : List UInt16) :
    joinGroups (x :: y :: rest) = hexGroup x ++ ':' :: joinGroups (y :: rest) := by
  simp [joinGroups,List.intercalate]

theorem joinGroups_head (x : UInt16) (rest : List UInt16) :
    ∃ c text, joinGroups (x :: rest) = c :: text ∧ isHex c = true := by
  have starts : ∃ text, joinGroups (x :: rest) = hexGroup x ++ text := by
    cases rest with
    | nil => exact ⟨[],by simp [joinGroups,List.intercalate]⟩
    | cons y rest => exact ⟨_,joinGroups_cons_cons x y rest⟩
  obtain ⟨text,eq⟩ := starts
  cases group : hexGroup x with
  | nil => exact absurd group (hexGroup_ne_nil x)
  | cons c digits =>
    refine ⟨c,digits ++ text,?_,hexGroup_isHex x c (by simp [group])⟩
    rw [eq,group,List.cons_append]

theorem ne_colon_of_isHex (hex : isHex c = true) : c ≠ ':' := by
  rintro rfl
  rw [isHex_colon] at hex
  cases hex

theorem parseGroups_joinGroups (l : List UInt16) (filled : l ≠ []) (fits : l.length ≤ room)
    (groups : List UInt16) (ellipsis : Option Nat) :
    parseGroups room groups ellipsis (joinGroups l) = some (groups ++ l,ellipsis,[]) := by
  induction l generalizing room groups with
  | nil => exact absurd rfl filled
  | cons x rest ih =>
    obtain ⟨room,rfl⟩ : ∃ smaller, room = smaller + 1 := ⟨room - 1,by simp at fits; omega⟩
    cases rest with
    | nil => simpa [joinGroups,List.intercalate] using parseGroups_last room groups ellipsis x
    | cons y rest =>
      obtain ⟨c,text,starts,hex⟩ := joinGroups_head y rest
      rw [joinGroups_cons_cons,starts,parseGroups_next room groups ellipsis x (ne_colon_of_isHex hex),
        ← starts,ih (by simp) (by simpa using fits)]
      simp

theorem parseGroups_joinGroups_ellipsis (l : List UInt16) (filled : l ≠ []) (fits : l.length ≤ room)
    (groups : List UInt16) (tail : List Char) :
    parseGroups room groups none (joinGroups l ++ ':' :: ':' :: tail) =
      if tail = [] then some (groups ++ l,some (groups.length + l.length),[])
      else parseGroups (room - l.length) (groups ++ l) (some (groups.length + l.length)) tail := by
  induction l generalizing room groups with
  | nil => exact absurd rfl filled
  | cons x rest ih =>
    obtain ⟨room,rfl⟩ : ∃ smaller, room = smaller + 1 := ⟨room - 1,by simp at fits; omega⟩
    cases rest with
    | nil => simpa [joinGroups,List.intercalate] using parseGroups_ellipsis room groups x tail
    | cons y rest =>
      obtain ⟨c,text,starts,hex⟩ := joinGroups_head y rest
      have next := @parseGroups_next c (text ++ ':' :: ':' :: tail) room groups none x (ne_colon_of_isHex hex)
      have rest' := @ih room (by simp) (by simpa using fits) (groups ++ [x])
      rw [starts,List.cons_append] at rest'
      rw [joinGroups_cons_cons,starts,List.append_assoc,List.cons_append,List.cons_append,next,rest']
      simp [Nat.add_assoc,Nat.add_comm 1]

/-- The run that is printed as an ellipsis consists of at least two zero groups. -/
theorem zeroRun_spec (found : zeroRun groups = some (first,last)) :
    first + 2 ≤ last ∧ groups = groups.take first ++ List.replicate (last - first) 0 ++ groups.drop last := by
  have chosen : ∀ i j, zeroRun groups = some (i,j) →
      i + 2 ≤ j ∧ j = i + ((groups.drop i).takeWhile (· = 0)).length := by
    refine List.foldlRecOn (motive := fun best => ∀ i j, best = some (i,j) →
      i + 2 ≤ j ∧ j = i + ((groups.drop i).takeWhile (· = 0)).length) (List.range 8) _ (by simp) ?_
    intro best valid k _ i j taken
    rcases ite_eq_iff.mp taken with ⟨⟨long,_⟩,here⟩ | ⟨_,before⟩
    · cases here
      exact ⟨by omega,rfl⟩
    · exact valid i j before
  obtain ⟨long,bound⟩ := chosen first last found
  refine ⟨long,?_⟩
  have split := List.takeWhile_append_dropWhile (p := fun x : UInt16 => x = 0) (l := groups.drop first)
  have zeros : (groups.drop first).takeWhile (· = 0) = List.replicate (last - first) 0 := by
    rw [List.eq_replicate_iff]
    refine ⟨by omega,fun x listed => ?_⟩
    simpa using List.mem_takeWhile_imp listed
  have tail : groups.drop last = (groups.drop first).dropWhile (· = 0) := by
    rw [bound,← List.drop_drop]
    nth_rewrite 2 [← split]
    exact List.drop_left
  calc groups = groups.take first ++ groups.drop first := (List.take_append_drop ..).symm
    _ = groups.take first ++
        ((groups.drop first).takeWhile (· = 0) ++ (groups.drop first).dropWhile (· = 0)) := by rw [split]
    _ = _ := by rw [zeros,tail,List.append_assoc]

theorem expandEllipsis_zeros (front back : List UInt16) (nonempty : 0 < run)
    (eight : (front ++ List.replicate run 0 ++ back).length = 8) :
    expandEllipsis (front ++ back) (some front.length) = some ⟨front ++ List.replicate run 0 ++ back,eight⟩ := by
  have room : 8 - (front ++ back).length = run := by
    simp only [List.length_append,List.length_replicate] at eight ⊢
    omega
  have zeros : List.replicate run (0 : UInt16) ≠ [] := by
    rw [Ne,List.replicate_eq_nil_iff]
    omega
  simp only [expandEllipsis,room,List.take_left,List.drop_left,Option.isSome_some,zeros,and_false,if_false]
  exact dif_pos eight

theorem parseIPv6Groups_of_head (hex : isHex c = true) :
    parseIPv6Groups (c :: text) = (parseGroups 8 [] none (c :: text)).bind fun (groups,ellipsis,unread) =>
      if unread = [] then expandEllipsis groups ellipsis else none := by
  have other := ne_colon_of_isHex hex
  unfold parseIPv6Groups
  split
  · next eq => cases eq; exact absurd rfl other
  · next eq => cases eq; exact absurd rfl other
  · rfl

theorem parseIPv6Groups_of_colons (filled : text ≠ []) :
    parseIPv6Groups (':' :: ':' :: text) = (parseGroups 8 [] (some 0) text).bind
      fun (groups,ellipsis,unread) => if unread = [] then expandEllipsis groups ellipsis else none := by
  cases text with
  | nil => exact absurd rfl filled
  | cons c text => rfl

theorem joinGroups_ne_nil (x : UInt16) (rest : List UInt16) : joinGroups (x :: rest) ≠ [] := by
  obtain ⟨c,text,starts,_⟩ := joinGroups_head x rest
  simp [starts]

/-- A text with an ellipsis is read back, whether or not there are groups before and after it. -/
theorem parseIPv6Groups_run (front back : List UInt16) (nonempty : 0 < run)
    (eight : (front ++ List.replicate run 0 ++ back).length = 8) :
    parseIPv6Groups (joinGroups front ++ ':' :: ':' :: joinGroups back) =
      some ⟨front ++ List.replicate run 0 ++ back,eight⟩ := by
  have expand := expandEllipsis_zeros front back nonempty eight
  have total : front.length + run + back.length = 8 := by simpa [Nat.add_assoc] using eight
  cases front with
  | nil =>
    cases back with
    | nil => exact expand
    | cons y back =>
      rw [show joinGroups [] = [] from rfl,List.nil_append,
        parseIPv6Groups_of_colons (joinGroups_ne_nil y back),
        parseGroups_joinGroups (y :: back) (by simp) (by omega)]
      exact expand
  | cons x front =>
    obtain ⟨c,text,starts,hex⟩ := joinGroups_head x front
    rw [starts,List.cons_append,parseIPv6Groups_of_head hex,← List.cons_append,← starts,
      parseGroups_joinGroups_ellipsis (x :: front) (by simp) (by omega)]
    cases back with
    | nil =>
      rw [List.append_nil] at expand
      simpa [show joinGroups [] = [] from rfl] using expand
    | cons y back =>
      rw [if_neg (joinGroups_ne_nil y back),parseGroups_joinGroups (y :: back) (by simp) (by omega)]
      simpa using expand

/-- The groups that are printed are read back. -/
theorem parseIPv6Groups_toChars (g : Groups) : parseIPv6Groups g.toChars = some g := by
  obtain ⟨groups,eight⟩ := g
  unfold Groups.toChars
  dsimp only
  split
  · cases groups with
    | nil => cases eight
    | cons x rest =>
      obtain ⟨c,text,starts,hex⟩ := joinGroups_head x rest
      rw [starts,parseIPv6Groups_of_head hex,← starts,
        parseGroups_joinGroups (x :: rest) (by simp) (Nat.le_of_eq eight)]
      simp [expandEllipsis,eight]
  · next first last found =>
    obtain ⟨long,whole⟩ := zeroRun_spec found
    rw [parseIPv6Groups_run (groups.take first) (groups.drop last) (by omega : 0 < last - first)
      (by rw [← whole]; exact eight)]
    simp [← whole]

end Groups

section Addresses

theorem Groups.mem_toChars (g : Groups) (c : Char) (listed : c ∈ g.toChars) : isHex c = true ∨ c = ':' := by
  have joined (l : List UInt16) (inside : c ∈ joinGroups l) : isHex c = true ∨ c = ':' := by
    induction l with
    | nil => cases inside
    | cons x rest ih =>
      cases rest with
      | nil => exact .inl (hexGroup_isHex x c (by simpa [joinGroups,List.intercalate] using inside))
      | cons y rest =>
        rw [joinGroups_cons_cons,List.mem_append,List.mem_cons] at inside
        rcases inside with digit | colon | later
        · exact .inl (hexGroup_isHex x c digit)
        · exact .inr colon
        · exact ih later
  unfold Groups.toChars at listed
  split at listed
  · exact joined _ listed
  · rw [List.mem_append,List.mem_cons,List.mem_cons] at listed
    rcases listed with before | colon | colon | after
    · exact joined _ before
    · exact .inr colon
    · exact .inr colon
    · exact joined _ after

theorem Groups.colon_mem_toChars (g : Groups) : ':' ∈ g.toChars := by
  unfold Groups.toChars
  split
  · obtain ⟨groups,eight⟩ := g
    match groups,eight with
    | x :: y :: rest,_ => simp [joinGroups_cons_cons]
  · simp

/-- The characters that `netip.ParseAddr` looks for. -/
def isMark (c : Char) : Bool := c = '.' ∨ c = ':' ∨ c = '%'

theorem parseAddr_eq (s : String) : parseAddr s =
    match s.toList.find? isMark with
    | some '.' => (parseIPv4Fields s.toList).map .v4
    | some ':' => parseIPv6 s.toList
    | _ => none := rfl

theorem isMark_iff : isMark c = true ↔ c = '.' ∨ c = ':' ∨ c = '%' := by simp [isMark]

theorem not_isMark_of_isHex (hex : isHex c = true) : isMark c = false := by
  cases mark : isMark c with
  | false => rfl
  | true => rcases isMark_iff.mp mark with rfl | rfl | rfl <;> cases hex

theorem not_isMark_of_isDecimal (digit : isDecimal c = true) : isMark c = false := by
  cases mark : isMark c with
  | false => rfl
  | true => rcases isMark_iff.mp mark with rfl | rfl | rfl <;> cases digit

theorem find_mark {s : List Char} (listed : mark ∈ s) (kind : isMark mark = true)
    (others : ∀ c ∈ s, isMark c = false ∨ c = mark) : s.find? isMark = some mark := by
  cases found : s.find? isMark with
  | none => exact absurd kind (List.find?_eq_none.mp found mark listed)
  | some c =>
    have marked := List.find?_some found
    rcases others c (List.mem_of_find?_eq_some found) with plain | same
    · rw [plain] at marked; cases marked
    · rw [same]

theorem parseAddr_octets (o : Octets) : parseAddr o.string = some (.v4 o) := by
  have mark : o.toChars.find? isMark = some '.' := by
    refine find_mark (by simp [Octets.toChars]) rfl fun c listed => ?_
    exact (o.mem_toChars c listed).imp_left not_isMark_of_isDecimal
  rw [parseAddr_eq,Octets.string,String.toList_ofList,mark]
  simp only [parseIPv4Fields_toChars,Option.map_some]

theorem parseAddr_groups (g : Groups) : parseAddr (String.ofList g.toChars) = some (.v6 g "") := by
  have mark : g.toChars.find? isMark = some ':' := by
    refine find_mark g.colon_mem_toChars rfl fun c listed => ?_
    exact (g.mem_toChars c listed).imp_left not_isMark_of_isHex
  have plain : g.toChars.dropWhile (· ≠ '%') = [] := by
    rw [List.dropWhile_eq_nil_iff]
    intro c listed
    rcases g.mem_toChars c listed with hex | rfl
    · rw [decide_eq_true_eq]
      rintro rfl
      cases hex
    · rfl
  rw [parseAddr_eq,String.toList_ofList,mark]
  simp only [parseIPv6,plain,parseIPv6Groups_toChars,Option.map_some]

theorem pair_halves (x : UInt16) : pair (UInt8.ofNat (x.toNat / 256)) (UInt8.ofNat (x.toNat % 256)) = x := by
  have bound := x.toNat_lt
  apply UInt16.toNat_inj.mp
  simp only [pair,UInt8.toNat_ofNat',UInt16.toNat_ofNat']
  omega

theorem as16_of_embedded {ip : IP} (four : ip.embedded = some o) : (Addr.v4 o).as16 = ip := by
  obtain ⟨groups,eight⟩ := ip
  unfold Groups.embedded at four
  split at four
  · next x y same =>
    cases four
    dsimp only at same
    subst same
    simp [Addr.as16,pair_halves]
  · cases four

/-- `net.ParseIP` gives back the address that `net.IP.String` has printed. -/
theorem parseIP_ipString (ip : IP) : parseIP (ipString ip) = some ip := by
  unfold ipString to4
  split
  · next o four =>
    rw [parseIP,parseAddr_octets]
    exact congrArg some (as16_of_embedded four)
  · rw [parseIP,parseAddr_groups]
    rfl

end Addresses

section Ports

theorem parseAddr_bracketed (s : String) (starts : s.toList = '[' :: rest) : parseAddr s = none := by
  have groups (text : List Char) : parseIPv6Groups ('[' :: text) = none := by
    simp [parseIPv6Groups,parseGroups,show isHex '[' = false from rfl]
  rw [parseAddr_eq,starts]
  split
  · rw [parseIPv4Fields_none (c := '[') (by simp) rfl (by decide)]
    rfl
  · unfold parseIPv6
    split
    · rw [groups]; rfl
    · rfl
    · rw [List.takeWhile_cons_of_pos (by decide),groups]; rfl
  · rfl

theorem parseAddr_colon (valid : parseAddr (String.ofList host) = some address) (plain : ':' ∉ host)
    (whole : s.toList = host ++ ':' :: port) : parseAddr s = none := by
  rw [parseAddr_eq,String.toList_ofList] at valid
  split at valid
  · next dotted =>
    have spoiled : parseIPv4Fields (host ++ ':' :: port) = none :=
      parseIPv4Fields_none (c := ':') (by simp) rfl (by decide)
    rw [parseAddr_eq,whole,List.find?_append,dotted,Option.some_or]
    simp only [spoiled,Option.map_none]
  · next colon => exact absurd (List.mem_of_find?_eq_some colon) plain
  · cases valid

/-- What splits into an address and a port is no address. -/
theorem parseAddr_of_splitHostPort (parts : splitHostPort s = some (host,port))
    (valid : parseAddr host = some address) : parseAddr s = none := by
  unfold splitHostPort at parts
  split at parts
  · next rest starts => exact parseAddr_bracketed s starts
  · split at parts
    · next mark rest split =>
      split at parts
      · cases parts
      · cases parts
        have plain : ':' ∉ s.toList.takeWhile (· ≠ ':') := by
          intro listed
          simpa using List.mem_takeWhile_imp listed
        have whole := List.takeWhile_append_dropWhile (p := fun c => decide (c ≠ ':')) (l := s.toList)
        have colon : mark = ':' := by
          have stops := List.head_dropWhile_not (l := s.toList) (fun c => decide (c ≠ ':')) (by rw [split]; simp)
          simp only [split,List.head_cons] at stops
          simpa using stops
        rw [split,colon] at whole
        exact parseAddr_colon valid plain whole.symm
    · cases parts

theorem splitHostPort_bracketed {host port : String} (outer : '[' ∉ host.toList ∧ ']' ∉ host.toList)
    (plain : ':' ∉ port.toList ∧ '[' ∉ port.toList ∧ ']' ∉ port.toList) :
    splitHostPort ("[" ++ host ++ "]:" ++ port) = some (host,port) := by
  have chars : ("[" ++ host ++ "]:" ++ port).toList = '[' :: (host.toList ++ ']' :: ':' :: port.toList) := by
    simp
  have inside : ∀ c ∈ host.toList, decide (c ≠ ']') = true := by
    intro c listed
    rw [decide_eq_true_eq]
    rintro rfl
    exact outer.2 listed
  have mark : ∀ c, (']' :: ':' :: port.toList).head? = some c → decide (c ≠ ']') = false := by simp
  have span := span_append inside mark
  have allowed : ¬(':' ∈ port.toList ∨ '[' ∈ host.toList ∨ '[' ∈ port.toList ∨ ']' ∈ port.toList) := by
    simp [plain,outer]
  unfold splitHostPort
  simp only [chars,span,allowed,if_false,String.ofList_toList]

end Ports

end Go.Net
