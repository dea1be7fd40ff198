import Kommodity.GoCidr
import Kommodity.Transition

/-! The registry that routes intercepted connections to workload clusters by address block.
Every call holds the registry's lock for its whole body, so a call is one step; the order in
which a loop visits the map is an argument of the call. -/
namespace Kommodity.TalosProxy

open Go Go.Net Transition

/-- A `*net.IPNet` that `net.ParseCIDR` returned. -/
structure Block where
  net : IPNet
  parsed : ∃ text address, parseCIDR text = some (address,net)

structure CIDREntry where
  clusterName : String
  namespaceName : String
  cidr : Block

/-- `CIDRRegistry`, keyed by cluster name. -/
abbrev Registry := Map String CIDREntry

def newCIDRRegistry : Registry := ∅

inductive RegisterError where
  | clusterNameConflict (clusterName existingNamespace : String)
  | cidrOverlap (clusterName cidr existingCluster existingCidr : String)
  deriving DecidableEq

/-- The text of the error; `quote` is the verb `%q` of `fmt`. -/
def RegisterError.error (quote : String → String) : RegisterError → String
  | .clusterNameConflict clusterName existing =>
    "cluster name already registered in a different namespace: cluster " ++ quote clusterName ++
      " already registered in namespace " ++ quote existing
  | .cidrOverlap clusterName cidr existingCluster existingCidr =>
    "CIDR overlaps an existing cluster CIDR: cluster " ++ quote clusterName ++ " (" ++ cidr ++
      ") overlaps existing cluster " ++ quote existingCluster ++ " (" ++ existingCidr ++ ")"

def cidrsOverlap (a b : IPNet) : Bool := a.contains b.ip || b.contains a.ip

/-- The loop of `Register` over the entries that exist. -/
def checkEntries (r : Registry) (clusterName namespaceName : String) (cidr : Block) :
    List String → Option RegisterError
  | [] => none
  | existingCluster :: rest =>
    match r.lookup existingCluster with
    | none => checkEntries r clusterName namespaceName cidr rest
    | some entry =>
      if existingCluster = clusterName then
        if entry.namespaceName = namespaceName then checkEntries r clusterName namespaceName cidr rest
        else some (.clusterNameConflict clusterName entry.namespaceName)
      else if cidrsOverlap entry.cidr.net cidr.net then
        some (.cidrOverlap clusterName cidr.net.string existingCluster entry.cidr.net.string)
      else checkEntries r clusterName namespaceName cidr rest

/-- `CIDRRegistry.Register`: the error returned and the registry left behind. -/
def register (order : List String) (r : Registry) (clusterName namespaceName : String) (cidr : Block) :
    Option RegisterError × Registry :=
  match checkEntries r clusterName namespaceName cidr order with
  | some err => (some err,r)
  | none => (none,r.insert clusterName ⟨clusterName,namespaceName,cidr⟩)

/-- `CIDRRegistry.Deregister`. -/
def deregister (r : Registry) (clusterName : String) : Registry := r.erase clusterName

/-- `CIDRRegistry.Lookup`. The error text is that of `ErrCIDRNotFound` and the address. -/
def lookup (order : List String) (r : Registry) (ipAddr : Bytes) : Except String CIDREntry :=
  match order.findSome? fun cluster => (r.lookup cluster).filter (·.cidr.net.contains ipAddr) with
  | some entry => .ok entry
  | none => .error ("no registered CIDR matches the given IP: " ++ ipBytesString ipAddr)

/-- One call on the registry. The order belongs to the call, since Go picks a fresh one for
every loop. -/
inductive Call where
  | register (order : List String) (clusterName namespaceName : String) (cidr : Block)
  | deregister (clusterName : String)

def registrySystem : System Registry Call where
  allowed r
    | .register order _ _ _ => order.Perm r.keys
    | .deregister _ => True
  apply r
    | .register order clusterName namespaceName cidr => (register order r clusterName namespaceName cidr).2
    | .deregister clusterName => deregister r clusterName

theorem Block.aligned (cidr : Block) : ∃ size ones, cidr.net.Aligned size ones := by
  obtain ⟨text,address,parsed⟩ := cidr.parsed
  exact parseCIDR_aligned parsed

theorem cidrsOverlap_eq_false_iff (a b : Block) :
    cidrsOverlap a.net b.net = false ↔ a.net.Apart b.net := by
  obtain ⟨_,_,first⟩ := a.aligned
  obtain ⟨_,_,second⟩ := b.aligned
  exact (apart_iff first second).symm

/-- What an existing entry must satisfy for `Register` to pass it. -/
def Compatible (clusterName namespaceName : String) (cidr : Block) (existingCluster : String)
    (entry : CIDREntry) : Prop :=
  if existingCluster = clusterName then entry.namespaceName = namespaceName
  else entry.cidr.net.Apart cidr.net

theorem checkEntries_eq_none_iff (order : List String) :
    checkEntries r clusterName namespaceName cidr order = none ↔
      ∀ existing ∈ order, ∀ entry, r.lookup existing = some entry →
        Compatible clusterName namespaceName cidr existing entry := by
  induction order with
  | nil => simp [checkEntries]
  | cons existing rest ih =>
    rw [List.forall_mem_cons,← ih]
    cases found : r.lookup existing with
    | none => simp [checkEntries,found]
    | some entry =>
      by_cases same : existing = clusterName
      · by_cases held : entry.namespaceName = namespaceName
        · simp [checkEntries,found,Compatible,same,held]
        · simp [checkEntries,found,Compatible,same,held]
      · cases overlap : cidrsOverlap entry.cidr.net cidr.net with
        | false =>
          have apart := (cidrsOverlap_eq_false_iff _ _).mp overlap
          simp [checkEntries,found,Compatible,same,overlap,apart]
        | true =>
          have apart := mt (cidrsOverlap_eq_false_iff entry.cidr cidr).mpr (by simp [overlap])
          simp [checkEntries,found,Compatible,same,overlap,apart]

/-- In any order that visits every entry, `Register` returns no error exactly for a name that
no other namespace holds and a block apart from every other cluster's. -/
theorem register_eq_none_iff (visits : order.Perm r.keys) :
    (register order r clusterName namespaceName cidr).1 = none ↔
      (∀ existing entry, existing ≠ clusterName → r.lookup existing = some entry →
        entry.cidr.net.Apart cidr.net) ∧
      (∀ entry, r.lookup clusterName = some entry → entry.namespaceName = namespaceName) := by
  have checked : (register order r clusterName namespaceName cidr).1 = none ↔
      ∀ existing entry, r.lookup existing = some entry →
        Compatible clusterName namespaceName cidr existing entry := by
    have : (register order r clusterName namespaceName cidr).1 = none ↔
        checkEntries r clusterName namespaceName cidr order = none := by
      unfold register; split <;> simp_all
    rw [this,checkEntries_eq_none_iff]
    constructor
    · intro all existing entry found
      exact all existing (visits.mem_iff.mpr (Map.mem_of_lookup found)) entry found
    · intro all existing _ entry found
      exact all existing entry found
  rw [checked]
  constructor
  · intro all
    refine ⟨fun existing entry other found => ?_,fun entry found => ?_⟩
    · simpa [Compatible,other] using all existing entry found
    · simpa [Compatible] using all clusterName entry found
  · rintro ⟨apart,held⟩ existing entry found
    by_cases same : existing = clusterName
    · subst same; simpa [Compatible] using held entry found
    · simpa [Compatible,same] using apart existing entry same found

theorem register_error (failed : (register order r clusterName namespaceName cidr).1 ≠ none) :
    (register order r clusterName namespaceName cidr).2 = r := by
  unfold register at failed ⊢
  split <;> simp_all

theorem register_ok (done : (register order r clusterName namespaceName cidr).1 = none) :
    (register order r clusterName namespaceName cidr).2 =
      r.insert clusterName ⟨clusterName,namespaceName,cidr⟩ := by
  unfold register at done ⊢
  split <;> simp_all

/-- The blocks of distinct clusters share no address. -/
def PairwiseDisjoint (r : Registry) : Prop :=
  ∀ first second a b, first ≠ second → r.lookup first = some a → r.lookup second = some b →
    a.cidr.net.Apart b.cidr.net

theorem PairwiseDisjoint.insert (inv : PairwiseDisjoint r)
    (apart : ∀ existing entry, existing ≠ clusterName → r.lookup existing = some entry →
      entry.cidr.net.Apart e.cidr.net) :
    PairwiseDisjoint (r.insert clusterName e) := by
  intro first second a b different foundA foundB
  rw [Map.lookup_insert_eq] at foundA foundB
  by_cases isFirst : first = clusterName
  · have isSecond : second ≠ clusterName := fun same => different (isFirst.trans same.symm)
    simp only [isFirst,if_true,Option.some.injEq] at foundA
    simp only [isSecond,if_false] at foundB
    rw [← foundA]
    exact (apart second b isSecond foundB).symm
  · simp only [isFirst,if_false] at foundA
    by_cases isSecond : second = clusterName
    · simp only [isSecond,if_true,Option.some.injEq] at foundB
      rw [← foundB]
      exact apart first a isFirst foundA
    · simp only [isSecond,if_false] at foundB
      exact inv first second a b different foundA foundB

theorem PairwiseDisjoint.step (inv : PairwiseDisjoint r) (allowed : registrySystem.allowed r call) :
    PairwiseDisjoint (registrySystem.apply r call) := by
  cases call with
  | register order clusterName namespaceName cidr =>
    show PairwiseDisjoint (register order r clusterName namespaceName cidr).2
    by_cases done : (register order r clusterName namespaceName cidr).1 = none
    · rw [register_ok done]
      exact inv.insert ((register_eq_none_iff allowed).mp done).1
    · rw [register_error done]
      exact inv
  | deregister clusterName =>
    intro first second a b different foundA foundB
    have kept : ∀ {name entry}, (deregister r clusterName).lookup name = some entry →
        r.lookup name = some entry := by
      intro name entry found
      by_cases same : name = clusterName
      · subst same; simp [deregister] at found
      · rwa [deregister,AList.lookup_erase_ne same] at found
    exact inv first second a b different (kept foundA) (kept foundB)

theorem pairwiseDisjoint_of_run (run : registrySystem.Run newCIDRRegistry calls r) :
    PairwiseDisjoint r := by
  refine run.invariant PairwiseDisjoint (fun r call inv allowed => inv.step allowed) ?_
  intro first second a b _ found
  simp [newCIDRRegistry] at found

theorem PairwiseDisjoint.unique (inv : PairwiseDisjoint r) (foundA : r.lookup first = some a)
    (foundB : r.lookup second = some b) (inA : a.cidr.net.contains ip = true)
    (inB : b.cidr.net.contains ip = true) : first = second := by
  by_contra different
  obtain ⟨_,_,alignedA⟩ := a.cidr.aligned
  obtain ⟨_,_,alignedB⟩ := b.cidr.aligned
  have both : ip ∈ a.cidr.net.addresses ∩ b.cidr.net.addresses :=
    ⟨(mem_addresses_iff alignedA ip).mpr inA,(mem_addresses_iff alignedB ip).mpr inB⟩
  rw [inv first second a b different foundA foundB] at both
  exact both

private theorem findSome_perm {f : α → Option β} {l l' : List α} (perm : l.Perm l')
    (unique : ∀ x y a b, f x = some a → f y = some b → a = b) : l.findSome? f = l'.findSome? f := by
  cases found : l.findSome? f with
  | none =>
    symm
    rw [List.findSome?_eq_none_iff] at found ⊢
    exact fun x member => found x (perm.mem_iff.mpr member)
  | some a =>
    obtain ⟨x,member,value⟩ := List.exists_of_findSome?_eq_some found
    cases found' : l'.findSome? f with
    | none =>
      have := List.findSome?_eq_none_iff.mp found' x (perm.mem_iff.mp member)
      rw [this] at value; cases value
    | some b =>
      obtain ⟨y,_,value'⟩ := List.exists_of_findSome?_eq_some found'
      rw [unique x y a b value value']

theorem PairwiseDisjoint.lookup_order (inv : PairwiseDisjoint r) (visits : order.Perm r.keys)
    (visits' : order'.Perm r.keys) (ip : Bytes) : lookup order r ip = lookup order' r ip := by
  unfold lookup
  rw [findSome_perm (visits.trans visits'.symm)]
  intro first second a b foundA foundB
  rw [Option.filter_eq_some_iff] at foundA foundB
  have same := inv.unique foundA.1 foundB.1 foundA.2 foundB.2
  subst same
  exact Option.some.inj (foundA.1.symm.trans foundB.1)

/-- The registry after any run of calls: blocks of distinct clusters are disjoint, so at most
one entry matches an address and `Lookup` does not depend on the order of its loop; a failed
`Register` changes nothing, and it fails exactly for an overlap or a name held elsewhere. -/
theorem registry_run_disjoint (run : registrySystem.Run newCIDRRegistry calls r) :
    PairwiseDisjoint r ∧
    (∀ ip first second a b, r.lookup first = some a → r.lookup second = some b →
      a.cidr.net.contains ip = true → b.cidr.net.contains ip = true → first = second) ∧
    (∀ ip order order', order.Perm r.keys → order'.Perm r.keys →
      lookup order r ip = lookup order' r ip) ∧
    (∀ order clusterName namespaceName cidr, order.Perm r.keys →
      ((register order r clusterName namespaceName cidr).1 ≠ none →
        (register order r clusterName namespaceName cidr).2 = r) ∧
      ((register order r clusterName namespaceName cidr).1 = none ↔
        (∀ existing entry, existing ≠ clusterName → r.lookup existing = some entry →
          entry.cidr.net.Apart cidr.net) ∧
        (∀ entry, r.lookup clusterName = some entry → entry.namespaceName = namespaceName))) := by
  have inv := pairwiseDisjoint_of_run run
  refine ⟨inv,?_,?_,?_⟩
  · intro ip first second a b foundA foundB inA inB
    exact inv.unique foundA foundB inA inB
  · intro ip order order' visits visits'
    exact inv.lookup_order visits visits' ip
  · intro order clusterName namespaceName cidr visits
    exact ⟨register_error,register_eq_none_iff visits⟩

def lowBlock : Block :=
  ⟨⟨[10,0,0,0],[255,255,255,0]⟩,"10.0.0.7/24",v4InV6Prefix ++ [10,0,0,7],by decide⟩

def highBlock : Block :=
  ⟨⟨[10,0,1,0],[255,255,255,0]⟩,"10.0.1.0/24",v4InV6Prefix ++ [10,0,1,0],by decide⟩

def twoClusters : Registry :=
  registrySystem.apply (registrySystem.apply newCIDRRegistry (.register [] "west" "default" lowBlock))
    (.register ["west"] "east" "default" highBlock)

theorem registry_run_twoClusters :
    twoClusters.keys = ["east","west"] ∧ PairwiseDisjoint twoClusters ∧
    lookup ["east","west"] twoClusters [10,0,0,9] = lookup ["west","east"] twoClusters [10,0,0,9] := by
  have names : twoClusters.keys = ["east","west"] := by decide
  have run : registrySystem.Run newCIDRRegistry [.register [] "west" "default" lowBlock,
      .register ["west"] "east" "default" highBlock] twoClusters :=
    .cons (List.Perm.refl []) (.cons (List.Perm.refl ["west"]) .nil)
  have all := registry_run_disjoint run
  refine ⟨names,all.1,all.2.2.1 _ _ _ ?_ ?_⟩
  · rw [names]
  · rw [names]; exact List.Perm.swap _ _ _

end Kommodity.TalosProxy
