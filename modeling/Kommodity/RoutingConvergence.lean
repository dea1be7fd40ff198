import Kommodity.FairTurns
import Kommodity.ProxyReconciler

/-! Whether the registry comes to hold the annotations. `Register` checks a block against entries
of other clusters that may be out of date and wait for a move of their own, so clusters whose new
blocks lie in each other's old ones wait for ever, and no others do. -/
namespace Kommodity.TalosProxy

open Go Go.Net FairTurns Relation

/-- Live clusters with distinct names, each with an annotation that parses, to disjoint blocks. -/
structure Fleet (ι : Type) where
  cluster : ι → Cluster
  block : ι → Block
  unique : ∀ i j, (cluster i).name = (cluster j).name → i = j
  live : ∀ i, (cluster i).deleting = false
  annotated : ∀ i, ∃ text, (cluster i).annotations.lookup nodeCIDRAnnotation = some text ∧
    parseBlock text = some (block i)
  disjoint : ∀ i j, i ≠ j → (block i).net.Apart (block j).net

variable {ι : Type}

namespace Fleet

def request (fleet : Fleet ι) (i : ι) : Request := (fleet.cluster i).request

/-- The entry that the annotation asks for. -/
def entry (fleet : Fleet ι) (i : ι) : CIDREntry :=
  ⟨(fleet.cluster i).name,(fleet.cluster i).namespaceName,fleet.block i⟩

/-- The registries that calls of `Reconcile` for these clusters lead to, whatever `Get` answered. -/
inductive Earlier (fleet : Fleet ι) : Registry → Prop where
  | new : Earlier fleet newCIDRRegistry
  | reconciled (earlier : Earlier fleet r) (visits : order.Perm r.keys) (i : ι)
      (answer : GetAnswer (fleet.request i)) (pool : TunnelPool) :
      Earlier fleet (reconcile order (fleet.request i) answer ⟨r,pool⟩).2.registry

/-- Calls of `Reconcile` without end, each on the current object, in a fair order. The pool is
whatever requests have made of it. -/
structure Execution (fleet : Fleet ι) (r : Registry) where
  turn : Nat → ι
  order : Nat → List String
  pool : Nat → TunnelPool
  registry : Nat → Registry
  start : registry 0 = r
  visits : ∀ k, (order k).Perm (registry k).keys
  next : ∀ k, registry (k + 1) = (reconcile (order k) (fleet.request (turn k))
    (.found (fleet.cluster (turn k)) rfl) ⟨registry k,pool k⟩).2.registry
  fair : Fair turn

/-- The registry holds the annotation of each cluster, and nothing else. -/
def Matches (fleet : Fleet ι) (r : Registry) : Prop :=
  (∀ i, r.lookup (fleet.cluster i).name = some (fleet.entry i)) ∧
  ∀ name entry, r.lookup name = some entry → ∃ i, name = (fleet.cluster i).name

/-- The annotation of `i` overlaps what is registered for `j`. -/
def Waits (fleet : Fleet ι) (r : Registry) (i j : ι) : Prop :=
  i ≠ j ∧ ∃ entry, r.lookup (fleet.cluster j).name = some entry ∧
    cidrsOverlap entry.cidr.net (fleet.block i).net = true

instance [DecidableEq ι] (fleet : Fleet ι) (r : Registry) (i j : ι) : Decidable (fleet.Waits r i j) :=
  decidable_of_iff (i ≠ j ∧ (r.lookup (fleet.cluster j).name).any
    (fun entry => cidrsOverlap entry.cidr.net (fleet.block i).net) = true) (by
    simp [Waits,Option.any_eq_true])

/-- Only clusters of the fleet are registered, each from its own namespace. -/
structure Known (fleet : Fleet ι) (r : Registry) : Prop where
  names : ∀ name entry, r.lookup name = some entry → ∃ i, name = (fleet.cluster i).name
  homes : ∀ i entry, r.lookup (fleet.cluster i).name = some entry →
    entry.namespaceName = (fleet.cluster i).namespaceName

variable {fleet : Fleet ι} {r : Registry}

theorem effect_cluster (fleet : Fleet ι) (i : ι) : (fleet.cluster i).effect = .register (fleet.block i) := by
  obtain ⟨text,found,parsed⟩ := fleet.annotated i
  simp [Cluster.effect,fleet.live i,found,parsed]

theorem Known.insert (known : fleet.Known r) (i : ι) (cidr : Block) :
    fleet.Known (r.insert (fleet.cluster i).name ⟨(fleet.cluster i).name,(fleet.cluster i).namespaceName,cidr⟩) := by
  refine ⟨?_,?_⟩
  · intro name entry found
    rw [Map.lookup_insert_eq] at found
    split at found
    · next same => exact ⟨i,same⟩
    · exact known.names name entry found
  · intro j entry found
    rw [Map.lookup_insert_eq] at found
    split at found
    · next same =>
      cases found
      rw [fleet.unique j i same]
    · exact known.homes j entry found

theorem Known.reconciled (known : fleet.Known r) (order : List String) (i : ι)
    (answer : GetAnswer (fleet.request i)) (pool : TunnelPool) :
    fleet.Known (reconcile order (fleet.request i) answer ⟨r,pool⟩).2.registry := by
  rw [reconcile_stores]
  cases answer.effect with
  | nothing => exact known
  | register cidr =>
    show fleet.Known (register order r (fleet.cluster i).name (fleet.cluster i).namespaceName cidr).2
    unfold register
    split
    · exact known
    · exact known.insert i cidr
  | deregister =>
    show fleet.Known (r.erase (fleet.cluster i).name)
    refine ⟨fun name entry found => ?_,fun j entry found => ?_⟩
    · rw [Map.lookup_erase_eq] at found
      split at found
      · cases found
      · exact known.names name entry found
    · rw [Map.lookup_erase_eq] at found
      split at found
      · cases found
      · exact known.homes j entry found

theorem Earlier.known (earlier : fleet.Earlier r) : fleet.Known r := by
  induction earlier with
  | new => exact ⟨fun name entry found => by simp [newCIDRRegistry] at found,
      fun i entry found => by simp [newCIDRRegistry] at found⟩
  | reconciled _ _ i answer pool ih => exact ih.reconciled _ i answer pool

/-- `Register` accepts the annotation of a cluster exactly when it waits for nobody. -/
theorem Known.accepts_iff (known : fleet.Known r) (visits : order.Perm r.keys) (i : ι) :
    (register order r (fleet.cluster i).name (fleet.cluster i).namespaceName (fleet.block i)).1 = none ↔
      ∀ j, ¬ fleet.Waits r i j := by
  rw [register_eq_none_iff visits]
  constructor
  · rintro ⟨apart,_⟩ j ⟨other,entry,found,overlap⟩
    have different : (fleet.cluster j).name ≠ (fleet.cluster i).name :=
      fun same => other (fleet.unique i j same.symm)
    rw [(cidrsOverlap_eq_false_iff _ _).mpr (apart _ entry different found)] at overlap
    cases overlap
  · intro free
    refine ⟨?_,fun entry found => known.homes i entry found⟩
    intro existing entry different found
    obtain ⟨j,rfl⟩ := known.names existing entry found
    rw [← cidrsOverlap_eq_false_iff,← Bool.not_eq_true]
    exact fun overlap => free j ⟨fun same => different (by rw [same]),entry,found,overlap⟩

theorem Known.turn (known : fleet.Known r) (visits : order.Perm r.keys) (i : ι) (pool : TunnelPool) :
    ((∀ j, ¬ fleet.Waits r i j) ∧ (reconcile order (fleet.request i) (.found (fleet.cluster i) rfl)
      ⟨r,pool⟩).2.registry = r.insert (fleet.cluster i).name (fleet.entry i)) ∨
    ((∃ j, fleet.Waits r i j) ∧ (reconcile order (fleet.request i) (.found (fleet.cluster i) rfl)
      ⟨r,pool⟩).2.registry = r) := by
  simp only [reconcile_stores,GetAnswer.effect,fleet.effect_cluster i]
  have accepts := known.accepts_iff visits i
  by_cases free : ∀ j, ¬ fleet.Waits r i j
  · exact .inl ⟨free,register_ok (accepts.mpr free)⟩
  · refine .inr ⟨by simpa using free,register_error (mt accepts.mp free)⟩

theorem not_waits_of_entry (found : r.lookup (fleet.cluster j).name = some (fleet.entry j)) :
    ¬ fleet.Waits r i j := by
  rintro ⟨other,entry,found',overlap⟩
  cases found.symm.trans found'
  have apart : (fleet.entry j).cidr.net.Apart (fleet.block i).net := fleet.disjoint j i (Ne.symm other)
  rw [(cidrsOverlap_eq_false_iff _ _).mpr apart] at overlap
  cases overlap

namespace Execution

variable (e : fleet.Execution r)

/-- The entry of the cluster is what its annotation asks for. -/
def Settled (i : ι) (k : Nat) : Prop :=
  (e.registry k).lookup (fleet.cluster i).name = some (fleet.entry i)

/-- The execution reaches a registry that holds the annotations. -/
def Converges : Prop := ∃ k, fleet.Matches (e.registry k)

variable {e}

theorem known (start : fleet.Known r) (k : Nat) : fleet.Known (e.registry k) := by
  induction k with
  | zero => rw [e.start]; exact start
  | succ k ih => rw [e.next]; exact ih.reconciled _ _ _ _

/-- A turn changes no entry but the one of its cluster, and that one to what is asked for. -/
theorem lookup_next (start : fleet.Known r) (j : ι) (k : Nat) :
    (e.registry (k + 1)).lookup (fleet.cluster j).name = (e.registry k).lookup (fleet.cluster j).name ∨
    e.Settled j (k + 1) := by
  unfold Settled
  rw [e.next]
  obtain ⟨_,eq⟩ | ⟨_,eq⟩ := (known start k).turn (e.visits k) (e.turn k) (e.pool k)
  · rw [eq,Map.lookup_insert_eq]
    split
    · next same => rw [fleet.unique j (e.turn k) same]; exact .inr rfl
    · exact .inl rfl
  · exact .inl (by rw [eq])

theorem settled_next (start : fleet.Known r) (j : ι) (k : Nat) (settled : e.Settled j k) : e.Settled j (k + 1) := by
  rcases lookup_next (e := e) start j k with same | now
  · exact same.trans settled
  · exact now

theorem waits_start (start : fleet.Known r) (k : Nat) (waits : fleet.Waits (e.registry k) i j) :
    fleet.Waits r i j := by
  induction k with
  | zero => rwa [e.start] at waits
  | succ k ih =>
    rcases lookup_next (e := e) start j k with same | settled
    · obtain ⟨other,entry,found,overlap⟩ := waits
      exact ih ⟨other,entry,same ▸ found,overlap⟩
    · exact absurd waits (not_waits_of_entry settled)

theorem converges_of_acyclic [Finite ι] (start : fleet.Known r) (acyclic : Acyclic (fleet.Waits r)) :
    e.Converges := by
  obtain ⟨k,settled⟩ : ∃ k, ∀ i, e.Settled i k := by
    refine eventually_settled acyclic e.fair (settled_next start) ?_
    intro k ready
    unfold Settled
    rw [e.next]
    obtain ⟨_,eq⟩ | ⟨⟨j,waits⟩,_⟩ := (known start k).turn (e.visits k) (e.turn k) (e.pool k)
    · rw [eq,Map.lookup_insert_eq,if_pos rfl]
    · exact absurd waits (not_waits_of_entry (ready j (waits_start start k waits)))
  exact ⟨k,settled,(known start k).names⟩

/-- The entries of clusters on a cycle never change. -/
theorem stuck (start : fleet.Known r) (k : Nat) (cycle : TransGen (fleet.Waits r) i i) :
    (e.registry k).lookup (fleet.cluster i).name = r.lookup (fleet.cluster i).name := by
  induction k generalizing i with
  | zero => rw [e.start]
  | succ k ih =>
    rw [e.next]
    obtain ⟨free,eq⟩ | ⟨_,eq⟩ := (known start k).turn (e.visits k) (e.turn k) (e.pool k)
    · rw [eq,Map.lookup_insert_eq,if_neg ?_]
      · exact ih cycle
      · intro same
        obtain ⟨j,⟨other,entry,found,overlap⟩,cycle'⟩ := waits_on_cycle cycle
        cases fleet.unique i (e.turn k) same
        exact free j ⟨other,entry,(ih cycle').trans found,overlap⟩
    · rw [eq]; exact ih cycle

theorem acyclic_of_converges (start : fleet.Known r) (converges : e.Converges) : Acyclic (fleet.Waits r) := by
  intro i cycle
  obtain ⟨k,current,_⟩ := converges
  obtain ⟨j,waits,cycle'⟩ := waits_on_cycle cycle
  exact not_waits_of_entry ((stuck start k cycle').symm.trans (current j)) waits

end Execution

end Fleet

/-- From what earlier calls left behind, calls in any fair order lead to the annotations exactly
when no clusters wait for each other in a circle. -/
theorem routing_converges_iff [Finite ι] {fleet : Fleet ι} {r : Registry} (earlier : fleet.Earlier r)
    (e : fleet.Execution r) : e.Converges ↔ Acyclic (fleet.Waits r) :=
  ⟨Fleet.Execution.acyclic_of_converges earlier.known,Fleet.Execution.converges_of_acyclic earlier.known⟩

namespace Fleet

def registryAt (fleet : Fleet ι) (r : Registry) (turn : Nat → ι) : Nat → Registry
  | 0 => r
  | k + 1 => (reconcile (fleet.registryAt r turn k).keys (fleet.request (turn k))
      (.found (fleet.cluster (turn k)) rfl) ⟨fleet.registryAt r turn k,newTunnelPool⟩).2.registry

/-- Every fair order of turns gives an execution. -/
def execute (fleet : Fleet ι) (r : Registry) (turn : Nat → ι) (fair : Fair turn) : fleet.Execution r where
  turn := turn
  order k := (fleet.registryAt r turn k).keys
  pool _ := newTunnelPool
  registry := fleet.registryAt r turn
  start := rfl
  visits _ := .refl _
  next _ := rfl
  fair := fair

end Fleet

/-- Two parties in turn. -/
def alternate (k : Nat) : Bool := k % 2 = 0

theorem alternate_fair : Fair alternate := by
  intro a k
  cases a with
  | true => exact ⟨2 * k,by omega,by simp [alternate]⟩
  | false => exact ⟨2 * k + 1,by omega,by simp [alternate,Nat.add_mod]⟩

def annotatedCluster (name text : String) : Cluster :=
  ⟨name,"default",false,(∅ : Map String String).insert nodeCIDRAnnotation text⟩

/-- Two clusters with disjoint blocks. -/
def pairFleet (westText eastText : String) (west east : Block)
    (westParsed : parseBlock westText = some west) (eastParsed : parseBlock eastText = some east)
    (apart : cidrsOverlap west.net east.net = false) : Fleet Bool where
  cluster isWest := if isWest then annotatedCluster "west" westText else annotatedCluster "east" eastText
  block isWest := if isWest then west else east
  unique i j same := by cases i <;> cases j <;> simp_all [annotatedCluster]
  live i := by cases i <;> rfl
  annotated i := by
    cases i with
    | true => exact ⟨westText,AList.lookup_insert _,westParsed⟩
    | false => exact ⟨eastText,AList.lookup_insert _,eastParsed⟩
  disjoint i j different := by
    have apart' := (cidrsOverlap_eq_false_iff west east).mp apart
    cases i <;> cases j
    · exact absurd rfl different
    · exact apart'.symm
    · exact apart'
    · exact absurd rfl different

def farBlock : Block :=
  ⟨⟨[10,0,2,0],[255,255,255,0]⟩,"10.0.2.0/24",v4InV6Prefix ++ [10,0,2,0],by decide⟩

def westRegistered : Registry :=
  (reconcile [] ⟨"default","west"⟩ (.found (annotatedCluster "west" "10.0.0.0/24") rfl)
    ⟨newCIDRRegistry,newTunnelPool⟩).2.registry

/-- The registry in which `west` is registered with the low block and `east` with the high one. -/
def bothRegistered : Registry :=
  (reconcile ["west"] ⟨"default","east"⟩ (.found (annotatedCluster "east" "10.0.1.0/24") rfl)
    ⟨westRegistered,newTunnelPool⟩).2.registry

theorem bothRegistered_earlier :
    (pairFleet westText eastText west east westParsed eastParsed apart).Earlier bothRegistered := by
  have first : (pairFleet westText eastText west east westParsed eastParsed apart).Earlier westRegistered :=
    Fleet.Earlier.new.reconciled (.refl _) true (.found (annotatedCluster "west" "10.0.0.0/24") rfl) newTunnelPool
  have visits : ["west"].Perm westRegistered.keys := by decide
  exact first.reconciled visits false (.found (annotatedCluster "east" "10.0.1.0/24") rfl) newTunnelPool

/-- The block of `west` is free and `east` takes the old one of `west`. -/
def shiftFleet : Fleet Bool :=
  pairFleet "10.0.2.0/24" "10.0.0.0/24" farBlock lowBlock
    (parseBlock_eq (show parseCIDR "10.0.2.0/24" = some (v4InV6Prefix ++ [10,0,2,0],farBlock.net) by decide))
    (parseBlock_eq (show parseCIDR "10.0.0.0/24" = some (v4InV6Prefix ++ [10,0,0,0],lowBlock.net) by decide))
    (by decide)

theorem routing_converges_shiftFleet :
    shiftFleet.Waits bothRegistered false true ∧
    (shiftFleet.execute bothRegistered alternate alternate_fair).Converges := by
  have only : ∀ i j, shiftFleet.Waits bothRegistered i j → i = false ∧ j = true := by decide
  refine ⟨by decide,(routing_converges_iff bothRegistered_earlier _).mpr ?_⟩
  intro i cycle
  obtain ⟨j,first,cycle'⟩ := waits_on_cycle cycle
  obtain ⟨k,second,_⟩ := waits_on_cycle cycle'
  cases (only i j first).2.symm.trans (only j k second).1

/-- The two clusters exchange their blocks. -/
def swapFleet : Fleet Bool :=
  pairFleet "10.0.1.0/24" "10.0.0.0/24" highBlock lowBlock
    (parseBlock_eq (show parseCIDR "10.0.1.0/24" = some (v4InV6Prefix ++ [10,0,1,0],highBlock.net) by decide))
    (parseBlock_eq (show parseCIDR "10.0.0.0/24" = some (v4InV6Prefix ++ [10,0,0,0],lowBlock.net) by decide))
    (by decide)

theorem not_converges_swapFleet :
    swapFleet.Earlier bothRegistered ∧ ∃ e : swapFleet.Execution bothRegistered, ¬ e.Converges := by
  refine ⟨bothRegistered_earlier,swapFleet.execute bothRegistered alternate alternate_fair,?_⟩
  intro converges
  have acyclic := Fleet.Execution.acyclic_of_converges bothRegistered_earlier.known converges
  exact acyclic true (.head (show swapFleet.Waits bothRegistered true false by decide)
    (.single (show swapFleet.Waits bothRegistered false true by decide)))

end Kommodity.TalosProxy
