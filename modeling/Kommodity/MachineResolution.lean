import Mathlib.Algebra.Order.BigOperators.Group.List
import Mathlib.Algebra.Order.Group.Nat
import Kommodity.AttestationNonces
import Kommodity.GoNetText
import Kommodity.Machines

/-! Two readings of the address of a request. The nonce store parses it and forgets its spelling and
its port; the lookup of the machine compares it as it is written with the addresses the machines
list. -/
namespace Kommodity.Attestation

open Go Go.Net Net

/-- The first managed machine that lists one of two texts. -/
def firstListing (machines : List Machine) (a b : String) : Option Machine :=
  machines.find? fun machine => Managed machine ∧ (a ∈ machine.addresses ∨ b ∈ machine.addresses)

theorem find_eq_iff {p q : α → Bool} (l : List α) :
    l.find? p = l.find? q ↔ ∀ x, l.find? (fun y => p y || q y) = some x → p x = true ∧ q x = true := by
  induction l with
  | nil => simp
  | cons y rest ih =>
    cases first : p y with
    | false =>
      cases second : q y with
      | false => simp only [List.find?_cons,first,second,Bool.or_self,ih]
      | true =>
        have later : rest.find? p ≠ some y := fun found => by
          rw [List.find?_some found] at first
          cases first
        simp [first,second,later]
    | true =>
      cases second : q y with
      | false =>
        have later : some y ≠ rest.find? q := fun found => by
          rw [List.find?_some found.symm] at second
          cases second
        simp [first,second,later]
      | true => simp [first,second]

theorem machineByAddress_eq_iff (machines : List Machine) (a b : String) :
    machineByAddress machines a = machineByAddress machines b ↔
      ∀ machine, firstListing machines a b = some machine →
        a ∈ machine.addresses ∧ b ∈ machine.addresses := by
  have merged : (fun machine => decide (Managed machine ∧ a ∈ machine.addresses) ||
      decide (Managed machine ∧ b ∈ machine.addresses)) =
      fun machine => decide (Managed machine ∧ (a ∈ machine.addresses ∨ b ∈ machine.addresses)) := by
    funext machine
    rw [← Bool.decide_or]
    exact decide_eq_decide.mpr and_or_left.symm
  rw [machineByAddress,machineByAddress,find_eq_iff,merged]
  constructor
  · intro both machine found
    have listed := both machine found
    simp only [decide_eq_true_eq] at listed
    exact ⟨listed.1.2,listed.2.2⟩
  · intro both machine found
    have managed := List.find?_some found
    simp only [decide_eq_true_eq] at managed ⊢
    obtain ⟨left,right⟩ := both machine found
    exact ⟨⟨managed.1,left⟩,managed.1,right⟩

theorem findManagedMachineByIP_eq_iff (machines : List Machine) (a b : String) :
    findManagedMachineByIP (.ok machines) a = findManagedMachineByIP (.ok machines) b ↔
      machineByAddress machines a = machineByAddress machines b := by
  unfold findManagedMachineByIP
  dsimp only
  cases machineByAddress machines a <;> cases machineByAddress machines b <;> simp

/-- Two texts for one address, as the nonce store reads them. -/
def SameClient (a b : String) : Prop := ∃ canonical, canonicalIP a = .ok canonical ∧ canonicalIP b = .ok canonical

/-- Two texts for one address lead to one machine exactly if the first machine that lists one of
them lists both. -/
theorem address_resolution_iff (machines : List Machine) (a b : String) :
    (SameClient a b →
      findManagedMachineByIP (.ok machines) a = findManagedMachineByIP (.ok machines) b) ↔
    (SameClient a b → ∀ machine, firstListing machines a b = some machine →
      a ∈ machine.addresses ∧ b ∈ machine.addresses) := by
  refine imp_congr_right fun _ => ?_
  rw [findManagedMachineByIP_eq_iff,machineByAddress_eq_iff]

theorem canonicalIP_of_split (parts : splitHostPort a = some (host,port)) (parsed : parseAddr host = some address) :
    canonicalIP a = .ok address.string := by
  simp [canonicalIP,parts,parsed]

theorem findManagedMachineByIP_unlisted
    (unlisted : ∀ machine ∈ machines, Managed machine → a ∉ machine.addresses) :
    findManagedMachineByIP (.ok machines) a = .error .noMachineFound := by
  have absent : machineByAddress machines a = none := by
    rw [machineByAddress,List.find?_eq_none]
    intro machine listed
    simpa using unlisted machine listed
  simp [findManagedMachineByIP,absent]

theorem exists_unlisted_port (machines : List Machine) (host : String) : ∃ port : String,
    (∀ c ∈ port.toList, c = '0') ∧
    ∀ machine ∈ machines, "[" ++ host ++ "]:" ++ port ∉ machine.addresses := by
  let longest := (machines.flatMap Machine.addresses).map fun a => a.toList.length
  refine ⟨String.ofList (List.replicate longest.sum '0'),by simp,?_⟩
  intro machine listed member
  have bound : ("[" ++ host ++ "]:" ++ String.ofList (List.replicate longest.sum '0')).toList.length ≤
      longest.sum := by
    apply List.le_sum_of_mem
    exact List.mem_map_of_mem (List.mem_flatMap.mpr ⟨machine,listed,member⟩)
  simp at bound
  omega

/-- Whatever the machines list, an address has a text for which no machine is found. -/
theorem exists_unresolved_text (machines : List Machine) (parsed : parseAddr host = some address)
    (outer : '[' ∉ host.toList ∧ ']' ∉ host.toList) :
    ∃ a, canonicalIP a = .ok address.string ∧
      findManagedMachineByIP (.ok machines) a = .error .noMachineFound := by
  obtain ⟨port,zeros,unlisted⟩ := exists_unlisted_port machines host
  have plain (c : Char) (other : c ≠ '0') : c ∉ port.toList := fun listed => other (zeros c listed)
  have parts := splitHostPort_bracketed outer
    ⟨plain ':' (by decide),plain '[' (by decide),plain ']' (by decide)⟩
  exact ⟨_,canonicalIP_of_split parts parsed,
    findManagedMachineByIP_unlisted fun machine listed _ => unlisted machine listed⟩

/-- An address is resolved in all its spellings alike only if no machine has it. -/
theorem address_class_iff (machines : List Machine) (parsed : parseAddr host = some address)
    (outer : '[' ∉ host.toList ∧ ']' ∉ host.toList) :
    (∀ a b, canonicalIP a = .ok address.string → canonicalIP b = .ok address.string →
      findManagedMachineByIP (.ok machines) a = findManagedMachineByIP (.ok machines) b) ↔
    ∀ machine ∈ machines, Managed machine → ∀ a ∈ machine.addresses, canonicalIP a ≠ .ok address.string := by
  constructor
  · intro alike machine listed managed a member spelled
    obtain ⟨b,spelled',unresolved⟩ := exists_unresolved_text machines parsed outer
    rw [← alike a b spelled spelled'] at unresolved
    unfold findManagedMachineByIP at unresolved
    dsimp only at unresolved
    split at unresolved
    · cases unresolved
    · next absent =>
      rw [machineByAddress,List.find?_eq_none] at absent
      exact absent machine listed (by simp [managed,member])
  · intro absent a b first second
    have unresolved {c : String} (spelled : canonicalIP c = .ok address.string) :
        findManagedMachineByIP (.ok machines) c = .error .noMachineFound :=
      findManagedMachineByIP_unlisted fun machine listed managed member =>
        absent machine listed managed c member spelled
    rw [unresolved first,unresolved second]

section Sample

def workerMachine : Machine where
  name := "worker-0"
  namespaceName := "default"
  labels := (∅ : Map String String).insert managedByLabel "kommodity"
  clusterName := "blue"
  addresses := ["10.0.0.5"]
  dataSecretName := none

/-- A node that is issued a nonce through a proxy and uses it directly: the nonce is accepted, and
only the first of the two addresses leads to the machine. -/
theorem direct_address_unresolved :
    SameClient "10.0.0.5" "10.0.0.5:40312" ∧
    getOriginalIPFromRequest ⟨"POST","","10.0.0.5:40312",[]⟩ = .ok "10.0.0.5:40312" ∧
    (((NonceStore.newNonceStore 60).generate "10.0.0.5" sampleReservation 0).toOption.map fun issued =>
      (issued.2.use "10.0.0.5:40312" issued.1.1 1).1) = some (.ok true) ∧
    findManagedMachineByIP (.ok [workerMachine]) "10.0.0.5" = .ok workerMachine ∧
    findManagedMachineByIP (.ok [workerMachine]) "10.0.0.5:40312" = .error .noMachineFound := by
  refine ⟨⟨"10.0.0.5",by decide +kernel,by decide +kernel⟩,rfl,?_,?_,?_⟩
  · decide +kernel
  · rfl
  · rfl

end Sample

end Kommodity.Attestation
