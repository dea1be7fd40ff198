import Kommodity.NamespacedStore

/-! When the flat store keeps what the API promises of namespaces. The link between the two
stores is kept by every request that meets no object of another namespace under its name. -/
namespace Kommodity.Registry

open Go Versioned

variable {V : Type}

theorem resource_segment (kind : Kind) : Path.Segment kind.resource := by
  cases kind <;> decide +kernel

theorem resource_injective {kind other : Kind} (same : kind.resource = other.resource) :
    kind = other := by
  revert same
  cases kind <;> cases other <;> decide

theorem keyFunc_eq (kind : Kind) (ns : String) (name : Name) :
    kind.keyFunc ns name = "/" ++ kind.resource ++ "/" ++ name :=
  Path.join_segments (resource_segment kind) name.2

theorem key_split {kind other : Kind} {name : Name}
    (same : kind.keyFunc ns name = "/" ++ other.resource ++ "/" ++ rest) :
    kind = other ∧ name = rest := by
  rw [keyFunc_eq] at same
  have lists := congrArg String.toList same
  simp only [String.toList_append] at lists
  rw [show "/".toList = ['/'] from rfl] at lists
  simp only [List.append_assoc,List.cons_append,List.nil_append,List.cons.injEq,true_and,
    List.append_cons_inj_of_notMem (resource_segment kind).2.1 name.2.2.1] at lists
  exact ⟨resource_injective (String.toList_inj.mp lists.1),String.toList_inj.mp lists.2⟩

theorem keyFunc_inj {kind other : Kind} {name label : Name}
    (same : kind.keyFunc ns name = other.keyFunc space label) : kind = other ∧ name = label := by
  rw [keyFunc_eq other] at same
  obtain ⟨kinds,names⟩ := key_split same
  exact ⟨kinds,Subtype.ext names⟩

theorem keyFunc_namespace (kind : Kind) (ns space : String) (name : String) :
    kind.keyFunc ns name = kind.keyFunc space name := rfl

theorem under_root {kind other : Kind} {name : Name} :
    hasPrefix (kind.keyFunc ns name) (other.keyRootFunc space ++ "/") = true ↔ kind = other := by
  rw [hasPrefix_iff,Kind.keyRootFunc]
  constructor
  · rintro ⟨rest,same⟩
    exact (key_split same).1
  · rintro rfl
    exact ⟨name,keyFunc_eq ..⟩

/-- A stored object is found under the key of its own name, and the promised store has it in
its own namespace only. -/
structure Linked (flat : Store String (Object V)) (promised : Store Place (Object V)) : Prop where
  revision : flat.revision = promised.revision
  found : ∀ kind ns name, promised.get (kind,ns,name) =
    (flat.get (kind.keyFunc ns name)).filter (·.value.namespaceName = ns)
  keyed : ∀ key entry, flat.get key = some entry →
    ∃ kind : Kind, key = kind.keyFunc entry.value.namespaceName entry.value.name

theorem linked_empty : Linked (Store.empty : Store String (Object V)) Store.empty :=
  ⟨rfl,by simp,by simp⟩

namespace Linked

variable {flat : Store String (Object V)} {promised : Store Place (Object V)}

theorem found_iff (linked : Linked flat promised) :
    promised.get (kind,ns,name) = some entry ↔
      flat.get (kind.keyFunc ns name) = some entry ∧ entry.value.namespaceName = ns := by
  rw [linked.found kind ns name,Option.filter_eq_some_iff]
  simp

/-- The object under a key is promised in one namespace; in the others its name is free. -/
theorem foreign_iff (linked : Linked flat promised) (kind : Kind) (ns : String) (name : Name) :
    (∀ other, other ≠ ns → promised.get (kind,other,name) = none) ↔
      ∀ entry, flat.get (kind.keyFunc ns name) = some entry → entry.value.namespaceName = ns := by
  constructor
  · intro free entry stored
    by_contra foreign
    rw [keyFunc_namespace kind ns entry.value.namespaceName] at stored
    have present := linked.found_iff.mpr ⟨stored,rfl⟩
    rw [free _ foreign] at present
    cases present
  · intro own other apart
    rw [Option.eq_none_iff_forall_ne_some]
    intro entry present
    obtain ⟨stored,space⟩ := linked.found_iff.mp present
    exact apart (space.symm.trans (own entry stored))

theorem get_eq (linked : Linked flat promised)
    (own : ∀ entry, flat.get (kind.keyFunc ns name) = some entry → entry.value.namespaceName = ns) :
    promised.get (kind,ns,name) = flat.get (kind.keyFunc ns name) := by
  rw [linked.found kind ns name]
  cases stored : flat.get (kind.keyFunc ns name) with
  | none => rfl
  | some entry => simp [own entry stored]

theorem stored_iff (linked : Linked flat promised) (entry : Entry (Object V)) :
    (∃ key, flat.get key = some entry) ↔ ∃ place, promised.get place = some entry := by
  constructor
  · rintro ⟨key,stored⟩
    obtain ⟨kind,rfl⟩ := linked.keyed key entry stored
    exact ⟨(kind,_,_),linked.found_iff.mpr ⟨stored,rfl⟩⟩
  · rintro ⟨⟨kind,ns,name⟩,present⟩
    exact ⟨_,(linked.found_iff.mp present).1⟩

/-- Changing what stands under a name in both stores keeps them linked, provided the flat
store had no object of another namespace there. -/
theorem change (linked : Linked flat promised)
    (own : ∀ entry, flat.get (kind.keyFunc ns name) = some entry → entry.value.namespaceName = ns)
    {flat' : Store String (Object V)} {promised' : Store Place (Object V)}
    (revision : flat'.revision = promised'.revision)
    (same : promised'.get (kind,ns,name) = flat'.get (kind.keyFunc ns name))
    (fresh : ∀ entry, flat'.get (kind.keyFunc ns name) = some entry →
      entry.value.namespaceName = ns ∧ entry.value.name = name)
    (flatOther : ∀ key, key ≠ kind.keyFunc ns name → flat'.get key = flat.get key)
    (promisedOther : ∀ place, place ≠ (kind,ns,name) → promised'.get place = promised.get place) :
    Linked flat' promised' := by
  have free := (linked.foreign_iff kind ns name).mpr own
  refine ⟨revision,?_,?_⟩
  · intro kind' ns' name'
    by_cases here : kind' = kind ∧ name' = name
    · obtain ⟨rfl,rfl⟩ := here
      rw [keyFunc_namespace kind' ns' ns]
      by_cases space : ns' = ns
      · subst space
        rw [same]
        cases stored : flat'.get (kind'.keyFunc ns' name') with
        | none => rfl
        | some entry => simp [Option.filter,(fresh entry stored).1]
      · rw [promisedOther _ (by simp [space]),free ns' space]
        cases stored : flat'.get (kind'.keyFunc ns name') with
        | none => rfl
        | some entry => simp [Option.filter,(fresh entry stored).1,Ne.symm space]
    · have places : (kind',ns',name') ≠ (kind,ns,name) := by
        intro eq
        cases eq
        exact here ⟨rfl,rfl⟩
      rw [promisedOther _ places,flatOther _ fun eq => here (keyFunc_inj eq)]
      exact linked.found kind' ns' name'
  · intro key entry stored
    by_cases here : key = kind.keyFunc ns name
    · subst here
      exact ⟨kind,by rw [(fresh entry stored).1,(fresh entry stored).2]⟩
    · exact linked.keyed key entry (flatOther key here ▸ stored)

theorem apply (linked : Linked flat promised)
    (own : ∀ entry, flat.get (kind.keyFunc ns name) = some entry → entry.value.namespaceName = ns)
    (effect : Effect V)
    (written : ∀ value, effect = .write value → value.namespaceName = ns ∧ value.name = name) :
    Linked (effect.apply flat (kind.keyFunc ns name)) (effect.apply promised (kind,ns,name)) := by
  cases effect with
  | keep => exact linked
  | write value =>
    refine linked.change own ?_ ?_ ?_ ?_ ?_
    · simp [Effect.apply,linked.revision]
    · simp [Effect.apply,linked.revision]
    · simp only [Effect.apply,get_put_same,Option.some.injEq]
      rintro _ rfl
      exact written value rfl
    · exact fun key apart => get_put_other flat value apart
    · exact fun place apart => get_put_other promised value apart
  | erase =>
    refine linked.change own ?_ ?_ ?_ ?_ ?_
    · simp [Effect.apply,linked.revision]
    · simp [Effect.apply]
    · simp [Effect.apply]
    · exact fun key apart => get_remove_other flat apart
    · exact fun place apart => get_remove_other promised apart

end Linked

/-- A create whose object is invalid is refused before the store is asked. -/
def Verb.reaches (strategy : Strategy V) (ns : String) (name : Name) : Verb V → Bool
  | .create content => strategy.validate (created strategy ns name content)
  | _ => true

section Respond

variable {kind : Kind} {strategy : Strategy V} {found : Option (Entry (Object V))}

theorem respond_unreached (blocked : Verb.reaches strategy ns name verb = false) :
    respond kind strategy ns name revision verb found = ⟨.invalid,[],.keep⟩ := by
  cases verb with
  | create content =>
    simp only [Verb.reaches] at blocked
    simp [respond,create,blocked]
  | _ => cases blocked

theorem respond_touched (reached : Verb.reaches strategy ns name verb = true) :
    (respond kind strategy ns name revision verb found).touched = found.toList.map (·.value) := by
  cases verb with
  | create content =>
    simp only [Verb.reaches] at reached
    cases found <;> simp [respond,create,reached]
  | update content version =>
    cases found with
    | none => simp only [respond,update,create]; split_ifs <;> rfl
    | some entry => simp only [respond,update]; split_ifs <;> rfl
  | _ => cases found <;> rfl

theorem respond_written
    (writes : (respond kind strategy ns name revision verb found).effect = .write value) :
    value.namespaceName = ns ∧ value.name = name := by
  revert writes
  cases verb with
  | create content =>
    cases found <;> simp only [respond,create] <;> split_ifs <;> rintro ⟨⟩
    exact ⟨rfl,rfl⟩
  | update content version =>
    cases found <;> simp only [respond,update,create] <;> split_ifs <;> rintro ⟨⟩ <;> exact ⟨rfl,rfl⟩
  | _ => cases found <;> rintro ⟨⟩

end Respond

/-- Answers agree when they are equal, lists when they hold the same entries. -/
def Answer.Same : Answer V → Answer V → Prop
  | .objects left, .objects right => ∀ entry, entry ∈ left ↔ entry ∈ right
  | left, right => left = right

/-- No object of another namespace has the name of a request, or for a list the kind. -/
def Apart (strategy : Kind → Strategy V) (promised : Store Place (Object V)) : Request V → Prop
  | .on kind ns name verb => verb.reaches (strategy kind) ns name = true →
    ∀ other, other ≠ ns → promised.get (kind,other,name) = none
  | .list kind ns => ∀ other name, other ≠ ns → promised.get (kind,other,name) = none

namespace Linked

variable {flat : Store String (Object V)} {promised : Store Place (Object V)}

theorem listed_own_iff (linked : Linked flat promised) (kind : Kind) (ns : String) :
    (∀ other name, other ≠ ns → promised.get (kind,other,name) = none) ↔
      ∀ entry ∈ entriesAt flat fun key => hasPrefix key (kind.keyRootFunc ns ++ "/"),
        entry.value.namespaceName = ns := by
  constructor
  · intro free entry member
    obtain ⟨key,listed,stored⟩ := (mem_entriesAt ..).mp member
    obtain ⟨other,rfl⟩ := linked.keyed key entry stored
    obtain rfl := under_root.mp listed
    by_contra foreign
    have present := linked.found_iff.mpr ⟨stored,rfl⟩
    rw [free _ _ foreign] at present
    cases present
  · intro own other name apart
    rw [Option.eq_none_iff_forall_ne_some]
    intro entry present
    obtain ⟨stored,space⟩ := linked.found_iff.mp present
    have listed : hasPrefix (kind.keyFunc other name) (kind.keyRootFunc ns ++ "/") = true :=
      under_root.mpr rfl
    exact apart (space.symm.trans (own entry ((mem_entriesAt ..).mpr ⟨_,listed,stored⟩)))

/-- The condition of a request is that it touches objects of its own namespace only. -/
theorem touched_own_iff (linked : Linked flat promised) (strategy : Kind → Strategy V)
    (request : Request V) :
    Apart strategy promised request ↔
      ∀ value ∈ (serveFlat strategy flat request).1.touched,
        value.namespaceName = request.namespaceName := by
  cases request with
  | list kind ns =>
    simp only [Apart,serveFlat,serve,List.mem_map,Request.namespaceName]
    rw [linked.listed_own_iff kind ns]
    simp
  | on kind ns name verb =>
    simp only [Apart,serveFlat,serve,Request.namespaceName]
    cases reached : verb.reaches (strategy kind) ns name with
    | false => simp [respond_unreached reached]
    | true =>
      rw [respond_touched reached,linked.foreign_iff kind ns name]
      simp

/-- A request that meets its condition is answered as promised and keeps the link. -/
theorem step (linked : Linked flat promised) (strategy : Kind → Strategy V) (request : Request V)
    (apart : Apart strategy promised request) :
    (serveFlat strategy flat request).1.answer.Same (serveNamespaced strategy promised request).1.answer ∧
      Linked (serveFlat strategy flat request).2 (serveNamespaced strategy promised request).2 := by
  cases request with
  | list kind ns =>
    refine ⟨?_,linked⟩
    intro entry
    have own := (linked.listed_own_iff kind ns).mp apart
    simp only [mem_entriesAt,decide_eq_true_eq]
    constructor
    · rintro ⟨key,listed,stored⟩
      obtain ⟨other,rfl⟩ := linked.keyed key entry stored
      obtain rfl := under_root.mp listed
      have space := own entry ((mem_entriesAt ..).mpr ⟨_,listed,stored⟩)
      exact ⟨(other,ns,entry.value.name),⟨rfl,rfl⟩,linked.found_iff.mpr ⟨stored,space⟩⟩
    · rintro ⟨⟨_,_,name⟩,⟨rfl,rfl⟩,present⟩
      exact ⟨_,under_root.mpr rfl,(linked.found_iff.mp present).1⟩
  | on kind ns name verb =>
    simp only [serveFlat,serveNamespaced,serve]
    cases reached : verb.reaches (strategy kind) ns name with
    | false =>
      simp only [respond_unreached reached]
      exact ⟨rfl,linked⟩
    | true =>
      have own := (linked.foreign_iff kind ns name).mp (apart reached)
      rw [linked.get_eq own,linked.revision]
      refine ⟨?_,linked.apply own _ fun value writes => respond_written writes⟩
      unfold Answer.Same
      split <;> simp_all

end Linked

/-- Every request of the run is answered as promised, touches objects of its own namespace only
and leaves the promised objects in the store. -/
def Isolated (strategy : Kind → Strategy V) :
    Store String (Object V) → Store Place (Object V) → List (Request V) → Prop
  | _, _, [] => True
  | flat, promised, request :: rest =>
    let served := serveFlat strategy flat request
    let expected := serveNamespaced strategy promised request
    served.1.answer.Same expected.1.answer ∧
    (∀ value ∈ served.1.touched, value.namespaceName = request.namespaceName) ∧
    (∀ entry, (∃ key, served.2.get key = some entry) ↔ ∃ place, expected.2.get place = some entry) ∧
    Isolated strategy served.2 expected.2 rest

/-- Every request of the run meets its condition among the objects the API promises then. -/
def ApartRun (strategy : Kind → Strategy V) : Store Place (Object V) → List (Request V) → Prop
  | _, [] => True
  | promised, request :: rest =>
    Apart strategy promised request ∧ ApartRun strategy (serveNamespaced strategy promised request).2 rest

theorem isolated_iff (strategy : Kind → Strategy V) {flat : Store String (Object V)}
    {promised : Store Place (Object V)} (linked : Linked flat promised) (requests : List (Request V)) :
    Isolated strategy flat promised requests ↔ ApartRun strategy promised requests := by
  induction requests generalizing flat promised with
  | nil => exact Iff.rfl
  | cons request rest ih =>
    constructor
    · rintro ⟨_,own,_,later⟩
      have apart := (linked.touched_own_iff strategy request).mpr own
      exact ⟨apart,(ih (linked.step strategy request apart).2).mp later⟩
    · rintro ⟨apart,later⟩
      obtain ⟨answers,next⟩ := linked.step strategy request apart
      have own := (linked.touched_own_iff strategy request).mp apart
      exact ⟨answers,own,next.stored_iff,(ih next).mpr later⟩

/-- Two objects of a kind share a key exactly when they share the name, whatever their
namespaces; so a run keeps namespaces apart exactly when no request meets its name, or for a
list its kind, in another namespace. -/
theorem namespaces_isolated_iff (strategy : Kind → Strategy V) :
    (∀ (kind : Kind) (ns space : String) (name label : Name),
      kind.keyFunc ns name ≠ kind.keyFunc space label ↔ name ≠ label) ∧
    ∀ requests, Isolated strategy Store.empty Store.empty requests ↔
      ApartRun strategy Store.empty requests := by
  constructor
  · intro kind ns space name label
    refine not_congr ⟨fun same => (keyFunc_inj same).2,?_⟩
    rintro rfl
    exact keyFunc_namespace kind ns space name
  · exact isolated_iff strategy linked_empty

def permissive : Strategy String := ⟨id,fun _ => true,fun content _ => content,fun _ _ => true⟩

def token : Name := ⟨"token",by decide +kernel⟩

/-- A secret of one namespace is read, and its name taken, in another one. -/
theorem secret_read_across_namespaces :
    Kind.secrets.keyFunc "team-a" token = Kind.secrets.keyFunc "team-b" token ∧
    let first := serveFlat (fun _ => permissive) Store.empty (.on .secrets "team-a" token (.create "key"))
    (serveFlat (fun _ => permissive) first.2 (.on .secrets "team-b" token .get)).1.answer =
      .object ⟨⟨"team-a",token,"key"⟩,1⟩ ∧
    (serveFlat (fun _ => permissive) first.2 (.on .secrets "team-b" token (.create "own"))).1.answer =
      .refused .alreadyExists ∧
    ¬ Isolated (fun _ => permissive) Store.empty Store.empty
      [.on .secrets "team-a" token (.create "key"),.on .secrets "team-b" token .get] := by
  refine ⟨rfl,by rfl,by rfl,?_⟩
  rw [isolated_iff _ linked_empty]
  rintro ⟨_,apart,_⟩
  have absent := apart rfl "team-a" (by decide)
  revert absent
  decide +kernel

end Kommodity.Registry
