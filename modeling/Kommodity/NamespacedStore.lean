import Kommodity.GoPath
import Kommodity.VersionedStore

/-! The stores of the namespaced resource kinds. All kinds share one flat keyspace, in
which an object stands under the key its kind's `KeyFunc` computes; the API promises one
object for every kind, namespace and name. -/
namespace Kommodity.Registry

open Go Versioned

inductive Kind where
  | secrets
  | configMaps
  | services
  | endpoints
  | events
  | serviceAccounts
  | roles
  | roleBindings
  deriving DecidableEq, Repr

namespace Kind

def resource : Kind → String
  | secrets => "secrets"
  | configMaps => "configmaps"
  | services => "services"
  | endpoints => "endpoints"
  | events => "events"
  | serviceAccounts => "serviceaccounts"
  | roles => "roles"
  | roleBindings => "rolebindings"

def allowCreateOnUpdate : Kind → Bool
  | secrets | configMaps | serviceAccounts => false
  | services | endpoints | events | roles | roleBindings => true

def allowUnconditionalUpdate (_ : Kind) : Bool := true

/-- The namespace of the request, which the source has in the context, is not used. -/
def keyRootFunc (kind : Kind) (_namespaceName : String) : String := "/" ++ kind.resource

def keyFunc (kind : Kind) (_namespaceName name : String) : String :=
  Path.join ["/" ++ kind.resource,name]

end Kind

abbrev Name := {name : String // Path.Segment name}

structure Object (V : Type) where
  namespaceName : String
  name : Name
  content : V

/-- The hooks of a kind. The checks also stand for those the registry makes of the metadata. -/
structure Strategy (V : Type) where
  prepareForCreate : V → V
  validate : Object V → Bool
  prepareForUpdate : V → V → V
  validateUpdate : Object V → Object V → Bool

/-- An update may present the version of the object it was made from. -/
inductive Verb (V : Type) where
  | get
  | create (content : V)
  | update (content : V) (version : Option Nat)
  | delete

inductive Request (V : Type) where
  | on (kind : Kind) (namespaceName : String) (name : Name) (verb : Verb V)
  | list (kind : Kind) (namespaceName : String)

inductive Answer (V : Type) where
  | object (entry : Entry (Object V))
  | deleted (value : Object V)
  | objects (entries : List (Entry (Object V)))
  | refused (error : Error)
  | invalid

inductive Effect (V : Type) where
  | keep
  | write (value : Object V)
  | erase

/-- `touched` holds the stored objects that the request read, replaced, deleted or was refused for. -/
structure Reply (V : Type) where
  answer : Answer V
  touched : List (Object V)
  effect : Effect V

variable {V : Type}

def Request.namespaceName : Request V → String
  | .on _ ns _ _ => ns
  | .list _ ns => ns

def created (strategy : Strategy V) (ns : String) (name : Name) (content : V) : Object V :=
  ⟨ns,name,strategy.prepareForCreate content⟩

/-- Validation comes before the store is asked whether the key is taken. -/
def create (strategy : Strategy V) (ns : String) (name : Name) (revision : Nat) (content : V)
    (found : Option (Entry (Object V))) : Reply V :=
  let value := created strategy ns name content
  if strategy.validate value then
    match found with
    | some entry => ⟨.refused .alreadyExists,[entry.value],.keep⟩
    | none => ⟨.object ⟨value,revision + 1⟩,[],.write value⟩
  else ⟨.invalid,[],.keep⟩

/-- An update without a version is let through by a kind that allows it. -/
def update (kind : Kind) (strategy : Strategy V) (ns : String) (name : Name) (revision : Nat)
    (content : V) (version : Option Nat) (found : Option (Entry (Object V))) : Reply V :=
  match found with
  | none =>
    if kind.allowCreateOnUpdate then create strategy ns name revision content none
    else ⟨.refused .notFound,[],.keep⟩
  | some entry =>
    let value : Object V := ⟨ns,name,strategy.prepareForUpdate content entry.value.content⟩
    if version = none ∧ ¬ kind.allowUnconditionalUpdate then ⟨.invalid,[entry.value],.keep⟩
    else if version.any (· ≠ entry.version) then ⟨.refused .conflict,[entry.value],.keep⟩
    else if strategy.validateUpdate value entry.value then
      ⟨.object ⟨value,revision + 1⟩,[entry.value],.write value⟩
    else ⟨.invalid,[entry.value],.keep⟩

/-- What the registry answers, given the entry it found under the key of the request. -/
def respond (kind : Kind) (strategy : Strategy V) (ns : String) (name : Name) (revision : Nat)
    (verb : Verb V) (found : Option (Entry (Object V))) : Reply V :=
  match verb with
  | .create content => create strategy ns name revision content found
  | .update content version => update kind strategy ns name revision content version found
  | .get =>
    match found with
    | some entry => ⟨.object entry,[entry.value],.keep⟩
    | none => ⟨.refused .notFound,[],.keep⟩
  | .delete =>
    match found with
    | some entry => ⟨.deleted entry.value,[entry.value],.erase⟩
    | none => ⟨.refused .notFound,[],.keep⟩

section Serve

variable {K : Type} [DecidableEq K]

def Effect.apply (effect : Effect V) (store : Store K (Object V)) (key : K) : Store K (Object V) :=
  match effect with
  | .keep => store
  | .write value => store.put key value
  | .erase => store.remove key

/-- The entries whose key is selected. -/
def entriesAt (store : Store K (Object V)) (selected : K → Bool) : List (Entry (Object V)) :=
  (store.objects.entries.filter fun binding => selected binding.1).map (·.2)

/-- One registry over a store, given how it addresses objects and selects them for a list. -/
def serve (key : Kind → String → Name → K) (listed : Kind → String → K → Bool)
    (strategy : Kind → Strategy V) (store : Store K (Object V)) :
    Request V → Reply V × Store K (Object V)
  | .on kind ns name verb =>
    let place := key kind ns name
    let reply := respond kind (strategy kind) ns name store.revision verb (store.get place)
    (reply,reply.effect.apply store place)
  | .list kind ns =>
    let found := entriesAt store (listed kind ns)
    (⟨.objects found,found.map (·.value),.keep⟩,store)

theorem mem_entriesAt (store : Store K (Object V)) (selected : K → Bool) (entry : Entry (Object V)) :
    entry ∈ entriesAt store selected ↔ ∃ key, selected key = true ∧ store.get key = some entry := by
  simp only [entriesAt,List.mem_map,List.mem_filter,Store.get]
  constructor
  · rintro ⟨⟨key,stored⟩,⟨member,chosen⟩,rfl⟩
    exact ⟨key,chosen,AList.mem_lookup_iff.mpr member⟩
  · rintro ⟨key,chosen,found⟩
    exact ⟨⟨key,entry⟩,⟨AList.mem_lookup_iff.mp found,chosen⟩,rfl⟩

end Serve

/-- What is stored: the namespace is not part of the key, and a list reads every key under the root. -/
def serveFlat (strategy : Kind → Strategy V) (store : Store String (Object V)) (request : Request V) :
    Reply V × Store String (Object V) :=
  serve (fun kind ns name => kind.keyFunc ns name)
    (fun kind ns key => hasPrefix key (kind.keyRootFunc ns ++ "/")) strategy store request

abbrev Place := Kind × String × Name

/-- What the API promises. -/
def serveNamespaced (strategy : Kind → Strategy V) (store : Store Place (Object V))
    (request : Request V) : Reply V × Store Place (Object V) :=
  serve (fun kind ns name => (kind,ns,name)) (fun kind ns place => place.1 = kind ∧ place.2.1 = ns)
    strategy store request

end Kommodity.Registry
