import Kommodity.GoText
import Kommodity.AzureARM

/-! The credentials of the ARM reconciler and their cache. A call reads the Secret of its resource
first and takes the mutex afterwards, so that callers can come to the cache in another order than
the one in which they have read. What runs under the mutex is one step here. -/
namespace Kommodity.AzureARM.CredentialCache

open Go Interaction Transition
open Secrets (APIError)

def keyAzureSubscriptionID : String := "AZURE_SUBSCRIPTION_ID"
def keyAzureTenantID : String := "AZURE_TENANT_ID"
def keyAzureClientID : String := "AZURE_CLIENT_ID"
def keyAzureClientSecret : String := "AZURE_CLIENT_SECRET"

/-- `annotations.PerResourceSecret`. -/
def perResourceSecret : String := "serviceoperator.azure.com/credential-from"

structure NamespacedName where
  namespaceName : String
  name : String
  deriving DecidableEq

def NamespacedName.string (n : NamespacedName) : String := n.namespaceName ++ "/" ++ n.name

/-- A Secret as `Get` returns it. -/
structure Secret where
  namespaceName : String
  name : String
  resourceVersion : String
  data : Map String Bytes

/-- What `resolve` reads of a resource. -/
structure Target where
  namespaceName : String
  annotations : Map String String

inductive CredentialError where
  | secretNotFound (detail : String)
  | getting (secretRef : NamespacedName) (error : APIError)
  | secretIncomplete (namespaceName name : String)
  | clientSecretCredential (detail : String)
  | armClient (detail : String)
  deriving DecidableEq

/-- The text of the error; `api` is that of an error of the API. -/
def CredentialError.error (api : APIError → String) : CredentialError → String
  | .secretNotFound detail => "azure credential secret not found: " ++ detail
  | .getting secretRef err => "getting credential secret " ++ secretRef.string ++ ": " ++ api err
  | .secretIncomplete namespaceName name =>
    "azure credential secret is missing required keys: " ++ namespaceName ++ "/" ++ name
  | .clientSecretCredential detail => "building client secret credential: " ++ detail
  | .armClient detail => "building ARM pipeline: " ++ detail

/-- The constructors of the Azure libraries. -/
structure Library (Token Client : Type) where
  newClientSecretCredential : (tenantID clientID clientSecret : Bytes) → Except String Token
  newARMClient : Token → Except String Client

structure AzureCredentials (Client : Type) where
  subscriptionID : Bytes
  armClient : Client
  deriving DecidableEq

structure CachedCredential (Client : Type) where
  resourceVersion : String
  creds : AzureCredentials Client

abbrev Cache (Client : Type) := Map NamespacedName (CachedCredential Client)

abbrev Result (Client : Type) := Except CredentialError (AzureCredentials Client)

def secretRefForObject (defaultSecretName : String) (obj : Target) : NamespacedName :=
  let value := obj.annotations.index perResourceSecret
  let value := if value = "" then defaultSecretName else value
  if value = "" then ⟨"",""⟩
  else
    match cut value '/' with
    | none => ⟨obj.namespaceName,value⟩
    | some (namespaceName,name) => ⟨namespaceName,name⟩

/-- One of the four values is missing or empty. -/
def Secret.Incomplete (secret : Secret) : Prop :=
  secret.data.index keyAzureSubscriptionID = [] ∨ secret.data.index keyAzureTenantID = [] ∨
  secret.data.index keyAzureClientID = [] ∨ secret.data.index keyAzureClientSecret = []

instance (secret : Secret) : Decidable secret.Incomplete := inferInstanceAs (Decidable (_ ∨ _ ∨ _ ∨ _))

section Resolve

variable {Token Client : Type} (lib : Library Token Client)

def buildCredentials (secret : Secret) : Result Client :=
  if secret.Incomplete then .error (.secretIncomplete secret.namespaceName secret.name)
  else
    match lib.newClientSecretCredential (secret.data.index keyAzureTenantID)
      (secret.data.index keyAzureClientID) (secret.data.index keyAzureClientSecret) with
    | .error detail => .error (.clientSecretCredential detail)
    | .ok cred =>
      match lib.newARMClient cred with
      | .error detail => .error (.armClient detail)
      | .ok armClient => .ok ⟨secret.data.index keyAzureSubscriptionID,armClient⟩

/-- The end of `resolve`: build the credentials and cache them. -/
def buildLocked (cache : Cache Client) (secretRef : NamespacedName) (secret : Secret) :
    Result Client × Cache Client :=
  match buildCredentials lib secret with
  | .error err => (.error err,cache)
  | .ok creds => (.ok creds,cache.insert secretRef ⟨secret.resourceVersion,creds⟩)

/-- The part of `resolve` under the mutex. -/
def resolveLocked (cache : Cache Client) (secretRef : NamespacedName) (secret : Secret) :
    Result Client × Cache Client :=
  match cache.lookup secretRef with
  | some cached =>
    if cached.resourceVersion = secret.resourceVersion then (.ok cached.creds,cache)
    else buildLocked lib cache secretRef secret
  | none => buildLocked lib cache secretRef secret

inductive Call where
  | get (secretRef : NamespacedName)
  | locked (secretRef : NamespacedName) (secret : Secret)

abbrev Answer (Client : Type) : Call → Type
  | .get _ => Except APIError Secret
  | .locked _ _ => Result Client

def resolve (defaultSecretName : String) (obj : Target) : Program Call (Answer Client) (Result Client) :=
  let secretRef := secretRefForObject defaultSecretName obj
  if secretRef.name = "" then
    return .error (.secretNotFound "no credential-from annotation or default secret")
  else do
    match ← request (Call.get secretRef) with
    | .error err =>
      if err.isNotFound then return .error (.secretNotFound secretRef.string)
      else return .error (.getting secretRef err)
    | .ok secret => request (Call.locked secretRef secret)

end Resolve

/-- What a call has read, and what it got under the mutex. -/
structure Notes (Client : Type) where
  read : Option (NamespacedName × Secret)
  answer : Option (Result Client)

/-- The cache; and, for the record, the Secrets that were read and the calls that have returned. -/
structure Shared (Client : Type) where
  cache : Cache Client
  reads : List (NamespacedName × Secret)
  finished : List (Option (NamespacedName × Secret) × Result Client)

def Shared.empty : Shared Client := ⟨∅,[],[]⟩

/-- The answers that do not come from the cache. -/
inductive Reply where
  | secret (answer : Except APIError Secret)
  | locked

/-- Two reads of one Secret that return the same version return the same data. -/
def Consistent (reads : List (NamespacedName × Secret)) (secretRef : NamespacedName) (secret : Secret) : Prop :=
  ∀ r ∈ reads, r.1 = secretRef → r.2.resourceVersion = secret.resourceVersion →
    r.2.data.deepEqual secret.data = true

def answerable (s : Shared Client) : Call → Reply → Prop
  | .get secretRef,.secret (.ok secret) => Consistent s.reads secretRef secret
  | .get _,.secret (.error _) => True
  | .locked _ _,.locked => True
  | _,_ => False

section Provider

variable {I Token Client : Type} (lib : Library Token Client)

def serve (s : Shared Client) : (c : Call) → Reply → Answer Client c × Shared Client
  | .get secretRef,.secret (.ok secret) => (.ok secret,{ s with reads := s.reads ++ [(secretRef,secret)] })
  | .get _,.secret (.error err) => (.error err,s)
  | .get _,.locked => (.error (.store .notFound),s)
  | .locked secretRef secret,_ =>
    let (result,cache) := resolveLocked lib s.cache secretRef secret
    (result,{ s with cache })

def note (h : Notes Client) : (c : Call) → Answer Client c → Notes Client
  | .get secretRef,.ok secret => { h with read := some (secretRef,secret) }
  | .get _,.error _ => h
  | .locked _ _,result => { h with answer := some result }

/-- Any number of callers, each with a resource of its own; their Secrets change as they like. -/
def provider (defaultSecretName : String) (target : I → Target) :
    Threads I (Shared Client) Call (Answer Client) Reply Empty (Notes Client) (Result Client) where
  program i := resolve defaultSecretName (target i)
  fresh := ⟨none,none⟩
  note := note
  ready _ := True
  begin s := s
  answerable s _ c f := answerable s c f
  serve := serve lib
  finish s h result := { s with finished := s.finished ++ [(h.read,result)] }
  possible _ _ := True
  disturb s _ := s

/-- Under the mutex a call passes the Secret that it has read. -/
def Next (h : Notes Client) : Call → Prop
  | .get _ => h.answer = none
  | .locked secretRef secret => h.read = some (secretRef,secret)

def Returns (h : Notes Client) (result : Result Client) : Prop :=
  (h.read = none ∧ ∃ err, result = .error err) ∨ (h.read ≠ none ∧ h.answer = some result)

theorem resolve_traced (defaultSecretName : String) (obj : Target) :
    (resolve defaultSecretName obj).Traced note (@Next Client) Returns ⟨none,none⟩ := by
  unfold resolve
  dsimp only
  split
  · exact .inl ⟨rfl,_,rfl⟩
  · simp only [traced_request_bind]
    refine ⟨rfl,?_⟩
    rintro (err | secret)
    · dsimp only
      split
      · exact .inl ⟨rfl,_,rfl⟩
      · exact .inl ⟨rfl,_,rfl⟩
    · exact ⟨rfl,fun result => .inr ⟨by simp [note],rfl⟩⟩

/-- Credentials that were built from a Secret of the version, as somebody has read it. -/
def Justified (reads : List (NamespacedName × Secret)) (secretRef : NamespacedName)
    (cached : CachedCredential Client) : Prop :=
  ∃ secret, (secretRef,secret) ∈ reads ∧ secret.resourceVersion = cached.resourceVersion ∧
    buildCredentials lib secret = .ok cached.creds

/-- A call that read a Secret returns what is built from it; no other call succeeds. -/
def Transparent (read : Option (NamespacedName × Secret)) (result : Result Client) : Prop :=
  (∀ secretRef secret, read = some (secretRef,secret) → result = buildCredentials lib secret) ∧
  (read = none → ∃ err, result = .error err)

structure Inv (s : Shared Client) : Prop where
  reads : ∀ secretRef secret, (secretRef,secret) ∈ s.reads → Consistent s.reads secretRef secret
  cache : ∀ secretRef cached, s.cache.lookup secretRef = some cached → Justified lib s.reads secretRef cached
  finished : ∀ call ∈ s.finished, Transparent lib call.1 call.2

def Held (s : Shared Client) (h : Notes Client) : Prop :=
  ∀ secretRef secret, h.read = some (secretRef,secret) →
    (secretRef,secret) ∈ s.reads ∧ ∀ result, h.answer = some result → result = buildCredentials lib secret

theorem buildCredentials_congr {secret secret' : Secret} (same : secret.data.deepEqual secret'.data = true)
    (built : buildCredentials lib secret = .ok creds) : buildCredentials lib secret' = .ok creds := by
  have index (key : String) : secret'.data.index key = secret.data.index key := by
    rw [Map.index,Map.index,(Map.deepEqual_iff _ _).mp same key]
  have incomplete : secret'.Incomplete ↔ secret.Incomplete := by simp only [Secret.Incomplete,index]
  unfold buildCredentials at *
  simp only [incomplete,index]
  split at built
  · cases built
  · next complete =>
    rw [if_neg complete]
    exact built

theorem buildLocked_spec {s : Shared Client} (inv : Inv lib s) (read : (secretRef,secret) ∈ s.reads) :
    (buildLocked lib s.cache secretRef secret).1 = buildCredentials lib secret ∧
    ∀ other cached, (buildLocked lib s.cache secretRef secret).2.lookup other = some cached →
      Justified lib s.reads other cached := by
  unfold buildLocked
  cases built : buildCredentials lib secret with
  | error err => exact ⟨rfl,inv.cache⟩
  | ok creds =>
    refine ⟨rfl,?_⟩
    intro other cached found
    rw [Map.lookup_insert_eq] at found
    split at found
    · next same =>
      cases found
      exact ⟨secret,same ▸ read,rfl,built⟩
    · exact inv.cache other cached found

/-- Under the mutex a call gets what is built from its Secret, and leaves a cache that is justified. -/
theorem resolveLocked_spec {s : Shared Client} (inv : Inv lib s) (read : (secretRef,secret) ∈ s.reads) :
    (resolveLocked lib s.cache secretRef secret).1 = buildCredentials lib secret ∧
    ∀ other cached, (resolveLocked lib s.cache secretRef secret).2.lookup other = some cached →
      Justified lib s.reads other cached := by
  unfold resolveLocked
  split
  · next cached found =>
    split
    · next version =>
      obtain ⟨earlier,read',version',built⟩ := inv.cache secretRef cached found
      have same := inv.reads secretRef secret read _ read' rfl (version'.trans version)
      exact ⟨(buildCredentials_congr lib same built).symm,inv.cache⟩
    · exact buildLocked_spec lib inv read
  · exact buildLocked_spec lib inv read

theorem Consistent.concat (coherent : ∀ r s, (r,s) ∈ reads → Consistent reads r s)
    (next : Consistent reads secretRef secret) :
    ∀ r s, (r,s) ∈ reads ++ [(secretRef,secret)] → Consistent (reads ++ [(secretRef,secret)]) r s := by
  have symm {m m' : Map String Bytes} (same : m.deepEqual m' = true) : m'.deepEqual m = true :=
    (Map.deepEqual_iff _ _).mpr fun k => ((Map.deepEqual_iff _ _).mp same k).symm
  have refl (m : Map String Bytes) : m.deepEqual m = true := (Map.deepEqual_iff _ _).mpr fun _ => rfl
  intro r s listed other listed' key version
  rcases List.mem_append.mp listed with old | new <;> rcases List.mem_append.mp listed' with old' | new'
  · exact coherent r s old other old' key version
  · obtain rfl := List.mem_singleton.mp new'
    subst key
    exact symm (next (_,s) old rfl version.symm)
  · obtain ⟨rfl,rfl⟩ := Prod.mk.inj (List.mem_singleton.mp new)
    exact next other old' key version
  · obtain rfl := List.mem_singleton.mp new'
    obtain ⟨rfl,rfl⟩ := Prod.mk.inj (List.mem_singleton.mp new)
    exact refl _

theorem Justified.mono (justified : Justified lib reads secretRef cached)
    (more : ∀ r, r ∈ reads → r ∈ reads') : Justified lib reads' secretRef cached := by
  obtain ⟨secret,listed,version,built⟩ := justified
  exact ⟨secret,more _ listed,version,built⟩

theorem Inv.read {s : Shared Client} (inv : Inv lib s) (next : Consistent s.reads secretRef secret) :
    Inv lib { s with reads := s.reads ++ [(secretRef,secret)] } :=
  ⟨Consistent.concat inv.reads next,
    fun r cached found => (inv.cache r cached found).mono lib fun _ => List.mem_append_left _,inv.finished⟩

theorem Inv.locked {s : Shared Client} (inv : Inv lib s) (read : (secretRef,secret) ∈ s.reads) :
    Inv lib { s with cache := (resolveLocked lib s.cache secretRef secret).2 } :=
  ⟨inv.reads,(resolveLocked_spec lib inv read).2,inv.finished⟩

variable (defaultSecretName : String) (target : I → Target)

theorem serve_reads (s : Shared Client) (c : Call) (f : Reply) (listed : r ∈ s.reads) :
    r ∈ (serve lib s c f).2.reads := by
  cases c with
  | get secretRef =>
    cases f with
    | locked => exact listed
    | secret answer =>
      cases answer with
      | error err => exact listed
      | ok secret => exact List.mem_append_left _ listed
  | locked secretRef secret => exact listed

theorem Held.mono {s t : Shared Client} (held : Held lib s h) (more : ∀ r, r ∈ s.reads → r ∈ t.reads) :
    Held lib t h := by
  intro secretRef secret read
  obtain ⟨listed,answered⟩ := held secretRef secret read
  exact ⟨more _ listed,answered⟩

theorem provider_keeps : (provider lib defaultSecretName target).Keeps Next Returns (Inv lib) (Held lib) where
  begins s inv _ := ⟨inv,by intro secretRef secret read; cases read⟩
  answers s h c f inv held permitted allowed := by
    cases c with
    | get secretRef =>
      cases f with
      | locked => exact absurd allowed id
      | secret answer =>
        cases answer with
        | error err => exact ⟨inv,held⟩
        | ok secret =>
          refine ⟨inv.read lib allowed,?_⟩
          intro secretRef' secret' read
          obtain ⟨rfl,rfl⟩ := Prod.mk.inj (Option.some.inj read)
          refine ⟨List.mem_append_right _ (List.mem_singleton_self _),?_⟩
          intro result answered
          cases (permitted : h.answer = none).symm.trans answered
    | locked secretRef secret =>
      obtain ⟨listed,_⟩ := held secretRef secret permitted
      refine ⟨inv.locked lib listed,?_⟩
      intro secretRef' secret' read
      obtain ⟨rfl,rfl⟩ := Prod.mk.inj (Option.some.inj ((permitted : h.read = _).symm.trans read))
      refine ⟨listed,?_⟩
      intro result answered
      rw [← Option.some.inj answered]
      exact (resolveLocked_spec lib inv listed).1
  finishes s h result inv held returns := by
    refine ⟨inv.reads,inv.cache,?_⟩
    intro call listed
    rcases List.mem_append.mp listed with old | new
    · exact inv.finished call old
    · obtain rfl := List.mem_singleton.mp new
      rcases returns with ⟨unread,failed⟩ | ⟨filled,answered⟩
      · refine ⟨?_,fun _ => failed⟩
        intro secretRef secret read
        cases unread.symm.trans read
      · refine ⟨?_,fun unread => absurd unread filled⟩
        intro secretRef secret read
        exact (held secretRef secret read).2 result answered
  disturbs s e := by cases e
  begins_other _ s h inv held := held
  answers_other _ s h c f h' inv held permitted allowed held' := held'.mono lib fun r => serve_reads lib s c f
  finishes_other _ s h a h' inv held returns held' := held'

/-- The cache is transparent: whatever callers and Secrets do, a call that succeeds returns what is
built from the Secret it has read, and no incomplete Secret is answered from the cache. -/
theorem cache_transparent [DecidableEq I]
    (run : (provider lib defaultSecretName target).system.Run (idle .empty) actions t) :
    ∀ read result, (read,result) ∈ t.shared.finished →
      (∀ creds, result = .ok creds →
        ∃ secretRef secret, read = some (secretRef,secret) ∧ buildCredentials lib secret = .ok creds) ∧
      ∀ secretRef secret, read = some (secretRef,secret) → secret.Incomplete →
        result = .error (.secretIncomplete secret.namespaceName secret.name) := by
  have start : Inv lib (Shared.empty : Shared Client) := ⟨by simp [Shared.empty],by simp [Shared.empty],
    by simp [Shared.empty]⟩
  have good := (provider_keeps lib defaultSecretName target).run
    (fun i => resolve_traced defaultSecretName (target i)) (good_idle start) run
  intro read result listed
  obtain ⟨built,unread⟩ := good.1.finished _ listed
  refine ⟨?_,?_⟩
  · rintro creds rfl
    cases read with
    | none =>
      obtain ⟨err,failed⟩ := unread rfl
      cases failed
    | some r => exact ⟨r.1,r.2,rfl,(built r.1 r.2 rfl).symm⟩
  · intro secretRef secret found incomplete
    have same : result = buildCredentials lib secret := built secretRef secret found
    rw [same,buildCredentials,if_pos incomplete]

end Provider

instance (reads : List (NamespacedName × Secret)) (secretRef : NamespacedName) (secret : Secret) :
    Decidable (Consistent reads secretRef secret) :=
  inferInstanceAs (Decidable (∀ r ∈ reads, r.1 = secretRef → r.2.resourceVersion = secret.resourceVersion →
    r.2.data.deepEqual secret.data = true))

instance (s : Shared Client) : (c : Call) → (f : Reply) → Decidable (answerable s c f)
  | .get secretRef,.secret (.ok secret) => inferInstanceAs (Decidable (Consistent s.reads secretRef secret))
  | .get _,.secret (.error _) => isTrue trivial
  | .get _,.locked => isFalse id
  | .locked _ _,.locked => isTrue trivial
  | .locked _ _,.secret _ => isFalse id

/-- Clients that keep what they are made of. -/
def sampleLibrary : Library (Bytes × Bytes × Bytes) (Bytes × Bytes × Bytes) :=
  ⟨fun tenantID clientID clientSecret => .ok (tenantID,clientID,clientSecret),.ok⟩

def sampleSecret (resourceVersion : String) (clientSecret : Bytes) : Secret where
  namespaceName := "azure"
  name := "aso"
  resourceVersion := resourceVersion
  data := ((((∅ : Map String Bytes).insert keyAzureSubscriptionID [1]).insert keyAzureTenantID [2]).insert
    keyAzureClientID [3]).insert keyAzureClientSecret clientSecret

def sampleProvider := provider sampleLibrary "aso" fun _ : Nat => (⟨"azure",∅⟩ : Target)

/-- A caller that has read the older Secret comes to the cache after one that has read the newer; a
third one reads the older version from a stale replica and is answered from the cache. -/
def overtaken : List (Interaction.Action Nat Reply Empty) :=
  [Interaction.Action.begin 0,.begin 1,.answer 0 (.secret (.ok (sampleSecret "1" [4]))),
    .answer 1 (.secret (.ok (sampleSecret "2" [5]))),.answer 1 .locked,.answer 0 .locked,
    .begin 2,.answer 2 (.secret (.ok (sampleSecret "1" [4]))),.answer 2 .locked]

instance (s : Shared (Bytes × Bytes × Bytes)) (h : Notes (Bytes × Bytes × Bytes)) (c : Call) (f : Reply) :
    Decidable (sampleProvider.answerable s h c f) := inferInstanceAs (Decidable (answerable s c f))

instance (s : Shared (Bytes × Bytes × Bytes)) : Decidable (sampleProvider.ready s) := isTrue trivial

instance (s : Shared (Bytes × Bytes × Bytes)) (e : Empty) : Decidable (sampleProvider.possible s e) := isTrue trivial

theorem cache_transparent_overtaken :
    ∃ t, sampleProvider.system.Run (idle .empty) overtaken t ∧
      t.shared.finished.map (·.2) = [.ok ⟨[1],[2],[3],[5]⟩,.ok ⟨[1],[2],[3],[4]⟩,.ok ⟨[1],[2],[3],[4]⟩] ∧
      ∀ read result, (read,result) ∈ t.shared.finished → ∀ creds, result = .ok creds →
        ∃ secretRef secret, read = some (secretRef,secret) ∧
          buildCredentials sampleLibrary secret = .ok creds := by
  have run := System.run_of_admits sampleProvider.system (idle .empty) overtaken (by decide +kernel)
  refine ⟨_,run,by decide +kernel,?_⟩
  intro read result listed
  exact (cache_transparent sampleLibrary "aso" _ run read result listed).1

end Kommodity.AzureARM.CredentialCache
