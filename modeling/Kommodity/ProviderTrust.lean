import Kommodity.ProviderCache

/-! The start-up of any number of server processes over one API. One hook of each writes the
definitions and webhook configurations of its cache with the certificate it finds or makes, the
other serves the webhooks with the certificate it finds or makes. What a process has applied trusts
what all of them serve, whatever was stored before and in whatever order the calls are answered. -/
namespace Kommodity.Provider

open Go Versioned Interaction Transition Secrets WebhookCert StoreCalls

section Hooks

variable {Key : Type}

/-- The calls of the hooks. Those of the last four wait, or act on other objects only. -/
inductive HookCall (Key : Type) where
  | secrets (call : StoreCalls.Call SigningKeys.ObjectKey Secret (CryptoCall Key))
  | objects (call : DynamicCall)
  | ensureNamespace
  | cacheSynced
  | waitEstablished
  | newManager

abbrev HookAnswer (Key : Type) : HookCall Key → Type
  | .secrets call => StoreCalls.Answer APIError (CryptoAnswer Key) call
  | .objects call => DynamicAnswer call
  | .ensureNamespace => Except APIError Unit
  | .cacheSynced => Bool
  | .waitEstablished => Except String Unit
  | .newManager => Except String Unit

inductive HookCause where
  | cert (cause : WebhookCert.Cause)
  | cache (cause : CacheError)
  | api (cause : APIError)
  | timeoutWaitingForCRD
  | timeoutWaitingForWebhook
  | other (detail : String)

abbrev HookErr := Err HookCause

def certErr (err : WebhookCert.Error) : HookErr := ⟨err.context,.cert err.cause⟩
def cacheErr (err : CacheErr) : HookErr := ⟨err.context,.cache err.cause⟩

abbrev HookProgram (Key α : Type) := Program (HookCall Key) (HookAnswer Key) α

/-- A process: the port of its webhook server, its cache, the orders in which its loops visit the
groups of the cache, and the encodings it uses. -/
structure Process (Key : Type) where
  webhookPort : Int
  cache : Cache
  visitApply : List (String × List Json) → List (String × List Json)
  visitApply_perm : ∀ groups, (visitApply groups).Perm groups
  visitReconcile : List (String × List Json) → List (String × List Json)
  visitReconcile_perm : ∀ groups, (visitReconcile groups).Perm groups
  encoding : Encoding Key
  encoding_writes : encoding.WritesBlocks
  base64 : Bytes → String

def webhookURL (port : Int) : String := "https://localhost:" ++ toString port

variable (process : Process Key)

def Process.endpoint (crt : Bytes) : Endpoint := ⟨webhookURL process.webhookPort,crt,process.base64⟩

/-- The groups of the cache with their definitions. -/
def Process.groups : List (String × List Json) :=
  process.cache.providerCRDs.entries.map fun entry => (entry.1,entry.2)

def servingCert : HookProgram Key (Except WebhookCert.Error Pair) :=
  (getOrCreateWebhookServingCert process.encoding).embed HookCall.secrets

def applyProviderResources : HookProgram Key (Option HookErr) := do
  match ← servingCert process with
  | .error err => return some ((certErr err).wrap "failed to get or create webhook serving cert")
  | .ok (crt,_) =>
    match ← (applyCRDProviders (process.endpoint crt) (process.visitApply process.groups)).embed HookCall.objects with
    | (some err,_) => return some ((cacheErr err).wrap "failed to apply all provider CRDs")
    | (none,groups) =>
      match ← (reconcileConversionCABundles (process.endpoint crt) (process.visitReconcile groups)).embed
          HookCall.objects with
      | some err => return some ((cacheErr err).wrap "failed to reconcile conversion caBundles")
      | none =>
        match ← (applyWebhookProviders (process.endpoint crt) process.cache.providerWebhooks).embed
            HookCall.objects with
        | (some err,_) => return some ((cacheErr err).wrap "failed to apply all provider webhooks")
        | (none,_) => return none

def applyCRDsHook : HookProgram Key (Option HookErr) := do
  match ← request HookCall.ensureNamespace with
  | .error err => return some ((Err.of (.api err)).wrap ("failed to ensure namespace \"" ++ kommodityNamespace ++ "\" exists"))
  | .ok () =>
    match ← applyProviderResources process with
    | some err => return some (err.wrap "error applying provider CRDs")
    | none =>
      if ← request HookCall.cacheSynced then
        if ← request HookCall.cacheSynced then return none
        else return some ((Err.of .timeoutWaitingForWebhook).wrap "error applying provider CRDs")
      else return some ((Err.of .timeoutWaitingForCRD).wrap "error applying provider CRDs")

/-- The pair with which the webhooks are served. -/
def startControllerManagersHook : HookProgram Key (Except HookErr Pair) := do
  match ← request HookCall.waitEstablished with
  | .error err =>
    return .error ((Err.of (.other err)).wrap "failed to waiting for provider CRDs are established")
  | .ok () =>
    match ← servingCert process with
    | .error err => return .error ((certErr err).wrap "failed to get or create webhook serving cert")
    | .ok pair =>
      match ← request HookCall.newManager with
      | .error err => return .error ((Err.of (.other err)).wrap "failed to create controller manager")
      | .ok () => return .ok pair

end Hooks

section System

variable {Key I : Type}

/-- The hooks of a process run concurrently. -/
inductive Hook (I : Type) where
  | apply (process : I)
  | controllers (process : I)
  deriving DecidableEq

inductive Outcome (I : Type) where
  | failed
  | applied (process : I)
  | serving (pair : Pair)

def hookProgram (process : I → Process Key) : Hook I → HookProgram Key (Outcome I)
  | .apply i => do
    match ← applyCRDsHook (process i) with
    | some _ => return .failed
    | none => return .applied i
  | .controllers i => do
    match ← startControllerManagersHook (process i) with
    | .error _ => return .failed
    | .ok pair => return .serving pair

/-- What the surroundings choose for a call; `admitted` is what the API server stores for an object
that it accepts. -/
structure HookReply (Key : Type) where
  secrets : StoreCalls.Reply APIError (CryptoAnswer Key)
  fault : Fault APIError
  admitted : Json
  namespaceReady : Except APIError Unit
  synced : Bool
  waited : Except String Unit

structure Shared (I : Type) where
  secrets : Store SigningKeys.ObjectKey Secret
  objects : Store ObjectRef Json
  applied : List I
  serving : List Pair

def patchObject (s : Store ObjectRef Json) (key : ObjectRef) (admitted : Json) :
    Except Versioned.Error (Store ObjectRef Json) :=
  match s.get key with
  | some _ => .ok (s.put key admitted)
  | none => .error .notFound

def serveObjects (s : Store ObjectRef Json) (f : HookReply Key) :
    (c : DynamicCall) → DynamicAnswer c × Store ObjectRef Json
  | .get key => (StoreCalls.read APIError.store (lookup s key) f.fault,s)
  | .create key _ => write APIError.store s (s.create key f.admitted) f.fault
  | .update key _ version => write APIError.store s (s.update key f.admitted version) f.fault
  | .patch key _ => write APIError.store s (patchObject s key f.admitted) f.fault

def serveHook (s : Shared I) : (c : HookCall Key) → HookReply Key → HookAnswer Key c × Shared I
  | .secrets c,f =>
    ((serve APIError.store s.secrets c f.secrets).1,
      { s with secrets := (serve APIError.store s.secrets c f.secrets).2 })
  | .objects c,f => ((serveObjects s.objects f c).1,{ s with objects := (serveObjects s.objects f c).2 })
  | .ensureNamespace,f => (f.namespaceReady,s)
  | .cacheSynced,f => (f.synced,s)
  | .waitEstablished,f => (f.waited,s)
  | .newManager,f => (f.waited,s)

/-- Admission may fill in an object, but keeps its client configurations. -/
def Keeps (given stored : Json) : Prop :=
  ∀ endpoint expected, Trusts endpoint expected given → Trusts endpoint expected stored

/-- An update of a definition may leave the stored client configuration as it was. -/
def Admits (s : Store ObjectRef Json) (admitted : Json) : DynamicCall → Prop
  | .get _ => True
  | .create _ obj => Keeps obj admitted
  | .update key obj _ => Keeps obj admitted ∨
    key.1 = .customResourceDefinitions ∧ ∃ entry, s.get key = some entry ∧ Keeps entry.value admitted
  | .patch key patch => ∀ entry, s.get key = some entry → Keeps (entry.value.mergePatch patch) admitted

/-- What a hook has noted: its reads and writes of the certificate, and the objects that it left with
its own client configuration. -/
structure HookNotes where
  cert : WriteOnce.Notes Secret
  settled : List ObjectRef

def settledBy : DynamicCall → Option ObjectRef
  | .get _ => none
  | .create key _ => some key
  | .update key _ _ => if key.1 = .customResourceDefinitions then none else some key
  | .patch key _ => some key

def succeeds : (c : DynamicCall) → DynamicAnswer c → Bool
  | .get _,a => a.isOk
  | .create _ _,a => a.isOk
  | .update _ _ _,a => a.isOk
  | .patch _ _,a => a.isOk

def noteObjects (settled : List ObjectRef) (c : DynamicCall) (a : DynamicAnswer c) : List ObjectRef :=
  if succeeds c a then (settledBy c).toList ++ settled else settled

def noteHook (h : HookNotes) : (c : HookCall Key) → HookAnswer Key c → HookNotes
  | .secrets c,a => { h with cert := WriteOnce.note h.cert c a }
  | .objects c,a => { h with settled := noteObjects h.settled c a }
  | _,_ => h

/-- Any number of processes, each starting again and again; an object may be deleted at any time. -/
def startUps (process : I → Process Key) :
    Threads (Hook I) (Shared I) (HookCall Key) (HookAnswer Key) (HookReply Key) ObjectRef HookNotes (Outcome I) where
  program := hookProgram process
  fresh := ⟨⟨none,none⟩,[]⟩
  note := noteHook
  ready _ := True
  begin s := s
  answerable s _ c f :=
    match c with
    | .objects c => Admits s.objects f.admitted c
    | _ => True
  serve := serveHook
  finish s _ outcome :=
    match outcome with
    | .failed => s
    | .applied i => { s with applied := i :: s.applied }
    | .serving pair => { s with serving := pair :: s.serving }
  possible _ _ := True
  disturb s key := { s with objects := s.objects.remove key }

end System

section Discipline

variable {endpoint : Endpoint} {release : ObjectRef → Option Expected}

/-- A call that leaves the object it writes with the expected client configuration. -/
def Proper (endpoint : Endpoint) (release : ObjectRef → Option Expected) : DynamicCall → Prop
  | .get _ => True
  | .create key obj => ∀ expected, release key = some expected → Trusts endpoint expected obj
  | .update key obj _ => ∀ expected, release key = some expected → Trusts endpoint expected obj
  | .patch key patch => ∀ expected, release key = some expected →
    ∀ target : Json, Trusts endpoint expected (target.mergePatch patch)

/-- A program of proper calls that settles what it has settled before. -/
abbrev Disciplined (endpoint : Endpoint) (release : ObjectRef → Option Expected) (settled : List ObjectRef)
    (Post : List ObjectRef → α → Prop) (p : DynamicProgram α) : Prop :=
  p.Traced noteObjects (fun _ c => Proper endpoint release c)
    (fun settled' result => settled ⊆ settled' ∧ Post settled' result) settled

theorem noteObjects_subset (settled : List ObjectRef) (c : DynamicCall) (a : DynamicAnswer c) :
    settled ⊆ noteObjects settled c a := by
  unfold noteObjects
  split
  · exact List.subset_append_right _ _
  · exact List.Subset.refl _

theorem load_disciplined (proper : ∀ expected, release key = some expected → Trusts endpoint expected obj)
    (settled : List ObjectRef) : Disciplined endpoint release settled
      (fun settled' result => Same obj result.2 ∧
        (result.1 = none → key.1 ≠ .customResourceDefinitions → key ∈ settled')) (load key obj) := by
  simp only [load,traced_request_bind]
  refine ⟨proper,?_⟩
  rintro (err | ⟨⟩)
  · dsimp only
    split
    · exact ⟨noteObjects_subset _ _ _,.refl _,by rintro ⟨⟩⟩
    · refine ⟨trivial,?_⟩
      rintro (getErr | existing)
      · exact ⟨noteObjects_subset _ _ _,.refl _,by rintro ⟨⟩⟩
      · have same := setResourceVersion_same obj existing.version
        refine ⟨fun expected tracked => setResourceVersion_trusts (proper expected tracked) _,?_⟩
        rintro (err | ⟨⟩)
        · exact ⟨noteObjects_subset _ _ _,same,by rintro ⟨⟩⟩
        · refine ⟨List.Subset.trans (noteObjects_subset settled (.get key) (.ok existing))
            (noteObjects_subset _ _ _),same,?_⟩
          intro _ other
          simp [noteObjects,succeeds,settledBy,other,Except.isOk,Except.toBool]
  · refine ⟨noteObjects_subset _ _ _,.refl _,?_⟩
    simp [noteObjects,succeeds,settledBy,Except.isOk,Except.toBool]

/-- A definition of the cache: it converts where that is expected, and where it does not nothing is. -/
def Listed (release : ObjectRef → Option Expected) (obj : Json) : Prop :=
  if isWebhook obj then Converts obj ∧ release (crdKey obj) = some .conversion else release (crdKey obj) = none

theorem updateConversion_proper (present : endpoint.webhookCRT ≠ []) (listed : Listed release obj)
    (updated : updateConversion endpoint obj = .ok obj') :
    ∀ expected, release (crdKey obj') = some expected → Trusts endpoint expected obj' := by
  intro expected tracked
  rw [(updateConversion_same updated).crdKey_eq] at tracked
  unfold Listed at listed
  split at listed
  · rw [listed.2] at tracked
    cases tracked
    exact updateConversion_trusts present listed.1 updated
  · rw [listed] at tracked
    cases tracked

theorem applyCRDs_disciplined (present : endpoint.webhookCRT ≠ []) (group : String)
    (listed : ∀ obj ∈ objs, Listed release obj) (settled : List ObjectRef) :
    Disciplined endpoint release settled
      (fun _ result => result.1 = none → List.Forall₂ Same objs result.2) (applyCRDs endpoint group objs) := by
  induction objs generalizing settled with
  | nil => exact ⟨List.Subset.refl _,fun _ => .nil⟩
  | cons obj rest ih =>
    rw [applyCRDs]
    split
    · exact ⟨List.Subset.refl _,by rintro ⟨⟩⟩
    · next updated prepared =>
      have proper := updateConversion_proper present (listed obj (List.mem_cons_self ..)) prepared
      refine traced_bind (load_disciplined proper settled) ?_
      rintro settled' ⟨_ | err,loaded⟩ ⟨grown,same,_⟩
      · refine traced_bind (ih (fun obj member => listed obj (List.mem_cons_of_mem _ member)) settled') ?_
        rintro settled'' ⟨err,rest'⟩ ⟨grown',applied⟩
        exact ⟨List.Subset.trans grown grown',fun none' =>
          .cons ((updateConversion_same prepared).trans same) (applied none')⟩
      · exact ⟨grown,by rintro ⟨⟩⟩

/-- The groups keep their definitions, up to the client data. -/
abbrev SameGroups := List.Forall₂ fun (group group' : String × List Json) => List.Forall₂ Same group.2 group'.2

theorem applyCRDProviders_disciplined (present : endpoint.webhookCRT ≠ [])
    (listed : ∀ group ∈ groups, ∀ obj ∈ group.2, Listed release obj) (settled : List ObjectRef) :
    Disciplined endpoint release settled (fun _ result => result.1 = none → SameGroups groups result.2)
      (applyCRDProviders endpoint groups) := by
  induction groups generalizing settled with
  | nil => exact ⟨List.Subset.refl _,fun _ => .nil⟩
  | cons group rest ih =>
    obtain ⟨name,objs⟩ := group
    refine traced_bind (applyCRDs_disciplined present name (listed _ (List.mem_cons_self ..)) settled) ?_
    rintro settled' ⟨_ | err,objs'⟩ ⟨grown,same⟩
    · refine traced_bind (ih (fun group member => listed group (List.mem_cons_of_mem _ member)) settled') ?_
      rintro settled'' ⟨err,rest'⟩ ⟨grown',applied⟩
      exact ⟨List.Subset.trans grown grown',fun none' => .cons (same rfl) (applied none')⟩
    · exact ⟨grown,by rintro ⟨⟩⟩

/-- Where the strategy is the webhook, a conversion webhook is expected. -/
def Tracked (release : ObjectRef → Option Expected) (obj : Json) : Prop :=
  isWebhook obj = true → release (crdKey obj) = some .conversion

theorem reconcileCRDs_disciplined (tracked : ∀ obj ∈ objs, Tracked release obj) (settled : List ObjectRef) :
    Disciplined endpoint release settled
      (fun settled' result => result = none → ∀ obj ∈ objs, isWebhook obj = true → crdKey obj ∈ settled')
      (reconcileCRDs endpoint objs) := by
  induction objs generalizing settled with
  | nil => exact ⟨List.Subset.refl _,fun _ => by simp⟩
  | cons obj rest ih =>
    have later := fun settled => ih (fun obj member => tracked obj (List.mem_cons_of_mem _ member)) settled
    rw [reconcileCRDs]
    split
    · next other =>
      refine (later settled).returns ?_
      rintro settled' result ⟨grown,patched⟩
      refine ⟨grown,fun none' obj' member strategy => ?_⟩
      rcases List.mem_cons.mp member with rfl | member
      · exact absurd strategy other
      · exact patched none' obj' member strategy
    · next strategy =>
      have proper : Proper endpoint release (.patch (crdKey obj) (conversionPatch endpoint)) := by
        intro expected known target
        rw [tracked obj (List.mem_cons_self ..) (by simpa using strategy)] at known
        cases known
        exact mergePatch_trusts endpoint target
      refine ⟨proper,?_⟩
      rintro (err | ⟨⟩)
      · exact ⟨noteObjects_subset _ _ _,by rintro ⟨⟩⟩
      · refine (later _).returns ?_
        rintro settled' result ⟨grown,patched⟩
        refine ⟨List.Subset.trans (noteObjects_subset _ _ _) grown,fun none' obj' member strategy' => ?_⟩
        rcases List.mem_cons.mp member with rfl | member
        · exact grown (by simp [noteObjects,succeeds,settledBy,Except.isOk,Except.toBool])
        · exact patched none' obj' member strategy'

theorem reconcileConversionCABundles_disciplined (tracked : ∀ group ∈ groups, ∀ obj ∈ group.2, Tracked release obj)
    (settled : List ObjectRef) :
    Disciplined endpoint release settled
      (fun settled' result => result = none →
        ∀ group ∈ groups, ∀ obj ∈ group.2, isWebhook obj = true → crdKey obj ∈ settled')
      (reconcileConversionCABundles endpoint groups) := by
  induction groups generalizing settled with
  | nil => exact ⟨List.Subset.refl _,fun _ => by simp⟩
  | cons group rest ih =>
    obtain ⟨name,objs⟩ := group
    refine traced_bind (reconcileCRDs_disciplined (tracked _ (List.mem_cons_self ..)) settled) ?_
    rintro settled' (_ | err) ⟨grown,patched⟩
    · refine (ih (fun group member => tracked group (List.mem_cons_of_mem _ member)) settled').returns ?_
      rintro settled'' result ⟨grown',others⟩
      refine ⟨List.Subset.trans grown grown',fun none' group member obj inside strategy => ?_⟩
      rcases List.mem_cons.mp member with rfl | member
      · exact grown' (patched rfl obj inside strategy)
      · exact others none' group member obj inside strategy
    · exact ⟨grown,by rintro ⟨⟩⟩

theorem applyWebhookProviders_disciplined (present : endpoint.webhookCRT ≠ [])
    (listed : ∀ obj ∈ objs, release (webhookKey obj) = some (.webhooks (hookPaths obj))) (settled : List ObjectRef) :
    Disciplined endpoint release settled
      (fun settled' result => result.1 = none → ∀ obj ∈ objs, webhookKey obj ∈ settled')
      (applyWebhookProviders endpoint objs) := by
  induction objs generalizing settled with
  | nil => exact ⟨List.Subset.refl _,fun _ => by simp⟩
  | cons obj rest ih =>
    rw [applyWebhookProviders]
    split
    · exact ⟨List.Subset.refl _,by rintro ⟨⟩⟩
    · next updated prepared =>
      have key := (updateWebhooks_same prepared).webhookKey_eq
      have proper : ∀ expected, release (webhookKey updated) = some expected → Trusts endpoint expected updated := by
        intro expected known
        rw [key,listed obj (List.mem_cons_self ..)] at known
        cases known
        exact updateWebhooks_trusts present prepared
      refine traced_bind (load_disciplined proper settled) ?_
      rintro settled' ⟨_ | err,loaded⟩ ⟨grown,_,written⟩
      · refine traced_bind (ih (fun obj member => listed obj (List.mem_cons_of_mem _ member)) settled') ?_
        rintro settled'' ⟨err,rest'⟩ ⟨grown',applied⟩
        refine ⟨List.Subset.trans grown grown',fun none' obj' member => ?_⟩
        rcases List.mem_cons.mp member with rfl | member
        · rw [← key]
          refine grown' (written rfl ?_)
          unfold webhookKey
          split <;> simp
        · exact applied none' obj' member
      · exact ⟨grown,by rintro ⟨⟩⟩

end Discipline

section Safety

variable {Key I : Type} {endpoint : Bytes → Endpoint} {release : ObjectRef → Option Expected}

/-- The certificate that a hook has read or written last. -/
def Knows (h : WriteOnce.Notes Secret) (pair : Pair) : Prop :=
  (∃ seen, h.seen = some seen ∧ pairOf seen.value = some pair) ∨
  ∃ value, h.wrote = some value ∧ pairOf value = some pair

/-- Objects are written with the certificate that is known. -/
def NextCall (endpoint : Bytes → Endpoint) (release : ObjectRef → Option Expected) (h : HookNotes) :
    HookCall Key → Prop
  | .secrets c => WriteOnce.Next webhookServingCertSecret pairOf h.cert c
  | .objects c => ∃ pair, Knows h.cert pair ∧ Proper (endpoint pair.1) release c
  | _ => True

/-- An object, if it is stored, trusts the stored certificate. -/
def Trusted (endpoint : Bytes → Endpoint) (release : ObjectRef → Option Expected) (s : Shared I)
    (key : ObjectRef) : Prop :=
  ∀ expected, release key = some expected → ∀ entry, s.objects.get key = some entry →
    ∃ pair, storedPair s.secrets = some pair ∧ Trusts (endpoint pair.1) expected entry.value

/-- The definitions of the groups that convert by a webhook. -/
def conversionKeys (groups : List (String × List Json)) : List ObjectRef :=
  ((groups.flatMap (·.2)).filter isWebhook).map crdKey

/-- The objects of the cache of a process for which a client configuration is expected. -/
def Process.tracked (process : Process Key) : List ObjectRef :=
  conversionKeys process.groups ++ process.cache.providerWebhooks.map webhookKey

structure Consistent (release : ObjectRef → Option Expected) (process : Process Key) : Prop where
  crds : ∀ group ∈ process.groups, ∀ obj ∈ group.2, Listed release obj
  webhooks : ∀ obj ∈ process.cache.providerWebhooks, release (webhookKey obj) = some (.webhooks (hookPaths obj))

/-- What a hook may return. -/
def ReturnsOutcome (process : I → Process Key) (h : HookNotes) : Outcome I → Prop
  | .failed => True
  | .applied i => ∀ key ∈ (process i).tracked, key ∈ h.settled
  | .serving pair => Knows h.cert pair

structure HookHeld (endpoint : Bytes → Endpoint) (release : ObjectRef → Option Expected) (s : Shared I)
    (h : HookNotes) : Prop where
  cert : WriteOnce.Held webhookServingCertSecret pairOf
    (⟨s.secrets,[]⟩ : WriteOnce.Shared SigningKeys.ObjectKey Secret Unit Pair) h.cert
  settled : ∀ key ∈ h.settled, Trusted endpoint release s key

structure HookInv (endpoint : Bytes → Endpoint) (release : ObjectRef → Option Expected) (process : I → Process Key)
    (s : Shared I) : Prop where
  serving : ∀ pair ∈ s.serving, storedPair s.secrets = some pair
  applied : ∀ i ∈ s.applied, ∀ key ∈ (process i).tracked, Trusted endpoint release s key

theorem HookHeld.stored {s : Shared I} (held : HookHeld endpoint release s h) (knows : Knows h.cert pair) :
    storedPair s.secrets = some pair := by
  rcases knows with ⟨seen,read,isPair⟩ | ⟨value,wrote,isPair⟩
  · exact held.cert.seen seen pair read isPair
  · exact held.cert.wrote value pair wrote isPair

theorem trusted_secrets {s : Shared I} (trusted : Trusted endpoint release s key)
    (stays : ∀ pair, storedPair s.secrets = some pair → storedPair secrets = some pair) :
    Trusted endpoint release { s with secrets } key := by
  intro expected known entry found
  obtain ⟨pair,stored,trusts⟩ := trusted expected known entry found
  exact ⟨pair,stays pair stored,trusts⟩

theorem isOk_of_toOption {answer : Except APIError Unit} (none' : answer.toOption = none) : answer.isOk = false := by
  cases answer with
  | error err => rfl
  | ok done => simp [Except.toOption] at none'

/-- What a proper call does to the objects: nothing, or one is stored that has the expected client
configuration, or the one it had before. -/
theorem serveObjects_cases {s : Store ObjectRef Json} {f : HookReply Key} {c : DynamicCall} {endpoint : Endpoint}
    (proper : Proper endpoint release c) (admits : Admits s f.admitted c) :
    ((serveObjects s f c).2 = s ∧ (settledBy c ≠ none → succeeds c (serveObjects s f c).1 = false)) ∨
    ∃ key, (serveObjects s f c).2 = s.put key f.admitted ∧
      ((settledBy c = none ∨ settledBy c = some key) ∧
          (∀ expected, release key = some expected → Trusts endpoint expected f.admitted) ∨
        settledBy c = none ∧ ∃ entry, s.get key = some entry ∧ Keeps entry.value f.admitted) := by
  cases c with
  | get key => exact .inl ⟨rfl,fun settles => absurd rfl settles⟩
  | create key obj =>
    rcases write_cases APIError.store s (s.create key f.admitted) f.fault with ⟨same,none'⟩ | ⟨next,done,after⟩
    · exact .inl ⟨same,fun _ => isOk_of_toOption none'⟩
    · obtain ⟨_,rfl⟩ := create_ok done
      exact .inr ⟨key,after,.inl ⟨.inr rfl,fun expected known => admits _ _ (proper expected known)⟩⟩
  | update key obj version =>
    rcases write_cases APIError.store s (s.update key f.admitted version) f.fault with ⟨same,none'⟩ | ⟨next,done,after⟩
    · exact .inl ⟨same,fun _ => isOk_of_toOption none'⟩
    · obtain ⟨_,rfl⟩ := update_ok done
      refine .inr ⟨key,after,?_⟩
      rcases admits with given | ⟨definition,entry,found,kept⟩
      · refine .inl ⟨?_,fun expected known => given _ _ (proper expected known)⟩
        by_cases definition : key.1 = .customResourceDefinitions <;> simp [settledBy,definition]
      · exact .inr ⟨by simp [settledBy,definition],entry,found,kept⟩
  | patch key patch =>
    rcases write_cases APIError.store s (patchObject s key f.admitted) f.fault with ⟨same,none'⟩ | ⟨next,done,after⟩
    · exact .inl ⟨same,fun _ => isOk_of_toOption none'⟩
    · unfold patchObject at done
      split at done
      · next entry found =>
        cases done
        exact .inr ⟨key,after,.inl ⟨.inr rfl,fun expected known => admits entry found _ _ (proper expected known _)⟩⟩
      · cases done

section Step

variable {s : Shared I} {f : HookReply Key} {c : DynamicCall} (stored : storedPair s.secrets = some pair)
  (proper : Proper (endpoint pair.1) release c) (admits : Admits s.objects f.admitted c)

include stored proper admits

theorem trusted_objects (trusted : Trusted endpoint release s key) :
    Trusted endpoint release { s with objects := (serveObjects s.objects f c).2 } key := by
  rcases serveObjects_cases proper admits with ⟨same,_⟩ | ⟨key',after,written⟩
  · rw [same]
    exact trusted
  · intro expected known entry found
    simp only [after] at found
    by_cases same : key = key'
    · subst same
      rw [get_put_same] at found
      cases found
      rcases written with ⟨_,fresh⟩ | ⟨_,old,found,kept⟩
      · exact ⟨pair,stored,fresh expected known⟩
      · obtain ⟨pair',stored',trusts⟩ := trusted expected known old found
        exact ⟨pair',stored',kept _ _ trusts⟩
    · rw [get_put_other _ _ same] at found
      exact trusted expected known entry found

theorem settled_objects {settled : List ObjectRef} (held : ∀ key ∈ settled, Trusted endpoint release s key) :
    ∀ key ∈ noteObjects settled c (serveObjects s.objects f c).1,
      Trusted endpoint release { s with objects := (serveObjects s.objects f c).2 } key := by
  intro key member
  unfold noteObjects at member
  split at member
  · next success =>
    rcases List.mem_append.mp member with own | earlier
    · have settles : settledBy c = some key := by simpa using own
      rcases serveObjects_cases proper admits with ⟨_,failed⟩ | ⟨key',after,written⟩
      · rw [failed (by simp [settles])] at success
        cases success
      · rcases written with ⟨here,fresh⟩ | ⟨none',_⟩
        · obtain rfl : key = key' := by simpa [settles] using here
          intro expected known entry found
          simp only [after,get_put_same,Option.some.injEq] at found
          subst found
          exact ⟨pair,stored,fresh expected known⟩
        · rw [settles] at none'
          cases none'
    · exact trusted_objects stored proper admits (held key earlier)
  · exact trusted_objects stored proper admits (held key member)

end Step

theorem storedPair_serve {s : Shared I} (held : HookHeld endpoint release s h)
    (permitted : WriteOnce.Next webhookServingCertSecret pairOf h.cert c) (f : HookReply Key) :
    ∀ pair, storedPair s.secrets = some pair →
      storedPair (serve APIError.store s.secrets c f.secrets).2 = some pair :=
  fun _ stored => WriteOnce.serve_settled APIError.store f.secrets held.cert permitted stored

theorem startUps_keep (process : I → Process Key) :
    (startUps process).Keeps (NextCall endpoint release) (ReturnsOutcome process)
      (HookInv endpoint release process) (HookHeld endpoint release) where
  begins s inv _ := ⟨inv,⟨nofun,nofun,nofun⟩,nofun⟩
  answers s h c f inv held permitted answerable := by
    cases c with
    | secrets c =>
      have stays := storedPair_serve held permitted f
      exact ⟨⟨fun pair member => stays pair (inv.serving pair member),
          fun i member key tracked => trusted_secrets (inv.applied i member key tracked) stays⟩,
        WriteOnce.Held.answered APIError.store f.secrets held.cert permitted,
        fun key member => trusted_secrets (held.settled key member) stays⟩
    | objects c =>
      obtain ⟨pair,knows,proper⟩ := permitted
      have stored := held.stored knows
      exact ⟨⟨inv.serving,fun i member key tracked =>
          trusted_objects stored proper answerable (inv.applied i member key tracked)⟩,
        held.cert,settled_objects stored proper answerable held.settled⟩
    | ensureNamespace => exact ⟨inv,held⟩
    | cacheSynced => exact ⟨inv,held⟩
    | waitEstablished => exact ⟨inv,held⟩
    | newManager => exact ⟨inv,held⟩
  finishes s h outcome inv held returns := by
    cases outcome with
    | failed => exact inv
    | applied i =>
      refine ⟨inv.serving,?_⟩
      intro j member key tracked
      rcases List.mem_cons.mp member with rfl | earlier
      · exact held.settled key (returns key tracked)
      · exact inv.applied j earlier key tracked
    | serving pair =>
      refine ⟨?_,inv.applied⟩
      intro pair' member
      rcases List.mem_cons.mp member with rfl | earlier
      · exact held.stored returns
      · exact inv.serving pair' earlier
  disturbs s key inv _ := by
    have trusted : ∀ key', Trusted endpoint release s key' →
        Trusted endpoint release { s with objects := s.objects.remove key } key' := by
      intro key' trusted expected known entry found
      by_cases same : key' = key
      · subst same
        simp at found
      · rw [get_remove_other _ same] at found
        exact trusted expected known entry found
    exact ⟨⟨inv.serving,fun i member key' tracked => trusted key' (inv.applied i member key' tracked)⟩,
      fun h held => ⟨held.cert,fun key' member => trusted key' (held.settled key' member)⟩⟩
  begins_other _ _ _ _ held := held
  answers_other _ s h c f h' _ held permitted answerable held' := by
    cases c with
    | secrets c =>
      have stays := storedPair_serve held permitted f
      exact ⟨WriteOnce.Held.others APIError.store f.secrets held.cert permitted held'.cert,
        fun key member => trusted_secrets (held'.settled key member) stays⟩
    | objects c =>
      obtain ⟨pair,knows,proper⟩ := permitted
      exact ⟨held'.cert,fun key member =>
        trusted_objects (held.stored knows) proper answerable (held'.settled key member)⟩
    | ensureNamespace => exact held'
    | cacheSynced => exact held'
    | waitEstablished => exact held'
    | newManager => exact held'
  finishes_other _ s h outcome h' _ _ _ held := by
    cases outcome <;> exact ⟨held.cert,held.settled⟩

section Traces

variable {process : Process Key}

theorem pairOf_cert (isPair : pairOf secret = some pair) : pair.1 ≠ [] := by
  unfold pairOf webhookCertDataFromSecret at isPair
  split at isPair
  · split at isPair
    · simp [Except.toOption] at isPair
    · next filled =>
      simp only [Except.toOption,Option.some.injEq] at isPair
      subst isPair
      exact (not_or.mp filled).1
  · simp [Except.toOption] at isPair

theorem Knows.cert (knows : Knows h pair) : pair.1 ≠ [] := by
  rcases knows with ⟨_,_,isPair⟩ | ⟨_,_,isPair⟩ <;> exact pairOf_cert isPair

theorem servingCert_traced (fresh : h.cert = ⟨none,none⟩) :
    (servingCert process).Traced noteHook (NextCall endpoint release)
      (fun h' result => h'.settled = h.settled ∧ ∀ pair, result = .ok pair → Knows h'.cert pair) h := by
  have disciplined := getOrCreateWebhookServingCert_traced process.encoding_writes
  rw [← fresh] at disciplined
  refine (Program.Traced.embed HookCall.secrets HookNotes.cert (fun h' => h'.settled = h.settled)
    (fun _ _ _ => rfl) (fun _ _ _ same => same) (fun _ _ _ next => next) disciplined rfl).returns ?_
  rintro h' result ⟨same,returns⟩
  exact ⟨same,fun pair isResult => returns pair isResult⟩

theorem objects_traced {p : DynamicProgram α} {Post : List ObjectRef → α → Prop} (knows : Knows h.cert pair)
    (disciplined : Disciplined (endpoint pair.1) release h.settled Post p) :
    (p.embed HookCall.objects : HookProgram Key α).Traced noteHook (NextCall endpoint release)
      (fun h' result => h'.cert = h.cert ∧ h.settled ⊆ h'.settled ∧ Post h'.settled result) h := by
  refine (Program.Traced.embed HookCall.objects HookNotes.settled (fun h' => h'.cert = h.cert)
    (fun _ _ _ => rfl) (fun _ _ _ same => same) ?_ disciplined rfl).returns fun _ _ returns => returns
  intro h' c same proper
  exact ⟨pair,same ▸ knows,proper⟩

theorem exists_related {R : X → Y → Prop} (related : List.Forall₂ R xs ys) (member : y ∈ ys) : ∃ x ∈ xs, R x y := by
  induction related with
  | nil => cases member
  | cons first _ ih =>
    rcases List.mem_cons.mp member with rfl | later
    · exact ⟨_,List.mem_cons_self ..,first⟩
    · obtain ⟨x,listed,holds⟩ := ih later
      exact ⟨x,List.mem_cons_of_mem _ listed,holds⟩

theorem tracked_of_same (same : SameGroups groups groups') (listed : ∀ group ∈ groups, ∀ obj ∈ group.2, Listed release obj) :
    (∀ group' ∈ groups', ∀ obj' ∈ group'.2, Tracked release obj') ∧
    ∀ group ∈ groups, ∀ obj ∈ group.2, isWebhook obj = true →
      ∃ group' ∈ groups', ∃ obj' ∈ group'.2, isWebhook obj' = true ∧ crdKey obj' = crdKey obj := by
  constructor
  · intro group' member' obj' inside' strategy
    obtain ⟨group,member,objs⟩ := exists_related same member'
    obtain ⟨obj,inside,kept⟩ := exists_related objs inside'
    have found := listed group member obj inside
    rw [Listed,← kept.isWebhook_eq,strategy] at found
    rw [kept.crdKey_eq]
    exact found.2
  · intro group member obj inside strategy
    obtain ⟨group',member',objs⟩ := exists_related (List.Forall₂.flip same) member
    obtain ⟨obj',inside',kept⟩ := exists_related (List.Forall₂.flip objs) inside
    exact ⟨group',member',obj',inside',kept.isWebhook_eq.trans strategy,kept.crdKey_eq⟩

theorem mem_tracked {process : Process Key} (member : key ∈ process.tracked) :
    (∃ group ∈ process.groups, ∃ obj ∈ group.2, isWebhook obj = true ∧ crdKey obj = key) ∨
    ∃ obj ∈ process.cache.providerWebhooks, webhookKey obj = key := by
  rcases List.mem_append.mp member with crd | webhook
  · obtain ⟨obj,listed,rfl⟩ := List.mem_map.mp crd
    obtain ⟨inside,strategy⟩ := List.mem_filter.mp listed
    obtain ⟨group,member,inside⟩ := List.mem_flatMap.mp inside
    exact .inl ⟨group,member,obj,inside,strategy,rfl⟩
  · obtain ⟨obj,listed,rfl⟩ := List.mem_map.mp webhook
    exact .inr ⟨obj,listed,rfl⟩

theorem applyProviderResources_traced (consistent : Consistent release process) (fresh : h.cert = ⟨none,none⟩) :
    (applyProviderResources process).Traced noteHook (NextCall process.endpoint release)
      (fun h' result => result = none → ∀ key ∈ process.tracked, key ∈ h'.settled) h := by
  refine traced_bind (servingCert_traced fresh) ?_
  rintro h₁ (err | pair) ⟨_,returns⟩
  · rintro ⟨⟩
  have knows := returns pair rfl
  have listed : ∀ group ∈ process.visitApply process.groups, ∀ obj ∈ group.2, Listed release obj :=
    fun group member => consistent.crds group ((process.visitApply_perm _).mem_iff.mp member)
  refine traced_bind (objects_traced knows (applyCRDProviders_disciplined knows.cert listed _)) ?_
  rintro h₂ ⟨_ | err,groups⟩ ⟨known₂,_,applied⟩
  swap
  · rintro ⟨⟩
  obtain ⟨tracked,patched⟩ := tracked_of_same (applied rfl) listed
  have knows₂ : Knows h₂.cert pair := known₂ ▸ knows
  have trackedNext : ∀ group ∈ process.visitReconcile groups, ∀ obj ∈ group.2, Tracked release obj :=
    fun group member => tracked group ((process.visitReconcile_perm _).mem_iff.mp member)
  refine traced_bind (objects_traced knows₂ (reconcileConversionCABundles_disciplined trackedNext _)) ?_
  rintro h₃ (_ | err) ⟨known₃,_,reconciled⟩
  swap
  · rintro ⟨⟩
  have knows₃ : Knows h₃.cert pair := known₃ ▸ knows₂
  refine traced_bind (objects_traced knows₃
    (applyWebhookProviders_disciplined knows.cert consistent.webhooks _)) ?_
  rintro h₄ ⟨_ | err,_⟩ ⟨_,grown,written⟩
  swap
  · rintro ⟨⟩
  intro _ key member
  rcases mem_tracked member with ⟨group,grouped,obj,inside,strategy,rfl⟩ | ⟨obj,listed,rfl⟩
  · obtain ⟨group',member',obj',inside',strategy',same⟩ :=
      patched group ((process.visitApply_perm _).mem_iff.mpr grouped) obj inside strategy
    rw [← same]
    exact grown (reconciled rfl group' ((process.visitReconcile_perm _).mem_iff.mpr member') obj' inside' strategy')
  · exact written rfl obj listed

theorem hookProgram_traced {process : I → Process Key} (site : ∀ i, (process i).endpoint = endpoint)
    (consistent : ∀ i, Consistent release (process i)) (hook : Hook I) :
    (hookProgram process hook).Traced noteHook (NextCall endpoint release) (ReturnsOutcome process)
      ⟨⟨none,none⟩,[]⟩ := by
  cases hook with
  | apply i =>
    have resources : ∀ h : HookNotes, h.cert = ⟨none,none⟩ →
        (applyProviderResources (process i)).Traced noteHook (NextCall endpoint release)
          (fun h' result => result = none → ∀ key ∈ (process i).tracked, key ∈ h'.settled) h :=
      fun h fresh => site i ▸ applyProviderResources_traced (consistent i) fresh
    have hook : (applyCRDsHook (process i)).Traced noteHook (NextCall endpoint release)
        (fun h' result => result = none → ∀ key ∈ (process i).tracked, key ∈ h'.settled)
        ⟨⟨none,none⟩,[]⟩ := by
      simp only [applyCRDsHook,traced_request_bind]
      refine ⟨trivial,?_⟩
      rintro (err | ⟨⟩)
      · rintro ⟨⟩
      · refine traced_bind (resources _ rfl) ?_
        rintro h (_ | err) applied
        · refine ⟨trivial,?_⟩
          rintro (_ | _)
          · rintro ⟨⟩
          · refine ⟨trivial,?_⟩
            rintro (_ | _)
            · rintro ⟨⟩
            · exact applied
        · rintro ⟨⟩
    refine traced_bind hook ?_
    rintro h (_ | err) applied
    · exact applied rfl
    · trivial
  | controllers i =>
    have hook : (startControllerManagersHook (process i)).Traced noteHook (NextCall endpoint release)
        (fun h' result => ∀ pair, result = .ok pair → Knows h'.cert pair) ⟨⟨none,none⟩,[]⟩ := by
      simp only [startControllerManagersHook,traced_request_bind]
      refine ⟨trivial,?_⟩
      rintro (err | ⟨⟩)
      · rintro _ ⟨⟩
      · refine traced_bind (servingCert_traced rfl) ?_
        rintro h (err | pair) ⟨_,returns⟩
        · rintro _ ⟨⟩
        · refine ⟨trivial,?_⟩
          rintro (err | ⟨⟩)
          · rintro _ ⟨⟩
          · rintro _ ⟨⟩
            exact returns pair rfl
    refine traced_bind hook ?_
    rintro h (err | pair) returns
    · trivial
    · exact returns pair rfl

end Traces

/-- Whatever is stored when the processes start, and however their calls are answered: what a process
has applied trusts, from then on, the certificate with which every process serves its webhooks. -/
theorem applied_trusts_served [DecidableEq I] (process : I → Process Key)
    (site : ∀ i, (process i).endpoint = endpoint) (consistent : ∀ i, Consistent release (process i))
    (run : (startUps process).system.Run (idle ⟨secrets,objects,[],[]⟩) actions t) :
    (∀ pair ∈ t.shared.serving, storedPair t.shared.secrets = some pair) ∧
    ∀ i ∈ t.shared.applied, ∀ key ∈ (process i).tracked, ∀ expected, release key = some expected →
      ∀ entry, t.shared.objects.get key = some entry →
        ∃ pair, storedPair t.shared.secrets = some pair ∧ Trusts (endpoint pair.1) expected entry.value := by
  have initial : HookInv endpoint release process (⟨secrets,objects,[],[]⟩ : Shared I) := ⟨nofun,nofun⟩
  have good := (startUps_keep process).run (hookProgram_traced site consistent) (good_idle initial) run
  exact ⟨good.1.serving,good.1.applied⟩

end Safety

section Sample

def clustersProcess : Process Bytes where
  webhookPort := 8443
  cache := ⟨∅,(∅ : Map String (List Json)).insert "cluster.x-k8s.io" [clustersCRD],[]⟩
  visitApply := id
  visitApply_perm _ := .refl _
  visitReconcile := id
  visitReconcile_perm _ := .refl _
  encoding := plainEncoding
  encoding_writes := plainEncoding_writes
  base64 := hexEncodeToString

def clustersRelease (key : ObjectRef) : Option Expected :=
  if key = crdKey clustersCRD then some .conversion else none

theorem clustersProcess_consistent : Consistent clustersRelease clustersProcess where
  crds := by
    intro group member obj inside
    have groups : clustersProcess.groups = [("cluster.x-k8s.io",[clustersCRD])] := rfl
    rw [groups,List.mem_singleton] at member
    subst member
    obtain rfl : obj = clustersCRD := List.mem_singleton.mp inside
    have strategy : isWebhook clustersCRD = true := rfl
    rw [Listed,if_pos strategy]
    refine ⟨⟨strategy,?_⟩,if_pos rfl⟩
    rintro _ ⟨⟩
    rfl
  webhooks := by simp [clustersProcess]

/-- A successful answer to every call; the server stores what is given. -/
def accepted (admitted : Json) : HookReply Bytes := ⟨fine 1,.none,admitted,.ok (),true,.ok ()⟩

def clustersEndpoint : Endpoint := clustersProcess.endpoint (plainEncoding.pemEncode "CERTIFICATE" [1])

/-- The definition as it is created, and as it is patched. -/
def clustersCreated : Json := ((updateConversion clustersEndpoint clustersCRD).toOption).getD .null
def clustersPatched : Json := clustersCreated.mergePatch (conversionPatch clustersEndpoint)

/-- One process applies its cache, and another one serves the webhooks. -/
def clustersStart : List (Action (Hook (Fin 2)) (HookReply Bytes) ObjectRef) :=
  Action.begin (.apply 0) :: List.replicate 7 (Action.answer (.apply 0) (accepted .null)) ++
    [Action.answer (.apply 0) (accepted clustersCreated),Action.answer (.apply 0) (accepted clustersPatched),
      Action.answer (.apply 0) (accepted .null),Action.answer (.apply 0) (accepted .null),
      Action.begin (.controllers 1),Action.answer (.controllers 1) (accepted .null),
      Action.answer (.controllers 1) (accepted .null),Action.answer (.controllers 1) (accepted .null)]

theorem applied_trusts_served_clusters :
    ∃ t, (startUps fun _ : Fin 2 => clustersProcess).system.Run (idle ⟨Store.empty,Store.empty,[],[]⟩) clustersStart t ∧
      t.shared.applied = [0] ∧ ∃ entry, t.shared.objects.get (crdKey clustersCRD) = some entry ∧
        ∃ pair ∈ t.shared.serving, Trusts (clustersProcess.endpoint pair.1) .conversion entry.value := by
  have run : (startUps fun _ : Fin 2 => clustersProcess).system.Run (idle ⟨Store.empty,Store.empty,[],[]⟩)
      clustersStart _ :=
    .of ⟨⟨rfl,trivial⟩,⟨_,_,_,rfl,trivial⟩,⟨_,_,_,rfl,trivial⟩,⟨_,_,_,rfl,trivial⟩,⟨_,_,_,rfl,trivial⟩,
      ⟨_,_,_,rfl,trivial⟩,⟨_,_,_,rfl,trivial⟩,⟨_,_,_,rfl,trivial⟩,⟨_,_,_,rfl,fun _ _ trusts => trusts⟩,
      ⟨_,_,_,rfl,by rintro _ ⟨⟩; exact fun _ _ trusts => trusts⟩,⟨_,_,_,rfl,trivial⟩,⟨_,_,_,rfl,trivial⟩,
      ⟨rfl,trivial⟩,⟨_,_,_,rfl,trivial⟩,⟨_,_,_,rfl,trivial⟩,⟨_,_,_,rfl,trivial⟩,trivial⟩
  obtain ⟨served,applied⟩ := applied_trusts_served (fun _ => clustersProcess) (fun _ => rfl)
    (fun _ => clustersProcess_consistent) run
  refine ⟨_,run,rfl,_,rfl,_,List.mem_cons_self ..,?_⟩
  obtain ⟨pair,stored,trusts⟩ := applied 0 (List.mem_cons_self ..) (crdKey clustersCRD) (List.mem_cons_self ..)
    .conversion (if_pos rfl) _ rfl
  rw [served _ (List.mem_cons_self ..)] at stored
  cases stored
  exact trusts

end Sample

end Kommodity.Provider
