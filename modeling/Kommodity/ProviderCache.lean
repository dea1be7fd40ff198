import Kommodity.Config
import Kommodity.GoJson
import Kommodity.ProviderCRDs
import Kommodity.WebhookCert

/-! The provider cache: the definitions and webhook configurations that are embedded in the server.
They are decoded at start-up, given the address and the certificate of the webhook server of this
process, and created or updated through the API. -/
namespace Kommodity.Provider

open Go Versioned Interaction Secrets

inductive CacheError where
  | provider (cause : ProviderError)
  | decode (detail : String)
  | accessor (path : List String)
  /-- An error that wraps none: the field is absent. -/
  | absent
  | specGroupMissing
  | failedToConvertWebhook
  | api (cause : APIError)
  deriving DecidableEq

abbrev CacheErr := Err CacheError

section Loading

structure GVK where
  group : String
  version : String
  kind : String
  deriving DecidableEq

inductive KnownType where
  | unstructured
  | unstructuredList
  | typed (name : String)
  deriving DecidableEq

abbrev Scheme := Map GVK KnownType

/-- The scheme panics at a version without a name, and at a second type for a kind: `none`. -/
def addKnownTypeWithName (scheme : Scheme) (gvk : GVK) (type : KnownType) : Option Scheme :=
  if gvk.version = "" then none
  else match scheme.lookup gvk with
    | some old => if old = type then some (scheme.insert gvk type) else none
    | none => some (scheme.insert gvk type)

/-- One turn of the loop of `loadCRDInScheme`. -/
def loadVersionInScheme (group kind : String) (scheme : Scheme) (version : Json) : Option Scheme :=
  match version with
  | .object spec =>
    match spec.lookup "served",spec.lookup "name" with
    | some (.bool true),some (.string name) =>
      if (scheme.lookup ⟨group,name,kind⟩).isSome then some scheme
      else (addKnownTypeWithName scheme ⟨group,name,kind⟩ .unstructured).bind fun scheme =>
        addKnownTypeWithName scheme ⟨group,name,kind ++ "List"⟩ .unstructuredList
    | _,_ => some scheme
  | _ => some scheme

/-- The kind that the names of a definition give, empty when there is none. -/
def crdKind (obj : Json) : String :=
  match obj.nestedString ["spec","names","kind"] with
  | .ok (some kind) => kind
  | _ => ""

def crdVersions (obj : Json) : List Json :=
  match obj.nestedSlice ["spec","versions"] with
  | .ok (some versions) => versions
  | _ => []

def loadCRDInScheme (group : String) (obj : Json) (scheme : Scheme) : Option Scheme :=
  (crdVersions obj).foldlM (loadVersionInScheme group (crdKind obj)) scheme

structure Cache where
  scheme : Scheme
  providerCRDs : Map String (List Json)
  providerWebhooks : List Json

/-- The embedded directories, each with its files, and the decoders of what is in them. -/
structure Embedded (Rest Fields : Type) where
  crds : List (Config.Provider × List Bytes)
  webhooks : List Bytes
  decode : Bytes → Except String Json
  converter : Converter Json Rest Fields

variable (embedded : Embedded Rest Fields)

def decodeCRD (crd : Bytes) : Except CacheErr (String × Json) :=
  match embedded.decode crd with
  | .error err => .error ((Err.of (.decode err)).wrap "failed to decode YAML")
  | .ok obj =>
    match obj.nestedString ["spec","group"] with
    | .error path => .error ((Err.of (.accessor path)).wrap "failed to extract group from CRD")
    | .ok none => .error (.of .specGroupMissing)
    | .ok (some group) => .ok (group,obj)

/-- What becomes of a file: its group, and the definition without its deprecated versions. -/
def prepareCRD (crd : Bytes) : Except CacheErr (String × Json) :=
  match decodeCRD embedded crd with
  | .error err => .error (err.wrap "failed to decode CRD")
  | .ok (group,obj) =>
    match stripDeprecatedVersions embedded.converter obj with
    | (some err,_) => .error ((⟨err.context,.provider err.cause⟩ : CacheErr).wrap "failed to strip deprecated versions")
    | (none,obj) => .ok (group,obj)

/-- Loading fails with an error, or panics. -/
abbrev Load (α : Type) := ExceptT CacheErr Option α

def cacheCRD (cache : Cache) (group : String) (obj : Json) (scheme : Scheme) : Cache :=
  { cache with
    scheme
    providerCRDs := cache.providerCRDs.insert group (cache.providerCRDs.index group ++ [obj]) }

def loadCRD (cache : Cache) (crd : Bytes) : Load Cache :=
  match prepareCRD embedded crd with
  | .error err => throw err
  | .ok (group,obj) =>
    match loadCRDInScheme group obj cache.scheme with
    | none => ExceptT.lift none
    | some scheme => pure (cacheCRD cache group obj scheme)

def loadCRDCache (enabled : List Config.Provider) (cache : Cache) : Load Cache :=
  embedded.crds.foldlM (fun cache provider =>
    if provider.1 ∉ enabled then pure cache else provider.2.foldlM (loadCRD embedded) cache) cache

def loadWebhook (cache : Cache) (webhook : Bytes) : Load Cache :=
  match embedded.decode webhook with
  | .error err => throw ((Err.of (.decode err)).wrap "failed to decode YAML")
  | .ok obj => pure { cache with providerWebhooks := cache.providerWebhooks ++ [obj] }

def loadWebhookCache (cache : Cache) : Load Cache := embedded.webhooks.foldlM (loadWebhook embedded) cache

def loadCache (enabled : List Config.Provider) (cache : Cache) : Load Cache := do
  let cache ← ExceptT.adapt (Err.wrap "failed to load CRD cache") (loadCRDCache embedded enabled cache)
  ExceptT.adapt (Err.wrap "failed to load webhook cache") (loadWebhookCache embedded cache)

def newProviderCache (scheme : Scheme) : Cache := ⟨scheme,∅,[]⟩

/-- The files of the providers that are enabled, in the order of the directories. -/
def enabledFiles (enabled : List Config.Provider) : List Bytes :=
  (embedded.crds.filter (·.1 ∈ enabled)).flatMap (·.2)

end Loading

section Applying

inductive Resource where
  | customResourceDefinitions
  | mutatingWebhookConfigurations
  | validatingWebhookConfigurations
  deriving DecidableEq

abbrev ObjectRef := Resource × String

/-- The calls of the dynamic client. An update presents the version that was read. -/
inductive DynamicCall where
  | get (key : ObjectRef)
  | create (key : ObjectRef) (obj : Json)
  | update (key : ObjectRef) (obj : Json) (version : Nat)
  | patch (key : ObjectRef) (patch : Json)

abbrev DynamicAnswer : DynamicCall → Type
  | .get _ => Except APIError (Entry Json)
  | .create _ _ => Except APIError Unit
  | .update _ _ _ => Except APIError Unit
  | .patch _ _ => Except APIError Unit

abbrev DynamicProgram (α : Type) := Program DynamicCall DynamicAnswer α

/-- `GetName`, which is empty when there is none. -/
def getName (obj : Json) : String :=
  match obj.nestedString ["metadata","name"] with
  | .ok (some name) => name
  | _ => ""

def getKind (obj : Json) : String :=
  match obj.nestedString ["kind"] with
  | .ok (some kind) => kind
  | _ => ""

/-- The setter drops its error. -/
def setResourceVersion (obj : Json) (version : Nat) : Json :=
  match Json.setNestedField obj.fields (.string (toString version)) "metadata" ["resourceVersion"] with
  | .ok fields => .object fields
  | .error _ => obj

/-- The error, and the object of the cache afterwards: it keeps the version that was set. -/
def load (key : ObjectRef) (obj : Json) : DynamicProgram (Option CacheErr × Json) := do
  match ← request (DynamicCall.create key obj) with
  | .ok () => return (none,obj)
  | .error err =>
    if err ≠ .store .alreadyExists then
      return (some ((Err.of (.api err)).wrap "failed to create CRD"),obj)
    else
      match ← request (DynamicCall.get key) with
      | .error getErr => return (some ((Err.of (.api getErr)).wrap "failed to get existing CRD"),obj)
      | .ok existing =>
        match ← request (DynamicCall.update key (setResourceVersion obj existing.version) existing.version) with
        | .error err =>
          return (some ((Err.of (.api err)).wrap "failed to update CRD"),setResourceVersion obj existing.version)
        | .ok () => return (none,setResourceVersion obj existing.version)

def webhookStrategy : String := "Webhook"
def conversionWebhookPath : String := "/convert"
def strategyPath : List String := ["spec","conversion","strategy"]
def conversionPath : List String := ["spec","conversion","webhook"]

/-- The conversion strategy is the webhook. -/
def isWebhook (obj : Json) : Bool :=
  match obj.nestedString strategyPath with
  | .ok (some strategy) => strategy == webhookStrategy
  | _ => false

/-- The URL and the certificate of the webhook server, and the text that JSON has for bytes. -/
structure Endpoint where
  webhookURL : String
  webhookCRT : Bytes
  base64 : Bytes → String

variable (endpoint : Endpoint)

/-- The client configuration as it is marshalled: empty fields are left out. -/
def clientConfig (path : String) : Json :=
  .object (("url",.string (endpoint.webhookURL ++ path)) ::
    if endpoint.webhookCRT = [] then [] else [("caBundle",.string (endpoint.base64 endpoint.webhookCRT))])

def updateWebhookWithClientData (webhook : Json.Fields) : Except CacheErr Json.Fields :=
  match (Json.object webhook).nestedString ["clientConfig","service","path"] with
  | .error path => .error ((Err.of (.accessor path)).wrap "failed to extract path from webhook configuration")
  | .ok none => .error ((Err.of .absent).wrap "failed to extract path from webhook configuration")
  | .ok (some path) => .ok (Json.setField webhook "clientConfig" (clientConfig endpoint path))

/-- The definition with the client data in its conversion webhook. -/
def updateConversion (obj : Json) : Except CacheErr Json :=
  if ¬ isWebhook obj then .ok obj
  else match obj.nestedField conversionPath with
    | .error path => .error ((Err.of (.accessor path)).wrap "failed to extract webhook from crd configuration")
    | .ok none => .error ((Err.of .absent).wrap "failed to extract webhook from crd configuration")
    | .ok (some (.object webhook)) =>
      match updateWebhookWithClientData endpoint webhook with
      | .error err => .error (err.wrap "failed to update webhook with client data")
      | .ok webhook =>
        match Json.setNestedField obj.fields (.object webhook) "spec" ["conversion","webhook"] with
        | .error path => .error ((Err.of (.accessor path)).wrap "failed to set webhook in crd configuration")
        | .ok fields => .ok (.object fields)
    | .ok (some _) => .error (.of .failedToConvertWebhook)

def crdKey (obj : Json) : ObjectRef := (.customResourceDefinitions,getName obj)

/-- The inner loop of `ApplyCRDProviders`: the error, and the objects of the cache afterwards. -/
def applyCRDs (group : String) : List Json → DynamicProgram (Option CacheErr × List Json)
  | [] => return (none,[])
  | obj :: rest =>
    match updateConversion endpoint obj with
    | .error err => return (some err,obj :: rest)
    | .ok updated => do
      match ← load (crdKey updated) updated with
      | (some err,loaded) => return (some (err.wrap ("failed to load CRD for group " ++ group)),loaded :: rest)
      | (none,loaded) => do
        let (err,rest) ← applyCRDs group rest
        return (err,loaded :: rest)

/-- The groups come in the order in which the loop visits them. -/
def applyCRDProviders : List (String × List Json) → DynamicProgram (Option CacheErr × List (String × List Json))
  | [] => return (none,[])
  | (group,objs) :: rest => do
    match ← applyCRDs endpoint group objs with
    | (some err,objs) => return (some err,(group,objs) :: rest)
    | (none,objs) => do
      let (err,rest) ← applyCRDProviders rest
      return (err,(group,objs) :: rest)

/-- The merge patch of the conversion webhook. -/
def conversionPatch : Json :=
  .object [("spec",.object [("conversion",.object
    [("strategy",.string webhookStrategy),
     ("webhook",.object [("clientConfig",.object
       [("url",.string (endpoint.webhookURL ++ conversionWebhookPath)),
        ("caBundle",.string (endpoint.base64 endpoint.webhookCRT)),
        ("service",.null)])])])])]

def reconcileCRDs : List Json → DynamicProgram (Option CacheErr)
  | [] => return none
  | obj :: rest =>
    if ¬ isWebhook obj then reconcileCRDs rest
    else do
      match ← request (DynamicCall.patch (crdKey obj) (conversionPatch endpoint)) with
      | .error err =>
        return some ((Err.of (.api err)).wrap ("failed to patch conversion caBundle for CRD " ++ getName obj))
      | .ok () => reconcileCRDs rest

def reconcileConversionCABundles : List (String × List Json) → DynamicProgram (Option CacheErr)
  | [] => return none
  | (_,objs) :: rest => do
    match ← reconcileCRDs endpoint objs with
    | some err => return some err
    | none => reconcileConversionCABundles rest

/-- A field that is filled when it is not there. -/
def withDefault (fields : Json.Fields) (key : String) : Json.Fields :=
  if (fields.lookup key).isSome then fields else Json.setField fields key (.object [])

def updateHook : Json → Except CacheErr Json
  | .object webhook =>
    match updateWebhookWithClientData endpoint
        (withDefault (withDefault webhook "namespaceSelector") "objectSelector") with
    | .error err => .error (err.wrap "failed to update webhook with client data")
    | .ok webhook => .ok (.object webhook)
  | _ => .error (.of .failedToConvertWebhook)

def updateWebhooks (obj : Json) : Except CacheErr Json :=
  match obj.nestedSlice ["webhooks"] with
  | .error path => .error ((Err.of (.accessor path)).wrap "failed to extract webhooks from webhook configuration")
  | .ok none => .error ((Err.of .absent).wrap "failed to extract webhooks from webhook configuration")
  | .ok (some webhooks) =>
    match webhooks.mapM (updateHook endpoint) with
    | .error err => .error err
    | .ok webhooks =>
      match Json.setNestedField obj.fields (.array webhooks) "webhooks" [] with
      | .error path => .error ((Err.of (.accessor path)).wrap "failed to set webhooks in webhook configuration")
      | .ok fields => .ok (.object fields)

def webhookKey (obj : Json) : ObjectRef :=
  (if getKind obj = "ValidatingWebhookConfiguration" then .validatingWebhookConfigurations
    else .mutatingWebhookConfigurations,getName obj)

def applyWebhookProviders : List Json → DynamicProgram (Option CacheErr × List Json)
  | [] => return (none,[])
  | obj :: rest =>
    match updateWebhooks endpoint obj with
    | .error err =>
      return (some (err.wrap ("failed to update webhook " ++ getName obj ++ " with client data")),obj :: rest)
    | .ok updated => do
      match ← load (webhookKey updated) updated with
      | (some err,loaded) => return (some (err.wrap ("failed to load webhook " ++ getName updated)),loaded :: rest)
      | (none,loaded) => do
        let (err,rest) ← applyWebhookProviders rest
        return (err,loaded :: rest)

end Applying

section Trust

variable {endpoint : Endpoint}

/-- A client configuration that leads to a path of the webhook server and trusts its certificate. -/
structure PointsTo (endpoint : Endpoint) (path : String) (config : Json) : Prop where
  url : config.atPath ["url"] = some (.string (endpoint.webhookURL ++ path))
  caBundle : config.atPath ["caBundle"] = some (.string (endpoint.base64 endpoint.webhookCRT))
  service : config.atPath ["service"] = none

/-- What the API server is to find in an object: a conversion webhook, or webhooks at these paths. -/
inductive Expected where
  | conversion
  | webhooks (paths : List String)

def HookPointsTo (endpoint : Endpoint) (path : String) (hook : Json) : Prop :=
  ∃ config, hook.atPath ["clientConfig"] = some config ∧ PointsTo endpoint path config

def Trusts (endpoint : Endpoint) : Expected → Json → Prop
  | .conversion,obj => obj.atPath strategyPath = some (.string webhookStrategy) ∧
    ∃ webhook, obj.atPath conversionPath = some webhook ∧ HookPointsTo endpoint conversionWebhookPath webhook
  | .webhooks paths,obj =>
    ∃ hooks, obj.atPath ["webhooks"] = some (.array hooks) ∧ List.Forall₂ (HookPointsTo endpoint) paths hooks

theorem isWebhook_iff (obj : Json) : isWebhook obj = true ↔ obj.atPath strategyPath = some (.string webhookStrategy) := by
  rw [← Json.nestedString_found,isWebhook]
  split
  · next strategy found => rw [found]; simp
  · next other => exact iff_of_false (by simp) (fun found => other _ found)

theorem clientConfig_pointsTo (present : endpoint.webhookCRT ≠ []) (path : String) :
    PointsTo endpoint path (clientConfig endpoint path) := by
  constructor <;> simp [clientConfig,present,Json.atPath_cons,Json.lookup_cons_eq]

/-- The path that the configuration of a webhook gives for the service. -/
def servicePath (webhook : Json) : Option String :=
  match webhook.nestedString ["clientConfig","service","path"] with
  | .ok path => path
  | .error _ => none

theorem updateWebhookWithClientData_ok (updated : updateWebhookWithClientData endpoint webhook = .ok webhook') :
    ∃ path, servicePath (.object webhook) = some path ∧
      webhook' = Json.setField webhook "clientConfig" (clientConfig endpoint path) := by
  unfold updateWebhookWithClientData at updated
  split at updated
  · cases updated
  · cases updated
  · next path found =>
    cases updated
    exact ⟨path,by simp [servicePath,found],rfl⟩

theorem hookPointsTo_setField (present : endpoint.webhookCRT ≠ []) (webhook : Json.Fields) (path : String) :
    HookPointsTo endpoint path (.object (Json.setField webhook "clientConfig" (clientConfig endpoint path))) :=
  ⟨clientConfig endpoint path,by simp [Json.atPath_cons],clientConfig_pointsTo present path⟩

/-- A definition with a conversion webhook, whose service path is the one that is served. -/
structure Converts (obj : Json) : Prop where
  strategy : isWebhook obj = true
  path : ∀ webhook, obj.atPath conversionPath = some webhook → servicePath webhook = some conversionWebhookPath

/-- The name, the kind and the strategy are found where they were. -/
structure Same (obj obj' : Json) : Prop where
  name : obj'.atPath ["metadata","name"] = obj.atPath ["metadata","name"]
  kind : obj'.atPath ["kind"] = obj.atPath ["kind"]
  strategy : obj'.atPath strategyPath = obj.atPath strategyPath

theorem Same.refl (obj : Json) : Same obj obj := ⟨rfl,rfl,rfl⟩

theorem Same.trans (first : Same obj obj') (second : Same obj' obj'') : Same obj obj'' :=
  ⟨second.name.trans first.name,second.kind.trans first.kind,second.strategy.trans first.strategy⟩

theorem text_eq {text : Json → String} (path : List String)
    (read : ∀ obj, text obj = match obj.nestedString path with | .ok (some name) => name | _ => "")
    (same : Json.atPath obj' path = Json.atPath obj path) : text obj' = text obj := by
  have found : ∀ name, obj'.nestedString path = .ok (some name) ↔ obj.nestedString path = .ok (some name) := by
    intro name
    rw [Json.nestedString_found,Json.nestedString_found,same]
  rw [read,read]
  split
  · next name here => rw [(found name).mp here]
  · next absent =>
    split
    · next name here => exact absurd ((found name).mpr here) (absent name)
    · rfl

theorem Same.getName_eq (same : Same obj obj') : getName obj' = getName obj :=
  text_eq _ (fun _ => rfl) same.name

theorem Same.getKind_eq (same : Same obj obj') : getKind obj' = getKind obj :=
  text_eq _ (fun _ => rfl) same.kind

theorem Same.isWebhook_eq (same : Same obj obj') : isWebhook obj' = isWebhook obj := by
  rw [Bool.eq_iff_iff,isWebhook_iff,isWebhook_iff,same.strategy]

theorem Same.crdKey_eq (same : Same obj obj') : crdKey obj' = crdKey obj := by
  rw [crdKey,crdKey,same.getName_eq]

theorem Same.webhookKey_eq (same : Same obj obj') : webhookKey obj' = webhookKey obj := by
  rw [webhookKey,webhookKey,same.getName_eq,same.getKind_eq]

theorem setResourceVersion_atPath (obj : Json) (version : Nat)
    (parted : Json.Part (key :: rest) ["metadata","resourceVersion"]) :
    (setResourceVersion obj version).atPath (key :: rest) = obj.atPath (key :: rest) := by
  unfold setResourceVersion
  split
  · next fields set => rw [(Json.setNestedField_ok set).2 _ parted,Json.atPath_object_fields]
  · rfl

theorem setResourceVersion_same (obj : Json) (version : Nat) : Same obj (setResourceVersion obj version) where
  name := setResourceVersion_atPath obj version (by decide)
  kind := setResourceVersion_atPath obj version (by decide)
  strategy := setResourceVersion_atPath obj version (by decide)

theorem setResourceVersion_trusts (trusted : Trusts endpoint expected obj) (version : Nat) :
    Trusts endpoint expected (setResourceVersion obj version) := by
  cases expected with
  | conversion =>
    obtain ⟨strategy,webhook,found,points⟩ := trusted
    exact ⟨(setResourceVersion_atPath obj version (by decide)).trans strategy,webhook,
      (setResourceVersion_atPath obj version (by decide)).trans found,points⟩
  | webhooks paths =>
    obtain ⟨hooks,found,points⟩ := trusted
    exact ⟨hooks,(setResourceVersion_atPath obj version (by decide)).trans found,points⟩

theorem updateConversion_ok (updated : updateConversion endpoint obj = .ok obj') :
    isWebhook obj = false ∧ obj' = obj ∨
    isWebhook obj = true ∧ ∃ webhook path fields, obj.atPath conversionPath = some (.object webhook) ∧
      servicePath (.object webhook) = some path ∧ obj' = .object fields ∧
      Json.setNestedField obj.fields (.object (Json.setField webhook "clientConfig" (clientConfig endpoint path)))
        "spec" ["conversion","webhook"] = .ok fields := by
  unfold updateConversion at updated
  split at updated
  · next other =>
    cases updated
    exact .inl ⟨by simpa using other,rfl⟩
  · next strategy =>
    refine .inr ⟨by simpa using strategy,?_⟩
    split at updated
    · cases updated
    · cases updated
    · next webhook found =>
      split at updated
      · cases updated
      · next webhook' client =>
        obtain ⟨path,service,rfl⟩ := updateWebhookWithClientData_ok client
        split at updated
        · cases updated
        · next fields set =>
          cases updated
          exact ⟨webhook,path,fields,(Json.nestedField_found _ _).mp found,service,rfl,set⟩
    · cases updated

theorem updateConversion_same (updated : updateConversion endpoint obj = .ok obj') : Same obj obj' := by
  rcases updateConversion_ok updated with ⟨_,rfl⟩ | ⟨_,webhook,path,fields,found,_,rfl,set⟩
  · exact .refl _
  · have kept : ∀ key rest, Json.Part (key :: rest) conversionPath →
        (Json.object fields).atPath (key :: rest) = obj.atPath (key :: rest) := by
      intro key rest parted
      rw [(Json.setNestedField_ok set).2 _ parted,Json.atPath_object_fields]
    exact ⟨kept _ _ (by decide),kept _ _ (by decide),kept _ _ (by decide)⟩

/-- A definition that converts trusts the webhook server once it has its client data. -/
theorem updateConversion_trusts (present : endpoint.webhookCRT ≠ []) (converts : Converts obj)
    (updated : updateConversion endpoint obj = .ok obj') : Trusts endpoint .conversion obj' := by
  refine ⟨(updateConversion_same updated).strategy.trans ((isWebhook_iff obj).mp converts.strategy),?_⟩
  rcases updateConversion_ok updated with ⟨other,_⟩ | ⟨_,webhook,path,fields,found,service,rfl,set⟩
  · rw [converts.strategy] at other
    cases other
  · obtain rfl : conversionWebhookPath = path := by
      rw [converts.path _ found] at service
      exact Option.some.inj service
    exact ⟨_,(Json.setNestedField_ok set).1,hookPointsTo_setField present webhook _⟩

/-- The merge patch makes any stored definition trust the webhook server. -/
theorem mergePatch_trusts (endpoint : Endpoint) (target : Json) :
    Trusts endpoint .conversion (target.mergePatch (conversionPatch endpoint)) := by
  constructor
  · simp [conversionPatch,strategyPath,Json.atPath_cons,Json.mergeFields,Json.mergePatch]
  · simp only [conversionPatch,conversionPath,HookPointsTo,Json.atPath_cons,Json.mergePatch_object,
      Json.fields_object,Json.mergeFields,Json.lookup_setField,↓reduceIte,Option.bind_some,
      Json.atPath_nil,Option.some.injEq,exists_eq_left']
    constructor <;> simp [Json.atPath_cons,Json.mergePatch]

/-- The paths at which the webhooks of a configuration are to be served. -/
def hookPaths (obj : Json) : List String :=
  match obj.nestedSlice ["webhooks"] with
  | .ok (some hooks) => hooks.map fun hook => (servicePath hook).getD ""
  | _ => []

theorem mapM_ok {f : Json → Except CacheErr Json} (mapped : hooks.mapM f = .ok hooks') :
    List.Forall₂ (fun hook hook' => f hook = .ok hook') hooks hooks' := by
  induction hooks generalizing hooks' with
  | nil => cases mapped; exact .nil
  | cons hook rest ih =>
    rw [List.mapM_cons] at mapped
    cases first : f hook with
    | error err => simp [first,bind,Except.bind] at mapped
    | ok hook' =>
      cases others : rest.mapM f with
      | error err => simp [first,others,bind,Except.bind] at mapped
      | ok rest' =>
        simp only [first,others,bind,Except.bind,pure,Except.pure,Except.ok.injEq] at mapped
        subst mapped
        exact .cons first (ih others)

theorem servicePath_withDefault (webhook : Json.Fields) (other : "clientConfig" ≠ key) :
    servicePath (.object (withDefault webhook key)) = servicePath (.object webhook) := by
  unfold withDefault
  split
  · rfl
  · simp [servicePath,Json.nestedString,Json.nestedField,other]

theorem updateHook_pointsTo (present : endpoint.webhookCRT ≠ []) (updated : updateHook endpoint hook = .ok hook') :
    HookPointsTo endpoint ((servicePath hook).getD "") hook' := by
  cases hook with
  | object webhook =>
    simp only [updateHook] at updated
    split at updated
    · cases updated
    · next webhook' client =>
      obtain ⟨path,service,rfl⟩ := updateWebhookWithClientData_ok client
      rw [servicePath_withDefault _ (by decide),servicePath_withDefault _ (by decide)] at service
      cases updated
      rw [service]
      exact hookPointsTo_setField present _ path
  | _ => cases updated

theorem updateWebhooks_ok (updated : updateWebhooks endpoint obj = .ok obj') :
    ∃ hooks hooks', obj.atPath ["webhooks"] = some (.array hooks) ∧
      hooks.mapM (updateHook endpoint) = .ok hooks' ∧
      obj' = .object (Json.setField obj.fields "webhooks" (.array hooks')) := by
  unfold updateWebhooks at updated
  split at updated
  · cases updated
  · cases updated
  · next hooks found =>
    split at updated
    · cases updated
    · next hooks' mapped =>
      simp only [Json.setNestedField,Except.ok.injEq] at updated
      exact ⟨hooks,hooks',(Json.nestedSlice_found _ _).mp found,mapped,updated.symm⟩

theorem updateWebhooks_same (updated : updateWebhooks endpoint obj = .ok obj') : Same obj obj' := by
  obtain ⟨hooks,hooks',found,_,rfl⟩ := updateWebhooks_ok updated
  constructor <;> simp [strategyPath,Json.atPath_cons]

theorem updateWebhooks_trusts (present : endpoint.webhookCRT ≠ []) (updated : updateWebhooks endpoint obj = .ok obj') :
    Trusts endpoint (.webhooks (hookPaths obj)) obj' := by
  obtain ⟨hooks,hooks',found,mapped,rfl⟩ := updateWebhooks_ok updated
  refine ⟨hooks',by simp [Json.atPath_cons],?_⟩
  have paths : hookPaths obj = hooks.map fun hook => (servicePath hook).getD "" := by
    rw [hookPaths,(Json.nestedSlice_found _ _).mpr found]
  rw [paths,List.forall₂_map_left_iff]
  exact (mapM_ok mapped).imp fun _ _ => updateHook_pointsTo present

end Trust

section Repetition

variable {endpoint : Endpoint}

/-- A definition whose conversion webhook has lost the path of its service. -/
structure Spent (obj : Json) : Prop where
  strategy : isWebhook obj = true
  path : ∀ webhook, obj.atPath conversionPath = some webhook → servicePath webhook = none

theorem servicePath_setField (webhook : Json.Fields) (path : String) :
    servicePath (.object (Json.setField webhook "clientConfig" (clientConfig endpoint path))) = none := by
  by_cases empty : endpoint.webhookCRT = [] <;>
    simp [servicePath,Json.nestedString,Json.nestedField,clientConfig,empty,Json.lookup_cons_eq,Except.mapError]

theorem updateConversion_spent (strategy : isWebhook obj = true) (updated : updateConversion endpoint obj = .ok obj') :
    Spent obj' := by
  refine ⟨(updateConversion_same updated).isWebhook_eq.trans strategy,?_⟩
  rcases updateConversion_ok updated with ⟨other,_⟩ | ⟨_,webhook,path,fields,_,_,rfl,set⟩
  · rw [strategy] at other
    cases other
  · intro webhook' found
    rw [conversionPath,(Json.setNestedField_ok set).1] at found
    cases found
    exact servicePath_setField webhook path

theorem setResourceVersion_spent (spent : Spent obj) (version : Nat) : Spent (setResourceVersion obj version) where
  strategy := (setResourceVersion_same obj version).isWebhook_eq.trans spent.strategy
  path webhook found := spent.path webhook
    ((setResourceVersion_atPath obj version (by decide)).symm.trans found)

theorem Spent.updateConversion_ne (spent : Spent obj) : updateConversion endpoint obj ≠ .ok obj' := by
  intro updated
  rcases updateConversion_ok updated with ⟨other,_⟩ | ⟨_,webhook,path,_,found,service,_,_⟩
  · rw [spent.strategy] at other
    cases other
  · rw [spent.path _ found] at service
    cases service

/-- Whatever the answers are, the result meets `Post`. -/
abbrev Always (Post : α → Prop) (p : DynamicProgram α) : Prop :=
  p.Traced (fun (_ : Unit) _ _ => ()) (fun _ _ => True) (fun _ => Post) ()

theorem load_spent (key : ObjectRef) (obj : Json) :
    Always (fun result => Spent obj → Spent result.2) (load key obj) := by
  simp only [Always,load,traced_request_bind]
  refine ⟨trivial,?_⟩
  rintro (err | ⟨⟩)
  · dsimp only
    split
    · exact id
    · refine ⟨trivial,?_⟩
      rintro (getErr | existing)
      · exact id
      · refine ⟨trivial,?_⟩
        rintro (err | ⟨⟩) <;> exact fun spent => setResourceVersion_spent spent _
  · exact id

/-- A pass leaves every definition that converts without the path it needs. -/
theorem applyCRDs_spent (group : String) (objs : List Json) :
    Always (fun result => result.1 = none → ∀ obj ∈ objs, isWebhook obj = true → ∃ obj' ∈ result.2, Spent obj')
      (applyCRDs endpoint group objs) := by
  induction objs with
  | nil => exact fun _ => by simp
  | cons obj rest ih =>
    rw [applyCRDs]
    split
    · exact nofun
    · next updated prepared =>
      refine traced_bind (load_spent _ _) ?_
      rintro _ ⟨_ | err,loaded⟩ spent
      · refine traced_bind ih ?_
        rintro _ ⟨err,rest'⟩ applied none' obj' member strategy
        rcases List.mem_cons.mp member with rfl | member
        · exact ⟨loaded,List.mem_cons_self ..,spent (updateConversion_spent strategy prepared)⟩
        · obtain ⟨obj'',inside,spent'⟩ := applied none' obj' member strategy
          exact ⟨obj'',List.mem_cons_of_mem _ inside,spent'⟩
      · exact nofun

theorem applyCRDProviders_spent (groups : List (String × List Json)) :
    Always (fun result => result.1 = none → ∀ group ∈ groups, ∀ obj ∈ group.2, isWebhook obj = true →
      ∃ group' ∈ result.2, ∃ obj' ∈ group'.2, Spent obj') (applyCRDProviders endpoint groups) := by
  induction groups with
  | nil => exact fun _ => by simp
  | cons group rest ih =>
    obtain ⟨name,objs⟩ := group
    refine traced_bind (applyCRDs_spent name objs) ?_
    rintro _ ⟨_ | err,objs'⟩ spent
    · refine traced_bind ih ?_
      rintro _ ⟨err,rest'⟩ applied none' group member obj inside strategy
      rcases List.mem_cons.mp member with rfl | member
      · exact ⟨_,List.mem_cons_self ..,spent rfl obj inside strategy⟩
      · obtain ⟨group',member',found⟩ := applied none' group member obj inside strategy
        exact ⟨group',List.mem_cons_of_mem _ member',found⟩
    · exact nofun

theorem applyCRDs_fails (group : String) (member : obj ∈ objs) (spent : Spent obj) :
    Always (fun result => result.1 ≠ none ∧ ∃ obj' ∈ result.2, Spent obj') (applyCRDs endpoint group objs) := by
  induction objs with
  | nil => cases member
  | cons first rest ih =>
    rw [applyCRDs]
    split
    · exact ⟨by simp,obj,member,spent⟩
    · next updated prepared =>
      have member : obj ∈ rest := (List.mem_cons.mp member).resolve_left (by
        rintro rfl
        exact spent.updateConversion_ne prepared)
      refine traced_bind (load_spent _ _) ?_
      rintro _ ⟨_ | err,loaded⟩ _
      · refine traced_bind (ih member) ?_
        rintro _ ⟨err,rest'⟩ ⟨failed,obj',inside,spent'⟩
        exact ⟨failed,obj',List.mem_cons_of_mem _ inside,spent'⟩
      · exact ⟨by simp,obj,List.mem_cons_of_mem _ member,spent⟩

/-- Some definition of the cache is spent. -/
def Exhausted (groups : List (String × List Json)) : Prop := ∃ group ∈ groups, ∃ obj ∈ group.2, Spent obj

theorem applyCRDProviders_fails (exhausted : Exhausted groups) :
    Always (fun result => result.1 ≠ none ∧ Exhausted result.2) (applyCRDProviders endpoint groups) := by
  obtain ⟨group,member,obj,inside,spent⟩ := exhausted
  induction groups with
  | nil => cases member
  | cons first rest ih =>
    obtain ⟨name,objs⟩ := first
    rcases List.mem_cons.mp member with rfl | member
    · refine traced_bind (applyCRDs_fails name inside spent) ?_
      rintro _ ⟨_ | err,objs'⟩ ⟨failed,left⟩
      · exact absurd rfl failed
      · exact ⟨by simp,_,List.mem_cons_self ..,left⟩
    · refine traced_bind (applyCRDs_spent name objs) ?_
      rintro _ ⟨_ | err,objs'⟩ _
      · refine traced_bind (ih member) ?_
        rintro _ ⟨err,rest'⟩ ⟨failed,group',member',left⟩
        exact ⟨failed,group',List.mem_cons_of_mem _ member',left⟩
      · exact ⟨by simp,group,List.mem_cons_of_mem _ member,obj,inside,spent⟩

/-- Each of the next passes over the cache fails, whatever its endpoint, the order in which it visits
the groups, and the answers of the server. -/
def FailsFor : Nat → List (String × List Json) → Prop
  | 0,_ => True
  | passes + 1,groups => ∀ endpoint again, again.Perm groups →
    Always (fun result => result.1 ≠ none ∧ FailsFor passes result.2) (applyCRDProviders endpoint again)

theorem Exhausted.failsFor (exhausted : Exhausted groups) (passes : Nat) : FailsFor passes groups := by
  induction passes generalizing groups with
  | zero => trivial
  | succ passes ih =>
    intro endpoint again perm
    obtain ⟨group,member,found⟩ := exhausted
    refine (applyCRDProviders_fails ⟨group,perm.mem_iff.mpr member,found⟩).returns ?_
    rintro _ result ⟨failed,left⟩
    exact ⟨failed,ih left⟩

/-- A cache is applied once. After a pass that succeeds, every later one fails if a definition converts
by a webhook. -/
theorem cache_applied_once (member : group ∈ groups) (inside : obj ∈ group.2) (strategy : isWebhook obj = true) :
    Always (fun result => result.1 = none → ∀ passes, FailsFor passes result.2)
      (applyCRDProviders endpoint groups) := by
  refine (applyCRDProviders_spent groups).returns ?_
  intro _ result spent none'
  exact Exhausted.failsFor (spent none' group member obj inside strategy)

/-- A definition with a conversion webhook. -/
def clustersCRD : Json := .object
  [("metadata",.object [("name",.string "clusters")]),
   ("spec",.object [("conversion",.object
     [("strategy",.string "Webhook"),
      ("webhook",.object [("clientConfig",.object [("service",.object [("path",.string "/convert")])])])])])]

theorem cache_applied_once_clusters :
    Always (fun result => result.1 = none → ∀ passes, FailsFor passes result.2)
      (applyCRDProviders ⟨"https://localhost:8443",[1],hexEncodeToString⟩ [("cluster.x-k8s.io",[clustersCRD])]) :=
  cache_applied_once (List.mem_cons_self ..) (List.mem_cons_self ..) rfl

end Repetition

end Kommodity.Provider
