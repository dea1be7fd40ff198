import Kommodity.GoValues

/-! The configuration that the server reads from its environment. Every setting has a default
for a missing value, and most also for a value that does not parse; only the database URI and,
with authentication applied, the admin group have to be there. -/
namespace Kommodity.Config

open Go

/-- `os.Getenv`: an unset variable reads as the empty string. -/
abbrev Environ := String → String

def envBaseURL : String := "KOMMODITY_BASE_URL"
def envServerPort : String := "KOMMODITY_PORT"
def envAPIServerPort : String := "KOMMODITY_API_SERVER_PORT"
def envAdminGroup : String := "KOMMODITY_ADMIN_GROUP"
def envDisableAuth : String := "KOMMODITY_INSECURE_DISABLE_AUTHENTICATION"
def envOIDCIssuerURL : String := "KOMMODITY_OIDC_ISSUER_URL"
def envOIDCClientID : String := "KOMMODITY_OIDC_CLIENT_ID"
def envOIDCUsernameClaim : String := "KOMMODITY_OIDC_USERNAME_CLAIM"
def envOIDCGroupsClaim : String := "KOMMODITY_OIDC_GROUPS_CLAIM"
def envDatabaseURI : String := "KOMMODITY_DB_URI"
def envAttestationNonceTTL : String := "KOMMODITY_ATTESTATION_NONCE_TTL"
def envDevelopmentMode : String := "KOMMODITY_DEVELOPMENT_MODE"
def envKineURI : String := "KOMMODITY_KINE_URI"
def envInfrastructureProviders : String := "KOMMODITY_INFRASTRUCTURE_PROVIDERS"
def envAuditPolicyFilePath : String := "KOMMODITY_AUDIT_POLICY_FILE_PATH"
def envAuditEnabled : String := "KOMMODITY_AUDIT_ENABLED"
def envGarbageCollectorEnabled : String := "KOMMODITY_GARBAGE_COLLECTOR_ENABLED"
def envGarbageCollectorWorkers : String := "KOMMODITY_GARBAGE_COLLECTOR_WORKERS"
def envGarbageCollectorSyncPeriod : String := "KOMMODITY_GARBAGE_COLLECTOR_SYNC_PERIOD"
def envGarbageCollectorInitialSyncTimeout : String :=
  "KOMMODITY_GARBAGE_COLLECTOR_INITIAL_SYNC_TIMEOUT"
def envTalosProxyEnabled : String := "KOMMODITY_TALOS_PROXY_ENABLED"
def envTalosProxyPort : String := "KOMMODITY_TALOS_PROXY_PORT"
def envTalosProxyNamespace : String := "KOMMODITY_TALOS_PROXY_NAMESPACE"
def envTalosProxyServiceName : String := "KOMMODITY_TALOS_PROXY_SERVICE_NAME"
def envTalosProxyIdleTimeout : String := "KOMMODITY_TALOS_PROXY_IDLE_TIMEOUT"
def envTalosProxyMaxRetries : String := "KOMMODITY_TALOS_PROXY_MAX_RETRIES"
def envAzureDefaultCredentialSecret : String := "KOMMODITY_AZURE_DEFAULT_CREDENTIAL_SECRET"
def envAzureARMDeletionGracePeriod : String := "KOMMODITY_AZURE_ARM_DELETION_GRACE_PERIOD"

/-- `time.Duration` in nanoseconds. -/
abbrev Duration := Int

def second : Duration := 1000000000
def minute : Duration := 60 * second

def defaultServerPort : Int := 5000
def defaultAPIServerPort : Int := 8443
def defaultDisableAuth : Bool := false
def defaultOIDCUsernameClaim : String := "email"
def defaultOIDCGroupsClaim : String := "groups"
def defaultDevelopmentMode : Bool := false
def defaultKineURI : String := "unix://bin/kine.sock"
def defaultAttestationNonceTTL : Duration := 5 * minute
def defaultTalosProxyEnabled : Bool := true
def defaultTalosProxyPort : Int := 15050
def defaultTalosProxyNamespace : String := "talos-cluster-proxy"
def defaultTalosProxyServiceName : String := "talos-cluster-proxy"
def defaultTalosProxyIdleTimeout : Duration := 1 * minute
def defaultTalosProxyMaxRetries : Int := 5
def defaultGarbageCollectorEnabled : Bool := true
def defaultGarbageCollectorWorkers : Int := 5
def defaultGarbageCollectorSyncPeriod : Duration := 30 * second
def defaultGarbageCollectorInitialSyncTimeout : Duration := 60 * second
def defaultAzureDefaultCredentialSecret : String := ""
def defaultAuditEnabled : Bool := false
def defaultAzureARMDeletionGracePeriod : Duration := 15 * minute

/-- A provider is any text; these are the ones with a meaning. -/
abbrev Provider := String

def providerDocker : Provider := "docker"
def providerCapi : Provider := "capi"
def providerTalos : Provider := "talos"
def providerScaleway : Provider := "scaleway"
def providerAzure : Provider := "azure"
def providerByot : Provider := "byot"
def providerKubevirt : Provider := "kubevirt"

def getAllProviders : List Provider :=
  [providerDocker,providerCapi,providerTalos,providerScaleway,providerAzure,providerByot,
    providerKubevirt]

structure AzureConfig where
  defaultCredentialSecret : String
  armDeletionGracePeriod : Duration

structure GarbageCollectorConfig where
  enabled : Bool
  workers : Int
  syncPeriod : Duration
  initialSyncTimeout : Duration

structure TalosProxyConfig where
  enabled : Bool
  listenPort : Int
  proxyNamespace : String
  proxyServiceName : String
  idleTimeout : Duration
  maxRetries : Int

structure OIDCConfig where
  issuerURL : String
  clientID : String
  usernameClaim : String
  groupsClaim : String
  deriving DecidableEq, Repr

structure AuthConfig where
  apply : Bool
  oidcConfig : Option OIDCConfig
  adminGroup : String

/-- `URL` is the parsed form of the database address. -/
structure KommodityConfig (URL : Type) where
  baseURL : String
  serverPort : Int
  apiServerPort : Int
  webhookPort : Int
  dbURI : URL
  kineURI : String
  attestationNonceTTL : Duration
  authConfig : AuthConfig
  talosProxyConfig : TalosProxyConfig
  garbageCollectorConfig : GarbageCollectorConfig
  auditPolicyFilePath : String
  auditEnabled : Bool
  developmentMode : Bool
  infrastructureProviders : List Provider
  azureConfig : AzureConfig

inductive Error where
  | adminGroupNotSet (variableName : String)
  | dbEnvVarNotSet
  | url (cause : String)
  | wrap (context : String) (cause : Error)
  deriving DecidableEq, Repr

/-- The parsers of other packages, and the default port of the webhook server. -/
structure Library (URL : Type) where
  parseURL : String → Except String URL
  parseDuration : String → Option Duration
  webhookDefaultPort : Int

def getString (env : Environ) (name default : String) : String :=
  if env name = "" then default else env name

def getParsed (parse : String → Option α) (env : Environ) (name : String) (default : α) : α :=
  if env name = "" then default else (parse (env name)).getD default

/-- A count must also be positive. -/
def getCount (env : Environ) (name : String) (default : Int) : Int :=
  if env name = "" then default
  else match atoi (env name) with
    | none => default
    | some count => if count < 1 then default else count

section Getters

variable (lib : Library URL) (env : Environ)

def getBaseURL : String := getString env envBaseURL "http://localhost:5000"
def getServerPort : Int := getParsed atoi env envServerPort defaultServerPort
def getAPIServerPort : Int := getParsed atoi env envAPIServerPort defaultAPIServerPort
def getDevelopmentMode : Bool := getParsed parseBool env envDevelopmentMode defaultDevelopmentMode
def getKineURI : String := getString env envKineURI defaultKineURI
def getAuditPolicyFilePath : String := getString env envAuditPolicyFilePath ""
def getAuditEnabled : Bool := getParsed parseBool env envAuditEnabled defaultAuditEnabled

def getAttestationConfig : Duration :=
  getParsed lib.parseDuration env envAttestationNonceTTL defaultAttestationNonceTTL

def getTalosProxyEnabled : Bool :=
  getParsed parseBool env envTalosProxyEnabled defaultTalosProxyEnabled
def getTalosProxyPort : Int := getParsed atoi env envTalosProxyPort defaultTalosProxyPort
def getTalosProxyNamespace : String :=
  getString env envTalosProxyNamespace defaultTalosProxyNamespace
def getTalosProxyServiceName : String :=
  getString env envTalosProxyServiceName defaultTalosProxyServiceName
def getTalosProxyIdleTimeout : Duration :=
  getParsed lib.parseDuration env envTalosProxyIdleTimeout defaultTalosProxyIdleTimeout
def getTalosProxyMaxRetries : Int := getCount env envTalosProxyMaxRetries defaultTalosProxyMaxRetries

def getTalosProxyConfig : TalosProxyConfig :=
  ⟨getTalosProxyEnabled env,getTalosProxyPort env,getTalosProxyNamespace env,
    getTalosProxyServiceName env,getTalosProxyIdleTimeout lib env,getTalosProxyMaxRetries env⟩

def getGarbageCollectorEnabled : Bool :=
  getParsed parseBool env envGarbageCollectorEnabled defaultGarbageCollectorEnabled
def getGarbageCollectorWorkers : Int :=
  getCount env envGarbageCollectorWorkers defaultGarbageCollectorWorkers
def getGarbageCollectorSyncPeriod : Duration :=
  getParsed lib.parseDuration env envGarbageCollectorSyncPeriod defaultGarbageCollectorSyncPeriod
def getGarbageCollectorInitialSyncTimeout : Duration :=
  getParsed lib.parseDuration env envGarbageCollectorInitialSyncTimeout
    defaultGarbageCollectorInitialSyncTimeout

def getGarbageCollectorConfig : GarbageCollectorConfig :=
  ⟨getGarbageCollectorEnabled env,getGarbageCollectorWorkers env,
    getGarbageCollectorSyncPeriod lib env,getGarbageCollectorInitialSyncTimeout lib env⟩

def getAzureDefaultCredentialSecret : String :=
  getString env envAzureDefaultCredentialSecret defaultAzureDefaultCredentialSecret
def getAzureARMDeletionGracePeriod : Duration :=
  getParsed lib.parseDuration env envAzureARMDeletionGracePeriod defaultAzureARMDeletionGracePeriod

def getAzureConfig : AzureConfig :=
  ⟨getAzureDefaultCredentialSecret env,getAzureARMDeletionGracePeriod lib env⟩

/-- The variable disables authentication, the result applies it. The default of the variable is
returned as it is. -/
def getApplyAuth : Bool :=
  if env envDisableAuth = "" then defaultDisableAuth
  else match parseBool (env envDisableAuth) with
    | none => defaultDisableAuth
    | some disableAuth => !disableAuth

/-- Without issuer or client there is no OIDC configuration. -/
def getOIDCConfig : Option OIDCConfig :=
  if env envOIDCIssuerURL = "" ∨ env envOIDCClientID = "" then none
  else some ⟨env envOIDCIssuerURL,env envOIDCClientID,
    getString env envOIDCUsernameClaim defaultOIDCUsernameClaim,
    getString env envOIDCGroupsClaim defaultOIDCGroupsClaim⟩

def getAdminGroup : Except Error String :=
  if env envAdminGroup = "" then .error (.adminGroupNotSet envAdminGroup)
  else .ok (env envAdminGroup)

def getDatabaseURI : Except Error URL :=
  if env envDatabaseURI = "" then .error .dbEnvVarNotSet
  else match lib.parseURL (env envDatabaseURI) with
    | .error cause => .error (.wrap "invalid KOMMODITY_DB_URI" (.url cause))
    | .ok uri => .ok uri

def withProvider (providers : List Provider) (provider : Provider) : List Provider :=
  if provider ∈ providers then providers else providers ++ [provider]

def getInfrastructureProviders : List Provider :=
  let providers :=
    if env envInfrastructureProviders = "" then getAllProviders
    else (split (env envInfrastructureProviders) ',').map trimSpace
  withProvider (withProvider providers providerCapi) providerTalos

/-- The part of `LoadConfig` after the admin group was read. -/
def buildConfig (adminGroup : String) : Except Error (KommodityConfig URL) :=
  match getDatabaseURI lib env with
  | .error cause => .error (.wrap "failed to get database URI" cause)
  | .ok dbURI => .ok {
      baseURL := getBaseURL env
      serverPort := getServerPort env
      apiServerPort := getAPIServerPort env
      webhookPort := lib.webhookDefaultPort
      dbURI
      kineURI := getKineURI env
      attestationNonceTTL := getAttestationConfig lib env
      authConfig := ⟨getApplyAuth env,getOIDCConfig env,adminGroup⟩
      talosProxyConfig := getTalosProxyConfig lib env
      garbageCollectorConfig := getGarbageCollectorConfig lib env
      auditPolicyFilePath := getAuditPolicyFilePath env
      auditEnabled := getAuditEnabled env
      developmentMode := getDevelopmentMode env
      infrastructureProviders := getInfrastructureProviders env
      azureConfig := getAzureConfig lib env }

/-- The admin group is read whether or not it is needed. Its error counts only when
authentication is applied, and is reported before that of the database URI. -/
def loadConfig : Except Error (KommodityConfig URL) :=
  match getAdminGroup env with
  | .error cause =>
    if getApplyAuth env then .error (.wrap "failed to get admin group" cause)
    else buildConfig lib env ""
  | .ok adminGroup => buildConfig lib env adminGroup

end Getters

theorem getCount_positive (env : Environ) (name : String) {default : Int} (positive : 1 ≤ default) :
    1 ≤ getCount env name default := by
  unfold getCount
  split
  · exact positive
  · split
    · exact positive
    · split
      · exact positive
      · next large => omega

theorem mem_withProvider (providers : List Provider) (provider : Provider) :
    provider ∈ withProvider providers provider := by
  unfold withProvider
  split
  · next present => exact present
  · simp

theorem withProvider_keeps (provider : Provider) (present : p ∈ providers) :
    p ∈ withProvider providers provider := by
  unfold withProvider
  split
  · exact present
  · exact List.mem_append_left _ present

/-- What the rest of the server may rely on in a loaded configuration. -/
structure Loaded (env : Environ) (cfg : KommodityConfig URL) : Prop where
  apply : cfg.authConfig.apply = getApplyAuth env
  oidc : cfg.authConfig.oidcConfig = getOIDCConfig env
  adminGroup : cfg.authConfig.adminGroup = env envAdminGroup
  administered : cfg.authConfig.apply → cfg.authConfig.adminGroup ≠ ""
  database : env envDatabaseURI ≠ ""
  workers : 1 ≤ cfg.garbageCollectorConfig.workers
  retries : 1 ≤ cfg.talosProxyConfig.maxRetries
  capi : providerCapi ∈ cfg.infrastructureProviders
  talos : providerTalos ∈ cfg.infrastructureProviders

theorem buildConfig_loaded (lib : Library URL) (env : Environ) (group : String)
    (read : group = env envAdminGroup) (needed : getApplyAuth env → group ≠ "")
    (done : buildConfig lib env group = .ok cfg) : Loaded env cfg := by
  unfold buildConfig at done
  split at done
  · simp at done
  · next uri found =>
    cases done
    refine ⟨rfl,rfl,read,needed,?_,getCount_positive env _ (by decide),
      getCount_positive env _ (by decide),?_,mem_withProvider _ _⟩
    · intro empty
      simp [getDatabaseURI,empty] at found
    · exact withProvider_keeps _ (mem_withProvider _ _)

theorem loadConfig_loaded (lib : Library URL) (env : Environ)
    (done : loadConfig lib env = .ok cfg) : Loaded env cfg := by
  unfold loadConfig getAdminGroup at done
  split at done
  · next unset =>
    split at done
    · simp at done
    · next off =>
      split at unset
      · next empty => exact buildConfig_loaded lib env "" empty.symm (fun on => absurd on off) done
      · simp at unset
  · next group found =>
    split at found
    · simp at found
    · next set_ =>
      cases found
      exact buildConfig_loaded lib env _ rfl (fun _ => set_) done

theorem getApplyAuth_eq (env : Environ) :
    getApplyAuth env = (parseBool (env envDisableAuth) == some false) := by
  have unset : parseBool "" = none := by decide
  unfold getApplyAuth
  split
  · next empty => simp [empty,unset,defaultDisableAuth]
  · split
    · next bad => simp [bad,defaultDisableAuth]
    · next value parsed => cases value <;> simp [parsed]

end Kommodity.Config
