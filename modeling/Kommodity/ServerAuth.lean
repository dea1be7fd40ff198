import Kommodity.Config

/-! Authentication and authorization of the API server: the authenticators that the
configuration installs, tried in order, and the authorizer that looks at nothing but the groups
of the user they return. -/
namespace Kommodity.Server

open Go Kommodity.Config

def systemPrivilegedGroup : String := "system:masters"
def systemServiceAccountsGroup : String := "system:serviceaccounts"
/-- `user.AllUnauthenticated`. -/
def allUnauthenticated : String := "system:unauthenticated"

def healthPaths : List String := ["/livez","/readyz","/healthz"]

structure User where
  name : String
  groups : List String
  deriving DecidableEq, Repr

structure Attributes where
  user : Option User
  path : String
  isResourceRequest : Bool

inductive Decision where
  | deny
  | allow
  deriving DecidableEq, Repr

inductive Error where
  | noAdminGroupConfigured
  | library (message : String)
  | wrap (context : String) (cause : Error)
  deriving DecidableEq, Repr

structure Verdict where
  decision : Decision
  reason : String
  error : Option Error
  deriving DecidableEq, Repr

def isHealthPath (path : String) : Bool :=
  healthPaths.any fun healthPath => path = healthPath || hasPrefix path (healthPath ++ "/")

/-- `adminAuthorizer.Authorize`. -/
def adminAuthorize (cfg : AuthConfig) (attrs : Attributes) : Verdict :=
  if ¬ cfg.apply then ⟨.allow,"allowed: auth is disabled",none⟩
  else if ¬ attrs.isResourceRequest ∧ isHealthPath attrs.path then
    ⟨.allow,"allowed: health check endpoint",none⟩
  else match attrs.user with
    | none => ⟨.deny,"no user in attributes",none⟩
    | some user =>
      if cfg.adminGroup = "" then
        ⟨.deny,"forbidden: no admin group configured",some .noAdminGroupConfigured⟩
      else if systemPrivilegedGroup ∈ user.groups then
        ⟨.allow,"allowed: user is in system:masters group",none⟩
      else if cfg.adminGroup ∈ user.groups then ⟨.allow,"allowed: user is in admin group",none⟩
      else if systemServiceAccountsGroup ∈ user.groups then
        ⟨.allow,"allowed: user is an authenticated service account",none⟩
      else ⟨.deny,
        "forbidden: user is not in admin group, system:masters group, or a service account",none⟩

/-- What a token authenticator makes of a token. -/
abbrev TokenAuthenticator := String → Option User

inductive Authenticator where
  | bearer (token : TokenAuthenticator)
  | anonymous

inductive Authorizer where
  | alwaysAllow
  | admin (cfg : AuthConfig)

/-- `apiserver.JWTAuthenticator` with the signing algorithms. -/
structure JWTAuthenticator where
  issuerURL : String
  audiences : List String
  usernameClaim : String
  usernamePrefix : String
  groupsClaim : String
  groupsPrefix : String
  requiredClaims : List (String × String)
  signingAlgs : List String

/-- Library code behind `applyAuth`: the keys, client, validator and token authenticators it
builds. `groupsOf` reads a claim of a token as a list of strings. -/
structure AuthLibrary (Keys Client Validator : Type) where
  staticPublicKeysGetter : Except String Keys
  newForConfig : Except String Client
  newLegacyValidator : Client → Except String Validator
  jwtTokenAuthenticator : List String → Keys → Validator → TokenAuthenticator
  oidcNew : JWTAuthenticator → Except String TokenAuthenticator
  groupsOf : String → String → List String

/-- `serviceaccount.LegacyIssuer`. -/
def legacyIssuer : String := "kubernetes/serviceaccount"

structure AuthSetup where
  authenticators : List Authenticator
  authorizer : Authorizer
  apiAudiences : Option (List String)

section Setup

variable (lib : AuthLibrary K C V)

def newServiceAccountTokenGetter : Except Error C :=
  match lib.newForConfig with
  | .error cause => .error (.wrap "failed to create kubernetes client" (.library cause))
  | .ok client => .ok client

def setupServiceAccountAuth : Except Error TokenAuthenticator :=
  match lib.staticPublicKeysGetter with
  | .error cause => .error (.wrap "failed to create static public keys getter" (.library cause))
  | .ok keys =>
    match newServiceAccountTokenGetter lib with
    | .error cause => .error (.wrap "failed to create service account token getter" cause)
    | .ok client =>
      match lib.newLegacyValidator client with
      | .error cause => .error (.wrap "failed to create legacy validator" (.library cause))
      | .ok validator => .ok (lib.jwtTokenAuthenticator [legacyIssuer] keys validator)

/-- User names and groups are taken from the claims with an empty prefix. -/
def jwtAuthenticator (oidc : OIDCConfig) : JWTAuthenticator where
  issuerURL := oidc.issuerURL
  audiences := [oidc.clientID]
  usernameClaim := oidc.usernameClaim
  usernamePrefix := ""
  groupsClaim := oidc.groupsClaim
  groupsPrefix := ""
  requiredClaims := [("aud",oidc.clientID)]
  signingAlgs := ["RS256"]

def applyAuth (cfg : AuthConfig) : Except Error AuthSetup :=
  if ¬ cfg.apply then .ok ⟨[.anonymous],.alwaysAllow,none⟩
  else match setupServiceAccountAuth lib with
    | .error cause => .error (.wrap "failed to setup serviceaccount authenticator" cause)
    | .ok saAuthenticator =>
      match cfg.oidcConfig with
      | none => .ok ⟨[.bearer saAuthenticator,.anonymous],.admin cfg,none⟩
      | some oidc =>
        match lib.oidcNew (jwtAuthenticator oidc) with
        | .error cause => .error (.wrap "failed to setup oidc authenticator" (.library cause))
        | .ok oidcAuth => .ok ⟨[.bearer saAuthenticator,.bearer oidcAuth,.anonymous],.admin cfg,
            some (jwtAuthenticator oidc).audiences⟩

end Setup

/-- An HTTP request as the authentication and authorization filters see it. -/
structure Request where
  bearer : Option String
  path : String
  isResourceRequest : Bool

def Authenticator.authenticate : Authenticator → Request → Option User
  | .bearer token,req => req.bearer.bind token
  | .anonymous,_ => some ⟨"system:anonymous",[allUnauthenticated]⟩

def Authorizer.authorize : Authorizer → Attributes → Verdict
  | .alwaysAllow,_ => ⟨.allow,"",none⟩
  | .admin cfg,attrs => adminAuthorize cfg attrs

/-- The server puts its loopback identity before the installed authenticators; the union takes
the first one that accepts the request. -/
def AuthSetup.authenticate (setup : AuthSetup) (loopback : TokenAuthenticator) (req : Request) :
    Option User :=
  (Authenticator.bearer loopback :: setup.authenticators).findSome? (·.authenticate req)

def AuthSetup.decide (setup : AuthSetup) (loopback : TokenAuthenticator) (req : Request) :
    Verdict :=
  setup.authorizer.authorize ⟨setup.authenticate loopback req,req.path,req.isResourceRequest⟩

def Request.isHealth (req : Request) : Prop := req.isResourceRequest = false ∧ isHealthPath req.path

instance : Decidable (Request.isHealth req) := by unfold Request.isHealth; infer_instance

/-- Everything is let through: nobody is asked for a credential and every decision is allow. -/
structure Unprotected (lib : AuthLibrary K C V) (cfg : AuthConfig) : Prop where
  installed : applyAuth lib cfg = .ok ⟨[.anonymous],.alwaysAllow,none⟩
  allows : ∀ attrs, (adminAuthorize cfg attrs).decision = .allow

theorem unprotected_iff (lib : AuthLibrary K C V) (cfg : AuthConfig) :
    Unprotected lib cfg ↔ cfg.apply = false := by
  constructor
  · intro off
    cases on : cfg.apply with
    | false => rfl
    | true =>
      have denied := off.allows ⟨none,"",true⟩
      simp [adminAuthorize,on] at denied
  · intro off
    exact ⟨by simp [applyAuth,off],fun attrs => by simp [adminAuthorize,off]⟩

/-- Authentication fails closed exactly in environments whose disable variable holds a boolean:
an unset or malformed variable turns authentication off. -/
theorem auth_fails_closed_iff (config : Library URL) (lib : AuthLibrary K C V) (env : Environ)
    (cfg : KommodityConfig URL) (loaded : loadConfig config env = .ok cfg) :
    ((Unprotected lib cfg.authConfig → parseBool (env envDisableAuth) = some true) ∧
      (cfg.authConfig.apply → cfg.authConfig.adminGroup ≠ "")) ↔
    (parseBool (env envDisableAuth)).isSome := by
  have facts := loadConfig_loaded config env loaded
  rw [unprotected_iff,facts.apply,getApplyAuth_eq]
  have administered := facts.administered
  rw [facts.apply,getApplyAuth_eq] at administered
  cases parsed : parseBool (env envDisableAuth) with
  | none => simp
  | some value =>
    rw [parsed] at administered
    cases value with
    | true => simp
    | false => simpa using administered

def sampleLibrary : Library String := ⟨.ok,fun _ => none,9443⟩

/-- The groups claims of the tokens that the sample issuer knows. -/
def sampleGroups (token : String) : List String :=
  ([("mallory",[systemPrivilegedGroup]),("viewer",["viewers"])].lookup token).getD []

def sampleAuthLibrary : AuthLibrary Unit Unit Unit where
  staticPublicKeysGetter := .ok ()
  newForConfig := .ok ()
  newLegacyValidator _ := .ok ()
  jwtTokenAuthenticator _ _ _ token :=
    if token = "autoscaler" then
      some ⟨"system:serviceaccount:default:autoscaler",
        [systemServiceAccountsGroup,"system:serviceaccounts:default"]⟩
    else none
  oidcNew jwt := .ok fun token =>
    if sampleGroups token = [] then none
    else some ⟨token,(sampleGroups token).map (jwt.groupsPrefix ++ ·)⟩
  groupsOf token _ := sampleGroups token

/-- An environment with a database and the given settings. -/
def sampleEnviron (settings : List (String × String)) : Environ := fun name =>
  if name = envDatabaseURI then "postgres://db" else (settings.lookup name).getD ""

/-- With the variable unset the server runs without authentication. -/
theorem auth_off_when_unset :
    ∃ cfg, loadConfig sampleLibrary (sampleEnviron []) = .ok cfg ∧
      Unprotected sampleAuthLibrary cfg.authConfig ∧
      parseBool (sampleEnviron [] envDisableAuth) ≠ some true :=
  ⟨_,rfl,(unprotected_iff _ _).mpr rfl,by decide⟩

theorem auth_fails_closed_false :
    ∃ cfg, loadConfig sampleLibrary
        (sampleEnviron [(envDisableAuth,"false"),(envAdminGroup,"admins")]) = .ok cfg ∧
      ¬ Unprotected sampleAuthLibrary cfg.authConfig := by
  refine ⟨_,rfl,?_⟩
  intro off
  have closed := (auth_fails_closed_iff sampleLibrary sampleAuthLibrary
    (sampleEnviron [(envDisableAuth,"false"),(envAdminGroup,"admins")]) _ rfl).mpr (by decide)
  exact absurd (closed.1 off) (by decide)

end Kommodity.Server
