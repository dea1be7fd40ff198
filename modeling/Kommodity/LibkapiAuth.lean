import Kommodity.GoHeap
import Kommodity.ServerAuth

/-! The authentication and authorization options of the embedded API server. Options are applied one
after another to one configuration; each application of `WithRBACAuthorizer` allocates a source of
its own, which gets its listers when the server is built. -/
namespace Kommodity.Libkapi.Auth

open Go
open Server (JWTAuthenticator)

inductive AuthError where
  | oidcIssuerRequired
  | oidcClientIDRequired
  | adminGroupRequired
  | authorizerNil
  | library (detail : String)
  deriving DecidableEq

structure OIDCConfig where
  issuerURL : String
  clientID : String
  usernameClaim : String
  groupsClaim : String
  signingAlgs : List String
  deriving DecidableEq

/-- The four listers, which are set together; a source has none at first. -/
structure RBACListerSource (Listers : Type) where
  listers : Option Listers
  deriving DecidableEq

/-- Authorizers as they are put together. `rbac` has the sources that its rules are read from. -/
inductive Authorizer (Custom : Type) where
  | custom (authz : Custom)
  | alwaysAllow
  | admin (groups : List String)
  | rbac (roles roleBindings clusterRoles clusterRoleBindings : Ref)
  | union (first second : Authorizer Custom)
  deriving DecidableEq

/-- The sources that an authorizer reads. -/
def Authorizer.sources : Authorizer Custom → List Ref
  | .custom _ => []
  | .alwaysAllow => []
  | .admin _ => []
  | .rbac roles roleBindings clusterRoles clusterRoleBindings =>
    [roles,roleBindings,clusterRoles,clusterRoleBindings]
  | .union first second => first.sources ++ second.sources

structure Config (Request Custom Account : Type) where
  oidcAuthenticator : Option Request
  saConfig : Option Account
  authorizer : Option (Authorizer Custom)
  apiAudiences : List String
  rbacListerSource : Option Ref
  deriving DecidableEq

def Config.empty : Config Request Custom Account := ⟨none,none,none,[],none⟩

structure ResolvedConfig (Request Custom Account : Type) where
  oidcAuthenticator : Option Request
  saConfig : Option Account
  authorizer : Authorizer Custom
  apiAudiences : List String
  rbacListerSource : Option Ref
  deriving DecidableEq

/-- The options; `WithAuthorizer` can get a nil authorizer. -/
inductive AuthOption (Custom Account : Type) where
  | withOIDC (cfg : OIDCConfig)
  | withServiceAccount (cfg : Account)
  | withAuthorizer (authz : Option Custom)
  | withAdminAuthorizer (adminGroups : String)
  | withRBACAuthorizer (adminGroups : String)

def AuthOption.setsAuthorizer : AuthOption Custom Account → Bool
  | .withOIDC _ => false
  | .withServiceAccount _ => false
  | .withAuthorizer _ => true
  | .withAdminAuthorizer _ => true
  | .withRBACAuthorizer _ => true

/-- The configuration while options are applied, and the sources that are allocated. -/
structure Setup (Listers Request Custom Account : Type) where
  heap : Heap (RBACListerSource Listers)
  cfg : Config Request Custom Account

def buildJWTAuthenticator (cfg : OIDCConfig) : JWTAuthenticator where
  issuerURL := cfg.issuerURL
  audiences := [cfg.clientID]
  usernameClaim := if cfg.usernameClaim = "" then "email" else cfg.usernameClaim
  usernamePrefix := ""
  groupsClaim := if cfg.groupsClaim = "" then "groups" else cfg.groupsClaim
  groupsPrefix := ""
  requiredClaims := [("aud",cfg.clientID)]
  signingAlgs := if cfg.signingAlgs = [] then ["RS256"] else cfg.signingAlgs

def parseAdminGroups (raw : String) : List String := ((split raw ',').map trimSpace).filter (· ≠ "")

section Options

variable {Listers Request Custom Account : Type} (oidcNew : JWTAuthenticator → Except String Request)

/-- One option; `oidcNew` is the constructor of the library's OIDC authenticator. -/
def AuthOption.apply (s : Setup Listers Request Custom Account) :
    AuthOption Custom Account → Except (Err AuthError) (Setup Listers Request Custom Account)
  | .withOIDC oidcCfg =>
    if oidcCfg.issuerURL = "" then .error (.of .oidcIssuerRequired)
    else if oidcCfg.clientID = "" then .error (.of .oidcClientIDRequired)
    else
      match oidcNew (buildJWTAuthenticator oidcCfg) with
      | .error detail => .error ((Err.of (.library detail)).wrap "failed to setup oidc authenticator")
      | .ok oidcAuth => .ok { s with cfg := { s.cfg with
          oidcAuthenticator := some oidcAuth
          apiAudiences := (buildJWTAuthenticator oidcCfg).audiences } }
  | .withServiceAccount account => .ok { s with cfg := { s.cfg with saConfig := some account } }
  | .withAuthorizer none => .error (.of .authorizerNil)
  | .withAuthorizer (some authz) =>
    .ok { s with cfg := { s.cfg with authorizer := some (.custom authz), rbacListerSource := none } }
  | .withAdminAuthorizer adminGroups =>
    let groups := parseAdminGroups adminGroups
    if groups = [] then .error (.of .adminGroupRequired)
    else .ok { s with cfg := { s.cfg with authorizer := some (.admin groups), rbacListerSource := none } }
  | .withRBACAuthorizer adminGroups =>
    let groups := parseAdminGroups adminGroups
    if groups = [] then .error (.of .adminGroupRequired)
    else
      let source := s.heap.fresh
      .ok ⟨s.heap.alloc ⟨none⟩,{ s.cfg with
        authorizer := some (.union (.rbac source source source source) (.admin groups))
        rbacListerSource := some source }⟩

/-- The loop of `Resolve`. -/
def applyOptions (s : Setup Listers Request Custom Account) :
    List (AuthOption Custom Account) → Except (Err AuthError) (Setup Listers Request Custom Account)
  | [] => .ok s
  | opt :: opts =>
    match opt.apply oidcNew s with
    | .error err => .error err
    | .ok s => applyOptions s opts

def resolveAuthorizer (cfg : Config Request Custom Account) : Authorizer Custom :=
  match cfg.authorizer with
  | some authz => authz
  | none => .alwaysAllow

def resolve (heap : Heap (RBACListerSource Listers)) (opts : List (AuthOption Custom Account)) :
    Except (Err AuthError) (Heap (RBACListerSource Listers) × ResolvedConfig Request Custom Account) :=
  match applyOptions oidcNew ⟨heap,.empty⟩ opts with
  | .error err => .error err
  | .ok s => .ok (s.heap,⟨s.cfg.oidcAuthenticator,s.cfg.saConfig,resolveAuthorizer s.cfg,
      s.cfg.apiAudiences,s.cfg.rbacListerSource⟩)

/-- `finishRBACAuthorizer`, with the outcome of adding the hook that starts the informers. -/
def finishRBACAuthorizer (heap : Heap (RBACListerSource Listers))
    (authCfg : ResolvedConfig Request Custom Account) (listers : Listers) (addPostStartHook : Except String Unit) :
    Option (Err AuthError) × Heap (RBACListerSource Listers) :=
  match authCfg.rbacListerSource with
  | none => (none,heap)
  | some source =>
    let heap := heap.set source ⟨some listers⟩
    match addPostStartHook with
    | .error detail =>
      (some ((Err.of (.library detail)).wrap "failed to add rbac authorizer informers post-start hook"),heap)
    | .ok () => (none,heap)

end Options

section Resolved

variable {Listers Request Custom Account : Type} {oidcNew : JWTAuthenticator → Except String Request}
  {s t : Setup Listers Request Custom Account} {opt : AuthOption Custom Account}
  {opts : List (AuthOption Custom Account)}

/-- What an option that sets the authorizer installs, when `fresh` is the next reference. -/
inductive Installs (fresh : Ref) : AuthOption Custom Account → Authorizer Custom → Option Ref → Prop where
  | authorizer (authz : Custom) : Installs fresh (.withAuthorizer (some authz)) (.custom authz) none
  | admin (adminGroups : String) :
      Installs fresh (.withAdminAuthorizer adminGroups) (.admin (parseAdminGroups adminGroups)) none
  | rbac (adminGroups : String) : Installs fresh (.withRBACAuthorizer adminGroups)
      (.union (.rbac fresh fresh fresh fresh) (.admin (parseAdminGroups adminGroups))) (some fresh)

theorem apply_setter (sets : opt.setsAuthorizer = true) (ok : opt.apply oidcNew s = .ok t) :
    Installs s.heap.fresh opt (resolveAuthorizer t.cfg) t.cfg.rbacListerSource ∧
    ∀ source, t.cfg.rbacListerSource = some source → t.heap.deref source = some ⟨none⟩ := by
  cases opt with
  | withOIDC cfg => cases sets
  | withServiceAccount cfg => cases sets
  | withAuthorizer authz =>
    cases authz with
    | none => cases ok
    | some authz =>
      cases ok
      exact ⟨.authorizer authz,by simp⟩
  | withAdminAuthorizer adminGroups =>
    simp only [AuthOption.apply] at ok
    split at ok
    · cases ok
    · cases ok
      exact ⟨.admin adminGroups,by simp⟩
  | withRBACAuthorizer adminGroups =>
    simp only [AuthOption.apply] at ok
    split at ok
    · cases ok
    · cases ok
      exact ⟨.rbac adminGroups,by simp [Heap.deref_alloc]⟩

theorem apply_other (other : opt.setsAuthorizer = false) (ok : opt.apply oidcNew s = .ok t) :
    t.cfg.authorizer = s.cfg.authorizer ∧ t.cfg.rbacListerSource = s.cfg.rbacListerSource ∧ t.heap = s.heap := by
  cases opt with
  | withOIDC cfg =>
    simp only [AuthOption.apply] at ok
    split at ok
    · cases ok
    split at ok
    · cases ok
    split at ok
    · cases ok
    · cases ok
      exact ⟨rfl,rfl,rfl⟩
  | withServiceAccount cfg =>
    cases ok
    exact ⟨rfl,rfl,rfl⟩
  | withAuthorizer authz => cases other
  | withAdminAuthorizer adminGroups => cases other
  | withRBACAuthorizer adminGroups => cases other

theorem applyOptions_cons (ok : applyOptions oidcNew s (opt :: opts) = .ok t) :
    ∃ m, opt.apply oidcNew s = .ok m ∧ applyOptions oidcNew m opts = .ok t := by
  rw [applyOptions] at ok
  split at ok
  · cases ok
  · next m applied => exact ⟨m,applied,ok⟩

theorem applyOptions_append (ok : applyOptions oidcNew s (opts ++ more) = .ok t) :
    ∃ m, applyOptions oidcNew s opts = .ok m ∧ applyOptions oidcNew m more = .ok t := by
  induction opts generalizing s with
  | nil => exact ⟨s,rfl,ok⟩
  | cons opt opts ih =>
    obtain ⟨m,applied,rest⟩ := applyOptions_cons ok
    obtain ⟨m',applied',rest'⟩ := ih rest
    exact ⟨m',by rw [applyOptions,applied]; exact applied',rest'⟩

theorem applyOptions_others (others : ∀ opt ∈ opts, opt.setsAuthorizer = false)
    (ok : applyOptions oidcNew s opts = .ok t) :
    resolveAuthorizer t.cfg = resolveAuthorizer s.cfg ∧ t.cfg.rbacListerSource = s.cfg.rbacListerSource := by
  induction opts generalizing s with
  | nil =>
    cases ok
    exact ⟨rfl,rfl⟩
  | cons opt opts ih =>
    obtain ⟨first,rest⟩ := List.forall_mem_cons.mp others
    obtain ⟨m,applied,ok'⟩ := applyOptions_cons ok
    obtain ⟨authorizer,source,_⟩ := apply_other first applied
    obtain ⟨authorizer',source'⟩ := ih rest ok'
    exact ⟨by rw [authorizer',resolveAuthorizer,authorizer,resolveAuthorizer],source'.trans source⟩

theorem last_setter (opts : List (AuthOption Custom Account)) : (∀ opt ∈ opts, opt.setsAuthorizer = false) ∨
    ∃ before last after, opts = before ++ last :: after ∧ last.setsAuthorizer = true ∧
      ∀ opt ∈ after, opt.setsAuthorizer = false := by
  induction opts with
  | nil => exact .inl (by simp)
  | cons opt opts ih =>
    rcases ih with none' | ⟨before,last,after,rfl,sets,others⟩
    · cases sets : opt.setsAuthorizer with
      | true => exact .inr ⟨[],opt,opts,rfl,sets,none'⟩
      | false => exact .inl (List.forall_mem_cons.mpr ⟨sets,none'⟩)
    · exact .inr ⟨opt :: before,last,after,rfl,sets,others⟩

theorem installed_by_last (ok : applyOptions oidcNew s (before ++ opt :: after) = .ok t)
    (sets : opt.setsAuthorizer = true) (others : ∀ opt ∈ after, opt.setsAuthorizer = false) :
    ∃ m, applyOptions oidcNew s before = .ok m ∧
      Installs m.heap.fresh opt (resolveAuthorizer t.cfg) t.cfg.rbacListerSource := by
  obtain ⟨m,applied,rest⟩ := applyOptions_append ok
  obtain ⟨m',installed,rest'⟩ := applyOptions_cons rest
  obtain ⟨authorizer,source⟩ := applyOptions_others others rest'
  rw [authorizer,source]
  exact ⟨m,applied,(apply_setter sets installed).1⟩

/-- An authorizer reads the source that is installed with it, if there is one, and no other. -/
def ReadsSource (authz : Authorizer Custom) (source : Option Ref) : Prop :=
  (source ≠ none → authz.sources ≠ []) ∧ ∀ r ∈ authz.sources, source = some r

theorem Installs.reads (installs : Installs fresh opt authz source) : ReadsSource authz source := by
  cases installs with
  | authorizer authz => simp [ReadsSource,Authorizer.sources]
  | admin adminGroups => simp [ReadsSource,Authorizer.sources]
  | rbac adminGroups => simp [ReadsSource,Authorizer.sources]

theorem Installs.source_iff (installs : Installs fresh opt authz source) :
    source ≠ none ↔ ∃ adminGroups, opt = .withRBACAuthorizer adminGroups := by
  cases installs with
  | authorizer authz => simp
  | admin adminGroups => simp
  | rbac adminGroups => simp

theorem applyOptions_reads {heap : Heap (RBACListerSource Listers)}
    (ok : applyOptions oidcNew ⟨heap,.empty⟩ opts = .ok t) :
    ReadsSource (resolveAuthorizer t.cfg) t.cfg.rbacListerSource := by
  rcases last_setter opts with others | ⟨before,last,after,rfl,sets,others⟩
  · obtain ⟨authorizer,source⟩ := applyOptions_others others ok
    rw [authorizer,source]
    exact ⟨fun filled => absurd rfl filled,by simp [resolveAuthorizer,Config.empty,Authorizer.sources]⟩
  · obtain ⟨m,_,installs⟩ := installed_by_last ok sets others
    exact installs.reads

theorem resolve_ok {resolved : ResolvedConfig Request Custom Account}
    (ok : resolve oidcNew heap opts = .ok (heap',resolved)) :
    ∃ t, applyOptions oidcNew ⟨heap,.empty⟩ opts = .ok t ∧ t.heap = heap' ∧
      resolved.authorizer = resolveAuthorizer t.cfg ∧ resolved.rbacListerSource = t.cfg.rbacListerSource := by
  rw [resolve] at ok
  split at ok
  · cases ok
  · next t applied =>
    cases ok
    exact ⟨t,applied,rfl,rfl,rfl⟩

/-- The last option that sets the authorizer wins, with its source if it has one: the authorizer and
the source are those it installs when the options before it have been applied. -/
theorem resolve_last_wins {resolved : ResolvedConfig Request Custom Account}
    (ok : resolve oidcNew heap opts = .ok (heap',resolved)) :
    ((∀ opt ∈ opts, opt.setsAuthorizer = false) → resolved.authorizer = .alwaysAllow) ∧
    (∀ before last after, opts = before ++ last :: after → last.setsAuthorizer = true →
      (∀ opt ∈ after, opt.setsAuthorizer = false) →
      ∃ s, applyOptions oidcNew ⟨heap,.empty⟩ before = .ok s ∧
        Installs s.heap.fresh last resolved.authorizer resolved.rbacListerSource) ∧
    (resolved.rbacListerSource ≠ none ↔ ∃ before adminGroups after,
      opts = before ++ .withRBACAuthorizer adminGroups :: after ∧
      ∀ opt ∈ after, opt.setsAuthorizer = false) ∧
    ReadsSource resolved.authorizer resolved.rbacListerSource := by
  obtain ⟨t,applied,_,authorizer,source⟩ := resolve_ok ok
  rw [authorizer,source]
  have wins : ∀ before last after, opts = before ++ last :: after → last.setsAuthorizer = true →
      (∀ opt ∈ after, opt.setsAuthorizer = false) →
      ∃ s, applyOptions oidcNew ⟨heap,.empty⟩ before = .ok s ∧
        Installs s.heap.fresh last (resolveAuthorizer t.cfg) t.cfg.rbacListerSource := by
    rintro before last after rfl sets others
    exact installed_by_last applied sets others
  have unset (others : ∀ opt ∈ opts, opt.setsAuthorizer = false) :
      resolveAuthorizer t.cfg = .alwaysAllow ∧ t.cfg.rbacListerSource = none :=
    applyOptions_others others applied
  refine ⟨fun others => (unset others).1,wins,⟨?_,?_⟩,applyOptions_reads applied⟩
  · intro filled
    rcases last_setter opts with others | ⟨before,last,after,split,sets,others⟩
    · exact absurd (unset others).2 filled
    · obtain ⟨s,_,installs⟩ := wins before last after split sets others
      obtain ⟨adminGroups,rfl⟩ := installs.source_iff.mp filled
      exact ⟨before,adminGroups,after,split,others⟩
  · rintro ⟨before,adminGroups,after,split,others⟩
    obtain ⟨s,_,installs⟩ := wins before _ after split rfl others
    exact installs.source_iff.mpr ⟨adminGroups,rfl⟩

/-- The source of the configuration is one of those allocated. -/
def Wired (s : Setup Listers Request Custom Account) : Prop :=
  ∀ source, s.cfg.rbacListerSource = some source → s.heap.deref source = some ⟨none⟩

theorem Wired.apply (wired : Wired s) (ok : opt.apply oidcNew s = .ok t) : Wired t := by
  cases sets : opt.setsAuthorizer with
  | false =>
    obtain ⟨_,same,heap⟩ := apply_other sets ok
    intro source found
    rw [heap]
    exact wired source (same ▸ found)
  | true => exact (apply_setter sets ok).2

theorem Wired.applyOptions (wired : Wired s) (ok : applyOptions oidcNew s opts = .ok t) : Wired t := by
  induction opts generalizing s with
  | nil =>
    cases ok
    exact wired
  | cons opt opts ih =>
    obtain ⟨m,applied,rest⟩ := applyOptions_cons ok
    exact ih (wired.apply applied) rest

/-- When the server is built, the sources that the authorizer reads have their listers. -/
theorem sources_ready {resolved : ResolvedConfig Request Custom Account}
    (ok : resolve oidcNew heap opts = .ok (heap',resolved)) (listers : Listers) (hook : Except String Unit)
    (reads : r ∈ resolved.authorizer.sources) :
    (finishRBACAuthorizer heap' resolved listers hook).2.deref r = some ⟨some listers⟩ := by
  obtain ⟨t,applied,rfl,authorizer,source⟩ := resolve_ok ok
  have wired : Wired t := Wired.applyOptions (by simp [Wired,Config.empty]) applied
  rw [authorizer] at reads
  have installed := (applyOptions_reads applied).2 r reads
  have set : (t.heap.set r ⟨some listers⟩).deref r = some ⟨some listers⟩ := by
    rw [Heap.deref_set (wired r installed),if_pos rfl]
  rw [finishRBACAuthorizer,source,installed]
  cases hook with
  | error detail => exact set
  | ok done => exact set

/-- Options of which the last one that sets the authorizer is the second to allocate a source. -/
def sampleOptions : List (AuthOption Unit Unit) :=
  [.withRBACAuthorizer "ops",.withAdminAuthorizer "admins",.withRBACAuthorizer "sre, ops",.withServiceAccount ()]

theorem resolve_last_wins_rbac :
    ∃ heap resolved, resolve (fun _ => .ok ()) (Heap.empty : Heap (RBACListerSource Unit)) sampleOptions =
      .ok (heap,resolved) ∧ resolved.rbacListerSource = some 1 ∧
      ReadsSource resolved.authorizer resolved.rbacListerSource := by
  have ok : resolve (fun _ => .ok ()) (Heap.empty : Heap (RBACListerSource Unit)) sampleOptions =
      .ok (⟨[⟨none⟩,⟨none⟩]⟩,⟨none,some (),.union (.rbac 1 1 1 1) (.admin ["sre","ops"]),[],some 1⟩) := by
    decide +kernel
  exact ⟨_,_,ok,rfl,(resolve_last_wins ok).2.2.2⟩

end Resolved

end Kommodity.Libkapi.Auth
