import Kommodity.ServerAuth

/-! Which requests the API server lets through, in terms of where their credential comes from.
The authorizer only sees group names, so a group named in an OIDC token counts like the group
the server gives its own identities. -/
namespace Kommodity.Server

open Go Kommodity.Config

/-- What the token authenticators promise: service accounts are in their group, and the groups
of an OIDC user are those of the groups claim, each with the configured prefix. -/
structure AuthLibrary.Lawful (lib : AuthLibrary K C V) : Prop where
  serviceAccounts : ∀ issuers keys validator token user,
    lib.jwtTokenAuthenticator issuers keys validator token = some user →
    systemServiceAccountsGroup ∈ user.groups
  oidc : ∀ jwt verify token user, lib.oidcNew jwt = .ok verify → verify token = some user →
    user.groups = (lib.groupsOf token jwt.groupsClaim).map (jwt.groupsPrefix ++ ·)

def LoopbackToken (loopback : TokenAuthenticator) (req : Request) : Prop :=
  ∃ token user, req.bearer = some token ∧ loopback token = some user

def ServiceAccountToken (lib : AuthLibrary K C V) (req : Request) : Prop :=
  ∃ verify token user, setupServiceAccountAuth lib = .ok verify ∧ req.bearer = some token ∧
    verify token = some user

/-- The request carries a token of the configured issuer with this groups claim. -/
def OIDCToken (lib : AuthLibrary K C V) (cfg : AuthConfig) (req : Request)
    (groups : List String) : Prop :=
  ∃ oidc verify token user, cfg.oidcConfig = some oidc ∧
    lib.oidcNew (jwtAuthenticator oidc) = .ok verify ∧ req.bearer = some token ∧
    verify token = some user ∧ groups = lib.groupsOf token oidc.groupsClaim

theorem oidcToken_unique (first : OIDCToken lib cfg req groups)
    (second : OIDCToken lib cfg req groups') : groups = groups' := by
  obtain ⟨oidc,_,token,_,configured,_,carried,_,rfl⟩ := first
  obtain ⟨oidc',_,token',_,configured',_,carried',_,rfl⟩ := second
  rw [configured] at configured'
  rw [carried] at carried'
  cases configured'
  cases carried'
  rfl

/-- The groups whose members are let through. -/
def Admits (cfg : AuthConfig) (groups : List String) : Prop :=
  cfg.adminGroup ∈ groups ∨ systemPrivilegedGroup ∈ groups ∨ systemServiceAccountsGroup ∈ groups

theorem adminAuthorize_allow_iff (cfg : AuthConfig) (applied : cfg.apply)
    (administered : cfg.adminGroup ≠ "") (user : User) (path : String) (isResource : Bool) :
    (adminAuthorize cfg ⟨some user,path,isResource⟩).decision = .allow ↔
      (isResource = false ∧ isHealthPath path) ∨ Admits cfg user.groups := by
  simp only [adminAuthorize,applied,not_true_eq_false,↓reduceIte,administered,Bool.not_eq_true,Admits]
  split
  · next health => simp [health]
  · next other =>
    rw [or_iff_right other]
    split
    · next masters => simp [masters]
    · next notMasters =>
      split
      · next admin => simp [admin]
      · next notAdmin =>
        split
        · next account => simp [account]
        · next notAccount => simp [notMasters,notAdmin,notAccount]

/-- The chain of authenticators that `applyAuth` installs when authentication is applied. -/
theorem applyAuth_ok (applied : cfg.apply) (done : applyAuth lib cfg = .ok setup) :
    setup.authorizer = .admin cfg ∧ ∃ accounts rest, setupServiceAccountAuth lib = .ok accounts ∧
      setup.authenticators = .bearer accounts :: rest ∧
      ((cfg.oidcConfig = none ∧ rest = [.anonymous]) ∨
      ∃ oidc verify, cfg.oidcConfig = some oidc ∧
        lib.oidcNew (jwtAuthenticator oidc) = .ok verify ∧ rest = [.bearer verify,.anonymous]) := by
  simp only [applyAuth,applied,not_true_eq_false,↓reduceIte] at done
  split at done
  · simp at done
  · next accounts built =>
    split at done
    · next absent =>
      cases done
      exact ⟨rfl,accounts,_,built,rfl,.inl ⟨absent,rfl⟩⟩
    · next oidc configured =>
      split at done
      · simp at done
      · next verify created =>
        cases done
        exact ⟨rfl,accounts,_,built,rfl,.inr ⟨oidc,verify,configured,created,rfl⟩⟩

theorem serviceAccount_groups (lawful : lib.Lawful)
    (built : setupServiceAccountAuth lib = .ok accounts) (accepted : accounts token = some user) :
    systemServiceAccountsGroup ∈ user.groups := by
  unfold setupServiceAccountAuth at built
  split at built
  · simp at built
  · split at built
    · simp at built
    · split at built
      · simp at built
      · cases built
        exact lawful.serviceAccounts _ _ _ token user accepted

theorem oidc_groups {lib : AuthLibrary K C V} (lawful : lib.Lawful) {oidc : OIDCConfig}
    {verify : TokenAuthenticator} (created : lib.oidcNew (jwtAuthenticator oidc) = .ok verify)
    (accepted : verify token = some user) : user.groups = lib.groupsOf token oidc.groupsClaim := by
  rw [lawful.oidc _ verify token user created accepted]
  simp [jwtAuthenticator]

theorem anonymous_admits (cfg : AuthConfig) :
    Admits cfg [allUnauthenticated] ↔ cfg.adminGroup = allUnauthenticated := by
  simp [Admits,systemPrivilegedGroup,systemServiceAccountsGroup,allUnauthenticated]

/-- The request's credential admits it. The last case is an admin group that names the users
without a credential. -/
def Entitled (lib : AuthLibrary K C V) (cfg : AuthConfig) (loopback : TokenAuthenticator)
    (req : Request) : Prop :=
  LoopbackToken loopback req ∨ ServiceAccountToken lib req ∨
  (∃ groups, OIDCToken lib cfg req groups ∧ Admits cfg groups) ∨
  (cfg.adminGroup = allUnauthenticated ∧ ¬ LoopbackToken loopback req ∧
    ¬ ServiceAccountToken lib req ∧ ∀ groups, ¬ OIDCToken lib cfg req groups)

section Chain

variable {lib : AuthLibrary K C V} {cfg : AuthConfig} {setup : AuthSetup}
  {loopback : TokenAuthenticator}

theorem entitled_anonymous (free : ¬ LoopbackToken loopback req)
    (noAccount : ¬ ServiceAccountToken lib req) (noOIDC : ∀ groups, ¬ OIDCToken lib cfg req groups) :
    Entitled lib cfg loopback req ↔ cfg.adminGroup = allUnauthenticated := by
  constructor
  · rintro (own | account | ⟨groups,oidc,_⟩ | ⟨same,_⟩)
    · exact absurd own free
    · exact absurd account noAccount
    · exact absurd oidc (noOIDC groups)
    · exact same
  · intro same
    exact .inr (.inr (.inr ⟨same,free,noAccount,noOIDC⟩))

theorem loopbackToken_iff (bearer : req.bearer = some token) :
    LoopbackToken loopback req ↔ (loopback token).isSome := by
  simp [LoopbackToken,bearer,Option.isSome_iff_exists]

theorem serviceAccountToken_iff {accounts : TokenAuthenticator}
    (built : setupServiceAccountAuth lib = .ok accounts) (bearer : req.bearer = some token) :
    ServiceAccountToken lib req ↔ (accounts token).isSome := by
  simp [ServiceAccountToken,built,bearer,Option.isSome_iff_exists]

theorem oidcToken_iff {verify : TokenAuthenticator} (configured : cfg.oidcConfig = some oidc)
    (created : lib.oidcNew (jwtAuthenticator oidc) = .ok verify) (bearer : req.bearer = some token) :
    OIDCToken lib cfg req groups ↔
      (verify token).isSome ∧ groups = lib.groupsOf token oidc.groupsClaim := by
  simp [OIDCToken,configured,created,bearer,Option.isSome_iff_exists]

/-- What the authenticators after the loopback one make of a token: the first one that accepts
it names the user. -/
theorem authenticate_token (installed : setup.authenticators = .bearer accounts :: rest)
    (bearer : req.bearer = some token) :
    setup.authenticate loopback req =
      (loopback token).or ((accounts token).or (rest.findSome? (·.authenticate req))) := by
  simp only [AuthSetup.authenticate,installed,List.findSome?_cons,Authenticator.authenticate,bearer,
    Option.bind_some]
  cases loopback token <;> cases accounts token <;> rfl

theorem anonymous_entitled (free : ¬ LoopbackToken loopback req)
    (noAccount : ¬ ServiceAccountToken lib req) (noOIDC : ∀ groups, ¬ OIDCToken lib cfg req groups) :
    Admits cfg [allUnauthenticated] ↔ Entitled lib cfg loopback req := by
  rw [entitled_anonymous free noAccount noOIDC]
  exact anonymous_admits cfg

/-- A token that the server's own authenticators refuse is the issuer's to accept; one that the
issuer refuses as well leaves the request anonymous. -/
theorem issued_entitled (lawful : lib.Lawful) {rest : List Authenticator}
    (chain : (cfg.oidcConfig = none ∧ rest = [.anonymous]) ∨
      ∃ oidc verify, cfg.oidcConfig = some oidc ∧
        lib.oidcNew (jwtAuthenticator oidc) = .ok verify ∧ rest = [.bearer verify,.anonymous])
    (bearer : req.bearer = some token) (free : ¬ LoopbackToken loopback req)
    (noAccount : ¬ ServiceAccountToken lib req) :
    ∃ user, rest.findSome? (·.authenticate req) = some user ∧
      (Admits cfg user.groups ↔ Entitled lib cfg loopback req) := by
  rcases chain with ⟨absent,rfl⟩ | ⟨oidc,verify,configured,created,rfl⟩
  · refine ⟨⟨"system:anonymous",[allUnauthenticated]⟩,rfl,?_⟩
    apply anonymous_entitled free noAccount
    rintro groups ⟨oidc,_,_,_,configured,_⟩
    simp [absent] at configured
  · have only : ∀ groups, OIDCToken lib cfg req groups ↔
        (verify token).isSome ∧ groups = lib.groupsOf token oidc.groupsClaim :=
      fun _ => oidcToken_iff configured created bearer
    cases issued : verify token with
    | some user =>
      refine ⟨user,by simp [Authenticator.authenticate,bearer,issued],?_⟩
      rw [oidc_groups lawful created issued]
      simp [Entitled,free,noAccount,only,issued]
    | none =>
      refine ⟨⟨"system:anonymous",[allUnauthenticated]⟩,by
        simp [Authenticator.authenticate,bearer,issued],?_⟩
      apply anonymous_entitled free noAccount
      simp [only,issued]

/-- The user that the chain returns is in an admitted group exactly when the credential of the
request entitles it. -/
theorem authenticate_entitled (lawful : lib.Lawful) (applied : cfg.apply)
    (done : applyAuth lib cfg = .ok setup)
    (privileged : ∀ token user, loopback token = some user → systemPrivilegedGroup ∈ user.groups)
    (req : Request) :
    ∃ user, setup.authenticate loopback req = some user ∧
      (Admits cfg user.groups ↔ Entitled lib cfg loopback req) := by
  obtain ⟨_,accounts,rest,built,installed,chain⟩ := applyAuth_ok applied done
  cases bearer : req.bearer with
  | none =>
    refine ⟨⟨"system:anonymous",[allUnauthenticated]⟩,?_,?_⟩
    · rcases chain with ⟨_,rfl⟩ | ⟨oidc,verify,_,_,rfl⟩
      · simp [AuthSetup.authenticate,installed,Authenticator.authenticate,bearer]
      · simp [AuthSetup.authenticate,installed,Authenticator.authenticate,bearer]
    · apply anonymous_entitled
      · simp [LoopbackToken,bearer]
      · simp [ServiceAccountToken,bearer]
      · simp [OIDCToken,bearer]
  | some token =>
    rw [authenticate_token installed bearer]
    cases own : loopback token with
    | some user =>
      have masters := privileged token user own
      exact ⟨user,rfl,fun _ => .inl ⟨token,user,bearer,own⟩,fun _ => .inr (.inl masters)⟩
    | none =>
      cases account : accounts token with
      | some user =>
        have member := serviceAccount_groups lawful built account
        exact ⟨user,rfl,fun _ => .inr (.inl ⟨accounts,token,user,built,bearer,account⟩),
          fun _ => .inr (.inr member)⟩
      | none =>
        have free : ¬ LoopbackToken loopback req := by simp [loopbackToken_iff bearer,own]
        have noAccount : ¬ ServiceAccountToken lib req := by
          simp [serviceAccountToken_iff built bearer,account]
        exact issued_entitled lawful chain bearer free noAccount

end Chain

/-- With authentication applied, a request is let through exactly when it probes a health path
or its credential entitles it. An OIDC token without the admin group, `system:masters` and
`system:serviceaccounts` among its groups is denied everything else. -/
theorem access_follows_groups (config : Library URL) (lib : AuthLibrary K C V)
    (lawful : lib.Lawful) (env : Environ) (cfg : KommodityConfig URL)
    (loaded : loadConfig config env = .ok cfg) (applied : cfg.authConfig.apply)
    (done : applyAuth lib cfg.authConfig = .ok setup) (loopback : TokenAuthenticator)
    (privileged : ∀ token user, loopback token = some user → systemPrivilegedGroup ∈ user.groups)
    (req : Request) :
    ((setup.decide loopback req).decision = .allow ↔
      req.isHealth ∨ Entitled lib cfg.authConfig loopback req) ∧
    ∀ groups, OIDCToken lib cfg.authConfig req groups → ¬ LoopbackToken loopback req →
      ¬ ServiceAccountToken lib req → ¬ Admits cfg.authConfig groups → ¬ req.isHealth →
      (setup.decide loopback req).decision = .deny := by
  have administered := (loadConfig_loaded config env loaded).administered applied
  obtain ⟨authorizer,_⟩ := applyAuth_ok applied done
  obtain ⟨user,authenticated,admits⟩ := authenticate_entitled lawful applied done privileged req
  have allowed : (setup.decide loopback req).decision = .allow ↔
      req.isHealth ∨ Entitled lib cfg.authConfig loopback req := by
    rw [AuthSetup.decide,authorizer,authenticated,Authorizer.authorize,
      adminAuthorize_allow_iff _ applied administered,admits]
    rfl
  refine ⟨allowed,?_⟩
  intro groups carried free noAccount outside other
  have refused : (setup.decide loopback req).decision ≠ .allow := by
    rw [Ne,allowed]
    rintro (health | own | account | ⟨again,issued,inside⟩ | ⟨_,_,_,none_⟩)
    · exact other health
    · exact free own
    · exact noAccount account
    · rw [oidcToken_unique issued carried] at inside
      exact outside inside
    · exact none_ groups carried
  cases decision : (setup.decide loopback req).decision with
  | deny => rfl
  | allow => exact absurd decision refused

theorem sampleAuthLibrary_lawful : sampleAuthLibrary.Lawful := by
  refine ⟨?_,?_⟩
  · intro issuers keys validator token user accepted
    simp only [sampleAuthLibrary] at accepted
    split at accepted
    · cases accepted
      simp
    · simp at accepted
  · intro jwt verify token user created accepted
    cases created
    simp only at accepted
    split at accepted
    · simp at accepted
    · cases accepted
      rfl

def sampleLoopback : TokenAuthenticator := fun token =>
  if token = "loopback" then
    some ⟨"system:apiserver",["system:authenticated",systemPrivilegedGroup]⟩
  else none

theorem sampleLoopback_privileged (accepted : sampleLoopback token = some user) :
    systemPrivilegedGroup ∈ user.groups := by
  simp only [sampleLoopback] at accepted
  split at accepted
  · cases accepted
    simp
  · simp at accepted

def oidcEnviron : Environ :=
  sampleEnviron [(envDisableAuth,"false"),(envAdminGroup,"admins"),
    (envOIDCIssuerURL,"https://issuer"),(envOIDCClientID,"kommodity")]

theorem sampleLoopback_other (other : token ≠ "loopback") :
    ¬ LoopbackToken sampleLoopback ⟨some token,path,isResource⟩ := by
  rintro ⟨carried,user,⟨⟩,accepted⟩
  simp [sampleLoopback,other] at accepted

theorem sampleAuthLibrary_other (other : token ≠ "autoscaler") :
    ¬ ServiceAccountToken sampleAuthLibrary ⟨some token,path,isResource⟩ := by
  rintro ⟨verify,carried,user,⟨⟩,⟨⟩,accepted⟩
  simp [sampleAuthLibrary,other] at accepted

/-- Reading Secrets with an OIDC token whose only group is `system:masters`. -/
def malloryRequest : Request := ⟨some "mallory","/api/v1/secrets",true⟩

/-- The token is let through although it does not name the admin group. -/
theorem reserved_group_admitted :
    ∃ cfg setup, loadConfig sampleLibrary oidcEnviron = .ok cfg ∧ cfg.authConfig.apply ∧
      applyAuth sampleAuthLibrary cfg.authConfig = .ok setup ∧
      OIDCToken sampleAuthLibrary cfg.authConfig malloryRequest [systemPrivilegedGroup] ∧
      cfg.authConfig.adminGroup ∉ [systemPrivilegedGroup] ∧ ¬ malloryRequest.isHealth ∧
      ¬ LoopbackToken sampleLoopback malloryRequest ∧
      ¬ ServiceAccountToken sampleAuthLibrary malloryRequest ∧
      (setup.decide sampleLoopback malloryRequest).decision = .allow := by
  exact ⟨_,_,rfl,rfl,rfl,⟨_,_,"mallory",_,rfl,rfl,rfl,rfl,rfl⟩,by decide,by decide,
    sampleLoopback_other (by decide),sampleAuthLibrary_other (by decide),by decide⟩

/-- Nobody needs a token for a health probe, the autoscaler's service account may read Secrets,
and an OIDC token with another group may not. -/
theorem access_follows_groups_anonymous :
    ∃ cfg setup, loadConfig sampleLibrary oidcEnviron = .ok cfg ∧
      applyAuth sampleAuthLibrary cfg.authConfig = .ok setup ∧
      (setup.decide sampleLoopback ⟨none,"/livez/ping",false⟩).decision = .allow ∧
      (setup.decide sampleLoopback ⟨some "autoscaler","/api/v1/secrets",true⟩).decision = .allow ∧
      (setup.decide sampleLoopback ⟨some "viewer","/api/v1/secrets",true⟩).decision = .deny := by
  have follows := fun cfg setup loaded applied
      (done : applyAuth sampleAuthLibrary cfg.authConfig = .ok setup) =>
    access_follows_groups sampleLibrary sampleAuthLibrary sampleAuthLibrary_lawful oidcEnviron cfg
      loaded applied done sampleLoopback fun _ _ => sampleLoopback_privileged
  have outside : ¬ ("admins" ∈ ["viewers"] ∨ systemPrivilegedGroup ∈ ["viewers"] ∨
      systemServiceAccountsGroup ∈ ["viewers"]) := by decide
  exact ⟨_,_,rfl,rfl,(follows _ _ rfl rfl rfl _).1.mpr (.inl (by decide)),
    (follows _ _ rfl rfl rfl _).1.mpr (.inr (.inr (.inl ⟨_,"autoscaler",_,rfl,rfl,rfl⟩))),
    (follows _ _ rfl rfl rfl _).2 ["viewers"] ⟨_,_,"viewer",_,rfl,rfl,rfl,rfl,rfl⟩
      (sampleLoopback_other (by decide)) (sampleAuthLibrary_other (by decide)) outside (by decide)⟩

end Kommodity.Server
