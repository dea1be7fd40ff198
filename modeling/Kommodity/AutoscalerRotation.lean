import Kommodity.Autoscaler

/-! Rotation of the token of an autoscaler. The informer follows the Secret behind its back: it can lag, and
skip states. The reconciler reads the Secret itself, so what matters is that some reconcile starts after the
last change; `Owed` says where that reconcile is. -/
namespace Kommodity.Autoscaler.Rotation

open Go Interaction Transition Secrets ConfigMaps StoreCalls
open SigningKeys (ObjectKey clusterNameLabel secretTypeServiceAccountToken)

/-- A cluster with its autoscaler ConfigMap, which is there with its labels. -/
structure Setting where
  sha256 : Bytes → Bytes
  baseURL : String
  clusterName : String
  configMap : ConfigMap
  cluster : configMap.metadata.labels.lookup clusterNameLabel = some clusterName
  watched : configMap.metadata.labels.index watchLabel = autoscalerControllerName

namespace Setting

def configMapKey (c : Setting) : ObjectKey := ("default",c.clusterName ++ autoscalerConfigMapSuffix)

/-- The Deployment of the chart; there is none when the ConfigMap does not say where. -/
def deploymentKey (c : Setting) : Option ObjectKey :=
  (jobConfig c.clusterName c.configMap.data).toOption.map AutoscalerJobConfig.deploymentKey

/-- A state of the token Secret. -/
structure IsTokenSecret (c : Setting) (secret : Secret) : Prop where
  namespaceName : secret.metadata.namespaceName = "default"
  name : secret.metadata.name = c.clusterName ++ autoscalerSATokenSecretSuffix
  label : secret.metadata.labels.lookup clusterNameLabel = some c.clusterName
  type : secret.type = secretTypeServiceAccountToken

/-- A read of a ConfigMap, which can fail. -/
def readConfigMap (c : Setting) (failure : Option APIError) (key : ObjectKey) : Except APIError ConfigMap :=
  match failure with
  | some err => .error err
  | none => if key = c.configMapKey then .ok c.configMap else .error (.store .notFound)

end Setting

def tokenOf (secret : Secret) : Bytes := secret.data.index autoscalerSecretTokenKey

/-- The token of the Secret, if it is there with one. -/
def carried (secret : Option Secret) : Option Bytes :=
  secret.bind fun s => if tokenOf s = [] then none else some (tokenOf s)

/-- The token Secret with what the informer knows of it, the queue with the reconcile that runs, and the
Secrets and Deployments of the downstream cluster. `backlog` are the states of the Secret that the informer
has not come to yet, and `last` is the last token that was not empty. -/
structure World where
  tokenSecret : Option Secret
  last : Option Bytes
  seen : Option Secret
  backlog : List (Option Secret)
  queued : Bool
  running : Option (AutoscalerProgram Outcome)
  secrets : Map ObjectKey Secret
  deployments : Map ObjectKey Deployment

/-- What the surroundings choose for a call: a failure of its own, and the answers that have nothing to do
with the token. -/
structure Reply where
  fault : Fault APIError
  others : (c : Call) → Answer c

/-- An API that fails does not say that an object is not there. -/
def transient : Fault APIError → Bool
  | .none => true
  | .refused err => !err.isNotFound
  | .lost err => !err.isNotFound

def fetch (found : Option α) : Fault APIError → Except APIError α
  | .none =>
    match found with
    | some a => .ok a
    | none => .error (.store .notFound)
  | .refused err => .error err
  | .lost err => .error err

def commit (w : World) (attempt : Except APIError World) : Fault APIError → Except APIError Unit × World
  | .none =>
    match attempt with
    | .ok next => (.ok (),next)
    | .error err => (.error err,w)
  | .refused err => (.error err,w)
  | .lost err => (.error err,attempt.toOption.getD w)

def World.createSecret (w : World) (key : ObjectKey) (secret : Secret) : Except APIError World :=
  match w.secrets.lookup key with
  | some _ => .error (.store .alreadyExists)
  | none => .ok { w with secrets := w.secrets.insert key secret }

/-- The objects carry no version, so an update is unconditional. -/
def World.updateSecret (w : World) (key : ObjectKey) (secret : Secret) : Except APIError World :=
  match w.secrets.lookup key with
  | some _ => .ok { w with secrets := w.secrets.insert key secret }
  | none => .error (.store .notFound)

def World.patchDeployment (w : World) (key : ObjectKey) (mark value : String) : Except APIError World :=
  match w.deployments.lookup key with
  | some deployment =>
    .ok { w with deployments := w.deployments.insert key ⟨deployment.annotations.insert mark value⟩ }
  | none => .error (.store .notFound)

inductive Action where
  | put (secret : Secret)
  | remove
  | deliver (skipped : Nat) (first second : Option APIError)
  | enqueue
  | take
  | answer (reply : Reply)
  | install (key : ObjectKey) (annotations : Map String String)
  | uninstall (key : ObjectKey)

def eventOf : Option Secret → Option Secret → Option Event
  | none,none => none
  | none,some new => some (.create new)
  | some old,some new => some (.update old new)
  | some old,none => some (.delete old)

section System

variable (c : Setting)

def serve (w : World) : (call : Call) → Reply → Answer call × World
  | .getConfigMap key,reply =>
    (fetch (if key = c.configMapKey then some c.configMap else none) reply.fault,w)
  | .getTokenSecret key,reply =>
    if key = tokenSecretKey c.clusterName then (fetch w.tokenSecret reply.fault,w)
    else (reply.others (.getTokenSecret key),w)
  | .createSecret key secret,reply => commit w (w.createSecret key secret) reply.fault
  | .updateSecret key secret,reply => commit w (w.updateSecret key secret) reply.fault
  | .getDeployment key,reply => (fetch (w.deployments.lookup key) reply.fault,w)
  | .patchDeployment key mark value,reply => commit w (w.patchDeployment key mark value) reply.fault
  | .getKubeconfig key,reply => (reply.others (.getKubeconfig key),w)
  | .restConfig kubeconfig,reply => (reply.others (.restConfig kubeconfig),w)
  | .newClient kubeconfig,reply => (reply.others (.newClient kubeconfig),w)
  | .checkClusterReady,reply => (reply.others .checkClusterReady,w)
  | .getExtraValues key,reply => (reply.others (.getExtraValues key),w)
  | .applyTemplate config,reply => (reply.others (.applyTemplate config),w)

/-- An event is mapped to requests, of which that for the ConfigMap of the cluster matters here. -/
def notified (first second : Option APIError) (seen state : Option Secret) : Bool :=
  match eventOf seen state with
  | none => false
  | some event => c.configMapKey ∈ requests (c.readConfigMap first) (c.readConfigMap second) event

/-- A reconcile that does not succeed is retried. -/
def World.settle (w : World) : AutoscalerProgram Outcome → World
  | .pure outcome => { w with running := none, queued := w.queued || !outcome.succeeded }
  | p => { w with running := some p }

def World.act (w : World) : Action → World
  | .put secret => { w with
      tokenSecret := some secret
      last := (carried (some secret)).or w.last
      backlog := w.backlog ++ [some secret] }
  | .remove => { w with tokenSecret := none, backlog := w.backlog ++ [none] }
  | .deliver skipped first second =>
    match w.backlog.drop skipped with
    | [] => w
    | state :: rest => { w with
        seen := state
        backlog := rest
        queued := w.queued || notified c first second w.seen state }
  | .enqueue => { w with queued := true }
  | .take => { w with queued := false, running := some (reconcile c.sha256 c.baseURL c.configMapKey) }
  | .answer reply =>
    match w.running with
    | some (.call call next) =>
      let (a,w) := serve c w call reply
      w.settle (next a)
    | _ => w
  | .install key annotations => { w with deployments := w.deployments.insert key ⟨annotations⟩ }
  | .uninstall key => { w with deployments := w.deployments.erase key }

/-- Requests for one object are handled one after the other. The ConfigMap can cause a request at any time. -/
def World.possible (w : World) : Action → Prop
  | .put secret => c.IsTokenSecret secret
  | .remove => w.tokenSecret.isSome
  | .deliver skipped _ _ => skipped < w.backlog.length
  | .enqueue => True
  | .take => w.queued ∧ w.running = none
  | .answer reply => w.running.isSome ∧ transient reply.fault
  | .install key _ => w.deployments.lookup key = none
  | .uninstall _ => True

def system : System World Action := ⟨World.possible c,World.act c⟩

section Decidable

instance (secret : Secret) : Decidable (c.IsTokenSecret secret) :=
  decidable_of_iff (secret.metadata.namespaceName = "default" ∧
      secret.metadata.name = c.clusterName ++ autoscalerSATokenSecretSuffix ∧
      secret.metadata.labels.lookup clusterNameLabel = some c.clusterName ∧
      secret.type = secretTypeServiceAccountToken)
    ⟨fun ⟨ns,name,label,type⟩ => ⟨ns,name,label,type⟩,fun is => ⟨is.namespaceName,is.name,is.label,is.type⟩⟩

instance (w : World) : (action : Action) → Decidable ((system c).allowed w action)
  | .put secret => inferInstanceAs (Decidable (c.IsTokenSecret secret))
  | .remove => inferInstanceAs (Decidable (_ = true))
  | .deliver _ _ _ => inferInstanceAs (Decidable (_ < _))
  | .enqueue => .isTrue trivial
  | .take => inferInstanceAs (Decidable (_ ∧ w.running = none))
  | .answer _ => inferInstanceAs (Decidable (_ ∧ _))
  | .install key _ => inferInstanceAs (Decidable (w.deployments.lookup key = none))
  | .uninstall _ => .isTrue trivial

end Decidable

/-- The informer has seen the token that is there. -/
def World.Noticed (w : World) : Prop := carried w.tokenSecret = none ∨ carried w.seen = carried w.tokenSecret

/-- A token that comes is not the one the informer has seen last, and one that goes has been seen. The
mapping can read the ConfigMap, and the Deployment appears only while a request is waiting. -/
def Condition (w : World) : Action → Prop
  | .put secret =>
    match carried (some secret) with
    | some token => htmlEscape token = token ∧ (w.last = some token ∨ carried w.seen ≠ some token)
    | none => w.Noticed
  | .remove => w.Noticed
  | .deliver _ first second => first = none ∨ w.seen.isSome ∧ second = none
  | .install key _ => c.deploymentKey = some key → w.queued = true
  | _ => True

section Decidable

instance (w : World) : Decidable w.Noticed := inferInstanceAs (Decidable (_ ∨ _))

/-- A read of the condition on a Secret that comes. -/
instance (w : World) (secret : Secret) : Decidable (Condition c w (.put secret)) :=
  match token : carried (some secret) with
  | some t => decidable_of_iff (htmlEscape t = t ∧ (w.last = some t ∨ carried w.seen ≠ some t))
      (by simp only [Condition,token])
  | none => decidable_of_iff w.Noticed (by simp only [Condition,token])

instance (w : World) : (action : Action) → Decidable (Condition c w action)
  | .put secret => inferInstanceAs (Decidable (Condition c w (.put secret)))
  | .remove => inferInstanceAs (Decidable w.Noticed)
  | .deliver _ _ _ => inferInstanceAs (Decidable (_ ∨ _ ∧ _))
  | .install _ _ => inferInstanceAs (Decidable (_ → _))
  | .enqueue | .take | .answer _ | .uninstall _ => .isTrue trivial

end Decidable

/-- The downstream kubeconfig has the token in it. -/
def Contains (w : World) (token : Bytes) : Prop :=
  ∃ secret value, w.secrets.lookup kubeconfigKey = some secret ∧ secret.data.lookup "value" = some value ∧
    token <:+: value

/-- The Deployment, if it is there, has the hash of the token. -/
def Stamped (w : World) (token : Bytes) : Prop :=
  ∀ key deployment, c.deploymentKey = some key → w.deployments.lookup key = some deployment →
    deployment.annotations.index autoscalerKubeconfigHashAnnotation = tokenHash c.sha256 token

end System

/-- What a reconcile has done. It is `astray` when the ConfigMap it was given is not that of the cluster. -/
structure Notes where
  astray : Bool
  read : Option Bytes
  applied : Bool
  rolled : Bool

section Discipline

variable (c : Setting)

def rolledBy (read : Option Bytes) : Except APIError Deployment → Bool
  | .error err => err.isNotFound
  | .ok deployment => read.any fun token =>
    deployment.annotations.index autoscalerKubeconfigHashAnnotation = tokenHash c.sha256 token

def note (h : Notes) : (call : Call) → Answer call → Notes
  | .getConfigMap _,a => { h with astray := h.astray || a.toOption.any (· ≠ c.configMap) }
  | .getTokenSecret _,a => ⟨h.astray,carried a.toOption,false,false⟩
  | .createSecret key _,a => { h with applied := h.applied || key = kubeconfigKey && a.toOption.isSome }
  | .updateSecret key _,a => { h with applied := h.applied || key = kubeconfigKey && a.toOption.isSome }
  | .getDeployment _,a => { h with rolled := h.rolled || rolledBy c h.read a }
  | .patchDeployment _ _ _,a => { h with rolled := h.rolled || a.toOption.isSome }
  | _,_ => h

/-- The kubeconfig is written with the token that was read. -/
def Renders (h : Notes) (key : ObjectKey) (secret : Secret) : Prop :=
  key = kubeconfigKey → ∃ token namespaceName, h.read = some token ∧
    secret.data.lookup "value" = some (Kubeconfig.render ⟨c.baseURL,token,namespaceName⟩)

def Permitted (h : Notes) : Call → Prop
  | .getTokenSecret key => key = tokenSecretKey c.clusterName
  | .createSecret key secret => Renders c h key secret
  | .updateSecret key secret => Renders c h key secret
  | .getDeployment key => c.deploymentKey = some key
  | .patchDeployment key mark value => c.deploymentKey = some key ∧
    mark = autoscalerKubeconfigHashAnnotation ∧ ∃ token, h.read = some token ∧ value = tokenHash c.sha256 token
  | _ => True

def Next (h : Notes) (call : Call) : Prop := h.astray = true ∨ Permitted c h call

/-- The kubeconfig and the Deployment have got the token that was read. -/
structure Done (h : Notes) : Prop where
  applied : h.applied = true
  rolled : h.rolled = true

def Returns (h : Notes) (outcome : Outcome) : Prop := h.astray = true ∨ (outcome.succeeded = true → Done h)

end Discipline

section Traces

variable {c : Setting}

theorem astray_traced (p : AutoscalerProgram Outcome) (astray : h.astray = true) :
    p.Traced (note c) (Next c) Returns h := by
  refine traced_of_closed (P := fun h => h.astray = true) ?_ (fun _ _ astray => .inl astray) p astray
  intro h call astray
  refine ⟨.inl astray,fun a => ?_⟩
  cases call <;> simp [note,astray]

theorem applySecretToClient_spec (secret : Secret)
    (renders : Renders c h (secret.metadata.namespaceName,secret.metadata.name) secret) :
    (applySecretToClient secret).Traced (note c) (Next c)
      (fun h' err => h'.read = h.read ∧ h'.rolled = h.rolled ∧ (h.applied = true → h'.applied = true) ∧
        (err = none → (secret.metadata.namespaceName,secret.metadata.name) = kubeconfigKey →
          h'.applied = true)) h := by
  refine ⟨.inr renders,?_⟩
  rintro (err | _)
  · dsimp only [Program.bind]
    split
    · refine ⟨.inr renders,?_⟩
      rintro (err | _)
      · exact ⟨rfl,rfl,fun applied => by simp [note,applied],by simp⟩
      · exact ⟨rfl,rfl,fun applied => by simp [note,applied],fun _ here => by simp [note,here,Except.toOption]⟩
    · exact ⟨rfl,rfl,fun applied => by simp [note,applied],by simp⟩
  · exact ⟨rfl,rfl,fun applied => by simp [note,applied],fun _ here => by simp [note,here,Except.toOption]⟩

theorem ensureAutoscalerRolloutOnTokenChange_spec (target : c.deploymentKey = some config.deploymentKey)
    (read : h.read = some token) :
    (ensureAutoscalerRolloutOnTokenChange c.sha256 config token).Traced (note c) (Next c)
      (fun h' err => (h.applied = true → h'.applied = true) ∧ (err = none → h'.rolled = true)) h := by
  refine ⟨.inr target,?_⟩
  rintro (err | deployment)
  · dsimp only [Program.bind]
    split
    · next absent => exact ⟨id,fun _ => by simp [note,rolledBy,absent]⟩
    · exact ⟨id,by simp⟩
  · dsimp only [Program.bind]
    split
    · next same => exact ⟨id,fun _ => by simp [note,rolledBy,read,same]⟩
    · refine ⟨.inr ⟨target,rfl,token,read,rfl⟩,?_⟩
      rintro (err | _)
      · exact ⟨id,by simp⟩
      · exact ⟨id,fun _ => by simp [note,Except.toOption]⟩

theorem unprepared (err : Error) : some err = none → Done h := nofun

theorem returns_failed (failed : outcome.succeeded = false) : Returns h outcome :=
  .inr fun succeeded => nomatch failed.symm.trans succeeded

theorem prepareForApply_spec (target : c.deploymentKey = some config.deploymentKey) (h : Notes) :
    (prepareForApply c.sha256 c.baseURL config c.clusterName).Traced (note c) (Next c)
      (fun h' err => err = none → Done h') h := by
  refine ⟨.inr rfl,?_⟩
  rintro (err | autoscalerSecret)
  · exact unprepared _
  · dsimp only [Program.bind]
    split
    · exact unprepared _
    · next populated =>
      split
      · exact unprepared _
      · have read : (note c h (.getTokenSecret (tokenSecretKey c.clusterName)) (.ok autoscalerSecret)).read =
            some (tokenOf autoscalerSecret) := by
          simp [note,carried,Except.toOption,tokenOf,populated]
        refine traced_bind (applySecretToClient_spec _ fun _ => ⟨_,_,read,AList.lookup_insert _⟩) ?_
        rintro h' (_ | err) ⟨read',_,_,applied⟩
        · refine traced_bind (ensureAutoscalerRolloutOnTokenChange_spec target (read'.trans read)) ?_
          rintro h₂ (_ | err) ⟨applied',rolled⟩
          · exact fun _ => ⟨applied' (applied rfl rfl),rolled rfl⟩
          · exact unprepared _
        · exact unprepared _

theorem isInstalled_spec (target : c.deploymentKey = some config.deploymentKey) (done : Done h) :
    (isInstalled config).Traced (note c) (Next c) (fun h' _ => Done h') h := by
  refine ⟨.inr target,?_⟩
  have done' (ok : Bool) : Done { h with rolled := h.rolled || ok } := ⟨done.applied,by simp [done.rolled]⟩
  rintro (err | deployment)
  · dsimp only [Program.bind]
    split
    · exact done' _
    · exact done' _
  · exact done' _

theorem extraValues_key (config : AutoscalerJobConfig) :
    (config.targetNamespace,config.name ++ "-extra-values") ≠ kubeconfigKey := by
  intro same
  have name : kubeconfigKey.2 = config.name ++ "-extra-values" := (congrArg Prod.snd same).symm
  have ending := (hasSuffix_iff kubeconfigKey.2 "-extra-values").mpr ⟨_,name⟩
  revert ending
  decide

theorem applyExtraValues_spec (config : AutoscalerJobConfig) (found : Option Secret) (done : Done h) :
    (applyExtraValues config found).Traced (note c) (Next c) (fun h' _ => Done h') h := by
  refine traced_bind (applySecretToClient_spec _ fun here => absurd here (extraValues_key config)) ?_
  rintro h' (_ | err) ⟨_,rolled,applied,_⟩
  · exact ⟨applied done.applied,rolled.trans done.rolled⟩
  · exact ⟨applied done.applied,rolled.trans done.rolled⟩

theorem apply_spec (config : AutoscalerJobConfig) (clusterName : String) (done : Done h) :
    (apply config clusterName).Traced (note c) (Next c) (fun h' _ => Done h') h := by
  have values : (applySecret config clusterName).Traced (note c) (Next c) (fun h' _ => Done h') h := by
    refine ⟨.inr trivial,?_⟩
    rintro (err | yamlSecret)
    · dsimp only [Program.bind]
      split
      · exact applyExtraValues_spec config none done
      · exact done
    · exact applyExtraValues_spec config (some yamlSecret) done
  refine traced_bind values ?_
  rintro h' (err | config) done'
  · exact done'
  · refine ⟨.inr trivial,?_⟩
    rintro (err | _) <;> exact done'

theorem installJob_spec (target : c.deploymentKey = some config.deploymentKey) (h : Notes) :
    (installJob c.sha256 c.baseURL config c.clusterName).Traced (note c) (Next c) Returns h := by
  refine traced_bind (prepareForApply_spec target h) ?_
  rintro h' (_ | err) prepared
  · refine traced_bind (isInstalled_spec target (prepared rfl)) ?_
    rintro h₂ (err | _ | _) done
    · exact .inr fun _ => done
    · refine traced_bind (apply_spec config c.clusterName done) ?_
      rintro h₃ (_ | err) done'
      · exact .inr fun _ => done'
      · exact .inr fun _ => done'
    · exact .inr fun _ => done
  · dsimp only
    split
    · exact returns_failed rfl
    · exact returns_failed rfl

theorem fetchDownstreamKubernetesClient_spec (clusterName : String) (h : Notes) :
    (fetchDownstreamKubernetesClient clusterName).Traced (note c) (Next c) (fun _ _ => True) h := by
  have kubeconfig : (fetchKubeConfigFromSecret clusterName).Traced (note c) (Next c) (fun _ _ => True) h := by
    refine ⟨.inr trivial,?_⟩
    rintro (err | secret)
    · trivial
    · dsimp only [Program.bind]
      split <;> trivial
  refine traced_bind kubeconfig ?_
  rintro h' (err | kubeconfig) _
  · trivial
  · refine ⟨.inr trivial,?_⟩
    rintro (err | _)
    · trivial
    · refine ⟨.inr trivial,?_⟩
      rintro (err | _) <;> trivial

theorem installAutoscaler_spec (h : Notes) :
    (installAutoscaler c.sha256 c.baseURL c.clusterName c.configMap.data).Traced (note c) (Next c)
      Returns h := by
  refine traced_bind (fetchDownstreamKubernetesClient_spec c.clusterName h) ?_
  rintro h' (_ | err) _
  · refine ⟨.inr trivial,?_⟩
    rintro (err | _)
    · exact returns_failed rfl
    · dsimp only [Program.bind]
      cases job : jobConfig c.clusterName c.configMap.data with
      | error err => exact returns_failed rfl
      | ok config =>
        refine installJob_spec ?_ _
        simp [Setting.deploymentKey,job,Except.toOption]
  · dsimp only
    split
    · exact returns_failed rfl
    · exact returns_failed rfl

/-- A reconcile that succeeds has brought the token it has read to where it belongs. -/
theorem reconcile_spec (req : ObjectKey) (h : Notes) :
    (reconcile c.sha256 c.baseURL req).Traced (note c) (Next c) Returns h := by
  refine ⟨.inr trivial,?_⟩
  rintro (err | ccmConfigMap)
  · exact returns_failed rfl
  · by_cases other : ccmConfigMap = c.configMap
    · subst other
      dsimp only [Program.bind]
      rw [c.cluster]
      refine traced_bind (installAutoscaler_spec _) ?_
      rintro h' ⟨after,_ | err⟩ returns
      · exact returns
      · exact returns_failed (by simp [Outcome.succeeded])
    · exact astray_traced _ (by simp [note,Except.toOption,other])

end Traces

section Answers

variable {c : Setting}

/-- Where the run of a reconcile stands with regard to a token. -/
structure Good (c : Setting) (w : World) (token : Bytes) (h : Notes) : Prop where
  straight : h.astray = false
  read : ∀ t, h.read = some t → t = token
  applied : h.applied = true → Contains w token
  rolled : h.rolled = true → Stamped c w token

theorem Contains.of_render (plain : htmlEscape token = token)
    (stored : w.secrets.lookup kubeconfigKey = some secret)
    (value : secret.data.lookup "value" = some (Kubeconfig.render ⟨baseURL,token,namespaceName⟩)) :
    Contains w token := by
  have inside := Kubeconfig.infix_render ⟨baseURL,token,namespaceName⟩
  rw [plain] at inside
  exact ⟨secret,_,stored,value,inside⟩

theorem commit_cases (w : World) (attempt : Except APIError World) (f : Fault APIError) :
    ((commit w attempt f).2 = w ∧ (commit w attempt f).1.toOption = none) ∨
    attempt = .ok (commit w attempt f).2 := by
  cases attempt <;> cases f <;> simp [commit,Except.toOption]

theorem serve_frame (w : World) (call : Call) (reply : Reply) :
    ∃ secrets deployments, (serve c w call reply).2 = { w with secrets, deployments } := by
  have written {attempt : Except APIError World} (f : Fault APIError)
      (frame : ∀ next, attempt = .ok next → ∃ secrets deployments, next = { w with secrets, deployments }) :
      ∃ secrets deployments, (commit w attempt f).2 = { w with secrets, deployments } := by
    rcases commit_cases w attempt f with ⟨same,_⟩ | done
    · exact ⟨w.secrets,w.deployments,same⟩
    · exact frame _ done
  cases call with
  | createSecret key secret =>
    refine written _ fun next done => ?_
    unfold World.createSecret at done
    split at done <;> cases done
    exact ⟨_,_,rfl⟩
  | updateSecret key secret =>
    refine written _ fun next done => ?_
    unfold World.updateSecret at done
    split at done <;> cases done
    exact ⟨_,_,rfl⟩
  | patchDeployment key mark value =>
    refine written _ fun next done => ?_
    unfold World.patchDeployment at done
    split at done <;> cases done
    exact ⟨_,_,rfl⟩
  | getTokenSecret key =>
    simp only [serve]
    split <;> exact ⟨_,_,rfl⟩
  | _ => exact ⟨_,_,rfl⟩

theorem Good.written (good : Good c w token h) (plain : htmlEscape token = token)
    (renders : Renders c h key secret) {attempt : Except APIError World}
    (writes : ∀ next, attempt = .ok next → next = { w with secrets := w.secrets.insert key secret })
    (f : Fault APIError) :
    Good c (commit w attempt f).2 token
      { h with applied := h.applied || key = kubeconfigKey && (commit w attempt f).1.toOption.isSome } := by
  rcases commit_cases w attempt f with ⟨same,failed⟩ | done
  · rw [same,failed]
    simpa using good
  · rw [writes _ done]
    refine ⟨good.straight,good.read,fun applied => ?_,good.rolled⟩
    by_cases here : key = kubeconfigKey
    · obtain ⟨t,namespaceName,read,value⟩ := renders here
      obtain rfl := good.read t read
      exact Contains.of_render plain (here ▸ AList.lookup_insert _) value
    · have before : h.applied = true := by simpa [here] using applied
      obtain ⟨stored,value,found,rest⟩ := good.applied before
      exact ⟨stored,value,(AList.lookup_insert_ne (Ne.symm here)).trans found,rest⟩

theorem Good.patched (good : Good c w token h) (target : c.deploymentKey = some key)
    {attempt : Except APIError World}
    (writes : ∀ next, attempt = .ok next → ∃ deployment : Deployment, next = { w with
      deployments := w.deployments.insert key
        ⟨deployment.annotations.insert autoscalerKubeconfigHashAnnotation (tokenHash c.sha256 token)⟩ })
    (f : Fault APIError) :
    Good c (commit w attempt f).2 token
      { h with rolled := h.rolled || (commit w attempt f).1.toOption.isSome } := by
  rcases commit_cases w attempt f with ⟨same,failed⟩ | done
  · rw [same,failed]
    simpa using good
  · obtain ⟨deployment,after⟩ := writes _ done
    rw [after]
    refine ⟨good.straight,good.read,good.applied,fun _ => ?_⟩
    intro key' patched target' there
    obtain rfl : key = key' := Option.some.inj (target.symm.trans target')
    cases (AList.lookup_insert _).symm.trans there
    exact Map.index_of_lookup (AList.lookup_insert _)

theorem fetch_toOption {found : Option α} (answered : (fetch found f).toOption = some a) : found = some a := by
  cases f <;> cases found <;> simp_all [fetch,Except.toOption]

theorem Good.rolledBy (good : Good c w token h) (target : c.deploymentKey = some key)
    (honest : transient f = true)
    (told : Rotation.rolledBy c h.read (fetch (w.deployments.lookup key) f) = true) : Stamped c w token := by
  intro key' deployment target' found
  obtain rfl : key = key' := Option.some.inj (target.symm.trans target')
  rw [found] at told
  cases f with
  | none =>
    obtain ⟨t,read,same⟩ := (Option.any_eq_true _ _).mp told
    rw [← good.read t read]
    exact of_decide_eq_true same
  | refused err => simp_all [transient,Rotation.rolledBy,fetch]
  | lost err => simp_all [transient,Rotation.rolledBy,fetch]

theorem Good.answered (good : Good c w token h) (plain : htmlEscape token = token)
    (current : ∀ t, carried w.tokenSecret = some t → t = token) (permitted : Permitted c h call)
    (honest : transient reply.fault = true) :
    Good c (serve c w call reply).2 token (note c h call (serve c w call reply).1) := by
  cases call with
  | getConfigMap key =>
    refine ⟨?_,good.read,good.applied,good.rolled⟩
    cases answered : (fetch (if key = c.configMapKey then some c.configMap else none) reply.fault).toOption with
    | none => simp [note,serve,good.straight,answered]
    | some configMap =>
      have same : configMap = c.configMap := by
        have found := fetch_toOption answered
        split at found <;> cases found
        rfl
      simp [note,serve,good.straight,answered,same]
  | getTokenSecret key =>
    obtain rfl : key = tokenSecretKey c.clusterName := permitted
    simp only [serve,if_true]
    refine ⟨good.straight,fun t read => ?_,nofun,nofun⟩
    refine current t ?_
    cases answered : (fetch w.tokenSecret reply.fault).toOption with
    | none => simp [note,answered,carried] at read
    | some secret =>
      rw [fetch_toOption answered]
      simpa [note,answered] using read
  | createSecret key secret =>
    refine good.written plain permitted (fun next done => ?_) reply.fault
    unfold World.createSecret at done
    split at done <;> cases done
    rfl
  | updateSecret key secret =>
    refine good.written plain permitted (fun next done => ?_) reply.fault
    unfold World.updateSecret at done
    split at done <;> cases done
    rfl
  | getDeployment key =>
    refine ⟨good.straight,good.read,good.applied,fun rolled => ?_⟩
    rcases Bool.or_eq_true_iff.mp rolled with before | told
    · exact good.rolled before
    · exact good.rolledBy permitted honest told
  | patchDeployment key mark value =>
    obtain ⟨target,rfl,t,read,rfl⟩ := permitted
    obtain rfl := good.read t read
    refine good.patched target (fun next done => ?_) reply.fault
    unfold World.patchDeployment at done
    split at done <;> cases done
    exact ⟨_,rfl⟩
  | _ => exact good

end Answers

section Invariant

/-- Who will bring the token: the informer, when it comes to it; a request that waits; the reconcile that
runs. Or nobody has to. -/
inductive Owed (c : Setting) (w : World) (token : Bytes) : Prop where
  | informer (unseen : carried w.seen ≠ some token) (there : carried w.tokenSecret = some token)
      (coming : w.backlog.getLast? = some w.tokenSecret)
  | queued (waiting : w.queued = true)
  | running (now : w.running = some p) (traced : p.Traced (note c) (Next c) Returns h) (good : Good c w token h)
  | done (idle : w.running = none) (contains : Contains w token) (stamped : Stamped c w token)

structure Inv (c : Setting) (w : World) : Prop where
  seen : ∀ secret, w.seen = some secret → c.IsTokenSecret secret
  backlog : ∀ secret, some secret ∈ w.backlog → c.IsTokenSecret secret
  current : ∀ token, carried w.tokenSecret = some token → w.last = some token
  plain : ∀ token, w.last = some token → htmlEscape token = token
  owed : ∀ token, w.last = some token → Owed c w token

variable {c : Setting}

theorem mapped (secret : c.IsTokenSecret s) :
    configMapForAutoscalerTokenSecret (c.readConfigMap none) s = [c.configMapKey] := by
  simp only [configMapForAutoscalerTokenSecret,secret.label,secret.name,secret.namespaceName,ne_eq,
    not_true_eq_false,if_false,Setting.readConfigMap,← Setting.configMapKey.eq_1,if_true,c.watched]

theorem matched (secret : c.IsTokenSecret s) : asAutoscalerTokenSecret s = true := by
  simp [asAutoscalerTokenSecret,secret.type,secret.label,secret.name]

theorem carried_eq_some : carried (some s) = some t ↔ tokenOf s ≠ [] ∧ tokenOf s = t := by
  simp only [carried,Option.bind_some]
  split <;> simp_all

/-- A token that the informer has not seen causes a request when it comes. -/
theorem notified_of_unseen (secret : c.IsTokenSecret s) (before : ∀ old, seen = some old → c.IsTokenSecret old)
    (token : carried (some s) = some t) (unseen : carried seen ≠ some t)
    (reads : first = none ∨ seen.isSome ∧ second = none) : notified c first second seen (some s) = true := by
  obtain ⟨populated,rfl⟩ := carried_eq_some.mp token
  cases seen with
  | none =>
    obtain rfl : first = none := reads.resolve_right fun both => nomatch both.1
    have passes : autoscalerTokenSecretPredicate (.create s) = true := by
      simpa [autoscalerTokenSecretPredicate,matched secret,tokenOf] using populated
    simp [notified,eventOf,requests,passes,mapped secret]
  | some old =>
    have changed : tokenOf old ≠ tokenOf s := by
      intro same
      exact unseen (carried_eq_some.mpr ⟨same ▸ populated,same⟩)
    have passes : autoscalerTokenSecretPredicate (.update old s) = true := by
      simpa [autoscalerTokenSecretPredicate,matched secret,tokenOf] using changed
    rcases reads with rfl | ⟨_,rfl⟩
    · simp [notified,eventOf,requests,passes,mapped (before old rfl)]
    · simp [notified,eventOf,requests,passes,mapped secret]

theorem World.Noticed.not_unseen (noticed : World.Noticed w) (there : carried w.tokenSecret = some t) :
    ¬carried w.seen ≠ some t := by
  rcases noticed with none | same
  · exact nomatch none.symm.trans there
  · exact not_not.mpr (same.trans there)

theorem Owed.keep (owed : Owed c w t) {w' : World} (running : w'.running = w.running)
    (secrets : w'.secrets = w.secrets) (deployments : w'.deployments = w.deployments) (queued : w.queued = true → w'.queued = true)
    (informer : carried w.seen ≠ some t → carried w.tokenSecret = some t →
      w.backlog.getLast? = some w.tokenSecret → Owed c w' t) : Owed c w' t := by
  have contains : Contains w t → Contains w' t := by unfold Contains; rw [secrets]; exact id
  have stamped : Stamped c w t → Stamped c w' t := by unfold Stamped; rw [deployments]; exact id
  cases owed with
  | informer unseen there coming => exact informer unseen there coming
  | queued waiting => exact .queued (queued waiting)
  | running now traced good =>
    exact .running (running.trans now) traced
      ⟨good.straight,good.read,fun applied => contains (good.applied applied),
        fun rolled => stamped (good.rolled rolled)⟩
  | done idle has hash => exact .done (running.trans idle) (contains has) (stamped hash)

theorem Owed.deployments (owed : Owed c w t) (deployments : Map ObjectKey Deployment)
    (kept : ∀ key deployment, c.deploymentKey = some key → deployments.lookup key = some deployment →
      w.deployments.lookup key = some deployment) : Owed c { w with deployments } t := by
  have stamped (before : Stamped c w t) : Stamped c { w with deployments } t :=
    fun key deployment target found => before key deployment target (kept key deployment target found)
  cases owed with
  | informer unseen there coming => exact .informer unseen there coming
  | queued waiting => exact .queued waiting
  | running now traced good =>
    exact .running now traced ⟨good.straight,good.read,good.applied,fun rolled => stamped (good.rolled rolled)⟩
  | done idle has hash => exact .done idle has (stamped hash)

theorem Inv.deliver (inv : Inv c w) (reads : first = none ∨ w.seen.isSome ∧ second = none) :
    Inv c (w.act c (.deliver skipped first second)) := by
  cases left : w.backlog.drop skipped with
  | nil => simpa only [World.act,left] using inv
  | cons state rest =>
    have member {x : Option Secret} (later : x ∈ state :: rest) : x ∈ w.backlog :=
      List.mem_of_mem_drop (left ▸ later)
    simp only [World.act,left]
    refine ⟨?_,fun s later => inv.backlog s (member (List.mem_cons_of_mem _ later)),inv.current,inv.plain,?_⟩
    · rintro s rfl
      exact inv.backlog s (member List.mem_cons_self)
    · intro t last
      refine (inv.owed t last).keep rfl rfl rfl (fun waiting => by simp [waiting]) fun unseen there coming => ?_
      have ends : (state :: rest).getLast? = some w.tokenSecret := by
        rw [← left,List.getLast?_drop,coming]
        have : ¬w.backlog.length ≤ skipped := fun short => by simp [List.drop_of_length_le short] at left
        simp [this]
      by_cases comes : carried state = some t
      · cases state with
        | none => cases comes
        | some s =>
          have secret := inv.backlog s (member List.mem_cons_self)
          have request := notified_of_unseen secret inv.seen comes unseen reads
          exact .queued (by simp [request])
      · cases rest with
        | nil =>
          have same : state = w.tokenSecret := Option.some.inj ends
          exact absurd (same ▸ there) comes
        | cons next rest => exact .informer comes there ends

theorem settle_frame (w : World) (p : AutoscalerProgram Outcome) :
    ∃ running queued, w.settle p = { w with running, queued } ∧ (w.queued = true → queued = true) := by
  cases p with
  | pure outcome => exact ⟨_,_,rfl,fun waiting => by simp [waiting]⟩
  | call call next => exact ⟨_,_,rfl,id⟩

theorem Good.settle (good : Good c w t h) (traced : p.Traced (note c) (Next c) Returns h) :
    Owed c (w.settle p) t := by
  cases p with
  | call call next => exact .running rfl traced ⟨good.straight,good.read,good.applied,good.rolled⟩
  | pure outcome =>
    cases succeeded : outcome.succeeded with
    | false => exact .queued (by simp [World.settle,succeeded])
    | true =>
      rcases traced with astray | done
      · exact nomatch good.straight.symm.trans astray
      · exact .done rfl (good.applied (done succeeded).applied) (good.rolled (done succeeded).rolled)

theorem Inv.answer (inv : Inv c w) (honest : transient reply.fault = true) :
    Inv c (w.act c (.answer reply)) := by
  rcases now : w.running with _ | ⟨outcome⟩ | ⟨call,next⟩
  · simpa only [World.act,now] using inv
  · simpa only [World.act,now] using inv
  · have act : w.act c (.answer reply) =
        (serve c w call reply).2.settle (next (serve c w call reply).1) := by simp only [World.act,now]
    obtain ⟨secrets,deployments,served⟩ := serve_frame (c := c) w call reply
    obtain ⟨running,queued,settled,waits⟩ :=
      settle_frame (serve c w call reply).2 (next (serve c w call reply).1)
    have frame : w.act c (.answer reply) = { w with secrets, deployments, running, queued } := by
      rw [act,settled,served]
    have kept : w.queued = true → queued = true := fun waiting => waits (by rw [served]; exact waiting)
    refine ⟨?_,?_,?_,?_,?_⟩
    · rw [frame]; exact inv.seen
    · rw [frame]; exact inv.backlog
    · rw [frame]; exact inv.current
    · rw [frame]; exact inv.plain
    · intro t last
      have last' : w.last = some t := by rw [frame] at last; exact last
      cases inv.owed t last' with
      | informer unseen there coming => rw [frame]; exact .informer unseen there coming
      | queued waiting => rw [frame]; exact .queued (kept waiting)
      | running now' traced good =>
        cases now.symm.trans now'
        have permitted : Permitted c _ call :=
          traced.1.resolve_left fun astray => nomatch good.straight.symm.trans astray
        have current : ∀ t', carried w.tokenSecret = some t' → t' = t :=
          fun t' there => Option.some.inj ((inv.current t' there).symm.trans last')
        rw [act]
        exact (good.answered (inv.plain t last') current permitted honest).settle (traced.2 _)
      | done idle has hash => cases now.symm.trans idle

theorem Inv.put (inv : Inv c w) (secret : c.IsTokenSecret s) (condition : Condition c w (.put s)) :
    Inv c (w.act c (.put s)) := by
  have seen := inv.seen
  have backlog (s' : Secret) (member : some s' ∈ w.backlog ++ [some s]) : c.IsTokenSecret s' := by
    rcases List.mem_append.mp member with before | new
    · exact inv.backlog s' before
    · cases List.mem_singleton.mp new; exact secret
  have coming : (w.backlog ++ [some s]).getLast? = some (some s) := by simp
  cases token : carried (some s) with
  | none =>
    have noticed : w.Noticed := by simpa only [Condition,token] using condition
    simp only [World.act,token,Option.none_or]
    refine ⟨seen,backlog,fun t there => (nomatch token.symm.trans there),inv.plain,fun t last => ?_⟩
    refine (inv.owed t last).keep rfl rfl rfl id fun unseen there _ => ?_
    exact (noticed.not_unseen there unseen).elim
  | some t =>
    obtain ⟨plain,fresh⟩ : htmlEscape t = t ∧ (w.last = some t ∨ carried w.seen ≠ some t) := by
      simpa only [Condition,token] using condition
    simp only [World.act,token,Option.some_or]
    refine ⟨seen,backlog,fun t' there => token.symm.trans there,?_,?_⟩
    · rintro _ ⟨⟩
      exact plain
    · rintro _ ⟨⟩
      rcases fresh with again | unseen
      · exact (inv.owed t again).keep rfl rfl rfl id fun unseen _ _ => .informer unseen token coming
      · exact .informer unseen token coming

theorem Inv.step (inv : Inv c w) (possible : w.possible c action) (condition : Condition c w action) :
    Inv c (w.act c action) := by
  cases action with
  | put s => exact inv.put possible condition
  | remove =>
    refine ⟨inv.seen,?_,nofun,inv.plain,fun t last => ?_⟩
    · intro s member
      rcases List.mem_append.mp member with before | new
      · exact inv.backlog s before
      · cases List.mem_singleton.mp new
    · refine (inv.owed t last).keep rfl rfl rfl id fun unseen there _ => ?_
      exact (World.Noticed.not_unseen condition there unseen).elim
  | deliver skipped first second => exact inv.deliver condition
  | enqueue => exact ⟨inv.seen,inv.backlog,inv.current,inv.plain,fun _ _ => .queued rfl⟩
  | take =>
    refine ⟨inv.seen,inv.backlog,inv.current,inv.plain,fun t _ => ?_⟩
    exact .running rfl (reconcile_spec c.configMapKey ⟨false,none,false,false⟩) ⟨rfl,nofun,nofun,nofun⟩
  | answer reply => exact inv.answer possible.2
  | install key annotations =>
    refine ⟨inv.seen,inv.backlog,inv.current,inv.plain,fun t last => ?_⟩
    by_cases here : c.deploymentKey = some key
    · exact .queued (condition here)
    · refine (inv.owed t last).deployments _ fun key' deployment target found => ?_
      have other : key' ≠ key := fun same => here (same ▸ target)
      rwa [AList.lookup_insert_ne other] at found
  | uninstall key =>
    refine ⟨inv.seen,inv.backlog,inv.current,inv.plain,fun t last => ?_⟩
    refine (inv.owed t last).deployments _ fun key' deployment target found => ?_
    rw [Map.lookup_erase_eq] at found
    split at found
    · cases found
    · exact found

end Invariant

/-- Nothing has happened yet; the downstream cluster can be in any state. -/
def start (secrets : Map ObjectKey Secret) (deployments : Map ObjectKey Deployment) : World :=
  ⟨none,none,none,[],false,none,secrets,deployments⟩

/-- The informer has come to the end of the changes, and the queue is empty. -/
structure Settled (w : World) : Prop where
  backlog : w.backlog = []
  queued : w.queued = false
  running : w.running = none

theorem Owed.settled {c : Setting} (owed : Owed c w t) (settled : Settled w) :
    Contains w t ∧ Stamped c w t := by
  cases owed with
  | informer unseen there coming => rw [settled.backlog] at coming; cases coming
  | queued waiting => exact nomatch settled.queued.symm.trans waiting
  | running now traced good => cases settled.running.symm.trans now
  | done idle has hash => exact ⟨has,hash⟩

theorem token_rotation_arrives (c : Setting)
    (run : ((system c).restrict (Condition c)).Run (start secrets deployments) actions w)
    (settled : Settled w) (last : w.last = some token) : Contains w token ∧ Stamped c w token := by
  have inv : Inv c w := run.invariant_restrict (Inv c) (fun _ _ inv ok condition => inv.step ok condition)
    ⟨nofun,nofun,nofun,nofun,nofun⟩
  exact (inv.owed token last).settled settled

section Sample

/-- The hash is the token itself here. -/
def edge : Setting where
  sha256 := id
  baseURL := "https://kommodity"
  clusterName := "edge"
  configMap :=
    ⟨⟨"edge-cluster-autoscaler-config","default",
      ((∅ : Map String String).insert clusterNameLabel "edge").insert watchLabel autoscalerControllerName,∅⟩,
      (((∅ : Map String String).insert "namespace" "kube-system").insert "repository" "charts").insert
        "name" "cluster-autoscaler",∅,none⟩
  cluster := by decide
  watched := by decide

def edgeToken (token : Bytes) : Secret :=
  ⟨⟨"edge-cluster-autoscaler","default",(∅ : Map String String).insert clusterNameLabel "edge",∅⟩,
    secretTypeServiceAccountToken,
    ((∅ : Map String Bytes).insert autoscalerSecretTokenKey token).insert "namespace" (bytes "default"),∅,none⟩

/-- Every call succeeds; there are no values for the chart. -/
def fine : Reply where
  fault := .none
  others
    | .getConfigMap _ => .error .unavailable
    | .getKubeconfig _ =>
      .ok ⟨⟨"edge-kubeconfig","default",∅,∅⟩,"",(∅ : Map String Bytes).insert "value" [],∅,none⟩
    | .restConfig _ => .ok ()
    | .newClient _ => .ok ()
    | .getTokenSecret _ => .error .unavailable
    | .checkClusterReady => .ok ()
    | .createSecret _ _ => .error .unavailable
    | .updateSecret _ _ => .error .unavailable
    | .getDeployment _ => .error .unavailable
    | .patchDeployment _ _ _ => .error .unavailable
    | .getExtraValues _ => .error (.store .notFound)
    | .applyTemplate _ => .ok ()

def answers (n : Nat) : List Action := List.replicate n (.answer fine)

def installed : Map ObjectKey Deployment :=
  (∅ : Map ObjectKey Deployment).insert ("kube-system","cluster-autoscaler") ⟨∅⟩

/-- Two tokens, one after the other. -/
def rotation : List Action :=
  [Action.put (edgeToken [65]),.deliver 0 none none,.take] ++ answers 10 ++
    [Action.put (edgeToken [66]),.deliver 0 none none,.take] ++ answers 11

theorem token_rotation_arrives_twice :
    ∃ w, ((system edge).restrict (Condition edge)).Run (start ∅ installed) rotation w ∧ Settled w ∧
      w.last = some [66] ∧ Contains w [66] ∧ Stamped edge w [66] := by
  have run := System.run_of_admits ((system edge).restrict (Condition edge)) (start ∅ installed) rotation
    (by decide +kernel)
  have settled : Settled (rotation.foldl ((system edge).restrict (Condition edge)).apply (start ∅ installed)) :=
    ⟨rfl,rfl,rfl⟩
  exact ⟨_,run,settled,rfl,token_rotation_arrives edge run settled rfl⟩

/-- A run after which the last token is not where it belongs. -/
def Missed (deployments : Map ObjectKey Deployment) (actions : List Action) : Prop :=
  ∃ w token, (system edge).Run (start ∅ deployments) actions w ∧ Settled w ∧ w.last = some token ∧
    ¬(Contains w token ∧ Stamped edge w token)

/-- The mapping cannot read the ConfigMap. -/
def dropped : List Action := [.put (edgeToken [65]),.deliver 0 (some .unavailable) none]

/-- A token is replaced while a reconcile runs, and comes back before the informer has seen the other. -/
def returned : List Action :=
  [Action.put (edgeToken [65]),.deliver 0 none none,.take] ++ answers 5 ++ [Action.put (edgeToken [66])] ++ answers 5 ++
    [Action.put (edgeToken [65]),.deliver 1 none none]

/-- The Secret is deleted before the informer has seen the token. -/
def deleted : List Action := [.put (edgeToken [65]),.remove,.deliver 1 none none]

/-- The chart is installed after the reconcile. -/
def installedLate : List Action :=
  [Action.put (edgeToken [65]),.deliver 0 none none,.take] ++ answers 12 ++
    [Action.install ("kube-system","cluster-autoscaler") ∅]

theorem token_rotation_missed :
    Missed ∅ dropped ∧ Missed installed returned ∧ Missed ∅ deleted ∧ Missed ∅ installedLate := by
  have runs (deployments : Map ObjectKey Deployment) (actions : List Action) :=
    System.run_of_admits (system edge) (start ∅ deployments) actions
  have unstamped {w : World} {t : Bytes} {d : Deployment}
      (there : w.deployments.lookup ("kube-system","cluster-autoscaler") = some d)
      (other : d.annotations.index autoscalerKubeconfigHashAnnotation ≠ tokenHash edge.sha256 t) :
      ¬(Contains w t ∧ Stamped edge w t) := fun both => other (both.2 _ _ (by decide +kernel) there)
  have absent {w : World} {t : Bytes} (none : w.secrets.lookup kubeconfigKey = none) :
      ¬(Contains w t ∧ Stamped edge w t) := by
    rintro ⟨⟨_,_,found,_⟩,_⟩
    exact nomatch none.symm.trans found
  refine ⟨⟨_,[65],runs ∅ dropped (by decide +kernel),⟨rfl,rfl,rfl⟩,rfl,absent rfl⟩,
    ⟨_,[65],runs installed returned (by decide +kernel),⟨rfl,rfl,rfl⟩,rfl,unstamped rfl (by decide +kernel)⟩,
    ⟨_,[65],runs ∅ deleted (by decide +kernel),⟨rfl,rfl,rfl⟩,rfl,absent rfl⟩,
    ⟨_,[65],runs ∅ installedLate (by decide +kernel),⟨rfl,rfl,rfl⟩,rfl,unstamped rfl (by decide +kernel)⟩⟩

end Sample

end Kommodity.Autoscaler.Rotation
