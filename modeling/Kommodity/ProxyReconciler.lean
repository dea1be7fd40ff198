import Kommodity.ProxySystem

/-! The controller that registers workload clusters with the proxy by an annotation of their
Cluster objects. The registry and the pool know a cluster by its bare name. -/
namespace Kommodity.TalosProxy

open Go Go.Net Transition

def nodeCIDRAnnotation : String := "kommodity.io/node-cidr"

/-- `types.NamespacedName` of a request. -/
structure Request where
  namespaceName : String
  name : String
  deriving DecidableEq

def Request.string (req : Request) : String := req.namespaceName ++ "/" ++ req.name

/-- The fields of a Cluster object that `Reconcile` reads; `deleting` is a deletion timestamp. -/
structure Cluster where
  name : String
  namespaceName : String
  deleting : Bool
  annotations : Map String String

def Cluster.request (cluster : Cluster) : Request := ⟨cluster.namespaceName,cluster.name⟩

/-- What `Get` answers: the object of that name, or an error. -/
inductive GetAnswer (req : Request) where
  | found (cluster : Cluster) (same : cluster.request = req)
  | notFound
  | failed (message : String)

inductive ReconcileError where
  | getFailed (req : Request) (message : String)
  | invalidCIDR (cidrStr clusterName : String)
  | registerFailed (clusterName : String) (err : RegisterError)
  deriving DecidableEq

/-- The text of the error, with that of `RegisterCluster` inside. -/
def ReconcileError.error (quote : String → String) : ReconcileError → String
  | .getFailed req message => "failed to get Cluster " ++ req.string ++ ": " ++ message
  | .invalidCIDR cidrStr clusterName =>
    "failed to parse CIDR " ++ cidrStr ++ " for cluster " ++ clusterName ++ ": invalid CIDR address: " ++ cidrStr
  | .registerFailed clusterName err =>
    "failed to register cluster " ++ clusterName ++ " with proxy: failed to register cluster " ++ clusterName ++
      ": " ++ err.error quote

/-- The two stores of the proxy. -/
structure Stores where
  registry : Registry
  pool : TunnelPool

def Stores.registerCluster (order : List String) (p : Stores) (clusterName namespaceName : String)
    (cidr : Block) : Option RegisterError × Stores :=
  let (err,registry) := register order p.registry clusterName namespaceName cidr
  (err,{ p with registry })

def Stores.deregisterCluster (p : Stores) (clusterName : String) : Stores :=
  ⟨deregister p.registry clusterName,p.pool.removeTunnel clusterName⟩

/-- The second result of `net.ParseCIDR`. -/
def parseBlock (text : String) : Option Block :=
  match parsed : parseCIDR text with
  | none => none
  | some (address,net) => some ⟨net,text,address,parsed⟩

theorem parseBlock_eq {cidr : Block} (parsed : parseCIDR text = some (address,cidr.net)) :
    parseBlock text = some cidr := by
  unfold parseBlock
  split
  · next absent => rw [absent] at parsed; cases parsed
  · next result => rw [result] at parsed; cases parsed; rfl

def handleClusterRegistration (order : List String) (cluster : Cluster) (p : Stores) :
    Option ReconcileError × Stores :=
  match cluster.annotations.lookup nodeCIDRAnnotation with
  | none => (none,p.deregisterCluster cluster.name)
  | some cidrStr =>
    match parseBlock cidrStr with
    | none => (some (.invalidCIDR cidrStr cluster.name),p)
    | some cidr =>
      let (err,p) := p.registerCluster order cluster.name cluster.namespaceName cidr
      (err.map (.registerFailed cluster.name),p)

/-- `Reconcile`: the error returned and the stores left behind. -/
def reconcile (order : List String) (req : Request) (answer : GetAnswer req) (p : Stores) :
    Option ReconcileError × Stores :=
  match answer with
  | .notFound => (none,p.deregisterCluster req.name)
  | .failed message => (some (.getFailed req message),p)
  | .found cluster _ =>
    if cluster.deleting then (none,p.deregisterCluster cluster.name)
    else handleClusterRegistration order cluster p

/-- What a call of `Reconcile` does to the stores. -/
inductive Effect where
  | register (cidr : Block)
  | deregister
  | nothing

def Effect.apply (order : List String) (req : Request) (p : Stores) : Effect → Stores
  | .register cidr => (p.registerCluster order req.name req.namespaceName cidr).2
  | .deregister => p.deregisterCluster req.name
  | .nothing => p

def Cluster.effect (cluster : Cluster) : Effect :=
  if cluster.deleting then .deregister
  else
    match cluster.annotations.lookup nodeCIDRAnnotation with
    | none => .deregister
    | some cidrStr => ((parseBlock cidrStr).map .register).getD .nothing

def GetAnswer.effect : GetAnswer req → Effect
  | .found cluster _ => cluster.effect
  | .notFound => .deregister
  | .failed _ => .nothing

/-- `Reconcile` acts on the name and namespace of its request, as its answer says. -/
theorem reconcile_stores (order : List String) (req : Request) (answer : GetAnswer req) (p : Stores) :
    (reconcile order req answer p).2 = answer.effect.apply order req p := by
  cases answer with
  | notFound => rfl
  | failed message => rfl
  | found cluster same =>
    cases same
    simp only [reconcile,handleClusterRegistration,GetAnswer.effect,Cluster.effect,Cluster.request]
    split
    · rfl
    · split
      · rfl
      · next cidrStr _ => cases parseBlock cidrStr <;> rfl

/-- The steps of the proxy that make up an effect. -/
def Effect.events (order : List String) (req : Request) : Effect → List Event
  | .register cidr => [.register order req.name req.namespaceName cidr]
  | .deregister => [.deregister req.name,.removeTunnel req.name]
  | .nothing => []

def State.stores (s : State) : Stores := ⟨s.registry,s.pool⟩

/-- A call of `Reconcile` that nobody interrupts is a run of the proxy. -/
theorem reconcile_run (answer : GetAnswer req) (visits : order.Perm s.registry.keys) (free : s.closing = none) :
    ∃ s', (proxySystem cfg).Run s (answer.effect.events order req) s' ∧
      s'.stores = (reconcile order req answer s.stores).2 := by
  rw [reconcile_stores]
  cases answer.effect with
  | register cidr => exact ⟨_,.single visits,rfl⟩
  | deregister => exact ⟨_,.cons trivial (.single ⟨List.mem_cons_self ..,free⟩),rfl⟩
  | nothing => exact ⟨s,.nil,rfl⟩

/-- The registration of the cluster and its tunnel are as they were. -/
def Undisturbed (clusterName : String) (p p' : Stores) : Prop :=
  p'.registry.lookup clusterName = p.registry.lookup clusterName ∧
  p'.pool.tunnels.lookup clusterName = p.pool.tunnels.lookup clusterName ∧
  ∀ t, p.pool.tunnels.lookup clusterName = some t → p'.pool.isClosed t = p.pool.isClosed t

/-- `Get` fails, or the object is live and carries the annotation. -/
def GetAnswer.Respectful : GetAnswer req → Prop
  | .found cluster _ => cluster.deleting = false ∧ nodeCIDRAnnotation ∈ cluster.annotations
  | .notFound => False
  | .failed _ => True

instance (answer : GetAnswer req) : Decidable answer.Respectful :=
  match answer with
  | .found _ _ => inferInstanceAs (Decidable (_ ∧ _))
  | .notFound => isFalse id
  | .failed _ => isTrue trivial

theorem GetAnswer.respectful_iff (answer : GetAnswer req) : answer.Respectful ↔ answer.effect ≠ .deregister := by
  cases answer with
  | notFound => simp [Respectful,effect]
  | failed message => simp [Respectful,effect]
  | found cluster same =>
    simp only [Respectful,effect,Cluster.effect]
    cases cluster.deleting with
    | true => simp
    | false =>
      cases found : cluster.annotations.lookup nodeCIDRAnnotation with
      | none =>
        simp [AList.lookup_eq_none.mp found]
      | some cidrStr =>
        have member : nodeCIDRAnnotation ∈ cluster.annotations :=
          AList.lookup_isSome.mp (by rw [found]; rfl)
        cases parsed : parseBlock cidrStr <;> simp [member,parsed]

/-- A cluster whose name is registered from another namespace keeps its registration and its tunnel
exactly when `Reconcile` does not come to deregister. -/
theorem foreign_undisturbed_iff (answer : GetAnswer req) (visits : order.Perm p.registry.keys)
    (held : p.registry.lookup req.name = some entry) (foreign : entry.namespaceName ≠ req.namespaceName) :
    Undisturbed req.name p (reconcile order req answer p).2 ↔ answer.Respectful := by
  rw [reconcile_stores,answer.respectful_iff]
  cases answer.effect with
  | nothing => simp [Undisturbed,Effect.apply]
  | register cidr =>
    have refused : (register order p.registry req.name req.namespaceName cidr).1 ≠ none := by
      rw [ne_eq,register_eq_none_iff visits]
      exact fun accepted => foreign (accepted.2 entry held)
    simp [Undisturbed,Effect.apply,Stores.registerCluster,register_error refused]
  | deregister =>
    simp [Undisturbed,Effect.apply,Stores.deregisterCluster,deregister,held]

/-- The cluster `west` of the namespace `default` is registered and has an open tunnel. -/
def westTunnelled : Stores where
  registry := twoClusters
  pool := ((newTunnelPool.beginEstablish "west").onTunnel 0 fun t => (t.establish (.ready 40000)).2).doEstablish
    "west" 0 0 true

/-- A cluster of the same name. -/
def otherWest : Cluster := ⟨"west","staging",false,AList.singleton nodeCIDRAnnotation "10.0.1.0/24"⟩

theorem foreign_undisturbed_otherWest :
    Undisturbed "west" westTunnelled
      (reconcile ["east","west"] otherWest.request (.found otherWest rfl) westTunnelled).2 := by
  have visits : ["east","west"].Perm westTunnelled.registry.keys := by decide
  obtain ⟨entry,held⟩ := Map.lookup_of_mem (show "west" ∈ westTunnelled.registry.keys by decide)
  have home : (westTunnelled.registry.lookup "west").map (·.namespaceName) = some "default" := by decide
  rw [held] at home
  have home' : entry.namespaceName = "default" := Option.some.inj home
  refine (foreign_undisturbed_iff (.found otherWest rfl) visits held ?_).mpr (by decide)
  rw [home']
  decide

/-- Its deletion takes the registration and the tunnel of the other one away. -/
theorem not_undisturbed_otherWest :
    (westTunnelled.registry.lookup "west").map (·.namespaceName) = some "default" ∧
    otherWest.request = ⟨"staging","west"⟩ ∧
    ¬ Undisturbed "west" westTunnelled (reconcile ["east","west"] otherWest.request .notFound westTunnelled).2 ∧
    westTunnelled.pool.isClosed 0 = false ∧
    (reconcile ["east","west"] otherWest.request .notFound westTunnelled).2.pool.isClosed 0 = true := by
  refine ⟨by decide,rfl,?_,by decide,by decide⟩
  intro undisturbed
  have gone : ((reconcile ["east","west"] otherWest.request .notFound westTunnelled).2.registry.lookup
    "west").isNone = true := by decide
  have held : (westTunnelled.registry.lookup "west").isNone = false := by decide
  rw [undisturbed.1,held] at gone
  cases gone

end Kommodity.TalosProxy
