import Kommodity.CredentialMaterializer

/-! Concurrent reconciles that materialize credentials, with operators who edit the same objects.
`upsertManagedSecret` looks at the Secret once to decide whether it may write, and
`CreateOrUpdate` reads it again for the version to write with; a Secret that changes hands between
the two reads is taken over. -/
namespace Kommodity.CredentialMaterializer

open Go Versioned Interaction Transition Secrets SigningKeys

structure Resources where
  clusters : Map ObjectKey Cluster
  azureClusters : Map ObjectKey AzureCluster
  identities : Map ObjectKey AzureClusterIdentity
  secrets : Store ObjectKey OwnedSecret

/-- A call is answered, or it fails; a write can also take effect and its answer be lost. -/
inductive Reply where
  | fine
  | refused
  | lost
  deriving DecidableEq

def read (f : Reply) (found : Option V) : Except APIError V :=
  if f = .fine then
    match found with
    | some value => .ok value
    | none => .error (.store .notFound)
  else .error .unavailable

def write (f : Reply) (s : Resources) (result : Except Versioned.Error (Store ObjectKey OwnedSecret)) :
    Except APIError Unit × Resources :=
  if f = .refused then (.error .unavailable,s)
  else
    match result with
    | .error err => (.error (if f = .lost then .unavailable else .store err),s)
    | .ok secrets => (if f = .lost then .error .unavailable else .ok (),{ s with secrets })

def serve (s : Resources) : (c : Call) → Reply → Answer c × Resources
  | .getCluster key,f => (read f (s.clusters.lookup key),s)
  | .getAzureCluster key,f => (read f (s.azureClusters.lookup key),s)
  | .getIdentity key,f => (read f (s.identities.lookup key),s)
  | .getSecret key,f => (read f (s.secrets.get key),s)
  | .rereadSecret key,f => (read f (s.secrets.get key),s)
  | .createSecret key secret,f => write f s (s.secrets.create key secret)
  | .updateSecret key secret,f => write f s (s.secrets.update key secret.value secret.version)

/-- What operators and other controllers do to the objects. -/
inductive Edit where
  | putSecret (key : ObjectKey) (secret : OwnedSecret)
  | deleteSecret (key : ObjectKey)
  | setCluster (key : ObjectKey) (cluster : Option Cluster)
  | setAzureCluster (key : ObjectKey) (azureCluster : Option AzureCluster)
  | setIdentity (key : ObjectKey) (identity : Option AzureClusterIdentity)

def assign [DecidableEq K] (m : Map K V) (k : K) : Option V → Map K V
  | none => m.erase k
  | some v => m.insert k v

def Edit.apply (s : Resources) : Edit → Resources
  | .putSecret key secret => { s with secrets := s.secrets.put key secret }
  | .deleteSecret key => { s with secrets := s.secrets.remove key }
  | .setCluster key cluster => { s with clusters := assign s.clusters key cluster }
  | .setAzureCluster key azureCluster => { s with azureClusters := assign s.azureClusters key azureCluster }
  | .setIdentity key identity => { s with identities := assign s.identities key identity }

/-- What a reconcile has read of the Secret it is about to write: for its guard, and again. -/
structure Notes where
  guarded : Option (ObjectKey × Option (Entry OwnedSecret))
  reread : Option (ObjectKey × Option (Entry OwnedSecret))

def note (h : Notes) : (c : Call) → Answer c → Notes
  | .getSecret key,a => ⟨some (key,a.toOption),none⟩
  | .rereadSecret key,.ok e => { h with reread := some (key,some e) }
  | .rereadSecret _,.error _ => { h with reread := none }
  | _,_ => h

/-- One thread for each request, which reconciles it again and again. -/
def materializers (marshal : Marshal) (requests : I → ObjectKey) :
    Threads I Resources Call Answer Reply Edit Notes Outcome where
  program i := reconcile marshal (requests i)
  fresh := ⟨none,none⟩
  note := note
  ready _ := True
  begin s := s
  answerable _ _ _ _ := True
  serve := serve
  finish s _ _ := s
  possible _ _ := True
  disturb := Edit.apply

/-- A Secret that `CreateOrUpdate` finds is the one that the guard has read. -/
def Unchanged (s : Resources) (h : Notes) (c : Call) (_ : Reply) : Prop :=
  ∀ key e, c = .rereadSecret key → s.secrets.get key = some e → h.guarded = some (key,some e)

/-- An update presents the version of the second read, after a guard that let it pass. -/
def Next (cluster : String) (h : Notes) : Call → Prop
  | .updateSecret key secret => ∃ e guarded, h.reread = some (key,some e) ∧ e.version = secret.version ∧
      h.guarded = some (key,guarded) ∧ ∀ g, guarded = some g → ¬ Foreign cluster g.value
  | _ => True

def Ends (_ : Notes) (_ : α) : Prop := True

section Traces

variable {req key : ObjectKey}

theorem createOrUpdate_traced (mutate : OwnedSecret → OwnedSecret) (guarded : h.guarded = some (key,g))
    (passed : ∀ e, g = some e → ¬ Foreign req.2 e.value) :
    (createOrUpdate key mutate).Traced note (Next req.2) Ends h := by
  unfold createOrUpdate
  rw [traced_request_bind]
  refine ⟨trivial,fun a => ?_⟩
  cases a with
  | error err =>
    dsimp only
    split
    · exact ⟨trivial,fun _ => trivial⟩
    · trivial
  | ok existing =>
    dsimp only
    split
    · trivial
    · exact ⟨⟨existing,g,rfl,rfl,guarded,passed⟩,fun _ => trivial⟩

theorem writeSecret_traced (guarded : h.guarded = some (key,g))
    (passed : ∀ e, g = some e → ¬ Foreign req.2 e.value) (uid : String) (data : Map String Bytes) :
    (writeSecret req uid key data).Traced note (Next req.2) Ends h := by
  refine traced_bind (createOrUpdate_traced _ guarded passed) ?_
  intro h a _
  cases a <;> trivial

theorem upsertManagedSecret_traced (uid name : String) (data : Map String Bytes) (h : Notes) :
    (upsertManagedSecret req uid name data).Traced note (Next req.2) Ends h := by
  unfold upsertManagedSecret
  rw [traced_request_bind]
  refine ⟨trivial,fun a => ?_⟩
  cases a with
  | error err =>
    dsimp only
    split
    · exact writeSecret_traced rfl (by simp [Except.toOption]) uid data
    · trivial
  | ok existing =>
    dsimp only
    split
    · trivial
    · next passed =>
      refine writeSecret_traced rfl ?_ uid data
      intro e same
      cases same
      exact guardExisting_eq_none_iff.mp passed

theorem readClientSecret_traced (identity : AzureClusterIdentity) (h : Notes) :
    (readClientSecret identity).Traced note (Next cluster) Ends h := by
  unfold readClientSecret
  rw [traced_request_bind]
  refine ⟨trivial,fun a => ?_⟩
  cases a <;> dsimp only <;> split <;> trivial

theorem resolveIdentityCredentials_traced (cluster : Cluster) (h : Notes) :
    (resolveIdentityCredentials req cluster).Traced note (Next name) Ends h := by
  unfold resolveIdentityCredentials
  rw [traced_request_bind]
  refine ⟨trivial,fun a => ?_⟩
  cases a with
  | error err => dsimp only; split <;> trivial
  | ok azureCluster =>
    dsimp only
    split
    · trivial
    · rw [traced_request_bind]
      refine ⟨trivial,fun a => ?_⟩
      cases a with
      | error err => dsimp only; split <;> trivial
      | ok identity =>
        dsimp only
        split
        · trivial
        · refine traced_bind (readClientSecret_traced identity _) ?_
          intro h a _
          rcases a with err | _ | clientSecret <;> trivial

theorem materializeCCMSecret_traced (marshal : Marshal) (cluster : Cluster) (creds : AzureCredentials)
    (h : Notes) : (materializeCCMSecret marshal req cluster creds).Traced note (Next req.2) Ends h := by
  unfold materializeCCMSecret
  dsimp only
  split
  · trivial
  · split
    · trivial
    · exact upsertManagedSecret_traced _ _ _ h

/-- Whatever the answers are, a reconcile of a cluster updates under its guard only. -/
theorem reconcile_traced (marshal : Marshal) (h : Notes) :
    (reconcile marshal req).Traced note (Next req.2) Ends h := by
  unfold reconcile
  rw [traced_request_bind]
  refine ⟨trivial,fun a => ?_⟩
  cases a with
  | error err => dsimp only; split <;> trivial
  | ok cluster =>
    dsimp only
    split
    · trivial
    · refine traced_bind (resolveIdentityCredentials_traced cluster _) ?_
      intro h a _
      rcases a with err | creds | _ | _
      · trivial
      · refine traced_bind (upsertManagedSecret_traced _ _ _ h) ?_
        intro h a _
        cases a with
        | some err => trivial
        | none =>
          refine traced_bind (materializeCCMSecret_traced marshal cluster creds h) ?_
          intro h a _
          cases a <;> trivial
      · trivial
      · trivial

end Traces

theorem write_secrets (f : Reply) (s : Resources)
    (result : Except Versioned.Error (Store ObjectKey OwnedSecret)) :
    (write f s result).2.secrets = s.secrets ∨ result = .ok (write f s result).2.secrets := by
  unfold write
  split
  · exact .inl rfl
  · cases result with
    | error err => exact .inl rfl
    | ok secrets => exact .inr rfl

/-- A call changes no Secret, creates one that is absent, or updates one of the version presented. -/
theorem serve_secrets (s : Resources) (c : Call) (f : Reply) :
    (serve s c f).2.secrets = s.secrets ∨ ∃ key value, (serve s c f).2.secrets = s.secrets.put key value ∧
      ∀ e, s.secrets.get key = some e → ∃ version, c = .updateSecret key ⟨value,version⟩ ∧ e.version = version := by
  cases c with
  | getCluster | getAzureCluster | getIdentity | getSecret | rereadSecret => exact .inl rfl
  | createSecret key secret =>
    refine (write_secrets f s (s.secrets.create key secret)).imp_right fun done => ?_
    obtain ⟨absent,eq⟩ := create_ok done
    refine ⟨key,secret,eq,?_⟩
    intro e found
    rw [absent] at found
    cases found
  | updateSecret key secret =>
    refine (write_secrets f s (s.secrets.update key secret.value secret.version)).imp_right fun done => ?_
    obtain ⟨⟨e,found,same⟩,eq⟩ := update_ok done
    refine ⟨key,secret.value,eq,?_⟩
    intro e' found'
    cases found.symm.trans found'
    exact ⟨secret.version,rfl,same⟩

/-- What the second read found is what the guard saw, and it is what is stored under its version. -/
def Held (s : Resources) (h : Notes) : Prop :=
  ∀ key e, h.reread = some (key,some e) → h.guarded = some (key,some e) ∧ s.secrets.Current key e

theorem Held.secrets (held : Held s h) (current : ∀ key e, s.secrets.Current key e → s'.secrets.Current key e) :
    Held s' h :=
  fun key e reread => ⟨(held key e reread).1,current key e (held key e reread).2⟩

theorem Held.serve (held : Held s h) (c : Call) (f : Reply) :
    Held (CredentialMaterializer.serve s c f).2 h := by
  refine held.secrets fun key e current => ?_
  rcases serve_secrets s c f with same | ⟨key',value,eq,_⟩
  · rwa [same]
  · rw [eq]; exact current_put current key' value

theorem Held.answered (held : Held s h) (c : Call) (f : Reply) (unchanged : Unchanged s h c f) :
    Held (CredentialMaterializer.serve s c f).2 (note h c (CredentialMaterializer.serve s c f).1) := by
  cases c with
  | getCluster | getAzureCluster | getIdentity | createSecret | updateSecret => exact held.serve _ f
  | getSecret key => intro key' e reread; cases reread
  | rereadSecret key =>
    intro key' e reread
    simp only [CredentialMaterializer.serve,read] at reread
    split at reread
    · next fine =>
      cases found : s.secrets.get key with
      | none => rw [found] at reread; cases reread
      | some e' =>
        rw [found] at reread
        cases reread
        simp only [CredentialMaterializer.serve,read,if_pos fine,found]
        exact ⟨unchanged key e rfl found,current_of_get found⟩
    · cases reread

theorem Held.edited (held : Held s h) (edit : Edit) : Held (edit.apply s) h := by
  cases edit with
  | putSecret key secret => exact held.secrets fun _ _ current => current_put current key secret
  | deleteSecret key => exact held.secrets fun _ _ current => current_remove current key
  | setCluster | setAzureCluster | setIdentity => exact held

theorem materializers_keep (marshal : Marshal) (requests : I → ObjectKey) :
    ((materializers marshal requests).restrict Unchanged fun _ _ => True).Keeps
      (fun _ _ => True) Ends (fun _ => True) Held where
  begins _ _ _ := ⟨trivial,fun _ _ reread => by cases reread⟩
  answers s h c f _ held _ condition := ⟨trivial,held.answered c f condition.2⟩
  finishes _ _ _ _ _ _ := trivial
  disturbs s e _ _ := ⟨trivial,fun h held => held.edited e⟩
  begins_other _ _ _ _ held := held
  answers_other _ s h c f h' _ _ _ _ held := held.serve c f
  finishes_other _ _ _ _ _ _ _ _ held := held

/-- The Secrets that are foreign to the cluster stay as they are. -/
def Spares (cluster : String) (s s' : Resources) : Prop :=
  ∀ key e, s.secrets.get key = some e → Foreign cluster e.value → s'.secrets.get key = some e

variable {I : Type} [DecidableEq I] {marshal : Marshal} {requests : I → ObjectKey}

theorem shared_answer (running : s.thread i = some (h,.call c next)) :
    ((materializers marshal requests).system.apply s (.answer i f)).shared = (serve s.shared c f).2 := by
  have settled (p : CredentialProgram Outcome) (r : Resources) (h : Notes) :
      ((materializers marshal requests).settle s i r h p).shared = r := by cases p <;> rfl
  simp only [Threads.system,running]
  exact settled _ _ _

/-- When no Secret changes between the two reads of a reconcile, no call of it changes a Secret
that is foreign to its cluster. -/
theorem foreign_secrets_spared
    (run : ((materializers marshal requests).restrict Unchanged fun _ _ => True).system.Run (idle start) actions s)
    (allowed : (materializers marshal requests).system.allowed s (.answer i f)) :
    Spares (requests i).2 s.shared ((materializers marshal requests).system.apply s (.answer i f)).shared := by
  obtain ⟨h,c,next,running,_⟩ := allowed
  rw [shared_answer running]
  have good := (materializers_keep marshal requests).run
    (fun i => (reconcile_traced marshal _).imp fun _ _ _ => trivial) (good_idle trivial) run
  have traced := (Threads.reaches_of_run run i running).traced (reconcile_traced marshal _)
  intro key e found foreign
  rcases serve_secrets s.shared c f with same | ⟨key',value,eq,updates⟩
  · rw [same]; exact found
  · by_cases here : key = key'
    · subst here
      -- the version presented is that of the second read, so the Secret is the one the guard let pass
      obtain ⟨version,rfl,presented⟩ := updates e found
      obtain ⟨e',guarded,reread,same,seen,passed⟩ := traced.1
      obtain ⟨seen',current⟩ := (good.2 i h _ running).1 key e' reread
      have value' := current.2 e found (presented.trans same.symm)
      cases seen.symm.trans seen'
      rw [value'] at foreign
      exact absurd foreign (passed e' rfl)
    · rw [eq,get_put_other _ _ here]; exact found

/-- One Azure cluster, and no Secret yet but that of its identity. -/
def westResources : Resources where
  clusters := AList.insert ("fleet","west") ⟨"1",∅,some ⟨azureInfraKind,"west"⟩⟩ ∅
  azureClusters := AList.insert ("fleet","west") ⟨some ⟨"","principal"⟩,"s","g","l","v","g"⟩ ∅
  identities := AList.insert ("fleet","principal") ⟨.servicePrincipal,"t","c",("fleet","password")⟩ ∅
  secrets := Store.empty.put ("fleet","password")
    { emptySecret ("fleet","password") with data := AList.insert identityClientSecretKey [1] ∅ }

def westRequest : Unit → ObjectKey := fun _ => ("fleet","west")

def asoKey : ObjectKey := ("fleet","west-aso-secret")

/-- The credentials of an operator, under the name of the derived Secret. -/
def suppliedSecret : OwnedSecret :=
  { emptySecret asoKey with data := AList.insert "AZURE_CLIENT_SECRET" [2] ∅ }

/-- A field a line, as its name and its value. -/
def plainMarshal : Marshal := fun fields =>
  .ok (fields.flatMap fun (name,value) => bytes name ++ bytes ": " ++ (match value with
    | .text text => text
    | .flag set => bytes (toString set)
    | .number n => bytes (toString n)) ++ [10])

/-- A reconcile up to its guard, which finds no Secret. -/
def untilGuard : List (Action Unit Reply Edit) := .begin () :: List.replicate 5 (.answer () .fine)

/-- The operator creates the Secret after the second read. -/
def lateSecret : List (Action Unit Reply Edit) :=
  untilGuard ++ [Action.answer () Reply.fine,.disturb (Edit.putSecret asoKey suppliedSecret)]

/-- The Create of the reconcile fails then. -/
theorem foreign_secrets_spared_lateSecret :
    ∃ s, ((materializers plainMarshal westRequest).restrict Unchanged fun _ _ => True).system.Run
        (idle westResources) lateSecret s ∧
      (s.shared.secrets.get asoKey).map (·.value) = some suppliedSecret ∧
      Spares "west" s.shared ((materializers plainMarshal westRequest).system.apply s (.answer () .fine)).shared := by
  have run : ((materializers plainMarshal westRequest).restrict Unchanged fun _ _ => True).system.Run
      (idle westResources) lateSecret _ :=
    .of ⟨⟨rfl,trivial⟩,⟨_,_,_,rfl,trivial,nofun⟩,⟨_,_,_,rfl,trivial,nofun⟩,⟨_,_,_,rfl,trivial,nofun⟩,
      ⟨_,_,_,rfl,trivial,nofun⟩,⟨_,_,_,rfl,trivial,nofun⟩,
      ⟨_,_,_,rfl,trivial,fun _ _ same found => by cases same; cases found⟩,⟨trivial,trivial⟩,trivial⟩
  exact ⟨_,run,rfl,foreign_secrets_spared run ⟨_,_,_,rfl,trivial⟩⟩

/-- The operator creates the Secret between the two reads. -/
def betweenReads : List (Action Unit Reply Edit) :=
  untilGuard ++ [Action.disturb (Edit.putSecret asoKey suppliedSecret),.answer () Reply.fine]

/-- The reconcile overwrites it then. -/
theorem not_spared_betweenReads :
    ∃ s, (materializers plainMarshal westRequest).system.Run (idle westResources) betweenReads s ∧
      (materializers plainMarshal westRequest).system.allowed s (.answer () .fine) ∧
      ¬ Spares "west" s.shared
        ((materializers plainMarshal westRequest).system.apply s (.answer () .fine)).shared := by
  refine ⟨_,.of ⟨⟨rfl,trivial⟩,⟨_,_,_,rfl,trivial⟩,⟨_,_,_,rfl,trivial⟩,⟨_,_,_,rfl,trivial⟩,
    ⟨_,_,_,rfl,trivial⟩,⟨_,_,_,rfl,trivial⟩,trivial,⟨_,_,_,rfl,trivial⟩,trivial⟩,⟨_,_,_,rfl,trivial⟩,?_⟩
  intro spares
  cases spares asoKey ⟨suppliedSecret,2⟩ rfl (by decide)

end Kommodity.CredentialMaterializer
