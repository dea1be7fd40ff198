import Kommodity.LibkapiKeys
import Kommodity.Transition

/-! The signing-key Secret while a libkapi server runs. A hook creates it at the start, and the
handlers of the Secret informer react to its changes: a new key in it only rotates the tokens, and a
deletion has it written again. The informer is a watch that may fall behind and lists again when it
has lost its place; a deletion it finds out by a list comes as a tombstone. -/
namespace Kommodity.Libkapi.KeySync

open Go Versioned Interaction Transition Secrets StoreCalls
open SigningKeys (secretTypeServiceAccountToken)

abbrev objectKey (secret : Secret) : ObjectKey := SigningKeys.objectKey secret.metadata

def defaultTokenSecretsNamespace : String := "kube-system"
def serviceAccountNameAnnotation : String := "kubernetes.io/service-account.name"

def resolveTokenSecretsNamespace (kp : KeyPersistenceConfig) : String :=
  if kp.tokenSecretsNamespace ≠ "" then kp.tokenSecretsNamespace else defaultTokenSecretsNamespace

variable {Key : Type}

section Handlers

variable (onTokenRotated : Bool)

def recreated (oldSecret : Secret) : Secret where
  metadata := ⟨oldSecret.metadata.name,oldSecret.metadata.namespaceName,oldSecret.metadata.labels,
    oldSecret.metadata.annotations⟩
  type := secretTypeServiceAccountToken
  data := ∅
  stringData := ∅
  immutable := none

/-- `onTokenRotated` says whether the configuration has the callback, whose failure is only logged. -/
def rotateServiceAccountTokenSecret (oldSecret : Secret) : KeyProgram Key (Option Error) := do
  if (oldSecret.metadata.annotations.lookup serviceAccountNameAnnotation).isNone then return none
  else
    match ← request (Call.delete (objectKey oldSecret)) with
    | .error err => return some (apiError ("failed to delete old secret " ++ oldSecret.metadata.name) err)
    | .ok () =>
      match ← request (Call.create (objectKey oldSecret) (recreated oldSecret)) with
      | .error err => return some (apiError ("failed to create new secret " ++ oldSecret.metadata.name) err)
      | .ok () =>
        if onTokenRotated then
          let _ ← otherCall (.onTokenRotated (recreated oldSecret))
          return none
        else return none

/-- The loop over the listed Secrets. Errors are only logged. -/
def rotateEach : List Secret → KeyProgram Key Unit
  | [] => return ()
  | secret :: rest => do
    if secret.type ≠ secretTypeServiceAccountToken then rotateEach rest
    else
      let _ ← rotateServiceAccountTokenSecret onTokenRotated secret
      rotateEach rest

def rotateTokens (tokenSecretsNamespace : String) : KeyProgram Key Unit := do
  match ← request (Call.list fun key => key.1 = tokenSecretsNamespace) with
  | .error _ => return ()
  | .ok secretList => rotateEach onTokenRotated secretList

/-- What `OnDelete` gets: the object, or `cache.DeletedFinalStateUnknown`. -/
inductive Deleted where
  | object (secret : Secret)
  | finalStateUnknown

inductive Event where
  | update (oldSecret newSecret : Secret)
  | delete (obj : Deleted)

variable (kp : KeyPersistenceConfig)

def handleSecretUpdate (oldSecret newSecret : Secret) : KeyProgram Key Unit :=
  if objectKey newSecret ≠ signingKeySecret kp then return ()
  else if oldSecret.data.index signingKeyDataKey = newSecret.data.index signingKeyDataKey then return ()
  else rotateTokens onTokenRotated (resolveTokenSecretsNamespace kp)

def handleSecretDelete (codec : Codec Key) (signingKey : Key) : Deleted → KeyProgram Key Unit
  | .finalStateUnknown => return ()
  | .object deletedSecret => do
    if objectKey deletedSecret ≠ signingKeySecret kp then return ()
    else
      match ← persistSigningKey codec signingKey (signingKeySecret kp) with
      | some _ => return ()
      | none => rotateTokens onTokenRotated (resolveTokenSecretsNamespace kp)

def handle (codec : Codec Key) (signingKey : Key) : Event → KeyProgram Key Unit
  | .update oldSecret newSecret => handleSecretUpdate onTokenRotated kp oldSecret newSecret
  | .delete obj => handleSecretDelete onTokenRotated kp codec signingKey obj

end Handlers

/-- The hook of `NewCreateKeyHook`. -/
def createKeyHook (codec : Codec Key) (signingKey : Key) (kp : KeyPersistenceConfig) :
    KeyProgram Key (Option Error) := do
  match ← createSigningKeySecret codec signingKey (signingKeySecret kp) with
  | none => return none
  | some err =>
    if isAlreadyExists err then return none
    else return some (err.wrap "failed to create signing key secret")

/-- A change of the signing-key Secret, as the watch brings it. -/
inductive Change where
  | present (secret : Secret)
  | gone (last : Secret)

/-- A server with its Secrets. `seen` is what the informer has of the signing-key Secret, `backlog`
the changes of it that the watch has not brought yet, and `queue` the notifications that wait for the
handlers, which are called one after the other. -/
structure Server (Key : Type) where
  store : Store ObjectKey Secret
  listed : Bool
  seen : Option Secret
  backlog : List Change
  queue : List Event
  hook : KeyProgram Key (Option Error)
  handler : Option (KeyProgram Key Unit)

/-- What happens. The last three are operators and other controllers; they can do anything to Secrets. -/
inductive Action (Key : Type) where
  | hook (reply : Reply APIError (OtherAnswer Key))
  | handler (reply : Reply APIError (OtherAnswer Key))
  | take
  | watch
  | list
  | notify (event : Event)
  | put (secret : Secret)
  | remove (key : ObjectKey)

def changeOf : Option (Entry Secret) → Option (Entry Secret) → List Change
  | none,none => []
  | none,some new => [.present new.value]
  | some old,none => [.gone old.value]
  | some old,some new => if old.version = new.version then [] else [.present new.value]

/-- The events of a list: an object that has gone is reported without its last state. -/
def listEvents : Option Secret → Option Secret → List Event
  | some old,some new => [.update old new]
  | some _,none => [.delete .finalStateUnknown]
  | none,_ => []

def watchEvents (seen : Option Secret) : Change → List Event
  | .gone last => [.delete (.object last)]
  | .present new =>
    match seen with
    | some old => [.update old new]
    | none => []

def Change.state : Change → Option Secret
  | .present secret => some secret
  | .gone _ => none

def Event.about : Event → Option ObjectKey
  | .update _ newSecret => some (objectKey newSecret)
  | .delete (.object secret) => some (objectKey secret)
  | .delete .finalStateUnknown => none

section System

variable (codec : Codec Key) (signingKey : Key) (kp : KeyPersistenceConfig) (onTokenRotated : Bool)

/-- The Secrets after a write, with the change for the watch. -/
def Server.record (s : Server Key) (store : Store ObjectKey Secret) : Server Key :=
  { s with
    store
    backlog := s.backlog ++ changeOf (s.store.get (signingKeySecret kp)) (store.get (signingKeySecret kp)) }

/-- One call of a program is answered. -/
def Server.answer (s : Server Key) (p : KeyProgram Key α) (reply : Reply APIError (OtherAnswer Key)) :
    KeyProgram Key α × Server Key :=
  match p with
  | .pure a => (.pure a,s)
  | .call c next =>
    let (a,store) := serve APIError.store s.store c reply
    (next a,s.record kp store)

def running : KeyProgram Key Unit → Option (KeyProgram Key Unit)
  | .pure () => none
  | p => some p

def Server.act (s : Server Key) : Action Key → Server Key
  | .hook reply =>
    let (hook,s) := s.answer kp s.hook reply
    { s with hook }
  | .handler reply =>
    match s.handler with
    | none => s
    | some p =>
      let (p,s) := s.answer kp p reply
      { s with handler := running p }
  | .take =>
    match s.queue with
    | [] => s
    | event :: queue => { s with queue, handler := running (handle onTokenRotated kp codec signingKey event) }
  | .watch =>
    match s.backlog with
    | [] => s
    | change :: backlog =>
      { s with backlog, seen := change.state, queue := s.queue ++ watchEvents s.seen change }
  | .list =>
    let current := (s.store.get (signingKeySecret kp)).map Entry.value
    { s with listed := true, backlog := [], seen := current, queue := s.queue ++ listEvents s.seen current }
  | .notify event => { s with queue := s.queue ++ [event] }
  | .put secret => s.record kp (s.store.put (objectKey secret) secret)
  | .remove key => s.record kp (s.store.remove key)

/-- The handlers are called one at a time, and the watch starts with a list. Notifications about other
Secrets come at any time. -/
def Server.possible (s : Server Key) : Action Key → Prop
  | .hook _ => True
  | .handler _ => s.handler.isSome
  | .take => s.handler = none
  | .watch => s.listed
  | .notify event => event.about ≠ some (signingKeySecret kp)
  | _ => True

def system : System (Server Key) (Action Key) :=
  ⟨Server.possible kp,Server.act codec signingKey kp onTokenRotated⟩

end System

/-- What a program has done and seen so far. -/
structure Notes where
  created : Bool
  blocked : Bool
  read : Option (Entry Secret)
  listed : List Secret

section Condition

variable (codec : Codec Key) (signingKey : Key) (kp : KeyPersistenceConfig)

/-- The signing-key Secret with the server's key. A Secret of the token type would be rotated. -/
structure Holds (secret : Secret) : Prop where
  name : objectKey secret = signingKeySecret kp
  key : keyOf codec secret = some signingKey
  type : secret.type ≠ secretTypeServiceAccountToken

/-- Secrets are stored under their own names, and the signing-key Secret, if there is one, holds the key. -/
structure Good (store : Store ObjectKey Secret) : Prop where
  named : ∀ key e, store.get key = some e → objectKey e.value = key
  holds : ∀ e, store.get (signingKeySecret kp) = some e → Holds codec signingKey kp e.value

/-- The namespace is there, and a Create of the signing-key Secret gets to the store. -/
def Reliable (c : Call ObjectKey Secret OtherCall) (reply : Reply APIError (OtherAnswer Key)) : Prop :=
  match c with
  | .create key _ => key = signingKeySecret kp → ∀ err, reply.fault ≠ .refused err
  | .other (.createNamespace name) => reply.answers (.createNamespace name) = .ok () ∨
    reply.answers (.createNamespace name) = .error (.store .alreadyExists)
  | _ => True

/-- Writers keep the key, the hook and the handlers get through to the store when they create the
Secret, and the informer does not lose its place while it has a deletion to bring. -/
def Condition (s : Server Key) : Action Key → Prop
  | .hook reply => ∀ c next, s.hook = .call c next → Reliable kp c reply
  | .handler reply => ∀ c next, s.handler = some (.call c next) → Reliable kp c reply
  | .list => ∀ last, .gone last ∉ s.backlog
  | .put secret => objectKey secret = signingKeySecret kp → Holds codec signingKey kp secret
  | _ => True

def namespaceFailed : Except APIError Unit → Bool
  | .ok () => false
  | .error err => err ≠ .store .alreadyExists

def note (h : Notes) : (c : Call ObjectKey Secret OtherCall) → Answer APIError (OtherAnswer Key) c → Notes
  | .get _,a => { h with read := a.toOption }
  | .list _,a => { h with listed := a.toOption.getD [] }
  | .create key _,_ => { h with created := h.created || key = signingKeySecret kp }
  | .other (.createNamespace _),a => { h with blocked := h.blocked || namespaceFailed a }
  | _,_ => h

/-- A token Secret that was listed. -/
def Listed (h : Notes) (key : ObjectKey) : Prop :=
  ∃ secret ∈ h.listed, secret.type = secretTypeServiceAccountToken ∧ key = objectKey secret

/-- The signing-key Secret is written with the server's key only; other writes are about token Secrets. -/
def Next (h : Notes) : Call ObjectKey Secret OtherCall → Prop
  | .get key => key = signingKeySecret kp
  | .create key value =>
    (key = signingKeySecret kp ∧ value = newSigningKeySecret key (convertRSAKeyToPEM codec signingKey)) ∨
    Listed h key ∧ objectKey value = key
  | .update key entry => key = signingKeySecret kp ∧ ∃ old : Entry Secret, h.read = some old ∧
    entry.value = { old.value with
      data := old.value.data.insert signingKeyDataKey (convertRSAKeyToPEM codec signingKey) }
  | .delete key => Listed h key
  | _ => True

structure Held (h : Notes) : Prop where
  unblocked : h.blocked = false
  read : ∀ e, h.read = some e → Holds codec signingKey kp e.value
  listed : ∀ secret ∈ h.listed, secret.type = secretTypeServiceAccountToken →
    objectKey secret ≠ signingKeySecret kp

end Condition

section Traces

variable (codec : Codec Key) (signingKey : Key) (kp : KeyPersistenceConfig)

theorem ensureNamespace_spec (name : String) (h : Notes) :
    (ensureNamespace name : KeyProgram Key (Option Error)).Traced (note kp) (Next codec signingKey kp)
      (fun h' err => h'.created = h.created ∧ h'.listed = h.listed ∧
        ∀ e, err = some e → h'.blocked = true ∧ isAlreadyExists e = false) h := by
  simp only [ensureNamespace,otherCall,traced_request_bind]
  refine ⟨trivial,?_⟩
  rintro (err | _)
  · dsimp only
    split
    · exact ⟨rfl,rfl,by simp⟩
    · next other =>
      refine ⟨rfl,rfl,?_⟩
      rintro _ ⟨⟩
      exact ⟨by simp [note,namespaceFailed,other],by simp [isAlreadyExists,apiError,Err.of,Err.wrap,other]⟩
  · exact ⟨rfl,rfl,by simp⟩

/-- The hook returns without an error only when it has created the Secret, or found it. -/
def HookReturns (h : Notes) (err : Option Error) : Prop := err = none → h.created = true

theorem createKeyHook_spec (h : Notes) :
    (createKeyHook codec signingKey kp).Traced (note kp) (Next codec signingKey kp) HookReturns h := by
  have created : (createSigningKeySecret codec signingKey (signingKeySecret kp)).Traced (note kp)
      (Next codec signingKey kp) (fun h' err => h'.created = true ∨
        ∃ e, err = some e ∧ isAlreadyExists e = false) h := by
    refine traced_bind (ensureNamespace_spec codec signingKey kp _ h) ?_
    rintro h' (_ | err) ⟨_,_,failed⟩
    · refine ⟨.inl ⟨rfl,rfl⟩,?_⟩
      rintro (err | _)
      · exact .inl (by simp [note])
      · exact .inl (by simp [note])
    · exact .inr ⟨err,rfl,(failed err rfl).2⟩
  refine traced_bind created ?_
  rintro h' (_ | err) returns
  · rcases returns with created | ⟨_,none,_⟩
    · exact fun _ => created
    · cases none
  · dsimp only
    split
    · next taken =>
      rcases returns with created | ⟨_,⟨⟩,other⟩
      · exact fun _ => created
      · rw [other] at taken; cases taken
    · exact nofun

/-- A handler ends with nothing owed, unless it could not make the namespace. -/
def Handled (h : Notes) (_ : Unit) : Prop := h.created = true ∨ h.blocked = true

theorem rotateServiceAccountTokenSecret_spec (member : secret ∈ h.listed)
    (token : secret.type = secretTypeServiceAccountToken) :
    (rotateServiceAccountTokenSecret onTokenRotated secret : KeyProgram Key (Option Error)).Traced (note kp)
      (Next codec signingKey kp) (fun h' _ => (h.created = true → h'.created = true) ∧
        (h.blocked = true → h'.blocked = true) ∧ h'.listed = h.listed) h := by
  unfold rotateServiceAccountTokenSecret
  split
  · exact ⟨id,id,rfl⟩
  · refine ⟨⟨secret,member,token,rfl⟩,?_⟩
    rintro (err | _)
    · exact ⟨id,id,rfl⟩
    · refine ⟨.inr ⟨⟨secret,member,token,rfl⟩,rfl⟩,?_⟩
      have kept : h.created = true → (h.created || decide (objectKey secret = signingKeySecret kp)) = true := by
        intro created
        simp [created]
      rintro (err | _)
      · exact ⟨kept,id,rfl⟩
      · cases onTokenRotated with
        | false => exact ⟨kept,id,rfl⟩
        | true => exact ⟨trivial,fun _ => ⟨kept,id,rfl⟩⟩

theorem rotateEach_spec (secrets : List Secret) (members : ∀ secret ∈ secrets, secret ∈ h.listed)
    (handled : Handled h ()) :
    (rotateEach onTokenRotated secrets : KeyProgram Key Unit).Traced (note kp) (Next codec signingKey kp)
      Handled h := by
  induction secrets generalizing h with
  | nil => exact handled
  | cons secret rest ih =>
    have rest' := fun s member => members s (List.mem_cons_of_mem secret member)
    unfold rotateEach
    split
    · exact ih rest' handled
    · next token =>
      refine traced_bind (rotateServiceAccountTokenSecret_spec codec signingKey kp
        (members secret List.mem_cons_self) (not_not.mp token)) ?_
      rintro h' _ ⟨created,blocked,listed⟩
      refine ih ?_ (handled.imp created blocked)
      rw [listed]
      exact rest'

theorem rotateTokens_spec (tokens : String) (handled : Handled h ()) :
    (rotateTokens onTokenRotated tokens : KeyProgram Key Unit).Traced (note kp) (Next codec signingKey kp)
      Handled h := by
  refine ⟨trivial,?_⟩
  rintro (err | secrets)
  · exact handled
  · exact rotateEach_spec codec signingKey kp secrets (fun _ member => member) handled

theorem persistSigningKey_spec (h : Notes) :
    (persistSigningKey codec signingKey (signingKeySecret kp)).Traced (note kp) (Next codec signingKey kp)
      (fun h' _ => Handled h' ()) h := by
  refine traced_bind (ensureNamespace_spec codec signingKey kp _ h) ?_
  rintro h' (_ | err) ⟨_,_,failed⟩
  · simp only [traced_request_bind]
    refine ⟨.inl ⟨rfl,rfl⟩,?_⟩
    have created : (h'.created || decide (signingKeySecret kp = signingKeySecret kp)) = true := by simp
    rintro (err | _)
    · dsimp only
      split
      · exact .inl created
      · simp only [traced_request_bind]
        refine ⟨rfl,?_⟩
        rintro (err | existing)
        · exact .inl created
        · dsimp only
          split
          · exact .inl created
          · refine ⟨⟨rfl,existing,rfl,rfl⟩,?_⟩
            rintro (err | _)
            · exact .inl created
            · exact .inl created
    · exact .inl created
  · exact .inr (failed err rfl).1

/-- The handler of a deletion of the signing-key Secret owes a Create. -/
theorem handle_delete_spec (here : objectKey secret = signingKeySecret kp) (h : Notes) :
    (handle onTokenRotated kp codec signingKey (.delete (.object secret))).Traced (note kp)
      (Next codec signingKey kp) Handled h := by
  simp only [handle,handleSecretDelete,here,ne_eq,not_true_eq_false,↓reduceIte]
  refine traced_bind (persistSigningKey_spec codec signingKey kp h) ?_
  rintro h' (_ | err) handled
  · exact rotateTokens_spec codec signingKey kp _ handled
  · exact handled

theorem handle_spec (event : Event) (handled : Handled h ()) :
    (handle onTokenRotated kp codec signingKey event).Traced (note kp) (Next codec signingKey kp)
      Handled h := by
  cases event with
  | update oldSecret newSecret =>
    simp only [handle,handleSecretUpdate]
    split
    · exact handled
    · split
      · exact handled
      · exact rotateTokens_spec codec signingKey kp _ handled
  | delete obj =>
    cases obj with
    | finalStateUnknown => exact handled
    | object secret =>
      by_cases here : objectKey secret = signingKeySecret kp
      · exact handle_delete_spec codec signingKey kp here h
      · simp only [handle,handleSecretDelete,here,ne_eq,not_false_eq_true,↓reduceIte]
        exact handled

end Traces

section Store

variable {codec : Codec Key} {signingKey : Key} {kp : KeyPersistenceConfig}

theorem Good.put (good : Good codec signingKey kp store) (name : objectKey value = key)
    (holds : key = signingKeySecret kp → Holds codec signingKey kp value) :
    Good codec signingKey kp (store.put key value) where
  named key' e found := by
    by_cases same : key' = key
    · subst same; rw [get_put_same] at found; cases found; exact name
    · rw [get_put_other _ _ same] at found; exact good.named key' e found
  holds e found := by
    by_cases same : signingKeySecret kp = key
    · rw [← same,get_put_same] at found; cases found; exact holds same.symm
    · rw [get_put_other _ _ same] at found; exact good.holds e found

theorem Good.remove (good : Good codec signingKey kp store) (key : ObjectKey) :
    Good codec signingKey kp (store.remove key) where
  named key' e found := by
    by_cases same : key' = key
    · subst same; simp at found
    · rw [get_remove_other _ same] at found; exact good.named key' e found
  holds e found := by
    by_cases same : signingKeySecret kp = key
    · rw [← same] at found; simp at found
    · rw [get_remove_other _ same] at found; exact good.holds e found

theorem newSigningKeySecret_holds (laws : codec.RoundTrip) :
    Holds codec signingKey kp
      (newSigningKeySecret (signingKeySecret kp) (convertRSAKeyToPEM codec signingKey)) :=
  ⟨rfl,keyOf_data laws (AList.lookup_insert _),by simp [newSigningKeySecret,SigningKeys.secretTypeOpaque,
    secretTypeServiceAccountToken]⟩

theorem Holds.update (laws : codec.RoundTrip) {old : Secret} (holds : Holds codec signingKey kp old) :
    Holds codec signingKey kp
      { old with data := old.data.insert signingKeyDataKey (convertRSAKeyToPEM codec signingKey) } :=
  ⟨holds.name,keyOf_data laws (AList.lookup_insert _),holds.type⟩

theorem Held.listed_ne (held : Held codec signingKey kp h) (listed : Listed h key) :
    key ≠ signingKeySecret kp := by
  obtain ⟨secret,member,token,rfl⟩ := listed
  exact held.listed secret member token

theorem mem_select {store : Store ObjectKey Secret} (member : secret ∈ select store p) :
    ∃ key e, store.get key = some e ∧ e.value = secret := by
  simp only [select,List.mem_map,List.mem_filter] at member
  obtain ⟨e,⟨stored,_⟩,rfl⟩ := member
  exact ⟨e.1,e.2,AList.mem_lookup_iff.mpr stored,rfl⟩

theorem serve_store (laws : codec.RoundTrip) (good : Good codec signingKey kp store)
    (held : Held codec signingKey kp h) (permitted : Next codec signingKey kp h c)
    (reply : Reply APIError (OtherAnswer Key)) :
    Good codec signingKey kp (serve APIError.store store c reply).2 ∧
    ((serve APIError.store store c reply).2.get (signingKeySecret kp) = none →
      store.get (signingKeySecret kp) = none) := by
  cases c with
  | get key => exact ⟨good,id⟩
  | list select => exact ⟨good,id⟩
  | other call => exact ⟨good,id⟩
  | create key value =>
    have written : Good codec signingKey kp (store.put key value) := by
      rcases permitted with ⟨rfl,rfl⟩ | ⟨listed,name⟩
      · exact good.put rfl fun _ => newSigningKeySecret_holds laws
      · exact good.put name fun here => absurd here (held.listed_ne listed)
    rcases write_create APIError.store store key value reply.fault with ⟨same,_⟩ | ⟨free,after⟩
    · rw [serve,same]
      exact ⟨good,id⟩
    · rw [serve,after]
      refine ⟨written,fun absent => ?_⟩
      by_cases here : signingKeySecret kp = key
      · rw [here]; exact free
      · rwa [get_put_other _ _ here] at absent
  | update key entry =>
    obtain ⟨rfl,old,read,eq⟩ := permitted
    rcases write_update APIError.store store (signingKeySecret kp) entry reply.fault with ⟨same,_⟩ | ⟨_,after⟩
    · rw [serve,same]
      exact ⟨good,id⟩
    · rw [serve,after,eq]
      have holds := (held.read old read).update laws
      exact ⟨good.put holds.name fun _ => holds,fun absent => by simp at absent⟩
  | delete key =>
    have other := held.listed_ne permitted
    rcases write_delete APIError.store store key reply.fault with ⟨same,_⟩ | after
    · rw [serve,same]
      exact ⟨good,id⟩
    · rw [serve,after]
      exact ⟨good.remove key,fun absent => by rwa [get_remove_other _ other.symm] at absent⟩

theorem Held.answered (good : Good codec signingKey kp store) (held : Held codec signingKey kp h)
    (permitted : Next codec signingKey kp h c) {reply : Reply APIError (OtherAnswer Key)}
    (reliable : Reliable kp c reply) :
    Held codec signingKey kp (note kp h c (serve APIError.store store c reply).1) := by
  cases c with
  | get key =>
    obtain rfl : key = signingKeySecret kp := permitted
    refine ⟨held.unblocked,?_,held.listed⟩
    intro e answered
    exact good.holds e (read_get APIError.store answered)
  | list p =>
    refine ⟨held.unblocked,held.read,?_⟩
    intro secret member token here
    have stored : secret ∈ select store p := by
      cases fault : reply.fault <;>
        simp [note,serve,StoreCalls.read,fault,Except.mapError,Except.toOption] at member
      exact member
    obtain ⟨key,e,found,rfl⟩ := mem_select stored
    obtain rfl : key = signingKeySecret kp := (good.named key e found).symm.trans here
    exact (good.holds e found).type token
  | create key value => exact ⟨held.unblocked,held.read,held.listed⟩
  | update key entry => exact held
  | delete key => exact held
  | other call =>
    cases call with
    | createNamespace name =>
      refine ⟨?_,held.read,held.listed⟩
      have fine : namespaceFailed (reply.answers (.createNamespace name)) = false := by
        rcases reliable with ok | taken
        · rw [ok]; rfl
        · rw [taken]; rfl
      simp [note,serve,held.unblocked,fine]
    | generateKey => exact held
    | onTokenRotated secret => exact held

theorem created_present {store : Store ObjectKey Secret} {reply : Reply APIError (OtherAnswer Key)}
    (reliable : Reliable kp c reply) (before : h.created = false)
    (after : (note kp h c (serve APIError.store store c reply).1).created = true) :
    (serve APIError.store store c reply).2.get (signingKeySecret kp) ≠ none := by
  cases c with
  | create key value =>
    have here : key = signingKeySecret kp := by simpa [note,before] using after
    subst here
    cases free : store.get (signingKeySecret kp) with
    | none =>
      cases fault : reply.fault with
      | none => simp [serve,write,fault,Store.create,free]
      | lost err => simp [serve,write,fault,Store.create,free,Except.toOption]
      | refused err => exact absurd fault (reliable rfl err)
    | some e =>
      cases fault : reply.fault <;> simp [serve,write,fault,Store.create,free,Except.toOption]
  | other call => cases call <;> simp [note,before] at after
  | _ => simp [note,before] at after

end Store

section Invariant

variable (codec : Codec Key) (signingKey : Key) (kp : KeyPersistenceConfig)

/-- A program that has got as far as the notes say. -/
structure Stage (Returns : Notes → α → Prop) (p : KeyProgram Key α) (h : Notes) : Prop where
  held : Held codec signingKey kp h
  traced : p.Traced (note kp) (Next codec signingKey kp) Returns h

/-- Someone will still create the Secret: the hook or a handler, or a handler that a deletion will start. -/
inductive Owed (s : Server Key) : Prop where
  | hook (stage : Stage codec signingKey kp HookReturns s.hook h) (before : h.created = false)
  | gone (member : .gone last ∈ s.backlog) (here : objectKey last = signingKeySecret kp)
  | deleted (member : .delete (.object last) ∈ s.queue) (here : objectKey last = signingKeySecret kp)
  | handler (running : s.handler = some p) (stage : Stage codec signingKey kp Handled p h)
      (before : h.created = false)

structure Inv (s : Server Key) : Prop where
  good : Good codec signingKey kp s.store
  hook : ∃ h, Stage codec signingKey kp HookReturns s.hook h
  handler : ∀ p, s.handler = some p → ∃ h, Stage codec signingKey kp Handled p h
  absent : s.store.get (signingKeySecret kp) = none → Owed codec signingKey kp s

end Invariant

section Steps

variable {codec : Codec Key} {signingKey : Key} {kp : KeyPersistenceConfig}

@[simp] theorem changeOf_self (e : Option (Entry Secret)) : changeOf e e = [] := by
  cases e <;> simp [changeOf]

theorem answer_record (s : Server Key) (p : KeyProgram Key α) (reply : Reply APIError (OtherAnswer Key)) :
    (s.answer kp p reply).2 = s.record kp (s.answer kp p reply).2.store := by
  cases p <;> simp [Server.answer,Server.record]

/-- An answer takes a program on, and while the Secret is absent its Create still stands out. -/
theorem Stage.answered (laws : codec.RoundTrip) {s : Server Key} (good : Good codec signingKey kp s.store)
    (stage : Stage codec signingKey kp Returns p h) {reply : Reply APIError (OtherAnswer Key)}
    (reliable : ∀ c next, p = .call c next → Reliable kp c reply) :
    Good codec signingKey kp (s.answer kp p reply).2.store ∧
    ((s.answer kp p reply).2.store.get (signingKeySecret kp) = none →
      s.store.get (signingKeySecret kp) = none) ∧
    ∃ h', Stage codec signingKey kp Returns (s.answer kp p reply).1 h' ∧
      ((s.answer kp p reply).2.store.get (signingKeySecret kp) = none →
        h.created = false → h'.created = false) := by
  cases p with
  | pure a => exact ⟨good,id,h,stage,fun _ => id⟩
  | call c next =>
    have permitted := stage.traced.1
    have reaches := reliable c next rfl
    obtain ⟨good',absent⟩ := serve_store laws good stage.held permitted reply
    refine ⟨good',absent,_,⟨stage.held.answered good permitted reaches,stage.traced.2 _⟩,?_⟩
    intro gone before
    by_contra after
    exact created_present reaches before (Bool.eq_true_of_not_eq_false after) gone

theorem running_of_owing (stage : Stage codec signingKey kp Handled p h) (before : h.created = false) :
    running p = some p := by
  cases p with
  | call c next => rfl
  | pure a =>
    rcases stage.traced with created | blocked
    · rw [before] at created; cases created
    · rw [stage.held.unblocked] at blocked; cases blocked

theorem eq_of_running {p q : KeyProgram Key Unit} (eq : running p = some q) : q = p := by
  cases p with
  | pure a => cases eq
  | call c next => cases eq; rfl

theorem Owed.keep (owed : Owed codec signingKey kp s) {s' : Server Key} (hook : s'.hook = s.hook)
    (handler : s'.handler = s.handler) (queue : ∀ event ∈ s.queue, event ∈ s'.queue)
    (gone : ∀ last, .gone last ∈ s.backlog → objectKey last = signingKeySecret kp →
      Owed codec signingKey kp s') : Owed codec signingKey kp s' := by
  cases owed with
  | hook stage before => exact .hook (hook ▸ stage) before
  | gone member here => exact gone _ member here
  | deleted member here => exact .deleted (queue _ member) here
  | handler running stage before => exact .handler (handler.trans running) stage before

theorem Owed.record (owed : Owed codec signingKey kp s) (store : Store ObjectKey Secret) :
    Owed codec signingKey kp (s.record kp store) :=
  owed.keep rfl rfl (fun _ member => member) fun _ member here => .gone (List.mem_append_left _ member) here

theorem Inv.step_hook (laws : codec.RoundTrip) (inv : Inv codec signingKey kp s)
    (reliable : ∀ c next, s.hook = .call c next → Reliable kp c reply) :
    Inv codec signingKey kp (s.act codec signingKey kp onTokenRotated (.hook reply)) := by
  obtain ⟨h,stage⟩ := inv.hook
  obtain ⟨good,absent,h',stage',_⟩ := stage.answered laws inv.good reliable
  simp only [Server.act]
  rw [answer_record]
  refine ⟨good,⟨h',stage'⟩,inv.handler,fun gone => ?_⟩
  cases (inv.absent (absent gone)).record (s.answer kp s.hook reply).2.store with
  | hook stage before =>
    obtain ⟨_,_,h'',stage'',after⟩ := stage.answered laws inv.good reliable
    exact .hook stage'' (after gone before)
  | gone member here => exact .gone member here
  | deleted member here => exact .deleted member here
  | handler running stage before => exact .handler running stage before

theorem Inv.step_handler (laws : codec.RoundTrip) (inv : Inv codec signingKey kp s)
    (reliable : ∀ c next, s.handler = some (.call c next) → Reliable kp c reply) :
    Inv codec signingKey kp (s.act codec signingKey kp onTokenRotated (.handler reply)) := by
  cases now : s.handler with
  | none => simpa only [Server.act,now] using inv
  | some p =>
    have reliable' : ∀ c next, p = .call c next → Reliable kp c reply := by
      rintro c next rfl
      exact reliable c next now
    obtain ⟨h,stage⟩ := inv.handler p now
    obtain ⟨good,absent,h',stage',_⟩ := stage.answered laws inv.good reliable'
    simp only [Server.act,now]
    rw [answer_record]
    refine ⟨good,inv.hook,?_,fun gone => ?_⟩
    · intro q goesOn
      rw [eq_of_running goesOn]
      exact ⟨h',stage'⟩
    · cases (inv.absent (absent gone)).record (s.answer kp p reply).2.store with
      | hook stage before => exact .hook stage before
      | gone member here => exact .gone member here
      | deleted member here => exact .deleted member here
      | handler running stage before =>
        cases now.symm.trans running
        obtain ⟨_,_,h'',stage'',after⟩ := stage.answered laws inv.good reliable'
        exact .handler (running_of_owing stage'' (after gone before)) stage'' (after gone before)

theorem Inv.step_take (inv : Inv codec signingKey kp s) (idle : s.handler = none) :
    Inv codec signingKey kp (s.act codec signingKey kp onTokenRotated .take) := by
  cases waiting : s.queue with
  | nil => simpa only [Server.act,waiting] using inv
  | cons event rest =>
    simp only [Server.act,waiting]
    refine ⟨inv.good,inv.hook,?_,fun gone => ?_⟩
    · intro p goesOn
      rw [eq_of_running goesOn]
      exact ⟨⟨true,false,none,[]⟩,⟨rfl,nofun,by simp⟩,handle_spec codec signingKey kp event (.inl rfl)⟩
    · cases inv.absent gone with
      | hook stage before => exact .hook stage before
      | gone member here => exact .gone member here
      | deleted member here =>
        rw [waiting] at member
        rcases List.mem_cons.mp member with rfl | member
        · have stage : Stage codec signingKey kp Handled
              (handle onTokenRotated kp codec signingKey (.delete (.object _))) ⟨false,false,none,[]⟩ :=
            ⟨⟨rfl,nofun,by simp⟩,handle_delete_spec codec signingKey kp here _⟩
          exact .handler (running_of_owing stage rfl) stage rfl
        · exact .deleted member here
      | handler running stage before => cases idle.symm.trans running

theorem Inv.step_watch (inv : Inv codec signingKey kp s) :
    Inv codec signingKey kp (s.act codec signingKey kp onTokenRotated .watch) := by
  cases changes : s.backlog with
  | nil => simpa only [Server.act,changes] using inv
  | cons change rest =>
    simp only [Server.act,changes]
    refine ⟨inv.good,inv.hook,inv.handler,fun gone => ?_⟩
    refine (inv.absent gone).keep rfl rfl (fun _ => List.mem_append_left _) fun last member here => ?_
    rw [changes] at member
    rcases List.mem_cons.mp member with rfl | member
    · exact .deleted (List.mem_append_right _ (List.mem_singleton.mpr rfl)) here
    · exact .gone member here

theorem Inv.step_list (inv : Inv codec signingKey kp s) (caughtUp : ∀ last, .gone last ∉ s.backlog) :
    Inv codec signingKey kp (s.act codec signingKey kp onTokenRotated .list) := by
  refine ⟨inv.good,inv.hook,inv.handler,fun gone => ?_⟩
  refine (inv.absent gone).keep rfl rfl (fun _ => List.mem_append_left _) fun last member _ => ?_
  exact absurd member (caughtUp last)

theorem Inv.step_put (inv : Inv codec signingKey kp s)
    (keeps : objectKey secret = signingKeySecret kp → Holds codec signingKey kp secret) :
    Inv codec signingKey kp (s.act codec signingKey kp onTokenRotated (.put secret)) := by
  refine ⟨inv.good.put rfl keeps,inv.hook,inv.handler,fun gone => ?_⟩
  have other : signingKeySecret kp ≠ objectKey secret := by
    intro here
    simp [Server.act,Server.record,here] at gone
  refine (inv.absent ?_).record _
  simpa only [Server.act,Server.record,get_put_other _ _ other] using gone

theorem Inv.step_remove (inv : Inv codec signingKey kp s) (key : ObjectKey) :
    Inv codec signingKey kp (s.act codec signingKey kp onTokenRotated (.remove key)) := by
  refine ⟨inv.good.remove key,inv.hook,inv.handler,fun gone => ?_⟩
  cases found : s.store.get (signingKeySecret kp) with
  | none => exact (inv.absent found).record _
  | some e =>
    refine .gone ?_ (inv.good.named _ e found)
    have change : changeOf (s.store.get (signingKeySecret kp))
        ((s.store.remove key).get (signingKeySecret kp)) = [.gone e.value] := by
      rw [show (s.store.remove key).get (signingKeySecret kp) = none from gone,found]
      rfl
    simp only [Server.act,Server.record,change]
    exact List.mem_append_right _ (List.mem_singleton.mpr rfl)

theorem Inv.step (laws : codec.RoundTrip) (inv : Inv codec signingKey kp s)
    (possible : s.possible kp action) (condition : Condition codec signingKey kp s action) :
    Inv codec signingKey kp (s.act codec signingKey kp onTokenRotated action) := by
  cases action with
  | hook reply => exact inv.step_hook laws condition
  | handler reply => exact inv.step_handler laws condition
  | take => exact inv.step_take possible
  | watch => exact inv.step_watch
  | list => exact inv.step_list condition
  | notify event =>
    refine ⟨inv.good,inv.hook,inv.handler,fun gone => ?_⟩
    exact (inv.absent gone).keep rfl rfl (fun _ => List.mem_append_left _) fun _ member here => .gone member here
  | put secret => exact inv.step_put condition
  | remove key => exact inv.step_remove key

end Steps

/-- A server whose key is there when it is made. -/
def start (codec : Codec Key) (signingKey : Key) (kp : KeyPersistenceConfig) (store : Store ObjectKey Secret) :
    Server Key :=
  ⟨store,false,none,[],[],createKeyHook codec signingKey kp,none⟩

/-- The hook has succeeded, what was delivered is handled, and no deletion is still to be delivered. -/
structure Settled (s : Server Key) : Prop where
  hook : s.hook = .pure none
  handler : s.handler = none
  queue : s.queue = []
  backlog : ∀ last, .gone last ∉ s.backlog

/-- The Secret is there with the key of the server. -/
def InStep (codec : Codec Key) (signingKey : Key) (kp : KeyPersistenceConfig) (s : Server Key) : Prop :=
  ∃ e, s.store.get (signingKeySecret kp) = some e ∧ keyOf codec e.value = some signingKey

theorem Inv.inStep (inv : Inv codec signingKey kp s) (settled : Settled s) : InStep codec signingKey kp s := by
  cases found : s.store.get (signingKeySecret kp) with
  | some e => exact ⟨e,found,(inv.good.holds e found).key⟩
  | none =>
    cases inv.absent found with
    | hook stage before =>
      have created : _ = true := settled.hook ▸ stage.traced <| rfl
      rw [before] at created; cases created
    | gone member here => exact absurd member (settled.backlog _)
    | deleted member here => rw [settled.queue] at member; cases member
    | handler running stage before => cases settled.handler.symm.trans running

theorem signing_key_in_step (codec : Codec Key) (laws : codec.RoundTrip)
    (good : Good codec signingKey kp store)
    (run : ((system codec signingKey kp onTokenRotated).restrict (Condition codec signingKey kp)).Run
      (start codec signingKey kp store) actions s)
    (settled : Settled s) : InStep codec signingKey kp s := by
  refine Inv.inStep ?_ settled
  refine run.invariant_restrict (Inv codec signingKey kp)
    (fun s a inv ok condition => inv.step laws ok condition) ?_
  have stage : Stage codec signingKey kp HookReturns (createKeyHook codec signingKey kp)
      ⟨false,false,none,[]⟩ :=
    ⟨⟨rfl,nofun,by simp⟩,createKeyHook_spec codec signingKey kp _⟩
  exact ⟨good,⟨_,stage⟩,nofun,fun _ => .hook stage rfl⟩

section Sample

theorem reliable_fine (kp : KeyPersistenceConfig) (c : Call ObjectKey Secret OtherCall) (byte : UInt8) :
    Reliable kp c (fine byte) := by
  cases c with
  | create key value => exact fun _ => nofun
  | other call =>
    cases call with
    | createNamespace name => exact .inr rfl
    | _ => trivial
  | _ => trivial

/-- The Secret is created, deleted, and created again by the handler. -/
def deletion : List (Action Bytes) :=
  [.hook (fine 0),.hook (fine 0),.list,.remove (signingKeySecret defaultPersistence),.watch,.take,
    .handler (fine 0),.handler (fine 0),.handler (fine 0),.watch]

theorem signing_key_in_step_deletion :
    ∃ s, ((system SigningKeys.plainCodec [7] defaultPersistence false).restrict
        (Condition SigningKeys.plainCodec [7] defaultPersistence)).Run
        (start SigningKeys.plainCodec [7] defaultPersistence Store.empty) deletion s ∧
      InStep SigningKeys.plainCodec [7] defaultPersistence s := by
  have reliable : ∀ c, Reliable defaultPersistence c (fine 0) := fun c => reliable_fine _ c 0
  have run : ((system SigningKeys.plainCodec [7] defaultPersistence false).restrict
      (Condition SigningKeys.plainCodec [7] defaultPersistence)).Run
      (start SigningKeys.plainCodec [7] defaultPersistence Store.empty) deletion _ :=
    .of ⟨⟨trivial,fun c _ _ => reliable c⟩,⟨trivial,fun c _ _ => reliable c⟩,
      ⟨trivial,fun last member => by cases List.mem_singleton.mp member⟩,⟨trivial,trivial⟩,⟨rfl,trivial⟩,
      ⟨rfl,trivial⟩,⟨rfl,fun c _ _ => reliable c⟩,⟨rfl,fun c _ _ => reliable c⟩,
      ⟨rfl,fun c _ _ => reliable c⟩,⟨rfl,trivial⟩,trivial⟩
  refine ⟨_,run,signing_key_in_step _ SigningKeys.plainCodec_roundTrip ?_ run ?_⟩
  · exact ⟨fun key e found => by simp at found,fun e found => by simp at found⟩
  · exact ⟨rfl,rfl,rfl,fun last member => by cases member⟩

/-- The Secret before the start, with the key of someone else. -/
def foreign : Secret := newSigningKeySecret (signingKeySecret defaultPersistence) [9]

/-- The deletion comes while the informer has no watch. -/
def missedDeletion : List (Action Bytes) :=
  [.hook (fine 0),.hook (fine 0),.list,.remove (signingKeySecret defaultPersistence),.list,.take]

/-- The hook leaves another key in place, and a deletion that a list has found is ignored. -/
theorem signing_key_out_of_step :
    (∃ s, (system SigningKeys.plainCodec [7] defaultPersistence false).Run
        (start SigningKeys.plainCodec [7] defaultPersistence
          (Store.empty.put (signingKeySecret defaultPersistence) foreign))
        [.hook (fine 0),.hook (fine 0),.list] s ∧
      Settled s ∧ (s.store.get (signingKeySecret defaultPersistence)).bind
        (fun e => keyOf SigningKeys.plainCodec e.value) = some [9] ∧
      ¬InStep SigningKeys.plainCodec [7] defaultPersistence s) ∧
    ∃ s, (system SigningKeys.plainCodec [7] defaultPersistence false).Run
        (start SigningKeys.plainCodec [7] defaultPersistence Store.empty) missedDeletion s ∧
      Settled s ∧ s.backlog = [] ∧ s.store.get (signingKeySecret defaultPersistence) = none ∧
      ¬InStep SigningKeys.plainCodec [7] defaultPersistence s := by
  refine ⟨⟨_,.of ⟨trivial,trivial,trivial,trivial⟩,
    ⟨rfl,rfl,rfl,fun last member => by cases member⟩,?_,?_⟩,⟨_,.of ⟨trivial,trivial,trivial,trivial,
      trivial,rfl,trivial⟩,
    ⟨rfl,rfl,rfl,fun last member => by cases member⟩,rfl,rfl,?_⟩⟩
  · decide +kernel
  · rintro ⟨e,found,key⟩
    cases found
    revert key
    decide +kernel
  · rintro ⟨e,found,_⟩
    cases found

end Sample

end Kommodity.Libkapi.KeySync
