import Kommodity.SigningKeys

/-! Concurrent calls of `getOrCreateSigningKey` on one cluster, without other writers. A caller
whose Create finds a Secret returns the key it generated and not the one that is stored. -/
namespace Kommodity.SigningKeys.Bootstrap

open Go Versioned Interaction Transition Secrets

variable {Key : Type}

/-- What one call returned, with the key stored at that moment. -/
structure Return (Key : Type) where
  result : Except Error Key
  stored : Option Key

structure Shared (Key : Type) where
  api : API
  returned : List (Return Key)

/-- The answers one caller has had. -/
structure Notes (Key : Type) where
  secret : Option (Except APIError (Entry Secret))
  drawn : Option Key
  created : Option (Except APIError Unit)

def note (h : Notes Key) : (c : Call) → Answer Key c → Notes Key
  | .getSecret _,a => { h with secret := some a }
  | .generateKey,a => { h with drawn := a.toOption }
  | .createSecret _,a => { h with created := some a }
  | _,_ => h

/-- Any number of callers, each calling again and again. -/
def callers (codec : Codec Key) : Threads Nat (Shared Key) Call (Answer Key) (Reply Key) Empty
    (Notes Key) (Except Error Key) where
  program _ := getOrCreateSigningKey codec
  fresh := ⟨none,none,none⟩
  note := note
  ready _ := True
  begin s := s
  answerable s _ c f := Listable s.api c f
  serve s c f := ((serve s.api c f).1,{ s with api := (serve s.api c f).2 })
  finish s _ result := { s with returned := ⟨result,storedKey codec s.api⟩ :: s.returned }
  possible _ e := e.elim
  disturb _ e := e.elim

/-- A Create that reaches the server finds no Secret. -/
def CreatesFirst (s : Shared Key) (_ : Notes Key) (c : Call) (f : Reply Key) : Prop :=
  match c with
  | .createSecret secret =>
    f = .refused ∨ f = .lost ∨ s.api.secrets.get (objectKey secret.metadata) = none
  | _ => True

def Next (codec : Codec Key) (h : Notes Key) : Call → Prop
  | .getSecret key => key = signingKeySecret ∧ h.created = none ∧ h.drawn = none
  | .generateKey => h.created = none ∧ h.drawn = none
  | .createSecret secret => h.created = none ∧
    ∃ key, h.drawn = some key ∧ secret = newSigningKeySecret (convertRSAKeyToPEM codec key)
  | _ => False

def Returns (codec : Codec Key) (h : Notes Key) (result : Except Error Key) : Prop :=
  ∀ key, result = .ok key →
    (∃ e keyPEM, h.secret = some (.ok e) ∧ e.value.data.lookup signingKeyDataKey = some keyPEM ∧
      convertPEMToRSAKey codec keyPEM = .ok key) ∨
    h.drawn = some key ∧
      (h.created = some (.ok ()) ∨ h.created = some (.error (.store .alreadyExists)))

/-- Without `updateIfExists` a Create that meets a Secret counts as a success. -/
theorem persistSigningKey_traced (codec : Codec Key) {h : Notes Key} (drawn : h.drawn = some key)
    (first : h.created = none) :
    (persistSigningKey codec key false).Traced note (Next codec)
      (fun h' err => h'.drawn = some key ∧ (err = none →
        h'.created = some (.ok ()) ∨ h'.created = some (.error (.store .alreadyExists)))) h := by
  simp only [persistSigningKey,traced_request_bind]
  refine ⟨⟨first,key,drawn,rfl⟩,?_⟩
  rintro (err | _)
  · by_cases exists' : err = .store .alreadyExists <;> simp [exists',note,drawn]
  · simp [note,drawn]

theorem getOrCreateSigningKey_traced (codec : Codec Key) :
    (getOrCreateSigningKey codec).Traced note (Next codec) (Returns codec) ⟨none,none,none⟩ := by
  simp only [getOrCreateSigningKey,traced_request_bind]
  refine ⟨⟨rfl,rfl,rfl⟩,?_⟩
  rintro (err | secret)
  · simp only [traced_request_bind]
    refine ⟨⟨rfl,rfl⟩,?_⟩
    rintro (err | key)
    · simp [Returns]
    · refine traced_bind (persistSigningKey_traced codec rfl rfl) ?_
      rintro h (_ | err) ⟨drawn,created⟩
      · rw [traced_pure]
        intro returned same
        cases same
        exact Or.inr ⟨drawn,created rfl⟩
      · simp [Returns]
  · cases data : secret.value.data.lookup signingKeyDataKey with
    | none => simp [data,Returns]
    | some keyPEM =>
      simp only [data,traced_pure]
      intro key converted
      exact Or.inl ⟨secret,keyPEM,rfl,data,converted⟩

/-- The Secret a caller has read is still there, and the key it has created is the stored one. -/
structure Held (codec : Codec Key) (s : Shared Key) (h : Notes Key) : Prop where
  read : ∀ e, h.secret = some (.ok e) → s.api.secrets.get signingKeySecret = some e
  created : ∀ key, h.drawn = some key → h.created = some (.ok ()) → storedKey codec s.api = some key
  first : h.created ≠ some (.error (.store .alreadyExists))

/-- Every key returned so far was the stored one, and still is. -/
def Inv (codec : Codec Key) (s : Shared Key) : Prop :=
  ∀ r ∈ s.returned, ∀ key, r.result = .ok key → r.stored = some key ∧ storedKey codec s.api = some key

/-- Only the first Create of the signing key changes the Secrets. -/
theorem serve_api (codec : Codec Key) (permitted : Next codec h c) :
    (serve api c f).2 = api ∨
    ∃ key, h.drawn = some key ∧ api.secrets.get signingKeySecret = none ∧
      (serve api c f).2 = api.putSecret (newSigningKeySecret (convertRSAKeyToPEM codec key)) := by
  cases c with
  | getSecret key => exact Or.inl rfl
  | generateKey => cases f <;> exact Or.inl rfl
  | createSecret secret =>
    obtain ⟨_,key,drawn,rfl⟩ := permitted
    have cases := answerWrite_cases api
      (api.createSecret (newSigningKeySecret (convertRSAKeyToPEM codec key))) f
    rcases cases with ⟨next,done,answer⟩ | ⟨next,done,_,answer⟩ | ⟨_,answer⟩ | ⟨e,_,_,answer⟩
    · obtain ⟨free,rfl⟩ := createSecret_eq_ok done
      exact Or.inr ⟨key,drawn,free,by simp only [serve,answer]⟩
    · obtain ⟨free,rfl⟩ := createSecret_eq_ok done
      exact Or.inr ⟨key,drawn,free,by simp only [serve,answer]⟩
    · exact Or.inl (by simp only [serve,answer])
    · exact Or.inl (by simp only [serve,answer])
  | _ => exact permitted.elim

theorem serve_stored (codec : Codec Key) (api : API) (permitted : Next codec h c) (f : Reply Key) :
    (∀ e, api.secrets.get signingKeySecret = some e →
      (serve api c f).2.secrets.get signingKeySecret = some e) ∧
    ∀ key, storedKey codec api = some key → storedKey codec (serve api c f).2 = some key := by
  rcases serve_api codec permitted with same | ⟨_,_,free,_⟩
  · rw [same]
    exact ⟨fun _ found => found,fun _ stored => stored⟩
  · refine ⟨fun e found => ?_,fun key stored => ?_⟩
    · rw [free] at found; cases found
    · simp [storedKey,free] at stored

theorem Held.answered_other (codec : Codec Key) (permitted : Next codec h c) (held : Held codec s h')
    (f : Reply Key) :
    Held codec { s with api := (serve s.api c f).2 } h' := by
  obtain ⟨kept,stored⟩ := serve_stored codec s.api permitted f
  exact ⟨fun e found => kept e (held.read e found),
    fun key drawn created => stored key (held.created key drawn created),held.first⟩

theorem Held.answered (laws : codec.RoundTrip) (permitted : Next codec h c)
    (condition : CreatesFirst s h c f) (held : Held codec s h) :
    Held codec { s with api := (serve s.api c f).2 } (note h c (serve s.api c f).1) := by
  have kept := held.answered_other codec permitted f
  cases c with
  | getSecret key =>
    obtain ⟨rfl,notCreated,notDrawn⟩ := permitted
    refine ⟨?_,kept.created,kept.first⟩
    intro e answered
    exact answerRead_ok (Option.some.inj answered)
  | generateKey =>
    refine ⟨kept.read,?_,kept.first⟩
    intro key _ created
    simp [note,permitted.1] at created
  | createSecret secret =>
    obtain ⟨first,key,drawn,rfl⟩ := permitted
    have outcome := answerWrite_cases s.api
      (s.api.createSecret (newSigningKeySecret (convertRSAKeyToPEM codec key))) f
    refine ⟨kept.read,?_,?_⟩
    · intro key' drawn' created
      obtain rfl : key' = key := Option.some.inj (drawn'.symm.trans drawn)
      rcases outcome with ⟨next,done,answer⟩ | ⟨_,_,_,answer⟩ | ⟨_,answer⟩ | ⟨_,_,_,answer⟩
      · obtain ⟨_,rfl⟩ := createSecret_eq_ok done
        simp only [serve,answer]
        exact storedKey_putSecret_new laws s.api key'
      all_goals simp [note,serve,answer] at created
    · rcases outcome with ⟨_,_,answer⟩ | ⟨_,_,_,answer⟩ | ⟨_,answer⟩ | ⟨e,taken,⟨kept,sent⟩,_⟩
      · simp [note,serve,answer]
      · simp [note,serve,answer]
      · simp [note,serve,answer]
      · have free : s.api.secrets.get signingKeySecret = none := by
          rcases condition with refused | lost | free
          · exact absurd refused kept
          · exact absurd lost sent
          · exact free
        simp [API.createSecret,objectKey_newSigningKeySecret,free] at taken
  | _ => exact permitted.elim

/-- The callers when every Create that reaches the server comes first. -/
def orderlyCallers (codec : Codec Key) : Threads Nat (Shared Key) Call (Answer Key) (Reply Key) Empty
    (Notes Key) (Except Error Key) :=
  (callers codec).restrict CreatesFirst fun _ _ => True

theorem Returns.stored (returns : Returns codec h (.ok key)) (held : Held codec s h) :
    storedKey codec s.api = some key := by
  rcases returns key rfl with ⟨e,keyPEM,secret,data,converted⟩ | ⟨drawn,created | met⟩
  · simp [storedKey,held.read e secret,data,converted,Except.toOption]
  · exact held.created key drawn created
  · exact absurd met held.first

theorem orderlyCallers_keeps (laws : codec.RoundTrip) :
    (orderlyCallers codec).Keeps (Next codec) (Returns codec) (Inv codec) (Held codec) where
  begins := by
    intro s inv _
    exact ⟨inv,by simp [orderlyCallers,callers,Threads.restrict],
      by simp [orderlyCallers,callers,Threads.restrict],
      by simp [orderlyCallers,callers,Threads.restrict]⟩
  answers := by
    intro s h c f inv held permitted condition
    refine ⟨?_,held.answered laws permitted condition.2⟩
    intro r member key result
    obtain ⟨stored,now⟩ := inv r member key result
    exact ⟨stored,(serve_stored codec s.api permitted f).2 key now⟩
  finishes := by
    intro s h result inv held returns r member key isKey
    rcases List.mem_cons.mp member with rfl | earlier
    · obtain rfl : result = .ok key := isKey
      have stored := returns.stored held
      exact ⟨stored,stored⟩
    · exact inv r earlier key isKey
  disturbs := fun _ e => e.elim
  begins_other := fun _ _ _ _ held => held
  answers_other := fun _ _ _ _ _ _ _ _ permitted _ held => held.answered_other codec permitted _
  finishes_other := fun _ _ _ _ _ _ _ _ held => ⟨held.read,held.created,held.first⟩

/-- If no Create meets an existing Secret, every key a caller gets is the stored key at that
moment, and so all callers get the same one. -/
theorem signing_key_callers_agree (laws : codec.RoundTrip)
    (run : (orderlyCallers codec).system.Run (idle ⟨api,[]⟩) actions t) :
    (∀ r ∈ t.shared.returned, ∀ key, r.result = .ok key → r.stored = some key) ∧
    ∀ r ∈ t.shared.returned, ∀ r' ∈ t.shared.returned, ∀ key key',
      r.result = .ok key → r'.result = .ok key' → key = key' := by
  have initial : Inv codec (⟨api,[]⟩ : Shared _) := by simp [Inv]
  have good := (orderlyCallers_keeps laws).run (fun _ => getOrCreateSigningKey_traced codec)
    (good_idle initial) run
  refine ⟨fun r member key result => (good.1 r member key result).1,?_⟩
  intro r member r' member' key key' result result'
  have stored := (good.1 r member key result).2
  have stored' := (good.1 r' member' key' result').2
  exact Option.some.inj (stored.symm.trans stored')

/-- Two callers after each other. -/
def turns : List (Action Nat (Reply Bytes) Empty) :=
  [.begin 0,.answer 0 .fine,.answer 0 (.drawn [1]),.answer 0 .fine,.begin 1,.answer 1 .fine]

theorem signing_key_callers_in_turn :
    ∃ t, (orderlyCallers plainCodec).system.Run (idle ⟨emptyAPI,[]⟩) turns t ∧
      t.shared.returned.map (·.stored) = [some [1],some [1]] ∧
      ∀ r ∈ t.shared.returned, ∀ key, r.result = .ok key → r.stored = some key := by
  have run : (orderlyCallers plainCodec).system.Run (idle ⟨emptyAPI,[]⟩) turns _ :=
    .of ⟨⟨rfl,trivial⟩,⟨_,_,_,rfl,trivial,trivial⟩,⟨_,_,_,rfl,trivial,trivial⟩,
      ⟨_,_,_,rfl,trivial,Or.inr (Or.inr rfl)⟩,⟨rfl,trivial⟩,⟨_,_,_,rfl,trivial,trivial⟩,trivial⟩
  exact ⟨_,run,rfl,(signing_key_callers_agree plainCodec_roundTrip run).1⟩

/-- Two callers read before either has created. -/
def race : List (Action Nat (Reply Bytes) Empty) :=
  [.begin 0,.begin 1,.answer 0 .fine,.answer 1 .fine,.answer 0 (.drawn [1]),.answer 1 (.drawn [2]),
    .answer 0 .fine,.answer 1 .fine]

theorem second_caller_gets_own_key :
    ∃ t, (callers plainCodec).system.Run (idle ⟨emptyAPI,[]⟩) race t ∧
      ∃ r ∈ t.shared.returned, r.result.toOption = some [2] ∧ r.stored = some [1] := by
  refine ⟨_,.of ⟨⟨rfl,trivial⟩,⟨rfl,trivial⟩,⟨_,_,_,rfl,trivial⟩,⟨_,_,_,rfl,trivial⟩,⟨_,_,_,rfl,trivial⟩,
    ⟨_,_,_,rfl,trivial⟩,⟨_,_,_,rfl,trivial⟩,⟨_,_,_,rfl,trivial⟩,trivial⟩,_,List.mem_cons_self ..,?_,?_⟩
  · rfl
  · rfl

end Kommodity.SigningKeys.Bootstrap
