import Kommodity.TokenRotation

/-! Whether the stored signing key is the one the server signs and verifies tokens with. Nothing
in the server follows the Secret, so after a Reconcile they agree exactly if the Secret held the
start-up key when the Reconcile began. -/
namespace Kommodity.SigningKeys.Agreement

open Go Versioned Interaction Transition Secrets Rotation

variable {Key : Type}

/-- The Secret, the token controller and the authenticator have one key. -/
def Agree (codec : Codec Key) (api : API) (server : Server Key) : Prop :=
  ∃ key, storedKey codec api = some key ∧ server.tokenGenerator = key ∧ server.staticPublicKeys = [key]

/-- What a Reconcile can do to the stored key: nothing, or create one where there was none. -/
def Follows (before stored : Option Key) (drawn : List Key) : Prop :=
  stored = before ∨ before = none ∧ ∃ key ∈ drawn, stored = some key

structure Held (codec : Codec Key) (s : Cluster Key) (h : Notes Key) : Prop where
  listed : ∀ old ∈ h.listed, old.metadata.namespaceName = "kube-system"
  drawn : ∀ key, h.drawn = some key → key ∈ s.drawn
  stored : s.edited = false → Follows s.before (storedKey codec s.api) s.drawn

structure Inv (codec : Codec Key) (startup : Key) (s : Cluster Key) : Prop where
  server : s.server = startServer startup
  completed : ∀ c ∈ s.completed, c.edited = false → Follows c.before (storedKey codec c.api) s.drawn

theorem Follows.mono (follows : Follows before stored drawn) (more : ∀ key ∈ drawn, key ∈ drawn') :
    Follows before stored drawn' := by
  rcases follows with same | ⟨absent,key,member,created⟩
  · exact Or.inl same
  · exact Or.inr ⟨absent,key,more key member,created⟩

theorem kubeSystem_ne (key : ObjectKey) (name : key.1 = "kube-system") : signingKeySecret ≠ key := by
  rintro rfl
  simp [signingKeySecret,kommodityNamespace] at name

theorem storedKey_serve (laws : codec.RoundTrip) (held : Held codec s h) (permitted : Next codec h c)
    (f : Reply Key) :
    storedKey codec (serve s.api c f).2 = storedKey codec s.api ∨
    storedKey codec s.api = none ∧
      ∃ key ∈ s.drawn, storedKey codec (serve s.api c f).2 = some key := by
  cases c with
  | createSecret secret =>
    rcases serve_createSecret s.api secret f with ⟨free,_,api⟩ | ⟨_,api⟩
    · rw [api]
      rcases permitted with ⟨_,key,drawn,rfl⟩ | ⟨old,rotated,_,_,_,_,_,rfl⟩
      · refine Or.inr ⟨?_,key,held.drawn key drawn,storedKey_putSecret_new laws s.api key⟩
        have absent : s.api.secrets.get signingKeySecret = none := free
        simp [storedKey,absent]
      · refine Or.inl (storedKey_congr ?_)
        rw [get_putSecret,if_neg (kubeSystem_ne _ (held.listed old rotated.1))]
    · exact Or.inl (by rw [api])
  | deleteSecret key =>
    obtain ⟨_,old,rotated,rfl⟩ := permitted
    have other := kubeSystem_ne (objectKey old.metadata) (held.listed old rotated.1)
    refine Or.inl (storedKey_congr ?_)
    rcases serve_deleteSecret s.api (objectKey old.metadata) f with
      ⟨_,answer,_⟩ | ⟨_,_,answer⟩ | ⟨_,_,secrets⟩
    · rw [answer]; simp [other]
    · rw [answer]
    · rw [secrets,if_neg other]
  | updateConfigMap configMap =>
    refine Or.inl (storedKey_congr ?_)
    rw [serve_updateConfigMap]
  | updateSecret secret => exact permitted.elim
  | getSecret key => exact Or.inl rfl
  | getConfigMap key => exact Or.inl rfl
  | listSecrets namespaceName => cases f <;> exact Or.inl rfl
  | generateKey => cases f <;> exact Or.inl rfl
  | unixTime => cases f <;> exact Or.inl rfl

theorem storedKey_populate (codec : Codec Key) (sign : Key → Secret → Bytes) (server : Server Key)
    (api : API) (key : ObjectKey) :
    storedKey codec (Disturbance.apply sign server api (.populate key)) = storedKey codec api := by
  simp only [Disturbance.apply]
  split
  · rfl
  · next e found =>
    split
    · have name := api.named key e found
      by_cases same : signingKeySecret = key
      · subst same
        have other : signingKeyDataKey ≠ "token" := by decide
        simp [storedKey,name,found,AList.lookup_insert_ne other]
      · exact storedKey_congr (by simp [name,same])
    · rfl

theorem Held.answered (laws : codec.RoundTrip) (held : Held codec s h) (permitted : Next codec h c)
    (sign : Key → Secret → Bytes) (f : Reply Key) :
    Held codec ((controller codec sign).serve s c f).2
      (note h c ((controller codec sign).serve s c f).1) := by
  have more : ∀ key ∈ s.drawn, key ∈ (draws c f).toList ++ s.drawn :=
    fun _ member => List.mem_append_right _ member
  refine ⟨?_,?_,?_⟩
  · cases c with
    | listSecrets namespaceName =>
      obtain ⟨_,rfl⟩ := permitted
      cases f with
      | listed order =>
        intro old member
        obtain ⟨key,_,found⟩ := List.mem_filterMap.mp member
        split at found
        · next inNamespace =>
          obtain ⟨e,stored,rfl⟩ := Option.map_eq_some_iff.mp found
          have name := s.api.named key e stored
          rw [← inNamespace,← name]; rfl
        · cases found
      | _ => exact held.listed
    | deleteSecret key =>
      rcases serve_deleteSecret s.api key f with ⟨_,answer,_⟩ | ⟨_,_,answer⟩ | ⟨_,answer,_⟩ <;>
        simpa [controller,answer,note] using held.listed
    | generateKey => cases f <;> exact held.listed
    | _ => exact held.listed
  · cases c with
    | generateKey =>
      cases f with
      | drawn key =>
        intro key' drawn
        cases drawn
        exact List.mem_cons_self ..
      | _ => exact held.drawn
    | listSecrets namespaceName => cases f <;> exact held.drawn
    | deleteSecret key =>
      rcases serve_deleteSecret s.api key f with ⟨_,answer,_⟩ | ⟨_,_,answer⟩ | ⟨_,answer,_⟩ <;>
        simpa [controller,answer,note,draws] using held.drawn
    | _ => exact held.drawn
  · intro unedited
    have follows := held.stored unedited
    rcases storedKey_serve laws held permitted f with same | ⟨absent,key,member,created⟩
    · show Follows s.before (storedKey codec (serve s.api c f).2) ((draws c f).toList ++ s.drawn)
      rw [same]
      exact follows.mono more
    · refine Or.inr ⟨?_,key,more key member,created⟩
      rcases follows with same | ⟨_,_,_,stored⟩
      · exact same.symm.trans absent
      · rw [absent] at stored; cases stored

theorem controller_keeps (laws : codec.RoundTrip) (startup : Key) (sign : Key → Secret → Bytes) :
    (controller codec sign).Keeps (Next codec) Returns (Inv codec startup) (Held codec) :=
  .single {
    begins := by
      intro s inv _
      refine ⟨⟨inv.server,inv.completed⟩,?_,?_,fun _ => Or.inl rfl⟩
      · exact fun _ member => by cases member
      · exact fun _ drawn => by cases drawn
    answers := by
      intro s h c f inv held permitted _
      refine ⟨⟨inv.server,?_⟩,held.answered laws permitted sign f⟩
      intro completion member unedited
      exact (inv.completed completion member unedited).mono fun _ member => List.mem_append_right _ member
    finishes := by
      intro s h outcome inv held _
      refine ⟨inv.server,?_⟩
      intro completion member unedited
      rcases List.mem_cons.mp member with rfl | earlier
      · exact held.stored unedited
      · exact inv.completed completion earlier unedited
    disturbs := by
      intro s e inv _
      refine ⟨⟨inv.server,inv.completed⟩,?_⟩
      intro h held
      refine ⟨held.listed,held.drawn,?_⟩
      intro unedited
      have both : s.edited = false ∧ e.edits = false := by simpa [controller] using unedited
      cases e with
      | edit secret => cases both.2
      | delete => cases both.2
      | populate key =>
        show Follows s.before (storedKey codec (Disturbance.apply sign s.server s.api (.populate key))) s.drawn
        rw [storedKey_populate]
        exact held.stored both.1
  }

theorem agree_startServer_iff (codec : Codec Key) (api : API) (startup : Key) :
    Agree codec api (startServer startup) ↔ storedKey codec api = some startup := by
  constructor
  · rintro ⟨key,stored,generator,_⟩
    rw [stored,← generator]; rfl
  · intro stored
    exact ⟨startup,stored,rfl,rfl⟩

/-- After a Reconcile during which no operator touched the Secret, the keys agree if the Secret held
the start-up key when it began; and only then, as long as no key drawn is the start-up key. -/
theorem signing_keys_agree_iff (laws : codec.RoundTrip)
    (run : (controller codec sign).system.Run (idle (initialCluster api (startServer startup))) actions t) :
    ∀ c ∈ t.shared.completed, c.edited = false →
      (c.before = some startup → Agree codec c.api t.shared.server) ∧
      (startup ∉ t.shared.drawn → Agree codec c.api t.shared.server → c.before = some startup) := by
  have initial : Inv codec startup (initialCluster api (startServer startup)) :=
    ⟨rfl,fun _ member => by cases member⟩
  have good := (controller_keeps laws startup sign).run (fun _ => reconcile_traced codec)
    (good_idle initial) run
  intro c member unedited
  rw [good.1.server,agree_startServer_iff]
  rcases good.1.completed c member unedited with same | ⟨absent,key,drawn,stored⟩
  · rw [same]
    exact ⟨fun held => held,fun _ held => held⟩
  · refine ⟨fun held => ?_,fun fresh held => ?_⟩
    · rw [absent] at held; cases held
    · rw [stored] at held
      exact absurd (Option.some.inj held ▸ drawn) fresh

/-- The start-up hook has persisted the key `[7]`. -/
def persisted : Cluster Bytes :=
  initialCluster (emptyAPI.putSecret (newSigningKeySecret [7])) (startServer [7])

theorem signing_keys_agree_restored :
    ∃ t, (controller plainCodec plainSign).system.Run (idle persisted)
        [.disturb .delete,.disturb (.edit (newSigningKeySecret [7])),.begin (),.answer () .fine,
          .answer () (.listed [signingKeySecret])] t ∧
      ∃ c ∈ t.shared.completed, c.outcome.error = none ∧ Agree plainCodec c.api t.shared.server := by
  have run : (controller plainCodec plainSign).system.Run (idle persisted)
      [.disturb .delete,.disturb (.edit (newSigningKeySecret [7])),.begin (),.answer () .fine,
        .answer () (.listed [signingKeySecret])] _ :=
    .of ⟨trivial,rfl,⟨rfl,rfl⟩,⟨_,_,_,rfl,trivial⟩,⟨_,_,_,rfl,List.Perm.refl _⟩,trivial⟩
  have agreed := signing_keys_agree_iff plainCodec_roundTrip run _ (List.mem_cons_self ..) rfl
  exact ⟨_,run,_,List.mem_cons_self ..,rfl,agreed.1 rfl⟩

/-- The Secret is deleted and the reconciler creates another key. -/
theorem regenerated_key_disagrees :
    storedKey plainCodec persisted.api = some [7] ∧
    ∃ t, (controller plainCodec plainSign).system.Run (idle persisted)
        [.disturb .delete,.begin (),.answer () .fine,.answer () (.drawn [9]),.answer () .fine,
          .answer () (.listed [signingKeySecret])] t ∧
      ∃ c ∈ t.shared.completed, c.outcome.error = none ∧ ¬ Agree plainCodec c.api t.shared.server := by
  refine ⟨rfl,_,.of ⟨trivial,⟨rfl,rfl⟩,⟨_,_,_,rfl,trivial⟩,⟨_,_,_,rfl,trivial⟩,⟨_,_,_,rfl,trivial⟩,
    ⟨_,_,_,rfl,List.Perm.refl _⟩,trivial⟩,_,List.mem_cons_self ..,rfl,?_⟩
  intro agreed
  have stored := (agree_startServer_iff plainCodec _ [7]).mp agreed
  cases stored

end Kommodity.SigningKeys.Agreement
