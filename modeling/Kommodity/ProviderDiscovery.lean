import Kommodity.ProviderCache

/-! From the list of enabled providers to running controllers: the definitions of the enabled
providers are cached, the controllers of the enabled providers are built, and they start when the API
server lists the kind of every cached definition. -/
namespace Kommodity.Provider

open Go

section Loaded

variable {embedded : Embedded Rest Fields}

theorem load_bind_ok {x : Load α} {f : α → Load β} :
    (x >>= f).run = some (.ok b) ↔ ∃ a, x.run = some (.ok a) ∧ (f a).run = some (.ok b) := by
  rw [ExceptT.run_bind]
  rcases x.run with _ | (err | a) <;> simp [pure]

theorem load_pure_ok {a b : α} : (pure a : Load α).run = some (.ok b) ↔ a = b := by
  rw [ExceptT.run_pure]
  simp [pure]

theorem load_adapt_ok {g : CacheErr → CacheErr} {x : Load α} :
    (ExceptT.adapt g x).run = some (.ok a) ↔ x.run = some (.ok a) := by
  change Option.map (Except.mapError g) x.run = _ ↔ _
  rcases x.run with _ | (err | a) <;> simp [Except.mapError]

/-- A definition that is cached under a group. -/
def Cache.Holds (cache : Cache) (group : String) (obj : Json) : Prop :=
  ∃ objs, cache.providerCRDs.lookup group = some objs ∧ obj ∈ objs

/-- No group is empty. -/
def Cache.Filled (cache : Cache) : Prop := ∀ group, cache.providerCRDs.lookup group ≠ some []

theorem holds_cacheCRD (cache : Cache) (scheme : Scheme) (group' : String) (obj' : Json) :
    (cacheCRD cache group obj scheme).Holds group' obj' ↔ cache.Holds group' obj' ∨ group' = group ∧ obj' = obj := by
  simp only [Cache.Holds,cacheCRD,Map.lookup_insert_eq,Map.index]
  by_cases same : group' = group
  · subst same
    cases cache.providerCRDs.lookup group' with
    | none => simp [default]
    | some objs => simp
  · simp [same]

theorem filled_cacheCRD (filled : cache.Filled) (scheme : Scheme) : (cacheCRD cache group obj scheme).Filled := by
  intro group'
  simp only [cacheCRD,Map.lookup_insert_eq]
  split
  · simp
  · exact filled group'

theorem loadCRD_ok (loaded : (loadCRD embedded cache file).run = some (.ok cache')) :
    ∃ group obj scheme, prepareCRD embedded file = .ok (group,obj) ∧ cache' = cacheCRD cache group obj scheme := by
  unfold loadCRD at loaded
  split at loaded
  · simp at loaded
  · next group obj prepared =>
    split at loaded
    · simp at loaded
    · next scheme _ =>
      exact ⟨group,obj,scheme,prepared,(load_pure_ok.mp loaded).symm⟩

/-- What the files of a list add to the cache. -/
structure Adds (embedded : Embedded Rest Fields) (files : List Bytes) (cache cache' : Cache) : Prop where
  prepared : ∀ file ∈ files, ∃ group obj, prepareCRD embedded file = .ok (group,obj)
  holds : ∀ group obj, cache'.Holds group obj ↔
    cache.Holds group obj ∨ ∃ file ∈ files, prepareCRD embedded file = .ok (group,obj)
  filled : cache.Filled → cache'.Filled

theorem Adds.refl (cache : Cache) : Adds embedded [] cache cache := ⟨by simp,by simp,id⟩

theorem Adds.append (first : Adds embedded files cache cache') (second : Adds embedded files' cache' cache'') :
    Adds embedded (files ++ files') cache cache'' where
  prepared file member := by
    rcases List.mem_append.mp member with member | member
    · exact first.prepared file member
    · exact second.prepared file member
  holds group obj := by
    rw [second.holds,first.holds]
    simp [or_and_right,exists_or,or_assoc]
  filled filled := second.filled (first.filled filled)

theorem loadCRD_adds (loaded : (loadCRD embedded cache file).run = some (.ok cache')) :
    Adds embedded [file] cache cache' := by
  obtain ⟨group,obj,scheme,prepared,rfl⟩ := loadCRD_ok loaded
  refine ⟨by simp [prepared],?_,fun filled => filled_cacheCRD filled scheme⟩
  intro group' obj'
  rw [holds_cacheCRD]
  simp [prepared,eq_comm]

theorem loadFiles_adds (loaded : (files.foldlM (loadCRD embedded) cache).run = some (.ok cache')) :
    Adds embedded files cache cache' := by
  induction files generalizing cache with
  | nil =>
    obtain rfl := load_pure_ok.mp loaded
    exact .refl cache
  | cons file rest ih =>
    rw [List.foldlM_cons,load_bind_ok] at loaded
    obtain ⟨middle,first,others⟩ := loaded
    exact (loadCRD_adds first).append (ih others)

theorem loadCRDCache_adds (loaded : (loadCRDCache embedded enabled cache).run = some (.ok cache')) :
    Adds embedded (enabledFiles embedded enabled) cache cache' := by
  unfold loadCRDCache at loaded
  unfold enabledFiles
  generalize embedded.crds = providers at loaded ⊢
  induction providers generalizing cache with
  | nil =>
    obtain rfl := load_pure_ok.mp loaded
    exact .refl cache
  | cons provider rest ih =>
    rw [List.foldlM_cons,load_bind_ok] at loaded
    obtain ⟨middle,first,others⟩ := loaded
    by_cases on : provider.1 ∈ enabled
    · simp only [on,not_true_eq_false,↓reduceIte] at first
      simpa [on] using (loadFiles_adds first).append (ih others)
    · simp only [on,not_false_eq_true,↓reduceIte] at first
      obtain rfl := load_pure_ok.mp first
      simpa [on] using ih others

theorem loadWebhookCache_crds (loaded : (loadWebhookCache embedded cache).run = some (.ok cache')) :
    cache'.providerCRDs = cache.providerCRDs := by
  unfold loadWebhookCache at loaded
  generalize embedded.webhooks = files at loaded
  induction files generalizing cache with
  | nil =>
    obtain rfl := load_pure_ok.mp loaded
    rfl
  | cons file rest ih =>
    rw [List.foldlM_cons,load_bind_ok] at loaded
    obtain ⟨middle,first,others⟩ := loaded
    rw [ih others]
    unfold loadWebhook at first
    split at first
    · simp at first
    · rw [← load_pure_ok.mp first]

/-- A cache that was loaded holds the definitions of the enabled providers, and no others. -/
theorem loadCache_holds (loaded : (loadCache embedded enabled (newProviderCache scheme)).run = some (.ok cache)) :
    (∀ file ∈ enabledFiles embedded enabled, ∃ group obj, prepareCRD embedded file = .ok (group,obj)) ∧
    (∀ group obj, cache.Holds group obj ↔
      ∃ file ∈ enabledFiles embedded enabled, prepareCRD embedded file = .ok (group,obj)) ∧ cache.Filled := by
  rw [loadCache,load_bind_ok] at loaded
  obtain ⟨middle,crds,webhooks⟩ := loaded
  have adds := loadCRDCache_adds (load_adapt_ok.mp crds)
  have same := loadWebhookCache_crds (load_adapt_ok.mp webhooks)
  refine ⟨adds.prepared,?_,?_⟩
  · intro group obj
    have holds := adds.holds group obj
    simpa [Cache.Holds,newProviderCache,same] using holds
  · have filled := adds.filled (fun group => by simp [newProviderCache])
    intro group
    rw [same]
    exact filled group

end Loaded

section Discovery

/-- A list of the discovery, with the kinds of its resources. -/
structure APIResourceList where
  groupVersion : String
  kinds : List String

/-- `schema.ParseGroupVersion`: the group and the version. -/
def parseGroupVersion (gv : String) : Except String (String × String) :=
  if gv = "" ∨ gv = "/" then .ok ("","")
  else match split gv '/' with
    | [version] => .ok ("",version)
    | [group,version] => .ok (group,version)
    | _ => .error ("unexpected GroupVersion string: " ++ gv)

def containsAll (have_ need : List String) : Bool := need.all fun x => decide (x ∈ have_)

structure ValidatingResources where
  providerGroupResources : Map String (List String)
  providerGroups : List String

def getProviderGroupResources (cache : Cache) : Map String (List String) :=
  Map.assignAll (List.map crdKind) ∅ cache.providerCRDs

/-- The validator of a cache; the groups are collected in some order. -/
def validatorOf (cache : Cache) (collect : List String → List String) : ValidatingResources where
  providerGroupResources := getProviderGroupResources cache
  providerGroups := collect (getProviderGroupResources cache).keys

/-- The loop of `getAPIGroupNamesFromAPIResourceLists`, with the names so far. A list can be nil. -/
def getAPIGroupNamesFromAPIResourceLists (names : List String) : List (Option APIResourceList) →
    Except String (List String)
  | [] => .ok names
  | none :: rest => getAPIGroupNamesFromAPIResourceLists names rest
  | some list :: rest =>
    match parseGroupVersion list.groupVersion with
    | .error err => .error ("failed to parse group version \"" ++ list.groupVersion ++ "\": " ++ err)
    | .ok (group,_) =>
      if group ∈ names then getAPIGroupNamesFromAPIResourceLists names rest
      else getAPIGroupNamesFromAPIResourceLists (names ++ [group]) rest

def hasSameAPIGroups (v : ValidatingResources) (apiGroupNames : List String) : Bool :=
  containsAll apiGroupNames v.providerGroups

inductive Collected where
  /-- The method of a nil list. -/
  | panics
  | malformed
  | kinds (byGroup : Map String (List String))

/-- The first loop of `hasSameAPIGroupResources`. -/
def collectKinds (byGroup : Map String (List String)) : List (Option APIResourceList) → Collected
  | [] => .kinds byGroup
  | none :: _ => .panics
  | some list :: rest =>
    match parseGroupVersion list.groupVersion with
    | .error _ => .malformed
    | .ok (group,_) => collectKinds (byGroup.insert group (byGroup.index group ++ list.kinds)) rest

def hasSameAPIGroupResources (v : ValidatingResources) (lists : List (Option APIResourceList)) : Option Bool :=
  match collectKinds ∅ lists with
  | .panics => none
  | .malformed => some false
  | .kinds byGroup =>
    some (v.providerGroupResources.entries.all fun entry => containsAll (byGroup.index entry.1) entry.2)

inductive Poll where
  | established
  | waiting
  | failed (err : String)
  | panicked
  deriving DecidableEq

/-- One turn of the loop, with the answer of the discovery. -/
def poll (v : ValidatingResources) : Except String (List (Option APIResourceList)) → Poll
  | .error err => .failed ("failed to discover server groups: " ++ err)
  | .ok lists =>
    match getAPIGroupNamesFromAPIResourceLists [] lists with
    | .error err => .failed ("failed to get API group names from API resource lists: " ++ err)
    | .ok names =>
      if hasSameAPIGroups v names then
        match hasSameAPIGroupResources v lists with
        | none => .panicked
        | some true => .established
        | some false => .waiting
      else .waiting

/-- The loop over the answers; it is still waiting when they are used up. -/
def waitForProviderCRDsAreEstablished (v : ValidatingResources) :
    List (Except String (List (Option APIResourceList))) → Poll
  | [] => .waiting
  | answer :: rest =>
    match poll v answer with
    | .waiting => waitForProviderCRDsAreEstablished v rest
    | outcome => outcome

/-- The discovery lists a kind under a group. -/
def Lists (lists : List (Option APIResourceList)) (group kind : String) : Prop :=
  ∃ list version, some list ∈ lists ∧ parseGroupVersion list.groupVersion = .ok (group,version) ∧ kind ∈ list.kinds

/-- Every list is there and has a group. -/
def Parsed (lists : List (Option APIResourceList)) : Prop :=
  ∀ entry ∈ lists, ∃ list gv, entry = some list ∧ parseGroupVersion list.groupVersion = .ok gv

theorem containsAll_iff (xs ys : List String) : containsAll xs ys = true ↔ ∀ y ∈ ys, y ∈ xs := by
  simp [containsAll]

theorem parsed_cons (list : APIResourceList) (rest : List (Option APIResourceList)) :
    Parsed (some list :: rest) ↔ (∃ gv, parseGroupVersion list.groupVersion = .ok gv) ∧ Parsed rest := by
  simp [Parsed]

theorem getAPIGroupNames_ok (parsed : Parsed lists) (names : List String) :
    ∃ names', getAPIGroupNamesFromAPIResourceLists names lists = .ok names' ∧
      ∀ group, group ∈ names' ↔ group ∈ names ∨
        ∃ list version, some list ∈ lists ∧ parseGroupVersion list.groupVersion = .ok (group,version) := by
  induction lists generalizing names with
  | nil => exact ⟨names,rfl,by simp⟩
  | cons entry rest ih =>
    obtain ⟨list,⟨group,version⟩,rfl,gv⟩ := parsed entry (List.mem_cons_self ..)
    have later := fun names => ih (fun entry member => parsed entry (List.mem_cons_of_mem _ member)) names
    simp only [getAPIGroupNamesFromAPIResourceLists,gv]
    split
    · next known =>
      obtain ⟨names',done,members⟩ := later names
      refine ⟨names',done,fun group' => ?_⟩
      rw [members]
      constructor
      · rintro (present | ⟨list',version',member,parse⟩)
        · exact .inl present
        · exact .inr ⟨list',version',List.mem_cons_of_mem _ member,parse⟩
      · rintro (present | ⟨list',version',member,parse⟩)
        · exact .inl present
        · rcases List.mem_cons.mp member with same | member
          · cases same
            rw [gv] at parse
            cases parse
            exact .inl known
          · exact .inr ⟨list',version',member,parse⟩
    · obtain ⟨names',done,members⟩ := later (names ++ [group])
      refine ⟨names',done,fun group' => ?_⟩
      rw [members,List.mem_append,List.mem_singleton]
      constructor
      · rintro ((present | rfl) | ⟨list',version',member,parse⟩)
        · exact .inl present
        · exact .inr ⟨list,version,List.mem_cons_self ..,gv⟩
        · exact .inr ⟨list',version',List.mem_cons_of_mem _ member,parse⟩
      · rintro (present | ⟨list',version',member,parse⟩)
        · exact .inl (.inl present)
        · rcases List.mem_cons.mp member with same | member
          · cases same
            rw [gv] at parse
            cases parse
            exact .inl (.inr rfl)
          · exact .inr ⟨list',version',member,parse⟩

theorem lists_cons (gv : parseGroupVersion list.groupVersion = .ok (group,version)) (rest : List (Option APIResourceList))
    (group' kind : String) :
    Lists (some list :: rest) group' kind ↔ group' = group ∧ kind ∈ list.kinds ∨ Lists rest group' kind := by
  constructor
  · rintro ⟨list',version',member,parse,listed⟩
    rcases List.mem_cons.mp member with same | member
    · cases same
      rw [gv] at parse
      cases parse
      exact .inl ⟨rfl,listed⟩
    · exact .inr ⟨list',version',member,parse,listed⟩
  · rintro (⟨rfl,listed⟩ | ⟨list',version',member,parse,listed⟩)
    · exact ⟨list,version,List.mem_cons_self ..,gv,listed⟩
    · exact ⟨list',version',List.mem_cons_of_mem _ member,parse,listed⟩

/-- The kinds are collected exactly when every list has a group, and then all of them. -/
theorem collectKinds_kinds (lists : List (Option APIResourceList)) (byGroup : Map String (List String)) :
    (∀ m, collectKinds byGroup lists = .kinds m → Parsed lists) ∧
    (Parsed lists → ∃ m, collectKinds byGroup lists = .kinds m ∧
      ∀ group kind, kind ∈ m.index group ↔ kind ∈ byGroup.index group ∨ Lists lists group kind) := by
  induction lists generalizing byGroup with
  | nil =>
    refine ⟨fun _ _ => by simp [Parsed],fun _ => ⟨byGroup,rfl,fun group kind => ?_⟩⟩
    simp [Lists]
  | cons entry rest ih =>
    cases entry with
    | none =>
      refine ⟨nofun,fun parsed => ?_⟩
      obtain ⟨list,gv,same,_⟩ := parsed none (List.mem_cons_self ..)
      cases same
    | some list =>
      rw [parsed_cons]
      cases gv : parseGroupVersion list.groupVersion with
      | error err => exact ⟨fun m collected => by simp [collectKinds,gv] at collected,by simp⟩
      | ok parts =>
        obtain ⟨group,version⟩ := parts
        simp only [collectKinds,gv]
        obtain ⟨sound,complete⟩ := ih (byGroup.insert group (byGroup.index group ++ list.kinds))
        refine ⟨fun m collected => ⟨⟨_,rfl⟩,sound m collected⟩,?_⟩
        rintro ⟨_,parsed⟩
        obtain ⟨m,collected,members⟩ := complete parsed
        refine ⟨m,collected,fun group' kind => ?_⟩
        rw [members,lists_cons gv,Map.index,Map.lookup_insert_eq]
        by_cases same : group' = group
        · subst same
          simp [or_assoc]
        · simp [same,Map.index]

theorem lookup_getProviderGroupResources (cache : Cache) (group : String) :
    (getProviderGroupResources cache).lookup group = (cache.providerCRDs.lookup group).map (List.map crdKind) := by
  rw [getProviderGroupResources,Map.lookup_assignAll]
  simp

theorem mem_entries_iff (m : Map String (List String)) (group : String) (kinds : List String) :
    (⟨group,kinds⟩ : Sigma fun _ : String => List String) ∈ m.entries ↔ m.lookup group = some kinds :=
  (AList.mem_lookup_iff (a := group) (b := kinds) (s := m)).symm

/-- The validator asks for the kinds of all definitions that are cached. -/
theorem hasSameAPIGroupResources_iff (cache : Cache) (collect : List String → List String)
    (lists : List (Option APIResourceList)) :
    hasSameAPIGroupResources (validatorOf cache collect) lists = some true ↔
      Parsed lists ∧ ∀ group obj, cache.Holds group obj → Lists lists group (crdKind obj) := by
  unfold hasSameAPIGroupResources
  obtain ⟨sound,complete⟩ := collectKinds_kinds lists ∅
  split
  · next panics =>
    refine iff_of_false (by simp) fun ⟨parsed,_⟩ => ?_
    obtain ⟨m,collected,_⟩ := complete parsed
    rw [panics] at collected
    cases collected
  · next malformed =>
    refine iff_of_false (by simp) fun ⟨parsed,_⟩ => ?_
    obtain ⟨m,collected,_⟩ := complete parsed
    rw [malformed] at collected
    cases collected
  · next byGroup collected =>
    have parsed := sound byGroup collected
    obtain ⟨m,collected',members⟩ := complete parsed
    rw [collected] at collected'
    cases collected'
    simp only [Option.some.injEq,List.all_eq_true,containsAll_iff,parsed,true_and]
    constructor
    · rintro contained group obj ⟨objs,found,inside⟩
      have entry : (⟨group,objs.map crdKind⟩ : Sigma fun _ : String => List String) ∈
          (validatorOf cache collect).providerGroupResources.entries := by
        rw [mem_entries_iff,validatorOf,lookup_getProviderGroupResources,found]
        rfl
      have listed := contained _ entry _ (List.mem_map_of_mem inside)
      rw [members] at listed
      exact listed.resolve_left (by simp [Map.index,default])
    · rintro held ⟨group,kinds⟩ entry kind listed
      rw [mem_entries_iff,validatorOf,lookup_getProviderGroupResources,Option.map_eq_some_iff] at entry
      obtain ⟨objs,found,rfl⟩ := entry
      obtain ⟨obj,inside,rfl⟩ := List.mem_map.mp listed
      exact (members group _).mpr (.inr (held group obj ⟨objs,found,inside⟩))

theorem poll_established_iff (filled : cache.Filled) {collect : List String → List String}
    (collects : ∀ names, (collect names).Perm names) (lists : List (Option APIResourceList)) :
    poll (validatorOf cache collect) (.ok lists) = .established ↔
      Parsed lists ∧ ∀ group obj, cache.Holds group obj → Lists lists group (crdKind obj) := by
  rw [← hasSameAPIGroupResources_iff cache collect lists,poll]
  constructor
  · intro done
    split at done
    · cases done
    · split at done
      · split at done
        · cases done
        · next accepted => exact accepted
        · cases done
      · cases done
  · intro accepted
    obtain ⟨parsed,held⟩ := (hasSameAPIGroupResources_iff cache collect lists).mp accepted
    obtain ⟨names,read,members⟩ := getAPIGroupNames_ok parsed []
    have same : hasSameAPIGroups (validatorOf cache collect) names = true := by
      rw [hasSameAPIGroups,containsAll_iff]
      intro group listed
      have key : group ∈ (getProviderGroupResources cache).keys := (collects _).mem_iff.mp listed
      obtain ⟨kinds,found⟩ := Map.lookup_of_mem key
      rw [lookup_getProviderGroupResources,Option.map_eq_some_iff] at found
      obtain ⟨objs,cached,_⟩ := found
      cases objs with
      | nil => exact absurd cached (filled group)
      | cons obj rest =>
        obtain ⟨list,version,member,parse,_⟩ := held group obj ⟨_,cached,List.mem_cons_self ..⟩
        exact (members group).mpr (.inr ⟨list,version,member,parse⟩)
    simp [read,same,accepted]

theorem wait_established_iff (v : ValidatingResources)
    (answers : List (Except String (List (Option APIResourceList)))) :
    waitForProviderCRDsAreEstablished v answers = .established ↔
      ∃ earlier lists rest, answers = earlier ++ .ok lists :: rest ∧
        (∀ answer ∈ earlier, poll v answer = .waiting) ∧ poll v (.ok lists) = .established := by
  induction answers with
  | nil => simp [waitForProviderCRDsAreEstablished]
  | cons answer rest ih =>
    rw [waitForProviderCRDsAreEstablished]
    constructor
    · intro done
      split at done
      · next waits =>
        obtain ⟨earlier,lists,rest',rfl,waiting,established⟩ := ih.mp done
        refine ⟨answer :: earlier,lists,rest',rfl,?_,established⟩
        exact List.forall_mem_cons.mpr ⟨waits,waiting⟩
      · cases answer with
        | error err => simp [poll] at done
        | ok lists => exact ⟨[],lists,rest,rfl,nofun,done⟩
    · rintro ⟨earlier,lists,rest',same,waiting,established⟩
      cases earlier with
      | nil =>
        cases same
        rw [established]
      | cons first earlier =>
        cases same
        obtain ⟨waits,waiting⟩ := List.forall_mem_cons.mp waiting
        rw [waits]
        exact ih.mpr ⟨earlier,lists,rest',rfl,waiting,established⟩

/-- The controllers start exactly when the discovery comes to list the kinds of all definitions of the
enabled providers, in well-formed lists, after answers that left them waiting. -/
theorem controllers_await_definitions (embedded : Embedded Rest Fields)
    (loaded : (loadCache embedded enabled (newProviderCache scheme)).run = some (.ok cache))
    {collect : List String → List String} (collects : ∀ names, (collect names).Perm names)
    (answers : List (Except String (List (Option APIResourceList)))) :
    waitForProviderCRDsAreEstablished (validatorOf cache collect) answers = .established ↔
      ∃ earlier lists rest, answers = earlier ++ .ok lists :: rest ∧
        (∀ answer ∈ earlier, poll (validatorOf cache collect) answer = .waiting) ∧ Parsed lists ∧
        ∀ provider ∈ embedded.crds, provider.1 ∈ enabled → ∀ file ∈ provider.2,
          ∃ group obj, prepareCRD embedded file = .ok (group,obj) ∧ Lists lists group (crdKind obj) := by
  obtain ⟨prepared,holds,filled⟩ := loadCache_holds loaded
  have files : ∀ file, file ∈ enabledFiles embedded enabled ↔
      ∃ provider ∈ embedded.crds, provider.1 ∈ enabled ∧ file ∈ provider.2 := by
    simp [enabledFiles,and_assoc]
  have covered : ∀ lists, (∀ group obj, cache.Holds group obj → Lists lists group (crdKind obj)) ↔
      ∀ provider ∈ embedded.crds, provider.1 ∈ enabled → ∀ file ∈ provider.2,
        ∃ group obj, prepareCRD embedded file = .ok (group,obj) ∧ Lists lists group (crdKind obj) := by
    intro lists
    constructor
    · intro held provider member on file inside
      have listed := (files file).mpr ⟨provider,member,on,inside⟩
      obtain ⟨group,obj,ready⟩ := prepared file listed
      exact ⟨group,obj,ready,held group obj ((holds group obj).mpr ⟨file,listed,ready⟩)⟩
    · intro all group obj held
      obtain ⟨file,listed,ready⟩ := (holds group obj).mp held
      obtain ⟨provider,member,on,inside⟩ := (files file).mp listed
      obtain ⟨group',obj',ready',lists'⟩ := all provider member on file inside
      rw [ready] at ready'
      cases ready'
      exact lists'
  rw [wait_established_iff]
  simp only [poll_established_iff filled collects,covered]

/-- A release with one definition of the core provider and one of another. -/
def smallRelease : Embedded Unit Unit where
  crds := [(Config.providerAzure,[[1]]),(Config.providerCapi,[[2]])]
  webhooks := []
  decode file := .ok (.object [("spec",.object
    [("group",.string "cluster.x-k8s.io"),("names",.object [("kind",.string (if file = [1] then "Azure" else "Cluster"))])])])
  converter := ⟨fun _ => "",fun _ => .ok ⟨[],()⟩,fun _ => .error ""⟩

def smallCache : Cache := { newProviderCache ∅ with
  providerCRDs := (∅ : Map String (List Json)).insert "cluster.x-k8s.io" [.object [("spec",.object
    [("group",.string "cluster.x-k8s.io"),("names",.object [("kind",.string "Cluster")])])]] }

theorem smallRelease_loaded :
    (loadCache smallRelease [Config.providerCapi] (newProviderCache ∅)).run = some (.ok smallCache) := rfl

theorem controllers_await_definitions_small :
    ∃ earlier lists rest, [.ok [],.ok [some ⟨"cluster.x-k8s.io/v1beta2",["Cluster"]⟩]] = earlier ++ .ok lists :: rest ∧
      (∀ answer ∈ earlier, poll (validatorOf smallCache id) answer = .waiting) ∧ Parsed lists ∧
      ∀ provider ∈ smallRelease.crds, provider.1 ∈ [Config.providerCapi] → ∀ file ∈ provider.2,
        ∃ group obj, prepareCRD smallRelease file = .ok (group,obj) ∧ Lists lists group (crdKind obj) :=
  (controllers_await_definitions smallRelease smallRelease_loaded (fun _ => .refl _) _).mp (by decide +kernel)

end Discovery

section Selection

/-- The controllers of a provider. -/
inductive Module where
  | core
  | azure
  | talos
  | docker
  | scaleway
  | byot
  | kubevirt
  deriving DecidableEq

def providerMap : Map Config.Provider Module :=
  [(Config.providerCapi,Module.core),(Config.providerAzure,Module.azure),(Config.providerTalos,Module.talos),
    (Config.providerDocker,Module.docker),(Config.providerScaleway,Module.scaleway),(Config.providerByot,Module.byot),
    (Config.providerKubevirt,Module.kubevirt)].foldl (fun m entry => m.insert entry.1 entry.2) ∅

inductive BuildError where
  | unsupportedProvider
  deriving DecidableEq

/-- The loop of `Build`, with the modules so far. -/
def build (modules : Map Config.Provider Module) : List Config.Provider → Except BuildError (Map Config.Provider Module)
  | [] => .ok modules
  | provider :: rest =>
    match providerMap.lookup provider with
    | none => .error .unsupportedProvider
    | some found => build (modules.insert provider found) rest

theorem lookup_providerMap (provider : Config.Provider) :
    (providerMap.lookup provider).isSome ↔ provider ∈ Config.getAllProviders := by
  simp only [providerMap,List.foldl_cons,List.foldl_nil,Map.lookup_insert_eq,Map.lookup_empty,Config.getAllProviders,
    List.mem_cons,List.not_mem_nil,or_false]
  grind

/-- The modules that are built are those of the listed providers, and every listed one must be known. -/
theorem build_ok_iff (modules : Map Config.Provider Module) (providers : List Config.Provider) :
    ((∃ built, build modules providers = .ok built) ↔ ∀ provider ∈ providers, provider ∈ Config.getAllProviders) ∧
    ∀ built, build modules providers = .ok built →
      ∀ provider, (built.lookup provider).isSome ↔ (modules.lookup provider).isSome ∨ provider ∈ providers := by
  induction providers generalizing modules with
  | nil =>
    refine ⟨by simp [build],?_⟩
    rintro _ ⟨⟩
    simp
  | cons provider rest ih =>
    rw [build]
    split
    · next unknown =>
      have foreign : provider ∉ Config.getAllProviders := by
        rw [← lookup_providerMap,unknown]
        simp
      exact ⟨by simp [foreign],nofun⟩
    · next found known =>
      have listed : provider ∈ Config.getAllProviders := by
        rw [← lookup_providerMap,known]
        rfl
      obtain ⟨built,members⟩ := ih (modules.insert provider found)
      refine ⟨by simpa [listed] using built,?_⟩
      intro result done provider'
      rw [members result done provider',Map.lookup_insert_eq]
      by_cases same : provider' = provider <;> simp [same]

theorem mem_getInfrastructureProviders (env : Config.Environ) (provider : Config.Provider) :
    provider ∈ Config.getInfrastructureProviders env ↔
      provider = Config.providerCapi ∨ provider = Config.providerTalos ∨
      if env Config.envInfrastructureProviders = "" then provider ∈ Config.getAllProviders
      else ∃ entry ∈ split (env Config.envInfrastructureProviders) ',', trimSpace entry = provider := by
  have added : ∀ (providers : List Config.Provider) (p q : Config.Provider),
      q ∈ Config.withProvider providers p ↔ q = p ∨ q ∈ providers := by
    intro providers p q
    unfold Config.withProvider
    split
    · next present =>
      constructor
      · exact .inr
      · rintro (rfl | listed)
        · exact present
        · exact listed
    · simp [or_comm]
  simp only [Config.getInfrastructureProviders,added]
  split <;> simp [or_left_comm]

/-- Controllers and definitions are selected alike: with the environment of the process, the controllers
are built exactly when every name in the list is known, and then a definition is cached exactly when
the controllers of its provider are built. -/
theorem controllers_match_definitions (env : Config.Environ) (embedded : Embedded Rest Fields)
    (loaded : (loadCache embedded (Config.getInfrastructureProviders env) (newProviderCache scheme)).run =
      some (.ok cache)) :
    ((∃ built, build ∅ (Config.getInfrastructureProviders env) = .ok built) ↔
      env Config.envInfrastructureProviders = "" ∨
      ∀ entry ∈ split (env Config.envInfrastructureProviders) ',', trimSpace entry ∈ Config.getAllProviders) ∧
    ∀ built, build ∅ (Config.getInfrastructureProviders env) = .ok built →
      (built.lookup Config.providerCapi).isSome ∧ (built.lookup Config.providerTalos).isSome ∧
      ∀ group obj, cache.Holds group obj ↔ ∃ provider ∈ embedded.crds, (built.lookup provider.1).isSome ∧
        ∃ file ∈ provider.2, prepareCRD embedded file = .ok (group,obj) := by
  obtain ⟨known,members⟩ := build_ok_iff ∅ (Config.getInfrastructureProviders env)
  have core : Config.providerCapi ∈ Config.getAllProviders ∧ Config.providerTalos ∈ Config.getAllProviders := by decide
  refine ⟨?_,?_⟩
  · rw [known]
    simp only [mem_getInfrastructureProviders]
    split
    · next unset =>
      simp only [unset,true_or,iff_true]
      rintro provider (rfl | rfl | listed)
      · exact core.1
      · exact core.2
      · exact listed
    · next set_ =>
      simp only [set_,false_or]
      constructor
      · exact fun all entry listed => all _ (.inr (.inr ⟨entry,listed,rfl⟩))
      · rintro all provider (rfl | rfl | ⟨entry,listed,rfl⟩)
        · exact core.1
        · exact core.2
        · exact all entry listed
  · intro built done
    have chosen : ∀ provider, (built.lookup provider).isSome ↔ provider ∈ Config.getInfrastructureProviders env := by
      intro provider
      rw [members built done provider]
      simp
    refine ⟨(chosen _).mpr ((mem_getInfrastructureProviders env _).mpr (.inl rfl)),
      (chosen _).mpr ((mem_getInfrastructureProviders env _).mpr (.inr (.inl rfl))),?_⟩
    intro group obj
    rw [(loadCache_holds loaded).2.1]
    simp only [chosen,enabledFiles,List.mem_flatMap,List.mem_filter,decide_eq_true_eq]
    constructor
    · rintro ⟨file,⟨provider,⟨member,on⟩,inside⟩,ready⟩
      exact ⟨provider,member,on,file,inside,ready⟩
    · rintro ⟨provider,member,on,file,inside,ready⟩
      exact ⟨file,⟨provider,⟨member,on⟩,inside⟩,ready⟩

def capiOnly : Config.Environ := fun name => if name = Config.envInfrastructureProviders then " capi" else ""

theorem capiOnly_providers : Config.getInfrastructureProviders capiOnly = [Config.providerCapi,Config.providerTalos] := by
  decide +kernel

theorem controllers_match_definitions_capiOnly :
    ∃ built, build ∅ (Config.getInfrastructureProviders capiOnly) = .ok built ∧
      ∀ group obj, smallCache.Holds group obj ↔ ∃ provider ∈ smallRelease.crds, (built.lookup provider.1).isSome ∧
        ∃ file ∈ provider.2, prepareCRD smallRelease file = .ok (group,obj) := by
  have loaded : (loadCache smallRelease (Config.getInfrastructureProviders capiOnly) (newProviderCache ∅)).run =
      some (.ok smallCache) := by
    rw [capiOnly_providers]
    rfl
  obtain ⟨known,matched⟩ := controllers_match_definitions capiOnly smallRelease loaded
  obtain ⟨built,done⟩ := known.mpr (.inr (by decide +kernel))
  exact ⟨built,done,(matched built done).2.2⟩

end Selection

end Kommodity.Provider
