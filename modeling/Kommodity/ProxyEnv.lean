import Kommodity.GoText

/-! The environment variables through which Talos clients find the proxy. `NO_PROXY` is a list of
entries between commas, but whether a default is in it is asked of the text as a whole. -/
namespace Kommodity.TalosProxy

open Go

/-- The environment of a process. No value has a NUL in it. -/
structure Environ where
  vars : Map String String
  plain : ∀ key value, vars.lookup key = some value → '\x00' ∉ value.toList

/-- `EINVAL`. -/
inductive SetenvError where
  | invalidArgument
  deriving DecidableEq

inductive ProxyEnvError where
  | setenv (cause : SetenvError)
  /-- `ErrProxyAlreadyConfigured`, with the two values of its message. -/
  | proxyAlreadyConfigured (existing desired : String)
  deriving DecidableEq

namespace Environ

/-- `os.Getenv`: a variable that is not set reads as an empty one. -/
def getenv (env : Environ) (key : String) : String := env.vars.index key

@[simp] theorem getenv_insert (env : Environ) (plain) :
    getenv ⟨env.vars.insert key value,plain⟩ other = if other = key then value else env.getenv other := by
  simp only [getenv,Map.index,Map.lookup_insert_eq]
  split <;> rfl

/-- `os.Setenv`. -/
def setenv (env : Environ) (key value : String) : Option SetenvError × Environ :=
  if invalid : key = "" ∨ '=' ∈ key.toList ∨ '\x00' ∈ key.toList ∨ '\x00' ∈ value.toList then
    (some .invalidArgument,env)
  else
    (none,⟨env.vars.insert key value,by
      intro k v found
      rw [Map.lookup_insert_eq] at found
      split at found
      · cases found
        exact fun nul => invalid (.inr (.inr (.inr nul)))
      · exact env.plain k v found⟩)

theorem getenv_plain (env : Environ) (key : String) : '\x00' ∉ (env.getenv key).toList := by
  cases found : env.vars.lookup key with
  | none => simp [getenv,Map.index,found]
  | some value =>
    rw [getenv,Map.index_of_lookup found]
    exact env.plain key value found

/-- A name that `os.Setenv` accepts. -/
def Named (key : String) : Prop := key ≠ "" ∧ '=' ∉ key.toList ∧ '\x00' ∉ key.toList

theorem setenv_none_iff (named : Named key) (env : Environ) (value : String) :
    (env.setenv key value).1 = none ↔ '\x00' ∉ value.toList := by
  obtain ⟨filled,mark,nul⟩ := named
  by_cases plain : '\x00' ∈ value.toList
  · simp [setenv,plain]
  · simp [setenv,plain,filled,mark,nul]

theorem getenv_setenv {env : Environ} (ok : (env.setenv key value).1 = none) (other : String) :
    (env.setenv key value).2.getenv other = if other = key then value else env.getenv other := by
  unfold setenv at *
  split at ok
  · cases ok
  · next valid => simp [valid]

end Environ

def envHTTPSProxy : String := "HTTPS_PROXY"

def envNoProxy : String := "NO_PROXY"

def noProxyDefaults : String := "localhost,127.0.0.0/8"

/-- What `appendNoProxy` joins: the value as it is, and the defaults that do not occur in it. -/
def noProxyParts (current : String) : List String :=
  let parts := if current ≠ "" then [current] else []
  (split noProxyDefaults ',').foldl
    (fun parts entry => if contains current entry then parts else parts ++ [entry]) parts

def appendNoProxy (env : Environ) : Option (Err ProxyEnvError) × Environ :=
  match env.setenv envNoProxy (join (noProxyParts (env.getenv envNoProxy)) ",") with
  | (some cause,env) => (some (.wrap ("failed to set " ++ envNoProxy) (.of (.setenv cause))),env)
  | (none,env) => (none,env)

def setProxyEnv (env : Environ) (listenAddr : String) : Option (Err ProxyEnvError) × Environ :=
  let existing := env.getenv envHTTPSProxy
  if existing ≠ "" then (some (.of (.proxyAlreadyConfigured existing listenAddr)),env)
  else
    match env.setenv envHTTPSProxy ("http://" ++ listenAddr) with
    | (some cause,env) => (some (.wrap ("failed to set " ++ envHTTPSProxy) (.of (.setenv cause))),env)
    | (none,env) =>
      match appendNoProxy env with
      | (some err,env) => (some (.wrap ("failed to update " ++ envNoProxy) err),env)
      | (none,env) => (none,env)

/-- The entries of `NO_PROXY` as clients read them: between commas, without the space around them. -/
def entries (value : String) : List String := ((split value ',').map trimSpace).filter (· ≠ "")

/-- The addresses that bypass the proxy by default. -/
def defaults : List String := ["localhost","127.0.0.0/8"]

theorem entries_join (filled : parts ≠ []) : entries (join parts ",") = parts.flatMap entries := by
  have comma : "," = String.singleton ',' := rfl
  rw [entries,comma,split_join parts filled,List.map_flatMap,List.filter_flatMap]
  rfl

theorem foldl_append_unless (p : α → Bool) (start l : List α) :
    l.foldl (fun parts a => if p a then parts else parts ++ [a]) start = start ++ l.filter (!p ·) := by
  induction l generalizing start with
  | nil => simp
  | cons a l ih =>
    rw [List.foldl_cons,ih]
    cases h : p a <;> simp [h]

theorem noProxyParts_eq (current : String) : noProxyParts current =
    (if current ≠ "" then [current] else []) ++ defaults.filter (!contains current ·) := by
  have listed : split noProxyDefaults ',' = defaults := by decide +kernel
  rw [noProxyParts,listed,foldl_append_unless]

theorem noProxyParts_filled (current : String) : noProxyParts current ≠ [] := by
  rw [noProxyParts_eq]
  by_cases empty : current = ""
  · subst empty
    decide +kernel
  · simp [empty]

/-- The entries after the call: those before it, and the defaults that do not occur in the text. -/
theorem entries_noProxyParts (current : String) : entries (join (noProxyParts current) ",") =
    entries current ++ defaults.filter (!contains current ·) := by
  have alone : ∀ d ∈ defaults, entries d = [d] := by decide +kernel
  have kept : (defaults.filter (!contains current ·)).flatMap entries =
      defaults.filter (!contains current ·) := by
    rw [List.flatMap_congr (g := fun d => [d]) (fun d listed => alone d (List.mem_of_mem_filter listed))]
    simp
  rw [entries_join (noProxyParts_filled current),noProxyParts_eq,List.flatMap_append,kept]
  by_cases empty : current = ""
  · subst empty
    rfl
  · simp [empty]

/-- Every default occurs in the text after the call. -/
theorem contains_noProxyParts (current : String) (listed : d ∈ defaults) :
    contains (join (noProxyParts current) ",") d = true := by
  by_cases inside : contains current d
  · have filled : current ≠ "" := by
      rintro rfl
      revert d
      decide +kernel
    refine contains_trans (contains_join ?_ ",") inside
    simp [noProxyParts_eq,filled]
  · refine contains_join ?_ ","
    rw [noProxyParts_eq]
    exact List.mem_append_right _ (List.mem_filter.mpr ⟨listed,by simpa using inside⟩)

theorem join_noProxyParts_again (current : String) :
    join (noProxyParts (join (noProxyParts current) ",")) "," = join (noProxyParts current) "," := by
  have none' : defaults.filter (!contains (join (noProxyParts current) ",") ·) = [] := by
    rw [List.filter_eq_nil_iff]
    intro d listed
    simp [contains_noProxyParts current listed]
  have filled : join (noProxyParts current) "," ≠ "" := by
    intro empty
    have inside := contains_noProxyParts current (d := "localhost") (by decide)
    rw [empty] at inside
    revert inside
    decide +kernel
  rw [noProxyParts_eq,none',if_pos filled]
  simp [join]

theorem noProxyParts_plain (env : Environ) :
    '\x00' ∉ (join (noProxyParts (env.getenv envNoProxy)) ",").toList := by
  intro nul
  have plain : ∀ d ∈ defaults, '\x00' ∉ d.toList := by decide
  rcases mem_join nul with mark | ⟨part,listed,inside⟩
  · revert mark
    decide
  · rw [noProxyParts_eq] at listed
    rcases List.mem_append.mp listed with current | default
    · split at current
      · rw [List.mem_singleton.mp current] at inside
        exact env.getenv_plain envNoProxy inside
      · cases current
    · exact plain part (List.mem_of_mem_filter default) inside

theorem appendNoProxy_spec (env : Environ) : (appendNoProxy env).1 = none ∧
    ∀ key, (appendNoProxy env).2.getenv key = if key = envNoProxy then
      join (noProxyParts (env.getenv envNoProxy)) "," else env.getenv key := by
  have named : Environ.Named envNoProxy := by simp [Environ.Named,envNoProxy]
  have plain := noProxyParts_plain env
  unfold appendNoProxy
  generalize join (noProxyParts (env.getenv envNoProxy)) "," = value at plain ⊢
  have ok := (env.setenv_none_iff named value).mpr plain
  have read := Environ.getenv_setenv ok
  cases set : env.setenv envNoProxy value with
  | mk err after =>
    rw [set] at ok read
    cases err with
    | none => exact ⟨rfl,read⟩
    | some cause => cases ok

/-- `SetProxyEnv` succeeds when no proxy is configured and the address can be set; the entries of
`NO_PROXY` are then those before, and the defaults that did not occur in its text. -/
theorem setProxyEnv_ok (ok : (setProxyEnv env listenAddr).1 = none) :
    env.getenv envHTTPSProxy = "" ∧
    (setProxyEnv env listenAddr).2.getenv envHTTPSProxy = "http://" ++ listenAddr ∧
    entries ((setProxyEnv env listenAddr).2.getenv envNoProxy) =
      entries (env.getenv envNoProxy) ++ defaults.filter (!contains (env.getenv envNoProxy) ·) := by
  have other : envNoProxy ≠ envHTTPSProxy := by decide
  unfold setProxyEnv at *
  dsimp only at *
  split at ok
  · cases ok
  · next unset =>
    rw [if_neg unset]
    split at ok
    · cases ok
    · next after set =>
      have value := Environ.getenv_setenv (congrArg Prod.fst set)
      rw [set] at value
      obtain ⟨done,read⟩ := appendNoProxy_spec after
      split at ok
      · cases ok
      · next final appended =>
        rw [appended] at read
        refine ⟨not_not.mp unset,?_,?_⟩
        · rw [read,if_neg other.symm,value,if_pos rfl]
        · rw [read,if_pos rfl,value,if_neg other,entries_noProxyParts]

/-- The defaults are entries of their own after the call exactly when each of them that occurs in the
text before it was an entry; the entries before it stay, and a second call changes nothing. -/
theorem appendNoProxy_iff (env : Environ) :
    ((appendNoProxy env).1 = none ∧
      (∀ d ∈ defaults, d ∈ entries ((appendNoProxy env).2.getenv envNoProxy)) ∧
      entries (env.getenv envNoProxy) <+: entries ((appendNoProxy env).2.getenv envNoProxy) ∧
      (appendNoProxy (appendNoProxy env).2).2.getenv envNoProxy = (appendNoProxy env).2.getenv envNoProxy) ↔
    ∀ d ∈ defaults, contains (env.getenv envNoProxy) d = true → d ∈ entries (env.getenv envNoProxy) := by
  obtain ⟨ok,read⟩ := appendNoProxy_spec env
  have value := read envNoProxy
  have again := (appendNoProxy_spec (appendNoProxy env).2).2 envNoProxy
  rw [if_pos rfl] at value again
  rw [value] at again ⊢
  rw [again,entries_noProxyParts]
  constructor
  · rintro ⟨-,added,-,-⟩ d listed inside
    rcases List.mem_append.mp (added d listed) with old | new
    · exact old
    · simp [inside] at new
  · intro entry
    refine ⟨ok,?_,List.prefix_append ..,join_noProxyParts_again _⟩
    intro d listed
    by_cases inside : contains (env.getenv envNoProxy) d = true
    · exact List.mem_append_left _ (entry d listed inside)
    · exact List.mem_append_right _ (List.mem_filter.mpr ⟨listed,by simpa using inside⟩)

/-- An environment in which a default is a part of a longer entry. -/
def namesakeEnviron : Environ := ⟨(∅ : Map String String).insert envNoProxy "mylocalhost.example",by
  intro key value found
  rw [Map.lookup_insert_eq] at found
  split at found
  · cases found
    decide
  · cases found⟩

theorem localhost_not_mem_entries :
    "localhost" ∉ entries ((appendNoProxy namesakeEnviron).2.getenv envNoProxy) := by
  decide +kernel

end Kommodity.TalosProxy
