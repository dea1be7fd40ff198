import Kommodity.StoreCalls

/-! Callers that agree on the content of one object. Whoever finds none, or one without content,
makes a content of its own and tries to write it; the store lets one of them through. `Next` is the
discipline the calls have to keep, and `agreement` what follows for any program that keeps it. -/
namespace WriteOnce

open Versioned Interaction Transition StoreCalls

variable {K V O E ε R I : Type} {B : O → Type} [DecidableEq K]

/-- The object a caller has read last, and the value it was told it has written. -/
structure Notes (V : Type) where
  seen : Option (Entry V)
  wrote : Option V

def note (h : Notes V) : (c : Call K V O) → Answer E B c → Notes V
  | .get _,a => { h with seen := a.toOption }
  | .create _ value,a => { h with wrote := a.toOption.map fun _ => value }
  | .update _ entry,a => { h with wrote := a.toOption.map fun _ => entry.value }
  | _,_ => h

/-- A result, with the content that was stored when it was returned. -/
structure Return (ε R : Type) where
  result : Except ε R
  stored : Option R

structure Shared (K V ε R : Type) [DecidableEq K] where
  store : Store K V
  returned : List (Return ε R)

section Discipline

variable (k : K) (content : V → Option R)

def storedContent (s : Store K V) : Option R := (s.get k).bind fun entry => content entry.value

/-- All calls are about one object, and an update replaces one that was read and has no content. -/
def Next (h : Notes V) : Call K V O → Prop
  | .get key => key = k
  | .create key _ => key = k
  | .update key entry => key = k ∧
    ∃ seen, h.seen = some seen ∧ seen.version = entry.version ∧ content seen.value = none
  | .delete _ => False
  | _ => True

/-- A result is the content of what was read or written last. -/
def Returns (h : Notes V) (result : Except ε R) : Prop :=
  ∀ r, result = .ok r →
    (∃ seen, h.seen = some seen ∧ content seen.value = some r) ∨
    ∃ value, h.wrote = some value ∧ content value = some r

theorem returns_error (h : Notes V) (err : ε) : Returns content h (.error err) := nofun

/-- Any number of callers, each calling again and again. -/
def callers (refuse : Versioned.Error → E) (program : I → Program (Call K V O) (Answer E B) (Except ε R)) :
    Threads I (Shared K V ε R) (Call K V O) (Answer E B) (Reply E B) Empty (Notes V) (Except ε R) where
  program := program
  fresh := ⟨none,none⟩
  note := note
  ready _ := True
  begin s := s
  answerable _ _ _ _ := True
  serve s c f := ((serve refuse s.store c f).1,{ s with store := (serve refuse s.store c f).2 })
  finish s _ result := { s with returned := ⟨result,storedContent k content s.store⟩ :: s.returned }
  possible _ e := e.elim
  disturb _ e := e.elim

/-- What was read is as long as it carries its version, and a content that was read or written is
the stored one. -/
structure Held (s : Shared K V ε R) (h : Notes V) : Prop where
  current : ∀ seen, h.seen = some seen → s.store.Current k seen
  seen : ∀ seen r, h.seen = some seen → content seen.value = some r → storedContent k content s.store = some r
  wrote : ∀ value r, h.wrote = some value → content value = some r → storedContent k content s.store = some r

/-- Every content that was returned was the stored one, and still is; so is one that is settled. -/
structure Inv (settled : Option R) (s : Shared K V ε R) : Prop where
  returned : ∀ entry ∈ s.returned, ∀ r, entry.result = .ok r →
    entry.stored = some r ∧ storedContent k content s.store = some r
  settled : ∀ r, settled = some r → storedContent k content s.store = some r

end Discipline

variable {k : K} {content : V → Option R} {refuse : Versioned.Error → E}

theorem storedContent_put (s : Store K V) (value : V) :
    storedContent k content (s.put k value) = content value := by
  simp [storedContent]

section Step

variable {s : Shared K V ε R} {c : Call K V O} (refuse : Versioned.Error → E) (f : Reply E B)

/-- What an answer does to the store: nothing, or a value with content takes the place of none. -/
theorem serve_cases (held : Held k content s h) (permitted : Next k content h c) :
    ((serve refuse s.store c f).2 = s.store ∧
      ∀ value, (note h c (serve refuse s.store c f).1).wrote = some value → h.wrote = some value) ∨
    ∃ value, storedContent k content s.store = none ∧ (serve refuse s.store c f).2 = s.store.put k value ∧
      ∀ value', (note h c (serve refuse s.store c f).1).wrote = some value' → value' = value := by
  cases c with
  | get key => exact .inl ⟨rfl,fun _ wrote => wrote⟩
  | list select => exact .inl ⟨rfl,fun _ wrote => wrote⟩
  | other call => exact .inl ⟨rfl,fun _ wrote => wrote⟩
  | delete key => exact permitted.elim
  | create key value =>
    obtain rfl : key = k := permitted
    rcases write_create refuse s.store key value f.fault with ⟨same,failed⟩ | ⟨free,after⟩
    · exact .inl ⟨same,by simp [note,serve,failed]⟩
    · refine .inr ⟨value,by simp [storedContent,free],after,?_⟩
      intro value' wrote
      simp only [note,Option.map_eq_some_iff] at wrote
      obtain ⟨_,_,rfl⟩ := wrote
      rfl
  | update key entry =>
    obtain ⟨rfl,seen,read,version,empty⟩ := permitted
    rcases write_update refuse s.store key entry f.fault with ⟨same,failed⟩ | ⟨⟨e,found,version'⟩,after⟩
    · exact .inl ⟨same,by simp [note,serve,failed]⟩
    · have unchanged := (held.current seen read).2 e found (version'.trans version.symm)
      refine .inr ⟨entry.value,by simp [storedContent,found,unchanged,empty],after,?_⟩
      intro value' wrote
      simp only [note,Option.map_eq_some_iff] at wrote
      obtain ⟨_,_,rfl⟩ := wrote
      rfl

theorem serve_settled (held : Held k content s h) (permitted : Next k content h c)
    (stored : storedContent k content s.store = some r) :
    storedContent k content (serve refuse s.store c f).2 = some r := by
  rcases serve_cases refuse f held permitted with ⟨same,_⟩ | ⟨value,empty,_,_⟩
  · rw [same]; exact stored
  · rw [empty] at stored; cases stored

theorem serve_current (held : Held k content s h) (permitted : Next k content h c)
    (current : s.store.Current k seen) : (serve refuse s.store c f).2.Current k seen := by
  rcases serve_cases refuse f held permitted with ⟨same,_⟩ | ⟨value,_,after,_⟩
  · rw [same]; exact current
  · rw [after]; exact current_put current k value

theorem Held.others (held : Held k content s h) (permitted : Next k content h c)
    (held' : Held k content s h') :
    Held k content { s with store := (serve refuse s.store c f).2 } h' where
  current seen read := serve_current refuse f held permitted (held'.current seen read)
  seen seen r read isContent := serve_settled refuse f held permitted (held'.seen seen r read isContent)
  wrote value r wrote isContent := serve_settled refuse f held permitted (held'.wrote value r wrote isContent)

theorem Held.answered (held : Held k content s h) (permitted : Next k content h c) :
    Held k content { s with store := (serve refuse s.store c f).2 }
      (note h c (serve refuse s.store c f).1) := by
  have kept := held.others refuse f permitted held
  have wrote : ∀ value r, (note h c (serve refuse s.store c f).1).wrote = some value →
      content value = some r → storedContent k content (serve refuse s.store c f).2 = some r := by
    intro value r wrote isContent
    rcases serve_cases refuse f held permitted with ⟨same,earlier⟩ | ⟨value',_,after,only⟩
    · rw [same]
      exact held.wrote value r (earlier value wrote) isContent
    · rw [after,storedContent_put,← only value wrote]
      exact isContent
  cases c with
  | get key =>
    cases permitted
    have found : ∀ seen, (note h (.get k) (serve refuse s.store (.get k) f).1).seen = some seen →
        s.store.get k = some seen := fun seen answered => read_get refuse answered
    refine ⟨fun seen answered => current_of_get (found seen answered),?_,wrote⟩
    intro seen r answered isContent
    change storedContent k content s.store = some r
    simp [storedContent,found seen answered,isContent]
  | create key value => exact ⟨kept.current,kept.seen,wrote⟩
  | update key entry => exact ⟨kept.current,kept.seen,wrote⟩
  | list select => exact ⟨kept.current,kept.seen,wrote⟩
  | delete key => exact permitted.elim
  | other call => exact ⟨kept.current,kept.seen,wrote⟩

end Step

theorem callers_keep (program : I → Program (Call K V O) (Answer E B) (Except ε R)) (settled : Option R) :
    (callers k content refuse program).Keeps (Next k content) (Returns content) (Inv k content settled)
      (Held k content) where
  begins _ inv _ := ⟨inv,nofun,nofun,nofun⟩
  answers s h c f inv held permitted _ := by
    refine ⟨⟨?_,?_⟩,held.answered refuse f permitted⟩
    · intro entry member r result
      obtain ⟨stored,now⟩ := inv.returned entry member r result
      exact ⟨stored,serve_settled refuse f held permitted now⟩
    · exact fun r isSettled => serve_settled refuse f held permitted (inv.settled r isSettled)
  finishes s h result inv held returns := by
    refine ⟨?_,inv.settled⟩
    intro entry member r isResult
    rcases List.mem_cons.mp member with rfl | earlier
    · have stored : storedContent k content s.store = some r := by
        rcases returns r isResult with ⟨seen,read,isContent⟩ | ⟨value,wrote,isContent⟩
        · exact held.seen seen r read isContent
        · exact held.wrote value r wrote isContent
      exact ⟨stored,stored⟩
    · exact inv.returned entry earlier r isResult
  disturbs _ e := e.elim
  begins_other _ _ _ _ held := held
  answers_other _ _ _ _ f _ _ held permitted _ held' := held.others refuse f permitted held'
  finishes_other _ _ _ _ _ _ _ _ held := ⟨held.current,held.seen,held.wrote⟩

variable [DecidableEq I] {program : I → Program (Call K V O) (Answer E B) (Except ε R)}

/-- Every content that callers of the discipline return is the one that is stored, at the time and
from then on. -/
theorem agreement (disciplined : ∀ i, (program i).Traced note (Next k content) (Returns content) ⟨none,none⟩)
    (run : (callers k content refuse program).system.Run (idle ⟨start,[]⟩) actions t) :
    ∀ entry ∈ t.shared.returned, ∀ r, entry.result = .ok r →
      entry.stored = some r ∧ storedContent k content t.shared.store = some r := by
  have initial : Inv k content none (⟨start,[]⟩ : Shared K V ε R) := ⟨by simp,nofun⟩
  exact ((callers_keep program none).run disciplined (good_idle initial) run).1.returned

/-- A content that is stored in the course of a run is stored for the rest of it. -/
theorem settled (disciplined : ∀ i, (program i).Traced note (Next k content) (Returns content) ⟨none,none⟩)
    (first : (callers k content refuse program).system.Run (idle ⟨start,[]⟩) actions s)
    (rest : (callers k content refuse program).system.Run s actions' t)
    (stored : storedContent k content s.shared.store = some r) :
    storedContent k content t.shared.store = some r := by
  have initial : Inv k content none (⟨start,[]⟩ : Shared K V ε R) := ⟨by simp,nofun⟩
  obtain ⟨inv,threads⟩ := (callers_keep program none).run disciplined (good_idle initial) first
  have from' : Inv k content (some r) s.shared := ⟨inv.returned,fun _ same => by cases same; exact stored⟩
  exact ((callers_keep program (some r)).run disciplined ⟨from',threads⟩ rest).1.settled r rfl

end WriteOnce
