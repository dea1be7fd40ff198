import Mathlib.Data.List.Nodup

/-! Authenticated encryption with associated data, idealised over a table of the calls that
were made: a text opens exactly when a call under the same key, nonce and associated data
produced it. The table belongs to a run, so the idealisation says nothing about texts that
nobody ever sealed except that they do not open. -/
namespace Aead

structure Scheme (Key Nonce Plain Data Text : Type) where
  sealText : Key → Nonce → Plain → Data → Text
  openText : Key → Nonce → Text → Data → Option Plain

/-- One sealing call. -/
structure Call (Key Nonce Plain Data : Type) where
  key : Key
  nonce : Nonce
  plaintext : Plain
  data : Data

variable {Key Nonce Plain Data Text : Type} {scheme : Scheme Key Nonce Plain Data Text}
  {calls : List (Call Key Nonce Plain Data)}

def Call.text (scheme : Scheme Key Nonce Plain Data Text) (c : Call Key Nonce Plain Data) : Text :=
  scheme.sealText c.key c.nonce c.plaintext c.data

/-- The scheme opens what the calls sealed, and nothing else. -/
def Ideal (scheme : Scheme Key Nonce Plain Data Text)
    (calls : List (Call Key Nonce Plain Data)) : Prop :=
  ∀ key nonce text data plaintext, scheme.openText key nonce text data = some plaintext ↔
    (⟨key,nonce,plaintext,data⟩ : Call Key Nonce Plain Data) ∈ calls ∧
      scheme.sealText key nonce plaintext data = text

theorem Ideal.opens (ideal : Ideal scheme calls) (member : c ∈ calls) :
    scheme.openText c.key c.nonce (c.text scheme) c.data = some c.plaintext :=
  (ideal _ _ _ _ _).mpr ⟨member,rfl⟩

theorem Ideal.origin (ideal : Ideal scheme calls)
    (opened : scheme.openText key nonce text data = some plaintext) :
    ∃ c ∈ calls, c.key = key ∧ c.nonce = nonce ∧ c.plaintext = plaintext ∧ c.data = data ∧
      c.text scheme = text := by
  obtain ⟨member,produced⟩ := (ideal _ _ _ _ _).mp opened
  exact ⟨_,member,rfl,rfl,rfl,rfl,produced⟩

/-- With fresh nonces a text that opens under a call's nonce is that call's text, and opens
to its plaintext, whatever key and associated data it was opened with. -/
theorem Ideal.origin_of_nonce (ideal : Ideal scheme calls) (fresh : (calls.map Call.nonce).Nodup)
    (member : c ∈ calls) (opened : scheme.openText key c.nonce text data = some plaintext) :
    c.key = key ∧ c.plaintext = plaintext ∧ c.data = data ∧ c.text scheme = text := by
  obtain ⟨d,listed,hkey,hnonce,hplain,hdata,htext⟩ := ideal.origin opened
  obtain rfl := List.inj_on_of_nodup_map fresh listed member hnonce
  exact ⟨hkey,hplain,hdata,htext⟩

theorem Ideal.origin_of_key (ideal : Ideal scheme calls) (fresh : (calls.map Call.key).Nodup)
    (member : c ∈ calls) (opened : scheme.openText c.key nonce text data = some plaintext) :
    c.nonce = nonce ∧ c.plaintext = plaintext ∧ c.data = data ∧ c.text scheme = text := by
  obtain ⟨d,listed,hkey,hnonce,hplain,hdata,htext⟩ := ideal.origin opened
  obtain rfl := List.inj_on_of_nodup_map fresh listed member hkey
  exact ⟨hnonce,hplain,hdata,htext⟩

section Tabulated

variable [DecidableEq Key] [DecidableEq Nonce] [DecidableEq Data] [DecidableEq Text]

/-- The scheme that opens by looking a text up among the calls. -/
def tabulated (sealText : Key → Nonce → Plain → Data → Text)
    (calls : List (Call Key Nonce Plain Data)) : Scheme Key Nonce Plain Data Text where
  sealText := sealText
  openText key nonce text data := (calls.find? fun c => c.key = key ∧ c.nonce = nonce ∧
    c.data = data ∧ sealText c.key c.nonce c.plaintext c.data = text).map Call.plaintext

/-- Fresh nonces make the lookup unambiguous. -/
theorem tabulated_ideal (sealText : Key → Nonce → Plain → Data → Text)
    (fresh : (calls.map Call.nonce).Nodup) : Ideal (tabulated sealText calls) calls := by
  intro key nonce text data plaintext
  simp only [tabulated,Option.map_eq_some_iff]
  constructor
  · rintro ⟨c,found,rfl⟩
    have listed := List.mem_of_find?_eq_some found
    have matching := List.find?_some found
    simp only [decide_eq_true_eq] at matching
    obtain ⟨rfl,rfl,rfl,rfl⟩ := matching
    exact ⟨listed,rfl⟩
  · rintro ⟨listed,rfl⟩
    cases found : calls.find? (fun c => c.key = key ∧ c.nonce = nonce ∧ c.data = data ∧
        sealText c.key c.nonce c.plaintext c.data = sealText key nonce plaintext data) with
    | none =>
      have absent := List.find?_eq_none.mp found _ listed
      simp at absent
    | some c =>
      have matching := List.find?_some found
      simp only [decide_eq_true_eq] at matching
      have same := List.inj_on_of_nodup_map fresh (List.mem_of_find?_eq_some found) listed
        matching.2.1
      exact ⟨c,rfl,by rw [same]⟩

end Tabulated

end Aead
