-- SUMMARY: When a name that an entry gives is derived for a key too, after any use of the allocator.
import Mathlib.Data.List.Nodup
import Phrasebook.Proofs.Book.AllocatorUse

/-!
# Names that entries give

The names that the entries of the default locale give are claimed before any name
is derived, and no name that is in use is given to a request that has none. A key
can therefore get a name that an entry gives only if the allocator had given it
that name before, in an earlier conversion or for another caller: what is
remembered is handed out without a look at the claims. This is exactly when it
happens, and it cannot happen with an allocator that was never asked for the keys.
-/

namespace Phrasebook

namespace Naming.Allocator

variable {a : Allocator} {r : Request} {name : String}

theorem not_mem_used_of_given?_step {s : Step} (hbefore : a.given? r = none)
    (h : (a.step s).2.given? r = some name) : name ∉ a.used := by
  cases s with
  | allocate r' =>
    cases hgiven : a.given? r' with
    | some name' =>
      simp only [step, allocate_of_given hgiven, hbefore] at h
      cases h
    | none =>
      simp only [step, allocate_of_not_given hgiven, given?, List.lookup_cons] at h
      split at h
      · obtain rfl := Option.some.inj h
        exact free_not_mem _ _
      · rw [← given?, hbefore] at h
        cases h
  | claim name' => exact absurd (hbefore.symm.trans h) (by simp)
  | reset => cases h

/-- A name that is given for the first time was not in use before. -/
theorem not_mem_used_of_given?_run {steps : List Step} (hreset : Step.reset ∉ steps)
    (hbefore : a.given? r = none) (h : (a.run steps).2.given? r = some name) :
    name ∉ a.used := by
  induction steps generalizing a with
  | nil =>
    rw [run, hbefore] at h
    cases h
  | cons s steps ih =>
    rw [List.mem_cons, not_or] at hreset
    have hgrows := grows_step a (Ne.symm hreset.1)
    cases hstep : (a.step s).2.given? r with
    | none => exact fun hused => ih hreset.2 hstep h (hgrows.used hused)
    | some name' =>
      have hkept := (grows_run (a.step s).2 hreset.2).given r name' hstep
      obtain rfl : name' = name := Option.some.inj (hkept.symm.trans h)
      exact not_mem_used_of_given?_step hbefore hstep

end Naming.Allocator

namespace Document

open Naming

variable {style : Style} {names : Allocator} {entries : List (String × Entry)}
  {e : String × Entry} {p : Phrase}

/-! ## Claimed names -/

/-- The accessor names that entries give. -/
def givenNames (entries : List (String × Entry)) : List String :=
  entries.filterMap (·.2.accessor)

theorem given?_claimEntries (names : Allocator) (entries : List (String × Entry)) (r : Request) :
    (claimEntries names entries).given? r = names.given? r := by
  induction entries generalizing names with
  | nil => rfl
  | cons e entries ih =>
    have hfirst : (claimEntry names e.2).given? r = names.given? r := by
      unfold claimEntry
      split <;> rfl
    exact (ih _).trans hfirst

theorem givenNames_subset_used : givenNames entries ⊆ (claimEntries names entries).used := by
  induction entries generalizing names with
  | nil => simp [givenNames]
  | cons e entries ih =>
    intro name hname
    obtain ⟨e', he', hname'⟩ := List.mem_filterMap.mp hname
    rcases List.mem_cons.mp he' with rfl | he'
    · have hclaimed : name ∈ (claimEntry names e'.2).used := by
        rw [claimEntry, hname']
        exact List.mem_cons_self
      have hgrows : (claimEntry names e'.2).Grows (claimEntries (claimEntry names e'.2) entries) :=
        grows_claimEntries
      exact hgrows.used hclaimed
    · exact ih (List.mem_filterMap.mpr ⟨e', he', hname'⟩)

/-! ## Derived names -/

/-- How the phrase of an entry is accessed: by the name that the entry gives, or else by one of the
given names exactly if the allocator remembers it for the key. -/
structure Named (style : Style) (names : Allocator) (entries : List (String × Entry))
    (e : String × Entry) (p : Phrase) : Prop where
  key : p.key = e.1
  given : ∀ name ∈ e.2.accessor, p.accessor = name
  derived : e.2.accessor = none → ∀ name ∈ givenNames entries,
    p.accessor = name ↔ names.given? { key := e.1, style } = some name

theorem leadsTo_phrasesOf {asked : List String} (h : entries.map Prod.fst ⊆ asked) :
    LeadsTo style asked names (phrasesOf style [] entries names).2 := by
  induction entries generalizing names with
  | nil => exact .refl style asked names
  | cons e entries ih =>
    rw [List.map_cons, List.cons_subset] at h
    have hfirst : LeadsTo style asked names (toPhrase style [] e.1 e.2 names).2 :=
      leadsTo_toPhrase h.1
    exact hfirst.trans (ih h.2)

theorem named_of_makes {names' : Allocator} {asked : List String}
    (hleads : LeadsTo style asked (claimEntries names entries) names')
    (h : Makes style names' e.1 e.2 none p) : Named style names entries e p := by
  refine ⟨h.key_eq, ?_, ?_⟩
  · intro name hname
    cases h with
    | given hgiven => exact Option.some.inj (hgiven.symm.trans hname)
    | derived hnone => simp [hnone] at hname
  · intro hnone name hname
    have hend : names'.given? { key := e.1, style } = some p.accessor := by
      cases h with
      | given hgiven => simp [hnone] at hgiven
      | derived _ hderived => exact hderived
    cases hbefore : names.given? { key := e.1, style } with
    | some name' =>
      rw [← given?_claimEntries names entries] at hbefore
      have hkept := hleads.grows.given _ _ hbefore
      rw [hend, Option.some.injEq] at hkept
      rw [hkept, Option.some.injEq]
    | none =>
      rw [← given?_claimEntries names entries] at hbefore
      obtain ⟨steps, hsteps, rfl⟩ := hleads
      have hfresh := Allocator.not_mem_used_of_given?_run (fun hreset => by cases hsteps _ hreset)
        hbefore hend
      simp only [reduceCtorEq, iff_false]
      rintro rfl
      exact hfresh (givenNames_subset_used hname)

/-! ## Documents -/

/-- No entry without a name of its own gets one that an entry gives. -/
def KeepsGivenNames (entries : List (String × Entry)) (b : Book) : Prop :=
  ∀ e ∈ entries, e.2.accessor = none →
    ∀ p ∈ b.defaultTable.phrases, p.key = e.1 → p.accessor ∉ givenNames entries

theorem keepsGivenNames_iff {b : Book}
    (h : List.Forall₂ (Named style names entries) entries b.defaultTable.phrases) :
    KeepsGivenNames entries b ↔ ∀ e ∈ entries, e.2.accessor = none →
      ∀ name ∈ givenNames entries, names.given? { key := e.1, style } ≠ some name := by
  constructor
  · intro hkeeps e he hnone name hname hgiven
    obtain ⟨p, hp, hnamed⟩ := exists_of_mem_left h he
    obtain rfl := (hnamed.derived hnone name hname).mpr hgiven
    exact hkeeps e he hnone p hp hnamed.key hname
  · intro hforgets e he hnone p hp hkey hname
    obtain ⟨p', hp', hnamed⟩ := exists_of_mem_left h he
    obtain rfl : p' = p :=
      List.inj_on_of_nodup_map b.defaultTable.keys_nodup hp' hp (hnamed.key.trans hkey.symm)
    exact hforgets e he hnone _ hname ((hnamed.derived hnone _ hname).mp rfl)

/-- Whatever was done with an allocator before a document is converted: a key without a name of its
own gets one that an entry gives exactly if the allocator had given it this name already. So the
given names are kept apart if nobody has asked for the other keys in this style. -/
theorem given_names_after_history (reserved builtins : List String) (digitLead : String)
    (history : List Use) {document : Json} {b : Book}
    (h : (convert style (afterUses { reserved, builtins, digitLead } history) document).result =
      .ok b) :
    let names := afterUses { reserved, builtins, digitLead } history
    ∃ entries, homeEntries document = some entries ∧
      List.Forall₂ (Named style names entries) entries b.defaultTable.phrases ∧
      (KeepsGivenNames entries b ↔ ∀ e ∈ entries, e.2.accessor = none →
        ∀ name ∈ givenNames entries, names.given? { key := e.1, style } ≠ some name) ∧
      ((∀ e ∈ entries, e.2.accessor = none →
        ∀ use ∈ history, ¬ use.AsksFor { key := e.1, style }) → KeepsGivenNames entries b) := by
  intro names
  obtain ⟨entries, hentries, hphrases⟩ := convert_defaultTable h
  have hnamed : List.Forall₂ (Named style names entries) entries b.defaultTable.phrases := by
    rw [hphrases]
    exact makes_phrasesOf.imp fun e p hmakes =>
      named_of_makes (leadsTo_phrasesOf (List.Subset.refl _)) hmakes
  refine ⟨entries, hentries, hnamed, keepsGivenNames_iff hnamed, ?_⟩
  intro hunasked
  refine (keepsGivenNames_iff hnamed).mpr fun e he hnone name _ hgiven => ?_
  rw [given?_afterUses_eq_none rfl (hunasked e he hnone)] at hgiven
  cases hgiven

/-- A document whose first key would be named like the second one, after an unrelated conversion
that failed, a request and a claim. -/
theorem given_names_of_greeting :
    let history : List Use := [
      .convert .camel (.obj [("default_locale", .str "en"),
        ("locales", .obj [("en", .obj [("hello", .str "Hello!"), ("bad", .bool true)])])]),
      .step (.allocate { key := "a b", style := .snake }), .step (.claim "greet")]
    let document : Json := .obj [("default_locale", .str "en"), ("locales", .obj [("en", .obj [
      ("a b", .str "x"), ("k", .obj [("value", .str "y"), ("escaped_key", .str "aB")])])])]
    let entries : List (String × Entry) :=
      [("a b", { text := "x" }), ("k", { text := "y", accessor := some "aB" })]
    ∃ b, (convert .camel (afterUses {} history) document).result = .ok b ∧
      homeEntries document = some entries ∧ KeepsGivenNames entries b := by
  intro history document entries
  have hconvert : ∃ b, (convert .camel (afterUses {} history) document).result = .ok b := ⟨_, rfl⟩
  obtain ⟨b, hb⟩ := hconvert
  have hhome : homeEntries document = some entries := rfl
  obtain ⟨entries', hentries, -, -, hkeeps⟩ := given_names_after_history [] [] "n" history hb
  obtain rfl : entries = entries' := Option.some.inj (hhome.symm.trans hentries)
  refine ⟨b, hb, hhome, hkeeps ?_⟩
  intro e he hnone use huse
  obtain rfl : e = ("a b", { text := "x" }) := by
    simp only [entries, List.mem_cons, List.not_mem_nil, or_false] at he
    rcases he with rfl | rfl
    · rfl
    · cases hnone
  simp only [history, List.mem_cons, List.not_mem_nil, or_false] at huse
  rcases huse with rfl | rfl | rfl
  · change ¬ ∃ key ∈ ["hello", "bad"],
      ({ key } : Request).label = ({ key := "a b" } : Request).label
    decide
  · change ¬ ({ key := "a b", style := .snake } : Request).label =
      ({ key := "a b" } : Request).label
    decide
  · exact id

/-- The key `foo` is named in an earlier document. In a later one it keeps the name, which is then
that of the key `bar` too, though the entry gives it. -/
theorem not_keepsGivenNames_of_foo :
    let history : List Use := [.convert .camel (.obj [("default_locale", .str "en"),
      ("locales", .obj [("en", .obj [("foo", .str "x")])])])]
    let document : Json := .obj [("default_locale", .str "en"), ("locales", .obj [("en", .obj [
      ("foo", .str "x"), ("bar", .obj [("value", .str "y"), ("escaped_key", .str "foo")])])])]
    let entries : List (String × Entry) :=
      [("foo", { text := "x" }), ("bar", { text := "y", accessor := some "foo" })]
    ∃ b, (convert .camel (afterUses {} history) document).result = .ok b ∧
      homeEntries document = some entries ∧
      b.defaultTable.phrases.map Phrase.accessor = ["foo", "foo"] ∧
      ¬ KeepsGivenNames entries b := by
  intro history document entries
  refine ⟨_, rfl, rfl, rfl, ?_⟩
  intro hkeeps
  exact hkeeps ("foo", { text := "x" }) List.mem_cons_self rfl _ List.mem_cons_self rfl (by decide)

end Document

end Phrasebook
