-- SUMMARY: A document that is converted again with an allocator used since makes the same book.
import Phrasebook.Proofs.Book.AllocatorUse

/-!
# Converting again

A conversion shares its allocator with whatever comes after it. Nothing of that
is seen when the document is converted once more: the names that were given are
remembered, and what was claimed or given since makes a difference only to
requests that have no name yet. This is a property of every part of a conversion,
and it is kept when parts are put one after the other.
-/

namespace Phrasebook

open Naming

/-! ## Stable uses -/

namespace Naming.Allocator

/-- A use of an allocator that comes to the same again, with any allocator that has grown since, and
gives no new name then. -/
structure Stable {α : Type} (use : Allocator → α × Allocator) : Prop where
  grows : ∀ names : Allocator, names.Grows (use names).2
  again : ∀ {names names' : Allocator}, (use names).2.Grows names' → (use names').1 = (use names).1
  given : ∀ {names names' : Allocator}, (use names).2.Grows names' →
    (use names').2.given = names'.given

variable {α β : Type} {use use' : Allocator → α × Allocator}

theorem Stable.of_eq (h : Stable use) (heq : ∀ names, use' names = use names) : Stable use' := by
  obtain rfl : use' = use := funext heq
  exact h

theorem stable_pure (a : α) : Stable fun names => (a, names) :=
  ⟨Grows.refl, fun _ => rfl, fun _ => rfl⟩

/-- A use that goes on with what another one has come to. -/
theorem Stable.bind {next : α → Allocator → β × Allocator} (h : Stable use)
    (hnext : ∀ a, Stable (next a)) : Stable fun names => next (use names).1 (use names).2 := by
  have hfirst {names names' : Allocator}
      (hgrows : (next (use names).1 (use names).2).2.Grows names') : (use names).2.Grows names' :=
    ((hnext _).grows _).trans hgrows
  constructor
  · intro names
    exact (h.grows names).trans ((hnext _).grows _)
  · intro names names' hgrows
    rw [h.again (hfirst hgrows)]
    exact (hnext _).again (hgrows.trans (h.grows names'))
  · intro names names' hgrows
    rw [h.again (hfirst hgrows), (hnext _).given (hgrows.trans (h.grows names'))]
    exact h.given (hfirst hgrows)

theorem Stable.map (h : Stable use) (f : α → β) :
    Stable fun names => (f (use names).1, (use names).2) :=
  h.bind fun a => stable_pure (f a)

/-- A use that goes on with what another one has come to, or ends with the fault of that. -/
theorem Stable.andThen {ε : Type} {use : Allocator → Except ε α × Allocator}
    {next : α → Allocator → Except ε β × Allocator} (h : Stable use)
    (hnext : ∀ a, Stable (next a)) :
    Stable fun names =>
      match use names with
      | (.error fault, names) => (.error fault, names)
      | (.ok a, names) => next a names := by
  let go (result : Except ε α) (names : Allocator) : Except ε β × Allocator :=
    match result with
    | .error fault => (.error fault, names)
    | .ok a => next a names
  have hgo : ∀ result, Stable (go result) := by
    intro result
    cases result with
    | error fault => exact stable_pure _
    | ok a => exact hnext a
  refine (h.bind hgo).of_eq ?_
  intro names
  cases use names with
  | mk result names' => cases result <;> rfl

/-- A request is answered by the name it was given. -/
theorem stable_allocate (r : Request) : Stable (·.allocate r) := by
  have hgiven {names names' : Allocator} (hgrows : (names.allocate r).2.Grows names') :
      names'.allocate r = ((names.allocate r).1, names') :=
    allocate_of_given (hgrows.given r _ (given?_allocate_self names r))
  refine ⟨fun names => grows_allocate names r, ?_, ?_⟩
  · intro names names' hgrows
    rw [hgiven hgrows]
  · intro names names' hgrows
    rw [hgiven hgrows]

theorem stable_claim (name : String) : Stable fun names => ((), names.claim name) :=
  ⟨fun names => grows_claim names name, fun _ => rfl, fun _ => rfl⟩

end Naming.Allocator

namespace Document

open Allocator (Stable stable_pure stable_allocate stable_claim)

variable {style : Style} {definitions : List Phrase} {tag key : String} {entry : Entry}
  {fields : List (String × Json)} {home : Locale}

/-! ## Parts of a conversion -/

theorem stable_toPhrase : Stable (toPhrase style definitions key entry) := by
  cases hfind : definitions.find? (·.key == key) with
  | some definition => exact (stable_pure _).of_eq fun names => by rw [toPhrase, hfind]
  | none =>
    let phrase (accessor : String) : Phrase :=
      { key, accessor, text := entry.text, placeholders := entry.placeholders }
    cases haccessor : entry.accessor with
    | some accessor =>
      refine (stable_pure (phrase accessor)).of_eq ?_
      intro names
      simp only [toPhrase, hfind, haccessor, phrase]
    | none =>
      refine ((stable_allocate { key, style }).map phrase).of_eq ?_
      intro names
      simp only [toPhrase, hfind, haccessor, phrase]

theorem stable_toPhrases : Stable (toPhrases style definitions tag fields) := by
  induction fields with
  | nil => exact stable_pure _
  | cons f rest ih =>
    obtain ⟨key, value⟩ := f
    cases hread : readEntry tag key value with
    | error fault =>
      refine (stable_pure (.error fault)).of_eq ?_
      intro names
      simp only [toPhrases, hread]
    | ok entry =>
      have hphrase : Stable (toPhrase style definitions key entry) := stable_toPhrase
      refine (hphrase.bind fun phrase => ih.map (Except.map (phrase :: ·))).of_eq ?_
      intro names
      simp only [toPhrases, hread]

theorem stable_claimAccessors : Stable (claimAccessors tag fields) := by
  induction fields with
  | nil => exact stable_pure _
  | cons f rest ih =>
    obtain ⟨key, value⟩ := f
    cases hread : readEntry tag key value with
    | error fault =>
      refine (stable_pure (.error fault)).of_eq ?_
      intro names
      simp only [claimAccessors, hread]
    | ok entry =>
      cases haccessor : entry.accessor with
      | some name =>
        refine ((stable_claim name).bind fun _ => ih).of_eq ?_
        intro names
        simp only [claimAccessors, hread, haccessor]
      | none => exact ih.of_eq fun names => by simp only [claimAccessors, hread, haccessor]

theorem stable_defaultPhrases {s : Section} : Stable (defaultPhrases style s) := by
  obtain ⟨locale, tag, value⟩ := s
  cases value with
  | obj fields =>
    have hclaims : Stable (claimAccessors tag fields) := stable_claimAccessors
    have hphrases : Stable (toPhrases style [] tag fields) := stable_toPhrases
    refine (hclaims.andThen fun _ => hphrases).of_eq ?_
    intro names
    rw [defaultPhrases]
    dsimp only
    cases claimAccessors tag fields names with
    | mk result names' => cases result <;> rfl
  | _ => exact stable_pure _

theorem stable_sectionPhrases {s : Section} : Stable (sectionPhrases style home definitions s) := by
  by_cases hhome : s.locale = home
  · refine (stable_pure (.ok definitions)).of_eq ?_
    exact fun names => if_pos hhome
  · obtain ⟨locale, tag, value⟩ := s
    cases value with
    | obj fields =>
      have hphrases : Stable (toPhrases style definitions tag fields) := stable_toPhrases
      exact hphrases.of_eq fun names => if_neg hhome
    | _ =>
      refine (stable_pure (.error (.entriesNotObject tag))).of_eq ?_
      exact fun names => if_neg hhome

theorem stable_toTables {sections : List Section} :
    Stable (toTables style home definitions sections) := by
  induction sections with
  | nil => exact stable_pure _
  | cons s rest ih =>
    have hsection : Stable (sectionPhrases style home definitions s) := stable_sectionPhrases
    have htable := hsection.map (·.bind (toTable s.locale))
    refine (htable.andThen fun table => ih.map (Except.map (table :: ·))).of_eq ?_
    intro names
    rw [toTables_cons]
    dsimp only
    cases (sectionPhrases style home definitions s names).1.bind (toTable s.locale) <;> rfl

theorem stable_toBook {o : Outline} : Stable (toBook style o) := by
  cases hfind : o.sections.find? (·.locale == o.defaultLocale) with
  | none =>
    refine (stable_pure (.error (.noDefaultEntries o.defaultTag))).of_eq ?_
    intro names
    rw [toBook, hfind]
  | some s =>
    have hphrases : Stable (defaultPhrases style s) := stable_defaultPhrases
    have htables (definitions : List Phrase) :
        Stable (toTables style o.defaultLocale definitions o.sections) := stable_toTables
    refine (hphrases.andThen fun definitions => (htables definitions).map fun tables =>
      tables.bind fun ts => (Book.ofTables o.defaultLocale ts).mapError .book).of_eq ?_
    intro names
    rw [toBook, hfind]
    dsimp only
    cases defaultPhrases style s names with
    | mk result names' => cases result <;> rfl

/-- What comes of a document stands, whether it is a book or a fault. -/
theorem stable_convert (style : Style) (document : Json) :
    Stable fun names =>
      ((convert style names document).result, (convert style names document).names) := by
  cases houtline : outline document with
  | mk result notices =>
    cases result with
    | error fault =>
      refine (stable_pure (.error fault)).of_eq ?_
      intro names
      simp only [convert, houtline]
    | ok o =>
      have hbook : Stable (toBook style o) := stable_toBook
      refine hbook.of_eq ?_
      intro names
      simp only [convert, houtline]

/-! ## Histories without a reset -/

theorem grows_apply {use : Use} (h : use ≠ .step .reset) (names : Allocator) :
    names.Grows (use.apply names) := by
  cases use with
  | step s => exact Allocator.grows_step names fun hreset => h (by rw [hreset])
  | convert style document => exact (stable_convert style document).grows names

theorem grows_afterUses {history : List Use} (h : ∀ use ∈ history, use ≠ .step .reset)
    (names : Allocator) : names.Grows (afterUses names history) := by
  induction history generalizing names with
  | nil => exact .refl names
  | cons use history ih =>
    rw [List.forall_mem_cons] at h
    exact (grows_apply h.1 names).trans (ih h.2 _)

/-- Whatever an allocator is used for after a document was converted with it, short of a reset, the
same comes of the document again, the same book or the same fault, and no name is given for it. -/
theorem convert_again (style : Style) (names : Allocator) (document : Json) (history : List Use)
    (h : ∀ use ∈ history, use ≠ .step .reset) :
    let first := convert style names document
    let again := convert style (afterUses first.names history) document
    again.result = first.result ∧ again.names.given = (afterUses first.names history).given := by
  intro first again
  have hgrows : first.names.Grows (afterUses first.names history) := grows_afterUses h first.names
  have hstable := stable_convert style document
  exact ⟨hstable.again hgrows, hstable.given hgrows⟩

/-- A document with a key that only another locale has. After it the same key is asked for in another
style, a document that gives its name fails, and one of the names is claimed. -/
theorem convert_again_of_greeting :
    let document : Json := .obj [("default_locale", .str "en"), ("locales", .obj [
      ("de", .obj [("only", .str "nur"), ("a b", .str "x")]),
      ("en", .obj [("a b", .str "y"), ("k", .obj [("value", .str "z"), ("escaped_key", .str "aB")])])])]
    let history : List Use := [.step (.allocate { key := "only", style := .snake }),
      .convert .camel (.obj [("default_locale", .str "en"), ("locales", .obj [("en", .obj [
        ("k", .obj [("value", .str "z"), ("escaped_key", .str "only")]), ("bad", .bool true)])])]),
      .step (.claim "aB1")]
    (∀ use ∈ history, use ≠ .step .reset) ∧
    ∃ b, (convert .camel {} document).result = .ok b ∧
      b.tables.map (·.phrases.map Phrase.accessor) = [["only", "aB1"], ["aB1", "aB"]] ∧
      (convert .camel (afterUses (convert .camel {} document).names history) document).result =
        .ok b := by
  intro document history
  have hreset : ∀ use ∈ history, use ≠ .step .reset := by
    intro use huse
    simp only [history, List.mem_cons, List.not_mem_nil, or_false] at huse
    rcases huse with rfl | rfl | rfl <;> simp
  obtain ⟨b, hb, haccessors⟩ : ∃ b, (convert .camel {} document).result = .ok b ∧
      b.tables.map (·.phrases.map Phrase.accessor) = [["only", "aB1"], ["aB1", "aB"]] :=
    ⟨_, rfl, rfl⟩
  exact ⟨hreset, b, hb, haccessors, (convert_again .camel {} document history hreset).1.trans hb⟩

end Document

end Phrasebook
