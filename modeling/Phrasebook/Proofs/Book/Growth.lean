-- SUMMARY: Entries put behind those of a document leave its default table as it was.
import Phrasebook.Proofs.Book.Conversion

/-!
# Growth

A default table is made of the home entries alone, from the first to the last.
Entries that stand behind the others and give no accessor names claim nothing,
and are named after the others: the table begins with the phrases that it had
without them. The other locales are read when it is finished, wherever they stand.
-/

namespace Phrasebook.Document

open Naming

variable {style : Style} {definitions : List Phrase} {names : Allocator} {document document' : Json}
  {entries more : List (String × Entry)} {b b' : Book}

/-! ## Entries behind others -/

theorem claimEntries_append :
    claimEntries names (entries ++ more) = claimEntries (claimEntries names entries) more :=
  List.foldl_append

theorem claimEntries_append_of_not_given (h : ∀ e ∈ more, e.2.accessor = none) :
    claimEntries names (entries ++ more) = claimEntries names entries := by
  rw [claimEntries_append, claimEntries_of_not_given h]

/-- The entries behind are named with the allocator that the first ones leave. -/
theorem phrasesOf_append :
    phrasesOf style definitions (entries ++ more) names =
      let first := phrasesOf style definitions entries names
      let added := phrasesOf style definitions more first.2
      (first.1 ++ added.1, added.2) := by
  induction entries generalizing names with
  | nil => rfl
  | cons e entries ih => simp only [List.cons_append, phrasesOf, ih]

/-! ## Documents -/

/-- A document with further home entries, none of which gives an accessor name, has the default
table of the first document with the further keys behind it, whatever the other locales of both
hold and wherever the default one stands among them. Both are converted with an allocator in one
and the same state, a new one or any other. -/
theorem defaultTable_of_growth (style : Style) (names : Allocator)
    (h : (convert style names document).result = .ok b)
    (h' : (convert style names document').result = .ok b')
    (hentries : homeEntries document = some entries)
    (hentries' : homeEntries document' = some (entries ++ more))
    (hmore : ∀ e ∈ more, e.2.accessor = none) :
    ∃ added, b'.defaultTable.phrases = b.defaultTable.phrases ++ added ∧
      added.map Phrase.key = more.map Prod.fst := by
  obtain ⟨found, hfound, hphrases⟩ := convert_defaultTable h
  obtain ⟨found', hfound', hphrases'⟩ := convert_defaultTable h'
  obtain rfl : entries = found := Option.some.inj (hentries.symm.trans hfound)
  obtain rfl : entries ++ more = found' := Option.some.inj (hentries'.symm.trans hfound')
  rw [claimEntries_append_of_not_given hmore, phrasesOf_append] at hphrases'
  simp only [← hphrases] at hphrases'
  exact ⟨_, hphrases', phrasesOf_keys⟩

/-- The default locale moves to the end, behind one that has the new keys already and gives them
other names, and the new keys clean up to the words of old ones. -/
theorem defaultTable_of_growth_of_greeting :
    let document : Json := .obj [("default_locale", .str "en"), ("locales", .obj [
      ("en", .obj [("a b", .str "x"),
        ("k", .obj [("value", .str "y"), ("escaped_key", .str "aB1")])])])]
    let document' : Json := .obj [("default_locale", .str "en"), ("locales", .obj [
      ("de", .obj [("a-b", .obj [("value", .str "z"), ("escaped_key", .str "aB")]),
        ("only", .str "w")]),
      ("en", .obj [("a b", .str "x"),
        ("k", .obj [("value", .str "y"), ("escaped_key", .str "aB1")]),
        ("a-b", .str "z"), ("ab", .obj [("value", .str "v"), ("escaped_key", .null)])])])]
    let entries : List (String × Entry) :=
      [("a b", { text := "x" }), ("k", { text := "y", accessor := some "aB1" })]
    let more : List (String × Entry) := [("a-b", { text := "z" }), ("ab", { text := "v" })]
    homeEntries document = some entries ∧ homeEntries document' = some (entries ++ more) ∧
    (∀ e ∈ more, e.2.accessor = none) ∧
    ∃ b b', (convert .camel {} document).result = .ok b ∧
      (convert .camel {} document').result = .ok b' ∧
      b.defaultTable.phrases.map Phrase.accessor = ["aB", "aB1"] ∧
      ∃ added, b'.defaultTable.phrases = b.defaultTable.phrases ++ added ∧
        added.map Phrase.key = ["a-b", "ab"] := by
  intro document document' entries more
  have hentries : homeEntries document = some entries := rfl
  have hentries' : homeEntries document' = some (entries ++ more) := rfl
  have hmore : ∀ e ∈ more, e.2.accessor = none := by decide
  refine ⟨hentries, hentries', hmore, _, _, rfl, rfl, rfl, ?_⟩
  exact defaultTable_of_growth .camel {} rfl rfl hentries hentries' hmore

end Phrasebook.Document
