-- SUMMARY: When the review of a book finds nothing: in its tables, and in the chapters that they are made of.
import Phrasebook.Book.Review
import Phrasebook.Proofs.Book.Contents

/-!
# Books without warnings

A review goes over the tables in several passes: for keys that are missing, for
keys too many, and for placeholders that differ. Together they find nothing
exactly if every other table matches the default one.

A table of a converted book has placeholders that its chapter does not give, as
an entry without any takes over those of the home locale. So tables that match
come from chapters that agree where they give placeholders at all.
-/

namespace Phrasebook

/-! ## Tables -/

namespace Table

variable {t d : Table} {key : String}

theorem has_iff : t.has key ↔ key ∈ t.keys := by
  rw [has, Option.isSome_iff_ne_none, ne_eq, get?_eq_none_iff, not_not]

theorem missingKeys_eq_nil_iff : t.missingKeys d = [] ↔ ∀ key ∈ d.keys, key ∈ t.keys := by
  simp [missingKeys, has_iff]

theorem extraKeys_eq_nil_iff : t.extraKeys d = [] ↔ ∀ key ∈ t.keys, key ∈ d.keys := by
  simp [extraKeys]

theorem placeholderWarnings_eq_nil_iff :
    t.placeholderWarnings d = [] ↔
      ∀ p ∈ t.phrases, ∀ q ∈ d.phrases, q.key = p.key → p.placeholders = q.placeholders := by
  rw [placeholderWarnings, List.filterMap_eq_nil_iff]
  refine forall₂_congr fun p _ => ?_
  cases hget : d.get? p.key with
  | none =>
    have hkey : ∀ q ∈ d.phrases, q.key ≠ p.key := fun q hq hkey =>
      get?_eq_none_iff.mp hget (hkey ▸ List.mem_map_of_mem hq)
    exact iff_of_true rfl fun q hq hsame => absurd hsame (hkey q hq)
  | some definition =>
    obtain ⟨hmem, hkey⟩ := get?_eq_some_iff.mp hget
    simp only [ite_eq_left_iff, reduceCtorEq, imp_false, not_not]
    constructor
    · intro hsame q hq hqkey
      obtain rfl := List.inj_on_of_nodup_map d.keys_nodup hq hmem (hqkey.trans hkey.symm)
      exact hsame
    · exact fun h => h definition hmem hkey

/-- A table with the keys of another one, and with the same placeholders for each. -/
structure Matches (t d : Table) : Prop where
  keys : ∀ key, key ∈ t.keys ↔ key ∈ d.keys
  placeholders : ∀ p ∈ t.phrases, ∀ q ∈ d.phrases, q.key = p.key → p.placeholders = q.placeholders

theorem review_eq_nil_iff : t.review d = [] ↔ t.Matches d := by
  have hmissing : (if (t.missingKeys d).isEmpty then [] else
      [Warning.missing t.locale (t.missingKeys d)]) = [] ↔ t.missingKeys d = [] := by simp
  have hextra : (if (t.extraKeys d).isEmpty then [] else
      [Warning.extra t.locale (t.extraKeys d)]) = [] ↔ t.extraKeys d = [] := by simp
  rw [review, List.append_eq_nil_iff, List.append_eq_nil_iff, hmissing, hextra,
    missingKeys_eq_nil_iff, extraKeys_eq_nil_iff, placeholderWarnings_eq_nil_iff]
  constructor
  · rintro ⟨⟨hall, honly⟩, hplaceholders⟩
    exact ⟨fun key => ⟨honly key, hall key⟩, hplaceholders⟩
  · rintro ⟨hkeys, hplaceholders⟩
    exact ⟨⟨fun key => (hkeys key).mpr, fun key => (hkeys key).mp⟩, hplaceholders⟩

end Table

theorem Book.review_eq_nil_iff {b : Book} :
    b.review = [] ↔ b.defaultTable.phrases ≠ [] ∧
      ∀ t ∈ b.tables, t.locale ≠ b.defaultLocale → t.Matches b.defaultTable := by
  have hempty : (if b.defaultTable.phrases.isEmpty then [Warning.noPhrases b.defaultLocale]
      else []) = [] ↔ b.defaultTable.phrases ≠ [] := by simp
  rw [review, List.append_eq_nil_iff, hempty, List.flatMap_eq_nil_iff]
  simp only [List.mem_filter, bne_iff_ne, and_imp, Table.review_eq_nil_iff]

/-! ## Chapters -/

namespace Document

open Naming

variable {style : Style} {names : Allocator} {key : String} {entry : Entry} {c main : Chapter}
  {chapters : List Chapter} {t d : Table} {p q : Phrase} {b : Book} {find : String → Option Phrase}

def Chapter.keys (c : Chapter) : List String :=
  c.entries.map Prod.fst

/-- A chapter with the keys of the home chapter. Its entries give no placeholders, or just those of
the home entries. -/
structure Chapter.Agrees (c main : Chapter) : Prop where
  keys : ∀ key, key ∈ c.keys ↔ key ∈ main.keys
  placeholders : ∀ key own definition, (key, own) ∈ c.entries → (key, definition) ∈ main.entries →
    own.placeholders ≠ [] → own.placeholders = definition.placeholders

theorem Makes.placeholders_eq (h : Makes style names key entry none p) :
    p.placeholders = entry.placeholders := by
  cases h <;> rfl

theorem Makes.placeholders_eq_iff (h : Makes style names key entry (some q) p) :
    p.placeholders = q.placeholders ↔
      (entry.placeholders ≠ [] → entry.placeholders = q.placeholders) := by
  cases h with
  | inherited =>
    by_cases hown : entry.placeholders ≠ [] ∧ entry.placeholders ≠ q.placeholders
    · rw [if_pos hown]
      exact iff_of_false hown.2 fun h => hown.2 (h hown.1)
    · rw [if_neg hown]
      exact iff_of_true rfl fun hne => not_not.mp fun hdiffer => hown ⟨hne, hdiffer⟩

theorem Holds.keys_eq (h : Holds style names find c t) : t.keys = c.keys :=
  keys_of_makes h.phrases

/-- A table matches the one of the home chapter if its own chapter agrees with that. -/
theorem Holds.matches_iff (hmain : Holds style names (fun _ => none) main d)
    (hc : Holds style names (fun key => d.phrases.find? (·.key == key)) c t) :
    t.Matches d ↔ c.Agrees main := by
  have hdefined : ∀ {key : String} {own : Entry} {p q : Phrase}, q ∈ d.phrases → q.key = key →
      Makes style names key own (d.phrases.find? (·.key == key)) p →
      Makes style names key own (some q) p := by
    intro key own p q hq hkey hmakes
    have hfind : d.get? key = some q := Table.get?_eq_some_iff.mpr ⟨hq, hkey⟩
    exact hfind ▸ hmakes
  constructor
  · rintro ⟨hkeys, hplaceholders⟩
    refine ⟨by rwa [← hc.keys_eq, ← hmain.keys_eq], ?_⟩
    intro key own definition hown hdefinition
    obtain ⟨p, hp, hmakes⟩ := exists_of_mem_left hc.phrases hown
    obtain ⟨q, hq, hdefines⟩ := exists_of_mem_left hmain.phrases hdefinition
    have hsame := hplaceholders p hp q hq (hdefines.key_eq.trans hmakes.key_eq.symm)
    rw [← hdefines.placeholders_eq]
    exact (hdefined hq hdefines.key_eq hmakes).placeholders_eq_iff.mp hsame
  · rintro ⟨hkeys, hplaceholders⟩
    refine ⟨by rwa [hc.keys_eq, hmain.keys_eq], ?_⟩
    intro p hp q hq hkey
    obtain ⟨⟨key, own⟩, hown, hmakes⟩ := exists_of_mem_left hc.phrases.flip hp
    obtain ⟨⟨key', definition⟩, hdefinition, hdefines⟩ := exists_of_mem_left hmain.phrases.flip hq
    obtain rfl : key' = key := hdefines.key_eq.symm.trans (hkey.trans hmakes.key_eq)
    refine (hdefined hq hdefines.key_eq hmakes).placeholders_eq_iff.mpr ?_
    rw [hdefines.placeholders_eq]
    exact hplaceholders _ _ _ hown hdefinition

/-- The review of a book finds nothing if the home chapter has an entry and every other one agrees
with it. -/
theorem review_eq_nil_iff_agrees
    (h : List.Forall₂ (fun c => Holds style names
      (definition? b.defaultTable.phrases b.defaultLocale c) c) chapters b.tables)
    (hnodup : (chapters.map Chapter.locale).Nodup) (hmem : main ∈ chapters)
    (hlocale : main.locale = b.defaultLocale) :
    b.review = [] ↔
      main.entries ≠ [] ∧ ∀ c ∈ chapters, c.locale ≠ b.defaultLocale → c.Agrees main := by
  have hmain : Holds style names (fun _ => none) main b.defaultTable := by
    obtain ⟨htable, hdefault⟩ := b.defaultTable_mem
    obtain ⟨c, hc, hholds⟩ := exists_of_mem_left h.flip htable
    obtain rfl := List.inj_on_of_nodup_map hnodup hc hmem
      (hholds.locale.symm.trans (hdefault.trans hlocale.symm))
    exact ⟨hholds.locale, by simpa only [definition?, hlocale, if_true] using hholds.phrases⟩
  have hother : ∀ c t, c.locale ≠ b.defaultLocale →
      Holds style names (definition? b.defaultTable.phrases b.defaultLocale c) c t →
      (t.Matches b.defaultTable ↔ c.Agrees main) := by
    intro c t hc hholds
    refine hmain.matches_iff ⟨hholds.locale, ?_⟩
    simpa only [definition?, hc, if_false] using hholds.phrases
  have hempty : b.defaultTable.phrases = [] ↔ main.entries = [] := by
    have hkeys := hmain.keys_eq
    rw [Table.keys, Chapter.keys] at hkeys
    rw [← List.map_eq_nil_iff, hkeys, List.map_eq_nil_iff]
  rw [Book.review_eq_nil_iff, ne_eq, hempty]
  refine and_congr_right fun _ => ⟨fun hmatches c hc hne => ?_, fun hagrees t ht hne => ?_⟩
  · obtain ⟨t, ht, hholds⟩ := exists_of_mem_left h hc
    exact (hother c t hne hholds).mp (hmatches t ht (hholds.locale.symm ▸ hne))
  · obtain ⟨c, hc, hholds⟩ := exists_of_mem_left h.flip ht
    rw [hholds.locale] at hne
    exact (hother c t hne hholds).mpr (hagrees c hc hne)

/-! ## Converted books -/

variable {document : Json} {home : Locale}

/-- The chapters of a converted document, and the tables of its book beside them. -/
theorem holds_of_convert (hkeys : Json.DistinctKeys document)
    (hdescribes : Describes document home chapters)
    (h : (convert style names document).result = .ok b) :
    b.defaultLocale = home ∧ (chapters.map Chapter.locale).Nodup ∧
      List.Forall₂ (fun c => Holds style (convert style names document).names
        (definition? b.defaultTable.phrases b.defaultLocale c) c) chapters b.tables := by
  have hnodup := nodup_keys_of_describes hkeys hdescribes
  obtain ⟨o, houtline, rfl, hsaid, hhome⟩ := describes_iff.mp hdescribes
  have hlocales := nodup_locales_of_describes hdescribes
  obtain ⟨hresult, hnames⟩ : (convert style names document).result = (toBook style o names).1 ∧
      (convert style names document).names = (toBook style o names).2 :=
    convert_of_outline (outline_eq_ok_iff.mpr houtline)
  obtain ⟨b', hb', hlocale, hholds⟩ := exists_book hsaid hnodup hlocales hhome
  obtain rfl : b' = b := Except.ok.inj (hb'.symm.trans (hresult.symm.trans h))
  exact ⟨hlocale, hlocales, hnames ▸ hholds⟩

theorem exists_describes_of_convert (h : (convert style names document).result = .ok b) :
    ∃ home chapters, Describes document home chapters := by
  obtain ⟨o, ho⟩ := exists_outline_of_convert h
  have houtline := outline_eq_ok_iff.mp ho
  rw [(convert_of_outline ho).1] at h
  obtain ⟨chapters, hsaid, hhome⟩ := exists_chapters_of_toBook houtline.nodup_locales h
  exact ⟨_, chapters, describes_iff.mpr ⟨o, houtline, rfl, hsaid, hhome⟩⟩

end Document

end Phrasebook
