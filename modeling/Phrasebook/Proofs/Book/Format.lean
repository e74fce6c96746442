-- SUMMARY: The format of documents, apart from how they are read, and that reading takes no other.
import Mathlib.Data.List.Forall2
import Phrasebook.Proofs.Book.Conversion

/-!
# The format of documents

What a document has to look like is said here by relations between JSON values
and what they say: an entry says a text, a value under a locale tag says a
chapter, and a document describes a home locale and chapters. The readers of
entries, sections and outlines accept exactly these values.
-/

namespace Phrasebook.Document

/-! ## Entries -/

/-- The placeholders that an entry gives. What does not count as set stands for none. -/
inductive SaysPlaceholders : Option Json → List String → Prop
  | absent : SaysPlaceholders none []
  | unset {v : Json} (h : v.truthy = false) : SaysPlaceholders (some v) []
  | names (names : List String) : SaysPlaceholders (some (.arr (names.map .str))) names

/-- The accessor name that an entry gives. -/
inductive SaysAccessor : Option Json → Option String → Prop
  | absent : SaysAccessor none none
  | null : SaysAccessor (some .null) none
  | name (name : String) : SaysAccessor (some (.str name)) (some name)

/-- An entry is a text, or an object with one. -/
inductive SaysEntry : Json → Entry → Prop
  | text (text : String) : SaysEntry (.str text) { text }
  | fields {fields : Json.Fields} {text : String} {placeholders : List String}
      {accessor : Option String} (htext : fields.get? "value" = some (.str text))
      (hplaceholders : SaysPlaceholders (fields.get? "placeholders") placeholders)
      (haccessor : SaysAccessor (fields.get? "escaped_key") accessor) :
      SaysEntry (.obj fields) { text, placeholders, accessor }

/-- Entries under their keys. -/
def SaysEntries : List (String × Json) → List (String × Entry) → Prop :=
  List.Forall₂ fun f e => e.1 = f.1 ∧ SaysEntry f.2 e.2

/-! ## Documents -/

/-- The entries of a locale, as they read. -/
structure Chapter where
  locale : Locale
  entries : List (String × Entry)

/-- A locale tag and an object of entries. -/
inductive SaysChapter : String × Json → Chapter → Prop
  | mk {tag : String} {reading : Locale.Reading} {fields : List (String × Json)}
      {entries : List (String × Entry)} (htag : Locale.parse tag = .ok reading)
      (hentries : SaysEntries fields entries) :
      SaysChapter (tag, .obj fields) ⟨reading.locale, entries⟩

/-- A document: an object with the tag of the home locale, and with a chapter for each of some
distinct locales, among them the home locale. -/
inductive Describes : Json → Locale → List Chapter → Prop
  | mk {fields : Json.Fields} {tag : String} {reading : Locale.Reading}
      {locales : List (String × Json)} {chapters : List Chapter}
      (hdefault : fields.get? "default_locale" = some (.str tag)) (hempty : tag ≠ "")
      (htag : Locale.parse tag = .ok reading)
      (hlocales : fields.get? "locales" = some (.obj locales)) (hnil : locales ≠ [])
      (hchapters : List.Forall₂ SaysChapter locales chapters)
      (hnodup : (chapters.map Chapter.locale).Nodup)
      (hhome : reading.locale ∈ chapters.map Chapter.locale) :
      Describes (.obj fields) reading.locale chapters

/-! ## Reading entries -/

variable {tag key : String} {v : Json} {e : Entry} {names : List String}
  {fields : List (String × Json)} {entries : List (String × Entry)}

theorem strings?_eq_some_iff {items : List Json} :
    strings? items = some names ↔ items = names.map .str := by
  induction items generalizing names with
  | nil => cases names <;> simp [strings?]
  | cons item items ih =>
    cases names with
    | nil => cases item <;> simp [strings?]
    | cons name names => cases item <;> simp [strings?, ih, and_comm]

theorem strings?_names (names : List String) : strings? (names.map .str) = some names :=
  strings?_eq_some_iff.mpr rfl

theorem placeholders?_eq_some_iff {value : Option Json} :
    placeholders? value = some names ↔ SaysPlaceholders value names := by
  constructor
  · intro h
    unfold placeholders? at h
    split at h
    · cases h
      exact .absent
    · rename_i v
      split at h
      · split at h
        · rename_i items
          rw [strings?_eq_some_iff.mp h]
          exact .names names
        · cases h
      · rename_i hunset
        cases h
        exact .unset (by simpa using hunset)
  · intro h
    cases h with
    | absent => rfl
    | unset hunset => simp [placeholders?, hunset]
    | names =>
      cases names with
      | nil => rfl
      | cons name names =>
        simpa [placeholders?, Json.truthy] using strings?_names (name :: names)

theorem readEntry_eq_ok_iff : readEntry tag key v = .ok e ↔ SaysEntry v e := by
  constructor
  · intro h
    unfold readEntry at h
    split at h
    · cases h
      exact .text _
    · split at h
      · rename_i text htext
        split at h
        · cases h
        · rename_i placeholders hplaceholders
          have hsaid := placeholders?_eq_some_iff.mp hplaceholders
          split at h
          · rename_i habsent
            cases h
            exact .fields htext hsaid (by rw [Json.Fields.get?, habsent]; exact .absent)
          · rename_i hnull
            cases h
            exact .fields htext hsaid (by rw [Json.Fields.get?, hnull]; exact .null)
          · rename_i accessor hname
            cases h
            exact .fields htext hsaid (by rw [Json.Fields.get?, hname]; exact .name _)
          · cases h
      · cases h
    · cases h
  · intro h
    cases h with
    | text => rfl
    | fields htext hplaceholders haccessor =>
      have hread := placeholders?_eq_some_iff.mpr hplaceholders
      rw [Json.Fields.get?] at htext hread haccessor
      unfold readEntry
      simp only [htext, hread]
      generalize List.lookup "escaped_key" _ = value at haccessor
      cases haccessor <;> rfl

theorem readEntries_eq_ok_iff : readEntries tag fields = .ok entries ↔ SaysEntries fields entries := by
  induction fields generalizing entries with
  | nil =>
    cases entries with
    | nil => simp [readEntries, SaysEntries]
    | cons e entries => simp [readEntries, SaysEntries]
  | cons f fields ih =>
    obtain ⟨key, value⟩ := f
    rw [readEntries, SaysEntries, List.forall₂_cons_left_iff]
    cases hread : readEntry tag key value with
    | error fault =>
      constructor
      · intro h
        cases h
      · rintro ⟨⟨key', e⟩, entries, ⟨-, hentry⟩, -, -⟩
        rw [readEntry_eq_ok_iff.mpr hentry] at hread
        cases hread
    | ok entry =>
      simp only [Except.map_eq_ok_iff]
      constructor
      · rintro ⟨more, hmore, rfl⟩
        exact ⟨_, more, ⟨rfl, readEntry_eq_ok_iff.mp hread⟩, ih.mp hmore, rfl⟩
      · rintro ⟨⟨key', e⟩, entries, ⟨rfl, hentry⟩, hmore, rfl⟩
        rw [readEntry_eq_ok_iff.mpr hentry] at hread
        cases hread
        exact ⟨entries, ih.mpr hmore, rfl⟩

theorem SaysEntries.keys_eq (h : SaysEntries fields entries) :
    entries.map Prod.fst = fields.map Prod.fst := by
  induction h with
  | nil => rfl
  | cons hentry _ ih => rw [List.map_cons, List.map_cons, hentry.1, ih]

/-! ## Reading the frame -/

/-- A section under a tag: its locale is that of the tag, and its entries are not yet read. -/
def IsSection (l : String × Json) (s : Section) : Prop :=
  s.tag = l.1 ∧ s.entries = l.2 ∧ ∃ reading, Locale.parse l.1 = .ok reading ∧ s.locale = reading.locale

theorem readSections_eq_ok_iff {seen : List Locale} {locales : List (String × Json)}
    {sections : List Section} :
    (readSections seen locales).1 = .ok sections ↔
      List.Forall₂ IsSection locales sections ∧ (sections.map Section.locale).Nodup ∧
        ∀ s ∈ sections, s.locale ∉ seen := by
  induction locales generalizing seen sections with
  | nil =>
    constructor
    · intro h
      cases h
      exact ⟨.nil, List.nodup_nil, by simp⟩
    · rintro ⟨h, -, -⟩
      cases h
      rfl
  | cons l locales ih =>
    obtain ⟨tag, value⟩ := l
    rw [readSections, List.forall₂_cons_left_iff]
    cases htag : Locale.parse tag with
    | error fault =>
      constructor
      · intro h
        cases h
      · rintro ⟨⟨s, more, ⟨-, -, reading, hreading, -⟩, -, -⟩, -, -⟩
        rw [htag] at hreading
        cases hreading
    | ok reading =>
      by_cases hseen : reading.locale ∈ seen
      · simp only [List.contains_iff_mem, hseen, if_true]
        constructor
        · intro h
          cases h
        · rintro ⟨⟨s, more, ⟨-, -, reading', hreading, hlocale⟩, -, rfl⟩, -, hnew⟩
          rw [htag] at hreading
          cases hreading
          exact absurd (hlocale ▸ hseen) (hnew s List.mem_cons_self)
      · simp only [List.contains_iff_mem, hseen, if_false, Except.map_eq_ok_iff, ih]
        constructor
        · rintro ⟨more, ⟨hmore, hnodup, hnew⟩, rfl⟩
          refine ⟨⟨_, more, ⟨rfl, rfl, reading, htag, rfl⟩, hmore, rfl⟩, ?_, ?_⟩
          · refine List.nodup_cons.mpr ⟨?_, hnodup⟩
            intro hmem
            obtain ⟨s, hs, hlocale⟩ := List.mem_map.mp hmem
            exact hnew s hs (hlocale ▸ List.mem_cons_self)
          · exact List.forall_mem_cons.mpr
              ⟨hseen, fun s hs hmem => hnew s hs (List.mem_cons_of_mem _ hmem)⟩
        · rintro ⟨⟨s, more, ⟨rfl, rfl, reading', hreading, hlocale⟩, hmore, rfl⟩, hnodup, hnew⟩
          rw [htag] at hreading
          cases hreading
          rw [List.map_cons, List.nodup_cons] at hnodup
          rw [List.forall_mem_cons] at hnew
          refine ⟨more, ⟨hmore, hnodup.2, ?_⟩, ?_⟩
          · intro s' hs' hmem
            rcases List.mem_cons.mp hmem with heq | hmem
            · exact hnodup.1 (List.mem_map.mpr ⟨s', hs', heq.trans hlocale.symm⟩)
            · exact hnew.2 s' hs' hmem
          · obtain ⟨locale, tag, value⟩ := s
            exact congrArg (⟨·, tag, value⟩ :: more) hlocale.symm

/-- The frame of a document: its home tag, and its sections. -/
inductive IsOutline : Json → Outline → Prop
  | mk {fields : Json.Fields} {tag : String} {reading : Locale.Reading}
      {locales : List (String × Json)} {sections : List Section}
      (hdefault : fields.get? "default_locale" = some (.str tag)) (hempty : tag ≠ "")
      (htag : Locale.parse tag = .ok reading)
      (hlocales : fields.get? "locales" = some (.obj locales)) (hnil : locales ≠ [])
      (hsections : List.Forall₂ IsSection locales sections)
      (hnodup : (sections.map Section.locale).Nodup) :
      IsOutline (.obj fields) ⟨reading.locale, tag, sections⟩

theorem IsOutline.nodup_locales {document : Json} {o : Outline} (h : IsOutline document o) :
    (o.sections.map Section.locale).Nodup := by
  cases h
  assumption

theorem outline_eq_ok_iff {document : Json} {o : Outline} :
    (outline document).1 = .ok o ↔ IsOutline document o := by
  constructor
  · intro h
    unfold outline at h
    split at h
    case h_2 => cases h
    split at h
    case h_2 => cases h
    rename_i fields _ tag hdefault
    split at h
    · cases h
    rename_i hempty
    split at h
    case h_2 => cases h
    rename_i entry entries hlocales
    split at h
    · cases h
    rename_i reading htag
    obtain ⟨sections, hsections, rfl⟩ := Except.map_eq_ok_iff.mp h
    obtain ⟨hsections, hnodup, -⟩ := readSections_eq_ok_iff.mp hsections
    exact .mk hdefault hempty htag hlocales (by simp) hsections hnodup
  · intro h
    cases h with
    | @mk fields tag reading locales sections hdefault hempty htag hlocales hnil hsections hnodup =>
      have hread : (readSections [] locales).1 = .ok sections :=
        readSections_eq_ok_iff.mpr ⟨hsections, hnodup, by simp⟩
      obtain ⟨l, locales, rfl⟩ := List.exists_cons_of_ne_nil hnil
      rw [Json.Fields.get?] at hdefault hlocales
      simp only [outline, hdefault, hempty, if_false, hlocales, htag]
      exact Except.map_eq_ok_iff.mpr ⟨sections, hread, rfl⟩

end Phrasebook.Document
