-- SUMMARY: What a converted book holds: a table for each chapter, a phrase for each entry.
import Mathlib.Data.List.Forall2
import Phrasebook.Proofs.Book.Format
import Phrasebook.Proofs.Json.DistinctKeys
import Phrasebook.Proofs.Locale.Subtags

/-!
# The contents of books

A document that has the format is converted, and nothing of it is lost: every
chapter makes a table in its place, and every entry a phrase in its place. Three
facts carry this from an entry to a book. Reading does not depend on the
allocator, the allocator only grows on the way, and the tables of other locales
look at no more of the home chapter than the phrases that it has made.
-/

namespace Phrasebook.Document

open Naming

variable {style : Style} {definitions : List Phrase} {tag key : String} {entry : Entry}
  {fields : List (String × Json)} {entries : List (String × Entry)} {names names' : Allocator}

/-! ## Phrases -/

/-- The phrase that an entry makes of a key that the default table defines or not. With a definition
it is accessed as that is, and has other placeholders only if it gives some. -/
inductive Makes (style : Style) (names : Allocator) (key : String) (entry : Entry) :
    Option Phrase → Phrase → Prop
  | inherited (d : Phrase) : Makes style names key entry (some d)
      { key
        accessor := d.accessor
        text := entry.text
        placeholders :=
          if entry.placeholders ≠ [] ∧ entry.placeholders ≠ d.placeholders then entry.placeholders
          else d.placeholders }
  | given {name : String} (h : entry.accessor = some name) : Makes style names key entry none
      { key, accessor := name, text := entry.text, placeholders := entry.placeholders }
  | derived {name : String} (h : entry.accessor = none)
      (hname : names.given? { key, style } = some name) : Makes style names key entry none
      { key, accessor := name, text := entry.text, placeholders := entry.placeholders }

theorem Makes.mono {definition : Option Phrase} {p : Phrase} (hgrows : names.Grows names')
    (h : Makes style names key entry definition p) : Makes style names' key entry definition p := by
  cases h with
  | inherited d => exact .inherited d
  | given h => exact .given h
  | derived h hname => exact .derived h (hgrows.given _ _ hname)

theorem makes_toPhrase : Makes style (toPhrase style definitions key entry names).2 key entry
    (definitions.find? (·.key == key)) (toPhrase style definitions key entry names).1 := by
  unfold toPhrase
  cases definitions.find? (·.key == key) with
  | some d =>
    have hplaceholders :
        (if entry.placeholders.isEmpty then d.placeholders else entry.placeholders) =
          if entry.placeholders ≠ [] ∧ entry.placeholders ≠ d.placeholders then entry.placeholders
          else d.placeholders := by
      by_cases hnil : entry.placeholders = []
      · simp [hnil]
      · by_cases heq : entry.placeholders = d.placeholders
        · simp [heq]
        · simp [hnil, heq]
    simp only [hplaceholders]
    exact .inherited d
  | none =>
    cases haccessor : entry.accessor with
    | some name => exact .given haccessor
    | none => exact .derived haccessor (Allocator.given?_allocate_self _ _)

theorem grows_toPhrase : names.Grows (toPhrase style definitions key entry names).2 := by
  unfold toPhrase
  split
  · exact .refl names
  · split
    · exact .refl names
    · exact Allocator.grows_allocate _ _

theorem grows_phrasesOf : names.Grows (phrasesOf style definitions entries names).2 := by
  induction entries generalizing names with
  | nil => exact .refl names
  | cons e entries ih => exact grows_toPhrase.trans ih

/-- Every entry makes a phrase. -/
theorem makes_phrasesOf :
    List.Forall₂ (fun e p => Makes style (phrasesOf style definitions entries names).2 e.1 e.2
        (definitions.find? (·.key == e.1)) p)
      entries (phrasesOf style definitions entries names).1 := by
  induction entries generalizing names with
  | nil => exact .nil
  | cons e entries ih =>
    have hgrows : (toPhrase style definitions e.1 e.2 names).2.Grows
        (phrasesOf style definitions (e :: entries) names).2 := grows_phrasesOf
    exact .cons (makes_toPhrase.mono hgrows) ih

/-! ## Allocators -/

theorem grows_claimEntries : names.Grows (claimEntries names entries) := by
  induction entries generalizing names with
  | nil => exact .refl names
  | cons e entries ih =>
    have hfirst : names.Grows (claimEntry names e.2) := by
      unfold claimEntry
      split
      · exact Allocator.grows_claim _ _
      · exact .refl names
    exact hfirst.trans ih

/-! ## Tables -/

/-- A section whose entries read as those of a chapter. -/
inductive SaysSection : Section → Chapter → Prop
  | mk {locale : Locale} {tag : String} {fields : List (String × Json)}
      {entries : List (String × Entry)} (h : SaysEntries fields entries) :
      SaysSection ⟨locale, tag, .obj fields⟩ ⟨locale, entries⟩

/-- A table of the phrases of a chapter, made with the definitions that are found under keys. -/
structure Holds (style : Style) (names : Allocator) (find : String → Option Phrase)
    (c : Chapter) (t : Table) : Prop where
  locale : t.locale = c.locale
  phrases : List.Forall₂ (fun e p => Makes style names e.1 e.2 (find e.1) p) c.entries t.phrases

/-- Where a chapter finds definitions. The home chapter makes them itself. -/
def definition? (definitions : List Phrase) (home : Locale) (c : Chapter) (key : String) :
    Option Phrase :=
  if c.locale = home then none else definitions.find? (·.key == key)

variable {find : String → Option Phrase} {home locale : Locale} {phrases : List Phrase}
  {sections : List Section} {chapters : List Chapter}

theorem Makes.key_eq {definition : Option Phrase} {p : Phrase}
    (h : Makes style names key entry definition p) : p.key = key := by
  cases h <;> rfl

theorem keys_of_makes
    (h : List.Forall₂ (fun e p => Makes style names e.1 e.2 (find e.1) p) entries phrases) :
    phrases.map Phrase.key = entries.map Prod.fst := by
  induction h with
  | nil => rfl
  | cons hmakes _ ih => rw [List.map_cons, List.map_cons, hmakes.key_eq, ih]

/-- Phrases with distinct keys that entries have made are a table. -/
theorem exists_holds {entries : List (String × Entry)} (hkeys : (entries.map Prod.fst).Nodup)
    (h : List.Forall₂ (fun e p => Makes style names e.1 e.2 (find e.1) p) entries phrases) :
    ∃ t, toTable locale phrases = .ok t ∧ Holds style names find ⟨locale, entries⟩ t := by
  rw [← keys_of_makes h] at hkeys
  exact ⟨⟨locale, phrases, hkeys⟩, by simp [toTable, Table.ofPhrases, hkeys, Except.mapError], rfl,
    h⟩

theorem forall₂_makes_mono (hgrows : names.Grows names')
    (h : List.Forall₂ (fun e p => Makes style names e.1 e.2 (find e.1) p) entries phrases) :
    List.Forall₂ (fun e p => Makes style names' e.1 e.2 (find e.1) p) entries phrases :=
  h.imp fun _ _ hmakes => hmakes.mono hgrows

theorem Holds.mono {c : Chapter} {t : Table} (hgrows : names.Grows names')
    (h : Holds style names find c t) : Holds style names' find c t :=
  ⟨h.locale, forall₂_makes_mono hgrows h.phrases⟩

/-- The phrases of a section. Those of the home section are the definitions. -/
def sectionPhrases (style : Style) (home : Locale) (definitions : List Phrase) (s : Section)
    (names : Allocator) : Except Fault (List Phrase) × Allocator :=
  if s.locale = home then (.ok definitions, names)
  else
    match s.entries with
    | .obj entries => toPhrases style definitions s.tag entries names
    | _ => (.error (.entriesNotObject s.tag), names)

theorem toTables_cons (s : Section) (rest : List Section) (names : Allocator) :
    toTables style home definitions (s :: rest) names =
      let phrases := sectionPhrases style home definitions s names
      match phrases.1.bind (toTable s.locale) with
      | .error fault => (.error fault, phrases.2)
      | .ok table =>
        ((toTables style home definitions rest phrases.2).1.map (table :: ·),
          (toTables style home definitions rest phrases.2).2) :=
  rfl

/-- A section says phrases, and the allocator that has named them has grown. -/
theorem exists_sectionPhrases {c : Chapter} {s : Section} (hsaid : SaysSection s c)
    (hhome : c.locale = home →
      List.Forall₂ (fun e p => Makes style names e.1 e.2 none p) c.entries definitions) :
    ∃ phrases names', sectionPhrases style home definitions s names = (.ok phrases, names') ∧
      names.Grows names' ∧
      List.Forall₂ (fun e p =>
        Makes style names' e.1 e.2 (definition? definitions home c e.1) p) c.entries phrases := by
  cases hsaid with
  | @mk locale tag fields entries hentries =>
    by_cases hlocale : locale = home
    · refine ⟨definitions, names, if_pos hlocale, .refl names, ?_⟩
      simpa only [definition?, hlocale, if_true] using hhome hlocale
    · have hentries : readEntries tag fields = .ok entries := readEntries_eq_ok_iff.mpr hentries
      have hread : toPhrases style definitions tag fields names =
          (.ok (phrasesOf style definitions entries names).1,
            (phrasesOf style definitions entries names).2) := toPhrases_of_readEntries hentries
      refine ⟨_, _, (if_neg hlocale).trans hread, grows_phrasesOf, ?_⟩
      simpa only [definition?, hlocale, if_false] using makes_phrasesOf

/-- The chapters make tables in order, once the home entries have made the definitions. -/
theorem exists_tables (hsections : List.Forall₂ SaysSection sections chapters)
    (hkeys : ∀ c ∈ chapters, (c.entries.map Prod.fst).Nodup)
    (hhome : ∀ c ∈ chapters, c.locale = home →
      List.Forall₂ (fun e p => Makes style names e.1 e.2 none p) c.entries definitions) :
    ∃ tables, (toTables style home definitions sections names).1 = .ok tables ∧
      names.Grows (toTables style home definitions sections names).2 ∧
      List.Forall₂ (fun c => Holds style (toTables style home definitions sections names).2
        (definition? definitions home c) c) chapters tables := by
  induction hsections generalizing names with
  | nil => exact ⟨[], rfl, .refl names, .nil⟩
  | @cons s c sections chapters hsaid _ ih =>
    rw [List.forall_mem_cons] at hkeys hhome
    obtain ⟨phrases, names', hphrases, hgrows, hmakes⟩ := exists_sectionPhrases hsaid hhome.1
    obtain ⟨t, ht, hholds⟩ : ∃ t, toTable s.locale phrases = .ok t ∧
        Holds style names' (definition? definitions home c) ⟨s.locale, c.entries⟩ t :=
      exists_holds hkeys.1 hmakes
    have hhome' : ∀ c ∈ chapters, c.locale = home →
        List.Forall₂ (fun e p => Makes style names' e.1 e.2 none p) c.entries definitions :=
      fun c hc hlocale => (hhome.2 c hc hlocale).imp fun _ _ hmakes => hmakes.mono hgrows
    obtain ⟨tables, htables, hmore, hrest⟩ := ih hkeys.2 hhome'
    have hlocale : s.locale = c.locale := by cases hsaid; rfl
    rw [toTables_cons]
    simp only [hphrases, Except.bind, ht]
    refine ⟨t :: tables, by rw [htables]; rfl, hgrows.trans hmore, .cons ?_ hrest⟩
    exact ⟨hholds.locale.trans hlocale, forall₂_makes_mono hmore hholds.phrases⟩

/-! ## Books -/

theorem exists_of_mem_left {α β : Type} {R : α → β → Prop} {as : List α} {bs : List β} {a : α}
    (h : List.Forall₂ R as bs) (ha : a ∈ as) : ∃ b ∈ bs, R a b := by
  induction h with
  | nil => cases ha
  | cons hab _ ih =>
    rcases List.mem_cons.mp ha with rfl | ha
    · exact ⟨_, List.mem_cons_self, hab⟩
    · obtain ⟨b, hb, hrel⟩ := ih ha
      exact ⟨b, List.mem_cons_of_mem _ hb, hrel⟩

theorem exists_forall₂ {α β : Type} {R : α → β → Prop} {as : List α} (h : ∀ a ∈ as, ∃ b, R a b) :
    ∃ bs, List.Forall₂ R as bs := by
  induction as with
  | nil => exact ⟨[], .nil⟩
  | cons a as ih =>
    rw [List.forall_mem_cons] at h
    obtain ⟨b, hb⟩ := h.1
    obtain ⟨bs, hbs⟩ := ih h.2
    exact ⟨b :: bs, .cons hb hbs⟩

theorem locales_eq_of_forall₂ (h : List.Forall₂ SaysSection sections chapters) :
    chapters.map Chapter.locale = sections.map Section.locale := by
  induction h with
  | nil => rfl
  | cons hsaid _ ih =>
    rw [List.map_cons, List.map_cons, ih]
    cases hsaid
    rfl

/-- The home section makes the definitions. -/
theorem exists_definitions {s : Section} {c : Chapter} (hsaid : SaysSection s c) :
    ∃ definitions names', defaultPhrases style s names = (.ok definitions, names') ∧
      names.Grows names' ∧
      List.Forall₂ (fun e p => Makes style names' e.1 e.2 none p) c.entries definitions := by
  cases hsaid with
  | @mk locale tag fields entries hentries =>
    have hread : readEntries tag fields = .ok entries := readEntries_eq_ok_iff.mpr hentries
    let made := phrasesOf style [] entries (claimEntries names entries)
    have hmakes : List.Forall₂ (fun e p => Makes style made.2 e.1 e.2 none p) entries made.1 :=
      makes_phrasesOf
    refine ⟨made.1, made.2, ?_, grows_claimEntries.trans grows_phrasesOf, hmakes⟩
    simp only [defaultPhrases, claimAccessors_of_readEntries hread, toPhrases_of_readEntries hread, made]

/-- The home section that is found is what the home chapter is read from. -/
theorem exists_homeSection {o : Outline} (hsections : List.Forall₂ SaysSection o.sections chapters)
    (hhome : o.defaultLocale ∈ chapters.map Chapter.locale) :
    ∃ s, o.sections.find? (·.locale == o.defaultLocale) = some s ∧
      ∃ c ∈ chapters, SaysSection s c ∧ c.locale = o.defaultLocale := by
  rw [locales_eq_of_forall₂ hsections] at hhome
  obtain ⟨s, hs, hlocale⟩ := List.mem_map.mp hhome
  obtain ⟨s, hfind⟩ : ∃ s, o.sections.find? (·.locale == o.defaultLocale) = some s :=
    Option.isSome_iff_exists.mp (List.find?_isSome.mpr ⟨s, hs, by simp [hlocale]⟩)
  have hlocale : s.locale = o.defaultLocale := by simpa using List.find?_some hfind
  obtain ⟨c, hc, hsaid⟩ := exists_of_mem_left hsections (List.mem_of_find?_eq_some hfind)
  refine ⟨s, hfind, c, hc, hsaid, ?_⟩
  cases hsaid
  exact hlocale

/-- The sections of an outline make a book, if there is a home section among them. -/
theorem exists_book {o : Outline} (hsections : List.Forall₂ SaysSection o.sections chapters)
    (hkeys : ∀ c ∈ chapters, (c.entries.map Prod.fst).Nodup)
    (hnodup : (chapters.map Chapter.locale).Nodup)
    (hhome : o.defaultLocale ∈ chapters.map Chapter.locale) :
    ∃ b, (toBook style o names).1 = .ok b ∧ b.defaultLocale = o.defaultLocale ∧
      List.Forall₂ (fun c => Holds style (toBook style o names).2
        (definition? b.defaultTable.phrases b.defaultLocale c) c) chapters b.tables := by
  obtain ⟨s, hfind, c, hc, hsaid, hclocale⟩ := exists_homeSection hsections hhome
  obtain ⟨definitions, names', hdefault, hgrows, hmakes⟩ : ∃ definitions names',
      defaultPhrases style s names = (.ok definitions, names') ∧ names.Grows names' ∧
      List.Forall₂ (fun e p => Makes style names' e.1 e.2 none p) c.entries definitions :=
    exists_definitions hsaid
  have hmakes' : ∀ c' ∈ chapters, c'.locale = o.defaultLocale →
      List.Forall₂ (fun e p => Makes style names' e.1 e.2 none p) c'.entries definitions := by
    intro c' hc' hlocale'
    obtain rfl := List.inj_on_of_nodup_map hnodup hc' hc (hlocale'.trans hclocale.symm)
    exact hmakes
  obtain ⟨tables, htables, -, hholds⟩ := exists_tables hsections hkeys hmakes'
  have hmem : ∃ t ∈ tables, t.locale = o.defaultLocale := by
    obtain ⟨t, ht, hholds⟩ := exists_of_mem_left hholds hc
    exact ⟨t, ht, hholds.locale.trans hclocale⟩
  let b : Book := ⟨o.defaultLocale, tables, hmem⟩
  have hphrases : b.defaultTable.phrases = definitions :=
    (toTables_eq_ok htables).2 _ b.defaultTable_mem.1 b.defaultTable_mem.2
  have hbook : toBook style o names = (.ok b,
      (toTables style o.defaultLocale definitions o.sections names').2) := by
    simp only [toBook, hfind, hdefault, htables, Except.bind, Book.ofTables, dif_pos hmem,
      Except.mapError, b]
  rw [hbook]
  exact ⟨b, rfl, rfl, hphrases ▸ hholds⟩

theorem exists_readEntries_of_toPhrases
    (h : (toPhrases style definitions tag fields names).1 = .ok phrases) :
    ∃ entries, readEntries tag fields = .ok entries := by
  induction fields generalizing names phrases with
  | nil => exact ⟨[], rfl⟩
  | cons f rest ih =>
    obtain ⟨key, value⟩ := f
    rw [toPhrases] at h
    cases hread : readEntry tag key value with
    | error fault => simp [hread] at h
    | ok entry =>
      simp only [hread] at h
      obtain ⟨more, hmore, -⟩ := Except.map_eq_ok_iff.mp h
      obtain ⟨entries, hentries⟩ := ih hmore
      exact ⟨(key, entry) :: entries, by simp [readEntries, hread, hentries, Except.map]⟩

/-- Sections that make tables have the format, the home section apart. -/
theorem exists_chapter_of_toTables {tables : List Table}
    (h : (toTables style home definitions sections names).1 = .ok tables) :
    ∀ s ∈ sections, s.locale ≠ home → ∃ c, SaysSection s c := by
  induction sections generalizing names tables with
  | nil => simp
  | cons s rest ih =>
    rw [toTables_cons] at h
    cases hphrases : (sectionPhrases style home definitions s names).1.bind (toTable s.locale) with
    | error fault => simp [hphrases] at h
    | ok t =>
      simp only [hphrases] at h
      obtain ⟨more, hmore, -⟩ := Except.map_eq_ok_iff.mp h
      refine List.forall_mem_cons.mpr ⟨?_, ih hmore⟩
      intro hlocale
      obtain ⟨phrases, hread, -⟩ := Except.bind_eq_ok_iff.mp hphrases
      obtain ⟨locale, tag, value⟩ := s
      rw [sectionPhrases, if_neg hlocale] at hread
      cases value with
      | obj fields =>
        obtain ⟨entries, hentries⟩ := exists_readEntries_of_toPhrases hread
        exact ⟨_, .mk (readEntries_eq_ok_iff.mp hentries)⟩
      | _ => simp at hread

/-- Sections that make a book have the format. -/
theorem exists_chapters_of_toBook {o : Outline} {b : Book}
    (hnodup : (o.sections.map Section.locale).Nodup) (h : (toBook style o names).1 = .ok b) :
    ∃ chapters, List.Forall₂ SaysSection o.sections chapters ∧
      o.defaultLocale ∈ chapters.map Chapter.locale := by
  rw [toBook] at h
  cases hfind : o.sections.find? (·.locale == o.defaultLocale) with
  | none => simp [hfind] at h
  | some s =>
    have hs := List.mem_of_find?_eq_some hfind
    have hlocale : s.locale = o.defaultLocale := by simpa using List.find?_some hfind
    simp only [hfind] at h
    cases hdefault : defaultPhrases style s names with
    | mk result names' =>
      cases result with
      | error fault => simp [hdefault] at h
      | ok definitions =>
        simp only [hdefault] at h
        obtain ⟨tables, htables, -⟩ := Except.bind_eq_ok_iff.mp h
        obtain ⟨chapters, hchapters⟩ : ∃ chapters, List.Forall₂ SaysSection o.sections chapters := by
          refine exists_forall₂ fun s' hs' => ?_
          by_cases hother : s'.locale = o.defaultLocale
          · obtain rfl := List.inj_on_of_nodup_map hnodup hs' hs (hother.trans hlocale.symm)
            obtain ⟨fields, entries, hvalue, hread, -⟩ :=
              defaultPhrases_eq_ok_iff.mp (congrArg Prod.fst hdefault)
            obtain ⟨locale, tag, value⟩ := s'
            obtain rfl : value = .obj fields := hvalue
            exact ⟨_, .mk (readEntries_eq_ok_iff.mp hread)⟩
          · exact exists_chapter_of_toTables htables s' hs' hother
        refine ⟨chapters, hchapters, ?_⟩
        rw [locales_eq_of_forall₂ hchapters, ← hlocale]
        exact List.mem_map_of_mem hs

/-! ## Documents -/

theorem saysChapter_iff {l : String × Json} {c : Chapter} :
    SaysChapter l c ↔ ∃ s, IsSection l s ∧ SaysSection s c := by
  constructor
  · intro h
    cases h with
    | mk htag hentries => exact ⟨_, ⟨rfl, rfl, _, htag, rfl⟩, .mk hentries⟩
  · rintro ⟨s, ⟨htag, hvalue, reading, hreading, hlocale⟩, hsaid⟩
    cases hsaid with
    | mk hentries =>
      obtain ⟨tag, value⟩ := l
      cases hvalue
      cases hlocale
      exact .mk hreading hentries

theorem forall₂_saysChapter_iff {locales : List (String × Json)} :
    List.Forall₂ SaysChapter locales chapters ↔
      ∃ sections, List.Forall₂ IsSection locales sections ∧
        List.Forall₂ SaysSection sections chapters := by
  constructor
  · intro h
    induction h with
    | nil => exact ⟨[], .nil, .nil⟩
    | cons hsaid _ ih =>
      obtain ⟨s, hs, hc⟩ := saysChapter_iff.mp hsaid
      obtain ⟨sections, hsections, hchapters⟩ := ih
      exact ⟨s :: sections, .cons hs hsections, .cons hc hchapters⟩
  · rintro ⟨sections, hsections, hchapters⟩
    induction hsections generalizing chapters with
    | nil =>
      cases hchapters
      exact .nil
    | cons hs _ ih =>
      cases hchapters with
      | cons hc hchapters => exact .cons (saysChapter_iff.mpr ⟨_, hs, hc⟩) (ih hchapters)

/-- A document describes chapters if the sections of its outline do, one of them the home one. -/
theorem describes_iff {document : Json} :
    Describes document home chapters ↔ ∃ o, IsOutline document o ∧ o.defaultLocale = home ∧
      List.Forall₂ SaysSection o.sections chapters ∧ home ∈ chapters.map Chapter.locale := by
  constructor
  · intro h
    cases h with
    | mk hdefault hempty htag hlocales hnil hchapters hnodup hhome =>
      obtain ⟨sections, hsections, hsaid⟩ := forall₂_saysChapter_iff.mp hchapters
      rw [locales_eq_of_forall₂ hsaid] at hnodup
      exact ⟨_, .mk hdefault hempty htag hlocales hnil hsections hnodup, rfl, hsaid, hhome⟩
  · rintro ⟨o, houtline, rfl, hsaid, hhome⟩
    cases houtline with
    | mk hdefault hempty htag hlocales hnil hsections hnodup =>
      rw [← locales_eq_of_forall₂ hsaid] at hnodup
      exact .mk hdefault hempty htag hlocales hnil
        (forall₂_saysChapter_iff.mpr ⟨_, hsections, hsaid⟩) hnodup hhome

theorem nodup_locales_of_describes {document : Json} (h : Describes document home chapters) :
    (chapters.map Chapter.locale).Nodup := by
  cases h with
  | mk _ _ _ _ _ _ hnodup _ => exact hnodup

/-- In an object every key stands once, and so it does in a chapter. -/
theorem nodup_keys_of_describes {document : Json} (hkeys : Json.DistinctKeys document)
    (h : Describes document home chapters) : ∀ c ∈ chapters, (c.entries.map Prod.fst).Nodup := by
  intro c hc
  cases h with
  | mk _ _ _ hlocales _ hchapters _ _ =>
    obtain ⟨l, hl, hsaid⟩ := exists_of_mem_left hchapters.flip hc
    have hvalue := (hkeys.of_get? hlocales).of_mem hl
    cases hsaid with
    | mk htag hentries =>
      rw [hentries.keys_eq]
      exact hvalue.nodup_keys

/-- What comes of the outline of a document. -/
theorem convert_of_outline {document : Json} {o : Outline} (h : (outline document).1 = .ok o) :
    (convert style names document).result = (toBook style o names).1 ∧
      (convert style names document).names = (toBook style o names).2 := by
  unfold convert
  cases houtline : outline document with
  | mk result notices =>
    rw [houtline] at h
    cases h
    exact ⟨rfl, rfl⟩

theorem exists_outline_of_convert {document : Json} {b : Book}
    (h : (convert style names document).result = .ok b) : ∃ o, (outline document).1 = .ok o := by
  unfold convert at h
  cases houtline : outline document with
  | mk result notices =>
    cases result with
    | error fault => simp [houtline] at h
    | ok o => exact ⟨o, rfl⟩

/-- A book has a table for each section. -/
theorem locales_of_toBook {o : Outline} {b : Book} (h : (toBook style o names).1 = .ok b) :
    b.tables.map Table.locale = o.sections.map Section.locale := by
  rw [toBook] at h
  split at h
  · cases h
  · split at h
    · cases h
    · obtain ⟨tables, htables, hbook⟩ := Except.bind_eq_ok_iff.mp h
      rw [(Book.ofTables_eq_ok (Except.mapError_eq_ok_iff.mp hbook)).2]
      exact (toTables_eq_ok htables).1

/-- The tables of a converted book have locales that are read from tags, no two the same. -/
theorem locales_of_convert {document : Json} {b : Book}
    (h : (convert style names document).result = .ok b) :
    (b.tables.map Table.locale).Nodup ∧ ∀ t ∈ b.tables, t.locale.IsRead := by
  obtain ⟨o, ho⟩ := exists_outline_of_convert h
  rw [(convert_of_outline ho).1] at h
  have hlocales := locales_of_toBook h
  have houtline := outline_eq_ok_iff.mp ho
  refine ⟨hlocales ▸ houtline.nodup_locales, fun t ht => ?_⟩
  have hmem : t.locale ∈ o.sections.map Section.locale := hlocales ▸ List.mem_map_of_mem ht
  obtain ⟨s, hs, hlocale⟩ := List.mem_map.mp hmem
  cases houtline with
  | mk hdefault hempty htag hlocales hnil hsections hnodup =>
    obtain ⟨l, -, -, -, reading, hreading, hread⟩ := exists_of_mem_left hsections.flip hs
    exact ⟨_, reading, hreading, (hlocale.symm.trans hread).symm⟩

/-- Which documents are converted, and what the books hold. A document makes a book exactly if it
has the format, and is refused with a fault in every other case. Its book has a table for each
chapter in order, and in it a phrase for each entry in order. -/
theorem convert_format (style : Style) (names : Allocator) {document : Json}
    (hkeys : Json.DistinctKeys document) :
    let conversion := convert style names document
    ((∃ b, conversion.result = .ok b) ↔ ∃ home chapters, Describes document home chapters) ∧
    ((¬ ∃ home chapters, Describes document home chapters) →
      ∃ fault, conversion.result = .error fault) ∧
    ∀ home chapters, Describes document home chapters →
      ∃ b, conversion.result = .ok b ∧ b.defaultLocale = home ∧
        List.Forall₂ (fun c => Holds style conversion.names
          (definition? b.defaultTable.phrases home c) c) chapters b.tables := by
  intro conversion
  have hforward : ∀ home chapters, Describes document home chapters →
      ∃ b, conversion.result = .ok b ∧ b.defaultLocale = home ∧
        List.Forall₂ (fun c => Holds style conversion.names
          (definition? b.defaultTable.phrases home c) c) chapters b.tables := by
    intro home chapters hdescribes
    have hnodup := nodup_keys_of_describes hkeys hdescribes
    obtain ⟨o, houtline, rfl, hsaid, hhome⟩ := describes_iff.mp hdescribes
    obtain ⟨hresult, hnames⟩ : conversion.result = (toBook style o names).1 ∧
        conversion.names = (toBook style o names).2 :=
      convert_of_outline (outline_eq_ok_iff.mpr houtline)
    have hlocales : (chapters.map Chapter.locale).Nodup := by
      rw [locales_eq_of_forall₂ hsaid]
      exact houtline.nodup_locales
    obtain ⟨b, hb, hlocale, hholds⟩ := exists_book hsaid hnodup hlocales hhome
    refine ⟨b, hresult.trans hb, hlocale, ?_⟩
    rw [← hlocale, hnames]
    exact hholds
  have hbackward : ∀ b, conversion.result = .ok b →
      ∃ home chapters, Describes document home chapters := by
    intro b hb
    obtain ⟨o, ho⟩ := exists_outline_of_convert hb
    have houtline := outline_eq_ok_iff.mp ho
    rw [(convert_of_outline ho).1] at hb
    obtain ⟨chapters, hsaid, hhome⟩ := exists_chapters_of_toBook houtline.nodup_locales hb
    exact ⟨_, chapters, describes_iff.mpr ⟨o, houtline, rfl, hsaid, hhome⟩⟩
  refine ⟨⟨?_, ?_⟩, ?_, hforward⟩
  · rintro ⟨b, hb⟩
    exact hbackward b hb
  · rintro ⟨home, chapters, hdescribes⟩
    obtain ⟨b, hb, -⟩ := hforward home chapters hdescribes
    exact ⟨b, hb⟩
  · intro hnot
    cases hresult : conversion.result with
    | ok b => exact absurd (hbackward b hresult) hnot
    | error fault => exact ⟨fault, rfl⟩

/-- A document whose home chapter comes last. The other one gives placeholders of its own for a key
that is defined, and has a key that is not. -/
theorem convert_format_of_greeting :
    let document : Json := .obj [("default_locale", .str "en"), ("locales", .obj [
      ("de-AT", .obj [("greet", .obj [("value", .str "Servus"), ("placeholders", .arr [.str "n"])]),
        ("only", .str "nur")]),
      ("en", .obj [("greet", .obj [("value", .str "Hi"), ("placeholders", .arr [.str "name"]),
        ("escaped_key", .str "greeting")])])])]
    let home : Locale := { language := "en" }
    let chapters : List Chapter := [
      ⟨{ language := "de", country := some "AT" },
        [("greet", { text := "Servus", placeholders := ["n"] }), ("only", { text := "nur" })]⟩,
      ⟨home, [("greet",
        { text := "Hi", placeholders := ["name"], accessor := some "greeting" })]⟩]
    Json.DistinctKeys document ∧ Describes document home chapters ∧
    ∃ b, (convert .camel {} document).result = .ok b ∧ b.defaultLocale = home ∧
      List.Forall₂ (fun c => Holds .camel (convert .camel {} document).names
        (definition? b.defaultTable.phrases home c) c) chapters b.tables := by
  intro document home chapters
  have hkeys : Json.DistinctKeys document := by
    simp [document, Json.Fields.keys]
  have hdescribes : Describes document home chapters := by
    have hde : SaysEntry (.obj [("value", .str "Servus"), ("placeholders", .arr [.str "n"])])
        { text := "Servus", placeholders := ["n"] } := .fields rfl (.names ["n"]) .absent
    have hen : SaysEntry (.obj [("value", .str "Hi"), ("placeholders", .arr [.str "name"]),
        ("escaped_key", .str "greeting")])
        { text := "Hi", placeholders := ["name"], accessor := some "greeting" } :=
      .fields rfl (.names ["name"]) (.name "greeting")
    have htag : Locale.parse "en" = .ok ⟨home, none⟩ := by rfl
    have htag' : Locale.parse "de-AT" = .ok ⟨{ language := "de", country := some "AT" }, none⟩ := by
      rfl
    exact .mk rfl (by decide) htag rfl (by simp)
      (.cons (.mk htag' (.cons ⟨rfl, hde⟩ (.cons ⟨rfl, .text _⟩ .nil)))
        (.cons (.mk htag (.cons ⟨rfl, hen⟩ .nil)) .nil)) (by decide) (by decide)
  obtain ⟨b, hb, hlocale, hholds⟩ := (convert_format .camel {} hkeys).2.2 home chapters hdescribes
  exact ⟨hkeys, hdescribes, b, hb, hlocale, hholds⟩

end Phrasebook.Document
