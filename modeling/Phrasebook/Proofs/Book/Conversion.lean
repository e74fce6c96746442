-- SUMMARY: What a converted document consists of: its entries are read first, then named.
import Mathlib.Data.List.Basic
import Phrasebook.Book.Document
import Phrasebook.Proofs.Book.Tables
import Phrasebook.Proofs.Naming.Memory
import Phrasebook.Proofs.Outcome

/-!
# Conversion

Reading an entry and naming it are interleaved when a document is converted, but
they do not depend on each other. Here they are taken apart: `readEntries` reads
all entries of a section, `phrasesOf` names entries that are read, and a
conversion that succeeds is the second after the first. The default table of its
book is then a function of the home entries and the allocator alone.
-/

namespace Phrasebook.Document

open Naming

variable {style : Style} {definitions phrases : List Phrase} {tag : String}
  {fields : List (String × Json)} {entries : List (String × Entry)} {names : Allocator}

/-! ## Reading -/

/-- The entries of a section, each as it reads. -/
def readEntries (tag : String) : List (String × Json) → Except Fault (List (String × Entry))
  | [] => .ok []
  | (key, value) :: rest =>
    match readEntry tag key value with
    | .error fault => .error fault
    | .ok entry => (readEntries tag rest).map ((key, entry) :: ·)

/-- The entries of the default locale, each as it reads, if the document is well-formed that far. -/
def homeEntries (document : Json) : Option (List (String × Entry)) :=
  match (outline document).1 with
  | .error _ => none
  | .ok o =>
    match o.sections.find? (·.locale == o.defaultLocale) with
    | some { tag, entries := .obj fields, .. } => (readEntries tag fields).toOption
    | _ => none

/-! ## Claiming -/

/-- Claim the accessor name that an entry gives. -/
def claimEntry (names : Allocator) (entry : Entry) : Allocator :=
  match entry.accessor with
  | some name => names.claim name
  | none => names

/-- Claim every accessor name that the entries give. -/
def claimEntries (names : Allocator) (entries : List (String × Entry)) : Allocator :=
  entries.foldl (fun names e => claimEntry names e.2) names

theorem claimEntries_of_not_given (h : ∀ e ∈ entries, e.2.accessor = none) :
    claimEntries names entries = names := by
  induction entries with
  | nil => rfl
  | cons e entries ih =>
    rw [List.forall_mem_cons] at h
    have hclaim : claimEntry names e.2 = names := by simp [claimEntry, h.1]
    rw [claimEntries, List.foldl_cons, hclaim]
    exact ih h.2

theorem claimAccessors_of_readEntries (h : readEntries tag fields = .ok entries) :
    claimAccessors tag fields names = (.ok (), claimEntries names entries) := by
  induction fields generalizing entries names with
  | nil =>
    cases h
    rfl
  | cons f rest ih =>
    obtain ⟨key, value⟩ := f
    rw [readEntries] at h
    rw [claimAccessors]
    cases hread : readEntry tag key value with
    | error fault => simp [hread] at h
    | ok entry =>
      simp only [hread] at h ⊢
      obtain ⟨more, hmore, rfl⟩ := Except.map_eq_ok_iff.mp h
      exact ih hmore

theorem exists_readEntries_of_claimAccessors (h : (claimAccessors tag fields names).1 = .ok ()) :
    ∃ entries, readEntries tag fields = .ok entries := by
  induction fields generalizing names with
  | nil => exact ⟨[], rfl⟩
  | cons f rest ih =>
    obtain ⟨key, value⟩ := f
    rw [claimAccessors] at h
    cases hread : readEntry tag key value with
    | error fault => simp [hread] at h
    | ok entry =>
      simp only [hread] at h
      obtain ⟨more, hmore⟩ := ih h
      exact ⟨(key, entry) :: more, by simp [readEntries, hread, hmore, Except.map]⟩

/-! ## Naming -/

/-- The phrases of entries, in order, and the allocator after them. -/
def phrasesOf (style : Style) (definitions : List Phrase) :
    List (String × Entry) → Allocator → List Phrase × Allocator
  | [], names => ([], names)
  | (key, entry) :: rest, names =>
    let (phrase, names) := toPhrase style definitions key entry names
    let (phrases, names) := phrasesOf style definitions rest names
    (phrase :: phrases, names)

theorem toPhrases_of_readEntries (h : readEntries tag fields = .ok entries) :
    toPhrases style definitions tag fields names =
      (.ok (phrasesOf style definitions entries names).1,
        (phrasesOf style definitions entries names).2) := by
  induction fields generalizing entries names with
  | nil =>
    cases h
    rfl
  | cons f rest ih =>
    obtain ⟨key, value⟩ := f
    rw [readEntries] at h
    rw [toPhrases]
    cases hread : readEntry tag key value with
    | error fault => simp [hread] at h
    | ok entry =>
      simp only [hread] at h ⊢
      obtain ⟨more, hmore, rfl⟩ := Except.map_eq_ok_iff.mp h
      rw [ih hmore]
      rfl

/-- The phrases of a well-formed home section: its names are claimed before any is derived. -/
theorem defaultPhrases_eq_ok_iff {home : Section} :
    (defaultPhrases style home names).1 = .ok phrases ↔
      ∃ fields entries, home.entries = .obj fields ∧ readEntries home.tag fields = .ok entries ∧
        (phrasesOf style [] entries (claimEntries names entries)).1 = phrases := by
  unfold defaultPhrases
  cases hhome : home.entries with
  | obj fields =>
    constructor
    · intro h
      have hclaimed : (claimAccessors home.tag fields names).1 = .ok () := by
        cases hclaim : claimAccessors home.tag fields names with
        | mk result names' =>
          cases result with
          | error fault => simp [hclaim] at h
          | ok => rfl
      obtain ⟨entries, hread⟩ := exists_readEntries_of_claimAccessors hclaimed
      simp only [claimAccessors_of_readEntries hread, toPhrases_of_readEntries hread] at h
      exact ⟨fields, entries, rfl, hread, Except.ok.inj h⟩
    · rintro ⟨fields', entries, hfields, hread, rfl⟩
      cases hfields
      simp only [claimAccessors_of_readEntries hread, toPhrases_of_readEntries hread]
  | _ => simp

@[simp] theorem toPhrase_key (key : String) (entry : Entry) :
    (toPhrase style definitions key entry names).1.key = key := by
  unfold toPhrase
  split
  · rfl
  · split <;> rfl

theorem phrasesOf_keys :
    (phrasesOf style definitions entries names).1.map Phrase.key = entries.map Prod.fst := by
  induction entries generalizing names with
  | nil => rfl
  | cons e entries ih => simp [phrasesOf, ih]

/-- Without definitions, phrases keep the placeholders of their entries. -/
theorem phrasesOf_placeholders :
    (phrasesOf style [] entries names).1.map Phrase.placeholders =
      entries.map fun e => e.2.placeholders := by
  induction entries generalizing names with
  | nil => rfl
  | cons e entries ih =>
    have hfirst : (toPhrase style [] e.1 e.2 names).1.placeholders = e.2.placeholders := by
      unfold toPhrase
      cases e.2.accessor <;> rfl
    simp [phrasesOf, hfirst, ih]

/-- The requests by which entries without accessor names are named. -/
def requests (style : Style) (entries : List (String × Entry)) : List Request :=
  entries.map fun e => { key := e.1, style }

/-- Without definitions and given names, the accessors are the answers to the keys in order. -/
theorem phrasesOf_accessors (h : ∀ e ∈ entries, e.2.accessor = none) :
    (phrasesOf style [] entries names).1.map (fun p => some p.accessor) =
      (names.run ((requests style entries).map .allocate)).1 := by
  induction entries generalizing names with
  | nil => rfl
  | cons e entries ih =>
    rw [List.forall_mem_cons] at h
    have hfirst : toPhrase style [] e.1 e.2 names =
        (⟨e.1, (names.allocate { key := e.1, style }).1, e.2.text, e.2.placeholders⟩,
          (names.allocate { key := e.1, style }).2) := by
      simp [toPhrase, h.1]
    simp only [phrasesOf, hfirst, List.map_cons, ih h.2]
    rfl

/-! ## Books -/

/-- The tables stand in the order of the sections, and the default one holds the definitions. -/
theorem toTables_eq_ok {defaultLocale : Locale} {sections : List Section} {tables : List Table}
    (h : (toTables style defaultLocale definitions sections names).1 = .ok tables) :
    tables.map Table.locale = sections.map Section.locale ∧
      ∀ t ∈ tables, t.locale = defaultLocale → t.phrases = definitions := by
  induction sections generalizing names tables with
  | nil =>
    cases h
    exact ⟨rfl, by simp⟩
  | cons s rest ih =>
    rw [toTables] at h
    split at h
    rename_i result names' hresult
    split at h
    · cases h
    · rename_i table htable
      obtain ⟨more, hmore, rfl⟩ := Except.map_eq_ok_iff.mp h
      obtain ⟨found, hfound, hphrases⟩ := Except.bind_eq_ok_iff.mp htable
      obtain ⟨hlocale, hdefault⟩ := ih hmore
      obtain ⟨htl, htp⟩ := Table.ofPhrases_eq_ok_iff.mp (Except.mapError_eq_ok_iff.mp hphrases)
      refine ⟨by simp [htl, hlocale], ?_⟩
      intro t ht hdl
      rcases List.mem_cons.mp ht with rfl | ht
      · rw [if_pos (htl.symm.trans hdl)] at hresult
        cases hresult
        exact htp.trans (Except.ok.inj hfound).symm
      · exact hdefault t ht hdl

/-- The default table of a converted document names the home entries, after the accessor names that
they give are claimed. -/
theorem convert_defaultTable {document : Json} {b : Book}
    (h : (convert style names document).result = .ok b) :
    ∃ entries, homeEntries document = some entries ∧
      b.defaultTable.phrases = (phrasesOf style [] entries (claimEntries names entries)).1 := by
  unfold convert at h
  unfold homeEntries
  cases houtline : outline document with
  | mk result notices =>
    cases result with
    | error fault => simp [houtline] at h
    | ok o =>
      simp only [houtline] at h ⊢
      rw [toBook] at h
      cases hhome : o.sections.find? (·.locale == o.defaultLocale) with
      | none => simp [hhome] at h
      | some home =>
        simp only [hhome] at h ⊢
        cases hdefault : defaultPhrases style home names with
        | mk result names' =>
          cases result with
          | error fault => simp [hdefault] at h
          | ok definitions =>
            simp only [hdefault] at h
            obtain ⟨tables, htables, hbook⟩ := Except.bind_eq_ok_iff.mp h
            obtain ⟨hlocale, hbtables⟩ := Book.ofTables_eq_ok (Except.mapError_eq_ok_iff.mp hbook)
            obtain ⟨fields, entries, hfields, hread, hphrases⟩ :=
              defaultPhrases_eq_ok_iff.mp (congrArg Prod.fst hdefault)
            obtain ⟨hmem, hdl⟩ := b.defaultTable_mem
            have hdefs := (toTables_eq_ok htables).2 b.defaultTable (hbtables ▸ hmem)
              (hdl.trans hlocale)
            refine ⟨entries, ?_, hdefs.trans hphrases.symm⟩
            obtain ⟨locale, tag, value⟩ := home
            cases hfields
            simp [hread, Except.toOption]

end Phrasebook.Document
