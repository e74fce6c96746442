-- SUMMARY: Where no two keys want one accessor, every key has the one it wants, in any order of entries.
import Mathlib.Data.List.Basic
import Mathlib.Tactic.Common
import Phrasebook.Proofs.Book.GivenNames
import Phrasebook.Proofs.Dart.DerivedNames
import Phrasebook.Proofs.Naming.Uncontested

/-!
# The order of entries

An entry wants the accessor that it gives, and else the base name of its key. The
names that entries give are claimed before any key is named, so that entries
collide only if they want one name and not both of them give it. Without
collisions the keys that are to be named are uncontested, and every phrase has
the accessor that its entry wants: entries in another order make the same phrases
in that order.
-/

namespace Phrasebook.Document

open Naming

variable {style : Style} {names : Allocator} {document : Json} {home : Locale}
  {chapters : List Chapter} {c : Chapter} {entries entries' : List (String × Entry)}
  {e : String × Entry}

/-! ## Wanted names -/

/-- The accessor that an entry wants for its key. -/
def wantedName (names : Allocator) (style : Style) (e : String × Entry) : String :=
  e.2.accessor.getD (names.baseName { key := e.1, style })

/-- The phrase of an entry that has the accessor it wants. -/
def wantedPhrase (names : Allocator) (style : Style) (e : String × Entry) : Phrase where
  key := e.1
  accessor := wantedName names style e
  text := e.2.text
  placeholders := e.2.placeholders

/-- Two entries want one accessor, and not both of them give it. -/
def Collide (names : Allocator) (style : Style) (e e' : String × Entry) : Prop :=
  wantedName names style e = wantedName names style e' ∧
    (e.2.accessor = none ∨ e'.2.accessor = none)

/-- No two of the entries collide. -/
def NoneCollide (names : Allocator) (style : Style) (entries : List (String × Entry)) : Prop :=
  entries.Pairwise fun e e' => ¬ Collide names style e e'

instance (names : Allocator) (style : Style) (e e' : String × Entry) :
    Decidable (Collide names style e e') :=
  inferInstanceAs (Decidable (_ ∧ _))

instance (names : Allocator) (style : Style) (entries : List (String × Entry)) :
    Decidable (NoneCollide names style entries) :=
  inferInstanceAs (Decidable (entries.Pairwise _))

theorem Collide.symm {e' : String × Entry} (h : Collide names style e e') :
    Collide names style e' e :=
  ⟨h.1.symm, h.2.symm⟩

theorem NoneCollide.perm (h : NoneCollide names style entries) (hperm : entries'.Perm entries) :
    NoneCollide names style entries' :=
  (hperm.pairwise_iff fun hnot hcollide => hnot hcollide.symm).mpr h

theorem NoneCollide.not_collide {e' : String × Entry} (h : NoneCollide names style entries)
    (he : e ∈ entries) (he' : e' ∈ entries) (hne : e ≠ e') : ¬ Collide names style e e' := by
  have : Std.Symm fun e e' => ¬ Collide names style e e' :=
    ⟨fun _ _ hnot hcollide => hnot hcollide.symm⟩
  exact List.Pairwise.forall h he he' hne

/-- The entries whose keys are to be named. -/
def unnamed (entries : List (String × Entry)) : List (String × Entry) :=
  entries.filter (·.2.accessor.isNone)

/-! ## Naming -/

/-- Entries whose unnamed keys are uncontested make phrases with the accessors that they want. -/
theorem phrasesOf_of_uncontested (h : names.Uncontested (requests style (unnamed entries))) :
    (phrasesOf style [] entries names).1 = entries.map (wantedPhrase names style) := by
  induction entries generalizing names with
  | nil => rfl
  | cons e entries ih =>
    cases haccessor : e.2.accessor with
    | some name =>
      have hfirst : toPhrase style [] e.1 e.2 names = (wantedPhrase names style e, names) := by
        simp [toPhrase, wantedPhrase, wantedName, haccessor]
      have hskip : unnamed (e :: entries) = unnamed entries := by simp [unnamed, haccessor]
      rw [hskip] at h
      simp only [phrasesOf, hfirst, ih h, List.map_cons]
    | none =>
      have hkeep : requests style (unnamed (e :: entries)) =
          { key := e.1, style } :: requests style (unnamed entries) := by
        simp [unnamed, requests, haccessor]
      rw [hkeep] at h
      have hfirst : toPhrase style [] e.1 e.2 names =
          (wantedPhrase names style e, (names.allocate { key := e.1, style }).2) := by
        simp [toPhrase, wantedPhrase, wantedName, haccessor, h.allocate_eq]
      have hsame : wantedPhrase (names.allocate { key := e.1, style }).2 style =
          wantedPhrase names style := by
        funext e'
        simp only [wantedPhrase, wantedName, Allocator.baseName_allocate]
      simp only [phrasesOf, hfirst, ih h.allocate, hsame, List.map_cons]

/-! ## Claiming -/

theorem sameRules_claimEntries : names.SameRules (claimEntries names entries) := by
  induction entries generalizing names with
  | nil => exact .refl names
  | cons e entries ih =>
    have hfirst : names.SameRules (claimEntry names e.2) := by
      unfold claimEntry
      split
      · exact ⟨rfl, rfl, rfl⟩
      · exact .refl names
    exact hfirst.trans ih

/-- What is in use after the claims are the given names. -/
theorem mem_used_claimEntries {name : String} (h : name ∈ (claimEntries names entries).used) :
    name ∈ givenNames entries ∨ name ∈ names.used := by
  induction entries generalizing names with
  | nil => exact .inr h
  | cons e entries ih =>
    rcases ih h with hmem | hmem
    · obtain ⟨e', he', hname⟩ := List.mem_filterMap.mp hmem
      exact .inl (List.mem_filterMap.mpr ⟨e', List.mem_cons_of_mem e he', hname⟩)
    · have hmem : name ∈ (claimEntry names e.2).used := hmem
      cases haccessor : e.2.accessor with
      | none => exact .inr (by simpa [claimEntry, haccessor] using hmem)
      | some given =>
        rw [claimEntry, haccessor] at hmem
        rcases List.mem_cons.mp hmem with rfl | hmem
        · exact .inl (List.mem_filterMap.mpr ⟨e, List.mem_cons_self, haccessor⟩)
        · exact .inr hmem

/-- Where no entries collide, the keys that a new allocator is to name after the claims are
uncontested. -/
theorem uncontested_of_noneCollide (hgiven : names.given = []) (hused : names.used = [])
    (h : NoneCollide names style entries) :
    (claimEntries names entries).Uncontested (requests style (unnamed entries)) := by
  have hrequests : requests style (unnamed entries) =
      ((unnamed entries).map Prod.fst).map fun key => { key, style } := by
    rw [requests, List.map_map]
    rfl
  have hbase : (claimEntries names entries).baseName = names.baseName :=
    funext fun r => sameRules_claimEntries.baseName_eq r
  have hwants : ∀ e ∈ unnamed entries, e ∈ entries ∧ e.2.accessor = none ∧
      wantedName names style e = names.baseName { key := e.1, style } := by
    intro e he
    obtain ⟨hmem, hnone⟩ := List.mem_filter.mp he
    rw [Option.isNone_iff_eq_none] at hnone
    exact ⟨hmem, hnone, by rw [wantedName, hnone]; rfl⟩
  rw [hrequests]
  refine Allocator.uncontested_of_keys ?_ ?_ ?_
  · rw [hbase, List.map_map]
    refine List.pairwise_map.mpr ?_
    refine (h.filter _).imp_of_mem fun {e e'} he he' hnot heq => hnot ?_
    obtain ⟨-, hnone, hwanted⟩ := hwants e he
    obtain ⟨-, -, hwanted'⟩ := hwants e' he'
    exact ⟨hwanted.trans (heq.trans hwanted'.symm), .inl hnone⟩
  · intro key _
    rw [given?_claimEntries, Allocator.given?, hgiven]
    rfl
  · intro key hkey hmem
    obtain ⟨e, he, rfl⟩ := List.mem_map.mp hkey
    obtain ⟨hentry, hnone, hwanted⟩ := hwants e he
    rw [hbase] at hmem
    rcases mem_used_claimEntries hmem with hmem | hmem
    · obtain ⟨e', he', hname⟩ := List.mem_filterMap.mp hmem
      have hne : e ≠ e' := by
        rintro rfl
        rw [hnone] at hname
        cases hname
      have hgiven' : wantedName names style e' = names.baseName { key := e.1, style } := by
        rw [wantedName, hname]
        rfl
      exact h.not_collide hentry he' hne ⟨hwanted.trans hgiven'.symm, .inl hnone⟩
    · rw [hused] at hmem
      cases hmem

/-! ## Documents -/

theorem homeEntries_of_describes (h : Describes document home chapters) (hc : c ∈ chapters)
    (hlocale : c.locale = home) : homeEntries document = some c.entries := by
  have hnodup := nodup_locales_of_describes h
  obtain ⟨o, houtline, rfl, hsaid, hhome⟩ := describes_iff.mp h
  obtain ⟨s, hfind, c', hc', hsection, hclocale⟩ := exists_homeSection hsaid hhome
  obtain rfl : c' = c := List.inj_on_of_nodup_map hnodup hc' hc (hclocale.trans hlocale.symm)
  cases hsection with
  | @mk locale tag fields entries hentries =>
    have hread : readEntries tag fields = .ok entries := readEntries_eq_ok_iff.mpr hentries
    simp only [homeEntries, outline_eq_ok_iff.mpr houtline, hfind, hread, Except.toOption]

theorem exists_book_of_describes (style : Style) (names : Allocator)
    (hkeys : Json.DistinctKeys document) (h : Describes document home chapters) :
    ∃ b, (convert style names document).result = .ok b := by
  have hnodup := nodup_keys_of_describes hkeys h
  have hlocales := nodup_locales_of_describes h
  obtain ⟨o, houtline, rfl, hsaid, hhome⟩ := describes_iff.mp h
  obtain ⟨b, hb, -⟩ := exists_book hsaid hnodup hlocales hhome
  exact ⟨b, (convert_of_outline (outline_eq_ok_iff.mpr houtline)).1.trans hb⟩

/-- The default table of a document in which no entries collide, converted with a new allocator. -/
theorem exists_wantedPhrases (hgiven : names.given = []) (hused : names.used = [])
    (hkeys : Json.DistinctKeys document) (hdescribes : Describes document home chapters)
    (hmem : ⟨home, entries⟩ ∈ chapters) (hnone : NoneCollide names style entries) :
    ∃ b, (convert style names document).result = .ok b ∧
      b.defaultTable.phrases = entries.map (wantedPhrase names style) := by
  obtain ⟨b, hb⟩ := exists_book_of_describes style names hkeys hdescribes
  obtain ⟨found, hfound, hphrases⟩ := convert_defaultTable hb
  obtain rfl : entries = found :=
    Option.some.inj ((homeEntries_of_describes hdescribes hmem rfl).symm.trans hfound)
  have hwanted : wantedPhrase (claimEntries names entries) style = wantedPhrase names style := by
    funext e
    simp only [wantedPhrase, wantedName, sameRules_claimEntries.baseName_eq]
  rw [phrasesOf_of_uncontested (uncontested_of_noneCollide hgiven hused hnone), hwanted] at hphrases
  exact ⟨b, hb, hphrases⟩

/-- Keys with distinct base names are named by them in any order, by a new allocator for any class.
And a document in which no home entries collide has a default table in which every key has the
accessor that its entry wants; with the home entries in another order, whatever else is in the
document, the phrases of the table are the same ones. -/
theorem names_ignore_order (className : String) (style : Style) :
    let names := Dart.accessorNamesFor className
    (∀ (suffix : String) (keys order : List String),
      (keys.map fun key => names.baseName { key, style, suffix }).Nodup → order.Perm keys →
      (names.run (order.map fun key => .allocate { key, style, suffix })).1 =
        order.map fun key => some (names.baseName { key, style, suffix })) ∧
    ∀ (document document' : Json) (home : Locale) (chapters chapters' : List Chapter)
      (entries entries' : List (String × Entry)),
      Json.DistinctKeys document → Json.DistinctKeys document' →
      Describes document home chapters → Describes document' home chapters' →
      ⟨home, entries⟩ ∈ chapters → ⟨home, entries'⟩ ∈ chapters' → entries'.Perm entries →
      NoneCollide names style entries →
      ∃ b b', (convert style names document).result = .ok b ∧
        (convert style names document').result = .ok b' ∧
        b.defaultTable.phrases.map Phrase.accessor = entries.map (wantedName names style) ∧
        b'.defaultTable.phrases.Perm b.defaultTable.phrases := by
  intro names
  have hgiven : names.given = [] := Dart.accessorNamesFor_given className
  have hused : names.used = [] := Dart.accessorNamesFor_used className
  constructor
  · intro suffix keys order hbases hperm
    have hkeys : names.Uncontested (keys.map fun key => { key, style, suffix }) :=
      Allocator.uncontested_of_keys hbases (by simp [Allocator.given?, hgiven]) (by simp [hused])
    have horder := (hkeys.perm (hperm.map _)).run_eq
    rwa [List.map_map, List.map_map] at horder
  · intro document document' home chapters chapters' entries entries' hkeys hkeys' hdescribes
      hdescribes' hmem hmem' hperm hnone
    obtain ⟨b, hb, hphrases⟩ := exists_wantedPhrases hgiven hused hkeys hdescribes hmem hnone
    obtain ⟨b', hb', hphrases'⟩ :=
      exists_wantedPhrases hgiven hused hkeys' hdescribes' hmem' (hnone.perm hperm)
    refine ⟨b, b', hb, hb', ?_, ?_⟩
    · rw [hphrases, List.map_map]
      rfl
    · rw [hphrases, hphrases']
      exact hperm.map _

/-- Keys that come to a reserved word, a digit, nothing and two words. A document names two of them
beside two entries that give one name, and another one has them in another order, behind a locale
that gives names of its own. -/
theorem names_ignore_order_of_greeting :
    let names := Dart.accessorNamesFor "L10n"
    let keys := ["else", "2nd", "--", "a b"]
    let order := ["a b", "--", "else", "2nd"]
    let document : Json := .obj [("default_locale", .str "en"), ("locales", .obj [("en", .obj [
      ("a b", .str "x"), ("k", .obj [("value", .str "y"), ("escaped_key", .str "go")]),
      ("l", .obj [("value", .str "z"), ("escaped_key", .str "go")]), ("else", .str "w")])])]
    let document' : Json := .obj [("default_locale", .str "en"), ("locales", .obj [
      ("de", .obj [("a-b", .obj [("value", .str "v"), ("escaped_key", .str "aB")])]),
      ("en", .obj [
        ("l", .obj [("value", .str "z"), ("escaped_key", .str "go")]), ("else", .str "w"),
        ("a b", .str "x"), ("k", .obj [("value", .str "y"), ("escaped_key", .str "go")])])])]
    let home : Locale := { language := "en" }
    let entries : List (String × Entry) :=
      [("a b", { text := "x" }), ("k", { text := "y", accessor := some "go" }),
        ("l", { text := "z", accessor := some "go" }), ("else", { text := "w" })]
    let entries' : List (String × Entry) :=
      [("l", { text := "z", accessor := some "go" }), ("else", { text := "w" }),
        ("a b", { text := "x" }), ("k", { text := "y", accessor := some "go" })]
    let chapters : List Chapter := [⟨home, entries⟩]
    let chapters' : List Chapter :=
      [⟨{ language := "de" }, [("a-b", { text := "v", accessor := some "aB" })]⟩, ⟨home, entries'⟩]
    (keys.map fun key => names.baseName { key }).Nodup ∧ order.Perm keys ∧
    (names.run (order.map fun key => .allocate { key })).1 =
      [some "aB", some "key", some "else_", some "n2nd"] ∧
    Json.DistinctKeys document ∧ Json.DistinctKeys document' ∧
    Describes document home chapters ∧ Describes document' home chapters' ∧
    entries'.Perm entries ∧ NoneCollide names .camel entries ∧
    ∃ b b', (convert .camel names document).result = .ok b ∧
      (convert .camel names document').result = .ok b' ∧
      b.defaultTable.phrases.map Phrase.accessor = ["aB", "go", "go", "else_"] ∧
      b'.defaultTable.phrases.Perm b.defaultTable.phrases := by
  intro names keys order document document' home entries entries' chapters chapters'
  have hbases : (keys.map fun key => names.baseName { key }).Nodup := by decide
  have horder : order.Perm keys := by decide
  have hkeys : Json.DistinctKeys document := by simp [document, Json.Fields.keys]
  have hkeys' : Json.DistinctKeys document' := by simp [document', Json.Fields.keys]
  have hen : Locale.parse "en" = .ok ⟨home, none⟩ := by rfl
  have hde : Locale.parse "de" = .ok ⟨{ language := "de" }, none⟩ := by rfl
  have hgiven : ∀ text name, SaysEntry (.obj [("value", .str text), ("escaped_key", .str name)])
      { text, accessor := some name } := fun text name => .fields rfl .absent (.name name)
  have hdescribes : Describes document home chapters :=
    .mk rfl (by decide) hen rfl (by simp)
      (.cons (.mk hen (.cons ⟨rfl, .text _⟩ (.cons ⟨rfl, hgiven _ _⟩ (.cons ⟨rfl, hgiven _ _⟩
        (.cons ⟨rfl, .text _⟩ .nil))))) .nil) (by decide) (by decide)
  have hdescribes' : Describes document' home chapters' :=
    .mk rfl (by decide) hen rfl (by simp)
      (.cons (.mk hde (.cons ⟨rfl, hgiven _ _⟩ .nil))
        (.cons (.mk hen (.cons ⟨rfl, hgiven _ _⟩ (.cons ⟨rfl, .text _⟩ (.cons ⟨rfl, .text _⟩
          (.cons ⟨rfl, hgiven _ _⟩ .nil))))) .nil)) (by decide) (by decide)
  have hperm : entries'.Perm entries := by decide
  have hnone : NoneCollide names .camel entries := by decide
  obtain ⟨hnamed, hreordered⟩ := names_ignore_order "L10n" .camel
  obtain ⟨b, b', hb, hb', haccessors, hphrases⟩ := hreordered document document' home chapters
    chapters' entries entries' hkeys hkeys' hdescribes hdescribes' (by simp [chapters])
    (by simp [chapters']) hperm hnone
  refine ⟨hbases, horder, ?_, hkeys, hkeys', hdescribes, hdescribes', hperm, hnone, b, b', hb, hb',
    haccessors.trans (by decide), hphrases⟩
  exact (hnamed "_" keys order hbases horder).trans (by decide)

end Phrasebook.Document
