-- SUMMARY: Two keys share an accessor exactly if both of their entries give it.
import Phrasebook.Generation
import Phrasebook.Proofs.Book.GivenNames
import Phrasebook.Proofs.Dart.AcceptedNames
import Phrasebook.Proofs.Dart.DerivedNames
import Phrasebook.Proofs.Generation.Spelling

/-!
# Collisions

An allocator that nobody has used gives every key a name of its own, and none that
an entry gives. Two keys of a converted document are therefore accessed by one
name only if both entries ask for it, and the emitter finds one accessor twice
only in a book of such a document.
-/

namespace Phrasebook

open Naming

namespace Document

variable {style : Style} {asked : List String} {names names' : Allocator} {document : Json}
  {b : Book} {entries : List (String × Entry)} {phrases : List Phrase} {p q : Phrase}
  {key name : String}

/-! ## Soundness -/

theorem LeadsTo.sound (h : LeadsTo style asked names names') (hsound : names.Sound) :
    names'.Sound := by
  obtain ⟨steps, -, rfl⟩ := h
  exact hsound.run steps

theorem leadsTo_claimEntries : LeadsTo style asked names (claimEntries names entries) := by
  induction entries generalizing names with
  | nil => exact .refl style asked names
  | cons e entries ih => exact (leadsTo_claimEntry names e.2).trans ih

/-! ## Where accessors come from -/

/-- An entry of the key gives the name. -/
def GivesName (entries : List (String × Entry)) (key name : String) : Prop :=
  ∃ e ∈ entries, e.1 = key ∧ e.2.accessor = some name

/-- A phrase that is accessed by a name that the allocator remembers for its key and no entry
gives. -/
structure IsDerived (style : Style) (names : Allocator) (entries : List (String × Entry))
    (p : Phrase) : Prop where
  remembered : names.given? { key := p.key, style } = some p.accessor
  not_given : p.accessor ∉ givenNames entries

theorem GivesName.mem_givenNames (h : GivesName entries key name) : name ∈ givenNames entries := by
  obtain ⟨e, he, -, hname⟩ := h
  exact List.mem_filterMap.mpr ⟨e, he, hname⟩

/-- The phrases of the home entries, after a conversion with an allocator that has given nothing. -/
structure HomePhrases (style : Style) (names : Allocator) (entries : List (String × Entry))
    (phrases : List Phrase) : Prop where
  keys : phrases.map Phrase.key = entries.map Prod.fst
  sound : names.Sound
  accessor : ∀ p ∈ phrases, GivesName entries p.key p.accessor ∨ IsDerived style names entries p
  given : ∀ p ∈ phrases, ∀ name, GivesName entries p.key name → p.accessor = name

theorem exists_homePhrases (hnew : names.given = [])
    (h : (convert style names document).result = .ok b) :
    ∃ entries names', homeEntries document = some entries ∧
      HomePhrases style names' entries b.defaultTable.phrases := by
  obtain ⟨entries, hentries, hphrases⟩ := convert_defaultTable h
  let names' := (phrasesOf style [] entries (claimEntries names entries)).2
  have hleads : LeadsTo style (entries.map Prod.fst) (claimEntries names entries) names' :=
    leadsTo_phrasesOf (List.Subset.refl _)
  have hmakes : List.Forall₂ (fun e p => Makes style names' e.1 e.2 none p) entries
      b.defaultTable.phrases := hphrases ▸ makes_phrasesOf
  have hnone : ∀ r, names.given? r = none := by
    intro r
    rw [Allocator.given?, hnew]
    rfl
  refine ⟨entries, names', hentries, by rw [hphrases, phrasesOf_keys], ?_, ?_, ?_⟩
  · have hclaims : LeadsTo style [] names (claimEntries names entries) := leadsTo_claimEntries
    exact hleads.sound (hclaims.sound (Allocator.sound_of_given_nil hnew))
  · intro p hp
    obtain ⟨e, he, hmade⟩ := exists_of_mem_left hmakes.flip hp
    have hnamed : Named style names entries e p := named_of_makes hleads hmade
    cases hmade with
    | given hgiven => exact .inl ⟨e, he, rfl, hgiven⟩
    | derived hnot hderived =>
      refine .inr ⟨hderived, fun hmem => ?_⟩
      have hgiven := (hnamed.derived hnot _ hmem).mp rfl
      rw [hnone] at hgiven
      cases hgiven
  · rintro p hp name ⟨e, he, hkey, hname⟩
    obtain ⟨p', hp', hmade⟩ := exists_of_mem_left hmakes he
    have hnamed : Named style names entries e p' := named_of_makes hleads hmade
    obtain rfl : p' = p :=
      List.inj_on_of_nodup_map b.defaultTable.keys_nodup hp' hp (hnamed.key.trans hkey)
    exact hnamed.given name hname

/-- Phrases of different keys have one accessor exactly if the entries of both give it. -/
theorem HomePhrases.accessor_iff (h : HomePhrases style names entries phrases) (hp : p ∈ phrases)
    (hq : q ∈ phrases) (hkey : p.key ≠ q.key) :
    p.accessor = name ∧ q.accessor = name ↔
      GivesName entries p.key name ∧ GivesName entries q.key name := by
  constructor
  · rintro ⟨rfl, hsame⟩
    rcases h.accessor p hp with hpgiven | hpderived
    · rcases h.accessor q hq with hqgiven | hqderived
      · exact ⟨hpgiven, hsame ▸ hqgiven⟩
      · exact absurd (hsame ▸ hpgiven.mem_givenNames) hqderived.not_given
    · rcases h.accessor q hq with hqgiven | hqderived
      · exact absurd (hsame ▸ hqgiven.mem_givenNames) hpderived.not_given
      · have hlabels : Request.label { key := p.key, style } = Request.label { key := q.key, style } ↔
            p.key = q.key := Request.label_eq_iff rfl rfl
        have hlabel := h.sound.label_eq hpderived.remembered (hsame ▸ hqderived.remembered)
        exact absurd (hlabels.mp hlabel) hkey
  · rintro ⟨hpgiven, hqgiven⟩
    exact ⟨h.given p hp name hpgiven, h.given q hq name hqgiven⟩

end Document

/-! ## Faults of names -/

namespace Dart

variable {className : Json} {names : Allocator} {g : Generator} {document : Json} {b : Book}
  {fault : NameFault} {notices : List Notice}

theorem accessorNamesOf_given (h : accessorNamesOf className = .ok names) : names.given = [] := by
  unfold accessorNamesOf at h
  split at h
  · split at h
    · cases h
      exact accessorNamesFor_given _
    · cases h
    · cases h
    · cases h
      rfl
  · cases h
    rfl

theorem Generator.checkNames_of_run
    (h : g.toGenerator.run b = (.failure (.generation (.names fault)), notices)) :
    checkNames g.settings.className b = .error fault := by
  have htry : g.toGenerator.tryGenerate b = .error (.names fault) := by
    unfold Phrasebook.Generator.run at h
    split at h
    · cases h
    · rename_i htry
      cases h
      exact htry
  rcases Except.bind_eq_error_iff.mp htry with hreview | ⟨warnings, -, hrest⟩
  · obtain ⟨cause, -, hcause⟩ := Except.mapError_eq_error_iff.mp hreview
    cases hcause
  · rcases Except.bind_eq_error_iff.mp hrest with hgenerate | ⟨code, -, hlast⟩
    · obtain ⟨fault', hnames, hfault⟩ := Except.mapError_eq_error_iff.mp hgenerate
      obtain rfl : fault' = fault := GenerationFault.names.inj hfault
      rcases Except.bind_eq_error_iff.mp hnames with hcheck | ⟨-, -, htext⟩
      · exact hcheck
      · cases htext
    · rcases Except.bind_eq_error_iff.mp hlast with hformat | ⟨laid, -, hpure⟩
      · obtain ⟨cause, -, hcause⟩ := Except.mapError_eq_error_iff.mp hformat
        cases hcause
      · cases hpure

/-- A generation that fails by a name has made a book, with an allocator of its own. -/
theorem Generator.exists_convert_of_runDocument
    (h : g.toGenerator.runDocument document =
      .ok (.failure (.generation (.names fault)), notices)) :
    ∃ style names b, names.given = [] ∧ (Document.convert style names document).result = .ok b ∧
      checkNames g.settings.className b = .error fault := by
  unfold Phrasebook.Generator.runDocument at h
  split at h
  · simp [Except.map] at h
  · rename_i style hstyle
    split at h
    · cases h
    · rename_i names hnames
      obtain ⟨own, hown, rfl⟩ := Except.map_eq_ok_iff.mp hnames
      simp only [Option.getD_some] at h
      split at h
      · cases h
      · rename_i b hconvert
        refine ⟨style, own, b, accessorNamesOf_given hown, hconvert, ?_⟩
        obtain ⟨hresult, -⟩ := Prod.mk.inj (Except.ok.inj h)
        have hrun : g.toGenerator.run b =
            (.failure (.generation (.names fault)), (g.toGenerator.run b).2) :=
          Prod.ext hresult rfl
        exact checkNames_of_run hrun

end Dart

section Generate

variable {r : Registry} {e : Registry.Entry} {store : Store} {document : Json} {language : String}
  {config : Registry.Config} {result : Generation × List Notice}
  (hentry : r.entry language = .ok e) (hdart : e.generator = dartClass)
  (h : r.generate store document language config = .ok result)
include hentry hdart h

/-- What is generated is made by a generator of the settings that the configuration makes. -/
theorem Registry.exists_generator_of_generate :
    ∃ g : Dart.Generator, settingsFor store e.language config = .ok g.settings ∧
      g.toGenerator.runDocument document = .ok result := by
  obtain ⟨g, hcreate, hrun⟩ := Except.bind_eq_ok_iff.mp h
  obtain ⟨e', he', hrest⟩ := Except.bind_eq_ok_iff.mp (Except.mapError_eq_ok_iff.mp hcreate)
  obtain rfl : e' = e := Except.ok.inj (he'.symm.trans hentry)
  obtain ⟨s, hsettings, hmade⟩ := Except.bind_eq_ok_iff.mp hrest
  have hmade := Except.mapError_eq_ok_iff.mp hmade
  rw [hdart, create_dartClass] at hmade
  obtain ⟨options, -, rfl⟩ := Except.map_eq_ok_iff.mp hmade
  exact ⟨_, hsettings, Except.mapError_eq_ok_iff.mp hrun⟩

theorem Registry.exists_runDocument_of_generate :
    ∃ g : Dart.Generator, g.toGenerator.runDocument document = .ok result := by
  obtain ⟨g, -, hrun⟩ := exists_generator_of_generate hentry hdart h
  exact ⟨g, hrun⟩

end Generate

/-! ## Collisions -/

namespace Document

variable {style : Style} {names : Allocator} {document : Json} {b : Book}
  {entries : List (String × Entry)}

/-- The phrases of two different keys have one accessor exactly if the entries of both give it. -/
def CollidesOnRequest (entries : List (String × Entry)) (b : Book) : Prop :=
  ∀ p ∈ b.defaultTable.phrases, ∀ q ∈ b.defaultTable.phrases, p.key ≠ q.key → ∀ name,
    p.accessor = name ∧ q.accessor = name ↔
      GivesName entries p.key name ∧ GivesName entries q.key name

theorem exists_collidesOnRequest (hnew : names.given = [])
    (h : (convert style names document).result = .ok b) :
    ∃ entries, homeEntries document = some entries ∧
      b.defaultTable.keys = entries.map Prod.fst ∧ CollidesOnRequest entries b := by
  obtain ⟨entries, names', hentries, hphrases⟩ := exists_homePhrases hnew h
  exact ⟨entries, hentries, hphrases.keys, fun p hp q hq hkey name =>
    hphrases.accessor_iff hp hq hkey⟩

/-- After a conversion with a new allocator, two keys share an accessor exactly if both of their
entries give it. The generator of a class has a new allocator for every document, so when it finds
one accessor twice the document repeats a name that it gives in the default locale. -/
theorem accessors_collide_on_request (reserved builtins : List String) (digitLead : String)
    (style : Style) (document : Json) :
    (∀ b, (convert style { reserved, builtins, digitLead } document).result = .ok b →
      ∃ entries, homeEntries document = some entries ∧
        b.defaultTable.keys = entries.map Prod.fst ∧ CollidesOnRequest entries b) ∧
    ∀ (r : Registry) (e : Registry.Entry) (store : Store) (language : String)
      (config : Registry.Config) (first second name : String) (notices : List Notice),
      r.entry language = .ok e → e.generator = dartClass →
      r.generate store document language config =
        .ok (.failure (.generation (.names (.repeatedAccessor first second name))), notices) →
      ∃ entries, homeEntries document = some entries ∧ first ≠ second ∧
        GivesName entries first name ∧ GivesName entries second name := by
  refine ⟨fun b => exists_collidesOnRequest rfl, ?_⟩
  intro r e store language config first second name notices hentry hdart hgenerate
  obtain ⟨g, hrun⟩ := Registry.exists_runDocument_of_generate hentry hdart hgenerate
  obtain ⟨style', names, b, hnew, hconvert, hcheck⟩ := g.exists_convert_of_runDocument hrun
  obtain ⟨entries, hentries, -, hcollides⟩ := exists_collidesOnRequest hnew hconvert
  obtain ⟨p, hp, q, hq, rfl, rfl, hne, hpname, hqname⟩ :=
    Dart.exists_of_checkNames_eq_repeated hcheck
  exact ⟨entries, hentries, hne, (hcollides p hp q hq hne name).mp ⟨hpname, hqname⟩⟩

/-- Keys that clean up to the same words, one of them to a name that two other entries give, the
latter behind it. Only those two collide, and of them the generator complains. -/
theorem accessors_collide_of_greeting :
    let document : Json := .obj [("default_locale", .str "en"), ("locales", .obj [("en", .obj [
      ("a b", .str "x"), ("a-b", .str "y"),
      ("k", .obj [("value", .str "z"), ("escaped_key", .str "aB")]),
      ("l", .obj [("value", .str "w"), ("escaped_key", .str "aB")])])])]
    let entries : List (String × Entry) :=
      [("a b", { text := "x" }), ("a-b", { text := "y" }),
        ("k", { text := "z", accessor := some "aB" }), ("l", { text := "w", accessor := some "aB" })]
    (∃ b, (convert .camel { reserved := ["if"], builtins := ["of"] } document).result = .ok b ∧
      b.defaultTable.phrases.map Phrase.accessor = ["aB1", "aB2", "aB", "aB"] ∧
      CollidesOnRequest entries b) ∧
    ∃ e notices, Registry.builtin.entry "dart" = .ok e ∧ e.generator = dartClass ∧
      Registry.builtin.generate {} document "dart" (.value .null) =
        .ok (.failure (.generation (.names (.repeatedAccessor "k" "l" "aB"))), notices) ∧
      GivesName entries "k" "aB" ∧ GivesName entries "l" "aB" := by
  intro document entries
  have hhome : homeEntries document = some entries := rfl
  obtain ⟨hconverted, hgenerated⟩ :=
    accessors_collide_on_request ["if"] ["of"] "n" .camel document
  constructor
  · refine ⟨_, rfl, rfl, ?_⟩
    obtain ⟨entries', hentries, -, hcollides⟩ := hconverted _ rfl
    obtain rfl : entries = entries' := Option.some.inj (hhome.symm.trans hentries)
    exact hcollides
  · refine ⟨_, _, rfl, rfl, rfl, ?_⟩
    obtain ⟨entries', hentries, -, hgives⟩ :=
      hgenerated Registry.builtin _ {} "dart" (.value .null) "k" "l" "aB" _ rfl rfl rfl
    obtain rfl : entries = entries' := Option.some.inj (hhome.symm.trans hentries)
    exact hgives

end Document

end Phrasebook
