-- SUMMARY: The code of a class depends on everything in a book but its texts.
import Phrasebook.Proofs.Dart.Documentation
import Phrasebook.Proofs.Dart.DispatchMeaning

/-!
# Independence of texts

Two books with the same locales and the same keys, accessors and placeholders
either are refused for the same fault or make the same code, whatever their
texts are and however they are documented.
-/

namespace Phrasebook

/-- What a phrase says beside its text. -/
def Phrase.signature (p : Phrase) : String × String × List String :=
  (p.key, p.accessor, p.placeholders)

namespace Dart

variable {phrases phrases' : List Phrase} {p p' : Phrase}

/-! ## Signatures -/

/-- What is made of phrases without looking at their texts is made of their signatures. -/
theorem map_eq_of_signatures {α : Type} (f : String × String × List String → α)
    (h : phrases.map Phrase.signature = phrases'.map Phrase.signature) :
    phrases.map (fun p => f p.signature) = phrases'.map (fun p => f p.signature) := by
  have hmap := congrArg (List.map f) h
  rwa [List.map_map, List.map_map] at hmap

theorem checkPlaceholders_eq_of_signature (h : p.signature = p'.signature) :
    checkPlaceholders p = checkPlaceholders p' := by
  simp only [Phrase.signature, Prod.mk.injEq] at h
  obtain ⟨hkey, -, hplaceholders⟩ := h
  rw [checkPlaceholders, checkPlaceholders, hkey, hplaceholders]

theorem checkPhrases_eq_of_signatures {className : Json} {seen : List (String × String)}
    (h : phrases.map Phrase.signature = phrases'.map Phrase.signature) :
    checkPhrases className seen phrases = checkPhrases className seen phrases' := by
  induction phrases generalizing phrases' seen with
  | nil =>
    obtain rfl : phrases' = [] := by simpa using h.symm
    rfl
  | cons p phrases ih =>
    cases phrases' with
    | nil => simp at h
    | cons p' phrases' =>
      rw [List.map_cons, List.map_cons, List.cons.injEq] at h
      obtain ⟨hp, hphrases⟩ := h
      have hplaceholders := checkPlaceholders_eq_of_signature hp
      simp only [Phrase.signature, Prod.mk.injEq] at hp
      obtain ⟨hkey, haccessor, -⟩ := hp
      rw [checkPhrases, checkPhrases, hkey, haccessor, hplaceholders, ih hphrases]

/-! ## Books and generators -/

/-- Two books that are the same but for their texts, and for what the tables beside the default one
hold. -/
structure SameSignatures (b b' : Book) : Prop where
  default_locale : b.defaultLocale = b'.defaultLocale
  other_locales : b.otherLocales = b'.otherLocales
  signatures : b.defaultTable.phrases.map Phrase.signature =
    b'.defaultTable.phrases.map Phrase.signature

/-- Two generators that are the same but for how they document accessors. -/
structure SameClass (g g' : Generator) : Prop where
  class_name : g.settings.className = g'.settings.className
  lookup_type : g.options.lookupType = g'.options.lookupType
  custom_lookup_type : g.options.customLookupType = g'.options.customLookupType
  delegate_type : g.options.delegateType = g'.options.delegateType
  context_accessor : g.options.contextAccessor = g'.options.contextAccessor

namespace Generator

variable {isBreak : Char → Bool} {g g' : Generator} {b b' : Book}

/-- A class without documentation shows no text of its book. -/
theorem bare_classSource_eq (hclass : SameClass g g') (hbook : SameSignatures b b') :
    (g.classSource b).bare = (g'.classSource b').bare := by
  have hlocales : b.locales = b'.locales := by
    rw [Book.locales, Book.locales, hbook.default_locale, hbook.other_locales]
  have haccessors : (g.accessors b).map Accessor.bare = (g'.accessors b').map Accessor.bare := by
    rw [accessors, accessors, List.map_map, List.map_map]
    exact map_eq_of_signatures (fun s => Accessor.mk none s.2.1 ⟨s.2.2⟩) hbook.signatures
  have hcases : (g.dispatch b).cases = (g'.dispatch b').cases :=
    map_eq_of_signatures (fun s => Case.mk s.1 s.2.1 ⟨s.2.2⟩) hbook.signatures
  simp only [ClassSource.bare, classSource, hclass.class_name, hclass.lookup_type,
    hclass.custom_lookup_type, hclass.delegate_type, hclass.context_accessor, hlocales, haccessors,
    hcases]

/-- All lines of the tables that document a class are comments, if no subtag and no marker breaks a
line. -/
theorem isComment_of_documentation (h : BreaksLines isBreak)
    (hlocales : ∀ t ∈ b.tables, BreakFreeLocale isBreak t.locale)
    (hmarker : BreakFree isBreak g.options.missingMarker.display) :
    ∀ a ∈ (g.classSource b).accessors, ∀ table ∈ a.documentation,
      ∀ line ∈ table.lines, IsComment isBreak line := by
  intro a ha table htable
  obtain ⟨p, -, rfl⟩ := List.mem_map.mp ha
  obtain rfl := docTable_eq_of_mem htable
  exact DocTable.isComment_of_mem_lines h
    (forall_tag_docTable.mpr fun t ht => (hlocales t ht).tag h) hmarker

/-- Generation fails for two books with the same signature for the same fault, or their classes are
the same but for lines of documentation. -/
theorem generate_eq_of_signature (hbreaks : BreaksLines isBreak) (hclass : SameClass g g')
    (hbook : SameSignatures b b')
    (hlocales : ∀ t ∈ b.tables, BreakFreeLocale isBreak t.locale)
    (hlocales' : ∀ t ∈ b'.tables, BreakFreeLocale isBreak t.locale)
    (hmarker : BreakFree isBreak g.options.missingMarker.display)
    (hmarker' : BreakFree isBreak g'.options.missingMarker.display) :
    (∃ fault, g.generate b = .error fault ∧ g'.generate b' = .error fault) ∨
    ∃ code code', g.generate b = .ok code ∧ g'.generate b' = .ok code' ∧
      withoutDocumentation isBreak code.toList = withoutDocumentation isBreak code'.toList := by
  have hcheck : checkNames g.settings.className b = checkNames g'.settings.className b' := by
    rw [checkNames, checkNames, hclass.class_name]
    exact checkPhrases_eq_of_signatures hbook.signatures
  cases hnames : checkNames g'.settings.className b' with
  | error fault =>
    rw [hnames] at hcheck
    refine .inl ⟨fault, ?_, ?_⟩
    · rw [generate, hcheck]
      rfl
    · rw [generate, hnames]
      rfl
  | ok =>
    rw [hnames] at hcheck
    refine .inr ⟨(g.classSource b).text, (g'.classSource b').text, ?_, ?_, ?_⟩
    · rw [generate, hcheck]
      rfl
    · rw [generate, hnames]
      rfl
    · rw [ClassSource.withoutDocumentation_eq_bare hbreaks
          (isComment_of_documentation hbreaks hlocales hmarker),
        ClassSource.withoutDocumentation_eq_bare hbreaks
          (isComment_of_documentation hbreaks hlocales' hmarker'),
        bare_classSource_eq hclass hbook]

/-- A text that would end its comment and its class if it stood there as it is. -/
theorem generate_eq_of_hostile_text :
    let g : Generator := ⟨{}, {}⟩
    let g' : Generator := ⟨{ addComments := .bool false }, { missingMarker := .str "?" }⟩
    let p : Phrase := ⟨"greeting", "greeting", "Hello, name!", ["name"]⟩
    let p' : Phrase := ⟨"greeting", "greeting", "\x0a\x7d\" + $name /* \x0d", ["name"]⟩
    (checkNames g.settings.className (single p) = .ok ()) ∧
    ∃ code code', g.generate (single p) = .ok code ∧ g'.generate (single p') = .ok code' ∧
      withoutDocumentation (· == '\n') code.toList =
        withoutDocumentation (· == '\n') code'.toList := by
  intro g g' p p'
  have hnames : checkNames g.settings.className (single p) = .ok () := by decide +kernel
  have hlanguage : BreakFree (· == '\n') "en" := breaksLines_line_feed.breakFree rfl
  have hlocales : ∀ q, ∀ t ∈ (single q).tables, BreakFreeLocale (· == '\n') t.locale := by
    intro q t ht
    obtain rfl := List.mem_singleton.mp ht
    refine ⟨hlanguage, ?_, ?_⟩
    · rintro s ⟨⟩
    · rintro s ⟨⟩
  have hmarker : BreakFree (· == '\n') g.options.missingMarker.display :=
    breaksLines_line_feed.breakFree (by decide)
  have hmarker' : BreakFree (· == '\n') g'.options.missingMarker.display :=
    breaksLines_line_feed.breakFree (by decide)
  have hclass : SameClass g g' := ⟨rfl, rfl, rfl, rfl, rfl⟩
  have hbook : SameSignatures (single p) (single p') := ⟨rfl, rfl, rfl⟩
  refine ⟨hnames, ?_⟩
  rcases generate_eq_of_signature breaksLines_line_feed hclass hbook (hlocales p) (hlocales p')
    hmarker hmarker' with ⟨fault, hfault, -⟩ | hcode
  · rw [generate, hnames] at hfault
    cases hfault
  · exact hcode

end Generator

end Dart

end Phrasebook
