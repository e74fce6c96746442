-- SUMMARY: A run that generates a class from a file comes to what the library makes of the document.
import Phrasebook.Proofs.CommandLine.FlagOverrides
import Phrasebook.Proofs.CommandLine.Printing
import Phrasebook.Proofs.CommandLine.Stages
import Phrasebook.Proofs.Generation.Limits
import Phrasebook.Proofs.Json.Surrogates
import Phrasebook.Proofs.Loading.Shape
import Phrasebook.Proofs.Store.Writing

/-!
# Runs and calls

A run loads the document, checks its outer shape, makes settings under the name
by which the language was asked for, and looks for problems in them; a call of
the library does neither of the checks and makes the settings under the name of
the language. Yet a run that comes to its end delivers what the call returns: a
document of another shape makes no class either, and settings that differ in
nothing but defaults make the same class.
-/

namespace Phrasebook.CommandLine.GenerateRequest

open Registry

variable {q : GenerateRequest} {world : Loading.World} {store store' : Store} {document : Json}
  {language stdin : String} {fields : Json.Fields} {console : Console} {done : Done}

/-! ## Requests and calls -/

/-- A request for a class from a file that can be read as JSON and writes characters only, by the
flags alone. -/
structure ReadsFile (q : GenerateRequest) (store : Store) (document : Json) : Prop where
  list : q.listLanguages = false
  info : q.languageInfo = none
  config : q.config = none
  url : q.url = none
  stdin : q.stdin = false
  file : ∃ file text, q.file = some file ∧
    Loading.fileText store (Path.ofString file) = .ok text ∧ Json.WritesCharacters text ∧
    Json.parse text = .ok document

/-- The call of the library for a document with the overrides that the flags make. -/
def call (q : GenerateRequest) (store : Store) (document : Json) :
    Except RunFault (Generation × List Notice) :=
  builtin.generate store document "dart" (.value (.obj q.overrides))

/-- The settings by the flags alone have no problems. -/
def IsValid (q : GenerateRequest) (store : Store) (language : String) : Prop :=
  ∃ s, Settings.load store language (.obj q.overrides) .null = .ok s ∧ s.validate = .ok []

/-- The store that is left when the text of a class goes where the flags say. -/
inductive Delivers (q : GenerateRequest) (store : Store) (code : String) : Store → Prop
  | printed (h : ¬ isGiven q.output) : Delivers q store code store
  | written {file : String} {store' : Store} (h : q.output = some file) (hne : file ≠ "")
      (hwrite : store.write (Path.ofString file) (Text.Utf8.encode code.toList) = .ok store') :
      Delivers q store code store'

/-- What is printed with a class: where it has been saved or else the class itself, what is told of
it if asked for, and the warnings. -/
def classPrints (q : GenerateRequest) (console : Console) (language code : String)
    (warnings : List Warning) (metadata : Metadata) : List Print :=
  (if isGiven q.output then savedReport language (Path.ofString (q.output.getD ""))
    else classPrint console language code)
      :: (if q.verbose then metadataReport metadata else []) ++ warningsReport warnings

/-! ## Stages -/

/-- The empty path is that of a directory. -/
theorem fileText_empty (store : Store) (text : String) :
    Loading.fileText store (Path.ofString "") ≠ .ok text := by
  have hread : store.read (Path.ofString "") = .error .isDirectory := by rfl
  simp [Loading.fileText, hread]

theorem ReadsFile.wantsClass (h : q.ReadsFile store document) : q.WantsClass := by
  obtain ⟨file, text, hfile, htext, -⟩ := h.file
  have hne : file ≠ "" := by
    rintro rfl
    exact fileText_empty store text htext
  exact ⟨h.list, by simp [h.info, isGiven], by simp [hasSource, hfile, isGiven, hne]⟩

/-- The document is loaded if it has the shape of one. -/
theorem ReadsFile.document_eq_ok_iff (h : q.ReadsFile world.store document) :
    (q.document world stdin).1 = .ok fields ↔ Loading.HasShape document fields := by
  obtain ⟨file, text, hfile, htext, -, hparse⟩ := h.file
  rw [document_of_file hfile h.url h.stdin, Except.mapError_eq_ok_iff,
    Loading.load_file_fst htext hparse, Loading.checkShape_eq_ok_iff]

/-- Where the output goes is up to the flags. -/
theorem outputFile_of_load {s : Settings}
    (h : Settings.load store language (.obj q.overrides) .null = .ok s) :
    s.outputFile = if isGiven q.output then .str (q.output.getD "") else .null := by
  obtain ⟨s', members, hs', hplain, -⟩ := Settings.load_overrides language q.isLayer_overrides
  obtain rfl : s' = s := Except.ok.inj (hs'.symm.trans h)
  have hfield : s'.outputFile = (q.overrides.get? "output_file").getD .null :=
    congrArg Prod.snd (List.cons.inj hplain).1
  rw [hfield, get?_overrides_outputFile]
  split <;> rfl

theorem isGiven_iff {s : Option String} : isGiven s ↔ ∃ text, s = some text ∧ text ≠ "" := by
  cases s <;> simp [isGiven]

/-- A class goes where the flags say. -/
theorem deliver_eq_ok_iff_delivers {s : Settings} {code : String} {delivery : Print}
    (h : Settings.load store language (.obj q.overrides) .null = .ok s) :
    deliver console store language s code = .ok (delivery, store') ↔
      q.Delivers store code store' ∧ delivery =
        if isGiven q.output then savedReport language (Path.ofString (q.output.getD ""))
        else classPrint console language code := by
  rw [deliver_eq_ok_iff, outputFile_of_load h]
  by_cases hgiven : isGiven q.output
  · obtain ⟨file, hfile, hne⟩ := isGiven_iff.mp hgiven
    rw [if_pos hgiven, if_pos hgiven, hfile, Option.getD_some]
    constructor
    · rintro (⟨hfalse, -⟩ | ⟨file', hsame, -, hwrite, hdelivery⟩)
      · exact absurd hfalse (by simpa [Json.truthy] using hne)
      · cases hsame
        exact ⟨.written hfile hne hwrite, hdelivery⟩
    · rintro ⟨hdelivers, hdelivery⟩
      cases hdelivers with
      | printed hnot => exact absurd hgiven hnot
      | written hfile' _ hwrite =>
        cases hfile.symm.trans hfile'
        exact .inr ⟨file, rfl, hne, hwrite, hdelivery⟩
  · simp only [if_neg hgiven, Json.truthy, true_and, reduceCtorEq, false_and, exists_false, or_false]
    constructor
    · rintro ⟨hdelivery, rfl⟩
      exact ⟨.printed hgiven, hdelivery⟩
    · rintro ⟨hdelivers, hdelivery⟩
      cases hdelivers with
      | printed => exact ⟨hdelivery, rfl⟩
      | written hfile hne _ => exact absurd (isGiven_iff.mpr ⟨_, hfile, hne⟩) hgiven

/-- A document of which the call makes a class has the shape of one. -/
theorem exists_hasShape_of_call {code : String} {warnings : List Warning} {metadata : Metadata}
    {notices : List Notice}
    (h : q.call store document = .ok (.success code warnings metadata, notices)) :
    ∃ fields, Loading.HasShape document fields := by
  unfold call Registry.generate at h
  obtain ⟨g, -, hrun⟩ := Except.bind_eq_ok_iff.mp h
  exact Loading.exists_hasShape_of_success (Except.mapError_eq_ok_iff.mp hrun)

/-- What a run makes of a document under its settings is what the call makes of it. -/
theorem generate_eq_call {s : Settings} (hsupported : builtin.isSupported language)
    (hload : Settings.load store language (.obj q.overrides) .null = .ok s) (document : Json) :
    builtin.generate store document language (.settings s) limits = q.call store document :=
  (generate_of_overrides hsupported q.isLayer_overrides q.given?_overrides_missingMarker hload
    document _).trans (generate_spelling hsupported q.isLayer_overrides hload document)

/-- The command comes to its end exactly if the call makes a class, the settings have no problems
and the class can be delivered. -/
theorem ReadsFile.run_eq_ok_iff (h : q.ReadsFile world.store document)
    (hlanguage : q.language = some language) (hsupported : builtin.isSupported language) :
    (q.run builtin console world stdin).1 = .ok done ↔ ∃ code warnings metadata notices,
      q.call world.store document = .ok (.success code warnings metadata, notices) ∧
      q.IsValid world.store language ∧ q.Delivers world.store code done.store ∧
      done.prints = q.classPrints console language code warnings metadata := by
  have hfile : q.settingsFile = .null := by simp [settingsFile, h.config]
  simp only [run_fst h.wantsClass, generate_fst, Except.bind_eq_ok_iff, checkLanguage_eq_ok_iff,
    h.document_eq_ok_iff, settings_eq_ok_iff, hfile, make_eq_ok_iff, conclude_eq_ok_iff]
  constructor
  · rintro ⟨_, ⟨hname, -⟩, fields, hshape, s, ⟨hload, hvalid⟩, _, ⟨notices, hgenerate⟩, code,
      warnings, metadata, delivery, rfl, hdeliver, hprints⟩
    cases hlanguage.symm.trans hname
    rw [generate_eq_call hsupported hload] at hgenerate
    obtain ⟨hdelivers, rfl⟩ := (deliver_eq_ok_iff_delivers hload).mp hdeliver
    exact ⟨code, warnings, metadata, notices, hshape.object ▸ hgenerate, ⟨s, hload, hvalid⟩,
      hdelivers, hprints⟩
  · rintro ⟨code, warnings, metadata, notices, hcall, ⟨s, hload, hvalid⟩, hdelivers, hprints⟩
    obtain ⟨fields, hshape⟩ := exists_hasShape_of_call hcall
    refine ⟨language, ⟨hlanguage, hsupported⟩, fields, hshape, s, ⟨hload, hvalid⟩, _, ⟨notices, ?_⟩,
      code, warnings, metadata, _, rfl, (deliver_eq_ok_iff_delivers hload).mpr ⟨hdelivers, rfl⟩,
      hprints⟩
    rw [generate_eq_call hsupported hload, ← hshape.object]
    exact hcall

/-! ## Runs -/

variable {line : List String} {level : String}

/-- A run exits with zero if its command comes to its end, with one if that reports a failure. -/
theorem outcome_eq_ok_iff {o : Outcome}
    (hline : Request.ofWords line = .ok { logLevel := some level, command := some (.generate q) }) :
    (CommandLine.run builtin console world stdin line).outcome = .ok o ↔
      (∃ done, (q.run builtin console world stdin).1 = .ok done ∧ console.Accepts done.prints ∧
        o = { exit := 0, output := console.shown done.prints, store := done.store }) ∨
      ∃ prints store, (q.run builtin console world stdin).1 = .error (.report prints store) ∧
        console.Accepts prints ∧ o = { exit := 1, output := console.shown prints, store } := by
  rw [outcome_of_command hline, ofCommand_eq_ok_iff]

/-- A class that has been delivered is in the file that the flags name, or else is what the output
begins with, unless that goes to a terminal. -/
theorem Delivers.holds {code : String} {warnings : List Warning} {metadata : Metadata}
    (h : q.Delivers store code store') :
    (∀ file, q.output = some file → file ≠ "" →
      store'.read (Path.ofString file) = .ok (Text.Utf8.encode code.toList)) ∧
    (¬ isGiven q.output → store' = store ∧ (¬ console.isTerminal → code.toList <+:
      (console.shown (q.classPrints console language code warnings metadata)).toList)) := by
  cases h with
  | printed hnot =>
    refine ⟨fun file hfile hne => absurd (isGiven_iff.mpr ⟨file, hfile, hne⟩) hnot,
      fun _ => ⟨rfl, fun hterminal => ?_⟩⟩
    have hlook : console.look (.verbatim code) = code := by
      rw [Console.isTerminal, Option.not_isSome_iff_eq_none] at hterminal
      rw [Console.look, hterminal]
      rfl
    simp [classPrints, classPrint, hnot, hterminal, hlook, Console.shown]
  | @written file _ hfile hne hwrite =>
    refine ⟨?_, fun hnot => absurd (isGiven_iff.mpr ⟨file, hfile, hne⟩) hnot⟩
    intro file' hfile' _
    cases hfile.symm.trans hfile'
    exact Store.read_of_write hwrite

theorem not_accepts_of_warning {code : String} {warnings : List Warning} {metadata : Metadata}
    {w : Warning} (hw : w ∈ warnings)
    (hrefused : ¬ console.accepts ("  [yellow]•[/yellow] " ++ w.message)) :
    ¬ console.Accepts (q.classPrints console language code warnings metadata) := by
  intro haccepts
  have hne : warnings.isEmpty = false := by simpa using List.ne_nil_of_mem hw
  have hmem : Print.text ("  [yellow]•[/yellow] " ++ w.message) ∈
      q.classPrints console language code warnings metadata := by
    simp only [classPrints, warningsReport, hne, Bool.false_eq_true, if_false, List.mem_append,
      List.mem_cons, List.mem_map]
    exact .inr (.inl (.inr ⟨w, hw, rfl⟩))
  exact hrefused (haccepts _ hmem _ (List.mem_singleton_self _))

/-- A run whose class is made, but printed with a text that is refused, does not exit with zero. -/
theorem not_exit_of_refused (h : q.ReadsFile world.store document)
    (hline : Request.ofWords line = .ok { logLevel := some level, command := some (.generate q) })
    (hlanguage : q.language = some language) (hsupported : builtin.isSupported language)
    {code : String} {warnings : List Warning} {metadata : Metadata} {notices : List Notice}
    (hcall : q.call world.store document = .ok (.success code warnings metadata, notices))
    (hrefused : ¬ console.Accepts (q.classPrints console language code warnings metadata)) :
    ¬ ∃ o, (CommandLine.run builtin console world stdin line).outcome = .ok o ∧ o.exit = 0 := by
  rintro ⟨o, ho, hexit⟩
  rcases (outcome_eq_ok_iff hline).mp ho with ⟨done, hdone, haccepts, -⟩ | ⟨prints, store, -, -, rfl⟩
  · obtain ⟨_, _, _, _, hcall', -, -, hprints⟩ :=
      (h.run_eq_ok_iff hlanguage hsupported).mp hdone
    cases hcall.symm.trans hcall'
    exact hrefused (hprints ▸ haccepts)
  · cases hexit

/-- A world with one document. -/
def worldOf (text : String) : Loading.World where
  store := { nodes := [(["d.json"], .file (Text.Utf8.encode text.toList))] }

theorem readsFile_worldOf {text : String}
    (hdecode : Text.Utf8.decode (Text.Utf8.encode text.toList) = .ok text.toList)
    (hunify : String.ofList (Text.Utf8.unifyBreaks text.toList) = text)
    (hwrites : Json.WritesCharacters text) (hparse : Json.parse text = .ok document)
    (output language : Option String) :
    ({ file := some "d.json", output, language } : GenerateRequest).ReadsFile (worldOf text).store
      document := by
  have hread : (worldOf text).store.read (Path.ofString "d.json") =
      .ok (Text.Utf8.encode text.toList) := by rfl
  have htext : Loading.fileText (worldOf text).store (Path.ofString "d.json") = .ok text :=
    (Loading.fileText_of_read hread hdecode).trans (congrArg _ hunify)
  exact ⟨rfl, rfl, rfl, rfl, rfl, "d.json", text, rfl, htext, hwrites, hparse⟩

end Phrasebook.CommandLine.GenerateRequest
