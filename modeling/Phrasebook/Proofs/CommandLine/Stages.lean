-- SUMMARY: The stages of a run that generates a class, each of which goes on or ends the run.
import Phrasebook.CommandLine.Run
import Phrasebook.Proofs.Outcome

/-!
# Stages of a run

A run that is asked for a class checks the language, loads the document, makes
the settings, makes the class and delivers it. Each stage hands on what it makes
or ends the run, so that a run comes to its end exactly if all stages do. A stage
that ends the run has written nothing by then, so the store that is left is the
one that the run has begun with.
-/

namespace Phrasebook.CommandLine

variable {r : Registry} {console : Console} {world : Loading.World} {store store' : Store}
  {language stdin : String} {document : Json.Fields} {settings : Settings} {done : Done}

theorem checkLanguage_eq_ok_iff {name : Option String} :
    checkLanguage r store name = .ok language ↔ name = some language ∧ r.isSupported language := by
  unfold checkLanguage
  cases name with
  | none => simp
  | some other =>
    by_cases h : r.isSupported other
    · simp only [h, if_true, Except.ok.injEq, Option.some.injEq, iff_self_and]
      rintro rfl
      exact h
    · simp only [h, if_false, reduceCtorEq, Option.some.injEq, false_iff, not_and]
      rintro rfl
      exact h

namespace GenerateRequest

variable {q : GenerateRequest}

/-- A request for a class, and for no information in its place. -/
structure WantsClass (q : GenerateRequest) : Prop where
  list : q.listLanguages = false
  info : ¬ isGiven q.languageInfo
  source : q.hasSource

/-- The class that a language makes of a document under settings. -/
def make (r : Registry) (store : Store) (language : String) (document : Json.Fields)
    (settings : Settings) : Except Ending Generation :=
  match r.generate store (.obj document) language (.settings settings) limits with
  | .error (.registry fault) => .error (Ending.error store fault.message)
  | .error (.misuse cause) => .error (.escape (.misuse cause) store)
  | .ok (generation, _) => .ok generation

theorem make_eq_ok_iff {generation : Generation} :
    make r store language document settings = .ok generation ↔
      ∃ notices, r.generate store (.obj document) language (.settings settings) limits =
        .ok (generation, notices) := by
  unfold make
  split <;> simp_all

theorem generate_fst : (q.generate r console store language document).1 =
    (q.settings store language).bind fun settings =>
      (make r store language document settings).bind
        (q.conclude console store language settings) := by
  unfold generate make
  cases q.settings store language with
  | error ending => rfl
  | ok settings =>
    simp only [Except.bind]
    cases r.generate store (.obj document) language (.settings settings) limits with
    | error fault => cases fault <;> rfl
    | ok made => rfl

theorem run_fst (h : q.WantsClass) : (q.run r console world stdin).1 =
    (checkLanguage r world.store q.language).bind fun language =>
      (q.document world stdin).1.bind fun document =>
        (q.generate r console world.store language document).1 := by
  have hinfo : isGiven q.languageInfo = false := by simpa using h.info
  unfold run
  simp only [h.list, hinfo, h.source, Bool.not_true, Bool.false_eq_true, if_false]
  cases checkLanguage r world.store q.language with
  | error ending => rfl
  | ok language =>
    simp only [Except.bind]
    split
    · rename_i hdocument
      rw [hdocument]
    · rename_i hdocument
      rw [hdocument]

/-! ## Documents -/

/-- The document of a file, if no other source is asked for. -/
theorem document_of_file {file : String} (hfile : q.file = some file) (hurl : q.url = none)
    (hstdin : q.stdin = false) : (q.document world stdin).1 =
      ((Loading.load world { file := some file }).1.map Loading.Loaded.fields).mapError
        (Ending.ofLoading world.store) := by
  simp [GenerateRequest.document, hfile, hurl, hstdin]

/-! ## Settings -/

theorem checkSettings_eq_ok_iff {s : Settings} :
    checkSettings store s = .ok settings ↔ s = settings ∧ s.validate = .ok [] := by
  unfold checkSettings
  split <;> simp_all

/-- Settings that are made have no problems. -/
theorem settings_eq_ok_iff : q.settings store language = .ok settings ↔
    Settings.load store language (.obj q.overrides) q.settingsFile = .ok settings ∧
      settings.validate = .ok [] := by
  have hbind : q.settings store language =
      ((Settings.load store language (.obj q.overrides) q.settingsFile).mapError
        (Ending.ofSettings store "Configuration error: ")).bind (checkSettings store) := rfl
  simp only [hbind, Except.bind_eq_ok_iff, Except.mapError_eq_ok_iff, checkSettings_eq_ok_iff]
  constructor
  · rintro ⟨s, hload, rfl, hvalid⟩
    exact ⟨hload, hvalid⟩
  · rintro ⟨hload, hvalid⟩
    exact ⟨settings, hload, rfl, hvalid⟩

/-! ## Delivery -/

variable {code : String} {delivery : Print}

theorem writeClass_eq_ok_iff {path : Path} :
    writeClass store language path code = .ok (delivery, store') ↔
      store.write path (Text.Utf8.encode code.toList) = .ok store' ∧
        delivery = savedReport language path := by
  unfold writeClass
  cases store.write path (Text.Utf8.encode code.toList) with
  | ok s => simp [eq_comm, and_comm]
  | error fault => cases fault <;> simp

/-- The print of a class that is written to no file. -/
def classPrint (console : Console) (language code : String) : Print :=
  if console.isTerminal then .highlighted language code else .verbatim code

/-- A class is printed, or written to the file that the settings name. -/
theorem deliver_eq_ok_iff :
    deliver console store language settings code = .ok (delivery, store') ↔
    (settings.outputFile.truthy = false ∧ delivery = classPrint console language code ∧
      store' = store) ∨
    ∃ file, settings.outputFile = .str file ∧ file ≠ "" ∧
      store.write (Path.ofString file) (Text.Utf8.encode code.toList) = .ok store' ∧
      delivery = savedReport language (Path.ofString file) := by
  unfold deliver
  cases htruthy : settings.outputFile.truthy with
  | false =>
    have hempty : ∀ file, settings.outputFile = .str file → file = "" := by
      intro file hfile
      simpa [hfile, Json.truthy] using htruthy
    have hprint : (if console.isTerminal then .ok (.highlighted language code, store)
        else .ok (.verbatim code, store) : Except Ending (Print × Store)) =
          .ok (classPrint console language code, store) := by
      unfold classPrint
      split <;> rfl
    rw [if_neg Bool.false_ne_true, hprint]
    constructor
    · rintro h
      cases h
      exact .inl ⟨rfl, rfl, rfl⟩
    · rintro (⟨-, rfl, rfl⟩ | ⟨file, hfile, hne, -⟩)
      · rfl
      · exact absurd (hempty file hfile) hne
  | true =>
    cases hfile : settings.outputFile with
    | str file =>
      have hne : file ≠ "" := by simpa [hfile, Json.truthy] using htruthy
      simp [writeClass_eq_ok_iff, hne]
    | _ => simp

/-- A class that is made and delivered is all that a command ends with. -/
theorem conclude_eq_ok_iff {generation : Generation} :
    q.conclude console store language settings generation = .ok done ↔
      ∃ code warnings metadata delivery, generation = .success code warnings metadata ∧
        deliver console store language settings code = .ok (delivery, done.store) ∧
        done.prints = delivery :: (if q.verbose then metadataReport metadata else []) ++
          warningsReport warnings := by
  cases generation with
  | failure cause => simp [conclude]
  | success code warnings metadata =>
    simp only [conclude]
    cases hdeliver : deliver console store language settings code with
    | error ending => simp [bind, Except.bind, hdeliver]
    | ok delivered =>
      obtain ⟨delivery, store'⟩ := delivered
      obtain ⟨prints, final⟩ := done
      simp only [bind, Except.bind, pure, Except.pure, Except.ok.injEq, Done.mk.injEq,
        Generation.success.injEq]
      constructor
      · rintro ⟨rfl, rfl⟩
        exact ⟨_, _, _, _, ⟨rfl, rfl, rfl⟩, by rw [hdeliver], rfl⟩
      · rintro ⟨_, _, _, _, ⟨rfl, rfl, rfl⟩, hsame, rfl⟩
        rw [hdeliver] at hsame
        cases hsame
        exact ⟨rfl, rfl⟩

/-! ## What is left -/

section Leaves

variable {α β : Type}

/-- A stage leaves the store as it is if it ends the run. -/
def Leaves (store : Store) (x : Except Ending α) : Prop :=
  ∀ ending, x = .error ending → ending.store = store

theorem leaves_ok (a : α) : Leaves store (.ok a : Except Ending α) := by
  intro ending h
  cases h

theorem leaves_error {ending : Ending} (h : ending.store = store) :
    Leaves store (.error ending : Except Ending α) := by
  intro other hother
  cases hother
  exact h

theorem Leaves.bind {x : Except Ending α} {f : α → Except Ending β} (hx : Leaves store x)
    (hf : ∀ a, Leaves store (f a)) : Leaves store (x.bind f) := by
  cases x with
  | ok a => exact hf a
  | error ending => exact leaves_error (hx ending rfl)

theorem leaves_mapError {ε : Type} {f : ε → Ending} (hf : ∀ fault, (f fault).store = store)
    (x : Except ε α) : Leaves store (x.mapError f) := by
  cases x with
  | ok a => exact leaves_ok a
  | error fault => exact leaves_error (hf fault)

end Leaves

theorem store_ofLoading (store : Store) (fault : Loading.Fault) :
    (Ending.ofLoading store fault).store = store := by
  cases fault <;> rfl

theorem store_ofSettings (store : Store) (heading : String) (fault : Settings.Fault) :
    (Ending.ofSettings store heading fault).store = store := by
  cases fault <;> rfl

theorem leaves_checkLanguage (name : Option String) :
    Leaves store (checkLanguage r store name) := by
  unfold checkLanguage
  split
  · exact leaves_error rfl
  · split
    · exact leaves_ok _
    · exact leaves_error rfl

theorem leaves_showLanguages : Leaves store (showLanguages r store) := by
  have hbind : showLanguages r store = ((languagesReport r).mapError fun fault =>
      Ending.error store fault.message).bind fun prints => .ok { prints, store } := rfl
  have herror : ∀ fault : Registry.Fault, (Ending.error store fault.message).store = store :=
    fun _ => rfl
  rw [hbind]
  exact (leaves_mapError herror _).bind fun _ => leaves_ok _

theorem leaves_describeLanguage : Leaves store (describeLanguage r store language) := by
  unfold describeLanguage
  split
  · exact leaves_error rfl
  · split
    · exact leaves_error rfl
    · exact leaves_ok _

theorem leaves_checkSettings : Leaves store (checkSettings store settings) := by
  unfold checkSettings
  split
  · exact leaves_error rfl
  · exact leaves_ok _
  · exact leaves_error rfl

theorem leaves_make : Leaves store (make r store language document settings) := by
  unfold make
  split
  · exact leaves_error rfl
  · exact leaves_error rfl
  · exact leaves_ok _

/-- A class that cannot be written leaves no trace. -/
theorem leaves_deliver : Leaves store (deliver console store language settings code) := by
  unfold deliver
  split
  · split
    · unfold writeClass
      split
      · exact leaves_ok _
      · exact leaves_error rfl
      · exact leaves_error rfl
    · exact leaves_error rfl
  · split <;> exact leaves_ok _

theorem leaves_conclude (generation : Generation) :
    Leaves store (q.conclude console store language settings generation) := by
  cases generation with
  | failure cause => exact leaves_error rfl
  | success code warnings metadata => exact leaves_deliver.bind fun delivered => leaves_ok _

/-- A run that ends early leaves the store that it has begun with, at whichever stage it ends. -/
theorem leaves_run : Leaves world.store (q.run r console world stdin).1 := by
  have hsettings : ∀ language, Leaves world.store (q.settings world.store language) :=
    fun language => (leaves_mapError (store_ofSettings world.store _) _).bind
      fun s => leaves_checkSettings
  by_cases hwants : q.WantsClass
  · rw [run_fst hwants]
    refine (leaves_checkLanguage _).bind fun language => ?_
    refine (leaves_mapError (store_ofLoading world.store) _).bind fun document => ?_
    rw [generate_fst]
    exact (hsettings language).bind fun s => leaves_make.bind leaves_conclude
  · unfold run
    split
    · exact leaves_showLanguages
    · split
      · exact leaves_describeLanguage
      · split
        · exact leaves_error rfl
        · exact absurd ⟨by simpa using ‹¬ q.listLanguages = true›, ‹_›,
            by simpa using ‹¬ (!q.hasSource) = true›⟩ hwants

/-! ## Command lines -/

variable {line : List String} {level : String}

/-- What comes of a command line that asks for a class. -/
theorem outcome_of_command
    (hline : Request.ofWords line = .ok { logLevel := some level, command := some (.generate q) }) :
    (CommandLine.run r console world stdin line).outcome =
      (Result.ofCommand console (q.run r console world stdin).1
        (logged level (q.run r console world stdin).2)).outcome := by
  rw [CommandLine.run, hline]
  rfl

end GenerateRequest

end Phrasebook.CommandLine
