-- SUMMARY: Running a command line: what it prints, what it writes and how it exits.
import Phrasebook.CommandLine.Help
import Phrasebook.CommandLine.Report
import Phrasebook.Loading
import Phrasebook.Logging

/-!
# Runs

A run reads what it needs from the world it is given and returns the store it
leaves, also if it ends early. Printing comes last. Most faults are reported and
make the run fail; a few escape from it.
-/

namespace Phrasebook.CommandLine

open Text

/-! ## Endings -/

/-- What a run leaves. -/
structure Outcome where
  exit : Nat
  output : String := ""
  /-- What is wrong with the command line. -/
  complaint : String := ""
  store : Store

/-- A fault that a run does not report. -/
inductive Escape where
  | loading (fault : Loading.Fault)
  | settings (fault : Settings.Fault)
  | path (fault : Store.Fault)
  | misuse (cause : Misuse)
  /-- A flag that cannot do without its value has lost it. -/
  | lostValue (flag : String)
  /-- The console does not accept the markup of a text. -/
  | markup (text : String)

def Escape.message : Escape → String
  | .loading fault => fault.message
  | .settings fault => fault.message
  | .path fault => fault.message ""
  | .misuse cause => cause.message
  | .lostValue flag => "argument " ++ flag ++ ": the value is missing"
  | .markup text => "the markup of " ++ Text.quoted text ++ " ends a style that has not begun"

/-- A run that a fault has ended, with what it has printed and written until then. -/
structure Interruption where
  fault : Escape
  output : String := ""
  store : Store

/-- What a command that succeeds still has to print, and the store that it leaves. -/
structure Done where
  prints : List Print
  store : Store

/-- How a command ends early, and the store that it leaves: with a report of its failure, or with a
fault that escapes. -/
inductive Ending where
  | report (prints : List Print) (store : Store)
  | escape (fault : Escape) (store : Store)

namespace Ending

/-- The store that is left. -/
def store : Ending → Store
  | .report _ store => store
  | .escape _ store => store

/-- The ending that reports an error. -/
def error (store : Store) (message : String) : Ending :=
  .report [.text ("[red]✗ Error:[/red] " ++ message)] store

/-- How a fault of a document ends a command. -/
def ofLoading (store : Store) (fault : Loading.Fault) : Ending :=
  match fault with
  | .badPath | .excess _ | .splitUrl => .escape (.loading fault) store
  | fault => .error store ("Failed to load input: " ++ fault.message)

/-- How a fault of settings ends a command. The heading comes before what is reported. -/
def ofSettings (store : Store) (heading : String) (fault : Settings.Fault) : Ending :=
  match fault with
  | .encoding _ | .badPath _ _ | .excess _ | .misuse _ => .escape (.settings fault) store
  | fault => .error store (heading ++ fault.message)

end Ending

/-- What comes of a run, and what is logged on the way. -/
structure Result where
  outcome : Except Interruption Outcome
  notices : List Notice := []

/-- Print what a command leaves, and exit. -/
def Console.exitWith (console : Console) (exit : Nat) (prints : List Print) (store : Store) :
    Except Interruption Outcome :=
  match console.print prints with
  | ⟨output, none⟩ => .ok { exit, output, store }
  | ⟨output, some text⟩ => .error { fault := .markup text, output, store }

/-- The result of a command, from how it ends. -/
def Result.ofCommand (console : Console) (r : Except Ending Done) (notices : List Notice) :
    Result where
  outcome := match r with
    | .ok done => console.exitWith 0 done.prints done.store
    | .error (.report prints store) => console.exitWith 1 prints store
    | .error (.escape fault store) => .error { fault, store }
  notices

/-- Whether a text is given and not empty. -/
def isGiven (s : Option String) : Bool :=
  s.any (· != "")

/-! ## Languages -/

/-- The language of a request. It has to be registered. -/
def checkLanguage (r : Registry) (store : Store) : Option String → Except Ending String
  | none => .error (.escape (.lostValue "--language") store)
  | some language =>
    if r.isSupported language then .ok language
    else .error (.report
      [.text ("[red]✗ Unsupported language '" ++ language ++ "'[/red]"),
       .text ("[dim]Supported languages: " ++ joinStrings ", " r.languages ++ "[/dim]")] store)

def showLanguages (r : Registry) (store : Store) : Except Ending Done := do
  let prints ← (languagesReport r).mapError fun fault => Ending.error store fault.message
  return { prints, store }

def describeLanguage (r : Registry) (store : Store) (language : String) : Except Ending Done :=
  match r.info language with
  | .error _ => .error (.report
      [.text ("[red]✗ Language '" ++ language ++ "' is not supported[/red]"),
       .text "[dim]Use --list-languages to see available options[/dim]"] store)
  | .ok info =>
    match r.create {} language (.value .null) with
    | .error fault =>
      .error
        (.report (infoReport info ++ [.text ("[red]✗ Error:[/red] " ++ fault.message)]) store)
    | .ok g => .ok { prints := infoReport info ++ settingsReport g, store }

/-! ## Generating a class -/

namespace GenerateRequest

/-- Whether a source is named. An empty name does not count. -/
def hasSource (q : GenerateRequest) : Bool :=
  isGiven q.file || isGiven q.url || q.stdin

/-- The field that a text sets, if it is given. -/
def field (name : String) (s : Option String) : Json.Fields :=
  if isGiven s then [(name, .str (s.getD ""))] else []

/-- The Dart options that the flags set. -/
def custom (q : GenerateRequest) : Json.Fields :=
  field "lookup_type" q.lookupType ++ field "custom_lookup_type" q.customLookupType
    ++ field "delegate_type" q.delegateType
    ++ (if q.noContextAccessor then [("context_accessor", .bool false)] else [])

/-- The settings that the flags set. -/
def overrides (q : GenerateRequest) : Json.Fields :=
  field "class_name" q.className ++ field "key_case" q.keyCase
    ++ (if q.noDocs then [("add_comments", .bool false)] else [])
    ++ field "output_file" q.output
    ++ (if q.custom.isEmpty then [] else [("custom", .obj q.custom)])

/-- The settings file, as a value that may be missing. -/
def settingsFile (q : GenerateRequest) : Json :=
  (q.config.map Json.str).getD .null

/-- Settings without problems. -/
def checkSettings (store : Store) (settings : Settings) : Except Ending Settings :=
  match settings.validate with
  | .error cause => .error (.escape (.misuse cause) store)
  | .ok [] => .ok settings
  | .ok problems =>
    .error (Ending.error store (joinStrings "; " (problems.map Settings.Problem.message)))

/-- The settings of a request for a language, from a file and the flags. -/
def settings (q : GenerateRequest) (store : Store) (language : String) :
    Except Ending Settings := do
  let loaded := Settings.load store language (.obj q.overrides) q.settingsFile
  checkSettings store (← loaded.mapError (Ending.ofSettings store "Configuration error: "))

/-- The document of a request. -/
def document (q : GenerateRequest) (world : Loading.World) (stdin : String) :
    Except Ending Json.Fields × List Notice :=
  let (loaded, notices) := Loading.load world
    { file := q.file, url := q.url, stream := if q.stdin then some stdin else none }
  ((loaded.map Loading.Loaded.fields).mapError (Ending.ofLoading world.store), notices)

/-- Write the text of a class to a file. -/
def writeClass (store : Store) (language : String) (path : Path) (code : String) :
    Except Ending (Print × Store) :=
  match store.write path (Utf8.encode code.toList) with
  | .ok store => .ok (savedReport language path, store)
  | .error .nulCharacter => .error (.escape (.path .nulCharacter) store)
  | .error fault => .error (.report
      [.text ("[red]✗ Failed to write to " ++ path.text ++ ":[/red] " ++ fault.message path.text)]
      store)

/-- Write the text of a class to the file that the settings name, or else print it: highlighted on a
terminal, and as it is anywhere else. -/
def deliver (console : Console) (store : Store) (language : String) (settings : Settings)
    (code : String) : Except Ending (Print × Store) :=
  if settings.outputFile.truthy then
    match settings.outputFile with
    | .str file => writeClass store language (Path.ofString file) code
    | v => .error (.escape (.misuse (.path v.kind)) store)
  else if console.isTerminal then .ok (.highlighted language code, store)
  else .ok (.verbatim code, store)

/-- What comes of a generation. -/
def conclude (q : GenerateRequest) (console : Console) (store : Store) (language : String)
    (settings : Settings) : Generation → Except Ending Done
  | .failure cause =>
    .error (.report [.text ("[red]✗ Code generation failed:[/red] " ++ cause.message)] store)
  | .success code warnings metadata => do
    let (delivery, store) ← deliver console store language settings code
    let details := if q.verbose then metadataReport metadata else []
    return { prints := delivery :: details ++ warningsReport warnings, store }

/-- How far the templates of a class show values: integers to the digits that can be read, and nesting
to somewhat less than the depth that can, as more calls are under way by then. The case style has been
checked before a class is made. -/
def limits : Limits where
  output := some { digits := Json.maxDigits, depth := 982 }

/-- Generate the class for a document. -/
def generate (q : GenerateRequest) (r : Registry) (console : Console) (store : Store)
    (language : String) (document : Json.Fields) : Except Ending Done × List Notice :=
  match q.settings store language with
  | .error ending => (.error ending, [])
  | .ok settings =>
    match r.generate store (.obj document) language (.settings settings) limits with
    | .error (.registry fault) => (.error (Ending.error store fault.message), [])
    | .error (.misuse cause) => (.error (.escape (.misuse cause) store), [])
    | .ok (generation, notices) =>
      (q.conclude console store language settings generation, notices)

/-- Run the command that generates a class. -/
def run (q : GenerateRequest) (r : Registry) (console : Console) (world : Loading.World)
    (stdin : String) : Except Ending Done × List Notice :=
  if q.listLanguages then (showLanguages r world.store, [])
  else if isGiven q.languageInfo then
    (describeLanguage r world.store (q.languageInfo.getD ""), [])
  else if !q.hasSource then
    (.error (.report [.text "[red]✗[/red] Input source required (file, --url, or --stdin)"]
      world.store), [])
  else
    match checkLanguage r world.store q.language with
    | .error ending => (.error ending, [])
    | .ok language =>
      match q.document world stdin with
      | (.error ending, notices) => (.error ending, notices)
      | (.ok document, notices) =>
        let (done, more) := q.generate r console world.store language document
        (done, notices ++ more)

end GenerateRequest

/-! ## Writing default settings -/

/-- Run the command that writes default settings. -/
def ConfigRequest.run (q : ConfigRequest) (r : Registry) (store : Store) :
    Except Ending Done := do
  let language ← checkLanguage r store q.language
  let settings ← (Settings.load store language .null .null).mapError fun fault =>
    Ending.escape (.settings fault) store
  let some output := q.output | throw (.escape (.lostValue "--output") store)
  let store ← (settings.save store (Path.ofString output)).mapError (Ending.ofSettings store "")
  let text := "[green]✓[/green] Configuration written to [cyan]" ++ output ++ "[/cyan]"
  return { prints := [.text text], store }

/-! ## Running -/

/-- The text of a help page. -/
def Page.text (p : Page) : String :=
  joinStrings "" (p.lines.map (· ++ "\n"))

/-- The outcome of a command line that asks for no command. -/
def Stop.outcome (store : Store) : Stop → Outcome
  | .help page => { exit := 0, output := page.text, store }
  | .version => { exit := 0, output := programName ++ " " ++ versionNumber ++ "\n", store }
  | .fault page cause =>
    { exit := 2
      complaint := page.usage ++ "\n" ++ page.name ++ ": error: " ++ cause.message ++ "\n"
      store }

/-- The notices that a log of some level holds. -/
def logged (level : String) (notices : List Notice) : List Notice :=
  notices.filter fun n => Logging.isLogged level n.level

/-- Run a request. -/
def Request.run (q : Request) (r : Registry) (console : Console) (world : Loading.World)
    (stdin : String) : Result :=
  match q.logLevel, q.command with
  | none, _ => { outcome := .error { fault := .lostValue "--log-level", store := world.store } }
  | some _, none =>
    { outcome := .ok { exit := 1, output := Page.program.text, store := world.store } }
  | some level, some (.generate request) =>
    let (done, notices) := request.run r console world stdin
    .ofCommand console done (logged level notices)
  | some _, some (.config request) => .ofCommand console (request.run r world.store) []

/-- Run a command line. -/
def run (r : Registry) (console : Console) (world : Loading.World) (stdin : String)
    (line : List String) : Result :=
  match Request.ofWords line with
  | .error stop => { outcome := .ok (stop.outcome world.store) }
  | .ok request => request.run r console world stdin

end Phrasebook.CommandLine
