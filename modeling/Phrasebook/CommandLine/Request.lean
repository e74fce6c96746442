-- SUMMARY: What a command line asks for: a command with its arguments, or help.
import Phrasebook.CommandLine.Item

/-!
# Requests

There are two commands: one generates a class, the other writes default
settings. Words are taken from left to right, and the first flag that asks for
help or cannot be used ends the reading. Words without a meaning are refused
last.
-/

namespace Phrasebook.CommandLine

/-! ## Flags -/

inductive ProgramFlag where
  | help
  | version
  | logLevel
  deriving DecidableEq, Repr

inductive GenerateFlag where
  | help
  | url
  | stdin
  | language
  | output
  | config
  | className
  | keyCase
  | noDocs
  | verbose
  | lookupType
  | customLookupType
  | delegateType
  | noContextAccessor
  | listLanguages
  | languageInfo
  deriving DecidableEq, Repr

inductive ConfigFlag where
  | help
  | language
  | output
  deriving DecidableEq, Repr

def helpFlag {α : Type} (means : α) : Flag α where
  means
  names := ["-h", "--help"]
  help := "show this help message and exit"

def languageFlag {α : Type} (means : α) : Flag α where
  means
  names := ["--language", "-l"]
  argument := .value "LANGUAGE"
  help := "Target language (default: dart)"

def outputFlag {α : Type} (means : α) (help : String) : Flag α where
  means
  names := ["--output", "-o"]
  argument := .value "OUTPUT"
  help

def logLevels : List String :=
  ["DEBUG", "INFO", "WARNING", "ERROR"]

/-- The flags before the command. -/
def programFlags : List (Flag ProgramFlag) :=
  [helpFlag .help,
   { means := .version
     names := ["--version"]
     help := "show program's version number and exit" },
   { means := .logLevel
     names := ["--log-level"]
     argument := .choice logLevels
     help := "Logging verbosity (default: WARNING)" }]

/-- The general flags of the command that generates a class. -/
def generalFlags : List (Flag GenerateFlag) :=
  [helpFlag .help,
   { means := .url
     names := ["--url"]
     argument := .value "URL"
     help := "URL to fetch the resource document from" },
   { means := .stdin
     names := ["--stdin"]
     help := "Read the resource document from stdin" },
   languageFlag .language,
   outputFlag .output "Output file (default: stdout)",
   { means := .config
     names := ["--config"]
     argument := .value "CONFIG"
     help := "Configuration file path (JSON)" },
   { means := .className
     names := ["--class-name"]
     argument := .value "CLASS_NAME"
     help := "Name of the generated class" },
   { means := .keyCase
     names := ["--key-case"]
     argument := .choice ["camel", "pascal", "snake"]
     help := "Case style of accessor names derived from keys" },
   { means := .noDocs
     names := ["--no-docs"]
     help := "Don't add translation tables above the accessors" },
   { means := .verbose
     names := ["--verbose"]
     help := "Show generation result metadata" }]

/-- The flags that only matter to Dart classes. -/
def dartFlags : List (Flag GenerateFlag) :=
  [{ means := .lookupType
     names := ["--lookup-type"]
     argument := .value "LOOKUP_TYPE"
     help := "Type of the default lookup" },
   { means := .customLookupType
     names := ["--custom-lookup-type"]
     argument := .value "CUSTOM_LOOKUP_TYPE"
     help := "Type of the optional custom lookup" },
   { means := .delegateType
     names := ["--delegate-type"]
     argument := .value "DELEGATE_TYPE"
     help := "Type of the delegate" },
   { means := .noContextAccessor
     names := ["--no-context-accessor"]
     help := "Don't generate the of(BuildContext) helper" }]

/-- The flags that ask for information in place of a class. -/
def informationFlags : List (Flag GenerateFlag) :=
  [{ means := .listLanguages
     names := ["--list-languages"]
     help := "List supported languages and exit" },
   { means := .languageInfo
     names := ["--language-info"]
     argument := .value "LANGUAGE"
     help := "Show detailed info about a language and exit" }]

def generateFlags : List (Flag GenerateFlag) :=
  generalFlags ++ dartFlags ++ informationFlags

def configFlags : List (Flag ConfigFlag) :=
  [helpFlag .help, languageFlag .language, outputFlag .output "Configuration file path"]

/-! ## Requests -/

/-- The arguments of the command that generates a class. -/
structure GenerateRequest where
  file : Option String := none
  url : Option String := none
  stdin : Bool := false
  /-- The language, unless its flag has lost its value. -/
  language : Option String := some "dart"
  output : Option String := none
  config : Option String := none
  className : Option String := none
  keyCase : Option String := none
  noDocs : Bool := false
  verbose : Bool := false
  lookupType : Option String := none
  customLookupType : Option String := none
  delegateType : Option String := none
  noContextAccessor : Bool := false
  listLanguages : Bool := false
  languageInfo : Option String := none
  deriving DecidableEq, Repr

/-- The arguments of the command that writes default settings. -/
structure ConfigRequest where
  /-- The language, unless its flag has lost its value. -/
  language : Option String := some "dart"
  /-- The file to write, unless its flag has lost its value. -/
  output : Option String := some "i18n_codegen.json"
  deriving DecidableEq, Repr

inductive Command where
  | generate (request : GenerateRequest)
  | config (request : ConfigRequest)
  deriving DecidableEq, Repr

/-- What there is help for. -/
inductive Page where
  | program
  | generate
  | config
  deriving DecidableEq, Repr

/-- Why no command is run. -/
inductive Stop where
  | help (page : Page)
  | version
  | fault (page : Page) (fault : Fault)
  deriving DecidableEq, Repr

/-- A command, unless none is named, and the level of what is logged. -/
structure Request where
  /-- The level, unless its flag has lost its value. -/
  logLevel : Option String := some "WARNING"
  command : Option Command := none
  deriving DecidableEq, Repr

/-! ## Taking items -/

/-- Take items in order. The words without a meaning are left. -/
def takeItems {α σ : Type} (page : Page) (flag : σ → α → Option String → Except Stop σ)
    (operand : σ → String → List String → Except Stop σ) :
    σ → List (Item α) → Except Stop (σ × List String)
  | s, [] => .ok (s, [])
  | s, .flag f value :: items => do
    let value ← (f.checked value).mapError (.fault page)
    takeItems page flag operand (← flag s f.means value) items
  | s, .operand word rest :: items => do
    takeItems page flag operand (← operand s word rest) items
  | s, .unknown word :: items => do
    let (s, more) ← takeItems page flag operand s items
    return (s, word :: more)
  | _, .fault fault :: _ => .error (.fault page fault)

/-- What the words of a command say. -/
def itemsOf {α : Type} (page : Page) (flags : List (Flag α)) (operands : Operands)
    (line : List String) : Except Stop (List (Item α)) :=
  (items flags operands line).mapError (.fault page)

namespace GenerateRequest

/-- The sources that are given, as messages name them. -/
def sources (r : GenerateRequest) : List String :=
  (if r.file.isSome then ["file"] else []) ++ (if r.url.isSome then ["--url"] else [])
    ++ (if r.stdin then ["--stdin"] else [])

/-- A request with one more source, which has to be the only one. -/
def withSource (r : GenerateRequest) (source : String) (update : GenerateRequest) :
    Except Stop GenerateRequest :=
  match r.sources.find? (· != source) with
  | some other => .error (.fault .generate (.conflict source other))
  | none => .ok update

/-- Take a flag. One that has lost its value counts as not given, but still as a source. -/
def takeFlag (r : GenerateRequest) (flag : GenerateFlag) (value : Option String) :
    Except Stop GenerateRequest :=
  match flag with
  | .help => .error (.help .generate)
  | .url => r.withSource "--url" { r with url := some (value.getD "") }
  | .stdin => r.withSource "--stdin" { r with stdin := true }
  | .language => .ok { r with language := value }
  | .output => .ok { r with output := value }
  | .config => .ok { r with config := value }
  | .className => .ok { r with className := value }
  | .keyCase => .ok { r with keyCase := value }
  | .noDocs => .ok { r with noDocs := true }
  | .verbose => .ok { r with verbose := true }
  | .lookupType => .ok { r with lookupType := value }
  | .customLookupType => .ok { r with customLookupType := value }
  | .delegateType => .ok { r with delegateType := value }
  | .noContextAccessor => .ok { r with noContextAccessor := true }
  | .listLanguages => .ok { r with listLanguages := true }
  | .languageInfo => .ok { r with languageInfo := value }

def takeOperand (r : GenerateRequest) (word : String) (_rest : List String) :
    Except Stop GenerateRequest :=
  r.withSource "file" { r with file := some word }

/-- The request of the words after the command's name, and the words without a meaning. -/
def ofWords (line : List String) : Except Stop (GenerateRequest × List String) := do
  takeItems .generate takeFlag takeOperand {} (← itemsOf .generate generateFlags .single line)

end GenerateRequest

namespace ConfigRequest

def takeFlag (r : ConfigRequest) (flag : ConfigFlag) (value : Option String) :
    Except Stop ConfigRequest :=
  match flag with
  | .help => .error (.help .config)
  | .language => .ok { r with language := value }
  | .output => .ok { r with output := value }

/-- The request of the words after the command's name, and the words without a meaning. -/
def ofWords (line : List String) : Except Stop (ConfigRequest × List String) := do
  takeItems .config takeFlag (fun r _ _ => .ok r) {} (← itemsOf .config configFlags .unknown line)

end ConfigRequest

/-- The names of the commands. -/
def commandNames : List String :=
  ["generate", "config"]

/-- The command of a name with the words after it, and those of them without a meaning. -/
def Command.ofWords (name : String) (line : List String) :
    Except Stop (Command × List String) :=
  match name with
  | "generate" => do
    let (request, unknown) ← GenerateRequest.ofWords line
    return (.generate request, unknown)
  | "config" => do
    let (request, unknown) ← ConfigRequest.ofWords line
    return (.config request, unknown)
  | name => .error (.fault .program (.badChoice "command" name commandNames))

namespace Request

/-- A request, and words without a meaning. -/
abbrev Reading := Request × List String

def takeFlag (r : Reading) (flag : ProgramFlag) (value : Option String) : Except Stop Reading :=
  match flag with
  | .help => .error (.help .program)
  | .version => .error .version
  | .logLevel => .ok ({ r.1 with logLevel := value }, r.2)

def takeOperand (r : Reading) (word : String) (rest : List String) : Except Stop Reading := do
  let (command, unknown) ← Command.ofWords word rest
  return ({ r.1 with command := some command }, unknown)

/-- The request of a command line. -/
def ofWords (line : List String) : Except Stop Request := do
  let items ← itemsOf .program programFlags .command line
  let ((request, unknown), before) ← takeItems .program takeFlag takeOperand ({}, []) items
  match before ++ unknown with
  | [] => return request
  | words => throw (.fault .program (.unrecognized words))

end Request

end Phrasebook.CommandLine
