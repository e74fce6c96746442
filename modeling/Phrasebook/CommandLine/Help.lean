-- SUMMARY: The help pages of the program and of its commands.
import Phrasebook.CommandLine.Request

/-!
# Help

A page shows the usage, a description and the sections of flags. The texts
about the flags stand in one column, below a flag that is too long for it.
-/

namespace Phrasebook.CommandLine

open Text

def programName : String :=
  "i18n-codegen"

def versionNumber : String :=
  "0.1.0"

/-! ## Flags -/

/-- The value of a flag as it is shown, after a space. -/
def Argument.shown : Argument → String
  | .nothing => ""
  | .value name => " " ++ name
  | .choice values => " \x7b" ++ joinStrings "," values ++ "\x7d"

/-- A flag in the usage. -/
def Flag.usage {α : Type} (f : Flag α) : String :=
  "[" ++ f.names.headD "" ++ f.argument.shown ++ "]"

/-- What a page tells about a flag, an operand or a command. -/
structure Entry where
  indent : Nat := 2
  shown : String
  help : Option String

def Flag.entry {α : Type} (f : Flag α) : Entry where
  shown := joinStrings ", " (f.names.map (· ++ f.argument.shown))
  help := some f.help

/-! ## Layout -/

/-- The column of the texts about flags. -/
def helpColumn : Nat :=
  24

def spaces (n : Nat) : String :=
  String.ofList (List.replicate n ' ')

/-- The lines of an entry. -/
def Entry.lines (e : Entry) : List String :=
  let start := spaces e.indent ++ e.shown
  match e.help with
  | none => [start]
  | some help =>
    if start.length + 2 ≤ helpColumn then [start ++ spaces (helpColumn - start.length) ++ help]
    else [start, spaces helpColumn ++ help]

structure Section where
  title : String
  entries : List Entry

def Section.lines (s : Section) : List String :=
  "" :: (s.title ++ ":") :: s.entries.flatMap Entry.lines

/-! ## Pages -/

namespace Page

/-- The name under which the usage shows what the page is about. -/
def name : Page → String
  | .program => programName
  | .generate => programName ++ " generate"
  | .config => programName ++ " config"

/-- What can follow the name. -/
def parameters : Page → List String
  | .program => programFlags.map Flag.usage ++ ["\x7bgenerate,config\x7d", "..."]
  | .generate => generateFlags.map Flag.usage ++ ["[file]"]
  | .config => configFlags.map Flag.usage

def usage (p : Page) : String :=
  "usage: " ++ joinStrings " " (p.name :: p.parameters)

def description : Page → List String
  | .program => ["", "Generate localization accessor classes from translated strings"]
  | .generate => ["", "Generate a localization accessor class from translated strings"]
  | .config => []

def sections : Page → List Section
  | .program =>
    [{ title := "positional arguments"
       entries := [
         { shown := "\x7bgenerate,config\x7d", help := none },
         { indent := 4
           shown := "generate"
           help := some "Generate the i18n accessor class from a resource document" },
         { indent := 4
           shown := "config"
           help := some "Write the default configuration to a JSON file" }] },
     { title := "options", entries := programFlags.map Flag.entry }]
  | .generate =>
    [{ title := "positional arguments"
       entries := [{ shown := "file", help := some "Resource document (JSON)" }] },
     { title := "options", entries := generalFlags.map Flag.entry },
     { title := "Dart-specific options", entries := dartFlags.map Flag.entry },
     { title := "information", entries := informationFlags.map Flag.entry }]
  | .config => [{ title := "options", entries := configFlags.map Flag.entry }]

def examples : Page → List String
  | .generate =>
    ["",
     "Examples:",
     "  i18n-codegen generate strings.json",
     "  i18n-codegen generate -o lib/i18n.dart --class-name Strings strings.json",
     "  i18n-codegen generate --stdin < strings.json",
     "  i18n-codegen generate --list-languages"]
  | _ => []

def lines (p : Page) : List String :=
  p.usage :: p.description ++ p.sections.flatMap Section.lines ++ p.examples

end Page

end Phrasebook.CommandLine
