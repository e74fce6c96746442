-- SUMMARY: What the program tells of languages and of generated classes.
import Phrasebook.CommandLine.Printout
import Phrasebook.Generation
import Phrasebook.Json.Display
import Phrasebook.Text.Case

/-!
# Reports

What is printed about the languages of a registry, about one of them, and about
a class that has been generated.
-/

namespace Phrasebook.CommandLine

open Text

/-! ## Fields -/

/-- The name of a field as a title. -/
def fieldTitle (name : String) : String :=
  title (replaceChar '_' ' ' name)

/-- A row for each field. -/
def fieldRows (fields : Json.Fields) : List (List String) :=
  fields.map fun f => [fieldTitle f.1, f.2.display]

/-- A table of fields. -/
def fieldTable (title heading : String) (fields : Json.Fields) : Table where
  title
  box := .simple
  columns := [{ heading }, { heading := "Value" }]
  rows := fieldRows fields

/-! ## Languages -/

/-- The row of a language. -/
def languageRow (language : String) (i : Registry.Info) : List String :=
  let aliases := if i.aliases.isEmpty then "[dim]none[/dim]" else joinStrings ", " i.aliases
  ["🔧 " ++ language, i.extension, i.className, aliases]

/-- The table of all languages. -/
def languageTable (rows : List (List String)) : Table where
  title := "📋 Supported Languages"
  box := .rounded
  columns :=
    [{ heading := "Language", wraps := false }, { heading := "Extension" },
     { heading := "Generator Class" }, { heading := "Aliases" }]
  rows

/-- What is told of all languages. -/
def languagesReport (r : Registry) : Except Registry.Fault (List Print) := do
  let rows ← r.languages.mapM fun language => do
    return languageRow language (← r.info language)
  if rows.isEmpty then
    return [.text "[yellow]⚠️ No code generators available[/yellow]"]
  else
    let usage := "[bold]Usage:[/bold] i18n-codegen generate [dim]strings.json[/dim] "
      ++ "--language [cyan]LANGUAGE[/cyan]\n"
      ++ "[bold]Info:[/bold] i18n-codegen generate --language-info [cyan]LANGUAGE[/cyan]"
    return [.blankLine, .table (languageTable rows), .blankLine, .panel "💡 Quick Start" usage]

/-- What is told of the class of a language. -/
def infoReport (i : Registry.Info) : List Print :=
  let content :=
    ["[bold]Language:[/bold] " ++ i.name, "[bold]File Extension:[/bold] " ++ i.extension,
     "[bold]Generator Class:[/bold] " ++ i.className, "[bold]Module:[/bold] " ++ i.module]
  let aliases :=
    if i.aliases.isEmpty then [] else ["[bold]Aliases:[/bold] " ++ joinStrings ", " i.aliases]
  [.blankLine,
   .panel ("🔧 " ++ title i.name ++ " Generator") (joinStrings "\n" (content ++ aliases))]

/-- What is told of the settings in effect. -/
def settingsReport (g : Generator) : List Print :=
  let fields : Json.Fields := [("key_case", g.settings.keyCase)]
  let table :=
    fieldTable "⚙️  Default Configuration" "Setting" (fields.putAll (g.info?.getD []))
  [.blankLine, .table table]

/-! ## Classes -/

/-- What is told of a class that has been written to a file. -/
def savedReport (language : String) (path : Path) : Print :=
  .text ("[green]✓[/green] Generated " ++ language ++ " code saved to [cyan]" ++ path.text
    ++ "[/cyan]")

def metadataReport (m : Metadata) : List Print :=
  [.blankLine, .table (fieldTable "📊 Generation Metadata" "Property" m.fields)]

/-- What is told of the warnings, if there are any. -/
def warningsReport (warnings : List Warning) : List Print :=
  if warnings.isEmpty then []
  else
    .text "\n[yellow]⚠️  Warnings:[/yellow]"
      :: warnings.map (fun w => .text ("  [yellow]•[/yellow] " ++ w.message)) ++ [.blankLine]

end Phrasebook.CommandLine
