-- SUMMARY: Engines: named templates, kept in memory or found in a directory, and their filters.
import Phrasebook.Template.Parser
import Phrasebook.Template.Render
import Phrasebook.Text.Case

/-!
# Template engines

An engine has either the templates of a directory or templates of its own. The
first template that is added to one with a directory takes the directory's
place.
-/

namespace Phrasebook.Template

open Text

/-- Where an engine's templates are. -/
inductive Loader where
  /-- The templates of a directory, under their paths. -/
  | directory (templates : List (String × Template))
  /-- The texts of templates, under their names. -/
  | memory (sources : List (String × String))

structure Engine where
  loader : Loader := .memory []
  filters : List (String × Filter) := []

/-- A template that could not be rendered, by its name unless it has none. -/
structure EngineFault where
  name : Option String
  fault : Fault
  deriving DecidableEq, Repr

def EngineFault.message (f : EngineFault) : String :=
  (match f.name with
    | some name => "Failed to render template " ++ name
    | none => "Failed to render template string") ++ ": " ++ f.fault.message

namespace Engine

/-! ## Looking up -/

/-- The path that a name leads to below a directory. No name leads out of it. -/
def directoryPath (name : String) : Option String :=
  let parts := (split '/' name.toList).map String.ofList
  if parts.contains ".." then none
  else some (joinStrings "/" (parts.filter fun part => part != "" && part != "."))

/-- The template of a name, not yet read if the engine keeps its text. -/
def find? (e : Engine) (name : String) : Option (Except Fault Template) :=
  match e.loader with
  | .directory templates => do
    let path ← directoryPath name
    return .ok (← templates.lookup path)
  | .memory sources => (sources.lookup name).map fun source => (parse source).mapError .source

/-- Whether there is a template of a name. Whether it can be read or rendered is another matter. -/
def has (e : Engine) (name : String) : Bool :=
  (e.find? name).isSome

/-- Add a template under a name, in place of any other one. -/
def add (e : Engine) (name source : String) : Engine :=
  match e.loader with
  | .directory _ => { e with loader := .memory [(name, source)] }
  | .memory sources =>
    { e with loader := .memory ((name, source) :: sources.filter (·.1 != name)) }

/-! ## Rendering -/

/-- Whether a name is that of a markup text. -/
def isMarkup (name : String) : Bool :=
  let ends (ending : String) := ending.toList.isSuffixOf (lower name).toList
  ends ".html" || ends ".xml"

/-- What a template is rendered with, by its name unless it has none. -/
def environment (e : Engine) (name : Option String) (context : Json.Fields)
    (limit : Option Json.Limit := none) : Environment where
  filters := e.filters
  name
  escaping := name.any isMarkup
  context := context.map fun f => (f.1, .json f.2)
  limit

/-- Render the template of a name. -/
def render (e : Engine) (name : String) (context : Json.Fields)
    (limit : Option Json.Limit := none) : Except EngineFault String :=
  let result : Except Fault String := match e.find? name with
    | none => .error (.notFound name)
    | some template => template.bind (Template.render (e.environment name context limit))
  result.mapError fun fault => { name := some name, fault }

/-- Render the template of a text. -/
def renderString (e : Engine) (source : String) (context : Json.Fields) :
    Except EngineFault String :=
  let template := (parse source).mapError Fault.source
  (template.bind (Template.render (e.environment none context))).mapError
    fun fault => { name := none, fault }

end Engine

end Phrasebook.Template
