-- SUMMARY: The program: it looks at what a command line names, runs it and carries out the result.
import Phrasebook.CommandLine.Run

/-!
# The program

Runs are pure. Around them, the program looks up the paths that a command line
names, and afterwards writes the files that have changed and prints. It has no
connection to the web.
-/

namespace Phrasebook.Program

open CommandLine

/-! ## Files -/

/-- The path of a place. -/
def placeText (place : Place) : String :=
  match place with
  | [] => "."
  | "/" :: parts => "/" ++ Text.joinStrings "/" parts
  | parts => Text.joinStrings "/" parts

/-- What lies at a place. -/
def probe (place : Place) : IO (Option Node) := do
  try
    return some (.file (← IO.FS.readBinFile (placeText place)).toList)
  catch
    | .noFileOrDirectory _ _ _ => return none
    | _ => return some .directory

/-- What lies on the way along some parts. -/
def survey (place : Place) : List String → IO (List (Place × Node))
  | [] => return []
  | part :: parts => do
    let place := if part = ".." then Store.parent place else place ++ [part]
    match ← probe place with
    | none => return []
    | some node => return (place, node) :: (← survey place parts)

/-- A store that also has what lies at a path and on the way to it. -/
def withPath (store : Store) (file : String) : IO Store := do
  let path := Path.ofString file
  let nodes ← survey (if path.root = "" then [] else ["/"]) path.parts
  return { nodes := store.nodes ++ nodes }

/-- A store that also has what lies at the paths that are given. -/
def withPaths (store : Store) (files : List (Option String)) : IO Store :=
  files.foldlM (fun store file => (file.map (withPath store)).getD (pure store)) store

/-- What a command can see of the files. -/
def storeFor : Command → IO Store
  | .config q => withPaths {} [q.output]
  | .generate q => do
    let store ← withPaths {} [q.file, q.config]
    match q.settings store (q.language.getD "") with
    | .ok { outputFile := .str file, .. } => withPath store file
    | _ => return store

/-- Write the files that a run has changed. -/
def writeChanges (before after : Store) : IO Unit :=
  (after.changesSince before).forM fun (place, content) =>
    IO.FS.writeBinFile (placeText place) (ByteArray.mk content.toArray)

/-! ## Running -/

/-- All that is left to read. -/
partial def readAll (stream : IO.FS.Stream) (soFar : String) : IO String := do
  let line ← stream.getLine
  if line.isEmpty then return soFar else readAll stream (soFar ++ line)

/-- The standard input, if the command reads it. -/
def inputFor : Command → IO String
  | .generate q => if q.stdin then do readAll (← IO.getStdin) "" else return ""
  | .config _ => return ""

/-- Print what a run leaves, and write what it has changed. -/
def carryOut (before : Store) (result : Result) : IO UInt32 := do
  for notice in result.notices do
    IO.eprintln (notice.level.word ++ ": " ++ notice.message)
  match result.outcome with
  | .error interruption =>
    writeChanges before interruption.store
    IO.print interruption.output
    IO.eprintln interruption.fault.message
    return 1
  | .ok outcome =>
    writeChanges before outcome.store
    IO.eprint outcome.complaint
    IO.print outcome.output
    return outcome.exit.toUInt32

end Phrasebook.Program

open Phrasebook Phrasebook.CommandLine Phrasebook.Program in
/-- Run a command line. -/
def main (line : List String) : IO UInt32 := do
  match Request.ofWords line with
  | .error stop => carryOut {} { outcome := .ok (stop.outcome {}) }
  | .ok request =>
    let store ← (request.command.map storeFor).getD (pure {})
    let input ← (request.command.map inputFor).getD (pure "")
    carryOut store (request.run Registry.builtin {} { store } input)
