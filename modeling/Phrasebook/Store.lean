-- SUMMARY: A store of files and directories, and what reading and writing in it meet.
import Phrasebook.Path
import Phrasebook.Text.Quoted
import Phrasebook.Text.Utf8

/-!
# Stores

A store holds what lies at each place below the working directory. A path leads
to a place part by part; every part but the last has to be a directory. Places
outside the working directory hold nothing but the directories on the way.
-/

namespace Phrasebook

open Text

/-- A place: the names that lead to it from the working directory. -/
abbrev Place := List String

inductive Node where
  | file (content : List UInt8)
  | directory
  deriving DecidableEq, Repr

structure Store where
  nodes : List (Place × Node) := []
  deriving DecidableEq, Repr

namespace Store

/-! ## Faults -/

/-- Why a path cannot be used. -/
inductive Fault where
  | missing
  | notDirectory
  | isDirectory
  | longName
  | nulCharacter
  deriving DecidableEq, Repr

/-- The wording of a fault at a path. -/
def Fault.message (f : Fault) (path : String) : String :=
  match f with
  | .missing => "[Errno 2] No such file or directory: " ++ quoted path
  | .notDirectory => "[Errno 20] Not a directory: " ++ quoted path
  | .isDirectory => "[Errno 21] Is a directory: " ++ quoted path
  | .longName => "[Errno 36] File name too long: " ++ quoted path
  | .nulCharacter => "embedded null byte"

/-! ## Places -/

/-- The names of the places that surround the working directory. -/
def isOutside (place : Place) : Bool :=
  place == ["/"] || place.all (· == "..")

/-- Whether a directory is at a place: a recorded one, or one that something lies in. -/
def isDirectory (s : Store) (place : Place) : Bool :=
  isOutside place || s.nodes.any fun (p, node) =>
    (p == place && node == .directory) || (place.isPrefixOf p && place.length < p.length)

/-- What is at a place. -/
def node? (s : Store) (place : Place) : Option Node :=
  if s.isDirectory place then some .directory else s.nodes.lookup place

/-- The place that two points lead to. -/
def parent (place : Place) : Place :=
  if place = ["/"] then place
  else if place.all (· == "..") then ".." :: place
  else place.dropLast

/-- The greatest number of bytes that a part of a path may have. -/
def maxNameSize : Nat :=
  255

/-- The place that parts lead to. The last one need not exist. -/
def walk (s : Store) (place : Place) : List String → Except Fault Place
  | [] => .ok place
  | part :: parts =>
    match s.node? place with
    | none => .error .missing
    | some (.file _) => .error .notDirectory
    | some .directory =>
      if part = ".." then s.walk (parent place) parts
      else if maxNameSize < part.utf8ByteSize then .error .longName
      else s.walk (place ++ [part]) parts

/-- The greatest number of bytes that a path may have. -/
def maxPathSize : Nat :=
  4095

/-- The place that a path leads to. -/
def locate (s : Store) (path : Path) : Except Fault Place :=
  if path.text.toList.contains '\x00' then .error .nulCharacter
  else if maxPathSize < path.text.utf8ByteSize then .error .longName
  else s.walk (if path.root = "" then [] else ["/"]) path.parts

/-! ## Reading and writing -/

/-- Whether something is at a path. A name that is too long cannot be looked up. -/
def exists? (s : Store) (path : Path) : Except Fault Bool :=
  match s.locate path with
  | .error .longName => .error .longName
  | .error _ => .ok false
  | .ok place => .ok (s.node? place).isSome

/-- The content of the file at a path. -/
def read (s : Store) (path : Path) : Except Fault (List UInt8) := do
  let place ← s.locate path
  match s.node? place with
  | none => .error .missing
  | some .directory => .error .isDirectory
  | some (.file content) => .ok content

/-- The store with a file of the given content at a path. -/
def write (s : Store) (path : Path) (content : List UInt8) : Except Fault Store := do
  let place ← s.locate path
  match s.node? place with
  | some .directory => .error .isDirectory
  | _ => .ok { nodes := (place, .file content) :: s.nodes.filter (·.1 != place) }

/-- The files that are not in the store `before`, or have another content there. -/
def changesSince (s before : Store) : List (Place × List UInt8) :=
  s.nodes.filterMap fun (place, node) =>
    match node with
    | .directory => none
    | .file content =>
      if before.nodes.lookup place == some (.file content) then none else some (place, content)

end Store

end Phrasebook
