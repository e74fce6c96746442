-- SUMMARY: Paths of files: their parts, text and suffix.
import Phrasebook.Text.Basic

/-!
# Paths

A path is a root and the parts below it. Empty parts and single points say
nothing and are left out; a part of two points leads to the parent and stays.
-/

namespace Phrasebook

open Text

structure Path where
  /-- Empty for a path that starts at the working directory. -/
  root : String
  parts : List String
  deriving DecidableEq, Repr

namespace Path

def ofString (s : String) : Path :=
  let cs := s.toList
  let slashes := (cs.takeWhile (· = '/')).length
  { root := if slashes = 0 then "" else if slashes = 2 then "//" else "/"
    parts := ((split '/' cs).map String.ofList).filter fun part => part != "" && part != "." }

def text (p : Path) : String :=
  if p.root = "" && p.parts.isEmpty then "." else p.root ++ joinStrings "/" p.parts

/-- The last part from its last point on, if something stands on either side of the point. -/
def suffix (p : Path) : String :=
  match p.parts.getLast? with
  | none => ""
  | some name =>
    let cs := name.toList
    let ending := (cs.reverse.takeWhile (· ≠ '.')).reverse
    let stem := cs.length - ending.length - 1
    if ending.length < cs.length && 0 < stem && !ending.isEmpty then
      String.ofList ('.' :: ending)
    else ""

end Path

end Phrasebook
