-- SUMMARY: The scheme and authority of an address on the web.
import Phrasebook.Text.Basic

/-!
# Web addresses

Of an address only the scheme and the authority matter. An address has no
reading if its brackets do not enclose an address of the sixth version of the
internet protocol, or if a character of its authority decomposes into one that
separates the parts of an address.
-/

namespace Phrasebook

open Text

structure Url where
  scheme : List Char
  authority : List Char
  deriving DecidableEq, Repr

namespace Url

/-! ## Bracketed hosts -/

def isHexDigit (c : Char) : Bool :=
  c.isDigit || (0x41 ≤ c.toNat && c.toNat ≤ 0x46) || (0x61 ≤ c.toNat && c.toNat ≤ 0x66)

/-- One to four hexadecimal digits. -/
def isGroup (cs : List Char) : Bool :=
  !cs.isEmpty && cs.length ≤ 4 && cs.all isHexDigit

/-- A decimal number from 0 to 255 without leading zeros. -/
def isOctet (cs : List Char) : Bool :=
  !cs.isEmpty && cs.length ≤ 3 && cs.all Char.isDigit
    && (cs == ['0'] || cs.head? != some '0')
    && cs.foldl (fun n c => n * 10 + (c.toNat - '0'.toNat)) 0 ≤ 255

/-- Four octets with points between them. -/
def isDottedQuad (cs : List Char) : Bool :=
  let octets := split '.' cs
  octets.length == 4 && octets.all isOctet

/-- The groups of an address, with two groups for a dotted quad at the end. -/
def groups? (cs : List Char) : Option (List (List Char)) :=
  let groups := split ':' cs
  match groups.getLast? with
  | none => none
  | some last =>
    if last.contains '.' then
      if isDottedQuad last then some (groups.dropLast ++ [['0'], ['0']]) else none
    else some groups

/-- Whether groups are an address: eight of them, or fewer around one empty place. -/
def areAddress (groups : List (List Char)) : Bool :=
  let edge (side : List (List Char)) : List (List Char) := if side = [[]] then [] else side
  let gaps := (List.range (groups.length - 2)).filter fun i => groups[i + 1]? == some []
  match gaps with
  | [] => groups.length == 8 && groups.all isGroup
  | [gap] =>
    let before := edge (groups.take (gap + 1))
    let after := edge (groups.drop (gap + 2))
    before.all isGroup && after.all isGroup && before.length + after.length ≤ 7
  | _ => false

/-- A host address, possibly with a zone after a percent sign. -/
def isHostAddress (cs : List Char) : Bool :=
  let address := cs.takeWhile (· ≠ '%')
  let zone := (cs.dropWhile (· ≠ '%'))
  let zoneFits := zone.isEmpty || (1 < zone.length && zone.count '%' == 1)
  zoneFits && !cs.contains '/' && 3 ≤ (split ':' address).length &&
    match groups? address with
    | none => false
    | some groups => areAddress groups

/-- A host of a later version: the letter `v`, the version, a point and the rest. -/
def isFutureHost (cs : List Char) : Bool :=
  let version := cs.takeWhile (· ≠ '.')
  let rest := cs.dropWhile (· ≠ '.')
  1 < rest.length && 1 < version.length && (version.drop 1).all isHexDigit

def isBracketedHost (cs : List Char) : Bool :=
  if cs.head? = some 'v' then isFutureHost cs else isHostAddress cs

/-- The host of an authority and its port: all that follows the last at sign. -/
def hostAndPort (authority : List Char) : List Char :=
  (authority.reverse.takeWhile (· ≠ '@')).reverse

/-- Whether a host is an address in brackets, with nothing else than a port around them. Without
an opening bracket, the host itself has to be an address. -/
def isBracketed (host : List Char) : Bool :=
  match host.dropWhile (· ≠ '[') with
  | [] => isBracketedHost (host.takeWhile (· ≠ ':'))
  | _ :: inside =>
    let after := (inside.dropWhile (· ≠ ']')).drop 1
    host.head? == some '[' && (after.isEmpty || after.head? == some ':')
      && isBracketedHost (inside.takeWhile (· ≠ ']'))

/-- Whether the brackets of an authority are in order. -/
def bracketsFit (authority : List Char) : Bool :=
  match authority.contains '[', authority.contains ']' with
  | false, false => true
  | true, true => isBracketed (hostAndPort authority)
  | _, _ => false

/-! ## Addresses -/

/-- The characters whose compatibility decomposition holds one of `/ ? # @ :`. -/
def splitters : List Nat :=
  [0x2047, 0x2048, 0x2049, 0x2100, 0x2101, 0x2105, 0x2106, 0x2A74, 0xFE13, 0xFE16, 0xFE55, 0xFE56,
   0xFE5F, 0xFE6B, 0xFF03, 0xFF0F, 0xFF1A, 0xFF1F, 0xFF20]

def isSchemeChar (c : Char) : Bool :=
  c.isAlphanum || c = '+' || c = '-' || c = '.'

/-- The scheme of an address in lower case, empty if there is none, and the rest. -/
def takeScheme (cs : List Char) : List Char × List Char :=
  let name := cs.takeWhile (· ≠ ':')
  if name.length < cs.length && name.head?.any Char.isAlpha && name.all isSchemeChar then
    (name.map Char.toLower, cs.drop (name.length + 1))
  else ([], cs)

/-- Read an address. Controls and spaces before it and line breaks and tabs within it are passed
over. -/
def ofString? (s : String) : Option Url :=
  let cs := (s.toList.dropWhile fun c => c.toNat ≤ 0x20).filter fun c =>
    c != '\t' && c != '\r' && c != '\n'
  let (scheme, rest) := takeScheme cs
  let authority := match rest with
    | '/' :: '/' :: tail => tail.takeWhile fun c => c != '/' && c != '?' && c != '#'
    | _ => []
  if bracketsFit authority && !authority.any fun c => splitters.contains c.toNat then
    some { scheme, authority }
  else none

/-- Whether an address can be fetched: it is one of the web and has an authority. -/
def isFetchable (u : Url) : Bool :=
  (u.scheme == "http".toList || u.scheme == "https".toList) && !u.authority.isEmpty

end Url

end Phrasebook
