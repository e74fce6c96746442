-- SUMMARY: UTF-8: encoding, and decoding with the place and reason of the first fault.
import Phrasebook.Text.Quoted

/-!
# UTF-8

A fault covers the bytes up to the first one that cannot continue the
character: the whole rest if the text merely ends too early.
-/

namespace Phrasebook.Text.Utf8

inductive Reason where
  | start
  | continuation
  | endOfData
  deriving DecidableEq, Repr

def Reason.message : Reason → String
  | .start => "invalid start byte"
  | .continuation => "invalid continuation byte"
  | .endOfData => "unexpected end of data"

/-- The bytes `position` to `position + length - 1`, of which `byte` is the first, are no text. -/
structure Fault where
  reason : Reason
  byte : UInt8
  position : Nat
  length : Nat
  deriving DecidableEq, Repr

def Fault.message (f : Fault) : String :=
  "'utf-8' codec can't decode "
    ++ (if f.length = 1 then
        "byte 0x" ++ String.ofList (hexDigits 2 f.byte.toNat) ++ " in position "
          ++ toString f.position
      else
        "bytes in position " ++ toString f.position ++ "-"
          ++ toString (f.position + f.length - 1))
    ++ ": " ++ f.reason.message

/-- The bytes of a text. -/
def encode (cs : List Char) : List UInt8 :=
  cs.flatMap String.utf8EncodeChar

/-! ## Decoding -/

/-- How many bytes follow the first byte of a character, and the bounds of the one after it. -/
def lead? (first : Nat) : Option (Nat × Nat × Nat) :=
  if 0xC2 ≤ first && first ≤ 0xDF then some (1, 0x80, 0xBF)
  else if first == 0xE0 then some (2, 0xA0, 0xBF)
  else if first == 0xED then some (2, 0x80, 0x9F)
  else if 0xE1 ≤ first && first ≤ 0xEF then some (2, 0x80, 0xBF)
  else if first == 0xF0 then some (3, 0x90, 0xBF)
  else if first == 0xF4 then some (3, 0x80, 0x8F)
  else if 0xF1 ≤ first && first ≤ 0xF3 then some (3, 0x80, 0xBF)
  else none

/-- How many of the next `count` bytes continue a character, the first within the bounds. -/
def continued (low high : Nat) : (count : Nat) → List UInt8 → Nat
  | 0, _ => 0
  | _ + 1, [] => 0
  | count + 1, b :: bytes =>
    if low ≤ b.toNat && b.toNat ≤ high then continued 0x80 0xBF count bytes + 1 else 0

/-- The code point of a character of `count + 1` bytes. -/
def codePoint (first count : Nat) (bytes : List UInt8) : Nat :=
  (bytes.take count).foldl (fun n b => n * 0x40 + (b.toNat - 0x80)) (first % (0x40 >>> count))

/-- The text of the bytes, of which `skip` belong to the character before them. -/
def decodeFrom (position skip : Nat) : List UInt8 → Except Fault (List Char)
  | [] => .ok []
  | b :: bytes =>
    match skip with
    | skip + 1 => decodeFrom (position + 1) skip bytes
    | 0 =>
      if b.toNat < 0x80 then
        (decodeFrom (position + 1) 0 bytes).map (Char.ofNat b.toNat :: ·)
      else
        match lead? b.toNat with
        | none => .error ⟨.start, b, position, 1⟩
        | some (count, low, high) =>
          let held := continued low high count bytes
          if held = count then
            (decodeFrom (position + 1) count bytes).map
              (Char.ofNat (codePoint b.toNat count bytes) :: ·)
          else if bytes.length = held then .error ⟨.endOfData, b, position, held + 1⟩
          else .error ⟨.continuation, b, position, held + 1⟩

/-- The text of the bytes. -/
def decode (bytes : List UInt8) : Except Fault (List Char) :=
  decodeFrom 0 0 bytes

/-- A text with a line feed for every line break, be it a carriage return, a line feed or both. -/
def unifyBreaks : List Char → List Char
  | [] => []
  | '\r' :: '\n' :: cs => '\n' :: unifyBreaks cs
  | '\r' :: cs => '\n' :: unifyBreaks cs
  | c :: cs => c :: unifyBreaks cs

end Phrasebook.Text.Utf8
