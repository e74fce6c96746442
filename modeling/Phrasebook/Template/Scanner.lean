-- SUMMARY: The source of a template cut into tokens.
import Phrasebook.Template.Escape
import Phrasebook.Template.Token
import Phrasebook.Text.Blank
import Phrasebook.Text.Digit
import Phrasebook.Text.Identifier
import Phrasebook.Text.Letter
import Phrasebook.Text.Utf8

/-!
# Scanning

Doubled braces enclose an output, braces with percent signs a tag, and braces
with number signs a comment; between two raw tags everything is plain text. A
line feed right after a tag or a comment goes away, as does the blank before one
that nothing else precedes on its line. A hyphen inside a brace takes all blank
on its side away, and a plus sign keeps what would go.

Scanning stops at the first fault. The tokens before it are there all the same,
since reading them may find a fault that comes first.
-/

namespace Phrasebook.Template

open Text

/-- Tokens, and the fault at which scanning has stopped. -/
structure Stream where
  tokens : List Token := []
  fault : Option Malformed := none

/-! ## Openings -/

/-- The sign inside a brace that tells what becomes of the blank outside of it. -/
inductive Mark where
  | none
  | trim
  | keep
  deriving DecidableEq, Repr

/-- The mark at the beginning of a text, and the text after it. -/
def Mark.split : List Char → Mark × List Char
  | '-' :: cs => (.trim, cs)
  | '+' :: cs => (.keep, cs)
  | cs => (.none, cs)

inductive Opening where
  | output
  | tag
  | comment
  deriving DecidableEq, Repr

/-- The opening at the beginning of a text, and the text after it. -/
def Opening.split? : List Char → Option (Opening × List Char)
  | '\x7b' :: '\x7b' :: cs => some (.output, cs)
  | '\x7b' :: '%' :: cs => some (.tag, cs)
  | '\x7b' :: '#' :: cs => some (.comment, cs)
  | _ => none

/-- The text before the next opening, the opening and the text after it. -/
def upToOpening : List Char → List Char × Option (Opening × List Char)
  | [] => ([], none)
  | c :: cs =>
    match Opening.split? (c :: cs) with
    | some opening => ([], some opening)
    | none =>
      let (text, opening) := upToOpening cs
      (c :: text, opening)

/-- The text before a tag, an output or a comment without the blank that goes away. `lineStart`
tells whether the text begins a line. -/
def trimBefore (mark : Mark) (ofOutput lineStart : Bool) (text : List Char) : List Char :=
  match mark with
  | .trim => trimEnd isBlank text
  | .keep => text
  | .none =>
    let lastLine := (text.reverse.takeWhile (· ≠ '\n')).reverse
    if !ofOutput && (text.contains '\n' || lineStart) && lastLine.all isBlank then
      text.take (text.length - lastLine.length)
    else text

/-! ## Closings -/

/-- The text after something, and whether that ends with a line feed. -/
abbrev After := List Char × Bool

def skipBlanks (cs : List Char) : After :=
  (cs.dropWhile isBlank, (cs.takeWhile isBlank).getLast? == some '\n')

/-- What comes after the closing of a tag or a comment, with the given sign before its brace. -/
def closing? (sign : Char) : List Char → Option After
  | '+' :: c :: '\x7d' :: cs => if c = sign then some (cs, false) else none
  | '-' :: c :: '\x7d' :: cs => if c = sign then some (skipBlanks cs) else none
  | c :: '\x7d' :: '\n' :: cs => if c = sign then some (cs, true) else none
  | c :: '\x7d' :: cs => if c = sign then some (cs, false) else none
  | _ => none

/-- What comes after the closing of an output. -/
def outputClosing? : List Char → Option After
  | '-' :: '\x7d' :: '\x7d' :: cs => some (skipBlanks cs)
  | '\x7d' :: '\x7d' :: cs => some (cs, false)
  | _ => none

/-- What comes after the end of the comment. -/
def afterComment? : List Char → Option After
  | [] => none
  | c :: cs =>
    match closing? '#' (c :: cs) with
    | some after => some after
    | none => afterComment? cs

/-- What comes after a raw tag, if the tag is one, given what comes after its opening. -/
def afterRawTag? (cs : List Char) : Option After :=
  match cs.dropWhile isBlank with
  | 'r' :: 'a' :: 'w' :: cs =>
    match cs.dropWhile isBlank with
    | '-' :: '%' :: '\x7d' :: cs => some (skipBlanks cs)
    | '%' :: '\x7d' :: cs => some (cs, false)
    | _ => none
  | _ => none

/-- The mark of the tag that ends raw text, and what comes after it, if the text begins with one. -/
def rawEnd? : List Char → Option (Mark × After)
  | '\x7b' :: '%' :: cs =>
    let (mark, cs) := Mark.split cs
    let cs := cs.dropWhile isBlank
    if "endraw".toList.isPrefixOf cs then
      (closing? '%' ((cs.drop 6).dropWhile isBlank)).map (mark, ·)
    else none
  | _ => none

/-- The text up to the tag that ends raw text, the mark of this tag and what comes after it. -/
def upToRawEnd? : List Char → Option (List Char × Mark × After)
  | [] => none
  | c :: cs =>
    match rawEnd? (c :: cs) with
    | some (mark, after) => some ([], mark, after)
    | none => (upToRawEnd? cs).map fun (text, rest) => (c :: text, rest)

/-! ## Numbers -/

/-- Digits with single underscores between them, and the text after them. The first argument bounds
the number of runs of digits. -/
def digitRuns (isDigit : Char → Bool) : Nat → List Char → List Char × List Char
  | 0, cs => ([], cs)
  | fuel + 1, cs =>
    let digits := cs.takeWhile isDigit
    match cs.dropWhile isDigit with
    | '_' :: c :: rest =>
      if !digits.isEmpty && isDigit c then
        let (more, rest) := digitRuns isDigit fuel (c :: rest)
        (digits ++ more, rest)
      else (digits, '_' :: c :: rest)
    | rest => (digits, rest)

/-- Decimal digits, of which there has to be one. -/
def decimalDigits? (cs : List Char) : Option (List Char × List Char) :=
  match digitRuns Char.isDigit cs.length cs with
  | ([], _) => none
  | run => some run

/-- The digits after a decimal point. -/
def places? : List Char → Option (List Char × List Char)
  | '.' :: cs => decimalDigits? cs
  | _ => none

/-- The value of an exponent. -/
def power? : List Char → Option (Int × List Char)
  | e :: cs =>
    if e = 'e' || e = 'E' then
      let (negative, cs) := match cs with
        | '-' :: cs => (true, cs)
        | '+' :: cs => (false, cs)
        | _ => (false, cs)
      (decimalDigits? cs).map fun (digits, rest) =>
        let n : Int := Json.natOfDigits digits
        (if negative then -n else n, rest)
    else none
  | [] => none

/-- A number with a fraction or an exponent. -/
def decimal? (cs : List Char) : Option (Lexeme × List Char) := do
  let (whole, afterWhole) ← decimalDigits? cs
  let (fraction, afterFraction) := (places? afterWhole).getD ([], afterWhole)
  let (power, rest) ← match power? afterFraction with
    | some (power, rest) => some (power, rest)
    | none => if fraction.isEmpty then none else some (0, afterFraction)
  let digits := Json.natOfDigits (whole ++ fraction)
  return (.decimal (Binary64.ofDecimal false digits (power - fraction.length)), rest)

/-- The digits of a number to another base, after a letter and possibly an underscore. -/
def basedDigits? (base : Nat) (cs : List Char) : Option (Lexeme × List Char) :=
  let isBaseDigit (c : Char) := (Json.hexDigit? c).any (· < base)
  let cs := match cs with
    | '_' :: cs => cs
    | cs => cs
  match digitRuns isBaseDigit cs.length cs with
  | ([], _) => none
  | (digits, rest) => some (.integer (Escape.ofDigits base digits), rest)

/-- The base that a letter after a zero stands for. -/
def base? (c : Char) : Option Nat :=
  match c with
  | 'b' | 'B' => some 2
  | 'o' | 'O' => some 8
  | 'x' | 'X' => some 16
  | _ => none

/-- An integer. One that begins with a zero has no other digits, unless a letter for a base
follows. -/
def integer? : List Char → Option (Lexeme × List Char)
  | '0' :: cs =>
    let based := match cs with
      | [] => none
      | c :: cs => (base? c).bind (basedDigits? · cs)
    match based with
    | some reading => some reading
    | none => some (.integer 0, (digitRuns (· = '0') (cs.length + 1) ('0' :: cs)).2)
  | cs => (decimalDigits? cs).map fun (digits, rest) => (.integer (Json.natOfDigits digits), rest)

/-! ## Words -/

/-- Whether a character can be part of a name. A name that is no identifier is a fault. -/
def isNameChar (c : Char) : Bool :=
  c = '_' || isLetter c || isNumeral c || identifierRestRanges.has c

/-- The text up to the quotation mark that ends it, and the text after this one. -/
def quotation? (mark : Char) : List Char → Option (List Char × List Char)
  | [] => none
  | [c] => if c = mark then some ([], []) else none
  | c :: d :: cs =>
    if c = mark then some ([], d :: cs)
    else if c = '\\' then
      (quotation? mark cs).map fun (text, rest) => (c :: d :: text, rest)
    else (quotation? mark (d :: cs)).map fun (text, rest) => (c :: text, rest)

/-- The signs, longer ones first. -/
def signs : List String :=
  ["//", "**", "==", "!=", ">=", "<=", "+", "-", "/", "*", "%", "~", "[", "]", "(", ")", "\x7b",
   "\x7d", ">", "<", "=", ".", ":", "|", ",", ";"]

/-- The sign at the beginning of a text, and the text after it. -/
def sign? (cs : List Char) : Option (String × List Char) :=
  (signs.find? fun sign => sign.toList.isPrefixOf cs).map fun sign => (sign, cs.drop sign.length)

/-- The bracket that closes an opening one. -/
def closingBracket? (sign : String) : Option Char :=
  match sign with
  | "\x7b" => some '\x7d'
  | "(" => some ')'
  | "[" => some ']'
  | _ => none

/-- Whether a sign closes a bracket. -/
def isClosingBracket (sign : String) : Bool :=
  sign = "\x7d" || sign = ")" || sign = "]"

/-- The brackets that are open after a sign, given those before it. -/
def afterBracket (brackets : List Char) (sign : String) : Except Malformed (List Char) :=
  match closingBracket? sign with
  | some closing => .ok (closing :: brackets)
  | none =>
    if isClosingBracket sign then
      let found := sign.toList.headD ' '
      match brackets with
      | [] => .error (.bracket found none)
      | expected :: rest =>
        if found = expected then .ok rest else .error (.bracket found (some expected))
    else .ok brackets

/-- The name or the text at the beginning of a text, and the text after it. -/
def word? : List Char → Option (Except Malformed Lexeme × List Char)
  | [] => none
  | c :: cs =>
    if isNameChar c then
      let name := String.ofList ((c :: cs).takeWhile isNameChar)
      let lexeme := if isIdentifier name then .ok (.name name) else .error .identifier
      some (lexeme, (c :: cs).dropWhile isNameChar)
    else if c = '"' || c = '\x27' then
      (quotation? c cs).map fun (text, rest) =>
        let plain := (Escape.resolve text).mapError Malformed.escape
        (plain.map fun cs => .text (String.ofList cs), rest)
    else none

/-! ## Scanning -/

/-- Where scanning is. -/
inductive Mode where
  /-- In plain text that may begin a line. -/
  | text (lineStart : Bool)
  /-- In an output or else a tag, with brackets that wait for their closing ones. `afterPoint` tells
  whether a decimal point comes right before. -/
  | code (ofOutput : Bool) (brackets : List Char) (afterPoint : Bool)
  deriving DecidableEq, Repr

/-- The number of the line where a rest of the source begins. -/
def lineAt (source rest : List Char) : Nat :=
  (source.take (source.length - rest.length)).count '\n' + 1

/-- The lexeme in an output or a tag, the brackets open after it and the text after it. -/
def lexemeAt (source : List Char) (brackets : List Char) (afterPoint : Bool) (cs : List Char) :
    Except Malformed (Lexeme × List Char × List Char) :=
  let decimal := if afterPoint then none else decimal? cs
  match decimal, integer? cs, word? cs, sign? cs with
  | some (lexeme, rest), _, _, _ => .ok (lexeme, brackets, rest)
  | none, some (lexeme, rest), _, _ => .ok (lexeme, brackets, rest)
  | none, none, some (lexeme, rest), _ => lexeme.map (·, brackets, rest)
  | none, none, none, some (sign, rest) =>
    (afterBracket brackets sign).map (.sign sign, ·, rest)
  | none, none, none, none =>
    match cs with
    | c :: _ => .error (.character c (source.length - cs.length))
    | [] => .error .noTag

/-- The tokens of a rest of the source. The first argument bounds the number of steps. -/
def scanFrom (source : List Char) : Nat → Mode → List Char → Stream
  | 0, _, _ => {}
  | _ + 1, _, [] => {}
  | fuel + 1, .text lineStart, cs =>
    let token (lexeme : Lexeme) (rest : List Char) (s : Stream) : Stream :=
      { s with tokens := ⟨lexeme, lineAt source rest⟩ :: s.tokens }
    let data (text rest : List Char) (s : Stream) : Stream :=
      if text.isEmpty then s else token (.data (String.ofList text)) rest s
    let next (after : After) : Stream := scanFrom source fuel (.text after.2) after.1
    match upToOpening cs with
    | (text, none) => data text cs {}
    | (text, some (opening, rest)) =>
      let (mark, inside) := Mark.split rest
      let before (s : Stream) := data (trimBefore mark (opening = .output) lineStart text) cs s
      match opening with
      | .output =>
        before (token .outputBegin rest (scanFrom source fuel (.code true [] false) inside))
      | .comment =>
        before <| match afterComment? inside with
          | some after => next after
          | none => { fault := if inside.isEmpty then none else some .openComment }
      | .tag =>
        before <| match afterRawTag? inside with
          | none => token .tagBegin rest (scanFrom source fuel (.code false [] false) inside)
          | some (raw, lineStart) =>
            match upToRawEnd? raw with
            | some (text, mark, after) =>
              data (trimBefore mark false lineStart text) raw (next after)
            | none => { fault := if raw.isEmpty then none else some .openRaw }
  | fuel + 1, .code ofOutput brackets afterPoint, c :: cs =>
    let token (lexeme : Lexeme) (s : Stream) : Stream :=
      { s with tokens := ⟨lexeme, lineAt source (c :: cs)⟩ :: s.tokens }
    let closing := if !brackets.isEmpty then none
      else if ofOutput then outputClosing? (c :: cs)
      else closing? '%' (c :: cs)
    match closing with
    | some (rest, lineStart) =>
      token (if ofOutput then .outputEnd else .tagEnd) (scanFrom source fuel (.text lineStart) rest)
    | none =>
      if isBlank c then scanFrom source fuel (.code ofOutput brackets false) (cs.dropWhile isBlank)
      else
        match lexemeAt source brackets afterPoint (c :: cs) with
        | .error fault => { fault := some fault }
        | .ok (lexeme, brackets, rest) =>
          token lexeme (scanFrom source fuel (.code ofOutput brackets (lexeme = .sign ".")) rest)

/-- The text of a template with a line feed for every line break, and without one at its end. -/
def unifySource (cs : List Char) : List Char :=
  let cs := Utf8.unifyBreaks cs
  if cs.getLast? = some '\n' then cs.dropLast else cs

/-- The tokens of a template's source. -/
def scan (source : String) : Stream :=
  let cs := unifySource source.toList
  scanFrom cs (cs.length + 1) (.text true) cs

end Phrasebook.Template
