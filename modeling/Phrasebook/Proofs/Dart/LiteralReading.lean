-- SUMMARY: Reading Dart string literals in double quotes, and how reading undoes quoting.
import Mathlib.Logic.Function.Defs
import Phrasebook.Dart.Literal
import Phrasebook.Proofs.Outcome

/-!
# Reading literals

A reader of literals goes through a text character by character, up to the
first quote that no backslash escapes. What it accepts is said once more by a
grammar, `Spells`, which relates what stands between the quotes to the text it
stands for. Quoting writes one spelling of every text, so that the reader finds
the end of a literal and its text whatever comes after it.
-/

namespace Phrasebook.Dart

/-! ## The reader -/

/-- Why no literal is read. -/
inductive LiteralFault where
  /-- The text does not begin with a quote. -/
  | notOpened
  | notClosed
  /-- A dollar sign that is not escaped begins an interpolation. -/
  | interpolation
  /-- A line feed or a carriage return stands in the literal. -/
  | rawBreak
  | unknownEscape (c : Char)
  deriving DecidableEq, Repr

/-- The character that stands behind a backslash for another one. -/
def unescape? (c : Char) : Option Char :=
  match c with
  | '\\' => some '\\'
  | '"' => some '"'
  | '$' => some '$'
  | 'n' => some '\n'
  | 'r' => some '\r'
  | 't' => some '\t'
  | _ => none

/-- Whether a character stands for itself in a literal. -/
def isPlain (c : Char) : Bool :=
  !(c = '"' || c = '\\' || c = '$' || c = '\n' || c = '\r')

/-- Read up to the closing quote: the text of the literal, and what comes after it. -/
def readBody : List Char → Except LiteralFault (List Char × List Char)
  | [] | ['\\'] => .error .notClosed
  | '\\' :: e :: cs =>
    match unescape? e with
    | none => .error (.unknownEscape e)
    | some c => (readBody cs).map fun (text, rest) => (c :: text, rest)
  | c :: cs =>
    if c = '"' then .ok ([], cs)
    else if c = '$' then .error .interpolation
    else if c = '\n' || c = '\r' then .error .rawBreak
    else (readBody cs).map fun (text, rest) => (c :: text, rest)

/-- Read a literal: its text, and what comes after it. -/
def readLiteral : List Char → Except LiteralFault (List Char × List Char)
  | [] => .error .notOpened
  | c :: cs => if c = '"' then readBody cs else .error .notOpened

/-! ## The grammar -/

/-- What stands between the quotes of a literal, and the text it stands for. -/
inductive Spells : List Char → List Char → Prop
  | nil : Spells [] []
  | plain {c : Char} {body text : List Char} (hc : isPlain c) (h : Spells body text) :
      Spells (c :: body) (c :: text)
  | escaped {e c : Char} {body text : List Char} (hc : unescape? e = some c)
      (h : Spells body text) : Spells ('\\' :: e :: body) (c :: text)

theorem readBody_of_spells {body text : List Char} (h : Spells body text) (rest : List Char) :
    readBody (body ++ '"' :: rest) = .ok (text, rest) := by
  induction h with
  | nil => simp [readBody]
  | plain hc _ ih =>
    simp only [isPlain, Bool.not_eq_true', Bool.or_eq_false_iff, decide_eq_false_iff_not] at hc
    obtain ⟨⟨⟨⟨hquote, hslash⟩, hdollar⟩, hlf⟩, hcr⟩ := hc
    rw [List.cons_append, readBody.eq_4 _ _ (by simp [hslash]) (by simp [hslash])]
    simp [hquote, hdollar, hlf, hcr, ih, Except.map]
  | escaped hc _ ih => simp [readBody, hc, ih, Except.map]

theorem spells_of_readBody {cs text rest : List Char} (h : readBody cs = .ok (text, rest)) :
    ∃ body, Spells body text ∧ cs = body ++ '"' :: rest := by
  fun_induction readBody cs generalizing text with
  | case1 => cases h
  | case2 => cases h
  | case3 => cases h
  | case4 e cs c hc ih =>
    obtain ⟨⟨more, tail⟩, hmore, hreading⟩ := Except.map_eq_ok_iff.mp h
    cases hreading
    obtain ⟨body, hbody, rfl⟩ := ih hmore
    exact ⟨'\\' :: e :: body, .escaped hc hbody, rfl⟩
  | case5 cs =>
    cases h
    exact ⟨[], .nil, rfl⟩
  | case6 => cases h
  | case7 => cases h
  | case8 c cs hlast hescape hquote hdollar hbreak ih =>
    obtain ⟨⟨more, tail⟩, hmore, hreading⟩ := Except.map_eq_ok_iff.mp h
    cases hreading
    have hslash : c ≠ '\\' := by
      rintro rfl
      cases cs with
      | nil => exact hlast rfl rfl
      | cons e cs => exact hescape e cs rfl rfl
    obtain ⟨body, hbody, rfl⟩ := ih hmore
    have hplain : isPlain c := by simpa [isPlain, hquote, hslash, hdollar] using hbreak
    exact ⟨c :: body, .plain hplain hbody, rfl⟩

/-- The reader accepts exactly the texts that begin with a literal, and returns what it spells. -/
theorem readLiteral_eq_ok_iff {cs text rest : List Char} :
    readLiteral cs = .ok (text, rest) ↔
      ∃ body, Spells body text ∧ cs = '"' :: (body ++ '"' :: rest) := by
  constructor
  · intro h
    cases cs with
    | nil => cases h
    | cons c cs =>
      rw [readLiteral] at h
      split at h
      · rename_i hquote
        obtain ⟨body, hbody, rfl⟩ := spells_of_readBody h
        exact ⟨body, hbody, by rw [hquote]⟩
      · cases h
  · rintro ⟨body, hbody, rfl⟩
    rw [readLiteral, if_pos rfl]
    exact readBody_of_spells hbody rest

/-- What does not begin with a quote is no literal. -/
theorem readLiteral_ne_ok {cs : List Char} (h : cs.head? ≠ some '"')
    (reading : List Char × List Char) : readLiteral cs ≠ .ok reading := by
  cases cs with
  | nil => simp [readLiteral]
  | cons c cs =>
    have hc : c ≠ '"' := by simpa using h
    simp [readLiteral, hc]

/-! ## Reading what quoting writes -/

/-- An escaped character is one character of a spelling. -/
theorem spells_escapeChar (c : Char) {body text : List Char} (h : Spells body text) :
    Spells (escapeChar c ++ body) (c :: text) := by
  unfold escapeChar
  split
  case h_7 hslash hquote hdollar hlf hcr htab =>
    have hplain : isPlain c := by
      simp only [isPlain, Bool.not_eq_true', Bool.or_eq_false_iff, decide_eq_false_iff_not]
      exact ⟨⟨⟨⟨hquote, hslash⟩, hdollar⟩, hlf⟩, hcr⟩
    exact .plain hplain h
  all_goals exact .escaped rfl h

theorem spells_escape (cs : List Char) : Spells (escape cs) cs := by
  induction cs with
  | nil => exact .nil
  | cons c cs ih => exact spells_escapeChar c ih

theorem readLiteral_literalChars (cs rest : List Char) :
    readLiteral (literalChars cs ++ rest) = .ok (cs, rest) := by
  refine readLiteral_eq_ok_iff.mpr ⟨escape cs, spells_escape cs, ?_⟩
  simp [literalChars]

@[simp] theorem toList_literal (s : String) : (literal s).toList = literalChars s.toList := by
  simp [literal]

theorem readLiteral_literal (s : String) :
    readLiteral (literal s).toList = .ok (s.toList, []) := by
  have hread := readLiteral_literalChars s.toList []
  rwa [List.append_nil, ← toList_literal] at hread

/-- If one quoted text begins like another quoted text, the two are the same. -/
theorem literalChars_append_inj {cs ds rest more : List Char}
    (h : literalChars cs ++ rest = literalChars ds ++ more) : cs = ds ∧ rest = more := by
  have hcs := readLiteral_literalChars cs rest
  rw [h, readLiteral_literalChars] at hcs
  simpa [eq_comm] using hcs

/-- Quoting is undone by reading, whatever comes after the literal; so it is injective, and no
literal is a proper beginning of another one. -/
theorem literal_read_back :
    (∀ s t : String, readLiteral (literal s ++ t).toList = .ok (s.toList, t.toList)) ∧
    Function.Injective literal ∧
    ∀ s t : String, (literal s).toList <+: (literal t).toList → s = t := by
  refine ⟨?_, ?_, ?_⟩
  · intro s t
    rw [String.toList_append, toList_literal]
    exact readLiteral_literalChars s.toList t.toList
  · intro s t h
    have hchars : literalChars s.toList ++ [] = literalChars t.toList ++ [] := by
      rw [← toList_literal, ← toList_literal, h]
    exact String.toList_inj.mp (literalChars_append_inj hchars).1
  · rintro s t ⟨tail, h⟩
    rw [toList_literal, toList_literal, ← List.append_nil (literalChars t.toList)] at h
    exact String.toList_inj.mp (literalChars_append_inj h).1

end Phrasebook.Dart
