-- SUMMARY: The tokens of Dart code, and that lines can be cut into tokens one by one.
import Mathlib.Data.List.Basic
import Phrasebook.Dart.Names
import Phrasebook.Dart.Source
import Phrasebook.Proofs.Dart.LiteralReading
import Phrasebook.Proofs.Dart.SourceLines

/-!
# Tokens

Code is cut into words, string literals and single marks. Blanks and line
comments only keep tokens apart, so that lines can be cut one by one: the tokens
of lines are those of each line in order.
-/

namespace Phrasebook.Dart

/-! ## Cutting -/

inductive Token where
  | word (name : String)
  /-- A string literal, by the text it stands for. -/
  | text (s : String)
  | mark (c : Char)
  deriving DecidableEq, Repr

def isBlankChar (c : Char) : Bool :=
  c = ' ' || c = '\n' || c = '\r' || c = '\t'

theorem length_dropWhile_le (p : Char → Bool) (cs : List Char) :
    (cs.dropWhile p).length ≤ cs.length :=
  (List.dropWhile_sublist p).length_le

theorem length_lt_of_readLiteral {cs text rest : List Char}
    (h : readLiteral cs = .ok (text, rest)) : rest.length < cs.length := by
  obtain ⟨body, -, rfl⟩ := readLiteral_eq_ok_iff.mp h
  simp
  omega

/-- Cut code into tokens. -/
def tokens : List Char → Except LiteralFault (List Token)
  | [] => .ok []
  | c :: cs =>
    if isBlankChar c then tokens cs
    else if c = '/' ∧ cs.head? = some '/' then tokens (cs.dropWhile (· ≠ '\n'))
    else if isIdentifierStart c then
      (tokens (cs.dropWhile isIdentifierChar)).map
        (.word (String.ofList (c :: cs.takeWhile isIdentifierChar)) :: ·)
    else if c = '"' then
      match _h : readLiteral (c :: cs) with
      | .error fault => .error fault
      | .ok (text, rest) => (tokens rest).map (.text (String.ofList text) :: ·)
    else (tokens cs).map (.mark c :: ·)
  termination_by cs => cs.length
  decreasing_by
    · simp
    · exact Nat.lt_succ_of_le (length_dropWhile_le _ cs)
    · exact Nat.lt_succ_of_le (length_dropWhile_le _ cs)
    · exact length_lt_of_readLiteral _h
    · simp

variable {c d : Char} {cs rest : List Char} {ts : List Token}

/-! ## One token -/

@[simp] theorem tokens_nil : tokens [] = .ok [] := by
  rw [tokens]

theorem tokens_blank (hc : isBlankChar c) (rest : List Char) :
    tokens (c :: rest) = tokens rest := by
  rw [tokens, if_pos hc]

/-- Characters that are neither blank nor part of a comment, a word or a literal are marks. -/
def isMark (c : Char) : Bool :=
  !(isBlankChar c || c = '/' || isIdentifierStart c || c = '"')

theorem tokens_mark (hc : isMark c) (rest : List Char) :
    tokens (c :: rest) = (tokens rest).map (.mark c :: ·) := by
  simp only [isMark, Bool.not_eq_true', Bool.or_eq_false_iff, decide_eq_false_iff_not] at hc
  obtain ⟨⟨⟨hblank, hslash⟩, hstart⟩, hquote⟩ := hc
  rw [tokens, if_neg (by simp [hblank]), if_neg (by simp [hslash]), if_neg (by simp [hstart]),
    if_neg hquote]

theorem not_isBlankChar_of_isIdentifierStart (hc : isIdentifierStart c) :
    isBlankChar c = false ∧ c ≠ '/' := by
  constructor
  · by_contra hblank
    simp only [isBlankChar, Bool.not_eq_false, Bool.or_eq_true, decide_eq_true_eq] at hblank
    rcases hblank with ((rfl | rfl) | rfl) | rfl <;> revert hc <;> decide
  · rintro rfl
    revert hc
    decide

theorem tokens_word {w : List Char} (hc : isIdentifierStart c) (hw : ∀ d ∈ w, isIdentifierChar d)
    (hd : isIdentifierChar d = false) (rest : List Char) :
    tokens (c :: (w ++ d :: rest)) =
      (tokens (d :: rest)).map (.word (String.ofList (c :: w)) :: ·) := by
  obtain ⟨hblank, hslash⟩ := not_isBlankChar_of_isIdentifierStart hc
  have htake : (w ++ d :: rest).takeWhile isIdentifierChar = w := by
    rw [List.takeWhile_append_of_pos hw, List.takeWhile_cons_of_neg (by simp [hd]), List.append_nil]
  have hdrop : (w ++ d :: rest).dropWhile isIdentifierChar = d :: rest := by
    rw [List.dropWhile_append_of_pos hw, List.dropWhile_cons_of_neg (by simp [hd])]
  rw [tokens, if_neg (by simp [hblank]), if_neg (by simp [hslash]), if_pos hc, htake, hdrop]

theorem tokens_of_readLiteral {text more : List Char} (h : readLiteral cs = .ok (text, more)) :
    tokens cs = (tokens more).map (.text (String.ofList text) :: ·) := by
  obtain ⟨body, -, heq⟩ := readLiteral_eq_ok_iff.mp h
  subst heq
  rw [tokens, if_neg (by decide), if_neg (by simp), if_neg (by decide), if_pos rfl]
  split
  · rename_i fault hfault
    rw [h] at hfault
    cases hfault
  · rename_i text' more' hread
    rw [h] at hread
    cases hread
    rfl

theorem tokens_literal (s : String) (rest : List Char) :
    tokens ((literal s).toList ++ rest) = (tokens rest).map (.text s :: ·) := by
  rw [toList_literal, tokens_of_readLiteral (readLiteral_literalChars s.toList rest),
    String.ofList_toList]

/-! ## Putting code together -/

/-- What comes after a character at which `p` ends does not matter to the characters before it. -/
theorem takeWhile_append_stop {p : Char → Bool} (hd : p d = false) (cs rest : List Char) :
    (cs ++ d :: rest).takeWhile p = cs.takeWhile p := by
  induction cs with
  | nil => simp [hd]
  | cons c cs ih =>
    by_cases hc : p c
    · simp [hc, ih]
    · simp [hc]

theorem dropWhile_append_stop {p : Char → Bool} (hd : p d = false) (cs rest : List Char) :
    (cs ++ d :: rest).dropWhile p = cs.dropWhile p ++ d :: rest := by
  induction cs with
  | nil => simp [hd]
  | cons c cs ih =>
    by_cases hc : p c
    · simp [hc, ih]
    · simp [hc]

theorem readLiteral_append {text more : List Char} (h : readLiteral cs = .ok (text, more))
    (rest : List Char) : readLiteral (cs ++ rest) = .ok (text, more ++ rest) := by
  obtain ⟨body, hbody, rfl⟩ := readLiteral_eq_ok_iff.mp h
  exact readLiteral_eq_ok_iff.mpr ⟨body, hbody, by simp⟩

/-- A character at which every token of the code before it ends. Only a line feed ends a comment. -/
structure Ends (d : Char) (cs : List Char) : Prop where
  not_word : isIdentifierChar d = false
  break_or_no_slash : d = '\n' ∨ (d ≠ '/' ∧ '/' ∉ cs)

theorem ends_break (cs : List Char) : Ends '\n' cs :=
  ⟨by decide, .inl rfl⟩

theorem Ends.of_sublist {ds : List Char} (h : Ends d cs) (hds : ds.Sublist cs) : Ends d ds := by
  refine ⟨h.not_word, h.break_or_no_slash.imp_right ?_⟩
  rintro ⟨hd, hslash⟩
  exact ⟨hd, fun hmem => hslash (hds.subset hmem)⟩

theorem map_nil_append (x : Except LiteralFault (List Token)) : x.map ([] ++ ·) = x := by
  cases x with
  | error fault => rfl
  | ok ts => rfl

theorem map_append_map_cons (x : Except LiteralFault (List Token)) (t : Token) (ts : List Token) :
    (x.map (ts ++ ·)).map (t :: ·) = x.map ((t :: ts) ++ ·) := by
  cases x with
  | error fault => rfl
  | ok ts' => rfl

theorem map_append_map_append (x : Except LiteralFault (List Token)) (ts more : List Token) :
    (x.map (more ++ ·)).map (ts ++ ·) = x.map ((ts ++ more) ++ ·) := by
  cases x with
  | error fault => rfl
  | ok rest => simp [Except.map]

/-- The tokens of code are those of a beginning, and then those of the rest from a character on at
which the tokens of the beginning end. -/
theorem tokens_append (h : tokens cs = .ok ts) (hend : Ends d cs) (rest : List Char) :
    tokens (cs ++ d :: rest) = (tokens (d :: rest)).map (ts ++ ·) := by
  fun_induction tokens cs generalizing ts with
  | case1 =>
    cases h
    rw [List.nil_append, map_nil_append]
  | case2 c cs hblank ih =>
    rw [List.cons_append, tokens_blank hblank]
    exact ih h (hend.of_sublist (List.sublist_cons_self c cs))
  | case3 c cs hblank hcomment ih =>
    obtain ⟨rfl, hslash⟩ := hcomment
    have hbreak : d = '\n' := by
      rcases hend.break_or_no_slash with hbreak | ⟨-, hno⟩
      · exact hbreak
      · exact absurd List.mem_cons_self hno
    subst hbreak
    have hhead : (cs ++ '\n' :: rest).head? = some '/' := by rw [List.head?_append, hslash]; rfl
    rw [List.cons_append, tokens, if_neg hblank, if_pos ⟨rfl, hhead⟩,
      dropWhile_append_stop (by decide)]
    exact ih h (ends_break _)
  | case4 c cs hblank hcomment hstart ih =>
    obtain ⟨more, hmore, rfl⟩ := Except.map_eq_ok_iff.mp h
    obtain ⟨-, hslash⟩ := not_isBlankChar_of_isIdentifierStart hstart
    have hsub : (cs.dropWhile isIdentifierChar).Sublist (c :: cs) :=
      (List.dropWhile_sublist _).trans (List.sublist_cons_self c cs)
    rw [List.cons_append, tokens, if_neg hblank, if_neg (by simp [hslash]), if_pos hstart,
      takeWhile_append_stop hend.not_word, dropWhile_append_stop hend.not_word,
      ih hmore (hend.of_sublist hsub), map_append_map_cons]
  | case5 => cases h
  | case6 cs text more hblank hcomment hstart hread ih =>
    obtain ⟨ts', hmore, rfl⟩ := Except.map_eq_ok_iff.mp h
    have hsub : more.Sublist ('"' :: cs) := by
      obtain ⟨body, -, heq⟩ := readLiteral_eq_ok_iff.mp hread
      rw [heq]
      refine List.Sublist.cons _ ?_
      exact (List.sublist_cons_self _ _).trans (List.sublist_append_right _ _)
    rw [tokens_of_readLiteral (readLiteral_append hread (d :: rest)),
      ih hmore (hend.of_sublist hsub), map_append_map_cons]
  | case7 c cs hblank hcomment hstart hquote ih =>
    obtain ⟨more, hmore, rfl⟩ := Except.map_eq_ok_iff.mp h
    have hcomment' : ¬ (c = '/' ∧ (cs ++ d :: rest).head? = some '/') := by
      rintro ⟨rfl, hhead⟩
      cases cs with
      | nil =>
        -- a slash at the end of the beginning makes no comment with what comes after it
        rcases hend.break_or_no_slash with rfl | ⟨hd, -⟩
        · cases hhead
        · exact hd (Option.some.inj hhead)
      | cons e cs => exact hcomment ⟨rfl, hhead⟩
    rw [List.cons_append, tokens, if_neg hblank, if_neg hcomment', if_neg hstart, if_neg hquote,
      ih hmore (hend.of_sublist (List.sublist_cons_self c cs)), map_append_map_cons]

/-- The same for a rest of which only the first character is known. -/
theorem tokens_append_of_head {more : List Char} (h : tokens cs = .ok ts)
    (hd : more.head? = some d) (hend : Ends d cs) :
    tokens (cs ++ more) = (tokens more).map (ts ++ ·) := by
  obtain ⟨rest, rfl⟩ := List.head?_eq_some_iff.mp hd
  exact tokens_append h hend rest

/-- Code without slashes before a literal is cut by itself. -/
theorem tokens_before_literal {opening : String} (h : tokens opening.toList = .ok ts)
    (hslash : '/' ∉ opening.toList) (s : String) (rest : List Char) :
    tokens (opening.toList ++ ((literal s).toList ++ rest)) =
      (tokens rest).map ((ts ++ [.text s]) ++ ·) := by
  have hends : Ends '"' opening.toList := ⟨by decide, .inr ⟨by decide, hslash⟩⟩
  have hquote : ((literal s).toList ++ rest).head? = some '"' := by
    rw [toList_literal]
    rfl
  rw [tokens_append_of_head h hquote hends, tokens_literal]
  exact map_append_map_append _ ts [.text s]

/-! ## Lines -/

/-- Lines and their tokens, each line cut by itself. -/
inductive CutInto : List String → List Token → Prop
  | nil : CutInto [] []
  | cons {line : String} {lines : List String} {ts more : List Token}
      (hline : tokens line.toList = .ok ts) (hlines : CutInto lines more) :
      CutInto (line :: lines) (ts ++ more)

theorem CutInto.append {lines lines' : List String} {ts ts' : List Token} (h : CutInto lines ts)
    (h' : CutInto lines' ts') : CutInto (lines ++ lines') (ts ++ ts') := by
  induction h with
  | nil => exact h'
  | cons hline _ ih =>
    rw [List.cons_append, List.append_assoc]
    exact .cons hline ih

/-- The tokens of lines are those of each of them. -/
theorem tokens_ofLines {lines : List String} {ts : List Token} (h : CutInto lines ts) :
    tokens (ofLines lines).toList = .ok ts := by
  induction h with
  | nil => simp [ofLines, Text.joinStrings]
  | @cons line lines ts more hline hlines ih =>
    cases lines with
    | nil =>
      cases hlines
      simpa [ofLines, Text.joinStrings] using hline
    | cons next lines =>
      rw [toList_ofLines_cons (List.cons_ne_nil next lines), tokens_append hline (ends_break _),
        tokens_blank (by decide), ih]
      rfl

end Phrasebook.Dart
