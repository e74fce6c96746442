-- SUMMARY: Cutting, joining and trimming of character sequences.

/-!
# Character sequences

Splitting at a separator, joining, and trimming at both ends, on `List Char`,
where the small laws about them are proved. Text kept as `String` goes through
`toList` and `String.ofList`.
-/

namespace Phrasebook.Text

/-! ## Splitting and joining -/

/-- The pieces between the occurrences of `sep`: one more than there are occurrences. -/
def split (sep : Char) : List Char → List (List Char)
  | [] => [[]]
  | c :: cs =>
    if c = sep then [] :: split sep cs
    else
      match split sep cs with
      | [] => [[c]]
      | piece :: pieces => (c :: piece) :: pieces

/-- The pieces with `sep` between neighbours. -/
def join (sep : List Char) : List (List Char) → List Char
  | [] => []
  | [piece] => piece
  | piece :: next :: pieces => piece ++ sep ++ join sep (next :: pieces)

theorem split_ne_nil (sep : Char) (cs : List Char) : split sep cs ≠ [] := by
  cases cs with
  | nil => simp [split]
  | cons c cs =>
    unfold split
    split
    · simp
    · split <;> simp

theorem join_cons_of_ne_nil (sep piece : List Char) {pieces : List (List Char)} (h : pieces ≠ []) :
    join sep (piece :: pieces) = piece ++ sep ++ join sep pieces := by
  cases pieces with
  | nil => exact absurd rfl h
  | cons next pieces => rfl

/-- Joining with the separator undoes splitting at it. -/
theorem join_split (sep : Char) (cs : List Char) : join [sep] (split sep cs) = cs := by
  induction cs with
  | nil => rfl
  | cons c cs ih =>
    by_cases h : c = sep
    · rw [split, if_pos h, join_cons_of_ne_nil _ _ (split_ne_nil sep cs), ih, h]
      rfl
    · rw [split, if_neg h]
      cases hs : split sep cs with
      | nil => exact absurd hs (split_ne_nil sep cs)
      | cons piece pieces =>
        cases pieces with
        | nil =>
          simp only [hs, join] at ih ⊢
          rw [ih]
        | cons next pieces =>
          rw [hs] at ih
          simp only [join, List.cons_append] at ih ⊢
          rw [ih]

/-! ## Trimming -/

/-- `cs` without the characters at its end that satisfy `p`. -/
def trimEnd (p : Char → Bool) (cs : List Char) : List Char :=
  (cs.reverse.dropWhile p).reverse

/-- `cs` without the characters at either end that satisfy `p`. -/
def trim (p : Char → Bool) (cs : List Char) : List Char :=
  trimEnd p (cs.dropWhile p)

theorem trimEnd_append_of_all {p : Char → Bool} {cs tail : List Char} (h : ∀ c ∈ tail, p c) :
    trimEnd p (cs ++ tail) = trimEnd p cs := by
  unfold trimEnd
  rw [List.reverse_append, List.dropWhile_append_of_pos]
  simpa using h

/-! ## Strings -/

/-- The strings with `sep` between neighbours. -/
def joinStrings (sep : String) : List String → String
  | [] => ""
  | [s] => s
  | s :: next :: rest => s ++ sep ++ joinStrings sep (next :: rest)

/-- Every occurrence of `old` replaced by `new`. -/
def replaceChar (old new : Char) (s : String) : String :=
  String.ofList (s.toList.map fun c => if c = old then new else c)

end Phrasebook.Text
