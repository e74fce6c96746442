-- SUMMARY: The text of lines, taken apart line by line.
import Mathlib.Data.List.Basic
import Phrasebook.Dart.Source
import Phrasebook.Proofs.Text.Lines

/-!
# Lines of source

Lines are put together with a line feed between them. Written with a line feed
at the end of each, they are the same text with one more line feed, and then
parts can be written one after the other.
-/

namespace Phrasebook.Dart

open Text

variable {line : String} {lines more : List String}

theorem toList_ofLines_cons (h : lines ≠ []) (line : String) :
    (ofLines (line :: lines)).toList = line.toList ++ '\n' :: (ofLines lines).toList := by
  cases lines with
  | nil => exact absurd rfl h
  | cons next lines => simp [ofLines, joinStrings]

theorem toList_ofLines_append (hlines : lines ≠ []) (hmore : more ≠ []) :
    (ofLines (lines ++ more)).toList =
      (ofLines lines).toList ++ '\n' :: (ofLines more).toList := by
  induction lines with
  | nil => exact absurd rfl hlines
  | cons line lines ih =>
    by_cases hnil : lines = []
    · subst hnil
      exact toList_ofLines_cons hmore line
    · have happend : lines ++ more ≠ [] := by simp [hnil]
      rw [List.cons_append, toList_ofLines_cons happend, ih hnil, toList_ofLines_cons hnil]
      simp

/-- The pieces of lines that have no line feeds are these lines. -/
theorem split_ofLines (hne : lines ≠ []) (h : ∀ line ∈ lines, '\n' ∉ line.toList) :
    split '\n' (ofLines lines).toList = lines.map String.toList := by
  have hjoin : (ofLines lines).toList = join ['\n'] (lines.map String.toList) :=
    toList_joinStrings "\n" lines
  rw [hjoin]
  exact split_join (by simpa using hne) (List.forall_mem_map.mpr h)

theorem infix_ofLines_of_mem (h : line ∈ lines) : line.toList <:+: (ofLines lines).toList := by
  induction lines with
  | nil => cases h
  | cons next lines ih =>
    by_cases hnil : lines = []
    · subst hnil
      obtain rfl := List.mem_singleton.mp h
      exact List.infix_rfl
    · rw [toList_ofLines_cons hnil]
      rcases List.mem_cons.mp h with rfl | h
      · exact (List.prefix_append _ _).isInfix
      · exact (ih h).trans (List.suffix_append_of_suffix (List.suffix_cons _ _)).isInfix

/-! ## Ended lines -/

/-- The text of lines, each of which has a line feed at its end. -/
def endLines (lines : List String) : List Char :=
  lines.flatMap (·.toList ++ ['\n'])

@[simp] theorem endLines_nil : endLines [] = [] :=
  rfl

@[simp] theorem endLines_cons (line : String) (lines : List String) :
    endLines (line :: lines) = line.toList ++ '\n' :: endLines lines := by
  simp [endLines]

@[simp] theorem endLines_append (lines more : List String) :
    endLines (lines ++ more) = endLines lines ++ endLines more :=
  List.flatMap_append

@[simp] theorem endLines_flatMap {α : Type} (as : List α) (f : α → List String) :
    endLines (as.flatMap f) = as.flatMap fun a => endLines (f a) := by
  rw [endLines, List.flatMap_assoc]
  rfl

theorem toList_ofLines_append_break (h : lines ≠ []) :
    (ofLines lines).toList ++ ['\n'] = endLines lines := by
  induction lines with
  | nil => exact absurd rfl h
  | cons line lines ih =>
    by_cases hnil : lines = []
    · subst hnil
      simp [ofLines, joinStrings]
    · rw [toList_ofLines_cons hnil, endLines_cons, ← ih hnil]
      simp

theorem toList_ofLines_append_cons (h : lines ≠ []) (rest : List Char) :
    (ofLines lines).toList ++ '\n' :: rest = endLines lines ++ rest := by
  rw [← toList_ofLines_append_break h, List.append_assoc, List.singleton_append]

/-- A text is that of lines if it is so with a line feed at the end. -/
theorem eq_ofLines_of_append_break {cs : List Char} (hne : lines ≠ [])
    (h : cs ++ ['\n'] = endLines lines) : String.ofList cs = ofLines lines := by
  rw [← toList_ofLines_append_break hne] at h
  rw [List.append_cancel_right h, String.ofList_toList]

/-! ## Lines of the dispatch -/

/-- The comment before the function that finds a phrase by its key. -/
def switchComments : List String :=
  ["  /// Returns the translation for [key], or an empty string for unknown keys.",
   "  ///",
   "  /// Every placeholder the key declares must be present in [placeholders]."]

/-- The lines before the first case. -/
def switchHead : List String :=
  ["  String getString(String key, [Map<String, String> placeholders = const \x7b\x7d]) \x7b",
   "    switch (key) \x7b"]

/-- The lines after the last case, which return the empty text. -/
def switchTail : List String :=
  ["    \x7d", "    return \"\";", "  \x7d"]

theorem Dispatch.lines_eq (d : Dispatch) :
    d.lines = (if d.documented then switchComments else []) ++
      (switchHead ++ (d.cases.flatMap Case.lines ++ switchTail)) := by
  simp [Dispatch.lines, switchComments, switchHead, switchTail]

end Phrasebook.Dart
