-- SUMMARY: What layout does to a text, with either line ending: trimmed lines, none lost but blank ones.
import Mathlib.Data.List.Chain
import Phrasebook.Generation
import Phrasebook.Proofs.Text.Endings

/-!
# Normalization

Laying out a text comes down to its lines: each is trimmed, of several blank ones
in a row one stays, and none stays at the end. `format_eq` says that the text is
these lines joined by the ending, with one ending behind them. Whatever else is
said of layout is said of the lines, so that the ending does not matter.
-/

namespace Phrasebook.Layout

open Text

variable {lead text : List Char} {line : List Char} {lines : List (List Char)}

/-! ## Blank lines -/

def isBlankLine (line : List Char) : Bool :=
  line.all isBlank

/-- One of two lines is not empty. -/
def Apart (line next : List Char) : Prop :=
  line ≠ [] ∨ next ≠ []

/-- A line that is trimmed to nothing is a blank one. -/
theorem isEmpty_trimEnd (line : List Char) : (trimEnd isBlank line).isEmpty = isBlankLine line := by
  rw [Bool.eq_iff_iff, List.isEmpty_iff, isBlankLine, trimEnd_eq_nil_iff]

/-! ## Tidy lines -/

/-- Lines that do not end in whitespace, and no two empty ones in a row. -/
structure Tidy (lines : List (List Char)) : Prop where
  ink : ∀ line ∈ lines, EndsInk line
  apart : lines.IsChain Apart

theorem exists_of_mem_tidyLines {afterBlank : Bool} (h : line ∈ tidyLines afterBlank lines) :
    ∃ l ∈ lines, line = trimEnd isBlank l := by
  fun_induction tidyLines afterBlank lines with
  | case1 => cases h
  | case2 first lines _ _ ih =>
    obtain ⟨l, hl, rfl⟩ := ih h
    exact ⟨l, List.mem_cons_of_mem _ hl, rfl⟩
  | case3 _ first lines trimmed hempty _ ih =>
    rcases List.mem_cons.mp h with rfl | h
    · exact ⟨first, List.mem_cons_self, (List.isEmpty_iff.mp hempty).symm⟩
    · obtain ⟨l, hl, rfl⟩ := ih h
      exact ⟨l, List.mem_cons_of_mem _ hl, rfl⟩
  | case4 _ first lines _ _ ih =>
    rcases List.mem_cons.mp h with rfl | h
    · exact ⟨first, List.mem_cons_self, rfl⟩
    · obtain ⟨l, hl, rfl⟩ := ih h
      exact ⟨l, List.mem_cons_of_mem _ hl, rfl⟩

/-- No two lines that stay are blank, nor the first of them if a blank line comes before it. -/
theorem isChain_tidyLines (lines : List (List Char)) :
    (tidyLines false lines).IsChain Apart ∧ ([] :: tidyLines true lines).IsChain Apart := by
  induction lines with
  | nil => exact ⟨.nil, .singleton _⟩
  | cons line lines ih =>
    by_cases hempty : (trimEnd isBlank line).isEmpty
    · simp only [tidyLines, hempty, if_true]
      exact ⟨ih.2, ih.2⟩
    · simp only [tidyLines, hempty]
      have hne : trimEnd isBlank line ≠ [] := by simpa using hempty
      have hcons : (trimEnd isBlank line :: tidyLines false lines).IsChain Apart :=
        List.isChain_cons.mpr ⟨fun _ _ => .inl hne, ih.1⟩
      refine ⟨hcons, List.isChain_cons.mpr ⟨?_, hcons⟩⟩
      intro next hnext
      cases hnext
      exact .inr hne

theorem tidy_tidyLines (lines : List (List Char)) : Tidy (tidyLines false lines) := by
  refine ⟨?_, (isChain_tidyLines lines).1⟩
  intro line hline
  obtain ⟨l, -, rfl⟩ := exists_of_mem_tidyLines hline
  exact endsInk_trimEnd l

/-- The lines that are not blank stay, trimmed. -/
theorem filter_tidyLines (afterBlank : Bool) (lines : List (List Char)) :
    (tidyLines afterBlank lines).filter (!isBlankLine ·) =
      (lines.filter (!isBlankLine ·)).map (trimEnd isBlank) := by
  have hnil : isBlankLine [] := rfl
  fun_induction tidyLines afterBlank lines with
  | case1 => rfl
  | case2 line lines _ hempty ih =>
    rw [isEmpty_trimEnd] at hempty
    rw [ih, List.filter_cons_of_neg (by simp [hempty])]
  | case3 _ line lines _ hempty _ ih =>
    rw [isEmpty_trimEnd] at hempty
    rw [List.filter_cons_of_neg (by simp [hnil]), ih, List.filter_cons_of_neg (by simp [hempty])]
  | case4 _ line lines trimmed hempty ih =>
    have hkept : isBlankLine trimmed = false := by
      rw [← isEmpty_trimEnd, endsInk_iff.mp (endsInk_trimEnd line)]
      simpa using hempty
    rw [isEmpty_trimEnd] at hempty
    rw [List.filter_cons_of_pos (by simp [hkept]), ih, List.filter_cons_of_pos (by simp [hempty])]
    rfl

/-- Only what is left of the lines after trimming matters. -/
theorem tidyLines_congr {more : List (List Char)}
    (h : lines.map (trimEnd isBlank) = more.map (trimEnd isBlank)) (afterBlank : Bool) :
    tidyLines afterBlank lines = tidyLines afterBlank more := by
  induction lines generalizing more afterBlank with
  | nil =>
    rw [List.map_nil, eq_comm, List.map_eq_nil_iff] at h
    rw [h]
  | cons line lines ih =>
    obtain ⟨next, more, rfl, hnext, hmore⟩ := List.map_eq_cons_iff.mp h.symm
    simp only [tidyLines, hnext, ih hmore.symm]

/-- Tidy lines stay as they are. -/
theorem tidyLines_eq_self (hink : ∀ line ∈ lines, EndsInk line) :
    (lines.IsChain Apart → tidyLines false lines = lines) ∧
      (([] :: lines).IsChain Apart → tidyLines true lines = lines) := by
  induction lines with
  | nil => exact ⟨fun _ => rfl, fun _ => rfl⟩
  | cons line lines ih =>
    rw [List.forall_mem_cons] at hink
    obtain ⟨hfirst, hafter⟩ := ih hink.2
    by_cases hempty : line = []
    · subst hempty
      refine ⟨fun h => congrArg ([] :: ·) (hafter h), fun h => ?_⟩
      exact absurd h.rel (by simp [Apart])
    · simp only [tidyLines, endsInk_iff.mp hink.1, List.isEmpty_iff, hempty, if_false,
        List.cons.injEq, true_and]
      exact ⟨fun h => hfirst h.tail, fun h => hfirst h.tail.tail⟩

/-! ## The lines of a layout -/

/-- The lines that make up a laid-out text: tidy ones, and no blank one at the end. -/
def laidLines (text : List Char) : List (List Char) :=
  (tidyLines false (split '\n' text)).rdropWhile List.isEmpty

theorem tidy_laidLines (text : List Char) : Tidy (laidLines text) := by
  have htidy := tidy_tidyLines (split '\n' text)
  have hkept := List.rdropWhile_prefix List.isEmpty (tidyLines false (split '\n' text))
  exact ⟨fun line hline => htidy.ink line (hkept.subset hline), htidy.apart.prefix hkept⟩

theorem no_break_laidLines (h : line ∈ laidLines text) : '\n' ∉ line := by
  obtain ⟨l, hl, rfl⟩ := exists_of_mem_tidyLines ((List.rdropWhile_prefix _ _).subset h)
  intro hmem
  exact (mem_of_mem_split hl ((List.rdropWhile_prefix _ _).subset hmem)).2 rfl

/-- Dropping the blank lines at the end drops no other. -/
theorem filter_laidLines (text : List Char) :
    (laidLines text).filter (!isBlankLine ·) =
      ((split '\n' text).filter (!isBlankLine ·)).map (trimEnd isBlank) := by
  rw [← filter_tidyLines false]
  have hsplit := List.rdropWhile_append_rtakeWhile (p := List.isEmpty)
    (l := tidyLines false (split '\n' text))
  rw [← hsplit, List.filter_append, ← laidLines, List.self_eq_append_right,
    List.filter_eq_nil_iff]
  intro line hline
  rw [List.isEmpty_iff.mp (List.mem_rtakeWhile_imp hline)]
  decide

/-- The last line of a layout is not empty, so that an empty one can stand behind it. -/
theorem tidy_laidLines_append (text : List Char) : Tidy (laidLines text ++ [[]]) := by
  have htidy := tidy_laidLines text
  refine ⟨?_, htidy.apart.append (.singleton _) ?_⟩
  · intro line hline
    rcases List.mem_append.mp hline with hline | hline
    · exact htidy.ink line hline
    · rw [List.mem_singleton.mp hline]
      exact endsInk_iff.mpr rfl
  · intro line hline next _
    obtain ⟨hne, rfl⟩ := List.mem_getLast?_eq_getLast hline
    have hlast := List.rdropWhile_last_not List.isEmpty (tidyLines false (split '\n' text)) hne
    exact .inl fun hempty => hlast (List.isEmpty_iff.mpr hempty)

/-! ## Laying out -/

/-- A laid-out text is its lines, joined by the ending, and one ending behind them. -/
theorem format_eq (h : IsEnding lead) (text : List Char) :
    format (lead ++ ['\n']) text =
      join (lead ++ ['\n']) (laidLines text) ++ (lead ++ ['\n']) := by
  rw [format, h.trimEnd_join (tidy_tidyLines _).ink]
  rfl

/-- A laid-out text has the lines that it was made of. -/
theorem laidLines_format (h : IsEnding lead) (text : List Char) :
    laidLines (format (lead ++ ['\n']) text) = laidLines text := by
  have hlines : ∀ line ∈ laidLines text, '\n' ∉ line := fun _ => no_break_laidLines
  have hlead : ∀ line, trimEnd isBlank (line ++ lead) = trimEnd isBlank line :=
    fun line => trimEnd_append_of_all h.blank
  rw [format_eq h, laidLines]
  by_cases hnil : laidLines text = []
  · -- of nothing but an ending, one blank line stays at first, and none in the end
    have hblank : trimEnd isBlank lead = [] := hlead []
    have hsplit : split '\n' (lead ++ ['\n']) = [lead, []] := by
      rw [split_append_separator, split_of_not_mem h.no_break]
      rfl
    simp only [hnil, join, List.nil_append, hsplit, tidyLines, hblank]
    rfl
  · have hjoin : join (lead ++ ['\n']) (laidLines text) ++ (lead ++ ['\n']) =
        join (lead ++ ['\n']) (laidLines text ++ [[]]) := by
      rw [join_concat _ hnil, List.append_nil]
    have hsame : ((laidLines text).map (· ++ lead) ++ [[]]).map (trimEnd isBlank) =
        (laidLines text ++ [[]]).map (trimEnd isBlank) := by
      simp [hlead]
    have htidy := tidy_laidLines_append text
    rw [hjoin, h.split_join hlines, tidyLines_congr hsame,
      (tidyLines_eq_self htidy.ink).1 htidy.apart, List.rdropWhile_concat_pos _ _ _ rfl, laidLines,
      List.rdropWhile_idempotent]

/-! ## With a line ending -/

/-- The line endings that settings should give. -/
inductive LineEnding where
  | lf
  | crlf
  deriving DecidableEq, Repr

namespace LineEnding

/-- What stands before the line feed. -/
def opening : LineEnding → List Char
  | .lf => []
  | .crlf => ['\r']

def chars (ending : LineEnding) : List Char :=
  ending.opening ++ ['\n']

theorem isEnding_opening (ending : LineEnding) : IsEnding ending.opening := by
  cases ending with
  | lf => exact ⟨by simp [opening], by decide⟩
  | crlf => exact ⟨by simp only [opening, List.forall_mem_singleton]; decide, by decide⟩

end LineEnding

/-- A text laid out under settings with a line ending. -/
def formatWith (settings : Settings) (ending : LineEnding) (text : String) :
    Except Misuse String :=
  Generator.format { settings with lineEnding := .str (String.ofList ending.chars) } text

theorem formatWith_eq (settings : Settings) (ending : LineEnding) (text : String) :
    formatWith settings ending text =
      .ok (String.ofList (join ending.chars (laidLines text.toList) ++ ending.chars)) := by
  rw [LineEnding.chars, ← format_eq ending.isEnding_opening]
  simp [formatWith, Generator.format, formatString, LineEnding.chars]

/-- The layout of a text, given as what stands before the last ending. Its lines, cut at the ending,
do not end in whitespace; no two of them in a row are blank; and those that are not are the ones of
the text, trimmed. -/
structure IsLayoutOf (ending body text : List Char) : Prop where
  ink : EndsInk body
  lines_ink : ∀ line ∈ pieces ending body, EndsInk line
  lines_apart : (pieces ending body).IsChain fun line next =>
    ¬ (isBlankLine line ∧ isBlankLine next)
  lines_kept : (pieces ending body).filter (!isBlankLine ·) =
    ((split '\n' text).filter (!isBlankLine ·)).map (trimEnd isBlank)

theorem isLayoutOf_join (ending : LineEnding) (text : List Char) :
    IsLayoutOf ending.chars (join ending.chars (laidLines text)) text := by
  have hending := ending.isEnding_opening
  have htidy := tidy_laidLines text
  have hink : EndsInk (join ending.chars (laidLines text)) := by
    rw [endsInk_iff, LineEnding.chars, hending.trimEnd_join htidy.ink, laidLines,
      List.rdropWhile_idempotent]
  have hkept := filter_laidLines text
  by_cases hnil : laidLines text = []
  · rw [hnil] at hkept hink ⊢
    refine ⟨hink, ?_, .singleton _, hkept⟩
    simp only [join, pieces, piecesFrom, List.forall_mem_singleton]
    exact endsInk_iff.mpr rfl
  · have hpieces : pieces ending.chars (join ending.chars (laidLines text)) = laidLines text :=
      hending.pieces_join hnil fun _ => no_break_laidLines
    refine ⟨hink, ?_, ?_, ?_⟩
    · rw [hpieces]
      exact htidy.ink
    · rw [hpieces]
      refine htidy.apart.imp_of_mem_imp fun line next hline hnext happart => ?_
      rw [isBlankLine, isBlankLine, (htidy.ink line hline).all_iff, (htidy.ink next hnext).all_iff]
      exact fun h => happart.elim (· h.1) (· h.2)
    · rw [hpieces]
      exact hkept

/-- Layout changes what is blank and nothing else. With either ending, a laid-out text is one ending
behind a body whose lines are the text's lines that are not blank, trimmed, with at most one blank
line between two of them; laying it out again changes nothing; and the two endings make the same
text but for the ending. -/
theorem format_normalizes (settings : Settings) (text : String) :
    (∀ ending : LineEnding, ∃ laidOut body : String,
      formatWith settings ending text = .ok laidOut ∧
      laidOut.toList = body.toList ++ ending.chars ∧
      IsLayoutOf ending.chars body.toList text.toList ∧
      formatWith settings ending laidOut = .ok laidOut) ∧
    ∃ laidOut : String, formatWith settings .lf text = .ok laidOut ∧
      formatWith settings .crlf text =
        .ok (String.ofList (withEnding LineEnding.crlf.chars laidOut.toList)) := by
  constructor
  · intro ending
    refine ⟨_, String.ofList (join ending.chars (laidLines text.toList)), formatWith_eq _ _ _,
      by simp, ?_, ?_⟩
    · rw [String.toList_ofList]
      exact isLayoutOf_join ending text.toList
    · have hagain := laidLines_format ending.isEnding_opening text.toList
      rw [format_eq ending.isEnding_opening, ← LineEnding.chars] at hagain
      rw [formatWith_eq, String.toList_ofList, hagain]
  · refine ⟨_, formatWith_eq _ _ _, ?_⟩
    have hlines : ∀ line ∈ laidLines text.toList, '\n' ∉ line := fun _ => no_break_laidLines
    have hlf : LineEnding.lf.chars = ['\n'] := rfl
    rw [formatWith_eq, String.toList_ofList, hlf, withEnding_append, withEnding_join _ hlines]
    rfl

example : formatWith {} .crlf "a \t\n\n\x0b\n\x20b\x0d\n\n" = .ok "a\x0d\n\x0d\n b\x0d\n" := by
  rfl

end Phrasebook.Layout
