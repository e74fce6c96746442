-- SUMMARY: Lines joined by a line ending: cut apart again, trimmed at the end, and joined by another one.
import Mathlib.Data.List.Chain
import Mathlib.Data.List.DropRight
import Mathlib.Data.List.Infix
import Phrasebook.Proofs.Text.Lines
import Phrasebook.Text.Blank

/-!
# Line endings

A line ending is a line feed with whitespace before it, or alone. Lines without
line feeds can be joined by any of them: cutting at the ending gives the lines
back, whatever carriage returns they hold, and what is blank at the end of the
whole is what is blank at the end of the last lines.
-/

namespace Phrasebook.Text

variable {lead cs line rest : List Char} {lines : List (List Char)} {p q : Char → Bool}

/-! ## Trimmed texts -/

/-- A text that does not end in whitespace. -/
def EndsInk (cs : List Char) : Prop :=
  ∀ c ∈ cs.getLast?, isBlank c = false

/-- Trimming is what the library calls dropping from the right. -/
theorem trimEnd_eq_rdropWhile (p : Char → Bool) (cs : List Char) :
    trimEnd p cs = cs.rdropWhile p :=
  rfl

theorem endsInk_iff : EndsInk cs ↔ trimEnd isBlank cs = cs := by
  rw [trimEnd_eq_rdropWhile, List.rdropWhile_eq_self_iff]
  constructor
  · intro h hne
    simp [h _ (List.getLast?_eq_some_getLast hne)]
  · intro h c hc
    obtain ⟨hne, rfl⟩ := List.mem_getLast?_eq_getLast hc
    simpa using h hne

theorem endsInk_trimEnd (cs : List Char) : EndsInk (trimEnd isBlank cs) :=
  endsInk_iff.mpr (List.rdropWhile_idempotent _ _)

/-- A text without ink is trimmed to nothing. -/
theorem trimEnd_eq_nil_iff : trimEnd p cs = [] ↔ cs.all p := by
  rw [trimEnd_eq_rdropWhile, List.rdropWhile_eq_nil_iff, List.all_eq_true]

theorem EndsInk.all_iff (h : EndsInk cs) : cs.all isBlank ↔ cs = [] := by
  rw [← trimEnd_eq_nil_iff, endsInk_iff.mp h]

theorem EndsInk.append_left (h : EndsInk rest) (hne : rest ≠ []) (cs : List Char) :
    EndsInk (cs ++ rest) := by
  intro c hc
  rw [List.getLast?_append_of_ne_nil _ hne] at hc
  exact h c hc

theorem EndsInk.of_append (h : EndsInk (cs ++ rest)) (hne : rest ≠ []) : EndsInk rest := by
  intro c hc
  rw [← List.getLast?_append_of_ne_nil cs hne] at hc
  exact h c hc

theorem not_endsInk_concat {c : Char} (hc : isBlank c) (cs : List Char) :
    ¬ EndsInk (cs ++ [c]) := by
  intro h
  simp [h c (by simp)] at hc

theorem trimEnd_starts (p : Char → Bool) (cs : List Char) : trimEnd p cs <+: cs :=
  List.rdropWhile_prefix p cs

theorem isInfix_trim (p : Char → Bool) (cs : List Char) : trim p cs <:+: cs :=
  (trimEnd_starts p _).isInfix.trans (List.dropWhile_suffix p).isInfix

theorem trim_sublist (p : Char → Bool) (cs : List Char) : (trim p cs).Sublist cs :=
  (isInfix_trim p cs).sublist

/-- What is left after trimming does not begin with what is trimmed. -/
theorem head_trim {c : Char} (h : trim p cs = c :: rest) : p c = false := by
  obtain ⟨tail, htail⟩ := trimEnd_starts p (cs.dropWhile p)
  have hhead : (cs.dropWhile p).head? = some c := by
    rw [← htail, ← trim, h]
    rfl
  have hnot := List.head?_dropWhile_not p cs
  rw [hhead] at hnot
  exact hnot

/-- Nor does it end with it. -/
theorem last_trim {c : Char} (h : c ∈ (trim p cs).getLast?) : p c = false := by
  obtain ⟨hne, rfl⟩ := List.mem_getLast?_eq_getLast h
  exact Bool.eq_false_iff.mpr (List.rdropWhile_last_not p (cs.dropWhile p) hne)

theorem trim_trim (p : Char → Bool) (cs : List Char) : trim p (trim p cs) = trim p cs := by
  have hhead : (trim p cs).dropWhile p = trim p cs := by
    cases h : trim p cs with
    | nil => rfl
    | cons c rest => exact List.dropWhile_cons_of_neg (by simp [head_trim h])
  rw [trim, hhead, trim]
  exact List.rdropWhile_idempotent p _

theorem filter_dropWhile (h : ∀ c, p c → q c = false) (cs : List Char) :
    (cs.dropWhile p).filter q = cs.filter q := by
  induction cs with
  | nil => rfl
  | cons c cs ih =>
    by_cases hc : p c
    · rw [List.dropWhile_cons_of_pos hc, ih, List.filter_cons_of_neg (by simp [h c hc])]
    · rw [List.dropWhile_cons_of_neg hc]

/-- Trimming takes nothing that another test lets pass. -/
theorem filter_trim (h : ∀ c, p c → q c = false) (cs : List Char) :
    (trim p cs).filter q = cs.filter q := by
  rw [trim, trimEnd, List.filter_reverse, filter_dropWhile h, List.filter_reverse,
    List.reverse_reverse, filter_dropWhile h]

/-- What is trimmed may as well not be there. -/
theorem trim_pad {before after : List Char} (hbefore : ∀ c ∈ before, p c) (hafter : ∀ c ∈ after, p c)
    (cs : List Char) : trim p (before ++ cs ++ after) = trim p cs := by
  rw [trim, trim, List.append_assoc, List.dropWhile_append_of_pos hbefore, List.dropWhile_append]
  split
  case isTrue hempty =>
    rw [List.dropWhile_eq_nil_iff.mpr hafter, List.isEmpty_iff.mp hempty]
  case isFalse => exact trimEnd_append_of_all hafter

theorem trim_eq_self (h : ∀ c ∈ cs, p c = false) : trim p cs = cs := by
  have hhead : cs.dropWhile p = cs := by
    cases cs with
    | nil => rfl
    | cons c cs => exact List.dropWhile_cons_of_neg (by simp [h c])
  rw [trim, hhead, trimEnd_eq_rdropWhile, List.rdropWhile_eq_self_iff]
  intro hne
  simp [h _ (List.getLast_mem hne)]

theorem trim_map {f : Char → Char} (hf : ∀ c, p (f c) = p c) (cs : List Char) :
    trim p (cs.map f) = (trim p cs).map f := by
  have hsame : p ∘ f = p := funext hf
  rw [trim, trim, trimEnd, trimEnd, List.dropWhile_map, hsame, ← List.map_reverse,
    List.dropWhile_map, hsame, List.map_reverse]

/-! ## Cutting -/

/-- The pieces between the occurrences of a separator, found from the left. So many of the first
characters as `skip` says belong to an occurrence that has been found. -/
def piecesFrom (sep : List Char) : (skip : Nat) → List Char → List (List Char)
  | _, [] => [[]]
  | skip + 1, _ :: cs => piecesFrom sep skip cs
  | 0, c :: cs =>
    if sep.isPrefixOf (c :: cs) then [] :: piecesFrom sep (sep.length - 1) cs
    else
      match piecesFrom sep 0 cs with
      | [] => [[c]]
      | piece :: pieces => (c :: piece) :: pieces

/-- A text cut at every occurrence of a separator. -/
def pieces (sep cs : List Char) : List (List Char) :=
  piecesFrom sep 0 cs

theorem piecesFrom_append (sep cs rest : List Char) :
    piecesFrom sep cs.length (cs ++ rest) = pieces sep rest := by
  induction cs with
  | nil => rfl
  | cons c cs ih => exact ih

/-- A separator is found where it comes first. -/
theorem pieces_separator (c : Char) (cs rest : List Char) :
    pieces (c :: cs) ((c :: cs) ++ rest) = [] :: pieces (c :: cs) rest := by
  have hfound : (c :: cs).isPrefixOf (c :: (cs ++ rest)) :=
    List.isPrefixOf_iff_prefix.mpr (List.prefix_append (c :: cs) rest)
  rw [List.cons_append, pieces, piecesFrom, if_pos hfound]
  exact congrArg _ (piecesFrom_append _ cs rest)

/-- A character at which no separator begins belongs to the piece before the next one. -/
theorem pieces_cons {sep piece : List Char} {more : List (List Char)} {c : Char}
    (hc : ¬ sep <+: c :: cs) (hcs : pieces sep cs = piece :: more) :
    pieces sep (c :: cs) = (c :: piece) :: more := by
  have hnot : ¬ sep.isPrefixOf (c :: cs) := by rwa [List.isPrefixOf_iff_prefix]
  rw [pieces, piecesFrom, if_neg hnot]
  rw [pieces] at hcs
  rw [hcs]

/-! ## Joining by an ending -/

/-- A line ending: a line feed, and before it whitespace without one. -/
structure IsEnding (lead : List Char) : Prop where
  blank : ∀ c ∈ lead, isBlank c
  no_break : '\n' ∉ lead

/-- Where a line feed does not come at once, no ending begins that ends with the first line feed. -/
theorem IsEnding.not_prefix {c : Char} (h : IsEnding lead) (hc : c ≠ '\n') (hline : '\n' ∉ line)
    (rest : List Char) :
    ¬ lead ++ ['\n'] <+: c :: (line ++ lead ++ '\n' :: rest) := by
  intro hstarts
  have hbefore : c :: (line ++ lead) <+: c :: (line ++ lead ++ '\n' :: rest) :=
    ⟨'\n' :: rest, by simp⟩
  have hlength : (lead ++ ['\n']).length ≤ (c :: (line ++ lead)).length := by simp
  have hmem : '\n' ∈ c :: (line ++ lead) :=
    (List.prefix_of_prefix_length_le hstarts hbefore hlength).subset (by simp)
  rcases List.mem_cons.mp hmem with heq | hmem
  · exact hc heq.symm
  · exact (List.mem_append.mp hmem).elim hline h.no_break

/-- The line before an ending is the first piece. -/
theorem IsEnding.pieces_append (h : IsEnding lead) (hline : '\n' ∉ line) (rest : List Char) :
    pieces (lead ++ ['\n']) (line ++ (lead ++ ['\n']) ++ rest) =
      line :: pieces (lead ++ ['\n']) rest := by
  induction line with
  | nil =>
    cases lead with
    | nil => exact pieces_separator '\n' [] rest
    | cons c lead => exact pieces_separator c (lead ++ ['\n']) rest
  | cons c line ih =>
    rw [List.mem_cons, not_or] at hline
    refine pieces_cons ?_ (ih hline.2)
    simpa using h.not_prefix (Ne.symm hline.1) hline.2 rest

/-- Without a line feed there is one piece. -/
theorem pieces_of_no_break (lead : List Char) (hline : '\n' ∉ line) :
    pieces (lead ++ ['\n']) line = [line] := by
  induction line with
  | nil => rfl
  | cons c line ih =>
    have hnot : ¬ lead ++ ['\n'] <+: c :: line := fun hstarts =>
      hline (hstarts.subset (by simp))
    rw [List.mem_cons, not_or] at hline
    exact pieces_cons hnot (ih hline.2)

/-- Cutting at the ending undoes joining by it. -/
theorem IsEnding.pieces_join (h : IsEnding lead) (hne : lines ≠ [])
    (hlines : ∀ line ∈ lines, '\n' ∉ line) :
    pieces (lead ++ ['\n']) (join (lead ++ ['\n']) lines) = lines := by
  induction lines with
  | nil => exact absurd rfl hne
  | cons line lines ih =>
    rw [List.forall_mem_cons] at hlines
    by_cases hnil : lines = []
    · subst hnil
      exact pieces_of_no_break lead hlines.1
    · rw [join_cons_of_ne_nil _ _ hnil, h.pieces_append hlines.1, ih hnil hlines.2]

/-- Cutting at line feeds leaves the rest of the ending at each line but the last. -/
theorem IsEnding.split_join (h : IsEnding lead) (hlines : ∀ line ∈ lines, '\n' ∉ line) :
    split '\n' (join (lead ++ ['\n']) (lines ++ [[]])) = lines.map (· ++ lead) ++ [[]] := by
  induction lines with
  | nil => rfl
  | cons line lines ih =>
    rw [List.forall_mem_cons] at hlines
    have hline : '\n' ∉ line ++ lead := fun hmem =>
      (List.mem_append.mp hmem).elim hlines.1 h.no_break
    have hregroup : line ++ (lead ++ ['\n']) ++ join (lead ++ ['\n']) (lines ++ [[]]) =
        (line ++ lead) ++ '\n' :: join (lead ++ ['\n']) (lines ++ [[]]) := by simp
    rw [List.cons_append, join_cons_of_ne_nil _ _ (by simp), hregroup, split_append_separator,
      split_of_not_mem hline, ih hlines.2]
    rfl

theorem join_concat (sep : List Char) (hne : lines ≠ []) (line : List Char) :
    join sep (lines ++ [line]) = join sep lines ++ sep ++ line := by
  induction lines with
  | nil => exact absurd rfl hne
  | cons first lines ih =>
    by_cases hnil : lines = []
    · subst hnil
      rfl
    · rw [List.cons_append, join_cons_of_ne_nil _ _ (by simp), join_cons_of_ne_nil _ _ hnil,
        ih hnil]
      simp

/-- What is trimmed from joined lines are the empty ones at their end, if each of them is trimmed
itself. -/
theorem IsEnding.trimEnd_join (h : IsEnding lead) (hlines : ∀ line ∈ lines, EndsInk line) :
    trimEnd isBlank (join (lead ++ ['\n']) lines) =
      join (lead ++ ['\n']) (lines.rdropWhile List.isEmpty) := by
  induction lines using List.reverseRecOn with
  | nil => rfl
  | append_singleton lines line ih =>
    have hlines' := fun l hl => hlines l (List.mem_append_left _ hl)
    have hline : EndsInk line := hlines line (by simp)
    have hending : ∀ c ∈ lead ++ ['\n'], isBlank c := by
      intro c hc
      rcases List.mem_append.mp hc with hc | hc
      · exact h.blank c hc
      · rw [List.mem_singleton.mp hc]
        decide
    by_cases hempty : line = []
    · subst hempty
      rw [List.rdropWhile_concat_pos _ _ _ rfl, ← ih hlines']
      by_cases hnil : lines = []
      · subst hnil
        rfl
      · rw [join_concat _ hnil, List.append_nil, trimEnd_append_of_all hending]
    · have hlast : EndsInk (join (lead ++ ['\n']) (lines ++ [line])) := by
        by_cases hnil : lines = []
        · subst hnil
          exact hline
        · rw [join_concat _ hnil]
          exact hline.append_left hempty _
      rw [List.rdropWhile_concat_neg _ _ _ (by simpa using hempty), endsInk_iff.mp hlast]

/-! ## Another ending -/

/-- A text with another ending in the place of every line feed. -/
def withEnding (ending : List Char) (cs : List Char) : List Char :=
  cs.flatMap fun c => if c = '\n' then ending else [c]

theorem withEnding_append (ending cs rest : List Char) :
    withEnding ending (cs ++ rest) = withEnding ending cs ++ withEnding ending rest :=
  List.flatMap_append

theorem withEnding_of_no_break (ending : List Char) (hline : '\n' ∉ line) :
    withEnding ending line = line := by
  have hsame : line.flatMap (fun c => if c = '\n' then ending else [c]) = line.flatMap ([·]) :=
    List.flatMap_congr fun c hc => if_neg (ne_of_mem_of_not_mem hc hline)
  rw [withEnding, hsame, List.flatMap_singleton']

/-- A text keeps its pieces that have no line feeds. -/
theorem infix_withEnding {piece cs : List Char} (ending : List Char) (h : piece <:+: cs)
    (hpiece : '\n' ∉ piece) : piece <:+: withEnding ending cs := by
  obtain ⟨before, after, rfl⟩ := h
  rw [withEnding_append, withEnding_append, withEnding_of_no_break ending hpiece]
  exact List.infix_append _ _ _

theorem withEnding_line_feed (cs : List Char) : withEnding ['\n'] cs = cs := by
  have hsame : cs.flatMap (fun c => if c = '\n' then ['\n'] else [c]) = cs.flatMap ([·]) := by
    refine List.flatMap_congr fun c _ => ?_
    split
    · rename_i hc
      rw [hc]
    · rfl
  rw [withEnding, hsame, List.flatMap_singleton']

/-- Lines joined by line feeds become lines joined by the other ending. -/
theorem withEnding_join (ending : List Char) (hlines : ∀ line ∈ lines, '\n' ∉ line) :
    withEnding ending (join ['\n'] lines) = join ending lines := by
  induction lines with
  | nil => rfl
  | cons line lines ih =>
    rw [List.forall_mem_cons] at hlines
    by_cases hnil : lines = []
    · subst hnil
      exact withEnding_of_no_break ending hlines.1
    · have hbreak : withEnding ending ['\n'] = ending := by simp [withEnding]
      rw [join_cons_of_ne_nil _ _ hnil, join_cons_of_ne_nil _ _ hnil, withEnding_append,
        withEnding_append, withEnding_of_no_break ending hlines.1, hbreak, ih hlines.2]

end Phrasebook.Text
