-- SUMMARY: Texts cut into lines, each with the break at its end, and texts without some lines.
import Mathlib.Data.List.Basic
import Phrasebook.Text.Basic

/-!
# Lines

A text is cut after every character that breaks lines. Nothing is lost by it, so
that a text can be put together again from the lines that are kept. What comes
after a break has no part in the lines before it, and the same is true of the
pieces between separators.
-/

namespace Phrasebook.Text

/-- The lines of a text, each with the break that ends it. -/
def cutLines (isBreak : Char → Bool) : List Char → List (List Char)
  | [] => []
  | c :: cs =>
    if isBreak c then [c] :: cutLines isBreak cs
    else
      match cutLines isBreak cs with
      | [] => [[c]]
      | line :: lines => (c :: line) :: lines

/-- A text without the lines that satisfy `p`. -/
def dropLines (isBreak : Char → Bool) (p : List Char → Bool) (cs : List Char) : List Char :=
  ((cutLines isBreak cs).filter (!p ·)).flatten

variable {isBreak : Char → Bool} {p : List Char → Bool} {c d : Char} {cs rest : List Char}

theorem cutLines_cons_break (hc : isBreak c) (cs : List Char) :
    cutLines isBreak (c :: cs) = [c] :: cutLines isBreak cs := by
  rw [cutLines, if_pos hc]

theorem cutLines_cons {line : List Char} {lines : List (List Char)} (hc : isBreak c = false)
    (hcs : cutLines isBreak cs = line :: lines) :
    cutLines isBreak (c :: cs) = (c :: line) :: lines := by
  rw [cutLines, if_neg (by simp [hc]), hcs]

/-- The lines of a text, one after the other, are the text. -/
theorem flatten_cutLines (cs : List Char) : (cutLines isBreak cs).flatten = cs := by
  induction cs with
  | nil => rfl
  | cons c cs ih =>
    by_cases hc : isBreak c
    · rw [cutLines_cons_break hc, List.flatten_cons, ih]
      rfl
    · rw [cutLines, if_neg hc]
      cases hcs : cutLines isBreak cs with
      | nil =>
        rw [hcs] at ih
        simp [← ih]
      | cons line lines =>
        rw [hcs] at ih
        simpa using ih

/-- The lines up to a break are cut without regard to what comes after it. -/
theorem cutLines_append_break (hd : isBreak d) (cs rest : List Char) :
    cutLines isBreak (cs ++ d :: rest) = cutLines isBreak (cs ++ [d]) ++ cutLines isBreak rest := by
  induction cs with
  | nil => simp [cutLines_cons_break hd, cutLines]
  | cons c cs ih =>
    rw [List.cons_append, List.cons_append]
    by_cases hc : isBreak c
    · rw [cutLines_cons_break hc, cutLines_cons_break hc, ih]
      rfl
    · rw [Bool.not_eq_true] at hc
      cases hcs : cutLines isBreak (cs ++ [d]) with
      | nil =>
        have hflatten : (cutLines isBreak (cs ++ [d])).flatten = cs ++ [d] := flatten_cutLines _
        rw [hcs] at hflatten
        simp at hflatten
      | cons line lines =>
        rw [hcs] at ih
        rw [cutLines_cons hc ih, cutLines_cons hc hcs]
        rfl

/-- A text whose only break is at its end is one line. -/
theorem cutLines_line (hcs : ∀ c ∈ cs, isBreak c = false) (hd : isBreak d) :
    cutLines isBreak (cs ++ [d]) = [cs ++ [d]] := by
  induction cs with
  | nil => exact cutLines_cons_break hd []
  | cons c cs ih =>
    rw [List.forall_mem_cons] at hcs
    exact cutLines_cons hcs.1 (ih hcs.2)

theorem dropLines_append_break (hd : isBreak d) (cs rest : List Char) :
    dropLines isBreak p (cs ++ d :: rest) =
      dropLines isBreak p (cs ++ [d]) ++ dropLines isBreak p rest := by
  rw [dropLines, cutLines_append_break hd, List.filter_append, List.flatten_append]
  rfl

theorem dropLines_line (hcs : ∀ c ∈ cs, isBreak c = false) (hd : isBreak d)
    (hp : p (cs ++ [d])) : dropLines isBreak p (cs ++ [d]) = [] := by
  simp [dropLines, cutLines_line hcs hd, hp]

/-- Of lines that are given one by one, each is cut and kept or dropped by itself. -/
theorem dropLines_flatMap (hd : isBreak d) (lines : List (List Char)) :
    dropLines isBreak p (lines.flatMap (· ++ [d])) =
      lines.flatMap fun line => dropLines isBreak p (line ++ [d]) := by
  induction lines with
  | nil => rfl
  | cons line lines ih =>
    rw [List.flatMap_cons, List.flatMap_cons, List.append_assoc, List.singleton_append,
      dropLines_append_break hd, ih]

/-! ## Pieces between separators -/

variable {sep : Char}

/-- A character that is no separator belongs to the first piece. -/
theorem split_cons_of_ne {c : Char} (h : c ≠ sep) (cs : List Char) :
    ∃ piece pieces, split sep cs = piece :: pieces ∧
      split sep (c :: cs) = (c :: piece) :: pieces := by
  obtain ⟨piece, pieces, hcs⟩ := List.exists_cons_of_ne_nil (split_ne_nil sep cs)
  exact ⟨piece, pieces, hcs, by simp [split, h, hcs]⟩

/-- The pieces of a text are all of it but the separators. -/
theorem flatten_split (sep : Char) (cs : List Char) :
    (split sep cs).flatten = cs.filter (· != sep) := by
  induction cs with
  | nil => rfl
  | cons c cs ih =>
    by_cases hc : c = sep
    · simpa [split, hc] using ih
    · obtain ⟨piece, pieces, hcs, hsplit⟩ := split_cons_of_ne hc cs
      rw [hcs] at ih
      simpa [hsplit, hc] using ih

theorem split_of_not_mem (h : sep ∉ cs) : split sep cs = [cs] := by
  induction cs with
  | nil => rfl
  | cons c cs ih =>
    rw [List.mem_cons, not_or] at h
    rw [split, if_neg (Ne.symm h.1), ih h.2]

theorem split_append_separator (cs rest : List Char) :
    split sep (cs ++ sep :: rest) = split sep cs ++ split sep rest := by
  induction cs with
  | nil => simp [split]
  | cons c cs ih =>
    rw [List.cons_append, split, split]
    split
    · rw [ih, List.cons_append]
    · rw [ih]
      cases hcs : split sep cs with
      | nil => exact absurd hcs (split_ne_nil sep cs)
      | cons piece pieces => rfl

/-- Splitting at the separator undoes joining with it. -/
theorem split_join {pieces : List (List Char)} (hne : pieces ≠ [])
    (hpieces : ∀ piece ∈ pieces, sep ∉ piece) : split sep (join [sep] pieces) = pieces := by
  induction pieces with
  | nil => exact absurd rfl hne
  | cons piece pieces ih =>
    rw [List.forall_mem_cons] at hpieces
    by_cases hnil : pieces = []
    · subst hnil
      exact split_of_not_mem hpieces.1
    · rw [join_cons_of_ne_nil _ _ hnil, List.append_assoc, List.singleton_append,
        split_append_separator, split_of_not_mem hpieces.1, ih hnil hpieces.2]
      rfl

/-- A text that is cut piece by piece after a map that keeps the separator apart. -/
theorem split_map {f : Char → Char} (hf : ∀ c, f c = sep ↔ c = sep) (cs : List Char) :
    split sep (cs.map f) = (split sep cs).map (List.map f) := by
  induction cs with
  | nil => rfl
  | cons c cs ih =>
    simp only [List.map_cons, split, hf, ih]
    split
    · rfl
    · cases split sep cs with
      | nil => rfl
      | cons piece pieces => rfl

/-- Joined pieces under a map of characters. -/
theorem map_join (f : Char → Char) (sep : List Char) (pieces : List (List Char)) :
    (join sep pieces).map f = join (sep.map f) (pieces.map (List.map f)) := by
  induction pieces with
  | nil => rfl
  | cons piece pieces ih =>
    by_cases hnil : pieces = []
    · subst hnil
      rfl
    · rw [List.map_cons, join_cons_of_ne_nil _ _ hnil, join_cons_of_ne_nil _ _ (by simpa using hnil),
        List.map_append, List.map_append, ih]

theorem toList_joinStrings (sep : String) (parts : List String) :
    (joinStrings sep parts).toList = join sep.toList (parts.map String.toList) := by
  induction parts with
  | nil => rfl
  | cons part parts ih =>
    cases parts with
    | nil => rfl
    | cons next parts => simp [joinStrings, join, ih]

/-- What holds of texts one after the other if it holds of each holds of joined texts. -/
theorem joinStrings_induction {P : String → Prop} (hempty : P "")
    (happend : ∀ {s t}, P s → P t → P (s ++ t)) {sep : String} {parts : List String} (hsep : P sep)
    (hparts : ∀ s ∈ parts, P s) : P (joinStrings sep parts) := by
  induction parts with
  | nil => exact hempty
  | cons part parts ih =>
    rw [List.forall_mem_cons] at hparts
    cases parts with
    | nil => exact hparts.1
    | cons next parts => exact happend (happend hparts.1 hsep) (ih hparts.2)

/-- Joined texts hold characters of the parts and of the separator. -/
theorem mem_join {sep : List Char} {pieces : List (List Char)} (hc : c ∈ join sep pieces) :
    c ∈ sep ∨ ∃ piece ∈ pieces, c ∈ piece := by
  induction pieces with
  | nil => cases hc
  | cons piece pieces ih =>
    by_cases hnil : pieces = []
    · subst hnil
      exact .inr ⟨piece, List.mem_cons_self, hc⟩
    · rw [join_cons_of_ne_nil _ _ hnil, List.mem_append, List.mem_append] at hc
      rcases hc with (hc | hc) | hc
      · exact .inr ⟨piece, List.mem_cons_self, hc⟩
      · exact .inl hc
      · rcases ih hc with hc | ⟨p, hp, hc⟩
        · exact .inl hc
        · exact .inr ⟨p, List.mem_cons_of_mem _ hp, hc⟩

/-- Joined texts hold every character of the parts. -/
theorem mem_join_of_mem {sep piece : List Char} {pieces : List (List Char)} (hpiece : piece ∈ pieces)
    (hc : c ∈ piece) : c ∈ join sep pieces := by
  induction pieces with
  | nil => cases hpiece
  | cons first pieces ih =>
    by_cases hnil : pieces = []
    · subst hnil
      rw [List.mem_singleton] at hpiece
      exact hpiece ▸ hc
    · rw [join_cons_of_ne_nil _ _ hnil, List.append_assoc, List.mem_append, List.mem_append]
      rcases List.mem_cons.mp hpiece with rfl | hpiece
      · exact .inl hc
      · exact .inr (.inr (ih hpiece))

/-- The pieces of a text hold its characters, the separator apart. -/
theorem mem_of_mem_split {sep : Char} {piece : List Char} (hpiece : piece ∈ split sep cs)
    (hc : c ∈ piece) : c ∈ cs ∧ c ≠ sep := by
  induction cs generalizing piece with
  | nil =>
    rw [split, List.mem_singleton] at hpiece
    simp [hpiece] at hc
  | cons d cs ih =>
    rw [split] at hpiece
    split at hpiece
    · rcases List.mem_cons.mp hpiece with rfl | hpiece
      · cases hc
      · exact ⟨List.mem_cons_of_mem _ (ih hpiece hc).1, (ih hpiece hc).2⟩
    · rename_i hd
      split at hpiece
      · rw [List.mem_singleton] at hpiece
        simp only [hpiece, List.mem_singleton] at hc
        exact ⟨by simp [hc], by simpa [hc] using hd⟩
      · rename_i first pieces hsplit
        rcases List.mem_cons.mp hpiece with rfl | hpiece
        · rcases List.mem_cons.mp hc with rfl | hc
          · exact ⟨List.mem_cons_self, hd⟩
          · have hfirst : first ∈ split sep cs := by simp [hsplit]
            exact ⟨List.mem_cons_of_mem _ (ih hfirst hc).1, (ih hfirst hc).2⟩
        · have hrest : piece ∈ split sep cs := by simp [hsplit, hpiece]
          exact ⟨List.mem_cons_of_mem _ (ih hrest hc).1, (ih hrest hc).2⟩

end Phrasebook.Text
