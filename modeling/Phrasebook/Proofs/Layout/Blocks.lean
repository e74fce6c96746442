-- SUMMARY: Texts that layout leaves as they are, but for the line ending.
import Phrasebook.Proofs.Layout.Normalization

/-!
# Blocks

A text keeps its layout if no line of it ends in whitespace and an empty line
stands only between two others. A block is such a text without the line feed at
its end. Blocks can be put one after the other, with an empty line between them or
without, so that a text is shown to be one part by part.

The least part is a solid text. It need not be a single line: what matters is that
nothing blank comes before a line feed in it.
-/

namespace Phrasebook.Layout

open Text

variable {cs rest : List Char}

/-! ## Solid texts -/

/-- Whether every line feed of a text comes right behind a character that is not blank. -/
def BreaksAfterInk (cs : List Char) : Prop :=
  ∀ before after, cs = before ++ '\n' :: after → before ≠ [] ∧ EndsInk before

/-- A text none of whose lines is empty or ends in whitespace. -/
structure IsSolid (cs : List Char) : Prop where
  breaks : BreaksAfterInk cs
  ne_nil : cs ≠ []
  ink : EndsInk cs

theorem breaksAfterInk_of_not_mem (h : '\n' ∉ cs) : BreaksAfterInk cs := by
  rintro before after rfl
  exact absurd (by simp) h

theorem BreaksAfterInk.append (h : BreaksAfterInk cs) (hrest : BreaksAfterInk rest) :
    BreaksAfterInk (cs ++ rest) := by
  intro before after heq
  rcases List.append_eq_append_iff.mp heq with ⟨more, rfl, hmore⟩ | ⟨more, rfl, hmore⟩
  · obtain ⟨hne, hink⟩ := hrest more after hmore
    exact ⟨by simp [hne], hink.append_left hne cs⟩
  · cases more with
    | nil =>
      -- the line feed would be the first character of the second text
      exact absurd rfl (hrest [] after hmore.symm).1
    | cons c more =>
      obtain ⟨rfl, -⟩ := List.cons.inj hmore
      exact h before more rfl

theorem IsSolid.prepend (h : IsSolid rest) (hcs : BreaksAfterInk cs) : IsSolid (cs ++ rest) :=
  ⟨hcs.append h.breaks, by simp [h.ne_nil], h.ink.append_left h.ne_nil cs⟩

/-- A solid text may have a line feed behind it if it is not the end. -/
theorem IsSolid.breaksAfterInk_concat (h : IsSolid cs) : BreaksAfterInk (cs ++ ['\n']) := by
  intro before after heq
  rcases List.append_eq_append_iff.mp heq with ⟨more, rfl, hmore⟩ | ⟨more, rfl, hmore⟩
  · obtain rfl : more = [] := by
      rw [← List.length_eq_zero_iff]
      have hlength := congrArg List.length hmore
      simp only [List.length_append, List.length_cons, List.length_nil] at hlength
      omega
    rw [List.append_nil]
    exact ⟨h.ne_nil, h.ink⟩
  · cases more with
    | nil =>
      rw [List.append_nil] at h
      exact ⟨h.ne_nil, h.ink⟩
    | cons c more =>
      obtain ⟨rfl, -⟩ := List.cons.inj hmore
      exact h.breaks before more rfl

/-- What follows the first line of a solid text is solid. -/
theorem IsSolid.of_break {line : List Char} (h : IsSolid (line ++ '\n' :: rest)) :
    IsSolid rest := by
  have hbreak : ∀ {cs}, EndsInk (line ++ '\n' :: cs) → cs ≠ [] ∧ EndsInk cs := by
    intro cs hink
    have hne : cs ≠ [] := by
      rintro rfl
      exact not_endsInk_concat (by decide) line hink
    rw [List.append_cons] at hink
    exact ⟨hne, hink.of_append hne⟩
  obtain ⟨hne, hink⟩ := hbreak h.ink
  refine ⟨fun before after heq => hbreak ?_, hne, hink⟩
  exact (h.breaks (line ++ '\n' :: before) after (by simp [heq])).2

theorem IsSolid.forall_lines {cs : List Char} (h : IsSolid cs) :
    ∀ line ∈ split '\n' cs, line ≠ [] ∧ EndsInk line := by
  by_cases hbreak : '\n' ∈ cs
  · obtain ⟨first, rest, rfl, hfirst⟩ := List.eq_append_cons_of_mem hbreak
    rw [split_append_separator, split_of_not_mem hfirst, List.singleton_append,
      List.forall_mem_cons]
    exact ⟨h.breaks first rest rfl, IsSolid.forall_lines h.of_break⟩
  · rw [split_of_not_mem hbreak, List.forall_mem_singleton]
    exact ⟨h.ne_nil, h.ink⟩
termination_by cs.length

/-! ## Blocks -/

/-- Tidy lines of which neither the first nor the last one is empty. -/
structure IsBlock (cs : List Char) : Prop where
  tidy : Tidy (split '\n' cs)
  head : ∀ line ∈ (split '\n' cs).head?, line ≠ []
  last : ∀ line ∈ (split '\n' cs).getLast?, line ≠ []

theorem IsSolid.isBlock (h : IsSolid cs) : IsBlock cs where
  tidy := {
    ink := fun line hline => (h.forall_lines line hline).2
    apart := (List.pairwise_of_forall_mem_list fun line hline _ _ =>
      .inl (h.forall_lines line hline).1).isChain }
  head := fun line hline => (h.forall_lines line (List.mem_of_head? hline)).1
  last := fun line hline => (h.forall_lines line (List.mem_of_getLast? hline)).1

theorem IsBlock.append (h : IsBlock cs) (hrest : IsBlock rest) : IsBlock (cs ++ '\n' :: rest) := by
  have hne := split_ne_nil '\n' rest
  have hlines : split '\n' (cs ++ '\n' :: rest) = split '\n' cs ++ split '\n' rest :=
    split_append_separator cs rest
  refine ⟨⟨?_, ?_⟩, ?_, ?_⟩
  · rw [hlines]
    exact List.forall_mem_append.mpr ⟨h.tidy.ink, hrest.tidy.ink⟩
  · rw [hlines]
    exact h.tidy.apart.append hrest.tidy.apart fun line hline _ _ => .inl (h.last line hline)
  · rw [hlines, List.head?_append_of_ne_nil _ (split_ne_nil '\n' cs)]
    exact h.head
  · rw [hlines, List.getLast?_append_of_ne_nil _ hne]
    exact hrest.last

/-- An empty line may stand between two blocks. -/
theorem IsBlock.append_blank (h : IsBlock cs) (hrest : IsBlock rest) :
    IsBlock (cs ++ '\n' :: '\n' :: rest) := by
  have hlines : split '\n' (cs ++ '\n' :: '\n' :: rest) =
      split '\n' cs ++ [] :: split '\n' rest := by
    rw [split_append_separator]
    rfl
  have hblank : EndsInk [] := endsInk_iff.mpr rfl
  have hapart : ([] :: split '\n' rest).IsChain Apart :=
    hrest.tidy.apart.cons fun line hline => .inr (hrest.head line hline)
  refine ⟨⟨?_, ?_⟩, ?_, ?_⟩
  · rw [hlines]
    exact List.forall_mem_append.mpr ⟨h.tidy.ink, List.forall_mem_cons.mpr ⟨hblank, hrest.tidy.ink⟩⟩
  · rw [hlines]
    exact h.tidy.apart.append hapart fun line hline _ _ => .inl (h.last line hline)
  · rw [hlines, List.head?_append_of_ne_nil _ (split_ne_nil '\n' cs)]
    exact h.head
  · rw [hlines, List.getLast?_append_of_ne_nil _ (List.cons_ne_nil _ _),
      List.getLast?_cons_of_ne_nil (split_ne_nil '\n' rest)]
    exact hrest.last

/-! ## Layout of blocks -/

/-- The lines of a block with a line feed behind it are laid out as they are. -/
theorem IsBlock.laidLines_eq (h : IsBlock cs) : laidLines (cs ++ ['\n']) = split '\n' cs := by
  have hlines : split '\n' (cs ++ ['\n']) = split '\n' cs ++ [[]] := split_append_separator cs []
  have hink : ∀ line ∈ split '\n' cs ++ [[]], EndsInk line := by
    rw [List.forall_mem_append, List.forall_mem_singleton]
    exact ⟨h.tidy.ink, endsInk_iff.mpr rfl⟩
  have hapart : (split '\n' cs ++ [[]]).IsChain Apart :=
    h.tidy.apart.append (.singleton _) fun line hline _ _ => .inl (h.last line hline)
  rw [laidLines, hlines, (tidyLines_eq_self hink).1 hapart, List.rdropWhile_concat_pos _ _ _ rfl,
    List.rdropWhile_eq_self_iff]
  intro hne
  simpa using h.last _ (List.getLast?_eq_some_getLast hne)

/-- Laying out a block and the line feed behind it replaces the line feeds, and does nothing else. -/
theorem IsBlock.format_eq {lead : List Char} (h : IsBlock cs) (hlead : IsEnding lead) :
    format (lead ++ ['\n']) (cs ++ ['\n']) = withEnding (lead ++ ['\n']) (cs ++ ['\n']) := by
  have hbreaks : ∀ line ∈ split '\n' cs, '\n' ∉ line := fun line hline hmem =>
    (mem_of_mem_split hline hmem).2 rfl
  have hending : withEnding (lead ++ ['\n']) ['\n'] = lead ++ ['\n'] := by simp [withEnding]
  rw [Layout.format_eq hlead, h.laidLines_eq, withEnding_append, hending,
    ← withEnding_join _ hbreaks, join_split]

end Phrasebook.Layout
