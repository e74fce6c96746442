-- SUMMARY: The characters of names: what case styles keep, and what a derived name begins with.
import Mathlib
import Phrasebook.Naming.Allocator
import Phrasebook.Proofs.Text.Endings

/-!
# The shape of names

Whatever a key looks like, its name in any style is a letter followed by
letters, digits and underscores. The proof follows the pipeline: cleaning leaves
such characters only, every later step keeps them, and the last step of each
style leaves a letter or a digit in front, before which a letter is put where it
is a digit.

The lemmas about the case of ASCII characters stand in no smaller part of the
library than the whole.
-/

namespace Phrasebook

namespace Naming

open Text

variable {c : Char} {name : List Char}

/-! ## Characters -/

theorem isAlphanum_toLower (c : Char) : c.toLower.isAlphanum = c.isAlphanum := by
  by_cases h : c.isUpper
  · have hc : c.isAlpha := by simp [Char.isAlpha, h]
    simp [Char.isAlphanum, hc]
  · rw [Char.toLower_eq_of_not_isUpper h]

theorem isAlphanum_toUpper (c : Char) : c.toUpper.isAlphanum = c.isAlphanum := by
  by_cases h : c.isLower
  · have hc : c.isAlpha := by simp [Char.isAlpha, h]
    simp [Char.isAlphanum, hc]
  · rw [Char.toUpper_eq_of_not_isLower h]

theorem isNameChar_of_isAlphanum (h : c.isAlphanum) : isNameChar c := by
  simp [isNameChar, h]

theorem isAlphanum_of_isNameChar (h : isNameChar c) (hc : c ≠ '_') : c.isAlphanum := by
  simpa [isNameChar, hc] using h

theorem isNameChar_toLower (h : isNameChar c) : isNameChar c.toLower := by
  by_cases hc : c = '_'
  · subst hc
    decide
  · exact isNameChar_of_isAlphanum (by
      rw [isAlphanum_toLower]
      exact isAlphanum_of_isNameChar h hc)

theorem isNameChar_toUpper (h : isNameChar c) : isNameChar c.toUpper := by
  by_cases hc : c = '_'
  · subst hc
    decide
  · exact isNameChar_of_isAlphanum (by
      rw [isAlphanum_toUpper]
      exact isAlphanum_of_isNameChar h hc)

/-! ## Cleaning and words -/

theorem isNameChar_of_mem_clean {key : List Char} (h : c ∈ clean key) : isNameChar c := by
  have hmapped := (trim_sublist _ _).subset h
  obtain ⟨d, _, rfl⟩ := List.mem_map.mp hmapped
  split
  · assumption
  · decide

theorem mem_of_mem_breakWords (h : c ∈ breakWords name) : c ∈ name ∨ c = '_' := by
  fun_induction breakWords name with
  | case1 => exact .inl h
  | case2 => exact .inl h
  | case3 d e rest _ ih =>
    rcases List.mem_cons.mp h with rfl | h
    · exact .inl List.mem_cons_self
    · rcases List.mem_cons.mp h with rfl | h
      · exact .inr rfl
      · exact (ih h).imp_left (List.mem_cons_of_mem _)
  | case4 d e rest _ ih =>
    rcases List.mem_cons.mp h with rfl | h
    · exact .inl List.mem_cons_self
    · exact (ih h).imp_left (List.mem_cons_of_mem _)

theorem mem_of_mem_squeeze (h : c ∈ squeeze name) : c ∈ name := by
  fun_induction squeeze name with
  | case1 => exact h
  | case2 => exact h
  | case3 d e rest _ ih => exact List.mem_cons_of_mem _ (ih h)
  | case4 d e rest _ ih =>
    rcases List.mem_cons.mp h with rfl | h
    · exact List.mem_cons_self
    · exact List.mem_cons_of_mem _ (ih h)

theorem isNameChar_of_mem_snakeCase (hname : ∀ d ∈ name, isNameChar d) (h : c ∈ snakeCase name) :
    isNameChar c := by
  have hmapped := mem_of_mem_squeeze ((trim_sublist _ _).subset h)
  obtain ⟨d, hd, rfl⟩ := List.mem_map.mp hmapped
  refine isNameChar_toLower ?_
  rcases mem_of_mem_breakWords hd with hd | rfl
  · exact hname d hd
  · decide

/-- A word holds letters and digits only. -/
theorem isAlphanum_of_mem_words (hname : ∀ d ∈ name, isNameChar d) {word : List Char}
    (hword : word ∈ words name) (h : c ∈ word) : c.isAlphanum := by
  have hsplit := (List.mem_filter.mp hword).1
  obtain ⟨hmem, hne⟩ := mem_of_mem_split hsplit h
  exact isAlphanum_of_isNameChar (isNameChar_of_mem_snakeCase hname hmem) hne

theorem words_ne_nil {word : List Char} (hword : word ∈ words name) : word ≠ [] := by
  have hnonempty := (List.mem_filter.mp hword).2
  simpa using hnonempty

theorem isAlphanum_of_mem_capitalize {word : List Char} (hword : ∀ d ∈ word, d.isAlphanum)
    (h : c ∈ capitalize word) : c.isAlphanum := by
  cases word with
  | nil => cases h
  | cons d rest =>
    rcases List.mem_cons.mp h with rfl | h
    · rw [isAlphanum_toUpper]
      exact hword d List.mem_cons_self
    · obtain ⟨e, he, rfl⟩ := List.mem_map.mp h
      rw [isAlphanum_toLower]
      exact hword e (List.mem_cons_of_mem _ he)

/-- Capitalized words put together hold letters and digits only. -/
theorem isAlphanum_of_mem_flatMap_capitalize {ws : List (List Char)}
    (hws : ∀ w ∈ ws, ∀ d ∈ w, d.isAlphanum) (h : c ∈ ws.flatMap capitalize) : c.isAlphanum := by
  obtain ⟨w, hw, hc⟩ := List.mem_flatMap.mp h
  exact isAlphanum_of_mem_capitalize (hws w hw) hc

/-! ## Styles -/

theorem camel_eq (name : List Char) :
    Style.camel.convert name = (words name).headD [] ++ (words name).tail.flatMap capitalize := by
  cases hwords : words name <;> simp [Style.convert, hwords]

/-- Two styles leave letters and digits only. -/
theorem isAlphanum_of_mem_convert {style : Style} (hstyle : style = .camel ∨ style = .pascal)
    (hname : ∀ d ∈ name, isNameChar d) (h : c ∈ style.convert name) : c.isAlphanum := by
  have hwords : ∀ w ∈ words name, ∀ d ∈ w, d.isAlphanum :=
    fun w hw d hd => isAlphanum_of_mem_words hname hw hd
  rcases hstyle with rfl | rfl
  · rw [camel_eq, List.mem_append] at h
    cases hlist : words name with
    | nil => simp [hlist] at h
    | cons word more =>
      rw [hlist, List.forall_mem_cons] at hwords
      rw [hlist] at h
      rcases h with h | h
      · exact hwords.1 c h
      · exact isAlphanum_of_mem_flatMap_capitalize hwords.2 h
  · exact isAlphanum_of_mem_flatMap_capitalize hwords h

/-- Every style leaves characters that names may hold. -/
theorem isNameChar_of_mem_convert (style : Style) (hname : ∀ d ∈ name, isNameChar d)
    (h : c ∈ style.convert name) : isNameChar c := by
  cases style with
  | snake => exact isNameChar_of_mem_snakeCase hname h
  | screaming =>
    obtain ⟨d, hd, rfl⟩ := List.mem_map.mp h
    exact isNameChar_toUpper (isNameChar_of_mem_snakeCase hname hd)
  | pascal => exact isNameChar_of_isAlphanum (isAlphanum_of_mem_convert (.inr rfl) hname h)
  | camel => exact isNameChar_of_isAlphanum (isAlphanum_of_mem_convert (.inl rfl) hname h)

/-- Every style leaves a letter or a digit in front. -/
theorem isAlphanum_of_convert_eq_cons (style : Style) (hname : ∀ d ∈ name, isNameChar d)
    {rest : List Char} (h : style.convert name = c :: rest) : c.isAlphanum := by
  have hsnake : ∀ d more, snakeCase name = d :: more → d.isAlphanum := by
    intro d more hd
    have hmem : d ∈ snakeCase name := by simp [hd]
    have hhead : isUnderscore d = false := head_trim hd
    exact isAlphanum_of_isNameChar (isNameChar_of_mem_snakeCase hname hmem)
      (by simpa [isUnderscore] using hhead)
  have hmem : c ∈ style.convert name := by simp [h]
  cases style with
  | snake => exact hsnake c rest h
  | screaming =>
    obtain ⟨d, more, hd, rfl, _⟩ := List.map_eq_cons_iff.mp h
    rw [isAlphanum_toUpper]
    exact hsnake d more hd
  | pascal => exact isAlphanum_of_mem_convert (.inr rfl) hname hmem
  | camel => exact isAlphanum_of_mem_convert (.inl rfl) hname hmem

/-! ## Names -/

/-- A letter, and after it letters, digits and underscores. -/
def IsLetterLed (name : String) : Prop :=
  ∃ c cs, name.toList = c :: cs ∧ c.isAlpha ∧ ∀ d ∈ cs, isNameChar d

theorem IsLetterLed.append {s t : String} (h : IsLetterLed s) (ht : ∀ c ∈ t.toList, isNameChar c) :
    IsLetterLed (s ++ t) := by
  obtain ⟨c, cs, heq, hc, hcs⟩ := h
  refine ⟨c, cs ++ t.toList, by simp [heq], hc, ?_⟩
  intro d hd
  rcases List.mem_append.mp hd with hd | hd
  · exact hcs d hd
  · exact ht d hd

theorem IsLetterLed.numbered {base : String} (h : IsLetterLed base) (k : Nat) :
    IsLetterLed (numbered base k) := by
  refine h.append fun c hc => ?_
  rw [Nat.toString_eq_repr, Nat.toList_repr] at hc
  have hdigit : c.isDigit := Nat.isDigit_of_mem_toDigits (by decide) (by decide) hc
  exact isNameChar_of_isAlphanum (by simp [Char.isAlphanum, hdigit])

/-- The name of a key in a style is led by a letter, if that is what is put before digits. -/
theorem isLetterLed_styled {a : Allocator} (ha : IsLetterLed a.digitLead) (key : String)
    (style : Style) : IsLetterLed (a.styled key style) := by
  have hclean : ∀ d ∈ clean key.toList, isNameChar d := fun d hd => isNameChar_of_mem_clean hd
  unfold Allocator.styled
  cases hconv : style.convert (clean key.toList) with
  | nil => exact ⟨'k', ['e', 'y'], by simp, by decide, List.all_eq_true.mp (by decide)⟩
  | cons c cs =>
    have hchars : ∀ d ∈ c :: cs, isNameChar d := fun d hd =>
      isNameChar_of_mem_convert style hclean (hconv ▸ hd)
    have hhead : c.isAlphanum := isAlphanum_of_convert_eq_cons style hclean hconv
    simp only [List.isEmpty_cons, Bool.false_eq_true, if_false, List.head?_cons, Option.any_some]
    by_cases hdigit : c.isDigit
    · rw [if_pos hdigit]
      exact ha.append fun d hd => hchars d (by simpa using hd)
    · rw [if_neg hdigit]
      refine ⟨c, cs, by simp, ?_, fun d hd => hchars d (List.mem_cons_of_mem _ hd)⟩
      simpa [Char.isAlphanum, hdigit] using hhead

end Naming

end Phrasebook
