-- SUMMARY: Which names begin with a capital and have lower case after it: those of one style alone.
import Mathlib.Data.List.Basic
import Mathlib.Tactic.Common
import Phrasebook.Proofs.Naming.NameShape

/-!
# Capitals

Types are named by a capital with lower case after it. Of the four styles only
one writes keys so: two put everything before the first capital in lower case,
and one writes capitals only.
-/

namespace Phrasebook.Naming

variable {c : Char} {name tail : List Char} {style : Style} {key : String}

/-- A capital, and lower case somewhere after it. -/
def IsMixed (name : String) : Prop :=
  ∃ c cs, name.toList = c :: cs ∧ c.isUpper ∧ ∃ d ∈ cs, d.isLower

theorem isMixed_iff {name : String} : IsMixed name ↔
    name.toList.head?.any Char.isUpper ∧ name.toList.tail.any Char.isLower := by
  unfold IsMixed
  cases name.toList <;> simp

instance (name : String) : Decidable (IsMixed name) :=
  decidable_of_iff _ isMixed_iff.symm

theorem not_isUpper_of_mem_snakeCase (h : c ∈ snakeCase name) : c.isUpper = false := by
  obtain ⟨d, -, rfl⟩ := List.mem_map.mp (mem_of_mem_squeeze ((Text.trim_sublist _ _).subset h))
  exact Char.isUpper_toLower_eq_false d

theorem not_isUpper_of_mem_words {word : List Char} (hword : word ∈ words name) (h : c ∈ word) :
    c.isUpper = false :=
  not_isUpper_of_mem_snakeCase (Text.mem_of_mem_split (List.mem_filter.mp hword).1 h).1

/-- But for one style, a name in a style begins with no capital or has no lower case. -/
theorem not_isUpper_or_not_isLower (hstyle : style ≠ .pascal)
    (h : style.convert name = c :: tail) : c.isUpper = false ∨ ∀ d ∈ tail, d.isLower = false := by
  cases style with
  | pascal => exact absurd rfl hstyle
  | snake =>
    have hmem : c ∈ Style.snake.convert name := by simp [h]
    exact .inl (not_isUpper_of_mem_snakeCase hmem)
  | screaming =>
    refine .inr fun d hd => ?_
    have hmem : d ∈ Style.screaming.convert name := by simp [h, hd]
    obtain ⟨e, -, rfl⟩ := List.mem_map.mp hmem
    exact Char.isLower_toUpper_eq_false e
  | camel =>
    rw [Style.convert] at h
    split at h
    · cases h
    · rename_i word more hwords
      have hword : word ∈ words name := hwords ▸ List.mem_cons_self
      cases word with
      | nil => exact absurd rfl (words_ne_nil hword)
      | cons d rest =>
        cases h
        exact .inl (not_isUpper_of_mem_words hword List.mem_cons_self)

/-- A key is named by what its style makes of it, with a letter before digits; else it is `key`. -/
theorem toList_styled {a : Allocator} (hlead : a.digitLead = "n") (key : String) (style : Style) :
    (a.styled key style).toList = ['k', 'e', 'y'] ∨
      (a.styled key style).toList = style.convert (clean key.toList) ∨
      (a.styled key style).toList = 'n' :: style.convert (clean key.toList) := by
  unfold Allocator.styled
  rw [hlead]
  generalize style.convert (clean key.toList) = converted
  cases converted with
  | nil => exact .inl rfl
  | cons c cs =>
    simp only [List.isEmpty_cons, Bool.false_eq_true, if_false]
    split
    · exact .inr (.inr (by simp))
    · exact .inr (.inl (by simp))

/-- In any other style than that one, no key has a mixed name. -/
theorem not_isMixed_styled {a : Allocator} (hlead : a.digitLead = "n") (hstyle : style ≠ .pascal)
    (key : String) : ¬ IsMixed (a.styled key style) := by
  rintro ⟨c, cs, heq, hc, d, hd, hlower⟩
  rcases toList_styled hlead key style with hkey | hconverted | hdigit
  · rw [hkey] at heq
    cases heq
    revert hc
    decide
  · rcases not_isUpper_or_not_isLower hstyle (hconverted.symm.trans heq) with hnot | hnot
    · rw [hnot] at hc
      cases hc
    · rw [hnot d hd] at hlower
      cases hlower
  · rw [hdigit] at heq
    cases heq
    revert hc
    decide

theorem not_isLower_of_tail (h : c = '_' ∨ c.isDigit) : ¬ c.isLower := by
  rcases h with rfl | hdigit
  · decide
  · simp [Char.isDigit, Char.isLower, UInt32.le_iff_toNat_le] at hdigit ⊢
    omega

/-- Nor does it become one by underscores and digits behind it. -/
theorem isMixed_of_append {base tail : String} (hbase : base ≠ "")
    (htail : ∀ c ∈ tail.toList, c = '_' ∨ c.isDigit) (h : IsMixed (base ++ tail)) :
    IsMixed base := by
  obtain ⟨c, cs, heq, hc, d, hd, hlower⟩ := h
  rw [String.toList_append] at heq
  cases hlist : base.toList with
  | nil => exact absurd (String.toList_eq_nil_iff.mp hlist) hbase
  | cons b bs =>
    rw [hlist, List.cons_append, List.cons.injEq] at heq
    obtain ⟨rfl, rfl⟩ := heq
    refine ⟨b, bs, hlist, hc, d, ?_, hlower⟩
    rcases List.mem_append.mp hd with hd | hd
    · exact hd
    · exact absurd hlower (not_isLower_of_tail (htail d hd))

end Phrasebook.Naming
