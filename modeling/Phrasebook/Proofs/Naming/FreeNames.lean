-- SUMMARY: The number that frees a name in use: it exists, it is small, and it is the least one.
import Mathlib.Data.Finset.Card
import Mathlib.Data.List.Nodup
import Mathlib.Data.Nat.Find
import Mathlib.Tactic.Common
import Phrasebook.Naming.Allocator

/-!
# Free names

A base name that is in use is followed by the least number that makes it a free
name. Numbers make different names of one base, so that a list of names in use
cannot hold the base and as many numbered names as it is long. The search for
the number therefore never ends without one.
-/

namespace Phrasebook.Naming

variable {used : List String} {base : String}

/-! ## Numbered names -/

theorem toList_numbered (base : String) (k : Nat) :
    (numbered base k).toList = base.toList ++ Nat.toDigits 10 k := by
  simp [numbered, Nat.toString_eq_repr]

theorem numbered_injective (base : String) : Function.Injective (numbered base) := by
  intro j k h
  have hdigits : Nat.toDigits 10 j = Nat.toDigits 10 k := by
    have hlist := congrArg String.toList h
    rw [toList_numbered, toList_numbered] at hlist
    exact List.append_cancel_left hlist
  have hvalue := congrArg (Nat.ofDigitChars 10 · 0) hdigits
  simpa using hvalue

theorem numbered_ne_base (base : String) (k : Nat) : numbered base k ≠ base := by
  intro h
  have hlist := congrArg String.toList h
  rw [toList_numbered, List.append_right_eq_self] at hlist
  exact Nat.toDigits_ne_nil hlist

/-- A numbered name ends in a digit. -/
theorem getLast?_numbered (base : String) (k : Nat) :
    ∃ c, (numbered base k).toList.getLast? = some c ∧ c.isDigit := by
  have hne : Nat.toDigits 10 k ≠ [] := Nat.toDigits_ne_nil
  refine ⟨(Nat.toDigits 10 k).getLast hne, ?_, ?_⟩
  · rw [toList_numbered, List.getLast?_append, List.getLast?_eq_some_getLast hne]
    rfl
  · exact Nat.isDigit_of_mem_toDigits (by decide) (by decide) (List.getLast_mem hne)

/-! ## The search -/

/-- A base in use, with every number below `k` in use behind it, is `k` names in use. -/
theorem le_card_of_taken {k : ℕ} (h : base ∈ used)
    (htaken : ∀ m, 1 ≤ m → m < k → numbered base m ∈ used) : k ≤ used.toFinset.card := by
  let taken := base :: (List.range' 1 (k - 1)).map (numbered base)
  have hnodup : taken.Nodup := by
    refine List.nodup_cons.mpr ⟨?_, (List.nodup_range').map (numbered_injective base)⟩
    intro hbase
    obtain ⟨k, _, hk⟩ := List.mem_map.mp hbase
    exact numbered_ne_base base k hk
  have hsub : taken ⊆ used := by
    refine List.cons_subset.mpr ⟨h, ?_⟩
    intro name hname
    obtain ⟨m, hm, rfl⟩ := List.mem_map.mp hname
    have hrange := List.mem_range'_1.mp hm
    exact htaken m hrange.1 (by omega)
  have hcard : taken.toFinset.card ≤ used.toFinset.card := by
    refine Finset.card_le_card fun name hname => ?_
    exact List.mem_toFinset.mpr (hsub (List.mem_toFinset.mp hname))
  rw [List.toFinset_card_of_nodup hnodup] at hcard
  have hlength : taken.length = k - 1 + 1 := by simp [taken]
  omega

/-- A base in use has a number that frees it. -/
theorem exists_numbered_not_mem (h : base ∈ used) : ∃ k, 1 ≤ k ∧ numbered base k ∉ used := by
  by_contra hall
  push Not at hall
  have hle : used.toFinset.card + 1 ≤ used.toFinset.card :=
    le_card_of_taken h fun m hm _ => hall m hm
  omega

/-- The search stops at the first number whose name is not in use. -/
theorem firstFree_eq {tries k n : Nat} (hk : k ≤ n) (hn : n ≤ k + tries)
    (hfree : numbered base n ∉ used) (htaken : ∀ m, k ≤ m → m < n → numbered base m ∈ used) :
    firstFree used base tries k = numbered base n := by
  induction tries generalizing k with
  | zero =>
    have hkn : k = n := by omega
    rw [firstFree, hkn]
  | succ tries ih =>
    rw [firstFree]
    by_cases hmem : numbered base k ∈ used
    · have hne : k ≠ n := by
        rintro rfl
        exact hfree hmem
      rw [if_pos (by simpa using hmem)]
      exact ih (by omega) (by omega) fun m hm => htaken m (by omega)
    · have hkn : k = n := by
        by_contra hne
        exact hmem (htaken k le_rfl (by omega))
      rw [if_neg (by simpa using hmem), hkn]

theorem free_of_not_mem (h : base ∉ used) : free used base = base := by
  rw [free, if_neg (by simpa using h)]

/-- A name in use is followed by the least number that frees it. -/
theorem free_of_mem (h : base ∈ used) :
    ∃ k, 1 ≤ k ∧ k ≤ used.toFinset.card ∧ free used base = numbered base k ∧
      numbered base k ∉ used ∧ ∀ m, 1 ≤ m → m < k → numbered base m ∈ used := by
  have hex := exists_numbered_not_mem h
  classical
  obtain ⟨hpos, hfree⟩ := Nat.find_spec hex
  have htaken : ∀ m, 1 ≤ m → m < Nat.find hex → numbered base m ∈ used := by
    intro m hm hlt
    by_contra hmem
    exact Nat.find_min hex hlt ⟨hm, hmem⟩
  have hle : Nat.find hex ≤ used.toFinset.card := le_card_of_taken h htaken
  refine ⟨Nat.find hex, hpos, hle, ?_, hfree, htaken⟩
  have hlength : used.toFinset.card ≤ used.length := List.toFinset_card_le used
  rw [free, if_pos (by simpa using h)]
  exact firstFree_eq hpos (by omega) hfree htaken

theorem free_not_mem (used : List String) (base : String) : free used base ∉ used := by
  by_cases h : base ∈ used
  · obtain ⟨k, _, _, heq, hfree, _⟩ := free_of_mem h
    rwa [heq]
  · rwa [free_of_not_mem h]

/-- A freed name is the base, or the base with a number from one. -/
theorem free_eq_or (used : List String) (base : String) :
    free used base = base ∨ ∃ k, 1 ≤ k ∧ free used base = numbered base k := by
  by_cases h : base ∈ used
  · obtain ⟨k, hk, _, heq, _⟩ := free_of_mem h
    exact .inr ⟨k, hk, heq⟩
  · exact .inl (free_of_not_mem h)

end Phrasebook.Naming
