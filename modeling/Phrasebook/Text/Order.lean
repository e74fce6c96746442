-- SUMMARY: The order of texts by code point, and sorting by it.

/-!
# Order of texts

Texts are ordered by their first differing character's code point; a text comes
before its extensions. Sorting keeps the order of what compares equal.
-/

namespace Phrasebook.Text

/-- Whether the first text comes before the second one or is equal to it. -/
def atMost : List Char → List Char → Bool
  | [], _ => true
  | _ :: _, [] => false
  | c :: cs, d :: ds => c.toNat < d.toNat || (c.toNat == d.toNat && atMost cs ds)

theorem atMost_total (cs ds : List Char) : atMost cs ds || atMost ds cs := by
  induction cs generalizing ds with
  | nil => simp [atMost]
  | cons c cs ih =>
    cases ds with
    | nil => simp [atMost]
    | cons d ds =>
      have h := ih ds
      simp only [Bool.or_eq_true] at h
      simp only [atMost, Bool.or_eq_true, decide_eq_true_eq, Bool.and_eq_true, beq_iff_eq]
      by_cases hlt : c.toNat < d.toNat
      · exact Or.inl (Or.inl hlt)
      · by_cases heq : c.toNat = d.toNat
        · rcases h with h | h
          · exact Or.inl (Or.inr ⟨heq, h⟩)
          · exact Or.inr (Or.inr ⟨heq.symm, h⟩)
        · exact Or.inr (Or.inl (by omega))

theorem atMost_trans (bs cs ds : List Char) (h₁ : atMost bs cs) (h₂ : atMost cs ds) :
    atMost bs ds := by
  induction bs generalizing cs ds with
  | nil => simp [atMost]
  | cons b bs ih =>
    cases cs with
    | nil => simp [atMost] at h₁
    | cons c cs =>
      cases ds with
      | nil => simp [atMost] at h₂
      | cons d ds =>
        simp only [atMost, Bool.or_eq_true, decide_eq_true_eq, Bool.and_eq_true,
          beq_iff_eq] at h₁ h₂ ⊢
        rcases h₁ with h₁ | ⟨e₁, h₁⟩
        · exact Or.inl (by omega)
        · rcases h₂ with h₂ | ⟨e₂, h₂⟩
          · exact Or.inl (by omega)
          · exact Or.inr ⟨by omega, ih cs ds h₁ h₂⟩

/-- The elements sorted by a text each of them has. -/
def sortBy (text : α → String) (items : List α) : List α :=
  items.mergeSort fun a b => atMost (text a).toList (text b).toList

/-- The strings sorted. -/
def sortStrings (strings : List String) : List String :=
  sortBy id strings

/-- The elements without those that have come before, in order of first appearance. -/
def distinct [BEq α] : List α → List α
  | [] => []
  | a :: rest => a :: (distinct rest).filter (!· == a)

end Phrasebook.Text
