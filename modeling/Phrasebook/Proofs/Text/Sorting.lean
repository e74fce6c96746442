-- SUMMARY: Sorting by a text is stable, distinct texts have one order, and dropping repetitions.
import Mathlib.Data.List.Nodup
import Phrasebook.Text.Order

/-!
# Sorting

Sorting by a text loses nothing and keeps the order of elements that have the
same text. Where the texts are distinct, the sorted list does not depend on the
order before. Dropping repetitions keeps the first of each.
-/

namespace Phrasebook.Text

variable {α : Type}

/-! ## The order of texts -/

theorem atMost_refl (cs : List Char) : atMost cs cs := by
  simpa using atMost_total cs cs

theorem atMost_antisymm {cs ds : List Char} (h : atMost cs ds) (h' : atMost ds cs) : cs = ds := by
  induction cs generalizing ds with
  | nil =>
    cases ds with
    | nil => rfl
    | cons d ds => cases h'
  | cons c cs ih =>
    cases ds with
    | nil => cases h
    | cons d ds =>
      simp only [atMost, Bool.or_eq_true, decide_eq_true_eq, Bool.and_eq_true, beq_iff_eq] at h h'
      have hfirst : c.toNat = d.toNat := by omega
      have hrest : cs = ds := ih (h.resolve_left (by omega)).2 (h'.resolve_left (by omega)).2
      rw [Char.toNat_inj.mp hfirst, hrest]

/-! ## Sorting by a text -/

section SortBy

variable {text : α → String} {items items' : List α}

/-- The order in which elements are sorted. -/
def Before (text : α → String) (a b : α) : Prop :=
  atMost (text a).toList (text b).toList

theorem before_trans (text : α → String) (a b c : α) (hab : Before text a b)
    (hbc : Before text b c) : Before text a c :=
  atMost_trans _ _ _ hab hbc

theorem before_total (text : α → String) (a b : α) :
    atMost (text a).toList (text b).toList || atMost (text b).toList (text a).toList :=
  atMost_total _ _

theorem sortBy_perm (text : α → String) (items : List α) : (sortBy text items).Perm items :=
  List.mergeSort_perm _ _

theorem pairwise_sortBy (text : α → String) (items : List α) :
    (sortBy text items).Pairwise (Before text) :=
  List.pairwise_mergeSort (before_trans text) (before_total text) items

/-- Elements with the same text stay in their order. -/
theorem filter_sortBy (text : α → String) (items : List α) (t : String) :
    (sortBy text items).filter (text · == t) = items.filter (text · == t) := by
  have hsorted : (items.filter (text · == t)).Pairwise (Before text) := by
    refine List.Pairwise.imp_of_mem ?_ (List.pairwise_of_forall fun _ _ => trivial)
    intro a b ha hb _
    have hsame : text a = text b := by
      rw [beq_iff_eq.mp (List.mem_filter.mp ha).2, beq_iff_eq.mp (List.mem_filter.mp hb).2]
    rw [Before, hsame]
    exact atMost_refl _
  have hsublist : (items.filter (text · == t)).Sublist (sortBy text items) :=
    List.sublist_mergeSort (before_trans text) (before_total text) hsorted List.filter_sublist
  have hfilter := hsublist.filter (text · == t)
  rw [List.filter_filter, List.filter_congr (fun a _ => Bool.and_self _)] at hfilter
  exact (hfilter.eq_of_length ((sortBy_perm text items).filter _).length_eq.symm).symm

/-- The items in the order of a text of theirs, those with the same text in the order they had. -/
structure SortedBy (text : α → String) (items sorted : List α) : Prop where
  perm : sorted.Perm items
  ordered : sorted.Pairwise (Before text)
  stable : ∀ t, sorted.filter (text · == t) = items.filter (text · == t)

theorem sortedBy_sortBy (text : α → String) (items : List α) :
    SortedBy text items (sortBy text items) :=
  ⟨sortBy_perm text items, pairwise_sortBy text items, filter_sortBy text items⟩

/-- Elements with distinct texts have one sorted order. -/
theorem sortBy_eq_of_perm (h : items.Perm items') (hnodup : (items.map text).Nodup) :
    sortBy text items = sortBy text items' := by
  have hperm : (sortBy text items).Perm (sortBy text items') :=
    (sortBy_perm text items).trans (h.trans (sortBy_perm text items').symm)
  refine hperm.eq_of_pairwise ?_ (pairwise_sortBy text items) (pairwise_sortBy text items')
  intro a b ha hb hab hba
  have ha : a ∈ items := (sortBy_perm text items).mem_iff.mp ha
  have hb : b ∈ items := h.mem_iff.mpr ((sortBy_perm text items').mem_iff.mp hb)
  exact List.inj_on_of_nodup_map hnodup ha hb (String.toList_inj.mp (atMost_antisymm hab hba))

end SortBy

/-! ## Dropping repetitions -/

section Distinct

variable [BEq α] [LawfulBEq α]

theorem mem_distinct {a : α} {items : List α} : a ∈ distinct items ↔ a ∈ items := by
  induction items with
  | nil => simp [distinct]
  | cons b items ih =>
    rw [distinct, List.mem_cons, List.mem_cons, List.mem_filter, ih]
    by_cases hab : a = b
    · simp [hab]
    · simp [hab]

theorem nodup_distinct (items : List α) : (distinct items).Nodup := by
  induction items with
  | nil => simp [distinct]
  | cons a items ih =>
    rw [distinct, List.nodup_cons]
    exact ⟨by simp, ih.filter _⟩

theorem distinct_filter (p : α → Bool) (items : List α) :
    distinct (items.filter p) = (distinct items).filter p := by
  induction items with
  | nil => rfl
  | cons a items ih =>
    by_cases ha : p a
    · rw [List.filter_cons_of_pos ha, distinct, distinct, List.filter_cons_of_pos ha, ih,
        List.filter_filter, List.filter_filter]
      simp only [Bool.and_comm]
    · rw [List.filter_cons_of_neg ha, distinct, List.filter_cons_of_neg ha, ih, List.filter_filter]
      refine List.filter_congr fun b _ => ?_
      -- whatever passes the test is not the element that does not
      cases hb : p b with
      | false => rfl
      | true =>
        have hne : b ≠ a := by
          rintro rfl
          exact ha hb
        simp [hne]

/-- What is left stands in the order in which it came first. -/
theorem pairwise_idxOf_distinct (items : List α) :
    (distinct items).Pairwise fun a b => items.idxOf a < items.idxOf b := by
  induction items with
  | nil => exact .nil
  | cons c items ih =>
    have hne : ∀ {a}, a ∈ (distinct items).filter (!· == c) → c ≠ a := by
      rintro a ha rfl
      simp at ha
    rw [distinct, List.pairwise_cons]
    constructor
    · intro a ha
      rw [List.idxOf_cons_self, List.idxOf_cons_ne items (hne ha)]
      exact Nat.succ_pos _
    · refine (ih.filter _).imp_of_mem fun {a b} ha hb hlt => ?_
      rw [List.idxOf_cons_ne items (hne ha), List.idxOf_cons_ne items (hne hb)]
      exact Nat.succ_lt_succ hlt

end Distinct

end Phrasebook.Text
