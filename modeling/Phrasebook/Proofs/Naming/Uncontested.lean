-- SUMMARY: Requests whose base names nobody else wants are answered by them, in any order.
import Mathlib.Data.List.Basic
import Mathlib.Tactic.Common
import Phrasebook.Proofs.Naming.Memory

/-!
# Uncontested names

What a request is answered depends on all names in use before it. Where the base
names of some requests are distinct and none of them is in use, what the first
of them takes is none that a later one wants: the requests that are left are as
uncontested as before. So every one gets its base name, whatever the order.
-/

namespace Phrasebook.Naming.Allocator

variable {a : Allocator} {r : Request} {rs rs' : List Request}

/-- Requests that are new to the allocator, and whose base names are free and distinct. -/
structure Uncontested (a : Allocator) (rs : List Request) : Prop where
  labels_nodup : (rs.map Request.label).Nodup
  bases_nodup : (rs.map a.baseName).Nodup
  not_given : ∀ r ∈ rs, a.given? r = none
  not_used : ∀ r ∈ rs, a.baseName r ∉ a.used

theorem Uncontested.perm (h : a.Uncontested rs) (hperm : rs'.Perm rs) : a.Uncontested rs' where
  labels_nodup := (hperm.map _).nodup_iff.mpr h.labels_nodup
  bases_nodup := (hperm.map _).nodup_iff.mpr h.bases_nodup
  not_given r hr := h.not_given r (hperm.mem_iff.mp hr)
  not_used r hr := h.not_used r (hperm.mem_iff.mp hr)

/-- The first request takes its base name. -/
theorem Uncontested.allocate_eq (h : a.Uncontested (r :: rs)) :
    a.allocate r = (a.baseName r,
      { a with given := (r.label, a.baseName r) :: a.given, used := a.baseName r :: a.used }) := by
  rw [allocate_of_not_given (h.not_given r List.mem_cons_self),
    free_of_not_mem (h.not_used r List.mem_cons_self)]

theorem baseName_allocate (a : Allocator) (r : Request) :
    (a.allocate r).2.baseName = a.baseName :=
  funext fun s => (sameRules_allocate a r).baseName_eq s

/-- The others are uncontested after it. -/
theorem Uncontested.allocate (h : a.Uncontested (r :: rs)) : (a.allocate r).2.Uncontested rs := by
  have hlabels := List.nodup_cons.mp h.labels_nodup
  have hbases := List.nodup_cons.mp h.bases_nodup
  refine ⟨hlabels.2, by rw [baseName_allocate]; exact hbases.2, ?_, ?_⟩
  · intro s hs
    have hne : (s.label == r.label) = false :=
      beq_eq_false_iff_ne.mpr fun heq => hlabels.1 (heq ▸ List.mem_map_of_mem hs)
    rw [h.allocate_eq, given?, List.lookup_cons, hne]
    exact h.not_given s (List.mem_cons_of_mem r hs)
  · intro s hs
    have hne : a.baseName s ≠ a.baseName r := fun heq => hbases.1 (heq ▸ List.mem_map_of_mem hs)
    rw [baseName_allocate, h.allocate_eq, List.mem_cons, not_or]
    exact ⟨hne, h.not_used s (List.mem_cons_of_mem r hs)⟩

/-- Uncontested requests are answered by their base names. -/
theorem Uncontested.run_eq (h : a.Uncontested rs) :
    (a.run (rs.map .allocate)).1 = rs.map fun r => some (a.baseName r) := by
  induction rs generalizing a with
  | nil => rfl
  | cons r rs ih =>
    have hrest := ih h.allocate
    rw [baseName_allocate] at hrest
    have hfirst : (a.allocate r).1 = a.baseName r := by rw [h.allocate_eq]
    simp only [List.map_cons, run, step, hrest, hfirst]

/-- Keys are uncontested in one style if their base names are distinct, and they are not remembered
nor are their base names in use. -/
theorem uncontested_of_keys {style : Style} {suffix : String} {keys : List String}
    (hbases : (keys.map fun key => a.baseName { key, style, suffix }).Nodup)
    (hgiven : ∀ key ∈ keys, a.given? { key, style, suffix } = none)
    (hused : ∀ key ∈ keys, a.baseName { key, style, suffix } ∉ a.used) :
    a.Uncontested (keys.map fun key => { key, style, suffix }) := by
  refine ⟨?_, by rwa [List.map_map], ?_, ?_⟩
  · have hkeys : keys.Nodup := List.Nodup.of_map _ hbases
    rw [List.map_map]
    refine hkeys.map fun key key' heq => ?_
    have hlabels : Request.label { key, style, suffix } =
        Request.label { key := key', style, suffix } ↔ key = key' := Request.label_eq_iff rfl rfl
    exact hlabels.mp heq
  · intro r hr
    obtain ⟨key, hkey, rfl⟩ := List.mem_map.mp hr
    exact hgiven key hkey
  · intro r hr
    obtain ⟨key, hkey, rfl⟩ := List.mem_map.mp hr
    exact hused key hkey

end Phrasebook.Naming.Allocator
