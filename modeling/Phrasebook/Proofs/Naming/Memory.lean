-- SUMMARY: What an allocator remembers: it only grows, and no two requests share a name.
import Mathlib.Data.List.Basic
import Mathlib.Tactic.Common
import Phrasebook.Proofs.Naming.FreeNames

/-!
# The memory of an allocator

Two invariants carry what is said of runs. As long as an allocator is not reset
it *grows*: a request that was given a name keeps it. And it is *sound*: every
name that it gave is in use, and no two labels share one. The answers of a run
of requests are then what the allocator remembers at its end, and requests with
different labels have different answers.
-/

namespace Phrasebook.Naming

/-! ## Labels -/

/-- Requests in one style and with one suffix are told apart by their keys. -/
theorem Request.label_eq_iff {r s : Request} (hstyle : r.style = s.style)
    (hsuffix : r.suffix = s.suffix) : r.label = s.label ↔ r.key = s.key := by
  constructor
  · intro h
    have hlist := congrArg String.toList h
    simp only [label, hstyle, hsuffix, String.toList_append, List.append_left_inj] at hlist
    exact String.toList_inj.mp hlist
  · intro h
    simp only [label, hstyle, hsuffix, h]

namespace Allocator

variable {a b c : Allocator} {r s : Request} {name : String}

/-! ## One request -/

theorem allocate_of_given (h : a.given? r = some name) : a.allocate r = (name, a) := by
  simp [allocate, h]

theorem allocate_of_not_given (h : a.given? r = none) :
    a.allocate r = (free a.used (a.baseName r),
      { a with
        given := (r.label, free a.used (a.baseName r)) :: a.given
        used := free a.used (a.baseName r) :: a.used }) := by
  simp [allocate, h]

/-- A request is remembered with the name it was given. -/
theorem given?_allocate_self (a : Allocator) (r : Request) :
    (a.allocate r).2.given? r = some (a.allocate r).1 := by
  cases h : a.given? r with
  | none => simp [allocate_of_not_given h, given?]
  | some name => simpa [allocate_of_given h] using h

theorem mem_given_of_given? (h : a.given? r = some name) : (r.label, name) ∈ a.given := by
  obtain ⟨before, after, heq, _⟩ := List.lookup_eq_some_iff.mp h
  simp [heq]

/-! ## Rules -/

/-- Two allocators that name keys by the same rules. -/
structure SameRules (a b : Allocator) : Prop where
  reserved : b.reserved = a.reserved
  builtins : b.builtins = a.builtins
  digitLead : b.digitLead = a.digitLead

theorem SameRules.refl (a : Allocator) : a.SameRules a :=
  ⟨rfl, rfl, rfl⟩

theorem SameRules.trans (h : a.SameRules b) (h' : b.SameRules c) : a.SameRules c :=
  ⟨h'.reserved.trans h.reserved, h'.builtins.trans h.builtins, h'.digitLead.trans h.digitLead⟩

theorem SameRules.baseName_eq (h : a.SameRules b) (r : Request) : b.baseName r = a.baseName r := by
  simp [baseName, styled, h.reserved, h.builtins, h.digitLead]

theorem sameRules_allocate (a : Allocator) (r : Request) : a.SameRules (a.allocate r).2 := by
  cases h : a.given? r with
  | none =>
    rw [allocate_of_not_given h]
    exact ⟨rfl, rfl, rfl⟩
  | some name =>
    rw [allocate_of_given h]
    exact .refl a

theorem sameRules_step (a : Allocator) (s : Step) : a.SameRules (a.step s).2 := by
  cases s with
  | allocate r => exact sameRules_allocate a r
  | claim name => exact ⟨rfl, rfl, rfl⟩
  | reset => exact ⟨rfl, rfl, rfl⟩

/-! ## Growth -/

/-- Everything that `a` gave or took out of circulation is so in `b`. -/
structure Grows (a b : Allocator) : Prop where
  given : ∀ r name, a.given? r = some name → b.given? r = some name
  used : a.used ⊆ b.used

theorem Grows.refl (a : Allocator) : a.Grows a :=
  ⟨fun _ _ h => h, List.Subset.refl _⟩

theorem Grows.trans (h : a.Grows b) (h' : b.Grows c) : a.Grows c :=
  ⟨fun r name hname => h'.given r name (h.given r name hname), List.Subset.trans h.used h'.used⟩

theorem grows_allocate (a : Allocator) (r : Request) : a.Grows (a.allocate r).2 := by
  cases h : a.given? r with
  | none =>
    rw [allocate_of_not_given h]
    refine ⟨?_, List.subset_cons_self _ _⟩
    intro s name hname
    -- the new label is not that of `s`, which has a name already
    have hne : (s.label == r.label) = false := by
      rw [beq_eq_false_iff_ne]
      intro heq
      rw [given?, heq, ← given?, h] at hname
      cases hname
    simpa [given?, List.lookup_cons, hne] using hname
  | some name =>
    rw [allocate_of_given h]
    exact .refl a

theorem grows_claim (a : Allocator) (name : String) : a.Grows (a.claim name) :=
  ⟨fun _ _ h => h, List.subset_cons_self _ _⟩

theorem grows_step (a : Allocator) {s : Step} (h : s ≠ .reset) : a.Grows (a.step s).2 := by
  cases s with
  | allocate r => exact grows_allocate a r
  | claim name => exact grows_claim a name
  | reset => exact absurd rfl h

theorem grows_run (a : Allocator) {steps : List Step} (h : Step.reset ∉ steps) :
    a.Grows (a.run steps).2 := by
  induction steps generalizing a with
  | nil => exact .refl a
  | cons s steps ih =>
    rw [List.mem_cons, not_or] at h
    exact (grows_step a (Ne.symm h.1)).trans (ih _ h.2)

/-! ## Soundness -/

/-- Every name that was given is in use, and was given under one label only. -/
structure Sound (a : Allocator) : Prop where
  used_of_given : ∀ g ∈ a.given, g.2 ∈ a.used
  names_nodup : (a.given.map Prod.snd).Nodup

/-- Requests that were given one name have one label. -/
theorem Sound.label_eq (h : a.Sound) (hr : a.given? r = some name) (hs : a.given? s = some name) :
    r.label = s.label := by
  have hpairs := List.inj_on_of_nodup_map h.names_nodup (mem_given_of_given? hr)
    (mem_given_of_given? hs) rfl
  exact congrArg Prod.fst hpairs

theorem sound_of_given_nil (h : a.given = []) : a.Sound := by
  constructor <;> simp [h]

theorem Sound.allocate (ha : a.Sound) (r : Request) : (a.allocate r).2.Sound := by
  cases h : a.given? r with
  | none =>
    rw [allocate_of_not_given h]
    have hfresh := free_not_mem a.used (a.baseName r)
    refine ⟨?_, ?_⟩
    · intro g hg
      rcases List.mem_cons.mp hg with rfl | hg
      · exact List.mem_cons_self
      · exact List.mem_cons_of_mem _ (ha.used_of_given g hg)
    · refine List.nodup_cons.mpr ⟨?_, ha.names_nodup⟩
      intro hmem
      obtain ⟨g, hg, hname⟩ := List.mem_map.mp hmem
      have hused := ha.used_of_given g hg
      rw [hname] at hused
      exact hfresh hused
  | some name =>
    rw [allocate_of_given h]
    exact ha

theorem Sound.claim (ha : a.Sound) (name : String) : (a.claim name).Sound :=
  ⟨fun g hg => List.mem_cons_of_mem _ (ha.used_of_given g hg), ha.names_nodup⟩

theorem Sound.step (ha : a.Sound) (s : Step) : (a.step s).2.Sound := by
  cases s with
  | allocate r => exact ha.allocate r
  | claim name => exact ha.claim name
  | reset => exact sound_of_given_nil rfl

theorem Sound.run (ha : a.Sound) (steps : List Step) : (a.run steps).2.Sound := by
  induction steps generalizing a with
  | nil => exact ha
  | cons s steps ih => exact ih (ha.step s)

/-! ## Answers -/

/-- The answers to requests are what the allocator remembers of them in the end. -/
theorem run_requests (a : Allocator) (rs : List Request) :
    (a.run (rs.map .allocate)).1 = rs.map (a.run (rs.map .allocate)).2.given? := by
  induction rs generalizing a with
  | nil => rfl
  | cons r rs ih =>
    have hreset : Step.reset ∉ rs.map Step.allocate := by simp
    have hkept := (grows_run (a.allocate r).2 hreset).given r _ (given?_allocate_self a r)
    simp only [List.map_cons, run, step, hkept]
    rw [ih (a.allocate r).2]

/-- Every request of a run is answered by a name. -/
theorem exists_names_run (a : Allocator) (rs : List Request) :
    ∃ names : List String, (a.run (rs.map .allocate)).1 = names.map some := by
  induction rs generalizing a with
  | nil => exact ⟨[], rfl⟩
  | cons r rs ih =>
    obtain ⟨names, hnames⟩ := ih (a.allocate r).2
    refine ⟨(a.allocate r).1 :: names, ?_⟩
    simp only [List.map_cons, run, step, hnames]

/-- Every request of a run is remembered. -/
theorem exists_given?_run (a : Allocator) {rs : List Request} (h : r ∈ rs) :
    ∃ name, (a.run (rs.map .allocate)).2.given? r = some name := by
  induction rs generalizing a with
  | nil => cases h
  | cons s rs ih =>
    rcases List.mem_cons.mp h with rfl | h
    · have hreset : Step.reset ∉ rs.map Step.allocate := by simp
      exact ⟨_, (grows_run (a.allocate r).2 hreset).given r _ (given?_allocate_self a r)⟩
    · exact ih (a.allocate s).2 h

/-- Requests with different labels have different answers. -/
theorem run_requests_nodup (ha : a.Sound) {rs : List Request} (h : (rs.map Request.label).Nodup) :
    (a.run (rs.map .allocate)).1.Nodup := by
  have hsound : (a.run (rs.map .allocate)).2.Sound := ha.run _
  rw [run_requests]
  refine (List.Nodup.of_map _ h).map_on ?_
  intro r hr s hs heq
  obtain ⟨name, hname⟩ := exists_given?_run a hr
  have hlabel := hsound.label_eq hname (heq ▸ hname)
  exact List.inj_on_of_nodup_map h hr hs hlabel

/-- A property of every name that the requests of a run can be given is one of every name that is
remembered after it, if it is one of every name remembered before. -/
theorem forall_given_run {P : String → Prop} (a : Allocator) (steps : List Step)
    (hgiven : ∀ g ∈ a.given, P g.2)
    (hfree : ∀ used r, .allocate r ∈ steps → P (free used (a.baseName r))) :
    ∀ g ∈ (a.run steps).2.given, P g.2 := by
  induction steps generalizing a with
  | nil => exact hgiven
  | cons s steps ih =>
    refine ih (a.step s).2 ?_ ?_
    · cases s with
      | allocate r =>
        cases h : a.given? r with
        | none =>
          simp only [step, allocate_of_not_given h]
          intro g hg
          rcases List.mem_cons.mp hg with rfl | hg
          · exact hfree a.used r List.mem_cons_self
          · exact hgiven g hg
        | some name => simpa only [step, allocate_of_given h] using hgiven
      | claim name => exact hgiven
      | reset => simp [step, reset]
    · intro used r hr
      rw [(sameRules_step a s).baseName_eq]
      exact hfree used r (List.mem_cons_of_mem _ hr)

end Allocator

end Phrasebook.Naming
