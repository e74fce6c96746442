-- SUMMARY: The loop that looks for a free name: it ends, soon, and with the least number that is free.
import Mathlib.Data.List.Basic
import Mathlib.Order.Bounds.Basic
import Mathlib.Tactic.Common
import Phrasebook.Proofs.Naming.FreeNames

/-!
# The search for a name

`free` tries no more numbers than there are names in use. Here the search is said
without such a limit, as a loop that goes on for as long as its name is in use,
with the number of names that it tests. A run that ends is the only one from its
start; and every run ends, since each number that it passes over is a name in use
and no two of them are the same name.
-/

namespace Phrasebook.Naming

variable {used : List String} {base name answer answer' : String} {k tests tests' : ℕ}

/-! ## The loop -/

/-- The loop from a name, with the number that comes next. A name that is not in use is the answer,
and one that is gives way to the base with the number. So many names are tested. -/
inductive Search (used : List String) (base : String) : String → ℕ → ℕ → String → Prop
  | found {name : String} {k : ℕ} (h : name ∉ used) : Search used base name k 1 name
  | taken {name : String} {k tests : ℕ} {answer : String} (h : name ∈ used)
      (rest : Search used base (numbered base k) (k + 1) tests answer) :
      Search used base name k (tests + 1) answer

/-- There is one run of the loop at most. -/
theorem Search.unique (h : Search used base name k tests answer)
    (h' : Search used base name k tests' answer') : tests' = tests ∧ answer' = answer := by
  induction h generalizing tests' with
  | found hfree =>
    cases h' with
    | found => exact ⟨rfl, rfl⟩
    | taken hused => exact absurd hused hfree
  | taken hused _ ih =>
    cases h' with
    | found hfree => exact absurd hused hfree
    | taken _ rest' =>
      obtain ⟨rfl, rfl⟩ := ih rest'
      exact ⟨rfl, rfl⟩

/-- From a numbered name on, the loop passes over the numbers that are taken. -/
theorem search_numbered {d : ℕ} (hfree : numbered base (k + d) ∉ used)
    (htaken : ∀ m, k ≤ m → m < k + d → numbered base m ∈ used) :
    Search used base (numbered base k) (k + 1) (d + 1) (numbered base (k + d)) := by
  induction d generalizing k with
  | zero => exact .found hfree
  | succ d ih =>
    have hshift : k + (d + 1) = k + 1 + d := by omega
    rw [hshift] at hfree htaken ⊢
    refine .taken (htaken k le_rfl (by omega)) ?_
    exact ih hfree fun m hm hlt => htaken m (by omega) hlt

/-- The loop ends with the name that `free` finds, after one test more than there are names in use
at the latest. -/
theorem exists_search (used : List String) (base : String) :
    ∃ tests ≤ used.toFinset.card + 1, Search used base base 1 tests (free used base) := by
  by_cases h : base ∈ used
  · obtain ⟨k, hk, hle, heq, hfree, htaken⟩ := free_of_mem h
    obtain ⟨d, rfl⟩ : ∃ d, k = 1 + d := ⟨k - 1, by omega⟩
    rw [heq]
    exact ⟨d + 1 + 1, by omega, .taken h (search_numbered hfree htaken)⟩
  · rw [free_of_not_mem h]
    exact ⟨1, by omega, .found h⟩

/-! ## Names that are asked for -/

namespace Allocator

/-- The name that is given where `name` is wanted. It takes the suffix if it is reserved, and a
number if that is in use. -/
def resolve (a : Allocator) (name suffix : String) : String :=
  free a.used (if a.reserved.contains name || a.builtins.contains name then name ++ suffix else name)

/-- A request that is not remembered is answered by what its styled key resolves to. -/
theorem allocate_fst (a : Allocator) (r : Request) :
    (a.allocate r).1 = (a.given? r).getD (a.resolve (a.styled r.key r.style) r.suffix) := by
  unfold allocate
  cases a.given? r <;> rfl

/-- How every name is resolved that a request can want, or anybody else. The loop has one run from
the base, which is short, and answers with the base if that is free, else with the base and the
least number that frees it. -/
theorem resolve_least_free (a : Allocator) :
    (∀ r, (a.allocate r).1 = (a.given? r).getD (a.resolve (a.styled r.key r.style) r.suffix)) ∧
    ∀ name suffix : String,
      let base := if name ∈ a.reserved ∨ name ∈ a.builtins then name ++ suffix else name
      (∃ tests ≤ a.used.toFinset.card + 1, ∀ n answer,
        Search a.used base base 1 n answer ↔ n = tests ∧ answer = a.resolve name suffix) ∧
      (base ∉ a.used ∧ a.resolve name suffix = base ∨
        base ∈ a.used ∧ ∃ k, IsLeast {k | 1 ≤ k ∧ base ++ toString k ∉ a.used} k ∧
          a.resolve name suffix = base ++ toString k) := by
  refine ⟨a.allocate_fst, fun name suffix => ?_⟩
  intro base
  have hresolve : a.resolve name suffix = free a.used base := by simp [resolve, base]
  rw [hresolve]
  constructor
  · obtain ⟨tests, hle, hsearch⟩ := exists_search a.used base
    refine ⟨tests, hle, fun n answer => ⟨hsearch.unique, ?_⟩⟩
    rintro ⟨rfl, rfl⟩
    exact hsearch
  · by_cases hused : base ∈ a.used
    · obtain ⟨k, hk, -, heq, hfree, htaken⟩ := free_of_mem hused
      refine .inr ⟨hused, k, ⟨⟨hk, hfree⟩, ?_⟩, heq⟩
      rintro m ⟨hm, hmfree⟩
      by_contra hlt
      exact hmfree (htaken m hm (by omega))
    · exact .inl ⟨hused, free_of_not_mem hused⟩

end Allocator

end Phrasebook.Naming
