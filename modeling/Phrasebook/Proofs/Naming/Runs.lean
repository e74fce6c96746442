-- SUMMARY: Runs of an allocator: when two answers are one name, and which names an answer is not.
import Mathlib.Data.List.Basic
import Mathlib.Tactic.Common
import Phrasebook.Proofs.Naming.Memory

/-!
# Runs of an allocator

A run goes from state to state, and `after` is the state before a position. As
long as no reset stands between two positions, what is given and used at the
first one stays so up to the second. Whatever is remembered at a position was
asked for since the last reset. With labels that tell requests apart, the
answers of a run are therefore one name exactly if the requests are the same.
-/

namespace Phrasebook.Naming

/-! ## Labels -/

/-- Texts put together around a character that the second ones do not hold. -/
theorem append_cons_inj_of_not_mem {α : Type} {c : α} {xs ys xs' ys' : List α} (h : c ∉ ys)
    (h' : c ∉ ys') (heq : xs ++ c :: ys = xs' ++ c :: ys') : xs = xs' ∧ ys = ys' := by
  rcases List.append_eq_append_iff.mp heq with ⟨zs, rfl, hzs⟩ | ⟨zs, rfl, hzs⟩
  · cases zs with
    | nil => simpa using hzs
    | cons z zs =>
      rw [List.cons_append, List.cons.injEq] at hzs
      exact absurd (hzs.2 ▸ by simp) h
  · cases zs with
    | nil => simpa using hzs.symm
    | cons z zs =>
      rw [List.cons_append, List.cons.injEq] at hzs
      exact absurd (hzs.2 ▸ by simp) h'

theorem Style.word_injective : Function.Injective Style.word := by
  intro style style' h
  have hword := congrArg Style.ofWord? h
  rw [Style.ofWord?_word, Style.ofWord?_word] at hword
  exact Option.some.inj hword

theorem Style.nul_not_mem_word (style : Style) : '\x00' ∉ style.word.toList := by
  cases style <;> decide

theorem Request.toList_label (r : Request) :
    r.label.toList =
      (r.key.toList ++ '\x00' :: r.style.word.toList) ++ '\x00' :: r.suffix.toList := by
  simp [label]

/-- A label tells its request, whatever characters the key holds. -/
theorem Request.eq_of_label_eq {r s : Request} (hr : '\x00' ∉ r.suffix.toList)
    (hs : '\x00' ∉ s.suffix.toList) (h : r.label = s.label) : r = s := by
  have hlist := congrArg String.toList h
  rw [toList_label, toList_label] at hlist
  obtain ⟨hhead, hsuffix⟩ := append_cons_inj_of_not_mem hr hs hlist
  obtain ⟨hkey, hword⟩ := append_cons_inj_of_not_mem r.style.nul_not_mem_word
    s.style.nul_not_mem_word hhead
  obtain ⟨key, style, suffix⟩ := r
  rw [Request.mk.injEq]
  exact ⟨String.toList_inj.mp hkey, Style.word_injective (String.toList_inj.mp hword),
    String.toList_inj.mp hsuffix⟩

/-! ## Positions -/

namespace Allocator

/-- No reset stands between two positions. -/
def Unbroken (steps : List Step) (i j : ℕ) : Prop :=
  ∀ k, i < k → k < j → steps[k]? ≠ some .reset

variable {a : Allocator} {steps : List Step} {i j : ℕ} {r s : Request} {name : String}

/-- The allocator after the first steps of a run, so many of them. -/
def after (a : Allocator) (steps : List Step) (i : ℕ) : Allocator :=
  (a.run (steps.take i)).2

@[simp] theorem after_zero (a : Allocator) (steps : List Step) : a.after steps 0 = a := by
  simp [after, run]

theorem run_append (a : Allocator) (steps more : List Step) :
    (a.run (steps ++ more)).2 = ((a.run steps).2.run more).2 := by
  induction steps generalizing a with
  | nil => rfl
  | cons s steps ih => exact ih _

theorem after_succ {s : Step} (h : steps[i]? = some s) :
    a.after steps (i + 1) = ((a.after steps i).step s).2 := by
  have htake : steps.take (i + 1) = steps.take i ++ [s] := by rw [List.take_add_one, h]; rfl
  rw [after, htake, run_append]
  rfl

theorem after_succ_of_none (h : steps[i]? = none) : a.after steps (i + 1) = a.after steps i := by
  rw [after, List.take_add_one, h]
  simp [after]

/-- The answer at a position is that of the allocator after the steps before it. -/
theorem run_getElem? (a : Allocator) (steps : List Step) (i : ℕ) :
    (a.run steps).1[i]? = steps[i]?.map fun s => ((a.after steps i).step s).1 := by
  induction steps generalizing a i with
  | nil => rfl
  | cons s steps ih =>
    cases i with
    | zero => simp [run]
    | succ i => simpa [run, after] using ih (a.step s).2 i

theorem answer_allocate (h : steps[i]? = some (.allocate r)) :
    (a.run steps).1[i]? = some (some ((a.after steps i).allocate r).1) := by
  rw [run_getElem?, h]
  rfl

/-! ## What is kept -/

theorem Sound.after (h : a.Sound) (steps : List Step) (i : ℕ) : (a.after steps i).Sound :=
  h.run _

/-- Between resets an allocator grows. -/
theorem grows_after (hij : i ≤ j) (h : ∀ k, i ≤ k → k < j → steps[k]? ≠ some .reset) :
    (a.after steps i).Grows (a.after steps j) := by
  induction j, hij using Nat.le_induction with
  | base => exact .refl _
  | succ j hij ih =>
    have hgrown := ih fun k hk hlt => h k hk (by omega)
    cases hs : steps[j]? with
    | none => rwa [after_succ_of_none hs]
    | some s =>
      rw [after_succ hs]
      have hreset : s ≠ .reset := by
        rintro rfl
        exact h j hij (by omega) hs
      exact hgrown.trans (grows_step _ hreset)

/-- What a step leaves is there up to the next reset. -/
theorem Unbroken.grows {s : Step} (h : Unbroken steps i j) (hij : i < j)
    (hs : steps[i]? = some s) : ((a.after steps i).step s).2.Grows (a.after steps j) := by
  rw [← after_succ hs]
  exact grows_after hij fun k hk hlt => h k (by omega) hlt

/-- An answer is remembered up to the next reset. -/
theorem Unbroken.given? (h : Unbroken steps i j) (hij : i < j)
    (hr : steps[i]? = some (.allocate r)) :
    (a.after steps j).given? r = some ((a.after steps i).allocate r).1 :=
  (h.grows hij hr).given r _ (given?_allocate_self _ r)

/-- A claimed name is in use up to the next reset. -/
theorem Unbroken.mem_used (h : Unbroken steps i j) (hij : i < j)
    (hname : steps[i]? = some (.claim name)) : name ∈ (a.after steps j).used :=
  (h.grows hij hname).used List.mem_cons_self

theorem unbroken_succ_self (steps : List Step) (i : ℕ) : Unbroken steps i (i + 1) := by
  intro k hk hlt
  omega

theorem Unbroken.succ (h : Unbroken steps i j) (hreset : steps[j]? ≠ some .reset) :
    Unbroken steps i (j + 1) := by
  intro k hk hlt
  rcases Nat.lt_succ_iff_lt_or_eq.mp hlt with hlt | rfl
  · exact h k hk hlt
  · exact hreset

/-- What an allocator remembers was asked for since the last reset. -/
theorem exists_request_of_mem_given (ha : a.given = []) {g : String × String}
    (hg : g ∈ (a.after steps j).given) :
    ∃ i r, i < j ∧ Unbroken steps i j ∧ steps[i]? = some (.allocate r) ∧ g.1 = r.label := by
  induction j with
  | zero => simp [ha] at hg
  | succ j ih =>
    have hearlier (hmem : g ∈ (a.after steps j).given) (hreset : steps[j]? ≠ some .reset) :
        ∃ i r, i < j + 1 ∧ Unbroken steps i (j + 1) ∧ steps[i]? = some (.allocate r) ∧
          g.1 = r.label := by
      obtain ⟨i, r, hij, hunbroken, hr, hlabel⟩ := ih hmem
      exact ⟨i, r, by omega, hunbroken.succ hreset, hr, hlabel⟩
    cases hs : steps[j]? with
    | none =>
      rw [after_succ_of_none hs] at hg
      exact hearlier hg (by simp [hs])
    | some s =>
      rw [after_succ hs] at hg
      cases s with
      | allocate r =>
        cases hgiven : (a.after steps j).given? r with
        | some name =>
          simp only [step, allocate_of_given hgiven] at hg
          exact hearlier hg (by simp [hs])
        | none =>
          simp only [step, allocate_of_not_given hgiven] at hg
          rcases List.mem_cons.mp hg with rfl | hg
          · exact ⟨j, r, by omega, unbroken_succ_self _ _, hs, rfl⟩
          · exact hearlier hg (by simp [hs])
      | claim name => exact hearlier hg (by simp [hs])
      | reset => simp [step, reset] at hg

/-! ## Answers -/

/-- Answers without a reset between them are one name exactly if the labels are the same. -/
theorem Unbroken.answer_eq_iff (h : Unbroken steps i j) (hij : i < j) (ha : a.Sound)
    (hr : steps[i]? = some (.allocate r)) :
    ((a.after steps i).allocate r).1 = ((a.after steps j).allocate s).1 ↔ r.label = s.label := by
  have hremembered : (a.after steps j).given? r = some ((a.after steps i).allocate r).1 :=
    h.given? hij hr
  constructor
  · intro heq
    have hkept := (grows_allocate (a.after steps j) s).given r _ hremembered
    have hsound := (ha.after steps j).allocate s
    exact hsound.label_eq hkept (heq ▸ given?_allocate_self _ s)
  · intro hlabel
    have hgiven : (a.after steps j).given? s = some ((a.after steps i).allocate r).1 := by
      rwa [Allocator.given?, ← hlabel]
    rw [allocate_of_given hgiven]

/-- A request that is not remembered is answered by a name that is not in use. -/
theorem allocate_not_mem_used (h : a.given? r = none) : (a.allocate r).1 ∉ a.used := by
  rw [allocate_of_not_given h]
  exact free_not_mem _ _

/-- Every request of a run is answered, and a property of every name that the requests of the run can
be given is one of the answers, resets or not. -/
theorem exists_answer_of_forall_free {P : String → Prop} (ha : a.given = [])
    (hfree : ∀ used r, .allocate r ∈ steps → P (free used (a.baseName r)))
    (hr : steps[i]? = some (.allocate r)) : ∃ name, (a.run steps).1[i]? = some (some name) ∧ P name := by
  refine ⟨_, answer_allocate hr, ?_⟩
  have hremembered := mem_given_of_given? (given?_allocate_self (a.after steps i) r)
  have hlater : ((a.after steps i).allocate r).2 = a.after steps (i + 1) := (after_succ hr).symm
  rw [hlater] at hremembered
  refine forall_given_run a (steps.take (i + 1)) (by simp [ha]) ?_ _ hremembered
  intro used s hs
  exact hfree used s (List.mem_of_mem_take hs)

/-- Every base name of a run of requests is answered, to whatever request, unless it was in use or
its request remembered before. -/
theorem baseName_mem_answers {rs : List Request} (hsuffix : ∀ s ∈ rs, '\x00' ∉ s.suffix.toList)
    (hr : r ∈ rs) (hused : a.baseName r ∉ a.used) (hgiven : a.given? r = none) :
    some (a.baseName r) ∈ (a.run (rs.map .allocate)).1 := by
  induction rs generalizing a with
  | nil => cases hr
  | cons s rs ih =>
    have hrun : (a.run ((s :: rs).map .allocate)).1 =
        some (a.allocate s).1 :: ((a.allocate s).2.run (rs.map .allocate)).1 := rfl
    rw [hrun]
    by_cases hanswer : (a.allocate s).1 = a.baseName r
    · exact hanswer ▸ List.mem_cons_self
    refine List.mem_cons_of_mem _ ?_
    have hne : s ≠ r := by
      rintro rfl
      rw [allocate_of_not_given hgiven, free_of_not_mem hused] at hanswer
      exact hanswer rfl
    have hlater := (List.mem_cons.mp hr).resolve_left (Ne.symm hne)
    have hlabel : r.label ≠ s.label := fun heq =>
      hne (Request.eq_of_label_eq (hsuffix r hr) (hsuffix s List.mem_cons_self) heq).symm
    rw [← (sameRules_allocate a s).baseName_eq]
    refine ih (fun t ht => hsuffix t (List.mem_cons_of_mem s ht)) hlater ?_ ?_
    · rw [(sameRules_allocate a s).baseName_eq]
      cases hs : a.given? s with
      | some name => rwa [allocate_of_given hs]
      | none =>
        rw [allocate_of_not_given hs] at hanswer ⊢
        rw [List.mem_cons, not_or]
        exact ⟨Ne.symm hanswer, hused⟩
    · cases hs : a.given? s with
      | some name => rwa [allocate_of_given hs]
      | none =>
        rw [allocate_of_not_given hs, given?, List.lookup_cons, beq_eq_false_iff_ne.mpr hlabel]
        exact hgiven

/-- Any run of a new allocator, whatever its rules are. Two answers with no reset between them are
one name exactly if key, style and suffix are the same; and a request that was not made since the
last reset is answered by a name that was neither given nor claimed since then. -/
theorem run_answers (reserved builtins : List String) (digitLead : String) (steps : List Step)
    (hsuffix : ∀ r, .allocate r ∈ steps → '\x00' ∉ r.suffix.toList) :
    let answers := (({ reserved, builtins, digitLead } : Allocator).run steps).1
    (∀ i j r s, i < j → Unbroken steps i j → steps[i]? = some (.allocate r) →
      steps[j]? = some (.allocate s) →
      ∃ name name', answers[i]? = some (some name) ∧ answers[j]? = some (some name') ∧
        (name = name' ↔ r = s)) ∧
    ∀ j s, steps[j]? = some (.allocate s) →
      (∀ i, i < j → Unbroken steps i j → steps[i]? ≠ some (.allocate s)) →
      ∃ name, answers[j]? = some (some name) ∧
        ∀ i, i < j → Unbroken steps i j →
          answers[i]? ≠ some (some name) ∧ steps[i]? ≠ some (.claim name) := by
  intro answers
  let a : Allocator := { reserved, builtins, digitLead }
  have hsound : a.Sound := sound_of_given_nil rfl
  have hrequest {r s : Request} {i j : ℕ} (hr : steps[i]? = some (.allocate r))
      (hs : steps[j]? = some (.allocate s)) (hlabel : r.label = s.label) : r = s :=
    Request.eq_of_label_eq (hsuffix r (List.mem_of_getElem? hr))
      (hsuffix s (List.mem_of_getElem? hs)) hlabel
  constructor
  · intro i j r s hij hunbroken hr hs
    refine ⟨_, _, answer_allocate hr, answer_allocate hs, ?_⟩
    rw [hunbroken.answer_eq_iff hij hsound hr]
    exact ⟨hrequest hr hs, fun heq => heq ▸ rfl⟩
  · intro j s hs hnew
    have hnone : (a.after steps j).given? s = none := by
      by_contra hgiven
      obtain ⟨name, hname⟩ := Option.ne_none_iff_exists'.mp hgiven
      obtain ⟨i, r, hij, hunbroken, hr, hlabel⟩ :=
        exists_request_of_mem_given rfl (mem_given_of_given? hname)
      exact hnew i hij hunbroken (hrequest hs hr hlabel ▸ hr)
    refine ⟨_, answer_allocate hs, ?_⟩
    intro i hij hunbroken
    have hfresh := allocate_not_mem_used hnone
    constructor
    · intro hanswer
      rw [run_getElem?] at hanswer
      obtain ⟨step, hstep, heq⟩ := Option.map_eq_some_iff.mp hanswer
      cases step with
      | allocate r =>
        have hgiven := mem_given_of_given? (hunbroken.given? (a := a) hij hstep)
        have hused := (hsound.after steps j).used_of_given _ hgiven
        exact hfresh (Option.some.inj heq ▸ hused)
      | claim name => cases heq
      | reset => cases heq
    · intro hclaim
      exact hfresh (hunbroken.mem_used hij hclaim)

/-- A run with two keys, one of which looks like a label, and a claim between them. -/
theorem run_answers_around_claim :
    let steps : List Step := [.allocate { key := "b\x00camel\x00_" }, .claim "b",
      .allocate { key := "b" }, .reset, .allocate { key := "b" }]
    let answers := (({ reserved := ["else"], builtins := ["of"] } : Allocator).run steps).1
    (∀ r, .allocate r ∈ steps → '\x00' ∉ r.suffix.toList) ∧ Unbroken steps 0 2 ∧
    (∃ name name', answers[0]? = some (some name) ∧ answers[2]? = some (some name') ∧
      name ≠ name') ∧
    ∃ name, answers[2]? = some (some name) ∧ answers[0]? ≠ some (some name) ∧ name ≠ "b" := by
  intro steps answers
  have hsuffix : ∀ r, .allocate r ∈ steps → '\x00' ∉ r.suffix.toList := by
    intro r hr
    simp only [steps, List.mem_cons, Step.allocate.injEq, reduceCtorEq, List.not_mem_nil, or_false,
      false_or] at hr
    rcases hr with rfl | rfl | rfl
    all_goals decide
  have hunbroken : Unbroken steps 0 2 := by
    intro k hk hlt
    obtain rfl : k = 1 := by omega
    simp [steps]
  have hunbroken' : Unbroken steps 1 2 := unbroken_succ_self steps 1
  obtain ⟨hsame, hfresh⟩ := run_answers ["else"] ["of"] "n" steps hsuffix
  obtain ⟨name, name', hname, hname', hiff⟩ := hsame 0 2 _ _ (by decide) hunbroken rfl rfl
  have hnew : ∀ i, i < 2 → Unbroken steps i 2 → steps[i]? ≠ some (.allocate { key := "b" }) := by
    intro i hi _
    rcases (by omega : i = 0 ∨ i = 1) with rfl | rfl
    · simp [steps]
    · simp [steps]
  obtain ⟨fresh, hanswer, hothers⟩ := hfresh 2 _ rfl hnew
  refine ⟨hsuffix, hunbroken, ⟨name, name', hname, hname', ?_⟩, fresh, hanswer,
    (hothers 0 (by decide) hunbroken).1, ?_⟩
  · intro heq
    exact absurd (hiff.mp heq) (by decide)
  · rintro rfl
    exact (hothers 1 (by decide) hunbroken').2 rfl

end Allocator

end Phrasebook.Naming
