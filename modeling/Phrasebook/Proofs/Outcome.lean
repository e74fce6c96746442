-- SUMMARY: When a computation that can fail does so: mapped, chained, and with its fault renamed.
import Mathlib.Data.Option.Basic

/-!
# Outcomes

The readers and converters of the library return `Except`. The lemmas here take
a success or a fault apart into those of the parts, so that no proof has to
unfold how the parts are put together.
-/

variable {ε ε' α β : Type}

theorem Except.map_eq_ok_iff {f : α → β} {x : Except ε α} {b : β} :
    x.map f = .ok b ↔ ∃ a, x = .ok a ∧ f a = b := by
  cases x with
  | error e => simp [Except.map]
  | ok a => simp [Except.map]

theorem Except.bind_eq_ok_iff {f : α → Except ε β} {x : Except ε α} {b : β} :
    x.bind f = .ok b ↔ ∃ a, x = .ok a ∧ f a = .ok b := by
  cases x with
  | error e => simp [Except.bind]
  | ok a => simp [Except.bind]

theorem Except.bind_eq_error_iff {f : α → Except ε β} {x : Except ε α} {e : ε} :
    x.bind f = .error e ↔ x = .error e ∨ ∃ a, x = .ok a ∧ f a = .error e := by
  cases x with
  | error e' => simp [Except.bind]
  | ok a => simp [Except.bind]

theorem Except.mapError_eq_error_iff {f : ε → ε'} {x : Except ε α} {e' : ε'} :
    x.mapError f = .error e' ↔ ∃ e, x = .error e ∧ f e = e' := by
  cases x with
  | error e => simp [Except.mapError]
  | ok a => simp [Except.mapError]

theorem Except.mapError_eq_ok_iff {f : ε → ε'} {x : Except ε α} {a : α} :
    x.mapError f = .ok a ↔ x = .ok a := by
  cases x with
  | error e => simp [Except.mapError]
  | ok b => simp [Except.mapError]

/-- Where steps can only end in one fault, and one of them does, all together end in it. -/
theorem Except.mapM_eq_error {f : α → Except ε β} {e : ε} {as : List α}
    (hsteps : ∀ a ∈ as, (∃ b, f a = .ok b) ∨ f a = .error e) (hfault : ∃ a ∈ as, f a = .error e) :
    as.mapM f = .error e := by
  induction as with
  | nil =>
    obtain ⟨_, hmem, -⟩ := hfault
    cases hmem
  | cons a as ih =>
    rw [List.forall_mem_cons] at hsteps
    rw [List.mapM_cons]
    rcases hsteps.1 with ⟨b, hb⟩ | ha
    · have hrest : ∃ a ∈ as, f a = .error e := by
        obtain ⟨a', hmem, ha'⟩ := hfault
        rcases List.mem_cons.mp hmem with rfl | hmem
        · rw [hb] at ha'
          cases ha'
        · exact ⟨a', hmem, ha'⟩
      rw [hb, ih hsteps.2 hrest]
      rfl
    · rw [ha]
      rfl

theorem Except.mapM_eq_ok {f : α → Except ε β} {g : α → β} {as : List α}
    (h : ∀ a ∈ as, f a = .ok (g a)) : as.mapM f = .ok (as.map g) := by
  induction as with
  | nil => rfl
  | cons a as ih =>
    rw [List.forall_mem_cons] at h
    rw [List.mapM_cons, h.1, ih h.2]
    rfl
