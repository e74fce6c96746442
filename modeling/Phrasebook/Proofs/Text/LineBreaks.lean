-- SUMMARY: What unifying the line breaks of a text leaves alone: all that stands between breaks.
import Mathlib.Data.List.Basic
import Phrasebook.Text.Utf8

/-!
# Unified line breaks

Unifying the breaks of a text changes nothing but carriage returns, each of
which becomes a line feed or goes into the one behind it. So a reader that tells
neither of the two from the other finds the same before and after: the same
characters up to the next break, and the same words.
-/

namespace Phrasebook.Text.Utf8

variable {c : Char} {cs rest word : List Char} {p : Char → Bool}

/-! ## The first character -/

theorem unifyBreaks_cons (hc : c ≠ '\r') (cs : List Char) :
    unifyBreaks (c :: cs) = c :: unifyBreaks cs := by
  rw [unifyBreaks.eq_4]
  · rintro _ rfl
    exact absurd rfl hc
  · rintro rfl
    exact absurd rfl hc

/-- A carriage return becomes a line feed, and the line feed behind it goes into that. -/
theorem unifyBreaks_return (cs : List Char) :
    ∃ rest, unifyBreaks ('\r' :: cs) = '\n' :: unifyBreaks rest ∧ (cs = rest ∨ cs = '\n' :: rest) := by
  by_cases h : ∃ rest, cs = '\n' :: rest
  · obtain ⟨rest, rfl⟩ := h
    exact ⟨rest, by rw [unifyBreaks], .inr rfl⟩
  · exact ⟨cs, unifyBreaks.eq_3 cs fun rest hcs => h ⟨rest, hcs⟩, .inl rfl⟩

/-- Only a line feed can have come of something else. -/
theorem unifyBreaks_eq_cons_iff (hc : c ≠ '\n') : unifyBreaks cs = c :: rest ↔
    c ≠ '\r' ∧ ∃ tail, cs = c :: tail ∧ unifyBreaks tail = rest := by
  constructor
  · intro h
    cases cs with
    | nil => cases h
    | cons d cs =>
      by_cases hd : d = '\r'
      · obtain ⟨tail, htail, -⟩ := unifyBreaks_return cs
        rw [hd, htail] at h
        exact absurd (List.cons.inj h).1.symm hc
      · rw [unifyBreaks_cons hd] at h
        obtain ⟨rfl, htail⟩ := List.cons.inj h
        exact ⟨hd, cs, rfl, htail⟩
  · rintro ⟨hreturn, tail, rfl, rfl⟩
    exact unifyBreaks_cons hreturn tail

theorem unifyBreaks_eq_nil_iff : unifyBreaks cs = [] ↔ cs = [] := by
  fun_cases unifyBreaks cs <;> simp

/-! ## Up to a break -/

/-- Characters that pass over breaks, or stop at them, are the same before and after. -/
theorem dropWhile_unifyBreaks (hp : p '\r' = p '\n') (cs : List Char) :
    (unifyBreaks cs).dropWhile p = unifyBreaks (cs.dropWhile p) := by
  fun_induction unifyBreaks cs with
  | case1 => rfl
  | case2 cs ih =>
    by_cases hbreak : p '\n'
    · simp [hp, hbreak, ih]
    · simp [hp, hbreak, unifyBreaks]
  | case3 cs hcs ih =>
    by_cases hbreak : p '\n'
    · simp [hp, hbreak, ih]
    · simp [hp, hbreak, unifyBreaks.eq_3 cs hcs]
  | case4 c cs _ hc ih =>
    by_cases hpass : p c
    · simp [hpass, ih]
    · simp [hpass, unifyBreaks_cons hc]

theorem takeWhile_unifyBreaks (hreturn : p '\r' = false) (hfeed : p '\n' = false) (cs : List Char) :
    (unifyBreaks cs).takeWhile p = cs.takeWhile p := by
  fun_induction unifyBreaks cs with
  | case1 => rfl
  | case2 cs => simp [hreturn, hfeed]
  | case3 cs => simp [hreturn, hfeed]
  | case4 c cs _ _ ih => simp [List.takeWhile_cons, ih]

/-! ## Words -/

theorem unifyBreaks_append (h : '\r' ∉ word) (rest : List Char) :
    unifyBreaks (word ++ rest) = word ++ unifyBreaks rest := by
  induction word with
  | nil => rfl
  | cons c word ih =>
    rw [List.mem_cons, not_or] at h
    rw [List.cons_append, unifyBreaks_cons (Ne.symm h.1), ih h.2, List.cons_append]

/-- A text that begins with a word on one line did so before. -/
theorem unifyBreaks_eq_append_iff (hreturn : '\r' ∉ word) (hfeed : '\n' ∉ word) :
    unifyBreaks cs = word ++ rest ↔ ∃ tail, cs = word ++ tail ∧ unifyBreaks tail = rest := by
  constructor
  · intro h
    induction word generalizing cs with
    | nil => exact ⟨cs, rfl, h⟩
    | cons c word ih =>
      rw [List.mem_cons, not_or] at hreturn hfeed
      obtain ⟨-, tail, rfl, htail⟩ := (unifyBreaks_eq_cons_iff (Ne.symm hfeed.1)).mp h
      obtain ⟨tail', rfl, hrest⟩ := ih hreturn.2 hfeed.2 htail
      exact ⟨tail', rfl, hrest⟩
  · rintro ⟨tail, rfl, rfl⟩
    exact unifyBreaks_append hreturn tail

theorem isPrefixOf_unifyBreaks (hreturn : '\r' ∉ word) (hfeed : '\n' ∉ word) (cs : List Char) :
    word.isPrefixOf (unifyBreaks cs) = word.isPrefixOf cs := by
  rw [Bool.eq_iff_iff, List.isPrefixOf_iff_prefix, List.isPrefixOf_iff_prefix]
  constructor
  · rintro ⟨rest, hrest⟩
    obtain ⟨tail, rfl, -⟩ := (unifyBreaks_eq_append_iff hreturn hfeed).mp hrest.symm
    exact List.prefix_append word tail
  · rintro ⟨tail, rfl⟩
    rw [unifyBreaks_append hreturn]
    exact List.prefix_append word _

end Phrasebook.Text.Utf8
