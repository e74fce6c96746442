-- SUMMARY: Lower case is idempotent, and the same whatever case ASCII letters had before.
import Mathlib.Data.List.Basic
import Phrasebook.Text.Case

/-!
# Lower case

The characters that lower case writes are left as they are by lower case. For
the runs of the table this is a matter of their ends and of parity, so that it
is checked run against run and not character by character. Converting ASCII
letters first makes no difference, as a capital and its small letter are in the
same classes.
-/

namespace Phrasebook.Text

variable {c d : Char} {cs before after : List Char}

/-! ## Code points -/

/-- A number is the code point of its character, or else stands for the character zero. -/
theorem ofNat_eq_or (n : ℕ) : (Char.ofNat n).toNat = n ∨ Char.ofNat n = '\x00' := by
  by_cases hvalid : n.isValidChar
  · have hchar : Char.ofNat n = Char.ofNatAux n hvalid := dif_pos hvalid
    rw [hchar]
    exact .inl rfl
  · exact .inr (dif_neg hvalid)

theorem isUpper_iff : c.isUpper ↔ 65 ≤ c.toNat ∧ c.toNat ≤ 90 := by
  have hval : c.isUpper ↔ 65 ≤ c.val ∧ c.val ≤ 90 := decide_eq_true_iff
  rw [hval, UInt32.le_iff_toNat_le, UInt32.le_iff_toNat_le]
  rfl

theorem toLower_of_not_isUpper (h : ¬ c.isUpper) : c.toLower = c :=
  dif_neg fun hval => h (decide_eq_true hval)

/-! ## Runs -/

/-- Whether no image of the run `r` is a code point of the run `s`: the two lie apart, or all images
are odd and the code points even, or the other way round. -/
def CaseRun.misses (r s : CaseRun) : Bool :=
  let low := (r.first + r.shift).toNat
  let high := (r.last + r.shift).toNat
  high.blt s.first || s.last.blt low
    || ((r.first == r.last || r.step == 2) && s.step == 2 && (low + s.first) % 2 == 1)

theorem CaseRun.not_has_of_misses {r s : CaseRun} {n : ℕ} (hnonneg : 0 ≤ r.first + r.shift)
    (hmisses : r.misses s) (hn : r.has n) : s.has (n + r.shift).toNat = false := by
  simp only [has, Bool.and_eq_true, decide_eq_true_eq, beq_iff_eq] at hn
  obtain ⟨⟨hfirst, hlast⟩, hstep⟩ := hn
  simp only [misses, Bool.or_eq_true, Bool.and_eq_true, Nat.blt_eq, beq_iff_eq] at hmisses
  rw [← Bool.not_eq_true, has, Bool.and_eq_true, Bool.and_eq_true, decide_eq_true_eq,
    decide_eq_true_eq, beq_iff_eq]
  rintro ⟨⟨hfirst', hlast'⟩, hstep'⟩
  rcases hmisses with (happart | happart) | ⟨⟨hone | htwo, htwo'⟩, hparity⟩
  · omega
  · omega
  · rw [htwo'] at hstep'
    omega
  · rw [htwo] at hstep
    rw [htwo'] at hstep'
    omega

/-- The code points that lower case changes: those of the runs, and the one with a longer image. -/
def loweredRuns : List CaseRun :=
  ⟨0x130, 0x130, 1, 0⟩ :: lowerRuns

/-- What the table of lower case is like: no image of a run is changed again, nor is any other image
or the character zero, and the capital sigma is changed. -/
theorem loweredRuns_spec :
    (lowerRuns.all fun r => 0 ≤ r.first + r.shift && loweredRuns.all (r.misses ·)) ∧
    (∀ n ∈ [0x3C2, 0x3C3, 0x69, 0x307, 0], ∀ s ∈ loweredRuns, s.has n = false) ∧
    loweredRuns.any (·.has 0x3A3) := by
  decide +kernel

theorem misses_of_mem_lowerRuns {r : CaseRun} (hr : r ∈ lowerRuns) :
    0 ≤ r.first + r.shift ∧ ∀ s ∈ loweredRuns, r.misses s := by
  simpa using List.all_eq_true.mp loweredRuns_spec.1 r hr

/-! ## Characters in lower case -/

/-- A character that lower case leaves as it is, wherever it stands. -/
def IsLowered (c : Char) : Prop :=
  ∀ before after, lowerAt before c after = [c]

theorem isLowered_of_not_has (h : ∀ s ∈ loweredRuns, s.has c.toNat = false) : IsLowered c := by
  have hsigma : c.toNat ≠ 0x3A3 := by
    intro heq
    obtain ⟨s, hs, hhas⟩ := List.any_eq_true.mp loweredRuns_spec.2.2
    rw [← heq, h s hs] at hhas
    cases hhas
  have hlong : (0x130 == c.toNat) = false := by
    rw [beq_eq_false_iff_ne]
    intro heq
    have hlisted := h _ List.mem_cons_self
    rw [← heq] at hlisted
    cases hlisted
  have hruns : lowerRuns.find? (·.has c.toNat) = none := by
    rw [List.find?_eq_none]
    intro s hs
    rw [h s (List.mem_cons_of_mem _ hs)]
    exact Bool.false_ne_true
  intro before after
  simp [lowerAt, hsigma, mapCase, lowerExpansions, hlong, hruns]

theorem isLowered_ofNat (n : ℕ) (h : ∀ s ∈ loweredRuns, s.has n = false) :
    IsLowered (Char.ofNat n) := by
  refine isLowered_of_not_has ?_
  rcases ofNat_eq_or n with hn | hzero
  · rwa [hn]
  · rw [hzero]
    exact loweredRuns_spec.2.1 0 (by decide)

theorem isLowered_of_mem_lowerAt (h : d ∈ lowerAt before c after) : IsLowered d := by
  have hends := loweredRuns_spec.2.1
  unfold lowerAt at h
  split at h
  · rw [List.mem_singleton] at h
    subst h
    split <;> exact isLowered_ofNat _ (hends _ (by decide))
  · unfold mapCase at h
    split at h
    · rename_i n image hfound
      obtain ⟨m, hm, rfl⟩ := List.mem_map.mp h
      have hlisted : (n, image) = (0x130, [0x69, 0x307]) :=
        List.mem_singleton.mp (List.mem_of_find?_eq_some hfound)
      obtain ⟨-, rfl⟩ := Prod.mk.inj hlisted
      refine isLowered_ofNat m (hends m ?_)
      simp only [List.mem_cons, List.not_mem_nil, or_false] at hm ⊢
      omega
    · split at h
      · rename_i r hr
        obtain rfl := List.mem_singleton.mp h
        have hhas : r.has c.toNat := by simpa using List.find?_some hr
        refine isLowered_ofNat _ fun s hs => ?_
        obtain ⟨hnonneg, hmisses⟩ := misses_of_mem_lowerRuns (List.mem_of_find?_eq_some hr)
        exact CaseRun.not_has_of_misses hnonneg (hmisses s hs) hhas
      · rename_i _ hexpansions _ hruns
        obtain rfl := List.mem_singleton.mp h
        refine isLowered_of_not_has (List.forall_mem_cons.mpr ⟨?_, ?_⟩)
        · have hne : (0x130 == d.toNat) = false := by
            simpa using List.find?_eq_none.mp hexpansions _ List.mem_cons_self
          simp only [CaseRun.has, Bool.and_eq_false_iff, decide_eq_false_iff_not]
          rw [beq_eq_false_iff_ne] at hne
          omega
        · intro s hs
          simpa using List.find?_eq_none.mp hruns s hs

/-! ## Texts in lower case -/

theorem lowerFrom_of_isLowered (h : ∀ c ∈ cs, IsLowered c) : lowerFrom before cs = cs := by
  induction cs generalizing before with
  | nil => rfl
  | cons c cs ih =>
    rw [List.forall_mem_cons] at h
    rw [lowerFrom, h.1, ih h.2]
    rfl

theorem isLowered_of_mem_lowerFrom (h : d ∈ lowerFrom before cs) : IsLowered d := by
  induction cs generalizing before with
  | nil => cases h
  | cons c cs ih =>
    rw [lowerFrom, List.mem_append] at h
    exact h.elim isLowered_of_mem_lowerAt ih

/-- Lower case is idempotent. -/
theorem lower_lower (s : String) : lower (lower s) = lower s := by
  have hchars : toLower (toLower s.toList) = toLower s.toList :=
    lowerFrom_of_isLowered fun _ => isLowered_of_mem_lowerFrom
  simp [lower, hchars]

/-! ## ASCII letters -/

/-- A character that lower case treats as its small ASCII letter, if it has one. -/
structure LowersAlike (c : Char) : Prop where
  image : ∀ before after, lowerAt before c.toLower after = lowerAt before c after
  cased : isCased c.toLower = isCased c
  ignorable : isCaseIgnorable c.toLower = isCaseIgnorable c

theorem lowersAlike (c : Char) : LowersAlike c := by
  cases hupper : c.isUpper with
  | false =>
    rw [← Bool.not_eq_true] at hupper
    have hsame : c.toLower = c := toLower_of_not_isUpper hupper
    refine ⟨?_, ?_, ?_⟩ <;> simp [hsame]
  | true =>
    have hcapitals : ∀ n < 26, let c := Char.ofNat (65 + n)
        c.toNat ≠ 0x3A3 ∧ c.toLower.toNat ≠ 0x3A3 ∧
        mapCase lowerRuns lowerExpansions c.toLower = mapCase lowerRuns lowerExpansions c ∧
        isCased c.toLower = isCased c ∧ isCaseIgnorable c.toLower = isCaseIgnorable c := by
      decide +kernel
    obtain ⟨n, hn, rfl⟩ : ∃ n < 26, Char.ofNat (65 + n) = c := by
      have hbounds := isUpper_iff.mp hupper
      refine ⟨c.toNat - 65, by omega, ?_⟩
      rw [show 65 + (c.toNat - 65) = c.toNat by omega, Char.ofNat_toNat]
    obtain ⟨hsigma, hsigma', himage, hcased, hignorable⟩ := hcapitals n hn
    refine ⟨fun before after => ?_, hcased, hignorable⟩
    rw [lowerAt, lowerAt, if_neg hsigma, if_neg hsigma', himage]

theorem meetsCased_map_toLower (cs : List Char) :
    meetsCased (cs.map Char.toLower) = meetsCased cs := by
  induction cs with
  | nil => rfl
  | cons c cs ih =>
    obtain ⟨-, hcased, hignorable⟩ := lowersAlike c
    unfold meetsCased at ih ⊢
    rw [List.map_cons, List.dropWhile_cons, List.dropWhile_cons, hignorable]
    cases isCaseIgnorable c with
    | true => exact ih
    | false => exact hcased

theorem lowerAt_map_toLower (before : List Char) (c : Char) (after : List Char) :
    lowerAt (before.map Char.toLower) c.toLower (after.map Char.toLower) = lowerAt before c after := by
  rw [(lowersAlike c).image]
  simp only [lowerAt, meetsCased_map_toLower]

theorem lowerFrom_map_toLower (before cs : List Char) :
    lowerFrom (before.map Char.toLower) (cs.map Char.toLower) = lowerFrom before cs := by
  induction cs generalizing before with
  | nil => rfl
  | cons c cs ih =>
    have hrest := ih (c :: before)
    rw [List.map_cons] at hrest
    rw [List.map_cons, lowerFrom, lowerFrom, hrest, lowerAt_map_toLower]

/-- Texts that differ in the case of ASCII letters only are one text in lower case. -/
theorem lower_eq_of_map_toLower {s t : String}
    (h : s.toList.map Char.toLower = t.toList.map Char.toLower) : lower s = lower t := by
  have hchars : ∀ cs, toLower (cs.map Char.toLower) = toLower cs := lowerFrom_map_toLower []
  rw [lower, lower, ← hchars s.toList, h, hchars]

end Phrasebook.Text
