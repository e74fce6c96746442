-- SUMMARY: A text without lone surrogates is read character by character as it is written.
import Mathlib.Data.List.Basic
import Mathlib.Tactic.Common
import Phrasebook.Proofs.Json.Rests

/-!
# Surrogates

A text can write a code unit that is no character: an escape for one half of a
pair without the other. A string cannot hold it and has the replacement
character in its place. Where a text writes none, its strings hold exactly the
code points that it writes.
-/

namespace Phrasebook.Json

/-! ## What a text writes -/

/-- The code units that a text writes: that of every escape, and every other character. -/
def writtenUnits : List Char → List Nat
  | '\\' :: 'u' :: w :: x :: y :: z :: cs => (hexQuad? w x y z).getD 0 :: writtenUnits cs
  | '\\' :: e :: cs => (escape? e).getD 0 :: writtenUnits cs
  | c :: cs => c.toNat :: writtenUnits cs
  | [] => []

/-- All that is written is characters: there is no escape of a surrogate that stands alone. -/
def WritesCharacters (text : String) : Prop :=
  ∀ u ∈ codePoints (writtenUnits text.toList), ¬ isSurrogate u

instance (text : String) : Decidable (WritesCharacters text) :=
  inferInstanceAs (Decidable (∀ u ∈ codePoints (writtenUnits text.toList), ¬ isSurrogate u))

variable {cs rest : List Char} {us : List Nat} {start u : Nat}

theorem writtenUnits_of_ne {c : Char} (hc : c ≠ '\\') (cs : List Char) :
    writtenUnits (c :: cs) = c.toNat :: writtenUnits cs :=
  writtenUnits.eq_3 c cs (fun _ _ _ _ _ h _ => hc h) (fun _ _ h _ => hc h)

theorem writtenUnits_escape (h : escaped? cs = some (u, rest)) :
    writtenUnits ('\\' :: cs) = u :: writtenUnits rest := by
  cases cs with
  | nil => cases h
  | cons e cs =>
    by_cases he : e = 'u'
    · subst he
      obtain ⟨w, x, y, z, rfl, -, hquad⟩ := escaped?_u_eq_some_iff.mp h
      rw [writtenUnits, hquad]
      rfl
    · rw [escaped?_of_ne he] at h
      obtain ⟨u', hu, heq⟩ := Option.map_eq_some_iff.mp h
      cases heq
      rw [writtenUnits.eq_2 e rest (fun _ _ _ _ _ h _ => he h), hu]
      rfl

/-- A string is written as its code units and the closing quote. -/
theorem writtenUnits_of_units (h : units start cs = .ok (us, rest)) :
    writtenUnits cs = us ++ '"'.toNat :: writtenUnits rest := by
  induction cs using units_induction generalizing us with
  | nil => cases h
  | quote cs =>
    rw [units_quote] at h
    cases h
    exact writtenUnits_of_ne (by decide) _
  | control c cs hc =>
    rw [units_control hc] at h
    cases h
  | escape cs u tail hescaped ih =>
    rw [units_backslash_of_some hescaped] at h
    obtain ⟨⟨us', _⟩, hread, heq⟩ := Except.map_eq_ok_iff.mp h
    cases heq
    rw [writtenUnits_escape hescaped, ih hread, List.cons_append]
  | noEscape cs hescaped =>
    obtain ⟨reason, left, hfault⟩ := units_backslash_of_none start hescaped
    rw [hfault] at h
    cases h
  | plain c cs hc ih =>
    rw [units_plain hc] at h
    obtain ⟨⟨us', _⟩, hread, heq⟩ := Except.map_eq_ok_iff.mp h
    cases heq
    rw [writtenUnits_of_ne hc.not_backslash, ih hread, List.cons_append]

/-! ## Code points -/

/-- A code unit that is no surrogate makes no pair with the one before it. -/
theorem codePoints_append_cons (hu : ¬ isSurrogate u) (us vs : List Nat) :
    codePoints (us ++ u :: vs) = codePoints us ++ u :: codePoints vs := by
  have hlone : ∀ v, codePoints (u :: v) = u :: codePoints v := by
    intro v
    cases v with
    | nil => rfl
    | cons v vs =>
      rw [codePoints, if_neg]
      simp only [isSurrogate, Bool.and_eq_true, decide_eq_true_eq] at hu ⊢
      omega
  induction us using codePoints.induct with
  | case1 => exact hlone vs
  | case2 v =>
    rw [List.singleton_append, codePoints.eq_3, if_neg, hlone]
    · rfl
    · simp only [isSurrogate, Bool.and_eq_true, decide_eq_true_eq] at hu ⊢
      omega
  | case3 v w us hpair ih =>
    rw [List.cons_append, List.cons_append, codePoints, if_pos hpair, ih, codePoints, if_pos hpair]
    rfl
  | case4 v w us hpair ih =>
    rw [List.cons_append, List.cons_append, codePoints, if_neg hpair, ← List.cons_append, ih,
      codePoints, if_neg hpair]
    rfl

/-- No code point is beyond the last one. -/
theorem codePoints_lt (h : ∀ u ∈ us, u < 0x110000) : ∀ u ∈ codePoints us, u < 0x110000 := by
  induction us using codePoints.induct with
  | case1 => simp [codePoints]
  | case2 v => simpa [codePoints] using h
  | case3 v w us hpair ih =>
    simp only [List.forall_mem_cons] at h
    rw [codePoints, if_pos hpair, List.forall_mem_cons]
    refine ⟨?_, ih h.2.2⟩
    simp only [Bool.and_eq_true, decide_eq_true_eq] at hpair
    omega
  | case4 v w us hpair ih =>
    rw [List.forall_mem_cons] at h
    rw [codePoints, if_neg hpair, List.forall_mem_cons]
    exact ⟨h.1, ih h.2⟩

theorem hexDigit?_lt {c : Char} {d : Nat} (h : hexDigit? c = some d) : d < 16 := by
  have h0 : '0'.toNat = 48 := rfl
  have h9 : '9'.toNat = 57 := rfl
  have ha : 'a'.toNat = 97 := rfl
  have hf : 'f'.toNat = 102 := rfl
  have hA : 'A'.toNat = 65 := rfl
  have hF : 'F'.toNat = 70 := rfl
  unfold hexDigit? at h
  simp only [Bool.and_eq_true, decide_eq_true_eq] at h
  split_ifs at h <;> cases h <;> omega

theorem escaped?_lt (h : escaped? cs = some (u, rest)) : u < 0x10000 := by
  cases cs with
  | nil => cases h
  | cons e cs =>
    by_cases he : e = 'u'
    · subst he
      obtain ⟨w, x, y, z, rfl, -, hquad⟩ := escaped?_u_eq_some_iff.mp h
      simp only [hexQuad?, Option.bind_eq_bind, Option.bind_eq_some_iff] at hquad
      obtain ⟨a, ha, b, hb, c, hc, d, hd, heq⟩ := hquad
      have := hexDigit?_lt ha
      have := hexDigit?_lt hb
      have := hexDigit?_lt hc
      have := hexDigit?_lt hd
      cases heq
      omega
    · rw [escaped?_of_ne he] at h
      obtain ⟨u', hu, heq⟩ := Option.map_eq_some_iff.mp h
      cases heq
      unfold escape? at hu
      split at hu <;> cases hu <;> decide

theorem toNat_lt (c : Char) : c.toNat < 0x110000 := by
  have hvalid : c.toNat < 0xD800 ∨ 0xDFFF < c.toNat ∧ c.toNat < 0x110000 := c.valid
  omega

theorem units_lt (h : units start cs = .ok (us, rest)) : ∀ u ∈ us, u < 0x110000 := by
  induction cs using units_induction generalizing us with
  | nil => cases h
  | quote cs =>
    rw [units_quote] at h
    cases h
    simp
  | control c cs hc =>
    rw [units_control hc] at h
    cases h
  | escape cs u tail hescaped ih =>
    rw [units_backslash_of_some hescaped] at h
    obtain ⟨⟨us', _⟩, hread, heq⟩ := Except.map_eq_ok_iff.mp h
    cases heq
    exact List.forall_mem_cons.mpr ⟨Nat.lt_trans (escaped?_lt hescaped) (by decide), ih hread⟩
  | noEscape cs hescaped =>
    obtain ⟨reason, left, hfault⟩ := units_backslash_of_none start hescaped
    rw [hfault] at h
    cases h
  | plain c cs hc ih =>
    rw [units_plain hc] at h
    obtain ⟨⟨us', _⟩, hread, heq⟩ := Except.map_eq_ok_iff.mp h
    cases heq
    exact List.forall_mem_cons.mpr ⟨toNat_lt c, ih hread⟩

/-- The characters of code units without lone surrogates are their code points. -/
theorem map_toNat_ofUnits (hlt : ∀ u ∈ us, u < 0x110000)
    (hwrites : ∀ u ∈ codePoints us, ¬ isSurrogate u) :
    (ofUnits us).map Char.toNat = codePoints us := by
  rw [ofUnits, List.map_map]
  refine (List.map_congr_left fun u hu => ?_).trans (List.map_id _)
  have hlone := hwrites u hu
  have hvalid : u.isValidChar := by
    have := codePoints_lt hlt u hu
    simp only [isSurrogate, Bool.and_eq_true, decide_eq_true_eq] at hlone
    unfold Nat.isValidChar
    omega
  rw [Function.comp_apply, if_neg hlone, Char.ofNat, dif_pos hvalid]
  rfl

/-- Where a text writes characters, a string that is read has the code points that are written up to
its closing quote. -/
theorem codePoints_writtenUnits_of_string {s : String} (h : string start cs = .ok (s, rest))
    (hwrites : ∀ u ∈ codePoints (writtenUnits cs), ¬ isSurrogate u) :
    codePoints (writtenUnits cs) =
      s.toList.map Char.toNat ++ '"'.toNat :: codePoints (writtenUnits rest) := by
  obtain ⟨⟨us, _⟩, hread, heq⟩ := Except.map_eq_ok_iff.mp h
  cases heq
  have hsplit : codePoints (writtenUnits cs) =
      codePoints us ++ '"'.toNat :: codePoints (writtenUnits rest) := by
    rw [writtenUnits_of_units hread, codePoints_append_cons (by decide)]
  rw [hsplit] at hwrites ⊢
  rw [String.toList_ofList, map_toNat_ofUnits (units_lt hread) fun u hu =>
    hwrites u (List.mem_append_left _ hu)]

/-- A pair is one character, and half of one is none. -/
example : WritesCharacters "\"\\uD83D\\uDE00\"" ∧ ¬ WritesCharacters "\"\\uD83D\"" := by decide

end Phrasebook.Json
