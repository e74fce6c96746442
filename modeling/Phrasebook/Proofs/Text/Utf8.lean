-- SUMMARY: A text that is encoded in UTF-8 is decoded again.
import Mathlib.Data.List.Basic
import Mathlib.Tactic.Common
import Phrasebook.Proofs.Outcome
import Phrasebook.Text.Utf8

/-!
# UTF-8 there and back

The first byte of an encoded character tells how many more there are, and within
which bounds the second one lies. `decode_encode` holds for every text; opening
a file also unifies line breaks, which `unifyBreaks_eq_self` leaves out where
there is no carriage return.
-/

namespace Phrasebook.Text.Utf8

variable {position v : Nat} {b : UInt8} {tail rest : List UInt8} {c : Char} {cs : List Char}

/-! ## One character -/

/-- The bytes that belong to a character are passed over. -/
theorem decodeFrom_skip (tail rest : List UInt8) :
    decodeFrom position tail.length (tail ++ rest) = decodeFrom (position + tail.length) 0 rest := by
  induction tail generalizing position with
  | nil => rfl
  | cons b tail ih =>
    rw [List.cons_append, List.length_cons, decodeFrom, ih]
    congr 1
    omega

/-- A first byte and the bytes that continue the character are read as one code point. -/
theorem decodeFrom_lead (tail : List UInt8) {first low high : Nat} (hfirst : b.toNat = first)
    (hlead : lead? first = some (tail.length, low, high))
    (hheld : continued low high tail.length (tail ++ rest) = tail.length)
    (hpoint : tail.foldl (fun n b => n * 0x40 + (b.toNat - 0x80))
      (first % (0x40 >>> tail.length)) = v) :
    decodeFrom position 0 (b :: (tail ++ rest)) =
      (decodeFrom (position + 1 + tail.length) 0 rest).map (Char.ofNat v :: ·) := by
  have hbyte : ¬ first < 0x80 := by
    intro hlt
    have hnone : lead? first = none := by
      unfold lead?
      simp only [Bool.and_eq_true, decide_eq_true_eq, beq_iff_eq]
      iterate 7 rw [if_neg (by omega)]
    rw [hnone] at hlead
    cases hlead
  have hcode : codePoint first tail.length (tail ++ rest) = v := by
    rw [codePoint, List.take_left, hpoint]
  rw [decodeFrom, hfirst, if_neg hbyte, hlead]
  simp only [hheld, hcode, if_true, decodeFrom_skip]

theorem lead?_two (hlow : 0x80 ≤ v) (hhigh : v ≤ 0x7FF) :
    lead? (v / 64 % 32 + 192) = some (1, 0x80, 0xBF) := by
  unfold lead?
  rw [if_pos (by simp only [Bool.and_eq_true, decide_eq_true_eq]; omega)]

/-- The second of three bytes lies within the bounds that the first one sets, surrogates apart. -/
theorem lead?_three (hlow : 0x800 ≤ v) (hhigh : v ≤ 0xFFFF) (hvalid : v < 0xD800 ∨ 0xDFFF < v) :
    ∃ low high, lead? (v / 4096 % 16 + 224) = some (2, low, high) ∧
      low ≤ v / 64 % 64 + 128 ∧ v / 64 % 64 + 128 ≤ high := by
  unfold lead?
  simp only [Bool.and_eq_true, decide_eq_true_eq, beq_iff_eq]
  rw [if_neg (by omega)]
  split
  · exact ⟨_, _, rfl, by omega, by omega⟩
  · split
    · exact ⟨_, _, rfl, by omega, by omega⟩
    · rw [if_pos (by omega)]
      exact ⟨_, _, rfl, by omega, by omega⟩

/-- The second of four bytes lies within the bounds that the first one sets. -/
theorem lead?_four (hlow : 0x10000 ≤ v) (hhigh : v ≤ 0x10FFFF) :
    ∃ low high, lead? (v / 262144 % 8 + 240) = some (3, low, high) ∧
      low ≤ v / 4096 % 64 + 128 ∧ v / 4096 % 64 + 128 ≤ high := by
  unfold lead?
  simp only [Bool.and_eq_true, decide_eq_true_eq, beq_iff_eq]
  iterate 4 rw [if_neg (by omega)]
  split
  · exact ⟨_, _, rfl, by omega, by omega⟩
  · split
    · exact ⟨_, _, rfl, by omega, by omega⟩
    · rw [if_pos (by omega)]
      exact ⟨_, _, rfl, by omega, by omega⟩

theorem toNat_ofNat (h : v < 256) : (UInt8.ofNat v).toNat = v :=
  UInt8.toNat_ofNat_of_lt' h

/-- A byte that carries six bits of a code point continues a character. -/
theorem continued_succ {low high count : Nat} (hlow : low ≤ v % 64 + 128) (hhigh : v % 64 + 128 ≤ high) :
    continued low high (count + 1) (UInt8.ofNat (v % 64 + 128) :: rest) =
      continued 0x80 0xBF count rest + 1 := by
  have hbyte : (UInt8.ofNat (v % 64 + 128)).toNat = v % 64 + 128 := toNat_ofNat (by omega)
  rw [continued, hbyte, if_pos (by simp [hlow, hhigh])]

/-! ## The four sizes -/

section Sizes

variable (position rest)

theorem decodeFrom_one (h : v ≤ 0x7F) : decodeFrom position 0 (UInt8.ofNat v :: rest) =
    (decodeFrom (position + 1) 0 rest).map (Char.ofNat v :: ·) := by
  have hbyte : (UInt8.ofNat v).toNat = v := toNat_ofNat (by omega)
  rw [decodeFrom, hbyte, if_pos (by omega)]

theorem decodeFrom_two (hlow : 0x80 ≤ v) (hhigh : v ≤ 0x7FF) :
    decodeFrom position 0 (UInt8.ofNat (v / 64 % 32 + 192) :: UInt8.ofNat (v % 64 + 128) :: rest) =
      (decodeFrom (position + 2) 0 rest).map (Char.ofNat v :: ·) := by
  have hfirst : (UInt8.ofNat (v / 64 % 32 + 192)).toNat = v / 64 % 32 + 192 :=
    toNat_ofNat (by omega)
  refine decodeFrom_lead [UInt8.ofNat (v % 64 + 128)] hfirst (lead?_two hlow hhigh) ?held ?point
  case held =>
    change continued _ _ 1 (_ :: rest) = 1
    rw [continued_succ (by omega) (by omega), continued]
  case point =>
    simp only [List.foldl_cons, List.foldl_nil, List.length_cons, List.length_nil,
      UInt8.toNat_ofNat', Nat.reduceAdd, Nat.reduceShiftRight]
    omega

theorem decodeFrom_three (hlow : 0x800 ≤ v) (hhigh : v ≤ 0xFFFF)
    (hvalid : v < 0xD800 ∨ 0xDFFF < v) :
    decodeFrom position 0 (UInt8.ofNat (v / 4096 % 16 + 224) :: UInt8.ofNat (v / 64 % 64 + 128) ::
        UInt8.ofNat (v % 64 + 128) :: rest) =
      (decodeFrom (position + 3) 0 rest).map (Char.ofNat v :: ·) := by
  have hfirst : (UInt8.ofNat (v / 4096 % 16 + 224)).toNat = v / 4096 % 16 + 224 :=
    toNat_ofNat (by omega)
  obtain ⟨low, high, hlead, hsecond, hsecond'⟩ := lead?_three hlow hhigh hvalid
  refine decodeFrom_lead [UInt8.ofNat (v / 64 % 64 + 128), UInt8.ofNat (v % 64 + 128)]
    hfirst hlead ?held ?point
  case held =>
    change continued low high 2 (_ :: _ :: rest) = 2
    rw [continued_succ hsecond hsecond', continued_succ (by omega) (by omega), continued]
  case point =>
    simp only [List.foldl_cons, List.foldl_nil, List.length_cons, List.length_nil,
      UInt8.toNat_ofNat', Nat.reduceAdd, Nat.reduceShiftRight]
    omega

theorem decodeFrom_four (hlow : 0x10000 ≤ v) (hhigh : v ≤ 0x10FFFF) :
    decodeFrom position 0 (UInt8.ofNat (v / 262144 % 8 + 240) :: UInt8.ofNat (v / 4096 % 64 + 128) ::
        UInt8.ofNat (v / 64 % 64 + 128) :: UInt8.ofNat (v % 64 + 128) :: rest) =
      (decodeFrom (position + 4) 0 rest).map (Char.ofNat v :: ·) := by
  have hfirst : (UInt8.ofNat (v / 262144 % 8 + 240)).toNat = v / 262144 % 8 + 240 :=
    toNat_ofNat (by omega)
  obtain ⟨low, high, hlead, hsecond, hsecond'⟩ := lead?_four hlow hhigh
  refine decodeFrom_lead [UInt8.ofNat (v / 4096 % 64 + 128), UInt8.ofNat (v / 64 % 64 + 128),
    UInt8.ofNat (v % 64 + 128)] hfirst hlead ?held ?point
  case held =>
    change continued low high 3 (_ :: _ :: _ :: rest) = 3
    rw [continued_succ hsecond hsecond', continued_succ (by omega) (by omega),
      continued_succ (by omega) (by omega), continued]
  case point =>
    simp only [List.foldl_cons, List.foldl_nil, List.length_cons, List.length_nil,
      UInt8.toNat_ofNat', Nat.reduceAdd, Nat.reduceShiftRight]
    omega

end Sizes

/-- Of an encoded character and more bytes, the character is read first. -/
theorem decodeFrom_utf8EncodeChar (position : Nat) (c : Char) (rest : List UInt8) :
    ∃ next, decodeFrom position 0 (String.utf8EncodeChar c ++ rest) =
      (decodeFrom next 0 rest).map (c :: ·) := by
  have hvalid : c.val.toNat < 0xD800 ∨ 0xDFFF < c.val.toNat ∧ c.val.toNat < 0x110000 := c.valid
  have hchar : Char.ofNat c.val.toNat = c := Char.ofNat_toNat c
  unfold String.utf8EncodeChar
  simp only
  split
  · rename_i hone
    exact ⟨_, by rw [List.singleton_append, decodeFrom_one position rest hone, hchar]⟩
  · split
    · rename_i hone htwo
      have hread := decodeFrom_two position rest (by omega) htwo
      exact ⟨_, by rw [hchar] at hread; exact hread⟩
    · split
      · rename_i htwo hthree
        have hread := decodeFrom_three position rest (by omega) hthree (by omega)
        exact ⟨_, by rw [hchar] at hread; exact hread⟩
      · rename_i htwo hthree
        have hread := decodeFrom_four position rest (Nat.not_le.mp hthree) (by omega)
        exact ⟨_, by rw [hchar] at hread; exact hread⟩

/-! ## Texts -/

theorem decodeFrom_encode (position : Nat) (cs : List Char) :
    decodeFrom position 0 (encode cs) = .ok cs := by
  induction cs generalizing position with
  | nil => rfl
  | cons c cs ih =>
    obtain ⟨next, hread⟩ := decodeFrom_utf8EncodeChar position c (encode cs)
    rw [encode, List.flatMap_cons, ← encode, hread, ih]
    rfl

/-- Decoding undoes encoding. -/
theorem decode_encode (cs : List Char) : decode (encode cs) = .ok cs :=
  decodeFrom_encode 0 cs

/-- Where there is no carriage return, every line break is a line feed already. -/
theorem unifyBreaks_eq_self (h : '\r' ∉ cs) : unifyBreaks cs = cs := by
  induction cs with
  | nil => rfl
  | cons c cs ih =>
    rw [List.mem_cons, not_or] at h
    unfold unifyBreaks
    split
    · cases ‹_ :: _ = []›
    · rename_i heq
      cases heq
      exact absurd rfl h.1
    · rename_i heq
      cases heq
      exact absurd rfl h.1
    · rename_i heq
      cases heq
      rw [ih h.2]

end Phrasebook.Text.Utf8
