-- SUMMARY: ASCII letters in the case tables: a capital counts as its small letter, and conversions change only case.
import Mathlib.Data.List.Basic
import Phrasebook.Proofs.Text.LowerCase
import Phrasebook.Text.Blank
import Phrasebook.Text.Digit
import Phrasebook.Text.Letter

/-!
# ASCII letters

A capital and its small letter are in the same classes and have the same upper,
title and lower case. A conversion therefore does not depend on the case that
ASCII letters had before it, and in a text that is all ASCII it changes nothing
but that case. Of each table only the few rows that begin in ASCII matter, so
that the characters are checked against these rows.
-/

namespace Phrasebook.Text

variable {c : Char} {cs : List Char}

def IsAscii (cs : List Char) : Prop :=
  ∀ c ∈ cs, c.toNat < 128

instance : DecidablePred IsAscii := fun cs =>
  List.decidableBAll (fun c : Char => c.toNat < 128) cs

/-- The characters that have a meaning of their own in a locale tag. -/
def tagMarks : List Char :=
  ['-', '_', '@', '.']

/-! ## Tables -/

deriving instance DecidableEq for CaseRun

/-- The ranges of a class that begin in ASCII. -/
def Ranges.ascii (table : Ranges) : Ranges :=
  table.filter (·.1 < 128)

/-- The runs of a case table that begin in ASCII. -/
def asciiRuns (runs : List CaseRun) : List CaseRun :=
  runs.filter (·.first < 128)

/-- The run of the capitals, which become small letters. -/
def capitals : CaseRun :=
  ⟨65, 90, 1, 32⟩

/-- The run of the small letters, which become capitals. -/
def smallLetters : CaseRun :=
  ⟨97, 122, 1, -32⟩

/-- The letters in ASCII. -/
def asciiLetters : Ranges :=
  [(65, 90), (97, 122)]

/-- The digits in ASCII. -/
def asciiDigits : Ranges :=
  [(48, 57)]

/-- What the ASCII rows of the tables make of a character, and of its small letter. -/
def MeetsRows (c : Char) : Prop :=
  (c.toLower.toNat < 128 ∧ asciiLetters.has c.toLower = asciiLetters.has c ∧
    asciiDigits.has c.toLower = asciiDigits.has c ∧ isBlank c.toLower = isBlank c ∧
    mapCase [smallLetters] [] c.toLower = mapCase [smallLetters] [] c ∧
    tagMarks.map (c.toLower == ·) = tagMarks.map (c == ·)) ∧
  mapCase [capitals] [] c = [c.toLower] ∧
  (mapCase [smallLetters] [] c).map Char.toLower = [c.toLower] ∧ c.toLower.toLower = c.toLower ∧
  (asciiLetters.has c ∨ asciiDigits.has c → isBlank c = false ∧ c ∉ tagMarks)

instance : DecidablePred MeetsRows := fun c => by
  unfold MeetsRows
  infer_instance

theorem ascii_spec :
    ((letterRanges.ascii = asciiLetters ∧ decimalRanges.ascii = asciiDigits ∧
        otherDigitRanges.ascii = []) ∧
      (asciiRuns lowerRuns = [capitals] ∧ asciiRuns upperRuns = [smallLetters] ∧
        asciiRuns titleRuns = [smallLetters]) ∧
      (∀ e ∈ lowerExpansions, 128 ≤ e.1) ∧ (∀ e ∈ upperExpansions, 128 ≤ e.1) ∧
      ∀ e ∈ titleExpansions, 128 ≤ e.1) ∧
    ∀ n < 128, MeetsRows (Char.ofNat n) := by
  decide +kernel

/-- Of a class, an ASCII character meets only the ranges that begin there. -/
theorem has_ascii (table : Ranges) (hc : c.toNat < 128) : table.has c = table.ascii.has c := by
  rw [Ranges.ascii, Ranges.has, Ranges.has, List.any_filter]
  congr 1
  funext r
  by_cases hr : r.1 ≤ c.toNat
  · simp [show r.1 < 128 by omega]
  · simp [hr]

theorem find?_filter_of_imp {α : Type} {p q : α → Bool} (h : ∀ a, q a → p a) (as : List α) :
    (as.filter p).find? q = as.find? q := by
  rw [List.find?_filter]
  congr 1
  funext a
  cases hq : q a with
  | false => simp
  | true => simp [h a hq]

theorem mapCase_ascii {runs : List CaseRun} {expansions : List (ℕ × List ℕ)}
    (hlong : ∀ e ∈ expansions, 128 ≤ e.1) (hc : c.toNat < 128) :
    mapCase runs expansions c = mapCase (asciiRuns runs) [] c := by
  have hexpansions : expansions.find? (·.1 == c.toNat) = none := by
    rw [List.find?_eq_none]
    intro e he heq
    have hkey : e.1 = c.toNat := by simpa using heq
    have hfirst := hlong e he
    omega
  have hruns : (asciiRuns runs).find? (·.has c.toNat) = runs.find? (·.has c.toNat) := by
    refine find?_filter_of_imp (fun r hr => ?_) runs
    simp only [CaseRun.has, Bool.and_eq_true, decide_eq_true_eq] at hr ⊢
    omega
  simp only [mapCase, hexpansions, hruns, List.find?_nil]

/-! ## Characters -/

/-- A character that counts as its small ASCII letter, if it has one. -/
structure IsCaseless (c : Char) : Prop where
  letter : isLetter c.toLower = isLetter c
  digit : isDigit c.toLower = isDigit c
  blank : isBlank c.toLower = isBlank c
  upper : mapCase upperRuns upperExpansions c.toLower = mapCase upperRuns upperExpansions c
  title : mapCase titleRuns titleExpansions c.toLower = mapCase titleRuns titleExpansions c
  mark : ∀ m ∈ tagMarks, (c.toLower = m ↔ c = m)

/-- A character of which conversions change the case only, and which is neither whitespace nor a
mark if it is a letter or a digit. -/
structure IsOrdinary (c : Char) : Prop where
  lower : ∀ before after, (lowerAt before c after).map Char.toLower = [c.toLower]
  upper : (mapCase upperRuns upperExpansions c).map Char.toLower = [c.toLower]
  title : (mapCase titleRuns titleExpansions c).map Char.toLower = [c.toLower]
  plain : isLetter c ∨ isDigit c → isBlank c = false ∧ c ∉ tagMarks

theorem isLetter_ascii (hc : c.toNat < 128) : isLetter c = asciiLetters.has c := by
  rw [isLetter, has_ascii _ hc, ascii_spec.1.1.1]

theorem isDigit_ascii (hc : c.toNat < 128) : isDigit c = asciiDigits.has c := by
  rw [isDigit, isDecimal, has_ascii _ hc, has_ascii otherDigitRanges hc, ascii_spec.1.1.2.1,
    ascii_spec.1.1.2.2]
  exact Bool.or_false _

theorem mapCase_upper_ascii (hc : c.toNat < 128) :
    mapCase upperRuns upperExpansions c = mapCase [smallLetters] [] c := by
  rw [mapCase_ascii ascii_spec.1.2.2.2.1 hc, ascii_spec.1.2.1.2.1]

theorem mapCase_title_ascii (hc : c.toNat < 128) :
    mapCase titleRuns titleExpansions c = mapCase [smallLetters] [] c := by
  rw [mapCase_ascii ascii_spec.1.2.2.2.2 hc, ascii_spec.1.2.1.2.2]

theorem isOrdinary (hc : c.toNat < 128) : IsOrdinary c := by
  obtain ⟨-, hlower, hupper, htwice, hplain⟩ := ascii_spec.2 c.toNat hc
  simp only [Char.ofNat_toNat] at hlower hupper htwice hplain
  refine ⟨fun before after => ?_, ?_, ?_, ?_⟩
  · rw [lowerAt, if_neg (by omega), mapCase_ascii ascii_spec.1.2.2.1 hc, ascii_spec.1.2.1.1, hlower,
      List.map_singleton, htwice]
  · rw [mapCase_upper_ascii hc, hupper]
  · rw [mapCase_title_ascii hc, hupper]
  · rwa [isLetter_ascii hc, isDigit_ascii hc]

theorem isCaseless (c : Char) : IsCaseless c := by
  by_cases hupper : c.isUpper
  · have hc : c.toNat < 128 := by
      have hbounds := isUpper_iff.mp hupper
      omega
    obtain ⟨⟨hsmall, hletter, hdigit, hblank, himage, hmark⟩, -⟩ := ascii_spec.2 c.toNat hc
    simp only [Char.ofNat_toNat] at hsmall hletter hdigit hblank himage hmark
    refine ⟨?_, ?_, hblank, ?_, ?_, fun m hm => ?_⟩
    · rw [isLetter_ascii hsmall, isLetter_ascii hc, hletter]
    · rw [isDigit_ascii hsmall, isDigit_ascii hc, hdigit]
    · rw [mapCase_upper_ascii hsmall, mapCase_upper_ascii hc, himage]
    · rw [mapCase_title_ascii hsmall, mapCase_title_ascii hc, himage]
    · simpa using List.map_inj_left.mp hmark m hm
  · have hsame : c.toLower = c := toLower_of_not_isUpper hupper
    constructor <;> simp [hsame]

theorem toNat_toLower_lt_iff (c : Char) : c.toLower.toNat < 128 ↔ c.toNat < 128 := by
  by_cases hupper : c.isUpper
  · have hc : c.toNat < 128 := by
      have hbounds := isUpper_iff.mp hupper
      omega
    have hsmall := (ascii_spec.2 c.toNat hc).1.1
    rw [Char.ofNat_toNat] at hsmall
    exact ⟨fun _ => hc, fun _ => hsmall⟩
  · rw [toLower_of_not_isUpper hupper]

theorem isAscii_map_toLower : IsAscii (cs.map Char.toLower) ↔ IsAscii cs := by
  simp [IsAscii, toNat_toLower_lt_iff]

/-! ## Texts with small letters -/

theorem toLower_map_toLower (cs : List Char) : toLower (cs.map Char.toLower) = toLower cs :=
  lowerFrom_map_toLower [] cs

theorem toUpper_map_toLower (cs : List Char) : toUpper (cs.map Char.toLower) = toUpper cs := by
  rw [toUpper, List.flatMap_map]
  exact List.flatMap_congr fun c _ => (isCaseless c).upper

theorem titleFrom_map_toLower (before cs : List Char) :
    titleFrom (before.map Char.toLower) (cs.map Char.toLower) = titleFrom before cs := by
  induction cs generalizing before with
  | nil => rfl
  | cons c cs ih =>
    have hbefore : (before.map Char.toLower).head?.any isCased = before.head?.any isCased := by
      cases before with
      | nil => rfl
      | cons d before => simp [(lowersAlike d).cased]
    have hrest := ih (c :: before)
    rw [List.map_cons] at hrest
    rw [List.map_cons, titleFrom, titleFrom, hbefore, lowerAt_map_toLower, (isCaseless c).title,
      hrest]

theorem toTitle_map_toLower (cs : List Char) : toTitle (cs.map Char.toLower) = toTitle cs :=
  titleFrom_map_toLower [] cs

/-! ## ASCII texts -/

theorem map_toLower_lowerFrom (h : IsAscii cs) (before : List Char) :
    (lowerFrom before cs).map Char.toLower = cs.map Char.toLower := by
  induction cs generalizing before with
  | nil => rfl
  | cons c cs ih =>
    obtain ⟨hc, hcs⟩ := List.forall_mem_cons.mp h
    rw [lowerFrom, List.map_append, (isOrdinary hc).lower, ih hcs]
    rfl

theorem map_toLower_toUpper (h : IsAscii cs) :
    (toUpper cs).map Char.toLower = cs.map Char.toLower := by
  induction cs with
  | nil => rfl
  | cons c cs ih =>
    obtain ⟨hc, hcs⟩ := List.forall_mem_cons.mp h
    rw [toUpper, List.flatMap_cons, List.map_append, (isOrdinary hc).upper, ← toUpper, ih hcs]
    rfl

theorem map_toLower_titleFrom (h : IsAscii cs) (before : List Char) :
    (titleFrom before cs).map Char.toLower = cs.map Char.toLower := by
  induction cs generalizing before with
  | nil => rfl
  | cons c cs ih =>
    obtain ⟨hc, hcs⟩ := List.forall_mem_cons.mp h
    rw [titleFrom, List.map_append, ih hcs]
    split
    · rw [(isOrdinary hc).lower]
      rfl
    · rw [(isOrdinary hc).title]
      rfl

end Phrasebook.Text
