-- SUMMARY: What the subtags of a locale are made of that is read from a tag; none breaks a line.
import Mathlib.Data.List.Basic
import Phrasebook.Locale
import Phrasebook.Proofs.Outcome
import Phrasebook.Proofs.Text.LowerCase

/-!
# Subtags

The language of a tag is letters in lower case, its script four letters in title
case, and its country two letters or three digits in upper case. Letters and
digits are no control characters, and letter case makes none of them.
-/

namespace Phrasebook

namespace Text

variable {c d : Char} {cs : List Char}

/-! ## Characters that break lines -/

/-- A character that is neither a line feed nor a carriage return. -/
def NoBreak (c : Char) : Prop :=
  c ≠ '\n' ∧ c ≠ '\r'

instance : DecidablePred NoBreak := fun c =>
  inferInstanceAs (Decidable (c ≠ '\n' ∧ c ≠ '\r'))

theorem noBreak_of_le_toNat (hc : 32 ≤ c.toNat) : NoBreak c := by
  constructor
  · rintro rfl
    exact absurd hc (by decide)
  · rintro rfl
    exact absurd hc (by decide)

theorem noBreak_ofNat {n : ℕ} (hn : 32 ≤ n) : NoBreak (Char.ofNat n) := by
  rcases ofNat_eq_or n with hchar | hzero
  · exact noBreak_of_le_toNat (by rwa [hchar])
  · rw [hzero]
    decide

/-- Whether a character class has no character that breaks lines. -/
def Ranges.isClear (table : Ranges) : Bool :=
  !table.has '\n' && !table.has '\r'

/-- Whether no image of a case table is one of the control characters that come first. -/
def clearsControls (runs : List CaseRun) (expansions : List (ℕ × List ℕ)) : Bool :=
  runs.all (fun r => 32 ≤ r.first + r.shift) && expansions.all (·.2.all (32 ≤ ·))

theorem tables_clear :
    (letterRanges.isClear ∧ decimalRanges.isClear ∧ otherDigitRanges.isClear) ∧
    clearsControls lowerRuns lowerExpansions ∧ clearsControls upperRuns upperExpansions ∧
    clearsControls titleRuns titleExpansions := by
  decide +kernel

/-! ## Letters and digits -/

theorem noBreak_of_has {table : Ranges} (h : table.isClear) (hc : table.has c) : NoBreak c := by
  rw [Ranges.isClear, Bool.and_eq_true, Bool.not_eq_true', Bool.not_eq_true'] at h
  constructor
  · rintro rfl
    rw [h.1] at hc
    cases hc
  · rintro rfl
    rw [h.2] at hc
    cases hc

theorem noBreak_of_isLetter (hc : isLetter c) : NoBreak c :=
  noBreak_of_has tables_clear.1.1 hc

theorem noBreak_of_isDigit (hc : isDigit c) : NoBreak c := by
  rw [isDigit, Bool.or_eq_true] at hc
  rcases hc with hc | hc
  · exact noBreak_of_has tables_clear.1.2.1 hc
  · exact noBreak_of_has tables_clear.1.2.2 hc

/-! ## Letter case -/

theorem noBreak_of_mem_mapCase {runs : List CaseRun} {expansions : List (ℕ × List ℕ)}
    (h : clearsControls runs expansions) (hc : NoBreak c) (hd : d ∈ mapCase runs expansions c) :
    NoBreak d := by
  rw [clearsControls, Bool.and_eq_true, List.all_eq_true, List.all_eq_true] at h
  unfold mapCase at hd
  split at hd
  · rename_i n image hfound
    obtain ⟨m, hm, rfl⟩ := List.mem_map.mp hd
    have himage := List.all_eq_true.mp (h.2 _ (List.mem_of_find?_eq_some hfound)) m hm
    exact noBreak_ofNat (of_decide_eq_true himage)
  · split at hd
    · rename_i r hr
      obtain rfl := List.mem_singleton.mp hd
      have hfirst := of_decide_eq_true (h.1 r (List.mem_of_find?_eq_some hr))
      have hhas : r.has c.toNat := by simpa using List.find?_some hr
      simp only [CaseRun.has, Bool.and_eq_true, decide_eq_true_eq] at hhas
      exact noBreak_ofNat (by omega)
    · rwa [List.mem_singleton.mp hd]

theorem noBreak_of_mem_toUpper (hcs : ∀ c ∈ cs, NoBreak c) (hd : d ∈ toUpper cs) :
    NoBreak d := by
  obtain ⟨c, hc, hd⟩ := List.mem_flatMap.mp hd
  exact noBreak_of_mem_mapCase tables_clear.2.2.1 (hcs c hc) hd

theorem noBreak_of_mem_lowerAt {before after : List Char} (hc : NoBreak c)
    (hd : d ∈ lowerAt before c after) : NoBreak d := by
  unfold lowerAt at hd
  split at hd
  · rw [List.mem_singleton.mp hd]
    refine noBreak_ofNat ?_
    split <;> decide
  · exact noBreak_of_mem_mapCase tables_clear.2.1 hc hd

theorem noBreak_of_mem_titleFrom {before : List Char} (hcs : ∀ c ∈ cs, NoBreak c)
    (hd : d ∈ titleFrom before cs) : NoBreak d := by
  induction cs generalizing before with
  | nil => cases hd
  | cons c cs ih =>
    rw [List.forall_mem_cons] at hcs
    rw [titleFrom, List.mem_append] at hd
    rcases hd with hd | hd
    · split at hd
      · exact noBreak_of_mem_lowerAt hcs.1 hd
      · exact noBreak_of_mem_mapCase tables_clear.2.2.2 hcs.1 hd
    · exact ih hcs.2 hd

end Text

namespace Locale

open Text

variable {cs identifier : List Char} {reading : Reading}

/-! ## Subtags -/

theorem filled_eq_self {subtag : Option String} (h : subtag ≠ some "") :
    filled subtag = subtag := by
  cases subtag with
  | none => rfl
  | some text =>
    have hne : text ≠ "" := fun htext => h (by rw [htext])
    simp [filled, hne]

theorem takePart_eq_some {test : List Char → Bool} {convert : List Char → List Char}
    {parts rest : List (List Char)} (h : takePart test convert parts = (some cs, rest)) :
    ∃ part, parts = part :: rest ∧ test part ∧ cs = convert part := by
  unfold takePart at h
  split at h
  · cases h
  · rename_i part rest'
    split at h
    case isTrue htest =>
      cases h
      exact ⟨part, rfl, htest, rfl⟩
    case isFalse => cases h

/-- A subtag that is the converted form of a part that passes a test, if there is one at all. -/
def Converted (test : List Char → Bool) (convert : List Char → List Char)
    (subtag : Option String) : Prop :=
  ∀ s ∈ subtag, ∃ part, test part ∧ s.toList = convert part

/-- What the subtags are that are read from a tag. -/
structure Subtags (l : Locale) : Prop where
  language : isWord l.language.toList
  script : Converted isScript toTitle l.script
  country : Converted isCountry toUpper l.country

theorem converted_takePart {test : List Char → Bool} {convert : List Char → List Char}
    {parts rest : List (List Char)} {subtag : Option (List Char)}
    (h : takePart test convert parts = (subtag, rest)) :
    Converted test convert (subtag.map String.ofList) := by
  intro s hs
  obtain ⟨cs, rfl, rfl⟩ := Option.mem_map.mp hs
  obtain ⟨part, -, htest, rfl⟩ := takePart_eq_some h
  exact ⟨part, htest, String.toList_ofList⟩

/-- Parts are read one kind after the other, and none may be left. -/
theorem ofParts_eq_ok_iff :
    ofParts identifier = .ok reading ↔
      ∃ first parts script afterScript country afterCountry variant,
        split '_' identifier = first :: parts ∧ isWord (toLower first) ∧
        takePart isScript toTitle parts = (script, afterScript) ∧
        takePart isCountry toUpper afterScript = (country, afterCountry) ∧
        takeVariant afterCountry = (variant, []) ∧
        reading = {
          locale := {
            language := String.ofList (toLower first)
            country := country.map String.ofList
            script := script.map String.ofList }
          variant := variant.map String.ofList } := by
  constructor
  · intro h
    unfold ofParts at h
    split at h
    · cases h
    · rename_i first parts hsplit
      simp only at h
      split at h
      case isFalse => cases h
      case isTrue hword =>
        split at h
        case h_2 => cases h
        case h_1 hrest =>
          cases h
          exact ⟨first, parts, _, _, _, _, _, hsplit, hword, rfl, rfl, Prod.ext rfl hrest, rfl⟩
  · rintro ⟨first, parts, script, afterScript, country, afterCountry, variant, hsplit, hword,
      hscript, hcountry, hvariant, rfl⟩
    simp only [ofParts, hsplit, hword, hscript, hcountry, hvariant, if_true]

/-- A tag is read if it has no modifier and the parts before it are. -/
theorem ofNormalized_eq_ok_iff :
    ofNormalized cs = .ok reading ↔
      cs ≠ [] ∧ (cs.dropWhile (· ≠ '@')).drop 1 = [] ∧
        ofParts ((cs.takeWhile (· ≠ '@')).takeWhile (· ≠ '.')) = .ok reading := by
  unfold ofNormalized
  dsimp only
  generalize ofParts ((cs.takeWhile (· ≠ '@')).takeWhile (· ≠ '.')) = outcome
  generalize (cs.dropWhile (· ≠ '@')).drop 1 = modifier
  cases outcome with
  | error reason => cases cs <;> simp
  | ok read => cases cs <;> cases modifier <;> simp

theorem subtags_of_parse {tag : String} (h : parse tag = .ok reading) : Subtags reading.locale := by
  rw [parse, Except.mapError_eq_ok_iff, ofNormalized_eq_ok_iff, ofParts_eq_ok_iff] at h
  obtain ⟨-, -, first, parts, script, afterScript, country, afterCountry, variant, -, hword,
    hscript, hcountry, -, rfl⟩ := h
  exact ⟨by rwa [String.toList_ofList], converted_takePart hscript, converted_takePart hcountry⟩

/-- A locale that some tag is read as. -/
def IsRead (l : Locale) : Prop :=
  ∃ tag reading, parse tag = .ok reading ∧ reading.locale = l

theorem IsRead.subtags {l : Locale} (h : IsRead l) : Subtags l := by
  obtain ⟨tag, reading, hread, rfl⟩ := h
  exact subtags_of_parse hread

/-! ## Lines -/

theorem noBreak_of_isWord (h : isWord cs) : ∀ c ∈ cs, NoBreak c := by
  rw [isWord, Bool.and_eq_true, List.all_eq_true] at h
  exact fun c hc => noBreak_of_isLetter (h.2 c hc)

theorem noBreak_of_isScript (h : isScript cs) : ∀ c ∈ cs, NoBreak c := by
  rw [isScript, Bool.and_eq_true] at h
  exact noBreak_of_isWord h.2

theorem noBreak_of_isCountry (h : isCountry cs) : ∀ c ∈ cs, NoBreak c := by
  rw [isCountry, Bool.or_eq_true, Bool.and_eq_true, Bool.and_eq_true, List.all_eq_true] at h
  rcases h with h | h
  · exact noBreak_of_isWord h.2
  · exact fun c hc => noBreak_of_isDigit (h.2 c hc)

namespace Subtags

variable {l : Locale} {s : String}

theorem noBreak_language (h : Subtags l) : ∀ c ∈ l.language.toList, NoBreak c :=
  noBreak_of_isWord h.language

theorem noBreak_script (h : Subtags l) (hs : s ∈ l.script) : ∀ c ∈ s.toList, NoBreak c := by
  obtain ⟨part, hpart, heq⟩ := h.script s hs
  rw [heq]
  exact fun c hc => noBreak_of_mem_titleFrom (noBreak_of_isScript hpart) hc

theorem noBreak_country (h : Subtags l) (hs : s ∈ l.country) : ∀ c ∈ s.toList, NoBreak c := by
  obtain ⟨part, hpart, heq⟩ := h.country s hs
  rw [heq]
  exact fun c hc => noBreak_of_mem_toUpper (noBreak_of_isCountry hpart) hc

end Subtags

end Locale

end Phrasebook
