-- SUMMARY: Tags are canonical: a locale is read again from its tag, and all spellings of a tag are read alike.
import Mathlib.Data.List.Forall2
import Phrasebook.Proofs.Locale.Subtags
import Phrasebook.Proofs.Text.Ascii
import Phrasebook.Proofs.Text.Endings

/-!
# Canonical tags

A tag has many spellings: in any letter case, with hyphens or underscores, and
with whitespace around it. They are told apart neither by the tests that a part
has to pass nor by the conversions that make subtags of the parts, so that all
of them are read alike.

A conversion changes nothing but letter case, hence a subtag passes the test that
its part has passed, and converting it again does not change it. The parts of a
locale's tag are such subtags, and each is taken for what it was taken before, as
no part of one kind passes the test of another.
-/

namespace Phrasebook.Locale

open Text

variable {tag other : String} {reading : Reading} {l : Locale} {cs part : List Char}
  {test : List Char → Bool} {convert : List Char → List Char}

/-! ## Spellings -/

/-- The characters that stand between the parts of a tag. -/
def separators : List Char :=
  ['-', '_']

/-- Characters that mean the same in a tag: an ASCII letter in either case, or separators. -/
def Alike (c d : Char) : Prop :=
  c.toLower = d.toLower ∨ c ∈ separators ∧ d ∈ separators

/-- Whether the first tag is the second one in another spelling, with whitespace around it. -/
def Respells (other tag : String) : Prop :=
  ∃ before core after, other.toList = before ++ core ++ after ∧ (∀ c ∈ before, isBlank c) ∧
    (∀ c ∈ after, isBlank c) ∧ List.Forall₂ Alike core tag.toList

/-- The one character for all that are alike. -/
def fold (c : Char) : Char :=
  if c.toLower = '-' then '_' else c.toLower

theorem fold_eq_of_alike {c d : Char} (h : Alike c d) : fold c = fold d := by
  have hseparators : ∀ c ∈ separators, fold c = '_' := by simp [separators, fold]
  rcases h with h | ⟨hc, hd⟩
  · rw [fold, fold, h]
  · rw [hseparators c hc, hseparators d hd]

theorem isBlank_fold (c : Char) : isBlank (fold c) = isBlank c := by
  rw [fold]
  split
  case isTrue hdash =>
    obtain rfl := ((isCaseless c).mark '-' (by decide)).mp hdash
    decide
  case isFalse => exact (isCaseless c).blank

/-- In small letters, a normalized tag is the folded one without the whitespace around it. -/
theorem map_toLower_normalize (cs : List Char) :
    (normalize cs).map Char.toLower = trim isBlank (cs.map fold) := by
  rw [trim_map isBlank_fold, normalize, List.map_map]
  refine List.map_congr_left fun c _ => ?_
  rw [Function.comp_apply, fold, apply_ite Char.toLower]
  simp only [(isCaseless c).mark '-' (by decide)]
  rfl

theorem map_toLower_normalize_eq (h : Respells other tag) :
    (normalize other.toList).map Char.toLower = (normalize tag.toList).map Char.toLower := by
  obtain ⟨before, core, after, hother, hbefore, hafter, hcore⟩ := h
  have hfold : core.map fold = tag.toList.map fold := by
    rw [← List.forall₂_eq_eq_eq, List.forall₂_map_left_iff, List.forall₂_map_right_iff]
    exact hcore.imp fun _ _ => fold_eq_of_alike
  have hpad : ∀ {cs : List Char}, (∀ c ∈ cs, isBlank c) → ∀ c ∈ cs.map fold, isBlank c := by
    intro cs hcs c hc
    obtain ⟨d, hd, rfl⟩ := List.mem_map.mp hc
    rw [isBlank_fold, hcs d hd]
  rw [map_toLower_normalize, map_toLower_normalize, hother, List.map_append, List.map_append,
    trim_pad (hpad hbefore) (hpad hafter), hfold]

/-! ## Tests and conversions -/

/-- A test of letters and digits and a conversion, neither of which depends on the case of ASCII
letters; and that case is all that the conversion changes in ASCII. -/
structure IsRecasing (test : List Char → Bool) (convert : List Char → List Char) : Prop where
  plain : ∀ {cs}, test cs → ∀ c ∈ cs, isLetter c ∨ isDigit c
  test_map : ∀ cs, test (cs.map Char.toLower) = test cs
  convert_map : ∀ cs, convert (cs.map Char.toLower) = convert cs
  map_convert : ∀ {cs}, IsAscii cs → (convert cs).map Char.toLower = cs.map Char.toLower

theorem isLetter_of_isWord (h : isWord cs) : ∀ c ∈ cs, isLetter c := by
  rw [isWord, Bool.and_eq_true, List.all_eq_true] at h
  exact h.2

theorem isWord_map_toLower (cs : List Char) : isWord (cs.map Char.toLower) = isWord cs := by
  have hletter : isLetter ∘ Char.toLower = isLetter := funext fun c => (isCaseless c).letter
  rw [isWord, isWord, List.isEmpty_map, List.all_map, hletter]

theorem isRecasing_language : IsRecasing isWord toLower where
  plain h c hc := .inl (isLetter_of_isWord h c hc)
  test_map := isWord_map_toLower
  convert_map := toLower_map_toLower
  map_convert h := map_toLower_lowerFrom h []

theorem isRecasing_script : IsRecasing isScript toTitle where
  plain h c hc := by
    rw [isScript, Bool.and_eq_true] at h
    exact .inl (isLetter_of_isWord h.2 c hc)
  test_map cs := by rw [isScript, isScript, List.length_map, isWord_map_toLower]
  convert_map := toTitle_map_toLower
  map_convert h := map_toLower_titleFrom h []

theorem isRecasing_country : IsRecasing isCountry toUpper where
  plain h c hc := by
    rw [isCountry, Bool.or_eq_true, Bool.and_eq_true, Bool.and_eq_true, List.all_eq_true] at h
    exact h.imp (fun h => isLetter_of_isWord h.2 c hc) fun h => h.2 c hc
  test_map cs := by
    have hdigit : isDigit ∘ Char.toLower = isDigit := funext fun c => (isCaseless c).digit
    rw [isCountry, isCountry, List.length_map, isWord_map_toLower, List.all_map, hdigit]
  convert_map := toUpper_map_toLower
  map_convert := map_toLower_toUpper

theorem isVariant_map_toLower (cs : List Char) :
    isVariant (cs.map Char.toLower) = isVariant cs := by
  cases cs with
  | nil => rfl
  | cons c cs => simp [isVariant, (isCaseless c).letter, (isCaseless c).digit]

/-! ## Reading without regard to case -/

theorem takePart_map_toLower (h : IsRecasing test convert) (parts : List (List Char)) :
    takePart test convert (parts.map (List.map Char.toLower)) =
      (takePart test convert parts).map id (List.map (List.map Char.toLower)) := by
  cases parts with
  | nil => rfl
  | cons part parts =>
    rw [List.map_cons, takePart, takePart, h.test_map, h.convert_map]
    split <;> rfl

theorem takeVariant_map_toLower (parts : List (List Char)) :
    takeVariant (parts.map (List.map Char.toLower)) =
      (takeVariant parts).map id (List.map (List.map Char.toLower)) := by
  have hupper : toUpper ∘ List.map Char.toLower = toUpper := funext toUpper_map_toLower
  simp only [takeVariant, List.head?_map, Option.any_map, isVariant_map_toLower]
  split
  · rw [List.getLast?_map, Option.map_map, hupper, ← List.map_dropLast]
    rfl
  · rfl

theorem ofParts_map_toLower_eq_ok_iff {identifier : List Char} :
    ofParts (identifier.map Char.toLower) = .ok reading ↔ ofParts identifier = .ok reading := by
  rw [ofParts, ofParts, split_map fun c => (isCaseless c).mark '_' (by decide)]
  cases split '_' identifier with
  | nil => simp
  | cons first parts =>
    simp only [List.map_cons, toLower_map_toLower, takePart_map_toLower isRecasing_script,
      takePart_map_toLower isRecasing_country, takeVariant_map_toLower, Prod.map, id_eq]
    split
    case isFalse => simp
    case isTrue =>
      cases (takeVariant (takePart isCountry toUpper (takePart isScript toTitle parts).2).2).2 with
      | nil => rfl
      | cons part rest => simp

theorem ofNormalized_map_toLower_eq_ok_iff :
    ofNormalized (cs.map Char.toLower) = .ok reading ↔ ofNormalized cs = .ok reading := by
  have hmark : ∀ m ∈ tagMarks,
      (fun c => decide (c ≠ m)) ∘ Char.toLower = fun c => decide (c ≠ m) := by
    intro m hm
    funext c
    simp [(isCaseless c).mark m hm]
  rw [ofNormalized_eq_ok_iff, ofNormalized_eq_ok_iff, List.takeWhile_map, List.takeWhile_map,
    List.dropWhile_map, hmark '@' (by decide), hmark '.' (by decide), ← List.map_drop,
    List.map_eq_nil_iff, ofParts_map_toLower_eq_ok_iff, ne_eq, List.map_eq_nil_iff]

theorem parse_eq_ok_iff :
    parse tag = .ok reading ↔ ofNormalized (normalize tag.toList) = .ok reading := by
  rw [parse, Except.mapError_eq_ok_iff]

/-- All spellings of a tag are read alike, or none of them is. -/
theorem parse_eq_ok_iff_of_respells (h : Respells other tag) :
    parse other = .ok reading ↔ parse tag = .ok reading := by
  rw [parse_eq_ok_iff, parse_eq_ok_iff, ← ofNormalized_map_toLower_eq_ok_iff,
    map_toLower_normalize_eq h, ofNormalized_map_toLower_eq_ok_iff]

/-! ## Settled subtags -/

/-- An ASCII subtag that passes its test and is as the conversion leaves it. -/
structure IsSettled (test : List Char → Bool) (convert : List Char → List Char)
    (cs : List Char) : Prop where
  ascii : IsAscii cs
  passes : test cs
  same : convert cs = cs

/-- What a part is converted to is settled if the part passes the test. -/
theorem IsRecasing.isSettled (h : IsRecasing test convert) (hascii : IsAscii cs) (htest : test cs) :
    IsSettled test convert (convert cs) where
  ascii := by rwa [← isAscii_map_toLower, h.map_convert hascii, isAscii_map_toLower]
  passes := by rwa [← h.test_map, h.map_convert hascii, h.test_map]
  same := by rw [← h.convert_map, h.map_convert hascii, h.convert_map]

/-- A settled subtag has no whitespace, and no character with a meaning of its own in a tag. -/
theorem IsSettled.plain (h : IsSettled test convert cs) (hrecasing : IsRecasing test convert) :
    ∀ c ∈ cs, isBlank c = false ∧ c ∉ tagMarks :=
  fun c hc => (isOrdinary (h.ascii c hc)).plain (hrecasing.plain h.passes c hc)

theorem IsSettled.takePart_cons (h : IsSettled test convert cs) (rest : List (List Char)) :
    takePart test convert (cs :: rest) = (some cs, rest) := by
  rw [takePart, if_pos h.passes, h.same]

/-- A locale whose subtags are settled. -/
structure IsCanonical (l : Locale) : Prop where
  language : IsSettled isWord toLower l.language.toList
  script : ∀ s ∈ l.script, IsSettled isScript toTitle s.toList
  country : ∀ s ∈ l.country, IsSettled isCountry toUpper s.toList

theorem isSettled_takePart (h : IsRecasing test convert) {parts rest : List (List Char)}
    {subtag : Option (List Char)} (hparts : ∀ part ∈ parts, IsAscii part)
    (htake : takePart test convert parts = (subtag, rest)) :
    (∀ s ∈ subtag.map String.ofList, IsSettled test convert s.toList) ∧
      ∀ part ∈ rest, IsAscii part := by
  unfold takePart at htake
  split at htake
  · cases htake
    exact ⟨by simp, hparts⟩
  · rename_i part parts
    split at htake
    case isFalse =>
      cases htake
      exact ⟨by simp, hparts⟩
    case isTrue htest =>
      cases htake
      rw [List.forall_mem_cons] at hparts
      refine ⟨fun s hs => ?_, hparts.2⟩
      obtain rfl : String.ofList (convert part) = s := by simpa using hs
      rw [String.toList_ofList]
      exact h.isSettled hparts.1 htest

theorem isAscii_normalize (h : IsAscii cs) : IsAscii (normalize cs) := by
  intro c hc
  obtain ⟨d, hd, rfl⟩ := List.mem_map.mp hc
  split
  · decide
  · exact h d ((trim_sublist _ _).subset hd)

/-- The subtags that are read from an ASCII tag are settled. -/
theorem isCanonical_of_parse (hascii : IsAscii tag.toList) (h : parse tag = .ok reading) :
    IsCanonical reading.locale := by
  rw [parse_eq_ok_iff, ofNormalized_eq_ok_iff, ofParts_eq_ok_iff] at h
  obtain ⟨-, -, first, parts, script, afterScript, country, afterCountry, variant, hsplit, hword,
    hscript, hcountry, -, rfl⟩ := h
  have hparts : ∀ part ∈ first :: parts, IsAscii part := by
    intro part hpart c hc
    rw [← hsplit] at hpart
    have hmem := (mem_of_mem_split hpart hc).1
    exact isAscii_normalize hascii c
      ((List.takeWhile_prefix _).subset ((List.takeWhile_prefix _).subset hmem))
  rw [List.forall_mem_cons] at hparts
  obtain ⟨hscript, hrest⟩ := isSettled_takePart isRecasing_script hparts.2 hscript
  refine ⟨?_, hscript, (isSettled_takePart isRecasing_country hrest hcountry).1⟩
  rw [String.toList_ofList]
  refine isRecasing_language.isSettled hparts.1 ?_
  rwa [← isWord_map_toLower, isRecasing_language.map_convert hparts.1, isWord_map_toLower] at hword

/-! ## Tags of canonical locales -/

/-- The subtags of a locale in the order of its tag. -/
def subtags (l : Locale) : List (List Char) :=
  l.language.toList :: (l.script.toList ++ l.country.toList).map String.toList

/-- No script is as long as a country. -/
theorem isScript_of_isCountry (h : isCountry cs) : isScript cs = false := by
  rw [isCountry, Bool.or_eq_true, Bool.and_eq_true, Bool.and_eq_true, beq_iff_eq, beq_iff_eq] at h
  rw [isScript, Bool.and_eq_false_iff, beq_eq_false_iff_ne]
  omega

namespace IsCanonical

theorem plain (h : IsCanonical l) :
    ∀ cs ∈ subtags l, ∀ c ∈ cs, isBlank c = false ∧ c ∉ tagMarks := by
  simp only [subtags, List.map_append, List.forall_mem_cons, List.forall_mem_append,
    List.forall_mem_map, Option.mem_toList]
  exact ⟨h.language.plain isRecasing_language, fun s hs => (h.script s hs).plain isRecasing_script,
    fun s hs => (h.country s hs).plain isRecasing_country⟩

theorem toList_tag (h : IsCanonical l) : l.tag.toList = join ['_'] (subtags l) := by
  have hscript : l.script ≠ some "" := fun hempty =>
    absurd (h.script "" hempty).passes (by decide)
  have hcountry : l.country ≠ some "" := fun hempty =>
    absurd (h.country "" hempty).passes (by decide)
  rw [tag, filled_eq_self hscript, filled_eq_self hcountry, toList_joinStrings]
  rfl

theorem mem_tag (h : IsCanonical l) {c : Char} (hc : c ∈ l.tag.toList) :
    isBlank c = false ∧ c ∉ ['-', '@', '.'] := by
  rw [h.toList_tag] at hc
  rcases mem_join hc with hc | ⟨cs, hcs, hc⟩
  · rw [List.mem_singleton.mp hc]
    decide
  · have hmarks : ['-', '@', '.'] ⊆ tagMarks := by simp [tagMarks]
    obtain ⟨hblank, hmark⟩ := h.plain cs hcs c hc
    exact ⟨hblank, fun hmem => hmark (hmarks hmem)⟩

/-- Normalization leaves the tag as it is. -/
theorem normalize_tag (h : IsCanonical l) : normalize l.tag.toList = l.tag.toList := by
  rw [normalize, trim_eq_self fun c hc => (h.mem_tag hc).1]
  have hsame : ∀ c ∈ l.tag.toList, (if c = '-' then '_' else c) = c := by
    intro c hc
    refine if_neg ?_
    rintro rfl
    exact (h.mem_tag hc).2 (by decide)
  rw [List.map_congr_left hsame, List.map_id']

/-- The parts of the tag are taken for the subtags that they are. -/
theorem ofParts_tag (h : IsCanonical l) : ofParts l.tag.toList = .ok { locale := l } := by
  have hsplit : split '_' l.tag.toList = subtags l := by
    rw [h.toList_tag]
    refine split_join (List.cons_ne_nil _ _) fun cs hcs hmem => ?_
    exact (h.plain cs hcs '_' hmem).2 (by decide)
  obtain ⟨⟨-, hword, hlower⟩, hscript, hcountry⟩ := h
  obtain ⟨language, country, script⟩ := l
  simp only at hword hlower hscript hcountry
  have htakeScript : takePart isScript toTitle ((script.toList ++ country.toList).map String.toList) =
      (script.map String.toList, country.toList.map String.toList) := by
    cases script with
    | some s => exact (hscript s rfl).takePart_cons _
    | none =>
      cases country with
      | none => rfl
      | some s => simp [takePart, isScript_of_isCountry (hcountry s rfl).passes]
  have htakeCountry : takePart isCountry toUpper (country.toList.map String.toList) =
      (country.map String.toList, []) := by
    cases country with
    | none => rfl
    | some s => exact (hcountry s rfl).takePart_cons []
  rw [ofParts_eq_ok_iff]
  exact ⟨_, _, _, _, _, [], none, hsplit, by rwa [hlower], htakeScript, htakeCountry, rfl, by
    simp [hlower, Function.comp_def]⟩

theorem parse_tag (h : IsCanonical l) : parse l.tag = .ok { locale := l } := by
  have hmark : ∀ m ∈ ['-', '@', '.'], ∀ c ∈ l.tag.toList, c ≠ m := by
    rintro m hm c hc rfl
    exact (h.mem_tag hc).2 hm
  have htake : ∀ m ∈ ['-', '@', '.'], l.tag.toList.takeWhile (· ≠ m) = l.tag.toList := fun m hm =>
    List.takeWhile_eq_self_iff.mpr fun c hc => by simpa using hmark m hm c hc
  have hdrop : l.tag.toList.dropWhile (· ≠ '@') = [] :=
    List.dropWhile_eq_nil_iff.mpr fun c hc => by simpa using hmark '@' (by decide) c hc
  have hne : l.tag.toList ≠ [] := by
    intro hempty
    have hparts := h.ofParts_tag
    rw [hempty] at hparts
    cases hparts
  rw [parse_eq_ok_iff, h.normalize_tag, ofNormalized_eq_ok_iff, htake '@' (by decide),
    htake '.' (by decide), hdrop]
  exact ⟨hne, rfl, h.ofParts_tag⟩

end IsCanonical

/-! ## Canonical tags -/

/-- A locale that an ASCII tag is read as is read again from its own tag, which has no variant, so
that other locales have other tags. And all spellings of an ASCII tag are read as the same locale,
or none of them is read. -/
theorem tag_canonical {tag : String} (hascii : IsAscii tag.toList) :
    (∀ reading, parse tag = .ok reading →
      parse reading.locale.tag = .ok { locale := reading.locale, variant := none } ∧
      ∀ other reading', IsAscii other.toList → parse other = .ok reading' →
        reading'.locale ≠ reading.locale → reading'.locale.tag ≠ reading.locale.tag) ∧
    ∀ other, Respells other tag → ∀ reading, parse other = .ok reading ↔ parse tag = .ok reading := by
  refine ⟨fun reading hread => ?_, fun other hother reading => parse_eq_ok_iff_of_respells hother⟩
  have hagain := (isCanonical_of_parse hascii hread).parse_tag
  refine ⟨hagain, fun other reading' hother hread' hne htag => hne ?_⟩
  have hagain' := (isCanonical_of_parse hother hread').parse_tag
  rw [htag, hagain] at hagain'
  exact (Reading.mk.inj (Except.ok.inj hagain')).1.symm

/-- Chinese in traditional script as it is written in Taiwan, read from a POSIX spelling. -/
theorem tag_canonical_of_posix :
    ∃ reading, parse "zh-hant_TW.UTF-8" = .ok reading ∧
      parse reading.locale.tag = .ok { locale := reading.locale, variant := none } ∧
      (∃ plain, parse "zh_TW" = .ok plain ∧ plain.locale.tag ≠ reading.locale.tag) ∧
      parse " ZH_hant_tw.utf_8" = .ok reading := by
  have hread : parse "zh-hant_TW.UTF-8" =
        .ok { locale := { language := "zh", country := some "TW", script := some "Hant" } } ∧
      parse "zh_TW" = .ok { locale := { language := "zh", country := some "TW" } } := by
    decide +kernel
  have hother : Respells " ZH_hant_tw.utf_8" "zh-hant_TW.UTF-8" :=
    ⟨[' '], "ZH_hant_tw.utf_8".toList, [], by decide, List.forall_mem_singleton.mpr (by decide),
      List.forall_mem_nil _, by simp [Alike, separators]⟩
  have hascii : IsAscii "zh-hant_TW.UTF-8".toList := by decide
  obtain ⟨htag, hspelling⟩ := tag_canonical hascii
  obtain ⟨hagain, happart⟩ := htag _ hread.1
  exact ⟨_, hread.1, hagain, ⟨_, hread.2, happart "zh_TW" _ (by decide) hread.2 (by decide)⟩,
    (hspelling _ hother _).mpr hread.1⟩

end Phrasebook.Locale
