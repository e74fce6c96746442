-- SUMMARY: What case styles keep of a key, and the runs of letters and digits they put together.
import Mathlib.Data.List.Basic
import Mathlib.Tactic.Common
import Phrasebook.Proofs.Naming.Capitals
import Phrasebook.Proofs.Text.Lines

/-!
# Words of names

Every step from a key to its name only puts in underscores, takes them out or
changes case, so that the letters and digits of the key are in each name in
order. What makes the shape of names is the last two steps towards snake case:
no two underscores stand side by side after the one, none at either end after
the other. A name that is so is its pieces between underscores, joined again,
and the same steps leave it as it is.
-/

namespace Phrasebook

namespace Naming

open Text

variable {c : Char} {cs cs' name : List Char} {runs : List (List Char)} {p q : Char → Bool}

/-! ## Content -/

theorem not_isUnderscore_of_isAlphanum (h : c.isAlphanum) : isUnderscore c = false := by
  rw [← Bool.not_eq_true, isUnderscore, decide_eq_true_eq]
  rintro rfl
  revert h
  decide

theorem isUnderscore_toLower (c : Char) : isUnderscore c.toLower = isUnderscore c := by
  by_cases h : c.isUpper
  · have halnum : c.isAlphanum := by simp [Char.isAlphanum, Char.isAlpha, h]
    have hlower : c.toLower.isAlphanum := by rwa [isAlphanum_toLower]
    rw [not_isUnderscore_of_isAlphanum halnum, not_isUnderscore_of_isAlphanum hlower]
  · rw [Char.toLower_eq_of_not_isUpper h]

theorem isUnderscore_toUpper (c : Char) : isUnderscore c.toUpper = isUnderscore c := by
  rw [← isUnderscore_toLower, Char.toLower_toUpper_eq_toLower, isUnderscore_toLower]

/-- A text with its underscores taken out. -/
def stripped (cs : List Char) : List Char :=
  cs.filter (!isUnderscore ·)

theorem stripped_cons_congr (h : stripped cs = stripped cs') (c : Char) :
    stripped (c :: cs) = stripped (c :: cs') := by
  rw [stripped, stripped, List.filter_cons, List.filter_cons, ← stripped, ← stripped, h]

theorem stripped_underscore_cons (h : isUnderscore c) (cs : List Char) :
    stripped (c :: cs) = stripped cs :=
  List.filter_cons_of_neg (by simp [h])

theorem stripped_eq_self (h : ∀ c ∈ cs, c.isAlphanum) : stripped cs = cs :=
  List.filter_eq_self.mpr fun c hc => by simp [not_isUnderscore_of_isAlphanum (h c hc)]

theorem stripped_clean (key : List Char) : stripped (clean key) = key.filter Char.isAlphanum := by
  rw [stripped, clean, filter_trim (by simp)]
  induction key with
  | nil => rfl
  | cons c key ih =>
    by_cases h : c.isAlphanum
    · have hkept : (if isNameChar c then c else '_') = c := if_pos (isNameChar_of_isAlphanum h)
      rw [List.map_cons, hkept, List.filter_cons_of_pos h,
        List.filter_cons_of_pos (by simp [not_isUnderscore_of_isAlphanum h]), ih]
    · have hunderscore : (if isNameChar c then c else '_') = '_' := by simp [isNameChar, h]
      rw [List.map_cons, hunderscore, List.filter_cons_of_neg h,
        List.filter_cons_of_neg (by decide), ih]

theorem stripped_breakWords (name : List Char) : stripped (breakWords name) = stripped name := by
  fun_induction breakWords name with
  | case1 => rfl
  | case2 => rfl
  | case3 c d cs _ ih => exact stripped_cons_congr ((stripped_underscore_cons rfl _).trans ih) c
  | case4 c d cs _ ih => exact stripped_cons_congr ih c

theorem stripped_squeeze (name : List Char) : stripped (squeeze name) = stripped name := by
  fun_induction squeeze name with
  | case1 => rfl
  | case2 => rfl
  | case3 c d cs h ih =>
    rw [Bool.and_eq_true] at h
    exact ih.trans (stripped_underscore_cons h.1 _).symm
  | case4 c d cs _ ih => exact stripped_cons_congr ih c

theorem stripped_map {f : Char → Char} (hf : ∀ c, isUnderscore (f c) = isUnderscore c)
    (cs : List Char) : stripped (cs.map f) = (stripped cs).map f := by
  have hsame : (!isUnderscore ·) ∘ f = (!isUnderscore ·) := by
    funext c
    simp [hf]
  rw [stripped, List.filter_map, hsame, stripped]

theorem stripped_snakeCase (name : List Char) :
    stripped (snakeCase name) = (stripped name).map Char.toLower := by
  rw [snakeCase, stripped, filter_trim (by simp), ← stripped, stripped_squeeze,
    stripped_map isUnderscore_toLower, stripped_breakWords]

theorem flatten_words (name : List Char) :
    (words name).flatten = (stripped name).map Char.toLower := by
  rw [words, List.flatten_filter_not_isEmpty, flatten_split, ← stripped_snakeCase]
  rfl

theorem map_toLower_capitalize (word : List Char) :
    (capitalize word).map Char.toLower = word.map Char.toLower := by
  cases word with
  | nil => rfl
  | cons c cs => simp [capitalize]

theorem map_toLower_flatMap_capitalize (runs : List (List Char)) :
    (runs.flatMap capitalize).map Char.toLower = runs.flatten.map Char.toLower := by
  rw [List.map_flatMap, List.map_flatten, List.flatMap_def]
  simp only [map_toLower_capitalize]

/-! ## Shape -/

/-- No two underscores stand side by side. -/
def IsSpaced (cs : List Char) : Prop :=
  cs.IsChain fun c d => ¬ (isUnderscore c ∧ isUnderscore d)

theorem head?_squeeze (cs : List Char) : (squeeze cs).head? = cs.head? := by
  fun_induction squeeze cs with
  | case1 => rfl
  | case2 => rfl
  | case3 c d cs h ih =>
    simp only [Bool.and_eq_true, decide_eq_true_eq] at h
    rw [ih, h.1, h.2]
    rfl
  | case4 => rfl

theorem isSpaced_squeeze (cs : List Char) : IsSpaced (squeeze cs) := by
  fun_induction squeeze cs with
  | case1 => exact .nil
  | case2 c => exact .singleton c
  | case3 c d cs _ ih => exact ih
  | case4 c d cs h ih =>
    refine List.isChain_cons.mpr ⟨?_, ih⟩
    rw [head?_squeeze]
    rintro e he
    obtain rfl : d = e := Option.some.inj he
    rwa [Bool.and_eq_true] at h

theorem squeeze_of_isSpaced (h : IsSpaced cs) : squeeze cs = cs := by
  fun_induction squeeze cs with
  | case1 => rfl
  | case2 => rfl
  | case3 c d cs hboth _ =>
    rw [Bool.and_eq_true] at hboth
    exact absurd hboth (List.isChain_cons_cons.mp h).1
  | case4 c d cs _ ih => rw [ih (List.isChain_cons_cons.mp h).2]

/-- Underscores stand alone, and at neither end. -/
structure IsJoined (cs : List Char) : Prop where
  spaced : IsSpaced cs
  trimmed : trim isUnderscore cs = cs

theorem isJoined_snakeCase (name : List Char) : IsJoined (snakeCase name) where
  spaced := List.IsChain.infix (isSpaced_squeeze _) (isInfix_trim _ _)
  trimmed := trim_trim _ _

theorem breakWords_eq_self (h : ∀ c ∈ name, c.isUpper = false) : breakWords name = name := by
  fun_induction breakWords name with
  | case1 => rfl
  | case2 => rfl
  | case3 c d cs hboundary _ =>
    have hupper : d.isUpper := (Bool.and_eq_true_iff.mp hboundary).2
    simp [h d (by simp)] at hupper
  | case4 c d cs _ ih => rw [ih fun e he => h e (List.mem_cons_of_mem c he)]

theorem snakeCase_snakeCase (name : List Char) : snakeCase (snakeCase name) = snakeCase name := by
  have hlower : ∀ c ∈ snakeCase name, c.isUpper = false :=
    fun c hc => not_isUpper_of_mem_snakeCase hc
  have hmap : (snakeCase name).map Char.toLower = snakeCase name := by
    refine (List.map_congr_left fun c hc => ?_).trans (List.map_id _)
    exact Char.toLower_eq_of_not_isUpper (by simp [hlower c hc])
  have hjoined := isJoined_snakeCase name
  rw [snakeCase, breakWords_eq_self hlower, hmap, squeeze_of_isSpaced hjoined.spaced,
    hjoined.trimmed]

/-! ## Runs -/

/-- Runs of characters of a class, joined by single underscores. -/
structure AreRuns (p : Char → Bool) (runs : List (List Char)) (cs : List Char) : Prop where
  ne_nil : ∀ run ∈ runs, run ≠ []
  chars : ∀ run ∈ runs, ∀ c ∈ run, p c
  joined : join ['_'] runs = cs

/-- Lower-case letters and digits. -/
def isLowerOrDigit (c : Char) : Bool :=
  c.isLower || c.isDigit

/-- Capitals and digits. -/
def isUpperOrDigit (c : Char) : Bool :=
  c.isUpper || c.isDigit

/-- Where underscores stand alone and not at the end, no piece but the first can be empty. -/
theorem ne_nil_of_mem_tail_split (hspaced : IsSpaced cs)
    (hlast : ∀ c ∈ cs.getLast?, isUnderscore c = false) :
    ∀ piece ∈ (split '_' cs).tail, piece ≠ [] := by
  induction cs with
  | nil => simp [split]
  | cons c cs ih =>
    obtain ⟨hnext, hrest⟩ := List.isChain_cons.mp hspaced
    by_cases hc : c = '_'
    · -- the next piece begins behind this underscore, with a character that is none
      subst hc
      cases cs with
      | nil => simp [isUnderscore] at hlast
      | cons d cs =>
        have hd : d ≠ '_' := by simpa [isUnderscore] using hnext d rfl
        obtain ⟨piece, pieces, -, hsplit⟩ := split_cons_of_ne hd cs
        have htail := ih hrest (by simpa using hlast)
        rw [hsplit] at htail
        have hall : split '_' ('_' :: d :: cs) = [] :: (d :: piece) :: pieces := by
          rw [split, if_pos rfl, hsplit]
        rw [hall, List.tail_cons, List.forall_mem_cons]
        exact ⟨List.cons_ne_nil d piece, htail⟩
    · obtain ⟨piece, pieces, hcs, hsplit⟩ := split_cons_of_ne hc cs
      have htail := ih hrest fun d hd => hlast d ?_
      · rw [hcs] at htail
        rwa [hsplit]
      · cases cs with
        | nil => cases hd
        | cons e cs => simpa using hd

/-- Joined text is its pieces, joined again, and has no empty one among them. -/
theorem IsJoined.join_pieces (h : IsJoined cs) :
    join ['_'] ((split '_' cs).filter (!·.isEmpty)) = cs := by
  have hlast : ∀ c ∈ cs.getLast?, isUnderscore c = false := by
    rw [← h.trimmed]
    exact fun c hc => last_trim hc
  cases cs with
  | nil => rfl
  | cons c cs =>
    have hc : isUnderscore c = false := head_trim h.trimmed
    have hne : c ≠ '_' := by simpa [isUnderscore] using hc
    obtain ⟨piece, pieces, -, hsplit⟩ := split_cons_of_ne hne cs
    have htail := ne_nil_of_mem_tail_split h.spaced hlast
    have hall : (split '_' (c :: cs)).filter (!·.isEmpty) = split '_' (c :: cs) := by
      rw [hsplit, List.tail_cons] at htail
      rw [hsplit, List.filter_eq_self, List.forall_mem_cons]
      exact ⟨rfl, fun piece hpiece => by simp [htail piece hpiece]⟩
    rw [hall, join_split]

/-- The runs that a text is made of are its pieces between underscores. -/
theorem AreRuns.pieces_eq (h : AreRuns p runs cs) (hp : p '_' = false) :
    (split '_' cs).filter (!·.isEmpty) = runs := by
  have hruns : ∀ run ∈ runs, '_' ∉ run := by
    intro run hrun hmem
    have hchar := h.chars run hrun '_' hmem
    simp [hp] at hchar
  by_cases hnil : runs = []
  · rw [← h.joined, hnil]
    rfl
  · rw [← h.joined, split_join hnil hruns, List.filter_eq_self]
    intro run hrun
    simp [h.ne_nil run hrun]

theorem AreRuns.map {f : Char → Char} (h : AreRuns p runs cs) (hf : f '_' = '_')
    (hpq : ∀ c, p c → q (f c)) : AreRuns q (runs.map (List.map f)) (cs.map f) := by
  refine ⟨?_, ?_, ?_⟩
  · intro run hrun
    obtain ⟨word, hword, rfl⟩ := List.mem_map.mp hrun
    simpa using h.ne_nil word hword
  · intro run hrun c hc
    obtain ⟨word, hword, rfl⟩ := List.mem_map.mp hrun
    obtain ⟨d, hd, rfl⟩ := List.mem_map.mp hc
    exact hpq d (h.chars word hword d hd)
  · rw [← h.joined, map_join, List.map_singleton, hf]

/-- The words of a name are the runs of its snake case. -/
theorem areRuns_words (hname : ∀ c ∈ name, isNameChar c) :
    AreRuns isLowerOrDigit (words name) (snakeCase name) := by
  refine ⟨fun word hword => words_ne_nil hword, ?_, (isJoined_snakeCase name).join_pieces⟩
  intro word hword c hc
  have halnum := isAlphanum_of_mem_words hname hword hc
  have hupper := not_isUpper_of_mem_words hword hc
  simpa [Char.isAlphanum, Char.isAlpha, hupper, isLowerOrDigit] using halnum

theorem isUpperOrDigit_toUpper (h : isLowerOrDigit c) : isUpperOrDigit c.toUpper := by
  have halnum : c.toUpper.isAlphanum := by
    rw [isAlphanum_toUpper]
    simp only [isLowerOrDigit, Bool.or_eq_true] at h
    simp only [Char.isAlphanum, Char.isAlpha, Bool.or_eq_true]
    tauto
  simpa [Char.isAlphanum, Char.isAlpha, Char.isLower_toUpper_eq_false, isUpperOrDigit] using halnum

/-- A run in lower case changes in its first letter only. -/
theorem capitalize_of_isLowerOrDigit {word : List Char} (h : ∀ c ∈ word, isLowerOrDigit c) :
    capitalize word = word.modifyHead Char.toUpper := by
  cases word with
  | nil => rfl
  | cons c cs =>
    have hrest : cs.map Char.toLower = cs := by
      refine (List.map_congr_left fun d hd => ?_).trans (List.map_id _)
      have hlower := h d (List.mem_cons_of_mem c hd)
      have hupper : ¬ d.isUpper := by
        simp only [isLowerOrDigit, Bool.or_eq_true] at hlower
        grind [Char.isUpper, Char.isLower, Char.isDigit]
      exact Char.toLower_eq_of_not_isUpper hupper
    rw [capitalize, hrest, List.modifyHead_cons]

theorem AreRuns.flatMap_capitalize {runs' : List (List Char)}
    (h : AreRuns isLowerOrDigit runs cs) (hsub : runs' ⊆ runs) :
    runs'.flatMap capitalize = runs'.flatMap (List.modifyHead Char.toUpper) :=
  List.flatMap_congr fun run hrun => capitalize_of_isLowerOrDigit (h.chars run (hsub hrun))

/-! ## Styles -/

theorem headD_append_flatten_tail (runs : List (List Char)) :
    runs.headD [] ++ runs.tail.flatten = runs.flatten := by
  cases runs <;> rfl

/-- Every style keeps the letters and digits of a name, but for their case. -/
theorem map_toLower_stripped_convert (style : Style) (hname : ∀ d ∈ name, isNameChar d) :
    (stripped (style.convert name)).map Char.toLower = (stripped name).map Char.toLower := by
  cases style with
  | snake =>
    rw [Style.convert, stripped_snakeCase]
    simp
  | screaming =>
    rw [Style.convert, stripped_map isUnderscore_toUpper, stripped_snakeCase]
    simp
  | pascal =>
    rw [stripped_eq_self fun c hc => isAlphanum_of_mem_convert (.inr rfl) hname hc, Style.convert,
      map_toLower_flatMap_capitalize, flatten_words]
    simp
  | camel =>
    rw [stripped_eq_self fun c hc => isAlphanum_of_mem_convert (.inl rfl) hname hc, camel_eq,
      List.map_append, map_toLower_flatMap_capitalize, ← List.map_append, headD_append_flatten_tail,
      flatten_words]
    simp

/-- What a key is in each style. Its letters and digits are all there, in order and but for their
case. In snake case they are runs with underscores between them, and in capitals the same runs are;
the other two styles put the runs together with capitals in front and without underscores. A name in
snake case stays what it is. -/
theorem convert_content_shape (key : String) :
    let name := clean key.toList
    (∀ style : Style, ((style.convert name).filter (· ≠ '_')).map Char.toLower =
      (key.toList.filter Char.isAlphanum).map Char.toLower) ∧
    (∃ runs, (∀ runs', AreRuns isLowerOrDigit runs' (Style.snake.convert name) ↔ runs' = runs) ∧
      AreRuns isUpperOrDigit (runs.map (List.map Char.toUpper)) (Style.screaming.convert name) ∧
      Style.pascal.convert name = runs.flatMap (List.modifyHead Char.toUpper) ∧
      Style.camel.convert name =
        runs.headD [] ++ runs.tail.flatMap (List.modifyHead Char.toUpper)) ∧
    '_' ∉ Style.pascal.convert name ∧ '_' ∉ Style.camel.convert name ∧
    snakeCase (snakeCase name) = snakeCase name := by
  intro name
  have hname : ∀ c ∈ name, isNameChar c := fun c hc => isNameChar_of_mem_clean hc
  have hruns : AreRuns isLowerOrDigit (words name) (snakeCase name) := areRuns_words hname
  have hplain : ∀ style : Style, style = .camel ∨ style = .pascal → '_' ∉ style.convert name := by
    intro style hstyle hmem
    have halnum := isAlphanum_of_mem_convert hstyle hname hmem
    revert halnum
    decide
  refine ⟨fun style => ?_, ⟨words name, ?_, ?_, hruns.flatMap_capitalize (.refl _), ?_⟩, hplain _ (.inr rfl),
    hplain _ (.inl rfl), snakeCase_snakeCase name⟩
  · have hstripped : (style.convert name).filter (· ≠ '_') = stripped (style.convert name) := by
      simp [stripped, isUnderscore]
    rw [hstripped, map_toLower_stripped_convert style hname, stripped_clean]
  · refine fun runs' => ⟨fun h => (h.pieces_eq rfl).symm, fun heq => ?_⟩
    rwa [heq]
  · exact hruns.map rfl fun c hc => isUpperOrDigit_toUpper hc
  · rw [camel_eq, hruns.flatMap_capitalize (List.tail_subset _)]

/-- Words end at underscores, and before a capital behind a small letter or a digit. -/
example :
    (snakeCase (clean "-userID2Name x".toList), Style.camel.convert (clean "-userID2Name x".toList)) =
      ("user_id2_name_x".toList, "userId2NameX".toList) := by
  decide

end Naming

end Phrasebook
