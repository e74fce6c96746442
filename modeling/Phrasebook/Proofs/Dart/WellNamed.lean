-- SUMMARY: Well-named tables, and how far the check of names agrees with what they are.
import Mathlib.Data.List.Nodup
import Phrasebook.Proofs.Dart.AcceptedNames
import Phrasebook.Proofs.Dart.DispatchMeaning

/-!
# Well-named tables

What a table has to be like to make a class is said here without the check: by
the spelling of its names, the words they may not be, and which of them differ.
The check lets one line feed pass at the end of a name. It decides whether a
table is well-named for the spelling with such a line feed, and for that of
identifiers exactly where no name ends in one.
-/

namespace Phrasebook.Dart

/-! ## Spelling -/

/-- One character that begins identifiers, followed only by characters of identifiers. -/
def IsSpelled (name : String) : Prop :=
  ∃ c cs, name.toList = c :: cs ∧ isIdentifierStart c ∧ ∀ d ∈ cs, isIdentifierChar d

/-- The spelling of an identifier, or that with a line feed behind it. -/
def IsLooselySpelled (name : String) : Prop :=
  IsSpelled name ∨ ∃ word, IsSpelled word ∧ name = word ++ "\n"

/-- Whether a line feed is the last character of a name. -/
def EndsInBreak (name : String) : Prop :=
  name.toList.getLast? = some '\n'

variable {name word : String}

theorem endsInBreak_append_break (word : String) : EndsInBreak (word ++ "\n") := by
  simp [EndsInBreak]

theorem not_endsInBreak_of_isSpelled (h : IsSpelled name) : ¬ EndsInBreak name := by
  obtain ⟨c, cs, hname, hc, hcs⟩ := h
  intro hbreak
  rw [EndsInBreak, hname] at hbreak
  have hmem : '\n' ∈ c :: cs := List.mem_of_getLast? hbreak
  rcases List.mem_cons.mp hmem with rfl | hmem
  · exact absurd hc (by decide)
  · exact absurd (hcs _ hmem) (by decide)

theorem dropFinalBreak_of_forall {cs : List Char} (h : ∀ d ∈ cs, isIdentifierChar d) :
    dropFinalBreak cs = cs := by
  rw [dropFinalBreak, if_neg]
  intro hbreak
  exact absurd (h _ (List.mem_of_getLast? hbreak)) (by decide)

theorem dropFinalBreak_append_break (cs : List Char) : dropFinalBreak (cs ++ ['\n']) = cs := by
  simp [dropFinalBreak]

/-- The names that pass as identifiers are those of the loose spelling. -/
theorem isIdentifier_iff_isLooselySpelled : isIdentifier name ↔ IsLooselySpelled name := by
  constructor
  · intro h
    unfold isIdentifier at h
    split at h
    · cases h
    · rename_i c cs hname
      rw [Bool.and_eq_true, List.all_eq_true] at h
      obtain ⟨tail, htail, hbreak⟩ := dropFinalBreak_append cs
      rcases hbreak with rfl | rfl
      · rw [List.append_nil] at htail
        rw [← htail] at h
        exact .inl ⟨c, cs, hname, h⟩
      · refine .inr ⟨String.ofList (c :: dropFinalBreak cs), ⟨c, _, String.toList_ofList, h⟩, ?_⟩
        rw [← String.toList_inj, hname, String.toList_append, String.toList_ofList]
        exact congrArg (c :: ·) htail
  · rintro (⟨c, cs, hname, hc, hcs⟩ | ⟨word, ⟨c, cs, hword, hc, hcs⟩, rfl⟩)
    · rw [isIdentifier, hname]
      simp only [dropFinalBreak_of_forall hcs, hc, Bool.true_and, List.all_eq_true]
      exact hcs
    · have hname : (word ++ "\n").toList = c :: (cs ++ ['\n']) := by simp [hword]
      rw [isIdentifier, hname]
      simp only [dropFinalBreak_append_break, hc, Bool.true_and, List.all_eq_true]
      exact hcs

/-- A name without a line feed at its end is an identifier by its spelling. -/
theorem isLooselySpelled_iff_of_not_endsInBreak (h : ¬ EndsInBreak name) :
    IsLooselySpelled name ↔ IsSpelled name := by
  constructor
  · rintro (hname | ⟨word, -, rfl⟩)
    · exact hname
    · exact absurd (endsInBreak_append_break word) h
  · exact .inl

/-- A name is its identifier, or that with a line feed behind it. -/
theorem eq_identifierOf_or (name : String) :
    name = identifierOf name ∨ name = identifierOf name ++ "\n" := by
  obtain ⟨tail, htail, hbreak⟩ := dropFinalBreak_append name.toList
  rcases hbreak with rfl | rfl
  · left
    rw [identifierOf, ← String.toList_inj, String.toList_ofList]
    simpa using htail
  · right
    rw [identifierOf, ← String.toList_inj, String.toList_append, String.toList_ofList]
    exact htail

/-- Two names are one identifier only if they are the same up to a line feed behind one. -/
theorem eq_or_of_identifierOf_eq {other : String} (h : identifierOf name = identifierOf other) :
    name = other ∨ name = other ++ "\n" ∨ other = name ++ "\n" := by
  rcases eq_identifierOf_or name with hname | hname
  · rcases eq_identifierOf_or other with hother | hother
    · exact .inl (by rw [hname, hother, h])
    · exact .inr (.inr (by rw [← h, ← hname] at hother; exact hother))
  · rcases eq_identifierOf_or other with hother | hother
    · exact .inr (.inl (by rw [h, ← hother] at hname; exact hname))
    · exact .inl (by rw [hname, hother, h])

/-! ## Tables -/

/-- A table whose names have a spelling and can stand side by side in a class. -/
structure WellNamed (Spelling : String → Prop) (className : Json) (t : Table) : Prop where
  spelled : ∀ p ∈ t.phrases, Spelling p.accessor
  not_reserved : ∀ p ∈ t.phrases, p.accessor ∉ reservedWords
  not_member : ∀ p ∈ t.phrases, p.accessor ∉ classMembers
  not_class : ∀ p ∈ t.phrases, Json.str p.accessor ≠ className
  distinct : (t.phrases.map Phrase.accessor).Nodup
  parameters_distinct : ∀ p ∈ t.phrases, p.placeholders.Nodup
  parameters_spelled : ∀ p ∈ t.phrases, ∀ x ∈ p.placeholders, Spelling x
  parameters_not_reserved : ∀ p ∈ t.phrases, ∀ x ∈ p.placeholders, x ∉ reservedWords
  parameters_not_member : ∀ p ∈ t.phrases, ∀ x ∈ p.placeholders, x ∉ classMembers

variable {Spelling Spelling' : String → Prop} {className : Json} {t : Table} {b : Book}

/-- A name of an accessor or of a placeholder of the table. -/
def IsNameIn (t : Table) (name : String) : Prop :=
  ∃ p ∈ t.phrases, name = p.accessor ∨ name ∈ p.placeholders

theorem WellNamed.mono (h : WellNamed Spelling className t)
    (hspelling : ∀ name, IsNameIn t name → Spelling name → Spelling' name) :
    WellNamed Spelling' className t where
  spelled p hp := hspelling _ ⟨p, hp, .inl rfl⟩ (h.spelled p hp)
  not_reserved := h.not_reserved
  not_member := h.not_member
  not_class := h.not_class
  distinct := h.distinct
  parameters_distinct := h.parameters_distinct
  parameters_spelled p hp x hx := hspelling x ⟨p, hp, .inr hx⟩ (h.parameters_spelled p hp x hx)
  parameters_not_reserved := h.parameters_not_reserved
  parameters_not_member := h.parameters_not_member

theorem WellNamed.spelling (h : WellNamed Spelling className t) (hname : IsNameIn t name) :
    Spelling name := by
  obtain ⟨p, hp, rfl | hx⟩ := hname
  · exact h.spelled p hp
  · exact h.parameters_spelled p hp name hx

theorem isClassName_eq_false_iff :
    isClassName className name = false ↔ Json.str name ≠ className := by
  unfold isClassName
  split
  · rename_i s
    rw [beq_eq_false_iff_ne, ne_comm, not_iff_not, Json.str.injEq]
  · rename_i hclass
    simp only [true_iff]
    rintro rfl
    exact hclass name rfl

/-- The check accepts a book exactly if the default table is well-named for the loose spelling. -/
theorem checkNames_eq_ok_iff_wellNamed :
    checkNames className b = .ok () ↔ WellNamed IsLooselySpelled className b.defaultTable := by
  rw [checkNames_eq_ok_iff]
  constructor
  · rintro ⟨hgood, hdistinct⟩
    have hparameter : ∀ p ∈ b.defaultTable.phrases, ∀ x ∈ p.placeholders,
        IsLooselySpelled x ∧ x ∉ reservedWords ∧ x ∉ classMembers := by
      intro p hp x hx
      have hx := (hgood p hp).2.valid x hx
      simpa [isParameterName, isIdentifier_iff_isLooselySpelled, and_assoc] using hx
    exact {
      spelled := fun p hp => isIdentifier_iff_isLooselySpelled.mp (hgood p hp).1.identifier
      not_reserved := fun p hp => (hgood p hp).1.not_reserved
      not_member := fun p hp => (hgood p hp).1.not_member
      not_class := fun p hp => isClassName_eq_false_iff.mp (hgood p hp).1.not_class
      distinct := hdistinct
      parameters_distinct := fun p hp => (hgood p hp).2.nodup
      parameters_spelled := fun p hp x hx => (hparameter p hp x hx).1
      parameters_not_reserved := fun p hp x hx => (hparameter p hp x hx).2.1
      parameters_not_member := fun p hp x hx => (hparameter p hp x hx).2.2 }
  · intro h
    refine ⟨fun p hp => ⟨?_, ?_⟩, h.distinct⟩
    · exact {
        identifier := isIdentifier_iff_isLooselySpelled.mpr (h.spelled p hp)
        not_reserved := h.not_reserved p hp
        not_member := h.not_member p hp
        not_class := isClassName_eq_false_iff.mpr (h.not_class p hp) }
    · refine ⟨h.parameters_distinct p hp, fun x hx => ?_⟩
      have hspelled := isIdentifier_iff_isLooselySpelled.mpr (h.parameters_spelled p hp x hx)
      simp [isParameterName, hspelled, h.parameters_not_reserved p hp x hx,
        h.parameters_not_member p hp x hx]

/-- A table is well-named exactly if it is so for the loose spelling and no name in it ends in a
line feed. -/
theorem wellNamed_iff_of_no_break :
    WellNamed IsSpelled className t ↔
      WellNamed IsLooselySpelled className t ∧ ∀ name, IsNameIn t name → ¬ EndsInBreak name := by
  constructor
  · intro h
    refine ⟨h.mono fun _ _ => .inl, fun name hname => ?_⟩
    exact not_endsInBreak_of_isSpelled (h.spelling hname)
  · rintro ⟨h, hbreak⟩
    exact h.mono fun name hname =>
      (isLooselySpelled_iff_of_not_endsInBreak (hbreak name hname)).mp

/-- The check accepts exactly the books whose default table is well-named but for line feeds behind
names. Where no name ends in one, it accepts exactly the well-named tables, and no two accessors
that it accepts are one identifier; else those that are differ in the line feed behind one. -/
theorem accepts_wellNamed (className : Json) (b : Book) :
    (checkNames className b = .ok () ↔ WellNamed IsLooselySpelled className b.defaultTable) ∧
    ((∀ name, IsNameIn b.defaultTable name → ¬ EndsInBreak name) →
      (checkNames className b = .ok () ↔ WellNamed IsSpelled className b.defaultTable) ∧
      (checkNames className b = .ok () →
        (b.defaultTable.phrases.map fun p => identifierOf p.accessor).Nodup)) ∧
    (checkNames className b = .ok () → ∀ p ∈ b.defaultTable.phrases, ∀ q ∈ b.defaultTable.phrases,
      identifierOf p.accessor = identifierOf q.accessor →
        p = q ∨ p.accessor = q.accessor ++ "\n" ∨ q.accessor = p.accessor ++ "\n") := by
  refine ⟨checkNames_eq_ok_iff_wellNamed, ?_, ?_⟩
  · intro hbreak
    rw [checkNames_eq_ok_iff_wellNamed]
    refine ⟨?_, ?_⟩
    · rw [wellNamed_iff_of_no_break]
      exact ⟨fun h => ⟨h, hbreak⟩, fun h => h.1⟩
    · intro h
      have hidentifiers : (b.defaultTable.phrases.map fun p => identifierOf p.accessor) =
          b.defaultTable.phrases.map Phrase.accessor :=
        List.map_congr_left fun p hp =>
          identifierOf_of_no_break (hbreak _ ⟨p, hp, .inl rfl⟩)
      rw [hidentifiers]
      exact h.distinct
  · intro hcheck p hp q hq hsame
    have hdistinct := (checkNames_eq_ok_iff_wellNamed.mp hcheck).distinct
    refine (eq_or_of_identifierOf_eq hsame).imp_left fun haccessor => ?_
    exact List.inj_on_of_nodup_map hdistinct hp hq haccessor

/-- A table with a placeholder that the check accepts and that is well-named. -/
theorem accepts_wellNamed_of_greeting :
    let b := Generator.single ⟨"greeting", "greeting", "Hello, name!", ["name"]⟩
    (∀ name, IsNameIn b.defaultTable name → ¬ EndsInBreak name) ∧
    checkNames (.str "I18n") b = .ok () ∧
    WellNamed IsSpelled (.str "I18n") b.defaultTable ∧
    (b.defaultTable.phrases.map fun p => identifierOf p.accessor).Nodup := by
  intro b
  have hbreak : ∀ name, IsNameIn b.defaultTable name → ¬ EndsInBreak name := by
    rintro name ⟨p, hp, hname⟩
    obtain rfl := List.mem_singleton.mp hp
    rcases hname with rfl | hname
    · unfold EndsInBreak
      decide
    · obtain rfl := List.mem_singleton.mp hname
      unfold EndsInBreak
      decide
  have hcheck : checkNames (.str "I18n") b = .ok () := by decide +kernel
  obtain ⟨hiff, hdistinct⟩ := (accepts_wellNamed (.str "I18n") b).2.1 hbreak
  exact ⟨hbreak, hcheck, hiff.mp hcheck, hdistinct hcheck⟩

/-- The check accepts the names `abc` and `abc` with a line feed behind it side by side, which are
one identifier, and of which the second is not spelled like one. -/
theorem not_wellNamed_of_break :
    let p : Phrase := ⟨"first", "abc", "x", []⟩
    let q : Phrase := ⟨"second", "abc\n", "y", []⟩
    let locale : Locale := ⟨"en", none, none⟩
    let table : Table := ⟨locale, [p, q], by decide⟩
    let b : Book := ⟨locale, [table], ⟨table, List.mem_singleton_self _, rfl⟩⟩
    checkNames (.str "I18n") b = .ok () ∧
    ¬ WellNamed IsSpelled (.str "I18n") b.defaultTable ∧
    identifierOf p.accessor = identifierOf q.accessor := by
  intro p q locale table b
  refine ⟨by decide +kernel, ?_, by decide⟩
  intro h
  have hq : q ∈ b.defaultTable.phrases := by
    have hphrases : b.defaultTable.phrases = [p, q] := rfl
    simp [hphrases]
  have hbreak : EndsInBreak q.accessor := by
    unfold EndsInBreak
    decide
  exact not_endsInBreak_of_isSpelled (h.spelled q hq) hbreak

end Phrasebook.Dart
