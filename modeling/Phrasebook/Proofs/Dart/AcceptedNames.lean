-- SUMMARY: Which names the check of a table accepts, and what it says of a class name among them.
import Mathlib.Data.List.Basic
import Phrasebook.Dart.NameCheck
import Phrasebook.Proofs.Json.Fields

/-!
# Accepted names

The check goes through the table once and keeps the accessors it has seen. It
accepts a table if every accessor is good by itself, no two are the same, and
every placeholder list is good by itself.
-/

namespace Phrasebook.Dart

/-- A name that an accessor of a class may bear. -/
structure IsAccessorName (className : Json) (name : String) : Prop where
  identifier : isIdentifier name
  not_reserved : name ∉ reservedWords
  not_member : name ∉ classMembers
  not_class : isClassName className name = false

/-- Placeholders that can be the parameters of one accessor. -/
structure AreParameters (placeholders : List String) : Prop where
  nodup : placeholders.Nodup
  valid : ∀ x ∈ placeholders, isParameterName x

variable {className : Json} {seen : List (String × String)} {phrases : List Phrase}

theorem checkPlaceholders_eq_ok_iff {p : Phrase} :
    checkPlaceholders p = .ok () ↔ AreParameters p.placeholders := by
  unfold checkPlaceholders
  split
  · rename_i hnodup
    split
    · rename_i name hfind
      have hmem := List.mem_of_find?_eq_some hfind
      have hbad := List.find?_some hfind
      simp only [reduceCtorEq, false_iff]
      intro h
      simp [h.valid name hmem] at hbad
    · rename_i hfind
      simp only [true_iff]
      exact ⟨hnodup, by simpa using hfind⟩
  · rename_i hnodup
    simp only [reduceCtorEq, false_iff]
    intro h
    exact hnodup h.nodup

/-- One step of the check, as a condition on the first phrase. -/
theorem checkPhrases_cons_eq_ok_iff {p : Phrase} :
    checkPhrases className seen (p :: phrases) = .ok () ↔
      IsAccessorName className p.accessor ∧ p.accessor ∉ seen.map Prod.fst ∧
      AreParameters p.placeholders ∧
      checkPhrases className ((p.accessor, p.key) :: seen) phrases = .ok () := by
  rw [checkPhrases, ← lookup_eq_none_iff_not_mem, ← checkPlaceholders_eq_ok_iff]
  by_cases hname : isIdentifier p.accessor ∧ p.accessor ∉ reservedWords
  · rw [if_neg (by simpa using hname)]
    by_cases hmember : p.accessor ∈ classMembers ∨ isClassName className p.accessor
    · rw [if_pos (by simpa using hmember)]
      simp only [reduceCtorEq, false_iff]
      rintro ⟨hgood, -⟩
      rcases hmember with hmember | hclass
      · exact hgood.not_member hmember
      · simp [hgood.not_class] at hclass
    · rw [if_neg (by simpa using hmember)]
      have hgood : IsAccessorName className p.accessor :=
        ⟨hname.1, hname.2, fun h => hmember (.inl h), by simpa using fun h => hmember (.inr h)⟩
      cases hseen : seen.lookup p.accessor with
      | some first => simp
      | none =>
        cases hparams : checkPlaceholders p with
        | error fault => simp
        | ok => simp [hgood]
  · rw [if_pos (by
      simp only [Bool.or_eq_true, Bool.not_eq_true', List.contains_iff_mem]
      rw [not_and_or, not_not, Bool.not_eq_true] at hname
      exact hname)]
    simp only [reduceCtorEq, false_iff]
    rintro ⟨hgood, -⟩
    exact hname ⟨hgood.identifier, hgood.not_reserved⟩

theorem checkPhrases_eq_ok_iff :
    checkPhrases className seen phrases = .ok () ↔
      (∀ p ∈ phrases, IsAccessorName className p.accessor ∧ AreParameters p.placeholders) ∧
      (phrases.map Phrase.accessor).Nodup ∧
      ∀ p ∈ phrases, p.accessor ∉ seen.map Prod.fst := by
  induction phrases generalizing seen with
  | nil => simp [checkPhrases]
  | cons p phrases ih =>
    rw [checkPhrases_cons_eq_ok_iff, ih]
    simp only [List.map_cons, List.nodup_cons, List.mem_cons, not_or, forall_eq_or_imp,
      List.mem_map, not_exists, not_and]
    constructor
    · rintro ⟨hgood, hseen, hparams, hall, hnodup, hfresh⟩
      exact ⟨⟨⟨hgood, hparams⟩, hall⟩, ⟨fun q hq => (hfresh q hq).1, hnodup⟩, hseen,
        fun q hq => (hfresh q hq).2⟩
    · rintro ⟨⟨⟨hgood, hparams⟩, hall⟩, ⟨hne, hnodup⟩, hseen, hfresh⟩
      exact ⟨hgood, hseen, hparams, hall, hnodup, fun q hq => ⟨hne q hq, hfresh q hq⟩⟩

/-- The check accepts a book exactly if every accessor and every placeholder list of the default
table is good by itself and no accessor stands there twice. -/
theorem checkNames_eq_ok_iff {b : Book} :
    checkNames className b = .ok () ↔
      (∀ p ∈ b.defaultTable.phrases,
        IsAccessorName className p.accessor ∧ AreParameters p.placeholders) ∧
      (b.defaultTable.phrases.map Phrase.accessor).Nodup := by
  rw [checkNames, checkPhrases_eq_ok_iff]
  simp

/-- In a table whose accessors differ and are good but for the class name, the check complains of
the one that is the class name. -/
theorem checkPhrases_eq_shadowing {name : String}
    (hgood : ∀ p ∈ phrases, isIdentifier p.accessor ∧ p.accessor ∉ reservedWords ∧
      p.accessor ∉ classMembers ∧ AreParameters p.placeholders)
    (hnodup : (phrases.map Phrase.accessor).Nodup)
    (hseen : ∀ p ∈ phrases, p.accessor ∉ seen.map Prod.fst)
    (hname : name ∈ phrases.map Phrase.accessor) :
    ∃ p ∈ phrases, p.accessor = name ∧
      checkPhrases (.str name) seen phrases = .error (.shadowing p.key name name) := by
  induction phrases generalizing seen with
  | nil => cases hname
  | cons p phrases ih =>
    obtain ⟨hid, hres, hmember, hparams⟩ := hgood p List.mem_cons_self
    rw [checkPhrases, if_neg (by simp [hid, hres])]
    by_cases hp : p.accessor = name
    · refine ⟨p, List.mem_cons_self, hp, ?_⟩
      rw [if_pos (by simp [isClassName, hp]), hp]
      rfl
    · have hlater : name ∈ phrases.map Phrase.accessor := by
        simpa [Ne.symm hp] using hname
      rw [List.map_cons, List.nodup_cons] at hnodup
      have hfresh : ∀ q ∈ phrases, q.accessor ∉ ((p.accessor, p.key) :: seen).map Prod.fst := by
        intro q hq hmem
        rcases List.mem_cons.mp hmem with heq | hmem
        · exact hnodup.1 (List.mem_map.mpr ⟨q, hq, heq⟩)
        · exact hseen q (List.mem_cons_of_mem _ hq) hmem
      obtain ⟨q, hq, hqname, hcheck⟩ :=
        ih (fun q hq => hgood q (List.mem_cons_of_mem _ hq)) hnodup.2 hfresh hlater
      refine ⟨q, List.mem_cons_of_mem _ hq, hqname, ?_⟩
      have hlookup := lookup_eq_none_iff_not_mem.mpr (hseen p List.mem_cons_self)
      have hplaceholders := checkPlaceholders_eq_ok_iff.mpr hparams
      rw [if_neg (by simp [isClassName, hmember, Ne.symm hp])]
      simp only [hlookup, hplaceholders, hcheck]

/-! ## Repeated accessors -/

theorem checkPlaceholders_ne_repeated {p : Phrase} {first second name : String} :
    checkPlaceholders p ≠ .error (.repeatedAccessor first second name) := by
  unfold checkPlaceholders
  split
  · split <;> simp
  · simp

/-- One step of a check that complains of a repeated accessor: it is that of the first phrase, or
the first phrase is put to those that are seen. -/
theorem checkPhrases_cons_eq_repeated {p : Phrase} {first second name : String}
    (h : checkPhrases className seen (p :: phrases) =
      .error (.repeatedAccessor first second name)) :
    (p.key = second ∧ p.accessor = name ∧ (name, first) ∈ seen) ∨
      checkPhrases className ((p.accessor, p.key) :: seen) phrases =
        .error (.repeatedAccessor first second name) := by
  rw [checkPhrases] at h
  split at h
  · cases h
  · split at h
    · cases h
    · split at h
      · rename_i hseen
        cases h
        obtain ⟨before, after, heq, -⟩ := List.lookup_eq_some_iff.mp hseen
        exact .inl ⟨rfl, rfl, by simp [heq]⟩
      · split at h
        · rename_i hparams
          cases h
          exact absurd hparams checkPlaceholders_ne_repeated
        · exact .inr h

theorem exists_of_checkPhrases_eq_repeated {first second name : String}
    (h : checkPhrases className seen phrases = .error (.repeatedAccessor first second name)) :
    ∃ before p after, phrases = before ++ p :: after ∧ p.key = second ∧ p.accessor = name ∧
      ((name, first) ∈ seen ∨ ∃ q ∈ before, q.key = first ∧ q.accessor = name) := by
  induction phrases generalizing seen with
  | nil => cases h
  | cons p phrases ih =>
    rcases checkPhrases_cons_eq_repeated h with ⟨hkey, hname, hseen⟩ | hlater
    · exact ⟨[], p, phrases, rfl, hkey, hname, .inl hseen⟩
    · obtain ⟨before, q, after, rfl, hkey, hname, hfirst⟩ := ih hlater
      refine ⟨p :: before, q, after, rfl, hkey, hname, ?_⟩
      rcases hfirst with hseen | ⟨r, hr, hrkey, hrname⟩
      · rcases List.mem_cons.mp hseen with heq | hseen
        · cases heq
          exact .inr ⟨p, List.mem_cons_self, rfl, rfl⟩
        · exact .inl hseen
      · exact .inr ⟨r, List.mem_cons_of_mem _ hr, hrkey, hrname⟩

/-- A complaint of a repeated accessor names the keys of two phrases that have it. -/
theorem exists_of_checkNames_eq_repeated {b : Book} {first second name : String}
    (h : checkNames className b = .error (.repeatedAccessor first second name)) :
    ∃ p ∈ b.defaultTable.phrases, ∃ q ∈ b.defaultTable.phrases, p.key = first ∧ q.key = second ∧
      first ≠ second ∧ p.accessor = name ∧ q.accessor = name := by
  obtain ⟨before, q, after, hphrases, hkey, hname, hfirst⟩ := exists_of_checkPhrases_eq_repeated h
  rcases hfirst with hseen | ⟨p, hp, hpkey, hpname⟩
  · cases hseen
  · have hnodup := b.defaultTable.keys_nodup
    rw [hphrases, List.map_append, List.nodup_append] at hnodup
    have hne : p.key ≠ q.key :=
      hnodup.2.2 p.key (List.mem_map_of_mem hp) q.key (by simp)
    have hpmem : p ∈ b.defaultTable.phrases := by simp [hphrases, hp]
    have hqmem : q ∈ b.defaultTable.phrases := by simp [hphrases]
    exact ⟨p, hpmem, q, hqmem, hpkey, hkey, hpkey ▸ hkey ▸ hne, hpname, hname⟩

end Phrasebook.Dart
