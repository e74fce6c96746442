-- SUMMARY: The accessors and the cases of a class match the default table one to one.
import Mathlib.Data.List.Forall2
import Phrasebook.Proofs.Dart.DispatchMeaning
import Phrasebook.Proofs.Dart.MemberReading
import Phrasebook.Proofs.Dart.TextIndependence

/-!
# Accessors and cases

The accessors of a class and the cases of the function that finds a phrase by
its key are written apart from each other. Read from their code, both follow the
default table: `members_of_defaultTable` says what each of them is for the
phrase at its place.
-/

namespace Phrasebook

/-- The parameters of an accessor: none of a getter, and else the placeholders in order. -/
def Phrase.parameters? (p : Phrase) : Option (List String) :=
  if p.placeholders = [] then none else some p.placeholders

namespace Dart

open Text

/-! ## What a phrase asks for -/

/-- A literal that stands for a text. -/
def IsLiteralOf (text written : String) : Prop :=
  readLiteral written.toList = .ok (text.toList, [])

/-- An accessor that has the name and the parameters of a phrase, and hands them on in order to both
lookups. -/
structure Declares (p : Phrase) (d : Declaration) : Prop where
  header : d.header = ⟨p.accessor, p.parameters?⟩
  custom : d.custom = ⟨p.accessor, p.parameters?⟩
  lookup : d.lookup = ⟨p.accessor, p.parameters?⟩

/-- A case for the key of a phrase, which hands the members of the map that its placeholders name to
its accessor, in order. -/
structure Dispatches (p : Phrase) (c : SwitchCase) : Prop where
  label : IsLiteralOf p.key c.label
  name : c.access.name = p.accessor
  bare : c.access.items = none ↔ p.placeholders = []
  members : ∀ written ∈ c.access.items, List.Forall₂ IsLiteralOf p.placeholders written

variable {g : Generator} {b : Book} {p : Phrase}

theorem isLiteralOf_literal (s : String) : IsLiteralOf s (literal s) :=
  readLiteral_literal s

theorem eq_of_isLiteralOf {s t written : String} (hs : IsLiteralOf s written)
    (ht : IsLiteralOf t written) : s = t := by
  rw [IsLiteralOf, ht] at hs
  exact String.toList_inj.mp (by simpa [eq_comm] using hs)

theorem itemsOf_shape (p : Phrase) (value : String → String) :
    itemsOf p.shape value =
      if p.placeholders = [] then none else some (p.placeholders.map value) := by
  by_cases hplain : p.placeholders = []
  · simp [itemsOf, Shape.isParameterized, Phrase.shape, hplain]
  · simp [itemsOf, Shape.isParameterized, Phrase.shape, hplain]

/-! ## Members of a class -/

namespace Generator

theorem declares_accessor (p : Phrase) : Declares p (g.accessor b p).declaration := by
  have hitems : itemsOf (g.accessor b p).shape id = p.parameters? := by
    rw [Phrase.parameters?, accessor, itemsOf_shape, List.map_id]
  have hname : (g.accessor b p).name = p.accessor := rfl
  refine ⟨?_, ?_, ?_⟩ <;> simp only [Accessor.declaration, hitems, hname]

theorem dispatches_caseOf (p : Phrase) : Dispatches p (caseOf p).switchCase where
  label := isLiteralOf_literal p.key
  name := rfl
  bare := by
    have hitems : (caseOf p).switchCase.access.items = itemsOf p.shape literal := rfl
    rw [hitems, itemsOf_shape]
    split <;> simp [*]
  members := by
    intro written hwritten
    have hitems : (caseOf p).switchCase.access.items = itemsOf p.shape literal := rfl
    rw [hitems, itemsOf_shape, Option.mem_def] at hwritten
    split at hwritten
    · cases hwritten
    · obtain rfl := Option.some.inj hwritten
      exact List.forall₂_map_right_iff.mpr (List.forall₂_same.mpr fun x _ => isLiteralOf_literal x)

/-- The accessors and the cases that are read from the code of a class. -/
def MembersRead (g : Generator) (b : Book) (declarations : List Declaration)
    (cases : List SwitchCase) : Prop :=
  ((g.accessors b).map fun a => readAccessor (ofLines a.lines)) = declarations.map some ∧
    readSwitch (ofLines (g.dispatch b).lines) = some cases

theorem membersRead (hwords : ∀ p ∈ b.defaultTable.phrases, WordsOnly p.accessor p.shape) :
    MembersRead g b (b.defaultTable.phrases.map fun p => (g.accessor b p).declaration)
      (b.defaultTable.phrases.map fun p => (caseOf p).switchCase) := by
  constructor
  · rw [accessors, List.map_map, List.map_map]
    exact List.map_congr_left fun p hp => readAccessor_code (hwords p hp)
  · have hcases : ∀ c ∈ (g.dispatch b).cases, IsWord c.name := by
      intro c hc
      obtain ⟨p, hp, rfl⟩ := List.mem_map.mp hc
      exact (hwords p hp).name
    rw [readSwitch_code hcases]
    simp only [dispatch, List.map_map]
    rfl

/-- If accessors and placeholders of the default table are made of characters of identifiers, one
accessor and one case are read for each of its phrases, in its order. An accessor is a getter
exactly if its case returns the bare name. No two cases have the same literal, and no other table
has a part in this. Where no subtag and no marker holds a line feed, there are only comments before
an accessor. -/
theorem members_of_defaultTable (g : Generator) (b : Book)
    (hwords : ∀ p ∈ b.defaultTable.phrases, WordsOnly p.accessor p.shape) :
    ∃ declarations cases, MembersRead g b declarations cases ∧
      List.Forall₂ Declares b.defaultTable.phrases declarations ∧
      List.Forall₂ Dispatches b.defaultTable.phrases cases ∧
      List.Forall₂ (fun d c => d.header.items = none ↔ c.access.items = none) declarations cases ∧
      (cases.map SwitchCase.label).Nodup ∧
      (∀ key, key ∉ b.defaultTable.keys → ∀ c ∈ cases, ¬ IsLiteralOf key c.label) ∧
      (∀ g' b', b'.defaultTable.phrases = b.defaultTable.phrases →
        MembersRead g' b' declarations cases) ∧
      ((∀ t ∈ b.tables, BreakFreeLocale (· == '\n') t.locale) →
        BreakFree (· == '\n') g.options.missingMarker.display →
        ∀ a ∈ g.accessors b, ∀ piece ∈ (split '\n' (ofLines a.lines).toList).rdrop 3,
          isDocumentation piece) := by
  have hdeclares : ∀ p, Declares p (g.accessor b p).declaration := declares_accessor
  have hdispatches : ∀ p, Dispatches p (caseOf p).switchCase := dispatches_caseOf
  refine ⟨_, _, membersRead hwords, ?_, ?_, ?_, ?_, ?_, ?_, ?_⟩
  · exact List.forall₂_map_right_iff.mpr (List.forall₂_same.mpr fun p _ => hdeclares p)
  · exact List.forall₂_map_right_iff.mpr (List.forall₂_same.mpr fun p _ => hdispatches p)
  · refine List.forall₂_map_left_iff.mpr (List.forall₂_map_right_iff.mpr
      (List.forall₂_same.mpr fun p _ => ?_))
    rw [(hdeclares p).header, (hdispatches p).bare, Phrase.parameters?]
    split <;> simp [*]
  · have hlabels : (b.defaultTable.phrases.map fun p => (caseOf p).switchCase).map
        SwitchCase.label = b.defaultTable.keys.map literal := by
      rw [Table.keys, List.map_map, List.map_map]
      rfl
    rw [hlabels]
    exact b.defaultTable.keys_nodup.map fun s t hst =>
      eq_of_isLiteralOf (isLiteralOf_literal s) (hst ▸ isLiteralOf_literal t)
  · intro key hkey c hc hliteral
    obtain ⟨p, hp, rfl⟩ := List.mem_map.mp hc
    rw [eq_of_isLiteralOf hliteral (hdispatches p).label] at hkey
    exact hkey (List.mem_map_of_mem hp)
  · intro g' b' hphrases
    have hread := membersRead (g := g') (b := b') (hphrases ▸ hwords)
    rw [hphrases] at hread
    exact hread
  · intro hlocales hmarker a ha
    obtain ⟨p, hp, rfl⟩ := List.mem_map.mp ha
    rw [((g.accessor b p).rtake_split_code (hwords p hp)).2]
    exact Accessor.isDocumentation_of_mem_pieces
      (isComment_of_documentation breaksLines_line_feed hlocales hmarker _ ha)

/-- An accessor with a parameter, whose name the check would not accept. -/
theorem members_of_digits :
    let g : Generator := ⟨{}, {}⟩
    let p : Phrase := ⟨"a\"b", "1st", "Hello, $x!", ["$x"]⟩
    WordsOnly p.accessor p.shape ∧
    ∃ d c, MembersRead g (single p) [d] [c] ∧ Declares p d ∧ Dispatches p c := by
  intro g p
  have hwords : WordsOnly p.accessor p.shape := by
    refine ⟨⟨by decide, List.all_eq_true.mp (by decide)⟩, ?_⟩
    intro x hx
    obtain rfl := List.mem_singleton.mp hx
    exact ⟨by decide, List.all_eq_true.mp (by decide)⟩
  have hsingle : ∀ q ∈ (single p).defaultTable.phrases, WordsOnly q.accessor q.shape := by
    intro q hq
    obtain rfl := List.mem_singleton.mp hq
    exact hwords
  obtain ⟨declarations, cases, hread, hdeclares, hdispatches, -⟩ :=
    members_of_defaultTable g (single p) hsingle
  obtain ⟨d, hd, rfl⟩ : ∃ d, Declares p d ∧ declarations = [d] := by
    obtain ⟨d, _, hd, hnil, rfl⟩ := List.forall₂_cons_left_iff.mp hdeclares
    exact ⟨d, hd, by rw [List.forall₂_nil_left_iff.mp hnil]⟩
  obtain ⟨c, hc, rfl⟩ : ∃ c, Dispatches p c ∧ cases = [c] := by
    obtain ⟨c, _, hc, hnil, rfl⟩ := List.forall₂_cons_left_iff.mp hdispatches
    exact ⟨c, hc, by rw [List.forall₂_nil_left_iff.mp hnil]⟩
  exact ⟨hwords, d, c, hread, hd, hc⟩

end Generator

end Dart

end Phrasebook
