-- SUMMARY: The names derived for accessors: what they can be, and when one is the class name.
import Mathlib.Data.List.Basic
import Mathlib.Tactic.Common
import Phrasebook.Proofs.Dart.AcceptedNames
import Phrasebook.Proofs.Naming.NameShape
import Phrasebook.Proofs.Naming.Runs

/-!
# Derived names

The allocator of a class looks at a name once, before anything is put behind
it. What it hands out later may have an underscore or a number at its end. No
reserved word and no member of the class ends so, but the class name may: it is
the one name that the allocator knows of and can hand out nevertheless.
`answers_usable` says of any run that everything else it hands out can be used.
-/

namespace Phrasebook.Dart

open Naming

variable {className name word : String} {r : Request}

/-! ## Identifiers -/

theorem isIdentifierChar_of_isNameChar {c : Char} (h : isNameChar c) : isIdentifierChar c := by
  simp only [isNameChar, Char.isAlphanum, Bool.or_eq_true, decide_eq_true_eq] at h
  simp only [isIdentifierChar, isIdentifierStart, Bool.or_eq_true, decide_eq_true_eq]
  tauto

theorem dropFinalBreak_sublist (cs : List Char) : (dropFinalBreak cs).Sublist cs := by
  unfold dropFinalBreak
  split
  · exact List.dropLast_sublist cs
  · exact List.Sublist.refl cs

theorem isIdentifier_of_isLetterLed (h : IsLetterLed name) : isIdentifier name := by
  obtain ⟨c, cs, heq, hc, hcs⟩ := h
  have hrest : (dropFinalBreak cs).all isIdentifierChar := by
    refine List.all_eq_true.mpr ?_
    intro d hd
    exact isIdentifierChar_of_isNameChar (hcs d ((dropFinalBreak_sublist cs).subset hd))
  simp [isIdentifier, heq, isIdentifierStart, hc, hrest]

/-! ## Ends of names -/

/-- Reserved words and members of the class end in letters. -/
theorem getLast?_forbidden (h : word ∈ reservedWords ++ classMembers) :
    ∃ c, word.toList.getLast? = some c ∧ c.isAlpha := by
  have hall : ∀ w ∈ reservedWords ++ classMembers, w.toList.getLast?.any Char.isAlpha := by decide
  have hword := hall word h
  rwa [Option.any_eq_true] at hword

/-- A name with an underscore behind it is no reserved word and no member of the class. -/
theorem append_underscore_not_forbidden (base : String) :
    base ++ "_" ∉ reservedWords ++ classMembers := by
  intro h
  obtain ⟨c, hlast, hc⟩ := getLast?_forbidden h
  have hunderscore : (base ++ "_").toList.getLast? = some '_' := by simp
  rw [hunderscore] at hlast
  cases hlast
  revert hc
  decide

/-- A name with a number behind it is no reserved word and no member of the class. -/
theorem numbered_not_forbidden (base : String) (k : Nat) :
    numbered base k ∉ reservedWords ++ classMembers := by
  intro h
  obtain ⟨c, hlast, hc⟩ := getLast?_forbidden h
  obtain ⟨d, hdlast, hd⟩ := getLast?_numbered base k
  rw [hdlast] at hlast
  cases hlast
  simp [Char.isAlpha, Char.isUpper, Char.isLower, Char.isDigit, UInt32.le_iff_toNat_le] at hc hd
  omega

/-! ## The rules of the allocator -/

@[simp] theorem accessorNamesFor_reserved (className : String) :
    (accessorNamesFor className).reserved = reservedWords := by
  unfold accessorNamesFor
  split <;> rfl

@[simp] theorem accessorNamesFor_digitLead (className : String) :
    (accessorNamesFor className).digitLead = "n" := by
  unfold accessorNamesFor
  split <;> rfl

@[simp] theorem accessorNamesFor_given (className : String) :
    (accessorNamesFor className).given = [] := by
  unfold accessorNamesFor
  split <;> rfl

@[simp] theorem accessorNamesFor_used (className : String) :
    (accessorNamesFor className).used = [] := by
  unfold accessorNamesFor
  split <;> rfl

theorem mem_accessorNamesFor_builtins :
    name ∈ (accessorNamesFor className).builtins ↔
      name ∈ classMembers ∨ (name = className ∧ className ≠ "") := by
  unfold accessorNamesFor
  split
  · rename_i hempty
    simp [accessorNames, hempty]
  · rename_i hne
    simp [hne, or_comm]

/-- The name of a key in a style before anything is put behind it. -/
def spelled (className key : String) (style : Style) : String :=
  (accessorNamesFor className).styled key style

theorem isLetterLed_spelled (className key : String) (style : Style) :
    IsLetterLed (spelled className key style) := by
  refine isLetterLed_styled ?_ key style
  rw [accessorNamesFor_digitLead]
  exact ⟨'n', [], by simp, by decide, by simp⟩

theorem spelled_ne_empty (className key : String) (style : Style) :
    spelled className key style ≠ "" := by
  obtain ⟨c, cs, heq, -⟩ := isLetterLed_spelled className key style
  intro hempty
  simp [hempty] at heq

/-- A name that the allocator of a class leaves as it is. -/
structure IsLeft (className name : String) : Prop where
  not_forbidden : name ∉ reservedWords ++ classMembers
  not_class : name ≠ className

/-- A base name is as its key spells it, or has the suffix behind it where that may not stay. -/
theorem baseName_spelled (className : String) (r : Request) :
    (accessorNamesFor className).baseName r = spelled className r.key r.style ∧
        IsLeft className (spelled className r.key r.style) ∨
      (accessorNamesFor className).baseName r = spelled className r.key r.style ++ r.suffix ∧
        ¬ IsLeft className (spelled className r.key r.style) := by
  have hne := spelled_ne_empty className r.key r.style
  unfold Allocator.baseName
  rw [← spelled]
  generalize spelled className r.key r.style = name at hne ⊢
  simp only [Bool.or_eq_true, List.contains_iff_mem, accessorNamesFor_reserved,
    mem_accessorNamesFor_builtins]
  split
  · rename_i hforbidden
    refine .inr ⟨rfl, fun hleft => ?_⟩
    have hnot := hleft.not_forbidden
    rw [List.mem_append, not_or] at hnot
    rcases hforbidden with hreserved | hmember | ⟨hclass, -⟩
    · exact hnot.1 hreserved
    · exact hnot.2 hmember
    · exact hleft.not_class hclass
  · rename_i hfree
    refine .inl ⟨rfl, ?_, ?_⟩
    · rw [List.mem_append]
      tauto
    · rintro rfl
      tauto

/-- A base name is letter-led. It is none of the names that the allocator avoids, or one of them
with an underscore behind it. -/
theorem baseName_cases (className : String) (hsuffix : r.suffix = "_") :
    IsLetterLed ((accessorNamesFor className).baseName r) ∧
      ((accessorNamesFor className).baseName r ∉ reservedWords ++ classMembers ∧
          (accessorNamesFor className).baseName r ≠ className ∨
        ∃ w, (w ∈ reservedWords ++ classMembers ∨ w = className) ∧
          (accessorNamesFor className).baseName r = w ++ "_") := by
  have hled := isLetterLed_spelled className r.key r.style
  rcases baseName_spelled className r with ⟨heq, hleft⟩ | ⟨heq, hnot⟩
  · rw [heq]
    exact ⟨hled, .inl ⟨hleft.not_forbidden, hleft.not_class⟩⟩
  · rw [heq, hsuffix]
    refine ⟨hled.append (by simp [isNameChar]), .inr ⟨_, ?_, rfl⟩⟩
    by_contra hword
    rw [not_or] at hword
    exact hnot ⟨hword.1, hword.2⟩

/-! ## One name -/

/-- A name that an accessor may bear in any class but one of that name. -/
structure IsUsable (name : String) : Prop where
  letter_led : IsLetterLed name
  not_reserved : name ∉ reservedWords
  not_member : name ∉ classMembers

theorem isUsable_of_not_forbidden (hled : IsLetterLed name)
    (h : name ∉ reservedWords ++ classMembers) : IsUsable name := by
  rw [List.mem_append, not_or] at h
  exact ⟨hled, h.1, h.2⟩

/-- Whatever names are in use, the one freed for a request is usable. -/
theorem isUsable_free (className : String) (used : List String) (hsuffix : r.suffix = "_") :
    IsUsable (free used ((accessorNamesFor className).baseName r)) := by
  obtain ⟨hled, hbase⟩ := baseName_cases className hsuffix
  rcases free_eq_or used ((accessorNamesFor className).baseName r) with hfree | ⟨k, -, hfree⟩
  · rw [hfree]
    refine isUsable_of_not_forbidden hled ?_
    rcases hbase with ⟨hnot, -⟩ | ⟨w, -, heq⟩
    · exact hnot
    · exact heq ▸ append_underscore_not_forbidden w
  · rw [hfree]
    exact isUsable_of_not_forbidden (hled.numbered k) (numbered_not_forbidden _ k)

/-- The forms that a class name has if the allocator of its class can hand it out. -/
def EndsLikeDerived (className : String) : Prop :=
  (∃ w ∈ reservedWords ++ classMembers, className = w ++ "_") ∨
    ∃ base k, 1 ≤ k ∧ className = numbered base k

/-- A name that an accessor may bear but for the class name, and the class name only if that ends
like a derived name. -/
structure IsDerivedName (className name : String) : Prop where
  identifier : isIdentifier name
  not_reserved : name ∉ reservedWords
  not_member : name ∉ classMembers
  ends_of_class : name = className → EndsLikeDerived className

theorem IsDerivedName.isAccessorName (h : IsDerivedName className name) (hne : name ≠ className) :
    IsAccessorName (.str className) name :=
  ⟨h.identifier, h.not_reserved, h.not_member, by simpa [isClassName] using Ne.symm hne⟩

/-- Whatever names are in use, the one freed for a request is a derived name. -/
theorem isDerivedName_free (used : List String) (hsuffix : r.suffix = "_") :
    IsDerivedName className (free used ((accessorNamesFor className).baseName r)) := by
  have husable := isUsable_free className used hsuffix
  refine ⟨isIdentifier_of_isLetterLed husable.letter_led, husable.not_reserved,
    husable.not_member, ?_⟩
  obtain ⟨-, hbase⟩ := baseName_cases className hsuffix
  generalize (accessorNamesFor className).baseName r = base at hbase ⊢
  rcases free_eq_or used base with hfree | ⟨k, hk, hfree⟩
  · rw [hfree]
    rintro rfl
    rcases hbase with ⟨-, hne⟩ | ⟨w, hw, heq⟩
    · exact absurd rfl hne
    · rcases hw with hw | rfl
      · exact .inl ⟨w, hw, heq⟩
      · have hlength := congrArg String.length heq
        simp at hlength
  · rw [hfree]
    rintro rfl
    exact .inr ⟨base, k, hk, rfl⟩

/-! ## Any run -/

/-- Any run of the allocator of a class, whatever is claimed or forgotten on the way: every request
with the usual suffix is answered by a usable name. -/
theorem answers_usable (className : String) (steps : List Allocator.Step)
    (hsuffix : ∀ r, .allocate r ∈ steps → r.suffix = "_") :
    let answers := ((accessorNamesFor className).run steps).1
    (∀ (i : ℕ) r, steps[i]? = some (.allocate r) → ∃ name, answers[i]? = some (some name)) ∧
    ∀ name, some name ∈ answers → IsUsable name := by
  intro answers
  have hanswer : ∀ (i : ℕ) r, steps[i]? = some (.allocate r) →
      ∃ name, answers[i]? = some (some name) ∧ IsUsable name := fun i r hr =>
    Allocator.exists_answer_of_forall_free (accessorNamesFor_given className)
      (fun used s hs => isUsable_free className used (hsuffix s hs)) hr
  constructor
  · intro i r hr
    obtain ⟨name, hname, -⟩ := hanswer i r hr
    exact ⟨name, hname⟩
  · intro name hmem
    obtain ⟨i, hi⟩ := List.mem_iff_getElem?.mp hmem
    have hstep := hi
    rw [Allocator.run_getElem?] at hstep
    obtain ⟨step, hstep, hname⟩ := Option.map_eq_some_iff.mp hstep
    cases step with
    | allocate r =>
      obtain ⟨name', hname', husable⟩ := hanswer i r hstep
      rw [hi] at hname'
      cases hname'
      exact husable
    | claim claimed => cases hname
    | reset => cases hname

/-- A run in which a suffixed name is claimed, and a key spells it out after a reset. -/
theorem answers_usable_of_else :
    let steps : List Allocator.Step := [.allocate { key := "else" }, .claim "else_1",
      .allocate { key := "ELSE", style := .snake }, .reset, .allocate { key := "2 else_" }]
    let answers := ((accessorNamesFor "else_").run steps).1
    (∀ r, .allocate r ∈ steps → r.suffix = "_") ∧
    answers = [some "else_", none, some "else_2", none, some "n2Else"] ∧
    IsUsable "else_" ∧ IsUsable "else_2" ∧ IsUsable "n2Else" := by
  intro steps answers
  have hsuffix : ∀ r, .allocate r ∈ steps → r.suffix = "_" := by
    intro r hr
    simp only [steps, List.mem_cons, Allocator.Step.allocate.injEq, reduceCtorEq,
      List.not_mem_nil, or_false, false_or] at hr
    rcases hr with rfl | rfl | rfl
    all_goals rfl
  have hanswers : answers = [some "else_", none, some "else_2", none, some "n2Else"] := by
    decide +kernel
  have husable := (answers_usable "else_" steps hsuffix).2
  have hmem : ∀ name ∈ ["else_", "else_2", "n2Else"], some name ∈ answers := by
    rw [hanswers]
    decide
  exact ⟨hsuffix, hanswers, husable _ (hmem _ (by simp)), husable _ (hmem _ (by simp)),
    husable _ (hmem _ (by simp))⟩

/-! ## The names of keys -/

/-- The names that the allocator of a class derives for keys, in order. -/
def derivedNames (className : String) (style : Style) (keys : List String) : List String :=
  ((accessorNamesFor className).run
    ((keys.map fun key => { key, style }).map .allocate)).1.filterMap id

variable {style : Style} {keys : List String}

theorem map_some_derivedNames :
    (derivedNames className style keys).map some =
      ((accessorNamesFor className).run
        ((keys.map fun key => { key, style }).map .allocate)).1 := by
  obtain ⟨names, hnames⟩ := (accessorNamesFor className).exists_names_run
    (keys.map fun key => { key, style })
  rw [derivedNames, hnames]
  simp

/-- Different keys get different names. -/
theorem derivedNames_nodup (className : String) (style : Style) (h : keys.Nodup) :
    (derivedNames className style keys).Nodup := by
  have hinj : Function.Injective fun key => Request.label { key, style } := by
    intro k l hlabel
    have hiff := Request.label_eq_iff (r := { key := k, style }) (s := { key := l, style }) rfl rfl
    exact hiff.mp hlabel
  have hlabels : ((keys.map fun key => ({ key, style } : Request)).map Request.label).Nodup := by
    rw [List.map_map]
    exact h.map hinj
  have hanswers := Allocator.run_requests_nodup
    (Allocator.sound_of_given_nil (accessorNamesFor_given className)) hlabels
  rw [← map_some_derivedNames] at hanswers
  exact List.Nodup.of_map _ hanswers

/-- Every name that is derived is the base name of a key, freed of names in use. -/
theorem exists_free_of_mem_derivedNames (h : name ∈ derivedNames className style keys) :
    ∃ key ∈ keys, ∃ used, name = free used ((accessorNamesFor className).baseName { key, style }) := by
  let rs : List Request := keys.map fun key => { key, style }
  have hanswer : some name ∈ ((accessorNamesFor className).run (rs.map .allocate)).1 := by
    rw [← map_some_derivedNames]
    exact List.mem_map_of_mem h
  rw [Allocator.run_requests] at hanswer
  obtain ⟨r, -, hgiven⟩ := List.mem_map.mp hanswer
  refine Allocator.forall_given_run (P := fun name => ∃ key ∈ keys, ∃ used,
    name = free used ((accessorNamesFor className).baseName { key, style }))
    (accessorNamesFor className) (rs.map .allocate) (by simp) ?_ _
    (Allocator.mem_given_of_given? hgiven)
  intro used s hs
  obtain ⟨t, ht, heq⟩ := List.mem_map.mp hs
  obtain ⟨key, hkey, rfl⟩ := List.mem_map.mp ht
  cases heq
  exact ⟨key, hkey, used, rfl⟩

/-- Every name that is derived for a key is a derived name. -/
theorem isDerivedName_of_mem (h : name ∈ derivedNames className style keys) :
    IsDerivedName className name := by
  obtain ⟨key, -, used, rfl⟩ := exists_free_of_mem_derivedNames h
  exact isDerivedName_free used rfl

/-! ## The check -/

variable {b : Book}

/-- A default table under derived names passes the check, unless one of them is the class name. -/
theorem checkNames_of_derived
    (hnames : b.defaultTable.phrases.map Phrase.accessor =
      derivedNames className style b.defaultTable.keys)
    (hparams : ∀ p ∈ b.defaultTable.phrases, AreParameters p.placeholders)
    (hclass : className ∉ derivedNames className style b.defaultTable.keys) :
    checkNames (.str className) b = .ok () := by
  have hnodup := derivedNames_nodup className style b.defaultTable.keys_nodup
  refine checkNames_eq_ok_iff.mpr ⟨?_, hnames ▸ hnodup⟩
  intro p hp
  have hname : p.accessor ∈ derivedNames className style b.defaultTable.keys := by
    rw [← hnames]
    exact List.mem_map_of_mem hp
  have hne : p.accessor ≠ className := by
    rintro heq
    exact hclass (heq ▸ hname)
  exact ⟨(isDerivedName_of_mem hname).isAccessorName hne, hparams p hp⟩

/-- If one of them is the class name, this is what the check complains of. -/
theorem checkNames_of_derived_class
    (hnames : b.defaultTable.phrases.map Phrase.accessor =
      derivedNames className style b.defaultTable.keys)
    (hparams : ∀ p ∈ b.defaultTable.phrases, AreParameters p.placeholders)
    (hclass : className ∈ derivedNames className style b.defaultTable.keys) :
    ∃ p ∈ b.defaultTable.phrases,
      checkNames (.str className) b = .error (.shadowing p.key className className) := by
  have hnodup := derivedNames_nodup className style b.defaultTable.keys_nodup
  have hgood : ∀ p ∈ b.defaultTable.phrases, isIdentifier p.accessor ∧
      p.accessor ∉ reservedWords ∧ p.accessor ∉ classMembers ∧ AreParameters p.placeholders := by
    intro p hp
    have hname : p.accessor ∈ derivedNames className style b.defaultTable.keys := by
      rw [← hnames]
      exact List.mem_map_of_mem hp
    have hderived := isDerivedName_of_mem hname
    exact ⟨hderived.identifier, hderived.not_reserved, hderived.not_member, hparams p hp⟩
  have hseen : ∀ p ∈ b.defaultTable.phrases,
      p.accessor ∉ ([] : List (String × String)).map Prod.fst := fun _ _ => List.not_mem_nil
  obtain ⟨p, hp, -, hcheck⟩ := checkPhrases_eq_shadowing hgood (hnames ▸ hnodup) hseen
    (hnames ▸ hclass)
  exact ⟨p, hp, hcheck⟩

end Phrasebook.Dart
