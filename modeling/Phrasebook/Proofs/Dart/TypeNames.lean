-- SUMMARY: The types that a class refers to, and which of their names keys can have.
import Mathlib.Data.List.Basic
import Mathlib.Tactic.Common
import Phrasebook.Dart.Generator
import Phrasebook.Proofs.Dart.DerivedNames
import Phrasebook.Proofs.Dart.DispatchReading
import Phrasebook.Proofs.Naming.Capitals

/-!
# Names of types

The code of a class refers to types of the language, of the framework and of the
settings. A member that has the name of a type hides it in the class. The
allocator of the class does not know these names; a key that is spelled as one
of them gets it.
-/

namespace Phrasebook.Dart

open Naming

variable {className name : String} {style : Style} {keys : List String}

/-! ## Keys and derived names -/

/-- What can stand behind the spelling of a key in a derived name. -/
def IsTail (tail : String) : Prop :=
  ∀ c ∈ tail.toList, c = '_' ∨ c.isDigit

theorem isTail_toString (k : Nat) : IsTail (toString k) := by
  intro c hc
  rw [Nat.toString_eq_repr, Nat.toList_repr] at hc
  exact .inr (Nat.isDigit_of_mem_toDigits (by decide) (by decide) hc)

theorem IsTail.append {s t : String} (hs : IsTail s) (ht : IsTail t) : IsTail (s ++ t) := by
  intro c hc
  rw [String.toList_append, List.mem_append] at hc
  exact hc.elim (hs c) (ht c)

/-- A derived name is the spelling of a key with a tail behind it, or without one if it may stay. -/
theorem exists_spelled_of_mem (h : name ∈ derivedNames className style keys) :
    ∃ key ∈ keys, ∃ tail, name = spelled className key style ++ tail ∧ IsTail tail ∧
      (tail = "" → IsLeft className name) := by
  obtain ⟨key, hkey, used, rfl⟩ := exists_free_of_mem_derivedNames h
  have hunderscore : IsTail "_" := by simp [IsTail]
  have hnumber : ∀ k, toString (k : Nat) ≠ "" := by
    intro k hempty
    have hlist := congrArg String.toList hempty
    rw [Nat.toString_eq_repr, Nat.toList_repr] at hlist
    exact Nat.toDigits_ne_nil hlist
  refine ⟨key, hkey, ?_⟩
  rcases baseName_spelled className { key, style } with ⟨hbase, hleft⟩ | ⟨hbase, -⟩
  · rw [hbase]
    rcases free_eq_or used (spelled className key style) with hfree | ⟨k, -, hfree⟩
    · exact ⟨"", by simp [hfree], by simp [IsTail], fun _ => hfree.symm ▸ hleft⟩
    · exact ⟨toString k, hfree, isTail_toString k, fun hempty => absurd hempty (hnumber k)⟩
  · rw [hbase]
    rcases free_eq_or used (spelled className key style ++ "_") with hfree | ⟨k, -, hfree⟩
    · exact ⟨"_", hfree, hunderscore, fun hempty => absurd hempty (by decide)⟩
    · refine ⟨"_" ++ toString k, ?_, hunderscore.append (isTail_toString k), fun hempty => ?_⟩
      · rw [hfree, numbered, String.append_assoc]
      · simp at hempty

/-- A name that does not end as a tail does. -/
def EndsPlainly (name : String) : Prop :=
  ∀ c ∈ name.toList.getLast?, ¬ (c = '_' ∨ c.isDigit)

theorem endsPlainly_iff :
    EndsPlainly name ↔ name.toList.getLast?.all fun c => !(c == '_' || c.isDigit) := by
  unfold EndsPlainly
  cases name.toList.getLast? <;> simp

instance (name : String) : Decidable (EndsPlainly name) :=
  decidable_of_iff _ endsPlainly_iff.symm

/-- A name without a tail is derived exactly if it may stay and a key spells it. -/
theorem mem_derivedNames_iff (h : EndsPlainly name) : name ∈ derivedNames className style keys ↔
    IsLeft className name ∧ ∃ key ∈ keys, spelled className key style = name := by
  constructor
  · intro hmem
    obtain ⟨key, hkey, tail, rfl, htail, hleft⟩ := exists_spelled_of_mem hmem
    have hempty : tail = "" := by
      by_contra hne
      have hlist : tail.toList ≠ [] := fun hnil => hne (String.toList_eq_nil_iff.mp hnil)
      refine h _ ?_ (htail _ (List.getLast_mem hlist))
      rw [String.toList_append, List.getLast?_append, List.getLast?_eq_some_getLast hlist]
      rfl
    subst hempty
    exact ⟨hleft rfl, key, hkey, by simp⟩
  · rintro ⟨hleft, key, hkey, rfl⟩
    have hbase : (accessorNamesFor className).baseName { key, style } =
        spelled className key style := by
      rcases baseName_spelled className { key, style } with ⟨heq, -⟩ | ⟨-, hnot⟩
      · exact heq
      · exact absurd hleft hnot
    have hanswer : some (spelled className key style) ∈
        (derivedNames className style keys).map some := by
      rw [map_some_derivedNames, ← hbase]
      refine Allocator.baseName_mem_answers ?_ (List.mem_map_of_mem hkey) (by simp) ?_
      · intro r hr
        obtain ⟨key', -, rfl⟩ := List.mem_map.mp hr
        change '\x00' ∉ "_".toList
        decide
      · rw [Allocator.given?, accessorNamesFor_given]
        rfl
    obtain ⟨name, hname, heq⟩ := List.mem_map.mp hanswer
    exact Option.some.inj heq ▸ hname

/-- Only in one style a derived name is mixed. -/
theorem not_isMixed_of_mem (hstyle : style ≠ .pascal)
    (h : name ∈ derivedNames className style keys) : ¬ IsMixed name := by
  obtain ⟨key, -, tail, rfl, htail, -⟩ := exists_spelled_of_mem h
  intro hmixed
  exact not_isMixed_styled (accessorNamesFor_digitLead className) hstyle key
    (isMixed_of_append (spelled_ne_empty className key style) htail hmixed)

/-! ## Types -/

/-- Whether a name is a word of a line, outside literals and comments. -/
def OccursIn (name : String) (lines : List String) : Prop :=
  ∃ line ∈ lines, ∃ ts, tokens line.toList = .ok ts ∧ .word name ∈ ts

theorem OccursIn.mono {lines lines' : List String} (h : OccursIn name lines)
    (hlines : lines ⊆ lines') : OccursIn name lines' := by
  obtain ⟨line, hline, hword⟩ := h
  exact ⟨line, hlines hline, hword⟩

/-- The tokens of an identifier between two pieces of code. -/
theorem tokens_around (opening closing : String) {d : Char} {ts more : List Token}
    (hname : isIdentifier name) (hopening : tokens opening.toList = .ok ts)
    (hslash : '/' ∉ opening.toList) (hclosing : tokens closing.toList = .ok more)
    (hhead : closing.toList.head? = some d) (hd : isIdentifierChar d = false) :
    tokens (opening ++ " " ++ name ++ closing).toList =
      .ok (ts ++ .word (identifierOf name) :: more) := by
  obtain ⟨rest, hrest⟩ := List.head?_eq_some_iff.mp hhead
  have hlist : (opening ++ " " ++ name ++ closing).toList =
      opening.toList ++ ' ' :: (name.toList ++ closing.toList) := by
    simp
  have hends : Ends ' ' opening.toList := ⟨by decide, .inr ⟨by decide, hslash⟩⟩
  rw [hlist, tokens_append hopening hends, tokens_blank (by decide), hrest,
    tokens_identifier hname hd, ← hrest, hclosing]
  rfl

namespace ClassSource

/-- The types of the language and of the framework that the code of a class refers to. -/
def libraryTypes (c : ClassSource) : List String :=
  ["String", "Locale", "List", "Map"]
    ++ if c.contextAccessor then ["BuildContext", "Localizations"] else []

/-- The types that the options of a class name. -/
def optionTypes (c : ClassSource) : List String :=
  [identifierOf c.lookupType, identifierOf c.customLookupType, identifierOf c.delegateType]

/-- The types that the code of a class refers to. -/
def typeNames (c : ClassSource) : List String :=
  c.libraryTypes ++ c.optionTypes

/-- The types that the options of a class name are identifiers. -/
structure NamesTypes (c : ClassSource) : Prop where
  lookup : isIdentifier c.lookupType
  custom_lookup : isIdentifier c.customLookupType
  delegate : isIdentifier c.delegateType

variable {c : ClassSource}

/-- The types of the libraries have nothing behind them that a tail could be, are mixed, and may be
members of a class of another name. -/
theorem libraryTypes_spelling : ∀ name ∈ c.libraryTypes,
    EndsPlainly name ∧ IsMixed name ∧ name ∉ reservedWords ++ classMembers := by
  let types := ["String", "Locale", "List", "Map", "BuildContext", "Localizations"]
  have hplain : ∀ name ∈ types, EndsPlainly name := by decide
  have hmixed : ∀ name ∈ types, IsMixed name := by decide
  have hfree : ∀ name ∈ types, name ∉ reservedWords ++ classMembers := by decide +kernel
  have htypes : c.libraryTypes ⊆ types := by
    unfold libraryTypes
    split
    · exact List.Subset.refl types
    · rw [List.append_nil]
      exact List.subset_append_left _ ["BuildContext", "Localizations"]
  intro name hname
  exact ⟨hplain name (htypes hname), hmixed name (htypes hname), hfree name (htypes hname)⟩

/-- The types of the fields of a class. -/
theorem occursIn_headLines (h : c.NamesTypes) :
    OccursIn "Locale" c.headLines ∧ OccursIn (identifierOf c.lookupType) c.headLines ∧
      OccursIn (identifierOf c.customLookupType) c.headLines ∧
      OccursIn (identifierOf c.delegateType) c.headLines := by
  have hlocale : tokens "  static Locale? locale;".toList =
      .ok [.word "static", .word "Locale", .mark '?', .word "locale", .mark ';'] := by cbv
  have hlookup := tokens_around "  final" " _lookup;" h.lookup
    (by cbv) (by decide) (by cbv) rfl (by decide)
  have hcustom := tokens_around "  static" "? customLookup;" h.custom_lookup
    (by cbv) (by decide) (by cbv) rfl (by decide)
  have hvalue := tokens_around " delegate =" "();" h.delegate
    (by cbv) (by decide) (by cbv) rfl (by decide)
  have hdelegate := tokens_around (d := ' ') "  static const"
    (" delegate =" ++ " " ++ c.delegateType ++ "();") h.delegate
    (by cbv) (by decide) hvalue (by simp) (by decide)
  have hline : "  static const" ++ " " ++ c.delegateType ++
      (" delegate =" ++ " " ++ c.delegateType ++ "();") =
        "  static const " ++ c.delegateType ++ " delegate = " ++ c.delegateType ++ "();" := by
    rw [← String.toList_inj]
    simp
  rw [hline] at hdelegate
  refine ⟨⟨_, ?_, _, hlocale, ?_⟩, ⟨_, ?_, _, hlookup, ?_⟩, ⟨_, ?_, _, hcustom, ?_⟩,
    ⟨_, ?_, _, hdelegate, ?_⟩⟩
  · simp [headLines]
  · simp
  · simp [headLines]
  · simp
  · simp [headLines]
  · simp
  · simp [headLines]
  · simp

/-- The types of the accessor by build context. -/
theorem occursIn_contextLines (h : isIdentifier c.name) (hcontext : c.contextAccessor) :
    OccursIn "BuildContext" c.contextLines ∧ OccursIn "Localizations" c.contextLines := by
  have hsignature := tokens_around "  static" " of(BuildContext context) =>" h
    (by cbv) (by decide) (by cbv) rfl (by decide)
  have hopening : tokens "      Localizations.of".toList =
      .ok [.word "Localizations", .mark '.', .word "of"] := by cbv
  have hends : Ends '<' "      Localizations.of".toList := ⟨by decide, .inr ⟨by decide, by decide⟩⟩
  have harguments := tokens_around ">(context," ")!;" h
    (by cbv) (by decide) (by cbv) rfl (by decide)
  have hbody : ∃ more, tokens ("      Localizations.of<" ++ c.name ++ ">(context, " ++ c.name ++
      ")!;").toList = .ok (.word "Localizations" :: more) := by
    have hlist : ("      Localizations.of<" ++ c.name ++ ">(context, " ++ c.name ++ ")!;").toList =
        "      Localizations.of".toList ++ '<' :: (c.name.toList ++
          '>' :: ("(context," ++ " " ++ c.name ++ ")!;").toList) := by
      simp
    have hclosing : '>' :: ("(context," ++ " " ++ c.name ++ ")!;").toList =
        (">(context," ++ " " ++ c.name ++ ")!;").toList := by
      simp
    rw [hlist, tokens_append hopening hends, tokens_mark (by decide),
      tokens_identifier h (by decide), hclosing, harguments]
    exact ⟨_, rfl⟩
  obtain ⟨more, hbody⟩ := hbody
  simp only [contextLines, hcontext, if_true]
  refine ⟨⟨_, ?_, _, hsignature, ?_⟩, ⟨_, ?_, _, hbody, ?_⟩⟩
  · simp
  · simp
  · simp
  · simp

theorem occursIn_localesLines (locales : List Locale) : OccursIn "List" (localesLines locales) := by
  refine ⟨"  static List<Locale> get supportedLocales \x7b", by simp [localesLines],
    [.word "static", .word "List", .mark '<', .word "Locale", .mark '>', .word "get",
      .word "supportedLocales", .mark '\x7b'], ?_, by simp⟩
  cbv

theorem occursIn_dispatch (d : Dispatch) : OccursIn "String" d.lines ∧ OccursIn "Map" d.lines := by
  have htokens : tokens ("  String getString(String key, [Map<String, String> " ++
      "placeholders = const \x7b\x7d]) \x7b").toList =
        .ok ((headTokens "key" "placeholders" "key").take 21) := by cbv
  refine ⟨⟨_, ?_, _, htokens, by decide⟩, ⟨_, ?_, _, htokens, by decide⟩⟩
  · simp [Dispatch.lines]
  · simp [Dispatch.lines]

/-- Every type that a class refers to is a word of its code. -/
theorem occursIn_lines (h : c.NamesTypes) (hclass : isIdentifier c.name) :
    ∀ name ∈ c.typeNames, OccursIn name c.lines := by
  have hhead : c.headLines ⊆ c.lines := fun line hline => by simp [lines, hline]
  have hcontextLines : c.contextLines ⊆ c.lines := fun line hline => by simp [lines, hline]
  have hlocales : localesLines c.locales ⊆ c.lines := fun line hline => by simp [lines, hline]
  have hdispatch : c.dispatch.lines ⊆ c.lines := fun line hline => by simp [lines, hline]
  obtain ⟨hlocale, hlookup, hcustom, hdelegate⟩ := occursIn_headLines h
  obtain ⟨hstring, hmap⟩ := occursIn_dispatch c.dispatch
  intro name hname
  simp only [typeNames, libraryTypes, optionTypes, List.mem_append] at hname
  rcases hname with (hlanguage | hframework) | hoption
  · simp only [List.mem_cons, List.not_mem_nil, or_false] at hlanguage
    rcases hlanguage with rfl | rfl | rfl | rfl
    · exact hstring.mono hdispatch
    · exact hlocale.mono hhead
    · exact (occursIn_localesLines c.locales).mono hlocales
    · exact hmap.mono hdispatch
  · split at hframework
    · rename_i haccessor
      obtain ⟨hbuild, hlocalizations⟩ := occursIn_contextLines hclass haccessor
      simp only [List.mem_cons, List.not_mem_nil, or_false] at hframework
      rcases hframework with rfl | rfl
      · exact hbuild.mono hcontextLines
      · exact hlocalizations.mono hcontextLines
    · cases hframework
  · simp only [List.mem_cons, List.not_mem_nil, or_false] at hoption
    rcases hoption with rfl | rfl | rfl
    · exact hlookup.mono hhead
    · exact hcustom.mono hhead
    · exact hdelegate.mono hhead

/-- Whether an accessor of a class has the name of a type that the class refers to. -/
structure HidesType (c : ClassSource) (name : String) : Prop where
  is_type : name ∈ c.typeNames
  is_accessor : name ∈ c.accessors.map Accessor.name

end ClassSource

/-! ## Options -/

namespace Options

theorem isIdentifier_typeName {initial : String} (h : isIdentifier initial)
    (fields : Json.Fields) (option : String) :
    isIdentifier (typeName fields option initial).1 := by
  unfold typeName
  split
  · exact h
  · split
    · assumption
    · exact h
  · exact h

/-- Options that are read name types by identifiers. -/
theorem isIdentifier_of_ofCustom {custom : Settings.Custom} {options : Options}
    (h : ofCustom custom = .ok options) : isIdentifier options.lookupType ∧
      isIdentifier options.customLookupType ∧ isIdentifier options.delegateType := by
  unfold ofCustom at h
  split at h
  · cases h
  · rename_i fields hfields
    simp only at h
    split at h
    · cases h
      exact ⟨isIdentifier_typeName (by decide) fields _,
        isIdentifier_typeName (by decide) fields _, isIdentifier_typeName (by decide) fields _⟩
    · cases h

end Options

theorem Generator.namesTypes_classSource {g : Generator}
    (h : Options.ofCustom g.settings.custom = .ok g.options) (b : Book) :
    (g.classSource b).NamesTypes := by
  obtain ⟨hlookup, hcustom, hdelegate⟩ := Options.isIdentifier_of_ofCustom h
  exact ⟨hlookup, hcustom, hdelegate⟩

end Phrasebook.Dart
