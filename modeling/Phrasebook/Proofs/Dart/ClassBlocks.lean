-- SUMMARY: The text of a class is a block, so that layout leaves it as it is.
import Phrasebook.Proofs.Dart.Documentation
import Phrasebook.Proofs.Dart.WellNamed
import Phrasebook.Proofs.Layout.Blocks

/-!
# Blocks of a class

A line of a class is put together from fixed texts, which end it with a character
that is not blank, and from names, literals and markers. None of these has a line
feed with something blank before it: a literal has no line feed, and a name has one
only at its end, behind the identifier. So the parts of a class are blocks, and an
empty line stands only between two of them.
-/

namespace Phrasebook.Dart

open Text Layout

variable {s t : String} {lines more : List String}

/-! ## Lines -/

/-- A text that may stand in a line: no line feed in it has something blank before it. -/
def IsPart (s : String) : Prop :=
  BreaksAfterInk s.toList

/-- A text that may be a line, or several ones: none of them is empty or ends in whitespace. -/
def IsLine (s : String) : Prop :=
  IsSolid s.toList

/-- Whether a text has no breaks, and a character at its end that is not blank. -/
def closesLine (s : String) : Bool :=
  isOneLine s && s.toList.getLast?.any (!isBlank ·)

theorem isPart_of_breakFree (h : BreakFree (· == '\n') s) : IsPart s :=
  breaksAfterInk_of_not_mem h.not_mem

theorem isPart_of_isOneLine (h : isOneLine s) : IsPart s :=
  isPart_of_breakFree (breaksLines_line_feed.breakFree h)

theorem isPart_literal (s : String) : IsPart (literal s) :=
  isPart_of_breakFree (breaksLines_line_feed.breakFree_literal s)

theorem IsLine.isPart (h : IsLine s) : IsPart s :=
  h.breaks

theorem IsPart.append (hs : IsPart s) (ht : IsPart t) : IsPart (s ++ t) := by
  rw [IsPart, String.toList_append]
  exact BreaksAfterInk.append hs ht

theorem IsPart.joinStrings {sep : String} (hsep : IsPart sep) {parts : List String}
    (hparts : ∀ s ∈ parts, IsPart s) : IsPart (joinStrings sep parts) :=
  joinStrings_induction (isPart_of_isOneLine rfl) IsPart.append hsep hparts

theorem isLine_of_closesLine (h : closesLine s) : IsLine s := by
  rw [closesLine, Bool.and_eq_true, Option.any_eq_true] at h
  obtain ⟨hline, c, hlast, hc⟩ := h
  refine ⟨isPart_of_isOneLine hline, ?_, ?_⟩
  · intro hnil
    rw [hnil] at hlast
    cases hlast
  · intro d hd
    obtain rfl : d = c := Option.some.inj (hd.symm.trans hlast)
    simpa using hc

theorem isLine_of_all (h : lines.all closesLine) : ∀ line ∈ lines, IsLine line :=
  fun line hline => isLine_of_closesLine (List.all_eq_true.mp h line hline)

theorem IsPart.line (hs : IsPart s) (ht : IsLine t) : IsLine (s ++ t) := by
  rw [IsLine, String.toList_append]
  exact ht.prepend hs

/-- A part between two fixed texts. -/
theorem IsPart.between {opening closing : String} (hs : IsPart s) (hopening : isOneLine opening)
    (hclosing : closesLine closing) : IsLine (opening ++ s ++ closing) :=
  ((isPart_of_isOneLine hopening).append hs).line (isLine_of_closesLine hclosing)

/-- Two parts, each behind a fixed text. -/
theorem IsPart.pair {opening middle : String} (hs : IsPart s) (ht : IsPart t)
    (hopening : isOneLine opening) (hmiddle : isOneLine middle) :
    IsPart (opening ++ s ++ middle ++ t) :=
  (((isPart_of_isOneLine hopening).append hs).append (isPart_of_isOneLine hmiddle)).append ht

/-! ## Names -/

theorem isBlank_of_isIdentifierChar {c : Char} (h : isIdentifierChar c) : isBlank c = false := by
  have hsmall : c.toNat < 128 := by
    delta isIdentifierChar isIdentifierStart Char.isAlpha Char.isUpper Char.isLower Char.isDigit at h
    simp only [Bool.or_eq_true, Bool.and_eq_true, decide_eq_true_eq, ge_iff_le,
      UInt32.le_iff_toNat_le] at h
    rcases h with (((h | h) | rfl) | rfl) | h
    · exact h.2.trans_lt (by decide)
    · exact h.2.trans_lt (by decide)
    · decide
    · decide
    · exact h.2.trans_lt (by decide)
  have hall : ∀ n < 128, isIdentifierChar (Char.ofNat n) → isBlank (Char.ofNat n) = false := by
    decide
  rw [← Char.ofNat_toNat c] at h ⊢
  exact hall _ hsmall h

theorem IsSpelled.isLine {name : String} (h : IsSpelled name) : IsLine name := by
  obtain ⟨c, cs, hname, hc, hcs⟩ := h
  have hchars : ∀ d ∈ name.toList, isBlank d = false := by
    have hstart : isIdentifierChar c := by simp [isIdentifierChar, hc]
    rw [hname, List.forall_mem_cons]
    exact ⟨isBlank_of_isIdentifierChar hstart, fun d hd => isBlank_of_isIdentifierChar (hcs d hd)⟩
  refine ⟨breaksAfterInk_of_not_mem fun hbreak => ?_, by simp [hname], fun d hd => ?_⟩
  · exact absurd (hchars _ hbreak) (by decide)
  · exact hchars d (List.mem_of_getLast? hd)

/-- The line feed that may stand at the end of a name has the identifier before it. -/
theorem isPart_of_isIdentifier {name : String} (h : isIdentifier name) : IsPart name := by
  rcases isIdentifier_iff_isLooselySpelled.mp h with hname | ⟨word, hword, rfl⟩
  · exact hname.isLine.isPart
  · rw [IsPart, String.toList_append]
    exact hword.isLine.breaksAfterInk_concat

/-! ## Lines put together -/

/-- Lines whose text is a block. -/
structure AreLaid (lines : List String) : Prop where
  ne_nil : lines ≠ []
  block : IsBlock (ofLines lines).toList

theorem AreLaid.append (h : AreLaid lines) (hmore : AreLaid more) : AreLaid (lines ++ more) := by
  refine ⟨by simp [h.ne_nil], ?_⟩
  rw [toList_ofLines_append h.ne_nil hmore.ne_nil]
  exact h.block.append hmore.block

/-- An empty line may stand between two blocks. -/
theorem AreLaid.append_blank (h : AreLaid lines) (hmore : AreLaid more) :
    AreLaid (lines ++ "" :: more) := by
  refine ⟨by simp, ?_⟩
  rw [toList_ofLines_append h.ne_nil (List.cons_ne_nil _ _), toList_ofLines_cons hmore.ne_nil]
  exact h.block.append_blank hmore.block

theorem areLaid_line {line : String} (h : IsLine line) : AreLaid [line] :=
  ⟨List.cons_ne_nil _ _, IsSolid.isBlock h⟩

theorem areLaid_of_isLine (hne : lines ≠ []) (h : ∀ line ∈ lines, IsLine line) : AreLaid lines := by
  induction lines with
  | nil => exact absurd rfl hne
  | cons line lines ih =>
    rw [List.forall_mem_cons] at h
    by_cases hnil : lines = []
    · rw [hnil]
      exact areLaid_line h.1
    · exact (areLaid_line h.1).append (ih hnil h.2)

/-- Blocks with an empty line behind each of them, and one more. -/
theorem AreLaid.flatMap_blank {α : Type} {members : List α} {f : α → List String}
    (h : ∀ a ∈ members, AreLaid (f a)) (hmore : AreLaid more) :
    AreLaid (members.flatMap (fun a => f a ++ [""]) ++ more) := by
  induction members with
  | nil => exact hmore
  | cons a members ih =>
    rw [List.forall_mem_cons] at h
    have hrest := h.1.append_blank (ih h.2)
    simpa using hrest

/-! ## Parts of a class -/

theorem isPart_call {shape : Shape} {name : String} {arguments : List String} (hname : IsPart name)
    (harguments : ∀ s ∈ arguments, IsPart s) : IsPart (shape.call name arguments) := by
  unfold Shape.call
  split
  · have hlist := IsPart.joinStrings (isPart_of_isOneLine (s := ", ") rfl) harguments
    exact ((hname.append (isPart_of_isOneLine rfl)).append hlist).append (isPart_of_isOneLine rfl)
  · exact hname

theorem DocRow.isPart_cell (r : DocRow) {marker : String} (hmarker : IsPart marker) :
    IsPart (r.cell marker) := by
  unfold DocRow.cell
  split
  · exact isPart_literal _
  · exact hmarker

theorem DocTable.isLine_of_mem_lines {table : DocTable} (htags : ∀ r ∈ table.rows, IsPart r.tag)
    (hmarker : IsPart table.marker) : ∀ line ∈ table.lines, IsLine line := by
  have hrow : ∀ r ∈ table.rows, ∀ line ∈ r.lines table.marker, IsLine line := by
    intro r hr line hline
    simp only [DocRow.lines, List.mem_cons, List.not_mem_nil, or_false] at hline
    rcases hline with rfl | rfl | rfl | rfl
    · exact isLine_of_closesLine rfl
    · exact (htags r hr).between rfl rfl
    · exact (r.isPart_cell hmarker).between rfl rfl
    · exact isLine_of_closesLine rfl
  intro line hline
  rw [DocTable.lines, List.mem_append, List.mem_append, List.mem_flatMap] at hline
  rcases hline with (hline | ⟨r, hr, hline⟩) | hline
  · exact isLine_of_all rfl line hline
  · exact hrow r hr line hline
  · exact isLine_of_all rfl line hline

namespace Accessor

/-- An accessor whose names and documentation have nothing blank before a line feed. -/
structure HasParts (a : Accessor) : Prop where
  name : IsPart a.name
  parameters : ∀ x ∈ a.shape.parameters, IsPart x
  tags : ∀ table ∈ a.documentation, ∀ r ∈ table.rows, IsPart r.tag
  marker : ∀ table ∈ a.documentation, IsPart table.marker

variable {a : Accessor}

theorem HasParts.isPart_signature (h : a.HasParts) : IsPart a.signature := by
  have hparameters : ∀ s ∈ a.shape.parameters.map (fun name => "String" ++ " " ++ name),
      IsPart s := by
    rw [List.forall_mem_map]
    exact fun x hx => (isPart_of_isOneLine rfl).append (h.parameters x hx)
  unfold signature
  split
  · have hlist := IsPart.joinStrings (isPart_of_isOneLine (s := ", ") rfl) hparameters
    exact ((h.name.append (isPart_of_isOneLine rfl)).append hlist).append (isPart_of_isOneLine rfl)
  · exact (isPart_of_isOneLine rfl).append h.name

theorem HasParts.areLaid_lines (h : a.HasParts) : AreLaid a.lines := by
  have hcall : IsPart a.call := isPart_call h.name h.parameters
  refine areLaid_of_isLine (by simp [lines]) fun line hline => ?_
  rw [lines, List.mem_append] at hline
  rcases hline with hline | hline
  · cases htable : a.documentation with
    | none =>
      rw [htable] at hline
      cases hline
    | some table =>
      rw [htable] at hline
      exact DocTable.isLine_of_mem_lines (h.tags table htable) (h.marker table htable) line hline
  · simp only [List.mem_cons, List.not_mem_nil, or_false] at hline
    rcases hline with rfl | rfl | rfl
    · exact h.isPart_signature.between rfl rfl
    · exact IsPart.line (hcall.pair hcall rfl rfl) (isLine_of_closesLine rfl)
    · exact isLine_of_closesLine rfl

end Accessor

/-! ### Locales -/

theorem isLine_exprOfLiterals {language : String} {country script : Option String}
    (hlanguage : IsPart language) (hcountry : ∀ s ∈ country, IsPart s)
    (hscript : ∀ s ∈ script, IsPart s) : IsLine (exprOfLiterals language country script) := by
  unfold exprOfLiterals
  split
  · exact hlanguage.between rfl rfl
  · exact IsPart.line (hlanguage.pair (hcountry _ rfl) rfl rfl) (isLine_of_closesLine rfl)
  · exact IsPart.line (hlanguage.pair (hscript _ rfl) rfl rfl) (isLine_of_closesLine rfl)
  · refine IsPart.line (IsPart.append (IsPart.append ?_ ?_) (hcountry _ rfl))
      (isLine_of_closesLine rfl)
    · exact hlanguage.pair (hscript _ rfl) rfl rfl
    · exact isPart_of_isOneLine rfl

theorem isLine_localeExpr (l : Locale) : IsLine (localeExpr l) := by
  have hliteral : ∀ subtag : Option String, ∀ s ∈ subtag.map literal, IsPart s := by
    rintro (_ | subtag) s hs
    · cases hs
    · cases hs
      exact isPart_literal subtag
  exact isLine_exprOfLiterals (isPart_literal _) (hliteral _) (hliteral _)

theorem isLine_of_mem_listItems {items : List String} (h : ∀ item ∈ items, IsLine item) :
    ∀ line ∈ listItems items, IsLine line := by
  have hlast : ∀ {item}, IsLine item → IsLine ("      " ++ item) :=
    fun hitem => (isPart_of_isOneLine (s := "      ") rfl).line hitem
  induction items with
  | nil => simp [listItems]
  | cons item items ih =>
    rw [List.forall_mem_cons] at h
    cases items with
    | nil => simpa [listItems] using hlast h.1
    | cons next items =>
      rw [listItems, List.forall_mem_cons]
      · exact ⟨(hlast h.1).isPart.line (isLine_of_closesLine rfl), ih h.2⟩
      · simp

theorem areLaid_localesLines (locales : List Locale) : AreLaid (localesLines locales) := by
  have hitems : ∀ line ∈ listItems (locales.map localeExpr), IsLine line :=
    isLine_of_mem_listItems (List.forall_mem_map.mpr fun l _ => isLine_localeExpr l)
  refine areLaid_of_isLine (by simp [localesLines]) fun line hline => ?_
  rw [localesLines, List.mem_append, List.mem_append] at hline
  rcases hline with (hline | hline) | hline
  · exact isLine_of_all rfl line hline
  · exact hitems line hline
  · exact isLine_of_all rfl line hline

/-! ### Dispatch -/

theorem Case.isLine_of_mem_lines {c : Case} (h : IsPart c.name) :
    ∀ line ∈ c.lines, IsLine line := by
  have hargument : ∀ name, IsPart ("placeholders[" ++ literal name ++ "]!") :=
    fun name => IsLine.isPart ((isPart_literal name).between rfl rfl)
  have harguments : ∀ s ∈ c.arguments, IsPart s :=
    List.forall_mem_map.mpr fun name _ => hargument name
  intro line hline
  simp only [Case.lines, List.mem_cons, List.not_mem_nil, or_false] at hline
  rcases hline with rfl | rfl
  · exact (isPart_literal c.key).between rfl rfl
  · exact (isPart_call h harguments).between rfl rfl

theorem Dispatch.isLine_of_mem_lines {d : Dispatch} (h : ∀ c ∈ d.cases, IsPart c.name) :
    ∀ line ∈ d.lines, IsLine line := by
  intro line hline
  rw [Dispatch.lines_eq, List.mem_append, List.mem_append, List.mem_append, List.mem_flatMap]
    at hline
  rcases hline with hline | hline | ⟨c, hc, hline⟩ | hline
  · split at hline
    · exact isLine_of_all rfl line hline
    · cases hline
  · exact isLine_of_all rfl line hline
  · exact Case.isLine_of_mem_lines (h c hc) line hline
  · exact isLine_of_all rfl line hline

/-! ## The class -/

namespace ClassSource

/-- A class whose names and documentation have nothing blank before a line feed. -/
structure HasParts (c : ClassSource) : Prop where
  name : IsPart c.name
  lookup_type : IsPart c.lookupType
  custom_lookup_type : IsPart c.customLookupType
  delegate_type : IsPart c.delegateType
  accessors : ∀ a ∈ c.accessors, a.HasParts
  cases : ∀ k ∈ c.dispatch.cases, IsPart k.name

variable {c : ClassSource}

theorem HasParts.areLaid_headLines (h : c.HasParts) : AreLaid c.headLines := by
  have hclass : AreLaid ["class " ++ c.name ++ " \x7b",
      "  final " ++ c.lookupType ++ " _lookup;"] :=
    (areLaid_line (h.name.between rfl rfl)).append (areLaid_line (h.lookup_type.between rfl rfl))
  have hconstructor : AreLaid ["  " ++ c.name ++ "(this._lookup);"] :=
    areLaid_line (h.name.between rfl rfl)
  have hlocale : AreLaid ["  static Locale? locale;"] := areLaid_line (isLine_of_closesLine rfl)
  have hcurrent : AreLaid ["  static Locale? get currentLocale => locale;"] :=
    areLaid_line (isLine_of_closesLine rfl)
  have hcustom : AreLaid ["  /// add custom locale lookup which will be called first",
      "  static " ++ c.customLookupType ++ "? customLookup;"] :=
    (areLaid_line (isLine_of_closesLine rfl)).append
      (areLaid_line (h.custom_lookup_type.between rfl rfl))
  have hdelegate : AreLaid ["  static const " ++ c.delegateType ++ " delegate = " ++
      c.delegateType ++ "();"] :=
    areLaid_line (IsPart.line (h.delegate_type.pair h.delegate_type rfl rfl)
      (isLine_of_closesLine rfl))
  exact hclass.append_blank <| hconstructor.append_blank <| hlocale.append_blank <|
    hcurrent.append_blank <| hcustom.append_blank hdelegate

theorem HasParts.areLaid_contextLines (h : c.HasParts) :
    AreLaid (c.headLines ++ c.contextLines) := by
  unfold contextLines
  split
  · have hof : IsLine ("  static " ++ c.name ++ " of(BuildContext context) =>") :=
      h.name.between rfl rfl
    have hbody : IsLine ("      Localizations.of<" ++ c.name ++ ">(context, " ++ c.name ++ ")!;") :=
      IsPart.line (h.name.pair h.name rfl rfl) (isLine_of_closesLine rfl)
    exact h.areLaid_headLines.append_blank ((areLaid_line hof).append (areLaid_line hbody))
  · rw [List.append_nil]
    exact h.areLaid_headLines

/-- The lines of a class are laid out, with or without the parts that options add. -/
theorem HasParts.areLaid_lines (h : c.HasParts) : AreLaid c.lines := by
  have hlines : c.lines = (c.headLines ++ c.contextLines) ++ "" ::
      (localesLines c.locales ++ "" ::
        (c.accessors.flatMap (fun a => a.lines ++ [""]) ++ (c.dispatch.lines ++ ["\x7d"]))) := by
    simp [lines]
  have hdispatch : AreLaid (c.dispatch.lines ++ ["\x7d"]) :=
    (areLaid_of_isLine (by simp [Dispatch.lines]) (Dispatch.isLine_of_mem_lines h.cases)).append
      (areLaid_line (isLine_of_closesLine rfl))
  have hmembers := AreLaid.flatMap_blank (fun a ha => (h.accessors a ha).areLaid_lines) hdispatch
  rw [hlines]
  exact h.areLaid_contextLines.append_blank
    ((areLaid_localesLines c.locales).append_blank hmembers)

/-- Layout replaces the line feeds of a class by the line ending, and does nothing else. -/
theorem HasParts.formatString_text (h : c.HasParts) (ending : LineEnding) :
    formatString (String.ofList ending.chars) c.text =
      String.ofList (withEnding ending.chars c.text.toList) := by
  have htext : c.text.toList = (ofLines c.lines).toList ++ ['\n'] := by
    rw [text, String.toList_append]
    rfl
  rw [formatString, String.toList_ofList, htext, LineEnding.chars,
    h.areLaid_lines.block.format_eq ending.isEnding_opening]

end ClassSource

end Phrasebook.Dart
