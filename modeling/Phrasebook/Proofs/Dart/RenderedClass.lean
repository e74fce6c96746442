-- SUMMARY: The templates make the source of the class, for every book.
import Phrasebook.Dart.Rendering
import Phrasebook.Proofs.Dart.SourceLines
import Phrasebook.Proofs.Template.Rendering

/-!
# The rendered class

Every name that a template of the directory asks for is in its context, every
filter has a value that it can take, and so every part of a class is rendered,
whatever the book is. The rendered parts are the lines of the source of the
class. Where values are shown within a limit only, the class is rendered just the
same, unless its marker has to be shown and cannot be.
-/

namespace Phrasebook.Dart

open Text Template

/-! ## The directory -/

namespace Templates

variable {name : String} {template : Template} {context : Json.Fields} {cs : List Char}
  {lines : List String} {limit : Option Json.Limit} {cause : Json.Unshown}

theorem find?_of_mem (h : (name, template) ∈ directory) :
    engine.find? name = some (.ok template) := by
  simp only [directory, List.mem_cons, List.not_mem_nil, or_false, Prod.mk.injEq] at h
  rcases h with ⟨rfl, rfl⟩ | ⟨rfl, rfl⟩ | ⟨rfl, rfl⟩ | ⟨rfl, rfl⟩ | ⟨rfl, rfl⟩ <;> rfl

/-- What a template of the directory needs is only filters of the engine. -/
theorem provides_of_mem (h : (name, template) ∈ directory) {env : Environment}
    (henv : env.filters = filters) : ∀ need ∈ nodesNeed false template, env.provides need := by
  have hneeds : nodesNeed false template ⊆ [.filter "dart_string", .filter "dart_locale"] := by
    simp only [directory, List.mem_cons, List.not_mem_nil, or_false, Prod.mk.injEq] at h
    rcases h with ⟨rfl, rfl⟩ | ⟨rfl, rfl⟩ | ⟨rfl, rfl⟩ | ⟨rfl, rfl⟩ | ⟨rfl, rfl⟩ <;> decide
  intro need hneed
  have hfilter := hneeds hneed
  simp only [List.mem_cons, List.not_mem_nil, or_false] at hfilter
  rcases hfilter with rfl | rfl
  · rw [Environment.provides, henv]
    rfl
  · rw [Environment.provides, henv]
    rfl

theorem not_isMarkup_of_mem (h : (name, template) ∈ directory) : Engine.isMarkup name = false := by
  simp only [directory, List.mem_cons, List.not_mem_nil, or_false, Prod.mk.injEq] at h
  rcases h with ⟨rfl, -⟩ | ⟨rfl, -⟩ | ⟨rfl, -⟩ | ⟨rfl, -⟩ | ⟨rfl, -⟩ <;> decide +kernel

/-- What the templates of the directory are rendered with: their texts are no markup. -/
def environmentOf (name : String) (context : Json.Fields) (limit : Option Json.Limit) :
    Environment where
  filters
  name
  context := context.map fun f => (f.1, .json f.2)
  limit

theorem environment_eq (h : (name, template) ∈ directory) (context : Json.Fields) :
    engine.environment (some name) context limit = environmentOf name context limit := by
  simp only [Engine.environment, Option.any_some, not_isMarkup_of_mem h]
  rfl

/-- A template of the directory has all that it needs, so its nodes are rendered. -/
theorem renderTemplate_eq (h : (name, template) ∈ directory)
    (hself : "self" ∉ context.map Prod.fst) :
    Generator.renderTemplate name context limit =
      (renderNodes (environmentOf name context limit) template).mapError fun fault =>
        { name := some name, fault := .use fault } := by
  rw [Generator.renderTemplate, Engine.render, find?_of_mem h, environment_eq h]
  generalize henv : environmentOf name context limit = env
  have hneeds : (nodesNeed false template).find? (!env.provides ·) = none := by
    rw [List.find?_eq_none]
    intro need hneed
    have hfilters : env.filters = filters := by rw [← henv, environmentOf]
    simp [provides_of_mem h hfilters need hneed]
  have hcontext : env.context.any (·.1 = "self") = false := by
    rw [← henv, environmentOf, List.any_map, List.any_eq_false]
    intro f hf hname
    exact hself (List.mem_map.mpr ⟨f, hf, by simpa using hname⟩)
  have hrender : Template.render env template = (renderNodes env template).mapError .use := by
    rw [Template.render, hneeds]
    simp only [hcontext, Bool.false_eq_true, if_false]
  simp only [Except.bind, hrender]
  cases renderNodes env template <;> rfl

/-- A template of the directory that is rendered as lines, with a line feed still to come. -/
theorem renderTemplate_eq_lines (h : (name, template) ∈ directory)
    (hself : "self" ∉ context.map Prod.fst)
    (hrenders : Renders (environmentOf name context limit) template cs)
    (hlines : lines ≠ []) (htext : cs ++ ['\n'] = endLines lines) :
    Generator.renderTemplate name context limit = .ok (ofLines lines) := by
  rw [renderTemplate_eq h hself, hrenders, eq_ofLines_of_append_break hlines htext]
  rfl

theorem renderTemplate_of_breaks (h : (name, template) ∈ directory)
    (hself : "self" ∉ context.map Prod.fst)
    (hbreaks : Breaks (environmentOf name context limit) template cause) :
    Generator.renderTemplate name context limit =
      .error { name := some name, fault := .use (.unshown cause) } := by
  rw [renderTemplate_eq h hself, hbreaks]
  rfl

end Templates

/-! ## Filters -/

theorem Templates.subtagLiteral_ofText? (subtag : Option String) :
    subtagLiteral (.ofText? subtag) = .ok ((Locale.filled subtag).map literal) := by
  cases subtag with
  | none => rfl
  | some s =>
    by_cases hs : s = ""
    · subst hs
      rfl
    · simp [subtagLiteral, Json.ofText?, Json.truthy, Locale.filled, hs, literalFilter,
        Option.filter, Functor.map, Except.map]

theorem Templates.localeFilter_toJson (l : Locale) :
    localeFilter l.toJson = .ok (localeExpr l) := by
  simp only [localeFilter, Locale.toJson, subtagLiteral_ofText?, literalFilter, bind, Except.bind]
  rfl

namespace Generator

/-! ## Documentation -/

/-- The row of a table in the documentation of a phrase. -/
def docRow (p : Phrase) (t : Table) : DocRow :=
  ⟨t.locale.tag, (t.get? p.key).map Phrase.text⟩

section Row

variable {p : Phrase} {t : Table} {env : Environment} {marker : Json} {rest : List Template.Node}
  {cs : List Char}

/-- The cell of a row: the text of the phrase as a literal, or the marker if the table has none. -/
theorem renders_cell (hplain : env.escaping = false) (hfilters : env.filters = Templates.filters)
    (hmarker : env.context.lookup "missing_marker" = some (.json marker))
    (htranslation : Evaluates env (.member (.name "row") "translation")
      (.json (((t.get? p.key).map Phrase.toJson).getD .null)))
    (hshown : t.get? p.key = none → marker.unshown? env.limit = none) (h : Renders env rest cs) :
    Renders env (.branch (.test (.member (.name "row") "translation") "none" [])
        [.text "  ///     <td>", .output (.name "missing_marker"), .text "</td>\n"]
        [.text "  ///     <td>",
         .output (.filter (.member (.member (.name "row") "translation") "value") "dart_string" []),
         .text "</td>\n"] :: rest)
      (("  ///     <td>" ++ (docRow p t).cell marker.display ++ "</td>\n").toList ++ cs) := by
  apply Renders.branch htranslation.isNone rfl
  case hyes =>
    intro hmissing
    cases hget : t.get? p.key with
    | some q =>
      rw [hget] at hmissing
      cases hmissing
    | none =>
      apply Renders.of_eq
      case h =>
        apply Renders.text
        apply Renders.named hplain (by decide) hmarker (hshown hget)
        apply Renders.text
        exact Renders.nil
      case heq => simp [docRow, DocRow.cell, hget]
  case hno =>
    intro hfound
    cases hget : t.get? p.key with
    | none =>
      rw [hget] at hfound
      cases hfound
    | some q =>
      rw [hget] at htranslation
      have hvalue := htranslation.field (x := "value") (by decide) (by decide) rfl
      have hfilter : env.filters.lookup "dart_string" = some Templates.literalFilter := by
        rw [hfilters]
        rfl
      apply Renders.of_eq
      case h =>
        apply Renders.text
        apply Renders.output hplain (hvalue.filter hfilter rfl) rfl rfl
        apply Renders.text
        exact Renders.nil
      case heq => simp [docRow, DocRow.cell, hget]
  exact h

variable (hplain : env.escaping = false)
  (hmarker : env.context.lookup "missing_marker" = some (.json marker))
  (hrow : env.context.lookup "row" = some (.json (rowContext p.key t)))
include hplain hmarker hrow

theorem renders_row (hfilters : env.filters = Templates.filters)
    (hshown : t.get? p.key = none → marker.unshown? env.limit = none) :
    Renders env Templates.tableRow (endLines ((docRow p t).lines marker.display)) := by
  have hvalue : Evaluates env (.name "row") (.json (rowContext p.key t)) :=
    evaluates_name (by decide) hrow
  have hlocale := hvalue.field (x := "locale") (by decide) (by decide) rfl
  have htranslation := hvalue.field (x := "translation") (by decide) (by decide) rfl
  apply Renders.of_eq
  case h =>
    apply Renders.text
    apply Renders.output hplain hlocale rfl rfl
    apply Renders.text
    apply renders_cell hplain hfilters hmarker htranslation hshown
    apply Renders.text
    exact Renders.nil
  case heq => simp [DocRow.lines, docRow]

/-- The row of a table that needs a marker which cannot be shown. -/
theorem breaks_row {cause : Json.Unshown} (hmissing : t.get? p.key = none)
    (hcause : marker.unshown? env.limit = some cause) : Breaks env Templates.tableRow cause := by
  have hvalue : Evaluates env (.name "row") (.json (rowContext p.key t)) :=
    evaluates_name (by decide) hrow
  have hlocale := hvalue.field (x := "locale") (by decide) (by decide) rfl
  have htranslation := hvalue.field (x := "translation") (by decide) (by decide) rfl
  rw [hmissing] at htranslation
  apply Breaks.text
  apply Breaks.behindOutput hplain hlocale rfl rfl
  apply Breaks.text
  apply Breaks.branch htranslation.isNone rfl
  apply Breaks.text
  exact Breaks.output (evaluates_name (by decide) hmarker) hcause

end Row

/-- The marker can be shown in the documentation of a phrase, if it has to be. -/
def ShowsMarker (g : Generator) (b : Book) (limit : Option Json.Limit) (p : Phrase) : Prop :=
  (∃ t ∈ b.tablesByTag, t.get? p.key = none) → g.options.missingMarker.unshown? limit = none

variable {limit : Option Json.Limit} {cause : Json.Unshown}

theorem renderDocumentation_of_shows {g : Generator} {b : Book} {p : Phrase}
    (h : g.ShowsMarker b limit p) :
    g.renderDocumentation b p limit = .ok (ofLines (g.docTable b p).lines) := by
  have hmem : ("doc_table.dart.j2", Templates.docTable) ∈ Templates.directory := by
    simp [Templates.directory]
  apply Templates.renderTemplate_eq_lines hmem
  case hself => simp [documentationContext]
  case hlines => simp [DocTable.lines]
  case hrenders =>
    -- one rule for each node of the template, in its order
    apply Renders.text
    apply Renders.text
    apply Renders.eachItem
      (f := fun t => endLines ((docRow p t).lines g.options.missingMarker.display))
      (evaluates_name (by decide) rfl) (items_arr _ _)
    case hbody =>
      intro l t ht
      exact renders_row rfl rfl rfl rfl fun hmissing => h ⟨t, ht, hmissing⟩
    apply Renders.text
    exact Renders.nil
  case htext => simp [DocTable.lines, docTable, docRow, List.flatMap_map]

theorem renderDocumentation_eq (g : Generator) (b : Book) (p : Phrase) :
    g.renderDocumentation b p = .ok (ofLines (g.docTable b p).lines) :=
  renderDocumentation_of_shows fun _ => Json.unshown?_none _

theorem renderDocumentation_of_unshown {g : Generator} {b : Book} {p : Phrase}
    (hmissing : ∃ t ∈ b.tablesByTag, t.get? p.key = none)
    (hcause : g.options.missingMarker.unshown? limit = some cause) :
    g.renderDocumentation b p limit = .error (markerFault cause) := by
  have hmem : ("doc_table.dart.j2", Templates.docTable) ∈ Templates.directory := by
    simp [Templates.directory]
  apply Templates.renderTemplate_of_breaks hmem
  case hself => simp [documentationContext]
  case hbreaks =>
    apply Breaks.text
    apply Breaks.text
    apply Breaks.eachItem (evaluates_name (by decide) rfl) (items_arr _ _)
    case hbody =>
      intro l t _
      cases hget : t.get? p.key with
      | none => exact .inr (breaks_row rfl rfl rfl hget hcause)
      | some q => exact .inl ⟨_, renders_row rfl rfl rfl rfl (by simp [hget])⟩
    case hbreaks =>
      obtain ⟨t, ht, hget⟩ := hmissing
      exact ⟨t, ht, fun l => breaks_row rfl rfl rfl hget hcause⟩

/-! ## Accessors -/

theorem unshown?_ofText? (limit : Option Json.Limit) (s : Option String) :
    (Json.ofText? s).unshown? limit = none := by
  cases s with
  | none => cases limit <;> rfl
  | some s => rfl

theorem ofLines_docTable_ne_empty (table : DocTable) : ofLines table.lines ≠ "" := by
  intro h
  have hlist := congrArg String.toList h
  simp [DocTable.lines, ofLines, joinStrings] at hlist

theorem renderAccessor_of_shows {g : Generator} {b : Book} {p : Phrase}
    (h : g.documented → g.ShowsMarker b limit p) :
    g.renderAccessor b p limit = .ok (ofLines (g.accessor b p).lines) := by
  have hmem : ("accessor.dart.j2", Templates.accessor) ∈ Templates.directory := by
    simp [Templates.directory]
  let documentation := if g.documented then some (ofLines (g.docTable b p).lines) else none
  have hrender : g.renderAccessor b p limit =
      renderTemplate "accessor.dart.j2" (g.accessorContext b p documentation) limit := by
    rw [renderAccessor]
    cases hdocumented : g.documented with
    | true =>
      simp [documentation, hdocumented, renderDocumentation_of_shows (h hdocumented), bind,
        Except.bind, Functor.map, Except.map]
    | false => simp [documentation, hdocumented, bind, Except.bind, pure, Except.pure]
  have htruthy : Value.truthy (.json (Json.ofText? documentation)) = .ok g.documented := by
    refine congrArg Except.ok ?_
    cases hdocumented : g.documented with
    | true =>
      simpa [documentation, hdocumented, Json.ofText?, Json.truthy] using
        ofLines_docTable_ne_empty (g.docTable b p)
    | false => simp [documentation, hdocumented, Json.ofText?, Json.truthy]
  rw [hrender]
  apply Templates.renderTemplate_eq_lines hmem
  case hself => simp [accessorContext]
  case hlines => simp [Accessor.lines]
  case hrenders =>
    apply Renders.branch (c := if g.documented then endLines (g.docTable b p).lines else [])
      (evaluates_name (by decide) rfl) htruthy
    case hyes =>
      intro hdocumented
      have htable : (g.docTable b p).lines ≠ [] := by simp [DocTable.lines]
      apply Renders.of_eq
      case h =>
        apply Renders.named rfl (by decide) rfl (unshown?_ofText? _ _)
        apply Renders.text
        exact Renders.nil
      case heq =>
        simp [documentation, hdocumented, Json.ofText?, toList_ofLines_append_cons htable]
    case hno =>
      intro hdocumented
      rw [hdocumented]
      exact Renders.nil
    apply Renders.text
    apply Renders.named rfl (by decide) rfl rfl
    apply Renders.text
    apply Renders.named rfl (by decide) rfl rfl
    apply Renders.text
    apply Renders.named rfl (by decide) rfl rfl
    apply Renders.text
    exact Renders.nil
  case htext =>
    cases hdocumented : g.documented with
    | true => simp [Accessor.lines, accessor, hdocumented]
    | false => simp [Accessor.lines, accessor, hdocumented]

theorem renderAccessor_eq (g : Generator) (b : Book) (p : Phrase) :
    g.renderAccessor b p = .ok (ofLines (g.accessor b p).lines) :=
  renderAccessor_of_shows fun _ _ => Json.unshown?_none _

theorem renderAccessor_of_unshown {g : Generator} {b : Book} {p : Phrase}
    (hdocumented : g.documented) (hmissing : ∃ t ∈ b.tablesByTag, t.get? p.key = none)
    (hcause : g.options.missingMarker.unshown? limit = some cause) :
    g.renderAccessor b p limit = .error (markerFault cause) := by
  rw [renderAccessor, if_pos hdocumented, renderDocumentation_of_unshown hmissing hcause]
  rfl

/-! ## Locales -/

/-- An item of the list of locales, of which `last` tells whether it is the last one. -/
def itemText (last : Bool) (item : String) : String :=
  "      " ++ item ++ (if !last then "," else "") ++ "\n"

theorem flatten_itemText {α : Type} (items : List α) (value : α → String) :
    (items.mapIdx fun i a => (itemText (i + 1 == items.length) (value a)).toList).flatten =
      endLines (listItems (items.map value)) := by
  induction items with
  | nil => rfl
  | cons a items ih =>
    cases items with
    | nil => simp [itemText, listItems]
    | cons next items =>
      have hlast : ∀ i n : Nat, (i + 1 + 1 == n + 1) = (i + 1 == n) := by
        intro i n
        rw [Bool.eq_iff_iff, beq_iff_eq, beq_iff_eq]
        omega
      rw [List.mapIdx_cons, List.flatten_cons, List.length_cons]
      simp only [hlast]
      rw [ih]
      simp [itemText, listItems]

theorem renderLocales_eq (b : Book) :
    renderLocales b limit = .ok (ofLines (localesLines b.locales)) := by
  have hmem : ("supported_locales.dart.j2", Templates.supportedLocales) ∈ Templates.directory := by
    simp [Templates.directory]
  apply Templates.renderTemplate_eq_lines hmem
  case hself => simp [localesContext]
  case hlines => simp [localesLines]
  case hrenders =>
    apply Renders.text
    apply Renders.each
      (f := fun i l => (itemText (i + 1 == b.locales.length) (localeExpr l)).toList)
      (evaluates_name (by decide) rfl) (items_arr _ _)
    case hbody =>
      intro i l _
      let items : List Value := b.locales.map fun l => .json l.toJson
      let env := ((Templates.environmentOf "supported_locales.dart.j2" (localesContext b) limit).bind
        "loop" (.loop i items)).bind "locale" (.json l.toJson)
      have hlocale : Evaluates env (.name "locale") (.json l.toJson) :=
        evaluates_name (by decide) rfl
      have hloop : Evaluates env (.name "loop") (.loop i items) :=
        evaluates_name (by decide) rfl
      have hcomma := (hloop.last.negation rfl).choice rfl (evaluates_constant (.str ","))
        (evaluates_constant (.str ""))
      have hshown : (if !(i + 1 == items.length) then Value.json (.str ",")
          else .json (.str "")).display = .ok (if !(i + 1 == items.length) then "," else "") := by
        split <;> rfl
      apply Renders.of_eq
      case h =>
        apply Renders.text
        apply Renders.output rfl (hlocale.filter rfl (Templates.localeFilter_toJson l)) rfl rfl
        apply Renders.output rfl hcomma (by split <;> rfl) hshown
        apply Renders.text
        exact Renders.nil
      case heq => simp [itemText, items]
    apply Renders.text
    exact Renders.nil
  case htext =>
    simp only [localesLines, endLines_append, endLines_cons, endLines_nil, flatten_itemText]
    repeat rw [String.toList_ofList]
    simp

/-! ## Dispatch -/

theorem renderDispatch_eq (g : Generator) (b : Book) :
    g.renderDispatch b limit = .ok (ofLines (g.dispatch b).lines) := by
  have hmem : ("get_string.dart.j2", Templates.getString) ∈ Templates.directory := by
    simp [Templates.directory]
  apply Templates.renderTemplate_eq_lines hmem
  case hself => simp [dispatchContext]
  case hlines => simp [Dispatch.lines]
  case hrenders =>
    apply Renders.branch (c := endLines (if g.documented then switchComments else []))
      (evaluates_name (by decide) rfl) rfl
    case hyes =>
      intro (hdocumented : g.documented = true)
      apply Renders.of_eq
      case h =>
        apply Renders.text
        apply Renders.text
        apply Renders.text
        exact Renders.nil
      case heq =>
        rw [hdocumented, if_pos rfl]
        simp only [switchComments, endLines_cons]
        repeat rw [String.toList_ofList]
        simp
    case hno =>
      intro (hdocumented : g.documented = false)
      rw [hdocumented]
      exact Renders.nil
    apply Renders.text
    apply Renders.text
    apply Renders.text
    apply Renders.eachItem (f := fun c => endLines (Case.lines c)) (evaluates_name (by decide) rfl)
      (items_arr _ _)
    case hbody =>
      intro l c _
      let env := ((Templates.environmentOf "get_string.dart.j2" (g.dispatchContext b) limit).bind
        "loop" l).bind "branch" (.json (branchContext c))
      have hbranch : Evaluates env (.name "branch") (.json (branchContext c)) :=
        evaluates_name (by decide) rfl
      have hkey := hbranch.field (x := "key") (by decide) (by decide) rfl
      have hcall := hbranch.field (x := "call") (by decide) (by decide) rfl
      apply Renders.of_eq
      case h =>
        apply Renders.text
        apply Renders.output rfl (hkey.filter rfl rfl) rfl rfl
        apply Renders.text
        apply Renders.output rfl hcall rfl rfl
        apply Renders.text
        exact Renders.nil
      case heq => simp [Case.lines]
    apply Renders.text
    exact Renders.nil
  case htext =>
    rw [Dispatch.lines_eq, endLines_append, List.append_assoc]
    refine congrArg (endLines (if g.documented then switchComments else []) ++ ·) ?_
    simp only [dispatch, switchHead, switchTail, endLines_append, endLines_cons]
    repeat rw [String.toList_ofList]
    simp

/-! ## Class -/

-- The text of the class is compared as one list of several hundred characters.
set_option maxRecDepth 1000 in
theorem renderClassText_eq (g : Generator) (b : Book)
    (hclass : g.settings.className.unshown? limit = none) :
    renderTemplate "class.dart.j2" (g.classContext (ofLines (localesLines b.locales))
      (b.defaultTable.phrases.map fun p => ofLines (g.accessor b p).lines)
      (ofLines (g.dispatch b).lines)) limit = .ok (ofLines (g.classSource b).lines) := by
  have hmem : ("class.dart.j2", Templates.classText) ∈ Templates.directory := by
    simp [Templates.directory]
  apply Templates.renderTemplate_eq_lines hmem
  case hself => simp [classContext]
  case hlines => simp [ClassSource.lines]
  case hrenders =>
    apply Renders.text
    apply Renders.named rfl (by decide) rfl hclass
    apply Renders.text
    apply Renders.named rfl (by decide) rfl rfl
    apply Renders.text
    apply Renders.named rfl (by decide) rfl hclass
    apply Renders.text
    apply Renders.text
    apply Renders.text
    apply Renders.named rfl (by decide) rfl rfl
    apply Renders.text
    apply Renders.named rfl (by decide) rfl rfl
    apply Renders.text
    apply Renders.named rfl (by decide) rfl rfl
    apply Renders.text
    apply Renders.branch (c := endLines (g.classSource b).contextLines)
      (evaluates_name (by decide) rfl) rfl
    case hyes =>
      intro (hcontext : g.options.contextAccessor = true)
      apply Renders.of_eq
      case h =>
        apply Renders.text
        apply Renders.named rfl (by decide) rfl hclass
        apply Renders.text
        apply Renders.named rfl (by decide) rfl hclass
        apply Renders.text
        apply Renders.named rfl (by decide) rfl hclass
        apply Renders.text
        exact Renders.nil
      case heq =>
        simp only [ClassSource.contextLines, classSource, hcontext, if_true, endLines_cons,
          endLines_nil, String.toList_append]
        repeat rw [String.toList_ofList]
        simp
    case hno =>
      intro (hcontext : g.options.contextAccessor = false)
      simp only [ClassSource.contextLines, classSource, hcontext]
      exact Renders.nil
    apply Renders.text
    apply Renders.named rfl (by decide) rfl rfl
    apply Renders.text
    apply Renders.eachItem (f := fun s => s.toList ++ ['\n', '\n'])
      (evaluates_name (by decide) rfl) (items_arr _ _)
    case hbody =>
      intro l s _
      apply Renders.of_eq
      case h =>
        apply Renders.named rfl (by decide) rfl rfl
        apply Renders.text
        exact Renders.nil
      case heq => simp
    apply Renders.named rfl (by decide) rfl rfl
    apply Renders.text
    exact Renders.nil
  case htext =>
    have hlocales : localesLines b.locales ≠ [] := by simp [localesLines]
    have hdispatch : (g.dispatch b).lines ≠ [] := by simp [Dispatch.lines]
    have haccessor : ∀ p, (g.accessor b p).lines ≠ [] := fun p => by simp [Accessor.lines]
    simp only [ClassSource.lines, ClassSource.headLines, endLines_append, endLines_cons,
      endLines_nil, endLines_flatMap, String.toList_append]
    repeat rw [String.toList_ofList]
    simp [classSource, accessors, List.flatMap_map, toList_ofLines_append_cons, hlocales,
      hdispatch, haccessor]

/-- The templates make the source of the class, and nothing can go wrong in them but that the name of
the class or the marker cannot be shown. -/
theorem renderClass_of_shows {g : Generator} {b : Book}
    (hclass : g.settings.className.unshown? limit = none)
    (h : g.documented → ∀ p ∈ b.defaultTable.phrases, g.ShowsMarker b limit p) :
    g.renderClass b limit = .ok (g.classSource b).text := by
  have haccessors : b.defaultTable.phrases.mapM (g.renderAccessor b · limit) =
      .ok (b.defaultTable.phrases.map fun p => ofLines (g.accessor b p).lines) :=
    Except.mapM_eq_ok fun p hp => renderAccessor_of_shows fun hdocumented => h hdocumented p hp
  rw [renderClass, renderLocales_eq, haccessors, renderDispatch_eq]
  simp only [bind, Except.bind, renderClassText_eq g b hclass]
  rfl

theorem renderClass_eq (g : Generator) (b : Book) :
    g.renderClass b = .ok (g.classSource b).text :=
  renderClass_of_shows (Json.unshown?_none _) fun _ _ _ _ => Json.unshown?_none _

/-- The first documentation that needs a marker which cannot be shown ends the rendering. -/
theorem renderClass_of_unshown {g : Generator} {b : Book} (hneeds : g.needsMarker b)
    (hcause : g.options.missingMarker.unshown? limit = some cause) :
    g.renderClass b limit = .error (markerFault cause) := by
  obtain ⟨hdocumented, hmissing⟩ := needsMarker_iff.mp hneeds
  have haccessors : b.defaultTable.phrases.mapM (g.renderAccessor b · limit) =
      .error (markerFault cause) := by
    refine Except.mapM_eq_error ?_ ?_
    · intro p _
      by_cases hp : ∃ t ∈ b.tablesByTag, t.get? p.key = none
      · exact .inr (renderAccessor_of_unshown hdocumented hp hcause)
      · exact .inl ⟨_, renderAccessor_of_shows fun _ hmissing => absurd hmissing hp⟩
    · obtain ⟨p, hp, hmissing⟩ := hmissing
      exact ⟨p, hp, renderAccessor_of_unshown hdocumented hmissing hcause⟩
  rw [renderClass, renderLocales_eq, haccessors]
  rfl

/-- A class is rendered exactly as it is generated: only names can keep it from being so. -/
theorem generateRendered_eq (g : Generator) (b : Book) :
    g.generateRendered b = (g.generate b).mapError .names := by
  rw [generateRendered, renderClass_eq, generate]
  cases checkNames g.settings.className b with
  | error fault => rfl
  | ok => rfl

/-! ## Limits -/

/-- Within a limit, a class is rendered exactly as it is generated if the marker does not have to be
shown or can be, and else nothing is rendered. -/
theorem renderClass_of_className {g : Generator} {b : Book} {className : String}
    (hclass : g.settings.className = .str className) : g.renderClass b limit =
      match g.unshownMarker? b limit with
      | none => .ok (g.classSource b).text
      | some cause => .error (markerFault cause) := by
  cases hmarker : g.unshownMarker? b limit with
  | some cause =>
    obtain ⟨hneeds, hcause⟩ := unshownMarker?_eq_some_iff.mp hmarker
    exact renderClass_of_unshown hneeds hcause
  | none =>
    refine renderClass_of_shows (hclass ▸ rfl) fun hdocumented p hp hmissing => ?_
    exact unshownMarker?_eq_none_iff.mp hmarker (needsMarker_iff.mpr ⟨hdocumented, p, hp, hmissing⟩)

end Generator

end Phrasebook.Dart
