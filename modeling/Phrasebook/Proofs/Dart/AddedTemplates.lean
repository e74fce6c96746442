-- SUMMARY: What templates that are added to an engine leave of it, and of the classes rendered with it.
import Phrasebook.Proofs.Dart.RenderedClass
import Phrasebook.Proofs.Template.Additions

/-!
# Templates beside the directory

The generator renders with an engine over the directory of its templates. Any
template that is added to the engine takes the directory's place, so no class is
rendered any more, while an engine in memory has all that it had before.
-/

namespace Phrasebook

open Template

variable {e : Engine} {adds : List (String × String)}

/-! ## Classes by an engine -/

namespace Dart.Generator

/-- Render an accessor with the templates of an engine. -/
def renderAccessorBy (g : Generator) (e : Engine) (b : Book) (p : Phrase) :
    Except EngineFault String := do
  let documentation ←
    if g.documented then some <$> e.render "doc_table.dart.j2" (g.documentationContext b p)
    else pure none
  e.render "accessor.dart.j2" (g.accessorContext b p documentation)

/-- Render the class for a book with the templates of an engine. -/
def renderClassBy (g : Generator) (e : Engine) (b : Book) : Except EngineFault String := do
  let locales ← e.render "supported_locales.dart.j2" (localesContext b)
  let accessors ← b.defaultTable.phrases.mapM (g.renderAccessorBy e b)
  let dispatch ← e.render "get_string.dart.j2" (g.dispatchContext b)
  return (← e.render "class.dart.j2" (g.classContext locales accessors dispatch)) ++ "\n"

variable {g : Generator} {b : Book}

/-- The class of the generator is rendered with the engine over the directory. -/
theorem renderClassBy_engine (g : Generator) (b : Book) :
    g.renderClassBy Templates.engine b = g.renderClass b :=
  rfl

/-- Without the template of the class there is no class. -/
theorem renderClassBy_ne_ok (h : e.has "class.dart.j2" = false) (code : String) :
    g.renderClassBy e b ≠ .ok code := by
  intro hcode
  obtain ⟨locales, -, hcode⟩ := Except.bind_eq_ok_iff.mp hcode
  obtain ⟨accessors, -, hcode⟩ := Except.bind_eq_ok_iff.mp hcode
  obtain ⟨dispatch, -, hcode⟩ := Except.bind_eq_ok_iff.mp hcode
  obtain ⟨text, htext, -⟩ := Except.bind_eq_ok_iff.mp hcode
  rw [Engine.render_of_not_has h] at htext
  cases htext

/-- A class is rendered as before exactly if nothing is added, unless its own template is among what
is added. -/
theorem renderClassBy_addAll_iff (g : Generator) (b : Book)
    (hclass : "class.dart.j2" ∉ adds.map Prod.fst) :
    g.renderClassBy (Templates.engine.addAll adds) b = g.renderClass b ↔ adds = [] := by
  constructor
  · intro hsame
    by_contra hadds
    have hgone : (Templates.engine.addAll adds).has "class.dart.j2" = false :=
      Engine.has_addAll_of_directory rfl hclass hadds
    rw [renderClass_eq] at hsame
    exact renderClassBy_ne_ok hgone _ hsame
  · rintro rfl
    exact renderClassBy_engine g b

end Dart.Generator

/-! ## Additions -/

namespace Template.Engine

variable {name : String}

/-- A template of an engine is kept exactly if nothing is added or the engine is in memory. -/
theorem sameUnder_addAll_iff (hname : name ∉ adds.map Prod.fst) (hhas : e.has name) :
    (e.addAll adds).SameUnder e name ↔ adds = [] ∨ ∃ sources, e.loader = .memory sources := by
  constructor
  · intro hsame
    cases hloader : e.loader with
    | memory sources => exact .inr ⟨sources, rfl⟩
    | directory templates =>
      by_contra hnot
      have hgone := has_addAll_of_directory hloader hname fun hadds => hnot (.inl hadds)
      rw [hsame.has, hhas] at hgone
      cases hgone
  · rintro (rfl | ⟨sources, hloader⟩)
    · exact sameUnder_of_find? rfl rfl
    · exact sameUnder_of_memory hloader hname

theorem has_addAll_of_not_has (hname : name ∉ adds.map Prod.fst) (hhas : e.has name = false) :
    (e.addAll adds).has name = false := by
  by_cases hadds : adds = []
  · subst hadds
    exact hhas
  · cases hloader : e.loader with
    | directory templates => exact has_addAll_of_directory hloader hname hadds
    | memory sources => rw [(sameUnder_of_memory hloader hname).has, hhas]

end Template.Engine

end Phrasebook
