-- SUMMARY: What an engine has and renders once templates have been added to it.
import Mathlib.Data.List.Induction
import Phrasebook.Proofs.Json.Fields
import Phrasebook.Template.Engine

/-!
# Added templates

An addition is observed through what is found under a name: the added text under
its own name, and under every other name what the engine keeps in memory. An
engine over a directory keeps nothing there, so its first addition takes all
templates of the directory away.

Some faults only tell that something is known but not supported, as the tags
`include` and `extends`, with which a template reads other ones. Nothing is said
of what a template with such a fault would render to.
-/

namespace Phrasebook.Template

/-- A text as a template, if it can be read as one. -/
def ofSource (source : String) : Except Fault Template :=
  (parse source).mapError .source

/-- Whether a fault tells no more than that something is known but not supported. -/
def Fault.isUnsupported : Fault → Bool
  | .source (.unsupportedTag _) => true
  | .use (.unsupported _) => true
  | _ => false

namespace Engine

variable {e e' : Engine} {name source : String} {adds sources : List (String × String)}
  {templates : List (String × Template)} {context : Json.Fields}

/-! ## In memory -/

/-- The texts that an engine keeps in memory, none if it is over a directory. -/
def own (e : Engine) : List (String × String) :=
  match e.loader with
  | .directory _ => []
  | .memory sources => sources

/-- The engine with what it keeps in memory and no directory. -/
def inMemory (e : Engine) : Engine where
  loader := .memory e.own
  filters := e.filters

theorem inMemory_of_memory (h : e.loader = .memory sources) : e.inMemory = e := by
  obtain ⟨loader, filters⟩ := e
  cases h
  rfl

theorem find?_inMemory_of_directory (h : e.loader = .directory templates) (name : String) :
    e.inMemory.find? name = none := by
  simp only [inMemory, own, h, find?]
  rfl

/-! ## One addition -/

theorem add_eq (e : Engine) (name source : String) : e.add name source =
    { loader := .memory ((name, source) :: e.own.filter (·.1 != name)), filters := e.filters } := by
  unfold add own
  split <;> simp_all

theorem inMemory_add (e : Engine) (name source : String) :
    (e.add name source).inMemory = e.add name source := by
  rw [add_eq]
  rfl

/-- What is found after an addition: the added text, or what was in memory before. -/
theorem find?_add (e : Engine) (name source other : String) : (e.add name source).find? other =
    if other = name then some (ofSource source) else e.inMemory.find? other := by
  rw [add_eq]
  simp only [find?, inMemory]
  by_cases h : other = name
  · rw [h, List.lookup_cons_self, if_pos rfl]
    rfl
  · have hne : (other == name) = false := by simpa using h
    rw [List.lookup_cons, hne, if_neg h, lookup_filter_of_ne h]

/-! ## Additions in order -/

/-- The engine after templates have been added. -/
def addAll (e : Engine) (adds : List (String × String)) : Engine :=
  adds.foldl (fun e a => e.add a.1 a.2) e

/-- The text that is added last under a name. -/
def lastSource? (adds : List (String × String)) (name : String) : Option String :=
  adds.reverse.lookup name

theorem addAll_append (e : Engine) (adds : List (String × String)) (a : String × String) :
    e.addAll (adds ++ [a]) = (e.addAll adds).add a.1 a.2 := by
  rw [addAll, List.foldl_append]
  rfl

theorem lastSource?_append (adds : List (String × String)) (a : String × String) :
    lastSource? (adds ++ [a]) name = if name = a.1 then some a.2 else lastSource? adds name := by
  rw [lastSource?, List.reverse_append, List.reverse_singleton, List.singleton_append,
    List.lookup_cons]
  by_cases h : name = a.1
  · simp [h]
  · rw [beq_eq_false_iff_ne.mpr h, if_neg h]
    rfl

theorem lastSource?_eq_none_iff : lastSource? adds name = none ↔ name ∉ adds.map Prod.fst := by
  rw [lastSource?, lookup_eq_none_iff_not_mem, List.map_reverse, List.mem_reverse]

@[simp] theorem filters_addAll (e : Engine) (adds : List (String × String)) :
    (e.addAll adds).filters = e.filters := by
  induction adds using List.reverseRecOn with
  | nil => rfl
  | append_singleton adds a ih => rw [addAll_append, add_eq, ih]

/-- After additions nothing is left of a directory. -/
theorem inMemory_addAll (h : adds ≠ []) : (e.addAll adds).inMemory = e.addAll adds := by
  induction adds using List.reverseRecOn with
  | nil => exact absurd rfl h
  | append_singleton adds a _ => rw [addAll_append, inMemory_add]

/-- What is found in memory after additions: the text that was added last, or what was there before
them. -/
theorem find?_inMemory_addAll (e : Engine) (adds : List (String × String)) (name : String) :
    (e.addAll adds).inMemory.find? name =
      ((lastSource? adds name).map ofSource).or (e.inMemory.find? name) := by
  induction adds using List.reverseRecOn with
  | nil => rfl
  | append_singleton adds a ih =>
    rw [addAll_append, inMemory_add, find?_add, ih, lastSource?_append]
    split <;> rfl

theorem find?_addAll_of_last (h : lastSource? adds name = some source) :
    (e.addAll adds).find? name = some (ofSource source) := by
  have hne : adds ≠ [] := by
    rintro rfl
    cases h
  rw [← inMemory_addAll hne, find?_inMemory_addAll, h]
  rfl

theorem find?_addAll_of_not_mem (hname : name ∉ adds.map Prod.fst) (h : adds ≠ []) :
    (e.addAll adds).find? name = e.inMemory.find? name := by
  rw [← inMemory_addAll h, find?_inMemory_addAll, lastSource?_eq_none_iff.mpr hname]
  rfl

/-! ## What can be observed -/

/-- Rendering does not come to anything that is not supported. -/
def Supports (e : Engine) (name : String) (context : Json.Fields) : Prop :=
  ∀ fault, e.render name context = .error fault → ¬ fault.fault.isUnsupported

/-- An engine has under a name what another one has: a template or none, and the same results wherever
they are supported. -/
structure SameUnder (e e' : Engine) (name : String) : Prop where
  has : e.has name = e'.has name
  render : ∀ context, e'.Supports name context → e.render name context = e'.render name context

theorem sameUnder_of_find? (hfind : e.find? name = e'.find? name) (hfilters : e.filters = e'.filters) :
    e.SameUnder e' name where
  has := by rw [has, hfind, has]
  render := by
    intro context _
    simp only [Engine.render, environment, hfind, hfilters]

/-- An engine that has a template of a name and no other one. -/
def only (filters : List (String × Filter)) (name source : String) : Engine where
  loader := .memory [(name, source)]
  filters := filters

/-- The text that an engine keeps under a name. -/
def source? (e : Engine) (name : String) : Option String :=
  e.own.lookup name

theorem source?_add (e : Engine) (name source other : String) :
    (e.add name source).source? other = if other = name then some source else e.source? other := by
  rw [add_eq]
  simp only [source?, own]
  by_cases h : other = name
  · rw [h, List.lookup_cons_self, if_pos rfl]
  · rw [List.lookup_cons, beq_eq_false_iff_ne.mpr h, if_neg h, lookup_filter_of_ne h]

/-- The text that an engine keeps after additions: the one added last, or what it kept before. -/
theorem source?_addAll (e : Engine) (adds : List (String × String)) (name : String) :
    (e.addAll adds).source? name = (lastSource? adds name).or (e.source? name) := by
  induction adds using List.reverseRecOn with
  | nil => rfl
  | append_singleton adds a ih =>
    rw [addAll_append, source?_add, ih, lastSource?_append]
    split <;> rfl

theorem sameUnder_only_of_last (h : lastSource? adds name = some source) :
    (e.addAll adds).SameUnder (only e.filters name source) name := by
  refine sameUnder_of_find? ?_ (filters_addAll e adds)
  rw [find?_addAll_of_last h]
  simp only [find?, only, List.lookup_cons_self, Option.map_some]
  rfl

/-- An engine in memory has under other names what it had before. -/
theorem sameUnder_of_memory (h : e.loader = .memory sources) (hname : name ∉ adds.map Prod.fst) :
    (e.addAll adds).SameUnder e name := by
  by_cases hadds : adds = []
  · subst hadds
    exact sameUnder_of_find? rfl rfl
  · refine sameUnder_of_find? ?_ (filters_addAll e adds)
    rw [find?_addAll_of_not_mem hname hadds, inMemory_of_memory h]

theorem render_of_not_has (h : e.has name = false) (context : Json.Fields) :
    e.render name context = .error { name := some name, fault := .notFound name } := by
  rw [has, Option.isSome_eq_false_iff, Option.isNone_iff_eq_none] at h
  rw [render, h]
  rfl

/-- An engine over a directory has nothing under other names once a template is added. -/
theorem has_addAll_of_directory (h : e.loader = .directory templates)
    (hname : name ∉ adds.map Prod.fst) (hadds : adds ≠ []) : (e.addAll adds).has name = false := by
  rw [has, find?_addAll_of_not_mem hname hadds, find?_inMemory_of_directory h]
  rfl

end Engine

end Phrasebook.Template
