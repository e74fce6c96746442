-- SUMMARY: Runs of registrations: every name belongs to one entry for good, whatever is refused.
import Mathlib.Data.List.Nodup
import Phrasebook.Proofs.Json.Fields
import Phrasebook.Proofs.Text.LowerCase
import Phrasebook.Proofs.Text.Sorting
import Phrasebook.Registry

/-!
# Registrations

A call leaves a registry whether it is refused or made, and `call_eq` says once
which: one that has no class or a name that is taken leaves the registry it was
given, and else every name of the call is put, one after the other. All that
follows is said of what is found. A registry stays *coherent* by a call, and
grows. What is true of every run from the empty registry follows by induction
over its calls.
-/

namespace Phrasebook.Registry

open Text

/-! ## Calls -/

/-- A registration that is asked for, whether it can be made or not. -/
structure Call where
  language : String
  /-- The class, if what was given is one. -/
  generator : Option GeneratorClass
  aliases : List String := []

/-- The names that a call is for, in lower case. -/
def Call.names (c : Call) : List String :=
  lower c.language :: (c.aliases.map lower).filter (· != lower c.language)

/-- What a call is answered with, and the registry that it leaves. -/
def call (r : Registry) (c : Call) : Except Fault Unit × Registry :=
  (register c.language c.generator c.aliases).run.run r

/-- The registry after a call. -/
def after (r : Registry) (c : Call) : Registry :=
  (r.call c).2

/-- The registry after a run of calls. -/
def run (r : Registry) (calls : List Call) : Registry :=
  calls.foldl after r

/-- The calls of a run that are not refused. -/
def accepted (r : Registry) : List Call → List Call
  | [] => []
  | c :: calls =>
    match (r.call c).1 with
    | .ok () => c :: (r.after c).accepted calls
    | .error _ => (r.after c).accepted calls

variable {r : Registry} {c : Call} {e : Entry} {name other : String} {names : List String}

/-! ## Lookups -/

theorem Call.lower_of_mem_names (h : name ∈ c.names) : lower name = name := by
  rcases List.mem_cons.mp h with rfl | h
  · exact lower_lower _
  · obtain ⟨hmem, -⟩ := List.mem_filter.mp h
    obtain ⟨given, -, rfl⟩ := List.mem_map.mp hmem
    exact lower_lower _

theorem find?_of_mem_names (r : Registry) (h : name ∈ c.names) :
    r.find? name = r.entries.lookup name := by
  rw [find?, Call.lower_of_mem_names h]

theorem isSupported_iff : r.isSupported name ↔ ∃ e, r.find? name = some e :=
  Option.isSome_iff_exists

theorem entry_eq_ok_iff : r.entry name = .ok e ↔ r.find? name = some e := by
  unfold entry
  cases r.find? name <;> simp

theorem resolve_eq_ok_iff {language : String} :
    r.resolve name = .ok language ↔ ∃ e, r.entry name = .ok e ∧ e.language = language := by
  unfold resolve
  cases r.entry name <;> simp [bind, Except.bind, pure, Except.pure]

/-! ## Putting -/

@[simp] theorem lookup_put_self : (r.put name e).entries.lookup name = some e := by
  have hgone : (r.entries.filter (·.1 != name)).lookup name = none := by
    rw [lookup_eq_none_iff_not_mem]
    simp
  rw [put, List.lookup_append, hgone, List.lookup_cons_self, Option.none_or]

theorem lookup_put_of_ne (h : other ≠ name) :
    (r.put name e).entries.lookup other = r.entries.lookup other := by
  have hnew : [(name, e)].lookup other = none := by
    simpa [lookup_eq_none_iff_not_mem] using h
  rw [put, List.lookup_append, lookup_filter_of_ne h, hnew, Option.or_none]

/-- The registry with an entry under names, one put after the other. -/
def putAll (r : Registry) (names : List String) (e : Entry) : Registry :=
  names.foldl (·.put · e) r

theorem lookup_putAll : (r.putAll names e).entries.lookup name =
    if name ∈ names then some e else r.entries.lookup name := by
  induction names generalizing r with
  | nil => rfl
  | cons first names ih =>
    have hrest : (r.putAll (first :: names) e).entries.lookup name =
        if name ∈ names then some e else (r.put first e).entries.lookup name := ih
    rw [hrest]
    by_cases h : name = first
    · simp [h]
    · simp [h, lookup_put_of_ne h]

/-! ## One call -/

/-- What a change leaves that goes on with another one. -/
theorem run_bind {α β : Type} (first : Change α) (next : α → Change β) (r : Registry) :
    (first >>= next).run.run r =
      match first.run.run r with
      | (.ok a, r') => (next a).run.run r'
      | (.error fault, r') => (.error fault, r') := by
  rw [ExceptT.run_bind, StateT.run_bind]
  obtain ⟨answer, r'⟩ := first.run.run r
  cases answer <;> rfl

theorem run_requireFree (r : Registry) (name : String) : (requireFree name).run.run r =
    match r.entries.lookup name with
    | none => (.ok (), r)
    | some e => (.error (.nameTaken name e.language), r) := by
  have hget : (get : Change Registry).run.run r = (.ok r, r) := rfl
  rw [requireFree, run_bind, hget]
  dsimp only
  cases r.entries.lookup name <;> rfl

/-- The first name that is taken is refused. Nothing is written by then. -/
theorem run_forM_requireFree (r : Registry) (names : List String) :
    (names.forM requireFree).run.run r =
      match names.findSome? fun name => (r.entries.lookup name).map (name, ·.language) with
      | none => (.ok (), r)
      | some (name, owner) => (.error (.nameTaken name owner), r) := by
  induction names with
  | nil => rfl
  | cons name names ih =>
    rw [List.forM, run_bind, run_requireFree, List.findSome?_cons]
    cases r.entries.lookup name with
    | none => exact ih
    | some e => rfl

theorem run_forM_put (r : Registry) (names : List String) (e : Entry) :
    (names.forM fun name => (modify (·.put name e) : Change Unit)).run.run r =
      (.ok (), r.putAll names e) := by
  induction names generalizing r with
  | nil => rfl
  | cons name names ih => exact ih (r.put name e)

/-- What a call does: it is refused and leaves the registry as it was, or its entry is put under all
its names. -/
theorem call_cases (r : Registry) (c : Call) :
    ((c.generator = none ∨ ∃ name ∈ c.names, r.isSupported name) ∧
      ∃ fault, r.call c = (.error fault, r)) ∨
    (∃ generator, c.generator = some generator ∧
      (∀ name ∈ c.names, r.entries.lookup name = none) ∧
      r.call c = (.ok (), r.putAll c.names (makeEntry c.language generator c.aliases))) := by
  obtain ⟨language, generator, aliases⟩ := c
  cases generator with
  | none => exact .inl ⟨.inl rfl, _, rfl⟩
  | some generator =>
    set c : Call := ⟨language, some generator, aliases⟩
    have hcall : r.call c = (c.names.forM requireFree >>= fun _ => c.names.forM fun name =>
        (modify (·.put name (makeEntry language generator aliases)) : Change Unit)).run.run r := rfl
    rw [hcall, run_bind, run_forM_requireFree]
    cases hfirst : c.names.findSome? fun name =>
        (r.entries.lookup name).map (name, ·.language) with
    | some taken =>
      obtain ⟨name, hname, howner⟩ := List.exists_of_findSome?_eq_some hfirst
      have hsupported : r.isSupported name := by
        rw [isSupported, find?_of_mem_names r hname]
        cases hlookup : r.entries.lookup name with
        | none => simp [hlookup] at howner
        | some e => rfl
      exact .inl ⟨.inr ⟨name, hname, hsupported⟩, _, rfl⟩
    | none =>
      refine .inr ⟨generator, rfl, ?_, run_forM_put r _ _⟩
      intro name hname
      simpa using List.findSome?_eq_none_iff.mp hfirst name hname

/-- A call is refused if it gives no class or one of its names is registered. -/
theorem call_eq_error_iff :
    (∃ fault, (r.call c).1 = .error fault) ↔
      c.generator = none ∨ ∃ name ∈ c.names, r.isSupported name := by
  obtain ⟨hwrong, fault, hcall⟩ | ⟨generator, hgenerator, hfree, hcall⟩ := r.call_cases c
  · exact iff_of_true ⟨fault, by rw [hcall]⟩ hwrong
  · refine iff_of_false ?_ ?_
    · rintro ⟨fault, hfault⟩
      rw [hcall] at hfault
      cases hfault
    · rintro (hnone | ⟨name, hname, hsupported⟩)
      · rw [hgenerator] at hnone
        cases hnone
      · rw [isSupported, find?_of_mem_names r hname, hfree name hname] at hsupported
        cases hsupported

/-- A call that is refused has written nothing. -/
theorem after_of_error {fault : Fault} (h : (r.call c).1 = .error fault) : r.after c = r := by
  obtain ⟨-, fault', hcall⟩ | ⟨generator, -, -, hcall⟩ := r.call_cases c
  · rw [after, hcall]
  · rw [hcall] at h
    cases h

/-- A call that is made has put its entry under names that were free. -/
theorem after_of_ok (h : (r.call c).1 = .ok ()) : ∃ generator, c.generator = some generator ∧
    (∀ name ∈ c.names, r.entries.lookup name = none) ∧
    r.after c = r.putAll c.names (makeEntry c.language generator c.aliases) := by
  obtain ⟨-, fault, hcall⟩ | ⟨generator, hgenerator, hfree, hcall⟩ := r.call_cases c
  · rw [hcall] at h
    cases h
  · exact ⟨generator, hgenerator, hfree, by rw [after, hcall]⟩

/-- What is found after a call: what was found before, or the entry of the call under its names. -/
theorem lookup_after_of_some (h : r.entries.lookup name = some e) (c : Call) :
    (r.after c).entries.lookup name = some e := by
  cases hcall : (r.call c).1 with
  | error fault => rw [after_of_error hcall, h]
  | ok =>
    obtain ⟨generator, -, hfree, hafter⟩ := after_of_ok hcall
    have hother : name ∉ c.names := by
      intro hmem
      rw [hfree name hmem] at h
      cases h
    rw [hafter, lookup_putAll, if_neg hother, h]

/-! ## Coherence -/

/-- Every name maps to an entry that has the name, and so do all names of this entry, which are in
lower case. Each pair of the table is what is found for its name. -/
structure Coherent (r : Registry) : Prop where
  listed : ∀ name e, r.entries.lookup name = some e → name ∈ e.names
  shared : ∀ name e, r.entries.lookup name = some e →
    ∀ other ∈ e.names, r.entries.lookup other = some e
  lowered : ∀ name e, r.entries.lookup name = some e → ∀ other ∈ e.names, lower other = other
  found : ∀ pair ∈ r.entries, r.entries.lookup pair.1 = some pair.2

theorem coherent_empty : Coherent {} := by
  constructor <;> simp

theorem found_putAll (h : ∀ pair ∈ r.entries, r.entries.lookup pair.1 = some pair.2)
    (names : List String) (e : Entry) :
    ∀ pair ∈ (r.putAll names e).entries,
      (r.putAll names e).entries.lookup pair.1 = some pair.2 := by
  induction names generalizing r with
  | nil => exact h
  | cons name names ih =>
    refine ih ?_
    intro pair hpair
    rcases List.mem_append.mp hpair with hold | hnew
    · obtain ⟨hmem, hne⟩ := List.mem_filter.mp hold
      rw [lookup_put_of_ne (by simpa using hne), h pair hmem]
    · rw [List.mem_singleton.mp hnew, lookup_put_self]

theorem Coherent.after (hr : r.Coherent) (c : Call) : (r.after c).Coherent := by
  cases hcall : (r.call c).1 with
  | error fault => rwa [after_of_error hcall]
  | ok =>
    obtain ⟨generator, -, -, hafter⟩ := after_of_ok hcall
    have hlookup : ∀ name, (r.after c).entries.lookup name =
        if name ∈ c.names then some (makeEntry c.language generator c.aliases)
        else r.entries.lookup name := by
      intro name
      rw [hafter, lookup_putAll]
    constructor
    · intro name e hname
      rw [hlookup] at hname
      split at hname
      · obtain rfl := Option.some.inj hname
        assumption
      · exact hr.listed name e hname
    · intro name e hname other hother
      rw [hlookup] at hname
      split at hname
      · obtain rfl := Option.some.inj hname
        rw [hlookup]
        exact if_pos hother
      · exact lookup_after_of_some (hr.shared name e hname other hother) c
    · intro name e hname other hother
      rw [hlookup] at hname
      split at hname
      · obtain rfl := Option.some.inj hname
        exact Call.lower_of_mem_names hother
      · exact hr.lowered name e hname other hother
    · rw [hafter]
      exact found_putAll hr.found _ _

theorem Coherent.run (hr : r.Coherent) (calls : List Call) : (r.run calls).Coherent := by
  induction calls generalizing r with
  | nil => exact hr
  | cons c calls ih => exact ih (hr.after c)

/-! ## Growth -/

/-- A name that is registered keeps its entry. -/
theorem find?_run_of_find? (h : r.find? name = some e) (calls : List Call) :
    (r.run calls).find? name = some e := by
  induction calls generalizing r with
  | nil => exact h
  | cons c calls ih => exact ih (lookup_after_of_some h c)

/-! ## Languages -/

theorem nodup_languages (r : Registry) : r.languages.Nodup :=
  (sortBy_perm _ _).nodup_iff.mpr (nodup_distinct _)

theorem mem_languages_iff (hr : r.Coherent) {language : String} :
    language ∈ r.languages ↔ ∃ name e, r.entries.lookup name = some e ∧ e.language = language := by
  rw [languages, sortStrings, (sortBy_perm _ _).mem_iff, mem_distinct, List.mem_map]
  constructor
  · rintro ⟨pair, hpair, rfl⟩
    exact ⟨pair.1, pair.2, hr.found pair hpair, rfl⟩
  · rintro ⟨name, e, hname, rfl⟩
    obtain ⟨before, after, heq, -⟩ := List.lookup_eq_some_iff.mp hname
    exact ⟨(name, e), by simp [heq], rfl⟩

/-- A call that is made brings one language, which was not there. -/
theorem languages_after_of_ok (hr : r.Coherent) (h : (r.call c).1 = .ok ()) :
    (r.after c).languages.Perm (r.languages ++ [lower c.language]) := by
  obtain ⟨generator, -, hfree, hafter⟩ := after_of_ok h
  have hnew : lower c.language ∉ r.languages := by
    rw [mem_languages_iff hr]
    rintro ⟨name, e, hname, hlanguage⟩
    have htaken := hr.shared name e hname e.language List.mem_cons_self
    rw [hlanguage, hfree _ List.mem_cons_self] at htaken
    cases htaken
  have hnodup : (r.languages ++ [lower c.language]).Nodup := by
    rw [List.nodup_append']
    exact ⟨r.nodup_languages, List.nodup_singleton _, by simpa using hnew⟩
  rw [List.perm_ext_iff_of_nodup (nodup_languages _) hnodup]
  intro language
  rw [mem_languages_iff (hr.after c), List.mem_append, mem_languages_iff hr, List.mem_singleton]
  constructor
  · rintro ⟨name, e, hname, rfl⟩
    rw [hafter, lookup_putAll] at hname
    split at hname
    · obtain rfl := Option.some.inj hname
      exact .inr rfl
    · exact .inl ⟨name, e, hname, rfl⟩
  · rintro (⟨name, e, hname, rfl⟩ | rfl)
    · exact ⟨name, e, lookup_after_of_some hname c, rfl⟩
    · refine ⟨lower c.language, makeEntry c.language generator c.aliases, ?_, rfl⟩
      rw [hafter, lookup_putAll]
      exact if_pos List.mem_cons_self

/-- The languages of a run are those it began with and those of the calls that were made. -/
theorem languages_run (hr : r.Coherent) (calls : List Call) :
    (r.run calls).languages.Perm
      (r.languages ++ (r.accepted calls).map fun c => lower c.language) := by
  induction calls generalizing r with
  | nil => simp [run, accepted]
  | cons c calls ih =>
    have hrest : (r.run (c :: calls)).languages.Perm ((r.after c).languages ++
        ((r.after c).accepted calls).map fun c => lower c.language) := ih (hr.after c)
    rw [accepted]
    cases hcall : (r.call c).1 with
    | error fault => rwa [after_of_error hcall] at hrest ⊢
    | ok =>
      refine hrest.trans ?_
      rw [List.map_cons, List.append_cons]
      exact (languages_after_of_ok hr hcall).append_right _

/-! ## What a registry answers -/

/-- What a call does: it is refused exactly if it gives no class or one of its names is registered,
and then nothing changes that can be found; else its entry is found under its names. -/
structure Registers (r : Registry) (c : Call) : Prop where
  refused_iff : (∃ fault, (r.call c).1 = .error fault) ↔
    c.generator = none ∨ ∃ name ∈ c.names, r.isSupported name
  refused : (∃ fault, (r.call c).1 = .error fault) →
    (∀ name, (r.call c).2.find? name = r.find? name) ∧ (r.call c).2.languages = r.languages
  made : (r.call c).1 = .ok () → ∃ generator, c.generator = some generator ∧
    ∀ name, (r.call c).2.find? name =
      if lower name ∈ c.names then some (makeEntry c.language generator c.aliases)
      else r.find? name

theorem registers (r : Registry) (c : Call) : r.Registers c where
  refused_iff := call_eq_error_iff
  refused := by
    rintro ⟨fault, hfault⟩
    rw [← after, after_of_error hfault]
    exact ⟨fun _ => rfl, rfl⟩
  made := by
    intro hmade
    obtain ⟨generator, hgenerator, -, hafter⟩ := after_of_ok hmade
    refine ⟨generator, hgenerator, fun name => ?_⟩
    rw [← after, hafter]
    exact lookup_putAll

/-- An entry to which a name belongs: it lists the name, it is found under all names that it lists,
and no other entry that can be found lists one of these. -/
structure Owns (r : Registry) (name : String) (e : Entry) : Prop where
  listed : lower name ∈ e.names
  found : ∀ other ∈ e.names, r.find? other = some e
  alone : ∀ name' e', r.find? name' = some e' → (∃ other ∈ e.names, other ∈ e'.names) → e = e'

theorem Coherent.owns (hr : r.Coherent) (h : r.find? name = some e) : r.Owns name e := by
  have hfound : ∀ {name e}, r.find? name = some e →
      ∀ other ∈ e.names, r.find? other = some e := by
    intro name e hname other hother
    rw [find?, hr.lowered _ e hname other hother]
    exact hr.shared _ e hname other hother
  refine ⟨hr.listed _ e h, hfound h, ?_⟩
  rintro name' e' h' ⟨other, hother, hother'⟩
  have hsame := hfound h other hother
  rw [hfound h' other hother'] at hsame
  exact (Option.some.inj hsame).symm

/-- The questions that can be asked about a name have answers that agree. -/
structure Agrees (r : Registry) (name : String) : Prop where
  isSupported : r.isSupported name ↔ ∃ e, r.entry name = .ok e
  resolve : ∀ language, r.resolve name = .ok language ↔
    ∃ e, r.entry name = .ok e ∧ e.language = language
  /-- The language that a name stands for stands for itself. -/
  resolved : r.isSupported name →
    ∃ language, r.resolve name = .ok language ∧ r.resolve language = .ok language

theorem Coherent.agrees (hr : r.Coherent) (name : String) : r.Agrees name where
  isSupported := isSupported_iff.trans (exists_congr fun _ => entry_eq_ok_iff.symm)
  resolve := fun _ => resolve_eq_ok_iff
  resolved := by
    intro hsupported
    obtain ⟨e, hname⟩ := isSupported_iff.mp hsupported
    have hlanguage := (hr.owns hname).found e.language List.mem_cons_self
    exact ⟨e.language, resolve_eq_ok_iff.mpr ⟨e, entry_eq_ok_iff.mpr hname, rfl⟩,
      resolve_eq_ok_iff.mpr ⟨e, entry_eq_ok_iff.mpr hlanguage, rfl⟩⟩

/-- Two spellings of a name: the same in lower case, as those are that differ in the case of ASCII
letters only. -/
def SameName (name name' : String) : Prop :=
  lower name = lower name' ∨ name.toList.map Char.toLower = name'.toList.map Char.toLower

/-- Two names have the same answers. -/
structure SameAnswers (r : Registry) (name name' : String) : Prop where
  isSupported : r.isSupported name = r.isSupported name'
  entry : ∀ e, r.entry name = .ok e ↔ r.entry name' = .ok e
  resolve : ∀ language, r.resolve name = .ok language ↔ r.resolve name' = .ok language

theorem SameName.sameAnswers {name' : String} (h : SameName name name') (r : Registry) :
    r.SameAnswers name name' := by
  have hlower : lower name = lower name' := h.elim id lower_eq_of_map_toLower
  have hfind : r.find? name = r.find? name' := by rw [find?, find?, hlower]
  constructor
  · rw [isSupported, isSupported, hfind]
  · intro e
    rw [entry_eq_ok_iff, entry_eq_ok_iff, hfind]
  · intro language
    simp only [resolve_eq_ok_iff, entry_eq_ok_iff, hfind]

/-! ## Runs -/

/-- Any run of registrations from the empty registry. A name that is found belongs to its entry, for
the rest of the run too; answers agree and do not depend on letter case; and the languages are those
of the calls that were made, each once, in order. -/
theorem run_registrations (calls : List Call) :
    let r := run {} calls
    (∀ c, r.Registers c) ∧
    (∀ name e, r.find? name = some e →
      r.Owns name e ∧ ∀ more, (run {} (calls ++ more)).find? name = some e) ∧
    (∀ name, r.Agrees name) ∧
    (∀ name name', SameName name name' → r.SameAnswers name name') ∧
    r.languages.Pairwise (Before id) ∧ r.languages.Nodup ∧
      r.languages.Perm ((accepted {} calls).map fun c => lower c.language) := by
  intro r
  have hr : r.Coherent := coherent_empty.run calls
  have hempty : ({} : Registry).languages = [] := by
    simp [languages, sortStrings, sortBy, distinct]
  have hlanguages := languages_run coherent_empty calls
  rw [hempty, List.nil_append] at hlanguages
  refine ⟨r.registers, ?_, hr.agrees, fun _ _ hsame => hsame.sameAnswers r, pairwise_sortBy id _,
    r.nodup_languages, hlanguages⟩
  intro name e hname
  refine ⟨hr.owns hname, fun more => ?_⟩
  rw [run, List.foldl_append]
  exact find?_run_of_find? hname more

/-- The registry of the built-in generators comes of one call. -/
example : run {} [⟨"dart", some dartClass, ["flutter"]⟩] = builtin := by rfl

end Phrasebook.Registry
