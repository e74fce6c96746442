-- SUMMARY: What conversions do to an allocator that they share, and histories of such uses.
import Mathlib.Data.List.Nodup
import Phrasebook.Proofs.Book.Contents
import Phrasebook.Proofs.Naming.Runs

/-!
# Using an allocator

A conversion, whether it succeeds or not, does no more with its allocator than to
claim names and to ask for names of keys of its document, all in one style. So
its effect is that of a run of steps, and what is known of runs is known of
histories in which conversions stand among other uses of the allocator.
-/

namespace Phrasebook

namespace Naming.Allocator

variable {a : Allocator} {r : Request}

/-- Whether a step asks for a name under the label of a request. -/
def Step.AsksFor (r : Request) : Step → Prop
  | .allocate r' => r'.label = r.label
  | _ => False

/-- A request that has no name gets none by steps that do not ask for it. -/
theorem given?_step_eq_none {s : Step} (h : a.given? r = none) (hs : ¬ Step.AsksFor r s) :
    (a.step s).2.given? r = none := by
  cases s with
  | allocate r' =>
    have hne : (r.label == r'.label) = false := beq_eq_false_iff_ne.mpr fun heq => hs heq.symm
    cases hgiven : a.given? r' with
    | some name => simpa only [step, allocate_of_given hgiven] using h
    | none =>
      simp only [step, allocate_of_not_given hgiven, given?, List.lookup_cons, hne]
      exact h
  | claim name => exact h
  | reset => rfl

theorem given?_run_eq_none {steps : List Step} (h : a.given? r = none)
    (hsteps : ∀ s ∈ steps, ¬ Step.AsksFor r s) : (a.run steps).2.given? r = none := by
  induction steps generalizing a with
  | nil => exact h
  | cons s steps ih =>
    rw [List.forall_mem_cons] at hsteps
    exact ih (given?_step_eq_none h hsteps.1) hsteps.2

end Naming.Allocator

namespace Document

open Naming

variable {style : Style} {asked : List String} {names names' names'' : Allocator}
  {definitions : List Phrase} {tag : String} {fields : List (String × Json)} {home : Locale}

/-! ## Steps of a conversion -/

/-- The steps that a conversion in a style may take if it asks for names of the given keys only. -/
inductive MayTake (style : Style) (asked : List String) : Allocator.Step → Prop
  | claim (name : String) : MayTake style asked (.claim name)
  | allocate {key : String} (h : key ∈ asked) : MayTake style asked (.allocate { key, style })

/-- One allocator comes of the other by steps of a conversion. -/
def LeadsTo (style : Style) (asked : List String) (names names' : Allocator) : Prop :=
  ∃ steps, (∀ s ∈ steps, MayTake style asked s) ∧ (names.run steps).2 = names'

theorem LeadsTo.refl (style : Style) (asked : List String) (names : Allocator) :
    LeadsTo style asked names names :=
  ⟨[], by simp, rfl⟩

theorem LeadsTo.trans (h : LeadsTo style asked names names')
    (h' : LeadsTo style asked names' names'') : LeadsTo style asked names names'' := by
  obtain ⟨steps, hsteps, rfl⟩ := h
  obtain ⟨more, hmore, rfl⟩ := h'
  refine ⟨steps ++ more, ?_, Allocator.run_append names steps more⟩
  intro s hs
  exact (List.mem_append.mp hs).elim (hsteps s) (hmore s)

theorem LeadsTo.of_step {s : Allocator.Step} (h : MayTake style asked s) :
    LeadsTo style asked names (names.step s).2 :=
  ⟨[s], by simpa using h, rfl⟩

/-- A conversion resets nothing. -/
theorem LeadsTo.grows (h : LeadsTo style asked names names') : names.Grows names' := by
  obtain ⟨steps, hsteps, rfl⟩ := h
  refine Allocator.grows_run names fun hreset => ?_
  cases hsteps _ hreset

theorem leadsTo_claimEntry (names : Allocator) (entry : Entry) :
    LeadsTo style asked names (claimEntry names entry) := by
  unfold claimEntry
  split
  · exact .of_step (.claim _)
  · exact .refl style asked names

theorem leadsTo_claimAccessors :
    LeadsTo style asked names (claimAccessors tag fields names).2 := by
  induction fields generalizing names with
  | nil => exact .refl style asked names
  | cons f rest ih =>
    obtain ⟨key, value⟩ := f
    rw [claimAccessors]
    cases readEntry tag key value with
    | error fault => exact .refl style asked names
    | ok entry => exact (leadsTo_claimEntry names entry).trans ih

theorem leadsTo_toPhrase {key : String} {entry : Entry} (h : key ∈ asked) :
    LeadsTo style asked names (toPhrase style definitions key entry names).2 := by
  unfold toPhrase
  split
  · exact .refl style asked names
  · split
    · exact .refl style asked names
    · exact .of_step (.allocate h)

theorem leadsTo_toPhrases (h : fields.map Prod.fst ⊆ asked) :
    LeadsTo style asked names (toPhrases style definitions tag fields names).2 := by
  induction fields generalizing names with
  | nil => exact .refl style asked names
  | cons f rest ih =>
    obtain ⟨key, value⟩ := f
    rw [List.map_cons, List.cons_subset] at h
    rw [toPhrases]
    cases readEntry tag key value with
    | error fault => exact .refl style asked names
    | ok entry => exact (leadsTo_toPhrase h.1).trans (ih h.2)

/-- The keys under which a section has entries. -/
def Section.keys (s : Section) : List String :=
  match s.entries with
  | .obj fields => fields.map Prod.fst
  | _ => []

theorem leadsTo_sectionPhrases {s : Section} (h : s.keys ⊆ asked) :
    LeadsTo style asked names (sectionPhrases style home definitions s names).2 := by
  unfold sectionPhrases
  split
  · exact .refl style asked names
  · rw [Section.keys] at h
    cases hentries : s.entries with
    | obj fields =>
      rw [hentries] at h
      exact leadsTo_toPhrases h
    | _ => exact .refl style asked names

theorem leadsTo_defaultPhrases {s : Section} (h : s.keys ⊆ asked) :
    LeadsTo style asked names (defaultPhrases style s names).2 := by
  unfold defaultPhrases
  rw [Section.keys] at h
  cases hentries : s.entries with
  | obj fields =>
    rw [hentries] at h
    have hclaims : LeadsTo style asked names (claimAccessors s.tag fields names).2 :=
      leadsTo_claimAccessors
    cases hclaim : claimAccessors s.tag fields names with
    | mk result names' =>
      rw [hclaim] at hclaims
      cases result with
      | error fault => simpa only [hclaim] using hclaims
      | ok => simpa only [hclaim] using hclaims.trans (leadsTo_toPhrases h)
  | _ => exact .refl style asked names

theorem leadsTo_toTables {sections : List Section} (h : ∀ s ∈ sections, s.keys ⊆ asked) :
    LeadsTo style asked names (toTables style home definitions sections names).2 := by
  induction sections generalizing names with
  | nil => exact .refl style asked names
  | cons s rest ih =>
    rw [List.forall_mem_cons] at h
    have hsection : LeadsTo style asked names (sectionPhrases style home definitions s names).2 :=
      leadsTo_sectionPhrases h.1
    rw [toTables_cons]
    dsimp only
    split
    · exact hsection
    · exact hsection.trans (ih h.2)

/-- The keys under which a document has entries, in any locale. -/
def keysOf (document : Json) : List String :=
  match (outline document).1 with
  | .ok o => o.sections.flatMap Section.keys
  | .error _ => []

/-- A conversion takes steps of a conversion, whatever comes of it. -/
theorem leadsTo_convert (style : Style) (names : Allocator) (document : Json) :
    LeadsTo style (keysOf document) names (convert style names document).names := by
  cases houtline : (outline document).1 with
  | error fault =>
    have hnames : (convert style names document).names = names := by
      unfold convert
      cases ho : outline document with
      | mk result notices =>
        rw [ho] at houtline
        cases houtline
        rfl
    rw [hnames]
    exact .refl _ _ _
  | ok o =>
    have hkeys : ∀ s ∈ o.sections, s.keys ⊆ keysOf document := by
      intro s hs key hkey
      rw [keysOf, houtline]
      exact List.mem_flatMap.mpr ⟨s, hs, hkey⟩
    rw [(convert_of_outline houtline).2, toBook]
    cases hfind : o.sections.find? (·.locale == o.defaultLocale) with
    | none => exact .refl _ _ _
    | some s =>
      have hdefault : LeadsTo style (keysOf document) names (defaultPhrases style s names).2 :=
        leadsTo_defaultPhrases (hkeys s (List.mem_of_find?_eq_some hfind))
      cases hphrases : defaultPhrases style s names with
      | mk result names' =>
        rw [hphrases] at hdefault
        cases result with
        | error fault => simpa only [hphrases] using hdefault
        | ok definitions => simpa only [hphrases] using hdefault.trans (leadsTo_toTables hkeys)

/-! ## Histories -/

/-- A use of an allocator that conversions share with others. -/
inductive Use where
  | step (s : Allocator.Step)
  | convert (style : Style) (document : Json)

/-- The allocator after a use, whatever comes of it. -/
def Use.apply (names : Allocator) : Use → Allocator
  | .step s => (names.step s).2
  | .convert style document => (Document.convert style names document).names

/-- The allocator after a history of uses. -/
def afterUses (names : Allocator) (history : List Use) : Allocator :=
  history.foldl Use.apply names

/-- Whether a use may ask for a name under the label of a request. -/
def Use.AsksFor (r : Request) : Use → Prop
  | .step s => Allocator.Step.AsksFor r s
  | .convert style document =>
    ∃ key ∈ keysOf document, ({ key, style } : Request).label = r.label

theorem given?_apply_eq_none {r : Request} {use : Use} (h : names.given? r = none)
    (huse : ¬ use.AsksFor r) : (use.apply names).given? r = none := by
  cases use with
  | step s => exact Allocator.given?_step_eq_none h huse
  | convert style document =>
    obtain ⟨steps, hsteps, hnames⟩ := leadsTo_convert style names document
    rw [Use.apply, ← hnames]
    refine Allocator.given?_run_eq_none h fun s hs hasks => huse ?_
    cases hsteps s hs with
    | claim name => exact hasks.elim
    | allocate hkey => exact ⟨_, hkey, hasks⟩

/-- A request that no use of a history asks for is not remembered after it. -/
theorem given?_afterUses_eq_none {r : Request} {history : List Use} (h : names.given? r = none)
    (hhistory : ∀ use ∈ history, ¬ use.AsksFor r) : (afterUses names history).given? r = none := by
  induction history generalizing names with
  | nil => exact h
  | cons use history ih =>
    rw [List.forall_mem_cons] at hhistory
    exact ih (given?_apply_eq_none h hhistory.1) hhistory.2

end Document

end Phrasebook
