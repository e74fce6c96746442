-- SUMMARY: Writing a file and reading it again.
import Phrasebook.Proofs.Outcome
import Phrasebook.Store

/-!
# Writing to stores

A file that has been written is read back under the same path, since writing it
leaves every directory on the way where it is.
-/

namespace Phrasebook.Store

variable {s s' : Store} {place other : Place} {parts : List String} {path : Path}
  {content : List UInt8}

/-! ## Directories -/

theorem isDirectory_iff : s.isDirectory place ↔ isOutside place ∨
    ∃ p ∈ s.nodes, (p.1 = place ∧ p.2 = .directory) ∨
      (place.isPrefixOf p.1 ∧ place.length < p.1.length) := by
  simp [isDirectory]

theorem node?_eq_directory_iff : s.node? place = some .directory ↔ s.isDirectory place := by
  unfold node?
  split
  · simpa
  · rename_i hdir
    refine iff_of_false (fun hlookup => ?_) hdir
    obtain ⟨before, after, heq, _⟩ := List.lookup_eq_some_iff.mp hlookup
    exact hdir (isDirectory_iff.mpr (.inr ⟨(place, .directory), by simp [heq], .inl ⟨rfl, rfl⟩⟩))

/-- The store with a file at a place. -/
def withFile (s : Store) (place : Place) (content : List UInt8) : Store where
  nodes := (place, .file content) :: s.nodes.filter (·.1 != place)

/-- A directory stays one. What has stood at the new file's place lies no deeper than the file. -/
theorem isDirectory_withFile (hne : other ≠ place) (h : s.isDirectory other) :
    (s.withFile place content).isDirectory other := by
  rw [isDirectory_iff] at h ⊢
  rcases h with houtside | ⟨p, hp, hdir⟩
  · exact .inl houtside
  · refine .inr ?_
    by_cases hplace : p.1 = place
    · rcases hdir with ⟨hother, -⟩ | hbelow
      · exact absurd (hother.symm.trans hplace) hne
      · exact ⟨(place, .file content), List.mem_cons_self, .inr (hplace ▸ hbelow)⟩
    · exact ⟨p, List.mem_cons_of_mem _ (by simp [hp, hplace]), hdir⟩

theorem not_isDirectory_withFile (h : ¬ s.isDirectory place) :
    ¬ (s.withFile place content).isDirectory place := by
  rw [isDirectory_iff] at h ⊢
  rintro (houtside | ⟨p, hp, hdir⟩)
  · exact h (.inl houtside)
  · rcases List.mem_cons.mp hp with rfl | hp
    · rcases hdir with ⟨-, hfile⟩ | ⟨-, hlength⟩
      · cases hfile
      · exact absurd hlength (Nat.lt_irrefl _)
    · exact h (.inr ⟨p, (List.mem_filter.mp hp).1, hdir⟩)

/-! ## Reading back -/

/-- The way to a place that is no directory goes on leading there when a file is put there. -/
theorem walk_withFile (hplace : ¬ s.isDirectory place) {start : Place}
    (h : s.walk start parts = .ok place) : (s.withFile place content).walk start parts = .ok place := by
  induction parts generalizing start with
  | nil => exact h
  | cons part parts ih =>
    unfold walk at h ⊢
    cases hnode : s.node? start with
    | none => simp [hnode] at h
    | some node =>
      cases node with
      | file content => simp [hnode] at h
      | directory =>
        have hdir := node?_eq_directory_iff.mp hnode
        have hne : start ≠ place := by
          rintro rfl
          exact hplace hdir
        rw [node?_eq_directory_iff.mpr (isDirectory_withFile hne hdir)]
        simp only [hnode] at h ⊢
        split at h
        · rw [if_pos ‹_›]
          exact ih h
        · rw [if_neg ‹_›]
          split at h
          · cases h
          · rw [if_neg ‹_›]
            exact ih h

theorem write_eq_ok_iff : s.write path content = .ok s' ↔
    ∃ place, s.locate path = .ok place ∧ ¬ s.isDirectory place ∧ s.withFile place content = s' := by
  unfold write
  rw [show ∀ f : Place → Except Fault Store, (s.locate path >>= f) = (s.locate path).bind f from
    fun _ => rfl, Except.bind_eq_ok_iff]
  refine exists_congr fun place => and_congr_right fun _ => ?_
  cases hdir : s.isDirectory place with
  | true => simp [node?_eq_directory_iff.mpr hdir]
  | false =>
    have hnode : s.node? place ≠ some .directory := by
      rw [ne_eq, node?_eq_directory_iff, hdir]
      decide
    split
    · exact absurd ‹_› hnode
    · simp [withFile]

/-- A file can be put at the path: the way there exists, and no directory is at its end. -/
def IsWritable (s : Store) (path : Path) : Prop :=
  ∃ place, s.locate path = .ok place ∧ ¬ s.isDirectory place

theorem IsWritable.exists_write (h : s.IsWritable path) (content : List UInt8) :
    ∃ s', s.write path content = .ok s' := by
  obtain ⟨place, hlocate, hdir⟩ := h
  exact ⟨_, write_eq_ok_iff.mpr ⟨place, hlocate, hdir, rfl⟩⟩

/-- What has been written is read back. -/
theorem read_of_write (h : s.write path content = .ok s') : s'.read path = .ok content := by
  obtain ⟨place, hlocate, hdir, rfl⟩ := write_eq_ok_iff.mp h
  have hlocate' : (s.withFile place content).locate path = .ok place := by
    unfold locate at hlocate ⊢
    split at hlocate
    · cases hlocate
    · split at hlocate
      · cases hlocate
      · rw [if_neg ‹_›, if_neg ‹_›]
        exact walk_withFile hdir hlocate
  have hnode : (s.withFile place content).node? place = some (.file content) := by
    unfold node?
    rw [if_neg (not_isDirectory_withFile hdir)]
    exact List.lookup_cons_self
  simp [read, hlocate', hnode, bind, Except.bind]

end Phrasebook.Store
