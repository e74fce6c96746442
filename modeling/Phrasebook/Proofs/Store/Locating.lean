-- SUMMARY: Which paths cannot be located at all: those with a NUL character, and those too long.
import Phrasebook.Proofs.Outcome
import Phrasebook.Store

/-!
# Locating places

Of the faults that a path can meet, two are not about what lies on its way. A
path that holds a NUL character is refused before anything is looked at, by
reading and writing alike. Asking whether something exists passes over every
fault but that of a name that is too long.
-/

namespace Phrasebook.Store

variable {s s' : Store} {place : Place} {parts : List String} {path : Path} {content : List UInt8}

/-- A path that holds a NUL character. -/
def HasNul (path : Path) : Prop :=
  '\x00' ∈ path.text.toList

theorem walk_ne_nulCharacter : s.walk place parts ≠ .error .nulCharacter := by
  induction parts generalizing place with
  | nil => simp [walk]
  | cons part parts ih =>
    unfold walk
    split
    · simp
    · simp
    · split
      · exact ih
      · split
        · simp
        · exact ih

theorem locate_eq_nulCharacter_iff : s.locate path = .error .nulCharacter ↔ HasNul path := by
  unfold locate HasNul
  split
  · rename_i hnul
    simpa using hnul
  · rename_i hnul
    refine iff_of_false ?_ (by simpa using hnul)
    split
    · simp
    · exact walk_ne_nulCharacter

theorem read_eq_nulCharacter_iff : s.read path = .error .nulCharacter ↔ HasNul path := by
  rw [← @locate_eq_nulCharacter_iff s]
  refine Except.bind_eq_error_iff.trans (or_iff_left ?_)
  rintro ⟨place, -, h⟩
  split at h <;> cases h

theorem write_eq_nulCharacter_iff : s.write path content = .error .nulCharacter ↔ HasNul path := by
  rw [← @locate_eq_nulCharacter_iff s]
  refine Except.bind_eq_error_iff.trans (or_iff_left ?_)
  rintro ⟨place, -, h⟩
  split at h <;> cases h

theorem exists?_eq_error_iff :
    (∃ fault, s.exists? path = .error fault) ↔ s.locate path = .error .longName := by
  unfold exists?
  cases s.locate path with
  | ok place => simp
  | error fault => cases fault <;> simp

/-- What can be read exists. -/
theorem exists?_of_read (h : s.read path = .ok content) : s.exists? path = .ok true := by
  obtain ⟨place, hplace, hnode⟩ := Except.bind_eq_ok_iff.mp h
  rw [exists?, hplace]
  split at hnode
  · cases hnode
  · cases hnode
  · rename_i hfile
    simp [hfile]

end Phrasebook.Store
