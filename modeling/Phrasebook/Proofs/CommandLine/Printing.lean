-- SUMMARY: What is printed if the console accepts every text, and what is left if it does not.
import Phrasebook.CommandLine.Run

/-!
# Printing

A command ends by printing. If the console accepts the markup of every text, all
of it is printed and the command exits; else the printing stops at a text that
the console refuses, which escapes from the command.
-/

namespace Phrasebook.CommandLine

variable {console : Console} {prints : List Print} {exit : Nat} {store : Store} {o : Outcome}
  {i : Interruption}

namespace Console

/-- Every text that is printed has markup that the console accepts. -/
def Accepts (console : Console) (prints : List Print) : Prop :=
  ∀ p ∈ prints, ∀ text ∈ p.texts, console.accepts text

theorem refused?_eq_none_iff {p : Print} :
    console.refused? p = none ↔ ∀ text ∈ p.texts, console.accepts text := by
  simp [refused?]

/-- What prints look like one below the other. -/
def shown (console : Console) : List Print → String
  | [] => ""
  | p :: ps => console.look p ++ console.shown ps

theorem print_of_accepts (h : console.Accepts prints) :
    console.print prints = { output := console.shown prints } := by
  induction prints with
  | nil => rfl
  | cons p ps ih =>
    obtain ⟨hfirst, hrest⟩ := List.forall_mem_cons.mp h
    rw [print, refused?_eq_none_iff.mpr hfirst]
    simp only [ih hrest, shown]

/-- The printing stops at a text that is not accepted. -/
theorem exists_refused (h : ¬ console.Accepts prints) :
    ∃ text, (console.print prints).refused = some text ∧ ¬ console.accepts text ∧
      ∃ p ∈ prints, text ∈ p.texts := by
  induction prints with
  | nil => exact absurd (by simp [Accepts]) h
  | cons p ps ih =>
    cases hfirst : console.refused? p with
    | some text =>
      obtain ⟨hmem, hrefused⟩ : text ∈ p.texts ∧ ¬ console.accepts text :=
        ⟨List.mem_of_find?_eq_some hfirst, by simpa using List.find?_some hfirst⟩
      exact ⟨text, by rw [print, hfirst], hrefused, p, List.mem_cons_self, hmem⟩
    | none =>
      have hrest : ¬ console.Accepts ps := fun hps =>
        h (List.forall_mem_cons.mpr ⟨refused?_eq_none_iff.mp hfirst, hps⟩)
      obtain ⟨text, htext, hrefused, q, hq, hmem⟩ := ih hrest
      exact ⟨text, by rw [print, hfirst]; exact htext, hrefused, q, List.mem_cons_of_mem _ hq, hmem⟩

/-- A command exits once all is printed. -/
theorem exitWith_of_accepts (h : console.Accepts prints) :
    console.exitWith exit prints store =
      .ok { exit, output := console.shown prints, store } := by
  rw [exitWith, print_of_accepts h]

theorem exitWith_of_not_accepts (h : ¬ console.Accepts prints) :
    ∃ text output, console.exitWith exit prints store =
        .error { fault := .markup text, output, store } ∧ ¬ console.accepts text := by
  obtain ⟨text, htext, hrefused, -⟩ := exists_refused h
  refine ⟨text, (console.print prints).output, ?_, hrefused⟩
  rw [exitWith]
  split
  · rename_i hprint
    rw [hprint] at htext
    cases htext
  · rename_i hprint
    rw [hprint] at htext ⊢
    cases htext
    rfl

theorem exitWith_eq_ok_iff : console.exitWith exit prints store = .ok o ↔
    console.Accepts prints ∧ o = { exit, output := console.shown prints, store } := by
  by_cases h : console.Accepts prints
  · simp [exitWith_of_accepts h, h, eq_comm]
  · obtain ⟨text, output, hexit, -⟩ : ∃ text output, console.exitWith exit prints store =
        .error { fault := .markup text, output, store } ∧ ¬ console.accepts text :=
      exitWith_of_not_accepts h
    simp [hexit, h]

end Console

/-! ## Results of commands -/

variable {r : Except Ending Done} {notices : List Notice} {done : Done}

/-- What a command prints, unless a fault escapes from it. -/
def printsOf : Except Ending Done → Option (List Print)
  | .ok done => some done.prints
  | .error (.report prints _) => some prints
  | .error (.escape _ _) => none

/-- A command exits with zero if it has come to its end, with one if it has reported a failure, and
in either case once all is printed. -/
theorem ofCommand_eq_ok_iff : (Result.ofCommand console r notices).outcome = .ok o ↔
    (∃ done, r = .ok done ∧ console.Accepts done.prints ∧
      o = { exit := 0, output := console.shown done.prints, store := done.store }) ∨
    ∃ prints store, r = .error (.report prints store) ∧ console.Accepts prints ∧
      o = { exit := 1, output := console.shown prints, store } := by
  unfold Result.ofCommand
  cases r with
  | ok done => simp [Console.exitWith_eq_ok_iff]
  | error ending =>
    cases ending with
    | report prints store => simp [Console.exitWith_eq_ok_iff, and_assoc]
    | escape fault store => simp

theorem exit_of_ofCommand (h : (Result.ofCommand console r notices).outcome = .ok o) :
    o.exit = 0 ∨ o.exit = 1 := by
  rcases ofCommand_eq_ok_iff.mp h with ⟨done, -, -, rfl⟩ | ⟨prints, store, -, -, rfl⟩
  · exact .inl rfl
  · exact .inr rfl

/-- An ending by a fault that is not reported. -/
def Ending.IsEscape : Ending → Prop
  | .report _ _ => False
  | .escape _ _ => True

/-- A stage of a command, or the whole of it, ends by a fault that is not reported. -/
def Escaping {α : Type} (x : Except Ending α) : Prop :=
  ∃ ending, x = .error ending ∧ ending.IsEscape

/-- A command exits unless a fault escapes from it or a text is refused. -/
theorem exists_ofCommand_iff :
    (∃ o, (Result.ofCommand console r notices).outcome = .ok o) ↔
      ¬ Escaping r ∧ ∀ prints, printsOf r = some prints → console.Accepts prints := by
  simp only [ofCommand_eq_ok_iff]
  unfold Escaping
  cases r with
  | ok done => simp [printsOf]
  | error ending =>
    cases ending with
    | report prints store => simp [printsOf, Ending.IsEscape, and_assoc]
    | escape fault store => simp [printsOf, Ending.IsEscape]

end Phrasebook.CommandLine
