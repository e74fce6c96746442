-- SUMMARY: Written JSON holds no carriage return.
import Mathlib.Data.List.Basic
import Mathlib.Tactic.Common
import Phrasebook.Json.Printer
import Phrasebook.Proofs.Text.Lines

/-!
# Written JSON

Opening a file for reading turns every line break into a line feed. What has
been written as JSON comes through unchanged: a carriage return inside a text is
escaped, and no other part of a value has one.
-/

namespace Phrasebook

/-! ## Numbers -/

theorem not_mem_toDigits (n : Nat) : '\r' ∉ Nat.toDigits 10 n := by
  intro hmem
  have hdigit := Nat.isDigit_of_mem_toDigits (by decide) (by decide) hmem
  exact absurd hdigit (by decide)

theorem not_mem_toString_int (i : Int) : '\r' ∉ (toString i).toList := by
  have hrepr : ∀ n : Nat, '\r' ∉ (Nat.repr n).toList := fun n => by
    rw [Nat.repr_eq_ofList_toDigits, String.toList_ofList]
    exact not_mem_toDigits n
  cases i with
  | ofNat n => exact hrepr n
  | negSucc n =>
    change '\r' ∉ ("-" ++ Nat.repr (n + 1)).toList
    rw [String.toList_append, List.mem_append, not_or]
    exact ⟨by decide, hrepr (n + 1)⟩

namespace Binary64

variable {digits : List Char}

/-- A number is laid out by its digits, those of its exponent, zeros and marks. -/
theorem not_mem_layout (h : '\r' ∉ digits) (place : Int) : '\r' ∉ layout digits place := by
  have htrim : ∀ ds : List Char, '\r' ∉ ds → '\r' ∉ (ds.reverse.dropWhile (· = '0')).reverse := by
    intro ds hds hmem
    exact hds (List.mem_reverse.mp ((List.dropWhile_sublist _).mem (List.mem_reverse.mp hmem)))
  have hpad : ∀ n, '\r' ∉ (Nat.toDigits 10 n).leftpad 2 '0' := by
    intro n
    rw [List.leftpad, List.mem_append, List.mem_replicate, not_or]
    exact ⟨by simp, not_mem_toDigits n⟩
  unfold layout
  extract_lets shown e tail mantissa whole rest
  have hshown : '\r' ∉ shown := by
    unfold shown
    split
    · decide
    · exact htrim digits h
  clear_value shown
  split
  · rw [List.mem_append, List.mem_cons, List.mem_cons, not_or, not_or, not_or]
    refine ⟨?mantissa, by decide, by split <;> decide, hpad _⟩
    case mantissa =>
      unfold mantissa
      split
      · exact hshown
      · exact hshown
      · simpa using hshown
  · split
    · simp [hshown]
    · simp only [List.mem_append, List.mem_cons, List.mem_replicate, not_or]
      refine ⟨⟨fun h => hshown ((List.take_sublist _ _).mem h), by simp⟩, by decide, ?decimals⟩
      case decimals =>
        split
        · decide
        · exact fun h => hshown ((List.drop_sublist _ _).mem h)

theorem not_mem_render (x : Binary64) : '\r' ∉ (x.render "Infinity" "NaN").toList := by
  cases x with
  | nan => decide
  | infinite negative => cases negative <;> decide
  | finite negative mantissa exponent =>
    rw [render, String.toList_append, List.mem_append, String.toList_ofList, not_or]
    refine ⟨by cases negative <;> decide, ?_⟩
    split
    · decide
    · exact not_mem_layout (not_mem_toDigits _) _

end Binary64

namespace Text

theorem not_mem_joinStrings {c : Char} {sep : String} {parts : List String} (hsep : c ∉ sep.toList)
    (hparts : ∀ s ∈ parts, c ∉ s.toList) : c ∉ (joinStrings sep parts).toList := by
  refine joinStrings_induction (by simp) (fun hs ht => ?_) hsep hparts
  rw [String.toList_append, List.mem_append, not_or]
  exact ⟨hs, ht⟩

end Text

namespace Json

open Text

/-! ## Texts -/

theorem not_mem_escapeChar (c : Char) : '\r' ∉ escapeChar c := by
  unfold escapeChar
  split
  case h_8 hcr _ _ _ =>
    split
    · rename_i hlt
      have hhex : ∀ n < 0x20, '\r' ∉ hexDigits 4 n := by decide
      simpa using hhex c.toNat hlt
    · simpa [eq_comm] using hcr
  all_goals decide

theorem not_mem_stringText (s : String) : '\r' ∉ (stringText s).toList := by
  rw [stringText, String.toList_ofList, List.mem_append, List.mem_cons, List.mem_flatMap]
  rintro ((hquote | ⟨c, -, hc⟩) | hquote)
  · exact absurd hquote (by decide)
  · exact not_mem_escapeChar c hc
  · exact absurd hquote (by decide)

/-! ## Values -/

theorem not_mem_scalarText (v : Json) : '\r' ∉ v.scalarText.toList := by
  cases v with
  | bool b => cases b <;> decide
  | int i => exact not_mem_toString_int i
  | float x => exact x.not_mem_render
  | str s => exact not_mem_stringText s
  | null => decide
  | arr items => simp [scalarText]
  | obj fields => simp [scalarText]

theorem not_mem_lineBreak (depth : Nat) : '\r' ∉ (lineBreak depth).toList := by
  simp [lineBreak]

theorem comma_clear : '\r' ∉ ",".toList := by decide

mutual

theorem not_mem_prettyAt (depth : Nat) : ∀ v, '\r' ∉ (prettyAt depth v).toList
  | .arr [] => by simp [prettyAt]
  | .arr (item :: items) => by
    have hitems := not_mem_joinStrings comma_clear (not_mem_prettyItems (depth + 1) (item :: items))
    simp [prettyAt, hitems, not_mem_lineBreak]
  | .obj [] => by simp [prettyAt]
  | .obj (field :: fields) => by
    have hfields :=
      not_mem_joinStrings comma_clear (not_mem_prettyFields (depth + 1) (field :: fields))
    simp [prettyAt, hfields, not_mem_lineBreak]
  | .null => not_mem_scalarText .null
  | .bool b => not_mem_scalarText (.bool b)
  | .int i => not_mem_scalarText (.int i)
  | .float x => not_mem_scalarText (.float x)
  | .str s => not_mem_scalarText (.str s)

theorem not_mem_prettyItems (depth : Nat) : ∀ items, ∀ s ∈ prettyItems depth items, '\r' ∉ s.toList
  | [] => by simp [prettyItems]
  | item :: items => by
    rw [prettyItems, List.forall_mem_cons]
    refine ⟨?_, not_mem_prettyItems depth items⟩
    simp [not_mem_lineBreak, not_mem_prettyAt depth item]

theorem not_mem_prettyFields (depth : Nat) :
    ∀ fields, ∀ s ∈ prettyFields depth fields, '\r' ∉ s.toList
  | [] => by simp [prettyFields]
  | (key, value) :: fields => by
    rw [prettyFields, List.forall_mem_cons]
    refine ⟨?_, not_mem_prettyFields depth fields⟩
    simp [not_mem_lineBreak, not_mem_stringText, not_mem_prettyAt depth value]

end

/-- No written value holds a carriage return. -/
theorem not_mem_pretty (v : Json) : '\r' ∉ v.pretty.toList :=
  not_mem_prettyAt 0 v

end Json

end Phrasebook
