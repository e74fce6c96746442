-- SUMMARY: JSON text means the same whichever line breaks it has.
import Mathlib.Data.List.Find
import Phrasebook.Proofs.Json.Rests
import Phrasebook.Proofs.Text.LineBreaks

/-!
# JSON and line breaks

Between tokens a carriage return is space as a line feed is, within a string or
an escape neither can stand, and within a number or a word either ends it. So a
text with its line breaks unified has the same value, or goes beyond the same
limit, or has a fault as before, though not at the same place.
-/

namespace Phrasebook.Json

open Text.Utf8

variable {α β : Type} {cs rest : List Char} {start start' depth fuel : Nat}

/-! ## Readings of the two texts -/

/-- What is read before and after line breaks are unified: the same value, with the rest unified, or
some fault, or the same excess. -/
inductive Alike : Reading α → Reading α → Prop
  | ok (a : α) (rest : List Char) : Alike (.ok (a, rest)) (.ok (a, unifyBreaks rest))
  | fault (reason reason' : Reason) (left left' : Nat) :
      Alike (.error (.fault reason left)) (.error (.fault reason' left'))
  | excess (e : Excess) : Alike (.error (.excess e)) (.error (.excess e))

theorem Alike.map {r r' : Reading α} (h : Alike r r') (f : α → β) :
    Alike (r.map fun (a, rest) => (f a, rest)) (r'.map fun (a, rest) => (f a, rest)) := by
  cases h with
  | ok a rest => exact .ok (f a) rest
  | fault reason reason' left left' => exact .fault reason reason' left left'
  | excess e => exact .excess e

/-! ## Strings -/

/-- Four hexadecimal digits stand on one line. -/
theorem not_mem_of_hexQuad? {w x y z : Char} {u : Nat} (h : hexQuad? w x y z = some u) :
    '\r' ∉ [w, x, y, z] ∧ '\n' ∉ [w, x, y, z] := by
  simp only [hexQuad?, bind, Option.bind_eq_some_iff] at h
  obtain ⟨_, hw, _, hx, _, hy, _, hz, -⟩ := h
  have hreturn : hexDigit? '\r' = none := by decide
  have hfeed : hexDigit? '\n' = none := by decide
  constructor
  · intro hmem
    simp only [List.mem_cons, List.not_mem_nil, or_false] at hmem
    rcases hmem with rfl | rfl | rfl | rfl <;> simp_all
  · intro hmem
    simp only [List.mem_cons, List.not_mem_nil, or_false] at hmem
    rcases hmem with rfl | rfl | rfl | rfl <;> simp_all

/-- An escape is the same before and after, for no break can stand in it. -/
theorem escaped?_unifyBreaks (cs : List Char) :
    escaped? (unifyBreaks cs) = (escaped? cs).map fun (u, rest) => (u, unifyBreaks rest) := by
  cases cs with
  | nil => rfl
  | cons e cs =>
    by_cases hreturn : e = '\r'
    · obtain ⟨rest, hrest, -⟩ := unifyBreaks_return cs
      rw [hreturn, hrest, escaped?_of_ne (by decide), escaped?_of_ne (by decide)]
      rfl
    · rw [unifyBreaks_cons hreturn]
      by_cases hu : e = 'u'
      · subst hu
        apply Option.ext
        rintro ⟨u, rest⟩
        rw [escaped?_u_eq_some_iff, Option.map_eq_some_iff]
        constructor
        · rintro ⟨w, x, y, z, hcs, hne, hquad⟩
          obtain ⟨hreturn, hfeed⟩ := not_mem_of_hexQuad? hquad
          have hword : unifyBreaks cs = [w, x, y, z] ++ rest := hcs
          obtain ⟨tail, rfl, rfl⟩ := (unifyBreaks_eq_append_iff hreturn hfeed).mp hword
          have hne' : tail ≠ [] := fun hnil => hne (unifyBreaks_eq_nil_iff.mpr hnil)
          exact ⟨(u, tail), escaped?_u_eq_some_iff.mpr ⟨w, x, y, z, rfl, hne', hquad⟩, rfl⟩
        · rintro ⟨⟨u', tail⟩, hescaped, heq⟩
          cases heq
          obtain ⟨w, x, y, z, rfl, hne, hquad⟩ := escaped?_u_eq_some_iff.mp hescaped
          obtain ⟨hreturn, -⟩ := not_mem_of_hexQuad? hquad
          have hne' : unifyBreaks tail ≠ [] := fun hnil => hne (unifyBreaks_eq_nil_iff.mp hnil)
          have hcs : unifyBreaks ([w, x, y, z] ++ tail) = [w, x, y, z] ++ unifyBreaks tail :=
            unifyBreaks_append hreturn tail
          exact ⟨w, x, y, z, hcs, hne', hquad⟩
      · rw [escaped?_of_ne hu, escaped?_of_ne hu, Option.map_map]
        rfl

theorem alike_units (start start' : Nat) (cs : List Char) :
    Alike (units start cs) (units start' (unifyBreaks cs)) := by
  induction cs using units_induction with
  | nil => exact .fault ..
  | quote cs =>
    rw [unifyBreaks_cons (by decide), units_quote, units_quote]
    exact .ok ..
  | control c cs hc =>
    -- A break is a control character itself, whichever it is.
    obtain ⟨d, rest, hrest, hd⟩ : ∃ d rest, unifyBreaks (c :: cs) = d :: rest ∧ d.toNat < 0x20 := by
      by_cases hreturn : c = '\r'
      · obtain ⟨rest, hrest, -⟩ := unifyBreaks_return cs
        exact ⟨'\n', _, hreturn ▸ hrest, by decide⟩
      · exact ⟨c, _, unifyBreaks_cons hreturn cs, hc⟩
    rw [hrest, units_control hc, units_control hd]
    exact .fault ..
  | escape cs u rest hescaped ih =>
    have hunified : escaped? (unifyBreaks cs) = some (u, unifyBreaks rest) := by
      rw [escaped?_unifyBreaks, hescaped]
      rfl
    rw [unifyBreaks_cons (by decide), units_backslash_of_some hescaped,
      units_backslash_of_some hunified]
    exact ih.map (u :: ·)
  | noEscape cs hescaped =>
    have hunified : escaped? (unifyBreaks cs) = none := by
      rw [escaped?_unifyBreaks, hescaped]
      rfl
    obtain ⟨reason, left, hfault⟩ := units_backslash_of_none start hescaped
    obtain ⟨reason', left', hfault'⟩ := units_backslash_of_none start' hunified
    rw [unifyBreaks_cons (by decide), hfault, hfault']
    exact .fault ..
  | plain c cs hc ih =>
    have hreturn : c ≠ '\r' := by
      rintro rfl
      exact absurd hc.not_control (by decide)
    rw [unifyBreaks_cons hreturn, units_plain hc, units_plain hc]
    exact ih.map (c.toNat :: ·)

theorem alike_string (start start' : Nat) (cs : List Char) :
    Alike (string start cs) (string start' (unifyBreaks cs)) :=
  (alike_units start start' cs).map fun us => String.ofList (ofUnits us)

/-! ## Numbers and words -/

theorem takeWhile_isDigit_unifyBreaks (cs : List Char) :
    (unifyBreaks cs).takeWhile Char.isDigit = cs.takeWhile Char.isDigit :=
  takeWhile_unifyBreaks (by decide) (by decide) cs

theorem dropWhile_isDigit_unifyBreaks (cs : List Char) :
    (unifyBreaks cs).dropWhile Char.isDigit = unifyBreaks (cs.dropWhile Char.isDigit) :=
  dropWhile_unifyBreaks (by decide) cs

/-- A text begins with a character that is no break, and goes on after it, as it did before; or it
does not begin with it, neither before nor after. -/
theorem begins_unifyBreaks {c : Char} (hreturn : c ≠ '\r') (hfeed : c ≠ '\n') (cs : List Char) :
    (∃ rest, cs = c :: rest ∧ unifyBreaks cs = c :: unifyBreaks rest) ∨
      (∀ rest, cs ≠ c :: rest) ∧ ∀ rest, unifyBreaks cs ≠ c :: rest := by
  by_cases h : ∃ rest, cs = c :: rest
  · obtain ⟨rest, rfl⟩ := h
    exact .inl ⟨rest, rfl, unifyBreaks_cons hreturn rest⟩
  · refine .inr ⟨fun rest hcs => h ⟨rest, hcs⟩, fun rest hrest => ?_⟩
    obtain ⟨-, tail, htail, -⟩ := (unifyBreaks_eq_cons_iff hfeed).mp hrest
    exact h ⟨tail, htail⟩

theorem wholeDigits_unifyBreaks (cs : List Char) :
    wholeDigits (unifyBreaks cs) = ((wholeDigits cs).1, unifyBreaks (wholeDigits cs).2) := by
  rcases begins_unifyBreaks (c := '0') (by decide) (by decide) cs with
    ⟨rest, rfl, hrest⟩ | ⟨hother, hother'⟩
  · rw [hrest]
    rfl
  · unfold wholeDigits
    split
    · exact absurd ‹_› (hother' _)
    · rw [takeWhile_isDigit_unifyBreaks, dropWhile_isDigit_unifyBreaks]

theorem fraction?_unifyBreaks (cs : List Char) :
    fraction? (unifyBreaks cs) =
      (fraction? cs).map fun (digits, rest) => (digits, unifyBreaks rest) := by
  rcases begins_unifyBreaks (c := '.') (by decide) (by decide) cs with
    ⟨rest, rfl, hrest⟩ | ⟨hother, hother'⟩
  · rw [hrest]
    simp only [fraction?, takeWhile_isDigit_unifyBreaks, dropWhile_isDigit_unifyBreaks]
    split <;> rfl
  · unfold fraction?
    split
    · exact absurd ‹_› (hother' _)
    · rfl

/-- The sign of an exponent, and what stands behind it. -/
def exponentSign (cs : List Char) : Bool × List Char :=
  match cs with
  | '-' :: tail => (true, tail)
  | '+' :: tail => (false, tail)
  | _ => (false, cs)

/-- The exponent of a sign and the digits behind it. -/
def exponentDigits? (negative : Bool) (cs : List Char) : Option (Int × List Char) :=
  let digits := cs.takeWhile Char.isDigit
  if digits.isEmpty then none
  else
    let n : Int := natOfDigits digits
    some (if negative then -n else n, cs.dropWhile Char.isDigit)

theorem exponent?_cons (c : Char) (cs : List Char) : exponent? (c :: cs) =
    if c = 'e' || c = 'E' then exponentDigits? (exponentSign cs).1 (exponentSign cs).2 else none :=
  rfl

theorem exponentSign_unifyBreaks (cs : List Char) :
    exponentSign (unifyBreaks cs) = ((exponentSign cs).1, unifyBreaks (exponentSign cs).2) := by
  rcases begins_unifyBreaks (c := '-') (by decide) (by decide) cs with
    ⟨rest, rfl, hrest⟩ | ⟨hminus, hminus'⟩
  · rw [hrest]
    rfl
  rcases begins_unifyBreaks (c := '+') (by decide) (by decide) cs with
    ⟨rest, rfl, hrest⟩ | ⟨hplus, hplus'⟩
  · rw [hrest]
    rfl
  unfold exponentSign
  split
  · exact absurd ‹_› (hminus' _)
  · exact absurd ‹_› (hplus' _)
  · rfl

theorem exponent?_unifyBreaks (cs : List Char) :
    exponent? (unifyBreaks cs) =
      (exponent? cs).map fun (e, rest) => (e, unifyBreaks rest) := by
  cases cs with
  | nil => rfl
  | cons c cs =>
    by_cases hreturn : c = '\r'
    · obtain ⟨rest, hrest, -⟩ := unifyBreaks_return cs
      rw [hreturn, hrest]
      rfl
    · rw [unifyBreaks_cons hreturn, exponent?_cons, exponent?_cons, exponentSign_unifyBreaks]
      simp only [exponentDigits?, takeWhile_isDigit_unifyBreaks, dropWhile_isDigit_unifyBreaks]
      split
      · split <;> rfl
      · rfl

/-- The sign of a number, and what stands behind it. -/
def numberSign (cs : List Char) : Bool × List Char :=
  match cs with
  | '-' :: tail => (true, tail)
  | _ => (false, cs)

/-- The number of a sign, the digits of the integer part and the text behind them. -/
def numberOf (negative : Bool) (whole rest : List Char) : Reading Json :=
  match fraction? rest, exponent? rest with
  | none, none =>
    if maxDigits < whole.length then .error (.excess .digits)
    else
      let n : Int := natOfDigits whole
      .ok (.int (if negative then -n else n), rest)
  | none, some (e, rest) =>
    .ok (.float (Binary64.ofDecimal negative (natOfDigits whole) e), rest)
  | some (decimals, rest), _ =>
    let digits := natOfDigits (whole ++ decimals)
    match exponent? rest with
    | none => .ok (.float (Binary64.ofDecimal negative digits (-decimals.length)), rest)
    | some (e, rest) =>
      .ok (.float (Binary64.ofDecimal negative digits (e - decimals.length)), rest)

theorem number_eq (cs : List Char) : number cs =
    if (wholeDigits (numberSign cs).2).1.isEmpty then .error (.fault .value cs.length)
    else numberOf (numberSign cs).1 (wholeDigits (numberSign cs).2).1
      (wholeDigits (numberSign cs).2).2 :=
  rfl

theorem numberSign_unifyBreaks (cs : List Char) :
    numberSign (unifyBreaks cs) = ((numberSign cs).1, unifyBreaks (numberSign cs).2) := by
  rcases begins_unifyBreaks (c := '-') (by decide) (by decide) cs with
    ⟨rest, rfl, hrest⟩ | ⟨hminus, hminus'⟩
  · rw [hrest]
    rfl
  · unfold numberSign
    split
    · exact absurd ‹_› (hminus' _)
    · rfl

theorem alike_numberOf (negative : Bool) (whole rest : List Char) :
    Alike (numberOf negative whole rest) (numberOf negative whole (unifyBreaks rest)) := by
  unfold numberOf
  rw [fraction?_unifyBreaks, exponent?_unifyBreaks]
  cases fraction? rest with
  | none =>
    cases exponent? rest with
    | none =>
      simp only [Option.map_none]
      split
      · exact .excess _
      · exact .ok ..
    | some e => exact .ok ..
  | some decimals =>
    obtain ⟨digits, tail⟩ := decimals
    simp only [Option.map_some, exponent?_unifyBreaks]
    cases exponent? tail with
    | none => exact .ok ..
    | some e => exact .ok ..

theorem alike_number (cs : List Char) : Alike (number cs) (number (unifyBreaks cs)) := by
  rw [number_eq, number_eq, numberSign_unifyBreaks, wholeDigits_unifyBreaks]
  split
  · exact .fault ..
  · exact alike_numberOf ..

/-- The words stand on one line each. -/
theorem words_unbroken : ∀ w ∈ words, '\r' ∉ w.1 ∧ '\n' ∉ w.1 := by
  decide

theorem alike_scalar (cs : List Char) : Alike (scalar cs) (scalar (unifyBreaks cs)) := by
  have hfind : words.find? (·.1.isPrefixOf (unifyBreaks cs)) = words.find? (·.1.isPrefixOf cs) := by
    apply List.find?_congr
    intro w hw
    obtain ⟨hreturn, hfeed⟩ := words_unbroken w hw
    exact isPrefixOf_unifyBreaks hreturn hfeed cs
  unfold scalar
  rw [hfind]
  cases hword : words.find? (·.1.isPrefixOf cs) with
  | none => exact alike_number cs
  | some w =>
    obtain ⟨word, v⟩ := w
    obtain ⟨tail, rfl⟩ := exists_append_of_find?_words hword
    obtain ⟨hreturn, -⟩ := words_unbroken _ (List.mem_of_find?_eq_some hword)
    simp only [unifyBreaks_append hreturn, List.drop_left]
    exact .ok ..

/-! ## Values -/

theorem skipSpace_unifyBreaks (cs : List Char) :
    skipSpace (unifyBreaks cs) = unifyBreaks (skipSpace cs) :=
  dropWhile_unifyBreaks (by decide) cs

/-- What the three readers return for the two texts if they may make so many calls. -/
structure ReadAlike (fuel : Nat) : Prop where
  value : ∀ depth cs, Alike (value fuel depth cs) (value fuel depth (unifyBreaks cs))
  items : ∀ depth cs, Alike (items fuel depth cs) (items fuel depth (unifyBreaks cs))
  members : ∀ depth cs, Alike (members fuel depth cs) (members fuel depth (unifyBreaks cs))

theorem ReadAlike.value_succ (ih : ReadAlike fuel) (depth : Nat) (cs : List Char) :
    Alike (Json.value (fuel + 1) depth cs) (Json.value (fuel + 1) depth (unifyBreaks cs)) := by
  rcases begins_unifyBreaks (c := '"') (by decide) (by decide) cs with
    ⟨rest, rfl, hrest⟩ | ⟨hquote, hquote'⟩
  · rw [hrest]
    exact (alike_string _ _ rest).map Json.str
  rcases begins_unifyBreaks (c := '[') (by decide) (by decide) cs with
    ⟨rest, rfl, hrest⟩ | ⟨hbracket, hbracket'⟩
  · rw [hrest]
    unfold Json.value
    cases depth with
    | zero => exact .excess _
    | succ depth =>
      simp only [skipSpace_unifyBreaks]
      rcases begins_unifyBreaks (c := ']') (by decide) (by decide) (skipSpace rest) with
        ⟨tail, htail, htail'⟩ | ⟨hclose, hclose'⟩
      · rw [htail', htail]
        exact .ok ..
      · split
        · exact absurd ‹_› (hclose _)
        · exact (ih.items depth _).map Json.arr
  rcases begins_unifyBreaks (c := '\x7b') (by decide) (by decide) cs with
    ⟨rest, rfl, hrest⟩ | ⟨hbrace, hbrace'⟩
  · rw [hrest]
    unfold Json.value
    cases depth with
    | zero => exact .excess _
    | succ depth =>
      simp only [skipSpace_unifyBreaks]
      rcases begins_unifyBreaks (c := '\x7d') (by decide) (by decide) (skipSpace rest) with
        ⟨tail, htail, htail'⟩ | ⟨hclose, hclose'⟩
      · rw [htail', htail]
        exact .ok ..
      · split
        · exact absurd ‹_› (hclose _)
        · exact (ih.members depth _).map fun fields => Json.obj (Fields.ofMembers fields)
  -- What is neither a string nor a list nor an object is a word or a number.
  unfold Json.value
  split
  · exact absurd rfl (hquote _)
  · exact absurd rfl (hbracket _)
  · exact absurd rfl (hbracket _)
  · exact absurd rfl (hbrace _)
  · exact absurd rfl (hbrace _)
  · split
    · exact absurd ‹_› (hquote' _)
    · exact absurd ‹_› (hbracket' _)
    · exact absurd ‹_› (hbracket' _)
    · exact absurd ‹_› (hbrace' _)
    · exact absurd ‹_› (hbrace' _)
    · exact alike_scalar cs

theorem ReadAlike.items_succ (ih : ReadAlike fuel) (depth : Nat) (cs : List Char) :
    Alike (Json.items (fuel + 1) depth cs) (Json.items (fuel + 1) depth (unifyBreaks cs)) := by
  have hitem := ih.value depth cs
  unfold Json.items
  generalize Json.value fuel depth cs = r, Json.value fuel depth (unifyBreaks cs) = r' at hitem ⊢
  cases hitem with
  | fault => exact .fault ..
  | excess e => exact .excess e
  | ok item rest =>
    simp only [skipSpace_unifyBreaks]
    rcases begins_unifyBreaks (c := ']') (by decide) (by decide) (skipSpace rest) with
      ⟨tail, htail, htail'⟩ | ⟨hclose, hclose'⟩
    · rw [htail', htail]
      exact .ok ..
    rcases begins_unifyBreaks (c := ',') (by decide) (by decide) (skipSpace rest) with
      ⟨tail, htail, htail'⟩ | ⟨hcomma, hcomma'⟩
    · rw [htail', htail]
      simp only [skipSpace_unifyBreaks]
      exact (ih.items depth _).map (item :: ·)
    split
    · exact absurd ‹_› (hclose _)
    · exact absurd ‹_› (hcomma _)
    · exact .fault ..

theorem ReadAlike.members_succ (ih : ReadAlike fuel) (depth : Nat) (cs : List Char) :
    Alike (Json.members (fuel + 1) depth cs) (Json.members (fuel + 1) depth (unifyBreaks cs)) := by
  rcases begins_unifyBreaks (c := '"') (by decide) (by decide) cs with
    ⟨rest, rfl, hrest⟩ | ⟨hquote, hquote'⟩
  swap
  · unfold Json.members
    split
    · exact absurd rfl (hquote _)
    · exact .fault ..
  rw [hrest, Json.members, Json.members]
  have hkey := alike_string ('"' :: rest).length ('"' :: unifyBreaks rest).length rest
  generalize string ('"' :: rest).length rest = r,
    string ('"' :: unifyBreaks rest).length (unifyBreaks rest) = r' at hkey ⊢
  cases hkey with
  | fault => exact .fault ..
  | excess e => exact .excess e
  | ok key rest =>
    simp only [skipSpace_unifyBreaks]
    rcases begins_unifyBreaks (c := ':') (by decide) (by decide) (skipSpace rest) with
      ⟨rest, hcolon, hcolon'⟩ | ⟨hcolon, hcolon'⟩
    swap
    · split
      · exact absurd ‹_› (hcolon _)
      · exact .fault ..
    rw [hcolon', hcolon]
    simp only [skipSpace_unifyBreaks]
    have hitem := ih.value depth (skipSpace rest)
    generalize Json.value fuel depth (skipSpace rest) = r,
      Json.value fuel depth (unifyBreaks (skipSpace rest)) = r' at hitem ⊢
    cases hitem with
    | fault => exact .fault ..
    | excess e => exact .excess e
    | ok item rest =>
      simp only [skipSpace_unifyBreaks]
      rcases begins_unifyBreaks (c := '\x7d') (by decide) (by decide) (skipSpace rest) with
        ⟨tail, htail, htail'⟩ | ⟨hclose, hclose'⟩
      · rw [htail', htail]
        exact .ok ..
      rcases begins_unifyBreaks (c := ',') (by decide) (by decide) (skipSpace rest) with
        ⟨tail, htail, htail'⟩ | ⟨hcomma, hcomma'⟩
      · rw [htail', htail]
        simp only [skipSpace_unifyBreaks]
        exact (ih.members depth _).map ((key, item) :: ·)
      split
      · exact absurd ‹_› (hclose _)
      · exact absurd ‹_› (hcomma _)
      · exact .fault ..

theorem readAlike (fuel : Nat) : ReadAlike fuel := by
  induction fuel with
  | zero => constructor <;> exact fun _ _ => .fault ..
  | succ fuel ih =>
    constructor
    · intro depth cs
      exact ih.value_succ depth cs
    · intro depth cs
      exact ih.items_succ depth cs
    · intro depth cs
      exact ih.members_succ depth cs

/-! ## Texts -/

theorem length_unifyBreaks_le (cs : List Char) : (unifyBreaks cs).length ≤ cs.length := by
  fun_induction unifyBreaks cs <;> simp only [List.length_cons, List.length_nil] at * <;> omega

theorem head?_unifyBreaks_eq_some_iff {c : Char} (hreturn : c ≠ '\r') (hfeed : c ≠ '\n') :
    (unifyBreaks cs).head? = some c ↔ cs.head? = some c := by
  rw [List.head?_eq_some_iff, List.head?_eq_some_iff]
  constructor
  · rintro ⟨rest, hrest⟩
    obtain ⟨-, tail, rfl, -⟩ := (unifyBreaks_eq_cons_iff hfeed).mp hrest
    exact ⟨tail, rfl⟩
  · rintro ⟨tail, rfl⟩
    exact ⟨_, unifyBreaks_cons hreturn tail⟩

/-- The value of a text with its line breaks unified is read with as many calls as that of the text
itself. -/
theorem value_of_unifyBreaks (cs : List Char) :
    value (2 * (unifyBreaks cs).length + 2) depth (skipSpace (unifyBreaks cs)) =
      value (2 * cs.length + 2) depth (skipSpace (unifyBreaks cs)) := by
  have hlength := length_unifyBreaks_le cs
  have hspace := length_skipSpace_le (unifyBreaks cs)
  exact (value_eq_of_lt (by omega) (by omega)).symm

/-- Two outcomes that differ at most in their faults. -/
inductive SameOutcome : Except Obstacle Json → Except Obstacle Json → Prop
  | ok (v : Json) : SameOutcome (.ok v) (.ok v)
  | fault (f f' : Fault) : SameOutcome (.error (.fault f)) (.error (.fault f'))
  | excess (e : Excess) : SameOutcome (.error (.excess e)) (.error (.excess e))

/-- A text with its line breaks unified is the same JSON as before, or none, or as much beyond a
limit. -/
theorem parse_unifyBreaks (text : String) :
    SameOutcome (parse text) (parse (String.ofList (unifyBreaks text.toList))) := by
  unfold parse document
  rw [String.toList_ofList]
  generalize text.toList = cs
  by_cases hmark : cs.head? = some '\uFEFF'
  · have hmark' := (head?_unifyBreaks_eq_some_iff (by decide) (by decide)).mpr hmark
    rw [if_pos hmark, if_pos hmark']
    exact .fault ..
  have hmark' : (unifyBreaks cs).head? ≠ some '\uFEFF' := fun h =>
    hmark ((head?_unifyBreaks_eq_some_iff (by decide) (by decide)).mp h)
  rw [if_neg hmark, if_neg hmark', value_of_unifyBreaks, skipSpace_unifyBreaks]
  have hvalue := (readAlike (2 * cs.length + 2)).value maxDepth (skipSpace cs)
  generalize value (2 * cs.length + 2) maxDepth (skipSpace cs) = r,
    value (2 * cs.length + 2) maxDepth (unifyBreaks (skipSpace cs)) = r' at hvalue ⊢
  cases hvalue with
  | fault => exact .fault ..
  | excess e => exact .excess e
  | ok v rest =>
    simp only [skipSpace_unifyBreaks]
    by_cases hrest : skipSpace rest = []
    · rw [hrest]
      exact .ok v
    · have hrest' : unifyBreaks (skipSpace rest) ≠ [] := fun h =>
        hrest (unifyBreaks_eq_nil_iff.mp h)
      obtain ⟨c, tail, htail⟩ := List.exists_cons_of_ne_nil hrest
      obtain ⟨c', tail', htail'⟩ := List.exists_cons_of_ne_nil hrest'
      rw [htail', htail]
      exact .fault ..

end Phrasebook.Json
