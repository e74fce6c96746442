-- SUMMARY: Reading leaves less of a text than it began with, so the bound on its calls never shows.
import Mathlib.Data.List.Basic
import Mathlib.Tactic.Common
import Phrasebook.Json.Parser
import Phrasebook.Proofs.Outcome

/-!
# What reading leaves

Every reader that returns a value has read at least one character for it. Two
calls for each character are therefore enough for any text, and with that many
the readers return the same whatever the bound is.
-/

namespace Phrasebook.Json

variable {cs rest : List Char} {v : Json} {start depth fuel fuel' : Nat}

/-! ## Strings -/

/-- The code unit of an escape, without its backslash, and the text behind it. -/
def escaped? (cs : List Char) : Option (Nat × List Char) :=
  match cs with
  | 'u' :: w :: x :: y :: z :: rest =>
    if rest.isEmpty then none else (hexQuad? w x y z).map (·, rest)
  | e :: rest => if e = 'u' then none else (escape? e).map (·, rest)
  | [] => none

theorem escaped?_of_ne {e : Char} (he : e ≠ 'u') (rest : List Char) :
    escaped? (e :: rest) = (escape? e).map (·, rest) := by
  unfold escaped?
  split
  · rename_i heq
    cases heq
    exact absurd rfl he
  · rename_i heq
    cases heq
    exact if_neg he
  · cases ‹_ :: _ = []›

theorem escaped?_u_eq_some_iff {u : Nat} : escaped? ('u' :: cs) = some (u, rest) ↔
    ∃ w x y z, cs = w :: x :: y :: z :: rest ∧ rest ≠ [] ∧ hexQuad? w x y z = some u := by
  unfold escaped?
  split
  · rename_i heq
    cases heq
    split
    · rename_i hempty
      refine iff_of_false nofun ?_
      rintro ⟨w, x, y, z, heq, hne, -⟩
      cases heq
      exact hne (List.isEmpty_iff.mp hempty)
    · rename_i hne
      constructor
      · intro h
        obtain ⟨u', hquad, heq⟩ := Option.map_eq_some_iff.mp h
        cases heq
        exact ⟨_, _, _, _, rfl, fun h => hne (List.isEmpty_iff.mpr h), hquad⟩
      · rintro ⟨w, x, y, z, heq, -, hquad⟩
        cases heq
        simp [hquad]
  · rename_i hshort heq
    cases heq
    refine iff_of_false (by simp) ?_
    rintro ⟨w, x, y, z, rfl, -⟩
    exact hshort _ _ _ _ _ rfl rfl
  · cases ‹_ :: _ = []›

theorem units_quote (start : Nat) (cs : List Char) : units start ('"' :: cs) = .ok ([], cs) := by
  rw [units.eq_def]
  exact if_pos rfl

/-- A backslash is read together with the escape that it begins. -/
theorem units_backslash_of_some {u : Nat} (h : escaped? cs = some (u, rest)) :
    units start ('\\' :: cs) = (units start rest).map fun (us, tail) => (u :: us, tail) := by
  rw [units.eq_def]
  simp only [Char.reduceEq, if_false, if_true]
  split
  · cases h
  · rename_i w x y z tail
    obtain ⟨_, _, _, _, heq, hne, hquad⟩ := escaped?_u_eq_some_iff.mp h
    cases heq
    rw [if_neg (by simpa using hne), hquad]
  · rename_i e tail hshort
    by_cases he : e = 'u'
    · subst he
      obtain ⟨_, _, _, _, rfl, -⟩ := escaped?_u_eq_some_iff.mp h
      exact absurd rfl (hshort _ _ _ _ _ rfl)
    · rw [escaped?_of_ne he] at h
      obtain ⟨u', hu, heq⟩ := Option.map_eq_some_iff.mp h
      cases heq
      rw [if_neg he, hu]

theorem units_backslash_of_none (start : Nat) (h : escaped? cs = none) :
    ∃ reason left, units start ('\\' :: cs) = .error (.fault reason left) := by
  rw [units.eq_def]
  simp only [Char.reduceEq, if_false, if_true]
  split
  · exact ⟨_, _, rfl⟩
  · rename_i w x y z tail
    split
    · exact ⟨_, _, rfl⟩
    · rename_i hne
      simp only [escaped?, hne] at h
      rw [Option.map_eq_none_iff.mp h]
      exact ⟨_, _, rfl⟩
  · rename_i e tail _
    by_cases he : e = 'u'
    · rw [if_pos he]
      exact ⟨_, _, rfl⟩
    · rw [escaped?_of_ne he] at h
      rw [if_neg he, Option.map_eq_none_iff.mp h]
      exact ⟨_, _, rfl⟩

/-- A character that stands for itself in a string. -/
structure IsPlain (c : Char) : Prop where
  not_quote : c ≠ '"'
  not_backslash : c ≠ '\\'
  not_control : 0x20 ≤ c.toNat

theorem units_plain {c : Char} (hc : IsPlain c) (start : Nat) (cs : List Char) :
    units start (c :: cs) = (units start cs).map fun (us, tail) => (c.toNat :: us, tail) := by
  rw [units.eq_def]
  simp only
  rw [if_neg hc.not_quote, if_neg hc.not_backslash, if_neg (Nat.not_lt.mpr hc.not_control)]

theorem units_control {c : Char} (hc : c.toNat < 0x20) (start : Nat) (cs : List Char) :
    units start (c :: cs) = .error (.fault .controlCharacter (cs.length + 1)) := by
  have hquote : c ≠ '"' := by
    rintro rfl
    exact absurd hc (by decide)
  have hbackslash : c ≠ '\\' := by
    rintro rfl
    exact absurd hc (by decide)
  rw [units.eq_def]
  simp only
  rw [if_neg hquote, if_neg hbackslash, if_pos hc]

theorem length_lt_of_escaped? {u : Nat} (h : escaped? cs = some (u, rest)) :
    rest.length < cs.length := by
  cases cs with
  | nil => cases h
  | cons e cs =>
    by_cases he : e = 'u'
    · subst he
      obtain ⟨_, _, _, _, rfl, -⟩ := escaped?_u_eq_some_iff.mp h
      simp only [List.length_cons]
      omega
    · rw [escaped?_of_ne he] at h
      obtain ⟨_, -, heq⟩ := Option.map_eq_some_iff.mp h
      cases heq
      exact Nat.lt_succ_self _

/-- What holds of a string at its end, at what cannot stand in it, and before a character or an
escape if it holds behind that, holds of every string. -/
@[elab_as_elim]
theorem units_induction {motive : List Char → Prop} (nil : motive [])
    (quote : ∀ cs, motive ('"' :: cs))
    (control : ∀ c cs, c.toNat < 0x20 → motive (c :: cs))
    (escape : ∀ cs u rest, escaped? cs = some (u, rest) → motive rest → motive ('\\' :: cs))
    (noEscape : ∀ cs, escaped? cs = none → motive ('\\' :: cs))
    (plain : ∀ c cs, IsPlain c → motive cs → motive (c :: cs)) (cs : List Char) : motive cs :=
  match cs with
  | [] => nil
  | c :: cs =>
    if hquote : c = '"' then hquote ▸ quote cs
    else if hbackslash : c = '\\' then
      match hescaped : escaped? cs with
      | none => hbackslash ▸ noEscape cs hescaped
      | some (u, rest) =>
        have := length_lt_of_escaped? hescaped
        hbackslash ▸ escape cs u rest hescaped
          (units_induction nil quote control escape noEscape plain rest)
    else if hcontrol : c.toNat < 0x20 then control c cs hcontrol
    else
      plain c cs ⟨hquote, hbackslash, Nat.not_lt.mp hcontrol⟩
        (units_induction nil quote control escape noEscape plain cs)
termination_by cs.length

theorem length_lt_of_units {us : List Nat} (h : units start cs = .ok (us, rest)) :
    rest.length < cs.length := by
  induction cs using units_induction generalizing us with
  | nil => cases h
  | quote cs =>
    rw [units_quote] at h
    cases h
    exact Nat.lt_succ_self _
  | control c cs hc =>
    rw [units_control hc] at h
    cases h
  | escape cs u tail hescaped ih =>
    rw [units_backslash_of_some hescaped] at h
    obtain ⟨⟨us', _⟩, hread, heq⟩ := Except.map_eq_ok_iff.mp h
    cases heq
    calc rest.length < tail.length := ih hread
      _ < cs.length := length_lt_of_escaped? hescaped
      _ < _ := Nat.lt_succ_self _
  | noEscape cs hescaped =>
    obtain ⟨reason, left, hfault⟩ := units_backslash_of_none start hescaped
    rw [hfault] at h
    cases h
  | plain c cs hc ih =>
    rw [units_plain hc] at h
    obtain ⟨⟨us', _⟩, hread, heq⟩ := Except.map_eq_ok_iff.mp h
    cases heq
    exact Nat.lt_succ_of_lt (ih hread)

theorem length_lt_of_string {s : String} (h : string start cs = .ok (s, rest)) :
    rest.length < cs.length := by
  obtain ⟨⟨us, _⟩, hread, heq⟩ := Except.map_eq_ok_iff.mp h
  cases heq
  exact length_lt_of_units hread

/-! ## Numbers and words -/

theorem wholeDigits_append (cs : List Char) : (wholeDigits cs).1 ++ (wholeDigits cs).2 = cs := by
  unfold wholeDigits
  split
  · rfl
  · exact List.takeWhile_append_dropWhile

theorem length_le_dropWhile (p : Char → Bool) (cs : List Char) :
    (cs.dropWhile p).length ≤ cs.length :=
  (List.dropWhile_sublist p).length_le

theorem length_le_of_fraction? {digits : List Char} (h : fraction? cs = some (digits, rest)) :
    rest.length ≤ cs.length := by
  unfold fraction? at h
  split at h
  · rename_i tail
    simp only at h
    split at h
    · cases h
    · cases h
      exact Nat.le_succ_of_le (length_le_dropWhile _ tail)
  · cases h

theorem length_le_of_exponent? {e : Int} (h : exponent? cs = some (e, rest)) :
    rest.length ≤ cs.length := by
  unfold exponent? at h
  split at h
  · cases h
  · rename_i c tail
    split at h
    · split at h
      rename_i negative body hsign
      have hbody : body.length ≤ tail.length := by
        split at hsign <;> cases hsign <;> simp
      simp only at h
      split at h
      · cases h
      · cases h
        exact Nat.le_succ_of_le (Nat.le_trans (length_le_dropWhile _ body) hbody)
    · cases h

theorem length_lt_of_number (h : number cs = .ok (v, rest)) : rest.length < cs.length := by
  unfold number at h
  split at h
  rename_i negative body hsign
  have hbody : body.length ≤ cs.length := by
    split at hsign <;> cases hsign <;> simp
  split at h
  rename_i whole tail hwhole
  have hlength : whole.length + tail.length = body.length := by
    rw [← List.length_append, ← wholeDigits_append body, hwhole]
  split at h
  · cases h
  · rename_i hdigits
    have hsome : 0 < whole.length := List.length_pos_of_ne_nil (by simpa using hdigits)
    suffices hle : rest.length ≤ tail.length by omega
    split at h
    · split at h
      · cases h
      · cases h
        exact Nat.le_refl _
    · rename_i hexponent
      cases h
      exact length_le_of_exponent? hexponent
    · rename_i hfraction
      have hle := length_le_of_fraction? hfraction
      split at h
      · cases h
        exact hle
      · rename_i hexponent
        cases h
        exact Nat.le_trans (length_le_of_exponent? hexponent) hle

/-- A word that is found begins the text. -/
theorem exists_append_of_find?_words {w : List Char × Json}
    (h : words.find? (·.1.isPrefixOf cs) = some w) : ∃ tail, cs = w.1 ++ tail := by
  have hprefix : w.1.isPrefixOf cs :=
    List.find?_some (p := fun w : List Char × Json => w.1.isPrefixOf cs) h
  obtain ⟨tail, htail⟩ := List.isPrefixOf_iff_prefix.mp hprefix
  exact ⟨tail, htail.symm⟩

theorem length_lt_of_scalar (h : scalar cs = .ok (v, rest)) : rest.length < cs.length := by
  unfold scalar at h
  split at h
  · rename_i word value hfind
    cases h
    have hnil : ∀ w ∈ words, w.1 ≠ [] := by decide
    have hword := List.length_pos_of_ne_nil (hnil _ (List.mem_of_find?_eq_some hfind))
    obtain ⟨tail, rfl⟩ := exists_append_of_find?_words hfind
    rw [List.drop_left, List.length_append]
    exact Nat.lt_add_of_pos_left hword
  · exact length_lt_of_number h

/-! ## Values -/

theorem length_skipSpace_le (cs : List Char) : (skipSpace cs).length ≤ cs.length :=
  length_le_dropWhile isSpace cs

/-- What the text behind a skipped space starts with was read of the text. -/
theorem length_lt_of_skipSpace {c : Char} (h : skipSpace cs = c :: rest) :
    rest.length < cs.length := by
  have hle := length_skipSpace_le cs
  rw [h] at hle
  exact hle

/-- The three readers leave less of a text than they were given. -/
structure Shortens (fuel : Nat) : Prop where
  value : ∀ depth cs v rest, value fuel depth cs = .ok (v, rest) → rest.length < cs.length
  items : ∀ depth cs vs rest, items fuel depth cs = .ok (vs, rest) → rest.length < cs.length
  members : ∀ depth cs ms rest, members fuel depth cs = .ok (ms, rest) → rest.length < cs.length

theorem Shortens.value_succ (ih : Shortens fuel)
    (h : Json.value (fuel + 1) depth cs = .ok (v, rest)) : rest.length < cs.length := by
  unfold Json.value at h
  split at h
  · obtain ⟨⟨s, tail⟩, hread, heq⟩ := Except.map_eq_ok_iff.mp h
    cases heq
    exact Nat.lt_succ_of_lt (length_lt_of_string hread)
  · cases h
  · rename_i inside depth
    have hinside := length_skipSpace_le inside
    split at h
    · rename_i hclose
      cases h
      exact Nat.lt_succ_of_lt (length_lt_of_skipSpace hclose)
    · obtain ⟨⟨values, tail⟩, hread, heq⟩ := Except.map_eq_ok_iff.mp h
      cases heq
      have hlt := ih.items _ _ _ _ hread
      simp only [List.length_cons]
      omega
  · cases h
  · rename_i inside depth
    have hinside := length_skipSpace_le inside
    split at h
    · rename_i hclose
      cases h
      exact Nat.lt_succ_of_lt (length_lt_of_skipSpace hclose)
    · obtain ⟨⟨fields, tail⟩, hread, heq⟩ := Except.map_eq_ok_iff.mp h
      cases heq
      have hlt := ih.members _ _ _ _ hread
      simp only [List.length_cons]
      omega
  · exact length_lt_of_scalar h

theorem Shortens.items_succ (ih : Shortens fuel) {vs : List Json}
    (h : Json.items (fuel + 1) depth cs = .ok (vs, rest)) : rest.length < cs.length := by
  unfold Json.items at h
  split at h
  · cases h
  · rename_i item tail hread
    have hitem := ih.value _ _ _ _ hread
    split at h
    · rename_i hclose
      cases h
      exact Nat.lt_trans (length_lt_of_skipSpace hclose) hitem
    · rename_i more hcomma
      obtain ⟨⟨values, _⟩, hmore, heq⟩ := Except.map_eq_ok_iff.mp h
      cases heq
      have hlt := ih.items _ _ _ _ hmore
      have hmore := length_skipSpace_le more
      have hcomma := length_lt_of_skipSpace hcomma
      omega
    · cases h

theorem Shortens.members_succ (ih : Shortens fuel) {ms : List (String × Json)}
    (h : Json.members (fuel + 1) depth cs = .ok (ms, rest)) : rest.length < cs.length := by
  unfold Json.members at h
  split at h
  case h_2 => cases h
  rename_i inside
  split at h
  · cases h
  rename_i key tail hkey
  have hkey := length_lt_of_string hkey
  split at h
  case h_2 => cases h
  rename_i behind hcolon
  have hcolon := length_lt_of_skipSpace hcolon
  split at h
  · cases h
  · rename_i item tail' hread
    have hitem := ih.value _ _ _ _ hread
    have hbehind := length_skipSpace_le behind
    rw [List.length_cons]
    split at h
    · rename_i hclose
      cases h
      have hclose := length_lt_of_skipSpace hclose
      omega
    · rename_i more hcomma
      obtain ⟨⟨fields, _⟩, hmore, heq⟩ := Except.map_eq_ok_iff.mp h
      cases heq
      have hlt := ih.members _ _ _ _ hmore
      have hmore := length_skipSpace_le more
      have hcomma := length_lt_of_skipSpace hcomma
      omega
    · cases h

theorem shortens (fuel : Nat) : Shortens fuel := by
  induction fuel with
  | zero =>
    constructor
    · intro depth cs v rest h
      cases h
    · intro depth cs vs rest h
      cases h
    · intro depth cs ms rest h
      cases h
  | succ fuel ih =>
    constructor
    · intro depth cs v rest h
      exact ih.value_succ h
    · intro depth cs vs rest h
      exact ih.items_succ h
    · intro depth cs ms rest h
      exact ih.members_succ h

/-! ## Bounds -/

/-- With enough calls for a text, one more makes no difference to the readers. -/
structure Suffices (fuel : Nat) : Prop where
  value : ∀ depth cs, 2 * cs.length < fuel → value (fuel + 1) depth cs = value fuel depth cs
  items : ∀ depth cs, 2 * cs.length + 1 < fuel → items (fuel + 1) depth cs = items fuel depth cs
  members : ∀ depth cs, 2 * cs.length + 1 < fuel →
    members (fuel + 1) depth cs = members fuel depth cs

theorem Suffices.value_succ (ih : Suffices fuel) (depth : Nat) (h : 2 * cs.length < fuel + 1) :
    Json.value (fuel + 1 + 1) depth cs = Json.value (fuel + 1) depth cs := by
  unfold Json.value
  split
  · rfl
  · rfl
  · rename_i inside depth
    have hinside := length_skipSpace_le inside
    rw [List.length_cons] at h
    split
    · rfl
    · rw [ih.items depth _ (by omega)]
  · rfl
  · rename_i inside depth
    have hinside := length_skipSpace_le inside
    rw [List.length_cons] at h
    split
    · rfl
    · rw [ih.members depth _ (by omega)]
  · rfl

theorem Suffices.items_succ (ih : Suffices fuel) (depth : Nat) (h : 2 * cs.length + 1 < fuel + 1) :
    Json.items (fuel + 1 + 1) depth cs = Json.items (fuel + 1) depth cs := by
  unfold Json.items
  rw [ih.value depth cs (by omega)]
  split
  · rfl
  · rename_i item tail hread
    have hitem := (shortens fuel).value _ _ _ _ hread
    split
    · rfl
    · rename_i more hcomma
      have hmore := length_skipSpace_le more
      have hcomma := length_lt_of_skipSpace hcomma
      rw [ih.items depth _ (by omega)]
    · rfl

theorem Suffices.members_succ (ih : Suffices fuel) (depth : Nat)
    (h : 2 * cs.length + 1 < fuel + 1) :
    Json.members (fuel + 1 + 1) depth cs = Json.members (fuel + 1) depth cs := by
  unfold Json.members
  split
  case h_2 => rfl
  rename_i inside
  rw [List.length_cons] at h
  split
  · rfl
  rename_i key tail hkey
  have hkey := length_lt_of_string hkey
  split
  case h_2 => rfl
  rename_i behind hcolon
  have hcolon := length_lt_of_skipSpace hcolon
  have hbehind := length_skipSpace_le behind
  rw [ih.value depth _ (by omega)]
  split
  · rfl
  · rename_i item tail' hread
    have hitem := (shortens fuel).value _ _ _ _ hread
    split
    · rfl
    · rename_i more hcomma
      have hmore := length_skipSpace_le more
      have hcomma := length_lt_of_skipSpace hcomma
      rw [ih.members depth _ (by omega)]
    · rfl

theorem suffices_all (fuel : Nat) : Suffices fuel := by
  induction fuel with
  | zero => constructor <;> exact fun _ _ h => absurd h (Nat.not_lt_zero _)
  | succ fuel ih =>
    constructor
    · intro depth cs h
      exact ih.value_succ depth h
    · intro depth cs h
      exact ih.items_succ depth h
    · intro depth cs h
      exact ih.members_succ depth h

/-- Two calls for each character are enough, and one more. -/
theorem value_eq_of_lt (h : 2 * cs.length < fuel) (hle : fuel ≤ fuel') :
    value fuel' depth cs = value fuel depth cs := by
  induction hle with
  | refl => rfl
  | step hle ih => rw [(suffices_all _).value depth cs (Nat.lt_of_lt_of_le h hle), ih]

end Phrasebook.Json
