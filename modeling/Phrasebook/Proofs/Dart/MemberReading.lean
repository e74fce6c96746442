-- SUMMARY: Reading accessors, and the cases of the function that finds a phrase, from their lines.
import Mathlib.Data.List.DropRight
import Mathlib.Data.Option.Basic
import Phrasebook.Proofs.Dart.Documentation

/-!
# Reading members

An accessor is read from the three lines behind its documentation, and the
function that finds a phrase by its key from all of its lines. The readers take
any name made of the characters of identifiers and any literal, and they keep
literals as they are written.
-/

namespace Phrasebook.Dart

open Text

/-! ## Names, literals and lists -/

/-- A name that is made of characters of identifiers, in any order. -/
def IsWord (name : String) : Prop :=
  name ≠ "" ∧ ∀ c ∈ name.toList, isIdentifierChar c

/-- Read a name, and what comes after it. -/
def readName (cs : List Char) : Option (String × List Char) :=
  match cs.takeWhile isIdentifierChar with
  | [] => none
  | name => some (String.ofList name, cs.dropWhile isIdentifierChar)

/-- Read a literal as it is written, and what comes after it. -/
def readWritten (cs : List Char) : Option (String × List Char) :=
  match readLiteral cs with
  | .ok (_, rest) => some (String.ofList (cs.take (cs.length - rest.length)), rest)
  | .error _ => none

/-- Read the name of a parameter after its type. -/
def readParameter (cs : List Char) : Option (String × List Char) := do
  readName (← cs.dropPrefix? "String ".toList)

/-- Read the literal of a member of the map, which must not be null. -/
def readMember (cs : List Char) : Option (String × List Char) := do
  let (written, rest) ← readWritten (← cs.dropPrefix? "placeholders[".toList)
  return (written, ← rest.dropPrefix? "]!".toList)

/-- Read items with commas between them, up to a closing parenthesis. -/
def readItems (item : List Char → Option (String × List Char)) (cs : List Char) :
    Option (List String × List Char) :=
  match item cs with
  | some (a, ')' :: rest) => some ([a], rest)
  | some (a, ',' :: ' ' :: rest) =>
    if rest.length < cs.length then
      (readItems item rest).map fun (items, more) => (a :: items, more)
    else none
  | _ => none
  termination_by cs.length

/-- A name alone, or a name with items in parentheses. -/
structure Applied where
  name : String
  items : Option (List String)
  deriving DecidableEq, Repr

def readApplied (item : List Char → Option (String × List Char)) (cs : List Char) :
    Option (Applied × List Char) :=
  match readName cs with
  | some (name, '(' :: rest) =>
    (readItems item rest).map fun (items, more) => (⟨name, some items⟩, more)
  | some (name, rest) => some (⟨name, none⟩, rest)
  | none => none

/-! ## Accessors -/

/-- An accessor as its code says it. -/
structure Declaration where
  /-- The name of a getter, or that of a method with its parameters. -/
  header : Applied
  /-- What is asked of the lookup that comes first. -/
  custom : Applied
  /-- What is asked of the lookup that has every phrase. -/
  lookup : Applied
  deriving DecidableEq, Repr

/-- Read the name of a getter, or the name and the parameters of a method. -/
def readHeader (cs : List Char) : Option (Applied × List Char) :=
  match cs.dropPrefix? "get ".toList with
  | some rest => (readName rest).map fun (name, more) => (⟨name, none⟩, more)
  | none => (readApplied readParameter cs).filter (·.1.items.isSome)

/-- Read an accessor from its lines. -/
def readDeclaration : List (List Char) → Option Declaration
  | [signature, body, close] => do
    let (header, rest) ← readHeader (← signature.dropPrefix? "  String ".toList)
    guard (rest = " \x7b".toList)
    let (custom, rest) ← readApplied readName
      (← body.dropPrefix? "    return customLookup?.".toList)
    let (lookup, rest) ← readApplied readName (← rest.dropPrefix? " ?? _lookup.".toList)
    guard (rest = ";".toList)
    guard (close = "  \x7d".toList)
    return { header, custom, lookup }
  | _ => none

/-- Read an accessor from the last three lines of its code. -/
def readAccessor (code : String) : Option Declaration :=
  readDeclaration ((split '\n' code.toList).rtake 3)

/-! ## Cases -/

/-- A case as its code says it. -/
structure SwitchCase where
  /-- The literal of the key, as it is written. -/
  label : String
  /-- The accessor, and the literals of the members of the map that it is applied to. -/
  access : Applied
  deriving DecidableEq, Repr

/-- Read a case from its two lines. -/
def readCase (label statement : List Char) : Option SwitchCase := do
  let (written, rest) ← readWritten (← label.dropPrefix? "      case ".toList)
  guard (rest = ":".toList)
  let (access, rest) ← readApplied readMember (← statement.dropPrefix? "        return ".toList)
  guard (rest = ";".toList)
  return { label := written, access }

def readCases (lines : List (List Char)) : Option (List SwitchCase) :=
  if lines = switchTail.map String.toList then some []
  else
    match lines with
    | label :: statement :: rest => do
      let c ← readCase label statement
      return c :: (← readCases rest)
    | _ => none

/-- Read the cases of the function from its code, whose lines of documentation come first. -/
def readSwitch (code : String) : Option (List SwitchCase) := do
  let lines := (split '\n' code.toList).dropWhile isDocumentation
  readCases (← lines.dropPrefix? (switchHead.map String.toList))

/-! ## Reading what is written -/

/-- A text that goes on with no character of a name. -/
def EndsName (rest : List Char) : Prop :=
  ∀ c ∈ rest.head?, isIdentifierChar c = false

/-- A reader finds `a` where `written` stands, whatever comes after it but characters of a name. -/
def Reads (read : List Char → Option (String × List Char)) (a written : String) : Prop :=
  ∀ rest, EndsName rest → read (written.toList ++ rest) = some (a, rest)

variable {name : String} {rest : List Char} {item : List Char → Option (String × List Char)}

theorem endsName_cons {c : Char} (hc : isIdentifierChar c = false) (rest : List Char) :
    EndsName (c :: rest) := by
  intro d hd
  obtain rfl : c = d := by simpa using hd
  exact hc

theorem dropPrefix?_append_self {α : Type} [BEq α] [LawfulBEq α] (p rest : List α) :
    (p ++ rest).dropPrefix? p = some rest :=
  List.dropPrefix?_eq_some_iff.mpr ⟨p, rfl, BEq.rfl⟩

theorem takeWhile_word (h : IsWord name) (hrest : EndsName rest) :
    (name.toList ++ rest).takeWhile isIdentifierChar = name.toList ∧
      (name.toList ++ rest).dropWhile isIdentifierChar = rest := by
  rw [List.takeWhile_append_of_pos h.2, List.dropWhile_append_of_pos h.2]
  cases rest with
  | nil => simp
  | cons c rest => simp [hrest c rfl]

theorem reads_name (h : IsWord name) : Reads readName name name := by
  intro rest hrest
  obtain ⟨htake, hdrop⟩ := takeWhile_word h hrest
  have hne : name.toList ≠ [] := by simpa using h.1
  rw [readName, htake, hdrop]
  cases hname : name.toList with
  | nil => exact absurd hname hne
  | cons c cs => simp [← hname]

theorem reads_parameter (h : IsWord name) : Reads readParameter name ("String " ++ name) := by
  intro rest hrest
  have hlist : ("String " ++ name).toList ++ rest = "String ".toList ++ (name.toList ++ rest) := by
    simp
  rw [readParameter, hlist, dropPrefix?_append_self]
  exact reads_name h rest hrest

theorem readWritten_literal (s : String) (rest : List Char) :
    readWritten ((literal s).toList ++ rest) = some (literal s, rest) := by
  rw [readWritten, toList_literal, readLiteral_literalChars]
  simp [literal]

theorem reads_member (name : String) :
    Reads readMember (literal name) ("placeholders[" ++ literal name ++ "]!") := by
  intro rest _
  have hlist : ("placeholders[" ++ literal name ++ "]!").toList ++ rest =
      "placeholders[".toList ++ ((literal name).toList ++ ("]!".toList ++ rest)) := by
    simp
  rw [readMember, hlist, dropPrefix?_append_self]
  simp only [bind, Option.bind, readWritten_literal, dropPrefix?_append_self]
  rfl

/-- Items that are read one by one are read from a list of them. -/
theorem readItems_join {names : List String} {value written : String → String} (hne : names ≠ [])
    (h : ∀ x ∈ names, Reads item (value x) (written x)) (rest : List Char) :
    readItems item ((joinStrings ", " (names.map written)).toList ++ ')' :: rest) =
      some (names.map value, rest) := by
  induction names with
  | nil => exact absurd rfl hne
  | cons name names ih =>
    rw [List.forall_mem_cons] at h
    cases names with
    | nil =>
      have hitem := h.1 (')' :: rest) (endsName_cons rfl _)
      rw [List.map_cons, List.map_nil, joinStrings, readItems, hitem]
      rfl
    | cons next names =>
      have hlist : ∀ s t : String, (s ++ ", " ++ t).toList ++ ')' :: rest =
          s.toList ++ (',' :: ' ' :: (t.toList ++ ')' :: rest)) := by
        intro s t
        simp
      have hmore := ih (List.cons_ne_nil next names) h.2
      rw [List.map_cons] at hmore
      rw [List.map_cons, List.map_cons, joinStrings, hlist, readItems,
        h.1 _ (endsName_cons rfl _)]
      simp only
      rw [if_pos, hmore]
      · rfl
      · simp
        omega

/-- The items of a call of some shape: none for a plain name. -/
def itemsOf (s : Shape) (value : String → String) : Option (List String) :=
  if s.isParameterized then some (s.parameters.map value) else none

theorem readApplied_call {s : Shape} (value written : String → String) (hname : IsWord name)
    (h : ∀ x ∈ s.parameters, Reads item (value x) (written x)) (hrest : EndsName rest)
    (hparen : rest.head? ≠ some '(') :
    readApplied item ((s.call name (s.parameters.map written)).toList ++ rest) =
      some (⟨name, itemsOf s value⟩, rest) := by
  rw [Shape.call, itemsOf]
  split
  · rename_i hparams
    have hne : s.parameters ≠ [] := by simpa [Shape.isParameterized] using hparams
    have hlist : ∀ t : String, (name ++ "(" ++ t ++ ")").toList ++ rest =
        name.toList ++ ('(' :: (t.toList ++ ')' :: rest)) := by
      intro t
      simp
    rw [hlist, readApplied, reads_name hname _ (endsName_cons rfl _)]
    simp only
    rw [readItems_join hne h]
    rfl
  · rw [readApplied, reads_name hname rest hrest]
    split
    · rename_i heq
      cases heq
      exact absurd rfl hparen
    · rename_i heq
      cases heq
      rfl
    · rename_i heq
      cases heq

/-! ## Reading accessors -/

/-- A shape with a name whose parameters are names too. -/
structure WordsOnly (name : String) (s : Shape) : Prop where
  name : IsWord name
  parameters : ∀ x ∈ s.parameters, IsWord x

/-- What the code of an accessor says. -/
def Accessor.declaration (a : Accessor) : Declaration where
  header := ⟨a.name, itemsOf a.shape id⟩
  custom := ⟨a.name, itemsOf a.shape id⟩
  lookup := ⟨a.name, itemsOf a.shape id⟩

/-- A name before a parenthesis is not the word before the name of a getter. -/
theorem dropPrefix?_get_eq_none (h : IsWord name) (rest : List Char) :
    (name.toList ++ '(' :: rest).dropPrefix? "get ".toList = none := by
  cases hdrop : (name.toList ++ '(' :: rest).dropPrefix? "get ".toList with
  | none => rfl
  | some more =>
    obtain ⟨p, heq, hp⟩ := List.dropPrefix?_eq_some_iff.mp hdrop
    obtain rfl : p = "get ".toList := by simpa using hp
    have hname := (takeWhile_word h (endsName_cons (c := '(') rfl rest)).2
    rw [heq] at hname
    have hget : ("get ".toList ++ more).dropWhile isIdentifierChar = ' ' :: more := rfl
    rw [hget] at hname
    simp at hname

/-- The signature of a method is a call with the types of its parameters. -/
theorem Accessor.signature_of_isParameterized {a : Accessor} (h : a.shape.isParameterized) :
    a.signature = a.shape.call a.name (a.shape.parameters.map ("String " ++ ·)) := by
  rw [Accessor.signature, Shape.call, if_pos h, if_pos h]
  rfl

theorem readHeader_signature {a : Accessor} (h : WordsOnly a.name a.shape) (rest : List Char) :
    readHeader (a.signature.toList ++ ' ' :: rest) = some (a.declaration.header, ' ' :: rest) := by
  have hrest : EndsName (' ' :: rest) := endsName_cons rfl rest
  by_cases hparams : a.shape.isParameterized
  · have hopen : ∃ more, (a.shape.call a.name (a.shape.parameters.map ("String " ++ ·))).toList ++
        ' ' :: rest = a.name.toList ++ '(' :: more := by
      simp [Shape.call, hparams]
    obtain ⟨more, hmore⟩ := hopen
    have hread := readApplied_call id ("String " ++ ·) h.name
      (fun x hx => reads_parameter (h.parameters x hx)) hrest (by simp)
    rw [readHeader, a.signature_of_isParameterized hparams, hmore, dropPrefix?_get_eq_none h.name,
      ← hmore, hread]
    simp [Accessor.declaration, itemsOf, hparams]
  · have hlist : a.signature.toList ++ ' ' :: rest =
        "get ".toList ++ (a.name.toList ++ ' ' :: rest) := by
      simp [Accessor.signature, hparams]
    rw [readHeader, hlist, dropPrefix?_append_self]
    simp only
    rw [reads_name h.name _ hrest]
    simp [Accessor.declaration, itemsOf, hparams]

/-- The lines of an accessor behind its documentation. -/
theorem readDeclaration_lines {a : Accessor} (h : WordsOnly a.name a.shape) :
    readDeclaration (a.bare.lines.map String.toList) = some a.declaration := by
  have hcall : ∀ rest, EndsName rest → rest.head? ≠ some '(' →
      readApplied readName (a.call.toList ++ rest) =
        some (⟨a.name, itemsOf a.shape id⟩, rest) := by
    intro rest hrest hparen
    have hmap : a.shape.parameters.map id = a.shape.parameters := List.map_id _
    rw [Accessor.call, ← hmap]
    exact readApplied_call id id h.name (fun x hx => reads_name (h.parameters x hx)) hrest hparen
  have hsignature : ("  String " ++ a.signature ++ " \x7b").toList =
      "  String ".toList ++ (a.signature.toList ++ ' ' :: ['\x7b']) := by
    simp
  have hbody : ("    return customLookup?." ++ a.call ++ " ?? _lookup." ++ a.call ++ ";").toList =
      "    return customLookup?.".toList ++ (a.call.toList ++ (" ?? _lookup.".toList ++
        (a.call.toList ++ ";".toList))) := by
    simp
  have hlines : a.bare.lines.map String.toList =
      ["  String ".toList ++ (a.signature.toList ++ ' ' :: ['\x7b']),
       "    return customLookup?.".toList ++ (a.call.toList ++ (" ?? _lookup.".toList ++
        (a.call.toList ++ ";".toList))), "  \x7d".toList] := by
    rw [← hsignature, ← hbody]
    rfl
  have hcustom := hcall (" ?? _lookup.".toList ++ (a.call.toList ++ ";".toList))
    (endsName_cons rfl _) (by simp)
  have hlookup := hcall ";".toList (endsName_cons rfl _) (by simp)
  rw [hlines, readDeclaration, dropPrefix?_append_self, dropPrefix?_append_self]
  simp only [bind, Option.bind, readHeader_signature h, hcustom, dropPrefix?_append_self, hlookup]
  rfl

/-! ## Reading cases -/

/-- What the code of a case says. -/
def Case.switchCase (c : Case) : SwitchCase where
  label := literal c.key
  access := ⟨c.name, itemsOf c.shape literal⟩

theorem readCase_lines {c : Case} (h : IsWord c.name) :
    readCase ("      case " ++ literal c.key ++ ":").toList
      ("        return " ++ c.call ++ ";").toList = some c.switchCase := by
  have hlabel : ("      case " ++ literal c.key ++ ":").toList =
      "      case ".toList ++ ((literal c.key).toList ++ ":".toList) := by
    simp
  have hstatement : ("        return " ++ c.call ++ ";").toList =
      "        return ".toList ++ (c.call.toList ++ ";".toList) := by
    simp
  have hcall : readApplied readMember (c.call.toList ++ ";".toList) =
      some (⟨c.name, itemsOf c.shape literal⟩, ";".toList) :=
    readApplied_call literal (fun name => "placeholders[" ++ literal name ++ "]!") h
      (fun x _ => reads_member x) (endsName_cons rfl _) (by simp)
  rw [hlabel, hstatement, readCase, dropPrefix?_append_self, dropPrefix?_append_self]
  simp only [bind, Option.bind, readWritten_literal, hcall]
  rfl

theorem readCases_lines {cases : List Case} (h : ∀ c ∈ cases, IsWord c.name) :
    readCases ((cases.flatMap Case.lines ++ switchTail).map String.toList) =
      some (cases.map Case.switchCase) := by
  induction cases with
  | nil =>
    unfold readCases
    exact if_pos rfl
  | cons c cases ih =>
    rw [List.forall_mem_cons] at h
    have hlines : ((c :: cases).flatMap Case.lines ++ switchTail).map String.toList =
        ("      case " ++ literal c.key ++ ":").toList ::
          ("        return " ++ c.call ++ ";").toList ::
          (cases.flatMap Case.lines ++ switchTail).map String.toList := by
      simp [Case.lines]
    rw [hlines, readCases, if_neg (by simp [switchTail])]
    simp only [bind, Option.bind, readCase_lines h.1, ih h.2]
    rfl

/-! ## Reading code -/

theorem breakFree_call {isBreak : Char → Bool} (hbreaks : BreaksLines isBreak) {s : Shape}
    {arguments : List String} (hname : BreakFree isBreak name)
    (harguments : ∀ x ∈ arguments, BreakFree isBreak x) :
    BreakFree isBreak (s.call name arguments) := by
  have hopen : BreakFree isBreak "(" := hbreaks.breakFree rfl
  have hcomma : BreakFree isBreak ", " := hbreaks.breakFree rfl
  have hclose : BreakFree isBreak ")" := hbreaks.breakFree rfl
  rw [Shape.call]
  split
  · exact ((hname.append hopen).append (.joinStrings hcomma harguments)).append hclose
  · exact hname

theorem breakFree_word {isBreak : Char → Bool} (hbreaks : BreaksLines isBreak) (h : IsWord name) :
    BreakFree isBreak name := by
  refine hbreaks.breakFree (List.all_eq_true.mpr fun c hc => ?_)
  have hchar := h.2 c hc
  rw [Bool.and_eq_true, bne_iff_ne, bne_iff_ne]
  constructor
  · rintro rfl
    cases hchar
  · rintro rfl
    cases hchar

theorem Accessor.breakFree_bare_lines {isBreak : Char → Bool} (hbreaks : BreaksLines isBreak)
    {a : Accessor} (h : WordsOnly a.name a.shape) :
    ∀ line ∈ a.bare.lines, BreakFree isBreak line := by
  have hname := breakFree_word hbreaks h.name
  have hparameters : ∀ x ∈ a.shape.parameters, BreakFree isBreak x :=
    fun x hx => breakFree_word hbreaks (h.parameters x hx)
  have hcall : BreakFree isBreak a.call := breakFree_call hbreaks hname hparameters
  have hsignature : BreakFree isBreak a.signature := by
    have htyped : ∀ x ∈ a.shape.parameters.map ("String " ++ ·), BreakFree isBreak x := by
      intro x hx
      obtain ⟨y, hy, rfl⟩ := List.mem_map.mp hx
      exact (hbreaks.breakFree rfl).append (hparameters y hy)
    by_cases hparams : a.shape.isParameterized
    · rw [a.signature_of_isParameterized hparams]
      exact breakFree_call hbreaks hname htyped
    · rw [Accessor.signature, if_neg hparams]
      exact (hbreaks.breakFree rfl).append hname
  intro line hline
  have hlines : a.bare.lines = ["  String " ++ a.signature ++ " \x7b",
      "    return customLookup?." ++ a.call ++ " ?? _lookup." ++ a.call ++ ";", "  \x7d"] := rfl
  simp only [hlines, List.mem_cons, List.not_mem_nil, or_false] at hline
  rcases hline with rfl | rfl | rfl
  · exact hsignature.between hbreaks rfl rfl
  · have hfirst : BreakFree isBreak ("    return customLookup?." ++ a.call ++ " ?? _lookup.") :=
      hcall.between hbreaks rfl rfl
    exact (hfirst.append hcall).append (hbreaks.breakFree rfl)
  · exact hbreaks.breakFree rfl

/-- The pieces of an accessor's code before its own lines. -/
def Accessor.documentationPieces (a : Accessor) : List (List Char) :=
  match a.documentation with
  | some table => split '\n' (ofLines table.lines).toList
  | none => []

/-- The last lines of an accessor's code are its own, whatever its documentation holds. -/
theorem Accessor.split_code {a : Accessor} (h : WordsOnly a.name a.shape) :
    split '\n' (ofLines a.lines).toList =
      a.documentationPieces ++ a.bare.lines.map String.toList := by
  have hne : a.bare.lines ≠ [] := List.cons_ne_nil _ _
  have hfree := a.breakFree_bare_lines breaksLines_line_feed h
  have hbare := split_ofLines hne fun line hline => (hfree line hline).not_mem
  cases hdoc : a.documentation with
  | none =>
    have hself : a.bare = a := by rw [Accessor.bare, ← hdoc]
    rw [hself] at hbare ⊢
    simp only [documentationPieces, hdoc]
    exact hbare
  | some table =>
    have hlines : a.lines = table.lines ++ a.bare.lines := by
      simp only [Accessor.lines, hdoc]
      rfl
    have htable : table.lines ≠ [] := by simp [DocTable.lines]
    rw [hlines, toList_ofLines_append htable hne, split_append_separator, hbare]
    simp only [documentationPieces, hdoc]

theorem Accessor.rtake_split_code {a : Accessor} (h : WordsOnly a.name a.shape) :
    (split '\n' (ofLines a.lines).toList).rtake 3 = a.bare.lines.map String.toList ∧
      (split '\n' (ofLines a.lines).toList).rdrop 3 = a.documentationPieces := by
  have hlength : (a.bare.lines.map String.toList).length = 3 := rfl
  rw [a.split_code h, List.rtake, List.rdrop, List.length_append, hlength, Nat.add_sub_cancel,
    List.drop_left, List.take_left]
  exact ⟨rfl, rfl⟩

/-- An accessor is read from its code. -/
theorem readAccessor_code {a : Accessor} (h : WordsOnly a.name a.shape) :
    readAccessor (ofLines a.lines) = some a.declaration := by
  rw [readAccessor, (a.rtake_split_code h).1]
  exact readDeclaration_lines h

/-- If all lines of its table are comments, an accessor's code holds nothing but comments before its
own lines. -/
theorem Accessor.isDocumentation_of_mem_pieces {a : Accessor}
    (h : ∀ table ∈ a.documentation, ∀ line ∈ table.lines, IsComment (· == '\n') line) :
    ∀ piece ∈ a.documentationPieces, isDocumentation piece := by
  intro piece hpiece
  unfold documentationPieces at hpiece
  split at hpiece
  · rename_i table hdoc
    have htable : table.lines ≠ [] := by simp [DocTable.lines]
    have hcomments := h table (by simp [hdoc])
    rw [split_ofLines htable fun line hline => (hcomments line hline).breakFree.not_mem] at hpiece
    obtain ⟨line, hline, rfl⟩ := List.mem_map.mp hpiece
    exact isDocumentation_of_slashes (hcomments line hline).slashes
  · cases hpiece

theorem Case.breakFree_lines {isBreak : Char → Bool} (hbreaks : BreaksLines isBreak) {c : Case}
    (h : IsWord c.name) : ∀ line ∈ c.lines, BreakFree isBreak line := by
  have hcall : BreakFree isBreak c.call := by
    refine breakFree_call hbreaks (breakFree_word hbreaks h) fun x hx => ?_
    obtain ⟨y, -, rfl⟩ := List.mem_map.mp hx
    exact (hbreaks.breakFree_literal y).between hbreaks rfl rfl
  intro line hline
  simp only [Case.lines, List.mem_cons, List.not_mem_nil, or_false] at hline
  rcases hline with rfl | rfl
  · exact (hbreaks.breakFree_literal c.key).between hbreaks rfl rfl
  · exact hcall.between hbreaks rfl rfl

/-- The cases are read from the code of the function, documented or not. -/
theorem readSwitch_code {d : Dispatch} (h : ∀ c ∈ d.cases, IsWord c.name) :
    readSwitch (ofLines d.lines) = some (d.cases.map Case.switchCase) := by
  have hfree : ∀ line ∈ d.lines, BreakFree (· == '\n') line := by
    intro line hline
    rw [d.lines_eq, List.mem_append, List.mem_append, List.mem_append, List.mem_flatMap] at hline
    rcases hline with hline | hline | ⟨c, hc, hline⟩ | hline
    · split at hline
      · exact (breaksLines_line_feed.isComment_of_mem_switchComments line hline).breakFree
      · cases hline
    · simp only [switchHead, List.mem_cons, List.not_mem_nil, or_false] at hline
      rcases hline with rfl | rfl <;> exact breaksLines_line_feed.breakFree rfl
    · exact c.breakFree_lines breaksLines_line_feed (h c hc) line hline
    · simp only [switchTail, List.mem_cons, List.not_mem_nil, or_false] at hline
      rcases hline with rfl | rfl | rfl <;> exact breaksLines_line_feed.breakFree rfl
  have hcode : (d.lines.map String.toList).dropWhile isDocumentation =
      switchHead.map String.toList ++
        (d.cases.flatMap Case.lines ++ switchTail).map String.toList := by
    rw [d.lines_eq]
    cases d.documented with
    | false => rfl
    | true => rfl
  have hne : d.lines ≠ [] := by simp [Dispatch.lines]
  have hpieces := split_ofLines hne fun line hline => (hfree line hline).not_mem
  rw [readSwitch, hpieces, hcode, dropPrefix?_append_self]
  exact readCases_lines h

end Phrasebook.Dart
