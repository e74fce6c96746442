-- SUMMARY: Reading the function that finds a phrase by its key from the code of a class.
import Mathlib.Data.List.Basic
import Mathlib.Tactic.Common
import Phrasebook.Proofs.Dart.Tokens

/-!
# Reading the dispatch

The function is read from its tokens: the names of its parameters, the literal
and the returned access of every branch, and what it returns where no branch is
taken. `readDispatch_lines` says what is read from the code that a dispatch is
written as, whatever its keys and placeholders are.
-/

namespace Phrasebook.Dart

/-! ## The function -/

/-- The value that a map has for a name, which must not be null. -/
structure Argument where
  map : String
  name : String
  deriving DecidableEq, Repr

/-- What a branch returns: a name alone, or a name applied to arguments. -/
structure Access where
  name : String
  arguments : Option (List Argument)
  deriving DecidableEq, Repr

structure Branch where
  key : String
  access : Access
  deriving DecidableEq, Repr

/-- The function as its code says it. -/
structure KeyFunction where
  keyParameter : String
  mapParameter : String
  /-- The name whose value is compared with the keys. -/
  subject : String
  branches : List Branch
  otherwise : String
  deriving DecidableEq, Repr

/-! ## Reading -/

def readArguments : List Token → Option (List Argument)
  | [.word map, .mark '[', .text name, .mark ']', .mark '!', .mark ')'] => some [⟨map, name⟩]
  | .word map :: .mark '[' :: .text name :: .mark ']' :: .mark '!' :: .mark ',' :: ts =>
    (readArguments ts).map (⟨map, name⟩ :: ·)
  | _ => none

def readAccess : List Token → Option Access
  | [.word name] => some ⟨name, none⟩
  | .word name :: .mark '(' :: ts => (readArguments ts).map fun arguments => ⟨name, some arguments⟩
  | _ => none

def readBranch : List Token → Option Branch
  | .word "case" :: .text key :: .mark ':' :: .word "return" :: ts =>
    (readAccess ts).map fun access => ⟨key, access⟩
  | _ => none

/-- The branches of a switch and what is returned after it, from the statements in order. -/
def readBranches : List (List Token) → Option (List Branch × String)
  | [] => none
  | [[.mark '\x7d', .word "return", .text otherwise], [.mark '\x7d']] => some ([], otherwise)
  | statement :: more =>
    match readBranch statement, readBranches more with
    | some branch, some (branches, otherwise) => some (branch :: branches, otherwise)
    | _, _ => none

/-- The tokens up to the first branch. -/
def headTokens (keyParameter mapParameter subject : String) : List Token :=
  [.word "String", .word "getString", .mark '(', .word "String", .word keyParameter, .mark ',',
   .mark '[', .word "Map", .mark '<', .word "String", .mark ',', .word "String", .mark '>',
   .word mapParameter, .mark '=', .word "const", .mark '\x7b', .mark '\x7d', .mark ']', .mark ')',
   .mark '\x7b', .word "switch", .mark '(', .word subject, .mark ')', .mark '\x7b']

def readFunction : List Token → Option KeyFunction
  | .word "String" :: .word "getString" :: .mark '(' :: .word "String" :: .word keyParameter ::
    .mark ',' :: .mark '[' :: .word "Map" :: .mark '<' :: .word "String" :: .mark ',' ::
    .word "String" :: .mark '>' :: .word mapParameter :: .mark '=' :: .word "const" ::
    .mark '\x7b' :: .mark '\x7d' :: .mark ']' :: .mark ')' :: .mark '\x7b' :: .word "switch" ::
    .mark '(' :: .word subject :: .mark ')' :: .mark '\x7b' :: ts =>
    (readBranches (ts.splitOn (.mark ';'))).map fun (branches, otherwise) =>
      { keyParameter, mapParameter, subject, branches, otherwise }
  | _ => none

/-- Read the function from its code. -/
def readDispatch (code : String) : Option KeyFunction :=
  (tokens code.toList).toOption.bind readFunction

/-! ## Identifiers -/

/-- The identifier that a name stands for in code, without the line feed that is let pass. -/
def identifierOf (name : String) : String :=
  String.ofList (dropFinalBreak name.toList)

theorem identifierOf_of_no_break {name : String} (h : name.toList.getLast? ≠ some '\n') :
    identifierOf name = name := by
  rw [identifierOf, dropFinalBreak, if_neg h, String.ofList_toList]

theorem dropFinalBreak_append (cs : List Char) :
    ∃ tail, cs = dropFinalBreak cs ++ tail ∧ (tail = [] ∨ tail = ['\n']) := by
  unfold dropFinalBreak
  split
  · rename_i hlast
    refine ⟨['\n'], ?_, .inr rfl⟩
    exact (List.dropLast_append_getLast? '\n' hlast).symm
  · exact ⟨[], (List.append_nil cs).symm, .inl rfl⟩

theorem dropFinalBreak_cons {c : Char} (hc : c ≠ '\n') (cs : List Char) :
    dropFinalBreak (c :: cs) = c :: dropFinalBreak cs := by
  cases cs with
  | nil => simp [dropFinalBreak, hc]
  | cons d cs =>
    unfold dropFinalBreak
    rw [List.getLast?_cons_cons]
    split
    · rfl
    · rfl

/-- An identifier is one word. -/
theorem tokens_identifier {name : String} (h : isIdentifier name) {d : Char}
    (hd : isIdentifierChar d = false) (rest : List Char) :
    tokens (name.toList ++ d :: rest) =
      (tokens (d :: rest)).map (.word (identifierOf name) :: ·) := by
  unfold isIdentifier at h
  split at h
  · cases h
  · rename_i c cs hlist
    rw [Bool.and_eq_true, List.all_eq_true] at h
    obtain ⟨hc, hcs⟩ := h
    have hne : c ≠ '\n' := by
      rintro rfl
      revert hc
      decide
    obtain ⟨tail, htail, hbreak⟩ := dropFinalBreak_append cs
    have hword : identifierOf name = String.ofList (c :: dropFinalBreak cs) := by
      rw [identifierOf, hlist, dropFinalBreak_cons hne]
    rw [hword, hlist]
    generalize dropFinalBreak cs = w at hcs htail ⊢
    subst htail
    rcases hbreak with rfl | rfl
    · rw [List.append_nil, List.cons_append]
      exact tokens_word hc hcs hd rest
    · have hblank : tokens ('\n' :: d :: rest) = tokens (d :: rest) := tokens_blank (by decide) _
      rw [List.cons_append, List.append_assoc, ← hblank]
      exact tokens_word hc hcs (by decide) (d :: rest)

/-! ## Tokens of the written function -/

/-- The tokens of an argument. -/
def argumentTokens (name : String) : List Token :=
  [.word "placeholders", .mark '[', .text name, .mark ']', .mark '!']

/-- The tokens of arguments and of the parenthesis after them. -/
def argumentsTokens : List String → List Token
  | [] => [.mark ')']
  | [name] => argumentTokens name ++ [.mark ')']
  | name :: next :: names => argumentTokens name ++ .mark ',' :: argumentsTokens (next :: names)

namespace Case

def accessTokens (c : Case) : List Token :=
  if c.shape.isParameterized then
    .word (identifierOf c.name) :: .mark '(' :: argumentsTokens c.shape.parameters
  else [.word (identifierOf c.name)]

/-- The tokens of a branch. -/
def branchTokens (c : Case) : List Token :=
  .word "case" :: .text c.key :: .mark ':' :: .word "return" :: c.accessTokens

end Case

theorem tokens_argument (name : String) (rest : List Char) :
    tokens (("placeholders[" ++ literal name ++ "]!").toList ++ rest) =
      (tokens rest).map (argumentTokens name ++ ·) := by
  have hopen : tokens "placeholders[".toList = .ok [.word "placeholders", .mark '['] := by
    decide +kernel
  have hlist : ("placeholders[" ++ literal name ++ "]!").toList ++ rest =
      "placeholders[".toList ++ ((literal name).toList ++ (']' :: '!' :: rest)) := by
    simp
  rw [hlist, tokens_before_literal hopen (by decide), tokens_mark (by decide),
    tokens_mark (by decide)]
  cases tokens rest with
  | error fault => rfl
  | ok ts => rfl

theorem tokens_arguments (names : List String) (rest : List Char) :
    tokens ((Text.joinStrings ", "
        (names.map fun name => "placeholders[" ++ literal name ++ "]!")).toList ++ ')' :: rest) =
      (tokens rest).map (argumentsTokens names ++ ·) := by
  induction names with
  | nil =>
    rw [List.map_nil, Text.joinStrings, String.toList_empty, List.nil_append,
      tokens_mark (by decide)]
    rfl
  | cons name names ih =>
    cases names with
    | nil =>
      rw [List.map_cons, List.map_nil, Text.joinStrings, tokens_argument, tokens_mark (by decide)]
      cases tokens rest with
      | error fault => rfl
      | ok ts => rfl
    | cons next names =>
      have hlist : ∀ s t : String, (s ++ ", " ++ t).toList ++ ')' :: rest =
          s.toList ++ (',' :: ' ' :: (t.toList ++ ')' :: rest)) := by
        intro s t
        simp
      rw [List.map_cons] at ih
      rw [List.map_cons, List.map_cons, Text.joinStrings, hlist, tokens_argument,
        tokens_mark (by decide), tokens_blank (by decide), ih]
      cases tokens rest with
      | error fault => rfl
      | ok ts => simp [Except.map, argumentsTokens]

/-- An access and the semicolon after it. -/
theorem tokens_call {c : Case} (h : isIdentifier c.name) :
    tokens (c.call.toList ++ [';']) = .ok (c.accessTokens ++ [.mark ';']) := by
  have hend : tokens [';'] = .ok [.mark ';'] := by
    rw [tokens_mark (by decide), tokens_nil]
    rfl
  unfold Case.call Shape.call Case.accessTokens
  split
  · have hlist : ∀ s t : String, (s ++ "(" ++ t ++ ")").toList ++ [';'] =
        s.toList ++ '(' :: (t.toList ++ ')' :: [';']) := by
      intro s t
      simp
    rw [hlist, tokens_identifier h (by decide), tokens_mark (by decide)]
    unfold Case.arguments
    rw [tokens_arguments, hend]
    rfl
  · rw [tokens_identifier h (by decide), hend]
    rfl

/-- The two lines of a branch. -/
theorem cutInto_case {c : Case} (h : isIdentifier c.name) :
    CutInto c.lines (c.branchTokens ++ [.mark ';']) := by
  have hcase : tokens "      case ".toList = .ok [.word "case"] := by decide +kernel
  have hfirst : tokens ("      case " ++ literal c.key ++ ":").toList =
      .ok [.word "case", .text c.key, .mark ':'] := by
    have hlist : ("      case " ++ literal c.key ++ ":").toList =
        "      case ".toList ++ ((literal c.key).toList ++ [':']) := by
      simp
    rw [hlist, tokens_before_literal hcase (by decide), tokens_mark (by decide), tokens_nil]
    rfl
  have hreturn : tokens "        return".toList = .ok [.word "return"] := by decide +kernel
  have hreturnEnds : Ends ' ' "        return".toList := ⟨by decide, .inr ⟨by decide, by decide⟩⟩
  have hsecond : tokens ("        return " ++ c.call ++ ";").toList =
      .ok (.word "return" :: (c.accessTokens ++ [.mark ';'])) := by
    have hlist : ("        return " ++ c.call ++ ";").toList =
        "        return".toList ++ ' ' :: (c.call.toList ++ [';']) := by
      simp
    rw [hlist, tokens_append hreturn hreturnEnds, tokens_blank (by decide), tokens_call h]
    rfl
  have hlines := CutInto.cons hfirst (.cons hsecond .nil)
  simpa [Case.lines, Case.branchTokens] using hlines

/-- The tokens of branches, each with the semicolon at its end. -/
def branchesTokens : List Case → List Token
  | [] => []
  | c :: cases => c.branchTokens ++ .mark ';' :: branchesTokens cases

theorem cutInto_cases {cases : List Case} (h : ∀ c ∈ cases, isIdentifier c.name) :
    CutInto (cases.flatMap Case.lines) (branchesTokens cases) := by
  induction cases with
  | nil => exact .nil
  | cons c cases ih =>
    rw [List.forall_mem_cons] at h
    have hlines := (cutInto_case h.1).append (ih h.2)
    rwa [List.append_assoc] at hlines

/-- The tokens after the last branch. -/
def tailTokens : List Token :=
  [.mark '\x7d', .word "return", .text "", .mark ';', .mark '\x7d']

/-- The lines of a dispatch. Its documentation has no tokens. -/
theorem cutInto_dispatch {d : Dispatch} (h : ∀ c ∈ d.cases, isIdentifier c.name) :
    CutInto d.lines
      (headTokens "key" "placeholders" "key" ++ branchesTokens d.cases ++ tailTokens) := by
  have hdocumentation : CutInto (if d.documented then
      ["  /// Returns the translation for [key], or an empty string for unknown keys.",
       "  ///",
       "  /// Every placeholder the key declares must be present in [placeholders]."]
      else []) [] := by
    have hfirst : tokens
        "  /// Returns the translation for [key], or an empty string for unknown keys.".toList =
          .ok [] := by decide +kernel
    have hsecond : tokens "  ///".toList = .ok [] := by decide +kernel
    have hthird : tokens
        "  /// Every placeholder the key declares must be present in [placeholders].".toList =
          .ok [] := by decide +kernel
    split
    · exact .cons hfirst (.cons hsecond (.cons hthird .nil))
    · exact .nil
  have hsignature : tokens ("  String getString(String key, [Map<String, String> " ++
      "placeholders = const \x7b\x7d]) \x7b").toList =
        .ok ((headTokens "key" "placeholders" "key").take 21) := by decide +kernel
  have hswitch : tokens "    switch (key) \x7b".toList =
      .ok ((headTokens "key" "placeholders" "key").drop 21) := by decide +kernel
  have hhead : CutInto
      ["  String getString(String key, [Map<String, String> placeholders = const \x7b\x7d]) \x7b",
       "    switch (key) \x7b"] (headTokens "key" "placeholders" "key") :=
    .cons hsignature (.cons hswitch .nil)
  have hclose : tokens "    \x7d".toList = .ok [.mark '\x7d'] := by decide +kernel
  have hreturn : tokens "    return \"\";".toList =
      .ok [.word "return", .text "", .mark ';'] := by decide +kernel
  have hend : tokens "  \x7d".toList = .ok [.mark '\x7d'] := by decide +kernel
  have htail : CutInto ["    \x7d", "    return \"\";", "  \x7d"] tailTokens :=
    .cons hclose (.cons hreturn (.cons hend .nil))
  have hlines := ((hdocumentation.append hhead).append (cutInto_cases h)).append htail
  rwa [List.nil_append] at hlines

/-! ## What is read -/

namespace Case

/-- What the branch of a case returns. -/
def access (c : Case) : Access where
  name := identifierOf c.name
  arguments :=
    if c.shape.isParameterized then some (c.shape.parameters.map (⟨"placeholders", ·⟩)) else none

def branch (c : Case) : Branch where
  key := c.key
  access := c.access

end Case

theorem readArguments_argumentsTokens {names : List String} (h : names ≠ []) :
    readArguments (argumentsTokens names) = some (names.map (⟨"placeholders", ·⟩)) := by
  induction names with
  | nil => exact absurd rfl h
  | cons name names ih =>
    cases names with
    | nil => rfl
    | cons next names =>
      have hnext := ih (List.cons_ne_nil next names)
      simp [argumentsTokens, argumentTokens, readArguments, hnext]

theorem readBranch_branchTokens (c : Case) : readBranch c.branchTokens = some c.branch := by
  have haccess : readAccess c.accessTokens = some c.access := by
    unfold Case.accessTokens Case.access
    split
    · rename_i hparams
      have hne : c.shape.parameters ≠ [] := by simpa [Shape.isParameterized] using hparams
      simp [readAccess, readArguments_argumentsTokens hne]
    · rfl
  simp [Case.branchTokens, readBranch, haccess, Case.branch]

/-- A branch is a single statement. -/
theorem semicolon_not_mem_branchTokens (c : Case) : Token.mark ';' ∉ c.branchTokens := by
  have harguments : ∀ names, Token.mark ';' ∉ argumentsTokens names := by
    intro names
    induction names with
    | nil => decide
    | cons name names ih =>
      cases names with
      | nil => simp [argumentsTokens, argumentTokens]
      | cons next names => simpa [argumentsTokens, argumentTokens] using ih
  unfold Case.branchTokens Case.accessTokens
  split
  · simpa using harguments c.shape.parameters
  · simp

theorem readBranches_cons (c : Case) (more : List (List Token)) :
    readBranches (c.branchTokens :: more) =
      (readBranches more).map fun (branches, otherwise) => (c.branch :: branches, otherwise) := by
  have hstart : ∀ tokens, c.branchTokens ≠ .mark '\x7d' :: tokens := by
    intro tokens heq
    cases heq
  rw [readBranches, readBranch_branchTokens]
  · cases readBranches more with
    | none => rfl
    | some read => rfl
  · intro otherwise heq
    exact absurd heq (hstart _)

theorem readBranches_branchesTokens (cases : List Case) :
    readBranches ((branchesTokens cases ++ tailTokens).splitOn (.mark ';')) =
      some (cases.map Case.branch, "") := by
  induction cases with
  | nil => rfl
  | cons c cases ih =>
    have hno : ∀ t ∈ c.branchTokens, (t == Token.mark ';') = false := by
      intro t ht
      rw [beq_eq_false_iff_ne]
      rintro rfl
      exact semicolon_not_mem_branchTokens c ht
    have hsplit := List.splitOnP_append_cons_of_forall_mem hno (.mark ';') (by simp)
      (branchesTokens cases ++ tailTokens)
    rw [List.splitOn_eq_splitOnP] at ih
    rw [branchesTokens, List.append_assoc, List.cons_append, List.splitOn_eq_splitOnP, hsplit,
      readBranches_cons, ih]
    rfl

/-- What is read from the code of a dispatch whose cases have identifiers. -/
theorem readDispatch_lines {d : Dispatch} (h : ∀ c ∈ d.cases, isIdentifier c.name) :
    readDispatch (ofLines d.lines) = some {
      keyParameter := "key"
      mapParameter := "placeholders"
      subject := "key"
      branches := d.cases.map Case.branch
      otherwise := "" } := by
  rw [readDispatch, tokens_ofLines (cutInto_dispatch h), List.append_assoc]
  simp only [Except.toOption, Option.bind_some, headTokens, List.cons_append, List.nil_append,
    readFunction, readBranches_branchesTokens, Option.map_some]

end Phrasebook.Dart
