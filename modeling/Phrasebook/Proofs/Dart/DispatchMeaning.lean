-- SUMMARY: What the function that finds a phrase by its key returns, and which phrases it reaches.
import Mathlib.Data.List.Nodup
import Phrasebook.Dart.Generator
import Phrasebook.Proofs.Book.Tables
import Phrasebook.Proofs.Dart.AcceptedNames
import Phrasebook.Proofs.Dart.DispatchReading

/-!
# The meaning of the dispatch

A name in the function stands for a parameter of the function if it is spelled
like one, and else for the member of the class that it names. The check of names
knows the members of the class but not the parameters, so that an accessor can
be hidden by them. `dispatch_result` says what a call returns for every key, and
exactly which phrases it reaches.
-/

namespace Phrasebook.Dart

/-! ## Calls -/

/-- A call of the function in a class with an accessor for each phrase. -/
structure KeyCall where
  function : KeyFunction
  className : Json
  phrases : List Phrase
  key : String
  values : String → Option String

/-- What a name stands for in a call. -/
inductive Binding where
  | text (s : String)
  | map (values : String → Option String)
  | accessor (p : Phrase)

/-- What a call returns: a text, or what the accessor of a phrase returns for arguments. -/
inductive Answer where
  | text (s : String)
  | phrase (p : Phrase) (arguments : List String)
  deriving DecidableEq, Repr

/-- Whether a name cannot be that of an accessor: a reserved word, or a name that the class has for
something else. -/
def isTaken (className : Json) (name : String) : Bool :=
  reservedWords.contains name || classMembers.contains name || isClassName className name

/-- The phrase of the only accessor of a name. -/
def accessor? (className : Json) (phrases : List Phrase) (name : String) : Option Phrase :=
  if isTaken className name then none
  else
    match phrases.filter (identifierOf ·.accessor = name) with
    | [p] => some p
    | _ => none

namespace KeyCall

/-- What a name stands for: the parameters come before the class. -/
def binding? (c : KeyCall) (name : String) : Option Binding :=
  if name = c.function.keyParameter then some (.text c.key)
  else if name = c.function.mapParameter then some (.map c.values)
  else (accessor? c.className c.phrases name).map .accessor

/-- The value of an argument, if its name stands for a map that has it. -/
def argument? (c : KeyCall) (a : Argument) : Option String :=
  match c.binding? a.map with
  | some (.map values) => values a.name
  | _ => none

/-- What an access returns. A plain phrase is accessed by name alone, and one with parameters is
applied to as many arguments. -/
def access? (c : KeyCall) (a : Access) : Option Answer :=
  match c.binding? a.name, a.arguments with
  | some (.text s), none => some (.text s)
  | some (.accessor p), none => if p.shape.isParameterized then none else some (.phrase p [])
  | some (.accessor p), some arguments =>
    match arguments.mapM c.argument? with
    | some values =>
      if p.shape.isParameterized ∧ values.length = p.placeholders.length then
        some (.phrase p values)
      else none
    | none => none
  | _, _ => none

/-- What the call returns: the access of the first branch whose key is the value of the subject. -/
def result? (c : KeyCall) : Option Answer :=
  match c.binding? c.function.subject with
  | some (.text s) =>
    match c.function.branches.find? (·.key == s) with
    | some branch => c.access? branch.access
    | none => some (.text c.function.otherwise)
  | _ => none

variable {c : KeyCall} {a : Access}

theorem result?_of_subject {s : String} (h : c.binding? c.function.subject = some (.text s)) :
    c.result? =
      match c.function.branches.find? (·.key == s) with
      | some branch => c.access? branch.access
      | none => some (.text c.function.otherwise) := by
  unfold result?
  rw [h]

theorem access?_of_text {s : String} (h : c.binding? a.name = some (.text s)) :
    c.access? a = if a.arguments = none then some (.text s) else none := by
  unfold access?
  rw [h]
  cases a.arguments with
  | none => rfl
  | some arguments => rfl

theorem access?_of_map {values : String → Option String}
    (h : c.binding? a.name = some (.map values)) : c.access? a = none := by
  unfold access?
  rw [h]

theorem access?_of_none (h : c.binding? a.name = none) : c.access? a = none := by
  unfold access?
  rw [h]

theorem access?_of_accessor {p : Phrase} (h : c.binding? a.name = some (.accessor p))
    (harguments : a.arguments = none) :
    c.access? a = if p.shape.isParameterized then none else some (.phrase p []) := by
  unfold access?
  rw [h, harguments]

theorem access?_of_accessor_call {p : Phrase} {arguments : List Argument} {values : List String}
    (h : c.binding? a.name = some (.accessor p)) (harguments : a.arguments = some arguments)
    (hvalues : arguments.mapM c.argument? = some values) :
    c.access? a =
      if p.shape.isParameterized ∧ values.length = p.placeholders.length then
        some (.phrase p values)
      else none := by
  unfold access?
  rw [h, harguments]
  simp only [hvalues]

end KeyCall

/-! ## Reached phrases -/

/-- A phrase whose accessor is what its name stands for in the function. -/
structure IsReached (className : Json) (phrases : List Phrase) (p : Phrase) : Prop where
  not_key : identifierOf p.accessor ≠ "key"
  not_placeholders : identifierOf p.accessor ≠ "placeholders"
  not_taken : isTaken className (identifierOf p.accessor) = false
  unique : ∀ q ∈ phrases, identifierOf q.accessor = identifierOf p.accessor → q = p

variable {className : Json} {phrases : List Phrase} {p : Phrase}

theorem filter_eq_singleton_iff {α : Type} {f : α → Bool} {l : List α} {x : α} (hl : l.Nodup)
    (hx : x ∈ l) (hfx : f x) : l.filter f = [x] ↔ ∀ y ∈ l, f y → y = x := by
  have hmem : x ∈ l.filter f := List.mem_filter.mpr ⟨hx, hfx⟩
  constructor
  · intro h y hy hfy
    have hyf : y ∈ l.filter f := List.mem_filter.mpr ⟨hy, hfy⟩
    simpa [h] using hyf
  · intro h
    have hall : ∀ y ∈ l.filter f, y = x := by
      intro y hy
      exact h y (List.mem_filter.mp hy).1 (List.mem_filter.mp hy).2
    have hnodup : (l.filter f).Nodup := hl.filter f
    generalize l.filter f = found at hmem hall hnodup
    match found with
    | [] => cases hmem
    | [y] => rw [hall y List.mem_cons_self]
    | y :: z :: more =>
      rw [hall y List.mem_cons_self, hall z (by simp)] at hnodup
      simp at hnodup

/-- An identifier stands for the accessor of its phrase if nothing else in the class has it. -/
theorem accessor?_eq_some_iff (hphrases : phrases.Nodup) (hp : p ∈ phrases) :
    accessor? className phrases (identifierOf p.accessor) = some p ↔
      isTaken className (identifierOf p.accessor) = false ∧
      ∀ q ∈ phrases, identifierOf q.accessor = identifierOf p.accessor → q = p := by
  have hfilter := filter_eq_singleton_iff
    (f := fun q => decide (identifierOf q.accessor = identifierOf p.accessor)) hphrases hp (by simp)
  simp only [decide_eq_true_eq] at hfilter
  rw [← hfilter, accessor?]
  cases isTaken className (identifierOf p.accessor) with
  | true => simp
  | false =>
    simp only [Bool.false_eq_true, if_false, true_and]
    have hmem : p ∈ phrases.filter fun q => identifierOf q.accessor = identifierOf p.accessor :=
      List.mem_filter.mpr ⟨hp, by simp⟩
    generalize (phrases.filter fun q => identifierOf q.accessor = identifierOf p.accessor) = found
      at hmem ⊢
    match found with
    | [] => simp
    | [q] => simp
    | q :: r :: more => simp

/-! ## The written function -/

/-- The function that a dispatch is written as. -/
def Dispatch.function (d : Dispatch) : KeyFunction where
  keyParameter := "key"
  mapParameter := "placeholders"
  subject := "key"
  branches := d.cases.map Case.branch
  otherwise := ""

namespace Generator

/-- The case of a phrase. -/
def caseOf (p : Phrase) : Case :=
  ⟨p.key, p.accessor, p.shape⟩

/-- A call of a function in the class that is generated for a book. -/
def call (g : Generator) (b : Book) (f : KeyFunction) (key : String)
    (values : String → Option String) : KeyCall where
  function := f
  className := g.settings.className
  phrases := b.defaultTable.phrases
  key
  values

variable {g : Generator} {b : Book} {key : String} {values : String → Option String}

/-- A call finds the phrase of its key. -/
theorem result?_eq :
    (g.call b (g.dispatch b).function key values).result? =
      match b.defaultTable.get? key with
      | some p => (g.call b (g.dispatch b).function key values).access? (caseOf p).access
      | none => some (.text "") := by
  have hfind : (g.dispatch b).function.branches.find? (·.key == key) =
      (b.defaultTable.get? key).map fun p => (caseOf p).branch := by
    simp only [Dispatch.function, dispatch, List.map_map, List.find?_map, Table.get?]
    rfl
  have hsubject : (g.call b (g.dispatch b).function key values).binding? "key" =
      some (.text key) := rfl
  have hresult := KeyCall.result?_of_subject hsubject
  have hfunction : (g.call b (g.dispatch b).function key values).function =
      (g.dispatch b).function := rfl
  rw [hresult, hfunction, hfind]
  cases b.defaultTable.get? key with
  | none => rfl
  | some p => rfl

/-- A map that has all placeholders gives the arguments in their order. -/
theorem mapM_argument? {names arguments : List String}
    (h : names.map values = arguments.map some) :
    (names.map (Argument.mk "placeholders")).mapM
      (g.call b (g.dispatch b).function key values).argument? = some arguments := by
  induction names generalizing arguments with
  | nil =>
    obtain rfl : arguments = [] := by simpa using h.symm
    rfl
  | cons name names ih =>
    cases arguments with
    | nil => simp at h
    | cons argument arguments =>
      rw [List.map_cons, List.map_cons, List.cons.injEq] at h
      have hfirst : (g.call b (g.dispatch b).function key values).argument?
          ⟨"placeholders", name⟩ = some argument := h.1
      rw [List.map_cons, List.mapM_cons, hfirst, ih h.2]
      rfl

/-- The access of a phrase returns what its accessor does if its identifier stands for it. -/
theorem access?_eq_phrase_iff {p : Phrase} {arguments : List String}
    (h : p.placeholders.map values = arguments.map some) :
    (g.call b (g.dispatch b).function key values).access? (caseOf p).access =
        some (.phrase p arguments) ↔
      identifierOf p.accessor ≠ "key" ∧ identifierOf p.accessor ≠ "placeholders" ∧
      accessor? g.settings.className b.defaultTable.phrases (identifierOf p.accessor) = some p := by
  have hbinding : (g.call b (g.dispatch b).function key values).binding? (caseOf p).access.name =
      if identifierOf p.accessor = "key" then some (.text key)
      else if identifierOf p.accessor = "placeholders" then some (.map values)
      else (accessor? g.settings.className b.defaultTable.phrases
        (identifierOf p.accessor)).map .accessor := rfl
  by_cases hkey : identifierOf p.accessor = "key"
  · rw [if_pos hkey] at hbinding
    rw [KeyCall.access?_of_text hbinding]
    split
    · simp [hkey]
    · simp [hkey]
  rw [if_neg hkey] at hbinding
  by_cases hmap : identifierOf p.accessor = "placeholders"
  · rw [if_pos hmap] at hbinding
    rw [KeyCall.access?_of_map hbinding]
    simp [hmap]
  rw [if_neg hmap] at hbinding
  cases hfound :
      accessor? g.settings.className b.defaultTable.phrases (identifierOf p.accessor) with
  | none =>
    rw [hfound] at hbinding
    rw [KeyCall.access?_of_none hbinding]
    simp
  | some q =>
    rw [hfound] at hbinding
    by_cases hparams : p.shape.isParameterized
    · have harguments : (caseOf p).access.arguments =
          some (p.shape.parameters.map (Argument.mk "placeholders")) := if_pos hparams
      have hlength : arguments.length = p.placeholders.length := by
        simpa using (congrArg List.length h).symm
      rw [KeyCall.access?_of_accessor_call hbinding harguments (mapM_argument? h)]
      by_cases hq : q = p
      · subst hq
        simp [hkey, hmap, hparams, hlength]
      · simp [hq]
    · have harguments : (caseOf p).access.arguments = none := if_neg hparams
      have hplain : p.placeholders = [] := by
        simpa [Shape.isParameterized, Phrase.shape] using hparams
      have hnone : arguments = [] := by simpa [hplain] using h.symm
      rw [KeyCall.access?_of_accessor hbinding harguments]
      by_cases hq : q = p
      · subst hq
        simp [hkey, hmap, hparams, hnone]
      · simp [hq]

/-- Among names without a line feed at their end, which the check has accepted, only the parameters
of the function hide one. -/
theorem isReached_iff_of_no_break {p : Phrase}
    (hnames : checkNames g.settings.className b = .ok ())
    (hbreak : ∀ q ∈ b.defaultTable.phrases, q.accessor.toList.getLast? ≠ some '\n')
    (hp : p ∈ b.defaultTable.phrases) :
    IsReached g.settings.className b.defaultTable.phrases p ↔
      p.accessor ≠ "key" ∧ p.accessor ≠ "placeholders" := by
  obtain ⟨hgood, hnodup⟩ := checkNames_eq_ok_iff.mp hnames
  have hid : ∀ q ∈ b.defaultTable.phrases, identifierOf q.accessor = q.accessor :=
    fun q hq => identifierOf_of_no_break (hbreak q hq)
  have hname := (hgood p hp).1
  have htaken : isTaken g.settings.className p.accessor = false := by
    simp [isTaken, hname.not_reserved, hname.not_member, hname.not_class]
  have hunique : ∀ q ∈ b.defaultTable.phrases, q.accessor = p.accessor → q = p :=
    fun q hq heq => List.inj_on_of_nodup_map hnodup hq hp heq
  constructor
  · intro h
    have hkey := h.not_key
    have hplaceholders := h.not_placeholders
    rw [hid p hp] at hkey hplaceholders
    exact ⟨hkey, hplaceholders⟩
  · rintro ⟨hkey, hplaceholders⟩
    refine ⟨?_, ?_, ?_, ?_⟩
    · rwa [hid p hp]
    · rwa [hid p hp]
    · rwa [hid p hp]
    · intro q hq heq
      rw [hid p hp, hid q hq] at heq
      exact hunique q hq heq

/-- The function that is read from the code of a class returns the empty text for an unknown key,
and for the key of a phrase what its accessor returns for the values of its placeholders in order,
exactly if the phrase is reached. Where no accessor ends in a line feed, these are all phrases but
those whose accessors are spelled like a parameter of the function. -/
theorem dispatch_result (hnames : checkNames g.settings.className b = .ok ()) :
    ∃ f, readDispatch (ofLines (g.dispatch b).lines) = some f ∧
      (∀ key values, key ∉ b.defaultTable.keys →
        (g.call b f key values).result? = some (.text "")) ∧
      (∀ p ∈ b.defaultTable.phrases, ∀ values arguments,
        p.placeholders.map values = arguments.map some →
        ((g.call b f p.key values).result? = some (.phrase p arguments) ↔
          IsReached g.settings.className b.defaultTable.phrases p)) ∧
      ((∀ p ∈ b.defaultTable.phrases, p.accessor.toList.getLast? ≠ some '\n') →
        ∀ p ∈ b.defaultTable.phrases,
          (IsReached g.settings.className b.defaultTable.phrases p ↔
            p.accessor ≠ "key" ∧ p.accessor ≠ "placeholders")) := by
  have hidentifiers : ∀ c ∈ (g.dispatch b).cases, isIdentifier c.name := by
    intro c hc
    obtain ⟨p, hp, rfl⟩ := List.mem_map.mp hc
    exact ((checkNames_eq_ok_iff.mp hnames).1 p hp).1.identifier
  refine ⟨(g.dispatch b).function, readDispatch_lines hidentifiers, ?_, ?_, ?_⟩
  · intro key values hkey
    rw [result?_eq, Table.get?_eq_none_iff.mpr hkey]
  · intro p hp values arguments harguments
    rw [result?_eq, Table.get?_eq_some_iff.mpr ⟨hp, rfl⟩]
    simp only
    rw [access?_eq_phrase_iff harguments, accessor?_eq_some_iff b.defaultTable.nodup_phrases hp]
    constructor
    · rintro ⟨hkey, hplaceholders, htaken, hunique⟩
      exact ⟨hkey, hplaceholders, htaken, hunique⟩
    · intro h
      exact ⟨h.not_key, h.not_placeholders, h.not_taken, h.unique⟩
  · intro hbreak p hp
    exact isReached_iff_of_no_break hnames hbreak hp

/-- A book with one phrase, in one locale. -/
def single (p : Phrase) : Book :=
  let table : Table := ⟨⟨"en", none, none⟩, [p], List.nodup_singleton _⟩
  ⟨⟨"en", none, none⟩, [table], ⟨table, List.mem_singleton_self _, rfl⟩⟩

/-- A phrase with a placeholder is reached. -/
theorem dispatch_result_of_greeting :
    let g : Generator := ⟨{}, {}⟩
    let p : Phrase := ⟨"greeting", "greeting", "Hello, name!", ["name"]⟩
    checkNames g.settings.className (single p) = .ok () ∧
    ∃ f, readDispatch (ofLines (g.dispatch (single p)).lines) = some f ∧
      (g.call (single p) f "greeting"
        fun name => if name = "name" then some "Ann" else none).result? =
          some (.phrase p ["Ann"]) := by
  intro g p
  have hnames : checkNames g.settings.className (single p) = .ok () := by decide +kernel
  have hmem : p ∈ (single p).defaultTable.phrases := List.mem_singleton_self p
  obtain ⟨f, hread, -, hresult, hreached⟩ := dispatch_result hnames
  have hbreak : ∀ q ∈ (single p).defaultTable.phrases, q.accessor.toList.getLast? ≠ some '\n' := by
    intro q hq
    obtain rfl := List.mem_singleton.mp hq
    decide
  have hp := (hreached hbreak p hmem).mpr ⟨by decide, by decide⟩
  exact ⟨hnames, f, hread, (hresult p hmem _ ["Ann"] rfl).mpr hp⟩

/-- The key `!!!` gets the accessor `key`, which the check accepts. The function returns the key
instead of the phrase. -/
theorem dispatch_result_of_key :
    let g : Generator := ⟨{}, {}⟩
    let p : Phrase := ⟨"!!!", "key", "x", []⟩
    ((accessorNamesFor "I18n").allocate { key := "!!!" }).1 = p.accessor ∧
    checkNames g.settings.className (single p) = .ok () ∧
    ∃ f, readDispatch (ofLines (g.dispatch (single p)).lines) = some f ∧
      (g.call (single p) f "!!!" fun _ => none).result? = some (.text "!!!") := by
  intro g p
  have hidentifiers : ∀ c ∈ (g.dispatch (single p)).cases, isIdentifier c.name := by
    intro c hc
    obtain rfl := List.mem_singleton.mp hc
    decide
  exact ⟨by decide, by decide +kernel, _, readDispatch_lines hidentifiers, by decide +kernel⟩

end Generator

end Phrasebook.Dart
