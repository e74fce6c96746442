-- SUMMARY: Reading the list of supported locales back, and which locales have the same expression.
import Mathlib.Data.List.Basic
import Mathlib.Tactic.Common
import Phrasebook.Proofs.Dart.MemberReading
import Phrasebook.Proofs.Dart.RenderedClass
import Phrasebook.Proofs.Dart.Tokens
import Phrasebook.Proofs.Locale.Subtags
import Phrasebook.Proofs.Text.Sorting

/-!
# Reading locales

The list of supported locales is read from its tokens: expressions with a comma
between any two, and none behind the last. An expression is a constructor with
the language and maybe the country in order, or one that names each subtag. The
grammar is `Says`, and the readers accept exactly what it allows. The texts of
the subtags are literals, so no quote, comma or parenthesis in them is taken for
one of the code.

An expression does not show whether a subtag is missing or empty, and nothing
else of a locale is lost: what is read is the locale without its empty subtags.
-/

namespace Phrasebook

/-! ## Empty subtags -/

namespace Locale

/-- The locale with every empty subtag taken for a missing one. -/
def normal (l : Locale) : Locale where
  language := l.language
  country := filled l.country
  script := filled l.script

theorem normal_eq_self {l : Locale} (hcountry : l.country ≠ some "") (hscript : l.script ≠ some "") :
    l.normal = l := by
  rw [normal, filled_eq_self hcountry, filled_eq_self hscript]

end Locale

namespace Dart

open Text

/-! ## The grammar -/

/-- The subtags that the constructor with names takes. -/
def subtagNames : List String :=
  ["languageCode", "scriptCode", "countryCode"]

/-- The locale of named subtags, none of which may be given twice. Without a language it is
undetermined. -/
def localeOfSubtags (arguments : List (String × String)) : Option Locale :=
  if (arguments.map Prod.fst).Nodup ∧ ∀ a ∈ arguments, a.1 ∈ subtagNames then
    some {
      language := (arguments.lookup "languageCode").getD "und"
      country := arguments.lookup "countryCode"
      script := arguments.lookup "scriptCode" }
  else none

/-- Items with a comma between any two. -/
def separated (items : List (List Token)) : List Token :=
  [.mark ','].intercalate items

/-- The tokens of a named argument. -/
def namedTokens (a : String × String) : List Token :=
  [.word a.1, .mark ':', .text a.2]

/-- The tokens of a constructor expression, and the locale that it says. -/
inductive Says : List Token → Locale → Prop
  | language (language : String) :
      Says [.word "Locale", .mark '(', .text language, .mark ')'] { language }
  | country (language country : String) :
      Says [.word "Locale", .mark '(', .text language, .mark ',', .text country, .mark ')']
        { language, country }
  | subtags {arguments : List (String × String)} {l : Locale} (hne : arguments ≠ [])
      (h : localeOfSubtags arguments = some l) :
      Says ([.word "Locale", .mark '.', .word "fromSubtags", .mark '('] ++
        separated (arguments.map namedTokens) ++ [.mark ')']) l

/-- The tokens before the first locale. -/
def localesHead : List Token :=
  [.word "static", .word "List", .mark '<', .word "Locale", .mark '>', .word "get",
   .word "supportedLocales", .mark '\x7b', .word "return", .word "const", .mark '<',
   .word "Locale", .mark '>', .mark '[']

/-- The tokens after the bracket that closes the list. -/
def localesTail : List Token :=
  [.mark ';', .mark '\x7d']

/-- The code of a getter that returns some locales: an expression for each in order, with a comma
between any two and none behind the last. -/
def IsGetterOf (code : String) (locales : List Locale) : Prop :=
  ∃ items, items ≠ [] ∧ List.Forall₂ Says items locales ∧
    tokens code.toList = .ok (localesHead ++ (separated items ++ .mark ']' :: localesTail))

/-! ## The readers -/

/-- Read named arguments up to the closing parenthesis. -/
def readNamed : List Token → Option (List (String × String) × List Token)
  | .word name :: .mark ':' :: .text value :: .mark ')' :: rest => some ([(name, value)], rest)
  | .word name :: .mark ':' :: .text value :: .mark ',' :: rest =>
    (readNamed rest).map fun (more, rest) => ((name, value) :: more, rest)
  | _ => none

/-- Read an expression: its locale, and what comes after it. -/
def readLocale : List Token → Option (Locale × List Token)
  | .word "Locale" :: .mark '(' :: .text language :: .mark ')' :: rest => some ({ language }, rest)
  | .word "Locale" :: .mark '(' :: .text language :: .mark ',' :: .text country :: .mark ')' ::
    rest => some ({ language, country }, rest)
  | .word "Locale" :: .mark '.' :: .word "fromSubtags" :: .mark '(' :: rest => do
    let (arguments, rest) ← readNamed rest
    return (← localeOfSubtags arguments, rest)
  | _ => none

/-- Read locales with a comma between any two, up to the closing bracket. -/
def readLocaleItems (ts : List Token) : Option (List Locale × List Token) :=
  match readLocale ts with
  | some (l, .mark ']' :: rest) => some ([l], rest)
  | some (l, .mark ',' :: rest) =>
    if rest.length < ts.length then
      (readLocaleItems rest).map fun (more, rest) => (l :: more, rest)
    else none
  | _ => none
  termination_by ts.length

/-- Read the locales of the getter from its code. -/
def readSupportedLocales (code : String) : Option (List Locale) :=
  match tokens code.toList with
  | .error _ => none
  | .ok ts => do
    let (locales, rest) ← readLocaleItems (← ts.dropPrefix? localesHead)
    if rest = localesTail then some locales else none

/-! ## Readers and grammar -/

variable {ts rest : List Token} {l : Locale} {arguments : List (String × String)}

theorem readNamed_separated (h : arguments ≠ []) (rest : List Token) :
    readNamed (separated (arguments.map namedTokens) ++ .mark ')' :: rest) =
      some (arguments, rest) := by
  induction arguments with
  | nil => exact absurd rfl h
  | cons a arguments ih =>
    cases arguments with
    | nil => rfl
    | cons b arguments =>
      have hmore := ih (List.cons_ne_nil b arguments)
      simp only [separated, List.map_cons, List.intercalate_cons_cons] at hmore ⊢
      simp only [namedTokens, List.cons_append, List.nil_append, readNamed]
      simp only [namedTokens] at hmore
      rw [hmore]
      rfl

theorem Says.readLocale_append (h : Says ts l) (rest : List Token) :
    readLocale (ts ++ rest) = some (l, rest) := by
  cases h with
  | language language => rfl
  | country language country => rfl
  | @subtags arguments _ hne hsubtags =>
    have hnamed := readNamed_separated hne rest
    simp only [List.cons_append, List.nil_append, List.append_assoc, readLocale, hnamed, bind,
      Option.bind, hsubtags]
    rfl

theorem exists_named_of_readNamed (h : readNamed ts = some (arguments, rest)) :
    arguments ≠ [] ∧ ts = separated (arguments.map namedTokens) ++ .mark ')' :: rest := by
  fun_induction readNamed ts generalizing arguments with
  | case1 name value rest' =>
    cases h
    exact ⟨List.cons_ne_nil _ _, rfl⟩
  | case2 name value rest' ih =>
    obtain ⟨⟨more, tail⟩, hmore, hreading⟩ := Option.map_eq_some_iff.mp h
    cases hreading
    obtain ⟨hne, rfl⟩ := ih hmore
    refine ⟨List.cons_ne_nil _ _, ?_⟩
    obtain ⟨a, more, rfl⟩ := List.exists_cons_of_ne_nil hne
    simp [separated, namedTokens]
  | case3 => cases h

theorem exists_says_of_readLocale (h : readLocale ts = some (l, rest)) :
    ∃ item, Says item l ∧ ts = item ++ rest := by
  unfold readLocale at h
  split at h
  · cases h
    exact ⟨_, .language _, rfl⟩
  · cases h
    exact ⟨_, .country _ _, rfl⟩
  · obtain ⟨⟨arguments, tail⟩, hnamed, hrest⟩ := Option.bind_eq_some_iff.mp h
    obtain ⟨l', hsubtags, hreading⟩ := Option.bind_eq_some_iff.mp hrest
    cases hreading
    obtain ⟨hne, rfl⟩ := exists_named_of_readNamed hnamed
    exact ⟨_, .subtags hne hsubtags, by simp⟩
  · cases h

variable {items : List (List Token)} {locales : List Locale}

theorem readLocaleItems_separated (hne : items ≠ []) (h : List.Forall₂ Says items locales)
    (rest : List Token) :
    readLocaleItems (separated items ++ .mark ']' :: rest) = some (locales, rest) := by
  induction h with
  | nil => exact absurd rfl hne
  | @cons item l items locales hitem hitems ih =>
    cases hitems with
    | nil =>
      rw [separated, List.intercalate_singleton, readLocaleItems, hitem.readLocale_append]
      rfl
    | @cons next l' items locales hnext hitems =>
      have hmore := ih (List.cons_ne_nil next items)
      rw [separated] at hmore
      rw [separated, List.intercalate_cons_cons, List.append_assoc, List.append_assoc,
        readLocaleItems, hitem.readLocale_append]
      simp only [List.cons_append, List.nil_append, hmore]
      rw [if_pos]
      · rfl
      · simp
        omega

/-- The items that are read have a comma between any two, and a bracket behind the last. -/
theorem readLocaleItems_eq_some_iff :
    readLocaleItems ts = some (locales, rest) ↔
      ∃ items, items ≠ [] ∧ List.Forall₂ Says items locales ∧
        ts = separated items ++ .mark ']' :: rest := by
  constructor
  · intro h
    fun_induction readLocaleItems ts generalizing locales with
    | case1 ts l rest' hread =>
      cases h
      obtain ⟨item, hitem, rfl⟩ := exists_says_of_readLocale hread
      exact ⟨[item], List.cons_ne_nil _ _, .cons hitem .nil, by simp [separated]⟩
    | case2 ts l rest' hread hlt ih =>
      obtain ⟨⟨more, tail⟩, hmore, hreading⟩ := Option.map_eq_some_iff.mp h
      cases hreading
      obtain ⟨items, hne, hsaid, rfl⟩ := ih hmore
      obtain ⟨item, hitem, rfl⟩ := exists_says_of_readLocale hread
      refine ⟨item :: items, List.cons_ne_nil _ _, .cons hitem hsaid, ?_⟩
      obtain ⟨next, items, rfl⟩ := List.exists_cons_of_ne_nil hne
      simp [separated]
    | case3 => cases h
    | case4 => cases h
  · rintro ⟨items, hne, hsaid, rfl⟩
    exact readLocaleItems_separated hne hsaid rest

/-- The getter is read from exactly the code that the grammar allows. -/
theorem readSupportedLocales_eq_some_iff {code : String} :
    readSupportedLocales code = some locales ↔ IsGetterOf code locales := by
  constructor
  · intro h
    unfold readSupportedLocales at h
    split at h
    · cases h
    · rename_i ts hts
      obtain ⟨body, hbody, h⟩ := Option.bind_eq_some_iff.mp h
      obtain ⟨⟨found, rest⟩, hread, h⟩ := Option.bind_eq_some_iff.mp h
      rw [Option.ite_none_right_eq_some] at h
      obtain ⟨rfl, h⟩ := h
      cases h
      obtain ⟨items, hne, hsaid, rfl⟩ := readLocaleItems_eq_some_iff.mp hread
      obtain ⟨head, rfl, hhead⟩ := List.dropPrefix?_eq_some_iff.mp hbody
      rw [eq_of_beq hhead] at hts
      exact ⟨items, hne, hsaid, hts⟩
  · rintro ⟨items, hne, hsaid, htokens⟩
    simp [readSupportedLocales, htokens, dropPrefix?_append_self,
      readLocaleItems_separated hne hsaid]

/-! ## Written locales -/

theorem tokens_close (rest : List Char) :
    tokens (")".toList ++ rest) = (tokens rest).map ([.mark ')'] ++ ·) :=
  tokens_mark (by decide) rest

theorem tokens_comma : tokens ", ".toList = .ok [.mark ','] := by decide +kernel

theorem tokens_positional : tokens "Locale(".toList = .ok [.word "Locale", .mark '('] := by
  decide +kernel

theorem tokens_named : tokens "Locale.fromSubtags(languageCode: ".toList =
    .ok [.word "Locale", .mark '.', .word "fromSubtags", .mark '(', .word "languageCode",
      .mark ':'] := by
  decide +kernel

theorem tokens_script : tokens ", scriptCode: ".toList =
    .ok [.mark ',', .word "scriptCode", .mark ':'] := by
  decide +kernel

theorem tokens_country : tokens ", countryCode: ".toList =
    .ok [.mark ',', .word "countryCode", .mark ':'] := by
  decide +kernel

/-- The expression of a locale says the locale without its empty subtags, whatever comes after
it. -/
theorem exists_says_localeExpr (l : Locale) :
    ∃ item, Says item l.normal ∧
      ∀ rest, tokens ((localeExpr l).toList ++ rest) = (tokens rest).map (item ++ ·) := by
  unfold localeExpr exprOfLiterals
  cases hscript : Locale.filled l.script with
  | none =>
    cases hcountry : Locale.filled l.country with
    | none =>
      have hnormal : l.normal = { language := l.language } := by
        rw [Locale.normal, hscript, hcountry]
      rw [hnormal]
      refine ⟨_, .language l.language, fun rest => ?_⟩
      simp only [Option.map_none, String.toList_append, List.append_assoc]
      rw [tokens_before_literal tokens_positional (by decide), tokens_close, map_append_map_append]
      rfl
    | some country =>
      have hnormal : l.normal = { language := l.language, country } := by
        rw [Locale.normal, hscript, hcountry]
      rw [hnormal]
      refine ⟨_, .country l.language country, fun rest => ?_⟩
      simp only [Option.map_none, Option.map_some, String.toList_append, List.append_assoc]
      rw [tokens_before_literal tokens_positional (by decide),
        tokens_before_literal tokens_comma (by decide), tokens_close, map_append_map_append,
        map_append_map_append]
      rfl
  | some script =>
    cases hcountry : Locale.filled l.country with
    | none =>
      have hsubtags : localeOfSubtags [("languageCode", l.language), ("scriptCode", script)] =
          some l.normal := by
        rw [Locale.normal, hscript, hcountry]
        rfl
      refine ⟨_, .subtags (List.cons_ne_nil _ _) hsubtags, fun rest => ?_⟩
      simp only [Option.map_none, Option.map_some, String.toList_append, List.append_assoc]
      rw [tokens_before_literal tokens_named (by decide),
        tokens_before_literal tokens_script (by decide), tokens_close, map_append_map_append,
        map_append_map_append]
      rfl
    | some country =>
      have hsubtags : localeOfSubtags [("languageCode", l.language), ("scriptCode", script),
          ("countryCode", country)] = some l.normal := by
        rw [Locale.normal, hscript, hcountry]
        rfl
      refine ⟨_, .subtags (List.cons_ne_nil _ _) hsubtags, fun rest => ?_⟩
      simp only [Option.map_some, String.toList_append, List.append_assoc]
      rw [tokens_before_literal tokens_named (by decide),
        tokens_before_literal tokens_script (by decide),
        tokens_before_literal tokens_country (by decide), tokens_close, map_append_map_append,
        map_append_map_append, map_append_map_append]
      rfl

theorem Says.locale_eq {m : Locale} (h : Says ts l) (h' : Says ts m) : l = m := by
  have hread := h.readLocale_append []
  rw [h'.readLocale_append []] at hread
  exact (congrArg Prod.fst (Option.some.inj hread)).symm

/-- Two locales have one expression exactly if they differ at most by empty subtags in the place of
missing ones. -/
theorem localeExpr_eq_iff {l m : Locale} : localeExpr l = localeExpr m ↔ l.normal = m.normal := by
  constructor
  · intro h
    obtain ⟨item, hsaid, htokens⟩ := exists_says_localeExpr l
    obtain ⟨item', hsaid', htokens'⟩ := exists_says_localeExpr m
    have hsame := htokens []
    rw [h, htokens', tokens_nil] at hsame
    obtain rfl : item' = item := by simpa [Except.map] using hsame
    exact hsaid.locale_eq hsaid'
  · intro h
    simp only [Locale.normal, Locale.mk.injEq] at h
    rw [localeExpr, localeExpr, h.1, h.2.1, h.2.2]

/-! ## The written list -/

theorem tokens_indented (cs : List Char) : tokens ("      ".toList ++ cs) = tokens cs := by
  have hblank : ∀ cs, tokens (' ' :: cs) = tokens cs := tokens_blank (by decide)
  simp [hblank]

/-- The lines of the items are their expressions with a comma between any two. -/
theorem exists_cutInto_listItems (locales : List Locale) :
    ∃ items, List.Forall₂ Says items (locales.map Locale.normal) ∧
      CutInto (listItems (locales.map localeExpr)) (separated items) := by
  induction locales with
  | nil => exact ⟨[], .nil, .nil⟩
  | cons l locales ih =>
    obtain ⟨item, hsaid, htokens⟩ := exists_says_localeExpr l
    obtain ⟨items, hitems, hlines⟩ := ih
    refine ⟨item :: items, .cons hsaid hitems, ?_⟩
    cases locales with
    | nil =>
      cases hitems
      have hline : tokens ("      " ++ localeExpr l).toList = .ok item := by
        have hlist : ("      " ++ localeExpr l).toList =
            "      ".toList ++ ((localeExpr l).toList ++ []) := by
          simp
        rw [hlist, tokens_indented, htokens, tokens_nil]
        simp [Except.map]
      have hsingle := CutInto.cons hline .nil
      rw [List.append_nil] at hsingle
      rw [separated, List.intercalate_singleton]
      exact hsingle
    | cons next locales =>
      have hline : tokens ("      " ++ localeExpr l ++ ",").toList = .ok (item ++ [.mark ',']) := by
        have hlist : ("      " ++ localeExpr l ++ ",").toList =
            "      ".toList ++ ((localeExpr l).toList ++ [',']) := by
          simp
        rw [hlist, tokens_indented, htokens, tokens_mark (by decide), tokens_nil]
        rfl
      obtain ⟨item', items, rfl⟩ := List.exists_cons_of_ne_nil (l := items) (by
        rintro rfl
        cases hitems)
      rw [separated, List.intercalate_cons_cons]
      exact .cons hline hlines

theorem exists_cutInto_localesLines (locales : List Locale) :
    ∃ items, List.Forall₂ Says items (locales.map Locale.normal) ∧
      CutInto (localesLines locales)
        (localesHead ++ (separated items ++ .mark ']' :: localesTail)) := by
  obtain ⟨items, hsaid, hitems⟩ := exists_cutInto_listItems locales
  have hgetter : tokens "  static List<Locale> get supportedLocales \x7b".toList =
      .ok (localesHead.take 8) := by decide +kernel
  have hreturn : tokens "    return const <Locale>[".toList = .ok (localesHead.drop 8) := by
    decide +kernel
  have hhead : CutInto
      ["  static List<Locale> get supportedLocales \x7b", "    return const <Locale>["]
      localesHead :=
    .cons hgetter (.cons hreturn .nil)
  have hclose : tokens "    ];".toList = .ok [.mark ']', .mark ';'] := by decide +kernel
  have hend : tokens "  \x7d".toList = .ok [.mark '\x7d'] := by decide +kernel
  have htail : CutInto ["    ];", "  \x7d"] (.mark ']' :: localesTail) :=
    .cons hclose (.cons hend .nil)
  have hlines := (hhead.append hitems).append htail
  rw [List.append_assoc] at hlines
  exact ⟨items, hsaid, hlines⟩

/-- The locales are read from the lines that they are written as, without empty subtags. -/
theorem readSupportedLocales_lines {locales : List Locale} (hne : locales ≠ []) :
    readSupportedLocales (ofLines (localesLines locales)) = some (locales.map Locale.normal) := by
  obtain ⟨items, hsaid, hlines⟩ := exists_cutInto_localesLines locales
  refine readSupportedLocales_eq_some_iff.mpr ⟨items, ?_, hsaid, tokens_ofLines hlines⟩
  rintro rfl
  cases hsaid' : locales.map Locale.normal with
  | nil => exact hne (List.map_eq_nil_iff.mp hsaid')
  | cons l more =>
    rw [hsaid'] at hsaid
    cases hsaid

end Dart

/-! ## Books -/

namespace Book

/-- The place of the first table of a locale. -/
def firstPlace (b : Book) (l : Locale) : ℕ :=
  (b.tables.map Table.locale).idxOf l

/-- The default locale and then the others, every locale of a table exactly once, the others in the
order of their first tables. -/
structure Lists (b : Book) (locales : List Locale) : Prop where
  head : locales.head? = some b.defaultLocale
  nodup : locales.Nodup
  mem : ∀ l, l ∈ locales ↔ ∃ t ∈ b.tables, t.locale = l
  order : locales.tail.Pairwise fun l m => b.firstPlace l < b.firstPlace m

theorem mem_otherLocales {b : Book} {l : Locale} :
    l ∈ b.otherLocales ↔ l ≠ b.defaultLocale ∧ ∃ t ∈ b.tables, t.locale = l := by
  rw [otherLocales, Text.mem_distinct, List.mem_filter, List.mem_map, bne_iff_ne, and_comm]

theorem mem_locales {b : Book} {l : Locale} : l ∈ b.locales ↔ ∃ t ∈ b.tables, t.locale = l := by
  rw [locales, List.mem_cons, mem_otherLocales]
  constructor
  · rintro (rfl | ⟨-, htable⟩)
    · exact b.has_default
    · exact htable
  · intro htable
    by_cases hl : l = b.defaultLocale
    · exact .inl hl
    · exact .inr ⟨hl, htable⟩

theorem lists_locales (b : Book) : b.Lists b.locales := by
  refine ⟨rfl, ?_, fun l => mem_locales, ?_⟩
  · rw [locales, List.nodup_cons]
    exact ⟨fun hmem => (mem_otherLocales.mp hmem).1 rfl, Text.nodup_distinct _⟩
  · rw [locales, List.tail_cons, otherLocales, Text.distinct_filter]
    exact (Text.pairwise_idxOf_distinct _).filter _

end Book

namespace Dart

/-- The list that is written for a book reads back as its locales, whatever texts their subtags are:
the default one, and then every other locale of a table once, in order of first appearance. The
reader accepts only lists with a comma between any two items and none behind the last. An empty
subtag is read as a missing one, and two locales have one expression exactly if this is all they
differ by; so if no table has an empty subtag, the locales are read as they are. -/
theorem supportedLocales_read_back :
    (∀ b : Book, ∃ text, Generator.renderLocales b = .ok text ∧ b.Lists b.locales ∧
      readSupportedLocales text = some (b.locales.map Locale.normal) ∧
      ((∀ t ∈ b.tables, t.locale.country ≠ some "" ∧ t.locale.script ≠ some "") →
        readSupportedLocales text = some b.locales)) ∧
    (∀ code locales, readSupportedLocales code = some locales ↔ IsGetterOf code locales) ∧
    ∀ l m : Locale, localeExpr l = localeExpr m ↔ l.normal = m.normal := by
  refine ⟨fun b => ?_, fun _ _ => readSupportedLocales_eq_some_iff, fun _ _ => localeExpr_eq_iff⟩
  have hne : b.locales ≠ [] := List.cons_ne_nil _ _
  have hread := readSupportedLocales_lines hne
  refine ⟨_, Generator.renderLocales_eq b, b.lists_locales, hread, fun hfilled => ?_⟩
  have hnormal : ∀ l ∈ b.locales, l.normal = l := by
    intro l hl
    obtain ⟨t, ht, rfl⟩ := Book.mem_locales.mp hl
    exact Locale.normal_eq_self (hfilled t ht).1 (hfilled t ht).2
  rw [hread, List.map_congr_left hnormal, List.map_id']

/-- The default table stands between others, one locale has two tables, and a language looks like
the end of one expression and the beginning of another. -/
theorem supportedLocales_read_back_of_greeting :
    let table (l : Locale) : Table := ⟨l, [], .nil⟩
    let quoting : Locale := { language := "a\"), Locale(\"b", country := some "$" }
    let hans : Locale := { language := "zh", script := some "Hans", country := some "CN" }
    let b : Book := ⟨{ language := "en" },
      [table quoting, table hans, table { language := "en" }, table quoting],
      ⟨table { language := "en" }, by simp, rfl⟩⟩
    (∀ t ∈ b.tables, t.locale.country ≠ some "" ∧ t.locale.script ≠ some "") ∧
    (∃ text, Generator.renderLocales b = .ok text ∧
      readSupportedLocales text = some [{ language := "en" }, quoting, hans]) ∧
    localeExpr { language := "en", country := some "" } = localeExpr { language := "en" } := by
  intro table quoting hans b
  have hfilled : ∀ t ∈ b.tables, t.locale.country ≠ some "" ∧ t.locale.script ≠ some "" := by
    simp [b, table, quoting, hans]
  obtain ⟨text, hrender, -, -, hread⟩ := supportedLocales_read_back.1 b
  have hlocales : b.locales = [{ language := "en" }, quoting, hans] := by rfl
  refine ⟨hfilled, ⟨text, hrender, hlocales ▸ hread hfilled⟩, ?_⟩
  exact (supportedLocales_read_back.2.2 _ _).mpr rfl

end Dart

end Phrasebook
