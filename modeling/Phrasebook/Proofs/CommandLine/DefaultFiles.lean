-- SUMMARY: The file of default settings that is written under a language's name and under its aliases.
import Phrasebook.Proofs.CommandLine.Printing
import Phrasebook.Proofs.CommandLine.Stages
import Phrasebook.Proofs.Generation.Spelling
import Phrasebook.Proofs.Registry.Registrations
import Phrasebook.Proofs.Settings.Reloading

/-!
# Files of default settings

The command that writes default settings has a language checked by the registry,
which knows aliases, and takes the settings from a table of languages, which
does not. The two are apart only for an alias of a language that the table
lists, and of those there is one: all other names stand for languages that are
not in the table, whatever is registered.
-/

namespace Phrasebook

open Text

variable {name language : String}

/-! ## Names that are registered -/

namespace Registry

variable {calls : List Call} {e : Entry}

theorem coherent_builtin : builtin.Coherent :=
  coherent_empty.run [⟨"dart", some dartClass, ["flutter"]⟩]

theorem find?_dart (calls : List Call) : (builtin.run calls).find? "dart" = some dartEntry :=
  find?_run_of_find? rfl calls

/-- The entry that is built in has two names. -/
theorem mem_names_dartEntry : name ∈ dartEntry.names ↔ name = "dart" ∨ name = "flutter" := by
  have hnames : dartEntry.names = ["dart", "flutter"] := by rfl
  simp [hnames]

theorem lower_of_find?_dartEntry (h : (builtin.run calls).find? name = some dartEntry) :
    lower name = "dart" ∨ lower name = "flutter" :=
  mem_names_dartEntry.mp ((coherent_builtin.run calls).owns h).listed

/-- Whatever else is registered, both names go on being those of the entry that is built in. -/
theorem eq_dartEntry_of_lower (h : (builtin.run calls).find? name = some e)
    (hname : lower name = "dart" ∨ lower name = "flutter") : e = dartEntry := by
  have howns := (coherent_builtin.run calls).owns h
  have hdart := (coherent_builtin.run calls).owns (find?_dart calls)
  have hshared : lower name ∈ dartEntry.names := mem_names_dartEntry.mpr hname
  exact (hdart.alone name e h ⟨lower name, hshared, howns.listed⟩).symm

/-- What a registered name stands for: the language that is built in has two names, and no other
name stands for a language of these names. -/
theorem resolve_run_builtin (h : (builtin.run calls).resolve name = .ok language) :
    ((lower name = "dart" ∨ lower name = "flutter") ∧ language = "dart") ∨
      (lower name ≠ "dart" ∧ lower name ≠ "flutter" ∧ lower language ≠ "dart") := by
  obtain ⟨e, hentry, rfl⟩ := resolve_eq_ok_iff.mp h
  have hfind := entry_eq_ok_iff.mp hentry
  by_cases hname : lower name = "dart" ∨ lower name = "flutter"
  · refine .inl ⟨hname, ?_⟩
    rw [eq_dartEntry_of_lower hfind hname]
    rfl
  · refine .inr ⟨fun h => hname (.inl h), fun h => hname (.inr h), fun hlower => hname ?_⟩
    -- The language would be a name of both entries.
    have hlanguage := ((coherent_builtin.run calls).owns hfind).found _ List.mem_cons_self
    rw [eq_dartEntry_of_lower hlanguage (.inl hlower)] at hfind
    exact lower_of_find?_dartEntry hfind

theorem isSupported_of_resolve {r : Registry} (h : r.resolve name = .ok language) :
    r.isSupported name := by
  obtain ⟨e, hentry, -⟩ := resolve_eq_ok_iff.mp h
  exact isSupported_iff.mpr ⟨e, entry_eq_ok_iff.mp hentry⟩

end Registry

/-! ## Texts of default settings -/

namespace Settings

/-- The text of the file of default settings: those that every language has, and those of the custom
section that the table has for the name. -/
def defaultText (name : String) : String :=
  (Json.obj (savedFields {} (customMembers (defaultsOf name)))).pretty

theorem fileText_load (store : Store) (name : String) :
    ∃ s, load store name .null .null = .ok s ∧ s.fileText = .ok (defaultText name) := by
  have hload : load store name .null .null = (ofMerged (defaultsOf name)).mapError .misuse := rfl
  rw [hload, defaultText]
  rcases defaultsOf_eq_or name with hdart | hnil
  · rw [hdart]
    exact ⟨_, rfl, fileText_eq rfl⟩
  · rw [hnil]
    exact ⟨_, rfl, fileText_eq rfl⟩

theorem defaultText_eq_of_defaultsOf (h : defaultsOf name = defaultsOf language) :
    defaultText name = defaultText language := by
  rw [defaultText, h, defaultText]

/-- Without the custom section the text is another one. -/
theorem defaultText_ne_of_defaultsOf (h : defaultsOf name = []) :
    defaultText name ≠ defaultText "dart" := by
  rw [defaultText, h]
  decide +kernel

end Settings

/-! ## Command lines -/

namespace CommandLine

open Settings

variable {α : Type} {r : Registry} {store : Store} {world : Loading.World} {console : Console}
  {line line' rest : List String} {word output text text' stdin : String} {result : Result}

/-- A command line that asks for the default settings of a language in a file. -/
def AsksFor (line : List String) (name output : String) : Prop :=
  ∃ level, Request.ofWords line = .ok
    { logLevel := some level
      command := some (.config { language := some name, output := some output }) }

theorem words_cons {flags : List (Flag α)} {ws : List (Word α)} {role : Role α} (hne : word ≠ "--")
    (hrole : roleOf flags word = .ok role) (hrest : words flags rest = .ok ws) :
    words flags (word :: rest) = .ok (⟨word, role⟩ :: ws) := by
  simp only [words, hne, if_false, hrole, hrest, bind, Except.bind]
  rfl

/-- A word that does not begin with a hyphen is an operand to every command. -/
theorem words_cons_operand {flags : List (Flag α)} {ws : List (Word α)}
    (hword : word.toList.head? ≠ some '-') (hrest : words flags rest = .ok ws) :
    words flags (word :: rest) = .ok (⟨word, .operand⟩ :: ws) := by
  refine words_cons ?separator ?role hrest
  case separator =>
    rintro rfl
    exact hword (by decide)
  case role =>
    unfold roleOf
    split
    · rename_i heq
      rw [heq] at hword
      exact absurd rfl hword
    · rfl

/-- The flags with their values as words of their own. -/
theorem asksFor_words (hname : name.toList.head? ≠ some '-')
    (houtput : output.toList.head? ≠ some '-') :
    AsksFor ["config", "--language", name, "--output", output] name output := by
  have hwords : words programFlags ["config", "--language", name, "--output", output] = .ok _ :=
    words_cons_operand (by decide) (words_cons (by decide) rfl (words_cons_operand hname
      (words_cons (by decide) rfl (words_cons_operand houtput rfl))))
  have hconfig : words configFlags ["--language", name, "--output", output] = .ok _ :=
    words_cons (by decide) rfl (words_cons_operand hname
      (words_cons (by decide) rfl (words_cons_operand houtput rfl)))
  have hrequest : ConfigRequest.ofWords ["--language", name, "--output", output] =
      .ok ({ language := some name, output := some output }, []) := by
    simp only [ConfigRequest.ofWords, itemsOf, items, hconfig]
    rfl
  have htake : Request.takeOperand ({}, []) "config" ["--language", name, "--output", output] = .ok
      ({ command := some (.config { language := some name, output := some output }) }, []) := by
    simp only [Request.takeOperand, Command.ofWords, hrequest]
    rfl
  have hitems : itemsOf .program programFlags .command
      ["config", "--language", name, "--output", output] =
        .ok [.operand "config" ["--language", name, "--output", output]] := by
    simp only [itemsOf, items, hwords]
    rfl
  refine ⟨"WARNING", ?_⟩
  simp only [Request.ofWords, hitems, takeItems, htake, bind, Except.bind]
  rfl

/-- The store that a run leaves, however it ends. -/
def Result.finalStore (result : Result) : Store :=
  match result.outcome with
  | .ok o => o.store
  | .error i => i.store

/-- A run leaves a file with a text in the store, and else what was there before. -/
def Result.Writes (result : Result) (before : Store) (output text : String) : Prop :=
  before.write (Path.ofString output) (Utf8.encode text.toList) = .ok result.finalStore

/-- What is written can be read from the store that is left. -/
theorem Result.Writes.text_eq (h : result.Writes store output text)
    (h' : result.Writes store output text') : text = text' := by
  have hread := Store.read_of_write h
  rw [Store.read_of_write h', Except.ok.injEq] at hread
  have hdecode := Utf8.decode_encode text.toList
  rw [← hread, Utf8.decode_encode, Except.ok.injEq] at hdecode
  exact (String.toList_inj.mp hdecode).symm

theorem finalStore_exitWith (exit : Nat) (prints : List Print) (store : Store) :
    Result.finalStore { outcome := console.exitWith exit prints store } = store := by
  by_cases h : console.Accepts prints
  · rw [Console.exitWith_of_accepts h]
    rfl
  · obtain ⟨text, output, hexit, -⟩ : ∃ text output, console.exitWith exit prints store =
        .error { fault := .markup text, output, store } ∧ ¬ console.accepts text :=
      Console.exitWith_of_not_accepts h
    rw [hexit]
    rfl

/-- The file is written before anything is printed, under a name that is taken as it is given. -/
theorem ConfigRequest.run_of_isSupported (hname : r.isSupported name)
    (hpath : store.IsWritable (Path.ofString output)) :
    ∃ done, ConfigRequest.run { language := some name, output := some output } r store = .ok done ∧
      store.write (Path.ofString output) (Utf8.encode (defaultText name).toList) =
        .ok done.store := by
  obtain ⟨s, hload, htext⟩ := fileText_load store name
  obtain ⟨store', hsave, hwrite⟩ := exists_save htext hpath
  have hlanguage : checkLanguage r store (some name) = .ok name :=
    checkLanguage_eq_ok_iff.mpr ⟨rfl, hname⟩
  refine ⟨⟨?prints, store'⟩, ?run, hwrite⟩
  case run =>
    simp only [ConfigRequest.run, hlanguage, hload, hsave, bind, Except.bind, Except.mapError]
    rfl

theorem writes_of_asksFor (hline : AsksFor line name output) (hname : r.isSupported name)
    (hpath : world.store.IsWritable (Path.ofString output)) :
    (run r console world stdin line).Writes world.store output (defaultText name) := by
  obtain ⟨level, hline⟩ := hline
  obtain ⟨done, hdone, hwrite⟩ := ConfigRequest.run_of_isSupported hname hpath
  have hrun : run r console world stdin line = .ofCommand console (.ok done) [] := by
    rw [run, hline, ← hdone]
    rfl
  rw [Result.Writes, hrun, hwrite]
  exact congrArg Except.ok (finalStore_exitWith 0 done.prints done.store).symm

/-- The default settings that are written under a registered name and under the language that it
stands for are the same exactly unless the name is that of the alias that is built in. -/
theorem default_files_agree_iff (calls : List Registry.Call) (world : Loading.World)
    (console : Console) (stdin : String)
    (hname : (Registry.builtin.run calls).resolve name = .ok language)
    (hpath : world.store.IsWritable (Path.ofString output))
    (hline : AsksFor line name output) (hline' : AsksFor line' language output) :
    let r := Registry.builtin.run calls
    ∃ text text', (run r console world stdin line).Writes world.store output text ∧
      (run r console world stdin line').Writes world.store output text' ∧
      text' = defaultText language ∧ (text = text' ↔ lower name ≠ "flutter") := by
  intro r
  have hlanguage : r.isSupported language := by
    have hagrees := (Registry.coherent_builtin.run calls).agrees name
    obtain ⟨resolved, hresolved, hself⟩ :=
      hagrees.resolved (Registry.isSupported_of_resolve hname)
    obtain rfl : resolved = language := Except.ok.inj (hresolved.symm.trans hname)
    exact Registry.isSupported_of_resolve hself
  refine ⟨defaultText name, defaultText language,
    writes_of_asksFor hline (Registry.isSupported_of_resolve hname) hpath,
    writes_of_asksFor hline' hlanguage hpath, rfl, ?_⟩
  rcases Registry.resolve_run_builtin hname with ⟨hdart | hflutter, rfl⟩ | ⟨hdart, hflutter, hother⟩
  · -- The name of the language itself.
    refine iff_of_true (defaultText_eq_of_defaultsOf (defaultsOf_of_lower hdart)) ?_
    rw [hdart]
    decide
  · -- The alias, which the table of default settings does not list.
    have hnone : defaultsOf name = [] := by
      refine defaultsOf_of_ne ?_
      rw [hflutter]
      decide
    exact iff_of_false (defaultText_ne_of_defaultsOf hnone) (not_not_intro hflutter)
  · -- A name of another language, which the table does not list either.
    refine iff_of_true (defaultText_eq_of_defaultsOf ?_) hflutter
    rw [defaultsOf_of_ne hdart, defaultsOf_of_ne hother]

theorem isWritable_empty : ({} : Store).IsWritable (Path.ofString "o.json") :=
  ⟨["o.json"], by decide +kernel, by decide⟩

/-- A language that is added, under an alias in another letter case. -/
theorem default_files_agree_of_added_alias :
    let r := Registry.builtin.run [⟨"Echo", some dartClass, ["Copy"]⟩]
    let line := ["config", "--language", "COPY", "--output", "o.json"]
    let line' := ["config", "--language", "echo", "--output", "o.json"]
    r.resolve "COPY" = .ok "echo" ∧ ({} : Store).IsWritable (Path.ofString "o.json") ∧
      AsksFor line "COPY" "o.json" ∧ AsksFor line' "echo" "o.json" ∧
      ∃ text, (run r {} {} "" line).Writes {} "o.json" text ∧
        (run r {} {} "" line').Writes {} "o.json" text := by
  intro r line line'
  have hname : r.resolve "COPY" = .ok "echo" := by rfl
  have hline : AsksFor line "COPY" "o.json" := asksFor_words (by decide) (by decide)
  have hline' : AsksFor line' "echo" "o.json" := asksFor_words (by decide) (by decide)
  obtain ⟨text, text', hwrites, hwrites', -, hsame⟩ :=
    default_files_agree_iff [⟨"Echo", some dartClass, ["Copy"]⟩] {} {} "" hname isWritable_empty hline
      hline'
  obtain rfl := hsame.mpr (by decide +kernel)
  exact ⟨hname, isWritable_empty, hline, hline', text, hwrites, hwrites'⟩

/-- Under the alias that is built in, no default settings of the custom section are written. -/
theorem default_files_differ_of_builtin_alias :
    let line := ["config", "--language", "flutter", "--output", "o.json"]
    let line' := ["config", "--language", "dart", "--output", "o.json"]
    Registry.builtin.resolve "flutter" = .ok "dart" ∧
      ({} : Store).IsWritable (Path.ofString "o.json") ∧
      AsksFor line "flutter" "o.json" ∧ AsksFor line' "dart" "o.json" ∧
      ¬ ∃ text, (run Registry.builtin {} {} "" line).Writes {} "o.json" text ∧
        (run Registry.builtin {} {} "" line').Writes {} "o.json" text := by
  intro line line'
  have hline : AsksFor line "flutter" "o.json" := asksFor_words (by decide) (by decide)
  have hline' : AsksFor line' "dart" "o.json" := asksFor_words (by decide) (by decide)
  have hname : Registry.builtin.resolve "flutter" = .ok "dart" := by rfl
  refine ⟨hname, isWritable_empty, hline, hline', ?_⟩
  rintro ⟨text, hwrites, hwrites'⟩
  have hflutter := hwrites.text_eq (writes_of_asksFor hline (by rfl) isWritable_empty)
  have hdart := hwrites'.text_eq (writes_of_asksFor hline' (by rfl) isWritable_empty)
  exact defaultText_ne_of_defaultsOf (by rfl) (hflutter.symm.trans hdart)

end CommandLine

end Phrasebook
