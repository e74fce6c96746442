-- SUMMARY: A text gives the same document whether it comes from a file, an address or a stream.
import Mathlib.Data.List.TakeWhile
import Phrasebook.Proofs.Json.LineBreaks
import Phrasebook.Proofs.Loading.Escapes
import Phrasebook.Proofs.Loading.Shape
import Phrasebook.Proofs.Text.Utf8

/-!
# The sources agree

A file is decoded and its line breaks are unified; what an address replies and
what a stream holds is read as it is. The reader of JSON does not tell the texts
apart, so all three sources give the document of a text, or all three refuse it,
or a limit of the reader stops all three.
-/

namespace Phrasebook.Loading

open Text

variable {world : World} {file url text source given : String} {fields : Json.Fields}
  {document : Json} {e : Json.Excess}

/-! ## What becomes of a text -/

/-- What `load` returns for a document that is read under the name of its source. -/
def named (given : String) (r : Except Fault Json.Fields × List Notice) :
    Except Fault Loaded × List Notice :=
  (r.1.map (⟨given, ·⟩), r.2)

/-- The notice of the keys of a document that mean nothing. -/
def ignoredNotices (source : String) (fields : Json.Fields) : List Notice :=
  if (ignoredKeys fields).isEmpty then [] else [.ignoredKeys source (ignoredKeys fields)]

/-- The document is loaded, under the name its source is given by. A notice names the source. -/
def Yields (fields : Json.Fields) (given source : String)
    (r : Except Fault Loaded × List Notice) : Prop :=
  r = (.ok ⟨given, fields⟩, ignoredNotices source fields)

/-- Nothing is loaded, for a fault of loading itself. -/
def Refuses (r : Except Fault Loaded × List Notice) : Prop :=
  ∃ fault, r = (.error fault, []) ∧ ¬ fault.Escapes

/-- Nothing is loaded, since the text goes beyond a limit of the reader. -/
def StopsAt (e : Json.Excess) (r : Except Fault Loaded × List Notice) : Prop :=
  r = (.error (.excess e), [])

/-- The text is JSON, and what it holds has the shape of a document. -/
def HoldsDocument (text : String) (fields : Json.Fields) : Prop :=
  ∃ document, Json.parse text = .ok document ∧ HasShape document fields

/-- The text goes beyond a limit of the reader. -/
def Exceeds (text : String) (e : Json.Excess) : Prop :=
  Json.parse text = .error (.excess e)

theorem checkShape_of_hasShape (h : HasShape document fields) (source : String) :
    checkShape document source = (.ok fields, ignoredNotices source fields) := by
  obtain ⟨rfl, ⟨tag, hhome⟩, locales, hlocales⟩ := h
  rw [Json.Fields.get?] at hhome hlocales
  simp only [checkShape, hhome, hlocales]
  rfl

/-- What has not the shape of a document is refused without a notice. -/
theorem checkShape_snd_of_error {fault : Fault} (h : (checkShape document source).1 = .error fault) :
    (checkShape document source).2 = [] := by
  unfold checkShape at h ⊢
  split at h
  · split at h
    · cases h
    · rfl
    · rfl
  · rfl

theorem yields_decode (h : HoldsDocument text fields) (given source : String) :
    Yields fields given source (named given (decode text source)) := by
  obtain ⟨document, hparse, hshape⟩ := h
  rw [Yields, named, decode_of_parse hparse, checkShape_of_hasShape hshape]
  rfl

theorem stopsAt_decode (h : Exceeds text e) (given source : String) :
    StopsAt e (named given (decode text source)) := by
  rw [Exceeds] at h
  unfold StopsAt named decode
  simp only [h]
  rfl

/-- A text that is no document and goes beyond no limit is refused. -/
theorem refuses_decode (hdocument : ¬ ∃ fields, HoldsDocument text fields)
    (hlimits : ¬ ∃ e, Exceeds text e) (given source : String) :
    Refuses (named given (decode text source)) := by
  cases hparse : Json.parse text with
  | error obstacle =>
    cases obstacle with
    | excess e => exact absurd ⟨e, hparse⟩ hlimits
    | fault fault =>
      refine ⟨.malformed source fault, ?_, nofun⟩
      unfold named decode
      simp only [hparse]
      rfl
  | ok document =>
    rw [decode_of_parse hparse]
    cases hcheck : (checkShape document source).1 with
    | ok fields => exact absurd ⟨fields, document, hparse, checkShape_eq_ok_iff.mp hcheck⟩ hdocument
    | error fault =>
      refine ⟨fault, ?_, checkShape_not_escapes hcheck⟩
      rw [named, hcheck, checkShape_snd_of_error hcheck]
      rfl

theorem not_refuses_of_yields {r : Except Fault Loaded × List Notice}
    (h : Yields fields given source r) : ¬ Refuses r := by
  rw [Yields] at h
  rintro ⟨fault, hfault, -⟩
  rw [h] at hfault
  cases hfault

theorem fields_eq_of_yields {r : Except Fault Loaded × List Notice} {fields' : Json.Fields}
    (h : Yields fields given source r) (h' : Yields fields' given source r) : fields = fields' := by
  rw [Yields] at h h'
  cases h.symm.trans h'
  rfl

/-! ## Line breaks -/

/-- The text with a line feed for every line break, as it is read from a file. -/
def unified (text : String) : String :=
  String.ofList (Utf8.unifyBreaks text.toList)

theorem holdsDocument_unified_iff : HoldsDocument (unified text) fields ↔ HoldsDocument text fields := by
  have hsame := Json.parse_unifyBreaks text
  unfold HoldsDocument unified
  generalize Json.parse text = r, Json.parse (String.ofList (Utf8.unifyBreaks text.toList)) = r' at hsame ⊢
  cases hsame <;> simp

theorem exceeds_unified_iff : Exceeds (unified text) e ↔ Exceeds text e := by
  have hsame := Json.parse_unifyBreaks text
  unfold Exceeds unified
  generalize Json.parse text = r, Json.parse (String.ofList (Utf8.unifyBreaks text.toList)) = r' at hsame ⊢
  cases hsame <;> simp

/-! ## Three sources of a text -/

/-- A text that a file holds, that an address replies without an error, and that is at hand as a
stream. -/
structure Offers (world : World) (file url text : String) : Prop where
  written : world.store.read (Path.ofString file) = .ok (Utf8.encode text.toList)
  address : ∃ parts, Url.ofString? url = some parts ∧ parts.isFetchable
  replied : ∃ status, world.fetch url = .reply status text ∧ ¬ (400 ≤ status ∧ status < 600)

theorem Offers.load_file (h : Offers world file url text) : load world { file := some file } =
    named file (decode (unified text) (Path.ofString file).text) := by
  have htext := fileText_of_read h.written (Utf8.decode_encode text.toList)
  rw [Loading.load_file, ofFile_of_fileText htext]
  rfl

theorem Offers.urlText_eq (h : Offers world file url text) : urlText world.fetch url = .ok text := by
  obtain ⟨parts, hparts, hfetchable⟩ := h.address
  obtain ⟨status, hreply, hstatus⟩ := h.replied
  unfold urlText
  simp only [hparts, hfetchable, hreply, if_true]
  rw [if_neg (by simpa using hstatus)]

theorem Offers.load_url (h : Offers world file url text) : load world { url := some url } =
    named url (decode text url) := by
  rw [Loading.load_url]
  unfold ofUrl
  simp only [h.urlText_eq]
  rfl

/-- What all three sources have in common: it holds of the name that a source is given by, the name
that a notice has for it, and what is loaded from it. -/
structure FromAll (world : World) (file url text : String)
    (P : String → String → Except Fault Loaded × List Notice → Prop) : Prop where
  file : P file (Path.ofString file).text (load world { file := some file })
  url : P url url (load world { url := some url })
  stream : P streamSource streamSource (load world { stream := some text })

/-- What comes of a text under any name comes of all its sources, if it does not depend on line
breaks. -/
theorem Offers.fromAll (h : Offers world file url text)
    {P : String → String → Except Fault Loaded × List Notice → Prop}
    (hunified : ∀ given source, P given source (named given (decode (unified text) source)))
    (htext : ∀ given source, P given source (named given (decode text source))) :
    FromAll world file url text P where
  file := by
    rw [h.load_file]
    exact hunified ..
  url := by
    rw [h.load_url]
    exact htext ..
  stream := htext ..

theorem Offers.yields (h : Offers world file url text) (hdocument : HoldsDocument text fields) :
    FromAll world file url text (Yields fields) :=
  h.fromAll (yields_decode (holdsDocument_unified_iff.mpr hdocument)) (yields_decode hdocument)

theorem Offers.stopsAt (h : Offers world file url text) (hexceeds : Exceeds text e) :
    FromAll world file url text fun _ _ => StopsAt e :=
  h.fromAll (stopsAt_decode (exceeds_unified_iff.mpr hexceeds)) (stopsAt_decode hexceeds)

theorem Offers.refuses (h : Offers world file url text)
    (hdocument : ¬ ∃ fields, HoldsDocument text fields) (hlimits : ¬ ∃ e, Exceeds text e) :
    FromAll world file url text fun _ _ => Refuses := by
  refine h.fromAll (refuses_decode ?document ?limits) (refuses_decode hdocument hlimits)
  case document => simpa only [holdsDocument_unified_iff] using hdocument
  case limits => simpa only [exceeds_unified_iff] using hlimits

/-- Where a limit stops the stream, it neither yields a document nor refuses the text. -/
theorem not_agree_of_exceeds (h : Exceeds text e) :
    ¬ ((∃ fields, FromAll world file url text (Yields fields)) ∨
      FromAll world file url text fun _ _ => Refuses) := by
  have hstream : StopsAt e (load world { stream := some text }) := stopsAt_decode h ..
  rw [StopsAt] at hstream
  rintro (⟨fields, hyield⟩ | hrefuse)
  · have hstream' := hyield.stream
    rw [Yields, hstream] at hstream'
    cases hstream'
  · obtain ⟨fault, hfault, hescapes⟩ := hrefuse.stream
    rw [hstream] at hfault
    cases hfault
    exact hescapes (.excess e)

/-- A text that three sources offer is loaded as the same document by all three, or refused by all
three, exactly if it goes beyond no limit of the reader. It is loaded exactly if it holds the
document, and a limit that it goes beyond stops all three. -/
theorem sources_agree (h : Offers world file url text) :
    (((∃ fields, FromAll world file url text (Yields fields)) ∨
      FromAll world file url text fun _ _ => Refuses) ↔
        ¬ ∃ e, Exceeds text e) ∧
      (∀ fields, FromAll world file url text (Yields fields) ↔ HoldsDocument text fields) ∧
      ∀ e, Exceeds text e → FromAll world file url text fun _ _ => StopsAt e := by
  refine ⟨⟨?agreed, ?within⟩, fun fields => ⟨?held, h.yields⟩, fun e => h.stopsAt⟩
  case agreed =>
    rintro hagree ⟨e, hexceeds⟩
    exact not_agree_of_exceeds hexceeds hagree
  case within =>
    intro hlimits
    by_cases hdocument : ∃ fields, HoldsDocument text fields
    · exact .inl (hdocument.imp fun _ => h.yields)
    · exact .inr (h.refuses hdocument hlimits)
  case held =>
    -- What the stream yields is in the text.
    intro hyield
    by_cases hdocument : ∃ fields, HoldsDocument text fields
    · obtain ⟨fields', hfields'⟩ := hdocument
      rw [fields_eq_of_yields hyield.stream (h.yields hfields').stream]
      exact hfields'
    · by_cases hlimits : ∃ e, Exceeds text e
      · obtain ⟨e, he⟩ := hlimits
        exact absurd (.inl ⟨fields, hyield⟩) (not_agree_of_exceeds he)
      · exact absurd (h.refuses hdocument hlimits).stream (not_refuses_of_yields hyield.stream)

/-! ## Texts on offer -/

/-- A world in which a text lies in a file and is the reply at every address. -/
def offering (text : String) : World where
  store := { nodes := [(["d.json"], .file (Utf8.encode text.toList))] }
  fetch := fun _ => .reply 200 text

/-- Every text can be offered. -/
theorem offers_offering (text : String) : Offers (offering text) "d.json" "http://h/" text where
  written := rfl
  address := ⟨_, rfl, by decide⟩
  replied := ⟨200, rfl, by decide⟩

/-- A document with all three kinds of line breaks, and a key that means nothing. -/
def brokenText : String :=
  "\x7b\"default_locale\":\r\n\"en\",\r\"locales\":\n\x7b\x7d, \"title\": \"\"\x7d\r\n"

theorem sources_agree_of_line_breaks :
    Offers (offering brokenText) "d.json" "http://h/" brokenText ∧
      FromAll (offering brokenText) "d.json" "http://h/" brokenText (Yields
        [("default_locale", .str "en"), ("locales", .obj []), ("title", .str "")]) := by
  have hoffers := offers_offering brokenText
  have hparse : Json.parse brokenText = .ok (.obj
      [("default_locale", .str "en"), ("locales", .obj []), ("title", .str "")]) := by
    simp only [Json.parse, brokenText, String.reduceToList]
    rfl
  exact ⟨hoffers, ((sources_agree hoffers).2.1 _).mpr ⟨_, hparse, rfl, ⟨_, rfl⟩, _, rfl⟩⟩

end Phrasebook.Loading

namespace Phrasebook.Json

variable {cs : List Char} {text : String}

/-! ## Too many digits -/

theorem isSpace_of_isDigit {c : Char} (h : c.isDigit) : isSpace c = false := by
  unfold isSpace
  simp only [Bool.or_eq_false_iff, decide_eq_false_iff_not]
  refine ⟨⟨⟨?_, ?_⟩, ?_⟩, ?_⟩ <;> rintro rfl <;> exact absurd h (by decide)

theorem scalar_of_isDigit {c : Char} (h : c.isDigit) (cs : List Char) :
    scalar (c :: cs) = number (c :: cs) := by
  have hwords : ∀ w ∈ words, w.1.head?.any (!·.isDigit) := by decide
  have hnone : words.find? (·.1.isPrefixOf (c :: cs)) = none := by
    rw [List.find?_eq_none]
    intro w hw hprefix
    have hfirst := hwords w hw
    cases hword : w.1 with
    | nil =>
      rw [hword] at hfirst
      cases hfirst
    | cons d rest =>
      rw [hword, List.isPrefixOf_iff_prefix, List.cons_prefix_cons] at hprefix
      rw [hword, hprefix.1] at hfirst
      simp [h] at hfirst
  unfold scalar
  rw [hnone]

/-- What begins with a digit is read as a number. -/
theorem value_of_isDigit {c : Char} (h : c.isDigit) (fuel depth : Nat) (cs : List Char) :
    value (fuel + 1) depth (c :: cs) = number (c :: cs) := by
  have hother {d : Char} {rest : List Char} (hd : ¬ d.isDigit) : c :: cs ≠ d :: rest := by
    intro heq
    cases heq
    exact hd h
  unfold value
  split
  case h_6 => exact scalar_of_isDigit h cs
  all_goals exact absurd ‹_ = _› (hother (by decide))

/-- Digits that do not start with a zero are an integer, if they are not too many. -/
theorem number_of_digits (hdigits : ∀ c ∈ cs, c.isDigit) (hzero : cs.head? ≠ some '0')
    (hlength : maxDigits < cs.length) : number cs = .error (.excess .digits) := by
  obtain ⟨c, rest, rfl⟩ := List.exists_cons_of_length_pos (Nat.zero_lt_of_lt hlength)
  have hsign : numberSign (c :: rest) = (false, c :: rest) := by
    unfold numberSign
    split
    · rename_i heq
      cases heq
      exact absurd (hdigits _ List.mem_cons_self) (by decide)
    · rfl
  have hwhole : wholeDigits (c :: rest) = (c :: rest, []) := by
    unfold wholeDigits
    split
    · rename_i heq
      cases heq
      exact absurd rfl hzero
    · rw [List.takeWhile_eq_self_iff.mpr hdigits, List.dropWhile_eq_nil_iff.mpr hdigits]
  rw [number_eq, hsign, hwhole]
  exact if_pos hlength

/-- An integer that is too long goes beyond the limit for digits. -/
theorem parse_of_digits (hdigits : ∀ c ∈ text.toList, c.isDigit)
    (hzero : text.toList.head? ≠ some '0') (hlength : maxDigits < text.toList.length) :
    parse text = .error (.excess .digits) := by
  have hnumber := number_of_digits hdigits hzero hlength
  unfold parse document
  generalize text.toList = cs at *
  obtain ⟨c, rest, rfl⟩ := List.exists_cons_of_length_pos (Nat.zero_lt_of_lt hlength)
  have hfirst := hdigits c List.mem_cons_self
  have hmark : (c :: rest).head? ≠ some '\uFEFF' := by
    rintro heq
    cases heq
    exact absurd hfirst (by decide)
  rw [if_neg hmark, skipSpace, List.dropWhile_cons_of_neg (by simp [isSpace_of_isDigit hfirst]),
    value_of_isDigit hfirst, hnumber]
  rfl

end Phrasebook.Json

namespace Phrasebook.Loading

/-- One digit more than the reader takes. -/
def longNumber : String :=
  String.ofList (List.replicate (Json.maxDigits + 1) '1')

/-- A number that is too long is neither loaded nor refused by the three sources. -/
theorem sources_stop_at_long_number :
    Offers (offering longNumber) "d.json" "http://h/" longNumber ∧
      ¬ ((∃ fields, FromAll (offering longNumber) "d.json" "http://h/" longNumber (Yields fields)) ∨
        FromAll (offering longNumber) "d.json" "http://h/" longNumber fun _ _ => Refuses) := by
  refine ⟨offers_offering longNumber, not_agree_of_exceeds (e := .digits) ?_⟩
  refine Json.parse_of_digits ?_ ?_ ?_
  · rw [longNumber, String.toList_ofList]
    intro c hc
    rw [List.eq_of_mem_replicate hc]
    decide
  · rw [longNumber, String.toList_ofList, List.replicate_succ, List.head?_cons]
    exact (by decide : some '1' ≠ some '0')
  · rw [longNumber, String.toList_ofList, List.length_replicate]
    exact Nat.lt_succ_self _

end Phrasebook.Loading
