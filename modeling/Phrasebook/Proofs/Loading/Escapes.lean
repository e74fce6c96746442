-- SUMMARY: Which sources cannot be loaded for a fault that is not one of loading itself.
import Phrasebook.Loading
import Phrasebook.Proofs.Store.Locating

/-!
# Sources that cannot be loaded

Loading has a fault of its own for most of what can go wrong. Three faults it
passes on: that of a path with a NUL character, that of an address which falls
apart, and that of a text which goes beyond a limit of the JSON reader.
-/

namespace Phrasebook.Loading

/-- A fault that is passed on. -/
inductive Fault.Escapes : Fault → Prop
  | badPath : Escapes .badPath
  | splitUrl : Escapes .splitUrl
  | excess (e : Json.Excess) : Escapes (.excess e)

/-- The one source that is given has a text. -/
inductive HasText (world : World) : Sources → String → Prop
  | file {file text : String} (h : fileText world.store (Path.ofString file) = .ok text) :
      HasText world { file := some file } text
  | url {url text : String} (h : urlText world.fetch url = .ok text) : HasText world { url := some url } text
  | stream (text : String) : HasText world { stream := some text } text

/-- The one source that is given cannot be asked for, or its text goes beyond a limit. -/
inductive Sources.Escapes (world : World) : Sources → Prop
  | path {file : String} (h : Store.HasNul (Path.ofString file)) : Escapes world { file := some file }
  | address {url : String} (h : Url.ofString? url = none) : Escapes world { url := some url }
  | excess {sources : Sources} {text : String} {e : Json.Excess} (htext : HasText world sources text)
      (hparse : Json.parse text = .error (.excess e)) : Escapes world sources

/-! ## Texts -/

variable {world : World} {store : Store} {sources : Sources} {fetch : String → Fetch}
  {file url text source : String} {document : Json}

theorem fileText_escapes_iff {path : Path} :
    (∃ fault, fileText store path = .error fault ∧ fault.Escapes) ↔ Store.HasNul path := by
  rw [← Store.read_eq_nulCharacter_iff (s := store)]
  constructor
  · rintro ⟨fault, hfault, hescapes⟩
    unfold fileText at hfault
    split at hfault
    · cases hfault
      cases hescapes
    · assumption
    · cases hfault
      cases hescapes
    · split at hfault
      · cases hfault
        cases hescapes
      · cases hfault
  · intro hread
    exact ⟨.badPath, by simp only [fileText, hread], .badPath⟩

theorem urlText_escapes_iff :
    (∃ fault, urlText fetch url = .error fault ∧ fault.Escapes) ↔ Url.ofString? url = none := by
  constructor
  · rintro ⟨fault, hfault, hescapes⟩
    unfold urlText at hfault
    split at hfault
    · assumption
    · -- Beyond a parsed address, no fault is passed on.
      split at hfault
      · split at hfault
        · cases hfault
          cases hescapes
        · cases hfault
          cases hescapes
        · split at hfault <;> cases hfault
          cases hescapes
      · cases hfault
        cases hescapes
  · intro hurl
    refine ⟨.splitUrl, ?_, .splitUrl⟩
    unfold urlText
    simp only [hurl]

theorem checkShape_not_escapes {fault : Fault} (h : (checkShape document source).1 = .error fault) :
    ¬ fault.Escapes := by
  unfold checkShape at h
  split at h
  · split at h <;> cases h <;> nofun
  · cases h
    nofun

theorem decode_escapes_iff : (∃ fault, (decode text source).1 = .error fault ∧ fault.Escapes) ↔
    ∃ e, Json.parse text = .error (.excess e) := by
  unfold decode
  cases hparse : Json.parse text with
  | ok document =>
    refine iff_of_false ?_ (by simp)
    rintro ⟨fault, hfault, hescapes⟩
    exact checkShape_not_escapes hfault hescapes
  | error obstacle =>
    cases obstacle with
    | fault fault =>
      refine iff_of_false ?_ (by simp)
      rintro ⟨_, hfault, hescapes⟩
      cases hfault
      cases hescapes
    | excess e => exact iff_of_true ⟨_, rfl, .excess e⟩ ⟨e, rfl⟩

/-! ## Sources -/

/-- A text that has to be got first is read then. -/
theorem read_escapes_iff (source : String) {x : Except Fault String}
    {r : Except Fault Json.Fields × List Notice}
    (herror : ∀ fault, x = .error fault → r = (.error fault, []))
    (hok : ∀ text, x = .ok text → r = decode text source) :
    (∃ fault, r.1 = .error fault ∧ fault.Escapes) ↔
      (∃ fault, x = .error fault ∧ fault.Escapes) ∨
        ∃ text, x = .ok text ∧ ∃ e, Json.parse text = .error (.excess e) := by
  cases x with
  | error fault => simp [herror fault rfl]
  | ok text => simp [hok text rfl, decode_escapes_iff]

theorem ofFile_escapes_iff : (∃ fault, (ofFile store file).1 = .error fault ∧ fault.Escapes) ↔
    Store.HasNul (Path.ofString file) ∨
      ∃ text, fileText store (Path.ofString file) = .ok text ∧
        ∃ e, Json.parse text = .error (.excess e) := by
  refine (read_escapes_iff (Path.ofString file).text (fun fault h => ?_) fun text h => ?_).trans
    (or_congr_left fileText_escapes_iff)
  · unfold ofFile
    simp only [h]
  · unfold ofFile
    simp only [h]

theorem ofUrl_escapes_iff : (∃ fault, (ofUrl fetch url).1 = .error fault ∧ fault.Escapes) ↔
    Url.ofString? url = none ∨
      ∃ text, urlText fetch url = .ok text ∧ ∃ e, Json.parse text = .error (.excess e) := by
  refine (read_escapes_iff url (fun fault h => ?_) fun text h => ?_).trans
    (or_congr_left urlText_escapes_iff)
  · unfold ofUrl
    simp only [h]
  · unfold ofUrl
    simp only [h]

/-- The name of the source that goes with the fields does not matter to a fault. -/
theorem map_escapes_iff {x : Except Fault Json.Fields} :
    (∃ fault, x.map (Loaded.mk source) = .error fault ∧ fault.Escapes) ↔
      ∃ fault, x = .error fault ∧ fault.Escapes := by
  cases x <;> simp [Except.map]

namespace Sources

theorem escapes_file_iff : Escapes world { file := some file } ↔
    Store.HasNul (Path.ofString file) ∨
      ∃ text, fileText world.store (Path.ofString file) = .ok text ∧
        ∃ e, Json.parse text = .error (.excess e) := by
  constructor
  · intro h
    cases h with
    | path h => exact .inl h
    | excess htext hparse =>
      cases htext with
      | file htext => exact .inr ⟨_, htext, _, hparse⟩
  · rintro (h | ⟨text, htext, e, hparse⟩)
    · exact .path h
    · exact .excess (.file htext) hparse

theorem escapes_url_iff : Escapes world { url := some url } ↔
    Url.ofString? url = none ∨
      ∃ text, urlText world.fetch url = .ok text ∧ ∃ e, Json.parse text = .error (.excess e) := by
  constructor
  · intro h
    cases h with
    | address h => exact .inl h
    | excess htext hparse =>
      cases htext with
      | url htext => exact .inr ⟨_, htext, _, hparse⟩
  · rintro (h | ⟨text, htext, e, hparse⟩)
    · exact .address h
    · exact .excess (.url htext) hparse

theorem escapes_stream_iff : Escapes world { stream := some text } ↔
    ∃ e, Json.parse text = .error (.excess e) := by
  constructor
  · intro h
    cases h with
    | excess htext hparse =>
      cases htext with
      | stream => exact ⟨_, hparse⟩
  · rintro ⟨e, hparse⟩
    exact .excess (.stream text) hparse

end Sources

/-- A fault of loading is passed on exactly if the source cannot be asked for or its text goes
beyond a limit. That there is not one source is a fault of loading itself. -/
theorem load_escapes_iff : (∃ fault, (load world sources).1 = .error fault ∧ fault.Escapes) ↔
    sources.Escapes world := by
  have hmany (hload : load world sources = (.error .sources, []))
      (hescapes : ¬ sources.Escapes world) :
      (∃ fault, (load world sources).1 = .error fault ∧ fault.Escapes) ↔
        sources.Escapes world := by
    refine iff_of_false ?_ hescapes
    rintro ⟨fault, hfault, hfault'⟩
    rw [hload] at hfault
    cases hfault
    cases hfault'
  match sources with
  | ⟨some file, none, none⟩ =>
    simp only [load_file, map_escapes_iff, ofFile_escapes_iff, Sources.escapes_file_iff]
  | ⟨none, some url, none⟩ =>
    simp only [load_url, map_escapes_iff, ofUrl_escapes_iff, Sources.escapes_url_iff]
  | ⟨none, none, some text⟩ =>
    simp only [load_stream, map_escapes_iff, decode_escapes_iff, Sources.escapes_stream_iff]
  | ⟨none, none, none⟩ => exact hmany rfl (by rintro (_ | _ | ⟨⟨⟩, _⟩))
  | ⟨some file, some url, stream⟩ =>
    exact hmany (by cases stream <;> rfl) (by rintro (_ | _ | ⟨⟨⟩, _⟩))
  | ⟨some file, none, some text⟩ => exact hmany rfl (by rintro (_ | _ | ⟨⟨⟩, _⟩))
  | ⟨none, some url, some text⟩ => exact hmany rfl (by rintro (_ | _ | ⟨⟨⟩, _⟩))

end Phrasebook.Loading
