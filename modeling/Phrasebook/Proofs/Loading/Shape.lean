-- SUMMARY: The outer shape of documents, which loading checks and which every converted document has.
import Phrasebook.Generation
import Phrasebook.Loading
import Phrasebook.Proofs.Book.Contents
import Phrasebook.Proofs.Outcome

/-!
# The shape of documents

Loading looks at no more of a document than its outer shape. Whatever can be
converted has that shape, so loading refuses nothing that makes a book.
-/

namespace Phrasebook.Loading

variable {document : Json} {fields : Json.Fields} {source text file : String} {world : World}

/-- A document is an object with a default locale and locales, whatever these hold. -/
structure HasShape (document : Json) (fields : Json.Fields) : Prop where
  object : document = .obj fields
  home : ∃ tag, fields.get? "default_locale" = some (.str tag)
  locales : ∃ locales, fields.get? "locales" = some (.obj locales)

theorem checkShape_eq_ok_iff : (checkShape document source).1 = .ok fields ↔
    HasShape document fields := by
  constructor
  · intro h
    unfold checkShape at h
    split at h
    case h_2 => cases h
    split at h
    case h_2 => cases h
    case h_3 => cases h
    rename_i hhome hlocales
    cases h
    exact ⟨rfl, ⟨_, hhome⟩, _, hlocales⟩
  · rintro ⟨rfl, ⟨tag, hhome⟩, locales, hlocales⟩
    rw [Json.Fields.get?] at hhome hlocales
    simp only [checkShape, hhome, hlocales]

/-- The text of a file is what its bytes stand for, with a line feed for every line break. -/
theorem fileText_of_read {store : Store} {path : Path} {bytes : List UInt8} {cs : List Char}
    (hread : store.read path = .ok bytes) (hdecode : Text.Utf8.decode bytes = .ok cs) :
    fileText store path = .ok (String.ofList (Text.Utf8.unifyBreaks cs)) := by
  simp only [fileText, hread, hdecode]

/-- A text gives the document that it is, if that has the shape of one. -/
theorem decode_of_parse (hparse : Json.parse text = .ok document) :
    decode text source = checkShape document source := by
  unfold decode
  simp only [hparse]

theorem ofFile_of_fileText (htext : fileText world.store (Path.ofString file) = .ok text) :
    ofFile world.store file = decode text (Path.ofString file).text := by
  unfold ofFile
  simp only [htext]

/-- A file is loaded as the document that its text is. -/
theorem load_file_fst (htext : fileText world.store (Path.ofString file) = .ok text)
    (hparse : Json.parse text = .ok document) :
    (load world { file := some file }).1.map Loaded.fields =
      (checkShape document (Path.ofString file).text).1 := by
  rw [load_file, ofFile_of_fileText htext, decode_of_parse hparse]
  cases (checkShape document (Path.ofString file).text).1 <;> rfl

/-- What makes a book has the shape of a document. -/
theorem exists_hasShape_of_convert {style : Naming.Style} {names : Naming.Allocator} {b : Book}
    (h : (Document.convert style names document).result = .ok b) :
    ∃ fields, HasShape document fields := by
  obtain ⟨o, ho⟩ := Document.exists_outline_of_convert h
  cases Document.outline_eq_ok_iff.mp ho with
  | mk hdefault _ _ hlocales _ _ _ => exact ⟨_, rfl, ⟨_, hdefault⟩, _, hlocales⟩

/-- What makes a class has the shape of a document. -/
theorem exists_hasShape_of_success {g : Generator} {code : String} {warnings : List Warning}
    {metadata : Metadata} {notices : List Notice}
    (h : g.runDocument document = .ok (.success code warnings metadata, notices)) :
    ∃ fields, HasShape document fields := by
  unfold Generator.runDocument at h
  split at h
  · simp [Except.map] at h
  · split at h
    · cases h
    · simp only at h
      split at h
      · cases h
      · rename_i hconvert
        exact exists_hasShape_of_convert hconvert

end Phrasebook.Loading
