-- SUMMARY: Loading documents from files, the web and streams, up to their outer shape.
import Phrasebook.Json.Parser
import Phrasebook.Notice
import Phrasebook.Store
import Phrasebook.Text.Order
import Phrasebook.Url

/-!
# Loading documents

A document comes from exactly one source. Whatever the source, its text is read
as JSON and has to be an object with a default locale and locales; what these
hold is looked at later.
-/

namespace Phrasebook.Loading

open Text

/-! ## The world outside -/

/-- What comes of fetching an address. -/
inductive Fetch where
  | reply (status : Int) (text : String)
  | timeout
  | failed (message : String)
  deriving DecidableEq, Repr

/-- Files, and the web. -/
structure World where
  store : Store := {}
  fetch : String → Fetch := fun _ => .failed "refused"

/-- Where a document is to come from. A stream is given by its text. -/
structure Sources where
  file : Option String := none
  url : Option String := none
  stream : Option String := none
  deriving DecidableEq, Repr

/-! ## Faults -/

/-- Why a document cannot be loaded. -/
inductive Fault where
  | sources
  | kind (source : String) (found : Json.Kind)
  | defaultLocale (source : String)
  | locales (source : String)
  | malformed (source : String) (fault : Json.Fault)
  | excess (excess : Json.Excess)
  | fileNotFound (path : Path)
  | unreadable (path : Path) (fault : Store.Fault)
  | encoding (path : Path) (fault : Utf8.Fault)
  | badUrl (url : String)
  | timeout (url : String)
  | status (url : String) (code : Int)
  | request (url message : String)
  /-- The path holds a character that no path can hold. -/
  | badPath
  /-- The address falls apart at its brackets or at a character of its authority. -/
  | splitUrl
  deriving DecidableEq, Repr

def Fault.message : Fault → String
  | .sources => "Exactly one of file_path, url or stream must be provided"
  | .kind source found => source ++ ": expected a JSON object, got " ++ found.word
  | .defaultLocale source => source ++ ": 'default_locale' must be a locale tag string"
  | .locales source => source ++ ": 'locales' must map locale tags to strings"
  | .malformed source fault => source ++ ": invalid JSON (" ++ fault.message ++ ")"
  | .excess e => e.message
  | .fileNotFound path => "File not found: " ++ path.text
  | .unreadable path fault => "Cannot read " ++ path.text ++ ": " ++ fault.message path.text
  | .encoding path fault => "Cannot read " ++ path.text ++ ": " ++ fault.message
  | .badUrl url => "Invalid URL: " ++ url
  | .timeout url => "Request timeout for URL: " ++ url
  | .status url code => "HTTP error " ++ toString code ++ " for URL: " ++ url
  | .request url message => "Request to " ++ url ++ " failed: " ++ message
  | .badPath => Store.Fault.message .nulCharacter ""
  | .splitUrl => "Invalid IPv6 URL"

/-! ## Shape -/

/-- The keys that mean something at the top of a document. -/
def knownKeys : List String :=
  ["default_locale", "locales"]

/-- The keys of a document that mean nothing, sorted. -/
def ignoredKeys (fields : Json.Fields) : List String :=
  sortStrings (fields.keys.filter (!knownKeys.contains ·))

/-- The fields of a document, if it has the shape of one. -/
def checkShape (data : Json) (source : String) : Except Fault Json.Fields × List Notice :=
  match data with
  | .obj fields =>
    match fields.lookup "default_locale", fields.lookup "locales" with
    | some (.str _), some (.obj _) =>
      let ignored := ignoredKeys fields
      (.ok fields, if ignored.isEmpty then [] else [.ignoredKeys source ignored])
    | some (.str _), _ => (.error (.locales source), [])
    | _, _ => (.error (.defaultLocale source), [])
  | v => (.error (.kind source v.kind), [])

/-- The document of a text. -/
def decode (text source : String) : Except Fault Json.Fields × List Notice :=
  match Json.parse text with
  | .error (.fault fault) => (.error (.malformed source fault), [])
  | .error (.excess excess) => (.error (.excess excess), [])
  | .ok data => checkShape data source

/-! ## Sources -/

/-- The text of a file, with a line feed for every line break. -/
def fileText (store : Store) (path : Path) : Except Fault String :=
  match store.read path with
  | .error .missing => .error (.fileNotFound path)
  | .error .nulCharacter => .error .badPath
  | .error fault => .error (.unreadable path fault)
  | .ok bytes =>
    match Utf8.decode bytes with
    | .error fault => .error (.encoding path fault)
    | .ok cs => .ok (String.ofList (Utf8.unifyBreaks cs))

/-- The document of a file. -/
def ofFile (store : Store) (file : String) : Except Fault Json.Fields × List Notice :=
  let path := Path.ofString file
  match fileText store path with
  | .error fault => (.error fault, [])
  | .ok text => decode text path.text

/-- The text at an address. -/
def urlText (fetch : String → Fetch) (url : String) : Except Fault String :=
  match Url.ofString? url with
  | none => .error .splitUrl
  | some parts =>
    if parts.isFetchable then
      match fetch url with
      | .timeout => .error (.timeout url)
      | .failed message => .error (.request url message)
      | .reply status text =>
        if 400 ≤ status && status < 600 then .error (.status url status) else .ok text
    else .error (.badUrl url)

/-- The document at an address. -/
def ofUrl (fetch : String → Fetch) (url : String) : Except Fault Json.Fields × List Notice :=
  match urlText fetch url with
  | .error fault => (.error fault, [])
  | .ok text => decode text url

/-- The name of the stream in messages. -/
def streamSource : String :=
  "<stdin>"

/-- A document and the name of its source. -/
structure Loaded where
  source : String
  fields : Json.Fields

/-- Load a document from the one source that is given. -/
def load (world : World) (sources : Sources) : Except Fault Loaded × List Notice :=
  let named (source : String) (r : Except Fault Json.Fields × List Notice) :=
    (r.1.map (⟨source, ·⟩), r.2)
  match sources with
  | ⟨some file, none, none⟩ => named file (ofFile world.store file)
  | ⟨none, some url, none⟩ => named url (ofUrl world.fetch url)
  | ⟨none, none, some text⟩ => named streamSource (decode text streamSource)
  | _ => (.error .sources, [])

theorem load_file (world : World) (file : String) : load world { file := some file } =
    ((ofFile world.store file).1.map (Loaded.mk file), (ofFile world.store file).2) :=
  rfl

theorem load_url (world : World) (url : String) : load world { url := some url } =
    ((ofUrl world.fetch url).1.map (Loaded.mk url), (ofUrl world.fetch url).2) :=
  rfl

theorem load_stream (world : World) (text : String) : load world { stream := some text } =
    ((decode text streamSource).1.map (Loaded.mk streamSource), (decode text streamSource).2) :=
  rfl

end Phrasebook.Loading
