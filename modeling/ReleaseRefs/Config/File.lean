import ReleaseRefs.Failure
import ReleaseRefs.Files
import ReleaseRefs.Log.Event
import ReleaseRefs.Yaml.Content

/-!
# `ReleaseRefs.Config.File`: settings in a file

- `readLayer` gives the entries that a file holds, with what there is to tell about it. A missing or
  an empty file holds none.
-/

set_option autoImplicit false

namespace ReleaseRefs.Config.File

/-- The part of the tool that loads settings. -/
def source : String := "ref_publisher.config"

/-- The failure to look up a path because of its length. -/
def tooLong (p : Path) : Failure :=
  .fault .os ("[Errno 36] File name too long: " ++ Text.quoted p.text)

def readText (fs : Files) (p : Path) : Except Failure String :=
  match fs.find? p with
  | none => .error (.fault .os ("[Errno 2] No such file or directory: " ++ Text.quoted p.text))
  | some .directory =>
    .error (.fault .directory ("[Errno 21] Is a directory: " ++ Text.quoted p.text))
  | some (.file octets) =>
    match Text.Utf8.decode octets with
    | .ok s => .ok (String.ofList (Files.unifyLineEnds s.toList))
    | .error m => .error (.fault .decoding (m.streamMessage octets))

/-- The failure of a file to hold a document; other failures stay as they are. -/
def documentFailure (p : Path) (e : Failure) : Raised :=
  match e with
  | .fault .yaml m =>
    .fromCause (.config ⟨"Invalid YAML in " ++ p.text ++ ": " ++ m, none, .null⟩) e
  | f => .plain f

/-- The event about a file without a value. -/
def emptyEvent (p : Path) : Log.Event :=
  .make source .warning "config_file_empty" [("path", .text p.text)]

/-- The entries of a mapping. One that holds the mapping itself holds a mapping with its entries. -/
def openedEntries (es : Entries) : Entries :=
  es.map fun e => (e.1, match e.2 with
    | .again true => .map es
    | v => v)

/-- The entries that a document holds. -/
def entriesOf (p : Path) (v : Value) : List Log.Event × Except Raised Entries :=
  match v with
  | .null => ([emptyEvent p], .ok [])
  | .map es => ([], .ok (openedEntries es))
  | v => ([], .error (.plain
      (.config ⟨"Config file " ++ p.text ++ " must contain a mapping", none, v⟩)))

/-- The entries that a file holds, and what there is to tell about it. -/
def readLayer (fs : Files) (p : Path) : List Log.Event × Except Raised Entries :=
  if fs.isTooLong p then ([], .error (.plain (tooLong p)))
  else if fs.contains p then
    match readText fs p with
    | .error e => ([], .error (.plain e))
    | .ok s =>
      match Yaml.read s with
      | .error e => ([], .error (documentFailure p e))
      | .ok v => entriesOf p v
  else ([], .ok [])

end ReleaseRefs.Config.File
