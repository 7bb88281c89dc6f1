import ReleaseRefs.Config.Basic
import ReleaseRefs.Config.Layer
import ReleaseRefs.Failure
import ReleaseRefs.Json
import ReleaseRefs.Text.Case
import ReleaseRefs.Text.Utf8

/-!
# `ReleaseRefs.Config.Environment`: settings in environment variables

Names do not depend on case. `REF_PUBLISHER_PUBLISHER` holds options as JSON,
`REF_PUBLISHER_PUBLISHER__NAME` a single one, and the single ones win.

- `Environment.layer` gives the settings that the variables hold.
- `Environment.refusal?` says why a system takes no variable with some name or value.
- `Environment.home` is the home directory.
-/

set_option autoImplicit false

namespace ReleaseRefs

/-- Variables with their values, in order. -/
abbrev Environment := List (String × String)

namespace Environment

/-- The value of a variable by its exact name. -/
def get? (env : Environment) (name : String) : Option String :=
  (env.find? fun e => e.1 = name).map Prod.snd

/-- A failure about text that cannot be handed to the system, which ends texts with a null. -/
def nullFailure : Failure := .fault .value "embedded null byte"

/-- The text holds a null. -/
def hasNull (s : String) : Bool := s.toList.contains '\x00'

/-- The failure to write a text that has no octets. -/
def encodingFailure (u : Text.Utf8.Unencodable) : Failure := .fault .encoding u.message

/-- The reason why the system takes no file with a name, if there is one. -/
def nameRefusal? (s : String) : Option Failure :=
  match Text.Utf8.unencodableName? s with
  | some u => some (encodingFailure u)
  | none => if hasNull s then some nullFailure else none

/-- The reason why a variable cannot be set, if there is one. -/
def refusal? (name value : String) : Option Failure :=
  match Text.Utf8.unencodableName? name, Text.Utf8.unencodableName? value with
  | some u, _ => some (encodingFailure u)
  | none, some u => some (encodingFailure u)
  | none, none =>
    if hasNull name || hasNull value then some nullFailure
    else if name.toList.contains '=' then
      some (.fault .value "illegal environment variable name")
    else if name.isEmpty then some (.fault .os "[Errno 22] Invalid argument")
    else none

/-- Sets a variable; one that is there keeps its place. -/
def set (env : Environment) (name value : String) : Environment :=
  match env with
  | [] => [(name, value)]
  | e :: r => if e.1 = name then (name, value) :: r else e :: set r name value

/-- The variable with the home directory. -/
def homeName : String := "HOME"

/-- The home directory. A name with a tilde in front stands for a directory that is not known. -/
def home (env : Environment) : Except Failure Path :=
  let named := ((env.get? homeName).getD "").toList.reverse.dropWhile (· == '/') |>.reverse
  if named.head? = some '~' then .error (.fault .runtime "Could not determine home directory.")
  else .ok (if named.isEmpty then ⟨"/"⟩ else Path.ofText (String.ofList named))

/-- The variables with their names in lower case; of equal names the last value counts. -/
def lowered (env : Environment) : Environment :=
  env.foldl (fun acc e => set acc (Text.lower e.1) e.2) []

/-- What the names of settings start with, in lower case. -/
def settingStart : String := "ref_publisher_"

/-- The variable with the options of a run as JSON. -/
def optionsName : String := settingStart ++ "publisher"

/-- The variable with the verbosity. -/
def verbosityName : String := settingStart ++ "verbosity"

/-- Cuts a name at every double underscore. -/
def splitLevels : List Char → List (List Char)
  | [] => [[]]
  | '_' :: '_' :: r => [] :: splitLevels r
  | c :: r =>
    match splitLevels r with
    | [] => [[c]]
    | part :: rest => (c :: part) :: rest

/-- Sets a value below a row of keys. A key without a value gets a mapping; a value that is none
stays, and nothing is set below it. -/
def setBelow (es : Entries) (keys : List String) (last : String) (v : Value) : Entries :=
  match keys with
  | [] => es.insert (.text last) v
  | k :: ks =>
    match es.getText? k with
    | none => es.insert (.text k) (.map (setBelow [] ks last v))
    | some (.map inner) => es.insert (.text k) (.map (setBelow inner ks last v))
    | some _ => es

/-- The single options, by the levels of their names. -/
def singleOptions (env : Environment) : Entries :=
  env.foldl
    (fun es e =>
      match Ref.dropStart? (optionsName ++ "__") e.1 with
      | none => es
      | some name =>
        let levels := (splitLevels name.toList).map String.ofList
        setBelow es levels.dropLast (levels.getLastD "") (.text e.2))
    []

/-- The key of the option with a name that may differ in case. -/
def optionKey (name : Value) : Value :=
  match name with
  | .text s =>
    match Config.Field.all.find? fun f => f.key = Text.lower s with
    | some f => .text f.key
    | none => name
  | _ => name

/-- The entries with the names of options in their own case. -/
def withOptionKeys (es : Entries) : Entries :=
  Entries.ofList (es.map fun e => (optionKey e.1, e.2))

/-- The failure of the variable with the options to be JSON. -/
def unfitOptions (cause : Failure) : Raised :=
  .fromCause
    (.fault .settings
      "error parsing value for field \"publisher\" from source \"EnvSettingsSource\"")
    cause

/-- The failure of options that cannot be read. Too much depth is a failure of its own. -/
def jsonFailure : Json.ReadError → Raised
  | .malformed => unfitOptions (.fault .json "the text is not JSON")
  | .tooLong e => unfitOptions (.fault .value (e.message ""))
  | .tooDeep object =>
    .plain (.fault .recursion
      ("maximum recursion depth exceeded while decoding a JSON " ++
        (if object then "object" else "array") ++ " from a unicode string"))

/-- The options that the variables hold: the JSON ones with the single ones over them. A value that
is no mapping stands by itself. -/
def options (env : Environment) : Except Raised (Option Value) :=
  let singles := singleOptions env
  match get? env optionsName with
  | none => .ok (if singles.isEmpty then none else some (.map (withOptionKeys singles)))
  | some s =>
    match Json.read s with
    | .error e => .error (jsonFailure e)
    | .ok .null => .ok none
    | .ok (.map es) => .ok (some (.map (withOptionKeys (Config.Layer.overlay es singles))))
    | .ok v => .ok (some v)

/-- The settings that the variables hold. -/
def layer (env : Environment) : Except Raised Entries :=
  let vars := lowered env
  (options vars).map fun o =>
    (match o with
      | some v => [(Value.text "publisher", v)]
      | none => []) ++
    (match get? vars verbosityName with
      | some s => [(Value.text "verbosity", Value.text s)]
      | none => [])

end Environment

end ReleaseRefs
