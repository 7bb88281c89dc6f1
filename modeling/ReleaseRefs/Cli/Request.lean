import ReleaseRefs.Cli.Help
import ReleaseRefs.Config.Settings
import ReleaseRefs.Decimal.Notation

/-!
# `ReleaseRefs.Cli.Request`: what the user asks for

- `Request` is what the words for the tool ask for, `PublishRequest` what the words for a command
  do; both may ask for a page of text instead.
- `UsageError` is why words ask for nothing, `UsageError.report` what is then shown.
- `PublishRequest.overrides` is what a request puts over the settings.
-/

set_option autoImplicit false

namespace ReleaseRefs.Cli

/-- Why words ask for nothing. -/
inductive UsageError where
  | scan (e : ScanError)
  | unknownCommand (name : String) (closest : List String)
  | missingCommand
  | missingArgument (name : String)
  | extraArguments (words : List String)
  /-- The value of a switch is no integer. -/
  | notInteger (name value : String)
  | negative (name : String) (n : Int)
  /-- The value of a switch is a file and no directory. -/
  | isFile (name value : String)
  /-- The value of a switch is to be a path, and the system takes no path with such a name. -/
  | unfitPath (value : String)
  deriving DecidableEq, Repr

namespace UsageError

/-- A hint at names that are like the one given. -/
def suggestion : List String → String
  | [] => ""
  | [one] => " Did you mean " ++ Text.quoted one ++ "?"
  | many => " (Did you mean one of: " ++ ", ".intercalate (many.map Text.quoted) ++ "?)"

/-- What is wrong. -/
def message : UsageError → String
  | .scan (.unknown name close) =>
    "No such option " ++ Text.quoted name ++ "." ++ suggestion close
  | .scan (.needsValue name) => "Option " ++ Text.quoted name ++ " requires an argument."
  | .scan (.takesNoValue name) => "Option " ++ Text.quoted name ++ " does not take a value."
  | .unknownCommand name close =>
    "No such command " ++ Text.quoted name ++ "." ++ suggestion close
  | .missingCommand => "Missing command."
  | .missingArgument name => "Missing argument '" ++ name ++ "'."
  | .extraArguments words =>
    "Got unexpected extra " ++ (if words.length = 1 then "argument" else "arguments") ++ " (" ++
      " ".intercalate words ++ ")"
  | .notInteger name value =>
    "Invalid value for '" ++ name ++ "': " ++ Text.quoted value ++
      " is not a valid integer range."
  | .negative name n =>
    "Invalid value for '" ++ name ++ "': " ++ toString n ++ " is not in the range x>=0."
  | .isFile name value =>
    "Invalid value for '" ++ name ++ "': Directory " ++ Text.quoted value ++ " is a file."
  | .unfitPath value => ((Environment.nameRefusal? value).map Failure.text).getD ""

/-- The error stands alone: it is found before the command is known to the message. -/
def standsAlone : UsageError → Bool
  | .scan (.needsValue _) => true
  | .scan (.takesNoValue _) => true
  | _ => false

/-- What is shown of an error in the words for a command. -/
def report (program : String) (c : Command) (e : UsageError) : String :=
  (if e.standsAlone then ""
    else c.usage program ++ "\nTry '" ++ c.path program ++ " --help' for help.\n\n") ++
    "Error: " ++ e.message

end UsageError

/-- A page that is shown instead of running a command. -/
inductive Page where
  | version
  | help (c : Command)
  deriving DecidableEq, Repr

def Page.text (program : String) : Page → String
  | .version => versionText
  | .help c => c.help program

/-- The page that the uses of switches ask for: the first one asked for counts. -/
def pageOf (c : Command) (s : Said) : Option Page :=
  (s.uses.filterMap fun u =>
    match u.switch with
    | .version => some Page.version
    | .help => some (Page.help c)
    | _ => none).head?

/-! ### The tool -/

/-- What a run is to do before its command: the chosen file and how much to tell. -/
structure Preface where
  config : Option Path
  verbose : Nat
  quiet : Bool
  deriving DecidableEq, Repr

/-- What the words for the tool ask for. -/
inductive Request where
  | page (p : Page)
  /-- A command with its words. -/
  | command (preface : Preface) (kind : Ref.Kind) (words : List String)
  deriving DecidableEq, Repr

/-- The switches in front of a command. -/
def prefaceOf (s : Said) : Preface :=
  { config := match s.value? .config with
      | some p => if p.isEmpty then none else some (Path.ofText p)
      | none => none,
    verbose := s.count .verbose,
    quiet := 0 < s.count .quiet }

/-- The words for the tool are read: a page that they ask for comes before the path of a file that
cannot be looked up. -/
def readPreface (words : List String) : Except UsageError (Said ⊕ Page) :=
  match (Command.grammar .tool).scan words with
  | .error e => .error (.scan e)
  | .ok said =>
    match pageOf .tool said with
    | some p => .ok (.inr p)
    | none =>
      match (said.value? .config).filter fun p => (Environment.nameRefusal? p).isSome with
      | some p => .error (.unfitPath p)
      | none => .ok (.inl said)

/-- An unknown command. A name that starts with a dash is first read as switches, which may ask for
a page. -/
def unknownCommand (name : String) (rest : List String) : Except UsageError Request :=
  let fail : Except UsageError Request :=
    .error (.unknownCommand name (Text.closest name Command.names))
  if name.toList.head? = some '-' then
    match readPreface (name :: rest) with
    | .error e => .error e
    | .ok (.inr p) => .ok (.page p)
    | .ok (.inl _) => fail
  else fail

/-- Reads the words for the tool. -/
def Request.ofWords (words : List String) : Except UsageError Request :=
  match readPreface words with
  | .error e => .error e
  | .ok (.inr p) => .ok (.page p)
  | .ok (.inl said) =>
    match said.plain with
    | [] => .error .missingCommand
    | name :: rest =>
      match Command.ofName? name with
      | some kind => .ok (.command (prefaceOf said) kind rest)
      | none => unknownCommand name rest

/-! ### A command -/

/-- A ref to publish, and what is said over the settings. -/
structure PublishRequest where
  name : String
  repo : Option Path
  dryRun : Option Bool
  maxRetries : Option Nat
  remote : Option String
  deriving DecidableEq, Repr

/-- What the words for a command ask for. -/
inductive CommandRequest where
  | page (p : Page)
  | publish (r : PublishRequest)
  deriving DecidableEq, Repr

/-- A file stands under a path as the user wrote it. -/
def isPlainFile (fs : Files) (written : String) : Bool :=
  let asDirectory := match written.toList.reverse with
    | '/' :: _ => true
    | '.' :: '/' :: _ => true
    | _ => false
  match written.isEmpty || asDirectory, fs.find? (Path.ofText written) with
  | false, some (.file _) => true
  | _, _ => false

/-- Reads the path of a repository, which must not be a file. -/
def readRepo (fs : Files) (written : String) : Except UsageError Path :=
  if (Environment.nameRefusal? written).isSome then .error (.unfitPath written)
  else if isPlainFile fs written then .error (.isFile "--repo" written)
  else .ok (Path.ofText written)

/-- Reads a number of retries. -/
def readRetries (written : String) : Except UsageError Nat :=
  match Integer.read written.toList with
  | .error _ => .error (.notInteger "--max-retries" written)
  | .ok n => if n < 0 then .error (.negative "--max-retries" n) else .ok n.toNat

/-- Reads a value if there is one. -/
def readOptional {α : Type} (read : String → Except UsageError α) :
    Option String → Except UsageError (Option α)
  | none => .ok none
  | some s => (read s).map some

/-- The first use of one switch comes before that of another. -/
def Said.firstIs (s : Said) (a b : Switch) : Bool :=
  match s.uses.find? fun u => u.switch == a || u.switch == b with
  | some u => u.switch == a
  | none => true

/-- Reads the values that can be wrong, in the order in which their switches are first used. -/
def readValues (fs : Files) (s : Said) : Except UsageError (Option Path × Option Nat) :=
  let repo := readOptional (readRepo fs) (s.value? .repo)
  let retries := readOptional readRetries (s.value? .maxRetries)
  match repo, retries with
  | .ok p, .ok n => .ok (p, n)
  | .error e, .ok _ => .error e
  | .ok _, .error e => .error e
  | .error e, .error f => .error (if s.firstIs .repo .maxRetries then e else f)

/-- Reads the words for a command. -/
def CommandRequest.ofWords (fs : Files) (kind : Ref.Kind) (words : List String) :
    Except UsageError CommandRequest :=
  match (Command.grammar (.publish kind)).scan words with
  | .error e => .error (.scan e)
  | .ok said =>
    match pageOf (.publish kind) said with
    | some p => .ok (.page p)
    | none =>
      match readValues fs said with
      | .error e => .error e
      | .ok (repo, maxRetries) =>
        match said.plain with
        | [] => .error (.missingArgument (Command.argument kind))
        | [name] =>
          .ok (.publish ⟨name, repo, said.flag? .dryRun, maxRetries, said.value? .remote⟩)
        | _ :: extra => .error (.extraArguments extra)

/-- What a request says over the settings; what it does not say is null. -/
def PublishRequest.overrides (r : PublishRequest) : List (String × Value) :=
  let orNull : Option Value → Value := fun v => v.getD .null
  [("repo_path", orNull (r.repo.map .path)), ("dry_run", orNull (r.dryRun.map .bool)),
    ("max_retries", orNull (r.maxRetries.map fun n => .int n)),
    ("remote", orNull (r.remote.map .text))]

end ReleaseRefs.Cli
