import ReleaseRefs.Config.Environment
import ReleaseRefs.Config.File

/-!
# `ReleaseRefs.Config.VariableFile`: environment variables from a file

Each line `NAME=value` of the file `.env` sets a variable that is not set yet. The value may stand
in quotes, with escapes; a value may refer to other variables as `$` and a name in braces. A line
that cannot be read is left out.

- `VariableFile.read` gives the variables of a text, `VariableFile.resolve` fills in what their
  values refer to.
- `VariableFile.extend` is the environment with the variables of the file, unless the file cannot be
  read or names a variable that no system takes; `extend_get?_of_some` says that a variable which is
  set keeps its value. One more variable switches the file off.
-/

set_option autoImplicit false

namespace ReleaseRefs.Config.VariableFile

/-- A blank within a line. -/
def isInlineBlank (c : Char) : Bool := Text.isBlank c && c != '\n' && c != '\r'

/-- Leaves out blanks within a line. -/
def skipBlanks (cs : List Char) : List Char := cs.dropWhile isInlineBlank

/-! ### Values -/

/-- The value up to a closing quote, and what follows. A quote behind a backslash does not close. -/
def takeQuoted (quote : Char) : (taken : List Char) → List Char → Option (List Char × List Char)
  | _, [] => none
  | _, ['\\'] => none
  | taken, '\\' :: c :: r => takeQuoted quote (c :: '\\' :: taken) r
  | taken, c :: r => if c = quote then some (taken.reverse, r) else takeQuoted quote (c :: taken) r

/-- What a letter behind a backslash stands for between double quotes. -/
def doubleEscape? : Char → Option Char
  | '\\' => some '\\'
  | '\'' => some '\''
  | '"' => some '"'
  | 'a' => some '\x07'
  | 'b' => some '\x08'
  | 'f' => some '\x0c'
  | 'n' => some '\n'
  | 'r' => some '\r'
  | 't' => some '\t'
  | 'v' => some '\x0b'
  | _ => none

/-- What a letter behind a backslash stands for between single quotes. -/
def singleEscape? : Char → Option Char
  | '\\' => some '\\'
  | '\'' => some '\''
  | _ => none

/-- Puts characters in place of their escapes. -/
def unescape (escape? : Char → Option Char) : List Char → List Char
  | '\\' :: c :: r =>
    match escape? c with
    | some d => d :: unescape escape? r
    | none => '\\' :: unescape escape? (c :: r)
  | c :: r => c :: unescape escape? r
  | [] => []

/-- Cuts a comment off, which starts at a hash sign behind a blank, and the blanks before it. -/
def cutComment : (blanks : List Char) → List Char → List Char
  | _, [] => []
  | blanks, c :: r =>
    if Text.isBlank c then cutComment (c :: blanks) r
    else if c = '#' ∧ ¬ blanks.isEmpty then []
    else blanks.reverse ++ c :: cutComment [] r

/-- The value behind an equals sign, and what follows it. Blanks in front of the value do not belong
to it, but a comment may start behind them. -/
def readValue (cs : List Char) : Option (List Char × List Char) :=
  match skipBlanks cs with
  | '\'' :: r => (takeQuoted '\'' [] r).map fun v => (unescape singleEscape? v.1, v.2)
  | '"' :: r => (takeQuoted '"' [] r).map fun v => (unescape doubleEscape? v.1, v.2)
  | _ =>
    let inLine := fun c : Char => c != '\n' && c != '\r'
    some (skipBlanks (cutComment [] (cs.takeWhile inLine)), cs.dropWhile inLine)

/-! ### Lines -/

/-- The name of a variable, in single quotes or not, and what follows it. -/
def readName (cs : List Char) : Option (List Char × List Char) :=
  match cs with
  | '\'' :: r =>
    match Text.splitOnce '\'' r with
    | (c :: name, some rest) => some (c :: name, rest)
    | _ => none
  | _ =>
    let isNameChar := fun c : Char => c != '=' && c != '#' && !Text.isBlank c
    match cs.takeWhile isNameChar with
    | [] => none
    | name => some (name, cs.dropWhile isNameChar)

/-- Leaves out the word `export` in front of a name. -/
def skipExport (cs : List Char) : List Char :=
  let word := "export".toList
  match word.isPrefixOf cs, cs.drop word.length with
  | true, c :: r => if isInlineBlank c then skipBlanks (c :: r) else cs
  | _, _ => cs

/-- What follows the line, if only blanks and a comment are left of it. -/
def endLine (cs : List Char) : Option (List Char) :=
  let rest := match skipBlanks cs with
    | '#' :: r => r.dropWhile fun c => c != '\n' && c != '\r'
    | r => r
  match rest with
  | [] => some []
  | c :: r => if c = '\n' ∨ c = '\r' then some r else none

/-- What a line sets: a name, with a value or without one. -/
abbrev Binding := String × Option String

/-- One line that sets a variable, and what follows it. An error has what is left where reading came
to a stop. -/
def readBinding (cs : List Char) : Except (List Char) (Binding × List Char) :=
  let body := skipExport cs
  let finish := fun (b : Binding) (r : List Char) =>
    match endLine r with
    | some next => .ok (b, next)
    | none => .error r
  match readName body with
  | none => .error body
  | some (name, rest) =>
    match skipBlanks rest with
    | '=' :: r =>
      match readValue r with
      | none => .error r
      | some (value, behind) => finish (String.ofList name, some (String.ofList value)) behind
    | r => finish (String.ofList name, none) r

/-- What follows the end of the line. -/
def nextLine (cs : List Char) : List Char :=
  (cs.dropWhile fun c => c != '\n' && c != '\r').drop 1

/-- The lines that set variables. Every step leaves out at least one character. -/
def readFrom : (fuel : Nat) → List Char → List Binding
  | 0, _ => []
  | fuel + 1, cs =>
    match cs.dropWhile Text.isBlank with
    | [] => []
    | body =>
      match readBinding body with
      | .ok (b, rest) => b :: readFrom fuel rest
      | .error rest => readFrom fuel (nextLine rest)

/-- The text without a mark of its byte order. -/
def dropOrderMark : List Char → List Char
  | c :: r => if c = '\uFEFF' then r else c :: r
  | [] => []

/-- The variables that a text sets. -/
def read (s : String) : List Binding := readFrom (s.length + 1) (dropOrderMark s.toList)

/-! ### References -/

/-- A reference behind its dollar sign: the name, the text to use if there is no such variable, and
what follows. -/
def readReference (cs : List Char) : Option (String × String × List Char) :=
  match cs with
  | '\x7b' :: r =>
    let isNameChar := fun c : Char => c != '\x7d' && c != ':'
    let name := String.ofList (r.takeWhile isNameChar)
    match r.dropWhile isNameChar with
    | '\x7d' :: rest => some (name, "", rest)
    | ':' :: '-' :: t =>
      match Text.splitOnce '\x7d' t with
      | (default, some rest) => some (name, String.ofList default, rest)
      | _ => none
    | _ => none
  | _ => none

/-- A value with its references filled in. -/
def fillReferences (lookup : String → Option String) : (fuel : Nat) → List Char → List Char
  | 0, cs => cs
  | _ + 1, [] => []
  | fuel + 1, c :: r =>
    match c, readReference r with
    | '$', some (name, default, rest) =>
      ((lookup name).getD default).toList ++ fillReferences lookup fuel rest
    | _, _ => c :: fillReferences lookup fuel r

/-- The values that variables have so far: what is set already counts more than what the file sets,
and a variable without a value is empty. -/
def lookupIn (env : Environment) (sofar : List Binding) (name : String) : Option String :=
  match env.get? name with
  | some v => some v
  | none => (sofar.lookup name).map fun v => v.getD ""

/-- Sets a binding; a name that is bound keeps its place. -/
def setBinding (bs : List Binding) (b : Binding) : List Binding :=
  match bs with
  | [] => [b]
  | a :: r => if a.1 = b.1 then b :: r else a :: setBinding r b

/-- The bindings with their references filled in, one after the other; the last value of a name
counts. -/
def resolve (env : Environment) : (sofar : List Binding) → List Binding → List Binding
  | sofar, [] => sofar
  | sofar, (name, value) :: rest =>
    let filled := value.map fun v =>
      String.ofList (fillReferences (lookupIn env sofar) v.length v.toList)
    resolve env (setBinding sofar (name, filled)) rest

/-! ### The environment -/

/-- Sets a variable unless it is set already. -/
def setIfAbsent (env : Environment) (b : Binding) : Except Failure Environment :=
  match env.get? b.1, b.2 with
  | none, some v =>
    match Environment.refusal? b.1 v with
    | some f => .error f
    | none => .ok (env ++ [(b.1, v)])
  | _, _ => .ok env

/-- Sets those variables of a row that are not set already. -/
def setAllAbsent : List Binding → Environment → Except Failure Environment
  | [], env => .ok env
  | b :: bs, env => (setIfAbsent env b).bind (setAllAbsent bs)

/-- The environment with the variables of a text. -/
def extendWith (env : Environment) (s : String) : Except Failure Environment :=
  setAllAbsent (resolve env [] (read s)) env

def fileName : Path := ⟨".env"⟩

/-- The variable that switches the file off. -/
def offName : String := "PYTHON_DOTENV_DISABLED"

/-- The words that switch the file off, in any case. -/
def offWords : List String := ["1", "true", "t", "yes", "y"]

/-- The file is switched off. -/
def isOff (env : Environment) : Bool :=
  (env.get? offName).any fun v => offWords.contains (Text.folded v)

/-- The text of the file with variables, if there is such a file. -/
def readText (fs : Files) : Except Failure (Option String) :=
  match fs.find? (fs.workingDirectory.join fileName) with
  | some (.file octets) =>
    match Text.Utf8.decode octets with
    | .ok s => .ok (some (String.ofList (Files.unifyLineEnds s.toList)))
    | .error m => .error (.fault .decoding (m.messageFrom 0))
  | _ => .ok none

/-- The environment with the variables of the file in the working directory, if there is one. -/
def extend (fs : Files) (env : Environment) : Except Failure Environment :=
  if isOff env then .ok env
  else
    match readText fs with
    | .ok (some s) => extendWith env s
    | .ok none => .ok env
    | .error f => .error f

/-- Setting a variable that is absent keeps the value of one that is set. -/
theorem setIfAbsent_get? {b : Binding} {env next : Environment} {name v : String}
    (ran : setIfAbsent env b = .ok next) (h : env.get? name = some v) :
    next.get? name = some v := by
  unfold setIfAbsent at ran
  split at ran
  · split at ran
    · cases ran
    · cases ran
      obtain ⟨e, found, value⟩ := Option.map_eq_some_iff.1 h
      simp only [Environment.get?, List.find?_append, found, Option.some_or, Option.map_some, value]
  · cases ran
    exact h

/-- Setting variables that are absent keeps the value of one that is set. -/
theorem setAllAbsent_get? {bs : List Binding} {env next : Environment} {name v : String}
    (ran : setAllAbsent bs env = .ok next) (h : env.get? name = some v) :
    next.get? name = some v := by
  induction bs generalizing env with
  | nil =>
    cases ran
    exact h
  | cons b bs ih =>
    unfold setAllAbsent at ran
    cases first : setIfAbsent env b with
    | error f => rw [first] at ran; cases ran
    | ok mid =>
      rw [first] at ran
      exact ih ran (setIfAbsent_get? first h)

/-- A variable that is set keeps its value, whatever the file says. -/
theorem extend_get?_of_some {fs : Files} {env next : Environment} {name v : String}
    (ran : extend fs env = .ok next) (h : env.get? name = some v) :
    next.get? name = some v := by
  unfold extend at ran
  split at ran
  · cases ran
    exact h
  · split at ran
    · exact setAllAbsent_get? ran h
    · cases ran
      exact h
    · cases ran

end ReleaseRefs.Config.VariableFile
