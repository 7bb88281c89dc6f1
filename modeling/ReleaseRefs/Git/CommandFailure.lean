import ReleaseRefs.Git.Credentials
import ReleaseRefs.Value

/-!
# `ReleaseRefs.Git.CommandFailure`: a git command that ended badly

- `CommandFailure` keeps the command line, the status and what the command printed.
- `CommandFailure.text` words the failure, `CommandFailure.output` is the text that says why: the
  error output, else the standard output, else the wording itself.
-/

set_option autoImplicit false

namespace ReleaseRefs.Git

/-- How a command ended. -/
inductive Status where
  | unknown
  | code (n : Int)
  /-- The whole part of a number that is not zero. -/
  | part (n : Int)
  | word (s : String)
  /-- Neither a number nor a word; it is shown as it stands. -/
  | other (shown : String)
  deriving DecidableEq, Repr

/-- The status that a value tells. -/
def Status.ofValue : Value → Status
  | .null => .unknown
  | .bool b => .code (if b then 1 else 0)
  | .int n => .code n
  | .float x =>
    if (Value.float x).isZero then .unknown
    else
      match x.truncate? with
      | some n => .part n
      | none => .other x.text
  | .text s => .word s
  | .list [] => .unknown
  | .map [] => .unknown
  | v => .other v.literal

structure CommandFailure where
  command : List String
  status : Status
  stderr : String
  stdout : String
  deriving DecidableEq, Repr

/-- The part of the wording that names the status; a status of zero or nothing names none. -/
def Status.clause : Status → String
  | .unknown => "!"
  | .code n => if n = 0 then "!" else " due to: exit code(" ++ toString n ++ ")"
  | .part n => " due to: exit code(" ++ toString n ++ ")"
  | .other s => " due to: " ++ s
  | .word s =>
    if s.isEmpty then "!"
    else
      match Integer.read s.toList with
      | .ok n => " due to: exit code(" ++ toString n ++ ")"
      | .error _ => " due to: '" ++ s ++ "'"

/-- What a stream of the command held, under its name; nothing for an empty stream. -/
def streamText (name content : String) : String :=
  if content.isEmpty then "" else "\n  " ++ name ++ ": '" ++ content ++ "'"

namespace CommandFailure

/-- The error output as the wording shows it. -/
def stderrText (f : CommandFailure) : String := streamText "stderr" f.stderr

/-- The standard output as the wording shows it. -/
def stdoutText (f : CommandFailure) : String := streamText "stdout" f.stdout

/-- The command line with credentials hidden. -/
def words (f : CommandFailure) : List String := f.command.map maskWord

/-- The wording of a failure for which a verb is given. -/
def textWith (verb : String) (f : CommandFailure) : String :=
  "Cmd('" ++ f.words.headD "" ++ "') " ++ verb ++ f.status.clause ++ "\n  cmdline: " ++
    " ".intercalate f.words ++ f.stdoutText ++ f.stderrText

/-- The wording of the failure of a command that ran. -/
def text (f : CommandFailure) : String := f.textWith "failed"

/-- The wording of a failure to find the program. -/
def missingText (f : CommandFailure) : String := f.textWith "not found"

/-- The text that says why the command failed. -/
def output (f : CommandFailure) : String :=
  if f.stderr ≠ "" then f.stderrText
  else if f.stdout ≠ "" then f.stdoutText
  else f.text

end CommandFailure

end ReleaseRefs.Git
