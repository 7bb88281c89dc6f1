import ReleaseRefs.Failure

/-!
# `ReleaseRefs.Cli.Report`: how a run tells of its failure

- `errorText` lays out a message with details and a suggestion.
- `ExitCode` has the numbers with which a run ends.
- `Report.ofFailure` is what a command says and ends with after a failure.
-/

set_option autoImplicit false

namespace ReleaseRefs.Cli

/-- How a run ends. -/
inductive ExitCode where
  | success
  | failure
  | usage
  | interrupted
  deriving DecidableEq, Repr

def ExitCode.number : ExitCode → Nat
  | .success => 0
  | .failure => 1
  | .usage => 2
  | .interrupted => 130

/-- The message, its details on lines of their own, and a suggestion if there is one. -/
def errorText (message : String) (details : List String) (suggestion : String) : String :=
  "\n".intercalate
    (("Error: " ++ message) :: details.map ("  " ++ ·) ++
      if suggestion.isEmpty then [] else ["Suggestion: " ++ suggestion])

/-- What goes to the error stream before the run ends, and how it ends. -/
structure Report where
  text : String
  exit : ExitCode
  /-- The failure is one that the tool does not expect, so it is logged as well. -/
  unexpected : Bool
  deriving DecidableEq, Repr

/-- A detail under its label, unless it is empty. -/
def detail (label value : String) : List String :=
  if value.isEmpty then [] else [label ++ ": " ++ value]

/-- The field and the value of a configuration failure. -/
def configDetails (f : ConfigFailure) : List String :=
  detail "Field" (f.field.getD "") ++
    match f.value with
    | .null => []
    | v => ["Value: " ++ v.display]

/-- The text about a configuration failure. -/
def configText (f : ConfigFailure) : String := errorText f.message (configDetails f) ""

/-- The text about a failure to publish. -/
def publishText (f : PublishFailure) : String :=
  errorText f.message (detail "Ref" (f.ref.getD "") ++ ["Step: " ++ f.fault.step])
    (match f.fault with
      | .notFound => "Create the ref locally before publishing it"
      | _ => "")

/-- The text about a failure of the repository. -/
def gitText (f : GitFailure) : String :=
  errorText f.message (detail "Operation" (f.fault.operation.getD "")) ""

/-- What a command says after a failure, and how it ends. -/
def Report.ofFailure : Failure → Report
  | .interrupted _ => ⟨"\n\nInterrupted by user.", .interrupted, false⟩
  | .publish f => ⟨publishText f, .failure, false⟩
  | .git f => ⟨gitText f, .failure, false⟩
  | .config f => ⟨configText f, .failure, false⟩
  | .general m => ⟨errorText m [] "", .failure, false⟩
  | f => ⟨"Error: " ++ f.text, .failure, true⟩

/-- An interrupt, and nothing else, ends a command with the interrupt code. -/
theorem Report.ofFailure_exit (f : Failure) :
    (Report.ofFailure f).exit = .interrupted ↔ ∃ m, f = .interrupted m := by
  cases f <;> simp [Report.ofFailure]

end ReleaseRefs.Cli
