import ReleaseRefs.Config.FieldError
import ReleaseRefs.Git.CommandFailure
import ReleaseRefs.Git.Safety
import ReleaseRefs.Ref.Name

/-!
# `ReleaseRefs.Failure`: everything that can go wrong

- `PublishFailure`, `GitFailure` and `ConfigFailure` are the failures of the three parts of the
  tool; `Failure` adds those that come from below it.
- `Failure.text` is what a message shows of a failure.
- `Raised` is a failure on its way up, with the failure that it came from.
-/

set_option autoImplicit false

namespace ReleaseRefs

/-- The ways in which publishing one ref fails. -/
inductive PublishFault where
  | general
  | invalidName (reason : String)
  | localLookup
  | notFound
  | remoteLookup
  | push
  | closed
  deriving DecidableEq, Repr

def PublishFault.step : PublishFault → String
  | .general => "publish"
  | .invalidName _ => "validate"
  | .localLookup => "local_lookup"
  | .notFound => "local_lookup"
  | .remoteLookup => "remote_lookup"
  | .push => "push"
  | .closed => "publish"

/-- A failure to publish one ref. -/
structure PublishFailure where
  fault : PublishFault
  message : String
  ref : Option String
  deriving DecidableEq, Repr

/-- A place as it was given: a text or a path. -/
inductive Place where
  | named (s : String)
  | located (p : Path)
  deriving DecidableEq, Repr

/-- The ways in which work on a repository fails. -/
inductive GitFault where
  | other (operation : Option String) (recoverable : Bool)
  | missingProgram
  | opening (place : Option Place)
  | checkout (branch : Option String) (recoverable : Bool)
  | rejected (reason : String)
  deriving DecidableEq, Repr

/-- The operation on the repository that failed. -/
def GitFault.operation : GitFault → Option String
  | .other op _ => op
  | .missingProgram => some "git_check"
  | .opening _ => some "open"
  | .checkout _ _ => some "checkout"
  | .rejected _ => some "push"

/-- Another attempt, or a cleaned working tree, may help. -/
def GitFault.recoverable : GitFault → Bool
  | .other _ r => r
  | .checkout _ r => r
  | _ => false

/-- A failure of the repository. -/
structure GitFailure where
  fault : GitFault
  message : String
  deriving DecidableEq, Repr

/-- A configuration that cannot be used. -/
structure ConfigFailure where
  message : String
  field : Option String
  value : Value

/-- Kinds of failure that any part of a program may have. -/
inductive FaultKind where
  | value
  | type
  | key
  /-- A key that is no text. -/
  | lookup
  | index
  | attribute
  | overflow
  | runtime
  | recursion
  | os
  | directory
  | decoding
  | encoding
  | json
  | yaml
  | settings
  deriving DecidableEq, Repr

/-- Everything that can go wrong. -/
inductive Failure where
  /-- A failure of the tool that has no narrower kind. -/
  | general (message : String)
  | publish (f : PublishFailure)
  | git (f : GitFailure)
  | config (f : ConfigFailure)
  /-- A git command that ran and failed. -/
  | command (f : Git.CommandFailure)
  /-- The git program could not be found. -/
  | programMissing (f : Git.CommandFailure)
  /-- A remote that is refused before git is asked. -/
  | dangerous (d : Git.Danger)
  | notRepository (message : String)
  | noSuchPath (message : String)
  /-- The user asked to stop. -/
  | interrupted (message : String)
  | fault (kind : FaultKind) (message : String)
  /-- Values that options do not accept. -/
  | invalid (errors : List Config.FieldError)

namespace Failure

/-- The failure to write an integer with more digits than are written. -/
def unwritable : Failure := .fault .value (Integer.limitMessage "")

/-- What a command printed on a stream, given as a value. -/
def printedText : Value → Except Failure String
  | .null => .ok ""
  | .text s => .ok s
  | v => .error (.fault .type ("Expected bytes or text, but got " ++ v.literal))

/-- The failure of a command of which values tell how it ended and what it printed. -/
def ofCommand (command : List String) (status stderr stdout : Value) : Except Failure Failure := do
  if status.isInfinite then
    throw (.fault .overflow "cannot convert float infinity to integer")
  if !status.isWritable then throw unwritable
  if command.isEmpty then throw (.fault .index "list index out of range")
  let out ← printedText stdout
  let err ← printedText stderr
  return .command ⟨command, .ofValue status, err, out⟩

/-- What a message shows of the failure. -/
def text : Failure → String
  | .general m => m
  | .publish f => f.message
  | .git f => f.message
  | .config f => f.message
  | .command f => f.text
  | .programMissing f => f.missingText
  | .dangerous d => d.message
  | .notRepository m => m
  | .noSuchPath m => m
  | .interrupted m => m
  | .fault .key m => Text.quoted m
  | .fault _ m => m
  | .invalid es => "\n".intercalate (es.map fun e => e.complaint.message)

/-- The failure is one of the operating system. -/
def isSystem : Failure → Bool
  | .noSuchPath _ => true
  | .fault .os _ => true
  | .fault .directory _ => true
  | _ => false

def isUnfitValue : Failure → Bool
  | .fault .value _ => true
  | .fault .decoding _ => true
  | .fault .encoding _ => true
  | .fault .json _ => true
  | .fault .settings _ => true
  | .invalid _ => true
  | _ => false

end Failure

/-- A failure on its way up. -/
structure Raised where
  failure : Failure
  cause : Option Failure

namespace Raised

/-- A failure that came from no other. -/
def plain (f : Failure) : Raised := ⟨f, none⟩

/-- A failure that came from another. -/
def fromCause (f cause : Failure) : Raised := ⟨f, some cause⟩

end Raised

instance : Coe Failure Raised := ⟨Raised.plain⟩

namespace Ref

/-- The failure for the flaw of a name. A text that is no version is the cause of the second. -/
def nameFailure (name message : String) (rest : Option String) (flaw : Flaw) : Raised :=
  let f := Failure.publish ⟨.invalidName flaw.word, message, some name⟩
  match flaw with
  | .start => .plain f
  | .version => .fromCause f (.fault .value (versionMessage (rest.getD name)))

/-- Accepts the name of a release branch. -/
def checkBranch (name : String) : Except Raised Version :=
  match branchVersion name with
  | .ok v => .ok v
  | .error flaw =>
    let rest := (dropStart? branchStart name).map (· ++ ".0")
    .error (nameFailure name (branchMessage name flaw) rest flaw)

/-- Accepts the name of a release tag. -/
def checkTag (start name : String) : Except Raised Version :=
  match tagVersion start name with
  | .ok v => .ok v
  | .error flaw =>
    .error (nameFailure name (tagMessage start name flaw) (dropStart? start name) flaw)

/-- Accepts a release name of either kind. -/
def check (kind : Kind) (tagStart name : String) : Except Raised Version :=
  match kind with
  | .branch => checkBranch name
  | .tag => checkTag tagStart name

/-- A name that is accepted is not empty. -/
theorem check_ne_empty {kind : Kind} {tagStart name : String} {v : Version}
    (accepted : check kind tagStart name = .ok v) : name ≠ "" := by
  rintro rfl
  cases kind with
  | branch => cases accepted
  | tag =>
    have noVersion : ∃ flaw, tagVersion tagStart "" = .error flaw := by
      have rest : dropStart? tagStart "" = none ∨ dropStart? tagStart "" = some "" := by
        unfold dropStart?
        split
        · exact .inr (by simp)
        · exact .inl rfl
      unfold tagVersion versionAfter
      rcases rest with rest | rest <;> rw [rest]
      · exact ⟨.start, rfl⟩
      · exact ⟨.version, rfl⟩
    obtain ⟨flaw, refused⟩ := noVersion
    simp only [check, checkTag, refused] at accepted
    cases accepted

/-- The failure of a name that is not accepted names it and the reason. -/
theorem check_error {kind : Kind} {tagStart name : String} {e : Raised}
    (refused : check kind tagStart name = .error e) :
    ∃ reason message, e.failure = .publish ⟨.invalidName reason, message, some name⟩ := by
  have about (message : String) (rest : Option String) (flaw : Flaw) :
      (nameFailure name message rest flaw).failure
        = .publish ⟨.invalidName flaw.word, message, some name⟩ := by
    cases flaw <;> rfl
  cases kind with
  | branch =>
    simp only [check, checkBranch] at refused
    split at refused
    · cases refused
    · exact Except.error.inj refused ▸ ⟨_, _, about _ _ _⟩
  | tag =>
    simp only [check, checkTag] at refused
    split at refused
    · cases refused
    · exact Except.error.inj refused ▸ ⟨_, _, about _ _ _⟩

end Ref

end ReleaseRefs
