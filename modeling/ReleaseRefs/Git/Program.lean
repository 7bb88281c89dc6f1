import ReleaseRefs.Failure

/-!
# `ReleaseRefs.Git.Program`: the git program

- `Program` says how git answers: whether a path can be opened, which branches there are, and what
  a command prints or how it fails.
- `absent` is a git that cannot be found.
- `Action` is one thing done with git; `Script` is a git that answers from prepared lists.
-/

set_option autoImplicit false

namespace ReleaseRefs.Git

/-- Something done with git, or the pause between two attempts. -/
inductive Action where
  | opened (path : Path)
  /-- A command without the name of the program, and the seconds after which it is stopped. -/
  | ran (words : List String) (timeout : Option Value)
  | slept (seconds : Nat)
  | closed

/-- A git program with states in `γ`. -/
structure Program (γ : Type) where
  opens : Path → γ → Except Failure Unit × γ
  branches : γ → Except Failure (List String) × γ
  run : List String → γ → Except Failure String × γ

/-- The failure of a command whose program cannot be found. -/
def notFound (words : List String) : Failure :=
  .programMissing ⟨"git" :: words, .word "No such file or directory", "", ""⟩

/-- A git that cannot be found. -/
def absent : Program Unit where
  opens _ s := (.error (notFound []), s)
  branches s := (.error (notFound ["for-each-ref"]), s)
  run words s := (.error (notFound words), s)

/-- A prepared answer of a command: what it prints, or how it fails given the whole command
line. -/
inductive Prepared where
  | prints (text : String)
  | fails (failure : List String → Failure)

/-- Prepared answers. -/
structure Script where
  opening : Option Failure
  branches : Except Failure (List String)
  /-- The answers still to come, by the first word of the command. -/
  answers : String → List Prepared

namespace Script

/-- The script after one answer to a command is used up. -/
def advance (s : Script) (word : String) : Script :=
  { s with answers := fun w => if w = word then (s.answers w).drop 1 else s.answers w }

/-- The next answer to a command; without one the command prints nothing. -/
def answer (s : Script) (words : List String) : Except Failure String :=
  match s.answers (words.headD "") with
  | [] => .ok ""
  | .prints t :: _ => .ok t
  | .fails f :: _ => .error (f ("git" :: words))

def program : Program Script where
  opens _ s :=
    (match s.opening with
      | some f => .error f
      | none => .ok (), s)
  branches s := (s.branches, s)
  run words s := (s.answer words, s.advance (words.headD ""))

end Script

end ReleaseRefs.Git
