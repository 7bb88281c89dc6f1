import ReleaseRefs.Failure

/-!
# `ReleaseRefs.Git.Diagnosis`: what a failed command means

What git printed tells whether the failure passes by itself, whether the remote refused a ref, and
whether local changes stood in the way of a checkout. Marks are searched without regard to case.

- `isTransient` says whether another attempt is worth it.
- `diagnose` turns a failed command into a failure of the repository.
- `diagnose_operation`: the failure names the operation that was tried.
-/

set_option autoImplicit false

namespace ReleaseRefs.Git

/-- Fragments of the output of failures that may pass by themselves. -/
def transientMarks : List String :=
  ["could not resolve host", "connection refused", "connection reset", "connection timed out",
    "network unreachable", "temporary failure", "unable to access", "early eof",
    "the remote end hung up", "ssl certificate", "ssl_connect", "ssl_read", "gnutls_handshake",
    "tls connection", "did not complete in"]

/-- Fragments by which git marks a ref that the remote refused. -/
def refusalMarks : List String := ["[rejected]", "[remote rejected]"]

/-- Fragments that tell of local changes in the way of a checkout. -/
def overwriteMarks : List String := ["would be overwritten", "overwritten by checkout"]

/-- One of the marks occurs in the text, in whatever case. -/
def mentions (marks : List String) (output : String) : Bool :=
  let s := Text.lower output
  marks.any fun mark => Text.contains mark s

/-- The command failed in a way that may pass by itself. -/
def CommandFailure.isTransient (f : CommandFailure) : Bool := mentions transientMarks f.output

/-- Another attempt is worth it: only after a command that ran, and for a passing reason. -/
def isTransient : Failure → Bool
  | .command f => f.isTransient
  | _ => false

/-- The failure of the repository that a failed command amounts to. -/
def diagnose (f : CommandFailure) (operation ref : String) : GitFailure :=
  let output := f.output
  if operation = "checkout" then
    ⟨.checkout (some ref) (mentions overwriteMarks output),
      "Unable to check out " ++ ref ++ ": " ++ Text.strip output⟩
  else if operation = "push" ∧ mentions refusalMarks output = true then
    ⟨.rejected (Text.strip output), "Remote rejected push of " ++ ref⟩
  else
    ⟨.other (some operation) f.isTransient,
      "git " ++ operation ++ " failed for " ++ ref ++ ": " ++ Text.strip output⟩

/-- The failure names the operation. -/
theorem diagnose_operation (f : CommandFailure) (operation ref : String) :
    (diagnose f operation ref).fault.operation = some operation := by
  simp only [diagnose]
  split
  · simp_all [GitFault.operation]
  · split
    · simp_all [GitFault.operation]
    · rfl

end ReleaseRefs.Git
