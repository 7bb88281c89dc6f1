import ReleaseRefs.Ref.Kind

/-!
# `ReleaseRefs.Publish.Outcome`: what publishing a ref came to

- `Outcome.line` says it in one line.
-/

set_option autoImplicit false

namespace ReleaseRefs.Publish

/-- The outcome of publishing a ref without a failure. -/
structure Outcome where
  ref : String
  kind : Ref.Kind
  /-- The remote did not have the ref before. -/
  pushed : Bool
  /-- The push was only simulated. -/
  dryRun : Bool
  deriving DecidableEq, Repr

/-- What stands in front of simulated outcomes. -/
def dryRunLabel (dryRun : Bool) : String := if dryRun then "[dry-run] " else ""

def Outcome.line (o : Outcome) (remote : String) : String :=
  let what := o.kind.word ++ " " ++ o.ref
  if o.pushed then dryRunLabel o.dryRun ++ "Pushed " ++ what ++ " to " ++ remote
  else dryRunLabel o.dryRun ++ "The " ++ what ++ " already exists in " ++ remote ++
    ", nothing to do"

end ReleaseRefs.Publish
