import ReleaseRefs.Cli.Run
import ReleaseRefs.Config.Assign
import ReleaseRefs.Log.Call
import ReleaseRefs.Main
import ReleaseRefs.Publish.Memory
import ReleaseRefs.Proofs.Cli.Independence
import ReleaseRefs.Proofs.Cli.Preconditions
import ReleaseRefs.Proofs.Cli.ResultLine
import ReleaseRefs.Proofs.Config.Overrides
import ReleaseRefs.Proofs.Config.Precedence
import ReleaseRefs.Proofs.Git.Arguments
import ReleaseRefs.Proofs.Git.Classification
import ReleaseRefs.Proofs.Git.Lookups
import ReleaseRefs.Proofs.Git.Rejections
import ReleaseRefs.Proofs.Git.Surfacing
import ReleaseRefs.Proofs.Publish.AuditTrail
import ReleaseRefs.Proofs.Publish.Cleanup
import ReleaseRefs.Proofs.Publish.FailedCalls
import ReleaseRefs.Proofs.Publish.Ownership
import ReleaseRefs.Proofs.Publish.Rehearsal
import ReleaseRefs.Proofs.Ref.Branches
