import SpiceDBOperator.Config.Environment
import SpiceDBOperator.Config.Image
import SpiceDBOperator.Config.Mounts
import SpiceDBOperator.Config.Neighbours
import SpiceDBOperator.Config.Numbers
import SpiceDBOperator.Config.OldNames
import SpiceDBOperator.Config.OrderFree
import SpiceDBOperator.Config.Patched
import SpiceDBOperator.Config.PatchMeta
import SpiceDBOperator.Config.Unapplied
import SpiceDBOperator.Controller.Adoption
import SpiceDBOperator.Controller.Convergence
import SpiceDBOperator.Controller.Credentials
import SpiceDBOperator.Controller.Deletions
import SpiceDBOperator.Controller.Events
import SpiceDBOperator.Controller.Faults
import SpiceDBOperator.Controller.Generations
import SpiceDBOperator.Controller.MigrationGate
import SpiceDBOperator.Controller.Namespaces
import SpiceDBOperator.Controller.Outcomes
import SpiceDBOperator.Controller.Overlap
import SpiceDBOperator.Controller.Pausing
import SpiceDBOperator.Controller.PodErrors
import SpiceDBOperator.Controller.Reload
import SpiceDBOperator.Controller.SecretHash
import SpiceDBOperator.Controller.StatusEquality
import SpiceDBOperator.Controller.Validation
import SpiceDBOperator.Controller.Watching
import SpiceDBOperator.Updates.Converge
import SpiceDBOperator.Updates.Difference
import SpiceDBOperator.Updates.Ordered
import SpiceDBOperator.Updates.Recased
import SpiceDBOperator.Updates.RemoveNodes
import SpiceDBOperator.Updates.Rerooted
import SpiceDBOperator.Updates.Returns
import SpiceDBOperator.Updates.Settle
import SpiceDBOperator.Updates.Steps
import SpiceDBOperator.Tools.GenerateGraph
import SpiceDBOperator.Tools.PinnedWalk
import SpiceDBOperator.Tools.UpgradePath
