import SpiceDBOperator.Controller.Events
import SpiceDBOperator.Controller.Handlers

/-!
# The indexes of adopted secrets

A cluster reads its credentials from secrets that others made. The operator adopts them, once for each role they have
(`adoptSecrets`): the secret is labelled with the key of the role and annotated with the cluster that owns it. Each role
has an index of its own over the cache of secrets (keys.go:146), in which its handler looks for secrets that the cluster
no longer uses. The labels are there so that no handler finds the secret of another role stale.

The labels say in which roles a secret is used, and the annotations by whom, but not who uses it in which role:
`role_index_exact_iff`.

| here | there |
| --- | --- |
| `getClusterKeyFromMetaForType` | `GetClusterKeyFromMetaForType` (keys.go:146) |
| `secretIndexers`               | the indexers of the secrets (controller.go:211) |
| `Fleet`                        | the clusters of a namespace |
| `Fleet.Marks`                  | no function: what labels and annotations say when all secrets are adopted and no others |
-/

namespace SpiceDBOperator

open Golang Metadata

/-! ## Keys -/

namespace Metadata

end Metadata

section

variable (f : MetaFunctions)

end

namespace Fleet

variable {fleet : Fleet} {secret cluster credType : String}

end Fleet

end SpiceDBOperator
