import SpiceDBOperator.Config.Plain
import SpiceDBOperator.Controller.Runs
import SpiceDBOperator.Updates.Rails

/-!
# A small world

The world of the small cluster, to compute runs of the operator with the plain libraries.
-/

namespace SpiceDBOperator

open Golang Metadata

/-- The migration job of the small cluster for the release `v1`, by the first characters of the hash. -/
def smallJob : String := "small-migrate-+m+1..+d+e+b+u+"

def smallDeployment : String := "small-spicedb"

/-- Nothing is deployed yet. -/
def smallWorld (graph : UpdateGraph) (version : String) : World :=
  let cluster : SpiceDBCluster := { smallCluster version with resourceVersion := some 1 }
  { api := { cluster }
    cache := { cluster }
    operatorConfig := { imageName := "spicedb", updateGraph := graph } }

/-- Reconciles after each of which the cache of the main resource catches up: a patch that changes the status makes the
next one of its reconcile fail, so that a change takes several. -/
def reconciles (times : List Nat) : List Move := times.flatMap fun now => [.reconcile now [], .syncCluster]

end SpiceDBOperator
