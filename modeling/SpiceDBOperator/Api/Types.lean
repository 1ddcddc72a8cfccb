import Mathlib.Data.List.Basic

/-!
# `SpiceDBVersion` (`pkg/apis/authzed/v1alpha1/types.go:224-260`)

The version record of a cluster status. Attributes are strings; the values that the update graph sets or reads have
names here, and a status read back from the API server may hold any.
-/

namespace SpiceDBOperator

abbrev SpiceDBVersionAttributes := String

namespace SpiceDBVersionAttributes

def next : SpiceDBVersionAttributes := "next"
def migration : SpiceDBVersionAttributes := "migration"
def latest : SpiceDBVersionAttributes := "latest"
def notInChannel : SpiceDBVersionAttributes := "notInDesiredChannel"

end SpiceDBVersionAttributes

structure SpiceDBVersion where
  name : String := ""
  channel : String := ""
  attributes : List SpiceDBVersionAttributes := []
  description : String := ""
deriving DecidableEq, Repr

namespace SpiceDBVersion

/-- **`SpiceDBVersion.Equals` (types.go:252)** on non-nil versions: the description is not compared. -/
def equals (v other : SpiceDBVersion) : Bool :=
  v.name == other.name && v.channel == other.channel && v.attributes == other.attributes

theorem equals_iff {v other : SpiceDBVersion} :
    v.equals other = true ↔ v.name = other.name ∧ v.channel = other.channel ∧ v.attributes = other.attributes := by
  simp only [equals, Bool.and_eq_true, beq_iff_eq, and_assoc]

end SpiceDBVersion

end SpiceDBOperator
