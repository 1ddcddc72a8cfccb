import SpiceDBOperator.Api.Objects
import SpiceDBOperator.Api.Types
import SpiceDBOperator.Golang.Any

/-!
# `SpiceDBCluster` (`pkg/apis/authzed/v1alpha1/types.go`, `conditions.go`, `status.go`)

| here | there |
| --- | --- |
| `ClusterSpec`, `ClusterCredentials`, `CredentialRef`, `Patch` | types.go:64-161 |
| `ClusterStatus`, `ClusterStatus.equals` | types.go:164-222, `Equals` (types.go:204) |
| `SpiceDBCluster.rolloutInProgress` | `RolloutInProgress` (types.go:57) |
| `Condition` | `metav1.Condition` |
| `ConditionHelpers` | `meta.SetStatusCondition` and its siblings, parameters with their laws |
| `SpiceDBCluster.setStatusCondition`, … | status.go |
| `newValidatingConfigCondition`, … | conditions.go:31-119 |

`spec.config` is raw JSON; here it is what `encoding/json` decodes it to, the error text if it cannot, or
`none` for the nil message. `time.Now()` is an argument `now`.
-/

namespace SpiceDBOperator

open Golang

/-! ## Conditions -/

structure Condition where
  type : String
  status : ConditionStatus
  observedGeneration : Int := 0
  lastTransitionTime : Nat
  reason : String
  message : String
deriving DecidableEq, Repr

namespace Condition

def typeValidating : String := "Validating"
def validatingFailed : String := "ValidatingFailed"
def typeMigrating : String := "Migrating"
def typeConfigWarnings : String := "ConfigurationWarning"
def typePreconditionsFailed : String := "PreconditionsFailed"
def typeRolling : String := "RollingDeployment"
def typeRolloutError : String := "RolloutError"

def reasonMissingSecret : String := "MissingSecret"
def reasonApplyFailed : String := "ApplyFailed"

def newValidatingConfigCondition (now : Nat) (secretHash : String) : Condition :=
  { type := typeValidating, status := .true, reason := "ConfigChanged", lastTransitionTime := now
    message := "Validating config with secret hash " ++ quote secretHash }

def newInvalidConfigCondition (now : Nat) (secretHash err : String) : Condition :=
  { type := validatingFailed, status := .true, reason := "InvalidConfig", lastTransitionTime := now
    message := "Error validating config with secret hash " ++ quote secretHash ++ ": " ++ err }

def newConfigWarningCondition (now : Nat) (warning : String) : Condition :=
  { type := typeConfigWarnings, status := .true, reason := "WarningsPresent", lastTransitionTime := now
    message := warning }

def newMigratingCondition (now : Nat) (engine headRevision : String) : Condition :=
  { type := typeMigrating, status := .true, reason := "MigrationJobRunning", lastTransitionTime := now
    message := "Migrating " ++ engine ++ " datastore to " ++ headRevision }

def newMigrationFailedCondition (now : Nat) (engine headRevision err : String) : Condition :=
  { type := typeMigrating, status := .false, reason := "MigrationFailed", lastTransitionTime := now
    message := "Migrating " ++ engine ++ " datastore to " ++ headRevision ++ " failed with error: " ++ err }

def newMissingSecretCondition (now : Nat) (nameSpace name : String) : Condition :=
  { type := typePreconditionsFailed, status := .true, reason := reasonMissingSecret, lastTransitionTime := now
    message := "Secret " ++ nameSpace ++ "/" ++ name ++ " not found" }

def newRollingCondition (now : Nat) (message : String) : Condition :=
  { type := typeRolling, status := .true, reason := "WaitingForDeploymentAvailability", lastTransitionTime := now
    message }

def newPodErrorCondition (now : Nat) (message : String) : Condition :=
  { type := typeRolloutError, status := .true, reason := "PodError", lastTransitionTime := now, message }

def newApplyFailedCondition (now : Nat) (err : String) : Condition :=
  { type := typeRolloutError, status := .true, reason := reasonApplyFailed, lastTransitionTime := now
    message := "Error applying deployment: " ++ err }

end Condition

/-! ## `meta` helpers on conditions -/

/-- The helpers of apimachinery on lists of conditions, with what status.go says of them. -/
structure ConditionHelpers where
  findStatusCondition : List Condition → String → Option Condition
  isStatusConditionTrue : List Condition → String → Bool
  removeStatusCondition : List Condition → String → List Condition
  setStatusCondition : List Condition → Condition → List Condition
  find_eq : ∀ conditions type, findStatusCondition conditions type = conditions.find? (·.type = type)
  isTrue_eq : ∀ conditions type,
    isStatusConditionTrue conditions type = (findStatusCondition conditions type).any (·.status = .true)
  remove_eq : ∀ conditions type, removeStatusCondition conditions type = conditions.filter (·.type ≠ type)
  set_nil : ∀ new, setStatusCondition [] new = [new]
  /-- The first condition of that type takes the new fields; the time moves only when the status does. -/
  set_cons_self : ∀ c rest new, c.type = new.type → setStatusCondition (c :: rest) new =
    { new with
      lastTransitionTime := if c.status = new.status then c.lastTransitionTime else new.lastTransitionTime } :: rest
  set_cons_ne : ∀ c rest new, c.type ≠ new.type →
    setStatusCondition (c :: rest) new = c :: setStatusCondition rest new

namespace ConditionHelpers

variable (helpers : ConditionHelpers) (conditions : List Condition) (new : Condition) {type : String}

theorem findStatusCondition_set_of_ne (h : new.type ≠ type) :
    helpers.findStatusCondition (helpers.setStatusCondition conditions new) type =
      helpers.findStatusCondition conditions type := by
  simp only [helpers.find_eq]
  induction conditions with
  | nil => simp [helpers.set_nil, h]
  | cons c rest ih =>
    by_cases hc : c.type = new.type
    · simp [helpers.set_cons_self c rest new hc, hc, h]
    · rw [helpers.set_cons_ne c rest new hc]
      simp only [List.find?_cons, ih]

theorem findStatusCondition_set_self :
    ∃ time, helpers.findStatusCondition (helpers.setStatusCondition conditions new) new.type =
      some { new with lastTransitionTime := time } := by
  simp only [helpers.find_eq]
  induction conditions with
  | nil => exact ⟨new.lastTransitionTime, by simp [helpers.set_nil]⟩
  | cons c rest ih =>
    obtain ⟨time, hfind⟩ := ih
    by_cases hc : c.type = new.type
    · rw [helpers.set_cons_self c rest new hc]
      exact ⟨_, List.find?_cons_of_pos (decide_eq_true rfl)⟩
    · rw [helpers.set_cons_ne c rest new hc]
      exact ⟨time, by simp [hc, hfind]⟩

@[simp] theorem findStatusCondition_remove_self (type : String) :
    helpers.findStatusCondition (helpers.removeStatusCondition conditions type) type = none := by
  simp [helpers.find_eq, helpers.remove_eq]

theorem findStatusCondition_remove_of_ne {removed : String} (h : removed ≠ type) :
    helpers.findStatusCondition (helpers.removeStatusCondition conditions removed) type =
      helpers.findStatusCondition conditions type := by
  simp only [helpers.find_eq, helpers.remove_eq, List.find?_filter]
  congr 1
  funext c
  by_cases hc : c.type = type
  · simp [hc, Ne.symm h]
  · simp [hc]

@[simp] theorem isStatusConditionTrue_set_self (h : new.status = .true) :
    helpers.isStatusConditionTrue (helpers.setStatusCondition conditions new) new.type = true := by
  obtain ⟨time, hfind⟩ := helpers.findStatusCondition_set_self conditions new
  simp [helpers.isTrue_eq, hfind, h]

theorem isStatusConditionTrue_set_of_ne (h : new.type ≠ type) :
    helpers.isStatusConditionTrue (helpers.setStatusCondition conditions new) type =
      helpers.isStatusConditionTrue conditions type := by
  simp only [helpers.isTrue_eq, helpers.findStatusCondition_set_of_ne conditions new h]

theorem isStatusConditionTrue_remove_self :
    helpers.isStatusConditionTrue (helpers.removeStatusCondition conditions type) type = false := by
  simp [helpers.isTrue_eq]

theorem isStatusConditionTrue_remove_of_ne {removed : String} (h : removed ≠ type) :
    helpers.isStatusConditionTrue (helpers.removeStatusCondition conditions removed) type =
      helpers.isStatusConditionTrue conditions type := by
  simp only [helpers.isTrue_eq, helpers.findStatusCondition_remove_of_ne conditions h]

end ConditionHelpers

def setFirst : List Condition → Condition → List Condition
  | [], new => [new]
  | c :: rest, new =>
    if c.type = new.type then
      { new with lastTransitionTime := if c.status = new.status then c.lastTransitionTime else new.lastTransitionTime }
        :: rest
    else c :: setFirst rest new

def plainConditionHelpers : ConditionHelpers where
  findStatusCondition conditions type := conditions.find? (·.type = type)
  isStatusConditionTrue conditions type := (conditions.find? (·.type = type)).any (·.status = .true)
  removeStatusCondition conditions type := conditions.filter (·.type ≠ type)
  setStatusCondition := setFirst
  find_eq _ _ := rfl
  isTrue_eq _ _ := rfl
  remove_eq _ _ := rfl
  set_nil _ := rfl
  set_cons_self _ _ _ h := if_pos h
  set_cons_ne _ _ _ h := if_neg h

/-- The laws leave no choice. -/
theorem ConditionHelpers.eq_plain (helpers : ConditionHelpers) : helpers = plainConditionHelpers := by
  have hfind : helpers.findStatusCondition = plainConditionHelpers.findStatusCondition := by
    funext conditions type
    exact helpers.find_eq conditions type
  have htrue : helpers.isStatusConditionTrue = plainConditionHelpers.isStatusConditionTrue := by
    funext conditions type
    rw [helpers.isTrue_eq, hfind]
    rfl
  have hremove : helpers.removeStatusCondition = plainConditionHelpers.removeStatusCondition := by
    funext conditions type
    exact helpers.remove_eq conditions type
  have hset : helpers.setStatusCondition = plainConditionHelpers.setStatusCondition := by
    funext conditions new
    induction conditions with
    | nil => exact helpers.set_nil new
    | cons c rest ih =>
      by_cases hc : c.type = new.type
      · rw [helpers.set_cons_self c rest new hc, plainConditionHelpers.set_cons_self c rest new hc]
      · rw [helpers.set_cons_ne c rest new hc, plainConditionHelpers.set_cons_ne c rest new hc, ih]
  cases helpers
  simp only at hfind htrue hremove hset
  subst hfind htrue hremove hset
  rfl

/-! ## The resource -/

structure CredentialRef where
  secretName : String := ""
  key : String := ""
  skip : Bool := false
deriving DecidableEq, Repr

structure ClusterCredentials where
  datastoreURI : Option CredentialRef := none
  presharedKey : Option CredentialRef := none
  migrationSecrets : Option CredentialRef := none
deriving DecidableEq, Repr

/-- A strategic merge patch or a JSON6902 operation, as text. -/
structure Patch where
  kind : String := ""
  patch : String
deriving DecidableEq, Repr

structure ClusterSpec where
  version : String := ""
  channel : String := ""
  config : Option (Except String (GoMap Any)) := none
  secretRef : String := ""
  credentials : Option ClusterCredentials := none
  patches : List Patch := []
  baseImage : String := ""

structure ClusterStatus where
  observedGeneration : Int := 0
  targetMigrationHash : String := ""
  currentMigrationHash : String := ""
  secretHash : String := ""
  image : String := ""
  migration : String := ""
  phase : String := ""
  currentVersion : Option SpiceDBVersion := none
  availableVersions : List SpiceDBVersion := []
  conditions : List Condition := []
deriving DecidableEq, Repr

namespace SpiceDBVersion

/-- `SpiceDBVersion.Equals` through pointers: nil is equal to nil only. -/
def equalsPtr : Option SpiceDBVersion → Option SpiceDBVersion → Bool
  | none, none => true
  | some v, some other => v.equals other
  | _, _ => false

theorem equalsPtr_self (v : Option SpiceDBVersion) : equalsPtr v v = true := by
  cases v with
  | none => rfl
  | some v => exact equals_iff.2 ⟨rfl, rfl, rfl⟩

theorem equalsPtr_attributes {v other : Option SpiceDBVersion} (h : equalsPtr v other = true) :
    v.map (·.attributes) = other.map (·.attributes) := by
  cases v <;> cases other <;> simp_all [equalsPtr, equals_iff]

theorem equalsPtr_name {v other : Option SpiceDBVersion} (h : equalsPtr v other = true) :
    v.map (·.name) = other.map (·.name) := by
  cases v <;> cases other <;> simp_all [equalsPtr, equals_iff]

/-- `slices.EqualFunc` with `Equals`. -/
def equalsAll : List SpiceDBVersion → List SpiceDBVersion → Bool
  | [], [] => true
  | v :: rest, other :: others => v.equals other && equalsAll rest others
  | _, _ => false

end SpiceDBVersion

/-- The third line compares with the target hash of `other`, as the source does. -/
def ClusterStatus.equals (s other : ClusterStatus) : Bool :=
  s.observedGeneration == other.observedGeneration &&
  s.targetMigrationHash == other.targetMigrationHash &&
  s.currentMigrationHash == other.targetMigrationHash &&
  s.secretHash == other.secretHash &&
  s.image == other.image &&
  s.migration == other.migration &&
  s.phase == other.phase &&
  SpiceDBVersion.equalsPtr s.currentVersion other.currentVersion &&
  SpiceDBVersion.equalsAll s.availableVersions other.availableVersions &&
  decide (s.conditions = other.conditions)

structure SpiceDBCluster where
  name : String
  nameSpace : String
  uid : String := ""
  /-- `none` is the empty text: the object was not read from the API server. -/
  resourceVersion : Option Nat := none
  generation : Int := 0
  labels : GoMap String := ∅
  spec : ClusterSpec := {}
  status : ClusterStatus := {}

namespace SpiceDBCluster

variable (helpers : ConditionHelpers)

def findStatusCondition (c : SpiceDBCluster) (type : String) : Option Condition :=
  helpers.findStatusCondition c.status.conditions type

def isStatusConditionTrue (c : SpiceDBCluster) (type : String) : Bool :=
  helpers.isStatusConditionTrue c.status.conditions type

def setStatusCondition (c : SpiceDBCluster) (condition : Condition) : SpiceDBCluster :=
  { c with status.conditions := helpers.setStatusCondition c.status.conditions condition }

def removeStatusCondition (c : SpiceDBCluster) (type : String) : SpiceDBCluster :=
  { c with status.conditions := helpers.removeStatusCondition c.status.conditions type }

def rolloutInProgress (c : SpiceDBCluster) : Bool :=
  c.isStatusConditionTrue helpers Condition.typeMigrating || c.isStatusConditionTrue helpers Condition.typeRolling ||
    c.status.currentMigrationHash != c.status.targetMigrationHash

end SpiceDBCluster

end SpiceDBOperator
