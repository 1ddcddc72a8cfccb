import SpiceDBOperator.Api.Cluster
import SpiceDBOperator.Updates.Graph

/-!
# `Config` and the libraries it rests on (`pkg/config/config.go`, `global.go`)

| here | there |
| --- | --- |
| `MigrationConfig`, `SpiceConfig`, `PDBConfig`, `Config` | config.go:141-201 |
| `ResolvedCredentialRef` | config.go:107 |
| `OperatorConfig`        | global.go:6 |
| `Libraries`             | functions of other modules, which the model leaves open |

`Config` embeds `MigrationConfig` and `SpiceConfig`; here they are two fields.
-/

namespace SpiceDBOperator

open Golang

structure OperatorConfig where
  imageName : String := ""
  updateGraph : UpdateGraph := {}

structure ResolvedCredentialRef where
  secretName : String := ""
  key : String := ""
  skip : Bool := false
deriving DecidableEq, Repr

structure MigrationConfig where
  targetMigration : String := ""
  targetPhase : String := ""
  migrationLogLevel : String := ""
  datastoreEngine : String := ""
  datastoreURI : String := ""
  spannerCredsSecretRef : String := ""
  targetSpiceDBImage : String := ""
  envPrefix : String := ""
  spiceDBCmd : String := ""
  datastoreTLSSecretName : String := ""
  spiceDBVersion : Option SpiceDBVersion := none
deriving DecidableEq, Repr

structure PDBConfig where
  disabled : Bool := false
  maxUnavailable : Option IntOrString := none
  minAvailable : Option IntOrString := none
deriving DecidableEq, Repr

structure SpiceConfig where
  logLevel : String := ""
  skipMigrations : Bool := false
  name : String := ""
  nameSpace : String := ""
  uid : String := ""
  replicas : Int := 0
  presharedKey : String := ""
  envPrefix : String := ""
  spiceDBCmd : String := ""
  tlsSecretName : String := ""
  skipTLSWarning : Bool := false
  dispatchEnabled : Bool := false
  dispatchUpstreamCASecretName : String := ""
  dispatchUpstreamCASecretPath : String := ""
  telemetryTLSCASecretName : String := ""
  datastoreURIRef : ResolvedCredentialRef := {}
  presharedKeyRef : ResolvedCredentialRef := {}
  migrationSecretsRef : ResolvedCredentialRef := {}
  extraPodLabels : GoMap String := ∅
  extraPodAnnotations : GoMap String := ∅
  extraServiceAccountAnnotations : GoMap String := ∅
  serviceAccountName : String := ""
  projectLabels : Bool := false
  projectAnnotations : Bool := false
  passthrough : GoMap String := ∅
  pdb : PDBConfig := {}

/-! ## Patches, as the libraries see them -/

structure GroupVersionKind where
  group : String
  version : String
  kind : String
deriving DecidableEq, Repr

/-- `strategicpatch.LookupPatchMeta`, by what `StrategicMergePatchUsingLookupPatchMeta` does with it: a document and
a patch to the merged document. -/
abbrev LookupPatchMeta := String → String → Except String String

abbrev PatchMetaResolver := GroupVersionKind → Except String LookupPatchMeta

structure Config where
  migration : MigrationConfig
  spice : SpiceConfig
  patches : List Patch := []
  patchMeta : PatchMetaResolver

/-- `jsonpatch.Operation`: its kind is `"unknown"` when the text has no operation. -/
structure Operation where
  kind : String
  text : String
deriving DecidableEq, Repr

/-- `encoding/json` on one type of object: documents are texts, and decoding fills in a given object. -/
structure Codec (K : Type) where
  marshal : K → Except String String
  unmarshal : String → K → K × Option String

/-! ## Libraries -/

/-- One line of what the secret hash is computed from (config_change.go:78). -/
structure HashEntry where
  secret : String
  key : String
  value : String
deriving DecidableEq, Repr

/-- The text of `errors.NewAggregate(errs)`; `none` is the nil error. -/
structure Aggregation where
  aggregate : List String → Option String
  aggregate_nil : aggregate [] = none
  /-- Duplicates are dropped. -/
  aggregate_one : ∀ errs err, errs.eraseDups = [err] → aggregate errs = some err
  aggregate_many : ∀ errs err err' rest, errs.eraseDups = err :: err' :: rest →
    aggregate errs = some ("[" ++ ", ".intercalate (err :: err' :: rest) ++ "]")

structure Libraries extends ApplyMethods, ConditionHelpers, Aggregation where
  /-- `hash.SecureObject` on a `MigrationConfig`. -/
  secureMigrationConfig : MigrationConfig → String
  /-- `hash.SecureObject` on the credential values. -/
  secureHashData : List HashEntry → String
  /-- `hash.Object` on a deployment. -/
  hashDeployment : DeploymentApply → String
  /-- `hash.Object("")`. -/
  hashEmpty : String
  /-- `slug.Make`, with `.` kept by way of a custom substitution. -/
  slugMake : String → String
  /-- `len(validation.IsValidLabelValue(s)) == 0`. -/
  isValidLabelValue : String → Bool
  /-- `maps.Keys` on a set of texts: from the order in which they were added to the order of an iteration. -/
  mapsKeys : List String → List String
  /-- `camelcase.Split`. -/
  camelcaseSplit : String → List String
  /-- Decode the first document of a patch as a JSON6902 operation. -/
  decodeOperation : String → Except String Operation
  /-- `utilyaml.ToJSON`. -/
  toJSON : String → Except String String
  /-- `schema.ParseGroupVersion`: group and version. -/
  parseGroupVersion : String → Except String (String × String)
  /-- `jsonpatch.Patch.Apply` of one operation. -/
  applyOperation : Operation → String → Except String String
  serviceAccountCodec : Codec ServiceAccountApply
  roleCodec : Codec RoleApply
  roleBindingCodec : Codec RoleBindingApply
  serviceCodec : Codec ServiceApply
  jobCodec : Codec JobApply
  deploymentCodec : Codec DeploymentApply
  podDisruptionBudgetCodec : Codec PodDisruptionBudgetApply

/-- The methods of a cluster take the libraries for the helpers on conditions. -/
instance : CoeOut Libraries ConditionHelpers := ⟨Libraries.toConditionHelpers⟩

theorem eq_nil_of_eraseDups {errs : List String} (h : errs.eraseDups = []) : errs = [] := by
  cases errs with
  | nil => rfl
  | cons err rest =>
    have hmem : err ∈ (err :: rest).eraseDups := List.mem_eraseDups.2 (List.mem_cons_self ..)
    rw [h] at hmem
    cases hmem

namespace Aggregation

variable (agg : Aggregation) {errs errs' : List String}

theorem eq_nil_of_aggregate (h : agg.aggregate errs = none) : errs = [] := by
  rcases hdups : errs.eraseDups with _ | ⟨err, _ | ⟨err', rest⟩⟩
  · exact eq_nil_of_eraseDups hdups
  · rw [agg.aggregate_one errs err hdups] at h
    cases h
  · rw [agg.aggregate_many errs err err' rest hdups] at h
    cases h

theorem aggregate_congr (h : errs.eraseDups = errs'.eraseDups) : agg.aggregate errs = agg.aggregate errs' := by
  rcases hdups : errs.eraseDups with _ | ⟨err, _ | ⟨err', rest⟩⟩
  · rw [eq_nil_of_eraseDups hdups, eq_nil_of_eraseDups (h.symm.trans hdups)]
  · rw [agg.aggregate_one errs err hdups, agg.aggregate_one errs' err (h.symm.trans hdups)]
  · rw [agg.aggregate_many errs err err' rest hdups, agg.aggregate_many errs' err err' rest (h.symm.trans hdups)]

end Aggregation

end SpiceDBOperator
