import Mathlib.Data.List.Sort
import SpiceDBOperator.Config.Patches

/-!
# Generated objects (`pkg/config/config.go:584-1095`, `pkg/metadata`)

Each builder makes an unpatched object, lets the user's patches change it in any way, and then puts back what
the operator relies on. The error of `ApplyPatches` is dropped there.

| here | there |
| --- | --- |
| `labelsForComponent`, `commonLabels` | `metadata.LabelsForComponent`, `Config.commonLabels` |
| `envVars`, `jobEnvVars`, `toEnvVarName` | `toEnvVarApplyConfiguration`, the variables of the job, `toEnvVarName` |
| `unpatchedServiceAccount` … `unpatchedPDB` | the methods of those names |
| `serviceAccount` … `podDisruptionBudget`   | the exported builders; the result is a `Fault` where they dereference nil |
-/

namespace SpiceDBOperator

open Golang

/-! ## Names and labels -/

namespace Metadata

def ownerLabelKey : String := "authzed.com/cluster"
def componentLabelKey : String := "authzed.com/cluster-component"
def operatorManagedLabelKey : String := "authzed.com/managed-by"
def operatorManagedLabelValue : String := "operator"
def componentSpiceDB : String := "spicedb"
def componentMigrationJob : String := "migration-job"
def componentServiceAccount : String := "spicedb-serviceaccount"
def componentRole : String := "spicedb-role"
def componentService : String := "spicedb-service"
def componentRoleBinding : String := "spicedb-rolebinding"
def componentPDB : String := "spicedb-pdb"
def migrationRequirementsKey : String := "authzed.com/spicedb-migration"
def targetMigrationKey : String := "authzed.com/spicedb-target-migration"
def secretRequirementsKey : String := "authzed.com/spicedb-secret"
def configKey : String := "authzed.com/spicedb-configuration"
def kubernetesNameLabelKey : String := "app.kubernetes.io/name"
def kubernetesInstanceLabelKey : String := "app.kubernetes.io/instance"
def kubernetesComponentLabelKey : String := "app.kubernetes.io/component"
def kubernetesVersionLabelKey : String := "app.kubernetes.io/version"

end Metadata

open Metadata

def labelsForComponent (owner component : String) : GoMap String :=
  mapOf [(ownerLabelKey, owner), (componentLabelKey, component), (operatorManagedLabelKey, operatorManagedLabelValue)]

def deploymentName (name : String) : String := name ++ "-spicedb"

def pdbName (name : String) : String := name ++ "-spicedb"

/-- An apply configuration's constructor: type, name and namespace. -/
def newMeta (name nameSpace : String) : ObjectMeta := { name := some name, nameSpace := some nameSpace }

def typeServiceAccount : TypeMeta := { kind := some "ServiceAccount", apiVersion := some "v1" }
def typeRole : TypeMeta := { kind := some "Role", apiVersion := some "rbac.authorization.k8s.io/v1" }
def typeRoleBinding : TypeMeta := { kind := some "RoleBinding", apiVersion := some "rbac.authorization.k8s.io/v1" }
def typeService : TypeMeta := { kind := some "Service", apiVersion := some "v1" }
def typeJob : TypeMeta := { kind := some "Job", apiVersion := some "batch/v1" }
def typeDeployment : TypeMeta := { kind := some "Deployment", apiVersion := some "apps/v1" }
def typePDB : TypeMeta := { kind := some "PodDisruptionBudget", apiVersion := some "policy/v1" }

/-- `toEnvVarName`: isCamelCased becomes PREFIX_IS_CAMEL_CASED. -/
def toEnvVarName (lib : Libraries) (pre key : String) : String :=
  "_".intercalate (toUpper (trimSuffix pre "_") :: (lib.camelcaseSplit key).map toUpper)

namespace Config

variable (lib : Libraries) (c : Config)

def ownerRef : OwnerReference :=
  { name := c.spice.name, kind := "SpiceDBCluster", apiVersion := "authzed.com/v1alpha1", uid := c.spice.uid }

def versionLabel : String :=
  match c.migration.spiceDBVersion with
  | none => ""
  | some v =>
    if v.name = "" then ""
    else
      let versionValue := String.ofList ((lib.slugMake v.name).toList.take 63)
      if lib.isValidLabelValue versionValue then versionValue else ""

def commonLabels (name : String) : GoMap String :=
  let labels := mapOf [(kubernetesInstanceLabelKey, name), (kubernetesNameLabelKey, name),
    (kubernetesComponentLabelKey, componentSpiceDB)]
  if c.versionLabel lib = "" then labels else labels.insert kubernetesVersionLabelKey (c.versionLabel lib)

/-! ## Environment variables -/

/-- The passthrough settings, sorted by key. -/
def passthroughEnv : List EnvVar :=
  (c.spice.passthrough.keys.insertionSort (· ≤ ·)).map fun k =>
    { name := toEnvVarName lib c.spice.envPrefix k, value := some ((c.spice.passthrough.lookup k).getD "") }

def secretEnv (name : String) (ref : ResolvedCredentialRef) (isOptional : Option Bool) : EnvVar :=
  { name, valueFrom := some (.secretKeyRef { name := ref.secretName, key := ref.key, «optional» := isOptional }) }

def envVars : List EnvVar :=
  [{ name := c.spice.envPrefix ++ "_POD_NAME", valueFrom := some (.fieldRef "metadata.name") },
   { name := c.spice.envPrefix ++ "_LOG_LEVEL", value := some c.spice.logLevel }] ++
  (if c.spice.presharedKeyRef.skip then []
   else [secretEnv (c.spice.envPrefix ++ "_GRPC_PRESHARED_KEY") c.spice.presharedKeyRef none]) ++
  (if c.migration.datastoreEngine ≠ "memory" ∧ c.spice.datastoreURIRef.skip = false then
    [secretEnv (c.spice.envPrefix ++ "_DATASTORE_CONN_URI") c.spice.datastoreURIRef none]
   else []) ++
  (if c.spice.dispatchEnabled then
    [{ name := c.spice.envPrefix ++ "_DISPATCH_UPSTREAM_ADDR"
       value := some ("kubernetes:///" ++ c.spice.name ++ "." ++ c.spice.nameSpace ++ ":dispatch") }]
   else []) ++
  c.passthroughEnv lib

def jobEnvVars : List EnvVar :=
  [{ name := c.spice.envPrefix ++ "_LOG_LEVEL", value := some c.migration.migrationLogLevel }] ++
  (if c.spice.datastoreURIRef.skip then []
   else [secretEnv (c.spice.envPrefix ++ "_DATASTORE_CONN_URI") c.spice.datastoreURIRef none]) ++
  (if c.spice.migrationSecretsRef.skip then []
   else [secretEnv (c.spice.envPrefix ++ "_SECRETS") c.spice.migrationSecretsRef (some true)]) ++
  c.passthroughEnv lib

/-! ## Ports, volumes, probes -/

/-- The ports of the service and of the containers. -/
def ports : List Port :=
  [{ name := "grpc", port := 50051 }, { name := "gateway", port := 8443 }, { name := "metrics", port := 9090 }] ++
  (if c.spice.dispatchEnabled then [{ name := "dispatch", port := 50053 }] else [])

def servicePorts : List Port := c.ports

def containerPorts : List Port := c.ports

def secretVolume (name secretName : String) (items : List (String × String)) : Volume :=
  { name, source := .secret 420 secretName items }

def jobVolumes : List Volume :=
  [{ name := "podname", source := .downwardAPI [("name", "metadata.name")] }] ++
  (if c.migration.datastoreTLSSecretName ≠ "" then [secretVolume "db-tls" c.migration.datastoreTLSSecretName []]
   else []) ++
  (if c.migration.spannerCredsSecretRef ≠ "" then
    [secretVolume "spanner" c.migration.spannerCredsSecretRef [("credentials.json", "credentials.json")]]
   else []) ++
  (if c.spice.projectLabels then
    [{ name := "podlabels", source := .downwardAPI [("labels", "metadata.labels")] }]
   else []) ++
  (if c.spice.projectAnnotations then
    [{ name := "podannotations", source := .downwardAPI [("annotations", "metadata.annotations")] }]
   else [])

def jobVolumeMounts : List VolumeMount :=
  (if c.migration.datastoreTLSSecretName ≠ "" then
    [{ name := "db-tls", mountPath := "/spicedb-db-tls", readOnly := some true }]
   else []) ++
  (if c.migration.spannerCredsSecretRef ≠ "" then
    [{ name := "spanner", mountPath := "/spanner-credentials", readOnly := some true }]
   else []) ++
  (if c.spice.projectLabels then [{ name := "podlabels", mountPath := "/etc/podlabels" }] else []) ++
  (if c.spice.projectAnnotations then [{ name := "podannotations", mountPath := "/etc/podannotations" }] else [])

def deploymentVolumes : List Volume :=
  c.jobVolumes ++
  (if c.spice.tlsSecretName ≠ "" then [secretVolume "tls" c.spice.tlsSecretName []] else []) ++
  (if c.spice.dispatchUpstreamCASecretName ≠ "" ∧ c.spice.dispatchEnabled then
    [secretVolume "dispatch-tls" c.spice.dispatchUpstreamCASecretName []]
   else []) ++
  (if c.spice.telemetryTLSCASecretName ≠ "" then
    [secretVolume "telemetry-tls" c.spice.telemetryTLSCASecretName []]
   else [])

def deploymentVolumeMounts : List VolumeMount :=
  c.jobVolumeMounts ++
  (if c.spice.tlsSecretName ≠ "" then [{ name := "tls", mountPath := "/tls", readOnly := some true }] else []) ++
  (if c.spice.dispatchUpstreamCASecretName ≠ "" ∧ c.spice.dispatchEnabled then
    [{ name := "dispatch-tls", mountPath := "/dispatch-tls", readOnly := some true }]
   else []) ++
  (if c.spice.telemetryTLSCASecretName ≠ "" then
    [{ name := "telemetry-tls", mountPath := "/telemetry-tls", readOnly := some true }]
   else [])

def probeCmd : List String :=
  ["grpc_health_probe", "-v", "-addr=localhost:50051"] ++
  (if c.spice.tlsSecretName ≠ "" then ["-tls", "-tls-no-verify"] else [])

/-! ## Unpatched objects -/

def unpatchedServiceAccount : ServiceAccountApply :=
  { typeMeta := typeServiceAccount
    metadata := newMeta c.spice.serviceAccountName c.spice.nameSpace
      |> lib.withLabels (labelsForComponent c.spice.name componentServiceAccount)
      |> lib.withLabels (c.commonLabels lib c.spice.name)
      |> lib.withAnnotations c.spice.extraServiceAccountAnnotations }

def unpatchedRole : RoleApply :=
  { typeMeta := typeRole
    metadata := newMeta c.spice.name c.spice.nameSpace
      |> lib.withLabels (labelsForComponent c.spice.name componentRole)
      |> lib.withLabels (c.commonLabels lib c.spice.name)
    rules :=
      [{ apiGroups := [""], resources := ["endpoints"], verbs := ["get", "list", "watch"] },
       { apiGroups := ["discovery.k8s.io"], resources := ["endpointslices"], verbs := ["get", "list", "watch"] }] }

def unpatchedRoleBinding : RoleBindingApply :=
  { typeMeta := typeRoleBinding
    metadata := newMeta c.spice.name c.spice.nameSpace
      |> lib.withLabels (labelsForComponent c.spice.name componentRoleBinding)
      |> lib.withLabels (c.commonLabels lib c.spice.name)
    roleRef := some { kind := "Role", name := c.spice.name }
    subjects :=
      [{ nameSpace := c.spice.nameSpace, kind := "ServiceAccount", name := c.spice.serviceAccountName }] }

def unpatchedService : ServiceApply :=
  { typeMeta := typeService
    metadata := newMeta c.spice.name c.spice.nameSpace
      |> lib.withLabels (labelsForComponent c.spice.name componentService)
      |> lib.withLabels (c.commonLabels lib c.spice.name)
    spec := some { selector := labelsForComponent c.spice.name componentSpiceDB, ports := c.servicePorts } }

def jobName (migrationHash : String) : String :=
  c.spice.name ++ "-migrate-" ++ String.ofList (migrationHash.toList.take 15)

def unpatchedMigrationJob (migrationHash : String) : JobApply :=
  { typeMeta := typeJob
    metadata := newMeta (c.jobName migrationHash) c.spice.nameSpace
      |> lib.withLabels (labelsForComponent c.spice.name componentMigrationJob)
      |> lib.withLabels (c.commonLabels lib c.spice.name)
      |> lib.withAnnotations (mapOf [(migrationRequirementsKey, migrationHash)])
    spec := some
      { template := some
          { metadata := ({} : ObjectMeta)
              |> lib.withLabels (labelsForComponent c.spice.name componentMigrationJob)
              |> lib.withLabels (c.commonLabels lib c.spice.name)
              |> lib.withLabels c.spice.extraPodLabels
              |> lib.withAnnotations c.spice.extraPodAnnotations
            spec := some
              { serviceAccountName := c.spice.serviceAccountName
                containers :=
                  [{ name := "migrate"
                     image := c.migration.targetSpiceDBImage
                     command := [c.migration.spiceDBCmd, "migrate", c.migration.targetMigration]
                     env := c.jobEnvVars lib
                     ports := c.containerPorts
                     volumeMounts := c.jobVolumeMounts
                     terminationMessagePolicy := "FallbackToLogsOnError" }]
                volumes := c.jobVolumes
                restartPolicy := some "OnFailure" } } } }

/-- The migration annotation of a deployment. -/
def migrationAnnotationOf (migrationHash : String) : String :=
  if c.spice.skipMigrations then "skipped" else migrationHash

def podAnnotations (secretHash : String) : GoMap String :=
  mapOf [(secretRequirementsKey, secretHash), (targetMigrationKey, c.migration.targetMigration)]

def unpatchedDeployment (migrationHash secretHash : String) : DeploymentApply :=
  let name := deploymentName c.spice.name
  { typeMeta := typeDeployment
    metadata := newMeta name c.spice.nameSpace
      |> lib.withLabels (labelsForComponent c.spice.name componentSpiceDB)
      |> lib.withLabels (c.commonLabels lib name)
      |> lib.withAnnotations (mapOf [(migrationRequirementsKey, c.migrationAnnotationOf migrationHash)])
    spec := some
      { replicas := some c.spice.replicas
        strategy := some { type := "RollingUpdate", maxUnavailable := .int 0 }
        selector := some { matchLabels := mapOf [(kubernetesInstanceLabelKey, name)] }
        template := some
          { metadata := ({} : ObjectMeta)
              |> lib.withAnnotations (c.podAnnotations secretHash)
              |> lib.withLabels (labelsForComponent c.spice.name componentSpiceDB)
              |> lib.withLabels (c.commonLabels lib name)
              |> lib.withLabels c.spice.extraPodLabels
              |> lib.withAnnotations c.spice.extraPodAnnotations
            spec := some
              { serviceAccountName := c.spice.serviceAccountName
                containers :=
                  [{ name := "spicedb"
                     image := c.migration.targetSpiceDBImage
                     command := [c.spice.spiceDBCmd, "serve"]
                     env := c.envVars lib
                     ports := c.containerPorts
                     livenessProbe := some
                       { command := c.probeCmd, initialDelaySeconds := some 60, failureThreshold := 5
                         periodSeconds := 10, timeoutSeconds := 5 }
                     readinessProbe := some
                       { command := c.probeCmd, failureThreshold := 5, periodSeconds := 10, timeoutSeconds := 5 }
                     volumeMounts := c.deploymentVolumeMounts
                     terminationMessagePolicy := "FallbackToLogsOnError" }]
                volumes := c.deploymentVolumes } } } }

def unpatchedPDB : PodDisruptionBudgetApply :=
  let spec : PodDisruptionBudgetSpec :=
    { selector := some { matchLabels := mapOf [(kubernetesInstanceLabelKey, deploymentName c.spice.name)] } }
  { typeMeta := typePDB
    metadata := newMeta (pdbName c.spice.name) c.spice.nameSpace
      |> lib.withLabels (labelsForComponent c.spice.name componentPDB)
    spec := some
      (match c.spice.pdb.maxUnavailable, c.spice.pdb.minAvailable with
       | some n, _ => { spec with maxUnavailable := some n }
       | none, some n => { spec with minAvailable := some n }
       | none, none => { spec with maxUnavailable := some (.int 1) }) }

/-! ## Objects as applied -/

def serviceAccount : Go ServiceAccountApply := do
  let sa : ServiceAccountApply :=
    { typeMeta := typeServiceAccount, metadata := newMeta c.spice.serviceAccountName c.spice.nameSpace }
  let patched ← applyPatches lib lib.serviceAccountCodec typeServiceAccount (c.unpatchedServiceAccount lib) sa c.patches
    c.patchMeta
  let sa := patched.out
  .ok { sa with
        metadata := sa.metadata
          |> lib.withName c.spice.serviceAccountName
          |> lib.withNamespace c.spice.nameSpace
          |> lib.withLabels (labelsForComponent c.spice.name componentServiceAccount)
          |> lib.withOwnerReferences c.ownerRef }

def role : Go RoleApply := do
  let r : RoleApply := { typeMeta := typeRole, metadata := newMeta c.spice.name c.spice.nameSpace }
  let patched ← applyPatches lib lib.roleCodec typeRole (c.unpatchedRole lib) r c.patches c.patchMeta
  let r := patched.out
  .ok { r with
        metadata := r.metadata
          |> lib.withName c.spice.name
          |> lib.withNamespace c.spice.nameSpace
          |> lib.withLabels (labelsForComponent c.spice.name componentRole)
          |> lib.withOwnerReferences c.ownerRef }

def roleBinding : Go RoleBindingApply := do
  let rb : RoleBindingApply := { typeMeta := typeRoleBinding, metadata := newMeta c.spice.name c.spice.nameSpace }
  let patched ← applyPatches lib lib.roleBindingCodec typeRoleBinding
    (c.unpatchedRoleBinding lib) rb c.patches c.patchMeta
  let rb := patched.out
  .ok { rb with
        metadata := rb.metadata
          |> lib.withName c.spice.name
          |> lib.withNamespace c.spice.nameSpace
          |> lib.withLabels (labelsForComponent c.spice.name componentRoleBinding)
          |> lib.withOwnerReferences c.ownerRef }

def service : Go ServiceApply := do
  let s : ServiceApply := { typeMeta := typeService, metadata := newMeta c.spice.name c.spice.nameSpace }
  let unpatched := c.unpatchedService lib
  let patched ← applyPatches lib lib.serviceCodec typeService unpatched s c.patches c.patchMeta
  let s := patched.out
  -- not allowed to patch out the spec
  let spec ← deref (s.spec.or unpatched.spec)
  .ok { s with
        metadata := s.metadata
          |> lib.withName c.spice.name
          |> lib.withNamespace c.spice.nameSpace
          |> lib.withLabels (labelsForComponent c.spice.name componentService)
          |> lib.withOwnerReferences c.ownerRef
        spec := some
          { spec with selector := mergeInto spec.selector (labelsForComponent c.spice.name componentSpiceDB) } }

def migrationJob (migrationHash : String) : Go JobApply := do
  let j : JobApply := { typeMeta := typeJob, metadata := newMeta (c.jobName migrationHash) c.spice.nameSpace }
  let unpatched := c.unpatchedMigrationJob lib migrationHash
  let patched ← applyPatches lib lib.jobCodec typeJob unpatched j c.patches c.patchMeta
  let j := patched.out
  -- not allowed to patch out the spec or the template
  let unpatchedSpec ← deref unpatched.spec
  let spec ← deref (j.spec.or unpatched.spec)
  let template ← deref (spec.template.or unpatchedSpec.template)
  .ok { j with
        metadata := j.metadata
          |> lib.withName (c.jobName migrationHash)
          |> lib.withNamespace c.spice.nameSpace
          |> lib.withOwnerReferences c.ownerRef
          |> lib.withLabels (labelsForComponent c.spice.name componentMigrationJob)
          |> lib.withAnnotations (mapOf [(migrationRequirementsKey, migrationHash)])
        spec := some
          { spec with
            template := some
              { template with
                metadata := lib.withLabels
                  (labelsForComponent c.spice.name componentMigrationJob) template.metadata } } }

/-- `Config.Deployment` (config.go:983). -/
def deployment (migrationHash secretHash : String) : Go DeploymentApply := do
  let name := deploymentName c.spice.name
  let d : DeploymentApply := { typeMeta := typeDeployment, metadata := newMeta name c.spice.nameSpace }
  let unpatched := c.unpatchedDeployment lib migrationHash secretHash
  let patched ← applyPatches lib lib.deploymentCodec typeDeployment unpatched d c.patches c.patchMeta
  let d := patched.out
  -- not allowed to patch out the spec, the selector or the template
  let unpatchedSpec ← deref unpatched.spec
  let spec ← deref (d.spec.or unpatched.spec)
  let selector ← deref (spec.selector.or unpatchedSpec.selector)
  let template ← deref (spec.template.or unpatchedSpec.template)
  .ok { d with
        metadata := d.metadata
          |> lib.withName name
          |> lib.withNamespace c.spice.nameSpace
          |> lib.withOwnerReferences c.ownerRef
          |> lib.withLabels (labelsForComponent c.spice.name componentSpiceDB)
          |> lib.withAnnotations (mapOf [(migrationRequirementsKey, c.migrationAnnotationOf migrationHash)])
        spec := some
          { spec with
            selector := some (lib.withMatchLabels (mapOf [(kubernetesInstanceLabelKey, name)]) selector)
            template := some
              { template with
                metadata := template.metadata
                  |> lib.withAnnotations (c.podAnnotations secretHash)
                  |> lib.withLabels (mapOf [(kubernetesInstanceLabelKey, name)])
                  |> lib.withLabels (labelsForComponent c.spice.name componentSpiceDB) } } }

/-- `Config.PodDisruptionBudget`: unlike its siblings it does not put the spec back. -/
def podDisruptionBudget : Go PodDisruptionBudgetApply := do
  let name := pdbName c.spice.name
  let d : PodDisruptionBudgetApply := { typeMeta := typePDB, metadata := newMeta name c.spice.nameSpace }
  let patched ← applyPatches lib lib.podDisruptionBudgetCodec typePDB (c.unpatchedPDB lib) d c.patches c.patchMeta
  let d := patched.out
  let spec ← deref d.spec
  let selector ← deref spec.selector
  .ok { d with
        metadata := d.metadata
          |> lib.withName name
          |> lib.withNamespace c.spice.nameSpace
          |> lib.withOwnerReferences c.ownerRef
          |> lib.withLabels (c.commonLabels lib name)
          |> lib.withLabels (labelsForComponent c.spice.name componentPDB)
        spec := some
          { spec with
            selector := some
              (lib.withMatchLabels (mapOf [(kubernetesInstanceLabelKey, deploymentName c.spice.name)]) selector) } }

end Config

end SpiceDBOperator
