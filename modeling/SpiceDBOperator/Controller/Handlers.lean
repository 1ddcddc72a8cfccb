import SpiceDBOperator.Controller.Idioms

/-!
# The handlers of a reconcile (`pkg/controller`)

A handler of the source does its work and calls the next one last, with an extended context; here it returns what
it adds to the context, or stops. The order of the handlers is that of `reconcile`, the chain of controller.go:266.

| here | there |
| --- | --- |
| `validateSpec`       | `ValidateSpecHandler` (validate_spec.go) |
| `adoptSecrets`       | `secretAdopter` (controller.go) |
| `collectSecrets`     | `collectSecrets` (controller.go) |
| `checkConfigChanged` | `ConfigChangedHandler` (config_change.go) |
| `validateConfig`     | `ValidateConfigHandler` (validate_config.go) |
| `ensureComponents`   | `ensureServiceAccount`, `ensureRole`, `ensureService`, `ensureRoleBinding` (controller.go) |
| `ensurePDB`          | `ensurePDB` (controller.go) |
| `checkMigrations`    | `MigrationCheckHandler` (check_migrations.go) |
| `runMigration`       | `MigrationRunHandler` (run_migration.go) |
| `waitForMigrations`  | `WaitForMigrationsHandler` (wait_for_migrations.go) |
| `ensureDeployment`   | `DeploymentHandler` (ensure_deployment.go) |
| `cleanupJob`         | `JobCleanupHandler` (cleanup_job.go) |

The pause handlers, the adoption of one secret and the ensuring of one component are those of `Idioms`. Events sent to
the recorder and log lines are left out.
-/

namespace SpiceDBOperator

open Golang Hoare Metadata Handler

/-! ## Validation of the spec -/

/-- A credential that is neither skipped nor named. -/
def unnamedCredential (field : String) (ref : Option CredentialRef) : Option String :=
  match ref with
  | some ref =>
    if ref.skip = false ∧ ref.secretName = "" then some (field ++ ": secretName must be set when skip is false")
    else none
  | none => none

def specError (spec : ClusterSpec) : Option String :=
  match spec.credentials with
  | none => none
  | some creds =>
    if spec.secretRef ≠ "" then some "secretName and credentials are mutually exclusive; set only one"
    else
      (unnamedCredential "credentials.datastoreURI" creds.datastoreURI).or
        ((unnamedCredential "credentials.presharedKey" creds.presharedKey).or
          (unnamedCredential "credentials.migrationSecrets" creds.migrationSecrets))

/-- Report an invalid config, unless it is reported already, and wait for a change. -/
def reject {α : Type} (lib : Libraries) (sender : Sender) (cluster : SpiceDBCluster)
    (failedCondition : Condition) : Handler α :=
  if (cluster.findStatusCondition lib Condition.validatingFailed).any (·.message = failedCondition.message) then
    queue .done
  else do
    let cluster : SpiceDBCluster := { cluster with status.observedGeneration := cluster.generation }
    let cluster := (cluster.removeStatusCondition lib Condition.typeValidating).setStatusCondition lib failedCondition
    let _ ← patchStatus sender .requeueAPIErr cluster
    queue .done

def validateSpec (lib : Libraries) (cluster : SpiceDBCluster) : Handler Unit := do
  let w ← world
  match specError cluster.spec with
  | none => pure ()
  | some err => reject lib .invalidSpec cluster (Condition.newInvalidConfigCondition w.now "" err)

/-! ## Secrets -/

namespace Metadata

def credentialTypeDatastoreURI : String := "datastore-uri"
def credentialTypePresharedKey : String := "preshared-key"
def credentialTypeMigrationSecrets : String := "migration-secrets"

def credentialTypeDatastoreURILabelKey : String := "authzed.com/credential-type-datastore-uri"
def credentialTypePresharedKeyLabelKey : String := "authzed.com/credential-type-preshared-key"
def credentialTypeMigrationSecretsLabelKey : String := "authzed.com/credential-type-migration-secrets"

def owningClusterIndex : String := "owning-cluster"
def owningClusterDatastoreURIIndex : String := "owning-cluster-datastore-uri"
def owningClusterPresharedKeyIndex : String := "owning-cluster-preshared-key"
def owningClusterMigrationSecretsIndex : String := "owning-cluster-migration-secrets"

/-- Empty for unknown types, and for the secret of `spec.secretName`. -/
def labelKeyForCredentialType (credType : String) : String :=
  if credType = credentialTypeDatastoreURI then credentialTypeDatastoreURILabelKey
  else if credType = credentialTypePresharedKey then credentialTypePresharedKeyLabelKey
  else if credType = credentialTypeMigrationSecrets then credentialTypeMigrationSecretsLabelKey
  else ""

def indexNameForCredentialType (credType : String) : String :=
  if credType = credentialTypeDatastoreURI then owningClusterDatastoreURIIndex
  else if credType = credentialTypePresharedKey then owningClusterPresharedKeyIndex
  else if credType = credentialTypeMigrationSecrets then owningClusterMigrationSecretsIndex
  else owningClusterIndex

end Metadata

def credentialRefs (creds : ClusterCredentials) : List (Option CredentialRef) :=
  [creds.datastoreURI, creds.presharedKey, creds.migrationSecrets]

/-- The secret a credential is read from. -/
def referencedSecret (ref : Option CredentialRef) : Option String :=
  match ref with
  | some ref => if ref.skip = false ∧ ref.secretName ≠ "" then some ref.secretName else none
  | none => none

/-- `credentialSecretNames` (controller.go:417). -/
def credentialSecretNames (spec : ClusterSpec) : List String :=
  match spec.credentials with
  | some creds => ((credentialRefs creds).filterMap referencedSecret).eraseDups
  | none => if spec.secretRef ≠ "" then [spec.secretRef] else []

/-- The credentials with their types. -/
def roleSecrets (creds : ClusterCredentials) : List (Option CredentialRef × String) :=
  [(creds.datastoreURI, credentialTypeDatastoreURI), (creds.presharedKey, credentialTypePresharedKey),
    (creds.migrationSecrets, credentialTypeMigrationSecrets)]

/-- `credentialSecretsForCluster` (controller.go:447): one entry for each credential, with its type. A secret that has
several roles comes up several times. -/
def credentialSecretsForCluster (spec : ClusterSpec) : List (String × String) :=
  match spec.credentials with
  | some creds => (roleSecrets creds).filterMap fun rs => (referencedSecret rs.1).map fun name => (name, rs.2)
  | none => if spec.secretRef ≠ "" then [(spec.secretRef, "")] else []

/-- The labels an adopted secret is given (secret_adoption.go:24). -/
def adoptionLabels (credentialType : String) : GoMap String :=
  let labels := mapOf [(operatorManagedLabelKey, operatorManagedLabelValue)]
  if labelKeyForCredentialType credentialType ≠ "" then labels.insert (labelKeyForCredentialType credentialType) "true"
  else labels

/-- The secret in the cache, if it has the label of the role (controller.go:667). -/
def getFromCache (credentialType : String) (cached : Option ObjectMeta) : Option ObjectMeta :=
  cached.bind fun secret =>
    if labelKeyForCredentialType credentialType ≠ "" ∧
        labelKeyForCredentialType credentialType ∉ secret.labels then none
    else some secret

/-- The object sent for a missing secret has no generation, and no resource version. -/
def missingSecret (lib : Libraries) (cluster : SpiceDBCluster) (name err : String) : Handler Unit := do
  let w ← world
  let status : SpiceDBCluster :=
    { name := cluster.name, nameSpace := cluster.nameSpace
      status := { cluster.status with observedGeneration := cluster.generation } }
  let _ ← patchStatus .missingSecret .requeueAPIErr
    (status.setStatusCondition lib (Condition.newMissingSecretCondition w.now cluster.nameSpace name))
  queue (.requeueErr err)

section

variable (lib : Libraries) (idioms : Idioms lib)

def adoptSecrets (cluster : SpiceDBCluster) : Handler Unit := do
  let w ← world
  each (credentialSecretsForCluster cluster.spec) fun cs =>
    idioms.adopt cluster.name cs.1 (getFromCache cs.2 (w.cache.secretMeta.lookup cs.1)) (adoptionLabels cs.2)
      (indexNameForCredentialType cs.2) w.cache.secretMeta (missingSecret lib cluster cs.1)

end

def collectSecrets (secrets : GoMap Secret) (spec : ClusterSpec) : GoMap Secret :=
  mapRestrict (fun name => decide (name ∈ credentialSecretNames spec)) id secrets

/-! ## Config changes -/

/-- The secret keys one credential refers to. -/
def credKey (defaultKey : String) (ref : CredentialRef) : String × String :=
  (ref.secretName, if ref.key = "" then defaultKey else ref.key)

def credKeys (spec : ClusterSpec) : List (String × String) :=
  match spec.credentials with
  | none =>
    if spec.secretRef = "" then []
    else [(spec.secretRef, "datastore_uri"), (spec.secretRef, "migration_secrets"), (spec.secretRef, "preshared_key")]
  | some creds =>
    (match creds.datastoreURI with
      | some ref =>
        if ref.skip then []
        else credKey "datastore_uri" ref ::
          (if creds.migrationSecrets = none then [(ref.secretName, "migration_secrets")] else [])
      | none => []) ++
    (match creds.presharedKey with
      | some ref => if ref.skip then [] else [credKey "preshared_key" ref]
      | none => []) ++
    (match creds.migrationSecrets with
      | some ref => if ref.skip then [] else [credKey "migration_secrets" ref]
      | none => [])

def credKeyLe (a b : String × String) : Prop := a.1 < b.1 ∨ (a.1 = b.1 ∧ a.2 ≤ b.2)

instance : DecidableRel credKeyLe := fun a b => inferInstanceAs (Decidable (a.1 < b.1 ∨ (a.1 = b.1 ∧ a.2 ≤ b.2)))

/-- The values to hash, sorted by secret and key; secrets that are not there are left out. -/
def hashData (secrets : GoMap Secret) (spec : ClusterSpec) : List HashEntry :=
  ((credKeys spec).insertionSort credKeyLe).filterMap fun ck =>
    (secrets.lookup ck.1).map fun sec => { secret := ck.1, key := ck.2, value := (sec.data.lookup ck.2).getD "" }

variable (lib : Libraries) (idioms : Idioms lib)

def secretHashOf (secrets : GoMap Secret) (spec : ClusterSpec) : String :=
  if hashData secrets spec = [] then "" else lib.secureHashData (hashData secrets spec)

/-- The object sent is a new one, without a resource version; the cluster goes on with its status. The spec, which is
not sent, is kept for the record. -/
def checkConfigChanged (cluster : SpiceDBCluster) (secretHash : String) : Handler SpiceDBCluster := do
  let w ← world
  if cluster.generation ≠ cluster.status.observedGeneration ∨ secretHash ≠ cluster.status.secretHash ∨
      (cluster.findStatusCondition lib Condition.typePreconditionsFailed).any
        (·.reason = Condition.reasonMissingSecret) then
    let status : SpiceDBCluster :=
      { cluster with
        resourceVersion := none, status.observedGeneration := cluster.generation, status.secretHash := secretHash }
    let status := (status.removeStatusCondition lib Condition.typePreconditionsFailed).setStatusCondition lib
      (Condition.newValidatingConfigCondition w.now secretHash)
    let status ← patchStatus .configChanged .requeueAPIErr status
    pure { cluster with status := status.status }
  else pure cluster

/-! ## Validation of the config -/

/-- What `ValidateConfigHandler` adds to the context. -/
structure Validated where
  cluster : SpiceDBCluster
  config : Config
  migrationHash : String
  secretHash : String

/-- The status computed from a valid config (validate_config.go:61-86). -/
def computedStatus (now : Nat) (cluster : SpiceDBCluster) (config : Config) (warning : Option String)
    (migrationHash : String) (availableVersions : List SpiceDBVersion) : ClusterStatus :=
  let conditions := lib.removeStatusCondition
    (lib.removeStatusCondition cluster.status.conditions Condition.validatingFailed) Condition.typeValidating
  { observedGeneration := cluster.generation
    targetMigrationHash := migrationHash
    currentMigrationHash := cluster.status.currentMigrationHash
    secretHash := cluster.status.secretHash
    image := config.migration.targetSpiceDBImage
    migration := config.migration.targetMigration
    phase := config.migration.targetPhase
    currentVersion := config.migration.spiceDBVersion
    availableVersions
    conditions :=
      match warning with
      | some warning => lib.setStatusCondition conditions (Condition.newConfigWarningCondition now warning)
      | none => lib.removeStatusCondition conditions Condition.typeConfigWarnings }

def availableVersionsOf (operatorConfig : OperatorConfig) (config : Config) : Handler (List SpiceDBVersion) :=
  match config.migration.spiceDBVersion with
  | none => pure []
  | some version => do
    match ← lift (operatorConfig.updateGraph.availableVersions config.migration.datastoreEngine version) with
    | .ok versions => pure versions
    | .error err => queue (.requeueErr err.text)

def validateConfig (resolver : PatchMetaResolver) (cluster : SpiceDBCluster) (secrets : GoMap Secret)
    (secretHash : String) : Handler Validated := do
  let w ← world
  let (result, warning) ← lift (newConfig lib cluster w.operatorConfig secrets resolver)
  match result with
  | .error err => reject lib .invalidConfig cluster (Condition.newInvalidConfigCondition w.now secretHash err)
  | .ok config => do
    let migrationHash := lib.secureMigrationConfig config.migration
    let availableVersions ← availableVersionsOf w.operatorConfig config
    let status := computedStatus lib w.now cluster config warning migrationHash availableVersions
    if cluster.status.equals status then pure { cluster, config, migrationHash, secretHash }
    else do
      let cluster ← patchStatus (.validated warning.isSome) .requeueAPIErr { cluster with status }
      pure { cluster, config, migrationHash, secretHash }

/-! ## Components -/

/-- Build an object and make sure that it is there. The function that applies it dereferences the name. -/
def ensureComponent {K : Type} (of : K → ComponentApply) (build : Go K) : Handler Unit := do
  let w ← world
  let object ← lift build
  let name ← lift (deref (of object).metadata.name)
  idioms.ensure (w.cache.components.filter (·.kind = (of object).kind)) (of object) name

def ensureComponents (config : Config) : Handler Unit := do
  ensureComponent lib idioms .serviceAccount (config.serviceAccount lib)
  ensureComponent lib idioms .role (config.role lib)
  ensureComponent lib idioms .service (config.service lib)
  ensureComponent lib idioms .roleBinding (config.roleBinding lib)

def hasAllLabels (actual expected : GoMap String) : Bool :=
  expected.entries.all fun e => (actual.lookup e.1).getD "" = e.2

/-- A disabled budget is deleted; a failure to do so is only logged. -/
def ensurePDB (config : Config) : Handler Unit :=
  if config.spice.pdb.disabled then do
    let w ← world
    each (w.cache.components.filter (·.kind = .podDisruptionBudget)) fun pdb => do
      if hasAllLabels pdb.labels (labelsForComponent config.spice.name componentPDB) then
        let _ ← call (.deleteComponent .podDisruptionBudget pdb.name)
  else ensureComponent lib idioms .podDisruptionBudget (config.podDisruptionBudget lib)

/-! ## Migrations -/

def findJobCondition (job : Job) (type : JobConditionType) : Option JobCondition := job.conditions.find? (·.type = type)

def jobConditionHasStatus (job : Job) (type : JobConditionType) (status : ConditionStatus) : Bool :=
  (findJobCondition job type).any (·.status = status)

/-- The object has annotations, and the migration annotation is `hash`. -/
def carriesHash (annotations : Option (GoMap String)) (hash : String) : Bool :=
  annotations.isSome && decide (annotationAt annotations migrationRequirementsKey = hash)

inductive Route where
  | deploymentChain
  | runMigration
  | waitForMigrations (job : Job)

def checkMigrations (v : Validated) (deployments : List Deployment) (jobs : List Job) : Route :=
  let hasDeployment := deployments.any fun d => carriesHash d.annotations v.migrationHash
  let job := jobs.find? fun j => carriesHash j.annotations v.migrationHash
  if v.config.spice.skipMigrations ∨ v.config.migration.datastoreEngine = "memory" then .deploymentChain
  else if v.cluster.status.currentVersion.any fun version =>
      !version.attributes.contains SpiceDBVersionAttributes.migration then .deploymentChain
  else if hasDeployment then .deploymentChain
  else
    match job with
    | none => .runMigration
    | some job => .waitForMigrations job

/-- Split objects by whether the annotation `key` is `hash`. An object without annotations is put among the extra ones
before its annotation is compared, and then again. -/
def partitionObjs {α : Type} (annotations : α → Option (GoMap String)) (key hash : String) :
    List α → List α × List α
  | [] => ([], [])
  | o :: rest =>
    let (matchingObjs, extraObjs) := partitionObjs annotations key hash rest
    let unannotated := if (annotations o).isNone then [o] else []
    if annotationAt (annotations o) key = hash then (o :: matchingObjs, unannotated ++ extraObjs)
    else (matchingObjs, unannotated ++ o :: extraObjs)

/-- The job to wait for. -/
def runMigration (v : Validated) (jobs : List Job) : Handler (Validated × Job) := do
  let w ← world
  let cluster ← patchStatus .migrating .requeueErr (v.cluster.setStatusCondition lib
    (Condition.newMigratingCondition w.now v.config.migration.datastoreEngine v.config.migration.targetMigration))
  let v := { v with cluster }
  let (matchingObjs, extraObjs) := partitionObjs Job.annotations migrationRequirementsKey v.migrationHash jobs
  if matchingObjs = [] then
    let job ← lift (v.config.migrationJob lib v.migrationHash)
    let name ← lift (deref job.metadata.name)
    callOr .requeueAPIErr (.applyJob name job)
  each extraObjs fun o => callOr .requeueAPIErr (.deleteJob o.name)
  match matchingObjs with
  | job :: _ => pure (v, job)
  | [] => queue (.requeueAfter 5)

def waitForMigrations (v : Validated) (job : Job) : Handler Unit := do
  let w ← world
  match findJobCondition job .failed with
  | some { status := .true, message, .. } =>
    idioms.selfPause (v.cluster.setStatusCondition lib (Condition.newMigrationFailedCondition w.now
      v.config.migration.datastoreEngine "head" ("migration job failed: " ++ message)))
  | _ =>
    if jobConditionHasStatus job .complete .true then record (.jobCompleted job)
    else queue (.requeueAfter 5)

/-! ## The deployment -/

/-- The end of a migration and the start of a rollout. -/
def rolloutStarted (now : Nat) (cluster : SpiceDBCluster) : SpiceDBCluster :=
  let cluster := cluster.removeStatusCondition lib Condition.typeMigrating
  let cluster : SpiceDBCluster := { cluster with status.currentMigrationHash := cluster.status.targetMigrationHash }
  cluster.setStatusCondition lib (Condition.newRollingCondition now "Rolling deployment to latest version")

/-- The first part of the handler (ensure_deployment.go:33-43): one status patch for both. -/
def startRollout (cluster : SpiceDBCluster) : Handler SpiceDBCluster := do
  let w ← world
  if (cluster.findStatusCondition lib Condition.typeMigrating).isSome ∨
      cluster.status.currentMigrationHash ≠ cluster.status.targetMigrationHash then
    patchStatus .rollingOut .requeueAPIErr (rolloutStarted lib w.now cluster)
  else pure cluster

/-- Apply the deployment, and report or clear an apply error (ensure_deployment.go:84-112). The cached list does not
have it yet, so this ends the reconcile. -/
def applyNewDeployment {α : Type} (v : Validated) (newDeployment : DeploymentApply) (deploymentHash : String) :
    Handler α := do
  let w ← world
  let applied : DeploymentApply :=
    { newDeployment with metadata := lib.withAnnotations (mapOf [(configKey, deploymentHash)]) newDeployment.metadata }
  let name ← lift (deref applied.metadata.name)
  match ← call (.applyDeployment name applied v.config v.cluster.status) with
  | some err => do
    let _ ← patchStatus .applyFailed .requeueAPIErr
      (v.cluster.setStatusCondition lib (Condition.newApplyFailedCondition w.now err))
    queue (.requeueAPIErr err)
  | none => do
    if (v.cluster.findStatusCondition lib Condition.typeRolloutError).any (·.reason = Condition.reasonApplyFailed) then
      let _ ← patchStatus .applied .requeueAPIErr (v.cluster.removeStatusCondition lib Condition.typeRolloutError)
    queue (.requeueAfter 1)

/-- The first termination message, in the order the pods are listed: the source sorts one listing and ranges over
another. -/
def podError (pods : List Pod) : Option String := (pods.flatMap fun p => p.lastTerminations.filterMap id).head?

def desiredDeploymentReplicas (dep : Deployment) (configured : Int) : Int := dep.replicas.getD configured

def deploymentRolloutComplete (dep : Deployment) (desired : Int) : Bool :=
  dep.status.observedGeneration == dep.generation && dep.status.updatedReplicas == desired &&
    dep.status.replicas == dep.status.updatedReplicas && dep.status.availableReplicas == dep.status.updatedReplicas

def availabilityMessage (dep : Deployment) (desired : Int) : String :=
  "Waiting for deployment to be available: " ++
    toString dep.status.availableReplicas ++ "/" ++ toString desired ++ " available, " ++
    toString dep.status.readyReplicas ++ "/" ++ toString desired ++ " ready, " ++
    toString dep.status.updatedReplicas ++ "/" ++ toString desired ++ " updated, " ++
    toString dep.status.observedGeneration ++ "/" ++ toString dep.generation ++ " generation."

/-- The pods of a deployment that is not fully available (ensure_deployment.go:122-141). -/
def checkPods (cluster : SpiceDBCluster) (cachedDeployment : Deployment) : Handler Unit := do
  let w ← world
  if 0 < cachedDeployment.status.unavailableReplicas then
    match podError w.cache.deploymentPods with
    | none => pure ()
    | some message => do
      let _ ← patchStatus .podFailed .requeueAPIErr
        (cluster.setStatusCondition lib (Condition.newPodErrorCondition w.now message))
      queue (.requeueAfter 2)

/-- Wait for the deployment and end the rollout (ensure_deployment.go:143-174). -/
def finishRollout (v : Validated) (cachedDeployment : Deployment) : Handler Unit := do
  let w ← world
  let desired := desiredDeploymentReplicas cachedDeployment v.config.spice.replicas
  if deploymentRolloutComplete cachedDeployment desired = false then
    let _ ← patchStatus .waiting .requeueAPIErr
      (v.cluster.setStatusCondition lib
        (Condition.newRollingCondition w.now (availabilityMessage cachedDeployment desired)))
    queue (.requeueAfter 2)
  else do
    record (.rolledOut v.config v.migrationHash v.secretHash cachedDeployment)
    if v.cluster.isStatusConditionTrue lib Condition.typeRolling ∨
        v.cluster.isStatusConditionTrue lib Condition.typeRolloutError then
      let cluster := v.cluster.removeStatusCondition lib Condition.typeRolling
      let _ ← patchStatus .rolledOut .requeueAPIErr (cluster.removeStatusCondition lib Condition.typeRolloutError)

/-- The current deployment, once it is rolled out. -/
def ensureDeployment (v : Validated) (deployments : List Deployment) : Handler Deployment := do
  let cluster ← startRollout lib v.cluster
  let v := { v with cluster }
  let newDeployment ← lift (v.config.deployment lib v.migrationHash v.secretHash)
  let deploymentHash := lib.hashDeployment newDeployment
  let (matchingObjs, extraObjs) := partitionObjs Deployment.annotations configKey deploymentHash deployments
  match matchingObjs with
  | [cachedDeployment] => do
    each extraObjs fun o => callOr .requeueAPIErr (.deleteDeployment o.name)
    checkPods lib v.cluster cachedDeployment
    finishRollout lib v cachedDeployment
    pure cachedDeployment
  | [] => applyNewDeployment lib v newDeployment deploymentHash
  | _ => queue (.requeueAfter 1)

/-! ## Cleanup -/

/-- Delete the finished job of this deployment (cleanup_job.go:34-51). -/
def cleanupJobs (deployment : Deployment) (jobs : List Job) : Handler Unit :=
  each jobs fun j =>
    if j.annotations.isSome ∧
        annotationAt j.annotations migrationRequirementsKey =
          annotationAt deployment.annotations migrationRequirementsKey ∧
        jobConditionHasStatus j .complete .true then
      callOr .requeueAPIErr (.deleteJob j.name)
    else pure ()

/-- Delete the pods of jobs that are gone, up to the first pod whose job still exists (cleanup_job.go:53-75). -/
def cleanupPods (jobNames : List String) (pods : List Pod) : Handler Unit :=
  each pods fun p =>
    match p.labels.bind (·.lookup "job-name") with
    | none => pure ()
    | some jobName =>
      if jobName ∈ jobNames then queue .requeue else callOr .requeueAPIErr (.deletePod p.name)

def cleanupJob (deployment : Deployment) : Handler Unit := do
  let w ← world
  if deployment.annotations.isSome ∧ 0 < w.cache.jobs.length + w.cache.jobPods.length then
    cleanupJobs deployment w.cache.jobs
    cleanupPods (w.cache.jobs.map Job.name) w.cache.jobPods
  queue .done

/-! ## The chain -/

def deploymentChain (v : Validated) (deployments : List Deployment) : Handler Unit := do
  let deployment ← ensureDeployment lib v deployments
  ensurePDB lib idioms v.config
  cleanupJob deployment

/-- From the validated config on. -/
def migrateAndDeploy (v : Validated) : Handler Unit := do
  let w ← world
  match checkMigrations v w.cache.deployments w.cache.jobs with
  | .deploymentChain => deploymentChain lib idioms v w.cache.deployments
  | .runMigration => do
    let (v, job) ← runMigration lib v w.cache.jobs
    waitForMigrations lib idioms v job
    deploymentChain lib idioms v w.cache.deployments
  | .waitForMigrations job => do
    waitForMigrations lib idioms v job
    deploymentChain lib idioms v w.cache.deployments

def reconcile (resolver : PatchMetaResolver) : Handler Unit := do
  let w ← world
  let cluster ← idioms.pause w.cache.cluster
  validateSpec lib cluster
  adoptSecrets lib idioms cluster
  let secrets := collectSecrets w.cache.secrets cluster.spec
  let secretHash := secretHashOf lib secrets cluster.spec
  let cluster ← checkConfigChanged lib cluster secretHash
  let v ← validateConfig lib resolver cluster secrets secretHash
  ensureComponents lib idioms v.config
  migrateAndDeploy lib idioms v

end SpiceDBOperator
