import SpiceDBOperator.Config.Builders
import SpiceDBOperator.Config.Keys
import SpiceDBOperator.Hoare

/-!
# `NewConfig` (`pkg/config/config.go:204-582`)

`NewConfig` pops its settings from the raw config one by one, collects errors and warnings on the way, and
returns a config only when there was no error. It runs here as a program on a `Reading`: what is left of the raw
config, and the errors and warnings so far. Each part of the source is one definition, in the order of the source.

| here | there |
| --- | --- |
| `dropIgnored`         | config.go:218-223 |
| `readNames`           | config.go:225-246 |
| `readEngine`          | config.go:248-251 |
| `readProjection`      | config.go:254-261 |
| `readTarget`          | config.go:265-270 |
| `readImage`           | config.go:283-290 |
| `readFlag`            | config.go:292-300, :416-419 |
| `resolveCredentials`  | config.go:312-396 |
| `readReplicas`        | config.go:402-415 |
| `readMetadata`        | config.go:421-447 |
| `readPDB`             | config.go:449-480 |
| `readTLSPaths`        | config.go:483-499 |
| `readPassthrough`     | config.go:501-539 |
| `validatePatches`     | config.go:551-574 |
| `newConfig`           | `NewConfig`: the config or the error, and the warning |
-/

namespace SpiceDBOperator

open Golang Hoare

structure Reading where
  config : RawConfig
  errs : List String := []
  warnings : List String := []

abbrev Read := Prog Fault Reading

namespace Read

def fail (err : String) : Read Unit := act fun r => ((), { r with errs := r.errs ++ [err] })

def failAll (errs : List String) : Read Unit := act fun r => ((), { r with errs := r.errs ++ errs })

def warn (warning : String) : Read Unit := act fun r => ((), { r with warnings := r.warnings ++ [warning] })

def warnAll (warnings : List String) : Read Unit := act fun r => ((), { r with warnings := r.warnings ++ warnings })

def pop {α : Type} (f : RawConfig → α × RawConfig) : Read α :=
  act fun r => ((f r.config).1, { r with config := (f r.config).2 })

def remaining : Read RawConfig := act fun r => (r.config, r)

/-- A call that may fault. -/
def lift {α : Type} : Go α → Read α
  | .ok a => pure a
  | .error f => stop f

end Read

open Read

/-! ## Names, engine, target -/

def dropIgnored : Read Unit :=
  each ["version", "channel"] fun k => do
    let config ← remaining
    if k ∈ config then
      warn (".spec.config." ++ k ++ " is ignored; use .spec." ++ k ++ " instead")
      pop fun config => ((), config.erase k)

def readNames (cluster : SpiceDBCluster) : Read (SpiceConfig × MigrationConfig) := do
  let tlsSecretName ← pop Key.tlsSecretName.pop
  let serviceAccountName ← pop Key.serviceAccountName.pop
  let dispatchUpstreamCASecretName ← pop Key.dispatchCA.pop
  let dispatchUpstreamCASecretPath ← pop Key.dispatchCAFilePath.pop
  let telemetryTLSCASecretName ← pop Key.telemetryCA.pop
  let envPrefix ← pop Key.envPrefix.pop
  let spiceDBCmd ← pop Key.spiceDBCmd.pop
  let logLevel ← pop Key.logLevel.pop
  let migrationLogLevel ← pop Key.migrationLogLevel.pop
  let spannerCredsSecretRef ← pop Key.spannerCredentials.pop
  let datastoreTLSSecretName ← pop Key.datastoreTLSSecret.pop
  let targetMigration ← pop Key.targetMigration.pop
  let targetPhase ← pop Key.targetPhase.pop
  pure
    ({ name := cluster.name, nameSpace := cluster.nameSpace, uid := cluster.uid, tlsSecretName
       serviceAccountName := if serviceAccountName = "" then cluster.name else serviceAccountName
       dispatchUpstreamCASecretName, dispatchUpstreamCASecretPath, telemetryTLSCASecretName, envPrefix, spiceDBCmd
       logLevel },
     { migrationLogLevel, spannerCredsSecretRef, envPrefix, spiceDBCmd, datastoreTLSSecretName, targetMigration
       targetPhase })

def readEngine : Read String := do
  let datastoreEngine ← pop Key.datastoreEngine.pop
  if datastoreEngine = "" then fail "datastoreEngine is a required field"
  pure datastoreEngine

/-- A flag whose parse error is only a warning. -/
def readProjection (k : BoolOrStringKey) : Read Bool := do
  let (b, err) ← pop k.pop
  match err with
  | none => pure b
  | some err => do
    warn ("defaulting to false: " ++ err)
    pure b

def readTarget (lib : Libraries) (globalConfig : OperatorConfig) (cluster : SpiceDBCluster) (datastoreEngine : String) :
    Read Target := do
  let image ← pop Key.image.pop
  let target ← lift (globalConfig.updateGraph.computeTarget globalConfig.imageName cluster.spec.baseImage image
    cluster.spec.version cluster.spec.channel datastoreEngine cluster.status.currentVersion
      (cluster.rolloutInProgress lib))
  match target.err with
  | none => pure target
  | some err => do
    fail (err.textIn lib.mapsKeys)
    pure target

def readImage (target : Target) : Read String :=
  if target.state.digest ≠ "" then pure (target.baseImage ++ "@" ++ target.state.digest)
  else if target.state.tag ≠ "" then pure (target.baseImage ++ ":" ++ target.state.tag)
  else do
    fail "no update found in channel"
    pure ""

/-- A flag whose parse error is an error. -/
def readFlag (k : BoolOrStringKey) : Read Bool := do
  let (b, err) ← pop k.pop
  match err with
  | none => pure b
  | some err => do
    fail err
    pure b

/-! ## Credentials -/

structure ResolvedCredentials where
  datastoreURIRef : ResolvedCredentialRef := {}
  presharedKeyRef : ResolvedCredentialRef := {}
  migrationSecretsRef : ResolvedCredentialRef := {}
  datastoreURI : String := ""
  presharedKey : String := ""

/-- The value of a credential, from the secrets. -/
def readSecret (secrets : GoMap Secret) (field secretName key : String) : Read String :=
  match secrets.lookup secretName with
  | none => do
    fail ("secret must be provided for " ++ field)
    pure ""
  | some sec =>
    match sec.data.lookup key with
    | none => do
      fail ("secret must contain a " ++ key ++ " field")
      pure ""
    | some val => pure val

/-- One required credential; its value is read when `fetch` holds. -/
def resolveCredential (secrets : GoMap Secret) (field defaultKey : String) (fetch : Bool) :
    Option CredentialRef → Read (ResolvedCredentialRef × String)
  | none => do
    fail ("credentials." ++ field ++ " must be set (use skip: true to opt out)")
    pure ({}, "")
  | some ref =>
    if ref.skip then pure ({ skip := true }, "")
    else do
      let key := if ref.key = "" then defaultKey else ref.key
      if fetch then
        let val ← readSecret secrets field ref.secretName key
        pure ({ secretName := ref.secretName, key }, val)
      else pure ({ secretName := ref.secretName, key }, "")

/-- The migration secrets come from the secret of the datastore URI unless they are set. -/
def resolveMigrationSecrets (datastoreURIRef : ResolvedCredentialRef) : Option CredentialRef → ResolvedCredentialRef
  | none =>
    if datastoreURIRef.skip then { skip := true }
    else { secretName := datastoreURIRef.secretName, key := "migration_secrets" }
  | some ref =>
    if ref.skip then { skip := true }
    else { secretName := ref.secretName, key := if ref.key = "" then "migration_secrets" else ref.key }

def resolveRefs (secrets : GoMap Secret) (datastoreEngine : String) (credentials : ClusterCredentials) :
    Read ResolvedCredentials := do
  let (datastoreURIRef, datastoreURI) ←
    resolveCredential secrets "datastoreURI" "datastore_uri" (datastoreEngine ≠ "memory") credentials.datastoreURI
  let (presharedKeyRef, presharedKey) ←
    resolveCredential secrets "presharedKey" "preshared_key" true credentials.presharedKey
  pure
    { datastoreURIRef, presharedKeyRef, datastoreURI, presharedKey
      migrationSecretsRef := resolveMigrationSecrets datastoreURIRef credentials.migrationSecrets }

def resolveCredentials (cluster : SpiceDBCluster) (secrets : GoMap Secret) (datastoreEngine : String) :
    Read ResolvedCredentials :=
  match cluster.spec.credentials with
  | some credentials => resolveRefs secrets datastoreEngine credentials
  | none =>
    if cluster.spec.secretRef = "" then do
      fail "credentials or secretName must be provided"
      pure {}
    else
      resolveRefs secrets datastoreEngine
        { datastoreURI := some { secretName := cluster.spec.secretRef, key := "datastore_uri" }
          presharedKey := some { secretName := cluster.spec.secretRef, key := "preshared_key" } }

/-! ## Replicas, labels, disruption budget -/

/-- The error formats the number, not the setting: `%q` of the zero the pop returns. -/
def readReplicas (datastoreEngine : String) : Read Int := do
  let key := if datastoreEngine = "memory" then IntOrStringKey.replicasForMemory else IntOrStringKey.replicas
  let (replicas, err) ← pop key.pop
  failAll (err.map fun err => "invalid value for replicas '\\x00': " ++ err).toList
  if 1 < replicas ∧ datastoreEngine = "memory" then fail "cannot set replicas > 1 for memory engine"
  pure replicas

def readMetadata (k : MetadataSetKey) (objectType metadataType : String) : Read (GoMap String) := do
  let set ← pop (k.pop objectType metadataType)
  failAll set.err.toList
  warnAll set.warnings
  pure set.metadata

def parseIntOrStringValue (s : String) : IntOrString :=
  match parseInt32 s with
  | .ok n => .int n
  | .error _ => .string s

/-- A string setting as a count or a percentage; the empty string is no setting. -/
def pdbValue (s : String) : Option IntOrString := if s = "" then none else some (parseIntOrStringValue s)

def readPDB : Read PDBConfig := do
  let config ← remaining
  match config.lookup Key.pdb with
  | none => pure {}
  | some pdbRaw => do
    pop fun config => ((), config.erase Key.pdb)
    match pdbRaw with
    | .object fields => do
      let pdbConfig : RawConfig := mapOf fields
      let ((disabled, err), pdbConfig) := BoolOrStringKey.pdbDisabled.pop pdbConfig
      failAll err.toList
      let (maxUnavailable, pdbConfig) := Key.pdbMaxUnavailable.pop pdbConfig
      let (minAvailable, pdbConfig) := Key.pdbMinAvailable.pop pdbConfig
      if maxUnavailable ≠ "" ∧ minAvailable ≠ "" then
        fail "only one of pdb.maxUnavailable or pdb.minAvailable can be set"
      warnAll (pdbConfig.keys.map fun k => "unknown key " ++ quote k ++ " in pdb config")
      pure { disabled, maxUnavailable := pdbValue maxUnavailable, minAvailable := pdbValue minAvailable }
    | _ => do
      fail ("expected object for key " ++ quote Key.pdb)
      pure {}

/-! ## Passthrough -/

/-- Pop each key into a map. -/
def popInto : List Key → GoMap String → Read (GoMap String)
  | [], m => pure m
  | k :: rest, m => do
    let v ← pop k.pop
    popInto rest (m.insert k.key v)

def readTLSPaths (tlsSecretName : String) (skipTLSWarning : Bool) (passthrough : GoMap String) : Read (GoMap String) :=
  if tlsSecretName ≠ "" then popInto Key.tlsPaths passthrough
  else do
    if skipTLSWarning = false then warn ("no TLS configured, consider setting " ++ quote "tlsSecretName")
    pure passthrough

/-- Everything that is left goes to SpiceDB as text. -/
def popRest (config : RawConfig) (passthrough : GoMap String) : GoMap String :=
  config.keys.foldl (fun m k => m.insert k (config.popText k).1) passthrough

def stripValues : List String :=
  ["datastoreConnUri", "grpcPresharedKey", "presharedKey", "preshared_key", "datastore_uri"]

def strip (passthrough : GoMap String) : GoMap String :=
  mapRestrict (fun k => !(stripValues.any fun s => equalFold k s)) id passthrough

def readPassthrough (spice : SpiceConfig) (migration : MigrationConfig) (passthrough : GoMap String) :
    Read (GoMap String) := do
  let passthrough :=
    if spice.dispatchUpstreamCASecretName ≠ "" ∧ spice.dispatchEnabled then
      passthrough.insert "dispatchUpstreamCAPath" ("/dispatch-tls/" ++ spice.dispatchUpstreamCASecretPath)
    else passthrough
  let passthrough :=
    if spice.telemetryTLSCASecretName ≠ "" then passthrough.insert "telemetryCAOverridePath" "/telemetry-tls/tls.crt"
    else passthrough
  let passthrough :=
    if migration.targetPhase ≠ "" then passthrough.insert "datastoreMigrationPhase" migration.targetPhase
    else passthrough
  let passthrough ← pop fun config => (popRest config passthrough, ∅)
  let passthrough := strip passthrough
  pure
    (if (passthrough.lookup "terminationLogPath").getD "" = "" then
      passthrough.insert "terminationLogPath" "/dev/termination-log"
    else passthrough)

/-! ## Patches -/

variable (lib : Libraries)

/-- Try the patches on one object: how many applied. -/
def tryPatches {K : Type} (codec : Codec K) (typeMeta : TypeMeta) (obj : K) (patches : List Patch)
    (resolver : PatchMetaResolver) : Read Nat := do
  let patched ← lift (applyPatches lib codec typeMeta obj obj patches resolver)
  failAll patched.errs
  if 0 < patched.count ∧ patched.diff = false then
    warn "patches applied to object, but there were no changes to the object"
  pure patched.count

/-- The objects tried are those the source lists; the disruption budget is not among them. -/
def validatePatches (out : Config) : Read Unit := do
  let n₁ ← tryPatches lib lib.serviceAccountCodec typeServiceAccount (out.unpatchedServiceAccount lib) out.patches
    out.patchMeta
  let n₂ ← tryPatches lib lib.roleCodec typeRole (out.unpatchedRole lib) out.patches out.patchMeta
  let n₃ ← tryPatches lib lib.roleBindingCodec typeRoleBinding (out.unpatchedRoleBinding lib) out.patches out.patchMeta
  let n₄ ← tryPatches lib lib.serviceCodec typeService (out.unpatchedService lib) out.patches out.patchMeta
  let n₅ ← tryPatches lib lib.jobCodec typeJob (out.unpatchedMigrationJob lib lib.hashEmpty) out.patches out.patchMeta
  let n₆ ← tryPatches lib lib.deploymentCodec typeDeployment (out.unpatchedDeployment lib lib.hashEmpty lib.hashEmpty)
    out.patches out.patchMeta
  let total := n₁ + n₂ + n₃ + n₄ + n₅ + n₆
  if total < out.patches.length then
    warn ("only " ++ toString total ++ "/" ++ toString out.patches.length ++ " patches applied successfully")

/-! ## `NewConfig` -/

/-- The settings that follow the target (config.go:272-574). -/
def readRest (cluster : SpiceDBCluster) (secrets : GoMap Secret) (resolver : PatchMetaResolver)
    (datastoreEngine : String) (spice : SpiceConfig) (migration : MigrationConfig) (target : Target) : Read Config := do
  let targetSpiceDBImage ← readImage target
  let dispatchEnabled ← readFlag BoolOrStringKey.dispatchEnabled
  let skipTLSWarning ← readFlag BoolOrStringKey.skipTLSWarning
  -- can't run dispatch with memory datastore
  let dispatchEnabled := dispatchEnabled && decide (datastoreEngine ≠ "memory")
  let passthrough : GoMap String :=
    mapOf [("datastoreEngine", datastoreEngine), ("dispatchClusterEnabled", formatBool dispatchEnabled)]
  let creds ← resolveCredentials cluster secrets datastoreEngine
  let passthrough :=
    if migration.spannerCredsSecretRef ≠ "" then
      passthrough.insert "datastoreSpannerCredentials" "/spanner-credentials/credentials.json"
    else passthrough
  let replicas ← readReplicas datastoreEngine
  let skipMigrations ← readFlag BoolOrStringKey.skipMigrations
  let extraPodLabels ← readMetadata MetadataSetKey.extraPodLabels "pod" "label"
  let extraPodAnnotations ← readMetadata MetadataSetKey.extraPodAnnotations "pod" "annotation"
  let extraServiceAccountAnnotations ←
    readMetadata MetadataSetKey.extraServiceAccountAnnotations "service account" "annotation"
  let pdb ← readPDB
  let passthrough ← readTLSPaths spice.tlsSecretName skipTLSWarning passthrough
  let spice : SpiceConfig :=
    { spice with
      dispatchEnabled, skipTLSWarning, replicas, skipMigrations, extraPodLabels, extraPodAnnotations
      extraServiceAccountAnnotations, pdb
      datastoreURIRef := creds.datastoreURIRef
      presharedKeyRef := creds.presharedKeyRef
      migrationSecretsRef := creds.migrationSecretsRef
      presharedKey := creds.presharedKey }
  let migration : MigrationConfig :=
    { migration with targetSpiceDBImage, datastoreEngine, datastoreURI := creds.datastoreURI }
  let passthrough ← readPassthrough spice migration passthrough
  let out : Config :=
    { migration
      spice := { spice with passthrough }
      patches := fixDeploymentPatches lib cluster.name cluster.spec.patches
      patchMeta := resolver }
  validatePatches lib out
  pure out

def readConfig (cluster : SpiceDBCluster) (globalConfig : OperatorConfig) (secrets : GoMap Secret)
    (resolver : PatchMetaResolver) : Read Config := do
  dropIgnored
  let names ← readNames cluster
  let datastoreEngine ← readEngine
  let projectLabels ← readProjection BoolOrStringKey.projectLabels
  let projectAnnotations ← readProjection BoolOrStringKey.projectAnnotations
  let target ← readTarget lib globalConfig cluster datastoreEngine
  -- the popped migration and phase are overwritten by those of the target
  let migration : MigrationConfig :=
    { names.2 with
      spiceDBVersion := target.target
      targetPhase := target.state.phase
      targetMigration := if target.state.migration = "" then "head" else target.state.migration }
  readRest lib cluster secrets resolver datastoreEngine
    { names.1 with projectLabels, projectAnnotations } migration target

def newConfig (cluster : SpiceDBCluster) (globalConfig : OperatorConfig) (secrets : GoMap Secret)
    (resolver : PatchMetaResolver) : Go (Except String Config × Option String) :=
  match cluster.spec.config with
  | none => .ok (.error "couldn't parse empty config", none)
  | some (.error err) => .ok (.error ("couldn't parse config: " ++ err), none)
  | some (.ok config) =>
    match exec (readConfig lib cluster globalConfig secrets resolver) { config } with
    | (.error fault, _) => .error fault
    | (.ok out, r) =>
      match lib.aggregate r.errs with
      | none => .ok (.ok out, lib.aggregate r.warnings)
      | some err => .ok (.error err, lib.aggregate r.warnings)

end SpiceDBOperator
