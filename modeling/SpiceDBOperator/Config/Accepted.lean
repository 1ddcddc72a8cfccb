import SpiceDBOperator.Config.Reading

/-!
# What an accepted config says about its cluster

Errors only accumulate while `NewConfig` reads (`Reads.grows`), so a config is returned only if no part of the reading
failed (`newConfig_accepted`): the version and the engine of an accepted config are those of one successful call of
`ComputeTarget`, made with the version, the channel and the rollout of the cluster; its credentials are those of the
spec; and the patches applied to each object they were tried on. The deployment built from a config carries the
operator's migration annotation, whatever the user's patches do (`deployment_annotations`).
-/

namespace SpiceDBOperator

open Golang Hoare Read Metadata

/-! ## Credentials -/

/-- The ref of a required credential. -/
def CredentialRef.resolve (defaultKey : String) (ref : CredentialRef) : ResolvedCredentialRef :=
  if ref.skip then { skip := true }
  else { secretName := ref.secretName, key := if ref.key = "" then defaultKey else ref.key }

/-- The credentials of the spec, or those its `secretName` stands for. -/
def ClusterSpec.credentialsInUse (spec : ClusterSpec) : Option ClusterCredentials :=
  match spec.credentials with
  | some credentials => some credentials
  | none =>
    if spec.secretRef = "" then none
    else some
      { datastoreURI := some { secretName := spec.secretRef, key := "datastore_uri" }
        presharedKey := some { secretName := spec.secretRef, key := "preshared_key" } }

structure ResolvedFrom (credentials : ClusterCredentials)
    (datastoreURIRef presharedKeyRef migrationSecretsRef : ResolvedCredentialRef) : Prop where
  datastoreURI : ∃ ref, credentials.datastoreURI = some ref ∧ datastoreURIRef = ref.resolve "datastore_uri"
  presharedKey : ∃ ref, credentials.presharedKey = some ref ∧ presharedKeyRef = ref.resolve "preshared_key"
  migrationSecrets : migrationSecretsRef = resolveMigrationSecrets datastoreURIRef credentials.migrationSecrets

/-- A reading that has failed has nothing to say about its value. -/
theorem fail_then_spec {α : Type} (err : String) (a : α) (B : α → Prop) :
    Triple (fun _ => True) (do Read.fail err; Pure.pure a) (fun a r => r.errs = [] → B a) (fun _ _ => True) := by
  refine Triple.bind (Q := fun _ r => r.errs ≠ []) (Triple.act fun r _ => by simp) fun _ => ?_
  exact Triple.pure fun _ hne hnil => absurd hnil hne

theorem resolveCredential_spec (secrets : GoMap Secret) (field defaultKey : String) (fetch : Bool)
    (ref : Option CredentialRef) :
    Triple (fun _ => True) (resolveCredential secrets field defaultKey fetch ref)
      (fun resolved r => r.errs = [] → ∃ ref', ref = some ref' ∧ resolved.1 = ref'.resolve defaultKey)
      (fun _ _ => True) := by
  cases ref with
  | none => exact fail_then_spec _ _ _
  | some ref =>
    refine Triple.ite (fun hskip => Triple.pure fun _ _ _ => ⟨ref, rfl, ?_⟩) fun hskip => ?_
    · simp [CredentialRef.resolve, hskip]
    · have hresolve : ref.resolve defaultKey =
          { secretName := ref.secretName, key := if ref.key = "" then defaultKey else ref.key } := by
        simp [CredentialRef.resolve, hskip]
      refine Triple.ite (fun _ => ?_) fun _ => Triple.pure fun _ _ _ => ⟨ref, rfl, hresolve.symm⟩
      exact Triple.bind Triple.trivially fun _ => Triple.pure fun _ _ _ => ⟨ref, rfl, hresolve.symm⟩

theorem resolveRefs_spec (secrets : GoMap Secret) (datastoreEngine : String) (credentials : ClusterCredentials) :
    Triple (fun _ => True) (resolveRefs secrets datastoreEngine credentials)
      (fun refs r => r.errs = [] →
        ResolvedFrom credentials refs.datastoreURIRef refs.presharedKeyRef refs.migrationSecretsRef)
      (fun _ _ => True) := by
  refine Triple.bind (resolveCredential_spec _ _ _ _ _) fun ⟨datastoreURIRef, _⟩ => ?_
  refine Triple.bind ((resolveCredential_reads _ _ _ _ _).learn (resolveCredential_spec _ _ _ _ _) _)
    fun ⟨presharedKeyRef, _⟩ => ?_
  exact Triple.pure fun _ h hnil => ⟨(h hnil).1, (h hnil).2, rfl⟩

theorem resolveCredentials_spec (cluster : SpiceDBCluster) (secrets : GoMap Secret) (datastoreEngine : String) :
    Triple (fun _ => True) (resolveCredentials cluster secrets datastoreEngine)
      (fun refs r => r.errs = [] → ∃ credentials, cluster.spec.credentialsInUse = some credentials ∧
        ResolvedFrom credentials refs.datastoreURIRef refs.presharedKeyRef refs.migrationSecretsRef)
      (fun _ _ => True) := by
  unfold resolveCredentials ClusterSpec.credentialsInUse
  cases cluster.spec.credentials with
  | some credentials =>
    exact Triple.conseq (resolveRefs_spec _ _ _) (fun _ h => h) (fun _ _ h hnil => ⟨_, rfl, h hnil⟩) fun _ _ h => h
  | none =>
    refine Triple.ite (fun _ => fail_then_spec _ _ _) fun hne => ?_
    rw [if_neg hne]
    exact Triple.conseq (resolveRefs_spec _ _ _) (fun _ h => h) (fun _ _ h hnil => ⟨_, rfl, h hnil⟩) fun _ _ h => h

/-! ## Settings and patches -/

variable {lib : Libraries}

/-- The patches apply to the object without an error. -/
def Applies (lib : Libraries) {K : Type} (codec : Codec K) (typeMeta : TypeMeta) (object out : K) (patches : List Patch)
    (resolver : PatchMetaResolver) : Prop :=
  ∃ patched, applyPatches lib codec typeMeta object out patches resolver = .ok patched ∧ patched.errs = []

theorem tryPatches_spec {K : Type} (codec : Codec K) (typeMeta : TypeMeta) (obj : K) (patches : List Patch)
    (resolver : PatchMetaResolver) :
    Triple (fun _ => True) (tryPatches lib codec typeMeta obj patches resolver)
      (fun _ r => r.errs = [] → Applies lib codec typeMeta obj obj patches resolver) (fun _ _ => True) := by
  unfold tryPatches
  cases hrun : applyPatches lib codec typeMeta obj obj patches resolver with
  | error f => exact Triple.bind (Q := fun _ _ => False) (Triple.stop fun _ _ => trivial) fun _ => ⟨fun _ h => h.elim⟩
  | ok patched =>
    have hknown : Triple (fun _ => True) (Read.lift (.ok patched)) (fun p _ => p = patched) (fun _ _ => True) :=
      Triple.pure fun _ _ => rfl
    refine Triple.bind hknown fun p => ?_
    refine Triple.bind (Q := fun _ r => r.errs = [] → Applies lib codec typeMeta obj obj patches resolver)
      (Triple.act ?_) fun _ => ?_
    · rintro r rfl hnil
      exact ⟨p, hrun, (List.append_eq_nil_iff.1 hnil).2⟩
    · refine Triple.ite (fun _ => ?_) fun _ => Triple.pure fun _ h => h
      exact Triple.bind (Triple.act fun _ h => h) fun _ => Triple.pure fun _ h => h

/-- What `NewConfig` has tried: each object but the disruption budget, with the hash of the empty string. -/
structure PatchesTried (lib : Libraries) (out : Config) : Prop where
  serviceAccount : Applies lib lib.serviceAccountCodec typeServiceAccount (out.unpatchedServiceAccount lib)
    (out.unpatchedServiceAccount lib) out.patches out.patchMeta
  role : Applies lib lib.roleCodec typeRole (out.unpatchedRole lib) (out.unpatchedRole lib) out.patches out.patchMeta
  roleBinding : Applies lib lib.roleBindingCodec typeRoleBinding (out.unpatchedRoleBinding lib)
    (out.unpatchedRoleBinding lib) out.patches out.patchMeta
  service : Applies lib lib.serviceCodec typeService (out.unpatchedService lib) (out.unpatchedService lib) out.patches
    out.patchMeta
  job : Applies lib lib.jobCodec typeJob (out.unpatchedMigrationJob lib lib.hashEmpty)
    (out.unpatchedMigrationJob lib lib.hashEmpty) out.patches out.patchMeta
  deployment : Applies lib lib.deploymentCodec typeDeployment (out.unpatchedDeployment lib lib.hashEmpty lib.hashEmpty)
    (out.unpatchedDeployment lib lib.hashEmpty lib.hashEmpty) out.patches out.patchMeta

theorem validatePatches_spec (out : Config) (A : Prop) :
    Triple (fun r => r.errs = [] → A) (validatePatches lib out) (fun _ r => r.errs = [] → A ∧ PatchesTried lib out)
      (fun _ _ => True) := by
  unfold validatePatches
  iterate 6 refine Triple.bind ((tryPatches_reads _ _ _ _ _ _).learn (tryPatches_spec _ _ _ _ _) _) fun _ => ?_
  refine Triple.pre (?_ : Triple (fun r => r.errs = [] → A ∧ PatchesTried lib out) _ _ _) fun r h hnil => ?_
  · exact Triple.ite (fun _ => Triple.act fun _ h => h) fun _ => Triple.pure fun _ h => h
  · obtain ⟨⟨⟨⟨⟨⟨hA, h₁⟩, h₂⟩, h₃⟩, h₄⟩, h₅⟩, h₆⟩ := h hnil
    exact ⟨hA, h₁, h₂, h₃, h₄, h₅, h₆⟩

/-! ## The settings after the target -/

section

variable {cluster : SpiceDBCluster} {secrets : GoMap Secret} {resolver : PatchMetaResolver} {datastoreEngine : String}
  {spice : SpiceConfig} {migration : MigrationConfig} {target : Target}

/-- The credentials of the config are those of the spec. -/
def Config.CredentialsOf (out : Config) (spec : ClusterSpec) : Prop :=
  ∃ credentials, spec.credentialsInUse = some credentials ∧
    ResolvedFrom credentials out.spice.datastoreURIRef out.spice.presharedKeyRef out.spice.migrationSecretsRef

/-- The image a target stands for: its base image with the digest of its state, or else with the tag. -/
def Target.Stands (target : Target) (image : String) : Prop :=
  target.state.digest ≠ "" ∧ image = target.baseImage ++ "@" ++ target.state.digest ∨
    target.state.digest = "" ∧ target.state.tag ≠ "" ∧ image = target.baseImage ++ ":" ++ target.state.tag

theorem readImage_spec (target : Target) :
    Triple (fun _ => True) (readImage target) (fun image r => r.errs = [] → target.Stands image) (fun _ _ => True) := by
  refine Triple.ite (fun hdigest => Triple.pure fun _ _ _ => Or.inl ⟨hdigest, rfl⟩) fun hdigest => ?_
  refine Triple.ite (fun htag => Triple.pure fun _ _ _ => Or.inr ⟨not_not.1 hdigest, htag, rfl⟩) fun _ => ?_
  exact fail_then_spec _ _ _

/-- The rest of the reading keeps the version, settles the image and the engine, resolves the credentials and tries
the patches. -/
theorem readRest_spec (A : Prop) :
    Triple (fun r => r.errs = [] → A)
      (readRest lib cluster secrets resolver datastoreEngine spice migration target)
      (fun out r =>
        (r.errs = [] → ((A ∧ target.Stands out.migration.targetSpiceDBImage) ∧ out.CredentialsOf cluster.spec) ∧
          PatchesTried lib out) ∧
        out.migration.spiceDBVersion = migration.spiceDBVersion ∧ out.migration.datastoreEngine = datastoreEngine)
      (fun _ _ => True) := by
  unfold readRest
  refine Triple.bind ((readImage_reads target).learn (readImage_spec target) A) fun _ => ?_
  refine Triple.bind ((readFlag_reads _).grows _) fun _ => ?_
  refine Triple.bind ((readFlag_reads _).grows _) fun _ => ?_
  refine Triple.bind ((resolveCredentials_reads _ _ _).learn (resolveCredentials_spec _ _ _) _) fun _ => ?_
  refine Triple.bind ((readReplicas_reads _).grows _) fun _ => ?_
  refine Triple.bind ((readFlag_reads _).grows _) fun _ => ?_
  iterate 3 refine Triple.bind ((readMetadata_reads _ _ _).grows _) fun _ => ?_
  refine Triple.bind (readPDB_reads.grows _) fun _ => ?_
  refine Triple.bind ((readTLSPaths_reads _ _ _).grows _) fun _ => ?_
  refine Triple.bind ((readPassthrough_reads _ _ _).grows _) fun _ => ?_
  refine Triple.bind (validatePatches_spec _ _) fun _ => ?_
  exact Triple.pure fun _ h => ⟨h, rfl, rfl⟩

end

/-! ## The target of an accepted config -/

/-- `spec.config.image`, where it is a string. -/
def ClusterSpec.imageSetting (spec : ClusterSpec) : String :=
  match spec.config with
  | some (.ok config) => (Key.image.pop config).1
  | _ => ""

/-- The call of `ComputeTarget` made for a cluster and an engine. -/
def OperatorConfig.targetOf (helpers : ConditionHelpers) (globalConfig : OperatorConfig) (cluster : SpiceDBCluster)
    (datastoreEngine : String) : Go Target :=
  globalConfig.updateGraph.computeTarget globalConfig.imageName cluster.spec.baseImage cluster.spec.imageSetting
    cluster.spec.version cluster.spec.channel datastoreEngine cluster.status.currentVersion
    (cluster.rolloutInProgress helpers)

section

variable {cluster : SpiceDBCluster} {globalConfig : OperatorConfig} {secrets : GoMap Secret}
  {resolver : PatchMetaResolver}

theorem readTarget_spec {config : RawConfig} (hconfig : cluster.spec.config = some (.ok config))
    (datastoreEngine : String) :
    Triple (fun r => r.config.lookup Key.image.key = config.lookup Key.image.key)
      (readTarget lib globalConfig cluster datastoreEngine)
      (fun target r => r.errs = [] → globalConfig.targetOf lib cluster datastoreEngine = .ok target ∧ target.err = none)
      (fun _ _ => True) := by
  have himage : cluster.spec.imageSetting = (Key.image.pop config).1 := by simp only [ClusterSpec.imageSetting, hconfig]
  refine Triple.bind (Q := fun image _ => image = cluster.spec.imageSetting) (Triple.act fun r hr => ?_) fun image => ?_
  · exact (Key.pop_value Key.image hr).trans himage.symm
  refine Triple.known ?_
  rintro rfl
  rcases hcall : globalConfig.targetOf lib cluster datastoreEngine with fault | target
  · simp only [OperatorConfig.targetOf] at hcall
    rw [hcall]
    exact Triple.bind (Q := fun _ _ => False) (Triple.stop fun _ _ => trivial) fun _ => ⟨fun _ h => h.elim⟩
  · have hrun := hcall
    simp only [OperatorConfig.targetOf] at hrun
    rw [hrun]
    refine Triple.bind (Q := fun a _ => a = target) (Triple.pure fun _ _ => rfl) fun _ => ?_
    refine Triple.known ?_
    rintro rfl
    cases herr : Target.err _ with
    | none => exact Triple.pure fun _ _ _ => ⟨rfl, herr⟩
    | some err =>
      refine Triple.bind (Q := fun _ r => r.errs ≠ []) (Triple.act fun r _ => ?_) fun _ => ?_
      · simp
      · exact Triple.pure fun _ hne hnil => absurd hnil hne

variable (lib cluster globalConfig) in
/-- What `NewConfig` has established for the config it returns. -/
structure Accepted (out : Config) : Prop where
  target : ∃ target, globalConfig.targetOf lib cluster out.migration.datastoreEngine = .ok target ∧ target.err = none ∧
    out.migration.spiceDBVersion = target.target
  image : ∃ target, globalConfig.targetOf lib cluster out.migration.datastoreEngine = .ok target ∧
    target.Stands out.migration.targetSpiceDBImage
  credentials : out.CredentialsOf cluster.spec
  patches : PatchesTried lib out

theorem readConfig_spec {config : RawConfig} (hconfig : cluster.spec.config = some (.ok config)) :
    Triple (Knows config ∅) (readConfig lib cluster globalConfig secrets resolver)
      (fun out r => r.errs = [] → Accepted lib cluster globalConfig out)
      (fun _ _ => True) := by
  have hI := tolerant_knows config
  unfold readConfig
  refine Triple.bind (dropIgnored_reads _ hI _) fun _ => ?_
  refine Triple.bind (readNames_reads cluster _ hI _) fun _ => ?_
  refine Triple.bind (readEngine_reads _ hI _) fun engine => ?_
  refine Triple.bind (readProjection_reads _ _ hI _) fun _ => ?_
  refine Triple.bind (readProjection_reads _ _ hI _) fun _ => ?_
  refine Triple.bind ((readTarget_spec hconfig engine).pre fun r h => (h _).2 ?_) fun target => ?_
  · simp [nameKeys, Key.image, Key.datastoreEngine, BoolOrStringKey.projectLabels, BoolOrStringKey.projectAnnotations]
  refine Triple.conseq (readRest_spec _) (fun _ h => h) (fun out r h hnil => ?_) fun _ _ h => h
  obtain ⟨hfacts, hversion, hengine⟩ := h
  obtain ⟨⟨⟨⟨hcall, herr⟩, himage⟩, hcredentials⟩, hpatches⟩ := hfacts hnil
  rw [← hengine] at hcall
  exact ⟨⟨target, hcall, herr, hversion⟩, ⟨target, hcall, himage⟩, hcredentials, hpatches⟩

variable (lib cluster globalConfig secrets resolver) in
/-- `NewConfig` puts the config `out` together and ends with the reading `r`, whether it returns the config or not. -/
def Assembles (out : Config) (r : Reading) : Prop :=
  ∃ raw, cluster.spec.config = some (.ok raw) ∧
    exec (readConfig lib cluster globalConfig secrets resolver) { config := raw } = (.ok out, r)

theorem newConfig_assembles {cfg : Config} {warning : Option String}
    (h : newConfig lib cluster globalConfig secrets resolver = .ok (.ok cfg, warning)) :
    ∃ r, Assembles lib cluster globalConfig secrets resolver cfg r ∧ r.errs = [] := by
  unfold newConfig at h
  split at h
  · simp at h
  · simp at h
  · rename_i raw hconfig
    split at h
    · cases h
    · rename_i out r hrun
      split at h
      · rename_i hnone
        cases h
        exact ⟨r, ⟨raw, hconfig, hrun⟩, lib.eq_nil_of_aggregate hnone⟩
      · simp at h

theorem knows_nothing_gone (raw : RawConfig) : Knows raw ∅ { config := raw } :=
  fun _ => ⟨fun hk => absurd hk (Set.notMem_empty _), fun _ => rfl⟩

theorem newConfig_accepted {cfg : Config} {warning : Option String}
    (h : newConfig lib cluster globalConfig secrets resolver = .ok (.ok cfg, warning)) :
    Accepted lib cluster globalConfig cfg := by
  obtain ⟨r, ⟨raw, hconfig, hrun⟩, hnil⟩ := newConfig_assembles h
  exact (readConfig_spec hconfig).of_run (knows_nothing_gone raw) hrun hnil

end

/-! ## The stamp on a deployment -/

theorem deployment_annotations {c : Config} {migrationHash secretHash : String} {d : DeploymentApply}
    (h : c.deployment lib migrationHash secretHash = .ok d) :
    d.metadata.annotations.lookup migrationRequirementsKey = some (c.migrationAnnotationOf migrationHash) := by
  simp only [Config.deployment, go_bind_ok, Except.ok.injEq] at h
  obtain ⟨patched, -, unpatchedSpec, -, spec, -, selector, -, template, -, rfl⟩ := h
  simp only [lib.withAnnotations_eq, mergeInto_lookup]
  rfl

end SpiceDBOperator
