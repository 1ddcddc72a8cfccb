import SpiceDBOperator.Config.Settings

/-!
# Configs that are the same but for the order of their maps

A `Config` carries four maps. Here two configs are compared without the order of these maps, and what `NewConfig` does
with a config at its end, trying the patches on the objects, is shown not to depend on it: the environment variables are
sorted, labels and annotations stay maps, and `encoding/json` writes a map in the order of its keys.
-/

namespace SpiceDBOperator

open Golang Hoare Read

/-! ## Objects -/

structure ObjectMeta.Same (m m' : ObjectMeta) : Prop where
  name : m'.name = m.name
  nameSpace : m'.nameSpace = m.nameSpace
  labels : Reordered m.labels m'.labels
  annotations : Reordered m.annotations m'.annotations
  ownerReferences : m'.ownerReferences = m.ownerReferences

structure PodTemplateSpec.Same (t t' : PodTemplateSpec) : Prop where
  metadata : t.metadata.Same t'.metadata
  spec : t'.spec = t.spec

structure ServiceAccountApply.Same (o o' : ServiceAccountApply) : Prop where
  typeMeta : o'.typeMeta = o.typeMeta
  metadata : o.metadata.Same o'.metadata

structure JobSpec.Same (s s' : JobSpec) : Prop where
  template : Option.Rel PodTemplateSpec.Same s.template s'.template

structure JobApply.Same (o o' : JobApply) : Prop where
  typeMeta : o'.typeMeta = o.typeMeta
  metadata : o.metadata.Same o'.metadata
  spec : Option.Rel JobSpec.Same o.spec o'.spec

structure DeploymentSpec.Same (s s' : DeploymentSpec) : Prop where
  replicas : s'.replicas = s.replicas
  strategy : s'.strategy = s.strategy
  selector : Option.Rel (fun l l' => Reordered l.matchLabels l'.matchLabels) s.selector s'.selector
  template : Option.Rel PodTemplateSpec.Same s.template s'.template

structure DeploymentApply.Same (o o' : DeploymentApply) : Prop where
  typeMeta : o'.typeMeta = o.typeMeta
  metadata : o.metadata.Same o'.metadata
  spec : Option.Rel DeploymentSpec.Same o.spec o'.spec

/-- The order of its maps makes no difference to the document of an object, nor to how a document is decoded into it. -/
structure Codec.Sorts {K : Type} (codec : Codec K) (same : K → K → Prop) : Prop where
  marshal : ∀ {o o'}, same o o' → codec.marshal o = codec.marshal o'
  unmarshal : ∀ {o o'} text, same o o' → (codec.unmarshal text o).2 = (codec.unmarshal text o').2

/-- `encoding/json` sorts the keys of a map. -/
structure Libraries.SortsMaps (lib : Libraries) : Prop where
  serviceAccount : lib.serviceAccountCodec.Sorts ServiceAccountApply.Same
  job : lib.jobCodec.Sorts JobApply.Same
  deployment : lib.deploymentCodec.Sorts DeploymentApply.Same

namespace ObjectMeta

theorem Same.refl (m : ObjectMeta) : m.Same m := ⟨rfl, rfl, .refl _, .refl _, rfl⟩

variable {m m' : ObjectMeta} {entries entries' : GoMap String}

theorem Same.withLabels (h : m.Same m') (hentries : Reordered entries entries') (lib : Libraries) :
    (lib.withLabels entries m).Same (lib.withLabels entries' m') := by
  rw [lib.withLabels_eq, lib.withLabels_eq]
  exact ⟨h.name, h.nameSpace, h.labels.mergeInto hentries, h.annotations, h.ownerReferences⟩

theorem Same.withAnnotations (h : m.Same m') (hentries : Reordered entries entries') (lib : Libraries) :
    (lib.withAnnotations entries m).Same (lib.withAnnotations entries' m') := by
  rw [lib.withAnnotations_eq, lib.withAnnotations_eq]
  exact ⟨h.name, h.nameSpace, h.labels, h.annotations.mergeInto hentries, h.ownerReferences⟩

end ObjectMeta

/-! ## Configs -/

/-- The same config, with its maps in another order. -/
structure Config.Same (c c' : Config) : Prop where
  fields : c' =
    { c with
      spice :=
        { c.spice with
          passthrough := c'.spice.passthrough
          extraPodLabels := c'.spice.extraPodLabels
          extraPodAnnotations := c'.spice.extraPodAnnotations
          extraServiceAccountAnnotations := c'.spice.extraServiceAccountAnnotations } }
  passthrough : Reordered c.spice.passthrough c'.spice.passthrough
  extraPodLabels : Reordered c.spice.extraPodLabels c'.spice.extraPodLabels
  extraPodAnnotations : Reordered c.spice.extraPodAnnotations c'.spice.extraPodAnnotations
  extraServiceAccountAnnotations :
    Reordered c.spice.extraServiceAccountAnnotations c'.spice.extraServiceAccountAnnotations

namespace Config.Same

variable {c c' : Config}

/-- The names are sorted. -/
theorem passthroughEnv (h : c.Same c') (lib : Libraries) : c'.passthroughEnv lib = c.passthroughEnv lib := by
  have hsorted : c'.spice.passthrough.keys.insertionSort (· ≤ ·) = c.spice.passthrough.keys.insertionSort (· ≤ ·) := by
    refine List.Perm.eq_of_pairwise (fun a b _ _ => String.le_antisymm) (List.pairwise_insertionSort _ _)
      (List.pairwise_insertionSort _ _) ?_
    exact ((List.perm_insertionSort _ _).trans h.passthrough.keys.symm).trans (List.perm_insertionSort _ _).symm
  have henv : c'.spice.envPrefix = c.spice.envPrefix := by rw [h.fields]
  simp only [Config.passthroughEnv, hsorted, henv, ← h.passthrough _]

theorem jobEnvVars (h : c.Same c') (lib : Libraries) : c'.jobEnvVars lib = c.jobEnvVars lib := by
  rw [Config.jobEnvVars, Config.jobEnvVars, h.passthroughEnv, h.fields]

theorem envVars (h : c.Same c') (lib : Libraries) : c'.envVars lib = c.envVars lib := by
  rw [Config.envVars, Config.envVars, h.passthroughEnv, h.fields]

theorem unpatchedServiceAccount (h : c.Same c') (lib : Libraries) :
    (c.unpatchedServiceAccount lib).Same (c'.unpatchedServiceAccount lib) := by
  have hannotations := h.extraServiceAccountAnnotations
  rw [h.fields]
  exact ⟨rfl, (ObjectMeta.Same.refl _).withAnnotations hannotations _⟩

theorem unpatchedMigrationJob (h : c.Same c') (lib : Libraries) (migrationHash : String) :
    (c.unpatchedMigrationJob lib migrationHash).Same (c'.unpatchedMigrationJob lib migrationHash) := by
  have hlabels := h.extraPodLabels
  have hannotations := h.extraPodAnnotations
  have henv := h.jobEnvVars lib
  unfold Config.unpatchedMigrationJob
  rw [henv, h.fields]
  refine ⟨rfl, ObjectMeta.Same.refl _, .some ⟨.some ⟨?_, rfl⟩⟩⟩
  exact ((ObjectMeta.Same.refl _).withLabels hlabels _).withAnnotations hannotations _

theorem unpatchedDeployment (h : c.Same c') (lib : Libraries) (migrationHash secretHash : String) :
    (c.unpatchedDeployment lib migrationHash secretHash).Same
      (c'.unpatchedDeployment lib migrationHash secretHash) := by
  have hlabels := h.extraPodLabels
  have hannotations := h.extraPodAnnotations
  have henv := h.envVars lib
  unfold Config.unpatchedDeployment
  rw [henv, h.fields]
  refine ⟨rfl, ObjectMeta.Same.refl _, .some ⟨rfl, rfl, .some (.refl _), .some ⟨?_, rfl⟩⟩⟩
  exact ((ObjectMeta.Same.refl _).withLabels hlabels _).withAnnotations hannotations _

end Config.Same

/-! ## Patches -/

/-- What is tried on an object and reported depends on its document. -/
theorem tryPatches_congr {lib : Libraries} {K : Type} {codec : Codec K} {typeMeta : TypeMeta} {obj obj' : K}
    {patches : List Patch} {resolver : PatchMetaResolver} (hmarshal : codec.marshal obj = codec.marshal obj')
    (hunmarshal : ∀ text, (codec.unmarshal text obj).2 = (codec.unmarshal text obj').2) :
    tryPatches lib codec typeMeta obj' patches resolver = tryPatches lib codec typeMeta obj patches resolver := by
  unfold tryPatches applyPatches
  rw [hmarshal]
  cases codec.marshal obj' with
  | error err => rfl
  | ok initial =>
    cases typeMeta.kind with
    | none => rfl
    | some kind =>
      simp only
      cases applyPatchLoop lib typeMeta kind resolver 0 patches { encoded := initial } with
      | error fault => rfl
      | ok st =>
        -- only the error of the decoding is read
        simp only [bind, Except.bind, hunmarshal st.encoded]
        rfl

/-- The order of a set matters to none of them. -/
theorem applyPatchLoop_mapsKeys (lib : Libraries) (mapsKeys : List String → List String) (typeMeta : TypeMeta)
    (kind : String) (resolver : PatchMetaResolver) (i : Nat) (patches : List Patch) (st : Patching) :
    applyPatchLoop { lib with mapsKeys } typeMeta kind resolver i patches st =
      applyPatchLoop lib typeMeta kind resolver i patches st := by
  induction patches generalizing i st with
  | nil => rfl
  | cons p rest ih =>
    have hone : applyPatch { lib with mapsKeys } typeMeta kind resolver i p st.encoded =
        applyPatch lib typeMeta kind resolver i p st.encoded := rfl
    simp only [applyPatchLoop, hone, ih]

theorem tryPatches_mapsKeys (lib : Libraries) (mapsKeys : List String → List String) {K : Type} (codec : Codec K)
    (typeMeta : TypeMeta) (obj : K) (patches : List Patch) (resolver : PatchMetaResolver) :
    tryPatches { lib with mapsKeys } codec typeMeta obj patches resolver =
      tryPatches lib codec typeMeta obj patches resolver := by
  simp only [tryPatches, applyPatches, applyPatchLoop_mapsKeys]

theorem validatePatches_mapsKeys (lib : Libraries) (mapsKeys : List String → List String) (c : Config) :
    validatePatches { lib with mapsKeys } c = validatePatches lib c := by
  simp only [validatePatches, tryPatches_mapsKeys]
  rfl

theorem validatePatches_congr {lib : Libraries} (hlib : lib.SortsMaps) {c c' : Config} (h : c.Same c') :
    validatePatches lib c' = validatePatches lib c := by
  have haccount := h.unpatchedServiceAccount lib
  have hjob := h.unpatchedMigrationJob lib lib.hashEmpty
  have hdeployment := h.unpatchedDeployment lib lib.hashEmpty lib.hashEmpty
  have hpatches : c'.patches = c.patches ∧ c'.patchMeta = c.patchMeta := by
    rw [h.fields]
    exact ⟨rfl, rfl⟩
  have hothers : c'.unpatchedRole lib = c.unpatchedRole lib ∧ c'.unpatchedRoleBinding lib = c.unpatchedRoleBinding lib ∧
      c'.unpatchedService lib = c.unpatchedService lib := by
    rw [h.fields]
    exact ⟨rfl, rfl, rfl⟩
  unfold validatePatches
  rw [hpatches.1, hpatches.2, hothers.1, hothers.2.1, hothers.2.2,
    tryPatches_congr (hlib.serviceAccount.marshal haccount) fun text => hlib.serviceAccount.unmarshal text haccount,
    tryPatches_congr (hlib.job.marshal hjob) fun text => hlib.job.unmarshal text hjob,
    tryPatches_congr (hlib.deployment.marshal hdeployment) fun text => hlib.deployment.unmarshal text hdeployment]

end SpiceDBOperator
