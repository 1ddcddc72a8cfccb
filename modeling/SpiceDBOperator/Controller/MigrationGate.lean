import SpiceDBOperator.Config.Accepted
import SpiceDBOperator.Controller.Plain

/-!
# No deployment without its migration

The proof that a migration ran is carried by annotations: a job that completed is deleted, and the hash on the
deployment stands for it from then on. `Backed log h` says that the operator has applied `h` when it was cleared to do
so; along every run, every deployment that carries a hash is backed (`deployments_gated`).

The hard case is a deployment applied because a deployment with the same hash was already there. The hash determines
the config, so what cleared the earlier apply also clears this one (`Cleared.transfer`).
-/

namespace SpiceDBOperator

open Golang Hoare Metadata

/-- What clears a reconcile with this config and status to apply the hash `h`, after these events. -/
inductive Cleared (config : Config) (status : ClusterStatus) (h : String) (before : List Event) : Prop
  | memory (hengine : config.migration.datastoreEngine = "memory")
  | unneeded {version : SpiceDBVersion} (hversion : status.currentVersion = some version)
      (hnot : SpiceDBVersionAttributes.migration ∉ version.attributes)
  | migrated {job : Job} (hseen : Event.jobCompleted job ∈ before)
      (hhash : annotationAt job.annotations migrationRequirementsKey = h)
      (hcomplete : jobConditionHasStatus job .complete .true = true)

/-- The status of a reconcile has the version of its config. -/
def AtVersion (status : ClusterStatus) (config : Config) : Prop :=
  SpiceDBVersion.equalsPtr status.currentVersion config.migration.spiceDBVersion = true

/-- `h` was applied by a reconcile that was cleared to. -/
def Backed (lib : Libraries) (log : List Event) (h : String) : Prop :=
  ∃ before after config status, log = before ++ Event.deploymentApplied h config status :: after ∧
    lib.secureMigrationConfig config.migration = h ∧ AtVersion status config ∧ Cleared config status h before

/-- The deployment carries `"skipped"` or a hash that is backed. -/
def Gated (lib : Libraries) (log : List Event) (d : Deployment) : Prop :=
  ∃ h, d.annotations.bind (·.lookup migrationRequirementsKey) = some h ∧ (h = "skipped" ∨ Backed lib log h)

def AllGated (lib : Libraries) (w : World) : Prop :=
  (∀ d ∈ w.api.deployments, Gated lib w.log d) ∧ ∀ d ∈ w.cache.deployments, Gated lib w.log d

section

variable {lib : Libraries} {log : List Event} {h : String} {d d' : Deployment}

theorem Backed.append (hb : Backed lib log h) (e : Event) : Backed lib (log ++ [e]) h := by
  obtain ⟨before, after, config, status, rfl, hrest⟩ := hb
  exact ⟨before, after ++ [e], config, status, by simp, hrest⟩

theorem Gated.append (hd : Gated lib log d) (e : Event) : Gated lib (log ++ [e]) d := by
  obtain ⟨h, hlookup, hor⟩ := hd
  exact ⟨h, hlookup, hor.imp_right fun hb => hb.append e⟩

theorem Gated.congr (hd : Gated lib log d) (he : d'.annotations = d.annotations) : Gated lib log d' := by
  obtain ⟨h, hlookup, hor⟩ := hd
  exact ⟨h, by rw [he]; exact hlookup, hor⟩

theorem Gated.of_carriesHash (hd : Gated lib log d) (hcarries : carriesHash d.annotations h = true) :
    h = "skipped" ∨ Backed lib log h := by
  obtain ⟨h', hlookup, hor⟩ := hd
  simp only [carriesHash, Bool.and_eq_true, decide_eq_true_eq, annotationAt, hlookup, Option.getD_some] at hcarries
  exact hcarries.2 ▸ hor

/-! ## Clearance follows the hash -/

theorem Cleared.transfer {config config' : Config} {status status' : ClusterStatus} {before : List Event}
    (hc : Cleared config' status' h before) (hmigration : config'.migration = config.migration)
    (hv' : AtVersion status' config') (hv : AtVersion status config) (hlog : before ⊆ log) :
    Cleared config status h log := by
  cases hc with
  | memory hengine => exact .memory (hmigration ▸ hengine)
  | @unneeded version hversion hnot =>
    have hattributes : status.currentVersion.map (·.attributes) = status'.currentVersion.map (·.attributes) := by
      rw [SpiceDBVersion.equalsPtr_attributes hv, ← hmigration, SpiceDBVersion.equalsPtr_attributes hv']
    rw [hversion, Option.map_some, Option.map_eq_some_iff] at hattributes
    obtain ⟨version', hversion', heq⟩ := hattributes
    exact .unneeded hversion' (heq ▸ hnot)
  | migrated hseen hhash hcomplete => exact .migrated (hlog hseen) hhash hcomplete

/-- The evidence `DeploymentHandler` is reached with clears the apply, or it applies `"skipped"`. -/
theorem cleared_of_evidence (hinj : Function.Injective lib.secureMigrationConfig) {v : Validated} {w : World}
    (hgated : AllGated lib w) (hvalid : Valid lib v) (hevidence : Evidence v w) :
    v.config.migrationAnnotationOf v.migrationHash = "skipped" ∨
      (v.config.migrationAnnotationOf v.migrationHash = v.migrationHash ∧
        Cleared v.config v.cluster.status v.migrationHash w.log) := by
  by_cases hskip : v.config.spice.skipMigrations = true
  · exact Or.inl (by simp [Config.migrationAnnotationOf, hskip])
  have hstamp : v.config.migrationAnnotationOf v.migrationHash = v.migrationHash := by
    simp [Config.migrationAnnotationOf, hskip]
  cases hevidence with
  | skipped h => exact absurd h hskip
  | memory h => exact Or.inr ⟨hstamp, .memory h⟩
  | unneeded hversion hnot => exact Or.inr ⟨hstamp, .unneeded hversion hnot⟩
  | completed hseen hhash hcomplete => exact Or.inr ⟨hstamp, .migrated hseen hhash hcomplete⟩
  | deployed hmem hcarries =>
    rcases (hgated.2 _ hmem).of_carriesHash hcarries with hskipped |
      ⟨before, after, config, status, hlog, hhash, hv, hc⟩
    · exact Or.inl (hstamp.trans hskipped)
    · have hmigration : config.migration = v.config.migration := hinj (hhash.trans hvalid.hash)
      refine Or.inr ⟨hstamp, hc.transfer hmigration hv hvalid.version ?_⟩
      rw [hlog]
      exact List.subset_append_left _ _

/-! ## Effects -/

theorem stamped_lookup {config : Config} {migrationHash secretHash : String} {newDeployment : DeploymentApply}
    (hnew : config.deployment lib migrationHash secretHash = .ok newDeployment) :
    (stamped lib newDeployment).metadata.annotations.lookup migrationRequirementsKey =
      some (config.migrationAnnotationOf migrationHash) := by
  have hother : (mapOf [(configKey, lib.hashDeployment newDeployment)]).lookup migrationRequirementsKey = none := rfl
  simp only [stamped, lib.withAnnotations_eq, mergeInto_lookup, hother, Option.none_or]
  exact deployment_annotations hnew

/-- Every deployment after an apply was there before, with its annotations, or has the applied ones. -/
theorem mem_applyDeployment {w : World} {name : String} {applied : DeploymentApply} {config : Config}
    {status : ClusterStatus} (hd : d ∈ (w.applyDeployment name applied config status).api.deployments) :
    d ∈ w.api.deployments ∨ ∃ old, d.annotations = appliedAnnotations old applied.metadata.annotations := by
  rcases mem_upsert hd with hold | rfl | ⟨live, -, rfl⟩
  · exact Or.inl hold
  · exact Or.inr ⟨_, rfl⟩
  · exact Or.inr ⟨_, rfl⟩

theorem allGated_record {w : World} (hw : AllGated lib w) (e : Event) : AllGated lib (w.record e) :=
  ⟨fun d hd => (hw.1 d hd).append e, fun d hd => (hw.2 d hd).append e⟩

theorem allGated_apply (hinj : Function.Injective lib.secureMigrationConfig) {v : Validated} {w : World}
    {newDeployment : DeploymentApply} (name : String) (hw : AllGated lib w) (hvalid : Valid lib v)
    (hevidence : Evidence v w) (hnew : v.config.deployment lib v.migrationHash v.secretHash = .ok newDeployment) :
    AllGated lib (w.applyDeployment name (stamped lib newDeployment) v.config v.cluster.status) := by
  have hlookup := stamped_lookup hnew
  refine ⟨fun d hd => ?_, fun d hd => (hw.2 d hd).append _⟩
  rcases mem_applyDeployment hd with hold | ⟨old, hannotations⟩
  · exact (hw.1 d hold).append _
  refine ⟨_, ?_, (cleared_of_evidence hinj hw hvalid hevidence).imp_right ?_⟩
  · rw [hannotations]
    simp only [appliedAnnotations, Option.bind_some, mergeInto_lookup, hlookup, Option.some_or]
  · rintro ⟨hstamp, hcleared⟩
    refine ⟨w.log, [], v.config, v.cluster.status, ?_, ?_, hvalid.version, ?_⟩
    · simp only [World.applyDeployment, World.record, hlookup, Option.getD_some]
    · rw [hstamp]
      exact hvalid.hash.symm
    · rw [hstamp]
      exact hcleared

theorem allGated_outside {w w' : World} (hout : Outside w w') (hw : AllGated lib w) : AllGated lib w' := by
  constructor
  · intro d' hd'
    obtain ⟨d, hd, hannotations⟩ := hout.live d' hd'
    rw [hout.log]
    exact (hw.1 d hd).congr hannotations
  · intro d hd
    rw [hout.log]
    exact (hout.cached d hd).elim (hw.2 d) (hw.1 d)

theorem gate_upholds (resolver : PatchMetaResolver) (hinj : Function.Injective lib.secureMigrationConfig) :
    Upholds lib resolver (fun _ => True) (AllGated lib) (fun _ _ => True) where
  store hw _ := ⟨allGated_record hw _, trivial⟩
  quiet hquiet hw := by
    refine ⟨⟨fun d hd => ?_, fun d hd => ?_⟩, fun _ _ => trivial⟩
    · rw [hquiet.log]
      exact hw.1 d (hquiet.deployments hd)
    · rw [hquiet.log]
      rw [hquiet.cache] at hd
      exact hw.2 d hd
  seen _ hw := ⟨allGated_record hw _, fun _ _ => trivial⟩
  accept _ hw _ _ _ _ := ⟨allGated_record hw _, trivial⟩
  roll _ := trivial
  start _ := trivial
  apply name hw hvalid hevidence hnew := ⟨allGated_apply hinj name hw hvalid hevidence hnew, fun _ _ => trivial⟩
  finish hw _ _ _ := ⟨allGated_record hw _, fun _ => trivial⟩

/-! ## Runs -/

/-- **Migrations gate deployments.** Whatever is edited, deleted, delayed or fails along a run, every deployment that
carries a hash was applied with it by a reconcile that was cleared to: on the memory engine, at a version without the
migration attribute, or after a job with that hash was seen complete. -/
theorem deployments_gated (lib : Libraries) (idioms : Idioms lib) (resolver : PatchMetaResolver)
    (hinj : Function.Injective lib.secureMigrationConfig) (w : World) (hlive : w.api.deployments = [])
    (hcached : w.cache.deployments = []) (moves : List Move) (d : Deployment)
    (hd : d ∈ (run lib idioms resolver w moves).api.deployments)
    (hskipped : annotationAt d.annotations migrationRequirementsKey ≠ "skipped") :
    ∃ before after config status,
      (run lib idioms resolver w moves).log =
        before ++ Event.deploymentApplied (annotationAt d.annotations migrationRequirementsKey) config status :: after ∧
      Cleared config status (annotationAt d.annotations migrationRequirementsKey) before := by
  have hstart : AllGated lib w := by
    simp [AllGated, hlive, hcached]
  have hgated : AllGated lib (run lib idioms resolver w moves) :=
    run_keeps allGated_outside (fun now answers hw _ =>
      reconcile_step (gate_upholds resolver hinj) now answers trivial hw trivial)
      hstart (atReconciles_true moves)
  obtain ⟨h, hlookup, hor⟩ := hgated.1 d hd
  have hh : annotationAt d.annotations migrationRequirementsKey = h := by
    rw [annotationAt, hlookup, Option.getD_some]
  rw [hh] at hskipped ⊢
  obtain ⟨before, after, config, status, hlog, -, -, hcleared⟩ := hor.resolve_left hskipped
  exact ⟨before, after, config, status, hlog, hcleared⟩

end

/-- Reconcile until there is a job, let it complete, and reconcile again. -/
def migrateOnce : List Move :=
  reconciles [0, 1, 2] ++ [.updateJob smallJob [{ type := .complete, status := .true, message := "" }],
    .syncJobs [smallJob], .reconcile 3 []]

theorem migrateOnce_gated :
    ∃ d ∈ (run plain plainIdioms plainResolver (smallWorld UpdateGraph.twoReleases "v1") migrateOnce).api.deployments,
      annotationAt d.annotations migrationRequirementsKey ≠ "skipped" ∧
      ∃ before after config status,
        (run plain plainIdioms plainResolver (smallWorld UpdateGraph.twoReleases "v1") migrateOnce).log =
          before ++ Event.deploymentApplied
            (annotationAt d.annotations migrationRequirementsKey) config status :: after ∧
        Cleared config status (annotationAt d.annotations migrationRequirementsKey) before := by
  have hone : ((run plain plainIdioms plainResolver
    (smallWorld UpdateGraph.twoReleases "v1") migrateOnce).api.deployments.map
      fun d => decide (annotationAt d.annotations migrationRequirementsKey = "skipped")) = [false] := by decide +kernel
  obtain ⟨d, hd, hskipped⟩ := List.mem_map.1 (hone ▸ List.mem_singleton_self false)
  have hskipped := of_decide_eq_false hskipped
  exact ⟨d, hd, hskipped,
    deployments_gated plain plainIdioms plainResolver plain_injective _ rfl rfl migrateOnce d hd hskipped⟩

end SpiceDBOperator
