import SpiceDBOperator.Controller.Plans
import SpiceDBOperator.Controller.Validation

/-!
# Stages of a rollout

A round is a reconcile, followed by what the controllers of Kubernetes do until the caches have caught up. The API
server refuses a call of the reconcile only for what it finds, which may be a status patch that comes too late. Rounds
may find their jobs and deployments unfinished; no job fails.

A reconcile can change the status once: the patches after that are refused. So a config takes one round for each patch
on its way, and the `Stage` of a world says how many are left: to note that the config changed, to record its status, to
start its migration, to start its rollout, and to end that. Rounds.lean shows that each round takes off one.
-/

namespace SpiceDBOperator

open Golang Hoare Metadata Handler

/-! ## What the others do -/

/-- Rolled out, with no replica unavailable. -/
def Available (d : Deployment) : Prop :=
  d.status.unavailableReplicas ≤ 0 ∧ d.replicas.any (deploymentRolloutComplete d) = true

def Complete (j : Job) : Prop := jobConditionHasStatus j .complete .true = true

/-- Nothing that is awaited is unfinished. -/
def Timely (w : World) : Prop := (∀ d ∈ w.api.deployments, Available d) ∧ ∀ j ∈ w.api.jobs, Complete j

instance (d : Deployment) : Decidable (Available d) := inferInstanceAs (Decidable (_ ∧ _))

instance (j : Job) : Decidable (Complete j) := inferInstanceAs (Decidable (_ = _))

instance : DecidablePred Timely := fun _ => inferInstanceAs (Decidable (_ ∧ _))

/-- A move of the deployment controller, the job controller, the pods or an informer. -/
def Move.ByControllers : Move → Prop
  | .updateDeployment .. | .updateJob .. | .putPods .. => True
  | .syncCluster | .syncSecrets | .syncComponents | .syncDeployments _ | .syncJobs _ | .syncPods => True
  | _ => False

structure Round (lib : Libraries) (idioms : Idioms lib) (resolver : PatchMetaResolver) (w w' : World) : Prop where
  moves : ∃ now moves, (∀ move ∈ moves, Move.ByControllers move) ∧
    w' = run lib idioms resolver (step lib idioms resolver w (.reconcile now [])) moves ∧
    -- what is complete stays complete
    ∀ j ∈ (step lib idioms resolver w (.reconcile now [])).api.jobs, Complete j →
      ∀ j' ∈ w'.api.jobs, j'.name = j.name → Complete j'
  synced : w'.cache = w'.api
  noneFailed : ∀ j ∈ w'.api.jobs, jobConditionHasStatus j .failed .true = false

/-- What the controllers leave alone. -/
structure Kept (w w' : World) : Prop where
  cluster : w'.api.cluster = w.api.cluster
  secrets : w'.api.secrets = w.api.secrets
  operatorConfig : w'.operatorConfig = w.operatorConfig
  deployments : w'.api.deployments.map (fun d => (d.name, d.annotations)) =
    w.api.deployments.map fun d => (d.name, d.annotations)
  jobs : w'.api.jobs.map (fun j => (j.name, j.annotations)) = w.api.jobs.map fun j => (j.name, j.annotations)

theorem Kept.refl (w : World) : Kept w w := ⟨rfl, rfl, rfl, rfl, rfl⟩

theorem Kept.trans {w w' w'' : World} (h : Kept w w') (h' : Kept w' w'') : Kept w w'' :=
  ⟨h'.cluster.trans h.cluster, h'.secrets.trans h.secrets, h'.operatorConfig.trans h.operatorConfig,
    h'.deployments.trans h.deployments, h'.jobs.trans h.jobs⟩

section

variable {lib : Libraries} {idioms : Idioms lib} {resolver : PatchMetaResolver} {w : World}

theorem kept_step {move : Move} (h : move.ByControllers) : Kept w (step lib idioms resolver w move) := by
  cases move with
  | updateDeployment name generation replicas status =>
    refine ⟨rfl, rfl, rfl, ?_, rfl⟩
    simp only [step, List.map_map]
    refine List.map_congr_left fun d _ => ?_
    simp only [Function.comp]
    split <;> rfl
  | updateJob name conditions =>
    refine ⟨rfl, rfl, rfl, rfl, ?_⟩
    simp only [step, List.map_map]
    refine List.map_congr_left fun j _ => ?_
    simp only [Function.comp]
    split <;> rfl
  | reconcile | editCluster | putSecrets | putSecretMeta | putOperatorConfig | deleteDeployment | deleteJob
  | putComponents => exact h.elim
  | putPods | syncCluster | syncSecrets | syncComponents | syncDeployments | syncJobs | syncPods =>
    exact ⟨rfl, rfl, rfl, rfl, rfl⟩

variable (lib idioms resolver) in
theorem kept_run {moves : List Move} (h : ∀ move ∈ moves, Move.ByControllers move) :
    Kept w (run lib idioms resolver w moves) := by
  induction moves generalizing w with
  | nil => exact Kept.refl w
  | cons move rest ih =>
    have hstep : Kept w (step lib idioms resolver w move) := kept_step (h move (List.mem_cons_self ..))
    exact hstep.trans (ih fun m hm => h m (List.mem_cons_of_mem _ hm))

end

/-! ## What a cluster asks for -/

/-- `NewConfig` accepts the cluster, and all objects of its config can be built. -/
structure Asks (lib : Libraries) (resolver : PatchMetaResolver) (operatorConfig : OperatorConfig)
    (secrets : GoMap Secret) (cluster : SpiceDBCluster) (p : Plan) : Prop where
  config : newConfig lib cluster operatorConfig (collectSecrets secrets cluster.spec) resolver =
    .ok (.ok p.config, p.warning)
  availableVersions : availableVersionsOf operatorConfig p.config = pure p.availableVersions
  migrationHash : lib.secureMigrationConfig p.config.migration = p.migrationHash
  secretHash : secretHashOf lib (collectSecrets secrets cluster.spec) cluster.spec = p.secretHash
  deployment : p.config.deployment lib p.migrationHash p.secretHash = .ok p.deployment
  budget : p.config.spice.pdb.disabled = true ∨ ∃ o, p.config.podDisruptionBudget lib = .ok o

section

variable {lib : Libraries} {resolver : PatchMetaResolver} {operatorConfig : OperatorConfig} {secrets : GoMap Secret}
  {cluster : SpiceDBCluster}

theorem exists_asks {config : Config} {warning : Option String}
    (hnew : newConfig lib cluster operatorConfig (collectSecrets secrets cluster.spec) resolver =
      .ok (.ok config, warning))
    (hbudget : config.spice.pdb.disabled = true ∨ ∃ o, config.podDisruptionBudget lib = .ok o) :
    ∃ p, Asks lib resolver operatorConfig secrets cluster p := by
  obtain ⟨availableVersions, havailable⟩ := availableVersionsOf_found hnew
  obtain ⟨deployment, hdeployment, -⟩ := config.deployment_intact lib (lib.secureMigrationConfig config.migration)
    (secretHashOf lib (collectSecrets secrets cluster.spec) cluster.spec)
  exact ⟨⟨config, warning, availableVersions, _, _, deployment⟩, hnew, havailable, rfl, rfl, hdeployment, hbudget⟩

/-- Of the status and the resource version, it matters what `NewConfig` makes of them. -/
theorem Asks.restated {p : Plan} (h : Asks lib resolver operatorConfig secrets cluster p) {status : ClusterStatus}
    {resourceVersion : Option Nat}
    (hnew : ∀ chosen, newConfig lib { cluster with status } operatorConfig chosen resolver =
      newConfig lib cluster operatorConfig chosen resolver) :
    Asks lib resolver operatorConfig secrets { cluster with status, resourceVersion } p :=
  ⟨(hnew _).trans h.config, h.availableVersions, h.migrationHash, h.secretHash, h.deployment, h.budget⟩

end

/-! ## Stages -/

/-- The deployment has the annotations `n` was applied with. -/
structure AppliedFrom (lib : Libraries) (n : DeploymentApply) (d : Deployment) : Prop where
  annotated : d.annotations.isSome
  config : annotationAt d.annotations configKey = lib.hashDeployment n
  migration : annotationAt d.annotations migrationRequirementsKey =
    (n.metadata.annotations.lookup migrationRequirementsKey).getD ""

/-- The one deployment was applied from `n`. -/
def Current (lib : Libraries) (n : DeploymentApply) (w : World) : Prop :=
  ∃ d, w.api.deployments = [d] ∧ d.name = deploymentName w.api.cluster.name ∧ AppliedFrom lib n d

/-- There is at most one deployment, and the operator applied it. -/
def Tidy (lib : Libraries) (w : World) : Prop := w.api.deployments = [] ∨ ∃ n, Current lib n w

/-- No migration is needed to deploy the config. -/
def Config.Direct (config : Config) : Prop :=
  config.spice.skipMigrations = true ∨ config.migration.datastoreEngine = "memory" ∨
    config.migration.spiceDBVersion.any
      (fun version => !version.attributes.contains SpiceDBVersionAttributes.migration) = true

section

variable (lib : Libraries) (p : Plan)

/-- The migration job is there and no deployment is. -/
structure InMigration (w : World) : Prop where
  recorded : Recorded lib p w.api.cluster
  needed : ¬ p.config.Direct
  unserved : ∀ d ∈ w.api.deployments, carriesHash d.annotations p.migrationHash = false
  job : ∃ j, w.api.jobs = [j] ∧ carriesHash j.annotations p.migrationHash = true
  flagged : w.api.cluster.isStatusConditionTrue lib Condition.typeMigrating = true

/-- The deployment is the one of the config. -/
structure InRollout (w : World) : Prop where
  recorded : Recorded lib p w.api.cluster
  migrated : Migrated lib w.api.cluster
  current : Current lib p.deployment w
  jobs : w.api.jobs = [] ∨
    p.config.spice.skipMigrations = false ∧ w.api.cluster.isStatusConditionTrue lib Condition.typeRolling = true ∧
      ∃ j, w.api.jobs = [j] ∧ carriesHash j.annotations p.migrationHash = true ∧ Complete j

/-- The status says so, and nothing is left of the rollout. -/
structure AtRest (w : World) : Prop where
  recorded : Recorded lib p w.api.cluster
  migrated : Migrated lib w.api.cluster
  idle : Idle lib w.api.cluster
  current : Current lib p.deployment w
  jobs : w.api.jobs = []

/-- By the number of rounds that are left, if each is timely. -/
def Stage : Nat → World → Prop
  | 0 => AtRest lib p
  | 1 => InRollout lib p
  | 2 => InMigration lib p
  | 3 => fun w => Recorded lib p w.api.cluster ∧ w.api.jobs = []
  | 4 => fun w => Observed lib p.secretHash w.api.cluster ∧ w.api.jobs = []
  | _ => fun w => w.api.jobs = []

end

/-- The rounds that are left after one of `k`. The first ones do not wait for anything. Of the others a timely round
takes off one, and an untimely one may find a deployment unfinished that was available before. -/
def leftAfter (timely : Prop) [Decidable timely] (k : Nat) : Nat := if timely ∨ 3 ≤ k then k - 1 else max k 1

section

variable {lib : Libraries} {w w' : World} {p : Plan} {n : DeploymentApply} {k : Nat}

theorem Stage.recorded (h : Stage lib p k w) (hk : k ≤ 3) : Recorded lib p w.api.cluster := by
  match k, hk with
  | 0, _ => exact AtRest.recorded h
  | 1, _ => exact InRollout.recorded h
  | 2, _ => exact InMigration.recorded h
  | 3, _ => exact h.1

theorem Stage.observed (h : Stage lib p k w) (hk : k ≤ 4) : Observed lib p.secretHash w.api.cluster := by
  rcases Nat.lt_or_eq_of_le hk with hlt | rfl
  · exact (h.recorded (by omega)).toObserved
  · exact h.1

/-- A rollout has not begun. -/
theorem Stage.unbegun (h : Stage lib p k w) (hk : 3 ≤ k) : w.api.jobs = [] := by
  obtain ⟨j, rfl⟩ := Nat.exists_eq_add_of_le' hk
  match j with
  | 0 | 1 => exact h.2
  | _ + 2 => exact h

/-- For another config nothing has been done, but that its secrets may have been observed. -/
theorem Stage.another {p' : Plan} (h : Stage lib p k w) (hsecrets : p'.secretHash = p.secretHash)
    (hjobs : w.api.jobs = []) : Stage lib p' (max k 4) w := by
  rcases Nat.lt_or_ge 4 k with hk | hk
  · obtain ⟨j, rfl⟩ := Nat.exists_eq_add_of_le' hk
    rw [max_eq_left (by omega)]
    exact hjobs
  · rw [max_eq_right hk]
    exact ⟨hsecrets ▸ h.observed hk, hjobs⟩

theorem AtRest.over (h : AtRest lib p w) : w.api.cluster.rolloutInProgress lib = false := by
  have hmigrating : w.api.cluster.isStatusConditionTrue lib Condition.typeMigrating = false := by
    simp only [SpiceDBCluster.isStatusConditionTrue, lib.isTrue_eq, h.migrated.migrating]
    rfl
  have hrolling : w.api.cluster.isStatusConditionTrue lib Condition.typeRolling = false := h.idle.rolling
  simp [SpiceDBCluster.rolloutInProgress, hmigrating, hrolling, h.migrated.current]

/-- With no rollout in progress no job is left. -/
theorem Stage.no_jobs (h : Stage lib p k w) (hidle : w.api.cluster.rolloutInProgress lib = false) :
    w.api.jobs = [] := by
  simp only [SpiceDBCluster.rolloutInProgress, Bool.or_eq_false_iff] at hidle
  rcases k with _ | _ | _ | k
  · exact AtRest.jobs h
  · refine (InRollout.jobs h).resolve_right fun hjob => ?_
    rw [hidle.1.2] at hjob
    cases hjob.2.1
  · have hflagged := InMigration.flagged h
    rw [hidle.1.1] at hflagged
    cases hflagged
  · exact h.unbegun (by omega)

/-! ## Stages under the controllers -/

theorem AppliedFrom.kept {d d' : Deployment} (h : AppliedFrom lib n d) (hann : d'.annotations = d.annotations) :
    AppliedFrom lib n d' := by
  refine ⟨?_, ?_, ?_⟩ <;> rw [hann]
  · exact h.annotated
  · exact h.config
  · exact h.migration

theorem Kept.job (h : Kept w w') {j : Job} (hj : w.api.jobs = [j]) :
    ∃ j', w'.api.jobs = [j'] ∧ j'.name = j.name ∧ j'.annotations = j.annotations := by
  have hmap := h.jobs
  rw [hj, List.map_singleton, List.map_eq_singleton_iff] at hmap
  obtain ⟨j', hj', heq⟩ := hmap
  exact ⟨j', hj', congrArg Prod.fst heq, congrArg Prod.snd heq⟩

theorem Kept.no_jobs (h : Kept w w') (hj : w.api.jobs = []) : w'.api.jobs = [] := by
  have hmap := h.jobs
  rw [hj] at hmap
  exact List.map_eq_nil_iff.1 hmap

/-- The one deployment is still the one that was applied. -/
theorem Current.kept (hcurrent : Current lib n w) (h : Kept w w') : Current lib n w' := by
  obtain ⟨d, hd, hname, happlied⟩ := hcurrent
  have hmap := h.deployments
  rw [hd, List.map_singleton, List.map_eq_singleton_iff] at hmap
  obtain ⟨d', hd', heq⟩ := hmap
  obtain ⟨hname', hann⟩ := Prod.mk.inj heq
  exact ⟨d', hd', by rw [h.cluster, hname', hname], happlied.kept hann⟩

theorem Tidy.kept (htidy : Tidy lib w) (h : Kept w w') : Tidy lib w' := by
  refine htidy.imp (fun hnone => ?_) fun ⟨n, hcurrent⟩ => ⟨n, hcurrent.kept h⟩
  have hmap := h.deployments
  rw [hnone] at hmap
  exact List.map_eq_nil_iff.1 hmap

/-- No stage is lost. -/
theorem Stage.kept (hk : Stage lib p k w) (h : Kept w w')
    (hlasts : ∀ j ∈ w.api.jobs, Complete j → ∀ j' ∈ w'.api.jobs, j'.name = j.name → Complete j') :
    Stage lib p k w' := by
  match k with
  | 0 =>
    have hrest : AtRest lib p w := hk
    exact ⟨h.cluster ▸ hrest.recorded, h.cluster ▸ hrest.migrated, h.cluster ▸ hrest.idle, hrest.current.kept h,
      h.no_jobs hrest.jobs⟩
  | 1 =>
    have hrollout : InRollout lib p w := hk
    refine ⟨h.cluster ▸ hrollout.recorded, h.cluster ▸ hrollout.migrated, hrollout.current.kept h, ?_⟩
    rcases hrollout.jobs with hnone | ⟨hskip, hrolling, j, hj, hcarries, hcomplete⟩
    · exact Or.inl (h.no_jobs hnone)
    · obtain ⟨j', hj', hname, hann⟩ := h.job hj
      refine Or.inr ⟨hskip, h.cluster ▸ hrolling, j', hj', hann ▸ hcarries, ?_⟩
      exact hlasts j (by simp [hj]) hcomplete j' (by simp [hj']) hname
  | 2 =>
    have hm : InMigration lib p w := hk
    refine ⟨h.cluster ▸ hm.recorded, hm.needed, fun d' hd' => ?_, ?_, h.cluster ▸ hm.flagged⟩
    · have hmem : (d'.name, d'.annotations) ∈ w.api.deployments.map fun d => (d.name, d.annotations) := by
        rw [← h.deployments]
        exact List.mem_map_of_mem hd'
      obtain ⟨d, hd, heq⟩ := List.mem_map.1 hmem
      rw [← (Prod.mk.inj heq).2]
      exact hm.unserved d hd
    · obtain ⟨j, hj, hcarries⟩ := hm.job
      obtain ⟨j', hj', -, hann⟩ := h.job hj
      exact ⟨j', hj', hann ▸ hcarries⟩
  | 3 | 4 => exact ⟨h.cluster ▸ hk.1, h.no_jobs hk.2⟩
  | _ + 5 => exact h.no_jobs hk

end

end SpiceDBOperator
