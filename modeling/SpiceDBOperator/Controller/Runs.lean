import SpiceDBOperator.Controller.Upkeep

/-!
# Runs of the operator

A run is any sequence of reconciles and of moves made by others: users, the deployment and job controllers, and the
informers that bring the caches up to date, each object at its own time. Others do not create deployments and do not
write annotations.

* `run_keeps`: what every move keeps holds at the end of a run.
* `step_outside`: what a move of the others can do to what the invariants of the operator speak of.
* `reconcile_step`: a reconcile keeps an invariant whose effects are checked (`Upholds`).
-/

namespace SpiceDBOperator

open Golang Hoare

inductive Move where
  | reconcile (now : Nat) (answers : List Answer)
  | editCluster (labels : GoMap String) (spec : ClusterSpec)
  | putSecrets (secrets : GoMap Secret)
  /-- Others label and annotate secrets too, or take labels off. -/
  | putSecretMeta (secretMeta : GoMap ObjectMeta)
  | putOperatorConfig (operatorConfig : OperatorConfig)
  /-- The deployment controller and autoscalers. -/
  | updateDeployment (name : String) (generation : Int) (replicas : Option Int) (status : DeploymentStatus)
  | deleteDeployment (name : String)
  | updateJob (name : String) (conditions : List JobCondition)
  | deleteJob (name : String)
  | putPods (deploymentPods jobPods : List Pod)
  | putComponents (components : List Component)
  /-- The cache of the main resource catches up. -/
  | syncCluster
  | syncSecrets
  | syncComponents
  /-- The cache catches up on the objects of these names. -/
  | syncDeployments (names : List String)
  | syncJobs (names : List String)
  | syncPods

/-- The cached list after the objects of these names were read again. -/
def refresh {α : Type} (nameOf : α → String) (names : List String) (cached live : List α) : List α :=
  cached.filter (nameOf · ∉ names) ++ live.filter (nameOf · ∈ names)

theorem mem_refresh {α : Type} {nameOf : α → String} {names : List String} {cached live : List α} {x : α}
    (h : x ∈ refresh nameOf names cached live) : x ∈ cached ∨ x ∈ live := by
  rcases List.mem_append.1 h with h | h
  · exact Or.inl (List.mem_of_mem_filter h)
  · exact Or.inr (List.mem_of_mem_filter h)

section

variable (lib : Libraries) (idioms : Idioms lib) (resolver : PatchMetaResolver)

def step (w : World) : Move → World
  | .reconcile now answers => (exec (reconcile lib idioms resolver) { world := { w with now }, answers }).2.world
  | .editCluster labels spec =>
    let cluster := w.api.cluster
    { w with api.cluster :=
        { cluster with labels, spec, generation := cluster.generation + 1, resourceVersion := cluster.bumped } }
  | .putSecrets secrets => { w with api.secrets := secrets }
  | .putSecretMeta secretMeta => { w with api.secretMeta := secretMeta }
  | .putOperatorConfig operatorConfig => { w with operatorConfig }
  | .updateDeployment name generation replicas status =>
    { w with api.deployments :=
        w.api.deployments.map fun d => if d.name = name then { d with generation, replicas, status } else d }
  | .deleteDeployment name => w.deleteDeployment name
  | .updateJob name conditions =>
    { w with api.jobs := w.api.jobs.map fun j => if j.name = name then { j with conditions } else j }
  | .deleteJob name => w.deleteJob name
  | .putPods deploymentPods jobPods => { w with api.deploymentPods := deploymentPods, api.jobPods := jobPods }
  | .putComponents components => { w with api.components := components }
  | .syncCluster => { w with cache.cluster := w.api.cluster }
  | .syncSecrets => { w with cache.secrets := w.api.secrets, cache.secretMeta := w.api.secretMeta }
  | .syncComponents => { w with cache.components := w.api.components }
  | .syncDeployments names =>
    { w with cache.deployments := refresh Deployment.name names w.cache.deployments w.api.deployments }
  | .syncJobs names => { w with cache.jobs := refresh Job.name names w.cache.jobs w.api.jobs }
  | .syncPods => { w with cache.deploymentPods := w.api.deploymentPods, cache.jobPods := w.api.jobPods }

def run (w : World) (moves : List Move) : World := moves.foldl (step lib idioms resolver) w

/-- `P` holds before every reconcile of a run. -/
def AtReconciles (P : World → Prop) : World → List Move → Prop
  | _, [] => True
  | w, .reconcile now answers :: rest => P w ∧ AtReconciles P (step lib idioms resolver w (.reconcile now answers)) rest
  | w, move :: rest => AtReconciles P (step lib idioms resolver w move) rest

end

/-- A move of the others. -/
structure Outside (w w' : World) : Prop where
  log : w'.log = w.log
  status : w'.api.cluster.status = w.api.cluster.status
  live : ∀ d' ∈ w'.api.deployments, ∃ d ∈ w.api.deployments, d'.annotations = d.annotations
  cached : ∀ d' ∈ w'.cache.deployments, d' ∈ w.cache.deployments ∨ d' ∈ w.api.deployments

/-- A move that does not touch deployments. -/
theorem Outside.of_eq {w w' : World} (hlog : w'.log = w.log) (hstatus : w'.api.cluster.status = w.api.cluster.status)
    (hlive : w'.api.deployments = w.api.deployments) (hcached : w'.cache.deployments = w.cache.deployments) :
    Outside w w' where
  log := hlog
  status := hstatus
  live := fun d hd => ⟨d, hlive ▸ hd, rfl⟩
  cached := fun _ hd => Or.inl (hcached ▸ hd)

section

variable {lib : Libraries} {idioms : Idioms lib} {resolver : PatchMetaResolver} {w : World}

theorem step_outside {move : Move} (h : ∀ now answers, move ≠ .reconcile now answers) :
    Outside w (step lib idioms resolver w move) := by
  cases move with
  | reconcile now answers => exact absurd rfl (h now answers)
  | updateDeployment name generation replicas status =>
    refine ⟨rfl, rfl, fun d' hd' => ?_, fun _ hd => Or.inl hd⟩
    obtain ⟨d, hd, rfl⟩ := List.mem_map.1 hd'
    refine ⟨d, hd, ?_⟩
    split <;> rfl
  | deleteDeployment name =>
    refine ⟨rfl, rfl, fun d hd => ?_, fun _ hd => Or.inl hd⟩
    exact ⟨d, List.mem_of_mem_filter hd, rfl⟩
  | syncDeployments names => exact ⟨rfl, rfl, fun d hd => ⟨d, hd, rfl⟩, fun _ hd => mem_refresh hd⟩
  | _ => exact Outside.of_eq rfl rfl rfl rfl

theorem run_keeps {I P : World → Prop} (houtside : ∀ {w w'}, Outside w w' → I w → I w')
    (hreconcile : ∀ {w} now answers, I w → P w → I (step lib idioms resolver w (.reconcile now answers)))
    {moves : List Move}
    (hI : I w) (hP : AtReconciles lib idioms resolver P w moves) : I (run lib idioms resolver w moves) := by
  induction moves generalizing w with
  | nil => exact hI
  | cons move rest ih =>
    cases move with
    | reconcile now answers => exact ih (hreconcile now answers hI hP.1) hP.2
    | _ => exact ih (houtside (step_outside nofun) hI) hP

theorem atReconciles_true (moves : List Move) : AtReconciles lib idioms resolver (fun _ => True) w moves := by
  induction moves generalizing w with
  | nil => trivial
  | cons move rest ih =>
    cases move with
    | reconcile now answers => exact ⟨trivial, ih⟩
    | _ => exact ih

theorem reconcile_step {S : ClusterSpec → Prop} {I : World → Prop} {M : Core → World → Prop}
    (H : Upholds lib resolver S I M) (now : Nat) (answers : List Answer) (hS : S w.cache.cluster.spec) (hI : I w)
    (hM : M (w.cache.cluster.status.core lib) w) : I (step lib idioms resolver w (.reconcile now answers)) := by
  have hnow : Quiet w { w with now } := ⟨rfl, rfl, fun _ h => h, rfl⟩
  have hquiet := H.quiet hnow hI
  exact H.reconcile_upholds.always (s := { world := { w with now }, answers }) ⟨hS, hquiet.1, hquiet.2 _ hM⟩

end

end SpiceDBOperator
