import Mathlib.Data.List.MinMax
import Mathlib.Data.List.Permutation
import SpiceDBOperator.Controller.Deletions

/-!
# Which pod error is reported

`DeploymentHandler` sorts the pods of a deployment that is not fully available, to report the newest error, but ranges
over a second listing (ensure_deployment.go:124-128). So it reports the error that is listed first, and that is the
newest one in every order of the listing only if all the errors agree (`pod_error_newest_iff`).
-/

namespace SpiceDBOperator

open Golang Hoare Metadata Handler

/-- The message of the first container that was terminated. -/
def firstTermination (p : Pod) : Option String := (p.lastTerminations.filterMap id).head?

/-- The stored status reports this pod error. -/
def PodErrorStored (lib : Libraries) (message : String) (w : World) : Prop :=
  ∃ c, w.api.cluster.findStatusCondition lib Condition.typeRolloutError = some c ∧ c.reason = "PodError" ∧
    c.message = message

section

variable {pods listing : List Pod} {message : String}

/-- The newest pod with an error, and that error. -/
structure NewestError (pods : List Pod) (newest : Pod) (message : String) : Prop where
  mem : newest ∈ pods
  error : firstTermination newest = some message
  newest : ∀ p ∈ pods, (firstTermination p).isSome → p ≠ newest → p.creationTimestamp < newest.creationTimestamp

theorem exists_newestError (hdistinct : (pods.map Pod.creationTimestamp).Nodup)
    (hsome : ∃ p ∈ pods, (firstTermination p).isSome) : ∃ newest message, NewestError pods newest message := by
  obtain ⟨p, hp, herr⟩ := hsome
  cases hmax : (pods.filter fun p => (firstTermination p).isSome).argmax Pod.creationTimestamp with
  | none =>
    rw [List.argmax_eq_none] at hmax
    exact absurd (List.mem_filter.2 ⟨hp, herr⟩) (hmax ▸ List.not_mem_nil)
  | some newest =>
    obtain ⟨hmem, herr⟩ := List.mem_filter.1 (List.argmax_mem hmax)
    obtain ⟨message, hmessage⟩ := Option.isSome_iff_exists.1 herr
    refine ⟨newest, message, hmem, hmessage, fun q hq herr hne => ?_⟩
    have hle := List.le_of_mem_argmax (List.mem_filter.2 ⟨hq, herr⟩) hmax
    exact lt_of_le_of_ne hle fun heq => hne (List.inj_on_of_nodup_map hdistinct hq hmem heq)

theorem podError_eq_findSome (pods : List Pod) : podError pods = pods.findSome? firstTermination := by
  induction pods with
  | nil => rfl
  | cons p rest ih =>
    rw [podError, List.flatMap_cons, List.head?_append, List.findSome?_cons, ← ih]
    cases h : firstTermination p with
    | none => rw [← firstTermination, h]; rfl
    | some m => rw [← firstTermination, h]; rfl

/-- The error of a pod that is listed first. -/
theorem podError_cons {p : Pod} (h : firstTermination p = some message) : podError (p :: pods) = some message := by
  rw [podError_eq_findSome, List.findSome?_cons, h]

/-- What is reported is the error of some pod. -/
theorem podError_of_mem {p : Pod} (hp : p ∈ pods) (herr : firstTermination p = some message) :
    ∃ q ∈ pods, ∃ m, firstTermination q = some m ∧ podError pods = some m := by
  rw [podError_eq_findSome]
  cases hfound : pods.findSome? firstTermination with
  | none =>
    have hnone := List.findSome?_eq_none_iff.1 hfound p hp
    rw [herr] at hnone
    cases hnone
  | some m =>
    obtain ⟨q, hq, hm⟩ := List.exists_of_findSome?_eq_some hfound
    exact ⟨q, hq, m, hm, rfl⟩

/-- In every order of the listing the error is `message`. -/
theorem podError_every_order_iff {p : Pod} (hp : p ∈ pods) (herr : firstTermination p = some message) :
    (∀ listing : List Pod, listing.Perm pods → podError listing = some message) ↔
      ∀ q ∈ pods, ∀ m, firstTermination q = some m → m = message := by
  constructor
  · intro hall q hq m hm
    obtain ⟨before, after, hsplit⟩ := List.append_of_mem hq
    have hperm : (q :: (before ++ after)).Perm pods := hsplit ▸ List.perm_middle.symm
    exact Option.some.inj ((podError_cons hm).symm.trans (hall _ hperm))
  · intro hagree listing hperm
    obtain ⟨q, hq, m, hm, hreported⟩ := podError_of_mem (hperm.mem_iff.2 hp) herr
    rw [hreported, hagree q (hperm.mem_iff.1 hq) m hm]

end

theorem PodErrorStored.unique {lib : Libraries} {m m' : String} {w : World} (h : PodErrorStored lib m w)
    (h' : PodErrorStored lib m' w) :
    m' = m := by
  obtain ⟨c, hc, -, hm⟩ := h
  obtain ⟨c', hc', -, hm'⟩ := h'
  rw [hc] at hc'
  cases hc'
  rw [← hm, ← hm']

/-! ## The handler -/

section

variable {lib : Libraries} {v : Validated} {listing : List Pod} {message : String}

def Listed (listing : List Pod) (w : World) : Prop := w.cache.deploymentPods = listing

theorem podErrorStored_patched (w : World) (c : SpiceDBCluster) (now : Nat) :
    PodErrorStored lib message
      (w.storeStatus (patched (c.setStatusCondition lib (Condition.newPodErrorCondition now message)))) := by
  obtain ⟨time, hset⟩ := lib.findStatusCondition_set_self c.status.conditions
    (Condition.newPodErrorCondition now message)
  exact ⟨_, hset, rfl, rfl⟩

theorem checkPods_reports {c : SpiceDBCluster} {d : Deployment} (hunavailable : 0 < d.status.unavailableReplicas)
    (herr : podError listing = some message) :
    Triple (Smooth (Listed listing)) (checkPods lib c d) (fun _ _ => False)
      (fun _ => Barring (PodErrorStored lib message)) := by
  refine look_smooth fun w hw => ?_
  rw [if_pos hunavailable, hw, herr]
  exact patchStatus_stops fun w' _ _ => podErrorStored_patched w' c w.now

/-- With one matching deployment, short of replicas, the handler ends with the error of the listing. -/
theorem ensureDeployment_reports {deployments : List Deployment} {newDeployment : DeploymentApply}
    {cached : Deployment} (hnew : v.config.deployment lib v.migrationHash v.secretHash = .ok newDeployment)
    (hone : deployments.filter (annotationAt ·.annotations configKey = lib.hashDeployment newDeployment) = [cached])
    (hunavailable : 0 < cached.status.unavailableReplicas) (herr : podError listing = some message) :
    Triple (Smooth (Listed listing)) (ensureDeployment lib v deployments) (fun _ _ => False)
      (fun _ => Barring (PodErrorStored lib message)) := by
  have hstart : ∀ {J}, Triple (Smooth (Listed listing)) (startRollout lib v.cluster) (fun _ => Smooth (Listed listing))
      fun _ => Barring J := by
    intro J
    refine read_smooth fun w => ?_
    refine Triple.ite (fun _ => ?_) fun _ => Triple.pure fun _ hs => hs
    exact (patchStatus_smooth fun _ h _ => h).conseq (fun _ h => h) (fun _ _ h => h.2) fun _ _ h => h
  refine ensureDeployment_one hnew hone hstart
    (Triple.each (I := Smooth (Listed listing)) fun o _ => callOr_smooth fun _ h _ => h) fun cluster => ?_
  exact Triple.bind (checkPods_reports hunavailable herr) fun _ => ⟨fun _ h => h.elim⟩

end

/-- **The reported error is the newest one.** The error of the newest pod with a terminated container is stored in
whatever order the pods are listed, exactly when no pod has another error to report. -/
theorem pod_error_newest_iff (lib : Libraries) (v : Validated) (deployments : List Deployment)
    (newDeployment : DeploymentApply) (cached : Deployment)
    (hnew : v.config.deployment lib v.migrationHash v.secretHash = .ok newDeployment)
    (hone : deployments.filter (annotationAt ·.annotations configKey = lib.hashDeployment newDeployment) = [cached])
    (hunavailable : 0 < cached.status.unavailableReplicas) (w : World) (answers : List Answer)
    (hok : ∀ listing : List Pod, listing.Perm w.cache.deploymentPods →
      Succeeds (ensureDeployment lib v deployments) { world := { w with cache.deploymentPods := listing }, answers })
    (hdistinct : (w.cache.deploymentPods.map Pod.creationTimestamp).Nodup)
    (hsome : ∃ p ∈ w.cache.deploymentPods, (firstTermination p).isSome) :
    ∃ newest message, NewestError w.cache.deploymentPods newest message ∧
      ((∀ listing : List Pod, listing.Perm w.cache.deploymentPods →
        PodErrorStored lib message
          (exec (ensureDeployment lib v deployments)
            { world := { w with cache.deploymentPods := listing }, answers }).2.world) ↔
        ∀ p ∈ w.cache.deploymentPods, ∀ m, firstTermination p = some m → m = message) := by
  obtain ⟨newest, message, hnewest⟩ := exists_newestError hdistinct hsome
  refine ⟨newest, message, hnewest, ?_⟩
  have hstored : ∀ {listing : List Pod} {m : String}, listing.Perm w.cache.deploymentPods → podError listing = some m →
      PodErrorStored lib m (exec (ensureDeployment lib v deployments)
        { world := { w with cache.deploymentPods := listing }, answers }).2.world :=
    fun hperm herr =>
      ((ensureDeployment_reports hnew hone hunavailable herr).conseq (fun _ h => h) (fun _ _ h => h.elim)
      fun _ _ h => h).always ⟨rfl, rfl⟩ (hok _ hperm)
  rw [← podError_every_order_iff hnewest.mem hnewest.error]
  refine forall₂_congr fun listing hperm => ⟨fun h => ?_, hstored hperm⟩
  obtain ⟨-, -, m, -, hreported⟩ := podError_of_mem (hperm.mem_iff.2 hnewest.mem) hnewest.error
  rw [hreported, h.unique (hstored hperm hreported)]

/-! ## Two pods -/

/-- The current deployment of the small cluster, short of one replica. -/
def unavailableDeployment : Deployment := { currentDeployment with status := { unavailableReplicas := 1 } }

/-- A pod that was terminated once. -/
def terminatedPod (created : Nat) (message : String) : Pod :=
  { name := "pod", creationTimestamp := created, lastTerminations := [some message] }

def withPods (pods : List Pod) : Session :=
  let w := smallWorld UpdateGraph.twoReleases ""
  { world := { w with cache := { w.cache with deploymentPods := pods } } }

/-- The condition a run with these pods leaves. -/
def reportedAfter (pods : List Pod) : Option (String × String) :=
  ((exec (ensureDeployment plain smallValidated [unavailableDeployment]) (withPods pods)).2.world.api.cluster
    |>.findStatusCondition plain Condition.typeRolloutError).map fun c => (c.reason, c.message)

theorem older_error_reported :
    reportedAfter [terminatedPod 1 "older", terminatedPod 2 "newer"] = some ("PodError", "older") ∧
    reportedAfter [terminatedPod 2 "newer", terminatedPod 1 "older"] = some ("PodError", "newer") := by
  decide

def healthyAndTerminated : List Pod := [{ name := "pod", creationTimestamp := 1 }, terminatedPod 2 "newer"]

theorem only_error_reported : ∃ newest message, NewestError healthyAndTerminated newest message ∧
    ∀ listing : List Pod, listing.Perm healthyAndTerminated →
      PodErrorStored plain message
        (exec (ensureDeployment plain smallValidated [unavailableDeployment]) (withPods listing)).2.world := by
  obtain ⟨d, hd, hintact⟩ := Config.deployment_intact plain smallValidated.config "m" "s"
  have hhash : plain.hashDeployment d = "m" := congrArg (Option.getD · "") hintact.annotated
  have hok : ∀ listing ∈ healthyAndTerminated.permutations',
      Succeeds (ensureDeployment plain smallValidated [unavailableDeployment]) (withPods listing) := by decide
  obtain ⟨newest, message, hnewest, hiff⟩ := pod_error_newest_iff plain smallValidated [unavailableDeployment] d
    unavailableDeployment hd (by rw [hhash]; rfl) (by decide) (withPods healthyAndTerminated).world []
    (fun listing hperm => hok listing (List.mem_permutations'.2 hperm)) (by decide)
      ⟨terminatedPod 2 "newer", by simp [withPods, healthyAndTerminated], rfl⟩
  refine ⟨newest, message, hnewest, hiff.2 fun p hp m hm => ?_⟩
  -- one pod has an error
  have honly : ∀ q ∈ healthyAndTerminated, ∀ m, firstTermination q = some m → m = "newer" := by
    intro q hq m hm
    rcases List.mem_pair.1 hq with rfl | rfl
    · cases hm
    · exact (Option.some.inj hm).symm
  rw [honly p hp m hm, honly newest hnewest.mem message hnewest.error]

end SpiceDBOperator
