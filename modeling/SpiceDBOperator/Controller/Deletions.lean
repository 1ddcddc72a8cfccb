import SpiceDBOperator.Config.Patched
import SpiceDBOperator.Controller.Plain

/-!
# What a reconcile deletes

`DeploymentHandler` and `MigrationRunHandler` delete the objects that do not carry their hash, and `JobCleanupHandler`
the pods of jobs that are gone. Each of them walks over a listing; here is what it asks the API server to delete, call
by call, when no call fails.

An object without annotations is put among the extra ones twice (ensure_deployment.go:58, run_migration.go:43), so it
is deleted twice (`deletions_exact_iff`). The walk over the pods ends at the first pod whose job still exists
(cleanup_job.go:62), so the pods behind it stay (`cleanup_deletes_orphans_iff`).
-/

namespace SpiceDBOperator

open Golang Hoare Metadata Handler

/-- The deletions a handler asks for. -/
def newRequests {α : Type} (m : Handler α) (s : Session) : List Request :=
  (exec m s).2.world.requests.drop s.world.requests.length

/-! ## Rules -/

def Sent (R : List Request) (w : World) : Prop := w.requests = R

section

variable {R X : List Request} {J : World → Prop} {E : Stop → Session → Prop}

theorem newRequests_eq {α : Type} {m : Handler α} {P : Session → Prop} {s : Session}
    (h : Triple P m (fun _ => Barring (Sent (s.world.requests ++ X))) (fun _ => Barring (Sent (s.world.requests ++ X))))
    (hs : P s) (hok : Succeeds m s) : newRequests m s = X := by
  have hsent : (exec m s).2.world.requests = s.world.requests ++ X := h.always hs hok
  rw [newRequests, hsent, List.drop_left]

/-- A loop sends what its rounds send. -/
theorem each_sends {α : Type} {xs : List α} {body : α → Handler Unit} {sent : α → List Request}
    (h : ∀ x R, Triple (Smooth (Sent R)) (body x) (fun _ => Smooth (Sent (R ++ sent x))) E) :
    Triple (Smooth (Sent R)) (each xs body) (fun _ => Smooth (Sent (R ++ xs.flatMap sent))) E := by
  induction xs generalizing R with
  | nil => exact Triple.pure fun _ hs => by simpa using hs
  | cons x rest ih =>
    refine Triple.bind (h x R) fun _ => ?_
    rw [List.flatMap_cons, ← List.append_assoc]
    exact ih

theorem callOr_sends {failed : String → QueueOp} {x : Call} {r : Request}
    (h : ∀ w : World, (w.perform x).requests = w.requests ++ [r]) :
    Triple (Smooth (Sent R)) (callOr failed x) (fun _ => Smooth (Sent (R ++ [r]))) (fun _ => Barring J) := by
  refine callOr_smooth fun w hw _ => ?_
  rw [Sent, h, hw]

/-- A status patch deletes nothing. -/
theorem patchStatus_sends {sender : Sender} {failed : String → QueueOp} {patch : SpiceDBCluster} :
    Triple (At (Sent R)) (patchStatus sender failed patch) (fun _ => At (Sent R)) (fun _ => At (Sent R)) :=
  (patchStatus_at (fun _ h => h) (fun _ h => h) fun _ h => h).conseq (fun _ h => h) (fun _ _ h => h.2) fun _ _ h => h

theorem patchStatus_sends_smooth {sender : Sender} {failed : String → QueueOp} {patch : SpiceDBCluster} :
    Triple (Smooth (Sent R)) (patchStatus sender failed patch) (fun _ => Smooth (Sent R)) (fun _ => Barring J) :=
  (patchStatus_smooth fun _ h _ => h).conseq (fun _ h => h) (fun _ _ h => h.2) fun _ _ h => h

end

/-! ## Extra objects -/

section

variable {α : Type} {annotations : α → Option (GoMap String)} {key hash : String}

theorem partitionObjs_matching (objs : List α) :
    (partitionObjs annotations key hash objs).1 = objs.filter fun o => annotationAt (annotations o) key = hash := by
  induction objs with
  | nil => rfl
  | cons o rest ih =>
    by_cases hmatch : annotationAt (annotations o) key = hash
    · simp [partitionObjs, hmatch, ih]
    · simp [partitionObjs, hmatch, ih]

/-- How often an object is put among the extra ones. -/
def extraTimes (annotations : Option (GoMap String)) (key hash : String) : Nat :=
  (if annotations.isNone then 1 else 0) + if annotationAt annotations key = hash then 0 else 1

theorem partitionObjs_extra (objs : List α) :
    (partitionObjs annotations key hash objs).2 =
      objs.flatMap fun o => List.replicate (extraTimes (annotations o) key hash) o := by
  induction objs with
  | nil => rfl
  | cons o rest ih =>
    by_cases hmatch : annotationAt (annotations o) key = hash <;> cases hann : annotations o <;>
      simp_all [partitionObjs, extraTimes, List.replicate_succ]

theorem extraTimes_eq_iff {ann : Option (GoMap String)} :
    (extraTimes ann key hash = if annotationAt ann key = hash then 0 else 1) ↔ ann ≠ none := by
  cases ann <;> simp [extraTimes]

/-- Among objects with names of their own, the requests for an object are those made for it. -/
theorem count_replicated {nameOf : α → String} {req : String → Request} (hreq : Function.Injective req)
    {times : α → Nat} {objs : List α} (hnames : (objs.map nameOf).Nodup) {o : α} (ho : o ∈ objs) :
    ((objs.flatMap fun o => List.replicate (times o) o).map fun o => req (nameOf o)).count (req (nameOf o)) =
      times o := by
  have hcount : ∀ x : α, ((List.replicate (times x) x).map fun o => req (nameOf o)).count (req (nameOf o)) =
      if nameOf x = nameOf o then times x else 0 := by
    intro x
    simp [List.count_replicate, hreq.eq_iff]
  induction objs with
  | nil => cases ho
  | cons x rest ih =>
    rw [List.map_cons, List.nodup_cons] at hnames
    rw [List.flatMap_cons, List.map_append, List.count_append, hcount]
    rcases List.mem_cons.1 ho with rfl | hrest
    · -- no other object has this name
      have hother : ((rest.flatMap fun o => List.replicate (times o) o).map fun o => req (nameOf o)).count
          (req (nameOf o)) = 0 := by
        refine List.count_eq_zero.2 fun hmem => hnames.1 ?_
        obtain ⟨y, hy, heq⟩ := List.mem_map.1 hmem
        obtain ⟨z, hz, hyz⟩ := List.mem_flatMap.1 hy
        rw [List.eq_of_mem_replicate hyz] at heq
        exact List.mem_map.2 ⟨z, hz, hreq heq⟩
      rw [if_pos rfl, hother, Nat.add_zero]
    · have hne : nameOf x ≠ nameOf o := fun heq => hnames.1 (List.mem_map.2 ⟨o, hrest, heq.symm⟩)
      rw [if_neg hne, Nat.zero_add, ih hnames.2 hrest]

/-- The requests for the extra objects. -/
def extraRequests (req : String → Request) (nameOf : α → String) (annotations : α → Option (GoMap String))
    (key hash : String) (objs : List α) : List Request :=
  (partitionObjs annotations key hash objs).2.map fun o => req (nameOf o)

theorem extraRequests_exact_iff {nameOf : α → String} {req : String → Request} (hreq : Function.Injective req)
    {objs : List α} (hnames : (objs.map nameOf).Nodup) :
    (∀ o ∈ objs, (extraRequests req nameOf annotations key hash objs).count (req (nameOf o)) =
        if annotationAt (annotations o) key = hash then 0 else 1) ↔
      ∀ o ∈ objs, annotations o ≠ none := by
  refine forall₂_congr fun o ho => ?_
  rw [extraRequests, partitionObjs_extra, count_replicated hreq hnames ho]
  exact extraTimes_eq_iff

end

/-! ## Deployments and jobs -/

section

variable {lib : Libraries} {v : Validated} {R : List Request} {J : World → Prop}

theorem startRollout_sends {c : SpiceDBCluster} :
    Triple (Smooth (Sent R)) (startRollout lib c) (fun _ => Smooth (Sent R)) (fun _ => Barring J) := by
  refine read_smooth fun w => ?_
  exact Triple.ite (fun _ => patchStatus_sends_smooth) fun _ => Triple.pure fun _ hs => hs

theorem checkPods_sends {c : SpiceDBCluster} {d : Deployment} :
    Triple (At (Sent R)) (checkPods lib c d) (fun _ => At (Sent R)) (fun _ => At (Sent R)) := by
  refine read_at fun w => Triple.ite (fun _ => ?_) fun _ => Triple.pure fun _ hs => hs
  cases podError w.cache.deploymentPods with
  | none => exact Triple.pure fun _ hs => hs
  | some message => exact Triple.bind patchStatus_sends fun _ => queue_at fun _ h => h

theorem finishRollout_sends {d : Deployment} :
    Triple (At (Sent R)) (finishRollout lib v d) (fun _ => At (Sent R)) (fun _ => At (Sent R)) := by
  refine read_at fun w => Triple.ite (fun _ => ?_) fun _ => ?_
  · exact Triple.bind patchStatus_sends fun _ => queue_at fun _ h => h
  · refine Triple.bind (record_at (B := Sent R) fun _ h => h) fun _ => Triple.ite (fun _ => ?_) fun _ => ?_
    · exact Triple.bind patchStatus_sends fun _ => Triple.pure fun _ hs => hs
    · exact Triple.pure fun _ hs => hs

/-- The rule for one matching deployment: start the rollout, delete the extra deployments, look at the matching one. -/
theorem ensureDeployment_one {deployments : List Deployment} {newDeployment : DeploymentApply} {cached : Deployment}
    (hnew : v.config.deployment lib v.migrationHash v.secretHash = .ok newDeployment)
    (hone : deployments.filter (annotationAt ·.annotations configKey = lib.hashDeployment newDeployment) = [cached])
    {A B : World → Prop} {Q : Deployment → Session → Prop} {E : Stop → Session → Prop}
    (hstart : Triple (Smooth A) (startRollout lib v.cluster) (fun _ => Smooth A) E)
    (hextra : Triple (Smooth A)
      (each (partitionObjs Deployment.annotations configKey (lib.hashDeployment newDeployment) deployments).2 fun o =>
        callOr .requeueAPIErr (.deleteDeployment o.name)) (fun _ => Smooth B) E)
    (hrest : ∀ cluster, Triple (Smooth B)
      (do
        checkPods lib cluster cached
        finishRollout lib { v with cluster } cached
        pure cached) Q E) :
    Triple (Smooth A) (ensureDeployment lib v deployments) Q E := by
  refine Triple.bind hstart fun cluster => ?_
  dsimp only
  rw [hnew]
  refine Triple.bind lift_smooth fun d => Triple.assume ?_
  rintro rfl
  rcases hparts : partitionObjs Deployment.annotations configKey (lib.hashDeployment d) deployments with
    ⟨matchingObjs, extraObjs⟩
  obtain rfl : matchingObjs = [cached] := by
    rw [← hone, ← partitionObjs_matching, hparts]
  rw [hparts] at hextra
  exact Triple.bind hextra fun _ => hrest cluster

/-- With one matching deployment, the handler deletes the extra ones, however it ends. -/
theorem ensureDeployment_sends {deployments : List Deployment} {newDeployment : DeploymentApply} {cached : Deployment}
    (hnew : v.config.deployment lib v.migrationHash v.secretHash = .ok newDeployment)
    (hone : deployments.filter (annotationAt ·.annotations configKey = lib.hashDeployment newDeployment) = [cached]) :
    Triple (Smooth (Sent R)) (ensureDeployment lib v deployments)
      (fun _ => Barring (Sent (R ++ extraRequests .deleteDeployment Deployment.name Deployment.annotations configKey
        (lib.hashDeployment newDeployment) deployments)))
      (fun _ => Barring (Sent (R ++ extraRequests .deleteDeployment Deployment.name Deployment.annotations configKey
        (lib.hashDeployment newDeployment) deployments))) := by
  rw [extraRequests, List.map_eq_flatMap]
  refine ensureDeployment_one hnew hone startRollout_sends (each_sends fun o R => callOr_sends fun _ => rfl)
    fun cluster => ?_
  -- what comes after the deletions does not matter
  refine Triple.conseq (Triple.bind (checkPods_sends.pre fun _ hs => hs.2) fun _ => ?_) (fun _ hs => hs)
    (fun _ _ hs _ => hs) fun _ _ hs _ => hs
  exact Triple.bind finishRollout_sends fun _ => Triple.pure fun _ hs => hs

theorem runMigration_sends {jobs : List Job} :
    Triple (Smooth (Sent R)) (runMigration lib v jobs)
      (fun _ => Barring (Sent (R ++ extraRequests .deleteJob Job.name Job.annotations migrationRequirementsKey
        v.migrationHash jobs)))
      (fun _ => Barring (Sent (R ++ extraRequests .deleteJob Job.name Job.annotations migrationRequirementsKey
        v.migrationHash jobs))) := by
  obtain ⟨job, hjob, howned, -⟩ := Config.migrationJob_owned lib v.config v.migrationHash
  refine read_smooth fun w => ?_
  refine Triple.bind patchStatus_sends_smooth fun cluster => ?_
  rcases hparts : partitionObjs Job.annotations migrationRequirementsKey v.migrationHash jobs with
    ⟨matchingObjs, extraObjs⟩
  dsimp only
  rw [extraRequests, hparts, List.map_eq_flatMap]
  refine Triple.ite_join ?_ fun _ hrest => ?_
  · refine Triple.bind (each_sends fun o R => callOr_sends fun _ => rfl) fun _ => ?_
    cases matchingObjs with
    | nil => exact Triple.stop fun _ hs _ => hs.2
    | cons job _ => exact Triple.pure fun _ hs _ => hs.2
  · rw [hjob]
    refine Triple.bind lift_smooth fun job' => Triple.assume ?_
    rintro rfl
    rw [howned.1]
    refine Triple.bind lift_smooth fun name => Triple.assume fun _ => ?_
    exact Triple.bind (callOr_smooth fun _ h _ => h) fun _ => hrest

end

/-- **The extra objects are deleted once each.** For deployments and for jobs, exactly when every object that is listed
has annotations. -/
theorem deletions_exact_iff (lib : Libraries) (v : Validated) (w : World) (answers : List Answer) :
    (∀ (deployments : List Deployment) (newDeployment : DeploymentApply) (cached : Deployment),
      (deployments.map Deployment.name).Nodup →
      v.config.deployment lib v.migrationHash v.secretHash = .ok newDeployment →
      deployments.filter (annotationAt ·.annotations configKey = lib.hashDeployment newDeployment) = [cached] →
      Succeeds (ensureDeployment lib v deployments) { world := w, answers } →
      ((∀ o ∈ deployments,
          (newRequests (ensureDeployment lib v deployments) { world := w, answers }).count (.deleteDeployment o.name) =
            if annotationAt o.annotations configKey = lib.hashDeployment newDeployment then 0 else 1) ↔
        ∀ o ∈ deployments, o.annotations ≠ none)) ∧
    ∀ jobs : List Job, (jobs.map Job.name).Nodup → Succeeds (runMigration lib v jobs) { world := w, answers } →
      ((∀ o ∈ jobs, (newRequests (runMigration lib v jobs) { world := w, answers }).count (.deleteJob o.name) =
          if annotationAt o.annotations migrationRequirementsKey = v.migrationHash then 0 else 1) ↔
        ∀ o ∈ jobs, o.annotations ≠ none) := by
  constructor
  · intro deployments newDeployment cached hnames hnew hone hok
    rw [newRequests_eq (ensureDeployment_sends hnew hone) ⟨rfl, rfl⟩ hok]
    exact extraRequests_exact_iff (fun _ _ h => Request.deleteDeployment.inj h) hnames
  · intro jobs hnames hok
    rw [newRequests_eq runMigration_sends ⟨rfl, rfl⟩ hok]
    exact extraRequests_exact_iff (fun _ _ h => Request.deleteJob.inj h) hnames

def smallValidated : Validated where
  cluster := (smallWorld UpdateGraph.twoReleases "").cache.cluster
  config :=
    { migration := {}, spice := { name := "small", nameSpace := "test" }, patches := [], patchMeta := plainResolver }
  migrationHash := "m"
  secretHash := "s"

def smallSession : Session := { world := smallWorld UpdateGraph.twoReleases "" }

/-- The plain hash of a deployment is its migration annotation. -/
def currentDeployment : Deployment := { name := smallDeployment, annotations := some (mapOf [(configKey, "m")]) }

theorem unannotated_deleted_twice :
    newRequests (ensureDeployment plain smallValidated [currentDeployment, { name := "old" }]) smallSession =
      [.deleteDeployment "old", .deleteDeployment "old"] ∧
    newRequests (runMigration plain smallValidated [{ name := "old" }]) smallSession =
      [.deleteJob "old", .deleteJob "old"] := by
  decide

theorem annotated_deleted_once :
    (∃ newDeployment, smallValidated.config.deployment plain "m" "s" = .ok newDeployment ∧
      ∀ o ∈ [currentDeployment, { name := "old", annotations := some ∅ }],
        (newRequests (ensureDeployment plain smallValidated
          [currentDeployment, { name := "old", annotations := some ∅ }])
          smallSession).count (.deleteDeployment o.name) =
            if annotationAt o.annotations configKey = plain.hashDeployment newDeployment then 0 else 1) ∧
    ∀ o ∈ [{ name := "old", annotations := some ∅ : Job }],
      (newRequests (runMigration plain smallValidated [{ name := "old", annotations := some ∅ }]) smallSession).count
        (.deleteJob o.name) = if annotationAt o.annotations migrationRequirementsKey = "m" then 0 else 1 := by
  obtain ⟨d, hd, hintact⟩ := Config.deployment_intact plain smallValidated.config "m" "s"
  have hhash : plain.hashDeployment d = "m" := congrArg (Option.getD · "") hintact.annotated
  obtain ⟨hdeployments, hjobs⟩ := deletions_exact_iff plain smallValidated smallSession.world []
  refine ⟨⟨d, hd, ?_⟩, ?_⟩
  · refine (hdeployments _ d currentDeployment (by decide) hd ?_ (by decide)).2 (by decide)
    rw [hhash]
    rfl
  · exact (hjobs _ (by decide) (by decide)).2 (by decide)

/-! ## Pods of migration jobs -/

/-- The job a pod was made for. -/
def jobNameOf (p : Pod) : Option String := p.labels.bind (·.lookup "job-name")

/-- The pod of a job that is listed. -/
def Attended (jobs : List Job) (p : Pod) : Prop := ∃ name, jobNameOf p = some name ∧ name ∈ jobs.map Job.name

/-- The pod of a job that is gone. -/
def Orphaned (jobs : List Job) (p : Pod) : Prop := ∃ name, jobNameOf p = some name ∧ name ∉ jobs.map Job.name

section

variable {deployment : Deployment} {jobs : List Job} {pods : List Pod} {R : List Request} {J : World → Prop}

/-- The walk over the pods. -/
def podRequests (jobNames : List String) : List Pod → List Request
  | [] => []
  | p :: rest =>
    match jobNameOf p with
    | none => podRequests jobNames rest
    | some name => if name ∈ jobNames then [] else .deletePod p.name :: podRequests jobNames rest

theorem cleanupPods_sends {jobNames : List String} :
    Triple (Smooth (Sent R)) (cleanupPods jobNames pods) (fun _ => Barring (Sent (R ++ podRequests jobNames pods)))
      (fun _ => Barring (Sent (R ++ podRequests jobNames pods))) := by
  induction pods generalizing R with
  | nil => exact Triple.pure fun _ hs _ => (List.append_nil R).symm ▸ hs.2
  | cons p rest ih =>
    rw [cleanupPods, each, podRequests, ← jobNameOf]
    cases jobNameOf p with
    | none => exact Triple.bind (Triple.pure fun _ hs => hs) fun _ => ih
    | some name =>
      dsimp only
      by_cases hlisted : name ∈ jobNames
      · rw [if_pos hlisted, if_pos hlisted, List.append_nil]
        exact Triple.bind (Triple.stop (Q := fun _ _ => False) fun _ hs _ => hs.2) fun _ => ⟨fun _ h => h.elim⟩
      · rw [if_neg hlisted, if_neg hlisted, List.append_cons]
        exact Triple.bind (callOr_sends fun _ => rfl) fun _ => ih

theorem deletePod_mem_podRequests {jobNames : List String} {name : String}
    (h : .deletePod name ∈ podRequests jobNames pods) :
    ∃ p ∈ pods, (∃ job, jobNameOf p = some job ∧ job ∉ jobNames) ∧ p.name = name := by
  induction pods with
  | nil => cases h
  | cons p rest ih =>
    rw [podRequests] at h
    split at h
    · obtain ⟨q, hq, hrest⟩ := ih h
      exact ⟨q, List.mem_cons_of_mem _ hq, hrest⟩
    · next job hjob =>
      split at h
      · cases h
      · next hgone =>
        rcases List.mem_cons.1 h with heq | h
        · exact ⟨p, List.mem_cons_self .., ⟨job, hjob, hgone⟩, (Request.deletePod.inj heq).symm⟩
        · obtain ⟨q, hq, hrest⟩ := ih h
          exact ⟨q, List.mem_cons_of_mem _ hq, hrest⟩

/-- With no pod to stop at, the walk reaches every orphan. -/
theorem podRequests_of_unattended (h : ∀ p ∈ pods, ¬Attended jobs p) {p : Pod} (hp : p ∈ pods)
    (horphaned : Orphaned jobs p) : .deletePod p.name ∈ podRequests (jobs.map Job.name) pods := by
  induction pods with
  | nil => cases hp
  | cons q rest ih =>
    have hrest := ih fun r hr => h r (List.mem_cons_of_mem _ hr)
    rw [podRequests]
    cases hjob : jobNameOf q with
    | none =>
      rcases List.mem_cons.1 hp with rfl | hp
      · obtain ⟨job, hsome, -⟩ := horphaned
        rw [hjob] at hsome
        cases hsome
      · exact hrest hp
    | some job =>
      have hgone : job ∉ jobs.map Job.name := fun hlisted => h q (List.mem_cons_self ..) ⟨job, hjob, hlisted⟩
      dsimp only
      rw [if_neg hgone]
      rcases List.mem_cons.1 hp with rfl | hp
      · exact List.mem_cons_self ..
      · exact List.mem_cons_of_mem _ (hrest hp)

theorem podRequests_of_attended {p : Pod} (h : Attended jobs p) :
    podRequests (jobs.map Job.name) (p :: pods) = [] := by
  obtain ⟨job, hjob, hlisted⟩ := h
  rw [podRequests, hjob]
  exact if_pos hlisted

/-- A finished job of the deployment. -/
def Finished (deployment : Deployment) (j : Job) : Prop :=
  j.annotations.isSome ∧
    annotationAt j.annotations migrationRequirementsKey = annotationAt deployment.annotations migrationRequirementsKey ∧
    jobConditionHasStatus j .complete .true

instance (deployment : Deployment) (j : Job) : Decidable (Finished deployment j) := inferInstanceAs (Decidable (_ ∧ _))

def jobRequests (deployment : Deployment) (jobs : List Job) : List Request :=
  jobs.flatMap fun j => if Finished deployment j then [.deleteJob j.name] else []

theorem cleanupJobs_sends :
    Triple (Smooth (Sent R)) (cleanupJobs deployment jobs) (fun _ => Smooth (Sent (R ++ jobRequests deployment jobs)))
      (fun _ => Barring J) := by
  refine each_sends fun j R => ?_
  by_cases hfinished : Finished deployment j
  · rw [if_pos hfinished]
    refine (if_pos hfinished).symm ▸ callOr_sends fun _ => rfl
  · rw [if_neg hfinished, List.append_nil]
    exact (if_neg hfinished).symm ▸ Triple.pure fun _ hs => hs

/-- None of its calls is one that the API server refuses. -/
theorem cleanupJob_succeeds (deployment : Deployment) (w : World) {answers : List Answer}
    (hok : ∀ a ∈ answers, a = .ok) :
    Succeeds (cleanupJob deployment) { world := w, answers } := by
  have hcall : ∀ {x : Call}, (∀ w : World, w.refusal x = none) → Triple (Served fun _ => True)
      (callOr .requeueAPIErr x) (fun _ => Served fun _ => True) fun _ s => s.failures = [] :=
    fun hrefusal => callOr_served (fun w _ => hrefusal w) fun _ _ => trivial
  have hstop : ∀ {α : Type} {op : QueueOp} {Q : α → Session → Prop}, Triple (Served fun _ => True) (queue op) Q
      fun _ s => s.failures = [] := Triple.stop fun _ hs => hs.2.1
  have hcleanup : Triple (Served fun _ => True) (cleanupJob deployment) (fun _ s => s.failures = [])
      fun _ s => s.failures = [] := by
    refine look_served fun w' _ => Triple.pre (Triple.ite (fun _ => ?_) fun _ => hstop) fun _ hs =>
      ⟨hs.1, hs.2.1, trivial⟩
    refine Triple.bind (Triple.each fun j _ => Triple.ite (fun _ => hcall fun _ => rfl) fun _ =>
      Triple.pure fun _ hs => hs) fun _ => Triple.bind (Triple.each fun p _ => ?_) fun _ => hstop
    cases p.labels.bind (·.lookup "job-name") with
    | none => exact Triple.pure fun _ hs => hs
    | some job => exact Triple.ite (fun _ => hstop) fun _ => hcall fun _ => rfl
  exact hcleanup.always ⟨hok, rfl, trivial⟩

theorem newRequests_cleanupJob (hann : deployment.annotations ≠ none) {w : World} {answers : List Answer}
    (hok : ∀ a ∈ answers, a = .ok) :
    newRequests (cleanupJob deployment) { world := w, answers } = jobRequests deployment w.cache.jobs ++
      podRequests (w.cache.jobs.map Job.name) w.cache.jobPods := by
  refine newRequests_eq (P := Smooth fun w' => w' = w) (look_smooth fun w' hw' => ?_) ⟨rfl, rfl⟩
    (cleanupJob_succeeds deployment w hok)
  subst hw'
  refine Triple.pre (Triple.ite (fun _ => ?_) fun hnone => ?_ : Triple (Smooth (Sent w'.requests)) _ _ _)
    fun s' hs => ⟨hs.1, congrArg World.requests hs.2⟩
  · refine Triple.bind cleanupJobs_sends fun _ => ?_
    rw [← List.append_assoc]
    exact Triple.bind cleanupPods_sends fun _ => Triple.stop fun _ hs => hs
  · -- neither jobs nor pods
    have hempty : w'.cache.jobs.length + w'.cache.jobPods.length = 0 := by
      by_contra hpos
      exact hnone ⟨Option.isSome_iff_ne_none.2 hann, Nat.pos_of_ne_zero hpos⟩
    obtain ⟨hjobs, hpods⟩ := Nat.add_eq_zero_iff.1 hempty
    rw [List.length_eq_zero_iff.1 hjobs, List.length_eq_zero_iff.1 hpods]
    exact Triple.stop fun _ hs _ => (List.append_nil _).symm ▸ hs.2

theorem deletePod_mem_newRequests {w : World} {answers : List Answer} (hann : deployment.annotations ≠ none)
    (hok : ∀ a ∈ answers, a = .ok) {name : String} :
    .deletePod name ∈ newRequests (cleanupJob deployment) { world := w, answers } ↔
      .deletePod name ∈ podRequests (w.cache.jobs.map Job.name) w.cache.jobPods := by
  rw [newRequests_cleanupJob hann hok, List.mem_append, or_iff_right]
  intro h
  obtain ⟨j, -, hj⟩ := List.mem_flatMap.1 h
  split at hj
  · cases List.mem_singleton.1 hj
  · cases hj

end

/-- **Which pods a cleanup deletes.** It deletes the pods of the jobs that are gone, in whatever order the pods are
listed, exactly when the listing does not mix them with pods of jobs that are still there. -/
theorem cleanup_deletes_orphans_iff (deployment : Deployment) (hann : deployment.annotations ≠ none) (w : World)
    (answers : List Answer) (hok : ∀ a ∈ answers, a = .ok) :
    (∀ listing : List Pod, listing.Perm w.cache.jobPods → ∀ name,
      .deletePod name ∈ newRequests (cleanupJob deployment) { world := { w with cache.jobPods := listing }, answers } ↔
        ∃ p ∈ w.cache.jobPods, Orphaned w.cache.jobs p ∧ p.name = name) ↔
      (∀ p ∈ w.cache.jobPods, ¬Attended w.cache.jobs p) ∨ ∀ p ∈ w.cache.jobPods, ¬Orphaned w.cache.jobs p := by
  have hwalk : ∀ (listing : List Pod) (name : String),
      .deletePod name ∈ newRequests (cleanupJob deployment) { world := { w with cache.jobPods := listing }, answers } ↔
        .deletePod name ∈ podRequests (w.cache.jobs.map Job.name) listing :=
    fun _ _ => deletePod_mem_newRequests hann hok
  simp only [hwalk]
  constructor
  · -- list a pod of an existing job first
    intro hall
    by_contra hmixed
    push Not at hmixed
    obtain ⟨⟨p, hp, hattended⟩, q, hq, horphaned⟩ := hmixed
    obtain ⟨before, after, hsplit⟩ := List.append_of_mem hp
    have hperm : (p :: (before ++ after)).Perm w.cache.jobPods := hsplit ▸ List.perm_middle.symm
    have hdeleted := (hall _ hperm q.name).2 ⟨q, hq, horphaned, rfl⟩
    rw [podRequests_of_attended hattended] at hdeleted
    cases hdeleted
  · intro h listing hperm name
    constructor
    · intro hdeleted
      obtain ⟨p, hp, horphaned, hname⟩ := deletePod_mem_podRequests hdeleted
      exact ⟨p, hperm.mem_iff.1 hp, horphaned, hname⟩
    · rintro ⟨p, hp, horphaned, rfl⟩
      rcases h with hnone | hnone
      · exact podRequests_of_unattended (fun q hq => hnone q (hperm.mem_iff.1 hq)) (hperm.mem_iff.2 hp) horphaned
      · exact absurd horphaned (hnone p hp)

/-- The pod of a job. -/
def podOf (name job : String) : Pod := { name, labels := some (mapOf [("job-name", job)]) }

/-- A failed job with its pod, and a pod left behind. -/
def withFailedJob (pods : List Pod) : Session :=
  let failed : Job := { name := "failed", annotations := some ∅ }
  let w := smallWorld UpdateGraph.twoReleases ""
  { world := { w with cache := { w.cache with jobs := [failed], jobPods := pods } } }

theorem attended_pod_shields_orphan :
    newRequests (cleanupJob currentDeployment) (withFailedJob [podOf "kept" "failed", podOf "left" "gone"]) = [] ∧
    newRequests (cleanupJob currentDeployment) (withFailedJob [podOf "left" "gone", podOf "kept" "failed"]) =
      [.deletePod "left"] := by
  decide

/-- Two pods left behind. -/
def leftPods : List Pod := [podOf "first" "gone", podOf "second" "lost"]

theorem leftPods_deleted_in_any_order : (∀ p ∈ leftPods, ¬Attended (withFailedJob leftPods).world.cache.jobs p) ∧
    ∀ listing : List Pod, listing.Perm leftPods → ∀ name,
      .deletePod name ∈ newRequests (cleanupJob currentDeployment) (withFailedJob listing) ↔
        ∃ p ∈ leftPods, Orphaned (withFailedJob leftPods).world.cache.jobs p ∧ p.name = name := by
  have hnone : ∀ p ∈ leftPods, ¬Attended (withFailedJob leftPods).world.cache.jobs p := by
    rintro p hp ⟨job, hjob, hlisted⟩
    obtain rfl : job = "failed" := List.mem_singleton.1 hlisted
    rcases List.mem_pair.1 hp with rfl | rfl
    · exact absurd hjob (by decide)
    · exact absurd hjob (by decide)
  exact ⟨hnone, (cleanup_deletes_orphans_iff currentDeployment (by decide) (withFailedJob leftPods).world []
    (by decide)).2 (Or.inl hnone)⟩

end SpiceDBOperator
