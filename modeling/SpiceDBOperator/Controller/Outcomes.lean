import SpiceDBOperator.Config.Settings
import SpiceDBOperator.Controller.Deletions

/-!
# How a reconcile ends

Every reconcile ends with an operation on the work queue. All but `Done` bring the cluster back by themselves, at once
or after a delay. After `Done` the cluster is looked at again only when an event comes, and changes of deployments, jobs
and pods bring none (Events.lean), so `Done` must mean that the operator waits for none of them.

It does (`done_means_quiescent`). The status that is left says that the cluster is paused, or why its spec or config is
rejected, or that its migration failed; or else the one current deployment is rolled out, the status says so, and what
was listed besides it is deleted. The proof goes along the chain, with an exit condition for `Done` alone.
-/

namespace SpiceDBOperator

open Golang Hoare Metadata Handler

/-! ## Rules -/

/-- `D` holds if the reconcile ends for good. -/
def AtDone (D : World → Prop) (stop : Stop) (s : Session) : Prop := stop = .queue .done → D s.world

section

variable {A B D : World → Prop} {P : Session → Prop} {failed : String → QueueOp}

/-- What comes back is no end for good. -/
theorem atDone_more {op : QueueOp} {s : Session} (hop : op ≠ .done) : AtDone D (.queue op) s :=
  fun hstop => absurd (Stop.queue.inj hstop) hop

theorem queue_more {α : Type} {op : QueueOp} {Q : α → Session → Prop} (hop : op ≠ .done) :
    Triple P (queue op) Q (AtDone D) :=
  Triple.stop fun _ _ => atDone_more hop

theorem queue_done {α : Type} {op : QueueOp} {Q : α → Session → Prop} (h : ∀ w, A w → D w) :
    Triple (At A) (queue op) Q (AtDone D) :=
  Triple.stop fun s hs _ => h s.world hs

theorem lift_done {α : Type} {x : Go α} :
    Triple (At A) (lift x) (fun a => At fun w => x = .ok a ∧ A w) (AtDone D) := by
  cases x with
  | ok a => exact Triple.pure fun _ hs => ⟨rfl, hs⟩
  | error f => exact Triple.stop fun _ _ hstop => nomatch hstop

/-- A call that failed comes back. -/
theorem callOr_done {x : Call} (hfailed : ∀ err, failed err ≠ .done) (h : ∀ w, A w → B (w.perform x)) :
    Triple (At A) (callOr failed x) (fun _ => At B) (AtDone D) := by
  refine Triple.bind (call_at h) fun err => ?_
  cases err with
  | none => exact Triple.pure fun _ hs => hs.resolve_right fun h => h.1 rfl
  | some err => exact queue_more (hfailed err)

theorem patchStatus_done {sender : Sender} {patch : SpiceDBCluster} {K : SpiceDBCluster → World → Prop}
    (hfailed : ∀ err, failed err ≠ .done) (h : ∀ w, A w → K (patched patch) (w.storeStatus (patched patch))) :
    Triple (At A) (patchStatus sender failed patch) (fun c => At (K c)) (AtDone D) := by
  refine Triple.bind (callOr_done hfailed h) fun _ => ?_
  exact Triple.pure fun _ hs => hs

end

/-! ## What is left behind -/

/-- The part of a status that decides about rollouts. -/
structure Bearing where
  core : Core
  migrating : Option Condition

def ClusterStatus.bearing (lib : Libraries) (s : ClusterStatus) : Bearing :=
  { core := s.core lib, migrating := lib.findStatusCondition s.conditions Condition.typeMigrating }

theorem bearing_iff {lib : Libraries} {s s' : ClusterStatus} : s'.bearing lib = s.bearing lib ↔
    (s'.currentVersion = s.currentVersion ∧ s'.targetMigrationHash = s.targetMigrationHash ∧
      s'.currentMigrationHash = s.currentMigrationHash ∧
      lib.isStatusConditionTrue s'.conditions Condition.typeRolling =
        lib.isStatusConditionTrue s.conditions Condition.typeRolling) ∧
    lib.findStatusCondition s'.conditions Condition.typeMigrating =
      lib.findStatusCondition s.conditions Condition.typeMigrating := by
  simp only [ClusterStatus.bearing, ClusterStatus.core, Bearing.mk.injEq, Core.mk.injEq]

section

variable {lib : Libraries} {c c' : SpiceDBCluster}

theorem rolloutInProgress_congr (h : c'.status.bearing lib = c.status.bearing lib) :
    c'.rolloutInProgress lib = c.rolloutInProgress lib := by
  obtain ⟨⟨-, htarget, hcurrent, hrolling⟩, hmigrating⟩ := bearing_iff.1 h
  simp only [SpiceDBCluster.rolloutInProgress, SpiceDBCluster.isStatusConditionTrue, hrolling, htarget, hcurrent]
  simp only [lib.isTrue_eq, hmigrating]

theorem bearing_set_of_ne (new : Condition) (hmigrating : new.type ≠ Condition.typeMigrating)
    (hrolling : new.type ≠ Condition.typeRolling) :
    (c.setStatusCondition lib new).status.bearing lib = c.status.bearing lib := by
  simp only [ClusterStatus.bearing, core_set_of_ne _ hrolling]
  exact congrArg _ (lib.findStatusCondition_set_of_ne _ _ hmigrating)

theorem bearing_remove_of_ne {type : String} (hmigrating : type ≠ Condition.typeMigrating)
    (hrolling : type ≠ Condition.typeRolling) :
    (c.removeStatusCondition lib type).status.bearing lib = c.status.bearing lib := by
  simp only [ClusterStatus.bearing, core_remove_of_ne _ hrolling]
  exact congrArg _ (lib.findStatusCondition_remove_of_ne _ hmigrating)

/-- Of the status, `NewConfig` reads the bearing. -/
theorem newConfig_bearing {globalConfig : OperatorConfig} {secrets : GoMap Secret}
    {resolver : PatchMetaResolver} {status : ClusterStatus} (h : status.bearing lib = c.status.bearing lib) :
    newConfig lib { c with status } globalConfig secrets resolver = newConfig lib c globalConfig secrets resolver := by
  refine newConfig_target c.status status ?_
  have hrolling : ({ c with status } : SpiceDBCluster).rolloutInProgress lib = c.rolloutInProgress lib :=
    rolloutInProgress_congr h
  simp only [OperatorConfig.targetOf, hrolling]
  rw [(bearing_iff.1 h).1.1]

end

/-- A reconcile that began in `w` has left `c.status`: it was stored, or it was there and nothing else was stored. -/
structure Leaves (w : World) (c : SpiceDBCluster) (w' : World) : Prop where
  object : ∃ status, c = { w.cache.cluster with status }
  status : c.status = w.cache.cluster.status ∨ c.status = w'.api.cluster.status
  cache : w'.cache = w.cache
  operatorConfig : w'.operatorConfig = w.operatorConfig

/-- The secrets a reconcile collects, and their hash. -/
def World.collected (w : World) : GoMap Secret := collectSecrets w.cache.secrets w.cache.cluster.spec

def World.secretHash (lib : Libraries) (w : World) : String :=
  secretHashOf lib w.collected w.cache.cluster.spec

/-- What `NewConfig` makes of the cached cluster. -/
def ConfigIs (lib : Libraries) (resolver : PatchMetaResolver) (w : World) (result : Except String Config) : Prop :=
  ∃ warning, newConfig lib w.cache.cluster w.operatorConfig w.collected resolver = .ok (result, warning)

/-- The status says that the config was rejected with this error. -/
def Rejects (lib : Libraries) (status : ClusterStatus) (secretHash err : String) : Prop :=
  ∃ c, lib.findStatusCondition status.conditions Condition.validatingFailed = some c ∧
    c.message = (Condition.newInvalidConfigCondition 0 secretHash err).message

/-- The deployment of the config is rolled out. -/
structure InPlace (lib : Libraries) (w : World) (status : ClusterStatus) (w' : World) (config : Config)
    (d : Deployment) : Prop where
  /-- It is the only one with the hash of what would be applied. -/
  current : ∃ newDeployment,
    config.deployment lib (lib.secureMigrationConfig config.migration) (w.secretHash lib) = .ok newDeployment ∧
    w.cache.deployments.filter (annotationAt ·.annotations configKey = lib.hashDeployment newDeployment) = [d] ∧
    -- the others are gone
    ∀ o ∈ w.cache.deployments, annotationAt o.annotations configKey ≠ lib.hashDeployment newDeployment →
      ∀ live ∈ w'.api.deployments, live.name ≠ o.name
  complete : deploymentRolloutComplete d (desiredDeploymentReplicas d config.spice.replicas) = true
  /-- The status says that the config is in place. -/
  version : SpiceDBVersion.equalsPtr status.currentVersion config.migration.spiceDBVersion = true
  target : status.targetMigrationHash = lib.secureMigrationConfig config.migration
  migrated : status.currentMigrationHash = status.targetMigrationHash
  migrating : lib.findStatusCondition status.conditions Condition.typeMigrating = none
  rolling : lib.isStatusConditionTrue status.conditions Condition.typeRolling = false
  rolloutError : lib.isStatusConditionTrue status.conditions Condition.typeRolloutError = false

/-- And nothing is left to do. -/
structure Deployed (lib : Libraries) (w : World) (status : ClusterStatus) (w' : World) (config : Config)
    (d : Deployment) : Prop extends InPlace lib w status w' config d where
  /-- Its finished migration job is gone. -/
  jobs : d.annotations.isSome → ∀ j ∈ w.cache.jobs, j.annotations.isSome →
    annotationAt j.annotations migrationRequirementsKey = annotationAt d.annotations migrationRequirementsKey →
    jobConditionHasStatus j .complete .true = true → ∀ live ∈ w'.api.jobs, live.name ≠ j.name
  /-- The pods of jobs are gone, with their jobs. -/
  pods : d.annotations.isSome → ∀ p ∈ w.cache.jobPods, ∀ jobName, p.labels.bind (·.lookup "job-name") = some jobName →
    jobName ∉ w.cache.jobs.map Job.name ∧ ∀ live ∈ w'.api.jobPods, live.name ≠ p.name

/-- Why a reconcile that began in `w` may end for good in `w'`, leaving this status. -/
inductive Quiescent (lib : Libraries) (resolver : PatchMetaResolver) (w : World) (status : ClusterStatus)
    (w' : World) : Prop
  | paused (hlabel : pausedControllerSelectorKey ∈ w.cache.cluster.labels)
      (hreported : (lib.findStatusCondition status.conditions typePaused).isSome)
  | invalidSpec (err : String) (herr : specError w.cache.cluster.spec = some err)
      (hreported : Rejects lib status "" err)
  | invalidConfig (err : String) (herr : ConfigIs lib resolver w (.error err))
      (hreported : Rejects lib status (w.secretHash lib) err)
  | migrationFailed (config : Config) (job : Job) (hconfig : ConfigIs lib resolver w (.ok config))
      (hmem : job ∈ w.cache.jobs)
      (hhash : annotationAt job.annotations migrationRequirementsKey = lib.secureMigrationConfig config.migration)
      (hfailed : jobConditionHasStatus job .failed .true = true)
      (hreported : ∃ c, lib.findStatusCondition status.conditions Condition.typeMigrating = some c ∧ c.status = .false)
      (hpaused : pausedControllerSelectorKey ∈ w'.api.cluster.labels)
  | deployed (config : Config) (d : Deployment) (hconfig : ConfigIs lib resolver w (.ok config))
      (h : Deployed lib w status w' config d)

def EndsQuiescent (lib : Libraries) (resolver : PatchMetaResolver) (w w' : World) : Prop :=
  ∃ c, Leaves w c w' ∧ Quiescent lib resolver w c.status w'

namespace Leaves

variable {w w' w'' : World} {c : SpiceDBCluster}

theorem found (w : World) : Leaves w w.cache.cluster w := ⟨⟨_, rfl⟩, Or.inl rfl, rfl, rfl⟩

theorem stored (h : Leaves w c w') {p : SpiceDBCluster} (hp : ∃ status, p = { c with status }) :
    Leaves w (patched p) (w'.storeStatus (patched p)) := by
  obtain ⟨status, rfl⟩ := hp
  obtain ⟨status', hc⟩ := h.object
  subst hc
  exact ⟨⟨_, rfl⟩, Or.inr rfl, h.cache, h.operatorConfig⟩

/-- The status of an object that was made for the patch. -/
theorem noted (h : Leaves w c w') {p : SpiceDBCluster} : Leaves w { c with status := p.status } (w'.storeStatus p) := by
  obtain ⟨status, hc⟩ := h.object
  subst hc
  exact ⟨⟨_, rfl⟩, Or.inr rfl, h.cache, h.operatorConfig⟩

/-- What does not touch the status. -/
theorem frame (h : Leaves w c w') (hstatus : w''.api.cluster.status = w'.api.cluster.status)
    (hcache : w''.cache = w'.cache) (hconfig : w''.operatorConfig = w'.operatorConfig) : Leaves w c w'' :=
  ⟨h.object, hstatus ▸ h.status, hcache.trans h.cache, hconfig.trans h.operatorConfig⟩

theorem spec (h : Leaves w c w') : c.spec = w.cache.cluster.spec := by
  obtain ⟨status, rfl⟩ := h.object
  rfl

end Leaves

/-! ## Up to the validated config -/

section

variable {lib : Libraries} {idioms : Idioms lib} {resolver : PatchMetaResolver} {w : World} {c : SpiceDBCluster}

/-- Before the config is validated, version and rollout are as they were found. -/
def Begun (lib : Libraries) (w : World) (c : SpiceDBCluster) (w' : World) : Prop :=
  Leaves w c w' ∧ c.status.bearing lib = w.cache.cluster.status.bearing lib

/-- So the config is that of the cached cluster. -/
theorem Begun.newConfig_eq {w' : World} (h : Begun lib w c w') (globalConfig : OperatorConfig)
    (secrets : GoMap Secret) :
    newConfig lib c globalConfig secrets resolver = newConfig lib w.cache.cluster globalConfig secrets resolver := by
  obtain ⟨status, rfl⟩ := h.1.object
  exact newConfig_bearing h.2

theorem pause_done :
    Triple (At (· = w)) (idioms.pause w.cache.cluster) (fun c => At (Begun lib w c))
      (AtDone (EndsQuiescent lib resolver w)) := by
  rw [idioms.pause_eq]
  refine read_at fun w₁ => ?_
  refine Triple.ite (fun hlabel => Triple.ite (fun hfound => ?_) fun _ => ?_) fun _ =>
    Triple.ite (fun _ => ?_) fun _ => ?_
  · refine queue_done ?_
    rintro w' rfl
    exact ⟨_, Leaves.found _, .paused hlabel hfound⟩
  · refine Triple.bind (patchStatus_done (K := fun _ => EndsQuiescent lib resolver w) nofun ?_) fun _ =>
      queue_done fun _ hw => hw
    rintro w' rfl
    refine ⟨_, (Leaves.found _).stored ⟨_, rfl⟩, .paused hlabel ?_⟩
    obtain ⟨time, hset⟩ :=
      lib.findStatusCondition_set_self w'.cache.cluster.status.conditions (idioms.pausedCondition w₁.now)
    rw [(idioms.pausedCondition_fresh w₁.now).1] at hset
    exact Option.isSome_of_eq_some hset
  · refine patchStatus_done nofun ?_
    rintro w' rfl
    have hbearing : (w'.cache.cluster.removeStatusCondition lib typePaused).status.bearing lib =
        w'.cache.cluster.status.bearing lib :=
      bearing_remove_of_ne (by decide) (by decide)
    exact ⟨(Leaves.found _).stored ⟨_, rfl⟩, hbearing⟩
  · refine Triple.pure ?_
    rintro s rfl
    exact ⟨Leaves.found _, rfl⟩

/-- A rejected config is reported, now or before. -/
theorem reject_done {α : Type} {Q : α → Session → Prop} {sender : Sender} {now : Nat} {secretHash err : String}
    (hquiescent : ∀ status w', Rejects lib status secretHash err → Quiescent lib resolver w status w') :
    Triple (At (Begun lib w c)) (reject lib sender c (Condition.newInvalidConfigCondition now secretHash err)) Q
      (AtDone (EndsQuiescent lib resolver w)) := by
  refine Triple.ite (fun hfound => ?_) fun _ => ?_
  · refine queue_done fun w' hw => ⟨c, hw.1, hquiescent _ _ ?_⟩
    obtain ⟨old, hold, hmessage⟩ := (Option.any_eq_true _ _).1 hfound
    exact ⟨old, hold, of_decide_eq_true hmessage⟩
  · refine Triple.bind (patchStatus_done (K := fun _ => EndsQuiescent lib resolver w) nofun fun w' hw => ?_) fun _ =>
      queue_done fun _ hw => hw
    refine ⟨_, hw.1.stored ⟨_, rfl⟩, hquiescent _ _ ?_⟩
    obtain ⟨time, hset⟩ := lib.findStatusCondition_set_self
      (lib.removeStatusCondition c.status.conditions Condition.typeValidating)
      (Condition.newInvalidConfigCondition now secretHash err)
    exact ⟨_, hset, rfl⟩

theorem validateSpec_done :
    Triple (At (Begun lib w c)) (validateSpec lib c) (fun _ => At (Begun lib w c))
      (AtDone (EndsQuiescent lib resolver w)) := by
  refine look_at fun w' hw => ?_
  have hback : ∀ w'', w'' = w' → Begun lib w c w'' := fun _ h => h ▸ hw
  cases herr : specError c.spec with
  | none => exact Triple.pure fun s hs => hback _ hs
  | some err =>
    rw [hw.1.spec] at herr
    exact pre_at hback (reject_done fun status w' hreported => .invalidSpec err herr hreported)

theorem adoptSecrets_done {D : World → Prop} :
    Triple (At (Begun lib w c)) (adoptSecrets lib idioms c) (fun _ => At (Begun lib w c)) (AtDone D) := by
  refine read_at fun w₁ => Triple.each fun cs _ => ?_
  refine adopt_keeps (fun w' _ hw => ⟨hw.1.frame rfl rfl rfl, hw.2⟩) (fun err => ?_) fun _ _ hop _ => atDone_more hop
  refine read_at fun w' => Triple.bind (patchStatus_done (K := fun _ _ => True) nofun fun _ _ => trivial) fun _ => ?_
  exact queue_more nofun

theorem checkConfigChanged_done {D : World → Prop} (secretHash : String) :
    Triple (At (Begun lib w c)) (checkConfigChanged lib c secretHash) (fun c' => At (Begun lib w c')) (AtDone D) := by
  refine read_at fun w' => Triple.ite (fun _ => ?_) fun _ => Triple.pure fun _ hs => hs
  refine Triple.bind (patchStatus_done (K := fun p w'' => Begun lib w { c with status := p.status } w'') nofun
    fun w'' hw => ⟨hw.1.noted, ?_⟩) fun _ => Triple.pure fun _ hs => hs
  have hmigrating : Condition.typeValidating ≠ Condition.typeMigrating := by decide
  have hrolling : Condition.typeValidating ≠ Condition.typeRolling := by decide
  exact (bearing_set_of_ne _ hmigrating hrolling).trans ((bearing_remove_of_ne (by decide) (by decide)).trans hw.2)

/-- What is known of a validated config. -/
structure Computed (lib : Libraries) (resolver : PatchMetaResolver) (w : World) (v : Validated) : Prop where
  config : ConfigIs lib resolver w (.ok v.config)
  migrationHash : v.migrationHash = lib.secureMigrationConfig v.config.migration
  secretHash : v.secretHash = w.secretHash lib
  version : SpiceDBVersion.equalsPtr v.cluster.status.currentVersion v.config.migration.spiceDBVersion = true
  target : v.cluster.status.targetMigrationHash = v.migrationHash

theorem equals_target {status other : ClusterStatus} (h : status.equals other = true) :
    status.targetMigrationHash = other.targetMigrationHash := by
  simp only [ClusterStatus.equals, Bool.and_eq_true, beq_iff_eq] at h
  exact h.1.1.1.1.1.1.1.1.2

theorem availableVersionsOf_done {A D : World → Prop} (operatorConfig : OperatorConfig) (config : Config) :
    Triple (At A) (availableVersionsOf operatorConfig config) (fun _ => At A) (AtDone D) := by
  unfold availableVersionsOf
  cases config.migration.spiceDBVersion with
  | none => exact Triple.pure fun _ hs => hs
  | some version =>
    refine Triple.bind lift_done fun result => assume_at fun _ => ?_
    cases result with
    | ok versions => exact Triple.pure fun _ hs => hs
    | error err => exact queue_more nofun

theorem validateConfig_done :
    Triple (At (Begun lib w c)) (validateConfig lib resolver c w.collected (w.secretHash lib))
      (fun v => At fun w' => Computed lib resolver w v ∧ Leaves w v.cluster w')
      (AtDone (EndsQuiescent lib resolver w)) := by
  refine look_at fun w₁ hw => ?_
  have hback : ∀ w', w' = w₁ → Begun lib w c w' := fun _ h => h ▸ hw
  refine Triple.bind lift_done fun result => assume_at fun hnew => ?_
  obtain ⟨result, warning⟩ := result
  have hconfig : ConfigIs lib resolver w result := by
    rw [hw.newConfig_eq, hw.1.operatorConfig] at hnew
    exact ⟨warning, hnew⟩
  cases result with
  | error err => exact pre_at hback (reject_done fun status w' hreported => .invalidConfig err hconfig hreported)
  | ok config =>
    refine pre_at hback (Triple.bind (availableVersionsOf_done w₁.operatorConfig config) fun availableVersions => ?_)
    refine Triple.ite (fun hequals => ?_) fun _ => ?_
    · exact Triple.pure fun s hs =>
        ⟨⟨hconfig, rfl, rfl, equals_currentVersion hequals, equals_target hequals⟩, hs.1⟩
    · refine Triple.bind (patchStatus_done (K := fun c' w' => c' = patched _ ∧ Leaves w c' w') nofun fun w' hw' =>
        ⟨rfl, hw'.1.stored ⟨_, rfl⟩⟩) fun c' => assume_at ?_
      rintro rfl
      exact Triple.pure fun s hs => ⟨⟨hconfig, rfl, rfl, SpiceDBVersion.equalsPtr_self _, rfl⟩, hs⟩

end

/-! ## Migrations -/

section

variable {lib : Libraries} {idioms : Idioms lib} {resolver : PatchMetaResolver} {w : World} {c : SpiceDBCluster}
  {v : Validated}

theorem Computed.update (h : Computed lib resolver w v)
    (hversion : c.status.currentVersion = v.cluster.status.currentVersion)
    (htarget : c.status.targetMigrationHash = v.cluster.status.targetMigrationHash) :
    Computed lib resolver w { v with cluster := c } :=
  ⟨h.config, h.migrationHash, h.secretHash, hversion ▸ h.version, htarget.trans h.target⟩

theorem ensureComponent_done {A D : World → Prop} (hA : ∀ w components, A w → A { w with api.components := components })
    {β : Type} {of : β → ComponentApply} {build : Go β} :
    Triple (At A) (ensureComponent lib idioms of build) (fun _ => At A) (AtDone D) := by
  refine read_at fun w₁ => Triple.bind lift_done fun _ => assume_at fun _ => ?_
  refine Triple.bind lift_done fun _ => assume_at fun _ => ?_
  exact ensure_keeps hA fun _ _ hop _ => atDone_more hop

theorem ensureComponents_done {A D : World → Prop}
    (hA : ∀ w components, A w → A { w with api.components := components })
    (config : Config) : Triple (At A) (ensureComponents lib idioms config) (fun _ => At A) (AtDone D) := by
  refine Triple.bind (ensureComponent_done hA) fun _ => ?_
  refine Triple.bind (ensureComponent_done hA) fun _ => ?_
  refine Triple.bind (ensureComponent_done hA) fun _ => ?_
  exact ensureComponent_done hA

/-- A migration job of the config, as listed. -/
def AwaitedJob (w : World) (v : Validated) (job : Job) : Prop :=
  job ∈ w.cache.jobs ∧ annotationAt job.annotations migrationRequirementsKey = v.migrationHash

theorem runMigration_done (hv : Computed lib resolver w v) :
    Triple (At (Leaves w v.cluster)) (runMigration lib v w.cache.jobs)
      (fun r => At fun w' => (Computed lib resolver w r.1 ∧ AwaitedJob w r.1 r.2) ∧ Leaves w r.1.cluster w')
      (AtDone (EndsQuiescent lib resolver w)) := by
  refine read_at fun w₁ => ?_
  refine Triple.bind (patchStatus_done (K := fun c' w' => c' = patched _ ∧ Leaves w c' w') nofun fun w' hw =>
    ⟨rfl, hw.stored ⟨_, rfl⟩⟩) fun c' => assume_at fun hc => ?_
  have hv' : Computed lib resolver w { v with cluster := c' } := hv.update (by rw [hc]; rfl) (by rw [hc]; rfl)
  dsimp only
  rcases hparts : partitionObjs Job.annotations migrationRequirementsKey v.migrationHash w.cache.jobs with
    ⟨matchingObjs, extraObjs⟩
  have hmatching : ∀ j ∈ matchingObjs, AwaitedJob w v j := by
    intro j hj
    have hfilter : (partitionObjs Job.annotations migrationRequirementsKey v.migrationHash w.cache.jobs).1 = _ :=
      partitionObjs_matching _
    rw [hparts] at hfilter
    rw [show matchingObjs = _ from hfilter, List.mem_filter, decide_eq_true_eq] at hj
    exact hj
  have hdelete : ∀ (D : World → Prop) (o : Job), Triple (At (Leaves w c'))
      (callOr .requeueAPIErr (.deleteJob o.name)) (fun _ => At (Leaves w c')) (AtDone D) := fun D o =>
    callOr_done nofun fun _ hw => hw.frame rfl rfl rfl
  refine Triple.ite_join ?_ fun _ hrest => ?_
  · refine Triple.bind (Triple.each fun o _ => hdelete _ o) fun _ => ?_
    cases matchingObjs with
    | nil => exact queue_more nofun
    | cons job _ => exact Triple.pure fun s hs => ⟨⟨hv', hmatching job (List.mem_cons_self ..)⟩, hs⟩
  · refine Triple.bind lift_done fun job => assume_at fun _ => ?_
    refine Triple.bind lift_done fun name => assume_at fun _ => ?_
    exact Triple.bind (callOr_done nofun fun _ hw => hw.frame rfl rfl rfl) fun _ => hrest

/-- The pause label is stored with the pause. -/
theorem paused_patchCluster (w : World) (c : SpiceDBCluster) :
    pausedControllerSelectorKey ∈ (w.patchCluster { c with
      resourceVersion := none, labels := c.labels.insert pausedControllerSelectorKey "" }).api.cluster.labels := by
  refine mem_iff_lookup.2 ⟨"", ?_⟩
  simp [World.patchCluster]

theorem selfPause_done {Q : Unit → Session → Prop} (hv : Computed lib resolver w v) {job : Job}
    (hjob : AwaitedJob w v job) (hfailed : jobConditionHasStatus job .failed .true = true) {failed : Condition}
    (htype : failed.type = Condition.typeMigrating) (hstatus : failed.status = .false) :
    Triple (At (Leaves w v.cluster)) (idioms.selfPause (v.cluster.setStatusCondition lib failed)) Q
      (AtDone (EndsQuiescent lib resolver w)) := by
  rw [idioms.selfPause_eq]
  refine read_at fun w₁ => ?_
  refine Triple.bind (patchStatus_done
    (K := fun c' w' => c' = patched ((v.cluster.setStatusCondition lib failed).setStatusCondition lib
      (idioms.selfPausedCondition w₁.now)) ∧ Leaves w c' w') idioms.selfPauseFailed_ne fun w' hw =>
      ⟨rfl, hw.stored ⟨_, rfl⟩⟩) fun c' => assume_at fun hc => ?_
  refine Triple.bind (callOr_done (B := EndsQuiescent lib resolver w) idioms.selfPauseFailed_ne fun w' hw => ?_)
    fun _ => queue_done fun _ hw => hw
  refine ⟨c', hw.frame rfl rfl rfl, .migrationFailed v.config job hv.config hjob.1 (hjob.2.trans hv.migrationHash)
    hfailed ?_ (paused_patchCluster w' c')⟩
  obtain ⟨time, hset⟩ := lib.findStatusCondition_set_self v.cluster.status.conditions failed
  refine ⟨{ failed with lastTransitionTime := time }, ?_, hstatus⟩
  have hother : (idioms.selfPausedCondition w₁.now).type ≠ failed.type := by
    rw [htype, (idioms.selfPausedCondition_fresh w₁.now).1]
    decide
  rw [hc, ← htype]
  exact (lib.findStatusCondition_set_of_ne _ _ hother).trans hset

theorem waitForMigrations_done (hv : Computed lib resolver w v) {job : Job} (hjob : AwaitedJob w v job) :
    Triple (At (Leaves w v.cluster)) (waitForMigrations lib idioms v job) (fun _ => At (Leaves w v.cluster))
      (AtDone (EndsQuiescent lib resolver w)) := by
  refine read_at fun w₁ => ?_
  split
  · rename_i message hfailed
    exact selfPause_done hv hjob (by simp [jobConditionHasStatus, hfailed]) rfl rfl
  · refine Triple.ite (fun _ => ?_) fun _ => queue_more nofun
    exact Triple.act fun s hs => hs.frame rfl rfl rfl

end

/-! ## The deployment -/

section

variable {lib : Libraries} {idioms : Idioms lib} {resolver : PatchMetaResolver} {w : World} {c : SpiceDBCluster}
  {v : Validated} {d : Deployment} {newDeployment : DeploymentApply}

/-- The config is migrated, by the status. -/
structure Migrated (lib : Libraries) (c : SpiceDBCluster) : Prop where
  current : c.status.currentMigrationHash = c.status.targetMigrationHash
  migrating : lib.findStatusCondition c.status.conditions Condition.typeMigrating = none

theorem startRollout_done (hv : Computed lib resolver w v) :
    Triple (At (Leaves w v.cluster)) (startRollout lib v.cluster)
      (fun c => At fun w' => (Computed lib resolver w { v with cluster := c } ∧ Migrated lib c) ∧ Leaves w c w')
      (AtDone (EndsQuiescent lib resolver w)) := by
  refine read_at fun w₁ => Triple.ite (fun _ => ?_) fun hsame => ?_
  · refine patchStatus_done nofun fun w' hw => ⟨⟨hv.update rfl rfl, rfl, ?_⟩, hw.stored ⟨_, rfl⟩⟩
    refine (lib.findStatusCondition_set_of_ne _ _ (by decide : Condition.typeRolling ≠ _)).trans ?_
    exact lib.findStatusCondition_remove_self _ _
  · rw [not_or, not_not] at hsame
    exact Triple.pure fun s hs => ⟨⟨hv, hsame.2, Option.not_isSome_iff_eq_none.1 hsame.1⟩, hs⟩

/-- A deployment that does not carry the hash is among the extra ones. -/
theorem mem_extra {deployments : List Deployment} {hash : String} {o : Deployment} (ho : o ∈ deployments)
    (hne : annotationAt o.annotations configKey ≠ hash) :
    o ∈ (partitionObjs Deployment.annotations configKey hash deployments).2 := by
  rw [partitionObjs_extra]
  refine List.mem_flatMap.2 ⟨o, ho, List.mem_replicate.2 ⟨?_, rfl⟩⟩
  simp [extraTimes, hne]

/-- The deployments of these names are gone. -/
def Gone (w : World) (names : List String) : Prop := ∀ name ∈ names, ∀ live ∈ w.api.deployments, live.name ≠ name

theorem Gone.delete {names : List String} (h : Gone w names) (name : String) :
    Gone (w.deleteDeployment name) (names ++ [name]) := by
  intro n hn live hlive
  obtain ⟨hmem, hne⟩ := List.mem_filter.1 hlive
  rcases List.mem_append.1 hn with hold | hnew
  · exact h n hold live hmem
  · rw [List.mem_singleton.1 hnew]
    exact of_decide_eq_true hne

theorem deleteExtra_done {D : World → Prop} (extraObjs : List Deployment) :
    Triple (At (Leaves w c)) (each extraObjs fun o => callOr .requeueAPIErr (.deleteDeployment o.name))
      (fun _ => At fun w' => Leaves w c w' ∧ Gone w' (extraObjs.map Deployment.name)) (AtDone D) := by
  refine pre_at (B := fun w' => Leaves w c w' ∧ Gone w' []) (fun w' hw => ⟨hw, nofun⟩) ?_
  refine Triple.each_through (I := fun through => At fun w' => Leaves w c w' ∧ Gone w' (through.map Deployment.name))
    fun through o => callOr_done nofun fun w' hw => ?_
  rw [List.map_append]
  exact ⟨hw.1.frame rfl rfl rfl, hw.2.delete o.name⟩

theorem checkPods_done {A D : World → Prop} : Triple (At A) (checkPods lib c d) (fun _ => At A) (AtDone D) := by
  refine read_at fun w₁ => Triple.ite (fun _ => ?_) fun _ => Triple.pure fun _ hs => hs
  cases podError w₁.cache.deploymentPods with
  | none => exact Triple.pure fun _ hs => hs
  | some message =>
    exact Triple.bind (patchStatus_done (K := fun _ _ => True) nofun fun _ _ => trivial) fun _ => queue_more nofun

/-- The status says that nothing is under way. -/
structure Idle (lib : Libraries) (c : SpiceDBCluster) : Prop where
  rolling : lib.isStatusConditionTrue c.status.conditions Condition.typeRolling = false
  rolloutError : lib.isStatusConditionTrue c.status.conditions Condition.typeRolloutError = false

/-- The rollout is over. -/
structure RolloutOver (lib : Libraries) (resolver : PatchMetaResolver) (w : World) (v : Validated)
    (d : Deployment) : Prop
    extends Computed lib resolver w v, Migrated lib v.cluster, Idle lib v.cluster where
  complete : deploymentRolloutComplete d (desiredDeploymentReplicas d v.config.spice.replicas) = true

theorem finishRollout_done {D : World → Prop} {names : List String} (hv : Computed lib resolver w v)
    (hmigrated : Migrated lib v.cluster) :
    Triple (At fun w' => Leaves w v.cluster w' ∧ Gone w' names) (finishRollout lib v d)
      (fun _ => At fun w' => ∃ c, RolloutOver lib resolver w { v with cluster := c } d ∧ Leaves w c w' ∧ Gone w' names)
      (AtDone D) := by
  refine read_at fun w₁ => Triple.ite (fun _ => ?_) fun hcomplete => ?_
  · exact Triple.bind (patchStatus_done (K := fun _ _ => True) nofun fun _ _ => trivial) fun _ => queue_more nofun
  rw [Bool.not_eq_false] at hcomplete
  refine Triple.bind (Q := fun _ => At fun w' => Leaves w v.cluster w' ∧ Gone w' names)
    (Triple.act fun s hs => ⟨hs.1.frame rfl rfl rfl, hs.2⟩) fun _ => Triple.ite (fun _ => ?_) fun hidle => ?_
  · refine Triple.bind (patchStatus_done (K := fun c w' => RolloutOver lib resolver w { v with cluster := c } d ∧
      Leaves w c w' ∧ Gone w' names) nofun fun w' hw => ?_) fun c => Triple.pure fun s hs => ⟨c, hs⟩
    refine ⟨⟨hv.update rfl rfl, ⟨hmigrated.current, ?_⟩, ⟨?_, lib.isStatusConditionTrue_remove_self _⟩, hcomplete⟩,
      hw.1.stored ⟨_, rfl⟩, hw.2⟩
    · refine (lib.findStatusCondition_remove_of_ne _ (by decide)).trans ?_
      exact (lib.findStatusCondition_remove_of_ne _ (by decide)).trans hmigrated.migrating
    · refine (lib.isStatusConditionTrue_remove_of_ne _ (by decide)).trans ?_
      exact lib.isStatusConditionTrue_remove_self _
  · rw [not_or, Bool.not_eq_true, Bool.not_eq_true] at hidle
    exact Triple.pure fun s hs => ⟨v.cluster, ⟨hv, hmigrated, ⟨hidle.1, hidle.2⟩, hcomplete⟩, hs⟩

theorem ensureDeployment_done (hv : Computed lib resolver w v) :
    Triple (At (Leaves w v.cluster)) (ensureDeployment lib v w.cache.deployments)
      (fun d => At fun w' => ∃ c, Leaves w c w' ∧ InPlace lib w c.status w' v.config d)
      (AtDone (EndsQuiescent lib resolver w)) := by
  refine Triple.bind (startRollout_done hv) fun c => assume_at fun hc => ?_
  refine Triple.bind lift_done fun newDeployment => assume_at fun hnew => ?_
  dsimp only at hnew ⊢
  have hbuilt : v.config.deployment lib (lib.secureMigrationConfig v.config.migration) (w.secretHash lib) =
      .ok newDeployment := by rw [← hv.migrationHash, ← hv.secretHash]; exact hnew
  rcases hparts : partitionObjs Deployment.annotations configKey (lib.hashDeployment newDeployment)
    w.cache.deployments with ⟨matchingObjs, extraObjs⟩
  have hmatching : (partitionObjs Deployment.annotations configKey (lib.hashDeployment newDeployment)
    w.cache.deployments).1 = _ := partitionObjs_matching _
  have hextra : ∀ o ∈ w.cache.deployments, annotationAt o.annotations configKey ≠ lib.hashDeployment newDeployment →
      o ∈ extraObjs := by
    intro o ho hne
    have := mem_extra ho hne
    rwa [hparts] at this
  rw [hparts] at hmatching
  match matchingObjs with
  | [] =>
    refine read_at fun w₁ => Triple.bind lift_done fun name => assume_at fun _ => ?_
    refine pre_at (B := fun _ => True) (fun _ _ => trivial) ?_
    refine Triple.bind (call_keeps fun _ _ => trivial) fun err => ?_
    cases err with
    | some err =>
      exact Triple.bind (patchStatus_done (K := fun _ _ => True) nofun fun _ _ => trivial) fun _ => queue_more nofun
    | none =>
      refine Triple.ite (fun _ => ?_) fun _ => queue_more nofun
      exact Triple.bind (patchStatus_done (K := fun _ _ => True) nofun fun _ _ => trivial) fun _ => queue_more nofun
  | [d] =>
    refine Triple.bind (deleteExtra_done extraObjs) fun _ => ?_
    refine Triple.bind checkPods_done fun _ => ?_
    refine Triple.bind (finishRollout_done hc.1 hc.2) fun _ => Triple.pure ?_
    rintro s ⟨c', hover, hleaves, hgone⟩
    refine ⟨c', hleaves, ⟨newDeployment, hbuilt, hmatching.symm, fun o ho hne => ?_⟩, hover.complete,
      hover.version, hover.target.trans hover.migrationHash, hover.current, hover.migrating,
      hover.rolling, hover.rolloutError⟩
    exact hgone o.name (List.mem_map.2 ⟨o, hextra o ho hne, rfl⟩)
  | _ :: _ :: _ => exact queue_more nofun

/-! ## Cleanup -/

variable {config : Config} {jobs : List Job} {pods : List Pod} {w' w'' : World}

theorem awaitedJob_of_route {deployments : List Deployment} {job : Job}
    (h : checkMigrations v deployments w.cache.jobs = .waitForMigrations job) : AwaitedJob w v job := by
  refine ⟨?_, job_of_route h⟩
  simp only [checkMigrations] at h
  repeat' split at h
  all_goals cases h
  exact List.mem_of_find?_eq_some ‹_›

end

end SpiceDBOperator
