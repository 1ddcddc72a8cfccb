import SpiceDBOperator.Controller.Handlers

/-!
# One walk along the chain for every invariant

An invariant `I` of the world is kept by a reconcile if it is kept by the few effects the handlers have on it. The
proof goes through the chain once, here, for any `I` with those properties; a particular invariant then only has to
look at the effects.

Between the handlers the cluster is in memory, ahead of or behind what is stored. `K p w` says that the object `p` may
be handed to `PatchStatus` in `w`, and `S` is what is assumed of the spec. `UpholdsTail` are the conditions for the
handlers that come after the config is validated, `UpholdsChain` those for the whole chain. For the invariants that only
look at the `Core` of the status there is `Upholds`.
-/

namespace SpiceDBOperator

open Golang Hoare Metadata Handler

/-- No status, no record and no new deployment. -/
structure Quiet (w w' : World) : Prop where
  log : w'.log = w.log
  status : w'.api.cluster.status = w.api.cluster.status
  deployments : w'.api.deployments ⊆ w.api.deployments
  cache : w'.cache = w.cache

theorem Quiet.refl (w : World) : Quiet w w := ⟨rfl, rfl, fun _ h => h, rfl⟩

theorem quiet_deleteDeployment (w : World) (name : String) : Quiet w (w.deleteDeployment name) :=
  ⟨rfl, rfl, List.filter_subset_self _, rfl⟩

theorem quiet_secretMeta (w : World) (secretMeta : GoMap ObjectMeta) :
    Quiet w { w with api.secretMeta := secretMeta } :=
  ⟨rfl, rfl, fun _ h => h, rfl⟩

theorem quiet_components (w : World) (components : List Component) : Quiet w { w with api.components := components } :=
  ⟨rfl, rfl, fun _ h => h, rfl⟩

theorem quiet_applyJob (w : World) (name : String) (j : JobApply) : Quiet w (w.applyJob name j) :=
  ⟨rfl, rfl, fun _ h => h, rfl⟩

theorem quiet_deleteJob (w : World) (name : String) : Quiet w (w.deleteJob name) := ⟨rfl, rfl, fun _ h => h, rfl⟩

theorem quiet_deletePod (w : World) (name : String) : Quiet w (w.deletePod name) := ⟨rfl, rfl, fun _ h => h, rfl⟩

theorem quiet_patchCluster (w : World) (patch : SpiceDBCluster) : Quiet w (w.patchCluster patch) :=
  ⟨rfl, rfl, fun _ h => h, rfl⟩

/-! ## Secrets and components

What the handlers do to the labels of secrets and to components is not looked at by the others. -/

section

variable {lib : Libraries} {idioms : Idioms lib} {A : World → Prop} {E : Stop → Session → Prop}

theorem ensure_keeps {listed : List Component} {o : ComponentApply} {name : String}
    (hA : ∀ w components, A w → A { w with api.components := components })
    (hstop : ∀ op s, op ≠ .done → At A s → E (.queue op) s) :
    Triple (At A) (idioms.ensure listed o name) (fun _ => At A) E := by
  refine idioms.ensure_confined listed o name (At A) E (fun x hx => ?_) (fun _ hp => hp.elim) hstop
  obtain ⟨annotations, rfl⟩ | ⟨c, -, rfl⟩ := hx
  · exact call_keeps fun w => hA w _
  · exact call_keeps fun w => hA w _

theorem adopt_keeps {owner name index : String} {found : Option ObjectMeta} {labels : GoMap String}
    {cached : GoMap ObjectMeta} {missing : String → Handler Unit}
    (hA : ∀ w secretMeta, A w → A { w with api.secretMeta := secretMeta })
    (hmissing : ∀ err, Triple (At A) (missing err) (fun _ => At A) E)
    (hstop : ∀ op s, op ≠ .done → At A s → E (.queue op) s) :
    Triple (At A) (idioms.adopt owner name found labels index cached missing) (fun _ => At A) E := by
  refine idioms.adopt_confined owner name found labels index cached missing (At A) E (fun x hx => ?_) ?_ hstop
  · obtain rfl | ⟨n, metadata, -, rfl⟩ := hx
    · exact call_keeps fun _ hw => hw
    · exact call_keeps fun w => hA w _
  · rintro _ ⟨err, rfl⟩
    exact hmissing err

end

/-! ## What the handlers know of each other -/

/-- What `ValidateConfigHandler` guarantees. -/
structure Valid (lib : Libraries) (v : Validated) : Prop where
  hash : v.migrationHash = lib.secureMigrationConfig v.config.migration
  version : SpiceDBVersion.equalsPtr v.cluster.status.currentVersion v.config.migration.spiceDBVersion = true

theorem equals_currentVersion {s other : ClusterStatus} (h : s.equals other = true) :
    SpiceDBVersion.equalsPtr s.currentVersion other.currentVersion = true := by
  simp only [ClusterStatus.equals, Bool.and_eq_true] at h
  exact h.1.1.2

theorem equals_conditions {s other : ClusterStatus} (h : s.equals other = true) : s.conditions = other.conditions := by
  simp only [ClusterStatus.equals, Bool.and_eq_true, decide_eq_true_eq] at h
  exact h.2

theorem availableVersionsOf_at {A J : World → Prop} (operatorConfig : OperatorConfig) (config : Config)
    (h : ∀ w, A w → J w) :
    Triple (At A) (availableVersionsOf operatorConfig config) (fun _ => At A) (fun _ => At J) := by
  unfold availableVersionsOf
  cases config.migration.spiceDBVersion with
  | none => exact Triple.pure fun _ hs => hs
  | some version =>
    refine Triple.bind (lift_at h) fun result => assume_at fun _ => ?_
    cases result with
    | ok versions => exact Triple.pure fun _ hs => hs
    | error err => exact queue_at h

/-- Why `DeploymentHandler` is reached. -/
inductive Evidence (v : Validated) (w : World) : Prop
  | skipped (h : v.config.spice.skipMigrations = true)
  | memory (h : v.config.migration.datastoreEngine = "memory")
  | unneeded {version : SpiceDBVersion} (hversion : v.cluster.status.currentVersion = some version)
      (h : SpiceDBVersionAttributes.migration ∉ version.attributes)
  | deployed {d : Deployment} (hmem : d ∈ w.cache.deployments) (h : carriesHash d.annotations v.migrationHash = true)
  | completed {job : Job} (hmem : Event.jobCompleted job ∈ w.log)
      (hhash : annotationAt job.annotations migrationRequirementsKey = v.migrationHash)
      (h : jobConditionHasStatus job .complete .true = true)

section

variable {lib : Libraries} {v : Validated} {c : SpiceDBCluster}

theorem Valid.update (h : Valid lib v) (hversion : c.status.currentVersion = v.cluster.status.currentVersion) :
    Valid lib { v with cluster := c } :=
  ⟨h.hash, by rw [hversion]; exact h.version⟩

/-- Evidence lasts: the log grows, the cache is not touched, and the version in memory stays. -/
theorem Evidence.update {w w' : World} (h : Evidence v w)
    (hversion : c.status.currentVersion = v.cluster.status.currentVersion) (hcache : w'.cache = w.cache)
    (hlog : w.log ⊆ w'.log) : Evidence { v with cluster := c } w' := by
  cases h with
  | skipped h => exact .skipped h
  | memory h => exact .memory h
  | unneeded hv h => exact .unneeded (hversion.trans hv) h
  | deployed hmem h => exact .deployed (by rw [hcache]; exact hmem) h
  | completed hmem hstamp h => exact .completed (hlog hmem) hstamp h

end

theorem evidence_of_route {v : Validated} {w : World}
    (h : checkMigrations v w.cache.deployments w.cache.jobs = .deploymentChain) : Evidence v w := by
  simp only [checkMigrations] at h
  split at h
  · rename_i hskip
    exact hskip.elim .skipped .memory
  split at h
  · rename_i hversion
    cases hv : v.cluster.status.currentVersion with
    | none =>
      rw [hv] at hversion
      cases hversion
    | some version =>
      refine .unneeded hv ?_
      simpa [hv] using hversion
  split at h
  · rename_i hdeployed
    obtain ⟨d, hmem, hd⟩ := List.any_eq_true.1 hdeployed
    exact .deployed hmem hd
  · split at h <;> cases h

theorem job_of_route {v : Validated} {deployments : List Deployment} {jobs : List Job} {job : Job}
    (h : checkMigrations v deployments jobs = .waitForMigrations job) :
    annotationAt job.annotations migrationRequirementsKey = v.migrationHash := by
  simp only [checkMigrations] at h
  repeat' split at h
  all_goals cases h
  rename_i hjob
  have hcarries := List.find?_some hjob
  simp only [carriesHash, Bool.and_eq_true, decide_eq_true_eq] at hcarries
  exact hcarries.2

/-- The deployment sent by `DeploymentHandler`. -/
def stamped (lib : Libraries) (newDeployment : DeploymentApply) : DeploymentApply :=
  { newDeployment with
    metadata := lib.withAnnotations (mapOf [(configKey, lib.hashDeployment newDeployment)]) newDeployment.metadata }

/-- `DeploymentHandler` saw the deployment of this config rolled out. -/
structure RolledOut (lib : Libraries) (config : Config) (migrationHash secretHash : String)
    (d : Deployment) : Prop where
  current : ∃ newDeployment, config.deployment lib migrationHash secretHash = .ok newDeployment ∧
    annotationAt d.annotations configKey = lib.hashDeployment newDeployment
  complete : deploymentRolloutComplete d (desiredDeploymentReplicas d config.spice.replicas) = true

/-! ## The conditions on an invariant -/

/-- What a cluster with an invalid config is patched to. -/
def rejectedPatch (lib : Libraries) (cluster : SpiceDBCluster) (failedCondition : Condition) : SpiceDBCluster :=
  let cluster : SpiceDBCluster := { cluster with status.observedGeneration := cluster.generation }
  (cluster.removeStatusCondition lib Condition.typeValidating).setStatusCondition lib failedCondition

def missingSecretPatch (lib : Libraries) (now : Nat) (cluster : SpiceDBCluster) (name : String) : SpiceDBCluster :=
  let status : SpiceDBCluster :=
    { name := cluster.name, nameSpace := cluster.nameSpace
      status := { cluster.status with observedGeneration := cluster.generation } }
  status.setStatusCondition lib (Condition.newMissingSecretCondition now cluster.nameSpace name)

def changedPatch (lib : Libraries) (now : Nat) (cluster : SpiceDBCluster) (secretHash : String) : SpiceDBCluster :=
  let status : SpiceDBCluster :=
    { cluster with
      resourceVersion := none, status.observedGeneration := cluster.generation, status.secretHash := secretHash }
  (status.removeStatusCondition lib Condition.typePreconditionsFailed).setStatusCondition lib
    (Condition.newValidatingConfigCondition now secretHash)

/-- The cluster that `ConfigChangedHandler` goes on with after that patch. -/
def changedCluster (lib : Libraries) (now : Nat) (cluster : SpiceDBCluster) (secretHash : String) : SpiceDBCluster :=
  { cluster with status := (patched (changedPatch lib now cluster secretHash)).status }

/-- The conditions the handlers set after the config is validated, the start of a rollout apart. -/
def tailTypes : List String := [typePaused, Condition.typeMigrating, Condition.typeRolloutError]

structure UpholdsTail (lib : Libraries) (I : World → Prop) (K : SpiceDBCluster → World → Prop) : Prop where
  store : ∀ {w : World} {p : SpiceDBCluster}, I w → K p w →
    I (w.storeStatus (patched p)) ∧ K (patched p) (w.storeStatus (patched p))
  quiet : ∀ {w w' : World}, Quiet w w' → I w → I w' ∧ ∀ p, K p w → K p w'
  seen : ∀ {w : World} (job : Job), I w →
    I (w.record (.jobCompleted job)) ∧ ∀ p, K p w → K p (w.record (.jobCompleted job))
  set : ∀ {w : World} {p : SpiceDBCluster} {new : Condition}, new.type ∈ tailTypes → new.observedGeneration = 0 →
    K p w → K (p.setStatusCondition lib new) w
  clear : ∀ {w : World} {p : SpiceDBCluster}, K p w → K (p.removeStatusCondition lib Condition.typeRolloutError) w
  roll : ∀ {w : World} {p : SpiceDBCluster} (now : Nat) (message : String), K p w →
    K (p.setStatusCondition lib (Condition.newRollingCondition now message)) w
  /-- The end of a migration and the start of a rollout. -/
  start : ∀ {w : World} {p : SpiceDBCluster} (now : Nat), K p w → K (rolloutStarted lib now p) w
  apply : ∀ {w : World} {v : Validated} {newDeployment : DeploymentApply} (name : String), I w → Valid lib v →
    Evidence v w → v.config.deployment lib v.migrationHash v.secretHash = .ok newDeployment →
    I (w.applyDeployment name (stamped lib newDeployment) v.config v.cluster.status) ∧
      ∀ p, K p w → K p (w.applyDeployment name (stamped lib newDeployment) v.config v.cluster.status)
  /-- The end of a rollout. -/
  finish : ∀ {w : World} {v : Validated} {d : Deployment}, I w → K v.cluster w → Valid lib v →
    RolledOut lib v.config v.migrationHash v.secretHash d →
    I (w.record (.rolledOut v.config v.migrationHash v.secretHash d)) ∧
      K (v.cluster.removeStatusCondition lib Condition.typeRolling)
        (w.record (.rolledOut v.config v.migrationHash v.secretHash d))

structure UpholdsChain (lib : Libraries) (resolver : PatchMetaResolver) (S : ClusterSpec → Prop) (I : World → Prop)
    (K : SpiceDBCluster → World → Prop) : Prop extends UpholdsTail lib I K where
  unpause : ∀ {w : World} {p : SpiceDBCluster}, K p w → K (p.removeStatusCondition lib typePaused) w
  rejected : ∀ {w : World} {p : SpiceDBCluster} (now : Nat) (secretHash err : String), K p w →
    K (rejectedPatch lib p (Condition.newInvalidConfigCondition now secretHash err)) w
  missing : ∀ {w : World} {p : SpiceDBCluster} (now : Nat) (name : String), I w → K p w →
    I (w.storeStatus (patched (missingSecretPatch lib now p name)))
  changed : ∀ {w : World} {p : SpiceDBCluster} (now : Nat) (secretHash : String), I w → K p w →
    let w' := w.storeStatus (patched (changedPatch lib now p secretHash))
    I w' ∧ K (changedCluster lib now p secretHash) w'
  /-- Store the status of a valid config. -/
  accept : ∀ {w : World} {p : SpiceDBCluster} {secrets : GoMap Secret} {config : Config} {warning : Option String}
    (now : Nat) (availableVersions : List SpiceDBVersion), S p.spec → I w → K p w →
    newConfig lib p w.operatorConfig secrets resolver = .ok (.ok config, warning) →
    let status := computedStatus lib now p config warning (lib.secureMigrationConfig config.migration) availableVersions
    I (w.storeStatus (patched { p with status })) ∧
      K (patched { p with status }) (w.storeStatus (patched { p with status }))

/-- The invariant, and leave to store `p`. -/
def Held {κ : Type} (I : World → Prop) (K : κ → World → Prop) (p : κ) (w : World) : Prop := I w ∧ K p w

theorem mem_partitionObjs {α : Type} {annotations : α → Option (GoMap String)} {key hash : String} {o : α}
    {objs : List α} (h : o ∈ (partitionObjs annotations key hash objs).1) :
    annotationAt (annotations o) key = hash := by
  induction objs with
  | nil => cases h
  | cons x rest ih =>
    simp only [partitionObjs] at h
    split at h
    · rename_i hx
      rcases List.mem_cons.1 h with rfl | h
      · exact hx
      · exact ih h
    · exact ih h

/-- What is known of a job to wait for. -/
def Awaited (lib : Libraries) (I : World → Prop) (K : SpiceDBCluster → World → Prop) (r : Validated × Job) (w : World) :
    Prop :=
  (Valid lib r.1 ∧ annotationAt r.2.annotations migrationRequirementsKey = r.1.migrationHash) ∧
    Held I K r.1.cluster w

/-! ## After the config is validated -/

namespace UpholdsTail

variable {lib : Libraries} {idioms : Idioms lib} {I : World → Prop} {K : SpiceDBCluster → World → Prop}
  (H : UpholdsTail lib I K) {sender : Sender} {cluster patch : SpiceDBCluster} {v : Validated}

omit H in
/-- A status patch that leaves an object to store. -/
theorem patchStatus_held {A : World → Prop} {failed : String → QueueOp}
    (h : ∀ w, A w → Held I K (patched patch) (w.storeStatus (patched patch))) (hA : ∀ w, A w → I w) :
    Triple (At A) (patchStatus sender failed patch)
      (fun c => At fun w => c = patched patch ∧ Held I K (patched patch) w) (fun _ => At I) :=
  patchStatus_at h hA fun _ hw => hw.1

include H

theorem held_quiet {w w' : World} (hquiet : Quiet w w') (h : Held I K patch w) : Held I K patch w' :=
  ⟨(H.quiet hquiet h.1).1, (H.quiet hquiet h.1).2 patch h.2⟩

theorem patchStatus_keeps {failed : String → QueueOp} :
    Triple (At (Held I K patch)) (patchStatus sender failed patch)
      (fun c => At fun w => c = patched patch ∧ Held I K (patched patch) w) (fun _ => At I) :=
  patchStatus_held (fun _ hw => H.store hw.1 hw.2) fun _ hw => hw.1

/-- A status patch after which the reconcile ends. -/
theorem patchStatus_queue {failed : String → QueueOp} {α : Type} {op : QueueOp} {Q : α → Session → Prop}
    (h : ∀ w, K cluster w → K patch w) :
    Triple (At (Held I K cluster)) (do let _ ← patchStatus sender failed patch; queue op) Q (fun _ => At I) := by
  refine pre_at (B := Held I K patch) (fun w hw => ⟨hw.1, h w hw.2⟩) ?_
  refine Triple.bind H.patchStatus_keeps fun _ => ?_
  exact queue_at fun _ hw => hw.2.1

theorem callOr_quiet {failed : String → QueueOp} {x : Call} (h : ∀ w, Quiet w (w.perform x)) :
    Triple (At (Held I K patch)) (callOr failed x) (fun _ => At (Held I K patch)) (fun _ => At I) :=
  callOr_at (fun w hw => H.held_quiet (h w) hw) (fun _ hw => hw.1) fun _ hw => hw.1

/-- The same with nothing left to store. -/
theorem callOr_quiet_last {failed : String → QueueOp} {x : Call} (h : ∀ w, Quiet w (w.perform x)) :
    Triple (At I) (callOr failed x) (fun _ => At I) (fun _ => At I) :=
  callOr_at (fun w hw => (H.quiet (h w) hw).1) (fun _ hw => hw) fun _ hw => hw

/-! ### Components -/

omit H in
theorem ensureComponent_keeps {A : World → Prop} {β : Type} {of : β → ComponentApply} {build : Go β}
    (hA : ∀ w components, A w → A { w with api.components := components }) (hI : ∀ w, A w → I w) :
    Triple (At A) (ensureComponent lib idioms of build) (fun _ => At A) (fun _ => At I) := by
  refine read_at fun w => Triple.bind (lift_at hI) fun _ => assume_at fun _ => ?_
  refine Triple.bind (lift_at hI) fun name => assume_at fun _ => ?_
  exact ensure_keeps hA fun _ s _ hs => hI s.world hs

theorem ensureComponent_upholds {β : Type} {of : β → ComponentApply} {build : Go β} :
    Triple (At (Held I K patch)) (ensureComponent lib idioms of build) (fun _ => At (Held I K patch)) (fun _ => At I) :=
  ensureComponent_keeps (fun w _ => H.held_quiet (quiet_components w _)) fun _ hw => hw.1

theorem ensureComponents_upholds (config : Config) :
    Triple (At (Held I K patch)) (ensureComponents lib idioms config) (fun _ => At (Held I K patch))
      (fun _ => At I) := by
  refine Triple.bind H.ensureComponent_upholds fun _ => ?_
  refine Triple.bind H.ensureComponent_upholds fun _ => ?_
  refine Triple.bind H.ensureComponent_upholds fun _ => ?_
  exact H.ensureComponent_upholds

theorem ensurePDB_upholds (config : Config) :
    Triple (At I) (ensurePDB lib idioms config) (fun _ => At I) (fun _ => At I) := by
  refine Triple.ite (fun _ => ?_) fun _ => ?_
  · refine read_at fun w => Triple.each fun pdb _ => Triple.ite (fun _ => ?_) fun _ => Triple.pure fun _ hs => hs
    refine Triple.bind (call_at fun w hw => (H.quiet (quiet_components w _) hw).1) fun _ => ?_
    exact Triple.pure fun _ hs => hs.elim id And.right
  · exact ensureComponent_keeps (fun w _ hw => (H.quiet (quiet_components w _) hw).1) fun _ hw => hw

/-! ### Migrations -/

theorem selfPause_upholds {Q : Unit → Session → Prop} :
    Triple (At (Held I K cluster)) (idioms.selfPause cluster) Q (fun _ => At I) := by
  rw [idioms.selfPause_eq]
  refine read_at fun w => ?_
  obtain ⟨htype, hgeneration⟩ := idioms.selfPausedCondition_fresh w.now
  refine pre_at (B := Held I K (cluster.setStatusCondition lib (idioms.selfPausedCondition w.now))) (fun _ hw => ?_) ?_
  · exact ⟨hw.1, H.set (htype ▸ by decide) hgeneration hw.2⟩
  refine Triple.bind H.patchStatus_keeps fun _ => assume_at fun _ => ?_
  refine Triple.bind (H.callOr_quiet fun w => quiet_patchCluster w _) fun _ => ?_
  exact queue_at fun _ hw => hw.1

theorem runMigration_upholds (hvalid : Valid lib v) (jobs : List Job) :
    Triple (At (Held I K v.cluster)) (runMigration lib v jobs) (fun r => At (Awaited lib I K r)) (fun _ => At I) := by
  refine read_at fun w => ?_
  refine pre_at (B := Held I K (v.cluster.setStatusCondition lib (Condition.newMigratingCondition w.now
    v.config.migration.datastoreEngine v.config.migration.targetMigration))) (fun _ hw => ?_) ?_
  · exact ⟨hw.1, H.set (by decide : Condition.typeMigrating ∈ _) rfl hw.2⟩
  refine Triple.bind H.patchStatus_keeps fun c => assume_at ?_
  rintro rfl
  dsimp only
  rcases hparts : partitionObjs Job.annotations migrationRequirementsKey v.migrationHash jobs with
    ⟨matchingObjs, extraObjs⟩
  have hmatching : ∀ j ∈ matchingObjs, annotationAt j.annotations migrationRequirementsKey = v.migrationHash :=
    fun j hj => mem_partitionObjs (by rw [hparts]; exact hj)
  generalize hc : patched _ = c
  have hversion : c.status.currentVersion = v.cluster.status.currentVersion := by rw [← hc]; rfl
  refine Triple.ite_join ?_ fun _ hrest => ?_
  · refine Triple.bind (Triple.each fun o _ => H.callOr_quiet fun w => quiet_deleteJob w _) fun _ => ?_
    cases matchingObjs with
    | nil => exact queue_at fun _ hw => hw.1
    | cons job _ =>
      exact Triple.pure fun s hs => ⟨⟨hvalid.update hversion, hmatching job (List.mem_cons_self ..)⟩, hs⟩
  · refine Triple.bind (lift_at fun _ hw => hw.1) fun job => assume_at fun _ => ?_
    refine Triple.bind (lift_at fun _ hw => hw.1) fun name => assume_at fun _ => ?_
    exact Triple.bind (H.callOr_quiet fun w => quiet_applyJob w _ _) fun _ => hrest

theorem waitForMigrations_upholds {job : Job}
    (hjob : annotationAt job.annotations migrationRequirementsKey = v.migrationHash) :
    Triple (At (Held I K v.cluster)) (waitForMigrations lib idioms v job)
      (fun _ => At fun w => Held I K v.cluster w ∧ Evidence v w) (fun _ => At I) := by
  refine read_at fun w => ?_
  split
  · refine pre_at (fun _ hw => ⟨hw.1, ?_⟩) H.selfPause_upholds
    exact H.set (by decide : Condition.typeMigrating ∈ _) rfl hw.2
  · refine Triple.ite (fun hcomplete => ?_) fun _ => queue_at fun _ hw => hw.1
    refine record_at fun w hw => ⟨⟨(H.seen job hw.1).1, (H.seen job hw.1).2 _ hw.2⟩, ?_⟩
    exact Evidence.completed (List.mem_append_right _ (List.mem_singleton_self _)) hjob hcomplete

/-! ### The deployment -/

theorem startRollout_upholds :
    Triple (At fun w => Held I K v.cluster w ∧ Evidence v w) (startRollout lib v.cluster)
      (fun c => At fun w => c.status.currentVersion = v.cluster.status.currentVersion ∧
        Held I K c w ∧ Evidence { v with cluster := c } w)
      (fun _ => At I) := by
  refine read_at fun w => Triple.ite (fun _ => ?_) fun _ => Triple.pure fun _ hs => ⟨rfl, hs⟩
  refine Triple.conseq (patchStatus_at (A := fun w' => Held I K v.cluster w' ∧ Evidence v w')
    (B := fun w' => Held I K (patched (rolloutStarted lib w.now v.cluster)) w' ∧
      Evidence { v with cluster := patched (rolloutStarted lib w.now v.cluster) } w')
    (fun w' hw => ?_) (fun _ hw => hw.1.1) fun _ hw => hw.1.1) (fun _ h => h) ?_ fun _ _ h => h
  · exact ⟨H.store hw.1.1 (H.start w.now hw.1.2), hw.2.update rfl rfl (List.subset_append_left _ _)⟩
  · rintro _ s ⟨rfl, hs⟩
    exact ⟨rfl, hs⟩

theorem checkPods_upholds (d : Deployment) :
    Triple (At (Held I K cluster)) (checkPods lib cluster d) (fun _ => At (Held I K cluster)) (fun _ => At I) := by
  refine read_at fun w => Triple.ite (fun _ => ?_) fun _ => Triple.pure fun _ hs => hs
  cases podError w.cache.deploymentPods with
  | none => exact Triple.pure fun _ hs => hs
  | some message => exact H.patchStatus_queue fun _ => H.set (by decide : Condition.typeRolloutError ∈ _) rfl

theorem finishRollout_upholds (hvalid : Valid lib v) {d : Deployment}
    (hcurrent : ∃ newDeployment, v.config.deployment lib v.migrationHash v.secretHash = .ok newDeployment ∧
      annotationAt d.annotations configKey = lib.hashDeployment newDeployment) :
    Triple (At (Held I K v.cluster)) (finishRollout lib v d) (fun _ => At I) (fun _ => At I) := by
  refine read_at fun w => Triple.ite (fun _ => ?_) fun hcomplete => ?_
  · exact H.patchStatus_queue fun _ => H.roll _ _
  · rw [Bool.not_eq_false] at hcomplete
    refine Triple.bind (record_at (B := Held I K (v.cluster.removeStatusCondition lib Condition.typeRolling))
      fun w hw => H.finish hw.1 hw.2 hvalid ⟨hcurrent, hcomplete⟩) fun _ => ?_
    refine Triple.ite (fun _ => ?_) fun _ => Triple.pure fun _ hs => hs.1
    refine Triple.bind (pre_at (fun _ hw => ⟨hw.1, H.clear hw.2⟩) H.patchStatus_keeps) fun _ => ?_
    exact Triple.pure fun _ hs => hs.2.1

theorem applyNewDeployment_upholds {α : Type} {Q : α → Session → Prop} {newDeployment : DeploymentApply}
    (hvalid : Valid lib v) (hnew : v.config.deployment lib v.migrationHash v.secretHash = .ok newDeployment) :
    Triple (At fun w => Held I K v.cluster w ∧ Evidence v w)
      (applyNewDeployment lib v newDeployment (lib.hashDeployment newDeployment)) Q (fun _ => At I) := by
  refine read_at fun w => ?_
  refine Triple.bind (lift_at fun _ hw => hw.1.1) fun name => assume_at fun _ => ?_
  refine Triple.bind (call_at (B := Held I K v.cluster) fun w hw => ?_) fun err => ?_
  · have happly := H.apply name hw.1.1 hvalid hw.2 hnew
    exact ⟨happly.1, happly.2 _ hw.1.2⟩
  · refine pre_at (B := Held I K v.cluster) (fun _ hw => hw.elim id fun h => h.2.1) ?_
    cases err with
    | some err => exact H.patchStatus_queue fun _ => H.set (by decide : Condition.typeRolloutError ∈ _) rfl
    | none =>
      refine Triple.ite (fun _ => ?_) fun _ => queue_at fun _ hw => hw.1
      exact H.patchStatus_queue fun _ => H.clear

theorem ensureDeployment_upholds (hvalid : Valid lib v) (deployments : List Deployment) :
    Triple (At fun w => Held I K v.cluster w ∧ Evidence v w) (ensureDeployment lib v deployments)
      (fun _ => At I) (fun _ => At I) := by
  refine Triple.bind H.startRollout_upholds fun c => assume_at fun hversion => ?_
  replace hvalid := hvalid.update hversion
  refine Triple.bind (lift_at fun _ hw => hw.1.1) fun newDeployment => assume_at fun hnew => ?_
  dsimp only at hnew ⊢
  rcases hparts : partitionObjs Deployment.annotations configKey (lib.hashDeployment newDeployment) deployments with
    ⟨matchingObjs, extraObjs⟩
  have hmatching : ∀ d ∈ matchingObjs, annotationAt d.annotations configKey = lib.hashDeployment newDeployment :=
    fun d hd => mem_partitionObjs (by rw [hparts]; exact hd)
  match matchingObjs with
  | [] => exact H.applyNewDeployment_upholds hvalid hnew
  | [d] =>
    refine pre_at (B := Held I K c) (fun _ hw => hw.1) ?_
    refine Triple.bind (Triple.each fun o _ => H.callOr_quiet fun w => quiet_deleteDeployment w _) fun _ => ?_
    refine Triple.bind (H.checkPods_upholds d) fun _ => ?_
    refine Triple.bind (H.finishRollout_upholds hvalid ⟨newDeployment, hnew, ?_⟩) fun _ => ?_
    · exact hmatching d (List.mem_singleton_self d)
    · exact Triple.pure fun _ hs => hs
  | _ :: _ :: _ => exact queue_at fun _ hw => hw.1.1

/-! ### Cleanup -/

theorem cleanupJob_upholds (d : Deployment) : Triple (At I) (cleanupJob d) (fun _ => At I) (fun _ => At I) := by
  refine read_at fun w => ?_
  refine Triple.ite (fun _ => ?_) fun _ => queue_at fun _ hw => hw
  refine Triple.bind (Triple.each fun j _ => Triple.ite (fun _ => ?_) fun _ => Triple.pure fun _ hs => hs) fun _ => ?_
  · exact H.callOr_quiet_last fun w => quiet_deleteJob w _
  · refine Triple.bind (Triple.each fun p _ => ?_) fun _ => queue_at fun _ hw => hw
    cases p.labels.bind (·.lookup "job-name") with
    | none => exact Triple.pure fun _ hs => hs
    | some jobName =>
      refine Triple.ite (fun _ => queue_at fun _ hw => hw) fun _ => ?_
      exact H.callOr_quiet_last fun w => quiet_deletePod w _

/-! ### From the validated config on -/

theorem deploymentChain_upholds (hvalid : Valid lib v) (deployments : List Deployment) :
    Triple (At fun w => Held I K v.cluster w ∧ Evidence v w) (deploymentChain lib idioms v deployments)
      (fun _ => At I) (fun _ => At I) := by
  refine Triple.bind (H.ensureDeployment_upholds hvalid deployments) fun d => ?_
  refine Triple.bind (H.ensurePDB_upholds v.config) fun _ => ?_
  exact H.cleanupJob_upholds d

theorem migrateAndDeploy_upholds (hvalid : Valid lib v) :
    Triple (At (Held I K v.cluster)) (migrateAndDeploy lib idioms v) (fun _ => At I) (fun _ => At I) := by
  refine look_at fun w hw => ?_
  rcases hroute : checkMigrations v w.cache.deployments w.cache.jobs with _ | _ | job
  · refine Triple.pre (H.deploymentChain_upholds hvalid w.cache.deployments) ?_
    rintro s rfl
    exact ⟨hw, evidence_of_route hroute⟩
  · refine Triple.bind (Triple.pre (H.runMigration_upholds hvalid w.cache.jobs) ?_) fun r => assume_at fun hr => ?_
    · rintro s rfl
      exact hw
    · refine Triple.bind (H.waitForMigrations_upholds hr.2) fun _ => ?_
      exact H.deploymentChain_upholds hr.1 w.cache.deployments
  · refine Triple.bind (Triple.pre (H.waitForMigrations_upholds (job_of_route hroute)) ?_) fun _ => ?_
    · rintro s rfl
      exact hw
    · exact H.deploymentChain_upholds hvalid w.cache.deployments

end UpholdsTail

/-! ## The whole chain -/

namespace UpholdsChain

variable {lib : Libraries} {idioms : Idioms lib} {resolver : PatchMetaResolver} {S : ClusterSpec → Prop}
  {I : World → Prop}
  {K : SpiceDBCluster → World → Prop} (H : UpholdsChain lib resolver S I K) {sender : Sender} {cluster : SpiceDBCluster}

include H

theorem pause_upholds :
    Triple (At (Held I K cluster)) (idioms.pause cluster)
      (fun c => At fun w => c.spec = cluster.spec ∧ Held I K c w) (fun _ => At I) := by
  rw [idioms.pause_eq]
  refine read_at fun w => ?_
  obtain ⟨htype, hgeneration⟩ := idioms.pausedCondition_fresh w.now
  refine Triple.ite (fun _ => Triple.ite (fun _ => ?_) fun _ => ?_) fun _ => Triple.ite (fun _ => ?_) fun _ => ?_
  · exact queue_at fun _ hw => hw.1
  · exact H.patchStatus_queue fun _ => H.set (htype ▸ by decide) hgeneration
  · refine Triple.conseq (pre_at (fun _ hw => ⟨hw.1, H.unpause hw.2⟩) H.patchStatus_keeps) (fun _ h => h) ?_
      fun _ _ h => h
    rintro _ s ⟨rfl, hs⟩
    exact ⟨rfl, hs⟩
  · exact Triple.pure fun _ hs => ⟨rfl, hs⟩

theorem reject_upholds {α : Type} {Q : α → Session → Prop} (now : Nat) (secretHash err : String) :
    Triple (At (Held I K cluster))
      (reject lib sender cluster (Condition.newInvalidConfigCondition now secretHash err)) Q
      (fun _ => At I) := by
  refine Triple.ite (fun _ => ?_) fun _ => ?_
  · exact queue_at fun _ hw => hw.1
  · exact H.patchStatus_queue fun _ => H.rejected now secretHash err

theorem validateSpec_upholds :
    Triple (At (Held I K cluster)) (validateSpec lib cluster) (fun _ => At (Held I K cluster)) (fun _ => At I) := by
  refine read_at fun w => ?_
  cases specError cluster.spec with
  | none => exact Triple.pure fun _ hs => hs
  | some err => exact H.reject_upholds w.now "" err

theorem missingSecret_upholds (name err : String) :
    Triple (At (Held I K cluster)) (missingSecret lib cluster name err) (fun _ => At (Held I K cluster))
      (fun _ => At I) := by
  refine read_at fun w => ?_
  refine Triple.bind (patchStatus_at (B := I) (fun _ hw => ?_) (fun _ hw => hw.1) fun _ hw => hw) fun _ => ?_
  · exact H.missing w.now name hw.1 hw.2
  · exact queue_at fun _ hw => hw.2

theorem adoptSecrets_upholds :
    Triple (At (Held I K cluster)) (adoptSecrets lib idioms cluster) (fun _ => At (Held I K cluster))
      (fun _ => At I) := by
  refine read_at fun w => Triple.each fun cs _ => ?_
  refine adopt_keeps (fun w _ => H.held_quiet (quiet_secretMeta w _)) (fun err => ?_) fun _ _ _ hs => hs.1
  exact H.missingSecret_upholds cs.1 err

theorem checkConfigChanged_upholds (secretHash : String) :
    Triple (At (Held I K cluster)) (checkConfigChanged lib cluster secretHash)
      (fun c => At fun w => c.spec = cluster.spec ∧ Held I K c w) (fun _ => At I) := by
  refine read_at fun w => ?_
  refine Triple.ite (fun _ => ?_) fun _ => ?_
  · refine Triple.bind (patchStatus_at (B := Held I K (changedCluster lib w.now cluster secretHash))
      (fun _ hw => H.changed w.now secretHash hw.1 hw.2) (fun _ hw => hw.1) fun _ hw => hw.1) fun c => assume_at ?_
    rintro rfl
    exact Triple.pure fun _ hs => ⟨rfl, hs⟩
  · exact Triple.pure fun _ hs => ⟨rfl, hs⟩

theorem validateConfig_upholds {secrets : GoMap Secret} {secretHash : String} (hS : S cluster.spec) :
    Triple (At (Held I K cluster)) (validateConfig lib resolver cluster secrets secretHash)
      (fun v => At fun w => Valid lib v ∧ Held I K v.cluster w) (fun _ => At I) := by
  refine look_at fun w hw => ?_
  have hI : ∀ w', w' = w → I w' := fun _ h => h ▸ hw.1
  refine Triple.bind (lift_at hI) fun result => assume_at fun hnew => ?_
  obtain ⟨result, warning⟩ := result
  cases result with
  | error err =>
    exact Triple.pre (H.reject_upholds w.now secretHash err) fun s hs => by
      rw [At, hs]; exact hw
  | ok config =>
    refine Triple.bind (availableVersionsOf_at w.operatorConfig config hI) fun availableVersions => ?_
    refine Triple.ite (fun hequals => ?_) fun _ => ?_
    · refine Triple.pure fun s hs => ⟨⟨rfl, equals_currentVersion hequals⟩, ?_⟩
      rw [hs]
      exact hw
    · refine Triple.bind (UpholdsTail.patchStatus_held (K := K) (fun w' hw' => ?_) hI) fun c => assume_at ?_
      · subst hw'
        exact H.accept w'.now availableVersions hS hw.1 hw.2 hnew
      · rintro rfl
        exact Triple.pure fun _ hs => ⟨⟨rfl, SpiceDBVersion.equalsPtr_self _⟩, hs⟩

/-- A reconcile keeps the invariant, however it ends, if its cache allows it. -/
theorem reconcile_upholds :
    Triple (At fun w => S w.cache.cluster.spec ∧ Held I K w.cache.cluster w) (reconcile lib idioms resolver)
      (fun _ => At I) (fun _ => At I) := by
  refine look_at fun w hw => ?_
  refine Triple.bind (Triple.pre H.pause_upholds ?_) fun cluster => assume_at fun hspec => ?_
  · rintro s rfl
    exact hw.2
  refine Triple.bind H.validateSpec_upholds fun _ => ?_
  refine Triple.bind H.adoptSecrets_upholds fun _ => ?_
  refine Triple.bind (H.checkConfigChanged_upholds _) fun cluster' => assume_at fun hspec' => ?_
  refine Triple.bind (H.validateConfig_upholds ?_) fun v => assume_at fun hvalid => ?_
  · rw [hspec', hspec]
    exact hw.1
  · refine Triple.bind (H.ensureComponents_upholds v.config) fun _ => ?_
    exact H.migrateAndDeploy_upholds hvalid

end UpholdsChain

/-! ## Invariants of the core of the status -/

/-- The part of a status that decides which version runs and whether a rollout is under way. -/
structure Core where
  currentVersion : Option SpiceDBVersion
  target : String
  current : String
  rolling : Bool

def ClusterStatus.core (lib : Libraries) (s : ClusterStatus) : Core :=
  { currentVersion := s.currentVersion
    target := s.targetMigrationHash
    current := s.currentMigrationHash
    rolling := lib.isStatusConditionTrue s.conditions Condition.typeRolling }

section Core

variable {lib : Libraries} (c : SpiceDBCluster)

theorem core_set_of_ne {new : Condition} (h : new.type ≠ Condition.typeRolling) :
    (c.setStatusCondition lib new).status.core lib = c.status.core lib := by
  simp only [SpiceDBCluster.setStatusCondition, ClusterStatus.core, lib.isStatusConditionTrue_set_of_ne _ _ h]

theorem core_remove_of_ne {type : String} (h : type ≠ Condition.typeRolling) :
    (c.removeStatusCondition lib type).status.core lib = c.status.core lib := by
  simp only [SpiceDBCluster.removeStatusCondition, ClusterStatus.core, lib.isStatusConditionTrue_remove_of_ne _ h]

theorem core_set_rolling (now : Nat) (message : String) :
    (c.setStatusCondition lib (Condition.newRollingCondition now message)).status.core lib =
      { c.status.core lib with rolling := true } := by
  have h := lib.isStatusConditionTrue_set_self c.status.conditions (Condition.newRollingCondition now message) rfl
  simp only [SpiceDBCluster.setStatusCondition, ClusterStatus.core]
  rw [← h]
  rfl

theorem core_remove_rolling :
    (c.removeStatusCondition lib Condition.typeRolling).status.core lib =
      { c.status.core lib with rolling := false } := by
  simp only [SpiceDBCluster.removeStatusCondition, ClusterStatus.core, lib.isStatusConditionTrue_remove_self]

theorem core_rolloutStarted (now : Nat) :
    (rolloutStarted lib now c).status.core lib =
      { c.status.core lib with current := (c.status.core lib).target, rolling := true } := by
  rw [rolloutStarted, core_set_rolling]
  rfl

@[simp] theorem core_patched : (patched c).status.core lib = c.status.core lib := rfl

theorem computedStatus_core (now : Nat) (config : Config) (warning : Option String) (migrationHash : String)
    (availableVersions : List SpiceDBVersion) :
    (computedStatus lib now c config warning migrationHash availableVersions).core lib =
      { c.status.core lib with currentVersion := config.migration.spiceDBVersion, target := migrationHash } := by
  have hfailed := lib.isStatusConditionTrue_remove_of_ne c.status.conditions
    (by decide : Condition.validatingFailed ≠ Condition.typeRolling)
  have hvalidating := lib.isStatusConditionTrue_remove_of_ne
    (lib.removeStatusCondition c.status.conditions Condition.validatingFailed)
    (by decide : Condition.typeValidating ≠ Condition.typeRolling)
  cases warning with
  | none =>
    simp only [computedStatus, ClusterStatus.core]
    rw [lib.isStatusConditionTrue_remove_of_ne _ (by decide), hvalidating, hfailed]
  | some warning =>
    simp only [computedStatus, ClusterStatus.core]
    rw [lib.isStatusConditionTrue_set_of_ne _ _ (by decide : Condition.typeConfigWarnings ≠ _), hvalidating, hfailed]

end Core

structure Upholds (lib : Libraries) (resolver : PatchMetaResolver) (S : ClusterSpec → Prop) (I : World → Prop)
    (M : Core → World → Prop) : Prop where
  /-- Store a status again, with other conditions. -/
  store : ∀ {w : World} {patch : SpiceDBCluster}, I w → M (patch.status.core lib) w →
    I (w.storeStatus patch) ∧ M (patch.status.core lib) (w.storeStatus patch)
  quiet : ∀ {w w' : World}, Quiet w w' → I w → I w' ∧ ∀ k, M k w → M k w'
  seen : ∀ {w : World} (job : Job), I w →
    I (w.record (.jobCompleted job)) ∧ ∀ k, M k w → M k (w.record (.jobCompleted job))
  /-- Store the status of a valid config. -/
  accept : ∀ {w : World} {cluster patch : SpiceDBCluster} {secrets : GoMap Secret} {config : Config}
    {warning : Option String}, S cluster.spec → I w → M (cluster.status.core lib) w →
    newConfig lib cluster w.operatorConfig secrets resolver = .ok (.ok config, warning) → patch.spec = cluster.spec →
    patch.status.core lib = { cluster.status.core lib with
      currentVersion := config.migration.spiceDBVersion
      target := lib.secureMigrationConfig config.migration } →
    I (w.storeStatus patch) ∧ M (patch.status.core lib) (w.storeStatus patch)
  roll : ∀ {w : World} {k : Core}, M k w → M { k with rolling := true } w
  /-- The end of a migration and the start of a rollout. -/
  start : ∀ {w : World} {k : Core}, M k w → M { k with current := k.target, rolling := true } w
  apply : ∀ {w : World} {v : Validated} {newDeployment : DeploymentApply} (name : String), I w → Valid lib v →
    Evidence v w → v.config.deployment lib v.migrationHash v.secretHash = .ok newDeployment →
    I (w.applyDeployment name (stamped lib newDeployment) v.config v.cluster.status) ∧
      ∀ k, M k w → M k (w.applyDeployment name (stamped lib newDeployment) v.config v.cluster.status)
  /-- The end of a rollout. -/
  finish : ∀ {w : World} {v : Validated} {d : Deployment}, I w → M (v.cluster.status.core lib) w → Valid lib v →
    RolledOut lib v.config v.migrationHash v.secretHash d →
    I (w.record (.rolledOut v.config v.migrationHash v.secretHash d)) ∧
      ∀ rolling, M { v.cluster.status.core lib with rolling }
        (w.record (.rolledOut v.config v.migrationHash v.secretHash d))

namespace Upholds

variable {lib : Libraries} {idioms : Idioms lib} {resolver : PatchMetaResolver} {S : ClusterSpec → Prop}
  {I : World → Prop} {M : Core → World → Prop} (H : Upholds lib resolver S I M)

include H

/-- The handlers' edits that leave the core alone need no leave. -/
theorem chain : UpholdsChain lib resolver S I fun p => M (p.status.core lib) where
  store := fun hI hK => H.store hI hK
  quiet := fun hquiet hI => ⟨(H.quiet hquiet hI).1, fun p => (H.quiet hquiet hI).2 (p.status.core lib)⟩
  seen := fun job hI => ⟨(H.seen job hI).1, fun p => (H.seen job hI).2 (p.status.core lib)⟩
  set := by
    intro w p new htype _ hK
    rw [core_set_of_ne]
    · exact hK
    · rintro heq
      rw [heq] at htype
      exact absurd htype (by decide)
  clear := by
    intro w p hK
    rw [core_remove_of_ne _ (by decide)]
    exact hK
  roll := by
    intro w p now message hK
    rw [core_set_rolling]
    exact H.roll hK
  start := by
    intro w p now hK
    rw [core_rolloutStarted]
    exact H.start hK
  apply := fun name hI hvalid hevidence hnew =>
    ⟨(H.apply name hI hvalid hevidence hnew).1, fun p => (H.apply name hI hvalid hevidence hnew).2 (p.status.core lib)⟩
  finish := by
    intro w v d hI hK hvalid hrolled
    rw [core_remove_rolling]
    exact ⟨(H.finish hI hK hvalid hrolled).1, (H.finish hI hK hvalid hrolled).2 false⟩
  unpause := by
    intro w p hK
    rw [core_remove_of_ne _ (by decide)]
    exact hK
  rejected := by
    intro w p now secretHash err hK
    rw [rejectedPatch, core_set_of_ne _ (by decide : Condition.validatingFailed ≠ _), core_remove_of_ne _ (by decide)]
    exact hK
  missing := by
    intro w p now name hI hK
    refine (H.store hI ?_).1
    rw [core_patched, missingSecretPatch, core_set_of_ne _ (by decide : Condition.typePreconditionsFailed ≠ _)]
    exact hK
  changed := by
    intro w p now secretHash hI hK
    refine @Upholds.store _ _ _ _ _ H w (patched (changedPatch lib now p secretHash)) hI ?_
    rw [core_patched, changedPatch, core_set_of_ne _ (by decide : Condition.typeValidating ≠ _),
      core_remove_of_ne _ (by decide)]
    exact hK
  accept := by
    intro w p secrets config warning now availableVersions hS hI hK hnew
    refine H.accept hS hI hK hnew rfl ?_
    rw [core_patched]
    exact computedStatus_core p now config warning _ availableVersions

/-- A reconcile keeps the invariant, however it ends, if its cache allows it. -/
theorem reconcile_upholds :
    Triple (At fun w => S w.cache.cluster.spec ∧ Held I M (w.cache.cluster.status.core lib) w)
      (reconcile lib idioms resolver) (fun _ => At I) (fun _ => At I) :=
  H.chain.reconcile_upholds

end Upholds

end SpiceDBOperator
