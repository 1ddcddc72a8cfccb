import SpiceDBOperator.Config.Neighbours
import SpiceDBOperator.Config.Order
import SpiceDBOperator.Controller.Outcomes
import SpiceDBOperator.Controller.Plain

/-!
# Faults of a reconcile

A fault in a handler is a panic of the operator's process, and with it the reconciles of all other clusters end. There
are two ways to one (`reconcile_faults_only`): the oracle uses the nil source of a default channel without a name, or
the disruption budget is built although the patches leave it no spec or no selector. The second comes only once the
deployment is rolled out, so it cuts off nothing but the cleanup. Every other handler goes on or stops with an operation
on the queue, whatever it reads and however its calls are answered.
-/

namespace SpiceDBOperator

open Golang Hoare Metadata Handler

/-! ## Programs that do not fault -/

/-- Where the program stops, it stops with an operation on the queue. -/
def NeverFaults {α : Type} (m : Handler α) : Prop :=
  Triple (fun _ => True) m (fun _ _ => True) (fun stop _ => ∀ f, stop ≠ .fault f)

/-- `D` holds if the reconcile faults. -/
def AtFault (D : World → Prop) (stop : Stop) (s : Session) : Prop := ∀ f, stop = .fault f → D s.world

section

variable {α β : Type} {m m' : Handler α}

theorem neverFaults_pure (a : α) : NeverFaults (pure a : Handler α) := Triple.pure fun _ _ => trivial

theorem neverFaults_act (f : Session → α × Session) : NeverFaults (act f : Handler α) := Triple.act fun _ _ => trivial

theorem neverFaults_queue (op : QueueOp) : NeverFaults (queue op : Handler α) := Triple.stop fun _ _ => nofun

theorem NeverFaults.bind {f : α → Handler β} (h : NeverFaults m) (hf : ∀ a, NeverFaults (f a)) :
    NeverFaults (m >>= f) :=
  Triple.bind h hf

theorem NeverFaults.ite {c : Prop} [Decidable c] (hpos : NeverFaults m) (hneg : NeverFaults m') :
    NeverFaults (if c then m else m') :=
  Triple.ite (fun _ => hpos) fun _ => hneg

theorem NeverFaults.each {xs : List α} {body : α → Handler Unit} (h : ∀ x, NeverFaults (body x)) :
    NeverFaults (each xs body) :=
  Triple.each fun x _ => h x

/-- A look at the world. -/
theorem NeverFaults.look {f : World → Handler α} (h : ∀ w, NeverFaults (f w)) : NeverFaults (world >>= f) :=
  (neverFaults_act _).bind h

/-- A computation that returns. -/
theorem NeverFaults.returned {x : Go β} {b : β} (hx : x = .ok b) {f : β → Handler α} (h : NeverFaults (f b)) :
    NeverFaults (lift x >>= f) := by
  rw [hx]
  exact h

theorem neverFaults_callOr (failed : String → QueueOp) (x : Call) : NeverFaults (callOr failed x) := by
  refine (neverFaults_act _).bind fun err => ?_
  cases err with
  | none => exact neverFaults_pure ()
  | some err => exact neverFaults_queue _

theorem neverFaults_patchStatus (sender : Sender) (failed : String → QueueOp) (patch : SpiceDBCluster) :
    NeverFaults (patchStatus sender failed patch) :=
  (neverFaults_callOr _ _).bind fun _ => neverFaults_pure _

/-- A patch after which the reconcile ends. -/
theorem neverFaults_report (sender : Sender) (failed : String → QueueOp) (patch : SpiceDBCluster) (op : QueueOp) :
    NeverFaults (do let _ ← patchStatus sender failed patch; queue op : Handler α) :=
  (neverFaults_patchStatus _ _ _).bind fun _ => neverFaults_queue _

theorem Confined.neverFaults {allowed : Call → Prop} {given : Set (Handler Unit)} {m : Handler Unit}
    (h : Confined allowed given m) (hgiven : ∀ p ∈ given, NeverFaults p) : NeverFaults m :=
  h _ _ (fun _ _ => neverFaults_act _) hgiven fun _ _ _ _ => nofun

/-- What is known of the end of a program that does not fault. -/
theorem NeverFaults.triple {P : Session → Prop} {Q : α → Session → Prop} {E : Stop → Session → Prop} {D : World → Prop}
    (hm : NeverFaults m) (h : Triple P m Q E) : Triple P m Q (AtFault D) :=
  (h.and (hm.pre fun _ _ => trivial)).conseq (fun _ => id) (fun _ _ hs => hs.1) fun _ _ hs f hstop =>
    absurd hstop (hs.2 f)

end

/-! ## The handlers -/

section

variable {lib : Libraries} {idioms : Idioms lib} {α : Type}

theorem pause_neverFaults (c : SpiceDBCluster) : NeverFaults (idioms.pause c) := by
  rw [idioms.pause_eq]
  refine NeverFaults.look fun w => .ite (.ite (neverFaults_queue _) ?_) (.ite ?_ (neverFaults_pure _))
  · exact neverFaults_report _ _ _ _
  · exact neverFaults_patchStatus _ _ _

theorem reject_neverFaults (sender : Sender) (c : SpiceDBCluster) (failed : Condition) :
    NeverFaults (reject lib sender c failed : Handler α) :=
  .ite (neverFaults_queue _) (neverFaults_report _ _ _ _)

theorem validateSpec_neverFaults (c : SpiceDBCluster) : NeverFaults (validateSpec lib c) := by
  refine NeverFaults.look fun w => ?_
  cases specError c.spec with
  | none => exact neverFaults_pure ()
  | some err => exact reject_neverFaults _ _ _

theorem adoptSecrets_neverFaults (c : SpiceDBCluster) : NeverFaults (adoptSecrets lib idioms c) := by
  refine NeverFaults.look fun w => NeverFaults.each fun cs => ?_
  refine (idioms.adopt_confined _ _ _ _ _ _ _).neverFaults ?_
  rintro _ ⟨err, rfl⟩
  exact NeverFaults.look fun w => neverFaults_report _ _ _ _

theorem checkConfigChanged_neverFaults (c : SpiceDBCluster) (secretHash : String) :
    NeverFaults (checkConfigChanged lib c secretHash) := by
  refine NeverFaults.look fun _ => .ite ?_ (neverFaults_pure _)
  exact (neverFaults_patchStatus _ _ _).bind fun _ => neverFaults_pure _

/-- `AvailableVersions` returns for every graph. -/
theorem availableVersionsOf_neverFaults (operatorConfig : OperatorConfig) (config : Config) :
    NeverFaults (availableVersionsOf operatorConfig config) := by
  unfold availableVersionsOf
  cases config.migration.spiceDBVersion with
  | none => exact neverFaults_pure _
  | some version =>
    obtain ⟨result, hreturned⟩ :=
      operatorConfig.updateGraph.availableVersions_returns config.migration.datastoreEngine version
    refine NeverFaults.returned hreturned ?_
    cases result with
    | ok versions => exact neverFaults_pure _
    | error err => exact neverFaults_queue _

theorem ensureComponent_neverFaults {K : Type} (of : K → ComponentApply) {build : Go K} {o : K} {name : String}
    (hbuilt : build = .ok o) (hname : (of o).metadata.name = some name) :
    NeverFaults (ensureComponent lib idioms of build) := by
  refine NeverFaults.look fun w => NeverFaults.returned hbuilt (NeverFaults.returned (deref_eq_ok.2 hname) ?_)
  exact (idioms.ensure_confined _ _ _).neverFaults fun _ hp => hp.elim

theorem ensureComponents_neverFaults (config : Config) : NeverFaults (ensureComponents lib idioms config) := by
  obtain ⟨_, hserviceAccount, hnamed⟩ := config.serviceAccount_owned lib
  refine (ensureComponent_neverFaults .serviceAccount hserviceAccount hnamed.name_eq).bind fun _ => ?_
  obtain ⟨_, hrole, hnamed⟩ := config.role_owned lib
  refine (ensureComponent_neverFaults .role hrole hnamed.name_eq).bind fun _ => ?_
  obtain ⟨_, hservice, hnamed, -⟩ := config.service_owned lib
  refine (ensureComponent_neverFaults .service hservice hnamed.name_eq).bind fun _ => ?_
  obtain ⟨_, hroleBinding, hnamed⟩ := config.roleBinding_owned lib
  exact ensureComponent_neverFaults .roleBinding hroleBinding hnamed.name_eq

/-- The job has a name, whatever the patches do. -/
theorem runMigration_neverFaults (v : Validated) (jobs : List Job) : NeverFaults (runMigration lib v jobs) := by
  obtain ⟨job, hbuilt, howned, -⟩ := v.config.migrationJob_owned lib v.migrationHash
  refine NeverFaults.look fun w => (neverFaults_patchStatus _ _ _).bind fun c => ?_
  dsimp only
  refine Triple.ite_join ?_ fun _ hrest => ?_
  · refine (NeverFaults.each fun o => neverFaults_callOr _ _).bind fun _ => ?_
    split
    · exact neverFaults_pure _
    · exact neverFaults_queue _
  · refine NeverFaults.returned hbuilt (NeverFaults.returned (deref_eq_ok.2 howned.name_eq) ?_)
    exact (neverFaults_callOr _ _).bind fun _ => hrest

theorem waitForMigrations_neverFaults (v : Validated) (job : Job) :
    NeverFaults (waitForMigrations lib idioms v job) := by
  refine NeverFaults.look fun w => ?_
  split
  · rw [idioms.selfPause_eq]
    refine NeverFaults.look fun w => (neverFaults_patchStatus _ _ _).bind fun c => ?_
    exact (neverFaults_callOr _ _).bind fun _ => neverFaults_queue _
  · exact .ite (neverFaults_act _) (neverFaults_queue _)

theorem checkPods_neverFaults (c : SpiceDBCluster) (d : Deployment) : NeverFaults (checkPods lib c d) := by
  refine NeverFaults.look fun w => .ite ?_ (neverFaults_pure ())
  cases podError w.cache.deploymentPods with
  | none => exact neverFaults_pure ()
  | some message => exact neverFaults_report _ _ _ _

theorem finishRollout_neverFaults (v : Validated) (d : Deployment) : NeverFaults (finishRollout lib v d) := by
  refine NeverFaults.look fun w => .ite (neverFaults_report _ _ _ _) ?_
  refine (neverFaults_act _).bind fun _ => .ite ?_ (neverFaults_pure ())
  exact (neverFaults_patchStatus _ _ _).bind fun _ => neverFaults_pure ()

/-- So does the deployment have a name. -/
theorem applyNewDeployment_neverFaults (v : Validated) {d : DeploymentApply} {name : String}
    (hname : d.metadata.name = some name) (deploymentHash : String) :
    NeverFaults (applyNewDeployment lib v d deploymentHash : Handler α) := by
  have hnamed : (lib.withAnnotations (mapOf [(configKey, deploymentHash)]) d.metadata).name = some name := by simpa
  refine NeverFaults.look fun w => NeverFaults.returned (deref_eq_ok.2 hnamed) ?_
  refine (neverFaults_act _).bind fun err => ?_
  cases err with
  | some err => exact neverFaults_report _ _ _ _
  | none => exact .ite (neverFaults_report _ _ _ _) (neverFaults_queue _)

theorem ensureDeployment_neverFaults (v : Validated) (deployments : List Deployment) :
    NeverFaults (ensureDeployment lib v deployments) := by
  obtain ⟨d, hbuilt, hintact⟩ := v.config.deployment_intact lib v.migrationHash v.secretHash
  refine NeverFaults.bind (NeverFaults.look fun w => .ite (neverFaults_patchStatus _ _ _) (neverFaults_pure _))
    fun c => ?_
  refine NeverFaults.returned hbuilt ?_
  dsimp only
  split
  · refine (NeverFaults.each fun o => neverFaults_callOr _ _).bind fun _ => ?_
    refine (checkPods_neverFaults _ _).bind fun _ => ?_
    exact (finishRollout_neverFaults _ _).bind fun _ => neverFaults_pure _
  · exact applyNewDeployment_neverFaults _ hintact.owned.name_eq _
  · exact neverFaults_queue _

theorem cleanupJob_neverFaults (d : Deployment) : NeverFaults (cleanupJob d) := by
  refine NeverFaults.look fun w => .ite ?_ (neverFaults_queue _)
  refine (NeverFaults.each fun j => .ite (neverFaults_callOr _ _) (neverFaults_pure ())).bind fun _ => ?_
  refine NeverFaults.bind (NeverFaults.each fun p => ?_) fun _ => neverFaults_queue _
  split
  · exact neverFaults_pure ()
  · exact .ite (neverFaults_queue _) (neverFaults_callOr _ _)

end

/-! ## The two that can -/

section

variable {lib : Libraries} {idioms : Idioms lib} {resolver : PatchMetaResolver} {w : World}

/-- `NewConfig` faults in the oracle or not at all. -/
theorem newConfig_faults {cluster : SpiceDBCluster} {globalConfig : OperatorConfig} {secrets : GoMap Secret} {f : Fault}
    (h : newConfig lib cluster globalConfig secrets resolver = .error f) :
    ∃ raw, cluster.spec.config = some (.ok raw) ∧ OraclePanics lib cluster globalConfig raw := by
  rcases hraw : cluster.spec.config with _ | _ | raw
  · simp only [newConfig, hraw] at h
    cases h
  · simp only [newConfig, hraw] at h
    cases h
  refine ⟨raw, rfl, by_contra fun hreturns => ?_⟩
  obtain ⟨target, htarget⟩ := targetOf_returns_iff.2 hreturns
  obtain ⟨y, houtcome, -⟩ := readConfig_exec lib secrets resolver hraw htarget
  rw [newConfig_eq lib secrets resolver hraw, houtcome] at h
  cases h

/-- Why a reconcile that began in `w` may fault in `w'`. -/
inductive FaultsFor (lib : Libraries) (resolver : PatchMetaResolver) (w w' : World) : Prop
  | oracle (raw : RawConfig) (hraw : w.cache.cluster.spec.config = some (.ok raw))
      (hpanics : OraclePanics lib w.cache.cluster w.operatorConfig raw)
  | budget (config : Config) (hconfig : ConfigIs lib resolver w (.ok config))
      (henabled : config.spice.pdb.disabled = false) (hpatched : ¬ config.PDBIntact lib)
      (hinPlace : ∃ c d, Leaves w c w' ∧ InPlace lib w c.status w' config d)

theorem validateConfig_faults {c : SpiceDBCluster} :
    Triple (At (Begun lib w c)) (validateConfig lib resolver c w.collected (w.secretHash lib))
      (fun v => At fun w' => Computed lib resolver w v ∧ Leaves w v.cluster w')
        (AtFault (FaultsFor lib resolver w)) := by
  have hfaults :
      Triple (At (Begun lib w c)) (validateConfig lib resolver c w.collected (w.secretHash lib)) (fun _ _ => True)
      (AtFault (FaultsFor lib resolver w)) := by
    refine look_at fun w₁ hw => ?_
    cases hnew : newConfig lib c w₁.operatorConfig w.collected resolver with
    | error f =>
      rw [hw.newConfig_eq, hw.1.operatorConfig] at hnew
      obtain ⟨raw, hraw, hpanics⟩ := newConfig_faults hnew
      exact Triple.bind (Q := fun _ _ => False) (Triple.stop fun _ _ _ _ => .oracle raw hraw hpanics) fun _ =>
        ⟨fun _ h => h.elim⟩
    | ok r =>
      refine NeverFaults.triple ?_ Triple.trivially
      refine NeverFaults.returned rfl ?_
      rcases r with ⟨err | config, warning⟩
      · exact reject_neverFaults _ _ _
      · refine (availableVersionsOf_neverFaults _ _).bind fun _ => .ite (neverFaults_pure _) ?_
        exact (neverFaults_patchStatus _ _ _).bind fun _ => neverFaults_pure _
  exact (validateConfig_done.and hfaults).conseq (fun _ => id) (fun _ _ hs => hs.1) fun _ _ hs => hs.2

variable {v : Validated}

theorem ensurePDB_faults {d : Deployment} (hconfig : ConfigIs lib resolver w (.ok v.config)) :
    Triple (At fun w' => ∃ c, Leaves w c w' ∧ InPlace lib w c.status w' v.config d) (ensurePDB lib idioms v.config)
      (fun _ _ => True) (AtFault (FaultsFor lib resolver w)) := by
  refine Triple.ite (fun _ => ?_) fun henabled => ?_
  · refine NeverFaults.triple (NeverFaults.look fun w => NeverFaults.each fun pdb => ?_) Triple.trivially
    exact .ite ((neverFaults_act _).bind fun _ => neverFaults_pure ()) (neverFaults_pure ())
  · cases hbuilt : v.config.podDisruptionBudget lib with
    | ok o =>
      have hnamed := (v.config.podDisruptionBudget_named lib hbuilt).1
      exact NeverFaults.triple (ensureComponent_neverFaults .podDisruptionBudget rfl hnamed) Triple.trivially
    | error f =>
      refine read_at fun w₁ => Triple.bind (Q := fun _ _ => False) (Triple.stop fun s hs _ _ => ?_) fun _ =>
        ⟨fun _ h => h.elim⟩
      obtain ⟨c, hleaves, hinPlace⟩ := hs
      refine .budget v.config hconfig (Bool.eq_false_iff.2 henabled) ?_ ⟨c, d, hleaves, hinPlace⟩
      rintro ⟨o, _, _, ho, _⟩
      rw [hbuilt] at ho
      cases ho

theorem deploymentChain_faults (hv : Computed lib resolver w v) :
    Triple (At (Leaves w v.cluster)) (deploymentChain lib idioms v w.cache.deployments) (fun _ _ => True)
      (AtFault (FaultsFor lib resolver w)) := by
  refine Triple.bind ((ensureDeployment_neverFaults _ _).triple (ensureDeployment_done hv)) fun d => ?_
  refine Triple.bind (ensurePDB_faults hv.config) fun _ => ?_
  exact (cleanupJob_neverFaults d).triple Triple.trivially

theorem migrateAndDeploy_faults (hv : Computed lib resolver w v) :
    Triple (At (Leaves w v.cluster)) (migrateAndDeploy lib idioms v) (fun _ _ => True)
      (AtFault (FaultsFor lib resolver w)) := by
  refine look_at fun w₁ hw => ?_
  have hback : ∀ w', w' = w₁ → Leaves w v.cluster w' := fun _ h => h ▸ hw
  rw [hw.cache]
  refine pre_at hback ?_
  rcases hroute : checkMigrations v w.cache.deployments w.cache.jobs with _ | _ | job
  · exact deploymentChain_faults hv
  · refine Triple.bind ((runMigration_neverFaults _ _).triple (runMigration_done hv)) fun r => assume_at fun hr => ?_
    refine Triple.bind ((waitForMigrations_neverFaults _ _).triple (waitForMigrations_done hr.1 hr.2)) fun _ => ?_
    exact deploymentChain_faults hr.1
  · have hjob := awaitedJob_of_route hroute
    refine Triple.bind ((waitForMigrations_neverFaults _ _).triple (waitForMigrations_done hv hjob)) fun _ => ?_
    exact deploymentChain_faults hv

theorem reconcile_faults :
    Triple (At (· = w)) (reconcile lib idioms resolver) (fun _ _ => True) (AtFault (FaultsFor lib resolver w)) := by
  refine look_at ?_
  rintro w rfl
  refine Triple.bind ((pause_neverFaults _).triple (@pause_done lib idioms resolver w)) fun c => ?_
  refine pre_at (fun w' hw => (⟨hw.1.spec, hw⟩ : c.spec = w.cache.cluster.spec ∧ Begun lib w c w'))
    (assume_at fun hspec => ?_)
  refine Triple.bind ((validateSpec_neverFaults _).triple (@validateSpec_done lib resolver w c)) fun _ => ?_
  refine Triple.bind ((adoptSecrets_neverFaults _).triple (adoptSecrets_done (D := fun _ => True))) fun _ => ?_
  rw [hspec]
  have hchanged := @checkConfigChanged_done lib w c (fun _ => True) (w.secretHash lib)
  refine Triple.bind ((checkConfigChanged_neverFaults _ _).triple hchanged) fun c' => ?_
  refine Triple.bind validateConfig_faults fun v => assume_at fun hv => ?_
  refine Triple.bind ((ensureComponents_neverFaults v.config).triple (ensureComponents_done (D := fun _ => True)
    (fun _ _ hw => hw.frame rfl rfl rfl) v.config)) fun _ => ?_
  exact migrateAndDeploy_faults hv

end

/-- **A reconcile faults only in the oracle or in the disruption budget.** Whatever the caches hold and however the
calls are answered: if a reconcile panics, the default channel that the cached cluster is on has no name, or the config
is accepted, its budget is enabled, and the patches leave the budget no selector. In the second case the deployment is
rolled out, and only the cleanup is cut off. -/
theorem reconcile_faults_only (lib : Libraries) (idioms : Idioms lib) (resolver : PatchMetaResolver) (s s' : Session)
    (f : Fault) (h : exec (reconcile lib idioms resolver) s = (.error (.fault f), s')) :
    FaultsFor lib resolver s.world s'.world := by
  have hfaults :
      Triple (At (· = s.world)) (reconcile lib idioms resolver) _ (AtFault (FaultsFor lib resolver s.world)) :=
    reconcile_faults
  have hrun := hfaults.run s rfl
  rw [h] at hrun
  exact hrun f rfl

/-- A cluster whose patch takes the spec out of the budget; there is no migration to run. -/
def budgetlessCluster : SpiceDBCluster :=
  let small := smallCluster "v1"
  let config :=
    mapOf [("datastoreEngine", .string "postgres"), ("skipTLSWarning", .bool true), ("skipMigrations", .bool true)]
  let removal : Patch := { kind := "PodDisruptionBudget", patch := "\x7b\"op\": \"remove\", \"path\": \"/spec\"\x7d" }
  { small with
    resourceVersion := some 1, spec := { small.spec with config := some (.ok config), patches := [removal] } }

/-- Its deployment has become available. -/
def budgetlessWorld : World :=
  run specRemoving plainIdioms plainResolver
    { smallWorld UpdateGraph.twoReleases "v1" with
      api.cluster := budgetlessCluster, cache.cluster := budgetlessCluster }
    (reconciles [0, 1, 2] ++
      [.updateDeployment smallDeployment 1 (some 2)
        { observedGeneration := 1, updatedReplicas := 2, replicas := 2, availableReplicas := 2, readyReplicas := 2 },
        .syncDeployments [smallDeployment]])

/-- Both happen: in an installation from the unnamed default channel, and with the patch that takes the spec out of the
budget, once the deployment is available. -/
theorem reconcile_faults_both :
    ((exec (reconcile plain plainIdioms plainResolver) { world := smallWorld UpdateGraph.unnamedChannel "" }).1 =
        .error (.fault .nilDereference) ∧
      FaultsFor plain plainResolver (smallWorld UpdateGraph.unnamedChannel "")
        (exec (reconcile plain plainIdioms plainResolver)
          { world := smallWorld UpdateGraph.unnamedChannel "" }).2.world) ∧
    ((exec (reconcile specRemoving plainIdioms plainResolver) { world := budgetlessWorld }).1 =
        .error (.fault .nilDereference) ∧
      FaultsFor specRemoving plainResolver budgetlessWorld
        (exec (reconcile specRemoving plainIdioms plainResolver) { world := budgetlessWorld }).2.world) := by
  have hchannel : (exec (reconcile plain plainIdioms plainResolver)
      { world := smallWorld UpdateGraph.unnamedChannel "" }).1 = .error (.fault .nilDereference) := rfl
  have hbudget : (exec (reconcile specRemoving plainIdioms plainResolver) { world := budgetlessWorld }).1 =
      .error (.fault .nilDereference) := by decide +kernel
  refine ⟨⟨hchannel, ?_⟩, hbudget, ?_⟩
  · exact reconcile_faults_only plain plainIdioms plainResolver { world := smallWorld UpdateGraph.unnamedChannel "" } _
      .nilDereference (by rw [← hchannel])
  · exact reconcile_faults_only specRemoving plainIdioms plainResolver { world := budgetlessWorld } _ .nilDereference
      (by rw [← hbudget])

end SpiceDBOperator
