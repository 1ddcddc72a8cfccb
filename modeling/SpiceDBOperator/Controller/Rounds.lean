import SpiceDBOperator.Config.Neighbours
import SpiceDBOperator.Controller.Stages

/-!
# One round

From a world whose caches are up to date a reconcile brings the rollout of its config from one stage to the next
(`Ready.advances`). Nothing fails in it but a status patch that comes after one which changed something.

A reconcile goes along the chain with `Going`: what is in memory is stored, and either nothing has been patched yet, so
that the next patch is not refused, or it does not matter if it is. What does not matter depends on the rounds that may
be left (`Slack`).
-/

namespace SpiceDBOperator

open Golang Hoare Metadata Handler

/-! ## In a reconcile -/

/-- In a reconcile that began in `w`, with `c` in memory: its status is stored, and nothing else has changed. -/
structure Holding (w : World) (c : SpiceDBCluster) (w' : World) : Prop where
  object : ∃ status, c = { w.api.cluster with status }
  stored : ∃ resourceVersion, w'.api.cluster = { c with resourceVersion }
  secrets : w'.api.secrets = w.api.secrets
  deployments : w'.api.deployments = w.api.deployments
  jobs : w'.api.jobs = w.api.jobs
  operatorConfig : w'.operatorConfig = w.operatorConfig
  cache : w'.cache = w.cache

/-- No status patch has changed anything. -/
def Unpatched (w w' : World) : Prop := w'.api.cluster.resourceVersion = w.api.cluster.resourceVersion

/-- The next status patch is not refused, or `slack`. -/
def Going (slack : Prop) (w : World) (c : SpiceDBCluster) (w' : World) : Prop :=
  Holding w c w' ∧ (Unpatched w w' ∨ slack)

/-- Without jobs the reconcile may end with `k` rounds to go. -/
def Slack (w : World) (k b : Nat) : Prop := w.api.jobs = [] ∧ k ≤ b

theorem Slack.mono {w : World} {j k b : Nat} (hjk : j ≤ k) (h : Slack w k b) : Slack w j b := ⟨h.1, hjk.trans h.2⟩

section

variable {lib : Libraries} {w w' w'' : World} {c : SpiceDBCluster} {p : Plan}

theorem Holding.begin (w : World) : Holding w w.api.cluster w := ⟨⟨_, rfl⟩, ⟨_, rfl⟩, rfl, rfl, rfl, rfl, rfl⟩

namespace Holding

variable (h : Holding w c w')

include h

theorem store (patch : SpiceDBCluster) : Holding w { c with status := patch.status } (w'.storeStatus patch) := by
  obtain ⟨status, rfl⟩ := h.object
  obtain ⟨resourceVersion, hstored⟩ := h.stored
  refine ⟨⟨_, rfl⟩, ⟨(w'.storeStatus patch).api.cluster.resourceVersion, ?_⟩, h.secrets, h.deployments, h.jobs,
    h.operatorConfig, h.cache⟩
  simp only [World.storeStatus, World.record, hstored]

/-- What is not about the objects a rollout is about. -/
theorem frame (hcluster : w''.api.cluster = w'.api.cluster) (hsecrets : w''.api.secrets = w'.api.secrets)
    (hdeployments : w''.api.deployments = w'.api.deployments) (hjobs : w''.api.jobs = w'.api.jobs)
    (hconfig : w''.operatorConfig = w'.operatorConfig) (hcache : w''.cache = w'.cache) : Holding w c w'' :=
  ⟨h.object, hcluster ▸ h.stored, hsecrets.trans h.secrets, hdeployments.trans h.deployments, hjobs.trans h.jobs,
    hconfig.trans h.operatorConfig, hcache.trans h.cache⟩

theorem status : w'.api.cluster.status = c.status := by
  obtain ⟨resourceVersion, hstored⟩ := h.stored
  rw [hstored]

theorem generation : w'.api.cluster.generation = c.generation := by
  obtain ⟨resourceVersion, hstored⟩ := h.stored
  rw [hstored]

theorem name : w'.api.cluster.name = w.api.cluster.name := by
  obtain ⟨status, hc⟩ := h.object
  obtain ⟨resourceVersion, hstored⟩ := h.stored
  rw [hstored, hc]

theorem left : ∃ status resourceVersion, w'.api.cluster = { w.api.cluster with status, resourceVersion } := by
  obtain ⟨status, rfl⟩ := h.object
  obtain ⟨resourceVersion, hstored⟩ := h.stored
  exact ⟨status, resourceVersion, hstored⟩

/-- A patch carries the resource version that was read. -/
theorem accepted {sender : Sender} {patch : SpiceDBCluster} (hpatch : patch.resourceVersion = c.resourceVersion)
    (hunpatched : Unpatched w w') : w'.refusal (.storeStatus sender patch) = none := by
  obtain ⟨status, rfl⟩ := h.object
  rw [World.refusal, hpatch]
  cases hversion : w.api.cluster.resourceVersion with
  | none => rfl
  | some version => exact if_pos (hunpatched.trans hversion)

theorem unpatched_store {patch : SpiceDBCluster} (hpatch : patch.status = c.status) (hunpatched : Unpatched w w') :
    Unpatched w (w'.storeStatus patch) := by
  have hsame : w'.api.cluster.status = patch.status := h.status.trans hpatch.symm
  simp only [Unpatched, World.storeStatus, World.record, if_pos hsame]
  exact hunpatched

theorem tidy (htidy : Tidy lib w) : Tidy lib w' := by
  unfold Tidy Current
  rw [h.deployments, h.name]
  exact htidy

theorem recorded (hc : Recorded lib p c) : Recorded lib p w'.api.cluster := hc.report (.of_status h.generation h.status)

theorem observed {secretHash : String} (hc : Observed lib secretHash c) : Observed lib secretHash w'.api.cluster :=
  hc.report (.of_status h.generation h.status)

theorem migrated (hc : Migrated lib c) : Migrated lib w'.api.cluster := by
  constructor
  · rw [h.status]
    exact hc.current
  · rw [h.status]
    exact hc.migrating

theorem isStatusConditionTrue (type : String) :
    w'.api.cluster.isStatusConditionTrue lib type = c.isStatusConditionTrue lib type := by
  simp only [SpiceDBCluster.isStatusConditionTrue, h.status]

end Holding

/-! ## Rules -/

variable {slack slack' : Prop} {E : Stop → Session → Prop} {sender : Sender} {failed : String → QueueOp}
  {patch : SpiceDBCluster}

/-- A patch that is refused comes after one that changed something. -/
theorem patchStatus_going (hpatch : ∃ status, patch = { c with status }) (hslack : slack')
    (hrefused : slack → ∀ stop s, At (Holding w c) s → E stop s) :
    Triple (Served (Going slack w c)) (patchStatus sender failed patch)
      (fun c' s => c' = patched patch ∧ Served (Going slack' w (patched patch)) s) E := by
  obtain ⟨status, rfl⟩ := hpatch
  refine (patchStatus_answered (B := Going slack' w _) (C := fun w' => slack ∧ Holding w c w') (fun w' hw _ => ?_)
    fun w' hw hne => ?_).conseq (fun _ hs => hs) (fun _ _ hs => hs) fun stop s hs => hrefused hs.1 stop s hs.2
  · have hholding : Holding w (patched { c with status }) _ := hw.1.store (patched { c with status })
    exact ⟨hholding, Or.inr hslack⟩
  · exact ⟨hw.2.resolve_left fun hunpatched => hne (hw.1.accepted rfl hunpatched), hw.1⟩

/-- A patch that changes nothing. -/
theorem patchStatus_same (hpatch : patched patch = c) (hslack : slack → slack')
    (hrefused : slack → ∀ stop s, At (Holding w c) s → E stop s) :
    Triple (Served (Going slack w c)) (patchStatus sender failed patch)
      (fun c' s => c' = c ∧ Served (Going slack' w c) s) E := by
  refine (patchStatus_answered (B := Going slack' w c) (C := fun w' => slack ∧ Holding w c w') (fun w' hw _ => ?_)
    fun w' hw hne => ?_).conseq (fun _ hs => hs) (fun _ _ hs => ⟨hs.1.trans hpatch, hs.2⟩)
    fun stop s hs => hrefused hs.1 stop s hs.2
  · have hholding : Holding w c (w'.storeStatus c) := hw.1.store c
    rw [hpatch]
    exact ⟨hholding, hw.2.imp (hw.1.unpatched_store rfl) hslack⟩
  · rw [hpatch] at hne
    exact ⟨hw.2.resolve_left fun hunpatched => hne (hw.1.accepted rfl hunpatched), hw.1⟩

/-- A patch after which the reconcile ends, refused or not. -/
theorem patchStatus_last {α : Type} {Q : α → Session → Prop} {op : QueueOp} {C : World → Prop}
    (hpatch : ∃ status, patch = { c with status }) (hstored : ∀ w', Holding w (patched patch) w' → C w')
    (hrefused : ∀ w', Holding w c w' → C w') :
    Triple (Served (Going slack w c)) (do let _ ← patchStatus sender failed patch; queue op) Q (fun _ => At C) := by
  refine Triple.bind (patchStatus_going hpatch trivial fun _ _ s hs => hrefused s.world hs) fun _ => ?_
  exact Triple.stop fun s hs => hstored s.world hs.2.2.2.1

end

/-! ## Up to the validated config -/

section

variable {lib : Libraries} {idioms : Idioms lib} {resolver : PatchMetaResolver} {w : World} {c : SpiceDBCluster}
  {slack : Prop}
  {E : Stop → Session → Prop}

theorem pause_passes (hlabel : pausedControllerSelectorKey ∉ c.labels)
    (hslack : (c.findStatusCondition lib typePaused).isSome → slack) :
    Triple (Served (Going False w c)) (idioms.pause c)
      (fun c' s => c' = unpaused lib c ∧ Served (Going slack w (unpaused lib c)) s) E := by
  rw [idioms.pause_eq]
  refine read_served fun _ => Triple.ite (fun h => absurd h hlabel) fun _ => ?_
  refine Triple.ite (fun hpaused => ?_) fun hpaused => ?_
  · rw [unpaused, if_pos hpaused]
    exact patchStatus_going ⟨_, rfl⟩ (hslack hpaused) fun h => h.elim
  · rw [unpaused, if_neg hpaused]
    exact Triple.pure fun _ hs => ⟨rfl, hs.1, hs.2.1, hs.2.2.1, hs.2.2.2.imp_right False.elim⟩

theorem validateSpec_passes {A : World → Prop} (hspec : specError c.spec = none) :
    Triple (Served A) (validateSpec lib c) (fun _ => Served A) E := by
  refine read_served fun _ => ?_
  rw [hspec]
  exact Triple.pure fun _ hs => hs

theorem missingSecret_succeeds {A : World → Prop} (name err : String) :
    Triple (Served A) (missingSecret lib c name err) (fun _ => Served A) fun _ s => s.failures = [] := by
  refine read_served fun _ => Triple.bind (Q := fun _ => Served fun _ => True) ?_ fun _ =>
    Triple.stop fun _ hs => hs.2.1
  exact Triple.bind (callOr_served (fun _ _ => rfl) fun _ _ => trivial) fun _ => Triple.pure fun _ hs => hs

/-- With all secrets there, adoption does not fail. -/
theorem adoptSecrets_passes {A : World → Prop} (hA : ∀ w secretMeta, A w → A { w with api.secretMeta := secretMeta })
    (hsecrets : ∀ w, A w → ∀ cs ∈ credentialSecretsForCluster c.spec, cs.1 ∈ w.api.secrets) :
    Triple (Served A) (adoptSecrets lib idioms c) (fun _ => Served A) E := by
  refine read_served fun w₁ => Triple.each fun cs hcs => ?_
  refine (idioms.adopt_confined _ _ _ _ _ _ _).served
    (idioms.adopt_strict _ _ _ _ _ _ _ (missingSecret_reports cs.1)) ?_ ?_
  · rintro x (rfl | ⟨n, metadata, -, rfl⟩) w hw
    · exact ⟨if_pos (hsecrets w hw cs hcs), hw⟩
    · exact ⟨rfl, hA w _ hw⟩
  · rintro _ ⟨err, rfl⟩
    exact missingSecret_succeeds cs.1 err

/-- The patch for a changed config has no resource version, and is not refused. -/
theorem checkConfigChanged_passes {secretHash : String} (hslack : ConfigChanged lib c secretHash → slack) :
    Triple (Served (Going slack w c)) (checkConfigChanged lib c secretHash)
      (fun c' s => (∃ now, c' = noted lib now c secretHash) ∧ Served (Going slack w c') s) E := by
  refine read_served fun w₁ => Triple.ite (fun (hchanged : ConfigChanged lib c secretHash) => ?_)
    fun (hsame : ¬ConfigChanged lib c secretHash) => ?_
  · have hnoted : noted lib w₁.now c secretHash = changedCluster lib w₁.now c secretHash := if_pos hchanged
    refine Triple.bind
      (Q := fun c' s => c' = patched _ ∧ Served (Going slack w (changedCluster lib w₁.now c secretHash)) s)
      (Triple.bind (callOr_served (fun _ _ => rfl) fun w' hw => ?_) fun _ => Triple.pure fun _ hs => ⟨rfl, hs⟩)
      fun c' => Triple.assume ?_
    · exact ⟨hw.1.store _, Or.inr (hslack hchanged)⟩
    · rintro rfl
      exact Triple.pure fun s hs => ⟨⟨w₁.now, hnoted.symm⟩, hs⟩
  · refine Triple.pure fun s hs => ⟨⟨0, ?_⟩, hs⟩
    rw [noted, if_neg hsame]

theorem unpaused_find (c : SpiceDBCluster) : (unpaused lib c).findStatusCondition lib typePaused = none := by
  by_cases hpaused : (c.findStatusCondition lib typePaused).isSome
  · rw [unpaused, if_pos hpaused]
    exact lib.findStatusCondition_remove_self _ _
  · rw [unpaused, if_neg hpaused]
    exact Option.not_isSome_iff_eq_none.1 hpaused

theorem unpaused_bearing (c : SpiceDBCluster) : (unpaused lib c).status.bearing lib = c.status.bearing lib := by
  unfold unpaused
  split_ifs
  · have hremoved : (c.removeStatusCondition lib typePaused).status.bearing lib = c.status.bearing lib :=
      bearing_remove_of_ne (by decide) (by decide)
    exact hremoved
  · rfl

theorem noted_bearing (now : Nat) (c : SpiceDBCluster) (secretHash : String) :
    (noted lib now c secretHash).status.bearing lib = c.status.bearing lib := by
  unfold noted
  split_ifs
  · have hmigrating : Condition.typeValidating ≠ Condition.typeMigrating := by decide
    have hrolling : Condition.typeValidating ≠ Condition.typeRolling := by decide
    have hpatch : (changedPatch lib now c secretHash).status.bearing lib = c.status.bearing lib :=
      (bearing_set_of_ne _ hmigrating hrolling).trans (bearing_remove_of_ne (by decide) (by decide))
    exact hpatch
  · rfl

/-- The config has been observed, now or before. -/
theorem observed_noted {now : Nat} {secretHash : String} (hpaused : c.findStatusCondition lib typePaused = none) :
    Observed lib secretHash (noted lib now c secretHash) := by
  by_cases hchanged : ConfigChanged lib c secretHash
  · rw [noted, if_pos hchanged]
    have hother : ∀ type, Condition.typeValidating ≠ type →
        (changedCluster lib now c secretHash).findStatusCondition lib type =
          lib.findStatusCondition
            (lib.removeStatusCondition c.status.conditions Condition.typePreconditionsFailed) type :=
      fun type hne => lib.findStatusCondition_set_of_ne _ (Condition.newValidatingConfigCondition now secretHash) hne
    refine ⟨?_, rfl, rfl, ?_⟩
    · exact (hother _ (by decide)).trans ((lib.findStatusCondition_remove_of_ne _ (by decide)).trans hpaused)
    · rw [(hother _ (by decide)).trans (lib.findStatusCondition_remove_self _ _)]
      rfl
  · rw [noted, if_neg hchanged]
    simp only [ConfigChanged, not_or, not_not, Bool.not_eq_true] at hchanged
    exact ⟨hpaused, hchanged.1.symm, hchanged.2.1.symm, hchanged.2.2⟩

theorem Observed.not_changed {secretHash : String} (h : Observed lib secretHash c) :
    ¬ConfigChanged lib c secretHash := by
  simp only [ConfigChanged, not_or, not_not, Bool.not_eq_true]
  exact ⟨h.generation.symm, h.secrets.symm, h.found⟩

theorem unpaused_of_observed {secretHash : String} (h : Observed lib secretHash c) : unpaused lib c = c :=
  if_neg (by simp [h.unpaused])

/-- What `ValidateConfigHandler` finds: the cluster, with nothing patched if the config has been observed. -/
theorem beforeValidation_passes {secretHash : String} (hsynced : w.cache = w.api)
    (hlabel : pausedControllerSelectorKey ∉ w.api.cluster.labels) (hspec : specError w.api.cluster.spec = none)
    (hsecrets : ∀ cs ∈ credentialSecretsForCluster w.api.cluster.spec, cs.1 ∈ w.api.secrets)
    (hhash : secretHashOf lib (collectSecrets w.api.secrets w.api.cluster.spec) w.api.cluster.spec = secretHash)
    (hslack : Observed lib secretHash w.api.cluster ∨ slack) :
    Triple (Served (· = w)) (beforeValidation lib idioms)
      (fun u s => (∃ now, u = ⟨noted lib now (unpaused lib w.api.cluster) secretHash,
        collectSecrets w.api.secrets w.api.cluster.spec, secretHash⟩) ∧ Served (Going slack w u.cluster) s) E := by
  refine look_served fun w₁ hw₁ => ?_
  subst hw₁
  rw [hsynced]
  have hbegin : ∀ s : Session, Served (· = w₁) s → Served (Going False w₁ w₁.api.cluster) s := fun s hs =>
    ⟨hs.1, hs.2.1, hs.2.2.symm ▸ ⟨.begin w₁, Or.inl rfl⟩⟩
  refine Triple.bind ((pause_passes hlabel fun hpaused => hslack.resolve_left fun hobserved => ?_).pre hbegin)
    fun c => Triple.assume ?_
  · rw [hobserved.unpaused] at hpaused
    cases hpaused
  rintro rfl
  have hsame : (unpaused lib w₁.api.cluster).spec = w₁.api.cluster.spec := by
    unfold unpaused
    split <;> rfl
  rw [hsame]
  refine Triple.bind (validateSpec_passes (by rw [hsame]; exact hspec)) fun _ => ?_
  have hframe : ∀ (w : World) secretMeta, Going slack w₁ (unpaused lib w₁.api.cluster) w →
      Going slack w₁ (unpaused lib w₁.api.cluster) { w with api.secretMeta := secretMeta } :=
    fun _ _ hw => ⟨hw.1.frame rfl rfl rfl rfl rfl rfl, hw.2⟩
  refine Triple.bind (adoptSecrets_passes hframe fun w' hw => ?_) fun _ => ?_
  · rw [hsame, hw.1.secrets]
    exact hsecrets
  dsimp only
  rw [hhash]
  refine Triple.bind (checkConfigChanged_passes fun hchanged => hslack.resolve_left fun hobserved => ?_) fun c' =>
    Triple.assume ?_
  · rw [unpaused_of_observed hobserved] at hchanged
    exact hobserved.not_changed hchanged
  rintro ⟨now, rfl⟩
  exact Triple.pure fun s hs => ⟨⟨now, rfl⟩, hs⟩

end

/-! ## Where a reconcile ends -/

section

variable (lib : Libraries) (w : World) (p : Plan)

/-- What a reconcile that began in `w` leaves behind. -/
structure Ends (k : Nat) (w' : World) : Prop where
  left : ∃ status resourceVersion, w'.api.cluster = { w.api.cluster with status, resourceVersion }
  /-- If the status has not been recorded, the version and the rollout are as they were found. -/
  bearing : 4 ≤ k → w'.api.cluster.status.bearing lib = w.api.cluster.status.bearing lib
  secrets : w'.api.secrets = w.api.secrets
  operatorConfig : w'.operatorConfig = w.operatorConfig
  tidy : Tidy lib w'
  stage : Stage lib p k w'

/-- It ends with at most `b` rounds to go. -/
def EndsWithin (b : Nat) (w' : World) : Prop := ∃ k ≤ b, Ends lib w p k w'

/-- The status is that of the plan, and the rollout is as it was found. -/
structure Planned (c : SpiceDBCluster) : Prop extends Recorded lib p c where
  current : c.status.currentMigrationHash = w.api.cluster.status.currentMigrationHash
  rolling : c.isStatusConditionTrue lib Condition.typeRolling =
    w.api.cluster.isStatusConditionTrue lib Condition.typeRolling
  migrating : c.findStatusCondition lib Condition.typeMigrating =
    w.api.cluster.findStatusCondition lib Condition.typeMigrating

end

section

variable {lib : Libraries} {idioms : Idioms lib} {resolver : PatchMetaResolver} {w w' : World}
  {c : SpiceDBCluster} {p : Plan}
  {k b : Nat}

/-- A status that is left, with nothing else changed. -/
theorem Holding.ends (h : Holding w c w') (htidy : Tidy lib w) (hk : k ≤ 3) (hstage : Stage lib p k w') :
    Ends lib w p k w' :=
  ⟨h.left, fun h => by omega, h.secrets, h.operatorConfig, h.tidy htidy, hstage⟩

/-- A first patch that is refused leaves the next one to the next round. -/
theorem Recorded.late (hc : Recorded lib p c) (htidy : Tidy lib w) (hslack : Slack w 3 b) (h : Holding w c w') :
    EndsWithin lib w p b w' :=
  ⟨3, hslack.2, h.ends htidy le_rfl ⟨h.recorded hc, h.jobs.trans hslack.1⟩⟩

theorem Observed.late (hc : Observed lib p.secretHash c)
    (hbearing : c.status.bearing lib = w.api.cluster.status.bearing lib)
    (htidy : Tidy lib w) (hslack : Slack w 4 b) (h : Holding w c w') : EndsWithin lib w p b w' := by
  refine ⟨4, hslack.2, h.left, fun _ => ?_, h.secrets, h.operatorConfig, h.tidy htidy, h.observed hc,
    h.jobs.trans hslack.1⟩
  rw [h.status]
  exact hbearing

theorem planned_of_bearing (hc : Recorded lib p c)
    (hbearing : c.status.bearing lib = w.api.cluster.status.bearing lib) :
    Planned lib w p c := by
  obtain ⟨⟨-, -, hcurrent, hrolling⟩, hmigrating⟩ := bearing_iff.1 hbearing
  exact ⟨hc, hcurrent, hrolling, hmigrating⟩

theorem planned_computed (hc : Observed lib p.secretHash c)
    (hbearing : c.status.bearing lib = w.api.cluster.status.bearing lib)
    (now : Nat) : Planned lib w p (patched { c with status := p.computed lib now c }) := by
  obtain ⟨⟨-, -, hcurrent, hrolling⟩, hmigrating⟩ := bearing_iff.1 hbearing
  refine ⟨recorded_computed hc now, hcurrent, ?_, ?_⟩
  · exact (congrArg Core.rolling
      (computedStatus_core c now p.config p.warning p.migrationHash p.availableVersions)).trans
      hrolling
  · exact (computed_find (by decide)).trans hmigrating

/-- The status is recorded, now or before. -/
theorem validateConfig_passes (hasks : Asks lib resolver w.operatorConfig w.api.secrets w.api.cluster p)
    (htext : SameText w.api.cluster.status.currentVersion p.config.migration.spiceDBVersion) (htidy : Tidy lib w)
    (hobserved : Observed lib p.secretHash c) (hbearing : c.status.bearing lib = w.api.cluster.status.bearing lib)
    (hslack : Recorded lib p c ∨ Slack w 3 b) :
    Triple (Served (Going (Slack w 4 b) w c))
      (validateConfig lib resolver c (collectSecrets w.api.secrets w.api.cluster.spec) p.secretHash)
      (fun v s => (∃ cluster, v = p.validated cluster ∧ Planned lib w p cluster) ∧
        Served (Going (Slack w 3 b) w v.cluster) s)
      (fun _ => At (EndsWithin lib w p b)) := by
  refine look_served fun w₁ hw₁ => ?_
  have hnew : newConfig lib c w₁.operatorConfig (collectSecrets w.api.secrets w.api.cluster.spec) resolver =
      .ok (.ok p.config, p.warning) := by
    obtain ⟨status, rfl⟩ := hw₁.1.object
    rw [hw₁.1.operatorConfig, ← hasks.config]
    exact newConfig_bearing hbearing
  have hback : ∀ s : Session, Served (· = w₁) s → Served (Going (Slack w 4 b) w c) s := fun s hs =>
    ⟨hs.1, hs.2.1, hs.2.2 ▸ hw₁⟩
  have hmono : Slack w 4 b → Slack w 3 b := Slack.mono (by omega)
  have hlate : Slack w 4 b → ∀ (stop : Stop) (s : Session), At (Holding w c) s → At (EndsWithin lib w p b) s :=
    fun hslack _ _ hs => hobserved.late hbearing htidy hslack hs
  rw [hnew]
  refine Triple.pre (Triple.bind lift_served fun r => Triple.assume ?_) hback
  rintro rfl
  dsimp only
  rw [hw₁.1.operatorConfig, hasks.availableVersions, hasks.migrationHash]
  refine Triple.bind (Triple.pure (Q := fun a s => a = p.availableVersions ∧ Served (Going (Slack w 4 b) w c) s)
    fun _ hs => ⟨rfl, hs⟩) fun a => Triple.assume ?_
  rintro rfl
  refine Triple.ite (fun (hequals : c.status.equals (p.computed lib w₁.now c) = true) => ?_)
    fun (hdiffers : ¬c.status.equals (p.computed lib w₁.now c) = true) => ?_
  · have hrecorded : Recorded lib p c := recorded_of_equals hobserved hequals <| by
      rw [(bearing_iff.1 hbearing).1.1]
      exact htext
    refine Triple.pure fun s hs => ⟨⟨c, rfl, planned_of_bearing hrecorded hbearing⟩, hs.1, hs.2.1, hs.2.2.1, ?_⟩
    exact hs.2.2.2.imp_right hmono
  by_cases hrecorded : Recorded lib p c
  · -- the patch changes nothing
    have hsame : patched { c with status := p.computed lib w₁.now c } = c :=
      (hrecorded.unchanged w₁.now).resolve_left hdiffers
    refine Triple.bind (patchStatus_same hsame hmono hlate) fun c' => Triple.assume ?_
    rintro rfl
    exact Triple.pure fun s hs => ⟨⟨c', rfl, planned_of_bearing hrecorded hbearing⟩, hs⟩
  · refine Triple.bind (patchStatus_going ⟨_, rfl⟩ (hslack.resolve_left hrecorded) hlate) fun c' => Triple.assume ?_
    rintro rfl
    exact Triple.pure fun s hs => ⟨⟨_, rfl, planned_computed hobserved hbearing w₁.now⟩, hs⟩

end

/-! ## The deployment -/

section

variable {lib : Libraries} {idioms : Idioms lib} {w w' : World} {c : SpiceDBCluster} {p : Plan}
  {d : Deployment} {b : Nat} {slack : Prop} {A : World → Prop} {E : Stop → Session → Prop}

theorem ensureComponent_passes (hA : ∀ w components, A w → A { w with api.components := components }) {K : Type}
    {of : K → ComponentApply} {build : Go K} {o : K} {name : String} (hbuilt : build = .ok o)
    (hname : (of o).metadata.name = some name) :
    Triple (Served A) (ensureComponent lib idioms of build) (fun _ => Served A) E := by
  subst hbuilt
  refine read_served fun w₁ => Triple.bind lift_served fun o' => Triple.assume ?_
  rintro rfl
  rw [hname]
  refine Triple.bind lift_served fun _ => Triple.assume fun _ => ?_
  refine (idioms.ensure_confined _ _ _).served (idioms.ensure_strict _ _ _) ?_ fun _ hp => hp.elim
  rintro x (⟨annotations, rfl⟩ | ⟨other, -, rfl⟩) w hw
  · exact ⟨rfl, hA w _ hw⟩
  · exact ⟨rfl, hA w _ hw⟩

theorem ensureComponents_passes (hA : ∀ w components, A w → A { w with api.components := components })
    (config : Config) :
    Triple (Served A) (ensureComponents lib idioms config) (fun _ => Served A) E := by
  obtain ⟨_, hserviceAccount, hnamed⟩ := config.serviceAccount_owned lib
  refine Triple.bind (ensureComponent_passes hA hserviceAccount hnamed.name_eq) fun _ => ?_
  obtain ⟨_, hrole, hnamed⟩ := config.role_owned lib
  refine Triple.bind (ensureComponent_passes hA hrole hnamed.name_eq) fun _ => ?_
  obtain ⟨_, hservice, hnamed, -⟩ := config.service_owned lib
  refine Triple.bind (ensureComponent_passes hA hservice hnamed.name_eq) fun _ => ?_
  obtain ⟨_, hroleBinding, hnamed⟩ := config.roleBinding_owned lib
  exact ensureComponent_passes hA hroleBinding hnamed.name_eq

theorem ensurePDB_passes (hA : ∀ w components, A w → A { w with api.components := components }) {config : Config}
    (hbudget : config.spice.pdb.disabled = true ∨ ∃ o, config.podDisruptionBudget lib = .ok o) :
    Triple (Served A) (ensurePDB lib idioms config) (fun _ => Served A) E := by
  refine Triple.ite (fun _ => ?_) fun hdisabled => ?_
  · refine read_served fun w₁ => Triple.each fun pdb _ => Triple.ite (fun _ => ?_) fun _ => Triple.pure fun _ hs => hs
    refine Triple.bind (call_served (fun _ _ => rfl) fun w hw => hA w _ hw) fun _ => ?_
    exact Triple.pure fun _ hs => hs.2
  · obtain ⟨o, hbuilt⟩ := hbudget.resolve_left hdisabled
    exact ensureComponent_passes hA hbuilt (config.podDisruptionBudget_named lib hbuilt).1

variable (lib w p) in
/-- The status once the rollout has begun. -/
structure Started (c : SpiceDBCluster) : Prop extends Recorded lib p c where
  migrated : Migrated lib c
  rolling : (w.api.cluster.findStatusCondition lib Condition.typeMigrating).isSome ∨
    w.api.cluster.isStatusConditionTrue lib Condition.typeRolling = true →
      c.isStatusConditionTrue lib Condition.typeRolling = true

theorem Planned.migrated (hc : Planned lib w p c) (hw : Recorded lib p w.api.cluster) (h : Migrated lib w.api.cluster) :
    Migrated lib c := by
  have hmigrating : lib.findStatusCondition c.status.conditions Condition.typeMigrating = _ := hc.migrating
  exact ⟨by rw [hc.current, h.current, hw.target, hc.target], hmigrating.trans h.migrating⟩

theorem startRollout_passes {slack' : Prop} (hc : Planned lib w p c) (hslack : slack → slack')
    (hstarts : ¬ Migrated lib c → slack')
    (hrefused : slack → ∀ stop s, At (Holding w c) s → E stop s) :
    Triple (Served (Going slack w c)) (startRollout lib c)
      (fun c' s => Started lib w p c' ∧ Served (Going slack' w c') s) E := by
  refine read_served fun w₁ => Triple.ite (fun hpatch => ?_) fun hsame => ?_
  · have hmigrated : ¬ Migrated lib c := fun hmigrated => by
      rcases hpatch with hmigrating | hcurrent
      · rw [show c.findStatusCondition lib _ = none from hmigrated.migrating] at hmigrating
        cases hmigrating
      · exact hcurrent hmigrated.current
    refine (patchStatus_going ⟨_, rfl⟩ (hstarts hmigrated) hrefused).conseq (fun _ hs => hs) ?_ fun _ _ hs => hs
    rintro _ s ⟨rfl, hs⟩
    refine ⟨⟨(hc.report (.started w₁.now c)).report (.patch _), ⟨rfl, ?_⟩, fun _ => ?_⟩, hs⟩
    · refine (lib.findStatusCondition_set_of_ne _ _ (by decide : Condition.typeRolling ≠ _)).trans ?_
      exact lib.findStatusCondition_remove_self _ _
    · exact congrArg Core.rolling (core_rolloutStarted c w₁.now)
  · rw [not_or, not_not] at hsame
    refine Triple.pure fun s hs => ⟨⟨hc.toRecorded, ⟨hsame.2, ?_⟩, fun hunder => ?_⟩, hs.1, hs.2.1, hs.2.2.1,
      hs.2.2.2.imp_right hslack⟩
    · exact Option.not_isSome_iff_eq_none.1 hsame.1
    · rw [hc.rolling]
      rw [hc.migrating] at hsame
      exact hunder.resolve_left hsame.1

theorem Started.set (hc : Started lib w p c) {new : Condition} (hne : new.type ≠ Condition.typeMigrating)
    (htype : new.type ∈ rolloutTypes) (hrolling : new.type = Condition.typeRolling → new.status = .true) :
    Started lib w p (patched (c.setStatusCondition lib new)) := by
  refine ⟨(hc.report (.set htype)).report (.patch _), ⟨hc.migrated.current, ?_⟩, fun hunder => ?_⟩
  · exact (lib.findStatusCondition_set_of_ne _ _ hne).trans hc.migrated.migrating
  · by_cases htrue : new.type = Condition.typeRolling
    · have hset := lib.isStatusConditionTrue_set_self c.status.conditions new (hrolling htrue)
      rw [htrue] at hset
      exact hset
    · exact (lib.isStatusConditionTrue_set_of_ne _ _ htrue).trans (hc.rolling hunder)

theorem partition_current {n : DeploymentApply} (h : AppliedFrom lib n d) :
    partitionObjs Deployment.annotations configKey (lib.hashDeployment n) [d] = ([d], []) := by
  have hann := h.annotated
  simp only [partitionObjs, h.config, if_true]
  simp [Option.isSome_iff_ne_none.1 hann]

variable (lib w p) in
/-- The job of the rollout is the one of this config, and its deletion is due. -/
def JobDue : Prop :=
  w.api.jobs = [] ∨ p.config.spice.skipMigrations = false ∧
    ((w.api.cluster.findStatusCondition lib Condition.typeMigrating).isSome ∨
      w.api.cluster.isStatusConditionTrue lib Condition.typeRolling = true) ∧
    ∃ j, w.api.jobs = [j] ∧ carriesHash j.annotations p.migrationHash = true ∧ Complete j

variable (lib w p) in
/-- The deployment that was found is the one of the config. -/
structure FoundCurrent (d : Deployment) : Prop where
  built : p.config.deployment lib p.migrationHash p.secretHash = .ok p.deployment
  found : w.api.deployments = [d]
  named : d.name = deploymentName w.api.cluster.name
  applied : AppliedFrom lib p.deployment d
  job : JobDue lib w p

/-- The status once the rollout is over. -/
structure Over (lib : Libraries) (p : Plan) (c : SpiceDBCluster) : Prop extends Recorded lib p c where
  migrated : Migrated lib c
  idle : Idle lib c

theorem Started.over (hc : Started lib w p c) :
    Over lib p (patched ((c.removeStatusCondition lib Condition.typeRolling).removeStatusCondition lib
      Condition.typeRolloutError)) := by
  have hreport : SameReport lib c
      ((c.removeStatusCondition lib Condition.typeRolling).removeStatusCondition lib Condition.typeRolloutError) :=
    SameReport.trans (.remove (by decide)) (.remove (by decide))
  refine ⟨(hc.report hreport).report (.patch _), ⟨hc.migrated.current, ?_⟩, ?_, lib.isStatusConditionTrue_remove_self _⟩
  · refine (lib.findStatusCondition_remove_of_ne _ (by decide)).trans ?_
    exact (lib.findStatusCondition_remove_of_ne _ (by decide)).trans hc.migrated.migrating
  · exact (lib.isStatusConditionTrue_remove_of_ne _ (by decide)).trans (lib.isStatusConditionTrue_remove_self _)

theorem Available.complete (h : Available d) (configured : Int) :
    deploymentRolloutComplete d (desiredDeploymentReplicas d configured) = true := by
  obtain ⟨replicas, hreplicas, hcomplete⟩ := (Option.any_eq_true _ _).1 h.2
  rw [desiredDeploymentReplicas, hreplicas]
  exact hcomplete

/-- Pods do not matter. -/
theorem cleanupPods_ends (jobNames : List String) (pods : List Pod) :
    Triple (Served (Ends lib w p 0)) (cleanupPods jobNames pods) (fun _ => Served (Ends lib w p 0))
      (fun _ => At (EndsWithin lib w p b)) := by
  refine Triple.each fun pod _ => ?_
  cases pod.labels.bind (·.lookup "job-name") with
  | none => exact Triple.pure fun _ hs => hs
  | some jobName =>
    refine Triple.ite (fun _ => Triple.stop fun s hs => ⟨0, Nat.zero_le b, hs.2.2⟩) fun _ =>
      callOr_served (fun _ _ => rfl) fun w' hw => ?_
    have hrest : AtRest lib p w' := hw.stage
    exact ⟨hw.left, hw.bearing, hw.secrets, hw.operatorConfig, hw.tidy, { hrest with }⟩

namespace FoundCurrent

variable (h : FoundCurrent lib w p d)

include h

theorem tidy : Tidy lib w := Or.inr ⟨p.deployment, d, h.found, h.named, h.applied⟩

theorem current (hholding : Holding w c w') : Current lib p.deployment w' := by
  refine ⟨d, ?_⟩
  rw [hholding.deployments, hholding.name]
  exact ⟨h.found, h.named, h.applied⟩

/-- A status left in the middle of the rollout. -/
theorem unfinished (hc : Started lib w p c) (hb : 1 ≤ b) (hholding : Holding w c w') : EndsWithin lib w p b w' := by
  refine ⟨1, hb, hholding.ends h.tidy (by omega) ⟨hholding.recorded hc.toRecorded, hholding.migrated hc.migrated,
    h.current hholding, ?_⟩⟩
  rw [hholding.jobs, hholding.isStatusConditionTrue]
  exact h.job.imp_right fun ⟨hskip, hunder, hjob⟩ => ⟨hskip, hc.rolling hunder, hjob⟩

theorem checkPods_ends (hc : Started lib w p c) (hb : ¬ Available d → 1 ≤ b) :
    Triple (Served (Going slack w c)) (checkPods lib c d) (fun _ => Served (Going slack w c))
      (fun _ => At (EndsWithin lib w p b)) := by
  refine read_served fun w₁ => Triple.ite (fun hunavailable => ?_) fun _ => Triple.pure fun _ hs => hs
  cases podError w₁.cache.deploymentPods with
  | none => exact Triple.pure fun _ hs => hs
  | some message =>
    have hleft : 1 ≤ b := hb fun havailable => by have := havailable.1; omega
    have hpodError :
        Started lib w p (patched (c.setStatusCondition lib (Condition.newPodErrorCondition w₁.now message))) :=
      hc.set (by decide : Condition.typeRolloutError ≠ _) (by decide : Condition.typeRolloutError ∈ _)
        (absurd · (by decide : Condition.typeRolloutError ≠ _))
    exact patchStatus_last ⟨_, rfl⟩ (fun _ => h.unfinished hpodError hleft) fun _ => h.unfinished hc hleft

theorem finishRollout_ends (hc : Started lib w p c) (hb : ¬ Available d → 1 ≤ b) :
    Triple (Served (Going (1 ≤ b) w c)) (finishRollout lib (p.validated c) d)
      (fun _ => Served fun w' => ∃ c', Over lib p c' ∧ Holding w c' w') (fun _ => At (EndsWithin lib w p b)) := by
  refine read_served fun w₁ => Triple.ite (fun hincomplete => ?_) fun _ => ?_
  · have hleft : 1 ≤ b := hb fun havailable => by
      rw [havailable.complete] at hincomplete
      cases hincomplete
    have hwaiting : ∀ message, Started lib w p
        (patched (c.setStatusCondition lib (Condition.newRollingCondition w₁.now message))) :=
      fun message => hc.set (by decide : Condition.typeRolling ≠ _) (by decide : Condition.typeRolling ∈ _) fun _ => rfl
    exact patchStatus_last ⟨_, rfl⟩ (fun _ => h.unfinished (hwaiting _) hleft) fun _ => h.unfinished hc hleft
  · refine Triple.bind (Q := fun _ => Served (Going (1 ≤ b) w c)) (Triple.act fun s hs => ⟨hs.1, hs.2.1, ?_⟩) fun _ =>
      Triple.ite (fun _ => ?_) fun hidle => ?_
    · exact ⟨hs.2.2.1.frame rfl rfl rfl rfl rfl rfl, hs.2.2.2⟩
    · refine Triple.bind (patchStatus_going ⟨_, rfl⟩ trivial fun hleft _ s hs => h.unfinished hc hleft hs) fun c' =>
        Triple.assume ?_
      rintro rfl
      exact Triple.pure fun s hs => ⟨hs.1, hs.2.1, _, hc.over, hs.2.2.1⟩
    · rw [not_or, Bool.not_eq_true, Bool.not_eq_true] at hidle
      exact Triple.pure fun s hs => ⟨hs.1, hs.2.1, c, ⟨hc.toRecorded, hc.migrated, ⟨hidle.1, hidle.2⟩⟩, hs.2.2.1⟩

/-- With the rollout over and no job left, all is at rest. -/
theorem rests {w'' : World} (hc : Over lib p c) (hholding : Holding w c w')
    (hcluster : w''.api.cluster = w'.api.cluster)
    (hsecrets : w''.api.secrets = w'.api.secrets) (hdeployments : w''.api.deployments = w'.api.deployments)
    (hconfig : w''.operatorConfig = w'.operatorConfig) (hjobs : w''.api.jobs = []) : Ends lib w p 0 w'' := by
  have hcurrent : Current lib p.deployment w'' := by
    unfold Current
    rw [hdeployments, hcluster]
    exact h.current hholding
  refine ⟨hcluster ▸ hholding.left, nofun, hsecrets.trans hholding.secrets, hconfig.trans hholding.operatorConfig,
    Or.inr ⟨_, hcurrent⟩, ⟨?_, ?_, ⟨?_, ?_⟩, hcurrent, hjobs⟩⟩
  · exact hcluster ▸ hholding.recorded hc.toRecorded
  · exact hcluster ▸ hholding.migrated hc.migrated
  · rw [hcluster, hholding.status]
    exact hc.idle.rolling
  · rw [hcluster, hholding.status]
    exact hc.idle.rolloutError

theorem carries_migration (hskip : p.config.spice.skipMigrations = false) :
    annotationAt d.annotations migrationRequirementsKey = p.migrationHash := by
  rw [h.applied.migration, deployment_annotations h.built]
  simp [Config.migrationAnnotationOf, hskip]

theorem cleanupJob_ends (hsynced : w.cache = w.api) :
    Triple (Served fun w' => ∃ c, Over lib p c ∧ Holding w c w') (cleanupJob d) (fun _ => At (EndsWithin lib w p b))
      (fun _ => At (EndsWithin lib w p b)) := by
  refine look_served fun w₁ hw₁ => ?_
  obtain ⟨c, hc, hholding⟩ := hw₁
  rw [hholding.cache, hsynced]
  have hpods : ∀ jobNames pods, Triple (Served (Ends lib w p 0))
      (do cleanupPods jobNames pods; queue (α := Unit) .done) (fun _ => At (EndsWithin lib w p b))
      (fun _ => At (EndsWithin lib w p b)) := fun jobNames pods =>
    Triple.bind (cleanupPods_ends jobNames pods) fun _ => Triple.stop fun s hs => ⟨0, Nat.zero_le b, hs.2.2⟩
  rcases h.job with hnone | ⟨hskip, -, j, hj, hcarries, hcomplete⟩
  · have hends : Ends lib w p 0 w₁ := h.rests hc hholding rfl rfl rfl rfl (hholding.jobs.trans hnone)
    have hback : ∀ s : Session, Served (· = w₁) s → Served (Ends lib w p 0) s :=
      fun s hs => ⟨hs.1, hs.2.1, hs.2.2 ▸ hends⟩
    rw [hnone]
    refine Triple.pre (Triple.ite (fun _ => ?_) fun _ => Triple.stop fun s hs => ⟨0, Nat.zero_le b, hs.2.2⟩) hback
    exact hpods [] _
  · obtain ⟨hann, hhash⟩ : j.annotations.isSome = true ∧ annotationAt j.annotations migrationRequirementsKey =
        p.migrationHash := by simpa [carriesHash] using hcarries
    rw [hj]
    refine Triple.ite (fun _ => ?_) fun hnothing => absurd ⟨h.applied.annotated, by simp⟩ hnothing
    refine Triple.bind (Q := fun _ => Served (Ends lib w p 0)) ?_ fun _ => hpods _ _
    refine Triple.bind (Triple.ite (fun _ => callOr_served (fun _ _ => rfl) ?_) fun hkept => ?_) fun _ =>
      Triple.pure fun _ hs => hs
    · rintro _ rfl
      refine h.rests hc hholding rfl rfl rfl rfl ?_
      simp [World.perform, World.deleteJob, World.request, hholding.jobs, hj]
    · exact absurd ⟨hann, hhash.trans (h.carries_migration hskip).symm, hcomplete⟩ hkept

theorem deploymentChain_ends (hc : Planned lib w p c) (hsynced : w.cache = w.api)
    (hbudget : p.config.spice.pdb.disabled = true ∨ ∃ o, p.config.podDisruptionBudget lib = .ok o)
    (hb : ¬ (Available d ∧ Migrated lib c) → 1 ≤ b) :
    Triple (Served (Going (Slack w 3 b) w c)) (deploymentChain lib idioms (p.validated c) w.api.deployments)
      (fun _ => At (EndsWithin lib w p b)) (fun _ => At (EndsWithin lib w p b)) := by
  have hunavailable : ¬ Available d → 1 ≤ b := fun hne => hb fun hboth => hne hboth.1
  refine Triple.bind (Q := fun d' s => d' = d ∧ Served (fun w' => ∃ c, Over lib p c ∧ Holding w c w') s) ?_ fun d' =>
    Triple.assume ?_
  · refine Triple.bind (startRollout_passes hc (fun hslack => (by omega : 1 ≤ 3).trans hslack.2)
      (fun hne => hb fun hboth => hne hboth.2) fun hslack _ _ => hc.late h.tidy hslack) fun c' =>
      Triple.assume fun hc' => ?_
    dsimp only [Plan.validated]
    rw [h.built, h.found]
    refine Triple.bind lift_served fun n => Triple.assume ?_
    rintro rfl
    rw [partition_current h.applied]
    refine Triple.bind (Triple.pure (Q := fun _ => Served (Going (1 ≤ b) w c')) fun _ hs => hs) fun _ => ?_
    refine Triple.bind (h.checkPods_ends hc' hunavailable) fun _ => ?_
    refine Triple.bind (h.finishRollout_ends hc' hunavailable) fun _ => ?_
    exact Triple.pure fun _ hs => ⟨rfl, hs⟩
  · rintro rfl
    refine Triple.bind (ensurePDB_passes (fun w₁ components hw => ?_) hbudget) fun _ => h.cleanupJob_ends hsynced
    obtain ⟨c', hover, hholding⟩ := hw
    exact ⟨c', hover, hholding.frame rfl rfl rfl rfl rfl rfl⟩

end FoundCurrent

/-! ## Applying it -/

/-- A live deployment after the apply. -/
def stampedOnto (lib : Libraries) (n : DeploymentApply) (live : Deployment) : Deployment :=
  { live with
    annotations := appliedAnnotations live.annotations (stamped lib n).metadata.annotations
    generation := live.generation + 1
    replicas := ((stamped lib n).spec.bind (·.replicas)).or live.replicas }

theorem appliedFrom_stampedOnto {n : DeploymentApply} {hash : String}
    (hmigration : n.metadata.annotations.lookup migrationRequirementsKey = some hash) (live : Deployment) :
    AppliedFrom lib n (stampedOnto lib n live) := by
  refine ⟨rfl, ?_, ?_⟩
  · simp [annotationAt, stampedOnto, appliedAnnotations, stamped, mapOf]
  · have hother : (mapOf [(configKey, lib.hashDeployment n)]).lookup migrationRequirementsKey = none := rfl
    simp [annotationAt, stampedOnto, appliedAnnotations, stamped, hother, hmigration]

/-- The deployments after the apply. -/
theorem upsert_tidy (htidy : Tidy lib w) (update : Deployment → Deployment) :
    ∃ live, upsert Deployment.name (deploymentName w.api.cluster.name) update
      (update { name := deploymentName w.api.cluster.name }) w.api.deployments = [update live] ∧
      live.name = deploymentName w.api.cluster.name := by
  rcases htidy with hnone | ⟨n, d, hd, hnamed, -⟩
  · exact ⟨_, by rw [hnone]; rfl, rfl⟩
  · refine ⟨d, ?_, hnamed⟩
    rw [hd]
    simp [upsert, hnamed]

theorem current_applyDeployment {n : DeploymentApply} {hash : String} (htidy : Tidy lib w)
    (hmigration : n.metadata.annotations.lookup migrationRequirementsKey = some hash) (config : Config)
    (status : ClusterStatus) :
    Current lib n (w.applyDeployment (deploymentName w.api.cluster.name) (stamped lib n) config status) := by
  obtain ⟨live, hlive, hname⟩ := upsert_tidy htidy (stampedOnto lib n)
  exact ⟨_, hlive, hname, appliedFrom_stampedOnto hmigration live⟩

/-- Another status of the rollout, or the same. -/
theorem Ends.restated {patch : SpiceDBCluster} (h : Ends lib w p 1 w') (hrecorded : Recorded lib p patch)
    (hmigrated : Migrated lib patch) (hgeneration : patch.generation = w'.api.cluster.generation)
    (hrolling : patch.isStatusConditionTrue lib Condition.typeRolling =
      w'.api.cluster.isStatusConditionTrue lib Condition.typeRolling) :
    Ends lib w p 1 (w'.storeStatus patch) := by
  have hrollout : InRollout lib p w' := h.stage
  obtain ⟨status, resourceVersion, hleft⟩ := h.left
  refine ⟨⟨patch.status, (w'.storeStatus patch).api.cluster.resourceVersion, ?_⟩, nofun, h.secrets, h.operatorConfig,
    h.tidy, ⟨hrecorded.report (.of_status hgeneration.symm rfl), ⟨hmigrated.current, hmigrated.migrating⟩,
    hrollout.current, ?_⟩⟩
  · simp only [World.storeStatus, World.record, hleft]
  · exact hrollout.jobs.imp_right fun ⟨hskip, hrolls, hjob⟩ => ⟨hskip, hrolling.trans hrolls, hjob⟩

theorem Started.remove_error (hc : Started lib w p c) :
    Started lib w p (patched (c.removeStatusCondition lib Condition.typeRolloutError)) := by
  have hreport : SameReport lib c (c.removeStatusCondition lib Condition.typeRolloutError) := .remove (by decide)
  refine ⟨(hc.report hreport).report (.patch _), ⟨hc.migrated.current, ?_⟩, fun hunder => ?_⟩
  · exact (lib.findStatusCondition_remove_of_ne _ (by decide)).trans hc.migrated.migrating
  · exact (lib.isStatusConditionTrue_remove_of_ne _ (by decide)).trans (hc.rolling hunder)

theorem applyNewDeployment_ends {α : Type} {Q : α → Session → Prop} (hc : Started lib w p c)
    (hbuilt : p.config.deployment lib p.migrationHash p.secretHash = .ok p.deployment)
    (hname : p.config.spice.name = w.api.cluster.name) (htidy : Tidy lib w) (hjob : JobDue lib w p) (hb : 1 ≤ b) :
    Triple (Served (Going slack w c))
      (applyNewDeployment lib (α := α) (p.validated c) p.deployment (lib.hashDeployment p.deployment)) Q
      (fun _ => At (EndsWithin lib w p b)) := by
  obtain ⟨n, hn, hintact⟩ := p.config.deployment_intact lib p.migrationHash p.secretHash
  obtain rfl : n = p.deployment := Except.ok.inj (hn.symm.trans hbuilt)
  have hnamed : deref (lib.withAnnotations (mapOf [(configKey, lib.hashDeployment p.deployment)])
      p.deployment.metadata).name = .ok (deploymentName w.api.cluster.name) := by
    rw [← hname]
    exact deref_eq_ok.2 (hintact.owned.withAnnotations lib _).name_eq
  refine read_served fun w₁ => ?_
  dsimp only
  rw [hnamed]
  refine Triple.bind lift_served fun name => Triple.assume ?_
  rintro rfl
  refine Triple.bind (call_served (B := fun w' => (w'.api.cluster.status = c.status ∧
    w'.api.cluster.generation = c.generation) ∧ Ends lib w p 1 w') (fun _ _ => rfl) fun w₂ hw₂ => ?_) fun err =>
    Triple.assume ?_
  · obtain ⟨hholding, -⟩ := hw₂
    have hcurrent := current_applyDeployment (hholding.tidy htidy) (deployment_annotations hbuilt) p.config c.status
    rw [hholding.name] at hcurrent
    refine ⟨⟨hholding.status, hholding.generation⟩, hholding.left, nofun, hholding.secrets, hholding.operatorConfig,
      Or.inr ⟨_, hcurrent⟩, ⟨hholding.recorded hc.toRecorded, hholding.migrated hc.migrated, hcurrent, ?_⟩⟩
    refine hjob.imp (hholding.jobs.trans ·) fun ⟨hskip, hunder, j, hj, hdue⟩ =>
      ⟨hskip, ?_, j, hholding.jobs.trans hj, hdue⟩
    exact (hholding.isStatusConditionTrue _).trans (hc.rolling hunder)
  · rintro rfl
    have hstop : ∀ w', Ends lib w p 1 w' → EndsWithin lib w p b w' := fun _ hends => ⟨1, hb, hends⟩
    refine Triple.ite (fun _ => ?_) fun _ => Triple.stop fun s hs => hstop _ hs.2.2.2
    refine Triple.bind (Q := fun _ => Served (EndsWithin lib w p b)) ((patchStatus_answered (fun w' hw _ => ?_)
      fun w' hw _ => hstop w' hw.2).conseq (fun _ hs => hs) (fun _ _ hs => hs.2) fun _ _ hs => hs) fun _ =>
      Triple.stop fun s hs => hs.2.2
    obtain ⟨⟨hstatus, hgeneration⟩, hends⟩ := hw
    have hcleared := hc.remove_error
    refine hstop _ (hends.restated hcleared.toRecorded hcleared.migrated hgeneration.symm ?_)
    simp only [SpiceDBCluster.isStatusConditionTrue, hstatus]
    exact lib.isStatusConditionTrue_remove_of_ne _ (by decide)

/-- None of the deployments that were found is the one of the config. -/
theorem deploymentChain_applies (hc : Planned lib w p c)
    (hbuilt : p.config.deployment lib p.migrationHash p.secretHash = .ok p.deployment)
    (hname : p.config.spice.name = w.api.cluster.name) (htidy : Tidy lib w) (hjob : JobDue lib w p)
    (hnone : ∀ d ∈ w.api.deployments, annotationAt d.annotations configKey ≠ lib.hashDeployment p.deployment)
    (hb : 1 ≤ b) :
    Triple (Served (Going (Slack w 3 b) w c)) (deploymentChain lib idioms (p.validated c) w.api.deployments)
      (fun _ => At (EndsWithin lib w p b)) (fun _ => At (EndsWithin lib w p b)) := by
  refine Triple.bind (Q := fun _ _ => False) ?_ fun _ => ⟨fun _ hs => hs.elim⟩
  refine Triple.bind (startRollout_passes hc (fun _ => trivial) (fun _ => trivial) fun hslack _ _ =>
    hc.late htidy hslack) fun c' => Triple.assume fun hc' => ?_
  dsimp only [Plan.validated]
  rw [hbuilt]
  refine Triple.bind lift_served fun n => Triple.assume ?_
  rintro rfl
  have hmatching : (partitionObjs Deployment.annotations configKey (lib.hashDeployment p.deployment)
      w.api.deployments).1 = _ :=
    partitionObjs_matching _
  rw [List.filter_eq_nil_iff.2 fun d hd => by simpa using hnone d hd] at hmatching
  rcases hparts : partitionObjs Deployment.annotations configKey (lib.hashDeployment p.deployment)
    w.api.deployments with ⟨matchingObjs, extraObjs⟩
  rw [hparts] at hmatching
  dsimp only at hmatching
  subst hmatching
  exact applyNewDeployment_ends hc' hbuilt hname htidy hjob hb

end

/-! ## Migrations -/

section

variable {lib : Libraries} {idioms : Idioms lib} {resolver : PatchMetaResolver} {w w' : World}
  {c : SpiceDBCluster} {p : Plan}
  {b : Nat} {slack : Prop}

theorem route_direct (hc : Planned lib w p c) {deployments : List Deployment} {jobs : List Job}
    (h : p.config.Direct ∨ ∃ d ∈ deployments, carriesHash d.annotations p.migrationHash = true) :
    checkMigrations (p.validated c) deployments jobs = .deploymentChain := by
  simp only [checkMigrations, Plan.validated, hc.version]
  refine ite_eq_left_iff.2 fun hskip => ite_eq_left_iff.2 fun hversion => ite_eq_left_iff.2 fun hdeployed => ?_
  exfalso
  rcases h with (hs | hm | hv) | ⟨d, hd, hcarries⟩
  · exact hskip (Or.inl hs)
  · exact hskip (Or.inr hm)
  · exact hversion hv
  · exact hdeployed (List.any_eq_true.2 ⟨d, hd, hcarries⟩)

/-- The route of a config that needs a migration. -/
def routeOf (found : Option Job) : Route := found.elim .runMigration .waitForMigrations

theorem route_needed (hc : Planned lib w p c) {deployments : List Deployment} {jobs : List Job}
    (hneeded : ¬ p.config.Direct)
    (hunserved : ∀ d ∈ deployments, carriesHash d.annotations p.migrationHash = false) :
    checkMigrations (p.validated c) deployments jobs =
      routeOf (jobs.find? fun j => carriesHash j.annotations p.migrationHash) := by
  have hnone : ¬ deployments.any (fun d => carriesHash d.annotations p.migrationHash) = true := by
    rw [List.any_eq_true]
    rintro ⟨d, hd, hcarries⟩
    rw [hunserved d hd] at hcarries
    cases hcarries
  simp only [checkMigrations, Plan.validated, hc.version]
  rw [if_neg fun h => hneeded (h.imp_right Or.inl), if_neg fun h => hneeded (Or.inr (Or.inr h))]
  refine (if_neg hnone).trans ?_
  cases jobs.find? fun j => carriesHash j.annotations p.migrationHash <;> rfl

theorem applyJob_creates {job : JobApply} {migrationHash : String} (hjobs : w.api.jobs = []) (name : String)
    (hhash : job.metadata.annotations.lookup migrationRequirementsKey = some migrationHash) :
    ∃ j, (w.applyJob name job).api.jobs = [j] ∧ carriesHash j.annotations migrationHash = true := by
  refine ⟨{ name, annotations := appliedAnnotations none job.metadata.annotations }, ?_, ?_⟩
  · simp only [World.applyJob, hjobs]
    rfl
  · simp [carriesHash, annotationAt, appliedAnnotations, hhash]

/-- The status says that the migration runs, and the job is created. -/
theorem runMigration_ends {Q : Validated × Job → Session → Prop} (hc : Planned lib w p c) (htidy : Tidy lib w)
    (hneeded : ¬ p.config.Direct)
    (hunserved : ∀ d ∈ w.api.deployments, carriesHash d.annotations p.migrationHash = false)
    (hjobs : w.api.jobs = []) (hb : 2 ≤ b) :
    Triple (Served (Going (Slack w 3 b) w c)) (runMigration lib (p.validated c) []) Q
      (fun _ => At (EndsWithin lib w p b)) := by
  obtain ⟨job, hbuilt, howned, hhash⟩ := p.config.migrationJob_owned lib p.migrationHash
  refine read_served fun w₁ => ?_
  refine Triple.bind (patchStatus_going ⟨_, rfl⟩ trivial fun hslack _ _ => hc.late htidy hslack) fun c' =>
    Triple.assume ?_
  rintro rfl
  refine Triple.ite (fun _ => ?_) fun hne => absurd rfl hne
  dsimp only [Plan.validated]
  rw [hbuilt]
  refine Triple.bind lift_served fun job' => Triple.assume ?_
  rintro rfl
  rw [howned.name_eq]
  refine Triple.bind lift_served fun name => Triple.assume ?_
  rintro rfl
  refine Triple.bind (callOr_served (B := EndsWithin lib w p b) (fun _ _ => rfl) fun w₂ hw₂ => ?_) fun _ => ?_
  · obtain ⟨hholding, -⟩ := hw₂
    have hreport : SameReport lib c (c.setStatusCondition lib (Condition.newMigratingCondition w₁.now
        p.config.migration.datastoreEngine p.config.migration.targetMigration)) :=
      .set (by decide : Condition.typeMigrating ∈ _)
    refine ⟨2, hb, hholding.left, nofun, hholding.secrets, hholding.operatorConfig, hholding.tidy htidy,
      ⟨hholding.recorded ((hc.report hreport).report (.patch _)), hneeded, fun d hd => ?_,
      applyJob_creates (hholding.jobs.trans hjobs) _ hhash, ?_⟩⟩
    · exact hunserved d (hholding.deployments ▸ hd)
    · exact (hholding.isStatusConditionTrue _).trans (lib.isStatusConditionTrue_set_self _ _ rfl)
  · refine Triple.bind (Triple.pure (Q := fun _ => Served (EndsWithin lib w p b)) fun _ hs => hs) fun _ => ?_
    exact Triple.stop fun _ hs => hs.2.2

theorem waitForMigrations_ends (hc : Planned lib w p c) (htidy : Tidy lib w) (h : InMigration lib p w) {j : Job}
    (hfailed : jobConditionHasStatus j .failed .true = false) (hb : ¬ Complete j → 2 ≤ b) :
    Triple (Served (Going slack w c)) (waitForMigrations lib idioms (p.validated c) j)
      (fun _ s => Complete j ∧ Served (Going slack w c) s) (fun _ => At (EndsWithin lib w p b)) := by
  refine read_served fun w₁ => ?_
  split
  · rename_i message hfound
    simp [jobConditionHasStatus, hfound] at hfailed
  · refine Triple.ite (fun hcomplete => ?_) fun hincomplete => Triple.stop fun s hs => ?_
    · refine Triple.act fun s hs => ⟨hcomplete, hs.1, hs.2.1, ?_⟩
      exact ⟨hs.2.2.1.frame rfl rfl rfl rfl rfl rfl, hs.2.2.2⟩
    · obtain ⟨-, -, hholding, -⟩ := hs
      refine ⟨2, hb hincomplete, hholding.ends htidy (by omega) ⟨hholding.recorded hc.toRecorded, h.needed, ?_, ?_, ?_⟩⟩
      · rw [hholding.deployments]
        exact h.unserved
      · rw [hholding.jobs]
        exact h.job
      · rw [hholding.isStatusConditionTrue, ← h.flagged]
        simp only [SpiceDBCluster.isStatusConditionTrue, lib.isTrue_eq]
        rw [show lib.findStatusCondition c.status.conditions _ = _ from hc.migrating]
        rfl

/-! ## From any stage -/

/-- The hash of a deployment tells its migration annotation. -/
def Libraries.TellsMigration (lib : Libraries) : Prop :=
  ∀ n n' : DeploymentApply, lib.hashDeployment n = lib.hashDeployment n' →
    (n.metadata.annotations.lookup migrationRequirementsKey).getD "" =
      (n'.metadata.annotations.lookup migrationRequirementsKey).getD ""

/-- A deployment with the hash of `n` might as well have been applied from it. -/
theorem AppliedFrom.current (htells : lib.TellsMigration) {n n' : DeploymentApply} {d : Deployment}
    (h : AppliedFrom lib n' d) (hcurrent : annotationAt d.annotations configKey = lib.hashDeployment n) :
    AppliedFrom lib n d :=
  ⟨h.annotated, hcurrent, h.migration.trans (htells _ _ (h.config.symm.trans hcurrent))⟩

/-- Nothing stands in the way of what the cluster asks for. -/
structure Ready (lib : Libraries) (resolver : PatchMetaResolver) (w : World) (p : Plan) : Prop where
  synced : w.cache = w.api
  unpaused : pausedControllerSelectorKey ∉ w.api.cluster.labels
  spec : specError w.api.cluster.spec = none
  secrets : ∀ cs ∈ credentialSecretsForCluster w.api.cluster.spec, cs.1 ∈ w.api.secrets
  asks : Asks lib resolver w.operatorConfig w.api.secrets w.api.cluster p
  text : SameText w.api.cluster.status.currentVersion p.config.migration.spiceDBVersion
  tidy : Tidy lib w
  noneFailed : ∀ j ∈ w.api.jobs, jobConditionHasStatus j .failed .true = false
  tells : lib.TellsMigration

namespace Ready

variable (h : Ready lib resolver w p)

include h

theorem named : p.config.spice.name = w.api.cluster.name := (newConfig_named h.asks.config).1

/-- The route to the deployment of the config, if that is there. -/
theorem served {d : Deployment} (hfound : w.api.deployments = [d]) (happlied : AppliedFrom lib p.deployment d) :
    p.config.Direct ∨ ∃ d ∈ w.api.deployments, carriesHash d.annotations p.migrationHash = true := by
  by_cases hskip : p.config.spice.skipMigrations = true
  · exact Or.inl (Or.inl hskip)
  · refine Or.inr ⟨d, by simp [hfound], ?_⟩
    have hmigration := happlied.migration
    rw [deployment_annotations h.asks.deployment] at hmigration
    simp only [Config.migrationAnnotationOf, if_neg hskip, Option.getD_some] at hmigration
    simp [carriesHash, happlied.annotated, hmigration]

theorem ends_current {d : Deployment} (hc : Planned lib w p c) (hd : FoundCurrent lib w p d)
    (hb : ¬ (Available d ∧ Migrated lib c) → 1 ≤ b) :
    Triple (Served (Going (Slack w 3 b) w c)) (migrateAndDeploy lib idioms (p.validated c))
      (fun _ => At (EndsWithin lib w p b)) (fun _ => At (EndsWithin lib w p b)) := by
  refine look_served fun w₁ hw₁ => ?_
  rw [hw₁.1.cache, h.synced, route_direct hc (h.served hd.found hd.applied)]
  refine (hd.deploymentChain_ends hc h.synced h.asks.budget hb).pre fun s hs => ⟨hs.1, hs.2.1, hs.2.2 ▸ hw₁⟩

/-- Nothing is under way for this config. -/
theorem ends_fresh (hc : Planned lib w p c) (hjobs : w.api.jobs = []) (hb : 2 ≤ b) :
    Triple (Served (Going (Slack w 3 b) w c)) (migrateAndDeploy lib idioms (p.validated c))
      (fun _ => At (EndsWithin lib w p b)) (fun _ => At (EndsWithin lib w p b)) := by
  by_cases hcurrent : ∃ d ∈ w.api.deployments, annotationAt d.annotations configKey = lib.hashDeployment p.deployment
  · obtain ⟨d, hd, hhash⟩ := hcurrent
    rcases h.tidy with hnone | ⟨n, d', hfound, hnamed, happlied⟩
    · rw [hnone] at hd
      cases hd
    · obtain rfl : d = d' := by simpa [hfound] using hd
      refine h.ends_current hc
        ⟨h.asks.deployment, hfound, hnamed, happlied.current h.tells hhash, Or.inl hjobs⟩ fun _ => ?_
      omega
  push Not at hcurrent
  refine look_served fun w₁ hw₁ => ?_
  have hback : ∀ s : Session, Served (· = w₁) s → Served (Going (Slack w 3 b) w c) s :=
    fun s hs => ⟨hs.1, hs.2.1, hs.2.2 ▸ hw₁⟩
  rw [hw₁.1.cache, h.synced]
  by_cases hserved : p.config.Direct ∨ ∃ d ∈ w.api.deployments, carriesHash d.annotations p.migrationHash = true
  · rw [route_direct hc hserved]
    exact (deploymentChain_applies hc h.asks.deployment h.named h.tidy (Or.inl hjobs) hcurrent (by omega)).pre hback
  · rw [not_or, not_exists] at hserved
    have hunserved : ∀ d ∈ w.api.deployments, carriesHash d.annotations p.migrationHash = false := fun d hd =>
      Bool.eq_false_iff.2 fun hcarries => hserved.2 d ⟨hd, hcarries⟩
    rw [route_needed hc hserved.1 hunserved, hjobs]
    refine Triple.pre (Triple.bind (Q := fun _ _ => False) ?_ fun _ => ⟨fun _ hs => hs.elim⟩) hback
    exact runMigration_ends hc h.tidy hserved.1 hunserved hjobs hb

theorem ends_migration (hc : Planned lib w p c) (hm : InMigration lib p w) (hb : 1 ≤ b)
    (hslow : ¬ (∀ j ∈ w.api.jobs, Complete j) → 2 ≤ b) :
    Triple (Served (Going (Slack w 3 b) w c)) (migrateAndDeploy lib idioms (p.validated c))
      (fun _ => At (EndsWithin lib w p b)) (fun _ => At (EndsWithin lib w p b)) := by
  obtain ⟨j, hj, hcarries⟩ := hm.job
  have hskip : p.config.spice.skipMigrations = false := Bool.eq_false_iff.2 fun hskip => hm.needed (Or.inl hskip)
  -- a deployment with the hash of the config would carry the migration hash
  have hnone : ∀ d ∈ w.api.deployments, annotationAt d.annotations configKey ≠ lib.hashDeployment p.deployment := by
    intro d hd hhash
    rcases h.tidy with hnone | ⟨n, d', hfound, -, happlied⟩
    · rw [hnone] at hd
      cases hd
    · obtain rfl : d = d' := by simpa [hfound] using hd
      rcases h.served hfound (happlied.current h.tells hhash) with hdirect | ⟨d', hd', hcarries'⟩
      · exact hm.needed hdirect
      · rw [hm.unserved d' hd'] at hcarries'
        cases hcarries'
  have hfind : [j].find? (fun j => carriesHash j.annotations p.migrationHash) = some j := by simp [hcarries]
  refine look_served fun w₁ hw₁ => ?_
  rw [hw₁.1.cache, h.synced, route_needed hc hm.needed hm.unserved, hj, hfind]
  have hback : ∀ s : Session, Served (· = w₁) s → Served (Going (Slack w 3 b) w c) s :=
    fun s hs => ⟨hs.1, hs.2.1, hs.2.2 ▸ hw₁⟩
  refine Triple.pre ?_ hback
  refine Triple.bind (waitForMigrations_ends hc h.tidy hm (h.noneFailed j (by simp [hj])) fun hincomplete =>
    hslow fun hall => hincomplete (hall j (by simp [hj]))) fun _ => Triple.assume fun hcomplete => ?_
  refine deploymentChain_applies hc h.asks.deployment h.named h.tidy
    (Or.inr ⟨hskip, Or.inl ?_, j, hj, hcarries, hcomplete⟩) hnone hb
  have hflagged := hm.flagged
  simp only [SpiceDBCluster.isStatusConditionTrue, lib.isTrue_eq, Option.any_eq_true] at hflagged
  obtain ⟨condition, hcondition, -⟩ := hflagged
  exact Option.isSome_of_eq_some hcondition

/-- At most this many rounds are left after the next one. -/
theorem tail_ends (hc : Planned lib w p c) {k : Nat} (hk : Stage lib p k w) :
    Triple (Served (Going (Slack w 3 (leftAfter (Timely w) k)) w c)) (migrateAndDeploy lib idioms (p.validated c))
      (fun _ => At (EndsWithin lib w p (leftAfter (Timely w) k)))
      (fun _ => At (EndsWithin lib w p (leftAfter (Timely w) k))) := by
  -- what is found unfinished makes the round a slow one
  have hslow : ∀ d, w.api.deployments = [d] → Migrated lib w.api.cluster → Recorded lib p w.api.cluster → k ≤ 1 →
      ¬ (Available d ∧ Migrated lib c) → 1 ≤ leftAfter (Timely w) k := by
    intro d hd hmigrated hrecorded hk hne
    have huntimely : ¬ Timely w := fun htimely =>
      hne ⟨htimely.1 d (by simp [hd]), hc.migrated hrecorded hmigrated⟩
    rw [leftAfter, if_neg (by simp only [huntimely, false_or]; omega)]
    omega
  match k with
  | 0 =>
    have hrest : AtRest lib p w := hk
    obtain ⟨d, hfound, hnamed, happlied⟩ := hrest.current
    exact h.ends_current hc ⟨h.asks.deployment, hfound, hnamed, happlied, Or.inl hrest.jobs⟩
      (hslow d hfound hrest.migrated hrest.recorded (by omega))
  | 1 =>
    have hrollout : InRollout lib p w := hk
    obtain ⟨d, hfound, hnamed, happlied⟩ := hrollout.current
    refine h.ends_current hc ⟨h.asks.deployment, hfound, hnamed, happlied, ?_⟩
      (hslow d hfound hrollout.migrated hrollout.recorded le_rfl)
    exact hrollout.jobs.imp_right fun ⟨hskip, hrolling, hjob⟩ => ⟨hskip, Or.inr hrolling, hjob⟩
  | 2 =>
    refine h.ends_migration hc hk ?_ fun hincomplete => ?_
    · unfold leftAfter
      split_ifs <;> omega
    · have huntimely : ¬ Timely w := fun htimely => hincomplete htimely.2
      simp [leftAfter, huntimely]
  | k + 3 =>
    refine h.ends_fresh hc (hk.unbegun (by omega)) ?_
    rw [leftAfter, if_pos (Or.inr (by omega))]
    omega

/-! ## The whole reconcile -/

theorem reconcile_ends {k : Nat} (hk : Stage lib p k w) :
    Triple (Served (· = w)) (reconcile lib idioms resolver)
      (fun _ => At (EndsWithin lib w p (leftAfter (Timely w) k)))
      (fun _ => At (EndsWithin lib w p (leftAfter (Timely w) k))) := by
  have hleft : 3 ≤ k → leftAfter (Timely w) k = k - 1 := fun hk => if_pos (Or.inr hk)
  have hobserved : Observed lib p.secretHash w.api.cluster ∨ Slack w 4 (leftAfter (Timely w) k) := by
    rcases Nat.lt_or_ge 4 k with h5 | h4
    · exact Or.inr ⟨hk.unbegun (by omega), by rw [hleft (by omega)]; omega⟩
    · exact Or.inl (hk.observed h4)
  rw [reconcile_eq]
  refine Triple.bind (beforeValidation_passes h.synced h.unpaused h.spec h.secrets h.asks.secretHash hobserved) fun u =>
    Triple.assume ?_
  rintro ⟨now, rfl⟩
  have hbearing : (noted lib now (SpiceDBOperator.unpaused lib w.api.cluster) p.secretHash).status.bearing lib =
      w.api.cluster.status.bearing lib := (noted_bearing _ _ _).trans (unpaused_bearing _)
  have hrecorded : Recorded lib p (noted lib now (SpiceDBOperator.unpaused lib w.api.cluster) p.secretHash) ∨
      Slack w 3 (leftAfter (Timely w) k) := by
    rcases Nat.lt_or_ge 3 k with h4 | h3
    · exact Or.inr ⟨hk.unbegun (by omega), by rw [hleft (by omega)]; omega⟩
    · have hsame := hk.recorded h3
      rw [unpaused_of_observed hsame.toObserved, noted, if_neg hsame.toObserved.not_changed]
      exact Or.inl hsame
  refine Triple.bind (validateConfig_passes h.asks h.text h.tidy (observed_noted (unpaused_find _)) hbearing hrecorded)
    fun v => Triple.assume ?_
  rintro ⟨cluster, rfl, hplanned⟩
  refine Triple.bind (ensureComponents_passes (fun _ _ hw => ⟨hw.1.frame rfl rfl rfl rfl rfl rfl, hw.2⟩) _) fun _ => ?_
  exact h.tail_ends hplanned hk

/-- **A reconcile advances the rollout of its config**, by at least one stage if what it awaits is finished. -/
theorem advances {k : Nat} (hk : Stage lib p k w) (now : Nat) :
    EndsWithin lib w p (leftAfter (Timely w) k) (step lib idioms resolver w (.reconcile now [])) := by
  have hready : Ready lib resolver { w with now } p := { h with }
  have hstage : Stage lib p k { w with now } := by
    match k with
    | 0 => exact { (hk : AtRest lib p w) with }
    | 1 => exact { (hk : InRollout lib p w) with }
    | 2 => exact { (hk : InMigration lib p w) with }
    | 3 | 4 | _ + 5 => exact hk
  have hends : Triple _ (reconcile lib idioms resolver) _ _ := hready.reconcile_ends hstage
  obtain ⟨left, hleft, hends⟩ := hends.always (s := { world := { w with now }, answers := [] }) ⟨nofun, rfl, rfl⟩
  exact ⟨left, hleft, { hends with }⟩

end Ready

end

end SpiceDBOperator
