import SpiceDBOperator.Controller.Rounds
import SpiceDBOperator.Updates.Converge

/-!
# Clusters reach their version

`converges_iff` (Converge.lean) is about the loop of `ComputeTarget` alone. Here is the loop of the operator around it:
every version takes a recorded status, a migration, a rollout and a cleanup, each in a round of its own because a
reconcile can change the status only once, and the next version is computed from the status those leave. `Round` says
what Kubernetes does in between.

Along the rounds the version in the status follows the walk of `onward`, the target of a call outside a rollout. A
round either brings the rollout of the version one stage further or, when no rollout is under way, starts that of the
next one, so what is left goes down by one with every timely round (`Within.advances`). At the end of the walk the
cluster is at rest: the config of the status is the one that is deployed (`Converged`).
-/

namespace SpiceDBOperator

open Golang Hoare Metadata UpdateGraph Handler

/-! ## The targets of a cluster -/

/-- The target of a version that is a node of the source. -/
def targetAt (m : MemorySource) (baseImage : String) (t : SpiceDBVersion) : Target :=
  { baseImage, state := m.nodeState t.name, target := some t }

/-- The version after `t`, outside a rollout; `sub` is the source the step is taken in. -/
def onward (sub : MemorySource) (version : String) (t : SpiceDBVersion) : SpiceDBVersion :=
  if t.name = version ∨ sub.nextVersion t.name = "" then t else stepTarget sub t t

section

variable {m sub : MemorySource} {version : String} {t : SpiceDBVersion}

theorem onward_name : (onward sub version t).name = sub.forward version t.name := by
  unfold onward MemorySource.forward MemorySource.advance
  by_cases hversion : t.name = version
  · simp [hversion]
  · by_cases hnext : sub.nextVersion t.name = ""
    · simp [hversion, hnext]
    · simp [hversion, hnext, stepTarget]

theorem onward_iterate_name (k : Nat) : ((onward sub version)^[k] t).name = (sub.forward version)^[k] t.name := by
  induction k with
  | zero => rfl
  | succ k ih => rw [Function.iterate_succ_apply', Function.iterate_succ_apply', onward_name, ih]

@[simp] theorem onward_channel : (onward sub version t).channel = t.channel := by
  unfold onward
  split_ifs <;> rfl

@[simp] theorem onward_description : (onward sub version t).description = t.description := by
  unfold onward
  split_ifs <;> rfl

/-- A step that stays where it is changes nothing the second time. -/
theorem onward_twice (h : sub.forward version t.name = t.name) :
    onward sub version (onward sub version t) = onward sub version t := by
  by_cases hstays : t.name = version ∨ sub.nextVersion t.name = ""
  · have hfixed : onward sub version t = t := if_pos hstays
    rw [hfixed, hfixed]
  · rw [not_or] at hstays
    have hloop : sub.nextVersion t.name = t.name := by
      simpa [MemorySource.forward, MemorySource.advance, hstays.1, hstays.2] using h
    have hstep : onward sub version t = stepTarget sub t t := if_neg (not_or.2 hstays)
    have hname : (stepTarget sub t t).name = t.name := hloop
    have hagain : onward sub version (stepTarget sub t t) =
        stepTarget sub (stepTarget sub t t) (stepTarget sub t t) := by
      refine if_neg ?_
      rw [hname]
      exact not_or.2 hstays
    rw [hstep, hagain]
    exact stepTarget_loop hloop t

variable {lib : Libraries} {g : UpdateGraph} {operatorConfig : OperatorConfig} {cluster : SpiceDBCluster}
  {baseImage selected : String} {status : ClusterStatus}

/-- The source that is selected for a cluster at `cur`. -/
abbrev SelectsFor (operatorConfig : OperatorConfig) (spec : ClusterSpec) (cur : Option SpiceDBVersion)
    (baseImage selected : String) (m : MemorySource) : Prop :=
  Selects operatorConfig.updateGraph operatorConfig.imageName spec.baseImage spec.imageSetting spec.channel
    spec.engineSetting cur baseImage selected m

/-- During a rollout the version stays. -/
theorem target_in_progress (hsel : SelectsFor operatorConfig cluster.spec (some t) baseImage selected m)
    (hnode : m.IsNode t.name) (hne : t.name ≠ "") (hchannel : t.channel = selected)
    (hcurrent : status.currentVersion = some t)
    (hrolling : ({ cluster with status } : SpiceDBCluster).rolloutInProgress lib = true) :
    operatorConfig.targetOf lib { cluster with status } cluster.spec.engineSetting = .ok (targetAt m baseImage t) := by
  have hexit : Exit operatorConfig.updateGraph m baseImage cluster.spec.version selected cluster.spec.engineSetting
      (some t) true (targetAt m baseImage t) := by
    by_cases hversion : t.name = cluster.spec.version
    · exact .same hversion hchannel
    · have hid : (m.nodeState t.name).id ≠ "" := MemorySource.nodeState_id_ne.2 ⟨hnode, hne⟩
      have h : Exit operatorConfig.updateGraph m baseImage cluster.spec.version selected cluster.spec.engineSetting
          (some t) true _ := .rolling (fun h => hversion h.1) (.inChannel hnode hne) hid
      rwa [← hchannel] at h ⊢
  have := (hsel.computeTarget_of_exit hexit).1
  simp only [OperatorConfig.targetOf, hcurrent, hrolling]
  exact this

/-- Outside a rollout it goes onward. -/
theorem target_idle (hsel : SelectsFor operatorConfig cluster.spec (some t) baseImage selected m)
    (hnode : m.IsNode t.name) (hne : t.name ≠ "") (hchannel : t.channel = selected)
    (hsub : stepSource m cluster.spec.version false = some sub)
    (hcurrent : status.currentVersion = some t)
    (hidle : ({ cluster with status } : SpiceDBCluster).rolloutInProgress lib = false) :
    operatorConfig.targetOf lib { cluster with status } cluster.spec.engineSetting =
      .ok (targetAt m baseImage (onward sub cluster.spec.version t)) := by
  have hwf := sourceForChannel_wf hsel.source
  have hexit : Exit operatorConfig.updateGraph m baseImage cluster.spec.version selected cluster.spec.engineSetting
      (some t) false (targetAt m baseImage (onward sub cluster.spec.version t)) := by
    subst hchannel
    by_cases hversion : t.name = cluster.spec.version
    · rw [onward, if_pos (Or.inl hversion)]
      exact .same hversion rfl
    by_cases hnext : sub.nextVersion t.name = ""
    · rw [onward, if_pos (Or.inr hnext)]
      exact .stay (fun h => hversion h.1) hne (.inChannel hnode hne) hsub hnext
    · rw [onward, if_neg (not_or.2 ⟨hversion, hnext⟩)]
      have hstate := stepSource_nodeState hwf hsub ((stepSource_wf hwf hsub).nextVersion_isNode hnext)
      have h : Exit operatorConfig.updateGraph m baseImage cluster.spec.version t.channel cluster.spec.engineSetting
          (some t) false _ := .step (fun h => hversion h.1) hne (.inChannel hnode hne) hsub hnext
      rwa [hstate] at h
  have := (hsel.computeTarget_of_exit hexit).1
  simp only [OperatorConfig.targetOf, hcurrent, hidle]
  exact this

/-- The version a cluster is installed with. -/
def firstVersion (m : MemorySource) (version selected : String) : SpiceDBVersion :=
  { name := if version = "" then m.headId else version
    channel := selected
    attributes := [SpiceDBVersionAttributes.migration] }

theorem target_first (hsel : SelectsFor operatorConfig cluster.spec none baseImage selected m)
    (hversion : cluster.spec.version ≠ "" → m.IsNode cluster.spec.version) (hcurrent : status.currentVersion = none)
    (hidle : ({ cluster with status } : SpiceDBCluster).rolloutInProgress lib = false) :
    operatorConfig.targetOf lib { cluster with status } cluster.spec.engineSetting =
      .ok (targetAt m baseImage (firstVersion m cluster.spec.version selected)) := by
  have hexit : Exit operatorConfig.updateGraph m baseImage cluster.spec.version selected cluster.spec.engineSetting
      none false (targetAt m baseImage (firstVersion m cluster.spec.version selected)) := by
    by_cases hempty : cluster.spec.version = ""
    · rw [firstVersion, if_pos hempty]
      exact .first hempty
    · rw [firstVersion, if_neg hempty]
      exact .install hempty rfl (hversion hempty)
  have := (hsel.computeTarget_of_exit hexit).1
  simp only [OperatorConfig.targetOf, hcurrent, hidle]
  exact this

/-- An installed version that no step leaves is where the cluster stays. -/
theorem onward_first (h : sub.forward version (firstVersion m version selected).name =
    (firstVersion m version selected).name) :
    onward sub version (firstVersion m version selected) = firstVersion m version selected := by
  by_cases hstays : (firstVersion m version selected).name = version ∨
      sub.nextVersion (firstVersion m version selected).name = ""
  · exact if_pos hstays
  · rw [onward, if_neg hstays]
    rw [not_or] at hstays
    have hloop : sub.nextVersion (firstVersion m version selected).name = (firstVersion m version selected).name := by
      simpa [MemorySource.forward, MemorySource.advance, hstays.1, hstays.2] using h
    rw [stepTarget, hloop]
    split <;> rfl

end

/-! ## The plan of a version -/

section

variable (lib : Libraries) (resolver : PatchMetaResolver) (w₀ : World)

/-- What the cluster asks for while the version `t` is rolled out. -/
def PlanFor (t : SpiceDBVersion) (p : Plan) : Prop :=
  ∃ status : ClusterStatus, status.currentVersion = some t ∧
    ({ w₀.api.cluster with status } : SpiceDBCluster).rolloutInProgress lib = true ∧
    Asks lib resolver w₀.operatorConfig w₀.api.secrets { w₀.api.cluster with status } p

/-- What the rounds rely on. The cluster is neither paused nor invalid, its secrets are there, its config is accepted
for every version of the channel, and the update graph has a source for it. -/
structure Course (m sub : MemorySource) (baseImage selected : String) : Prop where
  selects : ∀ t : SpiceDBVersion, t.channel = selected →
    SelectsFor w₀.operatorConfig w₀.api.cluster.spec (some t) baseImage selected m
  source : stepSource m w₀.api.cluster.spec.version false = some sub
  ids : ∀ x, m.IsNode x → x ≠ ""
  accepts : ∀ t : SpiceDBVersion, m.IsNode t.name → t.channel = selected → ∃ p, PlanFor lib resolver w₀ t p
  unpaused : pausedControllerSelectorKey ∉ w₀.api.cluster.labels
  spec : specError w₀.api.cluster.spec = none
  secrets : ∀ cs ∈ credentialSecretsForCluster w₀.api.cluster.spec, cs.1 ∈ w₀.api.secrets
  tells : lib.TellsMigration

end

section

variable {lib : Libraries} {idioms : Idioms lib} {resolver : PatchMetaResolver} {w₀ w w' : World} {m sub : MemorySource}
  {baseImage selected : String} {t t' goal : SpiceDBVersion} {p p' : Plan} {k q : Nat}

/-- The secrets are the same for all versions. -/
theorem PlanFor.secretHash_eq (h : PlanFor lib resolver w₀ t p) (h' : PlanFor lib resolver w₀ t' p') :
    p'.secretHash = p.secretHash := by
  obtain ⟨status, -, -, hasks⟩ := h
  obtain ⟨status', -, -, hasks'⟩ := h'
  exact hasks'.secretHash.symm.trans hasks.secretHash

namespace Course

variable (h : Course lib resolver w₀ m sub baseImage selected)

include h

theorem wf : m.WF := sourceForChannel_wf (h.selects { channel := selected } rfl).source

/-- A cluster asks for the plan of `t` if its target is `t`. -/
theorem asks_of_target (hnode : m.IsNode t.name) (hchannel : t.channel = selected) {status : ClusterStatus}
    {resourceVersion : Option Nat}
    (htarget : w₀.operatorConfig.targetOf lib { w₀.api.cluster with status } w₀.api.cluster.spec.engineSetting =
      .ok (targetAt m baseImage t)) (hplan : PlanFor lib resolver w₀ t p) :
    Asks lib resolver w₀.operatorConfig w₀.api.secrets { w₀.api.cluster with status, resourceVersion } p := by
  obtain ⟨status', hcurrent, hrolling, hasks⟩ := hplan
  refine hasks.restated fun chosen => newConfig_target _ _ ?_
  rw [htarget, target_in_progress (h.selects t hchannel) hnode (h.ids _ hnode) hchannel hcurrent hrolling]

theorem planFor_version (hnode : m.IsNode t.name) (hchannel : t.channel = selected)
    (hplan : PlanFor lib resolver w₀ t p) : p.config.migration.spiceDBVersion = some t := by
  obtain ⟨status, hcurrent, hrolling, hasks⟩ := hplan
  have htarget := target_in_progress (h.selects t hchannel) hnode (h.ids _ hnode) hchannel hcurrent hrolling
  obtain ⟨_, ⟨raw, hraw, _⟩, _⟩ := newConfig_assembles hasks.config
  obtain ⟨target, creds, tried, hcall, hconfig, -⟩ := newConfig_settings hraw hasks.config
  have hengine : (settings { w₀.api.cluster with status } raw).datastoreEngine = w₀.api.cluster.spec.engineSetting := by
    rw [ClusterSpec.engineSetting, show w₀.api.cluster.spec.config = _ from hraw]
    rfl
  rw [hengine, htarget] at hcall
  cases hcall
  rw [hconfig]
  rfl

theorem onward_node (hnode : m.IsNode t.name) : m.IsNode (onward sub w₀.api.cluster.spec.version t).name := by
  rw [onward_name]
  exact (forward_isNode h.wf h.source hnode (h.ids _ hnode)).1

end Course

/-! ## Rounds -/

variable (lib w₀) in
/-- A world some rounds after `w₀`. -/
structure Since (w : World) : Prop where
  synced : w.cache = w.api
  left : ∃ status resourceVersion, w.api.cluster = { w₀.api.cluster with status, resourceVersion }
  secrets : w.api.secrets = w₀.api.secrets
  operatorConfig : w.operatorConfig = w₀.operatorConfig
  tidy : Tidy lib w
  noneFailed : ∀ j ∈ w.api.jobs, jobConditionHasStatus j .failed .true = false

variable (lib resolver w₀ m selected) in
/-- The version `t` is under way, `k` rounds from rest. -/
structure Underway (t : SpiceDBVersion) (k : Nat) (w : World) : Prop where
  current : w.api.cluster.status.currentVersion = some t
  node : m.IsNode t.name
  channel : t.channel = selected
  stage : ∃ p, PlanFor lib resolver w₀ t p ∧ Stage lib p k w

theorem sameText_of_description (h : t'.description = t.description) : SameText (some t) (some t') := by
  intro hequals
  obtain ⟨hname, hchannel, hattributes⟩ := SpiceDBVersion.equals_iff.1 hequals
  cases t
  cases t'
  simp_all

variable (lib resolver) in
/-- The cluster has the version, and what it asks for is recorded and deployed. -/
def Converged (w : World) (version : String) : Prop :=
  ∃ p, Asks lib resolver w.operatorConfig w.api.secrets w.api.cluster p ∧
    (∃ t, p.config.migration.spiceDBVersion = some t ∧ t.name = version) ∧ AtRest lib p w

namespace Course

variable (h : Course lib resolver w₀ m sub baseImage selected)

include h

theorem asks (hsince : Since lib w₀ w) (hnode : m.IsNode t.name) (hchannel : t.channel = selected)
    (htarget : w₀.operatorConfig.targetOf lib w.api.cluster w₀.api.cluster.spec.engineSetting =
      .ok (targetAt m baseImage t))
    (hplan : PlanFor lib resolver w₀ t p) : Asks lib resolver w.operatorConfig w.api.secrets w.api.cluster p := by
  obtain ⟨status, resourceVersion, hleft⟩ := hsince.left
  rw [hleft] at htarget
  rw [hsince.operatorConfig, hsince.secrets, hleft]
  exact h.asks_of_target hnode hchannel htarget hplan

/-- A round whose target is `t`: it records the version, or leaves it to the next round. -/
theorem round_of_target (hsince : Since lib w₀ w) (hround : Round lib idioms resolver w w') (hnode : m.IsNode t.name)
    (hchannel : t.channel = selected) (hplan : PlanFor lib resolver w₀ t p)
    (htarget : w₀.operatorConfig.targetOf lib w.api.cluster w₀.api.cluster.spec.engineSetting =
      .ok (targetAt m baseImage t))
    (htext : SameText w.api.cluster.status.currentVersion (some t)) (hk : Stage lib p k w) :
    Since lib w₀ w' ∧ ∃ k' ≤ leftAfter (Timely w) k, Stage lib p k' w' ∧
      (k' ≤ 3 ∧ w'.api.cluster.status.currentVersion = some t ∨
        4 ≤ k' ∧ w'.api.cluster.status.bearing lib = w.api.cluster.status.bearing lib) := by
  obtain ⟨status, resourceVersion, hleft⟩ := hsince.left
  have hversion := h.planFor_version hnode hchannel hplan
  have hready : Ready lib resolver w p := by
    refine ⟨hsince.synced, ?_, ?_, ?_, h.asks hsince hnode hchannel htarget hplan, ?_, hsince.tidy, hsince.noneFailed,
      h.tells⟩
    · rw [hleft]; exact h.unpaused
    · rw [hleft]; exact h.spec
    · rw [hleft, hsince.secrets]; exact h.secrets
    · rw [hversion]; exact htext
  obtain ⟨now, moves, hmoves, rfl, hlasts⟩ := hround.moves
  obtain ⟨k', hk', hends⟩ : EndsWithin lib w p _ (step lib idioms resolver w (.reconcile now [])) :=
    hready.advances hk now
  have hkept : Kept (step lib idioms resolver w (.reconcile now [])) _ := kept_run lib idioms resolver hmoves
  obtain ⟨status', resourceVersion', hleft'⟩ := hends.left
  refine ⟨⟨hround.synced, ⟨status', resourceVersion', ?_⟩, ?_, ?_, hends.tidy.kept hkept, hround.noneFailed⟩, k', hk',
    hends.stage.kept hkept hlasts, ?_⟩
  · rw [hkept.cluster, hleft', hleft]
  · rw [hkept.secrets, hends.secrets, hsince.secrets]
  · rw [hkept.operatorConfig, hends.operatorConfig, hsince.operatorConfig]
  · rw [hkept.cluster]
    rcases Nat.lt_or_ge 3 k' with h4 | h3
    · exact Or.inr ⟨h4, hends.bearing h4⟩
    · exact Or.inl ⟨h3, (hends.stage.recorded h3).version.trans hversion⟩

/-- A round whose target is the version there is. -/
theorem round_again (hsince : Since lib w₀ w) (hround : Round lib idioms resolver w w')
    (hunder : Underway lib resolver w₀ m selected t k w)
    (htarget : w₀.operatorConfig.targetOf lib w.api.cluster w₀.api.cluster.spec.engineSetting =
      .ok (targetAt m baseImage t)) :
    Since lib w₀ w' ∧ ∃ k' ≤ leftAfter (Timely w) k, Underway lib resolver w₀ m selected t k' w' := by
  obtain ⟨p, hplan, hstage⟩ := hunder.stage
  have htext : SameText w.api.cluster.status.currentVersion (some t) := by
    rw [hunder.current]
    exact sameText_of_description rfl
  obtain ⟨hsince', k', hk', hstage', hversion⟩ :=
    h.round_of_target hsince hround hunder.node hunder.channel hplan htarget htext hstage
  have hcurrent : w'.api.cluster.status.currentVersion = some t :=
    hversion.elim And.right fun hlate => (bearing_iff.1 hlate.2).1.1.trans hunder.current
  exact ⟨hsince', k', hk', hcurrent, hunder.node, hunder.channel, p, hplan, hstage'⟩

/-- A round whose target is the next version: it is recorded, or the old plan has come forward meanwhile. -/
theorem round_onward (hsince : Since lib w₀ w) (hround : Round lib idioms resolver w w')
    (hunder : Underway lib resolver w₀ m selected t k w) (hidle : w.api.cluster.rolloutInProgress lib = false)
    (htarget : w₀.operatorConfig.targetOf lib w.api.cluster w₀.api.cluster.spec.engineSetting =
      .ok (targetAt m baseImage (onward sub w₀.api.cluster.spec.version t))) :
    Since lib w₀ w' ∧
    (k ≠ 0 ∧ (∃ k' ≤ leftAfter (Timely w) k, Underway lib resolver w₀ m selected t k' w') ∨
      ∃ k' ≤ 3, Underway lib resolver w₀ m selected (onward sub w₀.api.cluster.spec.version t) k' w') := by
  obtain ⟨p, hplan, hstage⟩ := hunder.stage
  have hnode := h.onward_node hunder.node
  have hchannel : (onward sub w₀.api.cluster.spec.version t).channel = selected := onward_channel.trans hunder.channel
  obtain ⟨p', hplan'⟩ := h.accepts _ hnode hchannel
  have htext : SameText w.api.cluster.status.currentVersion (some (onward sub w₀.api.cluster.spec.version t)) := by
    rw [hunder.current]
    exact sameText_of_description onward_description
  -- its plan has not begun
  have hstage' : Stage lib p' (max k 4) w := hstage.another (hplan.secretHash_eq hplan') (hstage.no_jobs hidle)
  obtain ⟨hsince', k', hk', hnext, hversion⟩ :=
    h.round_of_target hsince hround hnode hchannel hplan' htarget htext hstage'
  refine ⟨hsince', ?_⟩
  rcases hversion with ⟨hrecorded, hmoved⟩ | ⟨hlate, hbearing⟩
  · exact Or.inr ⟨k', hrecorded, hmoved, hnode, hchannel, p', hplan', hnext⟩
  · have hleft : leftAfter (Timely w) (max k 4) = max k 4 - 1 := if_pos (Or.inr (by omega))
    have hcurrent := (bearing_iff.1 hbearing).1.1.trans hunder.current
    have hold : Stage lib p (max k' 4) w' := hnext.another (hplan'.secretHash_eq hplan) (hnext.unbegun (by omega))
    rw [max_eq_left hlate] at hold
    refine Or.inl ⟨by omega, k', ?_, hcurrent, hunder.node, hunder.channel, p, hplan, hold⟩
    rw [leftAfter, if_pos (Or.inr (by omega))]
    omega

/-- A round brings its version forward, or moves on to the next. -/
theorem round (hsince : Since lib w₀ w) (hround : Round lib idioms resolver w w')
    (hunder : Underway lib resolver w₀ m selected t k w) :
    Since lib w₀ w' ∧
    ((k ≠ 0 ∨ onward sub w₀.api.cluster.spec.version t = t) ∧
        (∃ k' ≤ leftAfter (Timely w) k, Underway lib resolver w₀ m selected t k' w') ∨
      onward sub w₀.api.cluster.spec.version t ≠ t ∧
        ∃ k' ≤ 3, Underway lib resolver w₀ m selected (onward sub w₀.api.cluster.spec.version t) k' w') := by
  obtain ⟨status, resourceVersion, hleft⟩ := hsince.left
  have hcurrent : status.currentVersion = some t := by rw [← hunder.current, hleft]
  have hsel := h.selects t hunder.channel
  by_cases hrolling : w.api.cluster.rolloutInProgress lib = true
  · obtain ⟨hsince', hnext⟩ := h.round_again hsince hround hunder <| by
      rw [hleft] at hrolling ⊢
      exact target_in_progress hsel hunder.node (h.ids _ hunder.node) hunder.channel hcurrent hrolling
    refine ⟨hsince', Or.inl ⟨Or.inl ?_, hnext⟩⟩
    rintro rfl
    obtain ⟨p, -, hstage⟩ := hunder.stage
    rw [AtRest.over hstage] at hrolling
    cases hrolling
  · rw [Bool.not_eq_true] at hrolling
    have htarget : w₀.operatorConfig.targetOf lib w.api.cluster w₀.api.cluster.spec.engineSetting =
        .ok (targetAt m baseImage (onward sub w₀.api.cluster.spec.version t)) := by
      rw [hleft] at hrolling ⊢
      exact target_idle hsel hunder.node (h.ids _ hunder.node) hunder.channel h.source hcurrent hrolling
    by_cases hfixed : onward sub w₀.api.cluster.spec.version t = t
    · rw [hfixed] at htarget
      obtain ⟨hsince', hnext⟩ := h.round_again hsince hround hunder htarget
      exact ⟨hsince', Or.inl ⟨Or.inr hfixed, hnext⟩⟩
    · obtain ⟨hsince', ⟨hpos, hnext⟩ | hnext⟩ := h.round_onward hsince hround hunder hrolling htarget
      · exact ⟨hsince', Or.inl ⟨Or.inl hpos, hnext⟩⟩
      · exact ⟨hsince', Or.inr ⟨hfixed, hnext⟩⟩

/-- At rest the cluster asks for the version it has. -/
theorem converged (hrests : onward sub w₀.api.cluster.spec.version t = t) (hsince : Since lib w₀ w)
    (hunder : Underway lib resolver w₀ m selected t 0 w) : Converged lib resolver w t.name := by
  obtain ⟨status, resourceVersion, hleft⟩ := hsince.left
  obtain ⟨p, hplan, hstage⟩ := hunder.stage
  have htarget : w₀.operatorConfig.targetOf lib w.api.cluster w₀.api.cluster.spec.engineSetting =
      .ok (targetAt m baseImage (onward sub w₀.api.cluster.spec.version t)) := by
    have hcurrent := hunder.current
    have hidle := AtRest.over hstage
    rw [hleft] at hcurrent hidle ⊢
    exact target_idle (h.selects t hunder.channel) hunder.node
      (h.ids _ hunder.node) hunder.channel h.source hcurrent hidle
  rw [hrests] at htarget
  exact ⟨p, h.asks hsince hunder.node hunder.channel htarget hplan,
    ⟨t, h.planFor_version hunder.node hunder.channel hplan, rfl⟩, hstage⟩

end Course

/-! ## Runs of rounds -/

variable (lib resolver w₀ m baseImage selected) in
/-- No version is installed, and the first to be is `t`. -/
structure Fresh (t : SpiceDBVersion) (k : Nat) (w : World) : Prop where
  current : w.api.cluster.status.currentVersion = none
  idle : w.api.cluster.rolloutInProgress lib = false
  node : m.IsNode t.name
  channel : t.channel = selected
  target : ∀ status : ClusterStatus, status.currentVersion = none →
    ({ w₀.api.cluster with status } : SpiceDBCluster).rolloutInProgress lib = false →
    w₀.operatorConfig.targetOf lib { w₀.api.cluster with status } w₀.api.cluster.spec.engineSetting =
      .ok (targetAt m baseImage t)
  unrecorded : 4 ≤ k
  stage : ∃ p, PlanFor lib resolver w₀ t p ∧ Stage lib p k w

/-- The first version is recorded, or left to the next round. -/
theorem Fresh.advances (hcourse : Course lib resolver w₀ m sub baseImage selected) (hsince : Since lib w₀ w)
    (hround : Round lib idioms resolver w w') (h : Fresh lib resolver w₀ m baseImage selected t k w) :
    Since lib w₀ w' ∧ ∃ k' < k, Underway lib resolver w₀ m selected t k' w' ∨
      Fresh lib resolver w₀ m baseImage selected t k' w' := by
  obtain ⟨status, resourceVersion, hleft⟩ := hsince.left
  obtain ⟨p, hplan, hstage⟩ := h.stage
  have hunrecorded := h.unrecorded
  have htarget := h.target status (by rw [← h.current, hleft]) (by rw [← h.idle, hleft]; rfl)
  have htarget' : w₀.operatorConfig.targetOf lib w.api.cluster w₀.api.cluster.spec.engineSetting =
      .ok (targetAt m baseImage t) := by
    rw [hleft]
    exact htarget
  have htext : SameText w.api.cluster.status.currentVersion (some t) := by
    rw [h.current]
    intro hequals
    cases hequals
  obtain ⟨hsince', k', hk', hnext, hversion⟩ :=
    hcourse.round_of_target hsince hround h.node h.channel hplan htarget' htext
    hstage
  rw [leftAfter, if_pos (Or.inr (by omega))] at hk'
  refine ⟨hsince', k', by omega, ?_⟩
  rcases hversion with ⟨-, hmoved⟩ | ⟨hlate, hbearing⟩
  · exact Or.inl ⟨hmoved, h.node, h.channel, p, hplan, hnext⟩
  · exact Or.inr ⟨(bearing_iff.1 hbearing).1.1.trans h.current, (rolloutInProgress_congr hbearing).trans h.idle, h.node,
      h.channel, h.target, hlate, p, hplan, hnext⟩

variable (lib resolver w₀ m sub baseImage selected) in
/-- At most `q` timely rounds from `goal`. -/
def Within (goal : SpiceDBVersion) (q : Nat) (w : World) : Prop :=
  Since lib w₀ w ∧
    ((∃ k ≤ q, Fresh lib resolver w₀ m baseImage selected goal k w) ∨
      ∃ K k t, Underway lib resolver w₀ m selected t k w ∧ (onward sub w₀.api.cluster.spec.version)^[K] t = goal ∧
        4 * K + k ≤ q)

theorem Within.mono {q' : Nat} (hle : q ≤ q') (h : Within lib resolver w₀ m sub baseImage selected goal q w) :
    Within lib resolver w₀ m sub baseImage selected goal q' w := by
  obtain ⟨hsince, ⟨k, hk, hfresh⟩ | ⟨K, k, t, hunder, hgoal, hk⟩⟩ := h
  · exact ⟨hsince, Or.inl ⟨k, hk.trans hle, hfresh⟩⟩
  · exact ⟨hsince, Or.inr ⟨K, k, t, hunder, hgoal, hk.trans hle⟩⟩

theorem leftAfter_le (timely : Prop) [Decidable timely] (k : Nat) :
    leftAfter timely k ≤ if timely then k - 1 else max k 1 := by
  unfold leftAfter
  split_ifs with hor htimely htimely
  · omega
  · omega
  · exact absurd (Or.inl htimely) hor
  · omega

theorem Within.advances (hcourse : Course lib resolver w₀ m sub baseImage selected)
    (hrests : onward sub w₀.api.cluster.spec.version goal = goal) (hround : Round lib idioms resolver w w')
    (h : Within lib resolver w₀ m sub baseImage selected goal q w) :
    Within lib resolver w₀ m sub baseImage selected goal (if Timely w then q - 1 else max q 1) w' := by
  obtain ⟨hsince, ⟨k, hk, hfresh⟩ | ⟨K, k, t, hunder, hgoal, hk⟩⟩ := h
  · obtain ⟨hsince', k', hk', hunder | hfresh'⟩ := hfresh.advances hcourse hsince hround
    · exact ⟨hsince', Or.inr ⟨0, k', goal, hunder, rfl, by split_ifs <;> omega⟩⟩
    · exact ⟨hsince', Or.inl ⟨k', by split_ifs <;> omega, hfresh'⟩⟩
  · obtain ⟨hsince', ⟨hheld, k', hk', hunder'⟩ | ⟨hmoves, k', hk', hunder'⟩⟩ := hcourse.round hsince hround hunder
    · refine ⟨hsince', Or.inr ?_⟩
      have hleft := hk'.trans (leftAfter_le (Timely w) k)
      by_cases hzero : k = 0
      · -- a version at rest that stays is the goal
        have hfixed := hheld.resolve_left (not_not.2 hzero)
        obtain rfl : t = goal := (Function.iterate_fixed hfixed K).symm.trans hgoal
        refine ⟨0, k', t, hunder', rfl, ?_⟩
        split_ifs at hleft ⊢ <;> omega
      · refine ⟨K, k', t, hunder', hgoal, ?_⟩
        split_ifs at hleft ⊢ <;> omega
    · cases K with
      | zero =>
        obtain rfl : t = goal := hgoal
        exact absurd hrests hmoves
      | succ K => exact ⟨hsince', Or.inr ⟨K, k', _, hunder', hgoal, by split_ifs <;> omega⟩⟩

/-- Along rounds of which `q` are timely a cluster gets to its goal and, after one more, to rest. -/
theorem Course.arrives {W : Nat → World} (hcourse : Course lib resolver w₀ m sub baseImage selected)
    (hrests : onward sub w₀.api.cluster.spec.version goal = goal)
    (hrounds : ∀ i, Round lib idioms resolver (W i) (W (i + 1)))
    (hstart : Within lib resolver w₀ m sub baseImage selected goal q (W 0)) {n : Nat}
    (hn : q ≤ Nat.count (fun i => Timely (W i)) n) :
    (W n).api.cluster.status.currentVersion = some goal ∧
      (Timely (W n) → Converged lib resolver (W (n + 1)) goal.name) := by
  have hwithin := Walk.count_down W Timely (P := Within lib resolver w₀ m sub baseImage selected goal) Within.mono
    (fun i _ h => Within.advances hcourse hrests (hrounds i) h) hstart n
  rw [Nat.sub_eq_zero_of_le hn] at hwithin
  constructor
  · obtain ⟨-, ⟨k, hk, hfresh⟩ | ⟨K, k, t, hunder, hgoal, hk⟩⟩ := hwithin
    · have := hfresh.unrecorded
      omega
    · obtain rfl : K = 0 := by omega
      rw [hunder.current, show t = goal from hgoal]
  · intro htimely
    have hnext := Within.advances hcourse hrests (hrounds n) hwithin
    rw [if_pos htimely] at hnext
    obtain ⟨hsince, ⟨k, hk, hfresh⟩ | ⟨K, k, t, hunder, hgoal, hk⟩⟩ := hnext
    · have := hfresh.unrecorded
      omega
    · obtain ⟨rfl, rfl⟩ : K = 0 ∧ k = 0 := by omega
      obtain rfl : t = goal := hgoal
      exact hcourse.converged hrests hsince hunder

/-! ## Automatic updates -/

/-- The image of the cluster, without a tag. -/
def World.untaggedImage (w : World) : String :=
  cmpOr [(explodeImage w.api.cluster.spec.imageSetting).1, w.api.cluster.spec.baseImage, w.operatorConfig.imageName]

/-- The cluster follows a channel to its head. -/
structure FollowsChannel (w : World) (selected : String) (channel : Channel) (head : State) : Prop where
  unpinned : w.api.cluster.spec.version = ""
  untagged : (explodeImage w.api.cluster.spec.imageSetting).2 = ("", "")
  image : w.untaggedImage ≠ ""
  chosen : Chosen w.operatorConfig.updateGraph w.api.cluster.spec.channel w.api.cluster.spec.engineSetting
    w.api.cluster.status.currentVersion selected
  named : selected ≠ ""
  found : w.operatorConfig.updateGraph.findChannel w.api.cluster.spec.engineSetting selected = some channel
  accepted : ∃ m, newMemorySource channel.nodes channel.edges = .ok (.ok m)
  ids : ∀ n ∈ channel.nodes, n.id ≠ ""
  first : channel.nodes.head? = some head
  rests : HeadRests channel.edges head.id

variable (lib resolver) in
/-- Nothing keeps the operator from its work, and nothing of an earlier rollout is left but the deployment. -/
structure Unhindered (w : World) (selected : String) (channel : Channel) : Prop where
  synced : w.cache = w.api
  unpaused : pausedControllerSelectorKey ∉ w.api.cluster.labels
  spec : specError w.api.cluster.spec = none
  secrets : ∀ cs ∈ credentialSecretsForCluster w.api.cluster.spec, cs.1 ∈ w.api.secrets
  accepts : ∀ t : SpiceDBVersion, (∃ n ∈ channel.nodes, n.id = t.name) → t.channel = selected →
    ∃ p, PlanFor lib resolver w t p
  start : w.api.cluster.status.currentVersion = none ∧ w.api.cluster.rolloutInProgress lib = false ∨
    ∃ t ∈ w.api.cluster.status.currentVersion, t.channel = selected ∧ ∃ n ∈ channel.nodes, n.id = t.name
  tidy : Tidy lib w
  jobs : w.api.jobs = []
  tells : lib.TellsMigration

section

variable {channel : Channel} {head : State}

/-- The channel stays the chosen one once its versions are installed. -/
theorem FollowsChannel.selects (h : FollowsChannel w selected channel head)
    (hnew : newMemorySource channel.nodes channel.edges = .ok (.ok m)) {cur : Option SpiceDBVersion}
    (hcur : cur = w.api.cluster.status.currentVersion ∨ ∃ t, cur = some t ∧ t.channel = selected) :
    SelectsFor w.operatorConfig w.api.cluster.spec cur w.untaggedImage selected m := by
  refine ⟨h.untagged, rfl, h.image, selectChannel_ok.2 ?_, h.named, sourceForChannel_ok.2 ⟨channel, h.found, hnew⟩⟩
  obtain rfl | ⟨t, rfl, ht⟩ := hcur
  · exact h.chosen
  · have hnamed := h.named
    by_cases hchannel : w.api.cluster.spec.channel = ""
    · exact Or.inr (Or.inl ⟨hchannel, by simpa [ht] using hnamed, by simp [ht]⟩)
    · exact Or.inl (h.chosen.resolve_right fun hor => hor.elim (fun h => hchannel h.1) fun h => hchannel h.1)

theorem Unhindered.course (h : Unhindered lib resolver w selected channel)
    (hfollows : FollowsChannel w selected channel head)
    (hnew : newMemorySource channel.nodes channel.edges = .ok (.ok m)) :
    Course lib resolver w m m w.untaggedImage selected := by
  obtain ⟨rfl, -⟩ := newMemorySource_wf hnew
  refine ⟨fun t ht => hfollows.selects hnew (Or.inr ⟨t, rfl, ht⟩), ?_, ?_, h.accepts, h.unpaused, h.spec,
    h.secrets, h.tells⟩
  · simp [stepSource, hfollows.unpinned]
  · rintro x ⟨n, hn, rfl⟩
    exact hfollows.ids n hn

/-- In a channel that `NewMemorySource` accepts, a version goes onward to the head and stays there. -/
theorem FollowsChannel.onward_arrives (h : FollowsChannel w selected channel head)
    (hnew : newMemorySource channel.nodes channel.edges = .ok (.ok m)) (hnode : ∃ n ∈ channel.nodes, n.id = t.name) :
    ∃ K ≤ channel.nodes.length, ((onward m w.api.cluster.spec.version)^[K] t).name = head.id ∧
      onward m w.api.cluster.spec.version ((onward m w.api.cluster.spec.version)^[K] t) =
        (onward m w.api.cluster.spec.version)^[K] t := by
  rw [h.unpinned]
  obtain ⟨k, hk, hwalk, hnodes⟩ := newMemorySource_walk hnew h.ids h.first hnode
  obtain ⟨rfl, hwf⟩ := newMemorySource_wf hnew
  have hids : ∀ x, (channelSource channel.nodes channel.edges).IsNode x → x ≠ "" := by
    rintro x ⟨n, hn, rfl⟩
    exact h.ids n hn
  have hrest : (channelSource channel.nodes channel.edges).forward "" head.id = head.id :=
    (forward_head_iff hwf hids ⟨head, List.mem_of_mem_head? h.first, rfl⟩).2 h.rests
  have harrive : ((onward (channelSource channel.nodes channel.edges) "")^[k] t).name = head.id := by
    rw [onward_iterate_name, MemorySource.forward_iterate (fun i hi => hids _ (hnodes i hi)) k le_rfl, hwalk]
  -- one step more, for the attributes a head with an edge to itself gives its version
  refine ⟨k + 1, by omega, ?_⟩
  rw [Function.iterate_succ_apply']
  exact ⟨by rw [onward_name, harrive, hrest], onward_twice (by rw [harrive, hrest])⟩

theorem Unhindered.since (h : Unhindered lib resolver w selected channel) : Since lib w w :=
  ⟨h.synced, ⟨_, _, rfl⟩, rfl, rfl, h.tidy, by simp [h.jobs]⟩

/-- A cluster without a version is five rounds from the head. -/
theorem Unhindered.within_of_fresh (h : Unhindered lib resolver w selected channel)
    (hfollows : FollowsChannel w selected channel head)
    (hnew : newMemorySource channel.nodes channel.edges = .ok (.ok m))
    (hcurrent : w.api.cluster.status.currentVersion = none) (hidle : w.api.cluster.rolloutInProgress lib = false) :
    ∃ goal, goal.name = head.id ∧ onward m w.api.cluster.spec.version goal = goal ∧
      Within lib resolver w m m w.untaggedImage selected goal 5 w := by
  obtain ⟨rfl, hwf⟩ := newMemorySource_wf hnew
  have hfirst : (firstVersion (channelSource channel.nodes channel.edges) w.api.cluster.spec.version selected).name =
      head.id := by
    simp [firstVersion, hfollows.unpinned, MemorySource.headId, channelSource, hfollows.first]
  have hhead : (channelSource channel.nodes channel.edges).IsNode head.id :=
    ⟨head, List.mem_of_mem_head? hfollows.first, rfl⟩
  have hrest := (forward_head_iff hwf (h.course hfollows hnew).ids hhead).2 hfollows.rests
  obtain ⟨p, hplan⟩ := h.accepts (firstVersion _ _ selected) (hfirst ▸ hhead) rfl
  refine ⟨_, hfirst, onward_first (by rw [hfirst, hfollows.unpinned, hrest]), h.since,
    Or.inl ⟨5, le_rfl, hcurrent, hidle, hfirst ▸ hhead, rfl, fun status hnone hrolling => ?_, by omega, p,
      hplan, h.jobs⟩⟩
  exact target_first (hfollows.selects hnew (Or.inl hcurrent.symm))
    (fun hne => absurd hfollows.unpinned hne) hnone hrolling

theorem Unhindered.within_of_version (h : Unhindered lib resolver w selected channel)
    (hfollows : FollowsChannel w selected channel head)
    (hnew : newMemorySource channel.nodes channel.edges = .ok (.ok m))
    (hcurrent : w.api.cluster.status.currentVersion = some t) (hchannel : t.channel = selected)
    (hnode : ∃ n ∈ channel.nodes, n.id = t.name) :
    ∃ goal, goal.name = head.id ∧ onward m w.api.cluster.spec.version goal = goal ∧
      Within lib resolver w m m w.untaggedImage selected goal (4 * channel.nodes.length + 5) w := by
  obtain ⟨K, hK, hname, hrests⟩ := hfollows.onward_arrives hnew hnode
  obtain ⟨p, hplan⟩ := h.accepts t hnode hchannel
  obtain ⟨rfl, -⟩ := newMemorySource_wf hnew
  exact ⟨_, hname, hrests, h.since, Or.inr ⟨K, 5, t, ⟨hcurrent, hnode, hchannel, p, hplan, h.jobs⟩, rfl, by omega⟩⟩

/-- **Automatic updates arrive.** After four timely rounds for each version of the channel, and five more, the status
names the head for good, however many rounds found their jobs and pods unfinished. A timely round later the head is
deployed and nothing is left to do. -/
theorem automatic_updates_arrive (lib : Libraries) (idioms : Idioms lib) (resolver : PatchMetaResolver)
    (W : Nat → World) (selected : String) (channel : Channel) (head : State)
    (hfollows : FollowsChannel (W 0) selected channel head) (hfree : Unhindered lib resolver (W 0) selected channel)
    (hrounds : ∀ i, Round lib idioms resolver (W i) (W (i + 1))) (n : Nat)
    (hn : 4 * channel.nodes.length + 5 ≤ Nat.count (fun i => Timely (W i)) n) :
    (∃ t, (W n).api.cluster.status.currentVersion = some t ∧ t.name = head.id) ∧
      (Timely (W n) → Converged lib resolver (W (n + 1)) head.id) := by
  obtain ⟨m, hnew⟩ := hfollows.accepted
  obtain ⟨goal, hname, hrests, hstart⟩ : ∃ goal, goal.name = head.id ∧
      onward m (W 0).api.cluster.spec.version goal = goal ∧
      Within lib resolver (W 0) m m (W 0).untaggedImage selected goal (4 * channel.nodes.length + 5) (W 0) := by
    rcases hfree.start with ⟨hcurrent, hidle⟩ | ⟨t, hcurrent, hchannel, hnode⟩
    · obtain ⟨goal, hname, hrests, hstart⟩ := hfree.within_of_fresh hfollows hnew hcurrent hidle
      exact ⟨goal, hname, hrests, hstart.mono (by omega)⟩
    · exact hfree.within_of_version hfollows hnew hcurrent hchannel hnode
  obtain ⟨harrived, hconverged⟩ := (hfree.course hfollows hnew).arrives hrests hrounds hstart hn
  exact ⟨⟨goal, harrived, hname⟩, hname ▸ hconverged⟩

end

end

/-! ## Timely rounds -/

section

variable (lib : Libraries) (idioms : Idioms lib) (resolver : PatchMetaResolver)

/-- The deployment controller gets one replica running. -/
def Move.rollOut (name : String) : Move :=
  .updateDeployment name 1 (some 1)
    { observedGeneration := 1, replicas := 1, updatedReplicas := 1, availableReplicas := 1 }

def Move.complete (name : String) : Move := .updateJob name [{ type := .complete, status := .true }]

/-- The controllers finish all there is to do, and the caches catch up. -/
def finishing (w : World) : List Move :=
  let deployments := w.api.deployments.map (·.name)
  let jobs := w.api.jobs.map (·.name)
  deployments.map .rollOut ++ jobs.map .complete ++
    [.syncCluster, .syncSecrets, .syncComponents, .syncDeployments (w.cache.deployments.map (·.name) ++ deployments),
      .syncJobs (w.cache.jobs.map (·.name) ++ jobs), .syncPods]

/-- A reconcile, and all is finished. -/
def timelyRound (w : World) : World :=
  let w' := step lib idioms resolver w (.reconcile w.now [])
  run lib idioms resolver w' (finishing w')

end

section

variable {lib : Libraries} {idioms : Idioms lib} {resolver : PatchMetaResolver} {w : World}

/-- Reading all names again leaves nothing of the old list. -/
theorem refresh_all {α : Type} {nameOf : α → String} {names : List String} {cached live : List α}
    (hcached : ∀ a ∈ cached, nameOf a ∈ names) (hlive : ∀ a ∈ live, nameOf a ∈ names) :
    refresh nameOf names cached live = live := by
  have hold : cached.filter (nameOf · ∉ names) = [] := List.filter_eq_nil_iff.2 fun a ha => by simp [hcached a ha]
  have hnew : live.filter (nameOf · ∈ names) = live := List.filter_eq_self.2 fun a ha => by simp [hlive a ha]
  rw [refresh, hold, hnew, List.nil_append]

theorem run_append (moves moves' : List Move) :
    run lib idioms resolver w (moves ++ moves') = run lib idioms resolver (run lib idioms resolver w moves) moves' :=
  List.foldl_append

variable (lib idioms resolver) in
theorem run_rollOut {names : List String} (h : ∀ d ∈ w.api.deployments, d.name ∈ names ∨ Available d) :
    let w' := run lib idioms resolver w (names.map .rollOut)
    (∀ d ∈ w'.api.deployments, Available d) ∧ w'.api.jobs = w.api.jobs ∧ w'.cache = w.cache := by
  induction names generalizing w with
  | nil => exact ⟨fun d hd => (h d hd).resolve_left List.not_mem_nil, rfl, rfl⟩
  | cons name rest ih =>
    refine ih (w := step lib idioms resolver w (.rollOut name)) fun d' hd' => ?_
    obtain ⟨d, hd, rfl⟩ := List.mem_map.1 hd'
    split_ifs with hname
    · exact Or.inr (by simp [Available, deploymentRolloutComplete])
    · exact (h d hd).imp_left fun hmem => (List.mem_cons.1 hmem).resolve_left hname

/-- Complete, and not failed. -/
def Succeeded (j : Job) : Prop := Complete j ∧ jobConditionHasStatus j .failed .true = false

variable (lib idioms resolver) in
theorem run_complete {names : List String} (h : ∀ j ∈ w.api.jobs, j.name ∈ names ∨ Succeeded j) :
    let w' := run lib idioms resolver w (names.map .complete)
    (∀ j ∈ w'.api.jobs, Succeeded j) ∧ w'.api.deployments = w.api.deployments ∧ w'.cache = w.cache := by
  induction names generalizing w with
  | nil => exact ⟨fun j hj => (h j hj).resolve_left List.not_mem_nil, rfl, rfl⟩
  | cons name rest ih =>
    refine ih (w := step lib idioms resolver w (.complete name)) fun j' hj' => ?_
    obtain ⟨j, hj, rfl⟩ := List.mem_map.1 hj'
    split_ifs with hname
    · exact Or.inr ⟨rfl, rfl⟩
    · exact (h j hj).imp_left fun hmem => (List.mem_cons.1 hmem).resolve_left hname

theorem run_sync {deployments jobs : List String} (hcached : ∀ d ∈ w.cache.deployments, d.name ∈ deployments)
    (hlive : ∀ d ∈ w.api.deployments, d.name ∈ deployments) (hcachedJobs : ∀ j ∈ w.cache.jobs, j.name ∈ jobs)
    (hliveJobs : ∀ j ∈ w.api.jobs, j.name ∈ jobs) :
    run lib idioms resolver w 
      [.syncCluster, .syncSecrets, .syncComponents, .syncDeployments deployments, .syncJobs jobs, .syncPods] =
      { w with cache := w.api } := by
  simp only [run, List.foldl_cons, List.foldl_nil, step, refresh_all hcached hlive, refresh_all hcachedJobs hliveJobs]

theorem finishing_byControllers (w : World) : ∀ move ∈ finishing w, move.ByControllers := by
  intro move hmove
  simp only [finishing, List.mem_append, List.mem_map, List.mem_cons, List.not_mem_nil, or_false] at hmove
  rcases hmove with (⟨_, _, rfl⟩ | ⟨_, _, rfl⟩) | rfl | rfl | rfl | rfl | rfl | rfl <;> trivial

theorem Kept.deployment_name {w w' : World} (h : Kept w w') {d : Deployment} (hd : d ∈ w'.api.deployments) :
    d.name ∈ w.api.deployments.map (·.name) := by
  have hpair : (d.name, d.annotations) ∈ w.api.deployments.map fun d => (d.name, d.annotations) :=
    h.deployments ▸ List.mem_map_of_mem hd
  obtain ⟨d₀, hd₀, heq⟩ := List.mem_map.1 hpair
  exact List.mem_map.2 ⟨d₀, hd₀, congrArg Prod.fst heq⟩

theorem Kept.job_name {w w' : World} (h : Kept w w') {j : Job} (hj : j ∈ w'.api.jobs) :
    j.name ∈ w.api.jobs.map (·.name) := by
  have hpair : (j.name, j.annotations) ∈ w.api.jobs.map fun j => (j.name, j.annotations) :=
    h.jobs ▸ List.mem_map_of_mem hj
  obtain ⟨j₀, hj₀, heq⟩ := List.mem_map.1 hpair
  exact List.mem_map.2 ⟨j₀, hj₀, congrArg Prod.fst heq⟩

theorem run_finishing (w : World) :
    let w' := run lib idioms resolver w (finishing w)
    w'.cache = w'.api ∧ (∀ d ∈ w'.api.deployments, Available d) ∧ ∀ j ∈ w'.api.jobs, Succeeded j := by
  obtain ⟨havailable, hjobs, hcache⟩ := run_rollOut lib idioms resolver fun d (hd : d ∈ w.api.deployments) =>
    Or.inl (List.mem_map_of_mem (f := (·.name)) hd)
  have hkept : Kept w (run lib idioms resolver w ((w.api.deployments.map (·.name)).map .rollOut)) :=
    kept_run lib idioms resolver (List.forall_mem_map.2 fun _ _ => trivial)
  simp only [finishing, run_append]
  generalize run lib idioms resolver w ((w.api.deployments.map (·.name)).map .rollOut) =
    w₁ at havailable hjobs hcache hkept ⊢
  obtain ⟨hsucceeded, hdeployments, hcache'⟩ := run_complete lib idioms resolver fun j (hj : j ∈ w₁.api.jobs) =>
    Or.inl (List.mem_map_of_mem (f := (·.name)) (hjobs ▸ hj))
  have hkept' : Kept w₁ (run lib idioms resolver w₁ ((w.api.jobs.map (·.name)).map .complete)) :=
    kept_run lib idioms resolver (List.forall_mem_map.2 fun _ _ => trivial)
  generalize run lib idioms resolver w₁ ((w.api.jobs.map (·.name)).map .complete) =
    w₂ at hsucceeded hdeployments hcache' hkept' ⊢
  rw [run_sync]
  · exact ⟨rfl, hdeployments ▸ havailable, hsucceeded⟩
  · rw [hcache', hcache]
    exact fun d hd => List.mem_append_left _ (List.mem_map_of_mem hd)
  · exact fun d hd => List.mem_append_right _ ((hkept.trans hkept').deployment_name hd)
  · rw [hcache', hcache]
    exact fun j hj => List.mem_append_left _ (List.mem_map_of_mem hj)
  · exact fun j hj => List.mem_append_right _ ((hkept.trans hkept').job_name hj)

/-- Rounds can be timely, wherever they start. -/
theorem timelyRound_round (w : World) :
    Round lib idioms resolver w (timelyRound lib idioms resolver w) ∧ Timely (timelyRound lib idioms resolver w) := by
  obtain ⟨hsynced, havailable, hsucceeded⟩ : _ ∧ _ ∧ _ :=
    run_finishing (step lib idioms resolver w (.reconcile w.now []))
  exact ⟨⟨⟨w.now, _, finishing_byControllers _, rfl, fun _ _ _ j' hj' _ => (hsucceeded j' hj').1⟩, hsynced,
    fun j hj => (hsucceeded j hj).2⟩, havailable, fun j hj => (hsucceeded j hj).1⟩

end

/-- The channel of `twoReleases`. -/
def twoReleasesChannel : Channel :=
  { name := "stable"
    metadata := some ([⟨"datastore", "postgres"⟩, ⟨"default", "true"⟩].toAList)
    edges := [⟨"v1", ["v2"]⟩].toAList
    nodes := [{ id := "v2", tag := "v2", migration := "m2" }, { id := "v1", tag := "v1", migration := "m1" }] }

/-- A cluster without a disruption budget. -/
def unbudgetedRaw : RawConfig :=
  mapOf [("datastoreEngine", .string "postgres"), ("skipTLSWarning", .bool true),
    ("pdb", .object [("disabled", .bool true)])]

/-- The small world, at `v1`. -/
def olderWorld : World :=
  let cluster := { (smallCluster "").withConfig unbudgetedRaw with
    resourceVersion := some 1, status := { currentVersion := some { name := "v1", channel := "stable" } } }
  { smallWorld twoReleases "" with api := { cluster }, cache := { cluster } }

theorem olderWorld_follows :
    FollowsChannel olderWorld "stable" twoReleasesChannel { id := "v2", tag := "v2", migration := "m2" } where
  unpinned := rfl
  untagged := rfl
  image := by decide
  chosen := Or.inr (Or.inl (by decide))
  named := by decide
  found := rfl
  accepted := ⟨_, rfl⟩
  ids := by decide
  first := rfl
  rests := by decide

/-- `NewConfig` accepts both versions, whatever their attributes. -/
theorem olderWorld_accepts {t : SpiceDBVersion} (hnode : ∃ n ∈ twoReleasesChannel.nodes, n.id = t.name)
    (hchannel : t.channel = "stable") :
    ∃ p, PlanFor plain plainResolver olderWorld t p := by
  obtain ⟨m, hnew⟩ := olderWorld_follows.accepted
  have hsel := olderWorld_follows.selects hnew (Or.inr ⟨t, rfl, hchannel⟩)
  obtain ⟨rfl, hwf⟩ := newMemorySource_wf hnew
  obtain ⟨n, hn, hname⟩ := hnode
  let status : ClusterStatus := { currentVersion := some t, targetMigrationHash := "pending" }
  let cluster := { olderWorld.api.cluster with status }
  obtain ⟨target, htarget, herr, himage⟩ : ∃ target,
    olderWorld.operatorConfig.targetOf plain cluster "postgres" = .ok target ∧
      target.err = none ∧ (imageOf target).errs = [] := by
    refine ⟨_, target_in_progress hsel ⟨n, hn, hname⟩ (hname ▸ olderWorld_follows.ids n hn) hchannel rfl rfl, rfl, ?_⟩
    have hstate : ((channelSource twoReleasesChannel.nodes twoReleasesChannel.edges).nodeState n.id).digest = "" ∧
        ((channelSource twoReleasesChannel.nodes twoReleasesChannel.edges).nodeState n.id).tag ≠ "" := by
      simp only [twoReleasesChannel, List.mem_cons, List.not_mem_nil, or_false] at hn
      rcases hn with rfl | rfl <;> decide
    simp [imageOf, targetAt, ← hname, hstate]
  obtain ⟨creds, hcreds, hcredErrs⟩ : ∃ creds : Yield ResolvedCredentials,
      alone (resolveCredentials cluster ∅ "postgres") = .ok creds ∧ creds.errs = [] := ⟨_, rfl, rfl⟩
  have htried : ∀ target creds, alone (validatePatches plain
      (Settings.config plain (settings cluster unbudgetedRaw) target creds cluster plainResolver)) =
        .ok { value := () } :=
    fun _ _ => rfl
  have herrs : (settings cluster unbudgetedRaw).errs plain target creds.errs [] = [] := by
    simp only [Settings.errs, herr, himage, hcredErrs]
    rfl
  have hengine : (settings cluster unbudgetedRaw).datastoreEngine = "postgres" := rfl
  have hresult : ∃ warning, newConfig plain cluster olderWorld.operatorConfig ∅ plainResolver =
      .ok (.ok ((settings cluster unbudgetedRaw).config plain target creds.value cluster plainResolver), warning) := by
    have hraw : cluster.spec.config = some (.ok unbudgetedRaw) := rfl
    rw [newConfig_eq plain ∅ plainResolver hraw]
    simp only [outcome, hengine, htarget, hcreds, htried, bind, Except.bind, Except.map, verdict, herrs]
    exact ⟨_, rfl⟩
  obtain ⟨warning, hresult⟩ := hresult
  have hnew : newConfig plain cluster olderWorld.operatorConfig (collectSecrets olderWorld.api.secrets cluster.spec)
      plainResolver = _ := hresult
  obtain ⟨p, hasks⟩ := exists_asks hnew (Or.inl rfl)
  exact ⟨p, _, rfl, rfl, hasks⟩

theorem olderWorld_unhindered : Unhindered plain plainResolver olderWorld "stable" twoReleasesChannel where
  synced := rfl
  unpaused := by decide
  spec := rfl
  secrets := by decide
  accepts _ := olderWorld_accepts
  start := Or.inr ⟨_, rfl, rfl, _, List.mem_cons_of_mem _ (List.mem_singleton_self _), rfl⟩
  tidy := Or.inl rfl
  jobs := rfl
  tells _ _ h := h

/-- Where timely rounds lead from `olderWorld`. -/
def olderRounds (n : Nat) : World := (timelyRound plain plainIdioms plainResolver)^[n] olderWorld

theorem olderRounds_timely (n : Nat) : Timely (olderRounds n) := by
  cases n with
  | zero => exact ⟨fun _ hd => absurd hd List.not_mem_nil, fun _ hj => absurd hj List.not_mem_nil⟩
  | succ n => rw [olderRounds, Function.iterate_succ_apply']; exact (timelyRound_round _).2

theorem olderRounds_round (n : Nat) : Round plain plainIdioms plainResolver (olderRounds n) (olderRounds (n + 1)) := by
  rw [olderRounds, olderRounds, Function.iterate_succ_apply']
  exact (timelyRound_round _).1

/-- An update from `v1` to `v2`. -/
theorem olderWorld_updated :
    (∃ t, (olderRounds 13).api.cluster.status.currentVersion = some t ∧ t.name = "v2") ∧
      Converged plain plainResolver (olderRounds 14) "v2" := by
  have hcount : 13 ≤ Nat.count (fun i => Timely (olderRounds i)) 13 := by
    rw [Nat.count_of_forall fun i _ => olderRounds_timely i]
  obtain ⟨hversion, hconverged⟩ :=
    automatic_updates_arrive plain plainIdioms plainResolver olderRounds "stable" twoReleasesChannel _
    olderWorld_follows olderWorld_unhindered olderRounds_round 13 hcount
  exact ⟨hversion, hconverged (olderRounds_timely 13)⟩

end SpiceDBOperator
