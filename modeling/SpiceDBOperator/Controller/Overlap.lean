import SpiceDBOperator.Config.Accepted
import SpiceDBOperator.Controller.Plain

/-!
# One version at a time

Whether a rollout is under way is spread over the Rolling condition and the two migration hashes of the status, which
different handlers set and clear in patches of their own. A stint is the time in which one version name is stored.
While the rollout of a stint has not been observed, the signals cannot all say idle (`InStep.unrolled`): the condition
is set, or the current hash is still one of another version. `ComputeTarget` leaves a version only when they do, so a
stint ends after its rollout was observed (`versions_do_not_overlap`).

There is one way around: a version without a name counts as none, and an explicit `spec.version` replaces it at once
(`nameless_version_overlaps`).
-/

namespace SpiceDBOperator

open Golang Hoare Metadata

def MigrationConfig.versionName (mc : MigrationConfig) : Option String := mc.spiceDBVersion.map (·.name)

def ClusterStatus.versionName (s : ClusterStatus) : Option String := s.currentVersion.map (·.name)

def Core.versionName (k : Core) : Option String := k.currentVersion.map (·.name)

/-! ## Stints -/

/-- What an event says about versions. A stored status comes with the version its spec asked for. -/
inductive Mark where
  | stored (wanted : String) (name : Option String)
  | rolledOut (name : Option String)
  | silent
deriving DecidableEq

def Event.mark : Event → Mark
  | .statusStored spec status => .stored spec.version status.versionName
  | .rolledOut config _ _ _ => .rolledOut config.migration.versionName
  | .deploymentApplied _ _ _ => .silent
  | .jobCompleted _ => .silent

/-- The version name stored last, and whether a rollout at that name was observed since it was first stored. -/
structure Stint where
  name : Option String := none
  observed : Bool := false

def Stint.next (st : Stint) : Mark → Stint
  | .stored _ name => if name = st.name then st else { name }
  | .rolledOut name => if name = st.name then { st with observed := true } else st
  | .silent => st

def stint (log : List Event) : Stint := (log.map Event.mark).foldl Stint.next {}

@[simp] theorem stint_append (log : List Event) (e : Event) : stint (log ++ [e]) = (stint log).next e.mark := by
  simp [stint]

section

variable {st : Stint} {name : Option String} {wanted : String}

theorem Stint.next_same (h : name = st.name) : st.next (.stored wanted name) = st := if_pos h

theorem Stint.next_other (h : name ≠ st.name) : st.next (.stored wanted name) = { name } := if_neg h

theorem Stint.next_rolledOut (h : name = st.name) : st.next (.rolledOut name) = { st with observed := true } := if_pos h

end

/-- A patch for this spec does not take the way around. -/
def Guarded (b : String) (spec : ClusterSpec) : Prop := b ≠ "" ∨ spec.version = ""

/-- A patch ends a stint only after its rollout was observed. -/
def Sequential (log : List Event) : Prop :=
  ∀ before spec status after b, log = before ++ Event.statusStored spec status :: after →
    (stint before).name = some b → Guarded b spec → status.versionName ≠ some b → (stint before).observed = true

theorem Sequential.append {log : List Event} {e : Event} (h : Sequential log)
    (hlast : ∀ spec status b, e = .statusStored spec status → (stint log).name = some b → Guarded b spec →
      status.versionName ≠ some b → (stint log).observed = true) : Sequential (log ++ [e]) := by
  intro before spec status after b hsplit
  rcases List.eq_nil_or_concat after with rfl | ⟨after, last, rfl⟩
  · obtain ⟨rfl, he⟩ := List.append_inj' hsplit rfl
    exact hlast spec status b (List.cons.inj he).1
  · rw [List.concat_eq_append, ← List.cons_append, ← List.append_assoc] at hsplit
    obtain ⟨hlog, -⟩ := List.append_inj' hsplit rfl
    exact h before spec status after b hlog

/-- From the start of a stint to a later name, a rollout at its name is on record. -/
theorem Sequential.rollout_between {before between after : List Event} {spec : ClusterSpec} {second : ClusterStatus}
    {b : String} (h : Sequential (before ++ (between ++ Event.statusStored spec second :: after)))
    (hguard : ∀ spec' status, Event.statusStored spec' status ∈ between ++ [Event.statusStored spec second] →
      Guarded b spec')
    (hstint : stint before = { name := some b }) (hsecond : second.versionName ≠ some b) :
    ∃ config migrationHash secretHash d, Event.rolledOut config migrationHash secretHash d ∈ between ∧
      config.migration.versionName = some b := by
  have hname : (stint before).name = some b := by rw [hstint]
  have hunobserved : (stint before).observed ≠ true := by rw [hstint]; exact Bool.false_ne_true
  induction between generalizing before with
  | nil =>
    have hlast := hguard spec second (List.mem_singleton_self _)
    exact absurd (h before spec second after b rfl hname hlast hsecond) hunobserved
  | cons e between ih =>
    have hrest : Sequential ((before ++ [e]) ++ (between ++ Event.statusStored spec second :: after)) := by
      rw [List.append_assoc]
      exact h
    -- the stint goes on over `e`, or `e` is the rollout
    have hnext : stint (before ++ [e]) = stint before → ∃ config migrationHash secretHash d,
        Event.rolledOut config migrationHash secretHash d ∈ e :: between ∧ config.migration.versionName = some b := by
      intro hsame
      obtain ⟨config, migrationHash, secretHash, d, hmem, hversion⟩ :=
        ih hrest (fun spec' status hmem => hguard spec' status (List.mem_cons_of_mem _ hmem)) (hsame.trans hstint)
          (hsame ▸ hname) (hsame ▸ hunobserved)
      exact ⟨config, migrationHash, secretHash, d, List.mem_cons_of_mem _ hmem, hversion⟩
    rw [stint_append] at hnext
    cases e with
    | statusStored spec' status =>
      by_cases hstatus : status.versionName = some b
      · exact hnext (Stint.next_same (hstatus.trans hname.symm))
      · have hfirst := hguard spec' status (List.mem_cons_self ..)
        exact absurd (h before spec' status _ b rfl hname hfirst hstatus) hunobserved
    | rolledOut config migrationHash secretHash d =>
      by_cases hversion : config.migration.versionName = some b
      · exact ⟨config, migrationHash, secretHash, d, List.mem_cons_self .., hversion⟩
      · exact hnext (if_neg fun heq => hversion (heq.trans hname))
    | deploymentApplied _ _ _ => exact hnext rfl
    | jobCompleted _ => exact hnext rfl

/-! ## The signals of a rollout -/

/-- What a status with core `k` says about the stint `st`. -/
structure InStep (lib : Libraries) (k : Core) (st : Stint) : Prop where
  name : k.versionName = st.name
  /-- The target hash is one of the stored version. -/
  target : ∀ b, k.versionName = some b → ∃ mc : MigrationConfig, mc.versionName = some b ∧
    k.target = lib.secureMigrationConfig mc
  /-- Before the rollout is observed, the condition is set or the current hash is one of another version. -/
  unrolled : ∀ b, k.versionName = some b → st.observed = false →
    k.rolling = true ∨ ∀ mc : MigrationConfig, mc.versionName = some b → k.current ≠ lib.secureMigrationConfig mc
  unset : k.versionName = none → k.target = "" ∧ k.current = ""
  nameless : k.versionName = some "" → k.current = "" ∨ ∃ mc : MigrationConfig, mc.versionName = some "" ∧
    k.current = lib.secureMigrationConfig mc

section

variable {lib : Libraries} {k : Core} {st : Stint}

theorem InStep.empty : InStep lib (({} : ClusterStatus).core lib) {} where
  name := rfl
  target := nofun
  unrolled := nofun
  unset _ := ⟨rfl, rfl⟩
  nameless := nofun

theorem InStep.roll (h : InStep lib k st) : InStep lib { k with rolling := true } st where
  name := h.name
  target := h.target
  unrolled _ _ _ := Or.inl rfl
  unset := h.unset
  nameless := h.nameless

theorem InStep.start (h : InStep lib k st) : InStep lib { k with current := k.target, rolling := true } st where
  name := h.name
  target := h.target
  unrolled _ _ _ := Or.inl rfl
  unset hnone := ⟨(h.unset hnone).1, (h.unset hnone).1⟩
  nameless hname := Or.inr (h.target "" hname)

/-- Once the rollout is observed, the condition may say anything. -/
theorem InStep.observe (h : InStep lib k st) (rolling : Bool) :
    InStep lib { k with rolling } { st with observed := true } where
  name := h.name
  target := h.target
  unrolled _ _ hunobserved := absurd hunobserved (Bool.false_ne_true ∘ Eq.symm)
  unset := h.unset
  nameless := h.nameless

/-- If the signals say idle, the rollout was observed. -/
theorem InStep.observed_of_idle (h : InStep lib k st) {b : String} (hname : k.versionName = some b)
    (hrolling : k.rolling = false) (hcurrent : k.current = k.target) : st.observed = true := by
  by_contra hunobserved
  rcases h.unrolled b hname (Bool.eq_false_of_not_eq_true hunobserved) with hroll | hother
  · rw [hrolling] at hroll
    exact Bool.false_ne_true hroll
  · obtain ⟨mc, hmc, htarget⟩ := h.target b hname
    exact hother mc hmc (hcurrent.trans htarget)

/-- How a valid config for a spec may change the version: a name stays a name, and a guarded name changes only when
the signals say idle. -/
structure Advances (k : Core) (spec : ClusterSpec) (t : SpiceDBVersion) : Prop where
  named : ∀ b, k.versionName = some b → b ≠ "" → t.name ≠ ""
  idle : ∀ b, k.versionName = some b → Guarded b spec → t.name ≠ b → k.rolling = false ∧ k.current = k.target

/-- The current hash is not one of the new version. -/
theorem InStep.current_ne (hinj : Function.Injective lib.secureMigrationConfig)
    (hne : ∀ mc, lib.secureMigrationConfig mc ≠ "") (h : InStep lib k st) {spec : ClusterSpec} {t : SpiceDBVersion}
    (hadv : Advances k spec t) (hnew : k.versionName ≠ some t.name) {mc : MigrationConfig}
    (hmc : mc.versionName = some t.name) :
    k.current ≠ lib.secureMigrationConfig mc := by
  -- a hash of another version is another hash
  have hother : ∀ {mc' : MigrationConfig} {a : String}, mc'.versionName = some a → a ≠ t.name →
      k.current = lib.secureMigrationConfig mc' → k.current ≠ lib.secureMigrationConfig mc := by
    intro mc' a hmc' ha hcurrent heq
    have hsame : mc' = mc := hinj (hcurrent.symm.trans heq)
    rw [hsame, hmc] at hmc'
    exact ha (Option.some.inj hmc').symm
  cases hname : k.versionName with
  | none =>
    rw [(h.unset hname).2]
    exact (hne mc).symm
  | some a =>
    have ha : a ≠ t.name := fun heq => hnew (hname.trans (congrArg some heq))
    by_cases hempty : a = ""
    · subst hempty
      rcases h.nameless hname with hcurrent | ⟨mc', hmc', hcurrent⟩
      · rw [hcurrent]
        exact (hne mc).symm
      · exact hother hmc' ha hcurrent
    · obtain ⟨mc', hmc', htarget⟩ := h.target a hname
      exact hother hmc' ha ((hadv.idle a hname (Or.inl hempty) ha.symm).2.trans htarget)

/-- Storing the version of a valid config keeps the signals in step. -/
theorem InStep.accept (hinj : Function.Injective lib.secureMigrationConfig)
    (hne : ∀ mc, lib.secureMigrationConfig mc ≠ "") (h : InStep lib k st) {mc : MigrationConfig} {t : SpiceDBVersion}
    {spec : ClusterSpec} (hversion : mc.spiceDBVersion = some t) (hadv : Advances k spec t) {status : ClusterStatus}
    (hcore : status.core lib = { k with currentVersion := mc.spiceDBVersion, target := lib.secureMigrationConfig mc }) :
    InStep lib (status.core lib) (st.next (.stored spec.version status.versionName)) := by
  have hmc : mc.versionName = some t.name := by rw [MigrationConfig.versionName, hversion]; rfl
  have hstatus : status.versionName = some t.name := by
    have hv : status.currentVersion = mc.spiceDBVersion := congrArg Core.currentVersion hcore
    rw [ClusterStatus.versionName, hv, hversion]
    rfl
  have hk : (status.core lib).versionName = some t.name := hstatus
  have htarget : ∀ b, (status.core lib).versionName = some b → ∃ mc : MigrationConfig, mc.versionName = some b ∧
      (status.core lib).target = lib.secureMigrationConfig mc := by
    intro b hb
    exact ⟨mc, hmc.trans (hk.symm.trans hb), congrArg Core.target hcore⟩
  have hcurrent : (status.core lib).current = k.current := by rw [hcore]
  have hrolling : (status.core lib).rolling = k.rolling := by rw [hcore]
  by_cases hsame : k.versionName = some t.name
  · rw [Stint.next_same (hstatus.trans (hsame.symm.trans h.name))]
    have hnames : (status.core lib).versionName = k.versionName := hk.trans hsame.symm
    refine ⟨hnames.trans h.name, htarget, fun b hb => ?_, fun hnone => ?_, fun hempty => ?_⟩
    · rw [hrolling, hcurrent]
      exact h.unrolled b (hnames.symm.trans hb)
    · cases hk.symm.trans hnone
    · rw [hcurrent]
      exact h.nameless (hnames.symm.trans hempty)
  · have hother : status.versionName ≠ st.name := fun heq => hsame (h.name.trans (heq.symm.trans hstatus))
    rw [Stint.next_other hother]
    refine ⟨rfl, htarget, fun b hb _ => Or.inr fun mc' hmc' => ?_, fun hnone => ?_, fun hempty => ?_⟩
    · obtain rfl : t.name = b := Option.some.inj (hk.symm.trans hb)
      rw [hcurrent]
      exact h.current_ne hinj hne hadv hsame hmc'
    · cases hk.symm.trans hnone
    · -- only a cluster without a version gets to the empty name
      have ht : t.name = "" := Option.some.inj (hk.symm.trans hempty)
      rw [hcurrent]
      cases hname : k.versionName with
      | none => exact Or.inl (h.unset hname).2
      | some a =>
        have ha : a ≠ "" := fun heq => hsame (hname.trans (by rw [heq, ht]))
        exact absurd ht (hadv.named a hname ha)

/-! ## A valid config -/

/-- The image of the spec has no tag and no digest. -/
def Untagged (spec : ClusterSpec) : Prop := (explodeImage spec.imageSetting).2 = ("", "")

instance : DecidablePred Untagged := fun spec =>
    inferInstanceAs (Decidable ((explodeImage spec.imageSetting).2 = ("", "")))

theorem idle_of_not_inProgress {cluster : SpiceDBCluster} (h : cluster.rolloutInProgress lib = false) :
    (cluster.status.core lib).rolling = false ∧
      (cluster.status.core lib).current = (cluster.status.core lib).target := by
  simp only [SpiceDBCluster.rolloutInProgress, Bool.or_eq_false_iff, bne_eq_false_iff_eq] at h
  exact ⟨h.1.2, h.2⟩

theorem newConfig_advances {cluster : SpiceDBCluster} {operatorConfig : OperatorConfig} {secrets : GoMap Secret}
    {resolver : PatchMetaResolver} {config : Config} {warning : Option String} (huntagged : Untagged cluster.spec)
    (h : newConfig lib cluster operatorConfig secrets resolver = .ok (.ok config, warning)) :
    ∃ t, config.migration.spiceDBVersion = some t ∧ Advances (cluster.status.core lib) cluster.spec t := by
  obtain ⟨target, hcall, hok, hversion⟩ := (newConfig_accepted h).target
  obtain ⟨baseImage, selected, m, hselects, hexit⟩ := UpdateGraph.computeTarget_exit huntagged hcall hok
  obtain ⟨t, ht⟩ := hexit.target_some
  refine ⟨t, hversion.trans ht, fun b hb hbne => ?_, fun b hb hguard hmove => ?_⟩
  · obtain ⟨v, hv, rfl⟩ := Option.map_eq_some_iff.1 hb
    have hcurrent : cluster.status.currentVersion = some v := hv
    rw [hcurrent] at hexit
    exact hexit.named hbne ht
  · obtain ⟨v, hv, rfl⟩ := Option.map_eq_some_iff.1 hb
    have hcurrent : cluster.status.currentVersion = some v := hv
    rw [hcurrent] at hexit
    exact idle_of_not_inProgress (hexit.idle hguard ht hmove)

/-! ## The invariant of a run -/

structure Orderly (lib : Libraries) (w : World) : Prop where
  stored : InStep lib (w.api.cluster.status.core lib) (stint w.log)
  sequential : Sequential w.log
  /-- Every recorded rollout was one. -/
  rollouts : ∀ config migrationHash secretHash d, Event.rolledOut config migrationHash secretHash d ∈ w.log →
    RolledOut lib config migrationHash secretHash d

theorem Orderly.congr {w w' : World} (h : Orderly lib w) (hlog : w'.log = w.log)
    (hstatus : w'.api.cluster.status = w.api.cluster.status) : Orderly lib w' := by
  refine ⟨?_, ?_, ?_⟩
  · rw [hstatus, hlog]
    exact h.stored
  · rw [hlog]
    exact h.sequential
  · rw [hlog]
    exact h.rollouts

/-- One more event: the stored status fits the stint after it, a status leaves a version only after its rollout, and
a recorded rollout was one. -/
theorem Orderly.append {w w' : World} {e : Event} (h : Orderly lib w) (hlog : w'.log = w.log ++ [e])
    (hstored : InStep lib (w'.api.cluster.status.core lib) ((stint w.log).next e.mark))
    (hleave : ∀ spec status b, e = .statusStored spec status → (stint w.log).name = some b → Guarded b spec →
      status.versionName ≠ some b → (stint w.log).observed = true)
    (hrolled : ∀ config migrationHash secretHash d, e = .rolledOut config migrationHash secretHash d →
      RolledOut lib config migrationHash secretHash d) : Orderly lib w' := by
  refine ⟨?_, ?_, ?_⟩
  · rw [hlog, stint_append]
    exact hstored
  · rw [hlog]
    exact h.sequential.append hleave
  · intro config migrationHash secretHash d hmem
    rw [hlog] at hmem
    rcases List.mem_append.1 hmem with hold | hnew
    · exact h.rollouts config migrationHash secretHash d hold
    · exact hrolled config migrationHash secretHash d (List.mem_singleton.1 hnew).symm

theorem Orderly.silent {w w' : World} {e : Event} (h : Orderly lib w) (hlog : w'.log = w.log ++ [e])
    (hstatus : w'.api.cluster.status = w.api.cluster.status) (he : e.mark = .silent) : Orderly lib w' := by
  refine h.append hlog ?_ ?_ ?_
  · rw [hstatus, he]
    exact h.stored
  · rintro spec status b rfl
    cases he
  · rintro config migrationHash secretHash d rfl
    cases he

theorem Orderly.storeStatus {w : World} (h : Orderly lib w) {patch : SpiceDBCluster}
    (hstored : InStep lib (patch.status.core lib)
      ((stint w.log).next (.stored patch.spec.version patch.status.versionName)))
    (hleave : ∀ b, (stint w.log).name = some b → Guarded b patch.spec → patch.status.versionName ≠ some b →
      (stint w.log).observed = true) : Orderly lib (w.storeStatus patch) := by
  refine h.append (e := .statusStored patch.spec patch.status) rfl hstored ?_ ?_
  · intro spec status b heq
    cases heq
    exact hleave b
  · intro config migrationHash secretHash d heq
    cases heq

theorem Orderly.finish {w : World} {v : Validated} {d : Deployment} (h : Orderly lib w)
    (hname : v.config.migration.versionName = (stint w.log).name)
    (hrolled : RolledOut lib v.config v.migrationHash v.secretHash d) :
    Orderly lib (w.record (.rolledOut v.config v.migrationHash v.secretHash d)) := by
  refine h.append (e := .rolledOut v.config v.migrationHash v.secretHash d) rfl ?_ ?_ ?_
  · rw [Event.mark, Stint.next_rolledOut hname]
    exact h.stored.observe _
  · intro spec status b heq
    cases heq
  · intro config migrationHash secretHash d' heq
    cases heq
    exact hrolled

theorem overlap_upholds (resolver : PatchMetaResolver) (hinj : Function.Injective lib.secureMigrationConfig)
    (hne : ∀ mc, lib.secureMigrationConfig mc ≠ "") :
    Upholds lib resolver Untagged (Orderly lib) (fun k w => InStep lib k (stint w.log)) where
  store {w patch} h hstep := by
    have hsame : (stint w.log).next (.stored patch.spec.version patch.status.versionName) = stint w.log :=
      Stint.next_same hstep.name
    refine ⟨h.storeStatus (by rw [hsame]; exact hstep) fun b hb _ hleave => absurd (hstep.name.trans hb) hleave, ?_⟩
    rw [World.storeStatus, World.record, stint_append, Event.mark, hsame]
    exact hstep
  quiet {w w'} hquiet h := by
    refine ⟨h.congr hquiet.log hquiet.status, fun k hk => ?_⟩
    rw [hquiet.log]
    exact hk
  seen {w} job h := by
    refine ⟨h.silent (e := .jobCompleted job) rfl rfl rfl, fun k hk => ?_⟩
    rw [World.record, stint_append]
    exact hk
  accept {w cluster patch secrets config warning} huntagged h hstep hnew hspec hcore := by
    obtain ⟨t, ht, hadv⟩ := newConfig_advances huntagged hnew
    rw [← hspec] at hadv
    have hstored := hstep.accept hinj hne ht hadv hcore
    have hstatus : patch.status.versionName = some t.name := by
      rw [show patch.status.versionName = (patch.status.core lib).versionName from rfl, hcore, Core.versionName, ht]
      rfl
    refine ⟨h.storeStatus hstored fun b hb hguard hleave => ?_, ?_⟩
    · have hname := hstep.name.trans hb
      have hidle := hadv.idle b hname hguard fun heq => hleave (by rw [hstatus, heq])
      exact hstep.observed_of_idle hname hidle.1 hidle.2
    · rw [World.storeStatus, World.record, stint_append]
      exact hstored
  roll h := h.roll
  start h := h.start
  apply {w v newDeployment} name h _ _ _ := by
    refine ⟨h.silent (e := .deploymentApplied _ _ _) rfl rfl rfl, fun k hk => ?_⟩
    rw [World.applyDeployment, World.record, stint_append]
    exact hk
  finish {w v d} h hstep hvalid hrolled := by
    have hname : v.config.migration.versionName = (stint w.log).name :=
      (SpiceDBVersion.equalsPtr_name hvalid.version).symm.trans hstep.name
    refine ⟨h.finish hname hrolled, fun rolling => ?_⟩
    rw [World.record, stint_append, Event.mark, Stint.next_rolledOut hname]
    exact hstep.observe rolling

end

/-! ## Runs -/

/-- The cached cluster is the stored one. -/
def Synced (w : World) : Prop := w.cache.cluster = w.api.cluster

/-- Every reconcile of the run reads the stored cluster, and no image has a tag or a digest. -/
def ReadsStored (lib : Libraries) (idioms : Idioms lib) (resolver : PatchMetaResolver) : World → List Move → Prop :=
  AtReconciles lib idioms resolver fun w => Synced w ∧ Untagged w.cache.cluster.spec

/-- **Versions do not overlap.** From the patch that first stores the name `b`, up to one that stores another name,
`DeploymentHandler` saw the deployment generated for a config at `b` rolled out. If `b` is empty, this needs that no
patch in between was sent for a spec with an explicit version. -/
theorem versions_do_not_overlap (lib : Libraries) (idioms : Idioms lib) (resolver : PatchMetaResolver)
    (hinj : Function.Injective lib.secureMigrationConfig) (hne : ∀ mc, lib.secureMigrationConfig mc ≠ "")
    (w : World) (hstatus : w.api.cluster.status = {}) (hlog : w.log = []) (moves : List Move)
    (hreads : ReadsStored lib idioms resolver w moves) (before between after : List Event) (spec₁ spec₂ : ClusterSpec)
    (first second : ClusterStatus)
    (hrun : (run lib idioms resolver w moves).log =
      before ++ Event.statusStored spec₁ first :: (between ++ Event.statusStored spec₂ second :: after))
    (b : String) (hbefore : (stint before).name ≠ some b) (hfirst : first.versionName = some b)
    (hsecond : second.versionName ≠ some b)
    (hguard : b ≠ "" ∨ ∀ spec status, Event.statusStored spec status ∈ between ++ [Event.statusStored spec₂ second] →
      spec.version = "") :
    ∃ config migrationHash secretHash d, Event.rolledOut config migrationHash secretHash d ∈ between ∧
      config.migration.versionName = some b ∧ RolledOut lib config migrationHash secretHash d := by
  have hstart : Orderly lib w := by
    refine ⟨?_, ?_, ?_⟩
    · rw [hstatus, hlog]
      exact InStep.empty
    · rw [hlog]
      intro before spec status after b hsplit
      cases before <;> cases hsplit
    · rw [hlog]
      intro config migrationHash secretHash d hmem
      cases hmem
  have horderly : Orderly lib (run lib idioms resolver w moves) := by
    refine run_keeps (fun hout hw => hw.congr hout.log hout.status) (fun {w} now answers hw hread => ?_) hstart hreads
    refine reconcile_step (overlap_upholds resolver hinj hne) now answers hread.2 hw ?_
    rw [hread.1]
    exact hw.stored
  have hsequential := horderly.sequential
  rw [hrun, List.append_cons] at hsequential
  have hstint : stint (before ++ [Event.statusStored spec₁ first]) = { name := some b } := by
    rw [stint_append, Event.mark, hfirst, Stint.next_other hbefore.symm]
  have hguarded : ∀ spec status, Event.statusStored spec status ∈ between ++ [Event.statusStored spec₂ second] →
      Guarded b spec := fun spec status hmem => hguard.imp_right fun hwanted => hwanted spec status hmem
  obtain ⟨config, migrationHash, secretHash, d, hmem, hversion⟩ :=
    hsequential.rollout_between hguarded hstint hsecond
  refine ⟨config, migrationHash, secretHash, d, hmem, hversion, horderly.rollouts _ _ _ _ ?_⟩
  rw [hrun]
  exact List.mem_append_right _ (List.mem_cons_of_mem _ (List.mem_append_left _ hmem))

/-! ## Two runs -/

theorem mark_stored {e : Event} {wanted : String} {name : Option String} (h : e.mark = .stored wanted name) :
    ∃ spec status, e = .statusStored spec status ∧ spec.version = wanted ∧ status.versionName = name := by
  cases e with
  | statusStored spec status => exact ⟨spec, status, rfl, Mark.stored.inj h⟩
  | rolledOut _ _ _ _ => cases h
  | deploymentApplied _ _ _ => cases h
  | jobCompleted _ => cases h

/-- Read a split of a log off its marks. -/
theorem split_of_marks {log : List Event} {marks marks' marks'' : List Mark} {wanted wanted' : String}
    {name name' : Option String}
    (h : log.map Event.mark = marks ++ .stored wanted name :: (marks' ++ .stored wanted' name' :: marks'')) :
    ∃ before between after spec₁ spec₂ first second,
      log = before ++ Event.statusStored spec₁ first :: (between ++ Event.statusStored spec₂ second :: after) ∧
      before.map Event.mark = marks ∧ between.map Event.mark = marks' ∧ first.versionName = name ∧
      second.versionName = name' := by
  obtain ⟨before, rest, rfl, hbefore, hrest⟩ := List.map_eq_append_iff.1 h
  obtain ⟨e, rest, rfl, he, hrest⟩ := List.map_eq_cons_iff.1 hrest
  obtain ⟨between, rest, rfl, hbetween, hrest⟩ := List.map_eq_append_iff.1 hrest
  obtain ⟨e', after, rfl, he', -⟩ := List.map_eq_cons_iff.1 hrest
  obtain ⟨spec₁, first, rfl, -, hfirst⟩ := mark_stored he
  obtain ⟨spec₂, second, rfl, -, hsecond⟩ := mark_stored he'
  exact ⟨before, between, after, spec₁, spec₂, first, second, rfl, hbefore, hbetween, hfirst, hsecond⟩

section

variable {lib : Libraries} {idioms : Idioms lib} {resolver : PatchMetaResolver} {w : World}

theorem synced_syncCluster : Synced (step lib idioms resolver w .syncCluster) := rfl

/-- Moves of other objects. -/
def Move.LeavesCluster : Move → Prop
  | .reconcile _ _ => False
  | .editCluster _ _ => False
  | _ => True

theorem Synced.step {move : Move} (h : Synced w) (hmove : move.LeavesCluster) :
    Synced (step lib idioms resolver w move) := by
  cases move with
  | reconcile _ _ => exact hmove.elim
  | editCluster _ _ => exact hmove.elim
  | syncCluster => rfl
  | _ => exact h

end

def deploymentUp : DeploymentStatus :=
  { observedGeneration := 1, updatedReplicas := 2, replicas := 2, availableReplicas := 2, readyReplicas := 2 }

/-- Install `v1`, migrate, let the deployment roll out, and follow the channel. -/
def installAndUpdate : List Move :=
  reconciles [0, 1, 2] ++
  [.updateJob smallJob [{ type := .complete, status := .true, message := "" }], .syncJobs [smallJob]] ++
  reconciles [3] ++
  [.updateDeployment smallDeployment 1 (some 2) deploymentUp, .syncDeployments [smallDeployment]] ++
  reconciles [4] ++ [.editCluster ∅ (smallCluster "").spec, .syncCluster] ++ reconciles [5, 6]

theorem installAndUpdate_reads :
    ReadsStored plain plainIdioms plainResolver (smallWorld UpdateGraph.twoReleases "v1") installAndUpdate :=
  ⟨⟨rfl, by decide⟩, ⟨synced_syncCluster, by decide +kernel⟩, ⟨synced_syncCluster, by decide +kernel⟩,
    ⟨(synced_syncCluster.step (by trivial)).step (by trivial), by decide +kernel⟩,
    ⟨(synced_syncCluster.step (by trivial)).step (by trivial), by decide +kernel⟩,
    ⟨synced_syncCluster, by decide +kernel⟩, ⟨synced_syncCluster, by decide +kernel⟩, trivial⟩

theorem installAndUpdate_rolls_out :
    ∃ before between after spec₁ spec₂ first second,
      (run plain plainIdioms plainResolver (smallWorld UpdateGraph.twoReleases "v1") installAndUpdate).log =
        before ++ Event.statusStored spec₁ first :: (between ++ Event.statusStored spec₂ second :: after) ∧
      first.versionName = some "v1" ∧ second.versionName = some "v2" ∧
      ∃ config migrationHash secretHash d, Event.rolledOut config migrationHash secretHash d ∈ between ∧
        config.migration.versionName = some "v1" ∧ RolledOut plain config migrationHash secretHash d := by
  have hmarks : (run plain plainIdioms plainResolver
    (smallWorld UpdateGraph.twoReleases "v1") installAndUpdate).log.map Event.mark =
      [.stored "v1" none] ++ .stored "v1" (some "v1") ::
        ([.stored "v1" (some "v1"), .stored "v1" (some "v1"), .stored "v1" (some "v1"), .silent,
          .stored "v1" (some "v1"), .silent, .rolledOut (some "v1"), .stored "v1" (some "v1"),
          .stored "" (some "v1")] ++
          .stored "" (some "v2") :: []) := by
    decide +kernel
  obtain ⟨before, between, after, spec₁, spec₂, first, second, hlog, hbefore, -, hfirst, hsecond⟩ :=
    split_of_marks hmarks
  have hstint : (stint before).name = none := by
    rw [stint, hbefore]
    rfl
  refine ⟨before, between, after, spec₁, spec₂, first, second, hlog, hfirst, hsecond, ?_⟩
  exact versions_do_not_overlap plain plainIdioms plainResolver plain_injective plain_hash_ne _ rfl rfl installAndUpdate
    installAndUpdate_reads before between after spec₁ spec₂ first second hlog "v1" (by rw [hstint]; nofun) hfirst
    (by rw [hsecond]; decide) (Or.inl (by decide))

/-- The head of the channel has no id. -/
def namelessHead : UpdateGraph :=
  { channels := [{
      name := "stable"
      metadata := some (mapOf [("datastore", "postgres"), ("default", "true")])
      edges := mapOf [("v1", [""])]
      nodes := [{ tag := "v2", migration := "m2" }, { id := "v1", tag := "v1", migration := "m1" }] }] }

/-- Install the head, then ask for `v1` while its migration is still running. -/
def installAndPin : List Move :=
  reconciles [0, 1] ++ [.editCluster ∅ (smallCluster "v1").spec, .syncCluster] ++ reconciles [2, 3]

/-- **Without a name, versions overlap**: `v1` is stored while the version before it was neither migrated to nor
deployed. -/
theorem nameless_version_overlaps :
    Function.Injective plain.secureMigrationConfig ∧ (smallWorld namelessHead "").api.cluster.status = {} ∧
    ReadsStored plain plainIdioms plainResolver (smallWorld namelessHead "") installAndPin ∧
    ∃ before between after spec₁ spec₂ first second,
      (run plain plainIdioms plainResolver (smallWorld namelessHead "") installAndPin).log =
        before ++ Event.statusStored spec₁ first :: (between ++ Event.statusStored spec₂ second :: after) ∧
      (stint before).name ≠ some "" ∧ first.versionName = some "" ∧ second.versionName = some "v1" ∧
      ∀ config migrationHash secretHash d,
        Event.rolledOut config migrationHash secretHash d ∉
          (run plain plainIdioms plainResolver (smallWorld namelessHead "") installAndPin).log := by
  have hmarks : (run plain plainIdioms plainResolver (smallWorld namelessHead "") installAndPin).log.map Event.mark =
      [.stored "" none] ++ .stored "" (some "") ::
        ([.stored "v1" (some "")] ++ .stored "v1" (some "v1") :: []) := by
    decide +kernel
  refine ⟨plain_injective, rfl, ⟨⟨rfl, by decide⟩, ⟨synced_syncCluster, by decide +kernel⟩,
    ⟨synced_syncCluster, by decide +kernel⟩, ⟨synced_syncCluster, by decide +kernel⟩, trivial⟩, ?_⟩
  obtain ⟨before, between, after, spec₁, spec₂, first, second, hlog, hbefore, -, hfirst, hsecond⟩ :=
    split_of_marks hmarks
  have hstint : (stint before).name = none := by
    rw [stint, hbefore]
    rfl
  refine ⟨before, between, after, spec₁, spec₂, first, second, hlog, by rw [hstint]; nofun, hfirst, hsecond, ?_⟩
  intro config migrationHash secretHash d hmem
  have hmark := List.mem_map_of_mem (f := Event.mark) hmem
  rw [hmarks] at hmark
  simp [Event.mark] at hmark

end SpiceDBOperator
