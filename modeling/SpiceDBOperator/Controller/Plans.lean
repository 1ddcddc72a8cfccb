import SpiceDBOperator.Controller.Outcomes

/-!
# Statuses that a reconcile leaves as they are

Every status patch carries the resource version that was read, so after one that changes the status every further one of
the same reconcile is refused (`World.refusal`). How far a reconcile gets depends on whether its first handlers have
anything to patch. They have not if the config has been `Observed`, and `ValidateConfigHandler` has not if the status is
`Recorded`: it then stores nothing, or what is there already. Rollouts keep it so (`SameReport`).
-/

namespace SpiceDBOperator

open Golang Metadata Handler

/-- What a config asks for. -/
structure Plan where
  config : Config
  warning : Option String
  availableVersions : List SpiceDBVersion
  migrationHash : String
  secretHash : String
  deployment : DeploymentApply

def Plan.validated (p : Plan) (cluster : SpiceDBCluster) : Validated :=
  { cluster, config := p.config, migrationHash := p.migrationHash, secretHash := p.secretHash }

def Plan.computed (lib : Libraries) (p : Plan) (now : Nat) (c : SpiceDBCluster) : ClusterStatus :=
  computedStatus lib now c p.config p.warning p.migrationHash p.availableVersions

/-- The handlers up to `ConfigChangedHandler` have nothing to patch. -/
structure Observed (lib : Libraries) (secretHash : String) (c : SpiceDBCluster) : Prop where
  unpaused : c.findStatusCondition lib typePaused = none
  generation : c.status.observedGeneration = c.generation
  secrets : c.status.secretHash = secretHash
  found : (c.findStatusCondition lib Condition.typePreconditionsFailed).any
    (·.reason = Condition.reasonMissingSecret) = false

/-- The status is that of the plan. -/
structure Recorded (lib : Libraries) (p : Plan) (c : SpiceDBCluster) : Prop extends Observed lib p.secretHash c where
  version : c.status.currentVersion = p.config.migration.spiceDBVersion
  target : c.status.targetMigrationHash = p.migrationHash
  image : c.status.image = p.config.migration.targetSpiceDBImage
  migration : c.status.migration = p.config.migration.targetMigration
  phase : c.status.phase = p.config.migration.targetPhase
  available : SpiceDBVersion.equalsAll c.status.availableVersions p.availableVersions = true
  /-- While the migration hashes differ it is stored again and again (types.go:208). -/
  same : c.status.currentMigrationHash ≠ p.migrationHash → c.status.availableVersions = p.availableVersions
  valid : c.findStatusCondition lib Condition.validatingFailed = none
  validated : c.findStatusCondition lib Condition.typeValidating = none
  warned : ∃ time, c.findStatusCondition lib Condition.typeConfigWarnings =
    p.warning.map (Condition.newConfigWarningCondition time)

/-! ## Conditions -/

section

variable {lib : Libraries} {conditions : List Condition} {type : String}

theorem removeStatusCondition_of_none (h : lib.findStatusCondition conditions type = none) :
    lib.removeStatusCondition conditions type = conditions := by
  rw [lib.find_eq] at h
  rw [lib.remove_eq]
  refine List.filter_eq_self.2 fun c hc => ?_
  simpa using List.find?_eq_none.1 h c hc

/-- A condition that is there already is not set anew. -/
theorem setStatusCondition_of_found {new : Condition} {time : Nat}
    (h : lib.findStatusCondition conditions new.type = some { new with lastTransitionTime := time }) :
    lib.setStatusCondition conditions new = conditions := by
  induction conditions with
  | nil => simp [lib.find_eq] at h
  | cons c rest ih =>
    by_cases hc : c.type = new.type
    · have hhead : lib.findStatusCondition (c :: rest) new.type = some c := by simp [lib.find_eq, hc]
      obtain rfl := Option.some.inj (hhead.symm.trans h)
      rw [lib.set_cons_self _ _ _ hc, if_pos rfl]
    · have htail : lib.findStatusCondition (c :: rest) new.type = lib.findStatusCondition rest new.type := by
        simp [lib.find_eq, hc]
      rw [lib.set_cons_ne _ _ _ hc, ih (htail.symm.trans h)]

end

/-- The conditions that `ValidateConfigHandler` sets and removes. -/
def reviewTypes : List String := [Condition.validatingFailed, Condition.typeValidating, Condition.typeConfigWarnings]

section

variable {lib : Libraries} {p : Plan} {c c' c'' : SpiceDBCluster} {now : Nat} {type : String}

theorem computed_find (h : type ∉ reviewTypes) :
    lib.findStatusCondition (p.computed lib now c).conditions type = c.findStatusCondition lib type := by
  simp only [reviewTypes, List.mem_cons, List.not_mem_nil, or_false, not_or] at h
  have hremoved : lib.findStatusCondition (lib.removeStatusCondition (lib.removeStatusCondition c.status.conditions
      Condition.validatingFailed) Condition.typeValidating) type = c.findStatusCondition lib type :=
    (lib.findStatusCondition_remove_of_ne _ (Ne.symm h.2.1)).trans
      (lib.findStatusCondition_remove_of_ne _ (Ne.symm h.1))
  simp only [Plan.computed, computedStatus]
  cases p.warning with
  | none => exact (lib.findStatusCondition_remove_of_ne _ (Ne.symm h.2.2)).trans hremoved
  | some warning =>
    have hne : (Condition.newConfigWarningCondition now warning).type ≠ type := Ne.symm h.2.2
    exact (lib.findStatusCondition_set_of_ne _ _ hne).trans hremoved

theorem computed_valid :
    lib.findStatusCondition (p.computed lib now c).conditions Condition.validatingFailed = none := by
  have hne : Condition.typeValidating ≠ Condition.validatingFailed := by decide
  have hremoved : lib.findStatusCondition (lib.removeStatusCondition (lib.removeStatusCondition c.status.conditions
      Condition.validatingFailed) Condition.typeValidating) Condition.validatingFailed = none :=
    (lib.findStatusCondition_remove_of_ne _ hne).trans (lib.findStatusCondition_remove_self _ _)
  simp only [Plan.computed, computedStatus]
  cases p.warning with
  | none => exact (lib.findStatusCondition_remove_of_ne _ (by decide)).trans hremoved
  | some warning =>
    exact (lib.findStatusCondition_set_of_ne _ _ (by decide : Condition.typeConfigWarnings ≠ _)).trans hremoved

theorem computed_validated :
    lib.findStatusCondition (p.computed lib now c).conditions Condition.typeValidating = none := by
  simp only [Plan.computed, computedStatus]
  cases p.warning with
  | none =>
    exact (lib.findStatusCondition_remove_of_ne _ (by decide)).trans (lib.findStatusCondition_remove_self _ _)
  | some warning =>
    refine (lib.findStatusCondition_set_of_ne _ _ (by decide : Condition.typeConfigWarnings ≠ _)).trans ?_
    exact lib.findStatusCondition_remove_self _ _

theorem computed_warned :
    ∃ time, lib.findStatusCondition (p.computed lib now c).conditions Condition.typeConfigWarnings =
      p.warning.map (Condition.newConfigWarningCondition time) := by
  simp only [Plan.computed, computedStatus]
  cases p.warning with
  | none => exact ⟨now, lib.findStatusCondition_remove_self _ _⟩
  | some warning =>
    obtain ⟨time, hset⟩ := lib.findStatusCondition_set_self
      (lib.removeStatusCondition (lib.removeStatusCondition c.status.conditions Condition.validatingFailed)
        Condition.typeValidating) (Condition.newConfigWarningCondition now warning)
    exact ⟨time, hset⟩

/-! ## What `ValidateConfigHandler` finds -/

theorem Observed.of_conditions {secretHash : String} (h : Observed lib secretHash c)
    (hgeneration : c'.generation = c.generation)
    (hobserved : c'.status.observedGeneration = c.generation) (hsecrets : c'.status.secretHash = c.status.secretHash)
    (hconditions : ∀ type ∈ [typePaused, Condition.typePreconditionsFailed],
      c'.findStatusCondition lib type = c.findStatusCondition lib type) : Observed lib secretHash c' where
  unpaused := (hconditions _ (List.mem_cons_self ..)).trans h.unpaused
  generation := hobserved.trans hgeneration.symm
  secrets := hsecrets.trans h.secrets
  found := by
    rw [hconditions _ (List.mem_cons_of_mem _ (List.mem_singleton_self _))]
    exact h.found

/-- The conditions it would set are there. -/
theorem Recorded.conditions (h : Recorded lib p c) (now : Nat) :
    (p.computed lib now c).conditions = c.status.conditions := by
  have hvalid : lib.removeStatusCondition c.status.conditions Condition.validatingFailed = c.status.conditions :=
    removeStatusCondition_of_none h.valid
  have hvalidated : lib.removeStatusCondition c.status.conditions Condition.typeValidating = c.status.conditions :=
    removeStatusCondition_of_none h.validated
  obtain ⟨time, hwarned⟩ := h.warned
  simp only [Plan.computed, computedStatus, hvalid, hvalidated]
  cases hwarning : p.warning with
  | none =>
    rw [hwarning] at hwarned
    exact removeStatusCondition_of_none hwarned
  | some warning =>
    rw [hwarning] at hwarned
    exact setStatusCondition_of_found hwarned

/-- With the status of the plan there is nothing to store, or nothing changes. -/
theorem Recorded.unchanged (h : Recorded lib p c) (now : Nat) :
    c.status.equals (p.computed lib now c) = true ∨ patched { c with status := p.computed lib now c } = c := by
  have hconditions := h.conditions now
  by_cases hhash : c.status.currentMigrationHash = p.migrationHash
  · left
    have hversion : SpiceDBVersion.equalsPtr c.status.currentVersion p.config.migration.spiceDBVersion = true := by
      rw [h.version]
      exact SpiceDBVersion.equalsPtr_self _
    simp only [ClusterStatus.equals, hconditions]
    simp [Plan.computed, computedStatus, h.generation, h.target, hhash, h.image, h.migration, h.phase, hversion,
      h.available]
  · right
    have hstatus : (patched { c with status := p.computed lib now c }).status = c.status := by
      simp only [patched, Plan.computed, computedStatus] at hconditions ⊢
      rw [hconditions, ← h.target, ← h.image, ← h.migration, ← h.phase, ← h.version, ← h.same hhash, ← h.generation]
    exact congrArg (fun status => { c with status }) hstatus

/-- A version and its successor that the operator takes for the same are the same. -/
def SameText (found computed : Option SpiceDBVersion) : Prop :=
  SpiceDBVersion.equalsPtr found computed = true → found = computed

/-- A status that is not stored again is that of the plan. -/
theorem recorded_of_equals (h : Observed lib p.secretHash c) (hequals : c.status.equals (p.computed lib now c) = true)
    (htext : SameText c.status.currentVersion p.config.migration.spiceDBVersion) : Recorded lib p c := by
  simp only [ClusterStatus.equals, Bool.and_eq_true, beq_iff_eq, decide_eq_true_eq] at hequals
  obtain ⟨⟨⟨⟨⟨⟨⟨⟨⟨-, htarget⟩, hcurrent⟩, -⟩, himage⟩, hmigration⟩, hphase⟩, hversion⟩, havailable⟩,
    hconditions⟩ := hequals
  have hfind : ∀ type, c.findStatusCondition lib type =
      lib.findStatusCondition (p.computed lib now c).conditions type :=
    fun type => congrArg (lib.findStatusCondition · type) hconditions
  refine ⟨h, htext hversion, htarget, himage, hmigration, hphase, havailable, fun hne => absurd hcurrent hne,
    ?_, ?_, ?_⟩
  · rw [hfind]
    exact computed_valid
  · rw [hfind]
    exact computed_validated
  · rw [hfind]
    exact computed_warned

theorem SpiceDBVersion.equalsAll_self (versions : List SpiceDBVersion) : equalsAll versions versions = true := by
  induction versions with
  | nil => rfl
  | cons v rest ih => exact Bool.and_eq_true_iff.2 ⟨equals_iff.2 ⟨rfl, rfl, rfl⟩, ih⟩

/-- And so is one that is. -/
theorem recorded_computed (h : Observed lib p.secretHash c) (now : Nat) :
    Recorded lib p (patched { c with status := p.computed lib now c }) where
  toObserved := h.of_conditions rfl rfl rfl fun type htype => computed_find (by
    have hother : ∀ type ∈ [typePaused, Condition.typePreconditionsFailed], type ∉ reviewTypes := by decide
    exact hother type htype)
  version := rfl
  target := rfl
  image := rfl
  migration := rfl
  phase := rfl
  available := SpiceDBVersion.equalsAll_self _
  same _ := rfl
  valid := computed_valid
  validated := computed_validated
  warned := computed_warned

/-! ## What a rollout leaves as it is -/

/-- The conditions that are set and removed once the config is valid. -/
def rolloutTypes : List String := [Condition.typeMigrating, Condition.typeRolling, Condition.typeRolloutError]

structure SameReport (lib : Libraries) (c c' : SpiceDBCluster) : Prop where
  generation : c'.generation = c.generation
  observed : c.status.observedGeneration = c.generation → c'.status.observedGeneration = c'.generation
  secrets : c'.status.secretHash = c.status.secretHash
  version : c'.status.currentVersion = c.status.currentVersion
  target : c'.status.targetMigrationHash = c.status.targetMigrationHash
  image : c'.status.image = c.status.image
  migration : c'.status.migration = c.status.migration
  phase : c'.status.phase = c.status.phase
  available : c'.status.availableVersions = c.status.availableVersions
  current : c'.status.currentMigrationHash = c.status.currentMigrationHash ∨
    c'.status.currentMigrationHash = c'.status.targetMigrationHash
  conditions : ∀ type ∉ rolloutTypes, c'.findStatusCondition lib type = c.findStatusCondition lib type

namespace SameReport

theorem refl (lib : Libraries) (c : SpiceDBCluster) : SameReport lib c c :=
  ⟨rfl, id, rfl, rfl, rfl, rfl, rfl, rfl, rfl, Or.inl rfl, fun _ _ => rfl⟩

theorem of_status (hgeneration : c'.generation = c.generation) (hstatus : c'.status = c.status) :
    SameReport lib c c' := by
  have hfind : ∀ type, c'.findStatusCondition lib type = c.findStatusCondition lib type := fun _ => by
    simp only [SpiceDBCluster.findStatusCondition, hstatus]
  refine ⟨hgeneration, ?_, ?_, ?_, ?_, ?_, ?_, ?_, ?_, Or.inl ?_, fun type _ => hfind type⟩
  · rw [hgeneration, hstatus]
    exact id
  all_goals rw [hstatus]

theorem trans (h : SameReport lib c c') (h' : SameReport lib c' c'') : SameReport lib c c'' where
  generation := h'.generation.trans h.generation
  observed hobserved := h'.observed (h.observed hobserved)
  secrets := h'.secrets.trans h.secrets
  version := h'.version.trans h.version
  target := h'.target.trans h.target
  image := h'.image.trans h.image
  migration := h'.migration.trans h.migration
  phase := h'.phase.trans h.phase
  available := h'.available.trans h.available
  current := by
    rcases h'.current with hsame | htarget
    · rw [hsame, h'.target]
      exact h.current
    · exact Or.inr htarget
  conditions type htype := (h'.conditions type htype).trans (h.conditions type htype)

theorem set {new : Condition} (hnew : new.type ∈ rolloutTypes) : SameReport lib c (c.setStatusCondition lib new) where
  __ := refl lib c
  conditions _ htype := lib.findStatusCondition_set_of_ne _ _ fun heq => htype (heq ▸ hnew)

theorem remove {type : String} (htype : type ∈ rolloutTypes) : SameReport lib c (c.removeStatusCondition lib type) where
  __ := refl lib c
  conditions _ hother := lib.findStatusCondition_remove_of_ne _ fun heq => hother (heq ▸ htype)

theorem patch (c : SpiceDBCluster) : SameReport lib c (patched c) where
  __ := refl lib c
  observed _ := rfl

theorem started (now : Nat) (c : SpiceDBCluster) : SameReport lib c (rolloutStarted lib now c) := by
  have hremoved : SameReport lib c (c.removeStatusCondition lib Condition.typeMigrating) := remove (by decide)
  refine SameReport.trans ?_ (set (by decide : Condition.typeRolling ∈ _))
  exact { hremoved with current := Or.inr rfl }

end SameReport

theorem Observed.report {secretHash : String} (h : Observed lib secretHash c) (hreport : SameReport lib c c') :
    Observed lib secretHash c' := by
  have hother : ∀ type ∈ [typePaused, Condition.typePreconditionsFailed], type ∉ rolloutTypes := by decide
  have hobserved := (hreport.observed h.generation).trans hreport.generation
  exact h.of_conditions hreport.generation hobserved hreport.secrets fun type htype =>
    hreport.conditions type (hother type htype)

theorem Recorded.report (h : Recorded lib p c) (hreport : SameReport lib c c') : Recorded lib p c' where
  toObserved := h.toObserved.report hreport
  version := hreport.version.trans h.version
  target := hreport.target.trans h.target
  image := hreport.image.trans h.image
  migration := hreport.migration.trans h.migration
  phase := hreport.phase.trans h.phase
  available := by
    rw [hreport.available]
    exact h.available
  same hne := by
    rw [hreport.available]
    refine h.same fun hsame => hne ?_
    rcases hreport.current with hkept | htarget
    · rw [hkept, hsame]
    · rw [htarget, hreport.target, h.target]
  valid := (hreport.conditions _ (by decide)).trans h.valid
  validated := (hreport.conditions _ (by decide)).trans h.validated
  warned := by
    rw [hreport.conditions _ (by decide)]
    exact h.warned

end

end SpiceDBOperator
