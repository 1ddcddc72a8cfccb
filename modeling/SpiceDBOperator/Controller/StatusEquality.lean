import SpiceDBOperator.Controller.Deletions
import SpiceDBOperator.Controller.Validation

/-!
# When two statuses are equal

`ClusterStatus.Equals` compares ten fields, but it holds the current migration hash of one status against the target
migration hash of the other (types.go:208). While a migration is under way the two hashes differ, and then a status is
not even equal to itself; `ValidateConfigHandler` stores it again in every reconcile (`status_equality_iff`).
-/

namespace SpiceDBOperator

open Golang Hoare Metadata Handler

/-- What is compared of a version. -/
def SpiceDBVersion.compared (v : SpiceDBVersion) : String × String × List String := (v.name, v.channel, v.attributes)

namespace ClusterStatus

/-- The two statuses agree on all compared fields but the current migration hash. -/
structure AgreeApart (a b : ClusterStatus) : Prop where
  observedGeneration : a.observedGeneration = b.observedGeneration
  targetMigrationHash : a.targetMigrationHash = b.targetMigrationHash
  secretHash : a.secretHash = b.secretHash
  image : a.image = b.image
  migration : a.migration = b.migration
  phase : a.phase = b.phase
  conditions : a.conditions = b.conditions
  currentVersion : a.currentVersion.map SpiceDBVersion.compared = b.currentVersion.map SpiceDBVersion.compared
  availableVersions : a.availableVersions.map SpiceDBVersion.compared = b.availableVersions.map SpiceDBVersion.compared

def Agree (a b : ClusterStatus) : Prop := AgreeApart a b ∧ a.currentMigrationHash = b.currentMigrationHash

/-- For statuses that agree apart from it, the current migration hash of `a` is the target hash just if it is that of
`b`. -/
def HashesAligned (a b : ClusterStatus) : Prop :=
  AgreeApart a b → (a.currentMigrationHash = a.targetMigrationHash ↔ a.currentMigrationHash = b.currentMigrationHash)

variable {a b c : ClusterStatus}

theorem AgreeApart.refl (a : ClusterStatus) : AgreeApart a a := ⟨rfl, rfl, rfl, rfl, rfl, rfl, rfl, rfl, rfl⟩

theorem AgreeApart.symm (h : AgreeApart a b) : AgreeApart b a :=
  ⟨h.1.symm, h.2.symm, h.3.symm, h.4.symm, h.5.symm, h.6.symm, h.7.symm, h.8.symm, h.9.symm⟩

theorem AgreeApart.trans (h : AgreeApart a b) (h' : AgreeApart b c) : AgreeApart a c :=
  ⟨h.1.trans h'.1, h.2.trans h'.2, h.3.trans h'.3, h.4.trans h'.4, h.5.trans h'.5, h.6.trans h'.6, h.7.trans h'.7,
    h.8.trans h'.8, h.9.trans h'.9⟩

end ClusterStatus

/-! ## `Equals` -/

namespace SpiceDBVersion

theorem equals_iff_compared {v other : SpiceDBVersion} : v.equals other = true ↔ v.compared = other.compared := by
  simp only [equals_iff, compared, Prod.mk.injEq]

theorem equalsPtr_iff {v other : Option SpiceDBVersion} :
    equalsPtr v other = true ↔ v.map compared = other.map compared := by
  cases v <;> cases other <;> simp [equalsPtr, equals_iff_compared]

theorem equalsAll_iff {vs others : List SpiceDBVersion} :
    equalsAll vs others = true ↔ vs.map compared = others.map compared := by
  induction vs generalizing others with
  | nil => cases others <;> simp [equalsAll]
  | cons v rest ih => cases others <;> simp [equalsAll, equals_iff_compared, ih]

end SpiceDBVersion

namespace ClusterStatus

variable {a b c : ClusterStatus}

theorem equals_iff : a.equals b = true ↔ AgreeApart a b ∧ a.currentMigrationHash = a.targetMigrationHash := by
  simp only [equals, Bool.and_eq_true, beq_iff_eq, decide_eq_true_eq, SpiceDBVersion.equalsPtr_iff,
    SpiceDBVersion.equalsAll_iff]
  constructor
  · rintro ⟨⟨⟨⟨⟨⟨⟨⟨⟨hgeneration, htarget⟩, hcurrent⟩, hsecret⟩, himage⟩, hmigration⟩, hphase⟩, hversion⟩, hversions⟩,
      hconditions⟩
    exact ⟨⟨hgeneration, htarget, hsecret, himage, hmigration, hphase, hconditions, hversion, hversions⟩,
      hcurrent.trans htarget.symm⟩
  · rintro ⟨h, hcurrent⟩
    exact ⟨⟨⟨⟨⟨⟨⟨⟨⟨h.observedGeneration, h.targetMigrationHash⟩, hcurrent.trans h.targetMigrationHash⟩, h.secretHash⟩,
      h.image⟩, h.migration⟩, h.phase⟩, h.currentVersion⟩, h.availableVersions⟩, h.conditions⟩

theorem equals_iff_agree_iff : (a.equals b = true ↔ Agree a b) ↔ HashesAligned a b := by
  rw [equals_iff, Agree, HashesAligned, and_congr_right_iff]

theorem equals_self_iff : a.equals a = true ↔ a.currentMigrationHash = a.targetMigrationHash :=
  equals_iff.trans (and_iff_right (AgreeApart.refl a))

theorem equals_symm_iff : (a.equals b = true → b.equals a = true) ↔
    (AgreeApart a b → a.currentMigrationHash = a.targetMigrationHash →
      b.currentMigrationHash = b.targetMigrationHash) := by
  rw [equals_iff, equals_iff, and_imp]
  refine forall₂_congr fun hagree _ => and_iff_right hagree.symm

theorem equals_trans (hab : a.equals b = true) (hbc : b.equals c = true) : a.equals c = true := by
  rw [equals_iff] at hab hbc ⊢
  exact ⟨hab.1.trans hbc.1, hab.2⟩

end ClusterStatus

/-! ## The handler -/

/-- A status patch is a call, and the session keeps record of it. -/
theorem patchStatus_moves (sender : Sender) (failed : String → QueueOp) (patch : SpiceDBCluster) (s : Session) :
    (exec (patchStatus sender failed patch) s).2 ≠ s := by
  have hsent : Triple (fun s' => s' = s) (patchStatus sender failed patch)
      (fun _ s' => s'.sent.length = s.sent.length + 1) fun _ s' => s'.sent.length = s.sent.length + 1 := by
    refine Triple.bind (Q := fun _ s' => s'.sent.length = s.sent.length + 1) ?_ fun _ => Triple.pure fun _ hs => hs
    refine Triple.bind (Q := fun _ s' => s'.sent.length = s.sent.length + 1) (Triple.act ?_) fun err => ?_
    · rintro _ rfl
      simp [Session.after]
    · cases err with
      | none => exact Triple.pure fun _ hs => hs
      | some err => exact Triple.stop fun _ hs => hs
  intro h
  have hlength := hsent.always rfl
  rw [h] at hlength
  omega

section

variable {lib : Libraries} {resolver : PatchMetaResolver} {cluster : SpiceDBCluster} {secrets : GoMap Secret}
  {secretHash : String} {s : Session} {config : Config} {warning : Option String}

/-- After a valid config, the handler leaves everything as it was just if it finds the two statuses equal. -/
theorem validateConfig_skips_iff {versions : List SpiceDBVersion}
    (hnew : newConfig lib cluster s.world.operatorConfig secrets resolver = .ok (.ok config, warning))
    (hversions : availableVersionsOf s.world.operatorConfig config = pure versions) :
    (exec (validateConfig lib resolver cluster secrets secretHash) s).2 = s ↔
      cluster.status.equals (computedStatus lib s.world.now cluster config warning
        (lib.secureMigrationConfig config.migration) versions) = true := by
  set computed :=
    computedStatus lib s.world.now cluster config warning (lib.secureMigrationConfig config.migration) versions
    with hcomputed
  have hrun : exec (validateConfig lib resolver cluster secrets secretHash) s =
      exec (if cluster.status.equals computed then
          pure (Validated.mk cluster config (lib.secureMigrationConfig config.migration) secretHash)
        else do
          let cluster ← patchStatus (.validated warning.isSome) .requeueAPIErr { cluster with status := computed }
          pure ⟨cluster, config, lib.secureMigrationConfig config.migration, secretHash⟩) s := by
    rw [validateConfig, exec_bind]
    change exec (lift (newConfig lib cluster s.world.operatorConfig secrets resolver) >>= _) s = _
    rw [hnew]
    change exec (availableVersionsOf s.world.operatorConfig config >>= _) s = _
    rw [hversions]
    rfl
  rw [hrun]
  by_cases hequals : cluster.status.equals computed = true
  · rw [if_pos hequals]
    exact iff_of_true rfl hequals
  · rw [if_neg hequals, exec_bind]
    refine iff_of_false (fun hsame => ?_) hequals
    refine patchStatus_moves (.validated warning.isSome) .requeueAPIErr { cluster with status := computed } s ?_
    rcases hpatch : exec
      (patchStatus (.validated warning.isSome) .requeueAPIErr { cluster with status := computed }) s with
      ⟨e | patched, s'⟩
    · rw [hpatch] at hsame
      exact hsame
    · rw [hpatch] at hsame
      exact hsame

end

/-- **`Equals` is agreement on the compared fields**, for two statuses, exactly when their hashes are aligned; and so
for the handler, which skips the status patch by it. -/
theorem status_equality_iff (a b c : ClusterStatus) :
    ((a.equals b = true ↔ a.Agree b) ↔ a.HashesAligned b) ∧
    (a.equals a = true ↔ a.currentMigrationHash = a.targetMigrationHash) ∧
    ((a.equals b = true → b.equals a = true) ↔
      (a.AgreeApart b → a.currentMigrationHash = a.targetMigrationHash →
        b.currentMigrationHash = b.targetMigrationHash)) ∧
    (a.equals b = true → b.equals c = true → a.equals c = true) ∧
    ∀ (lib : Libraries) (resolver : PatchMetaResolver) (cluster : SpiceDBCluster) (secrets : GoMap Secret)
      (secretHash : String) (s : Session) (config : Config) (warning : Option String),
      newConfig lib cluster s.world.operatorConfig secrets resolver = .ok (.ok config, warning) →
      ∃ versions, availableVersionsOf s.world.operatorConfig config = pure versions ∧
        let computed :=
          computedStatus lib s.world.now cluster config warning (lib.secureMigrationConfig config.migration)
          versions
        (((exec (validateConfig lib resolver cluster secrets secretHash) s).2 = s ↔ cluster.status.Agree computed) ↔
          cluster.status.HashesAligned computed) := by
  refine ⟨ClusterStatus.equals_iff_agree_iff, ClusterStatus.equals_self_iff, ClusterStatus.equals_symm_iff,
    ClusterStatus.equals_trans, ?_⟩
  intro lib resolver cluster secrets secretHash s config warning hnew
  obtain ⟨versions, hversions⟩ := availableVersionsOf_found hnew
  refine ⟨versions, hversions, ?_⟩
  rw [validateConfig_skips_iff hnew hversions]
  exact ClusterStatus.equals_iff_agree_iff

/-- Between a migration and the next: the hashes of the two are those of the releases before and after. -/
def migratingStatus : ClusterStatus := { targetMigrationHash := "after", currentMigrationHash := "before" }

def migratedStatus : ClusterStatus := { targetMigrationHash := "after", currentMigrationHash := "after" }

theorem equals_during_migration :
    migratingStatus.equals migratingStatus = false ∧
    migratedStatus.equals migratingStatus = true ∧ migratingStatus.equals migratedStatus = false ∧
    migratedStatus.currentMigrationHash ≠ migratingStatus.currentMigrationHash := by
  decide

/-- A cluster that has not migrated yet has no hash at all. -/
theorem unmigrated_skips_iff : ∃ (config : Config) (warning : Option String) (versions : List SpiceDBVersion),
    newConfig plain (smallCluster "") smallSession.world.operatorConfig ∅ plainResolver = .ok (.ok config, warning) ∧
    ((exec (validateConfig plain plainResolver (smallCluster "") ∅ "") smallSession).2 = smallSession ↔
      (smallCluster "").status.Agree (computedStatus plain smallSession.world.now (smallCluster "") config warning
        (plain.secureMigrationConfig config.migration) versions)) := by
  obtain ⟨config, warning, hconfig, -⟩ := exists_of_returnedConfig (b := ()) (f := fun _ => ())
    (r := newConfig plain (smallCluster "") smallSession.world.operatorConfig ∅ plainResolver) (by decide)
  obtain ⟨-, -, -, -, hhandler⟩ := status_equality_iff {} {} {}
  obtain ⟨versions, -, hiff⟩ := hhandler plain plainResolver (smallCluster "") ∅ "" smallSession config warning hconfig
  exact ⟨config, warning, versions, hconfig, hiff.2 fun _ => iff_of_true rfl rfl⟩

end SpiceDBOperator
