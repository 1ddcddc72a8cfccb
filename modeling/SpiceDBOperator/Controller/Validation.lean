import SpiceDBOperator.Config.Accepted
import SpiceDBOperator.Controller.Plain
import SpiceDBOperator.Updates.Available

/-!
# The validation conditions

Three handlers write the conditions "Validating" and "ValidatingFailed". `ConfigChangedHandler` stores "Validating"
before the config is read (config_change.go:95). `ValidateConfigHandler` takes it away again and sets or removes
"ValidatingFailed" (validate_config.go:33-80), but a failure that is reported already ends the reconcile before that
(validate_config.go:35), and "Validating" stays beside it. In a run whose calls succeed and whose reconciles read what
is stored, this is the only case in which the two conditions do not say how `NewConfig` ended
(`validation_conditions_settle_iff`).

`beforeValidation` and `fromValidation` are the chain, cut where `ValidateConfigHandler` starts.
-/

namespace SpiceDBOperator

open Golang Hoare Metadata Handler

/-- What `ValidateConfigHandler` is given. -/
structure Unvalidated where
  cluster : SpiceDBCluster
  secrets : GoMap Secret
  secretHash : String

section

variable (lib : Libraries) (idioms : Idioms lib) (resolver : PatchMetaResolver)

/-- A reconcile that reaches `ValidateConfigHandler` returns from here. -/
def beforeValidation : Handler Unvalidated := do
  let w ← world
  let cluster ← idioms.pause w.cache.cluster
  validateSpec lib cluster
  adoptSecrets lib idioms cluster
  let secrets := collectSecrets w.cache.secrets cluster.spec
  let secretHash := secretHashOf lib secrets cluster.spec
  let cluster ← checkConfigChanged lib cluster secretHash
  pure { cluster, secrets, secretHash }

def fromValidation (u : Unvalidated) : Handler Unit := do
  let v ← validateConfig lib resolver u.cluster u.secrets u.secretHash
  ensureComponents lib idioms v.config
  migrateAndDeploy lib idioms v

theorem reconcile_eq :
    reconcile lib idioms resolver = beforeValidation lib idioms >>= fromValidation lib idioms resolver := by
  simp only [reconcile, beforeValidation, fromValidation, bind_assoc, pure_bind]

end

/-! ## Up to the validation -/

/-- The cluster once a pause that is over has been taken off its status. -/
def unpaused (lib : Libraries) (c : SpiceDBCluster) : SpiceDBCluster :=
  if (c.findStatusCondition lib typePaused).isSome then patched (c.removeStatusCondition lib typePaused) else c

/-- The test of `ConfigChangedHandler`. -/
def ConfigChanged (lib : Libraries) (c : SpiceDBCluster) (secretHash : String) : Prop :=
  c.generation ≠ c.status.observedGeneration ∨ secretHash ≠ c.status.secretHash ∨
    (c.findStatusCondition lib Condition.typePreconditionsFailed).any (·.reason = Condition.reasonMissingSecret)

instance (lib : Libraries) (c : SpiceDBCluster) (secretHash : String) : Decidable (ConfigChanged lib c secretHash) :=
  inferInstanceAs (Decidable (_ ∨ _ ∨ _))

/-- The cluster after `ConfigChangedHandler`. -/
def noted (lib : Libraries) (now : Nat) (c : SpiceDBCluster) (secretHash : String) : SpiceDBCluster :=
  if ConfigChanged lib c secretHash then changedCluster lib now c secretHash else c

/-- In a reconcile that started in `w`, with `c` in memory: its conditions are the stored ones. -/
structure InMemory (w : World) (c : SpiceDBCluster) (w' : World) : Prop where
  now : w'.now = w.now
  operatorConfig : w'.operatorConfig = w.operatorConfig
  conditions : w'.api.cluster.status.conditions = c.status.conditions

section

variable {lib : Libraries} {idioms : Idioms lib} {w w' : World} {c : SpiceDBCluster}

theorem InMemory.store (h : InMemory w c w') (patch : SpiceDBCluster) :
    InMemory w (patched patch) (w'.storeStatus (patched patch)) :=
  ⟨h.now, h.operatorConfig, rfl⟩

theorem pause_smooth :
    Triple (Smooth (InMemory w c)) (idioms.pause c) (fun c' s => c' = unpaused lib c ∧ Smooth (InMemory w c') s)
      fun _ => Barring fun _ => True := by
  rw [idioms.pause_eq]
  refine look_smooth fun w₁ hw₁ => Triple.ite (fun _ => Triple.ite (fun _ => ?_) fun _ => ?_) fun _ =>
    Triple.ite (fun hpaused => ?_) fun hpaused => ?_
  · exact Triple.stop fun _ _ _ => trivial
  · exact patchStatus_stops (B := fun _ => True) fun _ _ _ => trivial
  · refine Triple.conseq (patchStatus_smooth (B := InMemory w (patched (c.removeStatusCondition lib typePaused))) ?_)
      (fun _ h => h) ?_ fun _ _ h => h
    · rintro _ rfl _
      exact hw₁.store _
    · rintro _ s ⟨rfl, hs⟩
      exact ⟨by rw [unpaused, if_pos hpaused], hs⟩
  · refine Triple.pure fun s hs => ⟨by rw [unpaused, if_neg hpaused], hs.1, ?_⟩
    rw [hs.2]
    exact hw₁

theorem validateSpec_smooth {A : World → Prop} :
    Triple (Smooth A) (validateSpec lib c) (fun _ => Smooth A) fun _ => Barring fun _ => True := by
  refine read_smooth fun w₁ => ?_
  cases specError c.spec with
  | none => exact Triple.pure fun s hs => hs
  | some err =>
    refine Triple.ite (fun _ => Triple.stop fun _ _ _ => trivial) fun _ => ?_
    exact patchStatus_stops (B := fun _ => True) fun _ _ _ => trivial

/-- A call that failed stays in the record. -/
theorem callOr_reports {failed : String → QueueOp} {x : Call} :
    Triple (fun s => s.failures ≠ []) (callOr failed x) (fun _ s => s.failures ≠ []) fun _ s => s.failures ≠ [] := by
  have hcall : Triple (fun s : Session => s.failures ≠ []) (call x) (fun _ s => s.failures ≠ [])
      fun _ s => s.failures ≠ [] :=
    Triple.act fun _ hs => List.append_ne_nil_of_left_ne_nil hs _
  refine Triple.bind hcall fun err => ?_
  cases err with
  | none => exact Triple.pure fun _ hs => hs
  | some err => exact Triple.stop fun _ hs => hs

theorem missingSecret_reports (name err : String) : Reports (missingSecret lib c name err) := by
  refine Triple.bind (Q := fun _ s => s.failures ≠ []) (Triple.act fun _ hs => hs) fun w => ?_
  refine Triple.bind (Q := fun _ s => s.failures ≠ []) (Triple.bind callOr_reports fun _ => ?_) fun _ => ?_
  · exact Triple.pure fun _ hs => hs
  · exact Triple.stop fun _ hs => hs

/-- What is not about the labels of secrets. -/
theorem adoptSecrets_smooth {A : World → Prop} (hA : ∀ w secretMeta, A w → A { w with api.secretMeta := secretMeta }) :
    Triple (Smooth A) (adoptSecrets lib idioms c) (fun _ => Smooth A) fun _ => Barring fun _ => True := by
  refine read_smooth fun w₁ => Triple.each fun cs _ => ?_
  refine (idioms.adopt_confined _ _ _ _ _ _ _).smooth
    (idioms.adopt_strict _ _ _ _ _ _ _ (missingSecret_reports cs.1)) ?_ ?_
  · rintro x (rfl | ⟨_, _, _, rfl⟩) w hw
    · exact hw
    · exact hA w _ hw
  · rintro _ ⟨err, rfl⟩
    refine read_at fun w₂ => Triple.bind Triple.trivially fun _ => ?_
    exact Triple.stop fun _ _ => trivial

theorem checkConfigChanged_smooth (secretHash : String) :
    Triple (Smooth (InMemory w c)) (checkConfigChanged lib c secretHash)
      (fun c' s => c' = noted lib w.now c secretHash ∧ Smooth (InMemory w c') s) fun _ => Barring fun _ => True := by
  refine look_smooth fun w₁ hw₁ => Triple.ite (fun (hchanged : ConfigChanged lib c secretHash) => ?_)
    fun (hsame : ¬ConfigChanged lib c secretHash) => ?_
  · refine Triple.bind (patchStatus_smooth (B := InMemory w (changedCluster lib w₁.now c secretHash)) ?_) fun c' =>
      Triple.assume ?_
    · rintro _ rfl _
      exact ⟨hw₁.now, hw₁.operatorConfig, rfl⟩
    · rintro rfl
      refine Triple.pure fun s hs => ⟨?_, hs⟩
      rw [noted, if_pos hchanged, ← hw₁.now]
      rfl
  · refine Triple.pure fun s hs => ⟨by rw [noted, if_neg hsame], hs.1, ?_⟩
    rw [hs.2]
    exact hw₁

variable (lib idioms) in
/-- What `ValidateConfigHandler` finds. -/
theorem beforeValidation_smooth (h : InMemory w w.cache.cluster w) :
    Triple (Smooth fun w' => w' = w) (beforeValidation lib idioms)
      (fun u s => u.cluster = noted lib w.now (unpaused lib w.cache.cluster) u.secretHash ∧
        Smooth (InMemory w u.cluster) s)
      fun _ => Barring fun _ => True := by
  refine look_smooth fun w₁ hw₁ => ?_
  subst hw₁
  refine Triple.bind (Triple.pre (pause_smooth (w := w₁)) ?_) fun c => Triple.assume ?_
  · rintro s ⟨hok, hs⟩
    exact ⟨hok, by rw [hs]; exact h⟩
  rintro rfl
  refine Triple.bind validateSpec_smooth fun _ => ?_
  refine Triple.bind (adoptSecrets_smooth fun _ _ hw => ⟨hw.now, hw.operatorConfig, hw.conditions⟩) fun _ => ?_
  refine Triple.bind (checkConfigChanged_smooth _) fun c => ?_
  exact Triple.pure fun s hs => hs

end

/-! ## Conditions -/

/-- The validation conditions say how `NewConfig` ended. -/
def Settled (lib : Libraries) (conditions : List Condition) (secretHash : String)
    (result : Except String Config) : Prop :=
  lib.findStatusCondition conditions Condition.typeValidating = none ∧
    match result with
    | .ok _ => lib.findStatusCondition conditions Condition.validatingFailed = none
    | .error err => (lib.findStatusCondition conditions Condition.validatingFailed).map Condition.message =
        some (Condition.newInvalidConfigCondition 0 secretHash err).message

instance (lib : Libraries) (conditions : List Condition) (secretHash : String) :
    (result : Except String Config) → Decidable (Settled lib conditions secretHash result)
  | .ok _ => inferInstanceAs (Decidable (_ ∧ _))
  | .error _ => inferInstanceAs (Decidable (_ ∧ _))

/-- This failure is the one that "ValidatingFailed" reports. -/
def Reported (lib : Libraries) (c : SpiceDBCluster) (secretHash err : String) : Prop :=
  (c.findStatusCondition lib Condition.validatingFailed).map Condition.message =
    some (Condition.newInvalidConfigCondition 0 secretHash err).message

instance (lib : Libraries) (c : SpiceDBCluster) (secretHash err : String) : Decidable (Reported lib c secretHash err) :=
  inferInstanceAs (Decidable (_ = _))

/-- "Validating" is there when the config is read. -/
def MarkedValidating (lib : Libraries) (c : SpiceDBCluster) (secretHash : String) : Prop :=
  (c.findStatusCondition lib Condition.typeValidating).isSome ∨ ConfigChanged lib (unpaused lib c) secretHash

instance (lib : Libraries) (c : SpiceDBCluster) (secretHash : String) : Decidable (MarkedValidating lib c secretHash) :=
  inferInstanceAs (Decidable (_ ∨ _))

/-- A failure that is reported already, beside "Validating". -/
def Repeated (lib : Libraries) (c : SpiceDBCluster) (secretHash : String) : Except String Config → Prop
  | .ok _ => False
  | .error err => Reported lib c secretHash err ∧ MarkedValidating lib c secretHash

instance (lib : Libraries) (c : SpiceDBCluster) (secretHash : String) :
    (result : Except String Config) → Decidable (Repeated lib c secretHash result)
  | .ok _ => inferInstanceAs (Decidable False)
  | .error _ => inferInstanceAs (Decidable (_ ∧ _))

section

variable {lib : Libraries} {c : SpiceDBCluster} {secretHash err : String}

theorem reported_iff_any : Reported lib c secretHash err ↔
    (c.findStatusCondition lib Condition.validatingFailed).any
      (·.message = (Condition.newInvalidConfigCondition 0 secretHash err).message) := by
  unfold Reported
  cases c.findStatusCondition lib Condition.validatingFailed with
  | none => simp
  | some condition => simp

theorem find_unpaused {type : String} (h : typePaused ≠ type) :
    (unpaused lib c).findStatusCondition lib type = c.findStatusCondition lib type := by
  unfold unpaused
  split
  · exact lib.findStatusCondition_remove_of_ne _ h
  · rfl

theorem reported_noted {now : Nat} {c : SpiceDBCluster} :
    Reported lib (noted lib now (unpaused lib c) secretHash) secretHash err ↔ Reported lib c secretHash err := by
  have hfind : (noted lib now (unpaused lib c) secretHash).findStatusCondition lib Condition.validatingFailed =
      c.findStatusCondition lib Condition.validatingFailed := by
    refine Eq.trans ?_ (find_unpaused (by decide))
    unfold noted
    split
    · have hne : Condition.typeValidating ≠ Condition.validatingFailed := by decide
      exact (lib.findStatusCondition_set_of_ne _ _ hne).trans (lib.findStatusCondition_remove_of_ne _ (by decide))
    · rfl
  rw [Reported, hfind, Reported]

theorem validating_noted {now : Nat} {c : SpiceDBCluster} :
    ((noted lib now (unpaused lib c) secretHash).findStatusCondition lib Condition.typeValidating).isSome ↔
      MarkedValidating lib c secretHash := by
  rw [MarkedValidating, ← find_unpaused (c := c) (by decide : typePaused ≠ Condition.typeValidating)]
  unfold noted
  by_cases hchanged : ConfigChanged lib (unpaused lib c) secretHash
  · rw [if_pos hchanged]
    obtain ⟨time, hset⟩ := lib.findStatusCondition_set_self
      (lib.removeStatusCondition (unpaused lib c).status.conditions Condition.typePreconditionsFailed)
      (Condition.newValidatingConfigCondition now secretHash)
    exact iff_of_true (Option.isSome_of_eq_some hset) (Or.inr hchanged)
  · rw [if_neg hchanged]
    simp [hchanged]

end

/-! ## `NewConfig` fails -/

section

variable {lib : Libraries} {idioms : Idioms lib} {resolver : PatchMetaResolver} {w : World} {c : SpiceDBCluster}
  {sender : Sender} {secretHash err : String}

theorem settled_rejectedPatch (now : Nat) :
    Settled lib (rejectedPatch lib c (Condition.newInvalidConfigCondition now secretHash err)).status.conditions
      secretHash (.error err) := by
  constructor
  · have hne : Condition.validatingFailed ≠ Condition.typeValidating := by decide
    exact (lib.findStatusCondition_set_of_ne _ _ hne).trans (lib.findStatusCondition_remove_self _ _)
  · obtain ⟨time, hset⟩ := lib.findStatusCondition_set_self (lib.removeStatusCondition c.status.conditions
      Condition.typeValidating) (Condition.newInvalidConfigCondition now secretHash err)
    exact congrArg (Option.map Condition.message) hset

/-- With the failure reported already, what is stored is left as it is. -/
theorem reject_settles {α : Type} {Q : α → Session → Prop} (now : Nat) :
    Triple (Smooth (InMemory w c)) (reject lib sender c (Condition.newInvalidConfigCondition now secretHash err)) Q
      fun _ => Barring fun w' => Settled lib w'.api.cluster.status.conditions secretHash (.error err) ↔
        ¬(Reported lib c secretHash err ∧ (c.findStatusCondition lib Condition.typeValidating).isSome) := by
  refine Triple.ite (fun hreported => ?_) fun hnew => ?_
  · replace hreported : Reported lib c secretHash err := reported_iff_any.2 hreported
    refine Triple.stop fun s hs _ => ?_
    have hsettled : Settled lib c.status.conditions secretHash (.error err) ↔
        c.findStatusCondition lib Condition.typeValidating = none := and_iff_left hreported
    dsimp only
    rw [hs.2.conditions, hsettled, and_iff_right hreported, Option.not_isSome_iff_eq_none]
  · replace hnew : ¬Reported lib c secretHash err := fun h => hnew (reported_iff_any.1 h)
    refine Triple.conseq (patchStatus_stops (B := fun w' => Settled lib w'.api.cluster.status.conditions secretHash
      (.error err)) fun _ _ _ => settled_rejectedPatch now) (fun _ h => h) (fun _ _ h => h) fun _ s hs hnone => ?_
    exact iff_of_true (hs hnone) fun h => hnew h.1

theorem validateConfig_fails {secrets : GoMap Secret} {warning : Option String} {Q : Validated → Session → Prop}
    (hnew : newConfig lib c w.operatorConfig secrets resolver = .ok (.error err, warning)) :
    Triple (Smooth (InMemory w c)) (validateConfig lib resolver c secrets secretHash) Q
      fun _ => Barring fun w' => Settled lib w'.api.cluster.status.conditions secretHash (.error err) ↔
        ¬(Reported lib c secretHash err ∧ (c.findStatusCondition lib Condition.typeValidating).isSome) := by
  refine look_smooth fun w₁ hw₁ => ?_
  rw [hw₁.operatorConfig, hnew]
  refine Triple.bind lift_smooth fun r => Triple.assume ?_
  rintro rfl
  dsimp only
  refine Triple.pre (reject_settles (w := w) w₁.now) fun s hs => ⟨hs.1, ?_⟩
  rw [hs.2]
  exact hw₁

theorem fromValidation_fails {u : Unvalidated} {warning : Option String}
    (hnew : newConfig lib u.cluster w.operatorConfig u.secrets resolver = .ok (.error err, warning)) {s : Session}
    (hs : Smooth (InMemory w u.cluster) s) (hsucceeds : Succeeds (fromValidation lib idioms resolver u) s) :
    Settled lib (exec (fromValidation lib idioms resolver u) s).2.world.api.cluster.status.conditions u.secretHash
        (.error err) ↔
      ¬(Reported lib u.cluster u.secretHash err ∧
        (u.cluster.findStatusCondition lib Condition.typeValidating).isSome) := by
  have hstops : Triple (Smooth (InMemory w u.cluster))
      (validateConfig lib resolver u.cluster u.secrets u.secretHash) (fun _ _ => False) _ := validateConfig_fails hnew
  exact (Triple.bind hstops fun _ => ⟨fun _ h => h.elim⟩).always hs hsucceeds

end

/-! ## `NewConfig` succeeds -/

def validationTypes : List String := [Condition.typeValidating, Condition.validatingFailed]

def Clean (lib : Libraries) (conditions : List Condition) : Prop :=
  ∀ type ∈ validationTypes, lib.findStatusCondition conditions type = none

section

variable {lib : Libraries} {idioms : Idioms lib} {resolver : PatchMetaResolver} {w : World} {c : SpiceDBCluster}
  {conditions : List Condition} {secretHash : String}

theorem Clean.set {new : Condition} (hother : new.type ∉ validationTypes) (h : Clean lib conditions) :
    Clean lib (lib.setStatusCondition conditions new) := by
  intro type htype
  have hne : new.type ≠ type := fun heq => hother (heq ▸ htype)
  rw [lib.findStatusCondition_set_of_ne _ _ hne, h type htype]

theorem Clean.remove {removed : String} (h : Clean lib conditions) :
    Clean lib (lib.removeStatusCondition conditions removed) := by
  intro type htype
  by_cases heq : removed = type
  · rw [heq, lib.findStatusCondition_remove_self]
  · rw [lib.findStatusCondition_remove_of_ne _ heq, h type htype]

variable (lib) in
theorem clean_computedStatus (now : Nat) (config : Config) (warning : Option String) (migrationHash : String)
    (availableVersions : List SpiceDBVersion) :
    Clean lib (computedStatus lib now c config warning migrationHash availableVersions).conditions := by
  have hremoved : Clean lib (lib.removeStatusCondition (lib.removeStatusCondition c.status.conditions
      Condition.validatingFailed) Condition.typeValidating) := by
    intro type htype
    rcases List.mem_pair.1 htype with rfl | rfl
    · exact lib.findStatusCondition_remove_self _ _
    · exact (lib.findStatusCondition_remove_of_ne _ (by decide)).trans (lib.findStatusCondition_remove_self _ _)
  cases warning with
  | none => exact hremoved.remove
  | some warning => exact hremoved.set (by decide : Condition.typeConfigWarnings ∉ _)

/-- The handlers after the validation have other conditions. -/
theorem clean_tail (lib : Libraries) :
    UpholdsTail lib (fun w => Clean lib w.api.cluster.status.conditions)
      (fun p _ => Clean lib p.status.conditions) where
  store := fun _ hK => ⟨hK, hK⟩
  quiet := fun hquiet hI => ⟨by rw [hquiet.status]; exact hI, fun _ hK => hK⟩
  seen := fun _ hI => ⟨hI, fun _ hK => hK⟩
  set := by
    intro w p new htype _ hK
    have hother : ∀ type ∈ tailTypes, type ∉ validationTypes := by decide
    exact hK.set (hother new.type htype)
  clear := fun hK => hK.remove
  roll := fun _ _ hK => hK.set (by decide : Condition.typeRolling ∉ _)
  start := fun _ hK => hK.remove.set (by decide : Condition.typeRolling ∉ _)
  apply := fun _ hI _ _ _ => ⟨hI, fun _ hK => hK⟩
  finish := fun hI hK _ _ => ⟨hI, hK.remove⟩

theorem availableVersionsOf_found {operatorConfig : OperatorConfig} {config : Config} {secrets : GoMap Secret}
    {warning : Option String} (hnew : newConfig lib c operatorConfig secrets resolver = .ok (.ok config, warning)) :
    ∃ versions, availableVersionsOf operatorConfig config = pure versions := by
  obtain ⟨target, hcall, herr, hversion⟩ := (newConfig_accepted hnew).target
  unfold availableVersionsOf
  cases hv : config.migration.spiceDBVersion with
  | none => exact ⟨[], rfl⟩
  | some version =>
    obtain ⟨versions, hversions⟩ := UpdateGraph.availableVersions_of_target hcall herr (hversion.symm.trans hv)
    dsimp only
    rw [hversions]
    exact ⟨versions, rfl⟩

/-- After a valid config the available versions are found, so the handler goes on. -/
theorem availableVersionsOf_accepted {A : World → Prop} {operatorConfig : OperatorConfig} {config : Config}
    {secrets : GoMap Secret} {warning : Option String} {E : Stop → Session → Prop}
    (hnew : newConfig lib c operatorConfig secrets resolver = .ok (.ok config, warning)) :
    Triple (Smooth A) (availableVersionsOf operatorConfig config) (fun _ => Smooth A) E := by
  obtain ⟨versions, hversions⟩ := availableVersionsOf_found hnew
  rw [hversions]
  exact Triple.pure fun _ hs => hs

theorem validateConfig_accepts {secrets : GoMap Secret} {config : Config} {warning : Option String}
    (hnew : newConfig lib c w.operatorConfig secrets resolver = .ok (.ok config, warning)) :
    Triple (Smooth (InMemory w c)) (validateConfig lib resolver c secrets secretHash)
      (fun v => At fun w' => Valid lib v ∧
        Held (fun w => Clean lib w.api.cluster.status.conditions)
          (fun p _ => Clean lib p.status.conditions) v.cluster w')
      fun _ => Barring fun w' => Clean lib w'.api.cluster.status.conditions := by
  refine look_smooth fun w₁ hw₁ => ?_
  rw [hw₁.operatorConfig, hnew]
  refine Triple.bind lift_smooth fun r => Triple.assume ?_
  rintro rfl
  refine Triple.bind (availableVersionsOf_accepted hnew) fun availableVersions => ?_
  have hclean := clean_computedStatus lib (c := c) w₁.now config warning
    (lib.secureMigrationConfig config.migration) availableVersions
  refine Triple.ite (fun hequals => ?_) fun _ => ?_
  · refine Triple.pure fun s hs => ⟨⟨rfl, equals_currentVersion hequals⟩, ?_⟩
    rw [← equals_conditions hequals] at hclean
    have hstored : Clean lib s.world.api.cluster.status.conditions := by
      rw [hs.2, hw₁.conditions]
      exact hclean
    exact ⟨hstored, hclean⟩
  · refine Triple.bind
      (patchStatus_smooth (B := fun w' => Clean lib w'.api.cluster.status.conditions) fun _ _ _ => hclean)
      fun c' => Triple.assume ?_
    rintro rfl
    exact Triple.pure fun s hs => ⟨⟨rfl, SpiceDBVersion.equalsPtr_self _⟩, hs.2, hclean⟩

theorem fromValidation_accepts {u : Unvalidated} {config : Config} {warning : Option String}
    (hnew : newConfig lib u.cluster w.operatorConfig u.secrets resolver = .ok (.ok config, warning)) {s : Session}
    (hs : Smooth (InMemory w u.cluster) s) (hsucceeds : Succeeds (fromValidation lib idioms resolver u) s) :
    Settled lib (exec (fromValidation lib idioms resolver u) s).2.world.api.cluster.status.conditions u.secretHash
      (.ok config) := by
  have hrest : ∀ v : Validated, Valid lib v → Triple
      (At (Held (fun w => Clean lib w.api.cluster.status.conditions)
        (fun p _ => Clean lib p.status.conditions) v.cluster))
      (do ensureComponents lib idioms v.config; migrateAndDeploy lib idioms v)
      (fun _ => At fun w => Clean lib w.api.cluster.status.conditions)
      (fun _ => At fun w => Clean lib w.api.cluster.status.conditions) := fun v hvalid =>
    Triple.bind ((clean_tail lib).ensureComponents_upholds v.config) fun _ =>
      (clean_tail lib).migrateAndDeploy_upholds hvalid
  have hrun : Triple (Smooth (InMemory w u.cluster)) (fromValidation lib idioms resolver u)
      (fun _ => Barring fun w => Clean lib w.api.cluster.status.conditions)
      (fun _ => Barring fun w => Clean lib w.api.cluster.status.conditions) := by
    refine Triple.bind (validateConfig_accepts hnew) fun v => assume_at fun hvalid => ?_
    exact (hrest v hvalid).conseq (fun _ hs => hs) (fun _ _ hs _ => hs) fun _ _ hs _ => hs
  have hclean := hrun.always hs hsucceeds
  exact ⟨hclean _ (by decide), hclean _ (by decide)⟩

end

/-! ## After a reconcile -/

section

variable (lib : Libraries) (idioms : Idioms lib) (resolver : PatchMetaResolver)

/-- What a reconcile gives to `ValidateConfigHandler`, if it gets there, and what `NewConfig` returns, if it returns. -/
def validation (s : Session) : Option (Unvalidated × Except String Config) := do
  let u ← (exec (beforeValidation lib idioms) s).1.toOption
  let r ← (newConfig lib u.cluster s.world.operatorConfig u.secrets resolver).toOption
  pure (u, r.1)

/-- No call of the reconcile fails, and the conditions that it reads are the stored ones. -/
def Undisturbed (s : Session) : Prop :=
  Succeeds (reconcile lib idioms resolver) s ∧
    s.world.api.cluster.status.conditions = s.world.cache.cluster.status.conditions

/-- If `NewConfig` is called, the stored conditions say in the end what it returned. -/
def LeavesSettled (s : Session) : Prop :=
  ∀ r ∈ validation lib idioms resolver s,
    Settled lib (exec (reconcile lib idioms resolver) s).2.world.api.cluster.status.conditions r.1.secretHash r.2

/-- `NewConfig` returns an error that is reported already, and "Validating" is there beside the report. -/
def RepeatsFailure (s : Session) : Prop :=
  ∃ r ∈ validation lib idioms resolver s, Repeated lib s.world.cache.cluster r.1.secretHash r.2

instance (s : Session) : Decidable (Undisturbed lib idioms resolver s) := inferInstanceAs (Decidable (_ ∧ _))

instance (s : Session) : Decidable (LeavesSettled lib idioms resolver s) := inferInstanceAs (Decidable (∀ r ∈ _, _))

instance (s : Session) : Decidable (RepeatsFailure lib idioms resolver s) := inferInstanceAs (Decidable (∃ r ∈ _, _))

/-- `P` holds of every reconcile of a run. -/
def EachReconcile (P : Session → Prop) : World → List Move → Prop
  | _, [] => True
  | w, .reconcile now answers :: rest =>
    P { world := { w with now }, answers } ∧
      EachReconcile P (step lib idioms resolver w (.reconcile now answers)) rest
  | w, move :: rest => EachReconcile P (step lib idioms resolver w move) rest

instance (P : Session → Prop) [DecidablePred P] (w : World) (moves : List Move) :
    Decidable (EachReconcile lib idioms resolver P w moves) := by
  induction moves generalizing w with
  | nil => exact .isTrue trivial
  | cons move rest ih =>
    cases move with
    | reconcile now answers => exact @instDecidableAnd _ _ _ (ih _)
    | _ => exact ih _

end

section

variable {lib : Libraries} {idioms : Idioms lib} {resolver : PatchMetaResolver} {w : World} {answers : List Answer}

theorem settled_iff {u : Unvalidated} {result : Except String Config} {warning : Option String}
    (hundisturbed : Undisturbed lib idioms resolver { world := w, answers })
    (hreach : (exec (beforeValidation lib idioms) { world := w, answers }).1 = .ok u)
    (hnew : newConfig lib u.cluster w.operatorConfig u.secrets resolver = .ok (result, warning)) :
    Settled lib (exec (reconcile lib idioms resolver) { world := w, answers }).2.world.api.cluster.status.conditions
        u.secretHash result ↔ ¬Repeated lib w.cache.cluster u.secretHash result := by
  obtain ⟨hsucceeds, hread⟩ := hundisturbed
  have hbefore := (beforeValidation_smooth lib idioms ⟨rfl, rfl, hread⟩).run { world := w, answers } ⟨rfl, rfl⟩
  rw [Succeeds] at hsucceeds
  rw [reconcile_eq, exec_bind] at hsucceeds ⊢
  rcases hrun : exec (beforeValidation lib idioms) { world := w, answers } with ⟨e | a, s⟩
  · rw [hrun] at hreach
    cases hreach
  rw [hrun] at hreach hbefore hsucceeds
  cases hreach
  obtain ⟨hcluster, hsmooth⟩ := hbefore
  cases result with
  | error err =>
    refine (fromValidation_fails hnew hsmooth hsucceeds).trans ?_
    rw [hcluster, reported_noted, validating_noted]
    rfl
  | ok config => exact iff_of_true (fromValidation_accepts hnew hsmooth hsucceeds) id

theorem toOption_eq_some {ε α : Type} {x : Except ε α} {a : α} (h : x.toOption = some a) : x = .ok a := by
  cases x with
  | error e => cases h
  | ok b => exact congrArg Except.ok (Option.some.inj h)

theorem mem_validation {s : Session} {r : Unvalidated × Except String Config}
    (h : r ∈ validation lib idioms resolver s) :
    (exec (beforeValidation lib idioms) s).1 = .ok r.1 ∧
      ∃ warning, newConfig lib r.1.cluster s.world.operatorConfig r.1.secrets resolver = .ok (r.2, warning) := by
  obtain ⟨u, hu, h⟩ := Option.bind_eq_some_iff.1 h
  obtain ⟨⟨result, warning⟩, hnew, h⟩ := Option.bind_eq_some_iff.1 h
  cases h
  exact ⟨toOption_eq_some hu, warning, toOption_eq_some hnew⟩

theorem leavesSettled_iff (hundisturbed : Undisturbed lib idioms resolver { world := w, answers }) :
    LeavesSettled lib idioms resolver { world := w, answers } ↔
      ¬RepeatsFailure lib idioms resolver { world := w, answers } := by
  have hiff : ∀ r ∈ validation lib idioms resolver { world := w, answers }, _ := fun r hr =>
    settled_iff hundisturbed (mem_validation hr).1 (mem_validation hr).2.choose_spec
  constructor
  · rintro hsettled ⟨r, hr, hrepeated⟩
    exact (hiff r hr).1 (hsettled r hr) hrepeated
  · exact fun hnew r hr => (hiff r hr).2 fun hrepeated => hnew ⟨r, hr, hrepeated⟩

/-- What is equivalent for each reconcile of a kind is equivalent for runs of such reconciles. -/
theorem eachReconcile_congr {H P Q : Session → Prop}
    (h : ∀ w answers, H { world := w, answers } → (P { world := w, answers } ↔ Q { world := w, answers }))
    {moves : List Move} (hrun : EachReconcile lib idioms resolver H w moves) :
    EachReconcile lib idioms resolver P w moves ↔ EachReconcile lib idioms resolver Q w moves := by
  induction moves generalizing w with
  | nil => exact Iff.rfl
  | cons move rest ih =>
    cases move with
    | reconcile now answers => exact and_congr (h _ _ hrun.1) (ih hrun.2)
    | _ => exact ih hrun

end

/-- **When the validation conditions say how `NewConfig` ended.** In a run of edits, changes of secrets, reconciles and
all the rest, in which no call of a reconcile fails and each reconcile reads the stored conditions: after each reconcile
that reaches `ValidateConfigHandler` they do, if and only if no reconcile repeats a failure. -/
theorem validation_conditions_settle_iff (lib : Libraries) (idioms : Idioms lib) (resolver : PatchMetaResolver)
    (w : World) (moves : List Move)
    (hrun : EachReconcile lib idioms resolver (Undisturbed lib idioms resolver) w moves) :
    EachReconcile lib idioms resolver (LeavesSettled lib idioms resolver) w moves ↔
      EachReconcile lib idioms resolver (fun s => ¬RepeatsFailure lib idioms resolver s) w moves :=
  eachReconcile_congr (fun _ _ => leavesSettled_iff) hrun

/-- The small cluster without a datastore engine. -/
def engineless (version : String) : ClusterSpec :=
  { (smallCluster version).spec with config := some (.ok (mapOf [("skipTLSWarning", .bool true)])) }

/-- It has been looked at once: "Validating" is stored, and the patch of `ValidateConfigHandler` was in conflict. -/
def enginelessWorld : World :=
  let cluster : SpiceDBCluster := { smallCluster "v1" with spec := engineless "v1", resourceVersion := some 1 }
  run plain plainIdioms plainResolver
    { smallWorld UpdateGraph.twoReleases "v1" with api.cluster := cluster, cache.cluster := cluster } (reconciles [0])

/-- The failure is reported, and then nothing changes. -/
theorem enginelessWorld_settles :
    EachReconcile plain plainIdioms plainResolver (Undisturbed plain plainIdioms plainResolver) enginelessWorld
      (reconciles [1, 2]) ∧
    EachReconcile plain plainIdioms plainResolver (LeavesSettled plain plainIdioms plainResolver) enginelessWorld
      (reconciles [1, 2]) := by
  have hrun : EachReconcile plain plainIdioms plainResolver
    (Undisturbed plain plainIdioms plainResolver) enginelessWorld
      (reconciles [1, 2]) := by decide +kernel
  refine ⟨hrun, ?_⟩
  exact (validation_conditions_settle_iff plain plainIdioms plainResolver enginelessWorld _ hrun).2 (by decide +kernel)

/-- Another version, and still no engine: the failure has the message of the first, and "Validating" stays. -/
theorem edited_stays_validating :
    EachReconcile plain plainIdioms plainResolver (Undisturbed plain plainIdioms plainResolver) enginelessWorld
      (reconciles [1] ++ [.editCluster ∅ (engineless "v2"), .syncCluster, .reconcile 2 []]) ∧
    ¬EachReconcile plain plainIdioms plainResolver (LeavesSettled plain plainIdioms plainResolver) enginelessWorld
      (reconciles [1] ++ [.editCluster ∅ (engineless "v2"), .syncCluster, .reconcile 2 []]) := by
  decide +kernel

end SpiceDBOperator
