import SpiceDBOperator.Controller.Runs

/-!
# The script of a reconcile

What a reconcile does is a list of deeds: calls, which take effect or do not, and the records a run keeps. `Acts` says,
call by call, what the handlers may send with what they have in memory, and what they have in memory then. Every
reconcile follows the script that `Acts` makes (`reconcile_follows`), whatever the API server answers and wherever the
chain stops. What is to be shown of all the calls of a reconcile is then an induction on scripts, and does not go
through the handlers again.

The script leaves open which of the calls are made, and in what order where the memory does not decide it.
-/

namespace SpiceDBOperator

open Golang Hoare Metadata Handler

inductive Deed where
  /-- A call that took effect. -/
  | made (x : Call)
  /-- A call that did not. -/
  | refused (x : Call)
  | noted (e : Event)

def Deed.call : Deed → Option Call
  | .made x | .refused x => some x
  | .noted _ => none

def World.undergo (w : World) : Deed → World
  | .made x => w.perform x
  | .refused _ => w
  | .noted e => w.record e

/-- What a handler has in memory. -/
inductive Memory where
  | unvalidated (c : SpiceDBCluster)
  | validated (v : Validated)
  /-- Nothing more is sent. -/
  | over

/-- The object is what one of the builders makes of the config. -/
inductive Builds (lib : Libraries) (config : Config) : ComponentApply → Prop
  | serviceAccount {o : ServiceAccountApply} (h : config.serviceAccount lib = .ok o) :
      Builds lib config (.serviceAccount o)
  | role {o : RoleApply} (h : config.role lib = .ok o) : Builds lib config (.role o)
  | service {o : ServiceApply} (h : config.service lib = .ok o) : Builds lib config (.service o)
  | roleBinding {o : RoleBindingApply} (h : config.roleBinding lib = .ok o) : Builds lib config (.roleBinding o)
  | podDisruptionBudget {o : PodDisruptionBudgetApply} (h : config.podDisruptionBudget lib = .ok o) :
    Builds lib config (.podDisruptionBudget o)

section

variable (lib : Libraries) (resolver : PatchMetaResolver) (w : World)

/-- What a reconcile that started in `w` may send. -/
inductive Acts : Memory → Call → Memory → Prop
  | paused {c : SpiceDBCluster} {new : Condition} (htype : new.type = typePaused) (hnew : new.observedGeneration = 0) :
    Acts (.unvalidated c) (.storeStatus .paused (patched (c.setStatusCondition lib new))) .over
  | resumed {c : SpiceDBCluster} :
    Acts (.unvalidated c) (.storeStatus .resumed (patched (c.removeStatusCondition lib typePaused)))
      (.unvalidated (patched (c.removeStatusCondition lib typePaused)))
  | rejected {c : SpiceDBCluster} {sender : Sender}
      (hsender : sender = .invalidSpec ∨ sender = .invalidConfig) (now : Nat) (secretHash err : String) :
    Acts (.unvalidated c)
      (.storeStatus sender
        (patched (rejectedPatch lib c (Condition.newInvalidConfigCondition now secretHash err)))) .over
  | getSecret {c : SpiceDBCluster} {cs : String × String} (hcs : cs ∈ credentialSecretsForCluster c.spec) :
    Acts (.unvalidated c) (.getSecret cs.1) (.unvalidated c)
  | applySecret {c : SpiceDBCluster} {name : String} (metadata : ObjectMeta)
      (hname : (∃ cs ∈ credentialSecretsForCluster c.spec, name = cs.1) ∨ name ∈ w.cache.secretMeta) :
    Acts (.unvalidated c) (.applySecret name metadata) (.unvalidated c)
  | missingSecret {c : SpiceDBCluster} (now : Nat) (name : String) :
    Acts (.unvalidated c) (.storeStatus .missingSecret (patched (missingSecretPatch lib now c name))) .over
  | configChanged {c : SpiceDBCluster} (now : Nat) (secretHash : String) :
    Acts (.unvalidated c) (.storeStatus .configChanged (patched (changedPatch lib now c secretHash)))
      (.unvalidated (changedCluster lib now c secretHash))
  | accepted {c p : SpiceDBCluster} {secrets : GoMap Secret} {config : Config} {warning : Option String} {now : Nat}
      {hash : String} {availableVersions : List SpiceDBVersion} (secretHash : String)
      (hnew : newConfig lib c w.operatorConfig secrets resolver = .ok (.ok config, warning))
      (hhash : hash = lib.secureMigrationConfig config.migration)
      (hp : p = { c with status := computedStatus lib now c config warning hash availableVersions }) :
    Acts (.unvalidated c) (.storeStatus (.validated warning.isSome) (patched p))
      (.validated { cluster := patched p, config, migrationHash := hash, secretHash })
  | applyComponent {v : Validated} {o : ComponentApply} {name : String} (annotations : GoMap String)
      (hbuilds : Builds lib v.config o) (hname : o.metadata.name = some name) :
    Acts (.validated v) (.applyComponent (o.toComponent name annotations)) (.validated v)
  | deleteComponent {v : Validated} {c : Component} (hc : c ∈ w.cache.components) :
    Acts (.validated v) (.deleteComponent c.kind c.name) (.validated v)
  | migrating {v : Validated} {p : SpiceDBCluster} {now : Nat} {engine migration : String}
      (hp : p = v.cluster.setStatusCondition lib (Condition.newMigratingCondition now engine migration)) :
    Acts (.validated v) (.storeStatus .migrating (patched p)) (.validated { v with cluster := patched p })
  | applyJob {v : Validated} {job : JobApply} {name : String}
      (hjob : v.config.migrationJob lib v.migrationHash = .ok job) (hname : job.metadata.name = some name) :
    Acts (.validated v) (.applyJob name job) (.validated v)
  | deleteJob {v : Validated} {j : Job} (hj : j ∈ w.cache.jobs) : Acts (.validated v) (.deleteJob j.name) (.validated v)
  | selfPaused {v : Validated} {p : SpiceDBCluster} {new : Condition} {now : Nat} {engine migration message : String}
      (htype : new.type = typePaused) (hnew : new.observedGeneration = 0)
      (hp : p = (v.cluster.setStatusCondition lib
        (Condition.newMigrationFailedCondition now engine migration message)).setStatusCondition lib new) :
    Acts (.validated v) (.storeStatus .selfPaused (patched p)) (.validated { v with cluster := patched p })
  | patchCluster {v : Validated} :
    Acts (.validated v) (.patchCluster
      { v.cluster with
        resourceVersion := none, labels := v.cluster.labels.insert pausedControllerSelectorKey "" }) .over
  | rollingOut {v : Validated} (now : Nat) :
    Acts (.validated v) (.storeStatus .rollingOut (patched (rolloutStarted lib now v.cluster)))
      (.validated { v with cluster := patched (rolloutStarted lib now v.cluster) })
  | applyDeployment {v : Validated} {d : DeploymentApply} {name : String}
      (hd : v.config.deployment lib v.migrationHash v.secretHash = .ok d) (hname : d.metadata.name = some name) :
    Acts (.validated v) (.applyDeployment name (stamped lib d) v.config v.cluster.status) (.validated v)
  | applyFailed {v : Validated} (now : Nat) (err : String) :
    Acts (.validated v) (.storeStatus .applyFailed
      (patched (v.cluster.setStatusCondition lib (Condition.newApplyFailedCondition now err)))) .over
  | applied {v : Validated} :
    Acts (.validated v)
      (.storeStatus .applied (patched (v.cluster.removeStatusCondition lib Condition.typeRolloutError))) .over
  | deleteDeployment {v : Validated} {d : Deployment} (hd : d ∈ w.cache.deployments) :
    Acts (.validated v) (.deleteDeployment d.name) (.validated v)
  | podFailed {v : Validated} (now : Nat) (message : String) :
    Acts (.validated v) (.storeStatus .podFailed
      (patched (v.cluster.setStatusCondition lib (Condition.newPodErrorCondition now message)))) .over
  | waiting {v : Validated} (now : Nat) (message : String) :
    Acts (.validated v) (.storeStatus .waiting
      (patched (v.cluster.setStatusCondition lib (Condition.newRollingCondition now message)))) .over
  | rolledOut {v : Validated} {p : SpiceDBCluster}
      (hp : p = (v.cluster.removeStatusCondition lib Condition.typeRolling).removeStatusCondition lib
        Condition.typeRolloutError) :
    Acts (.validated v) (.storeStatus .rolledOut (patched p)) (.validated { v with cluster := patched p })
  | deletePod {v : Validated} {p : Pod} (hp : p ∈ w.cache.jobPods) :
    Acts (.validated v) (.deletePod p.name) (.validated v)

/-- The deeds of a reconcile that started in `w`, and what it has in memory after them. -/
inductive Script : List Deed → Memory → Prop
  | start : Script [] (.unvalidated w.cache.cluster)
  | made {deeds : List Deed} {m m' : Memory} {x : Call} (h : Script deeds m) (hx : Acts lib resolver w m x m') :
    Script (deeds ++ [.made x]) m'
  | refused {deeds : List Deed} {m m' : Memory} {x : Call} (h : Script deeds m) (hx : Acts lib resolver w m x m') :
    Script (deeds ++ [.refused x]) m'
  | noted {deeds : List Deed} {m : Memory} (h : Script deeds m) (e : Event) : Script (deeds ++ [.noted e]) m
  /-- A config that leaves the status as it is. -/
  | unchanged {deeds : List Deed} {c : SpiceDBCluster} {secrets : GoMap Secret} {config : Config}
      {warning : Option String} (h : Script deeds (.unvalidated c)) (secretHash : String)
      (hnew : newConfig lib c w.operatorConfig secrets resolver = .ok (.ok config, warning)) :
    Script deeds
      (.validated { cluster := c, config, migrationHash := lib.secureMigrationConfig config.migration, secretHash })

/-- The session is where these deeds have led. -/
structure Deeds (deeds : List Deed) (s : Session) : Prop where
  sent : s.sent = deeds.filterMap Deed.call
  world : s.world = deeds.foldl World.undergo w

/-- The reconcile has followed the script so far. -/
def Follows (m : Memory) (s : Session) : Prop := ∃ deeds, Script lib resolver w deeds m ∧ Deeds w deeds s

def Ended (s : Session) : Prop := ∃ m, Follows lib resolver w m s

end

/-! ## Rules -/

/-- What no deed changes. -/
structure Framed (w w' : World) : Prop where
  cache : w'.cache = w.cache
  operatorConfig : w'.operatorConfig = w.operatorConfig

theorem Framed.refl (w : World) : Framed w w := ⟨rfl, rfl⟩

theorem Framed.undergo {w w' : World} (h : Framed w w') (deed : Deed) : Framed w (w'.undergo deed) := by
  rcases deed with x | x | e
  · cases x <;> exact ⟨h.cache, h.operatorConfig⟩
  · exact h
  · exact ⟨h.cache, h.operatorConfig⟩

theorem framed_foldl {w w' : World} (h : Framed w w') (deeds : List Deed) :
    Framed w (deeds.foldl World.undergo w') := by
  induction deeds generalizing w' with
  | nil => exact h
  | cons deed rest ih => exact ih (h.undergo deed)

section

variable {lib : Libraries} {idioms : Idioms lib} {resolver : PatchMetaResolver} {w : World} {m m' : Memory} {x : Call}
  {sender : Sender} {failed : String → QueueOp} {c patch : SpiceDBCluster}

theorem Follows.framed {s : Session} (h : Follows lib resolver w m s) : Framed w s.world := by
  obtain ⟨deeds, -, hdeeds⟩ := h
  rw [hdeeds.world]
  exact framed_foldl (Framed.refl w) deeds

theorem look_follows {α : Type} {f : World → Handler α} {Q : α → Session → Prop} {E : Stop → Session → Prop}
    (h : ∀ w', Framed w w' → Triple (Follows lib resolver w m) (f w') Q E) :
    Triple (Follows lib resolver w m) (world >>= f) Q E := by
  refine Triple.bind (Q := fun w' s => Framed w w' ∧ Follows lib resolver w m s)
    (Triple.act fun s hs => ?_) fun w' => ?_
  · exact ⟨hs.framed, hs⟩
  · exact Triple.assume (h w')

theorem queue_follows {α : Type} {op : QueueOp} {Q : α → Session → Prop} :
    Triple (Follows lib resolver w m) (queue op) Q fun _ => Ended lib resolver w :=
  Triple.stop fun _ hs => ⟨m, hs⟩

theorem lift_follows {α : Type} {a : Go α} :
    Triple (Follows lib resolver w m) (lift a) (fun b s => a = .ok b ∧ Follows lib resolver w m s)
      fun _ => Ended lib resolver w := by
  cases a with
  | ok b => exact Triple.pure fun _ hs => ⟨rfl, hs⟩
  | error f => exact Triple.stop fun _ hs => ⟨m, hs⟩

theorem record_follows (e : Event) :
    Triple (Follows lib resolver w m) (record e) (fun _ => Follows lib resolver w m) fun _ => Ended lib resolver w := by
  refine Triple.act fun s hs => ?_
  obtain ⟨deeds, hscript, hdeeds⟩ := hs
  refine ⟨deeds ++ [.noted e], hscript.noted e, ?_, ?_⟩
  · simp [hdeeds.sent, Deed.call]
  · simp [hdeeds.world, World.undergo]

theorem call_follows (hx : Acts lib resolver w m x m') {E : Stop → Session → Prop} :
    Triple (Follows lib resolver w m) (call x) (fun _ => Follows lib resolver w m') E := by
  refine Triple.act fun s hs => ?_
  obtain ⟨deeds, hscript, hdeeds⟩ := hs
  rcases s.served_cases x with ⟨heffect, -⟩ | ⟨-, hidle⟩
  · refine ⟨deeds ++ [.made x], hscript.made hx, ?_, ?_⟩
    · simp [Session.after, hdeeds.sent, Deed.call]
    · simp [heffect, hdeeds.world, World.undergo]
  · refine ⟨deeds ++ [.refused x], hscript.refused hx, ?_, ?_⟩
    · simp [Session.after, hdeeds.sent, Deed.call]
    · simp [hidle, hdeeds.world, World.undergo]

theorem callOr_follows (hx : Acts lib resolver w m x m') :
    Triple (Follows lib resolver w m) (callOr failed x) (fun _ => Follows lib resolver w m')
      fun _ => Ended lib resolver w := by
  refine Triple.bind (call_follows hx) fun err => ?_
  cases err with
  | none => exact Triple.pure fun _ hs => hs
  | some err => exact queue_follows

theorem patchStatus_follows (hx : Acts lib resolver w m (.storeStatus sender (patched patch)) m') :
    Triple (Follows lib resolver w m) (patchStatus sender failed patch)
      (fun c s => c = patched patch ∧ Follows lib resolver w m' s) fun _ => Ended lib resolver w := by
  refine Triple.bind (callOr_follows hx) fun _ => ?_
  exact Triple.pure fun _ hs => ⟨rfl, hs⟩

/-- A status patch after which the reconcile ends. -/
theorem patchStatus_ends {α : Type} {op : QueueOp} {Q : α → Session → Prop}
    (hx : Acts lib resolver w m (.storeStatus sender (patched patch)) m') :
    Triple (Follows lib resolver w m) (do let _ ← patchStatus sender failed patch; queue op) Q
      fun _ => Ended lib resolver w := by
  refine Triple.bind (patchStatus_follows hx) fun _ => Triple.assume fun _ => ?_
  exact queue_follows

/-! ## Up to the config -/

theorem pause_follows :
    Triple (Follows lib resolver w (.unvalidated c)) (idioms.pause c)
      (fun c' => Follows lib resolver w (.unvalidated c')) fun _ => Ended lib resolver w := by
  rw [idioms.pause_eq]
  refine look_follows fun w' _ => ?_
  obtain ⟨htype, hnew⟩ := idioms.pausedCondition_fresh w'.now
  refine Triple.ite (fun _ => Triple.ite (fun _ => queue_follows) fun _ => ?_) fun _ =>
    Triple.ite (fun _ => ?_) fun _ => ?_
  · exact patchStatus_ends (.paused htype hnew)
  · refine (patchStatus_follows .resumed).conseq (fun _ hs => hs) ?_ fun _ _ hs => hs
    rintro _ s ⟨rfl, hs⟩
    exact hs
  · exact Triple.pure fun _ hs => hs

theorem reject_follows {α : Type} {Q : α → Session → Prop} (hsender : sender = .invalidSpec ∨ sender = .invalidConfig)
    (now : Nat) (secretHash err : String) :
    Triple (Follows lib resolver w (.unvalidated c))
      (reject lib sender c (Condition.newInvalidConfigCondition now secretHash err)) Q fun _ => Ended lib resolver w :=
  Triple.ite (fun _ => queue_follows) fun _ => patchStatus_ends (.rejected hsender now secretHash err)

theorem validateSpec_follows :
    Triple (Follows lib resolver w (.unvalidated c)) (validateSpec lib c)
      (fun _ => Follows lib resolver w (.unvalidated c))
      fun _ => Ended lib resolver w := by
  refine look_follows fun w' _ => ?_
  cases specError c.spec with
  | none => exact Triple.pure fun _ hs => hs
  | some err => exact reject_follows (Or.inl rfl) w'.now "" err

theorem missingSecret_follows {Q : Unit → Session → Prop} (name err : String) :
    Triple (Follows lib resolver w (.unvalidated c)) (missingSecret lib c name err) Q fun _ => Ended lib resolver w :=
  look_follows fun w' _ => patchStatus_ends (.missingSecret w'.now name)

theorem adoptSecrets_follows :
    Triple (Follows lib resolver w (.unvalidated c)) (adoptSecrets lib idioms c)
      (fun _ => Follows lib resolver w (.unvalidated c)) fun _ => Ended lib resolver w := by
  refine look_follows fun w' hw' => Triple.each fun cs hcs => ?_
  refine idioms.adopt_confined _ _ _ _ _ _ _ _ _ (fun x hx => ?_) ?_ fun _ _ _ hs => ⟨_, hs⟩
  · obtain rfl | ⟨name, metadata, hname, rfl⟩ := hx
    · exact call_follows (.getSecret hcs)
    · rw [hw'.cache] at hname
      exact call_follows (.applySecret metadata (hname.imp_left fun h => ⟨cs, hcs, h⟩))
  · rintro _ ⟨err, rfl⟩
    exact missingSecret_follows cs.1 err

theorem checkConfigChanged_follows (secretHash : String) :
    Triple (Follows lib resolver w (.unvalidated c)) (checkConfigChanged lib c secretHash)
      (fun c' => Follows lib resolver w (.unvalidated c')) fun _ => Ended lib resolver w := by
  refine look_follows fun w' _ => Triple.ite (fun _ => ?_) fun _ => Triple.pure fun _ hs => hs
  refine Triple.bind (patchStatus_follows (.configChanged w'.now secretHash)) fun c' => Triple.assume ?_
  rintro rfl
  exact Triple.pure fun _ hs => hs

theorem availableVersionsOf_follows (operatorConfig : OperatorConfig) (config : Config) :
    Triple (Follows lib resolver w m) (availableVersionsOf operatorConfig config)
      (fun _ => Follows lib resolver w m) fun _ => Ended lib resolver w := by
  unfold availableVersionsOf
  cases config.migration.spiceDBVersion with
  | none => exact Triple.pure fun _ hs => hs
  | some version =>
    refine Triple.bind lift_follows fun result => Triple.assume fun _ => ?_
    cases result with
    | ok versions => exact Triple.pure fun _ hs => hs
    | error err => exact queue_follows

theorem validateConfig_follows {secrets : GoMap Secret} {secretHash : String} :
    Triple (Follows lib resolver w (.unvalidated c)) (validateConfig lib resolver c secrets secretHash)
      (fun v => Follows lib resolver w (.validated v)) fun _ => Ended lib resolver w := by
  refine look_follows fun w' hw' => ?_
  refine Triple.bind lift_follows fun result => Triple.assume fun hnew => ?_
  rw [hw'.operatorConfig] at hnew ⊢
  obtain ⟨result, warning⟩ := result
  cases result with
  | error err => exact reject_follows (Or.inr rfl) w'.now secretHash err
  | ok config =>
    refine Triple.bind (availableVersionsOf_follows _ config) fun availableVersions => ?_
    refine Triple.ite (fun _ => Triple.pure fun s hs => ?_) fun _ => ?_
    · obtain ⟨deeds, hscript, hdeeds⟩ := hs
      exact ⟨deeds, hscript.unchanged secretHash hnew, hdeeds⟩
    · refine Triple.bind (patchStatus_follows (.accepted secretHash hnew rfl rfl)) fun c' =>
        Triple.assume ?_
      rintro rfl
      exact Triple.pure fun _ hs => hs

/-! ## Components -/

variable {v : Validated}

theorem ensureComponent_follows {K : Type} {of : K → ComponentApply} {build : Go K}
    (hbuilds : ∀ o, build = .ok o → Builds lib v.config (of o)) :
    Triple (Follows lib resolver w (.validated v)) (ensureComponent lib idioms of build)
      (fun _ => Follows lib resolver w (.validated v)) fun _ => Ended lib resolver w := by
  refine look_follows fun w' hw' => ?_
  refine Triple.bind lift_follows fun o => Triple.assume fun ho => ?_
  refine Triple.bind lift_follows fun name => Triple.assume fun hname => ?_
  refine idioms.ensure_confined _ _ _ _ _ (fun x hx => ?_) (fun _ hp => hp.elim) fun _ _ _ hs => ⟨_, hs⟩
  obtain ⟨annotations, rfl⟩ | ⟨listed, hlisted, rfl⟩ := hx
  · exact call_follows (.applyComponent annotations (hbuilds o ho) (deref_eq_ok.1 hname))
  · refine call_follows (.deleteComponent ?_)
    rw [← hw'.cache]
    exact List.mem_of_mem_filter hlisted

theorem ensureComponents_follows :
    Triple (Follows lib resolver w (.validated v)) (ensureComponents lib idioms v.config)
      (fun _ => Follows lib resolver w (.validated v)) fun _ => Ended lib resolver w := by
  refine Triple.bind (ensureComponent_follows fun _ => .serviceAccount) fun _ => ?_
  refine Triple.bind (ensureComponent_follows fun _ => .role) fun _ => ?_
  refine Triple.bind (ensureComponent_follows fun _ => .service) fun _ => ?_
  exact ensureComponent_follows fun _ => .roleBinding

theorem ensurePDB_follows :
    Triple (Follows lib resolver w (.validated v)) (ensurePDB lib idioms v.config)
      (fun _ => Follows lib resolver w (.validated v)) fun _ => Ended lib resolver w := by
  refine Triple.ite (fun _ => ?_) fun _ => ensureComponent_follows fun _ => .podDisruptionBudget
  refine look_follows fun w' hw' => Triple.each fun pdb hpdb => Triple.ite (fun _ => ?_) fun _ => ?_
  · obtain ⟨hmem, hkind⟩ := List.mem_filter.1 hpdb
    rw [hw'.cache] at hmem
    refine Triple.bind (call_follows ?_) fun _ => Triple.pure fun _ hs => hs
    exact of_decide_eq_true hkind ▸ .deleteComponent hmem
  · exact Triple.pure fun _ hs => hs

/-! ## Migrations -/

section

variable {α : Type} {annotations : α → Option (GoMap String)} {key hash : String}

/-- What is deleted is one of the objects that were listed. -/
theorem partitionObjs_extra_subset {objs matchingObjs extraObjs : List α}
    (h : partitionObjs annotations key hash objs = (matchingObjs, extraObjs)) : extraObjs ⊆ objs := by
  suffices hall : (partitionObjs annotations key hash objs).2 ⊆ objs by
    rw [h] at hall
    exact hall
  clear h
  induction objs with
  | nil => exact fun _ h => h
  | cons o rest ih =>
    have hrest : (partitionObjs annotations key hash rest).2 ⊆ o :: rest := fun x hx => List.mem_cons_of_mem _ (ih hx)
    have hone : (if (annotations o).isNone then [o] else []) ⊆ o :: rest := by
      split
      · exact List.cons_subset.2 ⟨List.mem_cons_self .., List.nil_subset _⟩
      · exact List.nil_subset _
    unfold partitionObjs
    dsimp only
    split
    · exact List.append_subset.2 ⟨hone, hrest⟩
    · exact List.append_subset.2 ⟨hone, List.cons_subset.2 ⟨List.mem_cons_self .., hrest⟩⟩

end

theorem selfPause_follows {Q : Unit → Session → Prop} (now : Nat) (engine migration message : String) :
    Triple (Follows lib resolver w (.validated v))
      (idioms.selfPause (v.cluster.setStatusCondition lib
        (Condition.newMigrationFailedCondition now engine migration message))) Q fun _ => Ended lib resolver w := by
  rw [idioms.selfPause_eq]
  refine look_follows fun w' _ => ?_
  obtain ⟨htype, hnew⟩ := idioms.selfPausedCondition_fresh w'.now
  refine Triple.bind (patchStatus_follows (.selfPaused htype hnew rfl)) fun c => Triple.assume ?_
  rintro rfl
  exact Triple.bind (callOr_follows .patchCluster) fun _ => queue_follows

theorem runMigration_follows :
    Triple (Follows lib resolver w (.validated v)) (runMigration lib v w.cache.jobs)
      (fun r => Follows lib resolver w (.validated r.1)) fun _ => Ended lib resolver w := by
  refine look_follows fun w' _ => ?_
  refine Triple.bind (patchStatus_follows (.migrating rfl)) fun c => Triple.assume ?_
  rintro rfl
  dsimp only
  rcases hparts : partitionObjs Job.annotations migrationRequirementsKey v.migrationHash w.cache.jobs with
    ⟨matchingObjs, extraObjs⟩
  refine Triple.ite_join ?_ fun _ hrest => ?_
  · refine Triple.bind (Triple.each fun o ho => callOr_follows (.deleteJob (partitionObjs_extra_subset hparts ho)))
      fun _ => ?_
    cases matchingObjs with
    | nil => exact queue_follows
    | cons job _ => exact Triple.pure fun _ hs => hs
  · refine Triple.bind lift_follows fun job => Triple.assume fun hjob => ?_
    refine Triple.bind lift_follows fun name => Triple.assume fun hname => ?_
    exact Triple.bind (callOr_follows (.applyJob hjob (deref_eq_ok.1 hname))) fun _ => hrest

theorem waitForMigrations_follows (job : Job) :
    Triple (Follows lib resolver w (.validated v)) (waitForMigrations lib idioms v job)
      (fun _ => Follows lib resolver w (.validated v)) fun _ => Ended lib resolver w := by
  refine look_follows fun w' _ => ?_
  split
  · exact selfPause_follows _ _ _ _
  · exact Triple.ite (fun _ => record_follows _) fun _ => queue_follows

/-! ## The deployment -/

theorem startRollout_follows :
    Triple (Follows lib resolver w (.validated v)) (startRollout lib v.cluster)
      (fun c => Follows lib resolver w (.validated { v with cluster := c })) fun _ => Ended lib resolver w := by
  refine look_follows fun w' _ => Triple.ite (fun _ => ?_) fun _ => Triple.pure fun _ hs => hs
  refine (patchStatus_follows (.rollingOut w'.now)).conseq (fun _ hs => hs) ?_ fun _ _ hs => hs
  rintro _ s ⟨rfl, hs⟩
  exact hs

theorem checkPods_follows (d : Deployment) :
    Triple (Follows lib resolver w (.validated v)) (checkPods lib v.cluster d)
      (fun _ => Follows lib resolver w (.validated v)) fun _ => Ended lib resolver w := by
  refine look_follows fun w' _ => Triple.ite (fun _ => ?_) fun _ => Triple.pure fun _ hs => hs
  cases podError w'.cache.deploymentPods with
  | none => exact Triple.pure fun _ hs => hs
  | some message => exact patchStatus_ends (.podFailed w'.now message)

/-- The handlers that come after do not look at the cluster. -/
theorem finishRollout_follows (d : Deployment) :
    Triple (Follows lib resolver w (.validated v)) (finishRollout lib v d)
      (fun _ s => ∃ c, Follows lib resolver w (.validated { v with cluster := c }) s)
      fun _ => Ended lib resolver w := by
  refine look_follows fun w' _ => Triple.ite (fun _ => ?_) fun _ => ?_
  · exact patchStatus_ends (.waiting w'.now _)
  · refine Triple.bind (record_follows _) fun _ => ?_
    refine Triple.ite (fun _ => ?_) fun _ => Triple.pure fun _ hs => ⟨v.cluster, hs⟩
    refine Triple.bind (patchStatus_follows (.rolledOut rfl)) fun _ => ?_
    exact Triple.pure fun _ hs => ⟨_, hs.2⟩

theorem applyNewDeployment_follows {α : Type} {Q : α → Session → Prop} {newDeployment : DeploymentApply}
    (hnew : v.config.deployment lib v.migrationHash v.secretHash = .ok newDeployment) :
    Triple (Follows lib resolver w (.validated v))
      (applyNewDeployment lib v newDeployment (lib.hashDeployment newDeployment)) Q fun _ => Ended lib resolver w := by
  refine look_follows fun w' _ => ?_
  refine Triple.bind lift_follows fun name => Triple.assume fun hname => ?_
  have hnamed : newDeployment.metadata.name = some name := by simpa using deref_eq_ok.1 hname
  refine Triple.bind (call_follows (.applyDeployment hnew hnamed)) fun err => ?_
  cases err with
  | some err => exact patchStatus_ends (.applyFailed w'.now err)
  | none => exact Triple.ite (fun _ => patchStatus_ends .applied) fun _ => queue_follows

theorem ensureDeployment_follows :
    Triple (Follows lib resolver w (.validated v)) (ensureDeployment lib v w.cache.deployments)
      (fun _ s => ∃ c, Follows lib resolver w (.validated { v with cluster := c }) s)
      fun _ => Ended lib resolver w := by
  refine Triple.bind startRollout_follows fun c => ?_
  refine Triple.bind lift_follows fun newDeployment => Triple.assume fun hnew => ?_
  dsimp only at hnew ⊢
  rcases hparts : partitionObjs Deployment.annotations configKey (lib.hashDeployment newDeployment) w.cache.deployments
    with ⟨matchingObjs, extraObjs⟩
  match matchingObjs with
  | [] => exact applyNewDeployment_follows hnew
  | [d] =>
    refine Triple.bind (Triple.each fun o ho =>
      callOr_follows (.deleteDeployment (partitionObjs_extra_subset hparts ho))) fun _ => ?_
    refine Triple.bind (checkPods_follows d) fun _ => ?_
    refine Triple.bind (finishRollout_follows d) fun _ => ?_
    exact Triple.pure fun _ hs => hs
  | _ :: _ :: _ => exact queue_follows

/-! ## Cleanup -/

theorem cleanupJob_follows (d : Deployment) :
    Triple (Follows lib resolver w (.validated v)) (cleanupJob d) (fun _ => Ended lib resolver w)
      fun _ => Ended lib resolver w := by
  refine look_follows fun w' hw' => ?_
  rw [hw'.cache]
  refine Triple.ite (fun _ => ?_) fun _ => queue_follows
  refine Triple.bind (Triple.each fun j hj => Triple.ite (fun _ => ?_) fun _ => Triple.pure fun _ hs => hs) fun _ => ?_
  · exact callOr_follows (.deleteJob hj)
  refine Triple.bind (Triple.each fun p hp => ?_) fun _ => queue_follows
  cases p.labels.bind (·.lookup "job-name") with
  | none => exact Triple.pure fun _ hs => hs
  | some jobName => exact Triple.ite (fun _ => queue_follows) fun _ => callOr_follows (.deletePod hp)

/-! ## The chain -/

theorem deploymentChain_follows :
    Triple (Follows lib resolver w (.validated v)) (deploymentChain lib idioms v w.cache.deployments)
      (fun _ => Ended lib resolver w) fun _ => Ended lib resolver w := by
  have hrest : ∀ c d, Triple (Follows lib resolver w (.validated { v with cluster := c }))
      (do ensurePDB lib idioms v.config; cleanupJob d) (fun _ => Ended lib resolver w) fun _ => Ended lib resolver w :=
    fun _ d => Triple.bind ensurePDB_follows fun _ => cleanupJob_follows d
  exact Triple.bind ensureDeployment_follows fun d => ⟨fun s ⟨c, hs⟩ => (hrest c d).run s hs⟩

theorem migrateAndDeploy_follows :
    Triple (Follows lib resolver w (.validated v)) (migrateAndDeploy lib idioms v) (fun _ => Ended lib resolver w)
      fun _ => Ended lib resolver w := by
  refine look_follows fun w' hw' => ?_
  rw [hw'.cache]
  split
  · exact deploymentChain_follows
  · refine Triple.bind runMigration_follows fun r => ?_
    exact Triple.bind (waitForMigrations_follows r.2) fun _ => deploymentChain_follows
  · exact Triple.bind (waitForMigrations_follows _) fun _ => deploymentChain_follows

/-- **A reconcile follows the script.** -/
theorem reconcile_follows (lib : Libraries) (idioms : Idioms lib) (resolver : PatchMetaResolver) (w : World)
    (answers : List Answer) :
    Ended lib resolver w (exec (reconcile lib idioms resolver) { world := w, answers }).2 := by
  have hfollows : Triple (Follows lib resolver w (.unvalidated w.cache.cluster)) (reconcile lib idioms resolver)
      (fun _ => Ended lib resolver w) fun _ => Ended lib resolver w := by
    refine look_follows fun w' hw' => ?_
    rw [hw'.cache]
    refine Triple.bind pause_follows fun c => ?_
    refine Triple.bind validateSpec_follows fun _ => ?_
    refine Triple.bind adoptSecrets_follows fun _ => ?_
    refine Triple.bind (checkConfigChanged_follows _) fun c' => ?_
    refine Triple.bind validateConfig_follows fun v => ?_
    exact Triple.bind ensureComponents_follows fun _ => migrateAndDeploy_follows
  exact hfollows.always (s := { world := w, answers }) ⟨[], .start, rfl, rfl⟩

end

end SpiceDBOperator
