import SpiceDBOperator.Config.Settings
import SpiceDBOperator.Controller.Script

/-!
# What a reconcile writes

Each call of a reconcile is addressed to its own cluster (`reconcile_writes_within`): to the main resource, to a secret
that the spec names or that is in the cache, to an object that the operator generates for the cluster, or, to delete it,
to one that the caches list for it. That is read off the script, call by call (`Acts.within`).
-/

namespace SpiceDBOperator

open Golang Hoare Metadata Handler

/-- The object is the cluster in the cache, but for its status. -/
def FromCache (w : World) (c : SpiceDBCluster) : Prop := ∃ status, c = { w.cache.cluster with status }

/-- The object is that of the cluster in the cache. -/
def Named (w : World) (c : SpiceDBCluster) : Prop :=
  c.name = w.cache.cluster.name ∧ c.nameSpace = w.cache.cluster.nameSpace

/-- `NewConfig` accepts the cluster in the cache, with some status, and this is the config. -/
def AcceptedFor (lib : Libraries) (resolver : PatchMetaResolver) (w : World) (config : Config) : Prop :=
  ∃ c secrets warning, FromCache w c ∧ newConfig lib c w.operatorConfig secrets resolver = .ok (.ok config, warning)

/-- The service account of a cluster: that of the setting, or one of its own name. -/
def ClusterSpec.serviceAccountName (spec : ClusterSpec) (name : String) : String :=
  match spec.config with
  | some (.ok raw) => if (Key.serviceAccountName.pop raw).1 = "" then name else (Key.serviceAccountName.pop raw).1
  | _ => name

/-- The name a component of a cluster is generated under. -/
def SpiceDBCluster.componentName (c : SpiceDBCluster) : ComponentKind → String
  | .serviceAccount => c.spec.serviceAccountName c.name
  | .role | .service | .roleBinding => c.name
  | .podDisruptionBudget => pdbName c.name

/-- The component label of a component. -/
def ComponentKind.component : ComponentKind → String
  | .serviceAccount => componentServiceAccount
  | .role => componentRole
  | .service => componentService
  | .roleBinding => componentRoleBinding
  | .podDisruptionBudget => componentPDB

/-- The call is addressed to an object of the cluster. -/
def Call.Within (lib : Libraries) (resolver : PatchMetaResolver) (w : World) : Call → Prop
  | .storeStatus _ patch => Named w patch
  | .patchCluster patch =>
    ∃ status labels, patch = { w.cache.cluster with status, labels, resourceVersion := none } ∧
      labels = w.cache.cluster.labels.insert pausedControllerSelectorKey ""
  | .getSecret name => ∃ cs ∈ credentialSecretsForCluster w.cache.cluster.spec, name = cs.1
  | .applySecret name _ =>
    (∃ cs ∈ credentialSecretsForCluster w.cache.cluster.spec, name = cs.1) ∨ name ∈ w.cache.secretMeta
  | .applyComponent c =>
    c.name = w.cache.cluster.componentName c.kind ∧
      ∃ config metadata, AcceptedFor lib resolver w config ∧
        OperatorOwned config c.kind.component c.name metadata ∧ c.labels = metadata.labels
  | .deleteComponent kind name => ∃ c ∈ w.cache.components, c.kind = kind ∧ c.name = name
  | .applyDeployment name d config _ =>
    AcceptedFor lib resolver w config ∧ name = deploymentName w.cache.cluster.name ∧
      OperatorOwned config componentSpiceDB name d.metadata
  | .deleteDeployment name => ∃ d ∈ w.cache.deployments, d.name = name
  | .applyJob name j =>
    ∃ config, AcceptedFor lib resolver w config ∧ name = config.jobName (lib.secureMigrationConfig config.migration) ∧
      OperatorOwned config componentMigrationJob name j.metadata
  | .deleteJob name => ∃ j ∈ w.cache.jobs, j.name = name
  | .deletePod name => ∃ p ∈ w.cache.jobPods, p.name = name

/-! ## Configs of the cluster -/

section

variable {lib : Libraries} {resolver : PatchMetaResolver} {w : World} {c : SpiceDBCluster} {config : Config}

theorem FromCache.named (h : FromCache w c) : Named w c := by
  obtain ⟨status, rfl⟩ := h
  exact ⟨rfl, rfl⟩

theorem FromCache.spec_eq (h : FromCache w c) : c.spec = w.cache.cluster.spec := by
  obtain ⟨status, rfl⟩ := h
  rfl

/-- Handlers touch the status of what they have in memory, and nothing else. -/
theorem FromCache.update (h : FromCache w c) {c' : SpiceDBCluster} (hc' : c' = { c with status := c'.status }) :
    FromCache w c' := by
  obtain ⟨status, rfl⟩ := h
  exact ⟨c'.status, hc'⟩

theorem newConfig_serviceAccountName {globalConfig : OperatorConfig} {secrets : GoMap Secret} {warning : Option String}
    (h : newConfig lib c globalConfig secrets resolver = .ok (.ok config, warning)) :
    config.spice.serviceAccountName = c.spec.serviceAccountName c.name := by
  obtain ⟨_, ⟨raw, hraw, _⟩, _⟩ := newConfig_assembles h
  obtain ⟨target, creds, tried, -, rfl, -⟩ := newConfig_settings hraw h
  rw [ClusterSpec.serviceAccountName, hraw]
  rfl

theorem AcceptedFor.name_eq (h : AcceptedFor lib resolver w config) : config.spice.name = w.cache.cluster.name := by
  obtain ⟨c, secrets, warning, hc, hnew⟩ := h
  exact (newConfig_named hnew).1.trans hc.named.1

theorem AcceptedFor.serviceAccountName_eq (h : AcceptedFor lib resolver w config) :
    config.spice.serviceAccountName = w.cache.cluster.spec.serviceAccountName w.cache.cluster.name := by
  obtain ⟨c, secrets, warning, hc, hnew⟩ := h
  rw [newConfig_serviceAccountName hnew, hc.spec_eq, hc.named.1]

theorem podDisruptionBudget_owned {o : PodDisruptionBudgetApply} (h : config.podDisruptionBudget lib = .ok o) :
    OperatorOwned config componentPDB (pdbName config.spice.name) o.metadata := by
  have hparts := h
  simp only [Config.podDisruptionBudget, go_bind_ok, deref_eq_ok] at hparts
  obtain ⟨patched, hpatched, spec, hspec, selector, hselector, -⟩ := hparts
  obtain ⟨_, _, _, ho, howned, -⟩ := (config.pdb_intact_iff lib).2 ⟨patched, spec, selector, hpatched, hspec, hselector⟩
  exact Except.ok.inj (h.symm.trans ho) ▸ howned

/-- The name a component is built with. -/
def Config.componentName (config : Config) : ComponentKind → String
  | .serviceAccount => config.spice.serviceAccountName
  | .role | .service | .roleBinding => config.spice.name
  | .podDisruptionBudget => pdbName config.spice.name

theorem AcceptedFor.componentName_eq (h : AcceptedFor lib resolver w config) (kind : ComponentKind) :
    config.componentName kind = w.cache.cluster.componentName kind := by
  cases kind with
  | serviceAccount => exact h.serviceAccountName_eq
  | role | service | roleBinding => exact h.name_eq
  | podDisruptionBudget => exact congrArg pdbName h.name_eq

/-- What a builder returns carries the name and the labels of its kind. -/
theorem Builds.owned {o : ComponentApply} (h : Builds lib config o) :
    OperatorOwned config o.kind.component (config.componentName o.kind) o.metadata := by
  cases h with
  | serviceAccount h =>
    obtain ⟨_, ho, howned⟩ := config.serviceAccount_owned lib
    exact Except.ok.inj (ho.symm.trans h) ▸ howned
  | role h =>
    obtain ⟨_, ho, howned⟩ := config.role_owned lib
    exact Except.ok.inj (ho.symm.trans h) ▸ howned
  | service h =>
    obtain ⟨_, ho, howned, -⟩ := config.service_owned lib
    exact Except.ok.inj (ho.symm.trans h) ▸ howned
  | roleBinding h =>
    obtain ⟨_, ho, howned⟩ := config.roleBinding_owned lib
    exact Except.ok.inj (ho.symm.trans h) ▸ howned
  | podDisruptionBudget h => exact podDisruptionBudget_owned h

end

/-! ## Scripts -/

/-- What the handlers have in memory is of the cluster in the cache. -/
def Memory.Of (lib : Libraries) (resolver : PatchMetaResolver) (w : World) : Memory → Prop
  | .unvalidated c => FromCache w c
  | .validated v =>
    FromCache w v.cluster ∧ AcceptedFor lib resolver w v.config ∧
      v.migrationHash = lib.secureMigrationConfig v.config.migration
  | .over => True

section

variable {lib : Libraries} {idioms : Idioms lib} {resolver : PatchMetaResolver} {w : World} {m m' : Memory} {x : Call}

theorem Acts.within (h : Acts lib resolver w m x m') (hm : m.Of lib resolver w) :
    x.Within lib resolver w ∧ m'.Of lib resolver w := by
  cases h with
  | paused _ _ => exact ⟨hm.named, trivial⟩
  | resumed => exact ⟨hm.named, hm.update rfl⟩
  | rejected _ _ _ _ => exact ⟨hm.named, trivial⟩
  | getSecret hcs => exact ⟨⟨_, hm.spec_eq ▸ hcs, rfl⟩, hm⟩
  | applySecret _ hname =>
    rw [FromCache.spec_eq hm] at hname
    exact ⟨hname, hm⟩
  | missingSecret _ _ => exact ⟨hm.named, trivial⟩
  | configChanged _ _ => exact ⟨hm.named, hm.update rfl⟩
  | accepted _ hnew hhash hp =>
    subst hp
    exact ⟨hm.named, hm.update rfl, ⟨_, _, _, hm, hnew⟩, hhash⟩
  | applyComponent annotations hbuilds hname =>
    have howned := hbuilds.owned
    obtain rfl := Option.some.inj (howned.name_eq.symm.trans hname)
    exact ⟨⟨hm.2.1.componentName_eq _, _, _, hm.2.1, howned, rfl⟩, hm⟩
  | deleteComponent hc => exact ⟨⟨_, hc, rfl, rfl⟩, hm⟩
  | migrating hp =>
    subst hp
    exact ⟨hm.1.named, hm.1.update rfl, hm.2⟩
  | @applyJob v job name hjob hname =>
    obtain ⟨_, hbuilt, howned, -⟩ := v.config.migrationJob_owned lib v.migrationHash
    cases hjob.symm.trans hbuilt
    obtain rfl := Option.some.inj (howned.name_eq.symm.trans hname)
    exact ⟨⟨v.config, hm.2.1, by rw [hm.2.2], howned⟩, hm⟩
  | deleteJob hj => exact ⟨⟨_, hj, rfl⟩, hm⟩
  | selfPaused _ _ hp =>
    subst hp
    exact ⟨hm.1.named, hm.1.update rfl, hm.2⟩
  | patchCluster =>
    obtain ⟨⟨status, hstatus⟩, -⟩ := hm
    rw [hstatus]
    exact ⟨⟨status, _, rfl, rfl⟩, trivial⟩
  | rollingOut _ => exact ⟨hm.1.named, hm.1.update rfl, hm.2⟩
  | @applyDeployment v d name hd hname =>
    obtain ⟨_, hbuilt, hintact⟩ := v.config.deployment_intact lib v.migrationHash v.secretHash
    cases hd.symm.trans hbuilt
    have howned := hintact.owned
    obtain rfl := Option.some.inj (howned.name_eq.symm.trans hname)
    refine ⟨⟨hm.2.1, ?_, howned.withAnnotations lib _⟩, hm⟩
    rw [hm.2.1.name_eq]
  | applyFailed _ _ => exact ⟨hm.1.named, trivial⟩
  | applied => exact ⟨hm.1.named, trivial⟩
  | deleteDeployment hd => exact ⟨⟨_, hd, rfl⟩, hm⟩
  | podFailed _ _ => exact ⟨hm.1.named, trivial⟩
  | waiting _ _ => exact ⟨hm.1.named, trivial⟩
  | rolledOut hp =>
    subst hp
    exact ⟨hm.1.named, hm.1.update rfl, hm.2⟩
  | deletePod hp => exact ⟨⟨_, hp, rfl⟩, hm⟩

theorem Script.within {deeds : List Deed} (h : Script lib resolver w deeds m) :
    m.Of lib resolver w ∧ ∀ x ∈ deeds.filterMap Deed.call, x.Within lib resolver w := by
  induction h with
  | start => exact ⟨⟨_, rfl⟩, fun _ hx => absurd hx List.not_mem_nil⟩
  | made h hx ih | refused h hx ih =>
    obtain ⟨hwithin, hm'⟩ := hx.within ih.1
    refine ⟨hm', fun y hy => ?_⟩
    rw [List.filterMap_append, List.mem_append] at hy
    exact hy.elim (ih.2 y) fun hy => List.mem_singleton.1 hy ▸ hwithin
  | noted h e ih =>
    rw [List.filterMap_append]
    exact ⟨ih.1, fun y hy => ih.2 y ((List.mem_append.1 hy).resolve_right List.not_mem_nil)⟩
  | unchanged h _ hnew ih => exact ⟨⟨ih.1, ⟨_, _, _, ih.1, hnew⟩, rfl⟩, ih.2⟩

/-- **A reconcile writes only to its own cluster.** Whatever the API server answers and wherever the chain stops: what a
reconcile does to the world is the replay of its deeds, and each call among them, served or not, is addressed to the
cluster itself, to a secret it names or that is in the cache, to an object generated for it, with the operator's labels
and owner reference, or to one that the caches list for it, which is deleted. -/
theorem reconcile_writes_within (lib : Libraries) (idioms : Idioms lib) (resolver : PatchMetaResolver) (w : World)
    (answers : List Answer) :
    ∃ deeds, Deeds w deeds (exec (reconcile lib idioms resolver) { world := w, answers }).2 ∧
      ∀ x ∈ (exec (reconcile lib idioms resolver) { world := w, answers }).2.sent, x.Within lib resolver w := by
  obtain ⟨m, deeds, hscript, hdeeds⟩ := reconcile_follows lib idioms resolver w answers
  refine ⟨deeds, hdeeds, ?_⟩
  rw [hdeeds.sent]
  exact hscript.within.2

end

end SpiceDBOperator
