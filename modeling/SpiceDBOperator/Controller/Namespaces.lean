import Mathlib.Logic.Function.Basic
import SpiceDBOperator.Config.Neighbours
import SpiceDBOperator.Controller.Plain
import SpiceDBOperator.Controller.Writes

/-!
# Clusters that share a namespace

`World` holds what there is for one cluster. The API server keeps the objects of all clusters of a namespace together:
a write is addressed by name, and a cluster's objects are listed by their owner label, live ones and cached ones alike.
`Shared` is that, and a cluster sees the part of it that is labelled with its name (`Shared.view`). Secrets are not
labelled with a name: all clusters see them, and the labels that other clusters put on them.

Reconciles of any clusters come in any order, among the moves of others. `neighbours_run_alone`: what a cluster sees of
such a run is a run of the cluster alone, in which the reconciles of its neighbours label secrets and do nothing else.
What is proved of runs of one cluster so holds of each of many.

| here | there |
| --- | --- |
| `ownedBy`        | a lookup in the index of the owner label (`OwningClusterIndex`), in the cache and at the API server |
| `Shared.perform` | the API calls of the handlers: `Apply`, `Delete` and `PatchStatus` under a name in the namespace |
| `Happening`      | a move of the others, as in `Move` |
| `Naming`         | an assumption: which names belong to which cluster; no two share a service account |
-/

namespace SpiceDBOperator

open Golang Hoare Metadata Handler

/-! ## Labelled objects -/

/-- An object with the value of its owner label. -/
structure Owned (α : Type) where
  owner : String
  object : α

def ownedBy {α : Type} (cluster : String) (xs : List (Owned α)) : List α :=
  (xs.filter (·.owner = cluster)).map (·.object)

/-- Server-side apply of an object that carries the owner label. -/
def applyOwned {α κ : Type} [DecidableEq κ] (nameOf : α → κ) (name : κ) (owner : String) (update : α → α) (create : α)
    (xs : List (Owned α)) : List (Owned α) :=
  upsert (nameOf ·.object) name (fun x => { owner, object := update x.object }) { owner, object := create } xs

/-- Every object has a name that belongs to its owner. -/
def OwnNames {α κ : Type} (belongs : String → κ → Prop) (nameOf : α → κ) (xs : List (Owned α)) : Prop :=
  ∀ x ∈ xs, belongs x.owner (nameOf x.object)

section

variable {α κ : Type} [DecidableEq κ] {a b : String} {name : κ} {nameOf : α → κ} {xs : List (Owned α)}

omit [DecidableEq κ] in
theorem mem_ownedBy {o : α} : o ∈ ownedBy a xs ↔ { owner := a, object := o } ∈ xs := by
  simp only [ownedBy, List.mem_map, List.mem_filter, decide_eq_true_eq]
  constructor
  · rintro ⟨x, ⟨hx, rfl⟩, rfl⟩
    exact hx
  · exact fun h => ⟨_, ⟨h, rfl⟩, rfl⟩

theorem ownedBy_filter (p : α → Bool) (xs : List (Owned α)) :
    ownedBy a (xs.filter fun x => p x.object) = (ownedBy a xs).filter p := by
  simp only [ownedBy, List.filter_map, List.filter_filter, Function.comp_def, Bool.and_comm]

theorem ownedBy_delete (nameOf : α → κ) (name : κ) (xs : List (Owned α)) :
    ownedBy a (xs.filter fun x => decide (nameOf x.object ≠ name)) =
      (ownedBy a xs).filter fun o => decide (nameOf o ≠ name) :=
  ownedBy_filter (fun o => decide (nameOf o ≠ name)) xs

theorem ownedBy_map (f : α → α) (xs : List (Owned α)) :
    ownedBy a (xs.map fun x => { x with object := f x.object }) = (ownedBy a xs).map f := by
  simp only [ownedBy, List.filter_map, List.map_map, Function.comp_def]

theorem ownedBy_append (xs ys : List (Owned α)) : ownedBy a (xs ++ ys) = ownedBy a xs ++ ownedBy a ys := by
  simp [ownedBy]

theorem ownedBy_refresh {nameOf : α → String} (names : List String) (cached live : List (Owned α)) :
    ownedBy a (refresh (nameOf ·.object) names cached live) =
      refresh nameOf names (ownedBy a cached) (ownedBy a live) := by
  unfold refresh
  rw [ownedBy_append, ownedBy_filter (fun o => decide (nameOf o ∉ names)),
    ownedBy_filter (fun o => decide (nameOf o ∈ names))]

variable {belongs : String → κ → Prop}

omit [DecidableEq κ] in
/-- Nobody else has an object of that name. -/
theorem OwnNames.owner_eq (h : OwnNames belongs nameOf xs) (hinj : ∀ {a b n}, belongs a n → belongs b n → a = b)
    (hname : belongs a name) {x : Owned α} (hx : x ∈ xs) (hxname : nameOf x.object = name) : x.owner = a :=
  hinj (hxname ▸ h x hx) hname

/-- The owner sees its apply as if it were alone. -/
theorem ownedBy_applyOwned_self (howner : ∀ x ∈ xs, nameOf x.object = name → x.owner = a) (update : α → α)
    (create : α) :
    ownedBy a (applyOwned nameOf name a update create xs) = upsert nameOf name update create (ownedBy a xs) := by
  have hany : xs.any (fun x => decide (nameOf x.object = name)) =
      (ownedBy a xs).any fun o => decide (nameOf o = name) := by
    rw [Bool.eq_iff_iff, List.any_eq_true, List.any_eq_true]
    constructor
    · rintro ⟨x, hx, hname⟩
      have := howner x hx (of_decide_eq_true hname)
      exact ⟨x.object, mem_ownedBy.2 (this ▸ hx), hname⟩
    · rintro ⟨o, ho, hname⟩
      exact ⟨_, mem_ownedBy.1 ho, hname⟩
  -- an object of that name is the owner's before and after, the others are not touched
  have hmap : ownedBy a
    (xs.map fun x => if nameOf x.object = name then { owner := a, object := update x.object } else x) =
      (ownedBy a xs).map fun o => if nameOf o = name then update o else o := by
    clear hany
    induction xs with
    | nil => rfl
    | cons x rest ih =>
      replace ih := ih fun y hy => howner y (List.mem_cons_of_mem _ hy)
      rcases x with ⟨owner, object⟩
      by_cases hname : nameOf object = name
      · obtain rfl : owner = a := howner _ (List.mem_cons_self ..) hname
        simpa [ownedBy, hname] using ih
      · by_cases howned : owner = a <;> simpa [ownedBy, hname, howned] using ih
  unfold applyOwned upsert
  rw [hany]
  split
  · exact hmap
  · simp [ownedBy]

/-- Others do not see it. -/
theorem ownedBy_applyOwned_other (hb : b ≠ a) (howner : ∀ x ∈ xs, nameOf x.object = name → x.owner = a) (update : α → α)
    (create : α) : ownedBy b (applyOwned nameOf name a update create xs) = ownedBy b xs := by
  have hmap : ownedBy b
    (xs.map fun x => if nameOf x.object = name then { owner := a, object := update x.object } else x) =
      ownedBy b xs := by
    induction xs with
    | nil => rfl
    | cons x rest ih =>
      replace ih := ih fun y hy => howner y (List.mem_cons_of_mem _ hy)
      rcases x with ⟨owner, object⟩
      by_cases hname : nameOf object = name
      · obtain rfl : owner = a := howner _ (List.mem_cons_self ..) hname
        simpa [ownedBy, hname, hb.symm] using ih
      · by_cases howned : owner = b <;> simpa [ownedBy, hname, howned] using ih
  unfold applyOwned upsert
  split
  · exact hmap
  · simp [ownedBy, hb.symm]

/-- Nobody else has an object to lose. -/
theorem ownedBy_delete_other (hb : b ≠ a) (howner : ∀ x ∈ xs, nameOf x.object = name → x.owner = a) :
    (ownedBy b xs).filter (fun o => decide (nameOf o ≠ name)) = ownedBy b xs := by
  rw [List.filter_eq_self]
  intro o ho
  rw [decide_eq_true_eq]
  exact fun hname => hb (howner _ (mem_ownedBy.1 ho) hname)

theorem OwnNames.applyOwned (h : OwnNames belongs nameOf xs) (hname : belongs a name) {update : α → α} {create : α}
    (hupdate : ∀ o, nameOf (update o) = nameOf o) (hcreate : nameOf create = name) :
    OwnNames belongs nameOf (applyOwned nameOf name a update create xs) := by
  unfold SpiceDBOperator.applyOwned upsert
  split
  · refine List.forall_mem_map.2 fun x hx => ?_
    split
    · rename_i hxname
      have hxname' : nameOf (update x.object) = name := (hupdate _).trans hxname
      exact hxname'.symm ▸ hname
    · exact h x hx
  · refine List.forall_mem_append.2 ⟨h, List.forall_mem_singleton.2 ?_⟩
    rw [hcreate]
    exact hname

omit [DecidableEq κ] in
theorem OwnNames.filter (h : OwnNames belongs nameOf xs) (p : Owned α → Bool) : OwnNames belongs nameOf (xs.filter p) :=
  fun x hx => h x (List.mem_of_mem_filter hx)

omit [DecidableEq κ] in
theorem OwnNames.map (h : OwnNames belongs nameOf xs) {f : α → α} (hf : ∀ o, nameOf (f o) = nameOf o) :
    OwnNames belongs nameOf (xs.map fun x => { x with object := f x.object }) :=
  List.forall_mem_map.2 fun x hx => (hf x.object).symm ▸ h x hx

theorem OwnNames.refresh {belongs : String → String → Prop} {nameOf : α → String} {cached live : List (Owned α)}
    (hcached : OwnNames belongs nameOf cached) (hlive : OwnNames belongs nameOf live) (names : List String) :
    OwnNames belongs nameOf (refresh (nameOf ·.object) names cached live) :=
  fun x hx => (mem_refresh hx).elim (hcached x) (hlive x)

end

/-! ## The namespace -/

/-- What the API server, or the caches, hold for all clusters. -/
structure Store where
  secrets : GoMap Secret := ∅
  secretMeta : GoMap ObjectMeta := ∅
  components : List (Owned Component) := []
  deployments : List (Owned Deployment) := []
  jobs : List (Owned Job) := []
  deploymentPods : List (Owned Pod) := []
  jobPods : List (Owned Pod) := []

/-- What there is once for each cluster: the main resource, live and cached, and the records of its reconciles. -/
structure Ledger where
  live : SpiceDBCluster
  cached : SpiceDBCluster
  now : Nat := 0
  log : List Event := []
  requests : List Request := []

structure Shared where
  api : Store
  cache : Store
  operatorConfig : OperatorConfig
  ledgers : String → Ledger

/-- The objects listed for a cluster. -/
def Store.objects (st : Store) (a : String) (cluster : SpiceDBCluster) : Objects :=
  { cluster
    secrets := st.secrets
    secretMeta := st.secretMeta
    components := ownedBy a st.components
    deployments := ownedBy a st.deployments
    jobs := ownedBy a st.jobs
    deploymentPods := ownedBy a st.deploymentPods
    jobPods := ownedBy a st.jobPods }

namespace Shared

/-- What a cluster sees. -/
def view (n : Shared) (a : String) : World :=
  { api := n.api.objects a (n.ledgers a).live
    cache := n.cache.objects a (n.ledgers a).cached
    operatorConfig := n.operatorConfig
    now := (n.ledgers a).now
    log := (n.ledgers a).log
    requests := (n.ledgers a).requests }

def onLedger (n : Shared) (a : String) (f : Ledger → Ledger) : Shared :=
  { n with ledgers := Function.update n.ledgers a (f (n.ledgers a)) }

def record (n : Shared) (a : String) (e : Event) : Shared := n.onLedger a fun l => { l with log := l.log ++ [e] }

def request (n : Shared) (a : String) (r : Request) : Shared :=
  n.onLedger a fun l => { l with requests := l.requests ++ [r] }

end Shared

/-- The owner label an object is applied with. -/
def ownerOf (labels : GoMap String) : String := (labels.lookup ownerLabelKey).getD ""

/-- The main resource after a status patch, and after the patch of the self-pause handler. -/
def SpiceDBCluster.stored (cluster patch : SpiceDBCluster) : SpiceDBCluster :=
  let resourceVersion := if cluster.status = patch.status then cluster.resourceVersion else cluster.bumped
  { cluster with status := patch.status, resourceVersion }

def SpiceDBCluster.merged (cluster patch : SpiceDBCluster) : SpiceDBCluster :=
  { cluster with
    labels := mergeInto cluster.labels patch.labels, spec := patch.spec, resourceVersion := cluster.bumped }

def DeploymentApply.onto (d : DeploymentApply) (live : Deployment) : Deployment :=
  { live with
    annotations := appliedAnnotations live.annotations d.metadata.annotations
    generation := live.generation + 1
    replicas := (d.spec.bind (·.replicas)).or live.replicas }

def JobApply.onto (j : JobApply) (live : Job) : Job :=
  { live with annotations := appliedAnnotations live.annotations j.metadata.annotations }

/-- A call of the reconcile of `a`, by what it is addressed to. -/
def Shared.perform (a : String) (n : Shared) : Call → Shared
  | .storeStatus _ patch =>
    (n.onLedger patch.name fun l => { l with live := l.live.stored patch }).record a
      (.statusStored patch.spec patch.status)
  | .patchCluster patch => n.onLedger patch.name fun l => { l with live := l.live.merged patch }
  | .getSecret _ => n
  | .applySecret name metadata => { n with api.secretMeta := n.api.secretMeta.insert name metadata }
  | .applyComponent c =>
    { n with api.components := applyOwned Component.key c.key (ownerOf c.labels) c.onto c n.api.components }
  | .deleteComponent kind name =>
    { n with api.components := n.api.components.filter (·.object.key ≠ (kind, name)) }
  | .applyDeployment name d config status =>
    ({ n with api.deployments := applyOwned Deployment.name name (ownerOf d.metadata.labels) d.onto (d.onto { name })
                n.api.deployments } : Shared).record a
      (.deploymentApplied ((d.metadata.annotations.lookup migrationRequirementsKey).getD "") config status)
  | .deleteDeployment name =>
    ({ n with api.deployments := n.api.deployments.filter (·.object.name ≠ name) } : Shared).request a
      (.deleteDeployment name)
  | .applyJob name j =>
    { n with api.jobs := applyOwned Job.name name (ownerOf j.metadata.labels) j.onto (j.onto { name }) n.api.jobs }
  | .deleteJob name =>
    ({ n with api.jobs := n.api.jobs.filter (·.object.name ≠ name) } : Shared).request a (.deleteJob name)
  | .deletePod name =>
    ({ n with api.jobPods := n.api.jobPods.filter (·.object.name ≠ name) } : Shared).request a (.deletePod name)

def Shared.undergo (a : String) (n : Shared) : Deed → Shared
  | .made x => n.perform a x
  | .refused _ => n
  | .noted e => n.record a e

/-! ## Names that belong to clusters -/

/-- A name belongs to one cluster, and the names the operator makes belong to the cluster they are made of. -/
structure Naming where
  deployment : String → String → Prop
  job : String → String → Prop
  pod : String → String → Prop
  component : String → ComponentKind × String → Prop
  deployment_inj : ∀ {a b name}, deployment a name → deployment b name → a = b
  job_inj : ∀ {a b name}, job a name → job b name → a = b
  pod_inj : ∀ {a b name}, pod a name → pod b name → a = b
  component_inj : ∀ {a b key}, component a key → component b key → a = b
  deploymentName_mem : ∀ a, deployment a (deploymentName a)
  jobName_mem : ∀ (c : Config) {hash : String}, '-' ∉ hash.toList → job c.spice.name (c.jobName hash)
  /-- All components but the service account, whose name is up to the spec. -/
  componentName_mem : ∀ (c : SpiceDBCluster) {kind}, kind ≠ .serviceAccount →
    component c.name (kind, c.componentName kind)

/-- The names the operator and the job controller give: a pod has the name of its job, with a suffix. -/
def Naming.canonical : Naming where
  deployment a name := name = deploymentName a
  job a name := ∃ hash, '-' ∉ hash.toList ∧ name = a ++ "-migrate-" ++ hash
  pod a name := ∃ hash suffix, '-' ∉ hash.toList ∧ '-' ∉ suffix.toList ∧
    name = a ++ "-migrate-" ++ hash ++ "-" ++ suffix
  component a key := key.2 = if key.1 = .podDisruptionBudget then pdbName a else a
  deployment_inj := by
    rintro a b _ rfl h
    exact String.append_left_inj _ |>.1 h
  job_inj := by
    rintro a b _ ⟨hash, hhash, rfl⟩ ⟨hash', hhash', h⟩
    exact append_migrate_inj hhash hhash' h
  pod_inj := by
    rintro a b _ ⟨hash, suffix, hhash, hsuffix, rfl⟩ ⟨hash', suffix', hhash', hsuffix', h⟩
    refine append_migrate_inj hhash hhash' (String.toList_injective ?_)
    refine append_separator_inj hsuffix hsuffix' ?_
    simpa using congrArg String.toList h
  component_inj := by
    intro a b key ha hb
    have heq := ha.symm.trans hb
    split at heq
    · exact String.append_left_inj _ |>.1 heq
    · exact heq
  deploymentName_mem _ := rfl
  jobName_mem c hash hhash := by
    refine ⟨_, ?_, rfl⟩
    rw [String.toList_ofList]
    exact fun hmem => hhash (List.mem_of_mem_take hmem)
  componentName_mem c kind hkind := by
    cases kind with
    | serviceAccount => exact absurd rfl hkind
    | role | service | roleBinding | podDisruptionBudget => rfl

structure Store.Apart (N : Naming) (st : Store) : Prop where
  deployments : OwnNames N.deployment Deployment.name st.deployments
  jobs : OwnNames N.job Job.name st.jobs
  jobPods : OwnNames N.pod Pod.name st.jobPods
  components : OwnNames N.component Component.key st.components

/-- The main resource of a cluster, whose service account belongs to it. -/
structure SpiceDBCluster.IsOf (N : Naming) (a : String) (c : SpiceDBCluster) : Prop where
  name_eq : c.name = a
  serviceAccount : N.component a (.serviceAccount, c.spec.serviceAccountName a)

structure Shared.Apart (N : Naming) (n : Shared) : Prop where
  api : n.api.Apart N
  cache : n.cache.Apart N
  live : ∀ a, (n.ledgers a).live.IsOf N a
  cached : ∀ a, (n.ledgers a).cached.IsOf N a

/-- The call is addressed to what belongs to the cluster. -/
def Call.For (N : Naming) (a : String) : Call → Prop
  | .storeStatus _ patch => patch.name = a
  | .patchCluster patch => patch.IsOf N a
  | .getSecret _ | .applySecret _ _ => True
  | .applyComponent c => N.component a c.key ∧ ownerOf c.labels = a
  | .deleteComponent kind name => N.component a (kind, name)
  | .applyDeployment name d _ _ => N.deployment a name ∧ ownerOf d.metadata.labels = a
  | .deleteDeployment name => N.deployment a name
  | .applyJob name j => N.job a name ∧ ownerOf j.metadata.labels = a
  | .deleteJob name => N.job a name
  | .deletePod name => N.pod a name

section

variable {N : Naming} {n : Shared} {a b : String}

theorem OperatorOwned.owner_label {c : Config} {component name : String} {m : ObjectMeta}
    (h : OperatorOwned c component name m) : ownerOf m.labels = c.spice.name := by
  rw [ownerOf, h.labels _ _ (labelsForComponent_owner _ _)]
  rfl

/-- The components of a cluster belong to it. -/
theorem SpiceDBCluster.IsOf.component_mem {c : SpiceDBCluster} (h : c.IsOf N a) (kind : ComponentKind) :
    N.component a (kind, c.componentName kind) := by
  obtain ⟨rfl, hserviceAccount⟩ := h
  by_cases hkind : kind = .serviceAccount
  · rw [hkind]
    exact hserviceAccount
  · exact N.componentName_mem c hkind

/-- What a reconcile sends is addressed to what belongs to its cluster. -/
theorem Call.Within.for {lib : Libraries} {resolver : PatchMetaResolver}
    (hhash : ∀ mc, '-' ∉ (lib.secureMigrationConfig mc).toList) (h : n.Apart N) {x : Call}
    (hx : x.Within lib resolver (n.view a)) : x.For N a := by
  have hcached : (n.view a).cache.cluster.name = a := (h.cached a).name_eq
  cases x with
  | storeStatus _ patch => exact hx.1.trans hcached
  | patchCluster patch =>
    obtain ⟨status, labels, rfl, -⟩ := hx
    exact ⟨hcached, (h.cached a).serviceAccount⟩
  | getSecret | applySecret => trivial
  | applyComponent c =>
    obtain ⟨hname, config, metadata, haccepted, howned, hlabels⟩ := hx
    have hmem := (h.cached a).component_mem c.kind
    refine ⟨?_, ?_⟩
    · rw [Component.key, hname]
      exact hmem
    · rw [hlabels, howned.owner_label, haccepted.name_eq, hcached]
  | deleteComponent kind name =>
    obtain ⟨c, hc, rfl, rfl⟩ := hx
    exact h.cache.components _ (mem_ownedBy.1 hc)
  | applyDeployment name d config status =>
    obtain ⟨haccepted, rfl, howned⟩ := hx
    rw [hcached] at howned ⊢
    exact ⟨N.deploymentName_mem _, howned.owner_label.trans (haccepted.name_eq.trans hcached)⟩
  | deleteDeployment name =>
    obtain ⟨d, hd, rfl⟩ := hx
    exact h.cache.deployments _ (mem_ownedBy.1 hd)
  | applyJob name j =>
    obtain ⟨config, haccepted, rfl, howned⟩ := hx
    have ha : config.spice.name = a := haccepted.name_eq.trans hcached
    exact ⟨ha ▸ N.jobName_mem config (hhash _), howned.owner_label.trans ha⟩
  | deleteJob name =>
    obtain ⟨j, hj, rfl⟩ := hx
    exact h.cache.jobs _ (mem_ownedBy.1 hj)
  | deletePod name =>
    obtain ⟨p, hp, rfl⟩ := hx
    exact h.cache.jobPods _ (mem_ownedBy.1 hp)

/-! ## One write -/

theorem ledgers_onLedger_self (n : Shared) (a : String) (f : Ledger → Ledger) :
    (n.onLedger a f).ledgers a = f (n.ledgers a) := Function.update_self ..

theorem ledgers_onLedger_other (n : Shared) (f : Ledger → Ledger) (hb : b ≠ a) :
    (n.onLedger a f).ledgers b = n.ledgers b := Function.update_of_ne hb ..

theorem view_onLedger_other (n : Shared) (f : Ledger → Ledger) (hb : b ≠ a) : (n.onLedger a f).view b = n.view b := by
  unfold Shared.view
  rw [ledgers_onLedger_other n f hb]
  rfl

theorem view_record_self (n : Shared) (a : String) (e : Event) : (n.record a e).view a = (n.view a).record e := by
  unfold Shared.view Shared.record
  rw [ledgers_onLedger_self]
  rfl

theorem view_request_self (n : Shared) (a : String) (r : Request) : (n.request a r).view a = (n.view a).request r := by
  unfold Shared.view Shared.request
  rw [ledgers_onLedger_self]
  rfl

theorem view_live_self (n : Shared) (a : String) (f : SpiceDBCluster → SpiceDBCluster) :
    (n.onLedger a fun l => { l with live := f l.live }).view a =
      { n.view a with api.cluster := f (n.view a).api.cluster } := by
  unfold Shared.view
  rw [ledgers_onLedger_self]
  rfl

/-- The cluster sees its call as if it were alone. -/
theorem view_perform_self (h : n.Apart N) {x : Call} (hx : x.For N a) :
    (n.perform a x).view a = (n.view a).perform x := by
  cases x with
  | storeStatus _ patch =>
    obtain rfl : patch.name = a := hx
    exact (view_record_self _ _ _).trans (congrArg (World.record · _) (view_live_self n _ (·.stored patch)))
  | patchCluster patch =>
    obtain rfl : patch.name = a := hx.name_eq
    exact view_live_self n _ (·.merged patch)
  | getSecret | applySecret => rfl
  | applyComponent c =>
    obtain ⟨hname, howner⟩ := hx
    rw [Shared.perform, howner]
    refine congrArg (fun components => { n.view a with api.components := components }) ?_
    exact ownedBy_applyOwned_self (fun _ hy => h.api.components.owner_eq N.component_inj hname hy) _ _
  | deleteComponent kind name =>
    refine congrArg (fun components => { n.view a with api.components := components }) ?_
    exact ownedBy_delete _ _ _
  | applyDeployment name d config status =>
    obtain ⟨hname, howner⟩ := hx
    refine (view_record_self _ _ _).trans (congrArg (World.record · _) ?_)
    rw [howner]
    refine congrArg (fun deployments => { n.view a with api.deployments := deployments }) ?_
    exact ownedBy_applyOwned_self (fun _ hy => h.api.deployments.owner_eq N.deployment_inj hname hy) _ _
  | deleteDeployment name =>
    refine (view_request_self _ _ _).trans (congrArg (World.request · _) ?_)
    refine congrArg (fun deployments => { n.view a with api.deployments := deployments }) ?_
    exact ownedBy_delete _ _ _
  | applyJob name j =>
    obtain ⟨hname, howner⟩ := hx
    rw [Shared.perform, howner]
    refine congrArg (fun jobs => { n.view a with api.jobs := jobs }) ?_
    exact ownedBy_applyOwned_self (fun _ hy => h.api.jobs.owner_eq N.job_inj hname hy) _ _
  | deleteJob name =>
    refine (view_request_self _ _ _).trans (congrArg (World.request · _) ?_)
    refine congrArg (fun jobs => { n.view a with api.jobs := jobs }) ?_
    exact ownedBy_delete _ _ _
  | deletePod name =>
    refine (view_request_self _ _ _).trans (congrArg (World.request · _) ?_)
    refine congrArg (fun jobPods => { n.view a with api.jobPods := jobPods }) ?_
    exact ownedBy_delete _ _ _

/-- The world with other labels on the secrets. -/
def World.withSecretMeta (w : World) (secretMeta : GoMap ObjectMeta) : World := { w with api.secretMeta := secretMeta }

/-- The others see of it what it does to the labels of secrets. -/
theorem view_perform_other (h : n.Apart N) (hb : b ≠ a) {x : Call} (hx : x.For N a) :
    (n.perform a x).view b = (n.view b).withSecretMeta (n.perform a x).api.secretMeta := by
  cases x with
  | storeStatus _ patch =>
    obtain rfl : patch.name = a := hx
    exact (view_onLedger_other _ _ hb).trans (view_onLedger_other _ _ hb)
  | patchCluster patch =>
    obtain rfl : patch.name = a := hx.name_eq
    exact view_onLedger_other _ _ hb
  | getSecret | applySecret => rfl
  | applyComponent c =>
    obtain ⟨hname, howner⟩ := hx
    rw [Shared.perform, howner]
    refine congrArg (fun components => { n.view b with api.components := components }) ?_
    exact ownedBy_applyOwned_other hb (fun _ hy => h.api.components.owner_eq N.component_inj hname hy) _ _
  | deleteComponent kind name =>
    refine congrArg (fun components => { n.view b with api.components := components }) ?_
    refine (ownedBy_delete _ _ _).trans ?_
    exact ownedBy_delete_other hb fun _ hy => h.api.components.owner_eq N.component_inj hx hy
  | applyDeployment name d config status =>
    obtain ⟨hname, howner⟩ := hx
    refine (view_onLedger_other _ _ hb).trans ?_
    rw [howner]
    refine congrArg (fun deployments => { n.view b with api.deployments := deployments }) ?_
    exact ownedBy_applyOwned_other hb (fun _ hy => h.api.deployments.owner_eq N.deployment_inj hname hy) _ _
  | deleteDeployment name =>
    refine (view_onLedger_other _ _ hb).trans ?_
    refine congrArg (fun deployments => { n.view b with api.deployments := deployments }) ?_
    rw [ownedBy_delete]
    exact ownedBy_delete_other hb fun _ hy => h.api.deployments.owner_eq N.deployment_inj hx hy
  | applyJob name j =>
    obtain ⟨hname, howner⟩ := hx
    rw [Shared.perform, howner]
    refine congrArg (fun jobs => { n.view b with api.jobs := jobs }) ?_
    exact ownedBy_applyOwned_other hb (fun _ hy => h.api.jobs.owner_eq N.job_inj hname hy) _ _
  | deleteJob name =>
    refine (view_onLedger_other _ _ hb).trans ?_
    refine congrArg (fun jobs => { n.view b with api.jobs := jobs }) ?_
    rw [ownedBy_delete]
    exact ownedBy_delete_other hb fun _ hy => h.api.jobs.owner_eq N.job_inj hx hy
  | deletePod name =>
    refine (view_onLedger_other _ _ hb).trans ?_
    refine congrArg (fun jobPods => { n.view b with api.jobPods := jobPods }) ?_
    rw [ownedBy_delete]
    exact ownedBy_delete_other hb fun _ hy => h.api.jobPods.owner_eq N.pod_inj hx hy

theorem Shared.Apart.onLedger (h : n.Apart N) {f : Ledger → Ledger} (hlive : (f (n.ledgers a)).live.IsOf N a)
    (hcached : (f (n.ledgers a)).cached.IsOf N a) : (n.onLedger a f).Apart N := by
  refine ⟨h.api, h.cache, fun b => ?_, fun b => ?_⟩ <;> by_cases hb : b = a
  · subst hb
    rw [ledgers_onLedger_self]
    exact hlive
  · rw [ledgers_onLedger_other n f hb]
    exact h.live b
  · subst hb
    rw [ledgers_onLedger_self]
    exact hcached
  · rw [ledgers_onLedger_other n f hb]
    exact h.cached b

theorem Shared.Apart.record (h : n.Apart N) (a : String) (e : Event) : (n.record a e).Apart N :=
  h.onLedger (h.live a) (h.cached a)

theorem Shared.Apart.request (h : n.Apart N) (a : String) (r : Request) : (n.request a r).Apart N :=
  h.onLedger (h.live a) (h.cached a)

theorem Shared.Apart.perform (h : n.Apart N) {x : Call} (hx : x.For N a) : (n.perform a x).Apart N := by
  cases x with
  | storeStatus _ patch =>
    refine Shared.Apart.record ?_ a _
    have hlive := h.live patch.name
    exact h.onLedger ⟨hlive.name_eq, hlive.serviceAccount⟩ (h.cached patch.name)
  | patchCluster patch =>
    obtain rfl : patch.name = a := hx.name_eq
    rw [Shared.perform]
    exact h.onLedger ⟨(h.live patch.name).name_eq, hx.serviceAccount⟩ (h.cached patch.name)
  | getSecret | applySecret => exact { h with api := { h.api with } }
  | applyComponent c =>
    refine { h with api := { h.api with components := ?_ } }
    exact h.api.components.applyOwned (hx.2.symm ▸ hx.1) (fun _ => rfl) rfl
  | deleteComponent kind name => exact { h with api := { h.api with components := h.api.components.filter _ } }
  | applyDeployment name d config status =>
    refine Shared.Apart.record ?_ a _
    refine { h with api := { h.api with deployments := ?_ } }
    exact h.api.deployments.applyOwned (hx.2.symm ▸ hx.1) (fun _ => rfl) rfl
  | deleteDeployment name =>
    refine Shared.Apart.request ?_ a _
    exact { h with api := { h.api with deployments := h.api.deployments.filter _ } }
  | applyJob name j =>
    refine { h with api := { h.api with jobs := ?_ } }
    exact h.api.jobs.applyOwned (hx.2.symm ▸ hx.1) (fun _ => rfl) rfl
  | deleteJob name =>
    refine Shared.Apart.request ?_ a _
    exact { h with api := { h.api with jobs := h.api.jobs.filter _ } }
  | deletePod name =>
    refine Shared.Apart.request ?_ a _
    exact { h with api := { h.api with jobPods := h.api.jobPods.filter _ } }

/-! ## The deeds of a reconcile -/

/-- Deeds of one cluster, one after the other. -/
theorem foldl_undergo {deeds : List Deed} (h : n.Apart N) (hdeeds : ∀ x ∈ deeds.filterMap Deed.call, x.For N a) :
    (deeds.foldl (Shared.undergo a) n).view a = deeds.foldl World.undergo (n.view a) ∧
      (∀ b, b ≠ a → (deeds.foldl (Shared.undergo a) n).view b =
        (n.view b).withSecretMeta (deeds.foldl (Shared.undergo a) n).api.secretMeta) ∧
      (deeds.foldl (Shared.undergo a) n).Apart N := by
  induction deeds generalizing n with
  | nil => exact ⟨rfl, fun _ _ => rfl, h⟩
  | cons deed rest ih =>
    cases deed with
    | made x =>
      have hx := hdeeds x (List.mem_cons_self ..)
      obtain ⟨hself, hother, hapart⟩ := ih (h.perform hx) fun y hy => hdeeds y (List.mem_cons_of_mem _ hy)
      refine ⟨?_, fun b hb => ?_, hapart⟩
      · rw [List.foldl_cons, Shared.undergo, hself, view_perform_self h hx]
        rfl
      · rw [List.foldl_cons, Shared.undergo, hother b hb, view_perform_other h hb hx]
        rfl
    | refused x => exact ih h fun y hy => hdeeds y (List.mem_cons_of_mem _ hy)
    | noted e =>
      obtain ⟨hself, hother, hapart⟩ := ih (h.record a e) hdeeds
      refine ⟨?_, fun b hb => ?_, hapart⟩
      · rw [List.foldl_cons, Shared.undergo, hself, view_record_self]
        rfl
      · rw [List.foldl_cons, Shared.undergo, hother b hb]
        exact congrArg (World.withSecretMeta · _) (view_onLedger_other _ _ hb)

end

/-! ## Moves -/

/-- A move of the others, as in `Move`. Informers and the other controllers go by names, whoever the owner. -/
inductive Happening where
  | editCluster (cluster : String) (labels : GoMap String) (spec : ClusterSpec)
  | putSecrets (secrets : GoMap Secret)
  | putSecretMeta (secretMeta : GoMap ObjectMeta)
  | putOperatorConfig (operatorConfig : OperatorConfig)
  | updateDeployment (name : String) (generation : Int) (replicas : Option Int) (status : DeploymentStatus)
  | deleteDeployment (name : String)
  | updateJob (name : String) (conditions : List JobCondition)
  | deleteJob (name : String)
  | putPods (deploymentPods jobPods : List (Owned Pod))
  | putComponents (components : List (Owned Component))
  | syncCluster (cluster : String)
  | syncSecrets
  | syncComponents
  | syncDeployments (names : List String)
  | syncJobs (names : List String)
  | syncPods

inductive SharedMove where
  | reconcile (cluster : String) (now : Nat) (answers : List Answer)
  | outside (happening : Happening)

namespace Shared

/-- A deletion by others is on record for every cluster, as it is for a cluster alone. -/
def requestAll (n : Shared) (r : Request) : Shared :=
  { n with ledgers := fun a => { n.ledgers a with requests := (n.ledgers a).requests ++ [r] } }

def happen (n : Shared) : Happening → Shared
  | .editCluster a labels spec =>
    n.onLedger a fun l =>
      { l with live := { l.live with
          labels, spec, generation := l.live.generation + 1, resourceVersion := l.live.bumped } }
  | .putSecrets secrets => { n with api.secrets := secrets }
  | .putSecretMeta secretMeta => { n with api.secretMeta := secretMeta }
  | .putOperatorConfig operatorConfig => { n with operatorConfig }
  | .updateDeployment name generation replicas status =>
    { n with api.deployments := n.api.deployments.map fun x =>
        { x with object := if x.object.name = name then { x.object with generation, replicas, status } else x.object } }
  | .deleteDeployment name =>
    ({ n with api.deployments := n.api.deployments.filter (·.object.name ≠ name) } : Shared).requestAll
      (.deleteDeployment name)
  | .updateJob name conditions =>
    { n with api.jobs := n.api.jobs.map fun x =>
        { x with object := if x.object.name = name then { x.object with conditions } else x.object } }
  | .deleteJob name =>
    ({ n with api.jobs := n.api.jobs.filter (·.object.name ≠ name) } : Shared).requestAll (.deleteJob name)
  | .putPods deploymentPods jobPods => { n with api.deploymentPods := deploymentPods, api.jobPods := jobPods }
  | .putComponents components => { n with api.components := components }
  | .syncCluster a => n.onLedger a fun l => { l with cached := l.live }
  | .syncSecrets => { n with cache.secrets := n.api.secrets, cache.secretMeta := n.api.secretMeta }
  | .syncComponents => { n with cache.components := n.api.components }
  | .syncDeployments names =>
    { n with cache.deployments := refresh (·.object.name) names n.cache.deployments n.api.deployments }
  | .syncJobs names => { n with cache.jobs := refresh (·.object.name) names n.cache.jobs n.api.jobs }
  | .syncPods => { n with cache.deploymentPods := n.api.deploymentPods, cache.jobPods := n.api.jobPods }

/-- The clock of the reconcile. -/
def clocked (n : Shared) (a : String) (now : Nat) : Shared := n.onLedger a fun l => { l with now }

/-- A reconcile computes what it does from what its cluster sees; it is done where all clusters see it. -/
inductive Step (lib : Libraries) (idioms : Idioms lib) (resolver : PatchMetaResolver) (n : Shared) :
    SharedMove → Shared → Prop
  | reconcile {a : String} {now : Nat} {answers : List Answer} {deeds : List Deed}
      (h : Deeds ((n.clocked a now).view a) deeds
        (exec (SpiceDBOperator.reconcile lib idioms resolver) { world := (n.clocked a now).view a, answers }).2) :
      Step lib idioms resolver n (.reconcile a now answers) (deeds.foldl (undergo a) (n.clocked a now))
  | outside (happening : Happening) : Step lib idioms resolver n (.outside happening) (n.happen happening)

inductive Runs (lib : Libraries) (idioms : Idioms lib) (resolver : PatchMetaResolver) :
    Shared → List SharedMove → Shared → Prop
  | nil (n : Shared) : Runs lib idioms resolver n [] n
  | cons {n n' n'' : Shared} {move : SharedMove} {rest : List SharedMove} (hstep : n.Step lib idioms resolver move n')
      (hrest : Runs lib idioms resolver n' rest n'') : Runs lib idioms resolver n (move :: rest) n''

end Shared

/-- The move as the cluster sees it. -/
def Happening.seenBy (a : String) : Happening → List Move
  | .editCluster b labels spec => if b = a then [.editCluster labels spec] else []
  | .putSecrets secrets => [.putSecrets secrets]
  | .putSecretMeta secretMeta => [.putSecretMeta secretMeta]
  | .putOperatorConfig operatorConfig => [.putOperatorConfig operatorConfig]
  | .updateDeployment name generation replicas status => [.updateDeployment name generation replicas status]
  | .deleteDeployment name => [.deleteDeployment name]
  | .updateJob name conditions => [.updateJob name conditions]
  | .deleteJob name => [.deleteJob name]
  | .putPods deploymentPods jobPods => [.putPods (ownedBy a deploymentPods) (ownedBy a jobPods)]
  | .putComponents components => [.putComponents (ownedBy a components)]
  | .syncCluster b => if b = a then [.syncCluster] else []
  | .syncSecrets => [.syncSecrets]
  | .syncComponents => [.syncComponents]
  | .syncDeployments names => [.syncDeployments names]
  | .syncJobs names => [.syncJobs names]
  | .syncPods => [.syncPods]

/-- What the cluster sees of a move: of the reconciles of others, the labels they leave on secrets. -/
def SharedMove.SeenAs (a : String) : SharedMove → List Move → Prop
  | .reconcile b now answers, seen =>
    if b = a then seen = [.reconcile now answers] else ∃ secretMeta, seen = [.putSecretMeta secretMeta]
  | .outside happening, seen => seen = happening.seenBy a

/-- What the cluster sees of a run. -/
inductive Sees (a : String) : List SharedMove → List Move → Prop
  | nil : Sees a [] []
  | cons {move : SharedMove} {moves : List SharedMove} {seen rest : List Move} (h : move.SeenAs a seen)
      (hrest : Sees a moves rest) : Sees a (move :: moves) (seen ++ rest)

/-- New objects have names that belong to their owners, and so has the service account of a new spec. -/
def SharedMove.Apart (N : Naming) : SharedMove → Prop
  | .outside (.putPods _ jobPods) => OwnNames N.pod Pod.name jobPods
  | .outside (.putComponents components) => OwnNames N.component Component.key components
  | .outside (.editCluster a _ spec) => N.component a (.serviceAccount, spec.serviceAccountName a)
  | _ => True

section

variable (lib : Libraries) (idioms : Idioms lib) (resolver : PatchMetaResolver) {N : Naming} {n n' : Shared}

theorem view_happen (n : Shared) (happening : Happening) (a : String) :
    (n.happen happening).view a = run lib idioms resolver (n.view a) (happening.seenBy a) := by
  cases happening with
  | editCluster b labels spec =>
    by_cases hb : b = a
    · subst hb
      simp only [Happening.seenBy, if_pos]
      unfold Shared.happen Shared.view
      rw [ledgers_onLedger_self]
      rfl
    · simp only [Happening.seenBy, if_neg hb]
      exact view_onLedger_other _ _ (Ne.symm hb)
  | syncCluster b =>
    by_cases hb : b = a
    · subst hb
      simp only [Happening.seenBy, if_pos]
      unfold Shared.happen Shared.view
      rw [ledgers_onLedger_self]
      rfl
    · simp only [Happening.seenBy, if_neg hb]
      exact view_onLedger_other _ _ (Ne.symm hb)
  | updateDeployment name generation replicas status =>
    refine congrArg (fun deployments => { n.view a with api.deployments := deployments }) ?_
    exact ownedBy_map (fun d : Deployment => if d.name = name then { d with generation, replicas, status } else d) _
  | deleteDeployment name =>
    refine congrArg (fun deployments =>
      ({ n.view a with api.deployments := deployments } : World).request (.deleteDeployment name)) ?_
    exact ownedBy_delete _ _ _
  | updateJob name conditions =>
    refine congrArg (fun jobs => { n.view a with api.jobs := jobs }) ?_
    exact ownedBy_map (fun j : Job => if j.name = name then { j with conditions } else j) _
  | deleteJob name =>
    refine congrArg (fun jobs => ({ n.view a with api.jobs := jobs } : World).request (.deleteJob name)) ?_
    exact ownedBy_delete _ _ _
  | syncDeployments names =>
    exact congrArg (fun deployments => { n.view a with cache.deployments := deployments }) (ownedBy_refresh _ _ _)
  | syncJobs names => exact congrArg (fun jobs => { n.view a with cache.jobs := jobs }) (ownedBy_refresh _ _ _)
  | putSecrets | putSecretMeta | putOperatorConfig | putPods | putComponents | syncSecrets | syncComponents
  | syncPods => rfl

theorem Shared.Apart.happen (h : n.Apart N) {happening : Happening} (hmove : (SharedMove.outside happening).Apart N) :
    (n.happen happening).Apart N := by
  cases happening with
  | editCluster a labels spec =>
    rw [Shared.happen]
    exact h.onLedger ⟨(h.live a).name_eq, hmove⟩ (h.cached a)
  | syncCluster a =>
    rw [Shared.happen]
    exact h.onLedger (h.live a) (h.live a)
  | updateDeployment name generation replicas status =>
    refine { h with api := { h.api with deployments := ?_ } }
    refine h.api.deployments.map (f := fun d => if d.name = name then { d with generation, replicas, status } else d)
      fun d => ?_
    split <;> rfl
  | deleteDeployment name => exact { h with api := { h.api with deployments := h.api.deployments.filter _ } }
  | updateJob name conditions =>
    refine { h with api := { h.api with jobs := ?_ } }
    refine h.api.jobs.map (f := fun j => if j.name = name then { j with conditions } else j) fun j => ?_
    split <;> rfl
  | deleteJob name => exact { h with api := { h.api with jobs := h.api.jobs.filter _ } }
  | putPods deploymentPods jobPods => exact { h with api := { h.api with jobPods := hmove } }
  | putComponents components => exact { h with api := { h.api with components := hmove } }
  | syncDeployments names =>
    exact { h with cache := { h.cache with deployments := h.cache.deployments.refresh h.api.deployments names } }
  | syncJobs names => exact { h with cache := { h.cache with jobs := h.cache.jobs.refresh h.api.jobs names } }
  | syncPods => exact { h with cache := { h.cache with jobPods := h.api.jobPods } }
  | syncComponents => exact { h with cache := { h.cache with components := h.api.components } }
  | putSecrets | putSecretMeta => exact { h with api := { h.api with } }
  | putOperatorConfig => exact { h with }
  | syncSecrets => exact { h with cache := { h.cache with } }

theorem view_clocked_self (n : Shared) (a : String) (now : Nat) : (n.clocked a now).view a = { n.view a with now } := by
  unfold Shared.view Shared.clocked
  rw [ledgers_onLedger_self]
  rfl

variable {lib idioms resolver}

theorem Shared.Apart.clocked (h : n.Apart N) (a : String) (now : Nat) : (n.clocked a now).Apart N :=
  h.onLedger (h.live a) (h.cached a)

/-- The deeds of a reconcile are addressed to what belongs to its cluster. -/
theorem deeds_for (hhash : ∀ mc, '-' ∉ (lib.secureMigrationConfig mc).toList) (h : n.Apart N) {a : String}
    {answers : List Answer} {deeds : List Deed}
    (hdeeds : Deeds (n.view a) deeds (exec (reconcile lib idioms resolver) { world := n.view a, answers }).2) :
    ∀ x ∈ deeds.filterMap Deed.call, x.For N a := by
  obtain ⟨m, deeds', hscript, hdeeds'⟩ := reconcile_follows lib idioms resolver (n.view a) answers
  intro x hx
  rw [← hdeeds.sent, hdeeds'.sent] at hx
  exact (hscript.within.2 x hx).for hhash h

/-- One move, as a cluster sees it. -/
theorem Shared.Step.seen {move : SharedMove} (hhash : ∀ mc, '-' ∉ (lib.secureMigrationConfig mc).toList)
    (h : n.Apart N) (hstep : n.Step lib idioms resolver move n') (a : String) :
    ∃ seen, move.SeenAs a seen ∧ n'.view a = run lib idioms resolver (n.view a) seen := by
  cases hstep with
  | outside happening => exact ⟨_, rfl, view_happen lib idioms resolver n happening a⟩
  | @reconcile b now answers deeds hdeeds =>
    obtain ⟨hself, hother, -⟩ := foldl_undergo (h.clocked b now) (deeds_for hhash (h.clocked b now) hdeeds)
    by_cases hb : b = a
    · subst hb
      refine ⟨[.reconcile now answers], by simp [SharedMove.SeenAs], ?_⟩
      rw [hself, ← hdeeds.world, view_clocked_self]
      rfl
    · refine ⟨[.putSecretMeta (deeds.foldl (undergo b) (n.clocked b now)).api.secretMeta], ?_, ?_⟩
      · simp [SharedMove.SeenAs, hb]
      rw [hother a (Ne.symm hb)]
      exact congrArg (World.withSecretMeta · _) (view_onLedger_other _ _ (Ne.symm hb))

theorem Shared.Step.apart {move : SharedMove} (hhash : ∀ mc, '-' ∉ (lib.secureMigrationConfig mc).toList)
    (h : n.Apart N) (hmove : move.Apart N) (hstep : n.Step lib idioms resolver move n') : n'.Apart N := by
  cases hstep with
  | outside happening => exact h.happen hmove
  | @reconcile b now answers deeds hdeeds =>
    exact (foldl_undergo (h.clocked b now) (deeds_for hhash (h.clocked b now) hdeeds)).2.2

/-- A reconcile can always do what it does. -/
theorem Shared.step_exists (n : Shared) (move : SharedMove) : ∃ n', n.Step lib idioms resolver move n' := by
  cases move with
  | outside happening => exact ⟨_, .outside happening⟩
  | reconcile a now answers =>
    obtain ⟨m, deeds, -, hdeeds⟩ := reconcile_follows lib idioms resolver ((n.clocked a now).view a) answers
    exact ⟨_, .reconcile hdeeds⟩

theorem Shared.runs_exists (n : Shared) (moves : List SharedMove) : ∃ n', n.Runs lib idioms resolver moves n' := by
  induction moves generalizing n with
  | nil => exact ⟨n, .nil n⟩
  | cons move rest ih =>
    obtain ⟨n', hstep⟩ := Shared.step_exists n move
    obtain ⟨n'', hrest⟩ := ih n'
    exact ⟨n'', .cons hstep hrest⟩

end

/-- **A cluster in a shared namespace runs as if it were alone.** Let the names of the objects belong to the clusters
that own them, no two clusters share a service account, and the migration hashes be free of `-`. Whatever the order in
which clusters are reconciled and others move: there is such a run, and what a cluster sees at the end of one is where
its own reconciles, with the moves of the others that it sees, lead from what it saw at the start. Of the reconciles of
its neighbours it sees the labels they put on secrets. -/
theorem neighbours_run_alone (lib : Libraries) (idioms : Idioms lib) (resolver : PatchMetaResolver) (N : Naming)
    (n : Shared) (moves : List SharedMove) (hhash : ∀ mc, '-' ∉ (lib.secureMigrationConfig mc).toList)
    (hapart : n.Apart N) (hmoves : ∀ move ∈ moves, move.Apart N) :
    (∃ n', n.Runs lib idioms resolver moves n') ∧ ∀ n', n.Runs lib idioms resolver moves n' →
      n'.Apart N ∧ ∀ a, ∃ seen, Sees a moves seen ∧ n'.view a = run lib idioms resolver (n.view a) seen := by
  refine ⟨Shared.runs_exists n moves, fun n' hruns => ?_⟩
  induction hruns with
  | nil n => exact ⟨hapart, fun _ => ⟨[], .nil, rfl⟩⟩
  | @cons n n₁ n₂ move rest hstep _ ih =>
    obtain ⟨hmove, hrest⟩ := List.forall_mem_cons.1 hmoves
    obtain ⟨hapart', hview⟩ := ih (hstep.apart hhash hapart hmove) hrest
    refine ⟨hapart', fun a => ?_⟩
    obtain ⟨first, hfirst, hviewFirst⟩ := hstep.seen hhash hapart a
    obtain ⟨seen, hseen, hviewRest⟩ := hview a
    refine ⟨first ++ seen, .cons hfirst hseen, ?_⟩
    rw [hviewRest, hviewFirst]
    exact (List.foldl_append ..).symm

/-- The plain libraries with a migration hash free of `-`. -/
def dashless : Libraries :=
  { plain with
    secureMigrationConfig := fun mc => String.ofList ((plain.secureMigrationConfig mc).toList.filter (· ≠ '-')) }

/-- Small clusters of every name, one of which has a deployment. -/
def smallNamespace : Shared :=
  { api := { deployments := [{ owner := "second", object := { name := "second-spicedb" } }] }
    cache := { deployments := [{ owner := "second", object := { name := "second-spicedb" } }] }
    operatorConfig := (smallWorld UpdateGraph.twoReleases "").operatorConfig
    ledgers := fun name => { live := { smallCluster "" with name }, cached := { smallCluster "" with name } } }

theorem smallNamespace_run_alone :
    (∃ n', smallNamespace.Runs dashless plainIdioms plainResolver
      [.reconcile "first" 1 [], .reconcile "second" 2 []] n') ∧
    ∀ n', smallNamespace.Runs dashless plainIdioms plainResolver
      [.reconcile "first" 1 [], .reconcile "second" 2 []] n' →
      ∃ seen, Sees "second" [.reconcile "first" 1 [], .reconcile "second" 2 []] seen ∧
        n'.view "second" = run dashless plainIdioms plainResolver (smallNamespace.view "second") seen := by
  have hstore : ({ deployments := [{ owner := "second", object := { name := "second-spicedb" } }] } : Store).Apart
      Naming.canonical :=
    ⟨List.forall_mem_singleton.2 rfl, fun _ h => absurd h List.not_mem_nil, fun _ h => absurd h List.not_mem_nil,
      fun _ h => absurd h List.not_mem_nil⟩
  have hcluster : ∀ name, ({ smallCluster "" with name } : SpiceDBCluster).IsOf Naming.canonical name :=
    fun _ => ⟨rfl, rfl⟩
  obtain ⟨hexists, hview⟩ := neighbours_run_alone dashless plainIdioms plainResolver Naming.canonical smallNamespace
    [.reconcile "first" 1 [], .reconcile "second" 2 []] (fun mc => by simp [dashless])
    ⟨hstore, hstore, hcluster, hcluster⟩ (List.forall_mem_cons.2 ⟨trivial, List.forall_mem_singleton.2 trivial⟩)
  exact ⟨hexists, fun n' hruns => (hview n' hruns).2 "second"⟩

end SpiceDBOperator
