import Mathlib.Data.Fintype.EquivFin
import SpiceDBOperator.Controller.Reload

/-!
# The namespaces to watch

For each namespace of `--watch-namespaces` the operator registers a cache of clusters and one of dependents
(controller.go:153, 172), and panics if one is there already. A sync takes its caches from the registry by the namespace
of the cluster, or by the empty one if the list is the empty namespace alone (controller.go:370), and panics if there
are none. The list may hold the empty namespace beside others, as after a trailing comma: then the clusters of all
namespaces are queued, and the sync of one that is not in the list ends the process (`serves_iff_watchable`).

| here | there |
| --- | --- |
| `localClusterNamespace` | controller.go:81 |
| `FactoryKey`            | `typed.FactoryKey`, the arguments of `typed.NewFactoryKey` |
| `ownedFactoryKey`, `dependentFactoryKey` | controller.go:88, 92 |
| `TypedRegistry`         | `typed.Registry` of controller-idioms |
| `Startup.registry`      | the informer factories after `NewController` |
-/

namespace SpiceDBOperator

/-! ## The registry -/

def localClusterNamespace (nameSpace : String) : String :=
  if nameSpace = "" then "local" else String.intercalate "/" ["local", nameSpace]

structure FactoryKey where
  resource : String
  cluster : String
  kind : String
deriving DecidableEq, Repr

def ownedFactoryKey (nameSpace : String) : FactoryKey :=
  { resource := "spicedbclusters", cluster := localClusterNamespace nameSpace, kind := "unfiltered" }

def dependentFactoryKey (nameSpace : String) : FactoryKey :=
  { resource := "spicedbclusters", cluster := localClusterNamespace nameSpace, kind := "dependents" }

structure TypedRegistry where
  Factories : Type
  /-- `NewRegistry`. -/
  empty : Factories
  /-- `MustNewFilteredDynamicSharedInformerFactory`; none if it panics. -/
  register : Factories → FactoryKey → Option Factories
  /-- `MustListerForKey` and `MustIndexerForKey` find a factory. -/
  Has : Factories → FactoryKey → Prop

/-- A key is registered once, and found from then on. -/
structure TypedRegistry.Documented (t : TypedRegistry) : Prop where
  not_has_empty : ∀ key, ¬ t.Has t.empty key
  register_isSome : ∀ r key, (t.register r key).isSome = true ↔ ¬ t.Has r key
  has_register : ∀ r r' key, t.register r key = some r' → ∀ other, t.Has r' other ↔ other = key ∨ t.Has r other

def Startup.factoryKeys (o : Startup) : List FactoryKey :=
  o.namespaces.map ownedFactoryKey ++ o.namespaces.map dependentFactoryKey

/-- None if the controller panics before it is there. -/
def Startup.registry (t : TypedRegistry) (o : Startup) : Option t.Factories := o.factoryKeys.foldlM t.register t.empty

theorem localClusterNamespace_eq (nameSpace : String) :
    localClusterNamespace nameSpace = if nameSpace = "" then "local" else "local/" ++ nameSpace := by
  unfold localClusterNamespace
  split_ifs
  · rfl
  · rw [String.intercalate]
    rfl

/-- The namespace of a key can be told from it. -/
theorem localClusterNamespace_injective : Function.Injective localClusterNamespace := by
  intro a b h
  rw [localClusterNamespace_eq, localClusterNamespace_eq] at h
  have hlonger : ∀ nameSpace : String, "local/" ++ nameSpace ≠ "local" := by
    intro nameSpace heq
    have hlength := congrArg String.length heq
    rw [String.length_append] at hlength
    have hlocal : "local/".length = 6 := rfl
    have hshort : "local".length = 5 := rfl
    omega
  split_ifs at h with ha hb hb
  · rw [ha, hb]
  · exact absurd h.symm (hlonger b)
  · exact absurd h (hlonger a)
  · exact (String.append_right_inj _).1 h

theorem ownedFactoryKey_injective : Function.Injective ownedFactoryKey := fun _ _ h =>
  localClusterNamespace_injective (congrArg FactoryKey.cluster h)

theorem dependentFactoryKey_injective : Function.Injective dependentFactoryKey := fun _ _ h =>
  localClusterNamespace_injective (congrArg FactoryKey.cluster h)

theorem factoryKeys_disjoint (namespaces : List String) :
    (namespaces.map ownedFactoryKey).Disjoint (namespaces.map dependentFactoryKey) := by
  intro key howned hdependent
  obtain ⟨a, -, rfl⟩ := List.mem_map.1 howned
  obtain ⟨b, -, h⟩ := List.mem_map.1 hdependent
  have hkind : "dependents" = "unfiltered" := congrArg FactoryKey.kind h
  exact absurd hkind (by decide)

theorem Startup.factoryKeys_nodup (o : Startup) : o.factoryKeys.Nodup ↔ o.namespaces.Nodup := by
  rw [factoryKeys, List.nodup_append', List.nodup_map_iff ownedFactoryKey_injective,
    List.nodup_map_iff dependentFactoryKey_injective]
  exact ⟨fun h => h.1, fun h => ⟨h, h, factoryKeys_disjoint _⟩⟩

namespace TypedRegistry.Documented

variable {t : TypedRegistry} {o : Startup}

theorem has_foldlM (h : t.Documented) {keys : List FactoryKey} {r r' : t.Factories}
    (hr : keys.foldlM t.register r = some r') (key : FactoryKey) : t.Has r' key ↔ key ∈ keys ∨ t.Has r key := by
  induction keys generalizing r with
  | nil =>
    cases hr
    simp
  | cons first rest ih =>
    obtain ⟨r₁, hfirst, hrest⟩ := Option.bind_eq_some_iff.1 (List.foldlM_cons.symm.trans hr)
    rw [ih hrest, h.has_register r r₁ first hfirst, List.mem_cons]
    tauto

theorem foldlM_isSome (h : t.Documented) (keys : List FactoryKey) (r : t.Factories) :
    (keys.foldlM t.register r).isSome = true ↔ keys.Nodup ∧ ∀ key ∈ keys, ¬ t.Has r key := by
  induction keys generalizing r with
  | nil => simp
  | cons first rest ih =>
    have hregister := h.register_isSome r first
    rw [List.foldlM_cons, List.nodup_cons, List.forall_mem_cons]
    cases hfirst : t.register r first with
    | none =>
      rw [hfirst] at hregister
      exact iff_of_false Bool.false_ne_true fun hall => Bool.false_ne_true (hregister.2 hall.2.1)
    | some r₁ =>
      rw [hfirst] at hregister
      refine (ih r₁).trans ?_
      have hfresh : ¬ t.Has r first := hregister.1 rfl
      have hhas := h.has_register r r₁ first hfirst
      constructor
      · rintro ⟨hnodup, hnot⟩
        refine ⟨⟨fun hmem => hnot first hmem ((hhas first).2 (Or.inl rfl)), hnodup⟩, hfresh, fun key hkey => ?_⟩
        exact fun hthere => hnot key hkey ((hhas key).2 (Or.inr hthere))
      · rintro ⟨⟨hmem, hnodup⟩, -, hnot⟩
        refine ⟨hnodup, fun key hkey hthere => ?_⟩
        rcases (hhas key).1 hthere with rfl | hthere
        · exact hmem hkey
        · exact hnot key hkey hthere

/-- The controller starts if the namespaces are distinct. -/
theorem starts_iff (h : t.Documented) : (∃ r, o.registry t = some r) ↔ o.namespaces.Nodup := by
  rw [← Option.isSome_iff_exists, Startup.registry, h.foldlM_isSome, o.factoryKeys_nodup]
  exact and_iff_left fun key _ => h.not_has_empty key

/-- It then has both caches of each. -/
theorem has_registry (h : t.Documented) {r : t.Factories} (hr : o.registry t = some r) (key : FactoryKey) :
    t.Has r key ↔ key ∈ o.factoryKeys :=
  (h.has_foldlM hr key).trans (or_iff_left (h.not_has_empty key))

end TypedRegistry.Documented

/-! ## Clusters that are synced -/

/-- The file can be read and decoded. -/
def Startup.Readable (o : Startup) (file : Option String) : Prop :=
  ∃ contents, file = some contents ∧ (o.decode contents).isSome = true

/-- Some informer sees the cluster. -/
def Startup.Watches (o : Startup) (key : ClusterKey) : Prop := ∃ nameSpace, o.Sees nameSpace key

theorem Startup.Watchable.found {o : Startup} (h : o.Watchable) {key : ClusterKey} (hwatches : o.Watches key) :
    o.cacheNamespace key.nameSpace ∈ o.namespaces := by
  obtain ⟨nameSpace, hmem, hsees⟩ := hwatches
  unfold Startup.cacheNamespace
  rcases h with hall | hnamed
  · rw [if_pos hall, hall]
    exact List.mem_singleton_self _
  · have hnot : o.namespaces ≠ [""] := fun hall => hnamed (hall ▸ List.mem_singleton_self _)
    rw [if_neg hnot]
    rcases hsees with rfl | rfl
    · exact absurd hmem hnamed
    · exact hmem

namespace Process

/-- The process runs, its file is in order, and all clusters on their way to a sync are watched. -/
structure InOrder (o : Startup) (s : Process) : Prop where
  alive : s.crashed = false
  file : o.Readable s.file
  cached : ∀ e ∈ s.cached, o.Watches e.2
  undelivered : ∀ key ∈ s.undelivered, o.Watches key
  waiting : ∀ key ∈ s.waiting, o.Watches key
  sync : ∀ key, s.sync key ≠ .none → o.Watches key
  listed : ∀ namespaces clusters, s.loader = .requeuing namespaces clusters → ∀ key ∈ clusters, o.Watches key

section

variable {o : Startup} {s : Process}

theorem InOrder.enqueue (h : InOrder o s) {key : ClusterKey} (hkey : o.Watches key) : InOrder o (s.enqueue key) :=
  { h with waiting := List.forall_mem_cons.2 ⟨hkey, h.waiting⟩ }

theorem InOrder.setSync (h : InOrder o s) {key : ClusterKey} (hkey : o.Watches key) (phase : Sync) :
    InOrder o (s.setSync key phase) := by
  refine { h with sync := fun key' hsync => ?_ }
  by_cases heq : key' = key
  · rw [heq]
    exact hkey
  · refine h.sync key' fun hnone => hsync ?_
    exact (Function.update_of_ne heq _ _).trans hnone

theorem InOrder.load (h : InOrder o s) : InOrder o (load o s) := by
  obtain ⟨contents, hfile, hdecodes⟩ := h.file
  obtain ⟨cfg, hcfg⟩ := Option.isSome_iff_exists.1 hdecodes
  simp only [Process.load, hfile, hcfg]
  exact { h with file := ⟨contents, rfl, hdecodes⟩, listed := fun _ _ heq => by cases heq }

theorem InOrder.storeConfig (h : InOrder o s) (contents : String) (cfg : OperatorConfig) :
    InOrder o (storeConfig o s contents cfg) := by
  unfold Process.storeConfig
  split_ifs
  · exact { h with listed := fun _ _ heq => by cases heq }
  · exact { h with listed := fun _ _ heq => by cases heq }

/-- With a list that can be watched, a sync finds its cache. -/
theorem InOrder.fetch (h : InOrder o s) (hwatch : o.Watchable) {key : ClusterKey} (hkey : o.Watches key) :
    InOrder o (fetch o s key) := by
  unfold Process.fetch
  rw [if_neg (not_not.2 (hwatch.found hkey))]
  refine iteInduction (fun _ => h.setSync hkey .none) fun _ => ?_
  have hfetched := h.setSync hkey .fetched
  exact { hfetched with }

theorem InOrder.requeue (h : InOrder o s) (ok : Bool) : InOrder o (act o s (.requeue ok)) := by
  simp only [act]
  cases hloader : s.loader with
  | requeuing namespaces clusters =>
    cases clusters with
    | cons key rest =>
      have hclusters := List.forall_mem_cons.1 (h.listed _ _ hloader)
      refine { h.enqueue hclusters.1 with listed := fun _ _ heq => ?_ }
      cases heq
      exact hclusters.2
    | nil =>
      cases namespaces with
      | nil => exact { h with listed := fun _ _ heq => by cases heq }
      | cons nameSpace rest =>
        dsimp only
        split_ifs
        · refine { h with listed := fun _ _ heq => ?_ }
          cases heq
          intro key hkey
          obtain ⟨e, he, rfl⟩ := List.mem_map.1 hkey
          exact h.cached e (List.mem_of_mem_filter he)
        · exact { h with listed := fun _ _ heq => by cases heq }
  | idle => exact h
  | decoded contents cfg => exact h
  | stored contents => exact h

theorem act_inOrder (hwatch : o.Watchable) (h : InOrder o s) {action : Action}
    (hwrite : ∀ c, action = .write c → o.Readable c) (hfault : ∀ key, action ≠ .fault key) :
    InOrder o (act o s action) := by
  cases action with
  | write c => exact { h with file := hwrite c rfl }
  | load =>
    simp only [act]
    cases hloader : s.loader with
    | idle => exact h.load
    | _ => exact h
  | storeConfig =>
    simp only [act]
    cases hloader : s.loader with
    | decoded contents cfg => exact h.storeConfig contents cfg
    | _ => exact h
  | storeHash =>
    simp only [act]
    cases hloader : s.loader with
    | stored contents =>
      refine { h with listed := fun _ _ heq => ?_ }
      cases heq
      exact fun _ hkey => absurd hkey List.not_mem_nil
    | _ => exact h
  | requeue ok => exact h.requeue ok
  | observe nameSpace key =>
    simp only [act]
    split_ifs with hsees
    · refine { h with cached := fun e he => ?_, undelivered := List.forall_mem_cons.2 ⟨⟨_, hsees⟩, h.undelivered⟩ }
      rcases List.mem_insert_iff.1 he with rfl | he
      · exact ⟨_, hsees⟩
      · exact h.cached e he
    · exact h
  | forget nameSpace key => exact { h with cached := fun e he => h.cached e (List.mem_of_mem_filter he) }
  | deliver key =>
    simp only [act]
    split_ifs with hmem
    · refine { h.enqueue (h.undelivered key hmem) with undelivered := fun key' hkey' => ?_ }
      exact h.undelivered key' (List.mem_of_mem_erase hkey')
    · exact h
  | external nameSpace key =>
    simp only [act]
    split_ifs with hsees
    · exact h.enqueue ⟨_, hsees⟩
    · exact h
  | take key =>
    simp only [act]
    split_ifs with hmem
    · refine { h.setSync (h.waiting key hmem.1) .started with waiting := fun key' hkey' => ?_ }
      exact h.waiting key' (List.mem_of_mem_filter hkey')
    · exact h
  | fetch key =>
    simp only [act]
    split_ifs with hsync
    · exact h.fetch hwatch (h.sync key (by rw [hsync]; decide))
    · exact h
  | copy key =>
    simp only [act]
    split_ifs with hsync
    · have hcopied := h.setSync (h.sync key (by rw [hsync]; decide)) .copied
      exact { hcopied with }
    · exact h
  | finish key requeue =>
    simp only [act]
    split_ifs with hsync hrequeue
    · have hkey := h.sync key (by rw [hsync]; decide)
      exact (h.setSync hkey .none).enqueue hkey
    · exact h.setSync (h.sync key (by rw [hsync]; decide)) .none
    · exact h
  | fault key => exact absurd rfl (hfault key)

/-- A namespace that is not in the list. -/
theorem exists_unlisted (namespaces : List String) : ∃ nameSpace, nameSpace ∉ namespaces := by
  obtain ⟨nameSpace, hfresh⟩ := Infinite.exists_notMem_finset namespaces.toFinset
  exact ⟨nameSpace, fun hmem => hfresh (List.mem_toFinset.2 hmem)⟩

/-- The informer of all namespaces brings in a cluster whose sync has no cache. -/
theorem unlisted_crashes (hall : "" ∈ o.namespaces) (hothers : o.namespaces ≠ [""]) {key : ClusterKey}
    (hunlisted : key.nameSpace ∉ o.namespaces) (contents : String) :
    (run o { file := some contents } [.observe "" key, .deliver key, .take key, .fetch key]).crashed = true := by
  have hsees : o.Sees "" key := ⟨hall, Or.inl rfl⟩
  have hcache : o.cacheNamespace key.nameSpace ∉ o.namespaces := by
    rw [Startup.cacheNamespace, if_neg hothers]
    exact hunlisted
  simp [run, act, hsees, Process.enqueue, Process.setSync, Process.fetch, hcache]

end

/-- The caches a sync of the cluster takes from the registry are there. -/
def CachesIn (t : TypedRegistry) (r : t.Factories) (o : Startup) (key : ClusterKey) : Prop :=
  t.Has r (ownedFactoryKey (o.cacheNamespace key.nameSpace)) ∧
    t.Has r (dependentFactoryKey (o.cacheNamespace key.nameSpace))

/-- However reloads, syncs and events interleave, and as long as the config file can be decoded and no handler panics,
the process runs on and every sync finds its caches. -/
def Serves (t : TypedRegistry) (r : t.Factories) (o : Startup) (contents : String) : Prop :=
  ∀ actions, (∀ file, .write file ∈ actions → o.Readable file) → (∀ key, .fault key ∉ actions) →
    (run o { file := some contents } actions).crashed = false ∧
      ∀ key, (run o { file := some contents } actions).sync key ≠ .none → CachesIn t r o key

/-- **Which lists of namespaces can be watched.** The controller starts and serves if and only if the namespaces are
distinct, and are the empty one alone or do not have it. -/
theorem serves_iff_watchable (t : TypedRegistry) (ht : t.Documented) (o : Startup) (contents : String)
    (hdecodes : (o.decode contents).isSome = true) :
    (∃ r, o.registry t = some r ∧ Serves t r o contents) ↔ o.namespaces.Nodup ∧ o.Watchable := by
  constructor
  · rintro ⟨r, hr, hserves⟩
    refine ⟨ht.starts_iff.1 ⟨r, hr⟩, ?_⟩
    by_contra hmixed
    obtain ⟨hothers, hall⟩ := not_or.1 hmixed
    obtain ⟨nameSpace, hunlisted⟩ := exists_unlisted o.namespaces
    have halive := (hserves [.observe "" ⟨nameSpace, "small"⟩, .deliver ⟨nameSpace, "small"⟩,
      .take ⟨nameSpace, "small"⟩, .fetch ⟨nameSpace, "small"⟩] (by simp) (by simp)).1
    rw [unlisted_crashes (not_not.1 hall) hothers hunlisted contents] at halive
    cases halive
  · rintro ⟨hnodup, hwatch⟩
    obtain ⟨r, hr⟩ := ht.starts_iff.2 hnodup
    refine ⟨r, hr, fun actions hwrites hfaults => ?_⟩
    have hstart : InOrder o { file := some contents } :=
      ⟨rfl, ⟨contents, rfl, hdecodes⟩, fun _ h => absurd h List.not_mem_nil, fun _ h => absurd h List.not_mem_nil,
        fun _ h => absurd h List.not_mem_nil, fun _ h => absurd rfl h, fun _ _ heq => by cases heq⟩
    have hend : InOrder o (run o { file := some contents } actions) :=
      run_keeps (fun s h action hmem => act_inOrder hwatch h (fun c hc => hwrites c (hc ▸ hmem))
        fun key hkey => hfaults key (hkey ▸ hmem)) hstart
    refine ⟨hend.alive, fun key hsync => ?_⟩
    have hfound := hwatch.found (hend.sync key hsync)
    exact ⟨(ht.has_registry hr _).2 (List.mem_append_left _ (List.mem_map_of_mem hfound)),
      (ht.has_registry hr _).2 (List.mem_append_right _ (List.mem_map_of_mem hfound))⟩

/-- A registry that is a list of keys. -/
def listRegistry : TypedRegistry where
  Factories := List FactoryKey
  empty := []
  register r key := if key ∈ r then none else some (key :: r)
  Has r key := key ∈ r

theorem listRegistry_documented : listRegistry.Documented where
  not_has_empty _ := List.not_mem_nil
  register_isSome r key := by
    simp only [listRegistry]
    split_ifs with h <;> simp [h]
  has_register r r' key hr other := by
    simp only [listRegistry] at hr
    split_ifs at hr
    cases hr
    exact List.mem_cons

/-- A list with a trailing comma. -/
def trailingComma : Startup := { oneNamespace with watchNamespaces := ["test", ""] }

/-- The controller starts, and some run of it crashes. -/
theorem trailingComma_crashes : (∃ r, trailingComma.registry listRegistry = some r) ∧
    ¬ ∃ r, trailingComma.registry listRegistry = some r ∧ Serves listRegistry r trailingComma "a" :=
  ⟨⟨_, rfl⟩, (serves_iff_watchable listRegistry listRegistry_documented trailingComma "a" rfl).not.2
    (by simp [Startup.Watchable, Startup.namespaces, trailingComma])⟩

end Process

end SpiceDBOperator
