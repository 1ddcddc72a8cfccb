import SpiceDBOperator.Config.Patched

/-!
# Events of dependents

An informer tells the controller of every change of a dependent through `syncExternalResource` (controller.go:476), and
files it under its clusters by the index function `GetClusterKeyFromMeta` (keys.go:167). The owner is the
label of the objects the operator generates, and an annotation of the secrets it adopts. The index function reads both,
and it unwraps the tombstone of an object whose deletion was missed; the event handler reads the annotations only,
and gives up on a tombstone.

| here | there |
| --- | --- |
| `Delivered`     | the `any` an informer hands over |
| `MetaFunctions` | `meta.Accessor`, `adopt.OwnerKeysFromMeta`, `cachekeys.GVRMetaNamespaceKeyer`, as documented |
| `syncExternalResource` | the keys that are added to the queue |
-/

namespace SpiceDBOperator

open Golang Metadata

def Metadata.ownerAnnotationKeyPrefix : String := "authzed.com.cluster-owner/"

structure GroupVersionResource where
  group : String
  version : String
  resource : String

def v1alpha1ClusterGVR : GroupVersionResource :=
  { group := "authzed.com", version := "v1alpha1", resource := "spicedbclusters" }

/-- `types.NamespacedName.String`. -/
def namespacedName (nameSpace name : String) : String := nameSpace ++ "/" ++ name

def Metadata.gvrMetaNamespaceKeyer (gvr : GroupVersionResource) (key : String) : String :=
  gvr.resource ++ "." ++ gvr.version ++ "." ++ gvr.group ++ "::" ++ key

inductive Delivered where
  | nil
  | object (objMeta : ObjectMeta)
  /-- `cache.DeletedFinalStateUnknown`. -/
  | tombstone (key : String) (obj : Delivered)

def ObjectMeta.getNamespace (m : ObjectMeta) : String := m.nameSpace.getD ""

structure MetaFunctions where
  accessor : Delivered → Except String ObjectMeta
  ownerKeysFromMeta : String → Delivered → Except String (List String)
  gvrMetaNamespaceKeyer : GroupVersionResource → String → String

structure MetaFunctions.Documented (f : MetaFunctions) : Prop where
  accessor_nil : ∃ err, f.accessor .nil = .error err
  accessor_object : ∀ m, f.accessor (.object m) = .ok m
  accessor_tombstone : ∀ key obj, ∃ err, f.accessor (.tombstone key obj) = .error err
  /-- One key for each annotation that starts with the given text; the order is that of a map. -/
  ownerKeys : ∀ start m, ∃ keys, f.ownerKeysFromMeta start (.object m) = .ok keys ∧
    ∀ key, key ∈ keys ↔ ∃ name, start ++ name ∈ m.annotations ∧ key = namespacedName m.getNamespace name
  keyer : f.gvrMetaNamespaceKeyer = Metadata.gvrMetaNamespaceKeyer

section

variable (f : MetaFunctions)

def getClusterKeyFromMeta (obj : Delivered) : Except String (List String) := do
  let obj := match obj with
    | .tombstone _ obj => obj
    | obj => obj
  let objMeta ← f.accessor obj
  let clusterNames ← f.ownerKeysFromMeta ownerAnnotationKeyPrefix obj
  if objMeta.labels.entries ≠ [] then
    match objMeta.labels.lookup ownerLabelKey with
    | some clusterName => .ok (clusterNames ++ [namespacedName objMeta.getNamespace clusterName])
    | none => .ok clusterNames
  else .ok clusterNames

def syncExternalResource (obj : Delivered) : List String :=
  match f.accessor obj with
  | .error _ => []
  | .ok _ =>
    match f.ownerKeysFromMeta ownerAnnotationKeyPrefix obj with
    | .error _ => []
    | .ok keys => keys.map (f.gvrMetaNamespaceKeyer v1alpha1ClusterGVR)

/-- The key of a cluster in the queue. -/
def clusterQueueKey (nameSpace cluster : String) : String :=
  f.gvrMetaNamespaceKeyer v1alpha1ClusterGVR (namespacedName nameSpace cluster)

end

/-! ## Owners -/

def AnnotatedFor (m : ObjectMeta) (cluster : String) : Prop := ownerAnnotationKeyPrefix ++ cluster ∈ m.annotations

instance (m : ObjectMeta) (cluster : String) : Decidable (AnnotatedFor m cluster) :=
  inferInstanceAs (Decidable (_ ∈ m.annotations))

def LabelledFor (m : ObjectMeta) (cluster : String) : Prop := m.labels.lookup ownerLabelKey = some cluster

section

variable {f : MetaFunctions} (hf : f.Documented) {m : ObjectMeta}

include hf

theorem clusterQueueKey_inj {nameSpace cluster other : String} :
    clusterQueueKey f nameSpace cluster = clusterQueueKey f nameSpace other ↔ cluster = other := by
  simp only [clusterQueueKey, hf.keyer, Metadata.gvrMetaNamespaceKeyer, namespacedName, String.append_right_inj]

theorem getClusterKeyFromMeta_object (m : ObjectMeta) :
    ∃ keys, getClusterKeyFromMeta f (.object m) = .ok keys ∧
      ∀ key, key ∈ keys ↔ ∃ cluster, (AnnotatedFor m cluster ∨ LabelledFor m cluster) ∧
        key = namespacedName m.getNamespace cluster := by
  obtain ⟨names, hnames, hmem⟩ := hf.ownerKeys ownerAnnotationKeyPrefix m
  cases hlabel : m.labels.lookup ownerLabelKey with
  | none =>
    have hunlabelled : ∀ cluster, ¬LabelledFor m cluster := by simp [LabelledFor, hlabel]
    refine ⟨names, ?_, fun key => ?_⟩
    · simp [getClusterKeyFromMeta, hf.accessor_object, hnames, hlabel, bind, Except.bind]
    · simp only [hmem, hunlabelled, or_false]
      rfl
  | some owner =>
    have hlabelled : ∀ cluster, LabelledFor m cluster ↔ owner = cluster := by simp [LabelledFor, hlabel]
    have hentries : m.labels.entries ≠ [] := by
      intro hnil
      simp [AList.lookup, hnil] at hlabel
    refine ⟨names ++ [namespacedName m.getNamespace owner], ?_, fun key => ?_⟩
    · simp [getClusterKeyFromMeta, hf.accessor_object, hnames, hlabel, hentries, bind, Except.bind]
    · simp only [List.mem_append, List.mem_singleton, hmem, hlabelled, or_and_right, exists_or, exists_eq_left']
      rfl

theorem mem_syncExternalResource_object {q : String} :
    q ∈ syncExternalResource f (.object m) ↔
      ∃ cluster, AnnotatedFor m cluster ∧ q = clusterQueueKey f m.getNamespace cluster := by
  obtain ⟨keys, hkeys, hmem⟩ := hf.ownerKeys ownerAnnotationKeyPrefix m
  simp only [syncExternalResource, hf.accessor_object, hkeys, List.mem_map, hmem]
  constructor
  · rintro ⟨_, ⟨cluster, hcluster, rfl⟩, rfl⟩
    exact ⟨cluster, hcluster, rfl⟩
  · rintro ⟨cluster, hcluster, rfl⟩
    exact ⟨_, ⟨cluster, hcluster, rfl⟩, rfl⟩

theorem syncExternalResource_tombstone (key : String) (obj : Delivered) :
    syncExternalResource f (.tombstone key obj) = [] := by
  obtain ⟨err, herr⟩ := hf.accessor_tombstone key obj
  rw [syncExternalResource, herr]

theorem enqueued_object_iff {cluster : String} :
    clusterQueueKey f m.getNamespace cluster ∈ syncExternalResource f (.object m) ↔ AnnotatedFor m cluster := by
  rw [mem_syncExternalResource_object hf]
  simp only [clusterQueueKey_inj hf]
  exact exists_eq_right'

end

/-! ## Which events arrive -/

/-- The clusters an object is filed under are those it is annotated for; a tombstone is filed under none. -/
def Covered : Delivered → Prop
  | .object m => ∀ cluster, LabelledFor m cluster → AnnotatedFor m cluster
  | .tombstone _ (.object m) => ∀ cluster, ¬AnnotatedFor m cluster ∧ ¬LabelledFor m cluster
  | _ => True

/-- Every key of the index is enqueued. -/
def IndexEnqueued (f : MetaFunctions) (obj : Delivered) : Prop :=
  ∀ keys, getClusterKeyFromMeta f obj = .ok keys →
    ∀ key ∈ keys, f.gvrMetaNamespaceKeyer v1alpha1ClusterGVR key ∈ syncExternalResource f obj

section

variable {f : MetaFunctions} (hf : f.Documented)

include hf

theorem indexEnqueued_object (m : ObjectMeta) : IndexEnqueued f (.object m) ↔ Covered (.object m) := by
  obtain ⟨keys, hkeys, hmem⟩ := getClusterKeyFromMeta_object hf m
  constructor
  · intro h cluster hlabel
    have hkey : namespacedName m.getNamespace cluster ∈ keys := (hmem _).2 ⟨cluster, Or.inr hlabel, rfl⟩
    exact (enqueued_object_iff hf).1 (h keys hkeys _ hkey)
  · intro h keys' hkeys' key hkey
    cases hkeys.symm.trans hkeys'
    obtain ⟨cluster, howner, rfl⟩ := (hmem key).1 hkey
    exact (enqueued_object_iff hf).2 (howner.elim id (h cluster))

theorem indexEnqueued_tombstone (key : String) (m : ObjectMeta) :
    IndexEnqueued f (.tombstone key (.object m)) ↔ Covered (.tombstone key (.object m)) := by
  obtain ⟨keys, hkeys, hmem⟩ := getClusterKeyFromMeta_object hf m
  have hindex : getClusterKeyFromMeta f (.tombstone key (.object m)) = .ok keys := hkeys
  rw [IndexEnqueued, syncExternalResource_tombstone hf]
  constructor
  · intro h cluster
    rw [← not_or]
    intro howner
    exact List.not_mem_nil (h keys hindex _ ((hmem _).2 ⟨cluster, howner, rfl⟩))
  · intro h keys' hkeys' k hk
    cases hindex.symm.trans hkeys'
    obtain ⟨cluster, howner, rfl⟩ := (hmem k).1 hk
    exact absurd howner (not_or.2 (h cluster))

omit hf in
/-- Where there is no object, there is no key. -/
theorem indexEnqueued_of_error {obj : Delivered} {err : String} (h : getClusterKeyFromMeta f obj = .error err) :
    IndexEnqueued f obj := by
  intro keys hkeys
  rw [h] at hkeys
  cases hkeys

theorem indexEnqueued_iff_covered (obj : Delivered) : IndexEnqueued f obj ↔ Covered obj := by
  have herror : ∀ {inner : Delivered} {err : String}, f.accessor inner = .error err →
      ∀ key, getClusterKeyFromMeta f (.tombstone key inner) = .error err := by
    intro inner err h key
    simp [getClusterKeyFromMeta, h, bind, Except.bind]
  match obj with
  | .nil =>
    obtain ⟨err, hnil⟩ := hf.accessor_nil
    have hindex : getClusterKeyFromMeta f .nil = .error err := by
      simp [getClusterKeyFromMeta, hnil, bind, Except.bind]
    exact iff_of_true (indexEnqueued_of_error hindex) trivial
  | .object m => exact indexEnqueued_object hf m
  | .tombstone key .nil =>
    obtain ⟨err, hnil⟩ := hf.accessor_nil
    exact iff_of_true (indexEnqueued_of_error (herror hnil key)) trivial
  | .tombstone key (.object m) => exact indexEnqueued_tombstone hf key m
  | .tombstone key (.tombstone key' obj) =>
    obtain ⟨err, htombstone⟩ := hf.accessor_tombstone key' obj
    exact iff_of_true (indexEnqueued_of_error (herror htombstone key)) trivial

/-- An object with the labels of a cluster is filed under it. -/
theorem labelled_indexed {m : ObjectMeta} {cluster component : String}
    (h : Carries (labelsForComponent cluster component) m.labels) :
    ∃ keys, getClusterKeyFromMeta f (.object m) = .ok keys ∧ namespacedName m.getNamespace cluster ∈ keys := by
  obtain ⟨keys, hkeys, hmem⟩ := getClusterKeyFromMeta_object hf m
  have hlabel : LabelledFor m cluster := h ownerLabelKey cluster rfl
  exact ⟨keys, hkeys, (hmem _).2 ⟨cluster, Or.inr hlabel, rfl⟩⟩

end

/-- **Which events of dependents reach their clusters.** The first part is about every object that is delivered. The
second is about the objects the operator generates for a cluster, and their pods: all of them carry its labels, so they
are filed under it. -/
theorem dependent_events_enqueue_iff (f : MetaFunctions) (hf : f.Documented) :
    (∀ obj, IndexEnqueued f obj ↔ Covered obj) ∧
    ∀ m cluster component, Carries (labelsForComponent cluster component) m.labels →
      (∃ keys, getClusterKeyFromMeta f (.object m) = .ok keys ∧ namespacedName m.getNamespace cluster ∈ keys) ∧
      (clusterQueueKey f m.getNamespace cluster ∈ syncExternalResource f (.object m) ↔ AnnotatedFor m cluster) ∧
      ∀ key, clusterQueueKey f m.getNamespace cluster ∉ syncExternalResource f (.tombstone key (.object m)) := by
  refine ⟨indexEnqueued_iff_covered hf, fun m cluster component hlabels => ?_⟩
  refine ⟨labelled_indexed hf hlabels, enqueued_object_iff hf, fun key => ?_⟩
  rw [syncExternalResource_tombstone hf]
  exact List.not_mem_nil

/-! ## A deployment and a secret -/

def plainMeta : MetaFunctions where
  accessor
    | .object m => .ok m
    | _ => .error "object does not implement the Object interfaces"
  ownerKeysFromMeta start
    | .object m => .ok (m.annotations.keys.filterMap fun k =>
        (k.toList.dropPrefix? start.toList).map fun name => namespacedName m.getNamespace (String.ofList name))
    | _ => .error "object does not implement the Object interfaces"
  gvrMetaNamespaceKeyer := Metadata.gvrMetaNamespaceKeyer

theorem dropPrefix_toList {k start name : String} :
    k.toList.dropPrefix? start.toList = some name.toList ↔ k = start ++ name := by
  rw [List.dropPrefix?_eq_some_iff, ← String.toList_inj, String.toList_append]
  constructor
  · rintro ⟨front, hk, hfront⟩
    rw [hk, beq_iff_eq.1 hfront]
  · intro hk
    exact ⟨start.toList, hk, BEq.rfl⟩

theorem plainMeta_documented : plainMeta.Documented where
  accessor_nil := ⟨_, rfl⟩
  accessor_object := fun _ => rfl
  accessor_tombstone := fun _ _ => ⟨_, rfl⟩
  ownerKeys := by
    intro start m
    refine ⟨_, rfl, fun key => ?_⟩
    simp only [List.mem_filterMap, Option.map_eq_some_iff]
    constructor
    · rintro ⟨k, hk, name, hname, rfl⟩
      rw [← String.toList_ofList (l := name), dropPrefix_toList] at hname
      exact ⟨String.ofList name, hname ▸ AList.mem_keys.2 hk, rfl⟩
    · rintro ⟨name, hname, rfl⟩
      exact ⟨_, AList.mem_keys.1 hname, name.toList, dropPrefix_toList.2 rfl, by rw [String.ofList_toList]⟩
  keyer := rfl

/-- A config without patches. -/
def smallConfig : Config :=
  { migration := {}, spice := { name := "small", nameSpace := "test" }, patches := [], patchMeta := plainResolver }

/-- Its deployment is filed under the cluster, and its events do not reach it. -/
theorem deployment_events_lost :
    (smallConfig.deployment plain "m1" "s1").map (fun d => (getClusterKeyFromMeta plainMeta (.object d.metadata),
      syncExternalResource plainMeta (.object d.metadata))) = .ok (.ok ["test/small"], []) := by
  decide

/-- A secret that was adopted for the cluster. -/
def adoptedSecret : ObjectMeta :=
  { name := some "db", nameSpace := some "test"
    labels := mapOf [(operatorManagedLabelKey, operatorManagedLabelValue)]
    annotations := mapOf [(ownerAnnotationKeyPrefix ++ "small", "owned")] }

theorem adoptedSecret_events_arrive :
    getClusterKeyFromMeta plainMeta (.object adoptedSecret) = .ok ["test/small"] ∧
      IndexEnqueued plainMeta (.object adoptedSecret) := by
  refine ⟨by decide, ((dependent_events_enqueue_iff plainMeta plainMeta_documented).1 _).2 ?_⟩
  intro cluster hlabel
  have hunlabelled : adoptedSecret.labels.lookup ownerLabelKey = none := by decide
  rw [LabelledFor, hunlabelled] at hlabel
  cases hlabel

end SpiceDBOperator
