import Mathlib.Data.List.TakeWhile
import SpiceDBOperator.Updates.MemorySource

/-!
# Well-formed sources

`WF` is what `NewMemorySource` establishes and `Subgraph` keeps: distinct nodes, an index that points
at each of them, and edges between nodes only. On a well-formed source no query panics, and each one
is a plain function of the node list and the adjacency lists: `nodeState`, `directVersion` and, for a
re-rooted source, `RestrictsTo`.
-/

namespace SpiceDBOperator

open Golang

namespace MemorySource

def IsNode (m : MemorySource) (id : String) : Prop := ∃ n ∈ m.orderedNodes, n.id = id

instance (m : MemorySource) (id : String) : Decidable (m.IsNode id) :=
  inferInstanceAs (Decidable (∃ n ∈ m.orderedNodes, n.id = id))

structure WF (m : MemorySource) : Prop where
  nonempty : m.orderedNodes ≠ []
  nodup : (m.orderedNodes.map (·.id)).Nodup
  nodes_iff : ∀ id i, m.nodes.lookup id = some i ↔ ∃ n, m.orderedNodes[i]? = some n ∧ n.id = id
  keys : ∀ src ∈ m.edges, m.IsNode src
  targets : ∀ src toSet, m.edges.lookup src = some toSet → ∀ dst ∈ toSet, m.IsNode dst

/-! ## The node index -/

theorem insertAll_lookup (l : List (State × Nat)) (nodeSet : NodeSet) (hnd : (l.map (·.1.id)).Nodup)
    (id : String) (i : Nat) :
    (l.foldl (fun s p => s.insert p.1.id p.2) nodeSet).lookup id = some i ↔
      (∃ n, (n, i) ∈ l ∧ n.id = id) ∨ ((∀ p ∈ l, p.1.id ≠ id) ∧ nodeSet.lookup id = some i) := by
  induction l generalizing nodeSet with
  | nil => simp
  | cons p rest ih =>
    obtain ⟨n, j⟩ := p
    simp only [List.map_cons, List.nodup_cons, List.mem_map, not_exists, not_and] at hnd
    rw [List.foldl_cons, ih _ hnd.2]
    by_cases hid : n.id = id
    · have hrest : ∀ p ∈ rest, p.1.id ≠ id := fun p hp he => hnd.1 p hp (he.trans hid.symm)
      subst hid
      rw [AList.lookup_insert]
      constructor
      · rintro (⟨n', hn', he⟩ | ⟨_, hj⟩)
        · exact absurd he (hrest _ hn')
        · cases hj; exact Or.inl ⟨n, by simp, rfl⟩
      · rintro (⟨n', hn', he⟩ | ⟨hall, _⟩)
        · rcases List.mem_cons.1 hn' with h | h
          · cases h; exact Or.inr ⟨hrest, rfl⟩
          · exact absurd he (hrest _ h)
        · exact absurd rfl (hall (n, j) (by simp))
    · rw [AList.lookup_insert_ne (Ne.symm hid)]
      simp only [List.mem_cons, Prod.mk.injEq, forall_eq_or_imp]
      constructor
      · rintro (⟨n', hn', he⟩ | ⟨hall, hl⟩)
        · exact Or.inl ⟨n', Or.inr hn', he⟩
        · exact Or.inr ⟨⟨hid, hall⟩, hl⟩
      · rintro (⟨n', ⟨rfl, rfl⟩ | hn', he⟩ | ⟨⟨_, hall⟩, hl⟩)
        · exact absurd he hid
        · exact Or.inl ⟨n', hn', he⟩
        · exact Or.inr ⟨hall, hl⟩

theorem insertAll_mem (l : List (State × Nat)) (nodeSet : NodeSet) (id : String) :
    id ∈ l.foldl (fun s p => s.insert p.1.id p.2) nodeSet ↔ (∃ p ∈ l, p.1.id = id) ∨ id ∈ nodeSet := by
  induction l generalizing nodeSet with
  | nil => simp
  | cons p rest ih =>
    rw [List.foldl_cons, ih, AList.mem_insert]
    simp only [List.mem_cons, exists_eq_or_imp]
    rw [← or_assoc, or_comm (a := ∃ p ∈ rest, p.1.id = id), eq_comm (a := id)]

theorem indexNodes_lookup {ns : List State} (hnd : (ns.map (·.id)).Nodup) (id : String) (i : Nat) :
    (indexNodes ns).lookup id = some i ↔ ∃ n, ns[i]? = some n ∧ n.id = id := by
  have hnd' : (ns.zipIdx.map (·.1.id)).Nodup := by
    have : ns.zipIdx.map (·.1.id) = ns.map (·.id) := by
      rw [show (fun p : State × Nat => p.1.id) = State.id ∘ Prod.fst from rfl, ← List.map_map, List.zipIdx_map_fst]
    rwa [this]
  unfold indexNodes
  rw [insertAll_lookup _ _ hnd']
  simp [List.mk_mem_zipIdx_iff_getElem?]

theorem indexNodes_mem {ns : List State} (id : String) : id ∈ indexNodes ns ↔ ∃ n ∈ ns, n.id = id := by
  unfold indexNodes
  rw [insertAll_mem]
  simp only [AList.notMem_empty, or_false, Prod.exists]
  constructor
  · rintro ⟨n, i, hn, rfl⟩; exact ⟨n, List.fst_mem_of_mem_zipIdx hn, rfl⟩
  · rintro ⟨n, hn, rfl⟩
    obtain ⟨i, hi⟩ := List.getElem?_of_mem hn
    exact ⟨n, i, List.mk_mem_zipIdx_iff_getElem?.2 hi, rfl⟩

/-! ## Queries on a well-formed source -/

/-- The node with this id, or the zero `State`. -/
def nodeState (m : MemorySource) (id : String) : State := (m.orderedNodes.find? fun n => n.id = id).getD {}

theorem nodeState_of_not_isNode {m : MemorySource} {id : String} (h : ¬ m.IsNode id) : m.nodeState id = {} := by
  have : m.orderedNodes.find? (fun n => n.id = id) = none :=
    List.find?_eq_none.2 fun n hn he => h ⟨n, hn, by simpa using he⟩
  simp [nodeState, this]

theorem nodeState_id {m : MemorySource} {id : String} (h : m.IsNode id) : (m.nodeState id).id = id := by
  obtain ⟨n, hn, hid⟩ := h
  cases hf : m.orderedNodes.find? (fun n => n.id = id) with
  | none => exact absurd hid (by simpa using List.find?_eq_none.1 hf n hn)
  | some n' => simpa [nodeState, hf] using List.find?_some hf

theorem nodeState_mem {m : MemorySource} {id : String} (h : m.IsNode id) : m.nodeState id ∈ m.orderedNodes := by
  obtain ⟨n, hn, hid⟩ := h
  cases hf : m.orderedNodes.find? (fun n => n.id = id) with
  | none => exact absurd hid (by simpa using List.find?_eq_none.1 hf n hn)
  | some n' => simpa [nodeState, hf] using List.mem_of_find?_eq_some hf

theorem nodeState_id_ne {m : MemorySource} {id : String} : (m.nodeState id).id ≠ "" ↔ m.IsNode id ∧ id ≠ "" := by
  by_cases h : m.IsNode id
  · rw [nodeState_id h]; simp [h]
  · rw [nodeState_of_not_isNode h]; simp [h]

theorem WF.nodeState_eq {m : MemorySource} (hwf : m.WF) {n : State} (hn : n ∈ m.orderedNodes) :
    m.nodeState n.id = n := by
  cases hf : m.orderedNodes.find? (fun n' => n'.id = n.id) with
  | none => simpa using List.find?_eq_none.1 hf n hn
  | some n' =>
    have hid : n'.id = n.id := by simpa using List.find?_some hf
    have := List.inj_on_of_nodup_map hwf.nodup (List.mem_of_find?_eq_some hf) hn hid
    simp [nodeState, hf, this]

theorem WF.mem_nodes {m : MemorySource} (hwf : m.WF) {id : String} : id ∈ m.nodes ↔ m.IsNode id := by
  rw [mem_iff_lookup]
  constructor
  · rintro ⟨i, hi⟩
    obtain ⟨n, hn, hid⟩ := (hwf.nodes_iff id i).1 hi
    exact ⟨n, List.mem_of_getElem? hn, hid⟩
  · rintro ⟨n, hn, hid⟩
    obtain ⟨i, hi⟩ := List.getElem?_of_mem hn
    exact ⟨i, (hwf.nodes_iff id i).2 ⟨n, hi, hid⟩⟩

/-- **`State` (memory.go:60)** never panics on a well-formed source. -/
theorem WF.state_eq {m : MemorySource} (hwf : m.WF) (id : String) : m.state id = .ok (m.nodeState id) := by
  unfold state
  cases hl : m.nodes.lookup id with
  | none =>
    have : ¬ m.IsNode id := fun h => by rw [← hwf.mem_nodes, ← AList.lookup_isSome, hl] at h; cases h
    rw [nodeState_of_not_isNode this]
  | some i =>
    obtain ⟨n, hn, rfl⟩ := (hwf.nodes_iff id i).1 hl
    rw [hwf.nodeState_eq (List.mem_of_getElem? hn)]
    exact index_eq_ok.2 hn

theorem WF.nodeAt_eq {m : MemorySource} (hwf : m.WF) {id : String} (h : m.IsNode id) :
    m.nodeAt id = .ok (m.nodeState id) := by
  obtain ⟨i, hi⟩ := mem_iff_lookup.1 (hwf.mem_nodes.2 h)
  have := hwf.state_eq id
  simp only [state, hi] at this
  simpa only [nodeAt, hi, Option.getD_some] using this

/-- No migration is needed between two nodes. -/
def SameMigration (a b : State) : Prop := a.phase = b.phase ∧ a.migration = b.migration

instance (a b : State) : Decidable (SameMigration a b) := inferInstanceAs (Decidable (_ ∧ _))

theorem WF.scanUnmigrated_eq {m : MemorySource} (hwf : m.WF) (initial : State) (toSet : List String)
    (hto : ∀ dst ∈ toSet, m.IsNode dst) (found : String) :
    m.scanUnmigrated initial toSet found =
      .ok ((toSet.takeWhile fun dst => SameMigration initial (m.nodeState dst)).getLast?.getD found) := by
  induction toSet generalizing found with
  | nil => rfl
  | cons dst rest ih =>
    simp only [scanUnmigrated, hwf.nodeAt_eq (hto dst (by simp)), bind, Except.bind]
    change (if SameMigration initial (m.nodeState dst) then _ else _) = _
    by_cases hs : SameMigration initial (m.nodeState dst)
    · rw [if_pos hs, ih (fun d hd => hto d (by simp [hd]))]
      simp [hs, List.getLast?_cons]
    · rw [if_neg hs]
      simp [hs]

/-- What `NextVersionWithoutMigrations` computes: the last edge before the first one that needs a
migration. -/
def directVersion (m : MemorySource) (src : String) : String :=
  match m.edges.lookup src with
  | some toSet =>
    (toSet.takeWhile fun dst => SameMigration (m.nodeState src) (m.nodeState dst)).getLast?.getD ""
  | none => ""

/-- **`NextVersionWithoutMigrations` (memory.go:35)**: no panic, also for a version the source does not
know (it reads node 0, and then finds no edges). -/
theorem WF.nextVersionWithoutMigrations_eq {m : MemorySource} (hwf : m.WF) (src : String) :
    m.nextVersionWithoutMigrations src = .ok (m.directVersion src) := by
  unfold nextVersionWithoutMigrations directVersion
  cases he : m.edges.lookup src with
  | some toSet =>
    have hsrc : m.IsNode src := hwf.keys src (AList.lookup_isSome.1 (by simp [he]))
    simp only [hwf.nodeAt_eq hsrc, bind, Except.bind]
    exact hwf.scanUnmigrated_eq _ _ (hwf.targets src toSet he) ""
  | none =>
    have hnode : ∃ n, m.nodeAt src = .ok n := by
      by_cases h : m.IsNode src
      · exact ⟨_, hwf.nodeAt_eq h⟩
      · have hl : m.nodes.lookup src = none := by rw [AList.lookup_eq_none, hwf.mem_nodes]; exact h
        obtain ⟨n, rest, hcons⟩ := List.exists_cons_of_ne_nil hwf.nonempty
        exact ⟨n, by simp [nodeAt, hl, hcons, index]⟩
    obtain ⟨n, hn⟩ := hnode
    simp [hn, bind, Except.bind]

/-- A direct update needs no migration. -/
theorem directVersion_sameMigration {m : MemorySource} {src dst : String} (h : m.directVersion src = dst)
    (hne : dst ≠ "") : SameMigration (m.nodeState src) (m.nodeState dst) := by
  unfold directVersion at h
  split at h
  · rename_i toSet _
    generalize htake : (toSet.takeWhile fun dst => SameMigration (m.nodeState src) (m.nodeState dst)) = l at h
    cases hl : l.getLast? with
    | none => rw [hl] at h; exact absurd h.symm hne
    | some d =>
      rw [hl] at h
      simp only [Option.getD_some] at h
      subst h
      have hd := List.mem_of_getLast? hl
      rw [← htake] at hd
      simpa using List.mem_takeWhile_imp hd
  · exact absurd h.symm hne

/-! ## Edges -/

def Edge (m : MemorySource) (src dst : String) : Prop := ∃ toSet, m.edges.lookup src = some toSet ∧ dst ∈ toSet

theorem nextVersion_edge {m : MemorySource} {src : String} (h : m.nextVersion src ≠ "") :
    m.Edge src (m.nextVersion src) := by
  unfold nextVersion at h ⊢
  cases he : m.edges.lookup src with
  | none => simp [he] at h
  | some toSet =>
    cases hl : toSet.getLast? with
    | none => simp [he, hl] at h
    | some dst => exact ⟨toSet, he, by simpa [hl] using List.mem_of_getLast? hl⟩

theorem WF.edge_isNode {m : MemorySource} (hwf : m.WF) {src dst : String} (h : m.Edge src dst) :
    m.IsNode src ∧ m.IsNode dst := by
  obtain ⟨toSet, he, hd⟩ := h
  exact ⟨hwf.keys src (AList.lookup_isSome.1 (by simp [he])), hwf.targets src toSet he dst hd⟩

theorem WF.nextVersion_isNode {m : MemorySource} (hwf : m.WF) {src : String} (h : m.nextVersion src ≠ "") :
    m.IsNode (m.nextVersion src) :=
  (hwf.edge_isNode (nextVersion_edge h)).2

theorem WF.nextVersion_of_not_isNode {m : MemorySource} (hwf : m.WF) {src : String} (h : ¬ m.IsNode src) :
    m.nextVersion src = "" := by
  by_contra hne
  exact h (hwf.edge_isNode (nextVersion_edge hne)).1

end MemorySource

end SpiceDBOperator
