import SpiceDBOperator.Updates.WellFormed

/-!
# `MemorySource.Subgraph` (memory.go:68): re-rooting a channel at a pinned version

The pinned version becomes the head: the nodes from its position on are kept, renumbered, and every
adjacency list is cut down to them in the same order. `RestrictsTo` states this once; every later
argument about a pinned version uses it and never opens `subgraph`.
-/

namespace SpiceDBOperator

open Golang

namespace MemorySource

/-- `x` stands at or after `head` in the newest-first node list: same age or older. -/
def AtOrAfter (m : MemorySource) (head x : String) : Prop :=
  ∃ (i j : Nat) (n n' : State), i ≤ j ∧ m.orderedNodes[i]? = some n ∧ n.id = head ∧
    m.orderedNodes[j]? = some n' ∧ n'.id = x

structure RestrictsTo (m : MemorySource) (head : String) (sub : MemorySource) : Prop where
  wf : sub.WF
  suffix : ∃ (i : Nat) (n : State), m.orderedNodes[i]? = some n ∧ n.id = head ∧
    sub.orderedNodes = m.orderedNodes.drop i
  lookup : ∀ x, sub.edges.lookup x =
    if sub.IsNode x then (m.edges.lookup x).map (·.filter fun dst => sub.IsNode dst) else none

theorem WF.index_unique {m : MemorySource} (hwf : m.WF) {i j : Nat} {n n' : State}
    (hi : m.orderedNodes[i]? = some n) (hj : m.orderedNodes[j]? = some n') (hid : n.id = n'.id) : i = j := by
  have h1 := (hwf.nodes_iff n.id i).2 ⟨n, hi, rfl⟩
  have h2 := (hwf.nodes_iff n.id j).2 ⟨n', hj, hid.symm⟩
  exact Option.some.inj (h1.symm.trans h2)

theorem WF.subgraph_missing {m : MemorySource} (hwf : m.WF) {head : String} (hne : head ≠ "") (h : ¬ m.IsNode head) :
    m.subgraph head = .ok (.error (.notInGraph head)) := by
  have hl : m.nodes.lookup head = none := by rw [AList.lookup_eq_none, hwf.mem_nodes]; exact h
  simp [subgraph, hne, hl]

/-- `OrderedNodes[0].ID`. -/
def headId (m : MemorySource) : String := (m.orderedNodes.head?.map (·.id)).getD ""

theorem WF.headId_isNode {m : MemorySource} (hwf : m.WF) : m.IsNode m.headId := by
  obtain ⟨head, rest, hcons⟩ := List.exists_cons_of_ne_nil hwf.nonempty
  exact ⟨head, by simp [hcons], by simp [headId, hcons]⟩

theorem latestVersion_eq (m : MemorySource) (x : String) :
    m.latestVersion x = if x = m.headId then "" else m.headId := by
  unfold latestVersion
  cases hm : m.orderedNodes with
  | nil =>
    have hhead : m.headId = "" := by simp [headId, hm]
    rw [hhead]
    split_ifs <;> rfl
  | cons head rest =>
    have hhead : m.headId = head.id := by simp [headId, hm]
    rw [hhead]

/-- The version that `Subgraph head` makes the head: no version stands for the head of the channel. -/
def root (m : MemorySource) (head : String) : String := if head = "" then m.headId else head

theorem root_of_ne {m : MemorySource} {head : String} (hne : head ≠ "") : m.root head = head := if_neg hne

theorem WF.root_isNode {m : MemorySource} (hwf : m.WF) {head : String} (h : m.IsNode head) :
    m.IsNode (m.root head) := by
  unfold root
  split
  · exact hwf.headId_isNode
  · exact h

theorem WF.root_index {m : MemorySource} (hwf : m.WF) (head : String) :
    (if head = "" then some 0 else m.nodes.lookup head) = m.nodes.lookup (m.root head) := by
  by_cases hempty : head = ""
  · obtain ⟨n, rest, hcons⟩ := List.exists_cons_of_ne_nil hwf.nonempty
    rw [root, if_pos hempty, if_pos hempty]
    exact ((hwf.nodes_iff m.headId 0).2 ⟨n, by simp [hcons], by simp [headId, hcons]⟩).symm
  · rw [root_of_ne hempty, if_neg hempty]

/-- What `Subgraph` builds from the index of the new head (memory.go:78-105). -/
def cutAt (m : MemorySource) (i : Nat) : MemorySource :=
  { orderedNodes := m.orderedNodes.drop i
    nodes := indexNodes (m.orderedNodes.drop i)
    edges := mapRestrict (fun src => src ∈ indexNodes (m.orderedNodes.drop i))
      (fun toSet => toSet.filter fun n => n ∈ indexNodes (m.orderedNodes.drop i)) m.edges }

theorem WF.subgraph_eq_cutAt {m : MemorySource} (hwf : m.WF) {head : String} {i : Nat} {n : State}
    (hn : m.orderedNodes[i]? = some n) (hid : n.id = m.root head) : m.subgraph head = .ok (.ok (m.cutAt i)) := by
  have hi : m.nodes.lookup (m.root head) = some i := (hwf.nodes_iff _ i).2 ⟨n, hn, hid⟩
  have hlt : i < m.orderedNodes.length := (List.getElem?_eq_some_iff.1 hn).1
  simp [subgraph, hwf.root_index, hi, sliceFrom, Nat.le_of_lt hlt, bind, Except.bind, cutAt]

theorem cutAt_lookup (m : MemorySource) (i : Nat) (x : String) : (m.cutAt i).edges.lookup x =
    if (m.cutAt i).IsNode x then (m.edges.lookup x).map (·.filter fun dst => (m.cutAt i).IsNode dst) else none := by
  -- membership in the renumbered index is being a node of the suffix
  have hdec : ∀ y, (decide (y ∈ indexNodes (m.orderedNodes.drop i))) = decide ((m.cutAt i).IsNode y) :=
    fun y => decide_eq_decide.2 (indexNodes_mem y)
  conv_lhs => rw [cutAt]
  simp only [mapRestrict_lookup, hdec, decide_eq_true_eq]

theorem WF.cutAt {m : MemorySource} (hwf : m.WF) {i : Nat} (hlt : i < m.orderedNodes.length) : (m.cutAt i).WF := by
  have hnd : ((m.orderedNodes.drop i).map (·.id)).Nodup := by
    rw [List.map_drop]; exact hwf.nodup.sublist (List.drop_sublist _ _)
  refine ⟨by simp [MemorySource.cutAt, hlt], hnd, fun id j => indexNodes_lookup hnd id j, ?_, ?_⟩
  · intro src hsrc
    obtain ⟨toSet, ht⟩ := mem_iff_lookup.1 hsrc
    rw [cutAt_lookup] at ht
    by_contra hnot
    simp [hnot] at ht
  · intro src toSet ht dst hd
    rw [cutAt_lookup] at ht
    split at ht
    · obtain ⟨l, _, rfl⟩ := Option.map_eq_some_iff.1 ht
      simpa using (List.mem_filter.1 hd).2
    · cases ht

/-- **`Subgraph`** at a node: it never panics, and the result is the source restricted to that node
and the older ones. -/
theorem WF.subgraph_root {m : MemorySource} (hwf : m.WF) {head : String} (h : m.IsNode (m.root head)) :
    ∃ sub, m.subgraph head = .ok (.ok sub) ∧ RestrictsTo m (m.root head) sub := by
  obtain ⟨n, hn, hid⟩ := h
  obtain ⟨i, hi⟩ := List.getElem?_of_mem hn
  have hlt : i < m.orderedNodes.length := (List.getElem?_eq_some_iff.1 hi).1
  exact ⟨m.cutAt i, hwf.subgraph_eq_cutAt hi hid, hwf.cutAt hlt, ⟨i, n, hi, hid, rfl⟩, cutAt_lookup m i⟩

/-- Cutting twice is cutting once. -/
theorem cutAt_cutAt (m : MemorySource) (i j : Nat) : (m.cutAt i).cutAt j = m.cutAt (i + j) := by
  have hdrop : (m.cutAt i).orderedNodes.drop j = m.orderedNodes.drop (i + j) := by simp [cutAt]
  -- what the second cut keeps, the first one has kept
  have hkeep : ∀ x, x ∈ indexNodes (m.orderedNodes.drop (i + j)) → x ∈ indexNodes (m.orderedNodes.drop i) := by
    intro x
    rw [indexNodes_mem, indexNodes_mem, ← List.drop_drop]
    rintro ⟨n, hn, hid⟩
    exact ⟨n, List.mem_of_mem_drop hn, hid⟩
  unfold cutAt at hdrop ⊢
  simp only at hdrop ⊢
  rw [hdrop, mapRestrict_mapRestrict]
  · intro x hx
    exact decide_eq_true (hkeep x (of_decide_eq_true hx))
  · intro toSet
    rw [List.filter_filter]
    refine List.filter_congr fun x _ => ?_
    by_cases hx : x ∈ indexNodes (m.orderedNodes.drop (i + j))
    · simp [hx, hkeep x hx]
    · simp [hx]

theorem WF.subgraph_ok {m : MemorySource} (hwf : m.WF) {head : String} (hne : head ≠ "") (h : m.IsNode head) :
    ∃ sub, m.subgraph head = .ok (.ok sub) ∧ RestrictsTo m head sub := by
  have hroot := hwf.subgraph_root (hwf.root_isNode h)
  rwa [root_of_ne hne] at hroot

namespace RestrictsTo

variable {m sub : MemorySource} {head : String}

theorem isNode_iff (hr : RestrictsTo m head sub) (hwf : m.WF) (x : String) :
    sub.IsNode x ↔ m.AtOrAfter head x := by
  obtain ⟨i, n, hn, hid, hsuf⟩ := hr.suffix
  simp only [IsNode, hsuf]
  constructor
  · rintro ⟨n', hn', rfl⟩
    obtain ⟨j, hj⟩ := List.getElem?_of_mem hn'
    rw [List.getElem?_drop] at hj
    exact ⟨i, i + j, n, n', by omega, hn, hid, hj, rfl⟩
  · rintro ⟨i', j, n₁, n', hij, h1, hid1, hj, hx⟩
    obtain rfl : i' = i := hwf.index_unique h1 hn (hid1.trans hid.symm)
    refine ⟨n', List.mem_of_getElem? (i := j - i') ?_, hx⟩
    rw [List.getElem?_drop, show i' + (j - i') = j by omega]
    exact hj

theorem nodeState_eq (hr : RestrictsTo m head sub) (hwf : m.WF) {x : String} (h : sub.IsNode x) :
    sub.nodeState x = m.nodeState x := by
  obtain ⟨i, n, _, _, hsuf⟩ := hr.suffix
  obtain ⟨n', hn', rfl⟩ := h
  rw [hr.wf.nodeState_eq hn']
  rw [hsuf] at hn'
  exact (hwf.nodeState_eq (List.mem_of_mem_drop hn')).symm

/-- The last edge left is the last entry of the source's list that is a node left. -/
theorem nextVersion_iff (hr : RestrictsTo m head sub) {x y : String} (hy : y ≠ "") :
    sub.nextVersion x = y ↔ sub.IsNode x ∧ sub.IsNode y ∧
      ∃ before after, m.edges.lookup x = some (before ++ y :: after) ∧ ∀ z ∈ after, ¬ sub.IsNode z := by
  have hlast : sub.nextVersion x = y ↔ ∃ l, sub.edges.lookup x = some l ∧ l.getLast? = some y := by
    unfold nextVersion
    cases sub.edges.lookup x with
    | none => simp [hy.symm]
    | some l => cases hl : l.getLast? <;> simp [hl, hy.symm]
  rw [hlast, hr.lookup]
  constructor
  · rintro ⟨l, hl, hget⟩
    split at hl
    · rename_i hx
      obtain ⟨full, hfull, rfl⟩ := Option.map_eq_some_iff.1 hl
      rw [List.getLast?_filter, List.find?_eq_some_iff_append] at hget
      obtain ⟨hnode, after, before, hrev, hafter⟩ := hget
      refine ⟨hx, by simpa using hnode, before.reverse, after.reverse, ?_, fun z hz => ?_⟩
      · rw [hfull, ← List.reverse_reverse full, hrev]
        simp
      · simpa using hafter z (List.mem_reverse.1 hz)
    · cases hl
  · rintro ⟨hx, hnode, before, after, hlookup, hafter⟩
    refine ⟨_, by rw [if_pos hx, hlookup]; rfl, ?_⟩
    rw [List.getLast?_filter, List.find?_eq_some_iff_append]
    refine ⟨by simpa using hnode, after.reverse, before.reverse, by simp, fun z hz => ?_⟩
    simpa using hafter z (List.mem_reverse.1 hz)

/-- The edges left are the source's edges between the nodes left. -/
theorem edge_iff (hr : RestrictsTo m head sub) (x y : String) :
    sub.Edge x y ↔ m.Edge x y ∧ sub.IsNode x ∧ sub.IsNode y := by
  unfold Edge
  simp only [hr.lookup]
  constructor
  · rintro ⟨l, hl, hy⟩
    split at hl
    · rename_i hx
      obtain ⟨l', hl', rfl⟩ := Option.map_eq_some_iff.1 hl
      simp only [List.mem_filter, decide_eq_true_eq] at hy
      exact ⟨⟨l', hl', hy.1⟩, hx, hy.2⟩
    · cases hl
  · rintro ⟨⟨l, hl, hy⟩, hx, hy'⟩
    exact ⟨l.filter fun dst => sub.IsNode dst, by simp [hx, hl], by simp [hy, hy']⟩

end RestrictsTo

end MemorySource

end SpiceDBOperator
