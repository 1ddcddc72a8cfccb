import SpiceDBOperator.Updates.Accept
import SpiceDBOperator.Updates.Subgraph

/-!
# Re-rooting twice

`Subgraph` keeps the representation and composes: the subgraph of a subgraph is a subgraph of the source
(`subgraph_composes`). The empty id is the exception. A node may have it, `NewMemorySource` does not mind, but to
`Subgraph` an empty head means no head, and it keeps the whole source (memory.go:71): `emptyId_keeps_everything`.
-/

namespace SpiceDBOperator

open Golang

namespace MemorySource

theorem RestrictsTo.headId_eq {m sub : MemorySource} {head : String} (hr : RestrictsTo m head sub) :
    sub.headId = head := by
  obtain ⟨i, n, hn, hid, hsuf⟩ := hr.suffix
  rw [headId, hsuf, List.head?_drop, hn]
  exact hid

/-- A subgraph of a subgraph is the subgraph of the source at the same version. -/
theorem WF.subgraph_subgraph {m sub : MemorySource} (hwf : m.WF) {head : String} (hnode : m.IsNode (m.root head))
    (hsub : m.subgraph head = .ok (.ok sub)) {g : String} (hg : sub.IsNode g) :
    sub.subgraph g = m.subgraph (sub.root g) := by
  obtain ⟨n, hn, hid⟩ := hnode
  obtain ⟨i, hi⟩ := List.getElem?_of_mem hn
  have hlt : i < m.orderedNodes.length := (List.getElem?_eq_some_iff.1 hi).1
  cases hsub.symm.trans (hwf.subgraph_eq_cutAt hi hid)
  have hwf' := hwf.cutAt hlt
  have hr : RestrictsTo m (m.root head) (m.cutAt i) := ⟨hwf', ⟨i, n, hi, hid, rfl⟩, cutAt_lookup m i⟩
  obtain ⟨n', hn', hid'⟩ := hwf'.root_isNode hg
  obtain ⟨j, hj⟩ := List.getElem?_of_mem hn'
  have hij : m.orderedNodes[i + j]? = some n' := by rw [← List.getElem?_drop]; exact hj
  -- the version looked up in the source is the one looked up in the subgraph, also when it is empty
  have hroot : m.root ((m.cutAt i).root g) = (m.cutAt i).root g := by
    by_cases hempty : (m.cutAt i).root g = ""
    · have hg' : g = "" := by
        by_contra hne
        rw [root_of_ne hne] at hempty
        exact hne hempty
      have hhead : m.root head = "" := by rw [← hr.headId_eq, ← hempty, hg', root, if_pos rfl]
      have hfirst : head = "" := by
        by_contra hne
        rw [root_of_ne hne] at hhead
        exact hne hhead
      rw [hempty, ← hfirst, hhead, hfirst]
    · exact root_of_ne hempty
  rw [hwf'.subgraph_eq_cutAt hj hid', cutAt_cutAt, hwf.subgraph_eq_cutAt hij (hid'.trans hroot.symm)]

/-- **`Subgraph` preserves the representation and composes**, where the empty id stands for the first node of the
source it is looked up in. -/
theorem subgraph_composes (m : MemorySource) (hwf : m.WF) (head : String) (hnode : m.IsNode head) :
    (∃ sub, m.subgraph head = .ok (.ok sub) ∧ sub.WF ∧
      (∃ (i : Nat) (n : State), m.orderedNodes[i]? = some n ∧ n.id = m.root head ∧
        sub.orderedNodes = m.orderedNodes.drop i) ∧
      (∀ x, sub.edges.lookup x =
        if sub.IsNode x then (m.edges.lookup x).map (·.filter fun dst => sub.IsNode dst) else none) ∧
      (∀ x, sub.IsNode x → sub.state x = m.state x) ∧
      (∀ x, x ≠ m.root head → sub.latestVersion x = m.root head) ∧
      ∀ g, sub.IsNode g → sub.subgraph g = m.subgraph (sub.root g)) ∧
    ∀ nodes edges m', newMemorySource nodes edges = .ok (.ok m') → m'.WF := by
  have hrootNode := hwf.root_isNode hnode
  obtain ⟨sub, hsub, hr⟩ := hwf.subgraph_root hrootNode
  refine ⟨⟨sub, hsub, hr.wf, hr.suffix, hr.lookup, fun x hx => ?_, fun x hx => ?_,
    fun g hg => hwf.subgraph_subgraph hrootNode hsub hg⟩, fun _ _ _ hnew => (newMemorySource_wf hnew).2⟩
  · rw [hr.wf.state_eq, hwf.state_eq, hr.nodeState_eq hwf hx]
  · rw [latestVersion_eq, hr.headId_eq, if_neg hx]

end MemorySource

/-- A channel that `NewMemorySource` accepts: its oldest node has the empty id. -/
def emptyId : MemorySource :=
  channelSource [{ id := "v1", tag := "v1" }, { id := "", tag := "v0" }] ([⟨"", ["v1"]⟩].toAList)

theorem emptyId_wf : emptyId.WF := by
  have hnew : newMemorySource [{ id := "v1", tag := "v1" }, { id := "", tag := "v0" }] ([⟨"", ["v1"]⟩].toAList) =
      .ok (.ok emptyId) := rfl
  exact (newMemorySource_wf hnew).2

/-- Its subgraph at the empty id is not the suffix that starts there: it keeps both nodes and starts at `v1`. -/
theorem emptyId_keeps_everything :
    emptyId.WF ∧ emptyId.IsNode "" ∧ ∃ sub, emptyId.subgraph "" = .ok (.ok sub) ∧
      sub.orderedNodes.map (·.id) = ["v1", ""] ∧
      ¬ ∃ (i : Nat) (n : State), emptyId.orderedNodes[i]? = some n ∧ n.id = "" ∧
        sub.orderedNodes = emptyId.orderedNodes.drop i := by
  refine ⟨emptyId_wf, by decide, _, rfl, by decide, ?_⟩
  rintro ⟨i, n, hi, hid, hdrop⟩
  match i, hi with
  | 0, hi => cases hi; exact absurd hid (by decide)
  | 1, _ => exact absurd hdrop (by decide)
  | i + 2, hi => simp [emptyId, channelSource] at hi

/-- The chain `v1`, `v2`, `v3` cut at `v2` and then at `v1`. -/
theorem subgraph_composes_chain :
    ∃ m sub, newMemorySource [{ id := "v3" }, { id := "v2" }, { id := "v1" }]
        ([⟨"v1", ["v2", "v3"]⟩, ⟨"v2", ["v3"]⟩].toAList) = .ok (.ok m) ∧
      m.subgraph "v2" = .ok (.ok sub) ∧ sub.orderedNodes.map (·.id) = ["v2", "v1"] ∧
      sub.subgraph "v1" = m.subgraph "v1" := by
  have hnew : newMemorySource [{ id := "v3" }, { id := "v2" }, { id := "v1" }]
      ([⟨"v1", ["v2", "v3"]⟩, ⟨"v2", ["v3"]⟩].toAList) = .ok (.ok _) := rfl
  obtain ⟨⟨sub, hsub, _, _, _, _, _, hcompose⟩, _⟩ :=
    MemorySource.subgraph_composes _ (newMemorySource_wf hnew).2 "v2" (by decide)
  refine ⟨_, sub, hnew, hsub, ?_, ?_⟩
  · cases hsub
    decide
  · have hone := hcompose "v1" (by cases hsub; decide)
    rwa [MemorySource.root_of_ne (by decide)] at hone

end SpiceDBOperator
