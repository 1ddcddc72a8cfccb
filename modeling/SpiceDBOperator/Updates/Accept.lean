import SpiceDBOperator.Walk
import SpiceDBOperator.Updates.WellFormed

/-!
# What `NewMemorySource` (memory.go:129) accepts

* `chase_halts`: the chase of last edges ends within `chaseRounds` rounds, on every edge map: the nodes
  it has visited are distinct, and each of them is the last edge of some entry.
* `chase_ok_iff`: it arrives exactly when some number of `NextVersion` steps does.
* `newMemorySource_wf`: an accepted channel is `WF`, whatever its node ids are.
* `newMemorySource_ok_iff`: the accepted channels, as conditions on the node list and the edge map.
-/

namespace SpiceDBOperator

open Golang Walk

namespace MemorySource

/-! ## The chase -/

/-- Everything a step of the chase can land on, apart from `""`. -/
def lastEdges (m : MemorySource) : List String := m.edges.entries.map fun e => e.2.getLast?.getD ""

theorem nextVersion_mem_lastEdges (m : MemorySource) (src : String) :
    m.nextVersion src = "" ∨ m.nextVersion src ∈ m.lastEdges := by
  unfold nextVersion lastEdges
  cases he : m.edges.lookup src with
  | none => exact Or.inl rfl
  | some toSet => exact Or.inr (List.mem_map.2 ⟨⟨src, toSet⟩, AList.mem_lookup_iff.1 he, rfl⟩)

/-- The visited set is `Nodup` and made of last edges, so it cannot outgrow the edge map. -/
theorem chase_isSome (m : MemorySource) (src head : String) :
    ∀ (fuel : Nat) (current : String) (visited : List String), visited.Nodup → visited ⊆ m.lastEdges →
      (current = "" ∨ current ∈ m.lastEdges) → m.edges.entries.length < fuel + visited.length →
      (m.chase src head fuel current visited).isSome := by
  intro fuel
  induction fuel with
  | zero =>
    intro current visited hnd hsub _ hlen
    have := (hnd.subperm hsub).length_le
    simp only [lastEdges, List.length_map] at this
    omega
  | succ fuel ih =>
    intro current visited hnd hsub hcur hlen
    unfold chase
    by_cases hhead : current = head
    · rw [if_pos hhead]; rfl
    by_cases hvis : current ∈ visited
    · rw [if_neg hhead, if_pos hvis]; rfl
    by_cases hempty : current = ""
    · rw [if_neg hhead, if_neg hvis, if_pos hempty]; rfl
    rw [if_neg hhead, if_neg hvis, if_neg hempty]
    refine ih _ _ ?_ ?_ (m.nextVersion_mem_lastEdges current) (by simp; omega)
    · exact hnd.append (by simp) (by simpa using hvis)
    · intro x hx
      rcases List.mem_append.1 hx with hx | hx
      · exact hsub hx
      · rw [List.mem_singleton.1 hx]
        exact hcur.resolve_left hempty

/-- A chase that ended is not changed by more rounds. -/
theorem chase_mono (m : MemorySource) (src head : String) {r : Option SourceError} {fuel fuel' : Nat}
    (hle : fuel ≤ fuel') {current : String} {visited : List String}
    (h : m.chase src head fuel current visited = some r) : m.chase src head fuel' current visited = some r := by
  induction fuel generalizing fuel' current visited with
  | zero => simp [chase] at h
  | succ fuel ih =>
    obtain ⟨n, rfl⟩ : ∃ n, fuel' = n + 1 := ⟨fuel' - 1, by omega⟩
    unfold chase at h ⊢
    split_ifs at h ⊢
    · exact h
    · exact h
    · exact h
    · exact ih (Nat.le_of_succ_le_succ hle) h

/-- **The chase ends (memory.go:116-124)** on every edge map, cyclic or not. -/
theorem chase_halts (m : MemorySource) (src head : String) :
    ∃ r, ∀ fuel, m.chaseRounds ≤ fuel → m.chase src head fuel (m.nextVersion src) [] = some r := by
  have hsome := m.chase_isSome src head m.chaseRounds (m.nextVersion src) [] (by simp) (by simp)
    (m.nextVersion_mem_lastEdges src) (by simp [chaseRounds])
  obtain ⟨r, hr⟩ := Option.isSome_iff_exists.1 hsome
  exact ⟨r, fun fuel hle => m.chase_mono src head hle hr⟩

/-- What an ended chase means. The invariant: `visited` is the walk so far, and it has not met the head.
A cycle means that the walk goes on among the visited nodes, and `""` leads nowhere. -/
theorem chase_result (m : MemorySource) (src head x : String) (hempty : m.nextVersion "" = "") (hhead : head ≠ "") :
    ∀ (fuel j : Nat) (r : Option SourceError), (∀ i < j, m.nextVersion^[i] x ≠ head) →
      m.chase src head fuel (m.nextVersion^[j] x) ((List.range j).map fun i => m.nextVersion^[i] x) = some r →
      (r = none ↔ ∃ k, m.nextVersion^[k] x = head) := by
  intro fuel
  induction fuel with
  | zero => intro j r _ h; simp [chase] at h
  | succ fuel ih =>
    intro j r hmiss h
    unfold chase at h
    split at h
    · rename_i hcur
      cases h
      exact ⟨fun _ => ⟨j, hcur⟩, fun _ => rfl⟩
    rename_i hcur
    split at h
    · rename_i hvis
      cases h
      obtain ⟨i, hi, he⟩ := List.mem_map.1 hvis
      rw [List.mem_range] at hi
      refine ⟨nofun, ?_⟩
      rintro ⟨k, hk⟩
      obtain ⟨k', hk', he'⟩ := iterate_mem_prefix hi he.symm k
      exact absurd (he'.symm.trans hk) (hmiss k' hk')
    split at h
    · rename_i hstop
      cases h
      refine ⟨nofun, ?_⟩
      rintro ⟨k, hk⟩
      by_cases hkj : k < j
      · exact absurd hk (hmiss k hkj)
      · have : m.nextVersion^[k] x = "" := by
          rw [← Nat.sub_add_cancel (Nat.le_of_not_lt hkj), Function.iterate_add_apply, hstop]
          exact Function.iterate_fixed hempty _
        exact absurd (hk.symm.trans this) hhead
    · refine ih (j + 1) r ?_ ?_
      · intro i hi
        rcases Nat.lt_succ_iff_lt_or_eq.1 hi with hi | rfl
        · exact hmiss i hi
        · exact hcur
      · rw [List.range_succ, List.map_append, Function.iterate_succ_apply']
        exact h

theorem chase_ok_iff (m : MemorySource) (src head : String) (hempty : m.nextVersion "" = "") (hhead : head ≠ "") :
    m.chase src head m.chaseRounds (m.nextVersion src) [] = some none ↔
      ∃ k, m.nextVersion^[k] (m.nextVersion src) = head := by
  obtain ⟨r, hr⟩ := m.chase_halts src head
  have hr := hr m.chaseRounds le_rfl
  have hres := m.chase_result src head (m.nextVersion src) hempty hhead m.chaseRounds 0 r (by simp) (by simpa using hr)
  rw [hr, Option.some.injEq]
  exact hres

theorem pathsToHead_halts (m : MemorySource) (head : String) (ns : List State) :
    ∃ r, ∀ fuel, m.chaseRounds ≤ fuel → m.pathsToHead head fuel ns = some r := by
  induction ns with
  | nil => exact ⟨none, fun _ _ => rfl⟩
  | cons n rest ih =>
    obtain ⟨r, hr⟩ := ih
    by_cases hn : n.id = head
    · exact ⟨r, fun fuel hle => by simp only [pathsToHead, if_pos hn]; exact hr fuel hle⟩
    obtain ⟨c, hc⟩ := m.chase_halts n.id head
    cases c with
    | none => exact ⟨r, fun fuel hle => by simp only [pathsToHead, if_neg hn, hc fuel hle]; exact hr fuel hle⟩
    | some err => exact ⟨some err, fun fuel hle => by simp only [pathsToHead, if_neg hn, hc fuel hle]⟩

theorem pathsToHead_ok_iff (m : MemorySource) (head : String) (hempty : m.nextVersion "" = "") (hhead : head ≠ "")
    (ns : List State) :
    m.pathsToHead head m.chaseRounds ns = some none ↔ ∀ n ∈ ns, ∃ k, m.nextVersion^[k] n.id = head := by
  induction ns with
  | nil => simp [pathsToHead]
  | cons n rest ih =>
    rw [List.forall_mem_cons, ← ih]
    by_cases hn : n.id = head
    · simp only [pathsToHead, if_pos hn]
      exact ⟨fun h => ⟨⟨0, hn⟩, h⟩, fun h => h.2⟩
    have hstep : (∃ k, m.nextVersion^[k] n.id = head) ↔ ∃ k, m.nextVersion^[k] (m.nextVersion n.id) = head := by
      constructor
      · rintro ⟨k, hk⟩
        cases k with
        | zero => exact absurd hk hn
        | succ k => exact ⟨k, hk⟩
      · rintro ⟨k, hk⟩; exact ⟨k + 1, hk⟩
    rw [hstep, ← m.chase_ok_iff n.id head hempty hhead]
    obtain ⟨c, hc⟩ := m.chase_halts n.id head
    have hc := hc m.chaseRounds le_rfl
    cases c with
    | none => simp [pathsToHead, hn, hc]
    | some err => simp [pathsToHead, hn, hc]

/-- **`validateAllNodesPathToHead` (memory.go:108)** as a whole: the outer loop's answer, with no fault. -/
theorem validateAllNodesPathToHead_ok (m : MemorySource) {head : State} (hhead : m.orderedNodes.head? = some head)
    {r : Option SourceError} :
    m.validateAllNodesPathToHead = .ok r ↔ m.pathsToHead head.id m.chaseRounds m.orderedNodes = some r := by
  obtain ⟨r', hr'⟩ := m.pathsToHead_halts head.id m.orderedNodes
  have hr' := hr' _ le_rfl
  have hindex : index m.orderedNodes 0 = .ok head := index_eq_ok.2 (by rw [← hhead, List.head?_eq_getElem?])
  simp only [validateAllNodesPathToHead, hindex, bind, Except.bind, hr', Except.ok.injEq, Option.some.injEq]

theorem validateAllNodesPathToHead_returns (m : MemorySource) (hne : m.orderedNodes ≠ []) :
    ∃ r, m.validateAllNodesPathToHead = .ok r := by
  obtain ⟨head, rest, hcons⟩ := List.exists_cons_of_ne_nil hne
  obtain ⟨r, hr⟩ := m.pathsToHead_halts head.id m.orderedNodes
  exact ⟨r, (m.validateAllNodesPathToHead_ok (by rw [hcons]; rfl)).2 (hr _ le_rfl)⟩

end MemorySource

/-! ## The checks before it -/

theorem buildNodeSet_ok {ns : List State} {i : Nat} {nodeSet nodeSet' : NodeSet} :
    buildNodeSet ns i nodeSet = .ok nodeSet' ↔
      (ns.map (·.id)).Nodup ∧ (∀ n ∈ ns, n.id ∉ nodeSet) ∧
        nodeSet' = (ns.zipIdx i).foldl (fun s p => s.insert p.1.id p.2) nodeSet := by
  induction ns generalizing i nodeSet with
  | nil => simp [buildNodeSet, eq_comm]
  | cons n rest ih =>
    unfold buildNodeSet
    by_cases hn : n.id ∈ nodeSet
    · rw [if_pos hn]
      refine ⟨nofun, fun h => absurd hn (h.2.1 n (by simp))⟩
    · rw [if_neg hn, ih]
      simp only [List.map_cons, List.nodup_cons, List.mem_map, not_exists, not_and, List.forall_mem_cons,
        AList.mem_insert, not_or, List.zipIdx_cons, List.foldl_cons]
      constructor
      · rintro ⟨hnd, hout, rfl⟩
        exact ⟨⟨fun n' hn' => (hout n' hn').1, hnd⟩, ⟨hn, fun n' hn' => (hout n' hn').2⟩, rfl⟩
      · rintro ⟨⟨hfresh, hnd⟩, ⟨_, hout⟩, rfl⟩
        exact ⟨hnd, fun n' hn' => ⟨hfresh n' hn', hout n' hn'⟩, rfl⟩

theorem checkEdge_none {nodeSet : NodeSet} {head : State} {src : String} {toSet : List String} :
    checkEdge nodeSet head src toSet = none ↔
      src ∈ nodeSet ∧ (∀ dst ∈ toSet, dst ∈ nodeSet) ∧ (toSet = [] → src = head.id) := by
  unfold checkEdge
  by_cases hsrc : src ∈ nodeSet
  · rw [if_neg (not_not_intro hsrc)]
    cases hf : toSet.find? fun dst => dst ∉ nodeSet with
    | some dst =>
      have hdst : dst ∉ nodeSet := by simpa using List.find?_some hf
      refine ⟨nofun, fun h => absurd (h.2.1 dst (List.mem_of_find?_eq_some hf)) hdst⟩
    | none =>
      have hall : ∀ dst ∈ toSet, dst ∈ nodeSet := by simpa using hf
      rw [show (if toSet = [] ∧ src ≠ head.id then some (SourceError.noOutgoingEdges src) else none) = none ↔
        (toSet = [] → src = head.id) by simp]
      exact ⟨fun h => ⟨hsrc, hall, h⟩, fun h => h.2.2⟩
  · rw [if_pos hsrc]
    exact ⟨nofun, fun h => absurd h.1 hsrc⟩

theorem checkEdges_none {nodeSet : NodeSet} {head : State} {es : List (Sigma fun _ : String => List String)} :
    checkEdges nodeSet head es = none ↔ ∀ e ∈ es, checkEdge nodeSet head e.1 e.2 = none := by
  induction es with
  | nil => simp [checkEdges]
  | cons e rest ih =>
    unfold checkEdges
    rw [List.forall_mem_cons, ← ih]
    cases checkEdge nodeSet head e.1 e.2 <;> simp

/-! ## The constructor -/

/-- The source `NewMemorySource` builds when it accepts. -/
def channelSource (nodes : List State) (edges : EdgeSet) : MemorySource :=
  { orderedNodes := nodes, nodes := MemorySource.indexNodes nodes, edges }

/-- The conditions `NewMemorySource` checks before the paths to the head. -/
structure Checked (nodes : List State) (edges : EdgeSet) (head : State) : Prop where
  head_first : nodes.head? = some head
  edges_nonempty : edges.entries ≠ []
  distinct : (nodes.map (·.id)).Nodup
  keys : ∀ src ∈ edges, ∃ n ∈ nodes, n.id = src
  targets : ∀ src toSet, edges.lookup src = some toSet → ∀ dst ∈ toSet, ∃ n ∈ nodes, n.id = dst
  only_head_ends : ∀ src, edges.lookup src = some [] → src = head.id

theorem checkEdges_iff {nodes : List State} {edges : EdgeSet} {head : State} :
    checkEdges (MemorySource.indexNodes nodes) head edges.entries = none ↔
      (∀ src ∈ edges, ∃ n ∈ nodes, n.id = src) ∧
      (∀ src toSet, edges.lookup src = some toSet → ∀ dst ∈ toSet, ∃ n ∈ nodes, n.id = dst) ∧
      (∀ src, edges.lookup src = some [] → src = head.id) := by
  simp only [checkEdges_none, checkEdge_none, MemorySource.indexNodes_mem]
  constructor
  · intro h
    refine ⟨fun src hsrc => ?_, fun src toSet hl => ?_, fun src hl => ?_⟩
    · obtain ⟨toSet, hl⟩ := mem_iff_lookup.1 hsrc
      exact (h ⟨src, toSet⟩ (AList.mem_lookup_iff.1 hl)).1
    · exact (h ⟨src, toSet⟩ (AList.mem_lookup_iff.1 hl)).2.1
    · exact (h ⟨src, []⟩ (AList.mem_lookup_iff.1 hl)).2.2 rfl
  · rintro ⟨hk, ht, he⟩ ⟨src, toSet⟩ hmem
    have hl : edges.lookup src = some toSet := AList.mem_lookup_iff.2 hmem
    exact ⟨hk src (mem_iff_lookup.2 ⟨toSet, hl⟩), ht src toSet hl, fun hnil => he src (hnil ▸ hl)⟩

theorem Checked.wf {nodes : List State} {edges : EdgeSet} {head : State} (h : Checked nodes edges head) :
    (channelSource nodes edges).WF where
  nonempty := by
    intro hnil
    have := h.head_first
    rw [show nodes = [] from hnil] at this
    cases this
  nodup := h.distinct
  nodes_iff := MemorySource.indexNodes_lookup h.distinct
  keys := h.keys
  targets := h.targets

theorem buildNodeSet_iff {nodes : List State} {nodeSet : NodeSet} :
    buildNodeSet nodes 0 ∅ = .ok nodeSet ↔ (nodes.map (·.id)).Nodup ∧ nodeSet = MemorySource.indexNodes nodes := by
  rw [buildNodeSet_ok]
  exact ⟨fun h => ⟨h.1, h.2.2⟩, fun h => ⟨h.1, fun _ _ => AList.notMem_empty _, h.2⟩⟩

theorem newMemorySourceFromValidatedNodes_ok {head : State} {rest : List State} {edges : EdgeSet} {m : MemorySource} :
    newMemorySourceFromValidatedNodes (MemorySource.indexNodes (head :: rest)) edges (head :: rest) = .ok (.ok m) ↔
      m = channelSource (head :: rest) edges ∧ m.pathsToHead head.id m.chaseRounds (head :: rest) = some none := by
  have hfirst : (channelSource (head :: rest) edges).orderedNodes.head? = some head := rfl
  have hval := (channelSource (head :: rest) edges).validateAllNodesPathToHead_ok hfirst (r := none)
  unfold newMemorySourceFromValidatedNodes
  rw [go_bind_ok]
  constructor
  · rintro ⟨r, hr, h⟩
    cases r with
    | some err => cases h
    | none => cases h; exact ⟨rfl, hval.1 hr⟩
  · rintro ⟨rfl, hp⟩
    exact ⟨none, hval.2 hp, rfl⟩

/-- **`NewMemorySource` (memory.go:129)** accepts when the checks pass and every chase arrives. -/
theorem newMemorySource_accepts {nodes : List State} {edges : EdgeSet} {m : MemorySource} :
    newMemorySource nodes edges = .ok (.ok m) ↔
      ∃ head, Checked nodes edges head ∧ m = channelSource nodes edges ∧
        m.pathsToHead head.id m.chaseRounds nodes = some none := by
  cases nodes with
  | nil =>
    refine ⟨nofun, ?_⟩
    rintro ⟨head, hc, _⟩
    cases hc.head_first
  | cons head rest =>
    simp only [newMemorySource]
    by_cases hedges : edges.entries = []
    · rw [if_pos hedges]
      refine ⟨nofun, ?_⟩
      rintro ⟨_, hc, _⟩
      exact absurd hedges hc.edges_nonempty
    rw [if_neg hedges]
    cases hb : buildNodeSet (head :: rest) 0 ∅ with
    | error err =>
      refine ⟨nofun, ?_⟩
      rintro ⟨_, hc, _⟩
      cases hb.symm.trans (buildNodeSet_iff.2 ⟨hc.distinct, rfl⟩)
    | ok nodeSet =>
      obtain ⟨hdistinct, rfl⟩ := buildNodeSet_iff.1 hb
      cases hce : checkEdges (MemorySource.indexNodes (head :: rest)) head edges.entries with
      | some err =>
        simp only [hce]
        refine ⟨nofun, ?_⟩
        rintro ⟨head', hc, _⟩
        obtain rfl : head = head' := Option.some.inj hc.head_first
        cases hce.symm.trans (checkEdges_iff.2 ⟨hc.keys, hc.targets, hc.only_head_ends⟩)
      | none =>
        obtain ⟨hk, ht, he⟩ := checkEdges_iff.1 hce
        simp only [hce, newMemorySourceFromValidatedNodes_ok]
        constructor
        · intro h; exact ⟨head, ⟨rfl, hedges, hdistinct, hk, ht, he⟩, h⟩
        · rintro ⟨head', hc, h⟩
          obtain rfl : head = head' := Option.some.inj hc.head_first
          exact h

theorem newMemorySource_returns (nodes : List State) (edges : EdgeSet) : ∃ r, newMemorySource nodes edges = .ok r := by
  cases nodes with
  | nil => exact ⟨_, rfl⟩
  | cons head rest =>
    simp only [newMemorySource]
    split_ifs
    · exact ⟨_, rfl⟩
    cases hb : buildNodeSet (head :: rest) 0 ∅ with
    | error err => exact ⟨_, rfl⟩
    | ok nodeSet =>
      cases hce : checkEdges nodeSet head edges.entries with
      | some err => simp only [hce]; exact ⟨_, rfl⟩
      | none =>
        obtain ⟨_, rfl⟩ := buildNodeSet_iff.1 hb
        simp only [hce]
        obtain ⟨r, hval⟩ :=
          (channelSource (head :: rest) edges).validateAllNodesPathToHead_returns (List.cons_ne_nil _ _)
        cases r with
        | some err => exact ⟨.error err, go_bind_ok.2 ⟨some err, hval, rfl⟩⟩
        | none => exact ⟨.ok (channelSource (head :: rest) edges), go_bind_ok.2 ⟨none, hval, rfl⟩⟩

/-- An accepted channel is well formed. -/
theorem newMemorySource_wf {nodes : List State} {edges : EdgeSet} {m : MemorySource}
    (h : newMemorySource nodes edges = .ok (.ok m)) : m = channelSource nodes edges ∧ m.WF := by
  obtain ⟨head, hc, rfl, _⟩ := newMemorySource_accepts.1 h
  exact ⟨rfl, hc.wf⟩

/-- `NextVersion` of a checked channel stays among its nodes, as long as it names one. -/
theorem Checked.walk_isNode {nodes : List State} {edges : EdgeSet} {head : State} (hc : Checked nodes edges head)
    {x : String} (hx : (channelSource nodes edges).IsNode x) (hempty : (channelSource nodes edges).nextVersion "" = "")
    {k : Nat} (hk : (channelSource nodes edges).nextVersion^[k] x ≠ "") :
    ∀ i ≤ k, (channelSource nodes edges).IsNode ((channelSource nodes edges).nextVersion^[i] x) := by
  intro i hi
  cases i with
  | zero => exact hx
  | succ i =>
    rw [Function.iterate_succ_apply']
    refine hc.wf.nextVersion_isNode ?_
    rw [← Function.iterate_succ_apply' (channelSource nodes edges).nextVersion]
    intro hstop
    refine hk ?_
    rw [← Nat.sub_add_cancel hi, Function.iterate_add_apply, hstop]
    exact Function.iterate_fixed hempty _

/-- The shape of the channels `NewMemorySource` is meant for. -/
structure WellFormedChannel (nodes : List State) (edges : EdgeSet) : Prop where
  nodes_nonempty : nodes ≠ []
  edges_nonempty : edges.entries ≠ []
  distinct : (nodes.map (·.id)).Nodup
  keys : ∀ src ∈ edges, ∃ n ∈ nodes, n.id = src
  targets : ∀ src toSet, edges.lookup src = some toSet → ∀ dst ∈ toSet, ∃ n ∈ nodes, n.id = dst
  only_head_ends : ∀ src, edges.lookup src = some [] → (nodes.head?.map (·.id)) = some src
  reaches_head : ∀ n ∈ nodes, ∃ k < nodes.length,
    nodes.head?.map (·.id) = some ((channelSource nodes edges).nextVersion^[k] n.id)

section

variable {nodes : List State} {edges : EdgeSet} {head : State}

/-- The empty id is no node, so the walk stops there. -/
theorem Checked.nextVersion_empty (hc : Checked nodes edges head) (hid : ∀ n ∈ nodes, n.id ≠ "") :
    (channelSource nodes edges).nextVersion "" = "" :=
  hc.wf.nextVersion_of_not_isNode fun ⟨n, hn, he⟩ => hid n hn he

theorem Checked.head_id_ne (hc : Checked nodes edges head) (hid : ∀ n ∈ nodes, n.id ≠ "") : head.id ≠ "" :=
  hid head (List.mem_of_mem_head? hc.head_first)

/-- Arrival in any number of steps is arrival in fewer steps than there are nodes. -/
theorem Checked.arrival_bound (hc : Checked nodes edges head) (hid : ∀ n ∈ nodes, n.id ≠ "") {n : State}
    (hn : n ∈ nodes) {k : Nat} (hk : (channelSource nodes edges).nextVersion^[k] n.id = head.id) :
    ∃ k' < nodes.length, (channelSource nodes edges).nextVersion^[k'] n.id = head.id := by
  obtain ⟨k', _, hfirst⟩ := exists_first_hit hk
  refine ⟨k', ?_, hfirst.1⟩
  have hnode := hc.walk_isNode ⟨n, hn, rfl⟩ (hc.nextVersion_empty hid) (hfirst.1 ▸ hc.head_id_ne hid)
  have := hfirst.lt_length (L := nodes.map (·.id)) fun i hi => by
    obtain ⟨n', hn', he⟩ := hnode i hi
    exact List.mem_map.2 ⟨n', hn', he⟩
  simpa using this

theorem wellFormedChannel_iff (hid : ∀ n ∈ nodes, n.id ≠ "") :
    WellFormedChannel nodes edges ↔ ∃ head, Checked nodes edges head ∧
      (channelSource nodes edges).pathsToHead head.id (channelSource nodes edges).chaseRounds nodes = some none := by
  constructor
  · intro h
    obtain ⟨head, rest, rfl⟩ := List.exists_cons_of_ne_nil h.nodes_nonempty
    have hc : Checked (head :: rest) edges head :=
      ⟨rfl, h.edges_nonempty, h.distinct, h.keys, h.targets, fun src hl =>
        (Option.some.inj (h.only_head_ends src hl)).symm⟩
    refine ⟨head, hc, ?_⟩
    rw [MemorySource.pathsToHead_ok_iff _ _ (hc.nextVersion_empty hid) (hc.head_id_ne hid)]
    intro n hn
    obtain ⟨k, _, hk⟩ := h.reaches_head n hn
    exact ⟨k, (Option.some.inj hk).symm⟩
  · rintro ⟨head, hc, hp⟩
    rw [MemorySource.pathsToHead_ok_iff _ _ (hc.nextVersion_empty hid) (hc.head_id_ne hid)] at hp
    refine ⟨hc.wf.nonempty, hc.edges_nonempty, hc.distinct, hc.keys, hc.targets, fun src hl => ?_, fun n hn => ?_⟩
    · rw [hc.head_first, hc.only_head_ends src hl]; rfl
    · obtain ⟨k, hk⟩ := hp n hn
      obtain ⟨k', hlt, hk'⟩ := hc.arrival_bound hid hn hk
      exact ⟨k', hlt, by rw [hc.head_first, hk']; rfl⟩

/-- From every node of an accepted channel, last edges lead through nodes to the head. -/
theorem newMemorySource_walk {m : MemorySource} (h : newMemorySource nodes edges = .ok (.ok m))
    (hid : ∀ n ∈ nodes, n.id ≠ "") (hhead : nodes.head? = some head) {x : String} (hx : ∃ n ∈ nodes, n.id = x) :
    ∃ k < nodes.length, m.nextVersion^[k] x = head.id ∧ ∀ i ≤ k, m.IsNode (m.nextVersion^[i] x) := by
  obtain ⟨head', hc, rfl, hp⟩ := newMemorySource_accepts.1 h
  obtain rfl : head' = head := Option.some.inj (hc.head_first.symm.trans hhead)
  rw [MemorySource.pathsToHead_ok_iff _ _ (hc.nextVersion_empty hid) (hc.head_id_ne hid)] at hp
  obtain ⟨n, hn, rfl⟩ := hx
  obtain ⟨k, hk⟩ := hp n hn
  obtain ⟨k', hlt, hk'⟩ := hc.arrival_bound hid hn hk
  exact ⟨k', hlt, hk', hc.walk_isNode ⟨n, hn, rfl⟩ (hc.nextVersion_empty hid) (hk' ▸ hc.head_id_ne hid)⟩

end

/-- **`NewMemorySource` accepts exactly the well-formed channels**, when no node has the empty id. It returns
for every input, since the chases of `validateAllNodesPathToHead` end: beyond `chaseRounds`, the number of rounds
they are given makes no difference. -/
theorem newMemorySource_ok_iff (nodes : List State) (edges : EdgeSet) (hid : ∀ n ∈ nodes, n.id ≠ "") :
    ((∃ m, newMemorySource nodes edges = .ok (.ok m)) ↔ WellFormedChannel nodes edges) ∧
      (∃ r, newMemorySource nodes edges = .ok r) ∧
      ∀ head, ∃ r, ∀ fuel, (channelSource nodes edges).chaseRounds ≤ fuel →
        (channelSource nodes edges).pathsToHead head fuel nodes = some r := by
  refine ⟨?_, newMemorySource_returns nodes edges, fun head => MemorySource.pathsToHead_halts _ head nodes⟩
  rw [wellFormedChannel_iff hid]
  constructor
  · rintro ⟨m, hm⟩
    obtain ⟨head, hc, rfl, hp⟩ := newMemorySource_accepts.1 hm
    exact ⟨head, hc, hp⟩
  · rintro ⟨head, hc, hp⟩
    exact ⟨_, newMemorySource_accepts.2 ⟨head, hc, rfl, hp⟩⟩

/-- A chain of three releases. -/
theorem wellFormedChannel_chain :
    WellFormedChannel [⟨"v3", "", "", "", "", false⟩, ⟨"v2", "", "", "", "", false⟩, ⟨"v1", "", "", "", "", false⟩]
      ([⟨"v1", ["v2"]⟩, ⟨"v2", ["v3"]⟩].toAList) :=
  (newMemorySource_ok_iff _ _ (by decide)).1.1 ⟨_, rfl⟩

/-- A cycle is reported with the nodes it was found through. -/
example : newMemorySource [⟨"v4", "", "", "", "", false⟩, ⟨"v3", "", "", "", "", false⟩, ⟨"v2", "", "", "", "", false⟩,
    ⟨"v1", "", "", "", "", false⟩] ([⟨"v1", ["v2"]⟩, ⟨"v2", ["v3"]⟩, ⟨"v3", ["v2"]⟩].toAList) =
      .ok (.error (.cycle ["v2", "v3", "v2"])) := rfl

end SpiceDBOperator
