import SpiceDBOperator.Updates.Available
import SpiceDBOperator.Updates.Converge
import SpiceDBOperator.Updates.Steps

/-!
# Ordered adjacency lists rule out downgrades

`NextVersion` takes the last entry of an adjacency list as the newest one, and nothing checks that it is
(memory.go:174-176). Where the lists do run from the oldest entry to the newest, past their key, every step goes to a
newer node: `Ordered` states that of a source, `Ordered.restrict` carries it to the subgraphs of pinned versions, and
`ordered_channel_iff` says what the operator's loop then does. As everywhere, a channel without a name is never
fetched, and the first call dereferences nil.
-/

namespace SpiceDBOperator

open Golang Walk

namespace MemorySource

variable {m sub : MemorySource} {x y z : String}

/-- Strictly newer: another node, earlier in the list. -/
def Newer (m : MemorySource) (y x : String) : Prop := y ≠ x ∧ m.AtOrAfter y x

/-- The index of a node. -/
def position (m : MemorySource) (x : String) : Nat := (m.nodes.lookup x).getD 0

theorem WF.position_eq (hwf : m.WF) {i : Nat} {n : State} (hi : m.orderedNodes[i]? = some n) (hid : n.id = x) :
    m.position x = i := by
  rw [position, (hwf.nodes_iff x i).2 ⟨n, hi, hid⟩, Option.getD_some]

theorem WF.atOrAfter_iff_position (hwf : m.WF) :
    m.AtOrAfter y x ↔ m.IsNode y ∧ m.IsNode x ∧ m.position y ≤ m.position x := by
  constructor
  · rintro ⟨i, j, n, n', hle, hi, hy, hj, hx⟩
    refine ⟨⟨n, List.mem_of_getElem? hi, hy⟩, ⟨n', List.mem_of_getElem? hj, hx⟩, ?_⟩
    rwa [hwf.position_eq hi hy, hwf.position_eq hj hx]
  · rintro ⟨⟨n, hn, hy⟩, ⟨n', hn', hx⟩, hle⟩
    obtain ⟨i, hi⟩ := List.getElem?_of_mem hn
    obtain ⟨j, hj⟩ := List.getElem?_of_mem hn'
    rw [hwf.position_eq hi hy, hwf.position_eq hj hx] at hle
    exact ⟨i, j, n, n', hle, hi, hy, hj, hx⟩

theorem WF.newer_position (hwf : m.WF) (h : m.Newer y x) : m.position y < m.position x := by
  obtain ⟨hy, hx, hle⟩ := hwf.atOrAfter_iff_position.1 h.2
  rcases Nat.lt_or_eq_of_le hle with hlt | heq
  · exact hlt
  · exact absurd (hwf.atOrAfter_antisymm h.2 (hwf.atOrAfter_iff_position.2 ⟨hx, hy, heq.ge⟩)) h.1

theorem WF.atOrAfter_trans (hwf : m.WF) (hzy : m.AtOrAfter z y) (hyx : m.AtOrAfter y x) : m.AtOrAfter z x := by
  rw [hwf.atOrAfter_iff_position] at *
  exact ⟨hzy.1, hyx.2.1, hzy.2.2.trans hyx.2.2⟩

theorem WF.position_lt (hwf : m.WF) (h : m.IsNode x) : m.position x < m.orderedNodes.length := by
  obtain ⟨n, hn, hid⟩ := h
  obtain ⟨i, hi⟩ := List.getElem?_of_mem hn
  rw [hwf.position_eq hi hid]
  exact (List.getElem?_eq_some_iff.1 hi).1

/-! ## Ordered sources -/

/-- A well-formed source with non-empty ids whose adjacency lists run from oldest to newest, past their key. -/
structure Ordered (m : MemorySource) : Prop where
  wf : m.WF
  ids : ∀ x, m.IsNode x → x ≠ ""
  lists : ∀ src toSet, m.edges.lookup src = some toSet → m.OldestFirst src toSet

theorem Ordered.edge_newer (h : m.Ordered) (he : m.Edge x y) : m.Newer y x := by
  obtain ⟨toSet, hl, hy⟩ := he
  exact (h.lists x toSet hl).2 y hy

/-- **`NextVersion`** of a node with edges is its newest edge target. -/
theorem Ordered.nextVersion_newest (h : m.Ordered) {toSet : List String} (hl : m.edges.lookup x = some toSet)
    (hne : toSet ≠ []) : m.nextVersion x ∈ toSet ∧ ∀ y ∈ toSet, m.AtOrAfter (m.nextVersion x) y := by
  have hlast := List.getLast?_eq_some_getLast hne
  have hmem := List.mem_of_getLast? hlast
  rw [nextVersion_lookup hl, hlast, Option.getD_some]
  exact ⟨hmem, filter_of_getLast (h.lists x toSet hl).1 (h.wf.targets x toSet hl _ hmem) hlast⟩

theorem Ordered.nextVersion_eq_empty (h : m.Ordered) : m.nextVersion x = "" ↔ ∀ y, ¬ m.Edge x y := by
  constructor
  · rintro hempty y ⟨toSet, hl, hy⟩
    have hnewest := (h.nextVersion_newest hl (List.ne_nil_of_mem hy)).1
    exact h.ids _ (h.wf.targets x toSet hl _ hnewest) hempty
  · intro hno
    by_contra hne
    exact hno _ (nextVersion_edge hne)

/-- Re-rooting keeps the order. -/
theorem Ordered.restrict (h : m.Ordered) {version : String} (hr : RestrictsTo m version sub) : sub.Ordered := by
  have hnode : ∀ y, sub.IsNode y → m.IsNode y := by
    intro y hy
    exact (h.wf.atOrAfter_iff_position.1 ((hr.isNode_iff h.wf y).1 hy)).2.1
  -- positions in the subgraph are positions in the source, moved by one offset
  have horder : ∀ y z, sub.IsNode y → sub.IsNode z → m.AtOrAfter y z → sub.AtOrAfter y z := by
    rintro y z hy hz ⟨i, j, n, n', hle, hi, hny, hj, hnz⟩
    obtain ⟨k, _, _, _, hsuf⟩ := hr.suffix
    obtain ⟨ny, hny', hidy⟩ := hy
    obtain ⟨nz, hnz', hidz⟩ := hz
    obtain ⟨i', hi'⟩ := List.getElem?_of_mem hny'
    obtain ⟨j', hj'⟩ := List.getElem?_of_mem hnz'
    have hki : m.orderedNodes[k + i']? = some ny := by rw [← List.getElem?_drop, ← hsuf]; exact hi'
    have hkj : m.orderedNodes[k + j']? = some nz := by rw [← List.getElem?_drop, ← hsuf]; exact hj'
    have hieq : i = k + i' := h.wf.index_unique hi hki (hny.trans hidy.symm)
    have hjeq : j = k + j' := h.wf.index_unique hj hkj (hnz.trans hidz.symm)
    exact ⟨i', j', ny, nz, by omega, hi', hidy, hj', hidz⟩
  refine ⟨hr.wf, fun y hy => h.ids y (hnode y hy), fun src toSet hl => ?_⟩
  have hsrc : sub.IsNode src := hr.wf.keys src (AList.lookup_isSome.1 (by simp [hl]))
  have htargets := hr.wf.targets src toSet hl
  rw [hr.lookup, if_pos hsrc] at hl
  obtain ⟨full, hfull, rfl⟩ := Option.map_eq_some_iff.1 hl
  have ho := h.lists src full hfull
  refine ⟨?_, fun dst hdst => ?_⟩
  · refine List.Pairwise.imp_of_mem (fun {a b} ha hb hab => ?_) (ho.1.sublist List.filter_sublist)
    exact horder b a (htargets b hb) (htargets a ha) hab
  · obtain ⟨hne, hafter⟩ := ho.2 dst (List.mem_of_mem_filter hdst)
    exact ⟨hne, horder dst src (htargets dst hdst) hsrc hafter⟩

/-- So every subgraph is ordered. -/
theorem Ordered.subgraph (h : m.Ordered) {head : String} (hnode : m.IsNode head)
    (hsub : m.subgraph head = .ok (.ok sub)) :
    sub.Ordered := by
  obtain ⟨sub', hsub', hr⟩ := h.wf.subgraph_ok (h.ids head hnode) hnode
  cases hsub.symm.trans hsub'
  exact h.restrict hr

/-- In an accepted channel last edges lead from every node to the head, so only the head has no next version. -/
theorem eq_head_of_nextVersion_empty {nodes : List State} {edges : EdgeSet} {head : State}
    (hnew : newMemorySource nodes edges = .ok (.ok m)) (hid : ∀ n ∈ nodes, n.id ≠ "") (hhead : nodes.head? = some head)
    (hx : m.IsNode x) (hends : m.nextVersion x = "") : x = head.id := by
  obtain ⟨rfl, -⟩ := newMemorySource_wf hnew
  obtain ⟨k, _, hwalk, hnodes⟩ := newMemorySource_walk hnew hid hhead hx
  cases k with
  | zero => exact hwalk
  | succ k =>
    obtain ⟨n, hn, hempty⟩ := hnodes 1 (by omega)
    exact absurd (hempty.trans hends) (hid n hn)

end MemorySource

namespace UpdateGraph

variable {g : UpdateGraph}

section

variable {m sub : MemorySource} {version x : String}

/-- With no version or a node pinned, there is a source to step in. -/
theorem exists_stepSource (h : m.WF) (hversion : version = "" ∨ m.IsNode version) :
    ∃ sub, stepSource m version false = some sub := by
  by_cases hempty : version = ""
  · exact ⟨m, by simp [stepSource, hempty]⟩
  · obtain ⟨sub, hpinned, _⟩ := h.pinned_isNode hempty (hversion.resolve_left hempty)
    exact ⟨sub, by simp [stepSource, hempty, hpinned]⟩

/-- The source of a step from an ordered source is ordered. -/
theorem stepSource_ordered (h : m.Ordered) (hsub : stepSource m version false = some sub) : sub.Ordered := by
  rcases stepSource_cases h.wf hsub with ⟨_, rfl⟩ | ⟨_, hr⟩
  · exact h
  · exact h.restrict hr

/-- The pinned version is the end of its own subgraph. -/
theorem pinned_ends (h : m.Ordered) (hsub : stepSource m version false = some sub) (hversion : version ≠ "") :
    sub.nextVersion version = "" := by
  have hr := stepSource_restrictsTo h.wf hsub hversion
  rw [(stepSource_ordered h hsub).nextVersion_eq_empty]
  intro y hy
  have hnewer := h.edge_newer ((hr.edge_iff version y).1 hy).1
  have hafter := (hr.isNode_iff h.wf y).1 ((hr.edge_iff version y).1 hy).2.2
  exact hnewer.1 (h.wf.atOrAfter_antisymm hnewer.2 hafter)

/-- One call keeps the version or goes to a newer one. -/
theorem forward_newer (h : m.Ordered) (hsub : stepSource m version false = some sub)
    (hmoves : sub.forward version x ≠ x) : m.Newer (sub.forward version x) x := by
  unfold MemorySource.forward MemorySource.advance at hmoves ⊢
  split_ifs at hmoves ⊢ with hsame hnext
  · exact absurd rfl hmoves
  · exact absurd rfl hmoves
  · exact h.edge_newer (stepSource_edge h.wf hsub (MemorySource.nextVersion_edge hnext))

/-- Where a walk rests, there is no next version. -/
theorem rests_nextVersion (h : m.Ordered) (hsub : stepSource m version false = some sub)
    (hrests : sub.forward version x = x) : x = version ∨ sub.nextVersion x = "" := by
  by_cases hsame : x = version
  · exact Or.inl hsame
  right
  rw [MemorySource.forward, if_neg hsame, MemorySource.advance] at hrests
  by_contra hnext
  rw [if_neg hnext] at hrests
  exact ((stepSource_ordered h hsub).edge_newer (MemorySource.nextVersion_edge hnext)).1 hrests

/-- The walk goes down in position, so it rests after as many calls as there are nodes newer than its start. -/
theorem walk_rests (h : m.Ordered) (hsub : stepSource m version false = some sub) (hx : m.IsNode x) {n : Nat}
    (hn : m.orderedNodes.length - 1 ≤ n) :
    (sub.forward version)^[n] x = (sub.forward version)^[m.orderedNodes.length - 1] x ∧
      sub.forward version ((sub.forward version)^[m.orderedNodes.length - 1] x) =
        (sub.forward version)^[m.orderedNodes.length - 1] x :=
  iterate_rests (fun a ha => (forward_isNode h.wf hsub ha (h.ids a ha)).1)
    (fun _ _ hmoves => h.wf.newer_position (forward_newer h hsub hmoves)) hx
    (Nat.le_sub_one_of_lt (h.wf.position_lt hx)) hn

/-- A version without a next one in the subgraph of a pinned version has no edge to a node no newer than that. -/
theorem ends_before_pinned (h : m.Ordered) (hsub : stepSource m version false = some sub) (hversion : version ≠ "")
    (hends : sub.nextVersion x = "") : ∀ y, m.Edge x y → ¬ m.AtOrAfter version y := by
  have hr := stepSource_restrictsTo h.wf hsub hversion
  intro y hy hafter
  have hx : sub.IsNode x := (hr.isNode_iff h.wf x).2 (h.wf.atOrAfter_trans hafter (h.edge_newer hy).2)
  have hedge : sub.Edge x y := (hr.edge_iff x y).2 ⟨hy, hx, (hr.isNode_iff h.wf y).2 hafter⟩
  exact (stepSource_ordered h hsub).nextVersion_eq_empty.1 hends y hedge

end

/-- **Ordered adjacency lists rule out downgrades**, exactly where the channel has a name. From a node of an accepted
channel with ordered lists, with no version or a node pinned: a call outside a rollout returns the current name or that
of a strictly newer node; `NextVersion` is the newest edge target, in the channel and in its subgraphs; and repeated
calls come to rest within `len(nodes) - 1` of them, at the head, or at the pinned version or a node with no edge to a
node no newer than it. -/
theorem ordered_channel_iff (g : UpdateGraph) (c : Call) (v : SpiceDBVersion) (selected : String) (channel : Channel)
    (head : State) (m : MemorySource) (hchosen : Chosen g c.channel c.engine (some v) selected)
    (hfind : g.findChannel c.engine selected = some channel)
    (hnew : newMemorySource channel.nodes channel.edges = .ok (.ok m)) (hid : ∀ n ∈ channel.nodes, n.id ≠ "")
    (hordered : channel.OldestFirst) (hhead : channel.nodes.head? = some head)
    (hversion : c.version = "" ∨ m.IsNode c.version) (hv : m.IsNode v.name) (hroll : c.rolling = false)
    (hbase : c.baseImage ≠ "") :
    ((∃ r t, g.call c (some v) = .ok r ∧ r.err = none ∧ r.target = some t ∧
        (t.name = v.name ∨ m.Newer t.name v.name)) ∧
      (∀ s, (s = m ∨ ∃ h, m.IsNode h ∧ m.subgraph h = .ok (.ok s)) → ∀ x toSet, s.edges.lookup x = some toSet →
        toSet ≠ [] → s.nextVersion x ∈ toSet ∧ ∀ y ∈ toSet, s.AtOrAfter (s.nextVersion x) y) ∧
      ∃ rest, (∀ n, channel.nodes.length - 1 ≤ n → ∃ t, g.afterCalls c v n = some t ∧ t.name = rest) ∧
        if c.version = "" then rest = head.id
        else rest = c.version ∨ ∀ y, m.Edge rest y → ¬ m.AtOrAfter c.version y) ↔
      selected ≠ "" := by
  obtain ⟨rfl, hwf⟩ := newMemorySource_wf hnew
  have hids : ∀ x, (channelSource channel.nodes channel.edges).IsNode x → x ≠ "" := by
    rintro x ⟨n, hn, rfl⟩
    exact hid n hn
  have ho : (channelSource channel.nodes channel.edges).Ordered := ⟨hwf, hids, hordered⟩
  constructor
  · rintro ⟨⟨r, t, hcall, hok, _⟩, _⟩ hempty
    obtain ⟨_, _, _, hsel⟩ := computeTarget_success c.untagged hcall hok
    exact hsel.channel_ne ((selectChannel_ok.1 hsel.channel).unique (hempty ▸ hchosen))
  intro hnamed
  have hsel : c.Selects g (some v) _ selected _ :=
    ⟨c.untagged, rfl, hbase, selectChannel_ok.2 hchosen, hnamed, sourceForChannel_ok.2 ⟨channel, hfind, hnew⟩⟩
  obtain ⟨sub, hsub⟩ := exists_stepSource hwf hversion
  have hpinned : v.name = c.version → v.channel = selected ∨ sub.nextVersion v.name = "" := by
    intro hsame
    rw [hsame]
    exact Or.inr (pinned_ends ho hsub (hsame ▸ hids _ hv))
  refine ⟨?_, ?_, ?_⟩
  · obtain ⟨r, t, hcall, hok, ht, _, hname⟩ := call_forward hsel hroll hv (hids _ hv) hsub hpinned
    refine ⟨r, t, hcall, hok, ht, ?_⟩
    rw [hname]
    by_cases hmoves : sub.forward c.version v.name = v.name
    · exact Or.inl hmoves
    · exact Or.inr (forward_newer ho hsub hmoves)
  · rintro s (rfl | ⟨h, hnode, hs⟩) x toSet hl hne
    · exact ho.nextVersion_newest hl hne
    · exact (ho.subgraph hnode hs).nextVersion_newest hl hne
  · have hname := afterCalls_name hsel hroll hv (hids _ hv) hsub hpinned
    refine ⟨(sub.forward c.version)^[channel.nodes.length - 1] v.name, fun n hn => ?_, ?_⟩
    · obtain ⟨t, ht, htname, _⟩ := hname n
      exact ⟨t, ht, htname.trans (walk_rests ho hsub hv hn).1⟩
    obtain ⟨t, _, htname, _, htnode, htne⟩ := hname (channel.nodes.length - 1)
    rw [← htname]
    have hends : t.name = c.version ∨ sub.nextVersion t.name = "" :=
      htname ▸ rests_nextVersion ho hsub (walk_rests ho hsub hv le_rfl).2
    by_cases hempty : c.version = ""
    · rw [if_pos hempty]
      obtain rfl : channelSource channel.nodes channel.edges = sub := by simpa [stepSource, hempty] using hsub
      exact MemorySource.eq_head_of_nextVersion_empty hnew hid hhead htnode
        (hends.resolve_left fun h => htne (h.trans hempty))
    · rw [if_neg hempty]
      exact hends.imp_right fun hnone => ends_before_pinned ho hsub hempty hnone

/-- The unnamed default channel is ordered, and the first call on it dereferences nil. -/
theorem unnamedChannel_ordered :
    (∀ channel ∈ unnamedChannel.channels, channel.OldestFirst ∧
      ∃ m, newMemorySource channel.nodes channel.edges = .ok (.ok m) ∧ m.IsNode "v1") ∧
    Chosen unnamedChannel "" "postgres" (some { name := "v1" }) "" ∧
    unnamedChannel.call (pin "") (some { name := "v1" }) = .error .nilDereference := by
  refine ⟨?_, Or.inr (Or.inr ⟨rfl, rfl, rfl⟩), rfl⟩
  intro channel hchannel
  obtain rfl := List.mem_singleton.1 hchannel
  exact ⟨by decide, _, rfl, by decide⟩

theorem stableAndBeta_climbs :
    ∃ rest, (∀ n, 2 ≤ n → ∃ t, stableAndBeta.afterCalls (pin "v2") { name := "v1", channel := "stable" } n = some t ∧
      t.name = rest) ∧ rest = "v2" := by
  have hclimbs := (ordered_channel_iff stableAndBeta (pin "v2") { name := "v1", channel := "stable" } "stable" _ _ _
    (Or.inr (Or.inl ⟨rfl, by decide, rfl⟩)) rfl rfl (by decide) (by decide) rfl (Or.inr (by decide)) (by decide) rfl
    (by decide)).2 (by decide)
  obtain ⟨rest, hrest, _⟩ := hclimbs.2.2
  refine ⟨rest, hrest, ?_⟩
  obtain ⟨t, ht, hname⟩ := hrest 2 (by decide)
  rw [← hname]
  cases ht
  rfl

end UpdateGraph

end SpiceDBOperator
