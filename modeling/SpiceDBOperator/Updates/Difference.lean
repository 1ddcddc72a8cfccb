import Mathlib.Data.List.Dedup
import SpiceDBOperator.Updates.Graph

/-!
# The difference of two update graphs (`UpdateGraph.Difference`, file.go:371)

For each channel of the first graph the difference keeps the edges that the channel of the same identity in the second
graph does not have, and the nodes these edges name. CI tests the upgrades it finds there, so nothing may get lost
(`difference_exact`).

| here | there |
| --- | --- |
| `equalIdentity` | `Channel.EqualIdentity` (file.go:37) |
| `UnsortedList`  | `Set.UnsortedList` of apimachinery: the elements of a set in some order |
| `keepEdges`     | the loop over the edges of one channel (file.go:384-400) |
| `keepNodes`     | the loop that looks up the nodes (file.go:412-421), with its panic |
| `diffChannel`   | one matching pair of channels (file.go:380-429) |
-/

namespace SpiceDBOperator

open Golang

def datastoreMetadataKey : String := "datastore"

structure UnsortedList where
  list : List String → List String
  perm : ∀ ids, (list ids).Perm ids.dedup

namespace Channel

def equalIdentity (c other : Channel) : Bool :=
  c.metadata.isSome && other.metadata.isSome && c.name == other.name &&
    c.metadataValue datastoreMetadataKey == other.metadataValue datastoreMetadataKey

variable (unsorted : UnsortedList)

/-- What is kept of one adjacency list; `existing` is that of the other channel. -/
def keepEdge (existing : Option (List String)) (edgeSet : List String) : Option (List String) :=
  match existing with
  | none => some edgeSet
  | some existing =>
    let edges := edgeSet.filter (· ∉ existing)
    if edges = [] then none else some (unsorted.list edges)

def keepEdges (this other : Channel) : EdgeSet :=
  mapCollect (fun startNode edgeSet => keepEdge unsorted (other.edges.lookup startNode) edgeSet) this.edges

/-- Every id a map of edges names. -/
def namedIDs (edges : EdgeSet) : List String := edges.keys ++ edges.entries.flatMap (·.2)

def keepNodes (this : Channel) (ids : List String) : Go (List State) :=
  ids.mapM fun id =>
    match this.nodes.find? (·.id = id) with
    | some n => .ok n
    | none => .error
        (.panicked (id ++ " referenced in an edge for channel " ++ this.metadataValue datastoreMetadataKey ++
        "/" ++ this.name ++ ", but not found in nodes for channel"))

def diffChannel (this other : Channel) : Go (List Channel) :=
  let edges := keepEdges unsorted this other
  if edges.entries = [] then .ok []
  else do
    let nodes ← this.keepNodes (unsorted.list (namedIDs edges))
    .ok [{ name := this.name, metadata := this.metadata, edges, nodes }]

end Channel

/-- What one channel adds to the difference. -/
def UpdateGraph.diffChannels (unsorted : UnsortedList) (other : UpdateGraph) (this : Channel) : Go (List Channel) :=
  match other.channels.filter (this.equalIdentity ·) with
  | [] => .ok [this]
  | matching => do
    let found ← matching.mapM (this.diffChannel unsorted)
    .ok found.flatten

def UpdateGraph.difference (unsorted : UnsortedList) (g other : UpdateGraph) : Go UpdateGraph := do
  let found ← g.channels.mapM (UpdateGraph.diffChannels unsorted other)
  .ok { channels := found.flatten }

/-! ## Identity -/

namespace Channel

variable {a b c : Channel}

theorem equalIdentity_iff : a.equalIdentity b = true ↔
    a.metadata ≠ none ∧ b.metadata ≠ none ∧ a.name = b.name ∧
      a.metadataValue datastoreMetadataKey = b.metadataValue datastoreMetadataKey := by
  simp only [equalIdentity, Bool.and_eq_true, beq_iff_eq, Option.isSome_iff_ne_none, and_assoc]

theorem equalIdentity_symm (h : a.equalIdentity b = true) : b.equalIdentity a = true := by
  obtain ⟨ha, hb, hname, hstore⟩ := equalIdentity_iff.1 h
  exact equalIdentity_iff.2 ⟨hb, ha, hname.symm, hstore.symm⟩

theorem equalIdentity_trans (h : a.equalIdentity b = true) (h' : b.equalIdentity c = true) :
    a.equalIdentity c = true := by
  obtain ⟨ha, -, hname, hstore⟩ := equalIdentity_iff.1 h
  obtain ⟨-, hc, hname', hstore'⟩ := equalIdentity_iff.1 h'
  exact equalIdentity_iff.2 ⟨ha, hc, hname.trans hname', hstore.trans hstore'⟩

theorem equalIdentity_self (h : a.metadata ≠ none) : a.equalIdentity a = true :=
  equalIdentity_iff.2 ⟨h, h, rfl, rfl⟩

end Channel

/-! ## One pair of channels -/

def HasEdge (edges : EdgeSet) (src dst : String) : Prop := ∃ toSet, edges.lookup src = some toSet ∧ dst ∈ toSet

namespace Channel

variable {unsorted : UnsortedList} {c c' : Channel}

theorem mem_unsortedList {ids : List String} {id : String} : id ∈ unsorted.list ids ↔ id ∈ ids := by
  rw [(unsorted.perm ids).mem_iff, List.mem_dedup]

/-- The nodes to keep: those that are the key or a target of an entry. -/
theorem mem_namedIDs {edges : EdgeSet} {id : String} : id ∈ namedIDs edges ↔
    id ∈ edges ∨ ∃ src, HasEdge edges src id := by
  rw [namedIDs, List.mem_append, ← AList.mem_keys, List.mem_flatMap]
  refine or_congr_right ⟨?_, ?_⟩
  · rintro ⟨⟨src, toSet⟩, hentry, hid⟩
    exact ⟨src, toSet, AList.mem_lookup_iff.2 hentry, hid⟩
  · rintro ⟨src, toSet, hlookup, hid⟩
    exact ⟨⟨src, toSet⟩, AList.mem_lookup_iff.1 hlookup, hid⟩

theorem keepEdges_lookup (src : String) : (keepEdges unsorted c c').lookup src =
    (c.edges.lookup src).bind (keepEdge unsorted (c'.edges.lookup src)) :=
  mapCollect_lookup _ _ _

/-- The edges that are kept: those of `c` that `c'` does not have. -/
theorem hasEdge_keepEdges {src dst : String} :
    HasEdge (keepEdges unsorted c c') src dst ↔ HasEdge c.edges src dst ∧ ¬HasEdge c'.edges src dst := by
  unfold HasEdge
  rw [keepEdges_lookup]
  cases c.edges.lookup src with
  | none => simp
  | some edgeSet =>
    cases c'.edges.lookup src with
    | none => simp [keepEdge]
    | some existing =>
      by_cases hnone : edgeSet.filter (· ∉ existing) = []
      · have hall : ∀ id ∈ edgeSet, id ∈ existing := by simpa using hnone
        simp only [Option.bind_some, keepEdge, if_pos hnone, reduceCtorEq, false_and, exists_false, Option.some.injEq,
          exists_eq_left', false_iff, not_and, not_not]
        exact hall dst
      · simp only [Option.bind_some, keepEdge, if_neg hnone, Option.some.injEq, exists_eq_left', mem_unsortedList,
          List.mem_filter, decide_eq_true_eq]

/-- The keys that are kept: the new ones, and those with a new edge. -/
theorem mem_keepEdges {src : String} : src ∈ keepEdges unsorted c c' ↔
    src ∈ c.edges ∧ (src ∉ c'.edges ∨ ∃ dst, HasEdge c.edges src dst ∧ ¬HasEdge c'.edges src dst) := by
  unfold HasEdge
  rw [mem_iff_lookup, mem_iff_lookup, mem_iff_lookup, keepEdges_lookup]
  cases c.edges.lookup src with
  | none => simp
  | some edgeSet =>
    cases c'.edges.lookup src with
    | none => simp [keepEdge]
    | some existing =>
      by_cases hnone : edgeSet.filter (· ∉ existing) = []
      · have hall : ∀ id ∈ edgeSet, id ∈ existing := by simpa using hnone
        simp only [Option.bind_some, keepEdge, if_pos hnone, Option.some.injEq, exists_eq', exists_eq_left', true_and,
          not_true_eq_false, false_or, reduceCtorEq, exists_false, false_iff, not_exists, not_and, not_not]
        exact hall
      · obtain ⟨id, hid⟩ := List.exists_mem_of_ne_nil _ hnone
        simp only [Option.bind_some, keepEdge, if_neg hnone, Option.some.injEq, exists_eq', exists_eq_left', true_and,
          not_true_eq_false, false_or, true_iff]
        exact ⟨id, by simpa using hid⟩

theorem keepNodes_ok {ids : List String} (h : ∀ id ∈ ids, ∃ n ∈ c.nodes, n.id = id) :
    ∃ nodes, c.keepNodes ids = .ok nodes ∧ nodes.map State.id = ids ∧ ∀ n ∈ nodes, n ∈ c.nodes := by
  obtain ⟨nodes, hok, hall⟩ : ∃ nodes, c.keepNodes ids = .ok nodes ∧
      List.Forall₂ (fun id n => n.id = id ∧ n ∈ c.nodes) ids nodes := by
    refine go_mapM_ok fun id hid => ?_
    obtain ⟨n, hn, heq⟩ := h id hid
    cases hfind : c.nodes.find? (·.id = id) with
    | none => exact absurd heq (by simpa using List.find?_eq_none.1 hfind n hn)
    | some found => exact ⟨found, rfl, by simpa using List.find?_some hfind, List.mem_of_find?_eq_some hfind⟩
  refine ⟨nodes, hok, ?_⟩
  clear h hok
  induction hall with
  | nil => exact ⟨rfl, fun _ h => absurd h List.not_mem_nil⟩
  | cons h _ ih => exact ⟨by rw [List.map_cons, h.1, ih.1], List.forall_mem_cons.2 ⟨h.2, ih.2⟩⟩

/-- `d` is the difference of `c` and `c'`. -/
structure IsDifference (c c' d : Channel) : Prop where
  name : d.name = c.name
  metadata : d.metadata = c.metadata
  edges : ∀ src dst, HasEdge d.edges src dst ↔ HasEdge c.edges src dst ∧ ¬HasEdge c'.edges src dst
  keys : ∀ src, src ∈ d.edges ↔
    src ∈ c.edges ∧ (src ∉ c'.edges ∨ ∃ dst, HasEdge c.edges src dst ∧ ¬HasEdge c'.edges src dst)
  nodup : d.nodes.Nodup
  nodes : ∀ n, n ∈ d.nodes ↔ n ∈ c.nodes ∧ (n.id ∈ d.edges ∨ ∃ src, HasEdge d.edges src n.id)

/-- `c` has a key or an edge that `c'` lacks. -/
def Differs (c c' : Channel) : Prop :=
  (∃ src ∈ c.edges, src ∉ c'.edges) ∨ ∃ src dst, HasEdge c.edges src dst ∧ ¬HasEdge c'.edges src dst

theorem differs_iff (unsorted : UnsortedList) : Differs c c' ↔ (keepEdges unsorted c c').entries ≠ [] := by
  have hkey : (keepEdges unsorted c c').entries ≠ [] ↔ ∃ src, src ∈ keepEdges unsorted c c' := by
    constructor
    · intro hne
      obtain ⟨e, he⟩ := List.exists_mem_of_ne_nil _ hne
      exact ⟨e.1, List.mem_map.2 ⟨e, he, rfl⟩⟩
    · rintro ⟨src, hsrc⟩ hnil
      rw [AList.mem_keys, AList.keys, hnil] at hsrc
      cases hsrc
  rw [hkey, Differs]
  simp only [mem_keepEdges]
  constructor
  · rintro (⟨src, hsrc, hnew⟩ | ⟨src, dst, hedge, hnew⟩)
    · exact ⟨src, hsrc, Or.inl hnew⟩
    · have ⟨toSet, hlookup, _⟩ := hedge
      exact ⟨src, mem_iff_lookup.2 ⟨toSet, hlookup⟩, Or.inr ⟨dst, hedge, hnew⟩⟩
  · rintro ⟨src, hsrc, hnew | ⟨dst, hnew⟩⟩
    · exact Or.inl ⟨src, hsrc, hnew⟩
    · exact Or.inr ⟨src, dst, hnew⟩

/-- The edges of a channel only name its nodes. -/
def Closed (c : Channel) : Prop :=
  ∀ src toSet, c.edges.lookup src = some toSet →
    (∃ n ∈ c.nodes, n.id = src) ∧ ∀ dst ∈ toSet, ∃ n ∈ c.nodes, n.id = dst

theorem diffChannel_ok (unsorted : UnsortedList) (c' : Channel) (hclosed : c.Closed)
    (hids : (c.nodes.map State.id).Nodup) :
    ∃ found, c.diffChannel unsorted c' = .ok found ∧ found.length ≤ 1 ∧ (found ≠ [] ↔ Differs c c') ∧
      ∀ d ∈ found, IsDifference c c' d := by
  rw [differs_iff unsorted, diffChannel]
  by_cases hnil : (keepEdges unsorted c c').entries = []
  · exact ⟨[], if_pos hnil, Nat.zero_le _, by simp [hnil], by simp⟩
  have hnamed : ∀ id ∈ unsorted.list (namedIDs (keepEdges unsorted c c')), ∃ n ∈ c.nodes, n.id = id := by
    intro id hid
    rcases mem_namedIDs.1 (mem_unsortedList.1 hid) with hkey | ⟨src, hedge⟩
    · obtain ⟨toSet, hlookup⟩ := mem_iff_lookup.1 (mem_keepEdges.1 hkey).1
      exact (hclosed id toSet hlookup).1
    · obtain ⟨toSet, hlookup, hid⟩ := (hasEdge_keepEdges.1 hedge).1
      exact (hclosed src toSet hlookup).2 id hid
  obtain ⟨nodes, hok, hmap, hmem⟩ := keepNodes_ok hnamed
  have hlist : (unsorted.list (namedIDs (keepEdges unsorted c c'))).Nodup :=
    (unsorted.perm _).nodup_iff.2 (List.nodup_dedup _)
  refine ⟨[{ name := c.name, metadata := c.metadata, edges := keepEdges unsorted c c', nodes }], ?_, le_rfl,
    by simp [hnil], ?_⟩
  · simp only [if_neg hnil, hok]
    rfl
  · intro d hd
    obtain rfl := List.mem_singleton.1 hd
    refine ⟨rfl, rfl, fun _ _ => hasEdge_keepEdges, fun _ => mem_keepEdges, (hmap ▸ hlist).of_map _, fun n => ?_⟩
    have hn : n ∈ nodes ↔ n ∈ c.nodes ∧ n.id ∈ unsorted.list (namedIDs (keepEdges unsorted c c')) := by
      rw [← hmap]
      constructor
      · exact fun h => ⟨hmem n h, List.mem_map_of_mem h⟩
      · -- the ids of the channel are distinct, so the node found for this id is `n`
        rintro ⟨hn, hid⟩
        obtain ⟨m, hm, heq⟩ := List.mem_map.1 hid
        exact List.inj_on_of_nodup_map hids (hmem m hm) hn heq ▸ hm
    rw [hn, mem_unsortedList, mem_namedIDs]

end Channel

/-! ## The whole graph -/

namespace UpdateGraph

/-- Channels can be told apart, and so can their nodes. -/
structure Identified (g : UpdateGraph) : Prop where
  metadata : ∀ c ∈ g.channels, c.metadata ≠ none
  distinct : g.channels.Pairwise fun c d => ¬c.equalIdentity d = true
  nodes : ∀ c ∈ g.channels, (c.nodes.map State.id).Nodup

variable {unsorted : UnsortedList} {g other : UpdateGraph} {c c' : Channel}

theorem Identified.unique (hg : g.Identified) (hc : c ∈ g.channels) (hc' : c' ∈ g.channels)
    (h : c.equalIdentity c' = true) : c = c' := by
  by_contra hne
  have hsymm : Std.Symm fun c d : Channel => ¬c.equalIdentity d = true :=
    ⟨fun _ _ hnot h => hnot (Channel.equalIdentity_symm h)⟩
  exact hg.distinct.forall hc hc' hne h

/-- In a graph whose channels can be told apart, a counterpart is the only one. -/
theorem Identified.filter_eq (hother : other.Identified) (hc' : c' ∈ other.channels)
    (h : c.equalIdentity c' = true) : other.channels.filter (c.equalIdentity ·) = [c'] := by
  have honly : ∀ d ∈ other.channels.filter (c.equalIdentity ·), d = c' := by
    intro d hd
    obtain ⟨hd, hsame⟩ := List.mem_filter.1 hd
    exact hother.unique hd hc' (Channel.equalIdentity_trans (Channel.equalIdentity_symm hsame) h)
  have hpairs : (other.channels.filter (c.equalIdentity ·)).Pairwise fun c d => ¬c.equalIdentity d = true :=
    hother.distinct.filter _
  match hfilter : other.channels.filter (c.equalIdentity ·) with
  | [] =>
    rw [List.filter_eq_nil_iff] at hfilter
    exact absurd h (hfilter c' hc')
  | [d] => rw [honly d (hfilter ▸ List.mem_singleton_self d)]
  | d :: d' :: rest =>
    rw [hfilter] at honly hpairs
    have hd := honly d (List.mem_cons_self ..)
    have hd' := honly d' (List.mem_cons_of_mem _ (List.mem_cons_self ..))
    refine absurd ?_ ((List.pairwise_cons.1 hpairs).1 d' (List.mem_cons_self ..))
    rw [hd, hd']
    exact Channel.equalIdentity_self (hother.metadata c' hc')

/-- What a channel adds, when everything goes well. -/
structure Adds (other : UpdateGraph) (c : Channel) (found : List Channel) : Prop where
  atMostOne : found.length ≤ 1
  identity : ∀ d ∈ found, d.equalIdentity c = true
  whole : (∀ c' ∈ other.channels, ¬c.equalIdentity c' = true) → found = [c]
  present : ∀ c' ∈ other.channels, c.equalIdentity c' = true → (found ≠ [] ↔ c.Differs c')
  difference : ∀ c' ∈ other.channels, c.equalIdentity c' = true → ∀ d ∈ found, c.IsDifference c' d

theorem diffChannels_ok (hother : other.Identified) (hmetadata : c.metadata ≠ none) (hclosed : c.Closed)
    (hids : (c.nodes.map State.id).Nodup) :
    ∃ found, diffChannels unsorted other c = .ok found ∧ Adds other c found := by
  by_cases hnone : ∀ c' ∈ other.channels, ¬c.equalIdentity c' = true
  · have hfilter : other.channels.filter (c.equalIdentity ·) = [] := List.filter_eq_nil_iff.2 hnone
    refine ⟨[c], by rw [diffChannels, hfilter], le_rfl, ?_, fun _ => rfl, ?_, ?_⟩
    · intro d hd
      rw [List.mem_singleton.1 hd]
      exact Channel.equalIdentity_self hmetadata
    · exact fun c' hc' h => absurd h (hnone c' hc')
    · exact fun c' hc' h => absurd h (hnone c' hc')
  · push Not at hnone
    obtain ⟨c', hc', hsame⟩ := hnone
    obtain ⟨found, hfound, hlength, hpresent, hdifference⟩ := Channel.diffChannel_ok unsorted c' hclosed hids
    -- the counterpart is the only one
    have hunique : ∀ c'' ∈ other.channels, c.equalIdentity c'' = true → c'' = c' := fun c'' hc'' h =>
      hother.unique hc'' hc' (Channel.equalIdentity_trans (Channel.equalIdentity_symm h) hsame)
    refine ⟨found, ?_, hlength, ?_, fun hnone => absurd hsame (hnone c' hc'), ?_, ?_⟩
    · rw [diffChannels, hother.filter_eq hc' hsame]
      simp only [List.mapM_cons, List.mapM_nil, hfound]
      exact congrArg Except.ok (List.append_nil found)
    · intro d hd
      have hd := hdifference d hd
      exact Channel.equalIdentity_iff.2 ⟨hd.metadata ▸ hmetadata, hmetadata, hd.name,
        by rw [Channel.metadataValue, hd.metadata, Channel.metadataValue]⟩
    · intro c'' hc'' h
      rw [hunique c'' hc'' h]
      exact hpresent
    · intro c'' hc'' h
      rw [hunique c'' hc'' h]
      exact hdifference

theorem exists_adds_of_mem {cs : List Channel} {found : List (List Channel)}
    (hall : List.Forall₂ (Adds other) cs found) {part : List Channel} (hpart : part ∈ found) :
    ∃ c ∈ cs, Adds other c part := by
  induction hall with
  | nil => cases hpart
  | cons hadds _ ih =>
    rcases List.mem_cons.1 hpart with rfl | hpart
    · exact ⟨_, List.mem_cons_self .., hadds⟩
    · obtain ⟨c, hc, h⟩ := ih hpart
      exact ⟨c, List.mem_cons_of_mem _ hc, h⟩

/-- What the difference has for a channel is what that channel added. -/
theorem filter_flatten_of_adds {cs : List Channel} {found : List (List Channel)}
    (hall : List.Forall₂ (Adds other) cs found) (hdistinct : cs.Pairwise fun c d => ¬c.equalIdentity d = true)
    (hc : c ∈ cs) : ∃ part, Adds other c part ∧ found.flatten.filter (·.equalIdentity c) = part := by
  induction hall with
  | nil => cases hc
  | @cons x part rest parts hadds hrest ih =>
    obtain ⟨hx, hdistinct⟩ := List.pairwise_cons.1 hdistinct
    rw [List.flatten_cons, List.filter_append]
    rcases List.mem_cons.1 hc with rfl | hc
    · refine ⟨part, hadds, ?_⟩
      have hpart : part.filter (·.equalIdentity c) = part := List.filter_eq_self.2 hadds.identity
      have hparts : parts.flatten.filter (·.equalIdentity c) = [] := by
        refine List.filter_eq_nil_iff.2 fun d hd hsame => ?_
        obtain ⟨l, hl, hd⟩ := List.mem_flatten.1 hd
        obtain ⟨y, hy, hyl⟩ := exists_adds_of_mem hrest hl
        exact hx y hy (Channel.equalIdentity_trans (Channel.equalIdentity_symm hsame) (hyl.identity d hd))
      rw [hpart, hparts, List.append_nil]
    · have hpart : part.filter (·.equalIdentity c) = [] := by
        refine List.filter_eq_nil_iff.2 fun d hd hsame => hx c hc ?_
        exact Channel.equalIdentity_trans (Channel.equalIdentity_symm (hadds.identity d hd)) hsame
      rw [hpart, List.nil_append]
      exact ih hdistinct hc

/-- What the difference of the graphs has to be for a channel `c` with the counterpart `c'`. -/
structure ExactAt (c c' : Channel) (diff : UpdateGraph) : Prop where
  atMostOne : (diff.channels.filter (·.equalIdentity c)).length ≤ 1
  present : (∃ d ∈ diff.channels, d.equalIdentity c = true) ↔ c.Differs c'
  difference : ∀ d ∈ diff.channels, d.equalIdentity c = true → c.IsDifference c' d

theorem Adds.exactAt {part : List Channel} {diff : UpdateGraph} (h : Adds other c part)
    (hpart : diff.channels.filter (·.equalIdentity c) = part) (hc' : c' ∈ other.channels)
    (hsame : c.equalIdentity c' = true) : ExactAt c c' diff where
  atMostOne := hpart ▸ h.atMostOne
  present := by
    rw [← h.present c' hc' hsame, ← hpart, Ne, List.filter_eq_nil_iff]
    push Not
    rfl
  difference := fun d hd hd' => h.difference c' hc' hsame d (hpart ▸ List.mem_filter.2 ⟨hd, hd'⟩)

/-- A graph with distinct channels has no difference to itself. -/
theorem not_differs_self : ¬c.Differs c := by
  rintro (⟨_, hsrc, hnot⟩ | ⟨_, _, hedge, hnot⟩)
  · exact hnot hsrc
  · exact hnot hedge

theorem difference_ok (unsorted : UnsortedList) (hg : g.Identified) (hother : other.Identified)
    (hclosed : ∀ c ∈ g.channels, c.Closed) :
    ∃ diff, g.difference unsorted other = .ok diff ∧
      (∀ c ∈ g.channels, ∃ part, Adds other c part ∧ diff.channels.filter (·.equalIdentity c) = part) ∧
      ∀ d ∈ diff.channels, ∃ c ∈ g.channels, d.equalIdentity c = true := by
  obtain ⟨found, hok, hall⟩ : ∃ found, g.channels.mapM (diffChannels unsorted other) = .ok found ∧
      List.Forall₂ (Adds other) g.channels found :=
    go_mapM_ok fun c hc => diffChannels_ok hother (hg.metadata c hc) (hclosed c hc) (hg.nodes c hc)
  refine ⟨{ channels := found.flatten }, ?_, fun c hc => filter_flatten_of_adds hall hg.distinct hc, ?_⟩
  · rw [difference, hok]
    rfl
  · intro d hd
    obtain ⟨l, hl, hd⟩ := List.mem_flatten.1 hd
    obtain ⟨c, hc, hadds⟩ := exists_adds_of_mem hall hl
    exact ⟨c, hc, hadds.identity d hd⟩

/-- **The difference of two update graphs is exact**, and a graph has none to itself. -/
theorem difference_exact (unsorted : UnsortedList) (g other : UpdateGraph) (hg : g.Identified)
    (hother : other.Identified) (hclosed : ∀ c ∈ g.channels, c.Closed) :
    (∃ diff, g.difference unsorted other = .ok diff ∧
      (∀ c ∈ g.channels, ∀ c' ∈ other.channels, c.equalIdentity c' = true → ExactAt c c' diff) ∧
      (∀ c ∈ g.channels, (∀ c' ∈ other.channels, ¬c.equalIdentity c' = true) →
        diff.channels.filter (·.equalIdentity c) = [c]) ∧
      ∀ d ∈ diff.channels, ∃ c ∈ g.channels, d.equalIdentity c = true) ∧
    g.difference unsorted g = .ok { channels := [] } := by
  constructor
  · obtain ⟨diff, hok, hparts, hnew⟩ := difference_ok unsorted hg hother hclosed
    refine ⟨diff, hok, fun c hc c' hc' hsame => ?_, fun c hc hnone => ?_, hnew⟩
    · obtain ⟨part, hadds, hpart⟩ := hparts c hc
      exact hadds.exactAt hpart hc' hsame
    · obtain ⟨part, hadds, hpart⟩ := hparts c hc
      rw [hpart, hadds.whole hnone]
  · obtain ⟨⟨channels⟩, hok, hparts, hnew⟩ := difference_ok unsorted hg hg hclosed
    have hnil : channels = [] := by
      refine List.eq_nil_iff_forall_not_mem.2 fun d hd => ?_
      obtain ⟨c, hc, hsame⟩ := hnew d hd
      obtain ⟨part, hadds, hpart⟩ := hparts c hc
      have hexact := hadds.exactAt hpart hc (Channel.equalIdentity_self (hg.metadata c hc))
      exact not_differs_self (hexact.present.1 ⟨d, hd, hsame⟩)
    rw [hok, hnil]

/-- Sets listed in the order of the last insertions. -/
def inOrder : UnsortedList := ⟨List.dedup, fun _ => List.Perm.refl _⟩

/-- One channel with these edges. -/
def oneChannel (ids : List String) (edges : EdgeSet) : UpdateGraph where
  channels := [{ name := "stable", metadata := some (mapOf [("datastore", "postgres")]), edges,
                 nodes := ids.map fun id => { id, tag := id } }]

def validatedGraph : UpdateGraph := oneChannel ["B", "A"] (mapOf [("A", ["B"])])

/-- A release was added, with edges from the ones before. -/
def proposedGraph : UpdateGraph := oneChannel ["C", "B", "A"] (mapOf [("A", ["B", "C"]), ("B", ["C"])])

theorem proposed_difference :
    (∃ diff, proposedGraph.difference inOrder validatedGraph = .ok diff ∧
      ∀ c ∈ proposedGraph.channels, ∀ c' ∈ validatedGraph.channels, c.equalIdentity c' = true → ExactAt c c' diff) ∧
    proposedGraph.difference inOrder proposedGraph = .ok { channels := [] } := by
  have hclosed : ∀ c ∈ proposedGraph.channels, c.Closed := by
    intro c hc src toSet hlookup
    have hentries : ∀ c ∈ proposedGraph.channels, ∀ e ∈ c.edges.entries,
        (∃ n ∈ c.nodes, n.id = e.1) ∧ ∀ dst ∈ e.2, ∃ n ∈ c.nodes, n.id = dst := by decide
    exact hentries c hc ⟨src, toSet⟩ (AList.mem_lookup_iff.1 hlookup)
  obtain ⟨⟨diff, hok, hexact, -⟩, hself⟩ := difference_exact inOrder proposedGraph validatedGraph
    ⟨by decide, by decide, by decide⟩ ⟨by decide, by decide, by decide⟩ hclosed
  exact ⟨⟨diff, hok, hexact⟩, hself⟩

end UpdateGraph

end SpiceDBOperator
