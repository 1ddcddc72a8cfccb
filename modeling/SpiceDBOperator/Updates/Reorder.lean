import SpiceDBOperator.Golang.Reorder
import SpiceDBOperator.Updates.Returns

/-!
# The order of an edge map

`NewMemorySource` ranges over the edge map of a channel and returns at the first entry that fails, and the error about a
cycle lists a set of visited nodes. Everything else looks edges up. So `ComputeTarget` gives the same target in every
order, and the text of its error may vary with the order of the edges and of the visited nodes: it does not if the
channels that are asked for a source are `Steady` (`call_steady`), and only then (`steady_of_texts`).
-/

namespace SpiceDBOperator

open Golang

/-! ## Sources -/

/-- The same source, with its edges in another order. -/
structure MemorySource.Same (m m' : MemorySource) : Prop where
  orderedNodes : m'.orderedNodes = m.orderedNodes
  nodes : m'.nodes = m.nodes
  edges : Reordered m.edges m'.edges

namespace MemorySource.Same

variable {m m' : MemorySource}

theorem nextVersion (h : Same m m') (src : String) : m'.nextVersion src = m.nextVersion src := by
  rw [MemorySource.nextVersion, MemorySource.nextVersion, h.edges src]

theorem nodeAt (h : Same m m') (id : String) : m'.nodeAt id = m.nodeAt id := by
  rw [MemorySource.nodeAt, MemorySource.nodeAt, h.orderedNodes, h.nodes]

theorem scanUnmigrated (h : Same m m') (initial : State) (toSet : List String) (found : String) :
    m'.scanUnmigrated initial toSet found = m.scanUnmigrated initial toSet found := by
  induction toSet generalizing found with
  | nil => rfl
  | cons n rest ih => simp only [MemorySource.scanUnmigrated, h.nodeAt, ih]

theorem nextVersionWithoutMigrations (h : Same m m') (src : String) :
    m'.nextVersionWithoutMigrations src = m.nextVersionWithoutMigrations src := by
  simp only [MemorySource.nextVersionWithoutMigrations, h.nodeAt, h.edges src, h.scanUnmigrated]

theorem latestVersion (h : Same m m') (id : String) : m'.latestVersion id = m.latestVersion id := by
  rw [MemorySource.latestVersion, MemorySource.latestVersion, h.orderedNodes]

theorem state (h : Same m m') (id : String) : m'.state id = m.state id := by
  rw [MemorySource.state, MemorySource.state, h.orderedNodes, h.nodes]

theorem subgraph (h : Same m m') (head : String) :
    (∃ fault, m.subgraph head = .error fault ∧ m'.subgraph head = .error fault) ∨
    (∃ err, m.subgraph head = .ok (.error err) ∧ m'.subgraph head = .ok (.error err)) ∨
    ∃ sub sub', m.subgraph head = .ok (.ok sub) ∧ m'.subgraph head = .ok (.ok sub') ∧ Same sub sub' := by
  unfold MemorySource.subgraph
  rw [h.orderedNodes, h.nodes]
  cases (if head = "" then some 0 else m.nodes.lookup head) with
  | none => exact .inr (.inl ⟨_, rfl, rfl⟩)
  | some i =>
    cases hslice : sliceFrom m.orderedNodes i with
    | error fault => exact .inl ⟨fault, by simp [bind, Except.bind, hslice], by simp [bind, Except.bind, hslice]⟩
    | ok orderedNodes =>
      refine .inr (.inr ⟨_, _, by simp [bind, Except.bind, hslice]; rfl, by simp [bind, Except.bind, hslice]; rfl, ?_⟩)
      exact ⟨rfl, rfl, h.edges.mapRestrict _ _⟩

theorem chase (h : Same m m') (src head : String) (fuel : Nat) (current : String) (visited : List String) :
    m'.chase src head fuel current visited = m.chase src head fuel current visited := by
  induction fuel generalizing current visited with
  | zero => rfl
  | succ fuel ih => simp only [MemorySource.chase, h.nextVersion, ih]

theorem pathsToHead (h : Same m m') (head : String) (fuel : Nat) (nodes : List State) :
    m'.pathsToHead head fuel nodes = m.pathsToHead head fuel nodes := by
  induction nodes with
  | nil => rfl
  | cons n rest ih => simp only [MemorySource.pathsToHead, h.nextVersion, h.chase, ih]

theorem validateAllNodesPathToHead (h : Same m m') :
    m'.validateAllNodesPathToHead = m.validateAllNodesPathToHead := by
  have hrounds : m'.chaseRounds = m.chaseRounds := by
    rw [chaseRounds, chaseRounds, (reordered_iff_perm.1 h.edges).length_eq]
  simp only [MemorySource.validateAllNodesPathToHead, h.orderedNodes, hrounds, h.pathsToHead]

end MemorySource.Same

/-! ## Channels -/

/-- What the check of the edge map says about its entries, in their order. -/
def edgeFailures (nodes : List State) (edges : EdgeSet) : List SourceError :=
  match nodes, buildNodeSet nodes 0 ∅ with
  | head :: _, .ok nodeSet => edges.entries.filterMap fun e => checkEdge nodeSet head e.1 e.2
  | _, _ => []

/-- The channel is rejected with the same text in every order: the entries that fail do so with the same text, and the
nodes that are visited before a cycle is found can change places. -/
structure Channel.Steady (c : Channel) : Prop where
  edges : ∀ err ∈ edgeFailures c.nodes c.edges, ∀ err' ∈ edgeFailures c.nodes c.edges, err.text = err'.text
  cycle : ∀ chain, newMemorySource c.nodes c.edges = .ok (.error (.cycle chain)) → Commuting " " chain.dropLast

section

variable {nodes : List State} {edges edges' : EdgeSet} {nodeSet : NodeSet} {head : State} {err : SourceError}

theorem checkEdges_mem {es : List (Sigma fun _ : String => List String)} (h : checkEdges nodeSet head es = some err) :
    err ∈ es.filterMap fun e => checkEdge nodeSet head e.1 e.2 := by
  induction es with
  | nil => cases h
  | cons e rest ih =>
    unfold checkEdges at h
    rw [List.filterMap_cons]
    cases hcheck : checkEdge nodeSet head e.1 e.2 with
    | none =>
      rw [hcheck] at h
      exact ih h
    | some first =>
      rw [hcheck] at h
      cases h
      exact List.mem_cons_self ..

/-- The errors about an edge name no set. -/
theorem checkEdge_textIn {src : String} {toSet : List String} (h : checkEdge nodeSet head src toSet = some err)
    (mapsKeys : List String → List String) : err.textIn mapsKeys = err.text := by
  unfold checkEdge at h
  split at h
  · cases h
    rfl
  · split at h
    · cases h
      rfl
    · split_ifs at h
      cases h
      rfl

theorem edgeFailures_textIn (h : err ∈ edgeFailures nodes edges) (mapsKeys : List String → List String) :
    err.textIn mapsKeys = err.text := by
  unfold edgeFailures at h
  split at h
  · obtain ⟨e, -, he⟩ := List.mem_filterMap.1 h
    exact checkEdge_textIn he mapsKeys
  · cases h

theorem edgeFailures_reordered (h : Reordered edges edges') :
    err ∈ edgeFailures nodes edges' ↔ err ∈ edgeFailures nodes edges := by
  unfold edgeFailures
  split
  · exact ((reordered_iff_perm.1 h).filterMap _).symm.mem_iff
  · exact Iff.rfl

/-- Every failure is the one that is reported in some order. -/
theorem edgeFailures_reported (h : err ∈ edgeFailures nodes edges) :
    ∃ edges', Reordered edges edges' ∧ newMemorySource nodes edges' = .ok (.error err) := by
  unfold edgeFailures at h
  split at h
  · rename_i head rest nodeSet hbuild
    obtain ⟨e, he, hcheck⟩ := List.mem_filterMap.1 h
    obtain ⟨others, hperm⟩ := exists_perm_first he
    obtain ⟨edges', hreordered, hentries⟩ := exists_reordered hperm
    refine ⟨edges', hreordered, ?_⟩
    simp [newMemorySource, hentries, hbuild, checkEdges, hcheck]
  · cases h

/-- In another order the edges are accepted or not as before, and if not then with the same error, unless it is about an
entry. -/
theorem newMemorySource_reordered (nodes : List State) (h : Reordered edges edges') :
    (∃ m m', newMemorySource nodes edges = .ok (.ok m) ∧ newMemorySource nodes edges' = .ok (.ok m') ∧ m.Same m') ∨
    (∃ err, newMemorySource nodes edges = .ok (.error err) ∧ newMemorySource nodes edges' = .ok (.error err)) ∨
    ∃ err ∈ edgeFailures nodes edges, ∃ err' ∈ edgeFailures nodes edges,
      newMemorySource nodes edges = .ok (.error err) ∧ newMemorySource nodes edges' = .ok (.error err') := by
  have hperm := reordered_iff_perm.1 h
  cases nodes with
  | nil => exact .inr (.inl ⟨_, rfl, rfl⟩)
  | cons head rest =>
    by_cases hempty : edges.entries = []
    · have hempty' : edges'.entries = [] := by simpa [hempty] using hperm.symm
      exact .inr (.inl ⟨.missingEdges, by simp [newMemorySource, hempty], by simp [newMemorySource, hempty']⟩)
    have hempty' : edges'.entries ≠ [] := fun hnil => hempty (by simpa [hnil] using hperm)
    cases hbuild : buildNodeSet (head :: rest) 0 ∅ with
    | error err =>
      exact .inr (.inl ⟨err, by simp [newMemorySource, hempty, hbuild], by simp [newMemorySource, hempty', hbuild]⟩)
    | ok nodeSet =>
      have hfailures : ∀ edges, edgeFailures (head :: rest) edges =
          edges.entries.filterMap fun e => checkEdge nodeSet head e.1 e.2 := by
        intro edges
        simp only [edgeFailures, hbuild]
      cases hcheck : checkEdges nodeSet head edges.entries with
      | some err =>
        cases hcheck' : checkEdges nodeSet head edges'.entries with
        | none =>
          have hnone := checkEdges_none.1 hcheck'
          rw [checkEdges_none.2 fun e he => hnone e (hperm.mem_iff.1 he)] at hcheck
          cases hcheck
        | some err' =>
          refine .inr (.inr ⟨err, ?_, err', ?_, by simp [newMemorySource, hempty, hbuild, hcheck],
            by simp [newMemorySource, hempty', hbuild, hcheck']⟩)
          · rw [hfailures]
            exact checkEdges_mem hcheck
          · rw [← edgeFailures_reordered h, hfailures]
            exact checkEdges_mem hcheck'
      | none =>
        have hnone := checkEdges_none.1 hcheck
        have hcheck' : checkEdges nodeSet head edges'.entries = none :=
          checkEdges_none.2 fun e he => hnone e (hperm.mem_iff.2 he)
        have hsame : MemorySource.Same { nodes := nodeSet, edges, orderedNodes := head :: rest }
            { nodes := nodeSet, edges := edges', orderedNodes := head :: rest } := ⟨rfl, rfl, h⟩
        obtain ⟨verdict, hverdict⟩ := MemorySource.validateAllNodesPathToHead_returns
          { nodes := nodeSet, edges, orderedNodes := head :: rest } (List.cons_ne_nil _ _)
        have hverdict' := hsame.validateAllNodesPathToHead.trans hverdict
        cases verdict with
        | some err =>
          refine .inr (.inl ⟨err, ?_, ?_⟩)
          · simp [newMemorySource, hempty, hbuild, hcheck, newMemorySourceFromValidatedNodes, hverdict,
              bind, Except.bind]
          · simp [newMemorySource, hempty', hbuild, hcheck', newMemorySourceFromValidatedNodes, hverdict', bind,
              Except.bind]
        | none =>
          refine .inl ⟨_, _, ?_, ?_, hsame⟩
          · simp [newMemorySource, hempty, hbuild, hcheck, newMemorySourceFromValidatedNodes, hverdict,
              bind, Except.bind]
          · simp [newMemorySource, hempty', hbuild, hcheck', newMemorySourceFromValidatedNodes, hverdict', bind,
              Except.bind]

end

/-- A channel that has a source is steady. -/
theorem Channel.steady_of_source {c : Channel} {m : MemorySource} (h : newMemorySource c.nodes c.edges = .ok (.ok m)) :
    c.Steady := by
  have hnone : ∀ err, err ∉ edgeFailures c.nodes c.edges := by
    intro err herr
    obtain ⟨edges', hedges, hnew⟩ := edgeFailures_reported herr
    rcases newMemorySource_reordered c.nodes hedges with ⟨m', m'', -, hok, -⟩ | ⟨err', hbad, -⟩ |
      ⟨err', -, err'', -, hbad, -⟩
    · rw [hnew] at hok
      cases hok
    · rw [h] at hbad
      cases hbad
    · rw [h] at hbad
      cases hbad
  refine ⟨fun err herr => absurd herr (hnone err), fun chain hcycle => ?_⟩
  rw [h] at hcycle
  cases hcycle

/-! ## Texts -/

/-- `maps.Keys`: every element once, in any order. -/
def Lists (mapsKeys : List String → List String) : Prop := ∀ xs, (mapsKeys xs).Perm xs

theorem SourceError.textIn_cycle (mapsKeys : List String → List String) (chain : List String) :
    (SourceError.cycle chain).textIn mapsKeys =
      "channel cycle detected: " ++ sliceText (mapsKeys chain.dropLast ++ chain.getLast?.toList) := rfl

theorem SourceError.textIn_congr {mapsKeys mapsKeys' : List String → List String} (h : Lists mapsKeys)
    (h' : Lists mapsKeys') {err : SourceError} (hcycle : ∀ chain, err = .cycle chain → Commuting " " chain.dropLast) :
    err.textIn mapsKeys = err.textIn mapsKeys' := by
  cases err with
  | cycle chain =>
    have hcommute := hcycle chain rfl
    have hlist : Commuting " " (mapsKeys chain.dropLast) :=
      fun x hx y hy => hcommute x ((h _).mem_iff.1 hx) y ((h _).mem_iff.1 hy)
    have htext := Commuting.intercalate_perm ((h chain.dropLast).trans (h' chain.dropLast).symm) hlist []
      chain.getLast?.toList
    rw [List.nil_append, List.nil_append] at htext
    rw [SourceError.textIn_cycle, SourceError.textIn_cycle, sliceText, sliceText, htext]
  | _ => rfl

/-- A steady channel is rejected with one text. -/
theorem Channel.Steady.textIn_eq {c : Channel} (hc : c.Steady) {mapsKeys mapsKeys' : List String → List String}
    (h : Lists mapsKeys) (h' : Lists mapsKeys') {edges' : EdgeSet} (hedges : Golang.Reordered c.edges edges')
    {err err' : SourceError} (herr : newMemorySource c.nodes c.edges = .ok (.error err))
    (herr' : newMemorySource c.nodes edges' = .ok (.error err')) : err.textIn mapsKeys = err'.textIn mapsKeys' := by
  rcases newMemorySource_reordered c.nodes hedges with ⟨m, m', hok, -⟩ | ⟨same, hsame, hsame'⟩ |
    ⟨first, hfirst, first', hfirst', hfail, hfail'⟩
  · rw [hok] at herr
    cases herr
  · rw [hsame] at herr
    rw [hsame'] at herr'
    cases herr
    cases herr'
    refine SourceError.textIn_congr h h' ?_
    rintro chain rfl
    exact hc.cycle chain hsame
  · rw [hfail] at herr
    rw [hfail'] at herr'
    cases herr
    cases herr'
    rw [edgeFailures_textIn hfirst, edgeFailures_textIn hfirst', hc.edges err hfirst err' hfirst']

/-! ## Graphs -/

/-- The same channel, with its edges in another order. -/
structure Channel.Reordered (c c' : Channel) : Prop where
  name : c'.name = c.name
  metadata : c'.metadata = c.metadata
  nodes : c'.nodes = c.nodes
  edges : Golang.Reordered c.edges c'.edges

theorem Channel.Reordered.metadataValue {c c' : Channel} (h : c.Reordered c') (key : String) :
    c'.metadataValue key = c.metadataValue key := by rw [Channel.metadataValue, Channel.metadataValue, h.metadata]

namespace UpdateGraph

/-- The same graph, with the edges of its channels in another order. -/
def Reordered (g g' : UpdateGraph) : Prop := List.Forall₂ Channel.Reordered g.channels g'.channels

section

variable {g g' : UpdateGraph}

theorem Reordered.refl (g : UpdateGraph) : Reordered g g :=
  List.forall₂_same.2 fun _ _ => ⟨rfl, rfl, rfl, Golang.Reordered.refl _⟩

theorem Reordered.find (h : Reordered g g') {p : Channel → Bool} (hp : ∀ c c', c.Reordered c' → p c' = p c) :
    (g.channels.find? p = none ∧ g'.channels.find? p = none) ∨
    ∃ c c', g.channels.find? p = some c ∧ g'.channels.find? p = some c' ∧ c.Reordered c' := by
  unfold Reordered at h
  generalize g.channels = channels, g'.channels = channels' at h ⊢
  induction h with
  | nil => exact .inl ⟨rfl, rfl⟩
  | @cons c c' rest rest' hc _ ih =>
    rw [List.find?_cons, List.find?_cons, hp c c' hc]
    cases p c with
    | true => exact .inr ⟨c, c', rfl, rfl, hc⟩
    | false => exact ih

theorem Reordered.findChannel (h : Reordered g g') (engine channel : String) :
    (g.findChannel engine channel = none ∧ g'.findChannel engine channel = none) ∨
    ∃ c c', g.findChannel engine channel = some c ∧ g'.findChannel engine channel = some c' ∧ c.Reordered c' :=
  h.find fun _ _ hc => by rw [hc.name, hc.metadataValue]

theorem Reordered.selectChannel (h : Reordered g g') (channel engine : String) (cur : Option SpiceDBVersion) :
    g'.selectChannel channel engine cur = g.selectChannel channel engine cur := by
  have hdefault : g'.defaultChannelForDatastore engine = g.defaultChannelForDatastore engine := by
    unfold UpdateGraph.defaultChannelForDatastore
    rcases h.find (p := fun c =>
        equalFold (c.metadataValue "datastore") engine && equalFold (c.metadataValue "default") "true")
      fun _ _ hc => by rw [hc.metadataValue, hc.metadataValue] with ⟨hnone, hnone'⟩ | ⟨c, c', hsome, hsome', hc⟩
    · rw [hnone, hnone']
    · rw [hsome, hsome']
      exact congrArg Except.ok hc.name
  rw [UpdateGraph.selectChannel, UpdateGraph.selectChannel, hdefault]

theorem selectChannel_textIn {channel engine : String} {cur : Option SpiceDBVersion} {err : UpdateError}
    (h : g.selectChannel channel engine cur = .error err) (mapsKeys : List String → List String) :
    err.textIn mapsKeys = err.text := by
  unfold UpdateGraph.selectChannel UpdateGraph.defaultChannelForDatastore at h
  simp only at h
  split_ifs at h
  split at h
  · cases h
  · rename_i heq
    cases h
    split at heq
    · cases heq
    · cases heq
      rfl

theorem Reordered.sourceForChannel (h : Reordered g g') {mapsKeys mapsKeys' : List String → List String}
    (hkeys : Lists mapsKeys) (hkeys' : Lists mapsKeys') {engine channel : String}
    (hsteady : ∀ c, g.findChannel engine channel = some c → c.Steady) :
    (∃ err err', g.sourceForChannel engine channel = .ok (.error err) ∧
      g'.sourceForChannel engine channel = .ok (.error err') ∧ err.textIn mapsKeys = err'.textIn mapsKeys') ∨
    ∃ m m', g.sourceForChannel engine channel = .ok (.ok m) ∧ g'.sourceForChannel engine channel = .ok (.ok m') ∧
      m.Same m' := by
  unfold UpdateGraph.sourceForChannel
  rcases h.findChannel engine channel with ⟨hnone, hnone'⟩ | ⟨c, c', hsome, hsome', hc⟩
  · rw [hnone, hnone']
    exact .inl ⟨_, _, rfl, rfl, rfl⟩
  · have htext : ∀ err err', newMemorySource c.nodes c.edges = .ok (.error err) →
        newMemorySource c.nodes c'.edges = .ok (.error err') → err.textIn mapsKeys = err'.textIn mapsKeys' :=
      fun _ _ => (hsteady c hsome).textIn_eq hkeys hkeys' hc.edges
    rw [hsome, hsome']
    simp only [hc.nodes]
    rcases newMemorySource_reordered c.nodes hc.edges with ⟨m, m', hok, hok', hm⟩ | ⟨same, hsame, hsame'⟩ |
      ⟨first, hfirst, first', hfirst', hfail, hfail'⟩
    · rw [hok, hok']
      exact .inr ⟨m, m', rfl, rfl, hm⟩
    · rw [hsame, hsame']
      exact .inl ⟨_, _, rfl, rfl, htext _ _ hsame hsame'⟩
    · rw [hfail, hfail']
      exact .inl ⟨_, _, rfl, rfl, htext _ _ hfail hfail'⟩

end

/-! ## `ComputeTarget` -/

/-- What there is to see of a target, where `mapsKeys` lists the visited nodes. -/
def seen (mapsKeys : List String → List String) (t : Target) :
    String × Option SpiceDBVersion × State × Option String :=
  (t.baseImage, t.target, t.state, t.err.map (·.textIn mapsKeys))

theorem seen_cases {mapsKeys mapsKeys' : List String → List String} {r r' : Go Target}
    (h : r.map (seen mapsKeys) = r'.map (seen mapsKeys')) :
    (∃ fault, r = .error fault ∧ r' = .error fault) ∨
    ∃ t t', r = .ok t ∧ r' = .ok t' ∧ seen mapsKeys t = seen mapsKeys' t' := by
  cases r with
  | error fault =>
    cases r' with
    | error fault' =>
      cases h
      exact .inl ⟨fault, rfl, rfl⟩
    | ok t' => cases h
  | ok t =>
    cases r' with
    | error fault' => cases h
    | ok t' => exact .inr ⟨t, t', rfl, rfl, Except.ok.inj h⟩

theorem seen_none {t : Target} (h : t.err = none) (mapsKeys mapsKeys' : List String → List String) :
    seen mapsKeys t = seen mapsKeys' t := by rw [seen, seen, h, Option.map_none, Option.map_none]

theorem seen_some {mapsKeys mapsKeys' : List String → List String} {err err' : UpdateError}
    (h : err.textIn mapsKeys = err'.textIn mapsKeys') (baseImage : String) (target : Option SpiceDBVersion)
    (state : State) :
    seen mapsKeys { baseImage, target, state, err := some err } =
      seen mapsKeys' { baseImage, target, state, err := some err' } := by
  rw [seen, seen, Option.map_some, Option.map_some, h]

theorem seen_error (fault : Fault) (mapsKeys mapsKeys' : List String → List String) :
    (Except.error fault : Go Target).map (seen mapsKeys) = (Except.error fault : Go Target).map (seen mapsKeys') := by
  rw [Except.map, Except.map]

theorem seen_ok {mapsKeys mapsKeys' : List String → List String} {t t' : Target}
    (h : seen mapsKeys t = seen mapsKeys' t') :
    (Except.ok t : Go Target).map (seen mapsKeys) = (Except.ok t' : Go Target).map (seen mapsKeys') :=
  congrArg Except.ok h

theorem textIn_fetchSource {mapsKeys mapsKeys' : List String → List String} {err err' : UpdateError}
    (h : err.textIn mapsKeys = err'.textIn mapsKeys') :
    (UpdateError.fetchSource err).textIn mapsKeys = (UpdateError.fetchSource err').textIn mapsKeys' :=
  congrArg ("error fetching update source: " ++ ·) h

/-- The channels that a call asks for a source: the one it selects, and that of the current version if the selected one
does not list it. -/
inductive Asked (g : UpdateGraph) (c : Call) (cur : Option SpiceDBVersion) : Channel → Prop
  | selected {name : String} {channel : Channel} (hbase : c.baseImage ≠ "")
    (hchosen : Chosen g c.channel c.engine cur name) (hname : name ≠ "")
    (hfind : g.findChannel c.engine name = some channel) : Asked g c cur channel
  | current {name : String} {m : MemorySource} {v : SpiceDBVersion} {channel : Channel} (hbase : c.baseImage ≠ "")
    (hchosen : Chosen g c.channel c.engine cur name) (hname : name ≠ "")
    (hsource : g.sourceForChannel c.engine name = .ok (.ok m)) (hcur : cur = some v)
    (hinstall : ¬ (c.version ≠ "" ∧ v.name = "")) (hmoved : ¬ (v.name = c.version ∧ v.channel = name))
    (hmissing : m.IsNode v.name → v.name = "") (hfind : g.findChannel c.engine v.channel = some channel) :
    Asked g c cur channel

section

variable {g g' : UpdateGraph} {m m' : MemorySource} {baseImage version channel engine : String}
  {mapsKeys mapsKeys' : List String → List String}

theorem pinSource_same (version : String) (hm : m.Same m') (cur : Option SpiceDBVersion) (notInChannel : Bool) :
    (∃ fault, pinSource version (some m) cur notInChannel = .error fault ∧
      pinSource version (some m') cur notInChannel = .error fault) ∨
    (∃ err, pinSource version (some m) cur notInChannel = .ok (.error err) ∧
      pinSource version (some m') cur notInChannel = .ok (.error err)) ∨
    ∃ sub sub', pinSource version (some m) cur notInChannel = .ok (.ok (some sub)) ∧
      pinSource version (some m') cur notInChannel = .ok (.ok (some sub')) ∧ sub.Same sub' := by
  unfold pinSource
  split_ifs
  · simp only [deref, bind, Except.bind]
    rcases hm.subgraph version with ⟨fault, h, h'⟩ | ⟨err, h, h'⟩ | ⟨sub, sub', h, h', hsub⟩
    · rw [h, h']
      exact .inl ⟨fault, rfl, rfl⟩
    · rw [h, h']
      exact .inr (.inl ⟨err, rfl, rfl⟩)
    · rw [h, h']
      exact .inr (.inr ⟨sub, sub', rfl, rfl, hsub⟩)
  · exact .inr (.inr ⟨m, m', rfl, rfl, hm⟩)

theorem takeStep_same (hm : m.Same m') (cur : Option SpiceDBVersion) (currentState : State) (target : SpiceDBVersion)
    (notInChannel : Bool) :
    takeStep baseImage version (some m') cur currentState target notInChannel =
      takeStep baseImage version (some m) cur currentState target notInChannel := by
  unfold takeStep
  rcases pinSource_same version hm cur notInChannel with
    ⟨fault, h, h'⟩ | ⟨err, h, h'⟩ | ⟨sub, sub', h, h', hsub⟩
  · rw [h, h']
  · rw [h, h']
  · rw [h, h']
    simp only [bind, Except.bind, deref, hsub.nextVersion, hsub.nextVersionWithoutMigrations, hsub.state,
      hsub.latestVersion]

/-- The errors of the later steps name no set. -/
theorem takeStep_textIn {source : Option MemorySource} {cur : Option SpiceDBVersion} {currentState : State}
    {target : SpiceDBVersion} {notInChannel : Bool} {t : Target}
    (h : takeStep baseImage version source cur currentState target notInChannel = .ok t)
    (mapsKeys mapsKeys' : List String → List String) : seen mapsKeys t = seen mapsKeys' t := by
  unfold takeStep at h
  obtain ⟨pinned, -, h⟩ := go_bind_ok.1 h
  cases pinned with
  | error err =>
    cases h
    exact seen_some rfl _ _ _
  | ok source =>
    obtain ⟨m, -, h⟩ := go_bind_ok.1 h
    simp only at h
    split at h
    · split at h
      · cases h
        exact seen_none rfl _ _
      · obtain ⟨direct, -, h⟩ := go_bind_ok.1 h
        obtain ⟨state, -, h⟩ := go_bind_ok.1 h
        cases h
        exact seen_none rfl _ _
    · obtain ⟨state, -, h⟩ := go_bind_ok.1 h
      cases h
      exact seen_none rfl _ _

theorem takeStep_seen (hm : m.Same m') (mapsKeys mapsKeys' : List String → List String) (cur : Option SpiceDBVersion)
    (currentState : State) (target : SpiceDBVersion) (notInChannel : Bool) :
    (takeStep baseImage version (some m) cur currentState target notInChannel).map (seen mapsKeys) =
      (takeStep baseImage version (some m') cur currentState target notInChannel).map (seen mapsKeys') := by
  rw [takeStep_same hm]
  cases hstep : takeStep baseImage version (some m) cur currentState target notInChannel with
  | error fault => exact seen_error fault mapsKeys mapsKeys'
  | ok t => exact seen_ok (takeStep_textIn hstep mapsKeys mapsKeys')

theorem rollOrStep_seen (hm : m.Same m') (mapsKeys mapsKeys' : List String → List String) (v : SpiceDBVersion)
    (rolling : Bool) (currentState : State) (target : SpiceDBVersion) (notInChannel : Bool) :
    (rollOrStep baseImage version (some m) v rolling currentState target notInChannel).map (seen mapsKeys) =
      (rollOrStep baseImage version (some m') v rolling currentState target notInChannel).map (seen mapsKeys') := by
  unfold rollOrStep
  split_ifs
  · exact seen_ok (seen_some rfl _ _ _)
  · exact seen_ok (seen_none rfl _ _)
  · exact takeStep_seen hm mapsKeys mapsKeys' (some v) currentState target notInChannel

theorem targetFrom_seen (hg : Reordered g g') (hkeys : Lists mapsKeys) (hkeys' : Lists mapsKeys') (hwf : m.WF)
    (hm : m.Same m') (hchannel : channel ≠ "") (cur : Option SpiceDBVersion) (rolling : Bool)
    (hsteady : ∀ v, cur = some v → ¬ (version ≠ "" ∧ v.name = "") → ¬ (v.name = version ∧ v.channel = channel) →
      (m.IsNode v.name → v.name = "") → ∀ c, g.findChannel engine v.channel = some c → c.Steady) :
    (g.targetFrom baseImage version channel engine cur rolling (some m)).map (seen mapsKeys) =
      (g'.targetFrom baseImage version channel engine cur rolling (some m')).map (seen mapsKeys') := by
  by_cases hinstall : version ≠ "" ∧ (cur.map (·.name)).getD "" = ""
  · simp only [targetFrom, if_pos hinstall, deref, hm.state, hwf.state_eq, bind, Except.bind]
    split_ifs
    · exact seen_ok (seen_some rfl _ _ _)
    · exact seen_ok (seen_none rfl _ _)
  cases cur with
  | none =>
    simp only [targetFrom, if_neg hinstall]
    split_ifs
    · exact seen_ok (seen_some rfl _ _ _)
    · exact takeStep_seen hm mapsKeys mapsKeys' none {} _ false
  | some v =>
    have hinstall' : ¬ (version ≠ "" ∧ v.name = "") := hinstall
    by_cases hmoved : v.name = version ∧ v.channel = channel
    · simp only [targetFrom, if_neg hinstall, if_pos hmoved, deref, hm.state, hwf.state_eq, bind, Except.bind]
      exact seen_ok (seen_none rfl _ _)
    by_cases hlisted : m.IsNode v.name ∧ v.name ≠ ""
    · have hid : (m.nodeState v.name).id ≠ "" := MemorySource.nodeState_id_ne.2 hlisted
      have hlocated : g.locateCurrent engine (some m) v { v with channel } =
          .ok (.ok (m.nodeState v.name, { v with channel }, false)) :=
        locateCurrent_inChannel hwf hlisted.1 hlisted.2 { v with channel }
      have hlocated' : g'.locateCurrent engine (some m') v { v with channel } =
          .ok (.ok (m.nodeState v.name, { v with channel }, false)) := by
        simp [locateCurrent, deref, hm.state, hwf.state_eq, hid, bind, Except.bind]
      rw [targetFrom_located hchannel hinstall' hmoved hlocated, targetFrom_located hchannel hinstall' hmoved hlocated']
      exact rollOrStep_seen hm mapsKeys mapsKeys' v rolling _ _ _
    · have hmissing : m.IsNode v.name → v.name = "" := by simpa using hlisted
      have hid : (m.nodeState v.name).id = "" := by
        by_contra hne
        exact hlisted (MemorySource.nodeState_id_ne.1 hne)
      rcases hg.sourceForChannel hkeys hkeys' (hsteady v rfl hinstall' hmoved hmissing) with
        ⟨err, err', hsource, hsource', htext⟩ | ⟨own, own', hsource, hsource', hown⟩
      · have hlocated : g.locateCurrent engine (some m) v { v with channel } = .ok (.error (.fetchSource err)) := by
          simp [locateCurrent, deref, hwf.state_eq, hid, hsource, bind, Except.bind]
        have hlocated' : g'.locateCurrent engine (some m') v { v with channel } = .ok (.error (.fetchSource err')) := by
          simp [locateCurrent, deref, hm.state, hwf.state_eq, hid, hsource', bind, Except.bind]
        rw [targetFrom_unlocated hchannel hinstall' hmoved hlocated,
          targetFrom_unlocated hchannel hinstall' hmoved hlocated']
        exact seen_ok (seen_some (textIn_fetchSource htext) _ _ _)
      · have hwfown := sourceForChannel_wf hsource
        have hlocated : g.locateCurrent engine (some m) v { v with channel } = .ok (.ok (own.nodeState v.name,
            { v with
              attributes := v.attributes ++ [SpiceDBVersionAttributes.notInChannel] }, true)) := by
          simp [locateCurrent, deref, hwf.state_eq, hid, hsource, hwfown.state_eq, bind, Except.bind]
        have hlocated' : g'.locateCurrent engine (some m') v { v with channel } = .ok (.ok (own.nodeState v.name,
            { v with
              attributes := v.attributes ++ [SpiceDBVersionAttributes.notInChannel] }, true)) := by
          simp [locateCurrent, deref, hm.state, hwf.state_eq, hid, hsource', hown.state, hwfown.state_eq, bind,
            Except.bind]
        rw [targetFrom_located hchannel hinstall' hmoved hlocated,
          targetFrom_located hchannel hinstall' hmoved hlocated']
        exact rollOrStep_seen hm mapsKeys mapsKeys' v rolling _ _ _

/-- Without a source the graph is not asked. -/
theorem targetFrom_nil_seen (g g' : UpdateGraph) (mapsKeys mapsKeys' : List String → List String)
    (cur : Option SpiceDBVersion) (rolling : Bool) :
    (g.targetFrom baseImage version channel engine cur rolling none).map (seen mapsKeys) =
      (g'.targetFrom baseImage version channel engine cur rolling none).map (seen mapsKeys') := by
  by_cases hinstall : version ≠ "" ∧ (cur.map (·.name)).getD "" = ""
  · simp only [targetFrom, if_pos hinstall, deref, bind, Except.bind]
    exact seen_error _ _ _
  cases cur with
  | none =>
    cases rolling with
    | true =>
      simp only [targetFrom, if_neg hinstall, if_true]
      exact seen_ok (seen_some rfl _ _ _)
    | false =>
      simp only [targetFrom, if_neg hinstall, takeStep, pinSource, deref, bind, Except.bind, Option.isSome_none,
        Bool.false_eq_true, false_and, if_false]
      exact seen_error _ _ _
  | some v =>
    simp only [targetFrom, if_neg hinstall, locateCurrent, deref, bind, Except.bind]
    split_ifs
    · exact seen_error _ _ _
    · exact seen_error _ _ _

/-- **Where the channels that are asked are steady, the order of their edges cannot be seen.** -/
theorem call_steady (hg : Reordered g g') (hkeys : Lists mapsKeys) (hkeys' : Lists mapsKeys') {c : Call}
    {cur : Option SpiceDBVersion} (hsteady : ∀ channel, Asked g c cur channel → channel.Steady) :
    (g.call c cur).map (seen mapsKeys) = (g'.call c cur).map (seen mapsKeys') := by
  by_cases hbase : c.baseImage = ""
  · rw [call_without_base hbase, call_without_base hbase]
    exact seen_ok (seen_some rfl _ _ _)
  cases hselect : g.selectChannel c.channel c.engine cur with
  | error err =>
    have hselect' := (hg.selectChannel c.channel c.engine cur).trans hselect
    rw [call_unselected hbase hselect, call_unselected hbase hselect']
    refine seen_ok (seen_some ?_ _ _ _)
    rw [selectChannel_textIn hselect, selectChannel_textIn hselect]
  | ok name =>
    have hchosen := selectChannel_ok.1 hselect
    have hchosen' := selectChannel_ok.1 ((hg.selectChannel c.channel c.engine cur).trans hselect)
    rw [call_selected hbase hchosen, call_selected hbase hchosen']
    by_cases hname : name = ""
    · subst hname
      exact targetFrom_nil_seen g g' mapsKeys mapsKeys' cur c.rolling
    rcases hg.sourceForChannel hkeys hkeys' fun channel hfind =>
      hsteady channel (.selected hbase hchosen hname hfind) with
      ⟨err, err', hsource, hsource', htext⟩ | ⟨m, m', hsource, hsource', hm⟩
    · simp only [fetchSource, ne_eq, hname, not_false_eq_true, if_true, hsource, hsource', bind, Except.bind]
      exact seen_ok (seen_some (textIn_fetchSource htext) _ _ _)
    · simp only [fetchSource, ne_eq, hname, not_false_eq_true, if_true, hsource, hsource', bind, Except.bind]
      refine targetFrom_seen hg hkeys hkeys' (sourceForChannel_wf hsource) hm hname cur c.rolling ?_
      intro v hcur hinstall hmoved hmissing channel hfind
      exact hsteady channel (.current hbase hchosen hname hsource hcur hinstall hmoved hmissing hfind)

/-! ## Only where they are steady -/

theorem Asked.mem {c : Call} {cur : Option SpiceDBVersion} {asked : Channel} (h : Asked g c cur asked) :
    asked ∈ g.channels := by
  cases h with
  | selected _ _ _ hfind => exact List.mem_of_find?_eq_some hfind
  | current _ _ _ _ _ _ _ _ hfind => exact List.mem_of_find?_eq_some hfind

/-- A call reports the error of a channel it asks. -/
theorem Asked.call_err {c : Call} {cur : Option SpiceDBVersion} {asked : Channel} (h : Asked g c cur asked)
    {err : SourceError} (herr : newMemorySource asked.nodes asked.edges = .ok (.error err)) :
    ∃ t, g.call c cur = .ok t ∧ t.err = some (.fetchSource (.source err)) ∧ t.state = {} := by
  have hsource : ∀ name, g.findChannel c.engine name = some asked →
      g.sourceForChannel c.engine name = .ok (.error (.source err)) := by
    intro name hfind
    simp only [UpdateGraph.sourceForChannel, hfind, herr, bind, Except.bind]
  cases h with
  | selected hbase hchosen hname hfind =>
    rw [call_selected hbase hchosen]
    simp only [fetchSource, ne_eq, hname, not_false_eq_true, if_true, hsource _ hfind, bind, Except.bind]
    exact ⟨_, rfl, rfl, rfl⟩
  | @current name m v _ hbase hchosen hname hselected hcur hinstall hmoved hmissing hfind =>
    subst hcur
    have hwf := sourceForChannel_wf hselected
    have hid : (m.nodeState v.name).id = "" := by
      by_contra hne
      obtain ⟨hnode, hne'⟩ := MemorySource.nodeState_id_ne.1 hne
      exact hne' (hmissing hnode)
    have hlocated : g.locateCurrent c.engine (some m) v { v with channel := name } =
        .ok (.error (.fetchSource (.source err))) := by
      simp [locateCurrent, deref, hwf.state_eq, hid, hsource _ hfind, bind, Except.bind]
    rw [call_selected hbase hchosen]
    simp only [fetchSource, ne_eq, hname, not_false_eq_true, if_true, hselected, bind, Except.bind]
    rw [targetFrom_unlocated hname hinstall hmoved hlocated]
    exact ⟨_, rfl, rfl, rfl⟩

/-- The graph with other edges. -/
def withEdges (g : UpdateGraph) (f : Channel → EdgeSet) : UpdateGraph :=
  { channels := g.channels.map fun c => { c with edges := f c } }

theorem reordered_withEdges {f : Channel → EdgeSet} (hf : ∀ c, Golang.Reordered c.edges (f c)) :
    Reordered g (g.withEdges f) := by
  unfold Reordered withEdges
  rw [List.forall₂_map_right_iff, List.forall₂_same]
  exact fun c _ => ⟨rfl, rfl, rfl, hf c⟩

theorem Asked.withEdges {c : Call} {cur : Option SpiceDBVersion} {asked : Channel} (h : Asked g c cur asked)
    {f : Channel → EdgeSet} (hf : ∀ c, Golang.Reordered c.edges (f c)) :
    Asked (g.withEdges f) c cur { asked with edges := f asked } := by
  have hchosen' : ∀ name, Chosen g c.channel c.engine cur name →
      Chosen (g.withEdges f) c.channel c.engine cur name := by
    intro name hchosen
    exact selectChannel_ok.1 (((reordered_withEdges hf).selectChannel _ _ _).trans (selectChannel_ok.2 hchosen))
  have hfind' : ∀ name channel, g.findChannel c.engine name = some channel →
      (g.withEdges f).findChannel c.engine name = some { channel with edges := f channel } := by
    intro name channel hfind
    unfold UpdateGraph.findChannel UpdateGraph.withEdges
    rw [List.find?_map]
    exact Option.map_eq_some_iff.2 ⟨channel, hfind, rfl⟩
  cases h with
  | selected hbase hchosen hname hfind => exact .selected hbase (hchosen' _ hchosen) hname (hfind' _ _ hfind)
  | current hbase hchosen hname hselected hcur hinstall hmoved hmissing hfind =>
    obtain ⟨channel, hchannel, hok⟩ := sourceForChannel_ok.1 hselected
    rcases newMemorySource_reordered channel.nodes (hf channel) with ⟨m, m', hm, hm', hsame⟩ | ⟨err, herr, -⟩ |
      ⟨err, -, err', -, herr, -⟩
    · rw [hm] at hok
      cases hok
      refine .current hbase (hchosen' _ hchosen) hname
        (sourceForChannel_ok.2 ⟨_, hfind' _ _ hchannel, hm'⟩) hcur hinstall
        hmoved ?_ (hfind' _ _ hfind)
      unfold MemorySource.IsNode
      rw [hsame.orderedNodes]
      exact hmissing
    · rw [herr] at hok
      cases hok
    · rw [herr] at hok
      cases hok

/-- If the text of the error is the same in every order then the channels that are asked are steady. -/
theorem steady_of_texts {c : Call} {cur : Option SpiceDBVersion}
    (hsame : ∀ g₁ g₂ mapsKeys₁ mapsKeys₂ t₁ t₂ err₁ err₂, Reordered g g₁ → Reordered g g₂ → Lists mapsKeys₁ →
      Lists mapsKeys₂ → g₁.call c cur = .ok t₁ → g₂.call c cur = .ok t₂ →
      t₁.err = some (.fetchSource (.source err₁)) ∧ t₁.state = {} →
      t₂.err = some (.fetchSource (.source err₂)) ∧ t₂.state = {} → err₁.textIn mapsKeys₁ = err₂.textIn mapsKeys₂)
    {asked : Channel} (h : Asked g c cur asked) : asked.Steady := by
  classical
  have hreport : ∀ edges err, Golang.Reordered asked.edges edges →
    newMemorySource asked.nodes edges = .ok (.error err) →
      ∃ g' t, Reordered g g' ∧ g'.call c cur = .ok t ∧ t.err = some (.fetchSource (.source err)) ∧ t.state = {} := by
    intro edges err hedges herr
    have hf : ∀ channel : Channel,
        Golang.Reordered channel.edges (if channel = asked then edges else channel.edges) := by
      intro channel
      split_ifs with hchannel
      · rw [hchannel]
        exact hedges
      · exact Golang.Reordered.refl _
    have hasked := h.withEdges hf
    rw [if_pos rfl] at hasked
    obtain ⟨t, ht, hterr⟩ := hasked.call_err herr
    exact ⟨_, t, reordered_withEdges hf, ht, hterr⟩
  refine ⟨fun err herr err' herr' => ?_, fun chain hchain x hx y hy => ?_⟩
  · obtain ⟨edges₁, hedges₁, hnew₁⟩ := edgeFailures_reported herr
    obtain ⟨edges₂, hedges₂, hnew₂⟩ := edgeFailures_reported herr'
    obtain ⟨g₁, t₁, hg₁, ht₁, herr₁⟩ := hreport edges₁ err hedges₁ hnew₁
    obtain ⟨g₂, t₂, hg₂, ht₂, herr₂⟩ := hreport edges₂ err' hedges₂ hnew₂
    exact hsame g₁ g₂ id id t₁ t₂ err err' hg₁ hg₂ (fun _ => .refl _) (fun _ => .refl _) ht₁ ht₂ herr₁ herr₂
  · by_cases hxy : x = y
    · rw [hxy]
    obtain ⟨rest, hperm⟩ := exists_perm_pair hx hy hxy
    obtain ⟨g', t, hg, ht, hterr⟩ := hreport asked.edges _ (Golang.Reordered.refl _) hchain
    have hlists : ∀ l, chain.dropLast.Perm l → Lists fun xs => if xs = chain.dropLast then l else xs := by
      intro l hl xs
      simp only
      split_ifs with hxs
      · rw [hxs]
        exact hl.symm
      · exact .refl _
    have htext :=
      hsame g' g' _ _ t t _ _ hg hg (hlists _ hperm) (hlists _ (hperm.trans (.swap y x rest))) ht ht hterr hterr
    rw [SourceError.textIn_cycle, SourceError.textIn_cycle, if_pos rfl, if_pos rfl, String.append_right_inj, sliceText,
      sliceText, String.append_left_inj, String.append_right_inj] at htext
    exact (intercalate_swap_iff [] (rest ++ chain.getLast?.toList)).1 htext

end

end UpdateGraph

end SpiceDBOperator
