import SpiceDBOperator.Updates.Rails

/-!
# What `AvailableVersions` (file.go:128) offers

`AvailableVersions` lists the updates of a version: in its own channel the direct update, the next version and the
head, and the safest update in each other channel of the engine.

* `availableVersions_of_own_channel`: the entries of the own channel are distinct, reachable, flagged when they need a
  migration, and name the head once; every other channel adds at most one entry, one edge away.
* `offered_is_delivered`: an entry marked `next` is what `ComputeTarget` returns when it is written into the spec. The
  two ask different sources: the whole channel here, the channel re-rooted at the entry there.

| here | there |
| --- | --- |
| `Offered`      | names and attributes of the entries of the own channel (file.go:139-174) |
| `OldestFirst`  | the order of adjacency lists that memory.go:28-51 rests on |
-/

namespace SpiceDBOperator

open Golang Relation

namespace MemorySource

variable {m : MemorySource} {src dst : String}

theorem directVersion_edge (h : m.directVersion src ≠ "") : m.Edge src (m.directVersion src) := by
  unfold directVersion at h ⊢
  cases he : m.edges.lookup src with
  | none => simp [he] at h
  | some toSet =>
    simp only [he] at h ⊢
    cases hl : (toSet.takeWhile fun dst => SameMigration (m.nodeState src) (m.nodeState dst)).getLast? with
    | none => simp [hl] at h
    | some d =>
      have hmem := List.mem_of_getLast? hl
      exact ⟨toSet, he, (List.takeWhile_sublist _).subset hmem⟩

end MemorySource

namespace UpdateGraph

variable {g : UpdateGraph}

/-! ## The own channel -/

/-- Name and attributes of an entry, for the direct update `d`, the next version `n` and the head `l`. -/
inductive Offered (d n l : String) : String → List String → Prop
  | direct (hd : d ≠ "") :
      Offered d n l d ([SpiceDBVersionAttributes.next] ++ if d = l then [SpiceDBVersionAttributes.latest] else [])
  | migrating (hn : n ≠ "") (hnd : n ≠ d) :
      Offered d n l n ([SpiceDBVersionAttributes.next, SpiceDBVersionAttributes.migration] ++
        if n = l then [SpiceDBVersionAttributes.latest] else [])
  | head (hl : l ≠ "") (hnl : n ≠ l) (hdl : d ≠ l) :
      Offered d n l l [SpiceDBVersionAttributes.latest, SpiceDBVersionAttributes.migration]

section

variable {channel d n l : String} {w : SpiceDBVersion}

theorem offered_of_mem (h : w ∈ ownChannelVersions channel d n l) :
    w.channel = channel ∧ Offered d n l w.name w.attributes := by
  simp only [ownChannelVersions, List.mem_append] at h
  rcases h with (h | h) | h
  · split_ifs at h with hd hl
    · rw [List.mem_singleton] at h
      subst h
      exact ⟨rfl, by simpa [hl] using Offered.direct (n := n) (l := l) hd⟩
    · rw [List.mem_singleton] at h
      subst h
      exact ⟨rfl, by simpa [hl] using Offered.direct (n := n) (l := l) hd⟩
    · cases h
  · split_ifs at h with hn hl
    · rw [List.mem_singleton] at h
      subst h
      exact ⟨rfl, by simpa [hl] using Offered.migrating (l := l) hn.1 hn.2⟩
    · rw [List.mem_singleton] at h
      subst h
      exact ⟨rfl, by simpa [hl] using Offered.migrating (l := l) hn.1 hn.2⟩
    · cases h
  · split_ifs at h with hl
    · rw [List.mem_singleton] at h
      subst h
      exact ⟨rfl, Offered.head hl.1 hl.2.1 hl.2.2⟩
    · cases h

theorem ownChannelVersions_names (channel d n l : String) :
    (ownChannelVersions channel d n l).map (·.name) =
      (if d ≠ "" then [d] else []) ++ (if n ≠ "" ∧ n ≠ d then [n] else []) ++
        (if l ≠ "" ∧ n ≠ l ∧ d ≠ l then [l] else []) := by
  simp only [ownChannelVersions, List.map_append]
  congr 1
  · congr 1
    · split_ifs <;> rfl
    · split_ifs <;> rfl
  · split_ifs <;> rfl

theorem ownChannelVersions_nodup (channel d n l : String) :
    ((ownChannelVersions channel d n l).map (·.name)).Nodup := by
  rw [ownChannelVersions_names]
  split_ifs with hd hn hl hl hn hl hl <;> simp_all [eq_comm]

theorem Offered.name_cases {name : String} {attributes : List String} (h : Offered d n l name attributes) :
    (name ≠ "" ∧ (name = d ∨ name = n)) ∨ (name = l ∧ l ≠ "") := by
  cases h with
  | direct hd => exact Or.inl ⟨hd, Or.inl rfl⟩
  | migrating hn _ => exact Or.inl ⟨hn, Or.inr rfl⟩
  | head hl _ _ => exact Or.inr ⟨rfl, hl⟩

theorem Offered.name_of_next {name : String} {attributes : List String} (h : Offered d n l name attributes)
    (hnext : SpiceDBVersionAttributes.next ∈ attributes) : name ≠ "" ∧ (name = d ∨ name = n) := by
  cases h with
  | direct hd => exact ⟨hd, Or.inl rfl⟩
  | migrating hn _ => exact ⟨hn, Or.inr rfl⟩
  | head _ _ _ => exact absurd hnext (by decide)

theorem Offered.direct_of_unflagged {name : String} {attributes : List String} (h : Offered d n l name attributes)
    (hflag : SpiceDBVersionAttributes.migration ∉ attributes) : name = d ∧ d ≠ "" := by
  cases h with
  | direct hd => exact ⟨rfl, hd⟩
  | migrating _ _ => exact absurd (by simp) hflag
  | head _ _ _ => exact absurd (by simp) hflag

/-- The entry of the head is the one marked `latest`. -/
theorem Offered.latest_iff {name : String} {attributes : List String} (h : Offered d n l name attributes) :
    SpiceDBVersionAttributes.latest ∈ attributes ↔ name = l := by
  cases h with
  | direct _ =>
    split_ifs with hdl
    · simp [hdl]
    · simp only [hdl, iff_false]
      decide
  | migrating _ _ =>
    split_ifs with hnl
    · simp [hnl]
    · simp only [hnl, iff_false]
      decide
  | head _ _ _ => simp

/-- The head is listed, as one of the three. -/
theorem head_mem_ownChannelVersions (channel d n : String) (hl : l ≠ "") :
    l ∈ (ownChannelVersions channel d n l).map (·.name) := by
  rw [ownChannelVersions_names]
  by_cases hd : d = l
  · simp [hd, hl]
  · by_cases hn : n = l
    · simp [hn, hl, Ne.symm hd]
    · simp [hl, hn, hd]

end

/-! ## The other channels -/

section

variable {engine : String} {v w : SpiceDBVersion} {c : Channel}

theorem otherChannelVersion_returns (g : UpdateGraph) (engine : String) (v : SpiceDBVersion) (c : Channel) :
    ∃ found, g.otherChannelVersion engine v c = .ok found := by
  unfold otherChannelVersion
  split_ifs
  · exact ⟨none, rfl⟩
  obtain ⟨source, hsource⟩ := g.sourceForChannel_returns engine c.name
  cases source with
  | error err => exact ⟨none, by simp [hsource, bind, Except.bind]⟩
  | ok m =>
    simp only [hsource, (sourceForChannel_wf hsource).nextVersionWithoutMigrations_eq, bind, Except.bind]
    split_ifs <;> exact ⟨_, rfl⟩

/-- An entry of another channel is offered as in its own channel, without a head. -/
theorem otherChannelVersion_some (h : g.otherChannelVersion engine v c = .ok (some w)) :
    ∃ m, c.name ≠ v.channel ∧ c.metadataValue "datastore" = engine ∧ g.sourceForChannel engine c.name = .ok (.ok m) ∧
      w.channel = c.name ∧ Offered (m.directVersion v.name) (m.nextVersion v.name) "" w.name w.attributes := by
  unfold otherChannelVersion at h
  split_ifs at h with hskip
  · cases h
  obtain ⟨hname, hdatastore⟩ := not_or.1 hskip
  obtain ⟨source, hsource⟩ := g.sourceForChannel_returns engine c.name
  cases source with
  | error err => simp [hsource, bind, Except.bind] at h
  | ok m =>
    simp only [hsource, (sourceForChannel_wf hsource).nextVersionWithoutMigrations_eq, bind, Except.bind] at h
    refine ⟨m, hname, not_not.1 hdatastore, hsource, ?_⟩
    split_ifs at h with hdirect hnext
    · cases h
      exact ⟨rfl, by simpa [hdirect] using Offered.direct (n := m.nextVersion v.name) (l := "") hdirect⟩
    · cases h
      have hne : m.nextVersion v.name ≠ m.directVersion v.name := by rw [not_not.1 hdirect]; exact hnext
      exact ⟨rfl, by simpa [hnext] using Offered.migrating (l := "") hnext hne⟩
    · cases h

theorem otherChannelVersions_eq {found : Channel → Option SpiceDBVersion}
    (h : ∀ c, g.otherChannelVersion engine v c = .ok (found c)) (cs : List Channel) :
    g.otherChannelVersions engine v cs = .ok (cs.flatMap fun c => (found c).toList) := by
  induction cs with
  | nil => rfl
  | cons c rest ih => simp [otherChannelVersions, h, ih, bind, Except.bind]

/-- **`AvailableVersions`**: the entries of the own channel, then those of the others in their order. -/
theorem availableVersions_eq {m : MemorySource} (hsource : g.sourceForChannel engine v.channel = .ok (.ok m)) :
    ∃ found : Channel → Option SpiceDBVersion, (∀ c, g.otherChannelVersion engine v c = .ok (found c)) ∧
      g.availableVersions engine v = .ok (.ok
        (ownChannelVersions v.channel (m.directVersion v.name) (m.nextVersion v.name) (m.latestVersion v.name) ++
          g.channels.flatMap fun c => (found c).toList)) := by
  choose found hfound using g.otherChannelVersion_returns engine v
  refine ⟨found, hfound, ?_⟩
  simp [availableVersions, hsource, (sourceForChannel_wf hsource).nextVersionWithoutMigrations_eq,
    otherChannelVersions_eq hfound, bind, Except.bind]

theorem Located.has_source {m : MemorySource} {channel : String} {currentState : State} {notInChannel : Bool}
    (hsource : g.sourceForChannel engine channel = .ok (.ok m))
    (h : Located g m channel engine v currentState w notInChannel) :
    ∃ own, g.sourceForChannel engine w.channel = .ok (.ok own) := by
  cases h with
  | inChannel _ _ => exact ⟨m, hsource⟩
  | elsewhere _ hown => exact ⟨_, hown⟩

/-- Every target is in a channel that has a source. -/
theorem Exit.has_source {m : MemorySource} {baseImage version channel : String} {cur : Option SpiceDBVersion}
    {rolling : Bool} {r : Target} (hsource : g.sourceForChannel engine channel = .ok (.ok m))
    (h : Exit g m baseImage version channel engine cur rolling r) (ht : r.target = some w) :
    ∃ own, g.sourceForChannel engine w.channel = .ok (.ok own) := by
  cases h with
  | install _ _ _ => cases ht; exact ⟨m, hsource⟩
  | first _ => cases ht; exact ⟨m, hsource⟩
  | same _ hchannel => cases ht; exact ⟨m, hchannel ▸ hsource⟩
  | rolling _ hloc _ => cases ht; exact hloc.has_source hsource
  | stay _ _ hloc _ _ => cases ht; exact hloc.has_source hsource
  | step _ _ hloc _ _ =>
    cases ht
    have hown := hloc.has_source hsource
    exact hown
  | restart _ _ _ hloc =>
    cases ht
    have hown := hloc.has_source hsource
    exact hown

section

variable {operatorImageName clusterBaseImage image version channel : String} {cur : Option SpiceDBVersion}
  {rolling : Bool} {r : Target}

/-- With a tag or a digest in the image there is no target. -/
theorem untagged_of_target
    (h : g.computeTarget operatorImageName clusterBaseImage image version channel engine cur rolling = .ok r)
    (ht : r.target = some w) : (explodeImage image).2 = ("", "") := by
  rcases himage : explodeImage image with ⟨baseImage, tag, digest⟩
  by_cases hset : digest ≠ "" ∨ tag ≠ ""
  · simp only [computeTarget, himage, hset, if_true, Except.ok.injEq] at h
    rw [← h] at ht
    cases ht
  · simp only [ne_eq, not_or, not_not] at hset
    rw [hset.1, hset.2]

/-- `AvailableVersions` does not fail for a version that `ComputeTarget` returned. -/
theorem availableVersions_of_target
    (h : g.computeTarget operatorImageName clusterBaseImage image version channel engine cur rolling = .ok r)
    (hok : r.err = none) (ht : r.target = some w) : ∃ vs, g.availableVersions engine w = .ok (.ok vs) := by
  have huntag := untagged_of_target h ht
  obtain ⟨baseImage, selected, m, hsel, hexit⟩ := computeTarget_exit huntag h hok
  obtain ⟨own, hown⟩ := hexit.has_source hsel.source ht
  obtain ⟨found, _, heq⟩ := availableVersions_eq hown
  exact ⟨_, heq⟩

end

end

/-! ## Channels by name -/

/-- The channels of an engine have names that are distinct up to letter case. -/
def DistinctNames (g : UpdateGraph) (engine : String) : Prop :=
  (g.channels.filter fun c => equalFold (c.metadataValue "datastore") engine).Pairwise
    fun a b => equalFold a.name b.name = false

instance (g : UpdateGraph) (engine : String) : Decidable (g.DistinctNames engine) :=
  inferInstanceAs (Decidable (List.Pairwise _ _))

theorem equalFold_refl (s : String) : equalFold s s = true := by simp [equalFold]

theorem equalFold_comm (s t : String) : equalFold s t = equalFold t s := by
  unfold equalFold
  exact BEq.comm

instance : Std.Symm fun a b : Channel => equalFold a.name b.name = false where
  symm a b hab := (equalFold_comm b.name a.name).trans hab

/-- With distinct names, a channel is found under its own name. -/
theorem DistinctNames.findChannel {engine : String} {c : Channel} (h : g.DistinctNames engine) (hc : c ∈ g.channels)
    (hengine : equalFold (c.metadataValue "datastore") engine = true) : g.findChannel engine c.name = some c := by
  cases hfind : g.findChannel engine c.name with
  | none =>
    have := List.find?_eq_none.1 hfind c hc
    simp [equalFold_refl, hengine] at this
  | some c' =>
    have hc' := List.mem_of_find?_eq_some hfind
    have hmatch := List.find?_some hfind
    simp only [Bool.and_eq_true] at hmatch
    by_contra hne
    have hdiffer := List.Pairwise.forall h (List.mem_filter.2 ⟨hc', hmatch.2⟩) (List.mem_filter.2 ⟨hc, hengine⟩)
      fun heq => hne (congrArg some heq)
    rw [hmatch.1] at hdiffer
    cases hdiffer

/-- With distinct names, the entries under one name come from one channel. -/
theorem DistinctNames.one_entry {engine : String} {v : SpiceDBVersion} {found : Channel → Option SpiceDBVersion}
    (hfound : ∀ c, g.otherChannelVersion engine v c = .ok (found c)) {cs : List Channel}
    (h : (cs.filter fun c => equalFold (c.metadataValue "datastore") engine).Pairwise
      fun a b => equalFold a.name b.name = false) (name : String) :
    ((cs.flatMap fun c => (found c).toList).filter (·.channel = name)).length ≤ 1 := by
  induction cs with
  | nil => simp
  | cons c rest ih =>
    rw [List.flatMap_cons, List.filter_append]
    rw [List.filter_cons] at h
    cases hc : found c with
    | none =>
      refine ih (List.Pairwise.sublist ?_ h)
      split_ifs
      · exact List.sublist_cons_self _ _
      · exact List.Sublist.refl _
    | some w =>
      obtain ⟨_, _, hdatastore, _, hwchannel, _⟩ := otherChannelVersion_some ((hfound c).trans (congrArg _ hc))
      have hengine : equalFold (c.metadataValue "datastore") engine = true := by rw [hdatastore]; exact equalFold_refl _
      rw [if_pos hengine, List.pairwise_cons] at h
      by_cases hname : w.channel = name
      · -- no channel of `rest` has this name
        have hrest : (rest.flatMap fun c => (found c).toList).filter (·.channel = name) = [] := by
          rw [List.filter_eq_nil_iff]
          intro w' hw' heq
          obtain ⟨c', hc', hmem⟩ := List.mem_flatMap.1 hw'
          obtain ⟨_, _, hdatastore', _, hwchannel', _⟩ :=
            otherChannelVersion_some ((hfound c').trans (congrArg _ (Option.mem_toList.1 hmem)))
          have hdiffer := h.1 c' (List.mem_filter.2 ⟨hc', by rw [hdatastore']; exact equalFold_refl _⟩)
          have hsame : c'.name = c.name := by
            rw [← hwchannel', ← hwchannel, hname]
            simpa using heq
          rw [hsame, equalFold_refl] at hdiffer
          cases hdiffer
        simp [hrest, hname]
      · simpa [hname] using ih h.2

/-! ## Soundness and completeness -/

/-- What the entries of the own channel, with source `m`, say about the version `name`. -/
structure OwnEntries (m : MemorySource) (name : String) (entries : List SpiceDBVersion) : Prop where
  distinct : (entries.map (·.name)).Nodup
  reachable : ∀ w ∈ entries, TransGen m.Edge name w.name
  next_edge : ∀ w ∈ entries, SpiceDBVersionAttributes.next ∈ w.attributes → m.Edge name w.name
  unflagged : ∀ w ∈ entries, SpiceDBVersionAttributes.migration ∉ w.attributes →
    MemorySource.SameMigration (m.nodeState name) (m.nodeState w.name)
  head_once : name ≠ m.headId → (entries.map (·.name)).count m.headId = 1
  latest_head : name ≠ m.headId → ∀ w ∈ entries, SpiceDBVersionAttributes.latest ∈ w.attributes ↔ w.name = m.headId

/-- The walk along next versions is a path of edges. -/
theorem transGen_nextVersion {m : MemorySource} {x : String} {k : Nat} (h : ∀ i ≤ k + 1, m.nextVersion^[i] x ≠ "") :
    TransGen m.Edge x (m.nextVersion^[k + 1] x) := by
  induction k with
  | zero => exact TransGen.single (MemorySource.nextVersion_edge (h 1 (Nat.le_refl 1)))
  | succ k ih =>
    refine TransGen.tail (ih fun i hi => h i (Nat.le_succ_of_le hi)) ?_
    have hne := h (k + 1 + 1) (Nat.le_refl _)
    rw [Function.iterate_succ_apply' m.nextVersion (k + 1)] at hne ⊢
    exact MemorySource.nextVersion_edge hne

/-- Every node but the head has a path to the head. -/
theorem transGen_head {nodes : List State} {edges : EdgeSet} {m : MemorySource} {x : String}
    (haccept : newMemorySource nodes edges = .ok (.ok m)) (hid : ∀ n ∈ nodes, n.id ≠ "") (hx : ∃ n ∈ nodes, n.id = x)
    (hne : x ≠ m.headId) : TransGen m.Edge x m.headId := by
  obtain ⟨rfl, hwf⟩ := newMemorySource_wf haccept
  obtain ⟨head, rest, rfl⟩ := List.exists_cons_of_ne_nil hwf.nonempty
  obtain ⟨k, _, hk, hnodes⟩ := newMemorySource_walk haccept hid rfl hx
  cases k with
  | zero => exact absurd hk hne
  | succ k =>
    have hwalk := transGen_nextVersion (x := x) (k := k) fun i hi => by
      obtain ⟨n, hn, hni⟩ := hnodes i hi
      exact hni ▸ hid n hn
    rw [hk] at hwalk
    exact hwalk

theorem ownEntries_ownChannelVersions {nodes : List State} {edges : EdgeSet} {m : MemorySource} {name : String}
    (haccept : newMemorySource nodes edges = .ok (.ok m)) (hid : ∀ n ∈ nodes, n.id ≠ "")
    (hnode : ∃ n ∈ nodes, n.id = name) (channel : String) :
    OwnEntries m name
      (ownChannelVersions channel (m.directVersion name) (m.nextVersion name) (m.latestVersion name)) := by
  have hlatest := m.latestVersion_eq name
  have hedge : ∀ x ≠ "", x = m.directVersion name ∨ x = m.nextVersion name → m.Edge name x := by
    rintro x hx (rfl | rfl)
    · exact MemorySource.directVersion_edge hx
    · exact MemorySource.nextVersion_edge hx
  have hheadne : m.headId ≠ "" := by
    obtain ⟨rfl, hwf⟩ := newMemorySource_wf haccept
    obtain ⟨n, hn, hhead⟩ := hwf.headId_isNode
    exact hhead ▸ hid n hn
  refine ⟨ownChannelVersions_nodup .., fun w hw => ?_, fun w hw hnext => ?_, fun w hw hflag => ?_, fun hne => ?_,
    fun hne w hw => ?_⟩
  · rcases (offered_of_mem hw).2.name_cases with ⟨hwne, hwname⟩ | ⟨hwname, hl⟩
    · exact TransGen.single (hedge w.name hwne hwname)
    · rw [hlatest] at hwname hl
      split_ifs at hwname hl with hhead
      · exact absurd rfl hl
      · rw [hwname]
        exact transGen_head haccept hid hnode hhead
  · obtain ⟨hwne, hwname⟩ := (offered_of_mem hw).2.name_of_next hnext
    exact hedge w.name hwne hwname
  · obtain ⟨hwname, hd⟩ := (offered_of_mem hw).2.direct_of_unflagged hflag
    rw [hwname]
    exact MemorySource.directVersion_sameMigration rfl hd
  · rw [if_neg hne] at hlatest
    rw [hlatest]
    exact List.count_eq_one_of_mem (ownChannelVersions_nodup ..) (head_mem_ownChannelVersions _ _ _ hheadne)
  · rw [if_neg hne] at hlatest
    rw [hlatest] at hw
    exact (offered_of_mem hw).2.latest_iff

section

variable {engine : String} {v w : SpiceDBVersion} {found : Channel → Option SpiceDBVersion}

/-- An entry of another channel is one edge away, in the channel with its name. -/
theorem otherChannelVersions_edge (hfound : ∀ c, g.otherChannelVersion engine v c = .ok (found c))
    (hw : w ∈ g.channels.flatMap fun c => (found c).toList) :
    w.channel ≠ v.channel ∧ ∃ c toSet, g.findChannel engine w.channel = some c ∧
      c.edges.lookup v.name = some toSet ∧ w.name ∈ toSet := by
  obtain ⟨c, _, hmem⟩ := List.mem_flatMap.1 hw
  obtain ⟨m, hname, _, hsource, hwchannel, hoffered⟩ :=
    otherChannelVersion_some ((hfound c).trans (congrArg _ (Option.mem_toList.1 hmem)))
  obtain ⟨c', hfind, haccept⟩ := sourceForChannel_ok.1 hsource
  obtain ⟨rfl, _⟩ := newMemorySource_wf haccept
  rw [hwchannel]
  rcases hoffered.name_cases with ⟨hwne, hwname | hwname⟩ | ⟨_, hl⟩
  · obtain ⟨toSet, hl, hd⟩ := MemorySource.directVersion_edge (hwname ▸ hwne)
    exact ⟨hname, c', toSet, hfind, hl, hwname ▸ hd⟩
  · obtain ⟨toSet, hl, hd⟩ := MemorySource.nextVersion_edge (hwname ▸ hwne)
    exact ⟨hname, c', toSet, hfind, hl, hwname ▸ hd⟩
  · exact absurd rfl hl

end

/-- **`AvailableVersions` is sound and complete for the current channel**, and each other channel of the engine adds at
most one entry, one edge away. -/
theorem availableVersions_of_own_channel (g : UpdateGraph) (engine : String) (v : SpiceDBVersion) (c : Channel)
    (m : MemorySource) (hid : ∀ c ∈ g.channels, ∀ n ∈ c.nodes, n.id ≠ "") (hdistinct : g.DistinctNames engine)
    (hc : c ∈ g.channels) (hengine : equalFold (c.metadataValue "datastore") engine = true) (hname : c.name = v.channel)
    (haccept : newMemorySource c.nodes c.edges = .ok (.ok m)) (hnode : ∃ n ∈ c.nodes, n.id = v.name) :
    ∃ vs, g.availableVersions engine v = .ok (.ok vs) ∧
      OwnEntries m v.name (vs.filter (·.channel = v.channel)) ∧
      ∀ c' ∈ g.channels, equalFold (c'.metadataValue "datastore") engine = true → c'.name ≠ v.channel →
        (vs.filter (·.channel = c'.name)).length ≤ 1 ∧
        ∀ w ∈ vs, w.channel = c'.name → ∃ toSet, c'.edges.lookup v.name = some toSet ∧ w.name ∈ toSet := by
  have hsource : g.sourceForChannel engine v.channel = .ok (.ok m) :=
    sourceForChannel_ok.2 ⟨c, hname ▸ hdistinct.findChannel hc hengine, haccept⟩
  obtain ⟨found, hfound, hvs⟩ := availableVersions_eq hsource
  refine ⟨_, hvs, ?_, fun c' hc' hengine' hother => ⟨?_, fun w hw hwchannel => ?_⟩⟩
  · rw [List.filter_append]
    have hown := List.filter_eq_self.2 fun w (hw : w ∈ ownChannelVersions v.channel (m.directVersion v.name)
      (m.nextVersion v.name) (m.latestVersion v.name)) => decide_eq_true (offered_of_mem hw).1
    have hothers := List.filter_eq_nil_iff.2 fun w (hw : w ∈ g.channels.flatMap fun c => (found c).toList) =>
      mt of_decide_eq_true (otherChannelVersions_edge hfound hw).1
    rw [hown, hothers, List.append_nil]
    exact ownEntries_ownChannelVersions haccept (hid c hc) hnode v.channel
  · rw [List.filter_append]
    have hown := List.filter_eq_nil_iff.2 fun w (hw : w ∈ ownChannelVersions v.channel (m.directVersion v.name)
      (m.nextVersion v.name) (m.latestVersion v.name)) =>
        mt of_decide_eq_true fun heq : w.channel = c'.name => hother (heq.symm.trans (offered_of_mem hw).1)
    rw [hown, List.nil_append]
    exact DistinctNames.one_entry hfound hdistinct c'.name
  · rcases List.mem_append.1 hw with hw | hw
    · exact absurd (hwchannel.symm.trans (offered_of_mem hw).1) hother
    · obtain ⟨_, c'', toSet, hfind, hl, hmem⟩ := otherChannelVersions_edge hfound hw
      rw [hwchannel, hdistinct.findChannel hc' hengine'] at hfind
      cases hfind
      exact ⟨toSet, hl, hmem⟩

/-- Two channels that share `v1`; in `stable` the way to `v3` needs a migration. -/
def stableAndBeta : UpdateGraph :=
  { channels := [
      { name := "stable"
        metadata := some ([⟨"datastore", "postgres"⟩, ⟨"default", "true"⟩].toAList)
        edges := [⟨"v1", ["v2", "v3"]⟩, ⟨"v2", ["v3"]⟩].toAList
        nodes := [{ id := "v3", tag := "v3", migration := "m2" }, { id := "v2", tag := "v2", migration := "m1" },
          { id := "v1", tag := "v1", migration := "m1" }] },
      { name := "beta"
        metadata := some ([⟨"datastore", "postgres"⟩].toAList)
        edges := [⟨"v1", ["v4"]⟩].toAList
        nodes := [{ id := "v4", tag := "v4", migration := "m2" }, { id := "v1", tag := "v1", migration := "m1" }] }] }

theorem stableAndBeta_available :
    ∃ vs m, stableAndBeta.availableVersions "postgres" { name := "v1", channel := "stable" } = .ok (.ok vs) ∧
      vs.map (·.name) = ["v2", "v3", "v4"] ∧ OwnEntries m "v1" (vs.filter (·.channel = "stable")) := by
  obtain ⟨vs, hvs, hown, _⟩ := availableVersions_of_own_channel stableAndBeta "postgres"
    { name := "v1", channel := "stable" } _ _ (by decide) (by decide) (List.mem_cons_self ..) (by decide) rfl rfl
    ⟨{ id := "v1", tag := "v1", migration := "m1" }, by decide, rfl⟩
  refine ⟨vs, _, hvs, ?_, hown⟩
  cases hvs
  rfl

end UpdateGraph

/-! ## Re-rooting at an offered version -/

namespace MemorySource

variable {m sub : MemorySource} {src w : String} {toSet : List String}

/-- `toSet` runs from the oldest entry to the newest, and all entries are newer than `src`. -/
def OldestFirst (m : MemorySource) (src : String) (toSet : List String) : Prop :=
  toSet.Pairwise (fun a b => m.AtOrAfter b a) ∧ ∀ dst ∈ toSet, dst ≠ src ∧ m.AtOrAfter dst src

theorem atOrAfter_iff_getElem {head x : String} : m.AtOrAfter head x ↔
    ∃ i < m.orderedNodes.length, ∃ j < m.orderedNodes.length, i ≤ j ∧
      (m.orderedNodes[i]?).map (·.id) = some head ∧ (m.orderedNodes[j]?).map (·.id) = some x := by
  constructor
  · rintro ⟨i, j, h, n, hle, hi, hh, hj, hn⟩
    exact ⟨i, (List.getElem?_eq_some_iff.1 hi).1, j, (List.getElem?_eq_some_iff.1 hj).1, hle, by simp [hi, hh],
      by simp [hj, hn]⟩
  · rintro ⟨i, _, j, _, hle, hi, hj⟩
    obtain ⟨h, hi, hh⟩ := Option.map_eq_some_iff.1 hi
    obtain ⟨n, hj, hn⟩ := Option.map_eq_some_iff.1 hj
    exact ⟨i, j, h, n, hle, hi, hh, hj, hn⟩

instance (m : MemorySource) (head x : String) : Decidable (m.AtOrAfter head x) :=
  decidable_of_iff' _ atOrAfter_iff_getElem

instance (m : MemorySource) (src : String) (toSet : List String) : Decidable (m.OldestFirst src toSet) :=
  inferInstanceAs (Decidable (_ ∧ _))

theorem atOrAfter_refl {x : String} (h : m.IsNode x) : m.AtOrAfter x x := by
  obtain ⟨n, hn, rfl⟩ := h
  obtain ⟨i, hi⟩ := List.getElem?_of_mem hn
  exact ⟨i, i, n, n, Nat.le_refl i, hi, rfl, hi, rfl⟩

theorem WF.atOrAfter_antisymm (hwf : m.WF) {x y : String} (hxy : m.AtOrAfter x y) (hyx : m.AtOrAfter y x) : x = y := by
  obtain ⟨i, j, n, n', hij, hi, rfl, hj, rfl⟩ := hxy
  obtain ⟨j', i', k', k, hji, hj', hk', hi', hk⟩ := hyx
  obtain rfl : j' = j := hwf.index_unique hj' hj hk'
  obtain rfl : i' = i := hwf.index_unique hi' hi hk
  obtain rfl : i' = j' := Nat.le_antisymm hij hji
  exact congrArg State.id (Option.some.inj (hi.symm.trans hj))

/-- The newest entry of a list keeps the whole list when it becomes the head. -/
theorem filter_of_getLast (hsorted : toSet.Pairwise fun a b => m.AtOrAfter b a) (hnode : m.IsNode w)
    (hlast : toSet.getLast? = some w) : ∀ x ∈ toSet, m.AtOrAfter w x := by
  obtain ⟨init, rfl⟩ := List.getLast?_eq_some_iff.1 hlast
  intro x hx
  rcases List.mem_append.1 hx with hx | hx
  · exact (List.pairwise_append.1 hsorted).2.2 x hx w (List.mem_singleton.2 rfl)
  · rw [List.mem_singleton.1 hx]
    exact atOrAfter_refl hnode

/-- What a list keeps past the last entry of a first part, when that entry becomes the head: copies of it. -/
theorem WF.eq_of_kept_after (hwf : m.WF) {before after : List String}
    (hsorted : (before ++ after).Pairwise fun a b => m.AtOrAfter b a) (hlast : before.getLast? = some w) {x : String}
    (hx : x ∈ after) (hkept : m.AtOrAfter w x) : x = w :=
  hwf.atOrAfter_antisymm ((List.pairwise_append.1 hsorted).2.2 w (List.mem_of_getLast? hlast) x hx) hkept

theorem eq_some_of_getD {o : Option String} (h : o.getD "" = w) (hne : w ≠ "") : o = some w := by
  cases o with
  | none => exact absurd h.symm hne
  | some x => exact congrArg some h

theorem getLast?_append_copies {before copies : List String} (hlast : before.getLast? = some w)
    (hcopies : ∀ x ∈ copies, x = w) : (before ++ copies).getLast? = some w := by
  rw [List.getLast?_append]
  cases hget : copies.getLast? with
  | none => exact hlast
  | some x => rw [hcopies x (List.mem_of_getLast? hget)]; rfl

theorem takeWhile_congr {α : Type} {p q : α → Bool} {l : List α} (h : ∀ x ∈ l, p x = q x) :
    l.takeWhile p = l.takeWhile q := by
  induction l with
  | nil => rfl
  | cons x rest ih =>
    rw [List.takeWhile_cons, List.takeWhile_cons, h x (List.mem_cons_self ..),
      ih fun y hy => h y (List.mem_cons_of_mem x hy)]

theorem directVersion_lookup (hl : m.edges.lookup src = some toSet) :
    m.directVersion src =
      (toSet.takeWhile fun dst => SameMigration (m.nodeState src) (m.nodeState dst)).getLast?.getD "" := by
  simp [directVersion, hl]

theorem nextVersion_lookup (hl : m.edges.lookup src = some toSet) : m.nextVersion src = toSet.getLast?.getD "" := by
  simp [nextVersion, hl]

namespace RestrictsTo

variable (hr : RestrictsTo m w sub) (hwf : m.WF) (hl : m.edges.lookup src = some toSet) (ho : m.OldestFirst src toSet)
include hr hwf hl ho

/-- The list of `src` after re-rooting at one of its entries. -/
theorem lookup_of_mem (hw : w ∈ toSet) :
    sub.edges.lookup src = some (toSet.filter fun x => sub.IsNode x) ∧ sub.IsNode src := by
  have hsrc : sub.IsNode src := (hr.isNode_iff hwf src).2 (ho.2 w hw).2
  exact ⟨by rw [hr.lookup, if_pos hsrc, hl]; rfl, hsrc⟩

/-- Re-rooted at its next version, a version keeps its next and its direct version. -/
theorem keeps_next (hnext : m.nextVersion src = w) (hne : w ≠ "") :
    sub.nextVersion src = w ∧ sub.directVersion src = m.directVersion src := by
  have hlast : toSet.getLast? = some w := eq_some_of_getD (nextVersion_lookup hl ▸ hnext) hne
  have hmem := List.mem_of_getLast? hlast
  obtain ⟨hsub, hsrc⟩ := hr.lookup_of_mem hwf hl ho hmem
  have hkept : ∀ x ∈ toSet, sub.IsNode x := fun x hx =>
    (hr.isNode_iff hwf x).2 (filter_of_getLast ho.1 (hwf.targets src toSet hl w hmem) hlast x hx)
  rw [List.filter_eq_self.2 fun x hx => decide_eq_true (hkept x hx)] at hsub
  refine ⟨by rw [nextVersion_lookup hsub, hlast]; rfl, ?_⟩
  rw [directVersion_lookup hsub, directVersion_lookup hl, hr.nodeState_eq hwf hsrc]
  rw [takeWhile_congr fun x hx => by rw [hr.nodeState_eq hwf (hkept x hx)]]

/-- Re-rooted at the last entry of a first part, a list keeps that part, and after it copies of the entry. -/
theorem filter_of_takeWhile {p : String → Bool} (hlast : (toSet.takeWhile p).getLast? = some w) :
    (∀ x ∈ toSet.takeWhile p, sub.IsNode x) ∧
    ∃ copies, toSet.filter (fun x => sub.IsNode x) = toSet.takeWhile p ++ copies ∧ ∀ x ∈ copies, x = w := by
  have hsplit : toSet = toSet.takeWhile p ++ toSet.dropWhile p := List.takeWhile_append_dropWhile.symm
  have hmem : w ∈ toSet := (List.takeWhile_sublist p).subset (List.mem_of_getLast? hlast)
  have hsorted := ho.1
  rw [hsplit] at hsorted
  have hfirst : ∀ x ∈ toSet.takeWhile p, sub.IsNode x := fun x hx =>
    (hr.isNode_iff hwf x).2
      (filter_of_getLast (List.pairwise_append.1 hsorted).1 (hwf.targets src toSet hl w hmem) hlast x hx)
  refine ⟨hfirst, (toSet.dropWhile p).filter fun x => sub.IsNode x, ?_, ?_⟩
  · conv_lhs => rw [hsplit, List.filter_append]
    rw [List.filter_eq_self.2 fun x hx => decide_eq_true (hfirst x hx)]
  · intro x hx
    obtain ⟨hx, hnode⟩ := List.mem_filter.1 hx
    exact hwf.eq_of_kept_after hsorted hlast hx ((hr.isNode_iff hwf x).1 (of_decide_eq_true hnode))

/-- Re-rooted at its direct version, a version has that one as its next and its direct version. -/
theorem keeps_direct (hdirect : m.directVersion src = w) (hne : w ≠ "") :
    sub.nextVersion src = w ∧ sub.directVersion src = w := by
  have hlast := eq_some_of_getD (directVersion_lookup hl ▸ hdirect) hne
  have hmem := List.mem_of_getLast? hlast
  obtain ⟨hsub, hsrc⟩ := hr.lookup_of_mem hwf hl ho ((List.takeWhile_sublist _).subset hmem)
  obtain ⟨hfirst, copies, hkept, hcopies⟩ := hr.filter_of_takeWhile hwf hl ho hlast
  rw [hkept] at hsub
  have hend := getLast?_append_copies hlast hcopies
  refine ⟨by rw [nextVersion_lookup hsub, hend]; rfl, ?_⟩
  -- all that is kept has the migration of `src`
  have hsame : ∀ x ∈ toSet.takeWhile fun dst => SameMigration (m.nodeState src) (m.nodeState dst),
      SameMigration (sub.nodeState src) (sub.nodeState x) := by
    intro x hx
    rw [hr.nodeState_eq hwf hsrc, hr.nodeState_eq hwf (hfirst x hx)]
    have hx := List.mem_takeWhile_imp hx
    exact of_decide_eq_true hx
  rw [directVersion_lookup hsub, List.takeWhile_eq_self_iff.2, hend]
  · rfl
  · intro x hx
    rcases List.mem_append.1 hx with hx | hx
    · exact decide_eq_true (hsame x hx)
    · rw [hcopies x hx]
      exact decide_eq_true (hsame w hmem)

end RestrictsTo

end MemorySource

/-- The adjacency lists of the channel run from the oldest entry to the newest, past their key. -/
def Channel.OldestFirst (c : Channel) : Prop :=
  ∀ src toSet, c.edges.lookup src = some toSet → (channelSource c.nodes c.edges).OldestFirst src toSet

instance (c : Channel) : Decidable c.OldestFirst :=
  decidable_of_iff (∀ e ∈ c.edges.entries, (channelSource c.nodes c.edges).OldestFirst e.1 e.2)
    ⟨fun h _ _ hl => h _ (AList.mem_lookup_iff.1 hl), fun h e he => h e.1 e.2 (AList.mem_lookup_iff.2 he)⟩

namespace UpdateGraph

variable {g : UpdateGraph}

/-! ## Delivery -/

section

variable {m : MemorySource} {engine name l : String} {attributes : List String} {v w : SpiceDBVersion}

theorem equalFold_empty {s : String} (h : equalFold s "" = true) : s = "" := by
  have hlength := congrArg List.length (beq_iff_eq.1 h)
  simpa using hlength

theorem sourceForChannel_name_ne (hnames : ∀ c ∈ g.channels, c.name ≠ "") {channel : String}
    (h : g.sourceForChannel engine channel = .ok (.ok m)) : channel ≠ "" := by
  rintro rfl
  obtain ⟨c, hfind, _⟩ := sourceForChannel_ok.1 h
  have hmatch := List.find?_some hfind
  simp only [Bool.and_eq_true] at hmatch
  exact hnames c (List.mem_of_find?_eq_some hfind) (equalFold_empty hmatch.1)

/-- Where an entry comes from. -/
theorem availableVersions_offered {vs : List SpiceDBVersion} (hvs : g.availableVersions engine v = .ok (.ok vs))
    (hw : w ∈ vs) : ∃ m l, g.sourceForChannel engine w.channel = .ok (.ok m) ∧
      Offered (m.directVersion v.name) (m.nextVersion v.name) l w.name w.attributes := by
  obtain ⟨source, hsource⟩ := g.sourceForChannel_returns engine v.channel
  cases source with
  | error err => simp [availableVersions, hsource, bind, Except.bind] at hvs
  | ok m =>
    obtain ⟨found, hfound, hvs'⟩ := availableVersions_eq hsource
    cases hvs.symm.trans hvs'
    rcases List.mem_append.1 hw with hw | hw
    · obtain ⟨hwchannel, hoffered⟩ := offered_of_mem hw
      exact ⟨m, _, hwchannel ▸ hsource, hoffered⟩
    · obtain ⟨c, _, hmem⟩ := List.mem_flatMap.1 hw
      obtain ⟨m', _, _, hsource', hwchannel, hoffered⟩ :=
        otherChannelVersion_some ((hfound c).trans (congrArg _ (Option.mem_toList.1 hmem)))
      exact ⟨m', "", hwchannel ▸ hsource', hoffered⟩

/-- The source re-rooted at an offered version leads to it, and over a migration if the offer says so. -/
theorem Offered.rerooted (hwf : m.WF)
    (ho : ∀ toSet, m.edges.lookup v.name = some toSet → m.OldestFirst v.name toSet)
    (h : Offered (m.directVersion v.name) (m.nextVersion v.name) l name attributes)
    (hnext : SpiceDBVersionAttributes.next ∈ attributes) :
    m.Edge v.name name ∧ ∃ sub, stepSource m name false = some sub ∧ sub.nextVersion v.name = name ∧
      (SpiceDBVersionAttributes.migration ∈ attributes → name ≠ sub.directVersion v.name) := by
  obtain ⟨hne, hname⟩ := h.name_of_next hnext
  have hedge : m.Edge v.name name := by
    rcases hname with rfl | rfl
    · exact MemorySource.directVersion_edge hne
    · exact MemorySource.nextVersion_edge hne
  refine ⟨hedge, ?_⟩
  obtain ⟨toSet, hl, hmem⟩ := hedge
  obtain ⟨sub, hpinned, _, hr⟩ := hwf.pinned_isNode hne (hwf.targets _ _ hl _ hmem)
  refine ⟨sub, by simp [stepSource, hne, hpinned], ?_⟩
  cases h with
  | direct _ =>
    have hkeeps := hr.keeps_direct hwf hl (ho toSet hl) rfl hne
    refine ⟨hkeeps.1, fun hflag => absurd hflag ?_⟩
    split_ifs <;> decide
  | migrating _ hnd =>
    have hkeeps := hr.keeps_next hwf hl (ho toSet hl) rfl hne
    exact ⟨hkeeps.1, fun _ => hkeeps.2 ▸ hnd⟩
  | head _ _ _ => exact absurd hnext (by decide)

end

/-- **What `AvailableVersions` offers, `ComputeTarget` delivers.** Write an entry `w` marked `next` into the spec: the
call returns the version and the channel of `w` with the node of that version, and flags a migration where `w` does. -/
theorem offered_is_delivered (g : UpdateGraph) (c : Call) (v w : SpiceDBVersion) (vs : List SpiceDBVersion)
    (hnames : ∀ c ∈ g.channels, c.name ≠ "") (hid : ∀ c ∈ g.channels, ∀ n ∈ c.nodes, n.id ≠ "")
    (hordered : ∀ c ∈ g.channels, c.OldestFirst)
    (hbase : cmpOr [(explodeImage c.image).1, c.clusterBaseImage, c.operatorImageName] ≠ "")
    (hvs : g.availableVersions c.engine v = .ok (.ok vs)) (hw : w ∈ vs)
    (hnext : SpiceDBVersionAttributes.next ∈ w.attributes) (hversion : c.version = w.name)
    (hchannel : c.channel = w.channel) (hroll : c.rolling = false) :
    ∃ r t channel, g.call c (some v) = .ok r ∧ r.err = none ∧ r.target = some t ∧ t.name = w.name ∧
      t.channel = w.channel ∧ g.findChannel c.engine w.channel = some channel ∧ r.state ∈ channel.nodes ∧
      r.state.id = w.name ∧
      (SpiceDBVersionAttributes.migration ∈ w.attributes → SpiceDBVersionAttributes.migration ∈ t.attributes) := by
  obtain ⟨m, l, hsource, hoffered⟩ := availableVersions_offered hvs hw
  obtain ⟨channel, hfind, haccept⟩ := sourceForChannel_ok.1 hsource
  obtain ⟨hm, hwf⟩ := newMemorySource_wf haccept
  have hmem := List.mem_of_find?_eq_some hfind
  have ho : ∀ toSet, m.edges.lookup v.name = some toSet → m.OldestFirst v.name toSet := by
    subst hm
    exact hordered channel hmem v.name
  obtain ⟨hedge, sub, hsub, hsubnext, hflag⟩ := hoffered.rerooted hwf ho hnext
  have hnodes := hwf.edge_isNode hedge
  have hvne : v.name ≠ "" := by
    subst hm
    obtain ⟨n, hn, hni⟩ := hnodes.1
    exact hni ▸ hid channel hmem n hn
  have hmoved : ¬ (v.name = w.name ∧ v.channel = w.channel) := by
    rintro ⟨hname, _⟩
    obtain ⟨toSet, hl, hd⟩ := hedge
    exact ((ho toSet hl).2 w.name hd).1 hname.symm
  have hcne := sourceForChannel_name_ne hnames hsource
  have hnextne : sub.nextVersion v.name ≠ "" := hsubnext.symm ▸ (hoffered.name_of_next hnext).1
  have hsubnode := (stepSource_wf hwf hsub).nextVersion_isNode hnextne
  have hstate := stepSource_nodeState hwf hsub hsubnode
  have hsel : Selects g c.operatorImageName c.clusterBaseImage c.image w.channel c.engine (some v) _ w.channel m :=
    ⟨c.untagged, rfl, hbase, selectChannel_ok.2 (Or.inl ⟨hcne, rfl⟩), hcne, hsource⟩
  obtain ⟨hcall, hok⟩ := hsel.computeTarget_of_exit
    (Exit.step hmoved hvne (.inChannel hnodes.1 hvne) hsub hnextne)
  refine ⟨_, _, channel, ?_, hok, rfl, hsubnext, rfl, hfind, ?_, ?_, fun hmigration => ?_⟩
  · rw [call, hversion, hchannel, hroll]
    exact hcall
  · rw [hstate, hsubnext]
    subst hm
    exact MemorySource.nodeState_mem hnodes.2
  · rw [MemorySource.nodeState_id hsubnode, hsubnext]
  · simp [stepTarget, hsubnext, hflag hmigration]

theorem stableAndBeta_delivers :
    ∃ r t, stableAndBeta.computeTarget "image" "" "" "v4" "beta" "postgres" (some { name := "v1", channel := "stable" })
        false = .ok r ∧ r.err = none ∧ r.target = some t ∧ t.name = "v4" ∧ t.channel = "beta" ∧
      SpiceDBVersionAttributes.migration ∈ t.attributes := by
  obtain ⟨r, t, _, hr, hok, ht, hname, hchannel, _, _, _, hmigration⟩ := offered_is_delivered stableAndBeta
    { operatorImageName := "image", clusterBaseImage := "", image := "", version := "v4", channel := "beta"
      engine := "postgres", rolling := false, untagged := by decide }
    { name := "v1", channel := "stable" }
    { name := "v4", channel := "beta"
      attributes := [SpiceDBVersionAttributes.next, SpiceDBVersionAttributes.migration]
      description := "update will run a migration, different channel" }
    _ (by decide) (by decide) (by decide) (by decide) rfl (by decide) (by decide) rfl rfl rfl
  exact ⟨r, t, hr, hok, ht, hname, hchannel, hmigration (by decide)⟩

end UpdateGraph

end SpiceDBOperator
