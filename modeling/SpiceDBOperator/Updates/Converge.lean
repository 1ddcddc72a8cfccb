import SpiceDBOperator.Updates.Settle

/-!
# Iterating `ComputeTarget`

With the spec left alone and no rollout in progress, the operator calls `ComputeTarget` again and again with its own
target. `afterCalls` is that loop; `afterCalls_name` says that the names it produces are the iterates of one function
of the source, `forward`. For an unpinned version this walk reaches the head of the channel, and it rests there exactly
when the head leads nowhere else (`converges_iff`): `NewMemorySource` does not look at the edges of the head.
-/

namespace SpiceDBOperator

open Golang Walk

namespace MemorySource

/-- Where one call moves a version in the source it uses: to the next version, if there is one. -/
def advance (m : MemorySource) (x : String) : String := if m.nextVersion x = "" then x else m.nextVersion x

/-- …and not at all once it is the pinned one. -/
def forward (m : MemorySource) (version x : String) : String := if x = version then x else m.advance x

/-- An unpinned walk follows the last edges as long as there are any. -/
theorem forward_iterate {m : MemorySource} {x : String} {k : Nat} (h : ∀ i ≤ k, m.nextVersion^[i] x ≠ "") :
    ∀ i ≤ k, (m.forward "")^[i] x = m.nextVersion^[i] x := by
  intro i
  induction i with
  | zero => intro _; rfl
  | succ i ih =>
    intro hi
    have hnext : m.nextVersion (m.nextVersion^[i] x) ≠ "" := by
      rw [← Function.iterate_succ_apply' m.nextVersion]; exact h _ hi
    rw [Function.iterate_succ_apply', ih (by omega), Function.iterate_succ_apply']
    simp [forward, advance, h i (by omega), hnext]

end MemorySource

namespace UpdateGraph

variable {g : UpdateGraph}

/-- `n` successful calls, each with the target of the one before. -/
def afterCalls (g : UpdateGraph) (c : Call) (v : SpiceDBVersion) : Nat → Option SpiceDBVersion
  | 0 => some v
  | n + 1 =>
    match g.afterCalls c v n with
    | none => none
    | some cur =>
      match g.call c (some cur) with
      | .ok r => if r.err = none then r.target else none
      | .error _ => none

theorem afterCalls_succ {c : Call} {v t : SpiceDBVersion} {n : Nat} (h : g.afterCalls c v (n + 1) = some t) :
    ∃ cur r, g.afterCalls c v n = some cur ∧ g.call c (some cur) = .ok r ∧ r.err = none ∧ r.target = some t := by
  unfold afterCalls at h
  cases hcur : g.afterCalls c v n with
  | none => simp [hcur] at h
  | some cur =>
    cases hcall : g.call c (some cur) with
    | error _ => simp [hcur, hcall] at h
    | ok r =>
      by_cases hok : r.err = none
      · exact ⟨cur, r, rfl, hcall, hok, by simpa [hcur, hcall, hok] using h⟩
      · simp [hcur, hcall, hok] at h

theorem afterCalls_prefix {c : Call} {v t : SpiceDBVersion} {j n : Nat} (hj : j ≤ n)
    (h : g.afterCalls c v n = some t) : ∃ t', g.afterCalls c v j = some t' := by
  induction hj generalizing t with
  | refl => exact ⟨t, h⟩
  | step _ ih =>
    obtain ⟨cur, _, hcur, _⟩ := afterCalls_succ h
    exact ih hcur

section

variable {c : Call} {baseImage selected : String} {m sub : MemorySource} {v : SpiceDBVersion}

/-- The source a call selects, for a `Call`. -/
abbrev Call.Selects (c : Call) (g : UpdateGraph) (cur : Option SpiceDBVersion) (baseImage selected : String)
    (m : MemorySource) : Prop :=
  UpdateGraph.Selects g c.operatorImageName c.clusterBaseImage c.image c.channel c.engine cur baseImage selected m

/-- One call from a node of the channel, outside a rollout. -/
theorem call_forward (hsel : c.Selects g (some v) baseImage selected m) (hroll : c.rolling = false)
    (hnode : m.IsNode v.name) (hne : v.name ≠ "") (hsub : stepSource m c.version false = some sub)
    (hpinned : v.name = c.version → v.channel = selected ∨ sub.nextVersion v.name = "") :
    ∃ r t, g.call c (some v) = .ok r ∧ r.err = none ∧ r.target = some t ∧ t.channel = selected ∧
      t.name = sub.forward c.version v.name := by
  have hexit : ∃ r t, Exit g m baseImage c.version selected c.engine (some v) c.rolling r ∧ r.target = some t ∧
      t.channel = selected ∧ t.name = sub.forward c.version v.name := by
    rw [hroll]
    by_cases hmoved : v.name = c.version ∧ v.channel = selected
    · exact ⟨_, v, .same hmoved.1 hmoved.2, rfl, hmoved.2, by simp [MemorySource.forward, hmoved.1]⟩
    have hloc : Located g m selected c.engine v _ _ false := .inChannel hnode hne
    by_cases hnext : sub.nextVersion v.name = ""
    · refine ⟨_, _, .stay hmoved hne hloc hsub hnext, rfl, rfl, ?_⟩
      simp [MemorySource.forward, MemorySource.advance, hnext]
    · have hother : v.name ≠ c.version := by
        intro hsame
        rcases hpinned hsame with hchannel | hnone
        · exact hmoved ⟨hsame, hchannel⟩
        · exact hnext hnone
      refine ⟨_, _, .step hmoved hne hloc hsub hnext, rfl, rfl, ?_⟩
      simp [MemorySource.forward, MemorySource.advance, hother, hnext, stepTarget]
  obtain ⟨r, t, hexit, ht, hchannel, hname⟩ := hexit
  obtain ⟨hcall, hok⟩ := hsel.computeTarget_of_exit hexit
  exact ⟨r, t, hcall, hok, ht, hchannel, hname⟩

theorem forward_isNode (hwf : m.WF) {version x : String} (hsub : stepSource m version false = some sub)
    (hx : m.IsNode x) (hne : x ≠ "") : m.IsNode (sub.forward version x) ∧ sub.forward version x ≠ "" := by
  unfold MemorySource.forward MemorySource.advance
  split_ifs with hsame hnext
  · exact ⟨hx, hne⟩
  · exact ⟨hx, hne⟩
  · exact ⟨(hwf.edge_isNode (stepSource_edge hwf hsub (MemorySource.nextVersion_edge hnext))).2, hnext⟩

/-- **The loop of the operator** is a walk in the source: every call succeeds, and the names are iterates of
`forward`. -/
theorem afterCalls_name (hsel : c.Selects g (some v) baseImage selected m) (hroll : c.rolling = false)
    (hnode : m.IsNode v.name) (hne : v.name ≠ "") (hsub : stepSource m c.version false = some sub)
    (hpinned : v.name = c.version → v.channel = selected ∨ sub.nextVersion v.name = "") (n : Nat) :
    ∃ t, g.afterCalls c v n = some t ∧ t.name = (sub.forward c.version)^[n] v.name ∧
      (t = v ∨ t.channel = selected) ∧ m.IsNode t.name ∧ t.name ≠ "" := by
  have hwf := sourceForChannel_wf hsel.source
  induction n with
  | zero => exact ⟨v, rfl, rfl, Or.inl rfl, hnode, hne⟩
  | succ n ih =>
    obtain ⟨t, ht, hname, hchannel, htnode, htne⟩ := ih
    -- the same source is selected again, and a pinned version is only met in the selected channel
    have hsel' : c.Selects g (some t) baseImage selected m := by
      rcases hchannel with rfl | hchannel
      · exact hsel
      · exact Selects.again hsel (Or.inl hchannel)
    have hpinned' : t.name = c.version → t.channel = selected ∨ sub.nextVersion t.name = "" := by
      rcases hchannel with rfl | hchannel
      · exact hpinned
      · exact fun _ => Or.inl hchannel
    obtain ⟨r, t', hcall, hok, ht', hchannel', hname'⟩ := call_forward hsel' hroll htnode htne hsub hpinned'
    have hstep := forward_isNode hwf hsub htnode htne
    rw [← hname'] at hstep
    refine ⟨t', ?_, ?_, Or.inr hchannel', hstep.1, hstep.2⟩
    · simp [afterCalls, ht, hcall, hok, ht']
    · rw [Function.iterate_succ_apply', ← hname, hname']

end

/-! ## Unpinned versions -/

/-- The head leads nowhere else: it has no last edge, or an edge to itself. -/
def HeadRests (edges : EdgeSet) (head : String) : Prop :=
  ∀ dst ∈ (edges.lookup head).bind (·.getLast?), dst = head

instance (edges : EdgeSet) (head : String) : Decidable (HeadRests edges head) :=
  inferInstanceAs (Decidable (∀ dst ∈ (edges.lookup head).bind (·.getLast?), dst = head))

theorem forward_head_iff {m : MemorySource} (hwf : m.WF) (hid : ∀ x, m.IsNode x → x ≠ "") {head : String}
    (hhead : m.IsNode head) : m.forward "" head = head ↔ HeadRests m.edges head := by
  have hforward : m.forward "" head = m.advance head := by simp [MemorySource.forward, hid head hhead]
  rw [hforward]
  unfold MemorySource.advance MemorySource.nextVersion HeadRests
  cases hl : m.edges.lookup head with
  | none => simp
  | some toSet =>
    cases hlast : toSet.getLast? with
    | none => simp [hlast]
    | some dst =>
      have hdst : dst ≠ "" := hid dst (hwf.targets head toSet hl dst (List.mem_of_getLast? hlast))
      simp [hlast, hdst]

/-- No call succeeds when the selected channel has no name: its source is not fetched, and the first call dereferences
nil. -/
theorem afterCalls_unnamed {c : Call} {v : SpiceDBVersion} (hchosen : Chosen g c.channel c.engine (some v) "") (k : Nat)
    (t : SpiceDBVersion) : g.afterCalls c v (k + 1) ≠ some t := by
  intro ht
  obtain ⟨t, ht⟩ := afterCalls_prefix (show 1 ≤ k + 1 by omega) ht
  obtain ⟨cur, r, hcur, hcall, hok, _⟩ := afterCalls_succ ht
  cases hcur
  obtain ⟨_, _, _, hsel⟩ := computeTarget_success c.untagged hcall hok
  exact hsel.channel_ne (hchosen.unique (selectChannel_ok.1 hsel.channel)).symm

/-- **Automatic updates converge to the head** of an accepted channel and stop there exactly when the channel has a
name and its head rests. -/
theorem converges_iff (g : UpdateGraph) (c : Call) (v : SpiceDBVersion) (selected : String) (channel : Channel)
    (head : State) (hchosen : Chosen g c.channel c.engine (some v) selected)
    (hfind : g.findChannel c.engine selected = some channel)
    (haccept : ∃ m, newMemorySource channel.nodes channel.edges = .ok (.ok m))
    (hid : ∀ n ∈ channel.nodes, n.id ≠ "") (hhead : channel.nodes.head? = some head)
    (hv : ∃ n ∈ channel.nodes, n.id = v.name) (hversion : c.version = "") (hroll : c.rolling = false)
    (hbase : cmpOr [(explodeImage c.image).1, c.clusterBaseImage, c.operatorImageName] ≠ "") :
    (∃ k ≤ channel.nodes.length - 1, ∀ n, k ≤ n → ∃ t, g.afterCalls c v n = some t ∧ t.name = head.id) ↔
      selected ≠ "" ∧ HeadRests channel.edges head.id := by
  obtain ⟨m, hnew⟩ := haccept
  by_cases hnamed : selected = ""
  · refine ⟨?_, fun h => absurd hnamed h.1⟩
    rintro ⟨k, _, hk⟩
    obtain ⟨t, ht, _⟩ := hk (k + 1) (by omega)
    exact absurd ht (afterCalls_unnamed (hnamed ▸ hchosen) k t)
  have hsource : g.sourceForChannel c.engine selected = .ok (.ok m) := sourceForChannel_ok.2 ⟨channel, hfind, hnew⟩
  have hsel : c.Selects g (some v) _ selected m :=
    ⟨c.untagged, rfl, hbase, selectChannel_ok.2 hchosen, hnamed, hsource⟩
  obtain ⟨k, hk, hwalk, hnodes⟩ := newMemorySource_walk hnew hid hhead hv
  obtain ⟨rfl, hwf⟩ := newMemorySource_wf hnew
  have hids : ∀ x, (channelSource channel.nodes channel.edges).IsNode x → x ≠ "" := by
    rintro x ⟨n, hn, rfl⟩; exact hid n hn
  have hheadNode : (channelSource channel.nodes channel.edges).IsNode head.id :=
    ⟨head, List.mem_of_mem_head? hhead, rfl⟩
  have hstep : stepSource (channelSource channel.nodes channel.edges) c.version false =
      some (channelSource channel.nodes channel.edges) := by simp [stepSource, hversion]
  have hname := afterCalls_name hsel hroll hv (hids _ hv) hstep (fun h => absurd (h.trans hversion) (hids _ hv))
  rw [hversion] at hname
  have harrive : ((channelSource channel.nodes channel.edges).forward "")^[k] v.name = head.id := by
    rw [MemorySource.forward_iterate (fun i hi => hids _ (hnodes i hi)) k le_rfl, hwalk]
  have hrest := forward_head_iff hwf hids hheadNode
  constructor
  · rintro ⟨K, _, hK⟩
    refine ⟨hnamed, hrest.1 ?_⟩
    obtain ⟨t, ht, htname⟩ := hK K le_rfl
    obtain ⟨t', ht', htname'⟩ := hK (K + 1) (by omega)
    obtain ⟨u, hu, huname, _⟩ := hname K
    obtain ⟨u', hu', huname', _⟩ := hname (K + 1)
    cases ht.symm.trans hu
    cases ht'.symm.trans hu'
    rw [Function.iterate_succ_apply', ← huname, htname, htname'] at huname'
    exact huname'.symm
  · rintro ⟨_, hrests⟩
    refine ⟨k, by omega, fun n hn => ?_⟩
    obtain ⟨t, ht, htname, _⟩ := hname n
    refine ⟨t, ht, ?_⟩
    rw [htname, ← Nat.sub_add_cancel hn, Function.iterate_add_apply, harrive]
    exact Function.iterate_fixed (hrest.2 hrests) _

/-- The chain `v1`, `v2`, and a head that leads back. -/
def headLeadsBack : UpdateGraph :=
  { channels := [{
      name := "stable"
      metadata := some ([⟨"datastore", "postgres"⟩, ⟨"default", "true"⟩].toAList)
      edges := [⟨"v1", ["v2"]⟩, ⟨"v2", ["v1"]⟩].toAList
      nodes := [{ id := "v2", tag := "v2" }, { id := "v1", tag := "v1" }] }] }

theorem twoReleases_converges :
    ∃ k ≤ 1, ∀ n, k ≤ n → ∃ t, twoReleases.afterCalls (followChannel "stable" false)
      { name := "v1", channel := "stable" } n = some t ∧ t.name = "v2" :=
  (converges_iff twoReleases (followChannel "stable" false) { name := "v1", channel := "stable" } "stable" _ _
    (Or.inl ⟨by decide, rfl⟩) rfl ⟨_, rfl⟩ (by decide) rfl (by decide) rfl rfl (by decide)).2
    ⟨by decide, by decide⟩

/-- An accepted channel in which automatic updates go back and forth: the operator is at `v1` after every even number
of calls, so it never comes to rest at the head `v2`. -/
theorem headLeadsBack_oscillates :
    (∃ m, newMemorySource [{ id := "v2", tag := "v2" }, { id := "v1", tag := "v1" }]
      ([⟨"v1", ["v2"]⟩, ⟨"v2", ["v1"]⟩].toAList) = .ok (.ok m)) ∧
    (∀ n, headLeadsBack.afterCalls (followChannel "stable" false) { name := "v1", channel := "stable" } (2 * n) =
      some { name := "v1", channel := "stable" }) ∧
    ¬ ∃ k ≤ 1, ∀ n, k ≤ n → ∃ t, headLeadsBack.afterCalls (followChannel "stable" false)
      { name := "v1", channel := "stable" } n = some t ∧ t.name = "v2" := by
  have heven : ∀ n, headLeadsBack.afterCalls (followChannel "stable" false)
    { name := "v1", channel := "stable" } (2 * n) =
      some { name := "v1", channel := "stable" } := by
    intro n
    induction n with
    | zero => rfl
    | succ n ih =>
      rw [Nat.mul_succ, afterCalls, afterCalls, ih]
      rfl
  refine ⟨⟨_, rfl⟩, heven, ?_⟩
  rintro ⟨k, _, hk⟩
  obtain ⟨t, ht, hname⟩ := hk (2 * k) (by omega)
  cases (heven k).symm.trans ht
  exact absurd hname (by decide)

end UpdateGraph

end SpiceDBOperator
