import SpiceDBOperator.Tools.UpgradePath

/-!
# The walk to a pinned version

The tool and the operator both follow the last remaining edge in the source re-rooted at the wanted version.

* `tool_agrees_with_operator`: they visit the same versions, for ever.
* `pinned_walk_iff`: when the walk ends and finds the paths there are. It is greedy, it keeps no visited set, and
  cutting the lists down to the older nodes exposes edges that `NewMemorySource` never followed, so it can run in
  circles or miss a path: `pinned_walk_fails`.
-/

namespace SpiceDBOperator

open Golang Walk MemorySource StateTransition Relation

/-! ## The tool and the operator -/

section

variable {m sub : MemorySource} {dst x y : String}

theorem forward_of_towards (h : sub.towards dst x = some y) : sub.forward dst x = y := by
  obtain ⟨hne, hnext, hy⟩ := towards_some.1 h
  subst hnext
  simp [forward, advance, hne, hy]

theorem forward_of_stop (h : sub.towards dst x = none) : sub.forward dst x = x := by
  rcases towards_none.1 h with rfl | hnext
  · simp [forward]
  · simp [forward, advance, hnext]

theorem forward_of_nth {n : Nat} (h : nth (sub.towards dst) x n = some y) : (sub.forward dst)^[n] x = y := by
  induction n generalizing y with
  | zero => exact Option.some.inj h
  | succ n ih =>
    obtain ⟨z, hz, hzy⟩ := Option.bind_eq_some_iff.1 h
    rw [Function.iterate_succ_apply', ih hz, forward_of_towards hzy]

theorem forward_stays {n k : Nat} (h : nth (sub.towards dst) x n = some y) (hstop : sub.towards dst y = none)
    (hk : n ≤ k) : (sub.forward dst)^[k] x = y := by
  rw [← Nat.sub_add_cancel hk, Function.iterate_add_apply, forward_of_nth h]
  exact Function.iterate_fixed (forward_of_stop hstop) _

/-- A version is where a finished walk left it: the last entry of the path. -/
theorem getLast_version (first : PathStep) {tail : List PathStep} {z : String} (hfirst : first.version = x)
    (htail : ∀ i step, tail[i]? = some step → nth (sub.towards dst) x (i + 1) = some step.version)
    (hz : nth (sub.towards dst) x tail.length = some z) :
    ∃ last, (first :: tail).getLast? = some last ∧ last.version = z := by
  rcases List.eq_nil_or_concat tail with rfl | ⟨init, last, rfl⟩
  · exact ⟨first, rfl, hfirst.trans (Option.some.inj hz)⟩
  · refine ⟨last, by simp [List.getLast?_cons], ?_⟩
    have := htail init.length last (by simp)
    rw [List.length_concat] at hz
    exact Option.some.inj (this.symm.trans hz)

end

/-- **The upgrade-path tool and the operator agree.** Let the tool walk from `src` towards `dst` for `k` rounds, and let
the operator, pinned to `dst` in the same channel, make its calls from `src`. The versions visited are the target names
in the same order; once the tool has stopped, at `dst` or without a next version, the operator stays there. -/
theorem tool_agrees_with_operator (g : UpdateGraph) (datastore channelName src dst : String) (m : MemorySource)
    (c : UpdateGraph.Call) (v : SpiceDBVersion)
    (hdefault : g.defaultChannelForDatastore datastore = .ok channelName) (hnamed : channelName ≠ "")
    (hsource : g.sourceForChannel datastore channelName = .ok (.ok m))
    (hsrc : m.IsNode src) (hsrcne : src ≠ "") (hdst : m.IsNode dst) (hdstne : dst ≠ "")
    (hversion : c.version = dst) (hchannel : c.channel = channelName) (hengine : c.engine = datastore)
    (hroll : c.rolling = false)
    (hbase : cmpOr [(explodeImage c.image).1, c.clusterBaseImage, c.operatorImageName] ≠ "")
    (hvname : v.name = src) (hvchannel : v.channel = channelName) (k : Nat) :
    ∃ sub w, m.subgraph dst = .ok (.ok sub) ∧
      walkPath m sub dst k src [firstStep src (m.nodeState src)] = .ok w ∧
      validateUpgrade g datastore src dst k = reportOf w ∧
      (∀ i step, w.path[i]? = some step → ∃ t, g.afterCalls c v i = some t ∧ t.name = step.version) ∧
      (¬ w.Ended → w.path.length = k + 1) ∧
      (w.Ended → ∃ last, w.path.getLast? = some last ∧ ((∃ p, w = .arrived p) ↔ last.version = dst) ∧
        ∀ n, w.path.length - 1 ≤ n → ∃ t, g.afterCalls c v n = some t ∧ t.name = last.version) := by
  have hwf := UpdateGraph.sourceForChannel_wf hsource
  obtain ⟨sub, hpinned, hsub, _⟩ := hwf.pinned_isNode hdstne hdst
  obtain ⟨w, tail, hw, hpath, htail, hend⟩ := walkPath_spec sub dst hwf k src [firstStep src (m.nodeState src)]
  subst hversion hchannel hengine hvname
  have hsel : c.Selects g (some v) _ c.channel m :=
    ⟨c.untagged, rfl, hbase, UpdateGraph.selectChannel_ok.2 (Or.inl ⟨hnamed, rfl⟩), hnamed, hsource⟩
  have hstep : UpdateGraph.stepSource m c.version false = some sub := by simp [UpdateGraph.stepSource, hdstne, hpinned]
  have hname := UpdateGraph.afterCalls_name hsel hroll hsrc hsrcne hstep (fun _ => Or.inl hvchannel)
  refine ⟨sub, w, hsub, hw, ?_, ?_, ?_, ?_⟩
  · have hsid := nodeState_id_ne.2 ⟨hsrc, hsrcne⟩
    have hdid := nodeState_id_ne.2 ⟨hdst, hdstne⟩
    simp [validateUpgrade, hdefault, hsource, hwf.state_eq, hsid, hdid, hsub, hw, bind, Except.bind]
  · intro i step hi
    obtain ⟨t, ht, htname, _⟩ := hname i
    refine ⟨t, ht, ?_⟩
    rw [hpath] at hi
    cases i with
    | zero =>
      obtain rfl : firstStep v.name (m.nodeState v.name) = step := by simpa using hi
      exact htname
    | succ i => rw [htname, forward_of_nth (htail i step (by simpa using hi))]
  · intro hrun
    cases w with
    | running _ =>
      rw [hpath]
      have hlen : tail.length = k := hend
      simp [hlen]
    | arrived _ => exact absurd trivial hrun
    | stuck _ => exact absurd trivial hrun
  · intro hended
    obtain ⟨z, hz, hstop⟩ := hend.stop hended
    obtain ⟨last, hlast, hlastz⟩ := getLast_version (firstStep v.name (m.nodeState v.name)) rfl htail hz
    refine ⟨last, by rw [hpath]; exact hlast, ?_, fun n hn => ?_⟩
    · rw [hlastz]
      cases w with
      | running _ => exact hended.elim
      | arrived p => exact ⟨fun _ => Option.some.inj (hz.symm.trans hend.2), fun _ => ⟨p, rfl⟩⟩
      | stuck p =>
        obtain ⟨_, z', hz', hne, _⟩ := hend
        obtain rfl : z = z' := Option.some.inj (hz.symm.trans hz')
        refine ⟨?_, fun h => absurd h hne⟩
        rintro ⟨_, h⟩
        cases h
    · obtain ⟨t, ht, htname, _⟩ := hname n
      refine ⟨t, ht, ?_⟩
      rw [hpath] at hn
      rw [htname, hlastz]
      exact forward_stays hz hstop (by simpa using hn)

/-- The tool and the operator from `v1` to `v2`. -/
theorem twoReleases_agree :
    ∃ w, validateUpgrade UpdateGraph.twoReleases "postgres" "v1" "v2" 2 = reportOf w ∧
      ∀ i step, w.path[i]? = some step → ∃ t, UpdateGraph.twoReleases.afterCalls
        ((UpdateGraph.followChannel "stable" false).edit "v2" "stable")
          { name := "v1", channel := "stable" } i = some t ∧
        t.name = step.version := by
  obtain ⟨_, w, _, _, hreport, hnames, _⟩ :=
    tool_agrees_with_operator UpdateGraph.twoReleases "postgres" "stable" "v1" "v2" _
      ((UpdateGraph.followChannel "stable" false).edit "v2" "stable") { name := "v1", channel := "stable" }
      rfl (by decide) rfl (by decide) (by decide) (by decide) (by decide) rfl rfl rfl rfl (by decide) rfl rfl 2
  exact ⟨w, hreport, hnames⟩

/-! ## When the walk is complete -/

/-- A path of edges from `x` to `dst` through nodes at or after `dst` in the node list. -/
def PathWithin (m : MemorySource) (dst x : String) : Prop :=
  ReflTransGen (fun a b => m.Edge a b ∧ m.AtOrAfter dst a ∧ m.AtOrAfter dst b) x dst

/-- The last remaining edge of `x`: the last entry of its list that stands at or after the pinned version. The pinned
version counts as having none, and the code takes `""` for no version. -/
def LastKept (m : MemorySource) (dst x y : String) : Prop :=
  x ≠ dst ∧ y ≠ "" ∧ m.AtOrAfter (m.root dst) x ∧ m.AtOrAfter (m.root dst) y ∧
    ∃ before after, m.edges.lookup x = some (before ++ y :: after) ∧ ∀ z ∈ after, ¬ m.AtOrAfter (m.root dst) z

/-- The channels, pins and starts on which the greedy walk is right: the last remaining edges from `src` on run into no
circle, and if `src` has a path then they lead, as far as they go, from versions with a path to such versions. -/
structure GreedySafe (m : MemorySource) (dst src : String) : Prop where
  acyclic : ∀ x, ReflTransGen (LastKept m dst) src x → ¬ TransGen (LastKept m dst) x x
  last_edge : PathWithin m dst src → ∀ x, ReflTransGen (LastKept m dst) src x → x ≠ dst → PathWithin m dst x →
    ∃ y, LastKept m dst x y ∧ PathWithin m dst y

section

variable {m sub : MemorySource} {dst src x y : String}

theorem LastKept.edge (h : LastKept m dst x y) : m.Edge x y := by
  obtain ⟨_, _, _, _, before, after, hlookup, _⟩ := h
  exact ⟨_, hlookup, by simp⟩

/-- One round of the loop in the re-rooted source follows the last remaining edge of the channel. -/
theorem towards_iff_lastKept (hwf : m.WF) (hr : RestrictsTo m (m.root dst) sub) :
    sub.towards dst x = some y ↔ LastKept m dst x y := by
  rw [towards_some]
  unfold LastKept
  refine and_congr_right fun _ => ?_
  rw [and_comm]
  refine and_congr_right fun hy => ?_
  simp only [hr.nextVersion_iff hy, hr.isNode_iff hwf]

theorem towards_eq_lastKept (hwf : m.WF) (hr : RestrictsTo m (m.root dst) sub) :
    (fun a b => b ∈ sub.towards dst a) = LastKept m dst := by
  ext a b
  exact towards_iff_lastKept hwf hr

theorem reaches_iff_lastKept (hwf : m.WF) (hr : RestrictsTo m (m.root dst) sub) :
    Reaches (sub.towards dst) x y ↔ ReflTransGen (LastKept m dst) x y := by
  rw [Reaches, towards_eq_lastKept hwf hr]

theorem reaches₁_iff_lastKept (hwf : m.WF) (hr : RestrictsTo m (m.root dst) sub) :
    Reaches₁ (sub.towards dst) x y ↔ TransGen (LastKept m dst) x y := by
  rw [Reaches₁, towards_eq_lastKept hwf hr]

/-- What the last remaining edges reach, they reach along a path. (No edge of theirs leads to `""`.) -/
theorem pathWithin_of_lastKept (h : ReflTransGen (LastKept m dst) x dst) : PathWithin m dst x := by
  by_cases hempty : dst = ""
  · rcases ReflTransGen.cases_tail h with rfl | ⟨y, _, hy⟩
    · exact ReflTransGen.refl
    · exact absurd hempty hy.2.1
  refine ReflTransGen.mono (fun a b hab => ?_) _ _ h
  have hedge := hab.edge
  obtain ⟨_, _, ha, hb, _⟩ := hab
  rw [root_of_ne hempty] at ha hb
  exact ⟨hedge, ha, hb⟩

theorem towards_mem_lastEdges (sub : MemorySource) (dst x : String) : ∀ y ∈ sub.towards dst x, y ∈ sub.lastEdges := by
  intro y hy
  obtain ⟨_, rfl, hne⟩ := towards_some.1 hy
  exact (sub.nextVersion_mem_lastEdges x).resolve_left hne

/-- The last remaining edge is unique, so where one leads to a version with a path, the walk goes there. -/
theorem GreedySafe.pathWithin (hwf : m.WF) (hr : RestrictsTo m (m.root dst) sub) (h : GreedySafe m dst src)
    (hpath : PathWithin m dst src) (hx : ReflTransGen (LastKept m dst) src x) : PathWithin m dst x := by
  induction hx with
  | refl => exact hpath
  | tail hreach hstep ih =>
    obtain ⟨y, hy, hpy⟩ := h.last_edge hpath _ hreach hstep.1 ih
    rw [← towards_iff_lastKept hwf hr] at hy hstep
    cases hy.symm.trans hstep
    exact hpy

end

/-- **The walk to a pinned version**, in an accepted channel: it ends after finitely many steps, and at the pinned
version if and only if there is a path through nodes at or after it, exactly when the channel is `GreedySafe`. -/
theorem pinned_walk_iff (nodes : List State) (edges : EdgeSet) (m sub : MemorySource) (src dst : String)
    (path : List PathStep) (haccept : newMemorySource nodes edges = .ok (.ok m)) (hdst : m.IsNode dst)
    (hsub : m.subgraph dst = .ok (.ok sub)) :
    ((∃ fuel w, walkPath m sub dst fuel src path = .ok w ∧ w.Ended) ∧
      ((∃ fuel p, walkPath m sub dst fuel src path = .ok (.arrived p)) ↔ PathWithin m dst src)) ↔
      GreedySafe m dst src := by
  have hwf := (newMemorySource_wf haccept).2
  obtain ⟨sub', hsub', hr⟩ := hwf.subgraph_root (hwf.root_isNode hdst)
  cases hsub.symm.trans hsub'
  have hhalts := halts_iff_acyclic (a := src) (towards_mem_lastEdges sub dst)
  rw [walkPath_halts_iff hwf, walkPath_arrives_iff hwf, hhalts]
  simp only [reaches_iff_lastKept hwf hr, reaches₁_iff_lastKept hwf hr] at hhalts ⊢
  constructor
  · rintro ⟨hacyclic, harrive⟩
    refine ⟨hacyclic, fun hpath x hx hne _ => ?_⟩
    -- the walk arrives, so it goes on from `x`
    have harrives := harrive.2 hpath
    rw [← reaches_iff_lastKept hwf hr] at hx harrives
    rcases reaches_total hx harrives with hxd | hdx
    · rw [reaches_iff_lastKept hwf hr] at hxd
      rcases ReflTransGen.cases_head hxd with rfl | ⟨y, hy, hyd⟩
      · exact absurd rfl hne
      · exact ⟨y, hy, pathWithin_of_lastKept hyd⟩
    · rw [reaches_iff_lastKept hwf hr] at hdx
      rcases ReflTransGen.cases_head hdx with rfl | ⟨y, hy, _⟩
      · exact absurd rfl hne
      · exact absurd rfl hy.1
  · intro hsafe
    refine ⟨hsafe.acyclic, pathWithin_of_lastKept, fun hpath => ?_⟩
    obtain ⟨z, hz, hstop⟩ := hhalts.2 hsafe.acyclic
    by_cases hzd : z = dst
    · exact hzd ▸ hz
    · obtain ⟨y, hy, _⟩ := hsafe.last_edge hpath z hz hzd (hsafe.pathWithin hwf hr hpath hz)
      rw [← towards_iff_lastKept hwf hr, hstop] at hy
      cases hy

def chain : Channel :=
  { nodes := [{ id := "v3" }, { id := "v2" }, { id := "v1" }], edges := [⟨"v1", ["v2"]⟩, ⟨"v2", ["v3"]⟩].toAList }

/-- A chain pinned in the middle: the one edge that is left leads to the pinned version, and so does the walk. -/
theorem chain_greedySafe :
    GreedySafe (channelSource chain.nodes chain.edges) "v2" "v1" ∧
    ∃ sub, (channelSource chain.nodes chain.edges).subgraph "v2" = .ok (.ok sub) ∧
      (∃ fuel w, walkPath (channelSource chain.nodes chain.edges) sub "v2" fuel "v1" [] = .ok w ∧ w.Ended) ∧
      ((∃ fuel p, walkPath (channelSource chain.nodes chain.edges) sub "v2" fuel "v1" [] = .ok (.arrived p)) ↔
        PathWithin (channelSource chain.nodes chain.edges) "v2" "v1") := by
  have honly : ∀ y, LastKept (channelSource chain.nodes chain.edges) "v2" "v1" y → y = "v2" := by
    rintro y ⟨-, -, -, -, before, after, hlookup, -⟩
    have hmem : y ∈ ["v2"] := by
      rw [Option.some.inj ((rfl : _ = some ["v2"]).symm.trans hlookup)]
      simp
    exact List.mem_singleton.1 hmem
  have hend : ∀ y, ¬ LastKept (channelSource chain.nodes chain.edges) "v2" "v2" y := fun y hy => hy.1 rfl
  have hreach : ∀ x, ReflTransGen (LastKept (channelSource chain.nodes chain.edges) "v2") "v1" x →
      x = "v1" ∨ x = "v2" := by
    intro x hx
    induction hx with
    | refl => exact Or.inl rfl
    | tail _ hstep ih =>
      rcases ih with rfl | rfl
      · exact Or.inr (honly _ hstep)
      · exact absurd hstep (hend _)
  have hback : ¬ TransGen (LastKept (channelSource chain.nodes chain.edges) "v2") "v2" "v1" := fun h => by
    obtain ⟨y, hy, -⟩ := TransGen.head'_iff.1 h
    exact hend y hy
  have hnode : LastKept (channelSource chain.nodes chain.edges) "v2" "v1" "v2" :=
    ⟨by decide, by decide, ⟨1, 2, _, _, by decide, rfl, rfl, rfl, rfl⟩, ⟨1, 1, _, _, by decide, rfl, rfl, rfl, rfl⟩,
      [], [], rfl, fun _ hz => absurd hz List.not_mem_nil⟩
  have hsafe : GreedySafe (channelSource chain.nodes chain.edges) "v2" "v1" := by
    refine ⟨fun x hx hcircle => ?_, fun _ x hx hne _ => ?_⟩
    · obtain ⟨y, hy, hyx⟩ := TransGen.head'_iff.1 hcircle
      rcases hreach x hx with rfl | rfl
      · obtain rfl := honly y hy
        rcases ReflTransGen.cases_head hyx with heq | ⟨z, hz, -⟩
        · exact absurd heq (by decide)
        · exact hend z hz
      · exact hend y hy
    · obtain rfl := (hreach x hx).resolve_right hne
      exact ⟨"v2", hnode, ReflTransGen.refl⟩
  exact ⟨hsafe, _, rfl, (pinned_walk_iff chain.nodes chain.edges _ _ "v1" "v2" [] rfl (by decide) rfl).2 hsafe⟩

/-- Pinned to `v3`, the lists of `v1` and `v2` are cut down to each other. -/
def circle : Channel :=
  { nodes := [{ id := "v4" }, { id := "v3" }, { id := "v2" }, { id := "v1" }]
    edges := [⟨"v1", ["v2", "v4"]⟩, ⟨"v2", ["v1", "v4"]⟩, ⟨"v3", ["v4"]⟩].toAList }

/-- Pinned to `v4`, the last remaining edge of `v1` leads to `v3`, which has no edge left. -/
def deadEnd : Channel :=
  { nodes := [{ id := "v5" }, { id := "v4" }, { id := "v3" }, { id := "v2" }, { id := "v1" }]
    edges := [⟨"v1", ["v2", "v3"]⟩, ⟨"v2", ["v4"]⟩, ⟨"v3", ["v5"]⟩, ⟨"v4", ["v5"]⟩].toAList }

/-- Two accepted channels on which the walk from `v1` is wrong: in the first it never ends, in the second it gets stuck
although `v1`, `v2`, `v4` is a path. -/
theorem pinned_walk_fails :
    (∃ m sub, newMemorySource circle.nodes circle.edges = .ok (.ok m) ∧ m.subgraph "v3" = .ok (.ok sub) ∧
      ∀ path, ¬ ∃ fuel w, walkPath m sub "v3" fuel "v1" path = .ok w ∧ w.Ended) ∧
    ∃ m sub, newMemorySource deadEnd.nodes deadEnd.edges = .ok (.ok m) ∧ m.subgraph "v4" = .ok (.ok sub) ∧
      PathWithin m "v4" "v1" ∧ ∃ p, walkPath m sub "v4" 2 "v1" [] = .ok (.stuck p) := by
  constructor
  · have haccept : newMemorySource circle.nodes circle.edges =
      .ok (.ok (channelSource circle.nodes circle.edges)) := rfl
    refine ⟨_, _, haccept, rfl, fun path hends => ?_⟩
    rw [walkPath_halts_iff (newMemorySource_wf haccept).2, halts_iff_acyclic (towards_mem_lastEdges _ _)] at hends
    exact hends "v1" ReflTransGen.refl (TransGen.tail (b := "v2") (TransGen.single rfl) rfl)
  · have haccept : newMemorySource deadEnd.nodes deadEnd.edges =
      .ok (.ok (channelSource deadEnd.nodes deadEnd.edges)) := rfl
    refine ⟨_, _, haccept, rfl, ?_, _, rfl⟩
    refine ReflTransGen.head (b := "v2") ?_ (ReflTransGen.single ?_)
    · exact ⟨⟨["v2", "v3"], rfl, by decide⟩, ⟨1, 4, _, _, by decide, rfl, rfl, rfl, rfl⟩,
        ⟨1, 3, _, _, by decide, rfl, rfl, rfl, rfl⟩⟩
    · exact ⟨⟨["v4"], rfl, by decide⟩, ⟨1, 3, _, _, by decide, rfl, rfl, rfl, rfl⟩,
        ⟨1, 1, _, _, by decide, rfl, rfl, rfl, rfl⟩⟩

end SpiceDBOperator
