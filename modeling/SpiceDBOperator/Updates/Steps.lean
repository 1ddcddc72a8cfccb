import SpiceDBOperator.Updates.Available

/-!
# One step of `ComputeTarget`: its flag and its bound

Two questions about a single call with a current version.

* When is a step flagged that needs no migration? The target starts as a copy of the current version
  (file.go:267), and its attributes are replaced only when the next version is not the direct one
  (file.go:352): a flag from an earlier step survives. The direct version is the last one before the *first*
  entry with another migration or phase (memory.go:35), so such an entry in the list flags the step even if the
  version stepped to needs none. `unneeded_migration_unflagged_iff` says these are the only ways.
* Can a call pass the pinned version? No (`pinned_version_bounds_target`); but for a channel with an empty name the
  source is never fetched (file.go:257), and the call that should refuse an unknown version dereferences nil.
-/

namespace SpiceDBOperator

open Golang

namespace MemorySource

variable {m sub : MemorySource} {version src : String}

/-- The entries of the list of `src` that a pinned version leaves; all of them when none is pinned. -/
def updatesUpTo (m : MemorySource) (version src : String) : List String :=
  ((m.edges.lookup src).getD []).filter fun dst => version = "" ∨ m.AtOrAfter version dst

/-- Of the entries left, the last one before any other migration or phase is the last one. -/
def ClearWay (m : MemorySource) (version src : String) : Prop :=
  ((m.updatesUpTo version src).takeWhile fun dst => SameMigration (m.nodeState src) (m.nodeState dst)).getLast? =
    (m.updatesUpTo version src).getLast?

instance (m : MemorySource) (version src : String) : Decidable (m.ClearWay version src) :=
  inferInstanceAs (Decidable (_ = _))

theorem updatesUpTo_empty (m : MemorySource) (src : String) : m.updatesUpTo "" src = (m.edges.lookup src).getD [] := by
  simp [updatesUpTo]

theorem RestrictsTo.lookup_updatesUpTo (hr : RestrictsTo m version sub) (hwf : m.WF) (hne : version ≠ "")
    (hsrc : sub.IsNode src) : (sub.edges.lookup src).getD [] = m.updatesUpTo version src := by
  have hkept : ∀ dst, (decide (sub.IsNode dst)) = decide (version = "" ∨ m.AtOrAfter version dst) := by
    intro dst
    simp [hne, hr.isNode_iff hwf]
  rw [hr.lookup, if_pos hsrc, updatesUpTo]
  cases m.edges.lookup src with
  | none => simp
  | some toSet => simp [hkept]

end MemorySource

namespace UpdateGraph

variable {g : UpdateGraph}

section

variable {m sub : MemorySource} {version : String} {v target : SpiceDBVersion}

/-- The list a step is taken from. -/
theorem stepSource_updates (hwf : m.WF) (hsub : stepSource m version false = some sub)
    (hnext : sub.nextVersion v.name ≠ "") :
    sub.edges.lookup v.name = some (m.updatesUpTo version v.name) := by
  obtain ⟨toSet, hl, _⟩ := MemorySource.nextVersion_edge hnext
  have hupdates : (sub.edges.lookup v.name).getD [] = m.updatesUpTo version v.name := by
    rcases stepSource_cases hwf hsub with ⟨hno, rfl⟩ | ⟨hpin, hr⟩
    · rw [hno.resolve_right Bool.false_ne_true, MemorySource.updatesUpTo_empty]
    · exact hr.lookup_updatesUpTo hwf hpin.1 (hr.wf.edge_isNode (MemorySource.nextVersion_edge hnext)).1
  rw [hl] at hupdates ⊢
  exact congrArg some hupdates

/-- A step is unflagged by the scan exactly when the way is clear. -/
theorem step_direct_iff (hwf : m.WF) (hsub : stepSource m version false = some sub)
    (hnext : sub.nextVersion v.name ≠ "") :
    sub.nextVersion v.name = sub.directVersion v.name ↔ m.ClearWay version v.name := by
  have hl := stepSource_updates hwf hsub hnext
  have hsubwf := stepSource_wf hwf hsub
  have hsrc := (hsubwf.edge_isNode (MemorySource.nextVersion_edge hnext)).1
  have hstate : ∀ dst ∈ m.updatesUpTo version v.name, sub.nodeState dst = m.nodeState dst := fun dst hdst =>
    stepSource_nodeState hwf hsub (hsubwf.targets _ _ hl dst hdst)
  rw [MemorySource.nextVersion_lookup hl] at hnext ⊢
  rw [MemorySource.directVersion_lookup hl, MemorySource.ClearWay, stepSource_nodeState hwf hsub hsrc,
    MemorySource.takeWhile_congr fun dst hdst => by rw [hstate dst hdst]]
  generalize ((m.updatesUpTo version v.name).takeWhile _).getLast? = direct
  cases hlast : (m.updatesUpTo version v.name).getLast? with
  | none => simp [hlast] at hnext
  | some next =>
    rw [hlast] at hnext
    cases direct with
    | none => simpa using hnext
    | some w => simp [eq_comm]

end

/-- **When a step that needs no migration is not flagged.** For a call outside a rollout from a node of the selected
channel to another node with the same migration and phase: exactly when the current version has a name, carries no
flag itself, and no entry with another migration or phase stands in the way. -/
theorem unneeded_migration_unflagged_iff (g : UpdateGraph) (c : Call) (v t : SpiceDBVersion) (r : Target)
    (selected : String) (channel : Channel) (hroll : c.rolling = false)
    (h : g.call c (some v) = .ok r) (hok : r.err = none) (ht : r.target = some t)
    (hchosen : Chosen g c.channel c.engine (some v) selected) (hfind : g.findChannel c.engine selected = some channel)
    (hmove : t.name ≠ v.name) :
    ∀ n ∈ channel.nodes, ∀ n' ∈ channel.nodes, n.id = v.name → n'.id = t.name → n'.migration = n.migration →
      n'.phase = n.phase →
      (SpiceDBVersionAttributes.migration ∉ t.attributes ↔
        v.name ≠ "" ∧ SpiceDBVersionAttributes.migration ∉ v.attributes ∧
          (channelSource channel.nodes channel.edges).ClearWay c.version v.name) := by
  intro n hn n' _ hid _ _ _
  obtain ⟨baseImage, selected', m, hsel, hexit⟩ := computeTarget_exit c.untagged h hok
  obtain rfl := hchosen.unique (selectChannel_ok.1 hsel.channel)
  obtain ⟨channel', hfind', hnew⟩ := sourceForChannel_ok.1 hsel.source
  cases hfind.symm.trans hfind'
  obtain ⟨hm, hwf⟩ := newMemorySource_wf hnew
  have hnode : m.IsNode v.name := hm ▸ ⟨n, hn, hid⟩
  rw [hroll] at hexit
  rw [← hm]
  cases hexit with
  | install _ hcur _ =>
    cases ht
    simp [show v.name = "" from hcur]
  | same _ _ => cases ht; exact absurd rfl hmove
  | stay _ _ hloc _ _ => cases ht; exact absurd hloc.name_eq hmove
  | @step _ _ _ _ sub _ hname hloc hsub hnext =>
    cases ht
    cases hloc with
    | elsewhere hnot _ => exact absurd (hnot hnode) hname
    | inChannel _ _ =>
      rw [← step_direct_iff hwf hsub hnext]
      by_cases hdirect : sub.nextVersion v.name = sub.directVersion v.name
      · simp [stepTarget, hdirect, hname]
      · simp [stepTarget, hdirect]
  | restart _ hempty _ _ =>
    cases ht
    simp [headTarget, hempty]

/-- A patch release, and a release whose migration a later one takes back. -/
def backAndForth : UpdateGraph :=
  { channels := [
      { name := "stable"
        metadata := some ([⟨"datastore", "postgres"⟩, ⟨"default", "true"⟩].toAList)
        edges := [⟨"v1", ["v2"]⟩].toAList
        nodes := [{ id := "v2", tag := "v2", migration := "m1" }, { id := "v1", tag := "v1", migration := "m1" }] },
      { name := "beta"
        metadata := some ([⟨"datastore", "postgres"⟩].toAList)
        edges := [⟨"v1", ["v2", "v3"]⟩, ⟨"v2", ["v3"]⟩].toAList
        nodes := [{ id := "v3", tag := "v3", migration := "m1" }, { id := "v2", tag := "v2", migration := "m2" },
          { id := "v1", tag := "v1", migration := "m1" }] }] }

/-- Follow a channel from its version. -/
def follow (channel : String) : Call :=
  { operatorImageName := "spicedb", clusterBaseImage := "", image := "", version := "", channel, engine := "postgres"
    rolling := false, untagged := by decide }

/-- The flag of the installation of `v1` is still on `v2`, and the way from `v1` to `v3` is flagged for `v2`. All but
the middle release of `beta` have the migration `m1`. -/
theorem backAndForth_flagged :
    (∃ r t, backAndForth.call (follow "stable")
          (some { name := "v1", channel := "stable", attributes := [SpiceDBVersionAttributes.migration] }) = .ok r ∧
        r.err = none ∧ r.target = some t ∧ t.name = "v2" ∧ SpiceDBVersionAttributes.migration ∈ t.attributes) ∧
    ∃ r t, backAndForth.call (follow "beta") (some { name := "v1", channel := "beta" }) = .ok r ∧ r.err = none ∧
      r.target = some t ∧ t.name = "v3" ∧ SpiceDBVersionAttributes.migration ∈ t.attributes :=
  ⟨⟨_, _, rfl, rfl, rfl, rfl, by decide⟩, ⟨_, _, rfl, rfl, rfl, rfl, by decide⟩⟩

theorem backAndForth_unflagged :
    ∃ r t, backAndForth.call (follow "stable") (some { name := "v1", channel := "stable" }) = .ok r ∧
      r.target = some t ∧ t.name = "v2" ∧ SpiceDBVersionAttributes.migration ∉ t.attributes :=
  ⟨_, { name := "v2", channel := "stable" }, rfl, rfl, rfl,
    (unneeded_migration_unflagged_iff backAndForth (follow "stable") { name := "v1", channel := "stable" } _ _ "stable"
      _ rfl rfl rfl rfl (Or.inl ⟨by decide, rfl⟩) rfl (by decide)
      { id := "v1", tag := "v1", migration := "m1" } (by decide)
        { id := "v2", tag := "v2", migration := "m1" } (by decide)
      rfl rfl rfl rfl).2 ⟨by decide, by decide, by decide⟩⟩

/-! ## The pinned version as a bound -/

section

variable {m : MemorySource} {baseImage version channel engine : String} {v : SpiceDBVersion} {rolling : Bool}

/-- The state of `v`, in the selected channel or in its own. -/
def CurrentState (g : UpdateGraph) (engine : String) (m : MemorySource) (v : SpiceDBVersion) (s : State) : Prop :=
  s = m.nodeState v.name ∨ ∃ own, g.sourceForChannel engine v.channel = .ok (.ok own) ∧ s = own.nodeState v.name

theorem Located.currentState {currentState : State} {target : SpiceDBVersion} {notInChannel : Bool}
    (h : Located g m channel engine v currentState target notInChannel) : CurrentState g engine m v currentState := by
  cases h with
  | inChannel _ _ => exact Or.inl rfl
  | elsewhere _ hown => exact Or.inr ⟨_, hown, rfl⟩

/-- Past a pinned version there is no exit. -/
theorem Exit.bounded (hwf : m.WF) (hversion : version ≠ "") (hname : v.name ≠ "") {r : Target}
    (h : Exit g m baseImage version channel engine (some v) rolling r) :
    CurrentState g engine m v r.state ∨ r.state ∈ m.orderedNodes ∧ m.AtOrAfter version r.state.id := by
  cases h with
  | install _ hcur _ => exact absurd hcur hname
  | same _ _ => exact Or.inl (Or.inl rfl)
  | rolling _ hloc _ => exact Or.inl hloc.currentState
  | stay _ _ hloc _ _ => exact Or.inl hloc.currentState
  | restart hempty _ _ _ => exact absurd hempty hversion
  | @step _ _ _ _ sub _ _ hloc hsub hnext =>
    have hedge := MemorySource.nextVersion_edge hnext
    cases hloc with
    | elsewhere hnot _ =>
      -- a version the channel does not know has no edges in it
      exact absurd (hnot (hwf.edge_isNode (stepSource_edge hwf hsub hedge)).1) hname
    | inChannel _ _ =>
      have hnode := ((stepSource_wf hwf hsub).edge_isNode hedge).2
      rw [stepSource_nodeState hwf hsub hnode]
      have hin := (hwf.edge_isNode (stepSource_edge hwf hsub hedge)).2
      refine Or.inr ⟨MemorySource.nodeState_mem hin, ?_⟩
      rw [MemorySource.nodeState_id hin]
      exact ((stepSource_restrictsTo hwf hsub hversion).isNode_iff hwf _).1 hnode

/-- The step to a version that is not in the channel is refused. -/
theorem targetFrom_unknown (hwf : m.WF) (hchannel : channel ≠ "") (hversion : version ≠ "") (hname : v.name ≠ "")
    (hnode : m.IsNode v.name) (hunknown : ¬ m.IsNode version) :
    g.targetFrom baseImage version channel engine (some v) false (some m) =
      .ok { baseImage, target := some { v with channel }, err := some (.noUpdatePath v.name version) } := by
  have hmoved : ¬ (v.name = version ∧ v.channel = channel) := fun h => hunknown (h.1 ▸ hnode)
  have hsub : stepSource m version false = none := by
    simp [stepSource, hversion, hwf.pinned_not_isNode hversion hunknown]
  rw [targetFrom_located hchannel (fun h => hname h.2) hmoved (locateCurrent_inChannel hwf hnode hname _)]
  simp [rollOrStep, takeStep_some hwf, hsub]

theorem targetFrom_unfetched (hname : v.name ≠ "") (hmoved : v.name ≠ version) :
    g.targetFrom baseImage version "" engine (some v) false none = .error .nilDereference := by
  simp [targetFrom, locateCurrent, deref, hname, hmoved, bind, Except.bind]

end

def Call.baseImage (c : Call) : String := cmpOr [(explodeImage c.image).1, c.clusterBaseImage, c.operatorImageName]

theorem call_without_base {c : Call} (hbase : c.baseImage = "") (cur : Option SpiceDBVersion) :
    g.call c cur = .ok { baseImage := "", err := some .noBaseImage } := by
  rw [Call.baseImage] at hbase
  rw [call, computeTarget, explodeImage_untagged c.untagged]
  simp [hbase]

theorem call_unselected {c : Call} {cur : Option SpiceDBVersion} {err : UpdateError} (hbase : c.baseImage ≠ "")
    (hselect : g.selectChannel c.channel c.engine cur = .error err) :
    g.call c cur = .ok { baseImage := c.baseImage, err := some err } := by
  rw [Call.baseImage] at hbase ⊢
  rw [call, computeTarget, explodeImage_untagged c.untagged]
  simp [hbase, hselect]

theorem call_selected {c : Call} {cur : Option SpiceDBVersion} {selected : String} (hbase : c.baseImage ≠ "")
    (hchosen : Chosen g c.channel c.engine cur selected) :
    g.call c cur = g.fetchSource c.engine selected >>= fun
      | .error err => .ok { baseImage := c.baseImage, err := some err }
      | .ok source => g.targetFrom c.baseImage c.version selected c.engine cur c.rolling source := by
  rw [Call.baseImage] at hbase ⊢
  rw [call, computeTarget, explodeImage_untagged c.untagged]
  rcases hsource : g.fetchSource c.engine selected with fault | err | source
  all_goals simp [hbase, selectChannel_ok.2 hchosen, hsource, bind, Except.bind]

/-- Where the pinned version is unknown to the selected channel of the current version, the call is an error, unless
it dereferences the nil source of a channel without a name. -/
theorem call_unknown {c : Call} {v : SpiceDBVersion} {selected : String} {channel : Channel} (hversion : c.version ≠ "")
    (hname : v.name ≠ "") (hroll : c.rolling = false) (hbase : c.baseImage ≠ "")
    (hchosen : Chosen g c.channel c.engine (some v) selected) (hfind : g.findChannel c.engine selected = some channel)
    (hnode : ∃ n ∈ channel.nodes, n.id = v.name) (hunknown : ∀ n ∈ channel.nodes, n.id ≠ c.version) :
    if selected = "" then g.call c (some v) = .error .nilDereference
    else ∃ r, g.call c (some v) = .ok r ∧ r.err ≠ none := by
  rw [call_selected hbase hchosen, hroll, fetchSource]
  by_cases hne : selected = ""
  · subst hne
    have hmoved : v.name ≠ c.version := by
      intro heq
      obtain ⟨n, hn, hid⟩ := hnode
      exact hunknown n hn (hid.trans heq)
    simp [targetFrom_unfetched hname hmoved, bind, Except.bind]
  rw [if_neg hne, if_pos hne]
  obtain ⟨source, hsource⟩ := g.sourceForChannel_returns c.engine selected
  cases source with
  | error err => simp [hsource, bind, Except.bind]
  | ok m =>
    obtain ⟨channel', hfind', hnew⟩ := sourceForChannel_ok.1 hsource
    cases hfind.symm.trans hfind'
    obtain ⟨rfl, hwf⟩ := newMemorySource_wf hnew
    have hno : ¬ (channelSource channel.nodes channel.edges).IsNode c.version := by
      rintro ⟨n, hn, hid⟩
      exact hunknown n hn hid
    simp [hsource, targetFrom_unknown hwf hne hversion hname hnode hno, bind, Except.bind]

/-- **A pinned version is never passed, and an unknown one is refused.** With an explicit version and a current version
that has a name: a successful call returns the state of the current version, the zero `State`, or a node of the selected
channel no newer than the pinned version. Outside a rollout, from a node of the selected channel, a version that channel
does not have is an error exactly when the channel has a name, or the call fails before it is looked up. -/
theorem pinned_version_bounds_target (g : UpdateGraph) (c : Call) (v : SpiceDBVersion) (hversion : c.version ≠ "")
    (hname : v.name ≠ "") :
    (∀ r, g.call c (some v) = .ok r → r.err = none →
      ∃ selected m, Chosen g c.channel c.engine (some v) selected ∧ g.sourceForChannel c.engine selected = .ok (.ok m) ∧
        (r.state = {} ∨ CurrentState g c.engine m v r.state ∨
          r.state ∈ m.orderedNodes ∧ m.AtOrAfter c.version r.state.id)) ∧
    ∀ selected channel, c.rolling = false → Chosen g c.channel c.engine (some v) selected →
      g.findChannel c.engine selected = some channel → (∃ n ∈ channel.nodes, n.id = v.name) →
      (∀ n ∈ channel.nodes, n.id ≠ c.version) →
      ((∃ r, g.call c (some v) = .ok r ∧ r.err ≠ none) ↔
        selected ≠ "" ∨ c.baseImage = "") := by
  constructor
  · intro r h hok
    obtain ⟨baseImage, selected, m, hsel, hexit⟩ := computeTarget_exit c.untagged h hok
    have hbound := hexit.bounded (sourceForChannel_wf hsel.source) hversion hname
    exact ⟨selected, m, selectChannel_ok.1 hsel.channel, hsel.source, Or.inr hbound⟩
  · intro selected channel hroll hchosen hfind hnode hunknown
    by_cases hbase : c.baseImage = ""
    · exact iff_of_true ⟨_, call_without_base hbase _, by simp⟩ (Or.inr hbase)
    have hcall := call_unknown hversion hname hroll hbase hchosen hfind hnode hunknown
    by_cases hne : selected = ""
    · rw [if_pos hne] at hcall
      simp [hcall, hne, hbase]
    · rw [if_neg hne] at hcall
      exact iff_of_true hcall (Or.inl hne)

/-- The only channel of the engine is its default channel, and has no name. -/
def unnamedChannel : UpdateGraph :=
  { channels := [{
      name := ""
      metadata := some ([⟨"datastore", "postgres"⟩, ⟨"default", "true"⟩].toAList)
      edges := [⟨"v1", ["v2"]⟩].toAList
      nodes := [{ id := "v2", tag := "v2", migration := "m1" }, { id := "v1", tag := "v1", migration := "m1" }] }] }

/-- Pin a version. -/
def pin (version : String) : Call :=
  { operatorImageName := "spicedb", clusterBaseImage := "", image := "", version, channel := "", engine := "postgres"
    rolling := false, untagged := by decide }

theorem unnamedChannel_dereferences_nil :
    Chosen unnamedChannel "" "postgres" (some { name := "v1" }) "" ∧
      (unnamedChannel.findChannel "postgres" "").map (fun c => c.nodes.map (·.id)) = some ["v2", "v1"] ∧
      unnamedChannel.call (pin "v9") (some { name := "v1" }) = .error .nilDereference :=
  ⟨Or.inr (Or.inr ⟨rfl, rfl, rfl⟩), rfl, rfl⟩

theorem twoReleases_refuses_unknown :
    ∃ r, twoReleases.call (pin "v9") (some { name := "v1", channel := "stable" }) = .ok r ∧ r.err ≠ none :=
  ((pinned_version_bounds_target twoReleases (pin "v9") { name := "v1", channel := "stable" } (by decide) (by decide)).2
    "stable" _ rfl (Or.inr (Or.inl ⟨rfl, by decide, rfl⟩)) rfl
    ⟨{ id := "v1", tag := "v1", migration := "m1" }, by decide, rfl⟩ (by decide)).2 (Or.inl (by decide))

end UpdateGraph

end SpiceDBOperator
