import SpiceDBOperator.Updates.Accept
import SpiceDBOperator.Updates.Graph
import SpiceDBOperator.Updates.Subgraph

/-!
# What `ComputeTarget` (file.go:224) returns

`Exit` lists the ways in which a call with a source succeeds, one constructor for each `return` of the
source; `targetFrom_ok_iff` is the proof that these are all of them, and that each is taken when its
conditions hold. Statements about `ComputeTarget` are case splits on `Exit` and never open the code.

* `Selects`: the call gets as far as a source; `computeTarget_success` says that a successful call
  without a tag or digest in the image always does.
* `Located`: where the current version was found, in the selected channel or in its own.
-/

namespace SpiceDBOperator

open Golang

namespace MemorySource

/-- `Subgraph(version)`, when it is there. -/
def pinned (m : MemorySource) (version : String) : Option MemorySource :=
  match m.subgraph version with
  | .ok (.ok sub) => some sub
  | _ => none

theorem WF.pinned_isNode {m : MemorySource} (hwf : m.WF) {version : String} (hne : version ≠ "")
    (h : m.IsNode version) :
    ∃ sub, m.pinned version = some sub ∧ m.subgraph version = .ok (.ok sub) ∧ RestrictsTo m version sub := by
  obtain ⟨sub, hsub, hr⟩ := hwf.subgraph_ok hne h
  exact ⟨sub, by simp [pinned, hsub], hsub, hr⟩

theorem WF.pinned_not_isNode {m : MemorySource} (hwf : m.WF) {version : String} (hne : version ≠ "")
    (h : ¬ m.IsNode version) : m.pinned version = none := by
  simp [pinned, hwf.subgraph_missing hne h]

theorem WF.pinned_restrictsTo {m sub : MemorySource} (hwf : m.WF) {version : String} (hne : version ≠ "")
    (h : m.pinned version = some sub) : RestrictsTo m version sub := by
  by_cases hn : m.IsNode version
  · obtain ⟨sub', h', _, hr⟩ := hwf.pinned_isNode hne hn
    rw [h] at h'
    cases h'
    exact hr
  · rw [hwf.pinned_not_isNode hne hn] at h
    cases h

theorem latestVersion_empty (m : MemorySource) : m.latestVersion "" = m.headId := by
  unfold latestVersion headId
  cases m.orderedNodes with
  | nil => rfl
  | cons head rest =>
    simp only [List.head?_cons, Option.map_some, Option.getD_some]
    split_ifs with h
    · exact h
    · rfl

end MemorySource

namespace UpdateGraph

variable {g : UpdateGraph}

/-! ## The source of a call -/

theorem sourceForChannel_ok {engine channel : String} {m : MemorySource} :
    g.sourceForChannel engine channel = .ok (.ok m) ↔
      ∃ c, g.findChannel engine channel = some c ∧ newMemorySource c.nodes c.edges = .ok (.ok m) := by
  unfold sourceForChannel
  cases g.findChannel engine channel with
  | none => simp
  | some c =>
    obtain ⟨r, hr⟩ := newMemorySource_returns c.nodes c.edges
    cases r <;> simp [hr, bind, Except.bind]

theorem sourceForChannel_returns (g : UpdateGraph) (engine channel : String) :
    ∃ r, g.sourceForChannel engine channel = .ok r := by
  unfold sourceForChannel
  cases g.findChannel engine channel with
  | none => exact ⟨_, rfl⟩
  | some c =>
    obtain ⟨r, hr⟩ := newMemorySource_returns c.nodes c.edges
    cases r <;> simp [hr, bind, Except.bind]

theorem sourceForChannel_wf {engine channel : String} {m : MemorySource}
    (h : g.sourceForChannel engine channel = .ok (.ok m)) : m.WF := by
  obtain ⟨c, _, hc⟩ := sourceForChannel_ok.1 h
  exact (newMemorySource_wf hc).2

theorem explodeImage_untagged {image : String} (h : (explodeImage image).2 = ("", "")) :
    explodeImage image = ((explodeImage image).1, "", "") := by
  rw [← h]

/-- An image with a tag or a digest is used as it is (file.go:228). -/
theorem computeTarget_tagged {operatorImageName clusterBaseImage image version channel engine : String}
    {currentVersion : Option SpiceDBVersion} {rolling : Bool} (h : (explodeImage image).2 ≠ ("", "")) :
    g.computeTarget operatorImageName clusterBaseImage image version channel engine currentVersion rolling =
      .ok { baseImage := (explodeImage image).1
            state := { tag := (explodeImage image).2.1, digest := (explodeImage image).2.2 } } := by
  have htagged : (explodeImage image).2.2 ≠ "" ∨ (explodeImage image).2.1 ≠ "" := by
    by_contra hno
    push Not at hno
    exact h (Prod.ext hno.2 hno.1)
  rw [computeTarget]
  simp only [if_pos htagged]

/-- The part of a call before its source is used: no tag or digest in the image, a base image, a channel
with a name, and a source for that channel. -/
structure Selects (g : UpdateGraph) (operatorImageName clusterBaseImage image channel engine : String)
    (currentVersion : Option SpiceDBVersion) (baseImage selected : String) (m : MemorySource) : Prop where
  untagged : (explodeImage image).2 = ("", "")
  base : cmpOr [(explodeImage image).1, clusterBaseImage, operatorImageName] = baseImage
  base_ne : baseImage ≠ ""
  channel : g.selectChannel channel engine currentVersion = .ok selected
  channel_ne : selected ≠ ""
  source : g.sourceForChannel engine selected = .ok (.ok m)

section

variable {operatorImageName clusterBaseImage image version channel engine baseImage selected : String}
  {currentVersion : Option SpiceDBVersion} {rolling : Bool} {m : MemorySource}

theorem Selects.computeTarget_eq
    (h : Selects g operatorImageName clusterBaseImage image channel engine currentVersion baseImage selected m) :
    g.computeTarget operatorImageName clusterBaseImage image version channel engine currentVersion rolling =
      g.targetFrom baseImage version selected engine currentVersion rolling (some m) := by
  obtain ⟨huntag, rfl, hbase, hchan, hne, hsrc⟩ := h
  have hfetch : g.fetchSource engine selected = .ok (.ok (some m)) := by
    simp [fetchSource, hne, hsrc, bind, Except.bind]
  unfold computeTarget
  rw [explodeImage_untagged huntag]
  simp only [ne_eq, not_true_eq_false, or_self, if_false, if_neg hbase, hchan, hfetch, bind, Except.bind]

/-- Without a source every exit is an error or a nil dereference. -/
theorem targetFrom_nil {r : Target} (h : g.targetFrom baseImage version "" engine currentVersion rolling none = .ok r) :
    r.err ≠ none := by
  cases currentVersion with
  | none =>
    by_cases hversion : version = ""
    · cases rolling with
      | true => simp [targetFrom, hversion] at h; simp [← h]
      | false => simp [targetFrom, takeStep, pinSource, deref, hversion, bind, Except.bind] at h
    · simp [targetFrom, deref, hversion, bind, Except.bind] at h
  | some v =>
    simp only [targetFrom, locateCurrent, deref, bind, Except.bind] at h
    split_ifs at h

theorem err_of_failed {err : UpdateError} {r : Target}
    (h : (Except.ok { baseImage, err := some err } : Go Target) = .ok r) : r.err ≠ none := by
  rw [← Except.ok.inj h]
  exact Option.some_ne_none err

/-- **A successful call has a source**, unless the image carries a tag or a digest. -/
theorem computeTarget_success {r : Target} (huntag : (explodeImage image).2 = ("", ""))
    (h : g.computeTarget operatorImageName clusterBaseImage image version channel engine currentVersion rolling = .ok r)
    (hok : r.err = none) :
    ∃ baseImage selected m,
      Selects g operatorImageName clusterBaseImage image channel engine currentVersion baseImage selected m := by
  unfold computeTarget at h
  rw [explodeImage_untagged huntag] at h
  simp only [ne_eq, not_true_eq_false, or_self, if_false] at h
  split_ifs at h with hbase
  · exact absurd hok (err_of_failed h)
  cases hchan : g.selectChannel channel engine currentVersion with
  | error err =>
    rw [hchan] at h
    exact absurd hok (err_of_failed h)
  | ok selected =>
    simp only [hchan, fetchSource] at h
    by_cases hne : selected = ""
    · subst hne
      exact absurd hok (targetFrom_nil (by simpa [bind, Except.bind] using h))
    obtain ⟨src, hsrc⟩ := g.sourceForChannel_returns engine selected
    cases src with
    | error err =>
      simp only [hne, hsrc, bind, Except.bind, ne_eq, not_false_eq_true, if_true] at h
      exact absurd hok (err_of_failed h)
    | ok m => exact ⟨_, selected, m, huntag, rfl, hbase, hchan, hne, hsrc⟩

end

/-! ## Where the current version is -/

/-- The outcome of the current-state part (file.go:293-313): found in the selected channel, or looked up in
its own channel, with the target marked. -/
inductive Located (g : UpdateGraph) (m : MemorySource) (channel engine : String) (v : SpiceDBVersion) :
    State → SpiceDBVersion → Bool → Prop
  | inChannel (hnode : m.IsNode v.name) (hne : v.name ≠ "") :
      Located g m channel engine v (m.nodeState v.name) { v with channel } false
  | elsewhere {own : MemorySource} (hnot : m.IsNode v.name → v.name = "")
      (hown : g.sourceForChannel engine v.channel = .ok (.ok own)) :
      Located g m channel engine v (own.nodeState v.name)
        { v with attributes := v.attributes ++ [SpiceDBVersionAttributes.notInChannel] } true

section

variable {m : MemorySource} {baseImage version channel engine : String} {v : SpiceDBVersion}

theorem locateCurrent_inChannel (hwf : m.WF) (hnode : m.IsNode v.name) (hne : v.name ≠ "") (target : SpiceDBVersion) :
    g.locateCurrent engine (some m) v target = .ok (.ok (m.nodeState v.name, target, false)) := by
  have hid : (m.nodeState v.name).id ≠ "" := MemorySource.nodeState_id_ne.2 ⟨hnode, hne⟩
  simp [locateCurrent, deref, hwf.state_eq, hid, bind, Except.bind]

variable (g engine) in
theorem locateCurrent_elsewhere (hwf : m.WF) (hnot : m.IsNode v.name → v.name = "") (target : SpiceDBVersion) :
    (∃ own, g.sourceForChannel engine v.channel = .ok (.ok own) ∧
      g.locateCurrent engine (some m) v target = .ok (.ok (own.nodeState v.name,
        { target with
          channel := v.channel
          attributes := target.attributes ++ [SpiceDBVersionAttributes.notInChannel] }, true))) ∨
    ∃ err, g.locateCurrent engine (some m) v target = .ok (.error (.fetchSource err)) ∧
      ∀ own, g.sourceForChannel engine v.channel ≠ .ok (.ok own) := by
  have hid : (m.nodeState v.name).id = "" := by
    by_contra h
    exact (MemorySource.nodeState_id_ne.1 h).2 (hnot (MemorySource.nodeState_id_ne.1 h).1)
  obtain ⟨src, hsrc⟩ := g.sourceForChannel_returns engine v.channel
  cases src with
  | error err =>
    right
    exact ⟨err, by simp [locateCurrent, deref, hwf.state_eq, hid, hsrc, bind, Except.bind], by simp [hsrc]⟩
  | ok own =>
    left
    refine ⟨own, hsrc, ?_⟩
    simp [locateCurrent, deref, hwf.state_eq, hid, hsrc, (sourceForChannel_wf hsrc).state_eq, bind, Except.bind]

theorem locateCurrent_ok (hwf : m.WF) {currentState : State} {target : SpiceDBVersion} {notInChannel : Bool} :
    g.locateCurrent engine (some m) v { v with channel } = .ok (.ok (currentState, target, notInChannel)) ↔
      Located g m channel engine v currentState target notInChannel := by
  constructor
  · intro h
    by_cases hnode : m.IsNode v.name ∧ v.name ≠ ""
    · rw [locateCurrent_inChannel hwf hnode.1 hnode.2] at h
      cases h
      exact .inChannel hnode.1 hnode.2
    · have hnot : m.IsNode v.name → v.name = "" := by simpa using hnode
      rcases locateCurrent_elsewhere g engine hwf hnot { v with channel } with
        ⟨own, hown, heq⟩ | ⟨err, heq, _⟩
      · rw [heq] at h
        cases h
        exact .elsewhere hnot hown
      · rw [heq] at h
        cases h
  · rintro (⟨hnode, hne⟩ | ⟨hnot, hown⟩)
    · exact locateCurrent_inChannel hwf hnode hne _
    · rcases locateCurrent_elsewhere g engine hwf hnot { v with channel } with
        ⟨own', hown', heq⟩ | ⟨err, _, hno⟩
      · cases hown.symm.trans hown'
        exact heq
      · exact absurd hown (hno _)

theorem locateCurrent_returns (hwf : m.WF) (target : SpiceDBVersion) :
    ∃ r, g.locateCurrent engine (some m) v target = .ok r := by
  by_cases hnode : m.IsNode v.name ∧ v.name ≠ ""
  · exact ⟨_, locateCurrent_inChannel hwf hnode.1 hnode.2 target⟩
  · rcases locateCurrent_elsewhere g engine hwf (by simpa using hnode) target with
      ⟨_, _, heq⟩ | ⟨_, heq, _⟩
    · exact ⟨_, heq⟩
    · exact ⟨_, heq⟩

/-! ## The step -/

/-- The source a step is taken in (file.go:336-342). -/
def stepSource (m : MemorySource) (version : String) (notInChannel : Bool) : Option MemorySource :=
  if version ≠ "" ∧ notInChannel = false then m.pinned version else some m

/-- It is that of the channel, or its subgraph at the pinned version. -/
theorem stepSource_cases {sub : MemorySource} {notInChannel : Bool} (hwf : m.WF)
    (h : stepSource m version notInChannel = some sub) :
    (version = "" ∨ notInChannel = true) ∧ sub = m ∨
      (version ≠ "" ∧ notInChannel = false) ∧ MemorySource.RestrictsTo m version sub := by
  unfold stepSource at h
  split_ifs at h with hpin
  · exact Or.inr ⟨hpin, hwf.pinned_restrictsTo hpin.1 h⟩
  · refine Or.inl ⟨?_, (Option.some.inj h).symm⟩
    simpa [or_iff_not_imp_left] using hpin

theorem stepSource_restrictsTo {sub : MemorySource} (hwf : m.WF) (h : stepSource m version false = some sub)
    (hversion : version ≠ "") : MemorySource.RestrictsTo m version sub := by
  rcases stepSource_cases hwf h with ⟨hno, _⟩ | ⟨_, hr⟩
  · exact absurd (hno.resolve_right Bool.false_ne_true) hversion
  · exact hr

theorem stepSource_wf {sub : MemorySource} {notInChannel : Bool} (hwf : m.WF)
    (h : stepSource m version notInChannel = some sub) : sub.WF := by
  rcases stepSource_cases hwf h with ⟨_, rfl⟩ | ⟨_, hr⟩
  · exact hwf
  · exact hr.wf

theorem pinSource_some (hwf : m.WF) {notInChannel : Bool} :
    pinSource version (some m) (some v) notInChannel =
      .ok (match stepSource m version notInChannel with
        | none => .error (.notInGraph version)
        | some sub => .ok (some sub)) := by
  unfold pinSource stepSource
  by_cases hpin : version ≠ "" ∧ notInChannel = false
  · rw [if_pos hpin, if_pos ⟨rfl, hpin⟩]
    by_cases hnode : m.IsNode version
    · obtain ⟨sub, hsub, heq, _⟩ := hwf.pinned_isNode hpin.1 hnode
      simp [hsub, heq, deref, bind, Except.bind]
    · simp [hwf.pinned_not_isNode hpin.1 hnode, hwf.subgraph_missing hpin.1 hnode, deref, bind, Except.bind]
  · rw [if_neg hpin, if_neg fun h => hpin h.2]

/-- Node indexes change in a re-rooted source, node contents do not. -/
theorem stepSource_nodeState {sub : MemorySource} {notInChannel : Bool} (hwf : m.WF)
    (h : stepSource m version notInChannel = some sub) {x : String} (hx : sub.IsNode x) :
    sub.nodeState x = m.nodeState x := by
  rcases stepSource_cases hwf h with ⟨_, rfl⟩ | ⟨_, hr⟩
  · rfl
  · exact hr.nodeState_eq hwf hx

/-- The target of a step from `v` in `sub`. -/
def stepTarget (sub : MemorySource) (v target : SpiceDBVersion) : SpiceDBVersion :=
  { target with
    name := sub.nextVersion v.name
    attributes :=
      if sub.nextVersion v.name ≠ sub.directVersion v.name then [SpiceDBVersionAttributes.migration]
      else target.attributes }

/-- The target of an installation at the head. -/
def headTarget (m : MemorySource) (target : SpiceDBVersion) : SpiceDBVersion :=
  { target with name := m.headId, attributes := [SpiceDBVersionAttributes.migration] }

/-- **The last part of `ComputeTarget` (file.go:336-364)**, in terms of the source it uses. -/
theorem takeStep_some (hwf : m.WF) (currentState : State) (target : SpiceDBVersion) (notInChannel : Bool) :
    takeStep baseImage version (some m) (some v) currentState target notInChannel =
      .ok (match stepSource m version notInChannel with
        | none => { baseImage, target := some target, err := some (.noUpdatePath v.name version) }
        | some sub =>
          if v.name = "" then { baseImage, state := sub.nodeState sub.headId, target := some (headTarget sub target) }
          else if sub.nextVersion v.name = "" then { baseImage, target := some target, state := currentState }
          else
            { baseImage, state := sub.nodeState (sub.nextVersion v.name)
              target := some (stepTarget sub v target) }) := by
  unfold takeStep
  rw [pinSource_some hwf]
  cases hstep : stepSource m version notInChannel with
  | none => simp [bind, Except.bind]
  | some sub =>
    have hsub : sub.WF := stepSource_wf hwf hstep
    simp only [bind, Except.bind, deref, Option.map_some, Option.getD_some, hsub.state_eq,
      MemorySource.latestVersion_empty,
      hsub.nextVersionWithoutMigrations_eq]
    by_cases hname : v.name = ""
    · simp only [hname, ne_eq, not_true_eq_false, if_false, if_true, headTarget,
        MemorySource.nodeState_id hsub.headId_isNode]
    · by_cases hnext : sub.nextVersion v.name = ""
      · simp [hname, hnext]
      · simp [hname, hnext, stepTarget, MemorySource.nodeState_id (hsub.nextVersion_isNode hnext)]

theorem takeStep_none (hwf : m.WF) (target : SpiceDBVersion) :
    takeStep baseImage version (some m) none {} target false =
      .ok { baseImage, state := m.nodeState m.headId, target := some (headTarget m target) } := by
  simp [takeStep, pinSource, deref, hwf.state_eq, MemorySource.latestVersion_empty, headTarget,
    MemorySource.nodeState_id hwf.headId_isNode, bind, Except.bind]

/-! ## The exits -/

/-- The successful returns of `ComputeTarget` on a channel with source `m`. -/
inductive Exit (g : UpdateGraph) (m : MemorySource) (baseImage version channel engine : String) :
    Option SpiceDBVersion → Bool → Target → Prop
  /-- An explicit version and nothing installed yet (file.go:277). -/
  | install {cur : Option SpiceDBVersion} {rolling : Bool} (hversion : version ≠ "")
      (hcur : (cur.map (·.name)).getD "" = "") (hnode : m.IsNode version) :
      Exit g m baseImage version channel engine cur rolling
        { baseImage, state := m.nodeState version
          target := some { cur.getD {} with
            channel, name := version, attributes := [SpiceDBVersionAttributes.migration] } }
  /-- Nothing installed, no explicit version: install the head (file.go:356). -/
  | first (hversion : version = "") :
      Exit g m baseImage version channel engine none false
        { baseImage, state := m.nodeState m.headId, target := some (headTarget m { channel }) }
  /-- The explicit version is the current one (file.go:290). -/
  | same {v : SpiceDBVersion} {rolling : Bool} (hname : v.name = version) (hchannel : v.channel = channel) :
      Exit g m baseImage version channel engine (some v) rolling
        { baseImage, target := some v, state := m.nodeState v.name }
  /-- A rollout is in progress (file.go:320). -/
  | rolling {v target : SpiceDBVersion} {currentState : State} {notInChannel : Bool}
      (hmoved : ¬ (v.name = version ∧ v.channel = channel))
      (hloc : Located g m channel engine v currentState target notInChannel) (hid : currentState.id ≠ "") :
      Exit g m baseImage version channel engine (some v) true
        { baseImage, target := some target, state := currentState }
  /-- No next version: stay (file.go:347). -/
  | stay {v target : SpiceDBVersion} {currentState : State} {notInChannel : Bool} {sub : MemorySource}
      (hmoved : ¬ (v.name = version ∧ v.channel = channel)) (hname : v.name ≠ "")
      (hloc : Located g m channel engine v currentState target notInChannel)
      (hsub : stepSource m version notInChannel = some sub) (hnext : sub.nextVersion v.name = "") :
      Exit g m baseImage version channel engine (some v) false
        { baseImage, target := some target, state := currentState }
  /-- The next step (file.go:361). -/
  | step {v target : SpiceDBVersion} {currentState : State} {notInChannel : Bool} {sub : MemorySource}
      (hmoved : ¬ (v.name = version ∧ v.channel = channel)) (hname : v.name ≠ "")
      (hloc : Located g m channel engine v currentState target notInChannel)
      (hsub : stepSource m version notInChannel = some sub) (hnext : sub.nextVersion v.name ≠ "") :
      Exit g m baseImage version channel engine (some v) false
        { baseImage, state := sub.nodeState (sub.nextVersion v.name), target := some (stepTarget sub v target) }
  /-- A current version without a name, in another channel: install the head (file.go:356). -/
  | restart {v target : SpiceDBVersion} {currentState : State} {notInChannel : Bool}
      (hversion : version = "") (hname : v.name = "") (hmoved : v.channel ≠ channel)
      (hloc : Located g m channel engine v currentState target notInChannel) :
      Exit g m baseImage version channel engine (some v) false
        { baseImage, state := m.nodeState m.headId, target := some (headTarget m target) }

theorem Located.id_ne {currentState : State} {target : SpiceDBVersion} {notInChannel : Bool}
    (h : Located g m channel engine v currentState target notInChannel) (hid : currentState.id ≠ "") : v.name ≠ "" := by
  cases h with
  | inChannel _ hne => exact hne
  | elsewhere _ _ => exact (MemorySource.nodeState_id_ne.1 hid).2

/-- Past the exits before it, `targetFrom` is `locateCurrent` and what follows it. -/
theorem targetFrom_located (hchannel : channel ≠ "") {rolling notInChannel : Bool} {currentState : State}
    {target : SpiceDBVersion} (hinstall : ¬ (version ≠ "" ∧ v.name = ""))
    (hmoved : ¬ (v.name = version ∧ v.channel = channel))
    (hl : g.locateCurrent engine (some m) v { v with channel } = .ok (.ok (currentState, target, notInChannel))) :
    g.targetFrom baseImage version channel engine (some v) rolling (some m) =
      rollOrStep baseImage version (some m) v rolling currentState target notInChannel := by
  unfold targetFrom
  simp [hinstall, hmoved, hchannel, hl, bind, Except.bind]

theorem targetFrom_unlocated (hchannel : channel ≠ "") {rolling : Bool} {err : UpdateError}
    (hinstall : ¬ (version ≠ "" ∧ v.name = "")) (hmoved : ¬ (v.name = version ∧ v.channel = channel))
    (hl : g.locateCurrent engine (some m) v { v with channel } = .ok (.error err)) :
    g.targetFrom baseImage version channel engine (some v) rolling (some m) =
      .ok { baseImage, target := some { v with channel }, err := some err } := by
  unfold targetFrom
  simp [hinstall, hmoved, hchannel, hl, bind, Except.bind]

theorem Exit.targetFrom_eq (hwf : m.WF) (hchannel : channel ≠ "") {cur : Option SpiceDBVersion} {rolling : Bool}
    {r : Target} (h : Exit g m baseImage version channel engine cur rolling r) :
    g.targetFrom baseImage version channel engine cur rolling (some m) = .ok r ∧ r.err = none := by
  cases h with
  | install hversion hcur hnode =>
    refine ⟨?_, rfl⟩
    have hid := MemorySource.nodeState_id hnode
    simp [targetFrom, hversion, hcur, hchannel, deref, hwf.state_eq, hid, bind, Except.bind]
  | first hversion =>
    refine ⟨?_, rfl⟩
    simp [targetFrom, hversion, hchannel, takeStep_none hwf]
  | same hname hchan =>
    refine ⟨?_, rfl⟩
    subst hname hchan
    simp [targetFrom, hchannel, deref, hwf.state_eq, bind, Except.bind]
  | rolling hmoved hloc hid =>
    refine ⟨?_, rfl⟩
    rw [targetFrom_located hchannel (fun h => hloc.id_ne hid h.2) hmoved ((locateCurrent_ok hwf).2 hloc)]
    simp [rollOrStep, hid]
  | stay hmoved hname hloc hsub hnext =>
    refine ⟨?_, rfl⟩
    rw [targetFrom_located hchannel (fun h => hname h.2) hmoved ((locateCurrent_ok hwf).2 hloc)]
    simp [rollOrStep, takeStep_some hwf, hsub, hname, hnext]
  | step hmoved hname hloc hsub hnext =>
    refine ⟨?_, rfl⟩
    rw [targetFrom_located hchannel (fun h => hname h.2) hmoved ((locateCurrent_ok hwf).2 hloc)]
    simp [rollOrStep, takeStep_some hwf, hsub, hname, hnext]
  | restart hversion hname hmoved hloc =>
    refine ⟨?_, rfl⟩
    rw [targetFrom_located hchannel (fun h => h.1 hversion) (fun h => hmoved h.2) ((locateCurrent_ok hwf).2 hloc)]
    simp [rollOrStep, takeStep_some hwf, stepSource, hname, hversion]

/-- Once the current version is located: a rollout, or the last part. -/
theorem Located.rollOrStep_exit (hwf : m.WF) {rolling notInChannel : Bool} {currentState : State}
    {target : SpiceDBVersion} {r : Target} (hinstall : ¬ (version ≠ "" ∧ v.name = ""))
    (hmoved : ¬ (v.name = version ∧ v.channel = channel))
    (hloc : Located g m channel engine v currentState target notInChannel)
    (h : rollOrStep baseImage version (some m) v rolling currentState target notInChannel = .ok r)
    (hok : r.err = none) : Exit g m baseImage version channel engine (some v) rolling r := by
  cases rolling with
  | true =>
    simp only [rollOrStep, if_true] at h
    split_ifs at h with hid
    · cases h; cases hok
    · cases h; exact .rolling hmoved hloc hid
  | false =>
    simp only [rollOrStep, Bool.false_eq_true, if_false, takeStep_some hwf] at h
    cases hsub : stepSource m version notInChannel with
    | none => rw [hsub] at h; cases h; cases hok
    | some sub =>
      rw [hsub] at h
      by_cases hname : v.name = ""
      · have hversion : version = "" := by
          by_contra hne
          exact hinstall ⟨hne, hname⟩
        obtain rfl : m = sub := by simpa [stepSource, hversion] using hsub
        simp only [if_pos hname] at h
        cases h
        exact .restart hversion hname (fun hc => hmoved ⟨hname.trans hversion.symm, hc⟩) hloc
      · by_cases hnext : sub.nextVersion v.name = ""
        · simp only [if_neg hname, if_pos hnext] at h
          cases h
          exact .stay hmoved hname hloc hsub hnext
        · simp only [if_neg hname, if_neg hnext] at h
          cases h
          exact .step hmoved hname hloc hsub hnext

theorem targetFrom_exit (hwf : m.WF) (hchannel : channel ≠ "") {cur : Option SpiceDBVersion} {rolling : Bool}
    {r : Target} (h : g.targetFrom baseImage version channel engine cur rolling (some m) = .ok r) (hok : r.err = none) :
    Exit g m baseImage version channel engine cur rolling r := by
  by_cases hinstall : version ≠ "" ∧ (cur.map (·.name)).getD "" = ""
  · simp only [targetFrom, if_pos hinstall, deref, hwf.state_eq, bind, Except.bind] at h
    split_ifs at h with hid
    · cases h; cases hok
    · have hnode := (MemorySource.nodeState_id_ne.1 hid).1
      rw [MemorySource.nodeState_id hnode] at h
      cases h
      exact .install hinstall.1 hinstall.2 hnode
  cases cur with
  | none =>
    have hversion : version = "" := by simpa using hinstall
    cases rolling with
    | true =>
      simp [targetFrom, hversion] at h
      cases h; cases hok
    | false =>
      simp [targetFrom, hversion, hchannel, takeStep_none hwf] at h
      cases h
      exact .first hversion
  | some v =>
    by_cases hmoved : v.name = version ∧ v.channel = channel
    · simp only [targetFrom, if_neg hinstall, if_pos hmoved, deref, hwf.state_eq, bind, Except.bind] at h
      obtain ⟨rfl, rfl⟩ := hmoved
      simp only [Option.getD_some, ne_eq, hchannel, not_false_eq_true, if_true] at h
      cases h
      exact .same rfl rfl
    have hinstall' : ¬ (version ≠ "" ∧ v.name = "") := hinstall
    obtain ⟨l, hl⟩ := locateCurrent_returns (g := g) hwf (v := v) { v with channel }
    rcases l with err | ⟨currentState, target, notInChannel⟩
    · rw [targetFrom_unlocated hchannel hinstall' hmoved hl] at h
      cases h; cases hok
    have hloc := (locateCurrent_ok hwf).1 hl
    rw [targetFrom_located hchannel hinstall' hmoved hl] at h
    exact hloc.rollOrStep_exit hwf hinstall' hmoved h hok

/-- **`ComputeTarget`**, for an image without tag and digest: a successful call selects a source and takes one
of its exits. -/
theorem computeTarget_exit {operatorImageName clusterBaseImage image : String} {cur : Option SpiceDBVersion}
    {rolling : Bool} {r : Target} (huntag : (explodeImage image).2 = ("", ""))
    (h : g.computeTarget operatorImageName clusterBaseImage image version channel engine cur rolling = .ok r)
    (hok : r.err = none) :
    ∃ baseImage selected m,
      Selects g operatorImageName clusterBaseImage image channel engine cur baseImage selected m ∧
        Exit g m baseImage version selected engine cur rolling r := by
  obtain ⟨baseImage, selected, m, hsel⟩ := computeTarget_success huntag h hok
  rw [hsel.computeTarget_eq] at h
  exact ⟨baseImage, selected, m, hsel, targetFrom_exit (sourceForChannel_wf hsel.source) hsel.channel_ne h hok⟩

/-- …and takes every exit whose conditions hold. -/
theorem Selects.computeTarget_of_exit {operatorImageName clusterBaseImage image selected : String}
    {cur : Option SpiceDBVersion} {rolling : Bool} {r : Target}
    (hsel : Selects g operatorImageName clusterBaseImage image channel engine cur baseImage selected m)
    (h : Exit g m baseImage version selected engine cur rolling r) :
    g.computeTarget operatorImageName clusterBaseImage image version channel engine cur rolling = .ok r ∧
      r.err = none := by
  rw [hsel.computeTarget_eq]
  exact h.targetFrom_eq (sourceForChannel_wf hsel.source) hsel.channel_ne

end

end UpdateGraph

end SpiceDBOperator
