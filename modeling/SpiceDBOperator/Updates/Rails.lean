import SpiceDBOperator.Updates.Target

/-!
# Updates stay on the rails

The operator feeds the target of `ComputeTarget` back as the current version of the next call. Along every
such run, whatever happens to the spec in between, the version names follow the edges of the channel each
call selects, do not move during a rollout (`versions_on_rails`), and a step over a migration or phase boundary
is flagged (`required_migration_flagged`).
-/

namespace SpiceDBOperator

open Golang

namespace UpdateGraph

variable {g : UpdateGraph}

/-! ## The selected channel -/

/-- The channel a call selects: `spec.channel`, else the channel of the current version, else the default
channel of the engine. -/
def Chosen (g : UpdateGraph) (channel engine : String) (cur : Option SpiceDBVersion) (selected : String) : Prop :=
  (channel ≠ "" ∧ selected = channel) ∨
  (channel = "" ∧ (cur.map (·.channel)).getD "" ≠ "" ∧ selected = (cur.map (·.channel)).getD "") ∨
  (channel = "" ∧ (cur.map (·.channel)).getD "" = "" ∧ g.defaultChannelForDatastore engine = .ok selected)

theorem selectChannel_ok {channel engine selected : String} {cur : Option SpiceDBVersion} :
    g.selectChannel channel engine cur = .ok selected ↔ Chosen g channel engine cur selected := by
  unfold selectChannel Chosen
  generalize (cur.map (·.channel)).getD "" = own
  by_cases hchannel : channel = ""
  · by_cases hown : own = ""
    · cases g.defaultChannelForDatastore engine <;> simp [hchannel, hown]
    · simp only [if_pos hchannel, if_neg hown, Except.ok.injEq]
      constructor
      · rintro rfl; exact Or.inr (Or.inl ⟨hchannel, hown, rfl⟩)
      · rintro (⟨h, _⟩ | ⟨_, _, h⟩ | ⟨_, h, _⟩)
        · exact absurd hchannel h
        · exact h.symm
        · exact absurd h hown
  · simp only [if_neg hchannel, Except.ok.injEq]
    constructor
    · rintro rfl; exact Or.inl ⟨hchannel, rfl⟩
    · rintro (⟨_, h⟩ | ⟨h, _⟩ | ⟨h, _⟩)
      · exact h.symm
      · exact absurd h hchannel
      · exact absurd h hchannel

theorem Chosen.unique {channel engine selected selected' : String} {cur : Option SpiceDBVersion}
    (h : Chosen g channel engine cur selected) (h' : Chosen g channel engine cur selected') : selected = selected' := by
  have := (selectChannel_ok.2 h).symm.trans (selectChannel_ok.2 h')
  exact Except.ok.inj this

/-! ## What an exit does to the name -/

section

variable {m sub : MemorySource} {baseImage version channel engine : String} {v target : SpiceDBVersion}
  {currentState : State} {notInChannel rolling : Bool}

theorem Located.name_eq (h : Located g m channel engine v currentState target notInChannel) : target.name = v.name := by
  cases h <;> rfl

/-- A step in the re-rooted source is a step in the channel. -/
theorem stepSource_edge (hwf : m.WF) (hsub : stepSource m version notInChannel = some sub) {x y : String}
    (h : sub.Edge x y) : m.Edge x y := by
  rcases stepSource_cases hwf hsub with ⟨_, rfl⟩ | ⟨_, hr⟩
  · exact h
  · exact ((hr.edge_iff x y).1 h).1

theorem Exit.target_some {cur : Option SpiceDBVersion} {r : Target}
    (h : Exit g m baseImage version channel engine cur rolling r) : ∃ t, r.target = some t := by
  cases h <;> exact ⟨_, rfl⟩

theorem Exit.baseImage_eq {cur : Option SpiceDBVersion} {r : Target}
    (h : Exit g m baseImage version channel engine cur rolling r) : r.baseImage = baseImage := by
  cases h <;> rfl

/-- Only the last exit moves a named version, and it follows an edge. -/
theorem Exit.moves (hwf : m.WF) {r : Target} {t : SpiceDBVersion}
    (h : Exit g m baseImage version channel engine (some v) rolling r) (hname : v.name ≠ "") (ht : r.target = some t)
    (hmove : t.name ≠ v.name) : rolling = false ∧ m.Edge v.name t.name := by
  cases h with
  | install _ hcur _ => exact absurd hcur hname
  | same _ _ => cases ht; exact absurd rfl hmove
  | rolling _ hloc _ => cases ht; exact absurd hloc.name_eq hmove
  | stay _ _ hloc _ _ => cases ht; exact absurd hloc.name_eq hmove
  | step _ _ _ hsub hnext =>
    cases ht
    exact ⟨rfl, stepSource_edge hwf hsub (MemorySource.nextVersion_edge hnext)⟩
  | restart _ hempty _ _ => exact absurd hempty hname

/-- A rollout keeps the name, unless an explicit version replaces one that has no name. -/
theorem Exit.idle {r : Target} {t : SpiceDBVersion}
    (h : Exit g m baseImage version channel engine (some v) rolling r) (hguard : v.name ≠ "" ∨ version = "")
    (ht : r.target = some t) (hmove : t.name ≠ v.name) : rolling = false := by
  cases h with
  | install hversion hcur _ => exact absurd hguard (not_or.2 ⟨not_not.2 hcur, hversion⟩)
  | same _ _ => cases ht; exact absurd rfl hmove
  | rolling _ hloc _ => cases ht; exact absurd hloc.name_eq hmove
  | stay _ _ _ _ _ => rfl
  | step _ _ _ _ _ => rfl
  | restart _ _ _ _ => rfl

/-- A version with a name is not followed by one without. -/
theorem Exit.named {r : Target} {t : SpiceDBVersion}
    (h : Exit g m baseImage version channel engine (some v) rolling r) (hname : v.name ≠ "") (ht : r.target = some t) :
    t.name ≠ "" := by
  cases h with
  | install _ hcur _ => exact absurd hcur hname
  | same _ _ => cases ht; exact hname
  | rolling _ hloc _ => cases ht; rw [hloc.name_eq]; exact hname
  | stay _ _ hloc _ _ => cases ht; rw [hloc.name_eq]; exact hname
  | step _ _ _ _ hnext => cases ht; exact hnext
  | restart _ hempty _ _ => exact absurd hempty hname

end

/-! ## Runs -/

/-- The inputs of one call; the image carries no tag and no digest. -/
structure Call where
  operatorImageName : String
  clusterBaseImage : String
  image : String
  version : String
  channel : String
  engine : String
  rolling : Bool
  untagged : (explodeImage image).2 = ("", "")

def call (g : UpdateGraph) (c : Call) (cur : Option SpiceDBVersion) : Go Target :=
  g.computeTarget c.operatorImageName c.clusterBaseImage c.image c.version c.channel c.engine cur c.rolling

/-- The version after a call: its target, or the version before it if the call failed. -/
def feedBack (g : UpdateGraph) (c : Call) (cur : Option SpiceDBVersion) : Option SpiceDBVersion :=
  match g.call c cur with
  | .ok r => if r.err = none then r.target else cur
  | .error _ => cur

def versions (g : UpdateGraph) (calls : Nat → Call) : Nat → Option SpiceDBVersion
  | 0 => none
  | n + 1 => g.feedBack (calls n) (g.versions calls n)

/-- `b` is listed under `a` in the channel this call selects. -/
def OnRails (g : UpdateGraph) (c : Call) (cur : Option SpiceDBVersion) (a b : String) : Prop :=
  ∃ selected channel toSet, Chosen g c.channel c.engine cur selected ∧
    g.findChannel c.engine selected = some channel ∧ channel.edges.lookup a = some toSet ∧ b ∈ toSet

theorem call_moves {c : Call} {v t : SpiceDBVersion} {r : Target} (h : g.call c (some v) = .ok r) (hok : r.err = none)
    (hname : v.name ≠ "") (ht : r.target = some t) (hmove : t.name ≠ v.name) :
    c.rolling = false ∧ OnRails g c (some v) v.name t.name := by
  obtain ⟨baseImage, selected, m, hsel, hexit⟩ := computeTarget_exit c.untagged h hok
  obtain ⟨channel, hfind, hnew⟩ := sourceForChannel_ok.1 hsel.source
  obtain ⟨rfl, hwf⟩ := newMemorySource_wf hnew
  obtain ⟨hroll, toSet, hl, hmem⟩ := hexit.moves hwf hname ht hmove
  exact ⟨hroll, selected, channel, toSet, selectChannel_ok.1 hsel.channel, hfind, hl, hmem⟩

/-- A run never goes back to having no version, and it moves as its calls do. -/
theorem feedBack_moves {c : Call} {v : SpiceDBVersion} (hname : v.name ≠ "") :
    ∃ t, g.feedBack c (some v) = some t ∧
      (t.name = v.name ∨ c.rolling = false ∧ OnRails g c (some v) v.name t.name) := by
  unfold feedBack
  cases h : g.call c (some v) with
  | error _ => exact ⟨v, rfl, Or.inl rfl⟩
  | ok r =>
    by_cases hok : r.err = none
    · obtain ⟨_, _, _, _, hexit⟩ := computeTarget_exit c.untagged h hok
      obtain ⟨t, ht⟩ := hexit.target_some
      refine ⟨t, by simp [hok, ht], ?_⟩
      by_cases hmove : t.name = v.name
      · exact Or.inl hmove
      · exact Or.inr (call_moves h hok hname ht hmove)
    · exact ⟨v, by simp [hok], Or.inl rfl⟩

/-- **Updates stay on the rails.** In a run that starts with no version, a successful call with a current version
named `a` that returns another name `b` was made outside a rollout, and `b` is in the adjacency list of `a` in the
channel the call selected. The names therefore trace a path of the graph, and a rollout in progress freezes them. -/
theorem versions_on_rails (g : UpdateGraph) (calls : Nat → Call) (n : Nat) (v : SpiceDBVersion)
    (hv : g.versions calls n = some v) (hname : v.name ≠ "") :
    (∀ r t, g.call (calls n) (some v) = .ok r → r.err = none → r.target = some t → t.name ≠ v.name →
      (calls n).rolling = false ∧ OnRails g (calls n) (some v) v.name t.name) ∧
    ∃ t, g.versions calls (n + 1) = some t ∧
      ((calls n).rolling = true → t.name = v.name) ∧
      (t.name ≠ v.name → OnRails g (calls n) (some v) v.name t.name) := by
  refine ⟨fun r t h hok ht hmove => call_moves h hok hname ht hmove, ?_⟩
  obtain ⟨t, ht, hmoves⟩ := feedBack_moves (g := g) (c := calls n) hname
  refine ⟨t, by rw [versions, hv, ht], fun hroll => ?_, fun hmove => (hmoves.resolve_left hmove).2⟩
  rcases hmoves with hsame | ⟨hroll', _⟩
  · exact hsame
  · rw [hroll] at hroll'; cases hroll'

/-- A channel whose second release needs a migration. -/
def twoReleases : UpdateGraph :=
  { channels := [{
      name := "stable"
      metadata := some ([⟨"datastore", "postgres"⟩, ⟨"default", "true"⟩].toAList)
      edges := [⟨"v1", ["v2"]⟩].toAList
      nodes := [{ id := "v2", tag := "v2", migration := "m2" }, { id := "v1", tag := "v1", migration := "m1" }] }] }

theorem explodeImage_empty : (explodeImage "").2 = ("", "") := rfl

/-- Install `v1`, then follow the channel. -/
def installThenFollow (n : Nat) : Call :=
  { operatorImageName := "spicedb", clusterBaseImage := "", image := "", channel := "", engine := "postgres"
    version := if n = 0 then "v1" else ""
    rolling := false
    untagged := explodeImage_empty }

theorem twoReleases_on_rails :
    (installThenFollow 1).rolling = false ∧ OnRails twoReleases (installThenFollow 1)
      (some { name := "v1", channel := "stable", attributes := ["migration"] }) "v1" "v2" :=
  (versions_on_rails twoReleases installThenFollow 1 { name := "v1", channel := "stable", attributes := ["migration"] }
    rfl (by decide)).1 _ { name := "v2", channel := "stable", attributes := ["migration"] } rfl rfl rfl (by decide)

/-! ## Migration flags -/

section

variable {m sub : MemorySource} {baseImage version channel engine : String} {v : SpiceDBVersion}

/-- A step that is not flagged needs no migration, also when it is taken in a re-rooted source. -/
theorem unflagged_sameMigration (hwf : m.WF) {notInChannel : Bool}
    (hsub : stepSource m version notInChannel = some sub) (hnext : sub.nextVersion v.name ≠ "")
    (hdirect : sub.nextVersion v.name = sub.directVersion v.name) :
    MemorySource.SameMigration (m.nodeState v.name) (m.nodeState (sub.nextVersion v.name)) := by
  have hsame := MemorySource.directVersion_sameMigration hdirect.symm hnext
  have hedge := (stepSource_wf hwf hsub).edge_isNode (MemorySource.nextVersion_edge hnext)
  rwa [stepSource_nodeState hwf hsub hedge.1, stepSource_nodeState hwf hsub hedge.2] at hsame

theorem Exit.flags (hwf : m.WF) {r : Target} {t : SpiceDBVersion} {rolling : Bool}
    (h : Exit g m baseImage version channel engine (some v) rolling r) (ht : r.target = some t)
    (hmove : t.name ≠ v.name) (hdiffer : ¬ MemorySource.SameMigration (m.nodeState v.name) (m.nodeState t.name)) :
    SpiceDBVersionAttributes.migration ∈ t.attributes := by
  cases h with
  | install _ _ _ => cases ht; simp
  | same _ _ => cases ht; exact absurd rfl hmove
  | rolling _ hloc _ => cases ht; exact absurd hloc.name_eq hmove
  | stay _ _ hloc _ _ => cases ht; exact absurd hloc.name_eq hmove
  | @step _ _ _ _ sub _ _ _ hsub hnext =>
    cases ht
    by_cases hdirect : sub.nextVersion v.name = sub.directVersion v.name
    · exact absurd (unflagged_sameMigration hwf hsub hnext hdirect) hdiffer
    · simp [stepTarget, hdirect]
  | restart _ _ _ _ => cases ht; simp [headTarget]

end

/-- **A required migration is always flagged.** The first installation is flagged, and so is every step between two
nodes of the selected channel with different migrations or phases. -/
theorem required_migration_flagged (g : UpdateGraph) (c : Call) (cur : Option SpiceDBVersion) (r : Target)
    (t : SpiceDBVersion) (hroll : c.rolling = false) (h : g.call c cur = .ok r) (hok : r.err = none)
    (ht : r.target = some t) :
    (cur = none → SpiceDBVersionAttributes.migration ∈ t.attributes) ∧
    ∀ v selected channel n n', cur = some v → Chosen g c.channel c.engine cur selected →
      g.findChannel c.engine selected = some channel → n ∈ channel.nodes → n.id = v.name →
      n' ∈ channel.nodes → n'.id = t.name → t.name ≠ v.name → (n'.migration ≠ n.migration ∨ n'.phase ≠ n.phase) →
      SpiceDBVersionAttributes.migration ∈ t.attributes := by
  obtain ⟨baseImage, selected, m, hsel, hexit⟩ := computeTarget_exit c.untagged h hok
  obtain ⟨channel, hfind, hnew⟩ := sourceForChannel_ok.1 hsel.source
  obtain ⟨rfl, hwf⟩ := newMemorySource_wf hnew
  rw [hroll] at hexit
  constructor
  · rintro rfl
    cases hexit with
    | install _ _ _ => cases ht; simp
    | first _ => cases ht; simp [headTarget]
  · rintro v selected' channel' n n' rfl hchosen hfind' hn hid hn' hid' hmove hdiffer
    obtain rfl := hchosen.unique (selectChannel_ok.1 hsel.channel)
    cases hfind.symm.trans hfind'
    refine hexit.flags hwf ht hmove fun hsame => ?_
    rw [← hid, ← hid', hwf.nodeState_eq hn, hwf.nodeState_eq hn'] at hsame
    rcases hdiffer with hd | hd
    · exact hd hsame.2.symm
    · exact hd hsame.1.symm

theorem twoReleases_flagged :
    ∃ r t, twoReleases.call (installThenFollow 1) (some { name := "v1", channel := "stable" }) = .ok r ∧
      r.target = some t ∧ t.name = "v2" ∧ SpiceDBVersionAttributes.migration ∈ t.attributes :=
  ⟨_, { name := "v2", channel := "stable", attributes := ["migration"] }, rfl, rfl, rfl,
    (required_migration_flagged twoReleases (installThenFollow 1) _ _ _ rfl rfl rfl rfl).2
      { name := "v1", channel := "stable" } "stable" _ { id := "v1", tag := "v1", migration := "m1" }
      { id := "v2", tag := "v2", migration := "m2" } rfl (Or.inr (Or.inl ⟨rfl, by decide, rfl⟩)) rfl
      (by decide) rfl (by decide) rfl (by decide) (Or.inl (by decide))⟩

end UpdateGraph

end SpiceDBOperator
