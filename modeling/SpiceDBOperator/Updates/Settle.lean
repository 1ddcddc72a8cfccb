import SpiceDBOperator.Updates.Rails

/-!
# Repeating `ComputeTarget`

The target of a call is stored in the status and becomes the current version of the next call, and it is hashed into
the migration hash. Two questions about this loop when no step is taken:

* does a second call return what the first returned (`settles_iff`)? It does, except while the current version is
  missing in the selected channel: that path appends `notInDesiredChannel` to the attributes on every call.
* is a rollout in progress immune to edits of the version and the channel (`rolling_same_iff`)? The selected channel
  is written into the target before the rollout check, so an edit of the channel shows.
-/

namespace SpiceDBOperator

open Golang

namespace UpdateGraph

variable {g : UpdateGraph}

/-- Equal in everything the operator compares. -/
def SameTarget (a b : Option SpiceDBVersion) : Prop :=
  ∃ x y, a = some x ∧ b = some y ∧ x.name = y.name ∧ x.channel = y.channel ∧ x.attributes = y.attributes

theorem sameTarget_some {x y : SpiceDBVersion} :
    SameTarget (some x) (some y) ↔ x.name = y.name ∧ x.channel = y.channel ∧ x.attributes = y.attributes := by
  constructor
  · rintro ⟨_, _, hx, hy, h⟩
    cases hx
    cases hy
    exact h
  · intro h; exact ⟨x, y, rfl, rfl, h⟩

/-- The channel has a node with this name. -/
def Offers (g : UpdateGraph) (engine channel name : String) : Prop :=
  ∃ c, g.findChannel engine channel = some c ∧ ∃ n ∈ c.nodes, n.id = name

theorem offers_iff {engine channel name : String} {m : MemorySource}
    (h : g.sourceForChannel engine channel = .ok (.ok m)) : Offers g engine channel name ↔ m.IsNode name := by
  obtain ⟨c, hfind, hnew⟩ := sourceForChannel_ok.1 h
  obtain ⟨rfl, _⟩ := newMemorySource_wf hnew
  constructor
  · rintro ⟨c', hfind', hn⟩
    cases hfind.symm.trans hfind'
    exact hn
  · intro hn; exact ⟨c, hfind, hn⟩

/-! ## The second call -/

section

variable {operatorImageName clusterBaseImage image baseImage version channel engine selected : String}
  {m : MemorySource} {v t : SpiceDBVersion} {rolling : Bool} {r : Target}

/-- The second call selects the same source. -/
theorem Selects.again
    (h : Selects g operatorImageName clusterBaseImage image channel engine (some v) baseImage selected m)
    (ht : t.channel = selected ∨ t.channel = v.channel) :
    Selects g operatorImageName clusterBaseImage image channel engine (some t) baseImage selected m := by
  refine ⟨h.untagged, h.base, h.base_ne, selectChannel_ok.2 ?_, h.channel_ne, h.source⟩
  have hchosen := selectChannel_ok.1 h.channel
  rcases ht with ht | ht
  · rcases hchosen with hc | ⟨hc, _⟩ | ⟨hc, _⟩
    · exact Or.inl hc
    · exact Or.inr (Or.inl ⟨hc, by simpa [ht] using h.channel_ne, by simp [ht]⟩)
    · exact Or.inr (Or.inl ⟨hc, by simpa [ht] using h.channel_ne, by simp [ht]⟩)
  · simpa [Chosen, ht] using hchosen

/-- A loop step settles: the second time it changes nothing. -/
theorem stepTarget_loop {sub : MemorySource} (hloop : sub.nextVersion v.name = v.name) (u : SpiceDBVersion) :
    stepTarget sub (stepTarget sub v u) { stepTarget sub v u with channel := u.channel } = stepTarget sub v u := by
  simp only [stepTarget, hloop]
  split_ifs <;> rfl

theorem headTarget_again (m : MemorySource) (u : SpiceDBVersion) :
    headTarget m { headTarget m u with
      attributes := (headTarget m u).attributes ++ [SpiceDBVersionAttributes.notInChannel] } = headTarget m u :=
  rfl

/-- After a loop step at a node of the channel, the second call is the same step. -/
theorem loop_again {sub : MemorySource} (hwf : m.WF) (hnode : m.IsNode v.name) (hne : v.name ≠ "")
    (hsub : stepSource m version false = some sub) (hnext : sub.nextVersion v.name ≠ "")
    (hloop : sub.nextVersion v.name = v.name) :
    Exit g m baseImage version selected engine (some (stepTarget sub v { v with channel := selected })) false
      { baseImage, state := sub.nodeState (sub.nextVersion v.name)
        target := some (stepTarget sub v { v with channel := selected }) } := by
  have hfix := stepTarget_loop hloop { v with channel := selected }
  have hchannel : (stepTarget sub v { v with channel := selected }).channel = selected := rfl
  have hname : (stepTarget sub v { v with channel := selected }).name = v.name := hloop
  generalize stepTarget sub v { v with channel := selected } = t at hname hfix hchannel
  rw [← hname] at hloop hne hnode
  have hstate : sub.nodeState (sub.nextVersion v.name) = m.nodeState t.name := by
    rw [stepSource_nodeState hwf hsub ((stepSource_wf hwf hsub).nextVersion_isNode hnext), ← hname, hloop]
  by_cases hversion : t.name = version
  · rw [hstate]
    exact .same hversion hchannel
  · have hexit : Exit g m baseImage version selected engine (some t) false _ :=
      .step (fun h => hversion h.1) hne (.inChannel hnode hne) hsub (by rw [hloop]; exact hne)
    rwa [hfix, hname] at hexit

/-- After an installation of a head without a name in another channel, the second call is the same installation. -/
theorem restart_again {own : MemorySource} (hversion : version = "") (hmoved : v.channel ≠ selected)
    (hown : g.sourceForChannel engine v.channel = .ok (.ok own)) (hhead : m.headId = "") :
    let t := headTarget m { v with attributes := v.attributes ++ [SpiceDBVersionAttributes.notInChannel] }
    Exit g m baseImage version selected engine (some t) false
      { baseImage, state := m.nodeState m.headId, target := some t } := by
  intro t
  have hfix : headTarget m { t with attributes := t.attributes ++ [SpiceDBVersionAttributes.notInChannel] } = t :=
    headTarget_again m _
  have hchannel : t.channel = v.channel := rfl
  have hname : t.name = "" := hhead
  generalize t = t at hname hfix hchannel
  rw [← hchannel] at hown hmoved
  have hexit : Exit g m baseImage version selected engine (some t) false _ :=
    .restart hversion hname hmoved (.elsewhere (fun _ => hname) hown)
  rwa [hfix] at hexit

/-- A second call with the target of the first: it returns the same, or it marks the target once more. -/
theorem Exit.again (hwf : m.WF) (h : Exit g m baseImage version selected engine (some v) rolling r)
    (ht : r.target = some t) (hname : t.name = v.name) :
    (t.channel = selected ∨ t.channel = v.channel) ∧
    (((v.name = "" ∨ (v.name = version ∧ v.channel = selected) ∨ m.IsNode v.name) ∧
        Exit g m baseImage version selected engine (some t) rolling r) ∨
      (¬ (v.name = "" ∨ (v.name = version ∧ v.channel = selected) ∨ m.IsNode v.name) ∧
        ∃ r' t', Exit g m baseImage version selected engine (some t) rolling r' ∧ r'.target = some t' ∧
          t'.attributes = t.attributes ++ [SpiceDBVersionAttributes.notInChannel])) := by
  have hmarked : v.name ≠ "" → ¬ (v.name = version ∧ v.channel = selected) → (m.IsNode v.name → v.name = "") →
      ¬ (v.name = "" ∨ (v.name = version ∧ v.channel = selected) ∨ m.IsNode v.name) := by
    rintro hne hmoved hnot (h | h | h)
    · exact hne h
    · exact hmoved h
    · exact hne (hnot h)
  cases h with
  | install hversion hcur _ =>
    cases ht
    exact absurd (hname.trans hcur) hversion
  | same hversion hchannel =>
    cases ht
    exact ⟨Or.inr rfl, Or.inl ⟨Or.inr (Or.inl ⟨hversion, hchannel⟩), .same hversion hchannel⟩⟩
  | rolling hmoved hloc hid =>
    cases ht
    cases hloc with
    | inChannel hnode hne =>
      refine ⟨Or.inl rfl, Or.inl ⟨Or.inr (Or.inr hnode), ?_⟩⟩
      by_cases hversion : v.name = version
      · exact .same hversion rfl
      · exact .rolling (fun h => hversion h.1) (.inChannel hnode hne) hid
    | elsewhere hnot hown =>
      have hne := (MemorySource.nodeState_id_ne.1 hid).2
      exact ⟨Or.inr rfl, Or.inr ⟨hmarked hne hmoved hnot, _, _, .rolling hmoved (.elsewhere hnot hown) hid, rfl, rfl⟩⟩
  | stay hmoved hne hloc hsub hnext =>
    cases ht
    cases hloc with
    | inChannel hnode _ =>
      refine ⟨Or.inl rfl, Or.inl ⟨Or.inr (Or.inr hnode), ?_⟩⟩
      by_cases hversion : v.name = version
      · exact .same hversion rfl
      · exact .stay (fun h => hversion h.1) hne (.inChannel hnode hne) hsub hnext
    | elsewhere hnot hown =>
      exact ⟨Or.inr rfl, Or.inr ⟨hmarked hne hmoved hnot, _, _, .stay hmoved hne (.elsewhere hnot hown) hsub hnext,
        rfl, rfl⟩⟩
  | step hmoved hne hloc hsub hnext =>
    cases ht
    -- the step is a loop at a node of the channel
    have hnode : m.IsNode v.name :=
      (hwf.edge_isNode (stepSource_edge hwf hsub (MemorySource.nextVersion_edge hnext))).1
    cases hloc with
    | elsewhere hnot _ => exact absurd (hnot hnode) hne
    | inChannel _ _ => exact ⟨Or.inl rfl, Or.inl ⟨Or.inr (Or.inr hnode), loop_again hwf hnode hne hsub hnext hname⟩⟩
  | restart hversion hempty hmoved hloc =>
    cases ht
    cases hloc with
    | inChannel _ hne => exact absurd hempty hne
    | elsewhere hnot hown =>
      exact ⟨Or.inr rfl, Or.inl ⟨Or.inl hempty, restart_again hversion hmoved hown (hname.trans hempty)⟩⟩

end

/-- The inputs for which a call without a step is repeated faithfully: the current version is a node of the selected
channel, or it is the pinned version of that very channel, or it has no name. -/
def Settles (g : UpdateGraph) (c : Call) (v : SpiceDBVersion) : Prop :=
  v.name = "" ∨ ∃ selected, Chosen g c.channel c.engine (some v) selected ∧
    ((v.name = c.version ∧ v.channel = selected) ∨ Offers g c.engine selected v.name)

/-- **When `ComputeTarget` settles.** After a successful call that takes no step, a second call with its target as
current version succeeds with the same base image, state and target exactly for the inputs in `Settles`; for all
others the attribute list grows with every call. -/
theorem settles_iff (g : UpdateGraph) (c : Call) (v t : SpiceDBVersion) (r : Target)
    (h : g.call c (some v) = .ok r) (hok : r.err = none) (ht : r.target = some t) (hname : t.name = v.name) :
    (∃ r', g.call c (some t) = .ok r' ∧ r'.err = none ∧ r'.baseImage = r.baseImage ∧ r'.state = r.state ∧
      SameTarget r'.target (some t)) ↔ Settles g c v := by
  obtain ⟨baseImage, selected, m, hsel, hexit⟩ := computeTarget_exit c.untagged h hok
  have hwf := sourceForChannel_wf hsel.source
  have hchosen := selectChannel_ok.1 hsel.channel
  -- the condition, in terms of the source of this call
  have hcond : Settles g c v ↔ v.name = "" ∨ (v.name = c.version ∧ v.channel = selected) ∨ m.IsNode v.name := by
    unfold Settles
    refine or_congr_right ⟨?_, fun h => ⟨selected, hchosen, ?_⟩⟩
    · rintro ⟨selected', hchosen', h⟩
      obtain rfl := hchosen'.unique hchosen
      rwa [offers_iff hsel.source] at h
    · rwa [offers_iff hsel.source]
  obtain ⟨htc, hagain⟩ := hexit.again hwf ht hname
  have hsel' := hsel.again htc
  rw [hcond]
  rcases hagain with ⟨hyes, hexit'⟩ | ⟨hno, r', t', hexit', ht', hattr⟩
  · obtain ⟨hcall, hok'⟩ := hsel'.computeTarget_of_exit hexit'
    refine ⟨fun _ => hyes, fun _ => ⟨r, hcall, hok', rfl, rfl, t, t, ht, rfl, rfl, rfl, rfl⟩⟩
  · obtain ⟨hcall, _⟩ := hsel'.computeTarget_of_exit hexit'
    refine ⟨?_, fun h => absurd h hno⟩
    rintro ⟨r'', hcall', _, _, _, x, y, hx, hy, _, _, hxy⟩
    obtain rfl : r' = r'' := Except.ok.inj (hcall.symm.trans hcall')
    cases hy
    obtain rfl : t' = x := Option.some.inj (ht'.symm.trans hx)
    rw [hattr] at hxy
    simpa using congrArg List.length hxy

/-- Two channels; only `stable` has `v1`. -/
def twoChannels : UpdateGraph :=
  { channels := [
      { name := "stable"
        metadata := some ([⟨"datastore", "postgres"⟩, ⟨"default", "true"⟩].toAList)
        edges := [⟨"v1", ["v2"]⟩].toAList
        nodes := [{ id := "v2", tag := "v2" }, { id := "v1", tag := "v1" }] },
      { name := "beta"
        metadata := some ([⟨"datastore", "postgres"⟩].toAList)
        edges := [⟨"v2", ["v3"]⟩].toAList
        nodes := [{ id := "v3", tag := "v3" }, { id := "v2", tag := "v2" }] }] }

def followChannel (channel : String) (rolling : Bool) : Call :=
  { operatorImageName := "spicedb", clusterBaseImage := "", image := "", version := "", channel, engine := "postgres"
    rolling, untagged := explodeImage_empty }

theorem settles_in_channel :
    ∃ r', twoChannels.call (followChannel "stable" true) (some { name := "v1", channel := "stable" }) = .ok r' ∧
      r'.err = none ∧ r'.baseImage = "spicedb" ∧ r'.state = { id := "v1", tag := "v1" } ∧
      SameTarget r'.target (some { name := "v1", channel := "stable" }) :=
  (settles_iff twoChannels (followChannel "stable" true) { name := "v1", channel := "stable" }
    { name := "v1", channel := "stable" } _ rfl rfl rfl rfl).2
    (Or.inr ⟨"stable", Or.inl ⟨by decide, rfl⟩, Or.inr ⟨_, rfl, { id := "v1", tag := "v1" }, by decide, rfl⟩⟩)

/-- Following `beta` from `v1` takes no step and never settles. -/
theorem missing_in_channel_never_settles :
    ∃ r t, twoChannels.call (followChannel "beta" false) (some { name := "v1", channel := "stable" }) = .ok r ∧
      r.err = none ∧ r.target = some t ∧ t.name = "v1" ∧
      ∃ r' t', twoChannels.call (followChannel "beta" false) (some t) = .ok r' ∧ r'.err = none ∧ r'.target = some t' ∧
        t.attributes = ["notInDesiredChannel"] ∧ t'.attributes = ["notInDesiredChannel", "notInDesiredChannel"] ∧
        ¬ SameTarget r'.target (some t) := by
  refine ⟨_, _, rfl, rfl, rfl, rfl, _, _, rfl, rfl, rfl, rfl, rfl, ?_⟩
  rintro ⟨x, y, hx, hy, _, _, hattr⟩
  cases hx
  cases hy
  exact absurd hattr (by decide)

/-! ## Edits during a rollout -/

section

variable {baseImage version engine selected : String} {m : MemorySource} {v : SpiceDBVersion} {r : Target}

/-- What a call returns during a rollout depends on the selected channel alone. -/
theorem Exit.during_rollout (hsrc : g.sourceForChannel engine selected = .ok (.ok m)) (hne : v.name ≠ "")
    (h : Exit g m baseImage version selected engine (some v) true r) :
    ((selected = v.channel ∨ m.IsNode v.name) ∧ r.target = some { v with channel := selected } ∧
      r.state = m.nodeState v.name) ∨
    (¬ (selected = v.channel ∨ m.IsNode v.name) ∧ ∃ own, g.sourceForChannel engine v.channel = .ok (.ok own) ∧
      r.target = some { v with attributes := v.attributes ++ [SpiceDBVersionAttributes.notInChannel] } ∧
      r.state = own.nodeState v.name) := by
  cases h with
  | install _ hcur _ => exact absurd hcur hne
  | same _ hchannel =>
    subst hchannel
    exact Or.inl ⟨Or.inl rfl, rfl, rfl⟩
  | rolling _ hloc hid =>
    cases hloc with
    | inChannel hnode _ => exact Or.inl ⟨Or.inr hnode, rfl, rfl⟩
    | elsewhere hnot hown =>
      have hmissing : ¬ m.IsNode v.name := fun h => hne (hnot h)
      refine Or.inr ⟨?_, _, hown, rfl, rfl⟩
      -- in its own channel the version would have been found
      rintro (rfl | hnode)
      · cases hsrc.symm.trans hown
        exact hmissing (MemorySource.nodeState_id_ne.1 hid).1
      · exact hmissing hnode

end

/-- The same call with another version and channel in the spec. -/
def Call.edit (c : Call) (version channel : String) : Call := { c with version, channel }

/-- Edits of the channel that a rollout does not see: they select the same channel, or two channels that both differ
from the channel of the current version and do not have that version. -/
def EditUnseen (g : UpdateGraph) (engine : String) (v : SpiceDBVersion) (channel₁ channel₂ : String) : Prop :=
  ∃ selected₁ selected₂, Chosen g channel₁ engine (some v) selected₁ ∧ Chosen g channel₂ engine (some v) selected₂ ∧
    (selected₁ = selected₂ ∨
      (selected₁ ≠ v.channel ∧ selected₂ ≠ v.channel ∧ ¬ Offers g engine selected₁ v.name ∧
        ¬ Offers g engine selected₂ v.name))

/-- **Edits during a rollout.** With `rolling` set, two successful calls that differ in the version and the channel of
the spec return the same state and target exactly when the channel edit is unseen. Edits of the version alone never
show. -/
theorem rolling_same_iff (g : UpdateGraph) (c : Call) (v : SpiceDBVersion)
    (version₁ channel₁ version₂ channel₂ : String) (r₁ r₂ : Target) (hroll : c.rolling = true) (hne : v.name ≠ "")
    (h₁ : g.call (c.edit version₁ channel₁) (some v) = .ok r₁) (hok₁ : r₁.err = none)
    (h₂ : g.call (c.edit version₂ channel₂) (some v) = .ok r₂) (hok₂ : r₂.err = none) :
    (r₁.state = r₂.state ∧ SameTarget r₁.target r₂.target) ↔ EditUnseen g c.engine v channel₁ channel₂ := by
  obtain ⟨_, selected₁, m₁, hsel₁, hexit₁⟩ := computeTarget_exit c.untagged h₁ hok₁
  obtain ⟨_, selected₂, m₂, hsel₂, hexit₂⟩ := computeTarget_exit c.untagged h₂ hok₂
  have hchosen₁ := selectChannel_ok.1 hsel₁.channel
  have hchosen₂ := selectChannel_ok.1 hsel₂.channel
  have hcond : EditUnseen g c.engine v channel₁ channel₂ ↔ selected₁ = selected₂ ∨
      (¬ (selected₁ = v.channel ∨ m₁.IsNode v.name) ∧ ¬ (selected₂ = v.channel ∨ m₂.IsNode v.name)) := by
    rw [← offers_iff hsel₁.source, ← offers_iff hsel₂.source, not_or, not_or]
    constructor
    · rintro ⟨s₁, s₂, hs₁, hs₂, h⟩
      obtain rfl := hs₁.unique hchosen₁
      obtain rfl := hs₂.unique hchosen₂
      exact h.imp_right fun ⟨ho₁, ho₂, hn₁, hn₂⟩ => ⟨⟨ho₁, hn₁⟩, ho₂, hn₂⟩
    · intro h
      exact ⟨selected₁, selected₂, hchosen₁, hchosen₂, h.imp_right fun ⟨⟨ho₁, hn₁⟩, ho₂, hn₂⟩ => ⟨ho₁, ho₂, hn₁, hn₂⟩⟩
  have hsource : selected₁ = selected₂ → m₁ = m₂ := by
    rintro rfl
    cases hsel₁.source.symm.trans hsel₂.source
    rfl
  rw [hcond]
  rw [show (c.edit version₁ channel₁).rolling = true from hroll] at hexit₁
  rw [show (c.edit version₂ channel₂).rolling = true from hroll] at hexit₂
  -- the version is found or missing in each selected channel; only a missing one is marked in the attributes
  rcases hexit₁.during_rollout hsel₁.source hne with ⟨hfound₁, ht₁, hs₁⟩ | ⟨hmissing₁, own₁, hsrc₁, ht₁, hs₁⟩ <;>
    rcases hexit₂.during_rollout hsel₂.source hne with ⟨hfound₂, ht₂, hs₂⟩ | ⟨hmissing₂, own₂, hsrc₂, ht₂, hs₂⟩ <;>
    rw [ht₁, ht₂, hs₁, hs₂, sameTarget_some]
  · refine ⟨fun h => Or.inl h.2.2.1, ?_⟩
    rintro (h | h)
    · rw [hsource h]
      exact ⟨rfl, rfl, h, rfl⟩
    · exact absurd hfound₁ h.1
  · refine ⟨fun h => by simpa using h.2.2.2, ?_⟩
    rintro (h | h)
    · rw [h, hsource h] at hfound₁
      exact absurd hfound₁ hmissing₂
    · exact absurd hfound₁ h.1
  · refine ⟨fun h => by simpa using h.2.2.2, ?_⟩
    rintro (h | h)
    · rw [← h, ← hsource h] at hfound₂
      exact absurd hfound₂ hmissing₁
    · exact absurd hfound₂ h.2
  · cases hsrc₁.symm.trans hsrc₂
    exact ⟨fun _ => Or.inr ⟨hmissing₁, hmissing₂⟩, fun _ => ⟨rfl, rfl, rfl, rfl⟩⟩

/-- Re-pinning during a rollout shows nowhere. -/
theorem rolling_repin_unseen :
    ∃ r₁ r₂, twoChannels.call ((followChannel "" true).edit "v1" "stable")
      (some { name := "v2", channel := "stable" }) =
        .ok r₁ ∧
      twoChannels.call ((followChannel "" true).edit "v2" "stable") (some { name := "v2", channel := "stable" }) =
        .ok r₂ ∧ r₁.state = r₂.state ∧ SameTarget r₁.target r₂.target :=
  ⟨_, _, rfl, rfl, (rolling_same_iff twoChannels (followChannel "" true) { name := "v2", channel := "stable" }
    "v1" "stable" "v2" "stable" _ _ rfl (by decide) rfl rfl rfl rfl).2
    ⟨"stable", "stable", Or.inl ⟨by decide, rfl⟩, Or.inl ⟨by decide, rfl⟩, Or.inl rfl⟩⟩

/-- Switching the channel during a rollout of `v2` changes the target, and with it the migration hash. -/
theorem rolling_channel_switch_seen :
    ∃ r₁ r₂, twoChannels.call ((followChannel "" true).edit "" "stable") (some { name := "v2", channel := "stable" }) =
        .ok r₁ ∧ r₁.err = none ∧
      twoChannels.call ((followChannel "" true).edit "" "beta") (some { name := "v2", channel := "stable" }) = .ok r₂ ∧
        r₂.err = none ∧ ¬ SameTarget r₁.target r₂.target := by
  refine ⟨_, _, rfl, rfl, rfl, rfl, ?_⟩
  rw [sameTarget_some]
  intro h
  exact absurd h.2.1 (by decide)

end UpdateGraph

end SpiceDBOperator
