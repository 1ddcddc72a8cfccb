import SpiceDBOperator.Updates.Available

/-!
# Letter case in `AvailableVersions` (file.go:128)

`SourceForChannel` and `DefaultChannelForDatastore` compare names with `strings.EqualFold`; the loop over the other
channels compares them with `==` (file.go:178, :181). The own channel is therefore found in any spelling
(`sourceForChannel_recased`), while what is listed beside it depends on the spelling: `spelled` are the channels that
get past the two comparisons, and `recased_iff` says that two spellings agree exactly when these are the same.
-/

namespace SpiceDBOperator

open Golang

namespace UpdateGraph

variable {g : UpdateGraph} {engine engine' channel channel' : String} {v : SpiceDBVersion}

/-! ## Lookups fold case -/

theorem equalFold_congr {s t : String} (h : equalFold s t = true) (x : String) : equalFold x s = equalFold x t := by
  simp only [equalFold, beq_iff_eq] at h ⊢
  rw [h]

theorem findChannel_recased (hengine : equalFold engine engine' = true) (hchannel : equalFold channel channel' = true) :
    g.findChannel engine channel = g.findChannel engine' channel' := by
  simp only [findChannel, equalFold_congr hengine, equalFold_congr hchannel]

theorem sourceForChannel_recased (hengine : equalFold engine engine' = true)
    (hchannel : equalFold channel channel' = true) {m : MemorySource} :
    g.sourceForChannel engine channel = .ok (.ok m) ↔ g.sourceForChannel engine' channel' = .ok (.ok m) := by
  rw [sourceForChannel_ok, sourceForChannel_ok, findChannel_recased hengine hchannel]

/-! ## The loop over the other channels -/

/-- The safest update from `name` in a channel, whatever the comparisons before it say. -/
def offer (g : UpdateGraph) (engine name channel : String) : Option SpiceDBVersion :=
  match g.sourceForChannel engine channel with
  | .ok (.ok m) =>
    if m.directVersion name ≠ "" then
      some { name := m.directVersion name, channel, attributes := [SpiceDBVersionAttributes.next]
             description := "direct update with no migrations, different channel" }
    else if m.nextVersion name ≠ "" then
      some { name := m.nextVersion name, channel
             attributes := [SpiceDBVersionAttributes.next, SpiceDBVersionAttributes.migration]
             description := "update will run a migration, different channel" }
    else none
  | _ => none

theorem offer_recased (hengine : equalFold engine engine' = true) (name channel : String) :
    g.offer engine name channel = g.offer engine' name channel := by
  have hsource := fun m => sourceForChannel_recased (g := g) (m := m) hengine (equalFold_refl channel)
  obtain ⟨r, hr⟩ := g.sourceForChannel_returns engine channel
  obtain ⟨r', hr'⟩ := g.sourceForChannel_returns engine' channel
  rcases r with err | m
  · rcases r' with err' | m'
    · simp only [offer, hr, hr']
    · rw [(hsource m').2 hr'] at hr
      cases hr
  · simp only [offer, hr, (hsource m).1 hr]

theorem offer_channel {name : String} {w : SpiceDBVersion} (h : g.offer engine name channel = some w) :
    w.channel = channel := by
  unfold offer at h
  split at h
  · split_ifs at h
    · cases h; rfl
    · cases h; rfl
  · cases h

/-- The channel gets past the comparisons of the loop, which are exact. -/
def Spelled (engine channel : String) (c : Channel) : Prop := c.name ≠ channel ∧ c.metadataValue "datastore" = engine

instance (engine channel : String) (c : Channel) : Decidable (Spelled engine channel c) :=
  inferInstanceAs (Decidable (_ ∧ _))

theorem otherChannelVersion_eq (g : UpdateGraph) (engine : String) (v : SpiceDBVersion) (c : Channel) :
    g.otherChannelVersion engine v c =
      .ok (if Spelled engine v.channel c then g.offer engine v.name c.name else none) := by
  unfold otherChannelVersion
  by_cases hspelled : Spelled engine v.channel c
  swap
  · have hskip : c.name = v.channel ∨ c.metadataValue "datastore" ≠ engine := by
      rw [Spelled] at hspelled
      tauto
    rw [if_pos hskip, if_neg hspelled]
  · have hpass : ¬ (c.name = v.channel ∨ c.metadataValue "datastore" ≠ engine) := by
      obtain ⟨hname, hdatastore⟩ := hspelled
      tauto
    rw [if_neg hpass, if_pos hspelled, offer]
    obtain ⟨source, hsource⟩ := g.sourceForChannel_returns engine c.name
    cases source with
    | error err => simp [hsource, bind, Except.bind]
    | ok m =>
      simp only [hsource, (sourceForChannel_wf hsource).nextVersionWithoutMigrations_eq, bind, Except.bind]
      split_ifs <;> rfl

/-- The names of the other channels that are listed: spelled right, and with an update from the current version. -/
def spelled (g : UpdateGraph) (engine : String) (v : SpiceDBVersion) : List String :=
  (g.channels.filter fun c => Spelled engine v.channel c ∧ (g.offer engine v.name c.name).isSome).map (·.name)

/-- What the loop appends is determined by those names. -/
theorem others_eq (g : UpdateGraph) (engine : String) (v : SpiceDBVersion) :
    g.channels.flatMap (fun c => (if Spelled engine v.channel c then g.offer engine v.name c.name else none).toList) =
      (g.spelled engine v).filterMap (g.offer engine v.name) := by
  unfold spelled
  induction g.channels with
  | nil => rfl
  | cons c rest ih =>
    rw [List.flatMap_cons, ih, List.filter_cons]
    by_cases hspelled : Spelled engine v.channel c
    · cases hoffer : g.offer engine v.name c.name <;> simp [hspelled, hoffer]
    · simp [hspelled]

theorem filterMap_offer_channels {name : String} (names : List String)
    (h : ∀ channel ∈ names, (g.offer engine name channel).isSome) :
    (names.filterMap (g.offer engine name)).map (·.channel) = names := by
  induction names with
  | nil => rfl
  | cons channel rest ih =>
    obtain ⟨w, hw⟩ := Option.isSome_iff_exists.1 (h channel (List.mem_cons_self ..))
    rw [List.filterMap_cons_some hw, List.map_cons, offer_channel hw,
      ih fun c hc => h c (List.mem_cons_of_mem channel hc)]

theorem mem_spelled (h : channel ∈ g.spelled engine v) :
    channel ≠ v.channel ∧ (g.offer engine v.name channel).isSome := by
  obtain ⟨c, hc, rfl⟩ := List.mem_map.1 h
  have hpass := of_decide_eq_true (List.mem_filter.1 hc).2
  exact ⟨hpass.1.1, hpass.2⟩

/-! ## The result -/

theorem availableVersions_spelled {m : MemorySource} (hsource : g.sourceForChannel engine v.channel = .ok (.ok m)) :
    g.availableVersions engine v = .ok (.ok
      (ownChannelVersions v.channel (m.directVersion v.name) (m.nextVersion v.name) (m.latestVersion v.name) ++
        (g.spelled engine v).filterMap (g.offer engine v.name))) := by
  obtain ⟨found, hfound, heq⟩ := availableVersions_eq hsource
  have hfound' : ∀ c, found c = if Spelled engine v.channel c then g.offer engine v.name c.name else none := by
    intro c
    have := (hfound c).symm.trans (g.otherChannelVersion_eq engine v c)
    exact Except.ok.inj this
  rw [heq, ← others_eq]
  simp only [hfound']

theorem availableVersions_ok_iff : (∃ vs, g.availableVersions engine v = .ok (.ok vs)) ↔
    ∃ m, g.sourceForChannel engine v.channel = .ok (.ok m) := by
  constructor
  · rintro ⟨vs, hvs⟩
    obtain ⟨source, hsource⟩ := g.sourceForChannel_returns engine v.channel
    cases source with
    | error err => simp [availableVersions, hsource, bind, Except.bind] at hvs
    | ok m => exact ⟨m, hsource⟩
  · rintro ⟨m, hsource⟩
    exact ⟨_, availableVersions_spelled hsource⟩

/-- The same names and attributes in the same order, and the same channels for the entries of other channels. -/
def SameOffers (channel channel' : String) (vs vs' : List SpiceDBVersion) : Prop :=
  vs.map (fun w => (w.name, w.attributes)) = vs'.map (fun w => (w.name, w.attributes)) ∧
    (vs.filter (·.channel ≠ channel)).map (·.channel) = (vs'.filter (·.channel ≠ channel')).map (·.channel)

theorem ownChannelVersions_recased (channel channel' d n l : String) :
    (ownChannelVersions channel d n l).map (fun w => (w.name, w.attributes)) =
      (ownChannelVersions channel' d n l).map (fun w => (w.name, w.attributes)) := by
  simp only [ownChannelVersions, List.map_append]
  split_ifs <;> rfl

/-- The entries of other channels are the ones after those of the own channel. -/
theorem filter_other_channels (d n l : String) :
    ((ownChannelVersions v.channel d n l ++ (g.spelled engine v).filterMap (g.offer engine v.name)).filter
      (·.channel ≠ v.channel)).map (·.channel) = g.spelled engine v := by
  have hown : (ownChannelVersions v.channel d n l).filter (·.channel ≠ v.channel) = [] := by
    rw [List.filter_eq_nil_iff]
    intro w hw
    simp [(offered_of_mem hw).1]
  have hothers : ((g.spelled engine v).filterMap (g.offer engine v.name)).filter (·.channel ≠ v.channel) =
      (g.spelled engine v).filterMap (g.offer engine v.name) := by
    rw [List.filter_eq_self]
    intro w hw
    obtain ⟨channel, hchannel, hoffer⟩ := List.mem_filterMap.1 hw
    simpa [offer_channel hoffer] using (mem_spelled hchannel).1
  rw [List.filter_append, hown, hothers, List.nil_append,
    filterMap_offer_channels _ fun channel hchannel => (mem_spelled hchannel).2]

/-- **Letter case in `AvailableVersions`.** With the engine and the current channel in another spelling, the call
succeeds as before; it returns the same versions exactly when the same other channels are spelled as the two inputs
are. -/
theorem recased_iff (g : UpdateGraph) (engine engine' channel' : String) (v : SpiceDBVersion)
    (hengine : equalFold engine engine' = true) (hchannel : equalFold v.channel channel' = true) :
    (((∃ vs, g.availableVersions engine v = .ok (.ok vs)) ↔
        ∃ vs', g.availableVersions engine' { v with channel := channel' } = .ok (.ok vs')) ∧
      ∀ vs vs', g.availableVersions engine v = .ok (.ok vs) →
        g.availableVersions engine' { v with channel := channel' } = .ok (.ok vs') →
        SameOffers v.channel channel' vs vs') ↔
      ((∃ m, g.sourceForChannel engine v.channel = .ok (.ok m)) →
        g.spelled engine v = g.spelled engine' { v with channel := channel' }) := by
  have hsource := fun m => sourceForChannel_recased (g := g) (m := m) hengine hchannel
  have hsucceeds : (∃ vs, g.availableVersions engine v = .ok (.ok vs)) ↔
      ∃ vs', g.availableVersions engine' { v with channel := channel' } = .ok (.ok vs') := by
    rw [availableVersions_ok_iff, availableVersions_ok_iff]
    exact exists_congr hsource
  constructor
  · rintro ⟨_, hsame⟩ ⟨m, hm⟩
    have hchannels := (hsame _ _ (availableVersions_spelled hm)
      (availableVersions_spelled (v := { v with channel := channel' }) ((hsource m).1 hm))).2
    rw [filter_other_channels] at hchannels
    exact hchannels.trans (filter_other_channels (v := { v with channel := channel' }) _ _ _)
  · intro hspelled
    refine ⟨hsucceeds, fun vs vs' hvs hvs' => ?_⟩
    obtain ⟨m, hm⟩ := availableVersions_ok_iff.1 ⟨vs, hvs⟩
    cases hvs.symm.trans (availableVersions_spelled hm)
    cases hvs'.symm.trans (availableVersions_spelled (v := { v with channel := channel' }) ((hsource m).1 hm))
    refine ⟨?_, ?_⟩
    · rw [List.map_append, List.map_append, ownChannelVersions_recased v.channel channel', hspelled ⟨m, hm⟩,
        funext (offer_recased hengine v.name)]
    · rw [filter_other_channels, hspelled ⟨m, hm⟩]
      exact (filter_other_channels (v := { v with channel := channel' }) _ _ _).symm

/-- `beta` is dropped for the engine `Postgres`, and `stable` is listed again for the channel `Stable`. -/
theorem stableAndBeta_recased :
    equalFold "postgres" "Postgres" = true ∧ equalFold "stable" "Stable" = true ∧
    ∃ vs vs₁ vs₂, stableAndBeta.availableVersions "postgres" { name := "v1", channel := "stable" } = .ok (.ok vs) ∧
      stableAndBeta.availableVersions "Postgres" { name := "v1", channel := "stable" } = .ok (.ok vs₁) ∧
      stableAndBeta.availableVersions "postgres" { name := "v1", channel := "Stable" } = .ok (.ok vs₂) ∧
      vs.map (fun w => (w.name, w.channel)) = [("v2", "stable"), ("v3", "stable"), ("v4", "beta")] ∧
      vs₁.map (fun w => (w.name, w.channel)) = [("v2", "stable"), ("v3", "stable")] ∧
      vs₂.map (fun w => (w.name, w.channel)) =
        [("v2", "Stable"), ("v3", "Stable"), ("v2", "stable"), ("v4", "beta")] :=
  ⟨by decide, by decide, _, _, _, rfl, rfl, rfl, rfl, rfl, rfl⟩

/-- In a graph with one channel, only its own name is compared. -/
theorem twoReleases_recased :
    twoReleases.spelled "postgres" { name := "v1", channel := "stable" } =
      twoReleases.spelled "Postgres" { name := "v1", channel := "Stable" } ∧
    ∃ vs vs', twoReleases.availableVersions "postgres" { name := "v1", channel := "stable" } = .ok (.ok vs) ∧
      twoReleases.availableVersions "Postgres" { name := "v1", channel := "Stable" } = .ok (.ok vs') ∧
      SameOffers "stable" "Stable" vs vs' := by
  have hspelled : twoReleases.spelled "postgres" { name := "v1", channel := "stable" } =
      twoReleases.spelled "Postgres" { name := "v1", channel := "Stable" } := by decide
  have hsame :=
    (recased_iff twoReleases "postgres" "Postgres" "Stable" { name := "v1", channel := "stable" } (by decide)
    (by decide)).2 fun _ => hspelled
  exact ⟨hspelled, _, _, rfl, rfl, hsame.2 _ _ rfl rfl⟩

end UpdateGraph

end SpiceDBOperator
