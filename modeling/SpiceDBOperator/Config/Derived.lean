import SpiceDBOperator.Config.Environment
import SpiceDBOperator.Config.Settings

/-!
# Derived settings among those that are passed through

`NewConfig` writes the engine and the dispatch switch into the passthrough map first (config.go:303-309), the migration
phase later, and then copies what is left of the user's config over the map (config.go:515). The engine and the phase
were popped before that and stay as derived. The dispatch switch was not: the key that is popped is `dispatchEnabled`,
and a user's `dispatchClusterEnabled` replaces the derived one (`derived_settings_survive_iff`). Then SpiceDB is told
one thing about dispatch, while the port and the upstream address are generated for the other.
-/

namespace SpiceDBOperator

open Golang

/-! ## Looking a setting up -/

theorem foldl_insert_lookup_ne {es : List (String × String)} {k : String} (hk : ∀ e ∈ es, e.1 ≠ k) (m : GoMap String) :
    (es.foldl (fun m e => m.insert e.1 e.2) m).lookup k = m.lookup k := by
  induction es generalizing m with
  | nil => rfl
  | cons e rest ih =>
    rw [List.foldl_cons, ih fun e he => hk e (List.mem_cons_of_mem _ he)]
    exact AList.lookup_insert_ne (hk e (List.mem_cons_self ..)).symm

theorem strip_lookup (m : GoMap String) {k : String} (hk : stripped k = false) : (strip m).lookup k = m.lookup k := by
  have hkeep : (!(stripValues.any fun s => equalFold k s)) = true := by
    change (!stripped k) = true
    rw [hk]
    rfl
  rw [strip, mapRestrict_lookup, if_pos hkeep, Option.map_id]
  rfl

theorem popRest_lookup (config : RawConfig) (m : GoMap String) (k : String) :
    (popRest config m).lookup k = ((config.lookup k).map Any.text).or (m.lookup k) := by
  have hfold : ∀ (ks : List String) (m : GoMap String),
      (ks.foldl (fun m k => m.insert k (config.popText k).1) m).lookup k =
        if k ∈ ks then some (config.popText k).1 else m.lookup k := by
    intro ks
    induction ks with
    | nil => exact fun m => rfl
    | cons k' rest ih =>
      intro m
      rw [List.foldl_cons, ih]
      by_cases hrest : k ∈ rest
      · simp [hrest]
      · by_cases hk : k = k'
        · subst hk
          simp [hrest, AList.lookup_insert]
        · simp [hrest, hk, AList.lookup_insert_ne hk]
  rw [popRest, hfold]
  cases hlookup : config.lookup k with
  | none =>
    have habsent : k ∉ config.keys := AList.lookup_eq_none.1 hlookup
    rw [if_neg habsent]
    rfl
  | some v =>
    have hthere : k ∈ config.keys := mem_iff_lookup.2 ⟨v, hlookup⟩
    rw [if_pos hthere, RawConfig.popText, hlookup]
    rfl

/-- A key of the rest wins over what is there. -/
theorem passthroughOf_lookup (spice : SpiceConfig) (migration : MigrationConfig) (m : GoMap String) (rest : RawConfig)
    {k : String} (hterm : k ≠ "terminationLogPath") (hstrip : stripped k = false) :
    (passthroughOf spice migration m rest).lookup k =
      ((rest.lookup k).map Any.text).or ((addDerived spice migration m).lookup k) := by
  have hmap : (strip (popRest rest (addDerived spice migration m))).lookup k =
      ((rest.lookup k).map Any.text).or ((addDerived spice migration m).lookup k) := by
    rw [strip_lookup _ hstrip, popRest_lookup]
  simp only [passthroughOf]
  split_ifs
  · rw [AList.lookup_insert_ne hterm, hmap]
  · exact hmap

/-- A text of the rest is there as it is, unless it is empty. -/
theorem passthroughOf_rest (spice : SpiceConfig) (migration : MigrationConfig) (m : GoMap String) {rest : RawConfig}
    {k : String} {v : Any} (hv : rest.lookup k = some v) (hne : v.text ≠ "") (hstrip : stripped k = false) :
    (passthroughOf spice migration m rest).lookup k = some v.text := by
  have hmap : (strip (popRest rest (addDerived spice migration m))).lookup k = some v.text := by
    rw [strip_lookup _ hstrip, popRest_lookup, hv]
    rfl
  simp only [passthroughOf]
  split_ifs with hempty
  · refine (AList.lookup_insert_ne ?_).trans hmap
    rintro rfl
    rw [hmap] at hempty
    exact hne hempty
  · exact hmap

theorem lookup_ite_insert {c : Prop} [Decidable c] (m : GoMap String) (key v k : String) :
    (if c then m.insert key v else m).lookup k = if k = key ∧ c then some v else m.lookup k := by
  by_cases hc : c
  · by_cases hk : k = key
    · subst hk
      simp [hc, AList.lookup_insert]
    · simp [hc, hk, AList.lookup_insert_ne hk]
  · simp [hc]

/-- Of the settings at issue only the phase is added here. -/
theorem addDerived_lookup (spice : SpiceConfig) (migration : MigrationConfig) (m : GoMap String) {k : String}
    (hdispatch : k ≠ "dispatchUpstreamCAPath") (htelemetry : k ≠ "telemetryCAOverridePath") :
    (addDerived spice migration m).lookup k =
      if k = "datastoreMigrationPhase" ∧ migration.targetPhase ≠ "" then some migration.targetPhase
        else m.lookup k := by
  simp only [addDerived, lookup_ite_insert, hdispatch, htelemetry, false_and, if_false]

section

variable {cluster : SpiceDBCluster} {raw : RawConfig}

theorem settings_tlsPaths (e : String × String) (he : e ∈ (settings cluster raw).tlsPaths) :
    e.1 ∈ Key.tlsPaths.map (·.key) := by
  obtain ⟨k, hk, rfl⟩ := List.mem_map.1 he
  exact List.mem_map_of_mem (mem_tlsPaths hk)

theorem settings_derived {k : String} (hspanner : k ≠ "datastoreSpannerCredentials")
    (htls : k ∉ Key.tlsPaths.map (·.key)) :
    (settings cluster raw).derived.lookup k =
      (mapOf [("datastoreEngine", (settings cluster raw).datastoreEngine),
        ("dispatchClusterEnabled", formatBool (settings cluster raw).dispatch)]).lookup k := by
  have hne : ∀ e ∈ (settings cluster raw).tlsPaths, e.1 ≠ k := by
    rintro e he rfl
    exact htls (settings_tlsPaths e he)
  simp only [Settings.derived]
  rw [foldl_insert_lookup_ne hne, lookup_ite_insert, if_neg fun h => hspanner h.1]

/-- The popped keys are not in the rest, and of the others only the TLS paths may be gone. -/
theorem settings_rest {k : String} (htls : k ∉ Key.tlsPaths.map (·.key)) :
    (settings cluster raw).rest.lookup k = if k ∈ poppedKeys then none else raw.lookup k := by
  have hpaths : k ∉ (tlsPathsFor (Key.tlsSecretName.pop raw).1).map (·.key) := by
    intro hmem
    obtain ⟨key, hkey, rfl⟩ := List.mem_map.1 hmem
    exact htls (List.mem_map_of_mem (mem_tlsPaths hkey))
  rw [settings_rest_eq, RawConfig.without_lookup]
  by_cases hk : k ∈ poppedKeys
  · rw [if_pos hk, if_pos (List.mem_append_left _ hk)]
  · rw [if_neg hk, if_neg fun h => (List.mem_append.1 h).elim hk hpaths]

end

/-! ## Agreement -/

/-- The address under which a pod finds its peers. -/
def Config.upstreamAddr (c : Config) : EnvVar :=
  { name := c.spice.envPrefix ++ "_DISPATCH_UPSTREAM_ADDR"
    value := some ("kubernetes:///" ++ c.spice.name ++ "." ++ c.spice.nameSpace ++ ":dispatch") }

/-- The operator generates the dispatch port and, in front of the variables it passes through, the upstream address. -/
def Config.GeneratesDispatch (lib : Libraries) (c : Config) : Prop :=
  { name := "dispatch", port := 50053 } ∈ c.containerPorts ∧
    ∃ own, c.envVars lib = own ++ c.passthroughEnv lib ∧ c.upstreamAddr ∈ own

theorem Config.generatesDispatch_iff {lib : Libraries} {c : Config} :
    c.GeneratesDispatch lib ↔ c.spice.dispatchEnabled = true := by
  cases hdispatch : c.spice.dispatchEnabled with
  | true =>
    simp only [iff_true]
    refine ⟨by simp [Config.containerPorts, Config.ports, hdispatch], _, rfl, ?_⟩
    simp [Config.upstreamAddr, hdispatch]
  | false => simp [Config.GeneratesDispatch, Config.containerPorts, Config.ports, hdispatch]

/-- The settings that are passed through agree with the typed ones they are derived from. -/
structure Config.DerivedAgree (lib : Libraries) (c : Config) : Prop where
  dispatch : c.spice.passthrough.lookup "dispatchClusterEnabled" = some (formatBool c.spice.dispatchEnabled)
  memory : c.migration.datastoreEngine = "memory" →
    c.spice.passthrough.lookup "dispatchClusterEnabled" = some "false"
  generated : c.spice.passthrough.lookup "dispatchClusterEnabled" = some "true" ↔ c.GeneratesDispatch lib
  engine : c.spice.passthrough.lookup "datastoreEngine" = some c.migration.datastoreEngine
  phase : c.spice.passthrough.lookup "datastoreMigrationPhase" =
    if c.migration.targetPhase ≠ "" then some c.migration.targetPhase else none

/-- Whether the user's settings ask for dispatch, on an engine that has it. -/
def dispatchWanted (raw : RawConfig) : Bool :=
  (BoolOrStringKey.dispatchEnabled.pop raw).1.1 && decide ((Key.datastoreEngine.pop raw).1 ≠ "memory")

section

variable {lib : Libraries} {cluster : SpiceDBCluster} {resolver : PatchMetaResolver} {raw : RawConfig} {target : Target}
  {creds : ResolvedCredentials}

/-- One of the three settings: what the user has under a key that is not popped, or else the phase, or else what was
written first. -/
theorem passed_lookup {k : String} (hk : k ∈ ["datastoreEngine", "dispatchClusterEnabled", "datastoreMigrationPhase"]) :
    ((settings cluster raw).config lib target creds cluster resolver).spice.passthrough.lookup k =
      ((if k ∈ poppedKeys then none else raw.lookup k).map Any.text).or
        (if k = "datastoreMigrationPhase" ∧ target.state.phase ≠ "" then some target.state.phase
        else (mapOf [("datastoreEngine", (settings cluster raw).datastoreEngine),
          ("dispatchClusterEnabled", formatBool (settings cluster raw).dispatch)]).lookup k) := by
  -- None of the other keys that the operator writes is one of the three.
  have hother : ∀ k ∈ ["datastoreEngine", "dispatchClusterEnabled", "datastoreMigrationPhase"],
      k ≠ "terminationLogPath" ∧ k ≠ "dispatchUpstreamCAPath" ∧ k ≠ "telemetryCAOverridePath" ∧
        k ≠ "datastoreSpannerCredentials" ∧ k ∉ Key.tlsPaths.map (·.key) := by decide
  obtain ⟨hterm, hdispatch, htelemetry, hspanner, htls⟩ := hother k hk
  have hstrip : stripped k = false := by
    refine writtenKeys_not_stripped k (List.mem_append_left _ ?_)
    simp only [List.mem_cons, List.not_mem_nil, or_false] at hk ⊢
    grind
  simp only [Settings.config]
  rw [passthroughOf_lookup _ _ _ _ hterm hstrip, addDerived_lookup _ _ _ hdispatch htelemetry,
    settings_derived hspanner htls, settings_rest htls]
  rfl

/-- The setting is the user's, or else the derived one. -/
theorem passed_dispatch : ((settings cluster raw).config lib target creds cluster resolver).spice.passthrough.lookup
      "dispatchClusterEnabled" =
    some (((raw.lookup "dispatchClusterEnabled").map Any.text).getD (formatBool (dispatchWanted raw))) := by
  rw [passed_lookup (by simp), if_neg (by decide), if_neg fun h => absurd h.1 (by decide)]
  cases raw.lookup "dispatchClusterEnabled" <;> rfl

theorem passed_engine : ((settings cluster raw).config lib target creds cluster resolver).spice.passthrough.lookup
    "datastoreEngine" = some (settings cluster raw).datastoreEngine := by
  rw [passed_lookup (by simp), if_pos (by decide), if_neg fun h => absurd h.1 (by decide)]
  rfl

theorem passed_phase : ((settings cluster raw).config lib target creds cluster resolver).spice.passthrough.lookup
    "datastoreMigrationPhase" = if target.state.phase ≠ "" then some target.state.phase else none := by
  rw [passed_lookup (by simp), if_pos (by decide)]
  simp only [true_and]
  rfl

end

theorem formatBool_injective : Function.Injective formatBool := by decide

/-- **Derived settings survive** what the user passes through, unless the user sets the dispatch switch of SpiceDB to
something other than what the settings of the operator come to. -/
theorem derived_settings_survive_iff {lib : Libraries} {cluster : SpiceDBCluster} {globalConfig : OperatorConfig}
    {secrets : GoMap Secret} {resolver : PatchMetaResolver} {raw : RawConfig} {c : Config} {warning : Option String}
    (hnew : newConfig lib cluster globalConfig secrets resolver = .ok (.ok c, warning))
    (hraw : cluster.spec.config = some (.ok raw)) :
    c.DerivedAgree lib ↔
      ∀ v, raw.lookup "dispatchClusterEnabled" = some v → v.text = formatBool (dispatchWanted raw) := by
  obtain ⟨target, ⟨creds, -, -⟩, -, -, rfl, -⟩ := newConfig_settings hraw hnew
  have hdispatch : ((settings cluster raw).config lib target creds cluster resolver).spice.dispatchEnabled =
      dispatchWanted raw := rfl
  constructor
  · intro h v hv
    have hlookup := passed_dispatch.symm.trans h.dispatch
    rwa [hv, hdispatch, Option.map_some, Option.getD_some, Option.some.injEq] at hlookup
  · intro h
    have hlookup : ((settings cluster raw).config lib target creds cluster resolver).spice.passthrough.lookup
        "dispatchClusterEnabled" = some (formatBool (dispatchWanted raw)) := by
      rw [passed_dispatch]
      cases hv : raw.lookup "dispatchClusterEnabled" with
      | none => rfl
      | some v => rw [Option.map_some, Option.getD_some, h v hv]
    refine ⟨hlookup, fun hmemory => ?_, ?_, passed_engine, passed_phase⟩
    · have hengine : (Key.datastoreEngine.pop raw).1 = "memory" := hmemory
      rw [hlookup, dispatchWanted, hengine]
      simp [formatBool]
    · rw [hlookup, Config.generatesDispatch_iff, hdispatch, Option.some.injEq]
      exact formatBool_injective.eq_iff' rfl

/-- A user who switches dispatch off in SpiceDB, and leaves the operator's setting on. -/
theorem dispatch_switch_replaced :
    ∃ config warning, newConfig plain (configured [("dispatchClusterEnabled", .bool false)])
        { imageName := "spicedb", updateGraph := UpdateGraph.twoReleases } ∅ plainResolver = .ok (.ok config, warning) ∧
      config.spice.passthrough.lookup "dispatchClusterEnabled" = some "false" ∧
      config.GeneratesDispatch plain ∧ ¬ config.DerivedAgree plain := by
  obtain ⟨config, warning, hconfig, hsettings⟩ := exists_of_returnedConfig
    (b := (some "false", true))
    (f := fun c => (c.spice.passthrough.lookup "dispatchClusterEnabled", c.spice.dispatchEnabled))
    (r := newConfig plain (configured [("dispatchClusterEnabled", .bool false)])
      { imageName := "spicedb", updateGraph := UpdateGraph.twoReleases } ∅ plainResolver) (by decide)
  obtain ⟨hlookup, hdispatch⟩ := Prod.mk.inj hsettings
  refine ⟨config, warning, hconfig, hlookup, Config.generatesDispatch_iff.2 hdispatch, fun h => ?_⟩
  have hagree := h.dispatch
  rw [hlookup, hdispatch] at hagree
  exact absurd hagree (by decide)

/-- A user who repeats what the operator derives. -/
theorem dispatch_switch_repeated :
    ∃ config warning, newConfig plain (configured [("dispatchClusterEnabled", .bool true)])
        { imageName := "spicedb", updateGraph := UpdateGraph.twoReleases } ∅ plainResolver = .ok (.ok config, warning) ∧
      config.DerivedAgree plain := by
  obtain ⟨config, warning, hconfig, -⟩ := exists_of_returnedConfig (b := ()) (f := fun _ => ())
    (r := newConfig plain (configured [("dispatchClusterEnabled", .bool true)])
      { imageName := "spicedb", updateGraph := UpdateGraph.twoReleases } ∅ plainResolver) (by decide)
  refine ⟨config, warning, hconfig, (derived_settings_survive_iff hconfig rfl).2 fun v hv => ?_⟩
  obtain rfl : Any.bool true = v := Option.some.inj hv
  decide

end SpiceDBOperator
