import SpiceDBOperator.Config.Accepted

/-!
# Which settings reach SpiceDB

What `NewConfig` does not take for itself goes on to SpiceDB, under the name the user wrote (config.go:515-534): the
keys of the raw config that no part of the reading pops and that the strip list does not name, and the keys the operator
adds (`newConfig_passthrough`). The options are matched by their exact spelling.
-/

namespace SpiceDBOperator

open Golang Hoare Read

/-! ## The parts that make up the map -/

/-- The strip list names the key, in any case. -/
def stripped (k : String) : Bool := stripValues.any fun s => equalFold k s

theorem mem_strip {m : GoMap String} {k : String} : k ∈ strip m ↔ k ∈ m ∧ stripped k = false := by
  simp only [mem_iff_lookup, strip, mapRestrict_lookup]
  change (∃ v, (if (!stripped k) = true then (m.lookup k).map id else none) = some v) ↔ _
  cases stripped k <;> simp

theorem mem_popRest {config : RawConfig} {m : GoMap String} {k : String} :
    k ∈ popRest config m ↔ k ∈ m ∨ k ∈ config := by
  have hfold : ∀ (ks : List String) (m : GoMap String),
      k ∈ ks.foldl (fun m k => m.insert k (config.popText k).1) m ↔ k ∈ m ∨ k ∈ ks := by
    intro ks
    induction ks with
    | nil => simp
    | cons k' rest ih =>
      intro m
      rw [List.foldl_cons, ih, AList.mem_insert, List.mem_cons]
      tauto
  exact hfold config.keys m

theorem readTLSPaths_keys (tlsSecretName : String) (skipTLSWarning : Bool) (passthrough : GoMap String) :
    Triple (fun _ => True) (readTLSPaths tlsSecretName skipTLSWarning passthrough)
      (fun m _ => ∀ k, k ∈ m ↔ k ∈ passthrough ∨ k ∈ tlsKeys tlsSecretName) (fun _ _ => True) := by
  have hpop : ∀ (keys : List Key) (m : GoMap String), Triple (fun _ => True) (popInto keys m)
      (fun m' _ => ∀ k, k ∈ m' ↔ k ∈ m ∨ ∃ key ∈ keys, key.key = k) (fun _ _ => True) := by
    intro keys
    induction keys with
    | nil => exact fun m => Triple.pure fun _ _ k => by simp
    | cons key rest ih =>
      intro m
      refine Triple.bind (Q := fun _ _ => True) (Triple.act fun _ _ => trivial) fun v => ?_
      refine Triple.conseq (ih (m.insert key.key v)) (fun _ h => h) (fun m' _ h k => ?_) fun _ _ h => h
      simp only [h k, AList.mem_insert, List.mem_cons, exists_eq_or_imp, eq_comm (a := k)]
      tauto
  unfold readTLSPaths tlsKeys
  by_cases hset : tlsSecretName ≠ ""
  · rw [if_pos hset]
    refine Triple.conseq (hpop Key.tlsPaths passthrough) (fun _ h => h) (fun m _ h k => ?_) fun _ _ h => h
    simp [h k, hset]
  · rw [if_neg hset]
    have hsame : ∀ k, k ∈ passthrough ↔
        k ∈ passthrough ∨ k ∈ {x : String | tlsSecretName ≠ "" ∧ ∃ key ∈ Key.tlsPaths, key.key = x} := by simp_all
    refine Triple.ite (fun _ => ?_) fun _ => Triple.pure fun _ _ => hsame
    exact Triple.bind (Q := fun _ _ => True) (Triple.act fun _ _ => trivial) fun _ => Triple.pure fun _ _ => hsame

/-- The keys `readPassthrough` adds for the secrets and the phase. -/
def addedKeys (dispatchUpstreamCASecretName : String) (dispatchEnabled : Bool)
    (telemetryTLSCASecretName targetPhase : String) : List String :=
  (if dispatchUpstreamCASecretName ≠ "" ∧ dispatchEnabled then ["dispatchUpstreamCAPath"] else []) ++
  (if telemetryTLSCASecretName ≠ "" then ["telemetryCAOverridePath"] else []) ++
  (if targetPhase ≠ "" then ["datastoreMigrationPhase"] else [])

theorem mem_ite_insert {c : Prop} [Decidable c] {m : GoMap String} {key v k : String} :
    (k ∈ if c then m.insert key v else m) ↔ k ∈ m ∨ k ∈ if c then [key] else [] := by
  by_cases hc : c
  · simp [hc, AList.mem_insert, or_comm]
  · simp [hc]

theorem readPassthrough_keys {raw : RawConfig} {T : Set String} (spice : SpiceConfig) (migration : MigrationConfig)
    (passthrough : GoMap String) :
    Triple (Knows raw T) (readPassthrough spice migration passthrough)
      (fun m _ => ∀ k, k ∈ m ↔ k = "terminationLogPath" ∨
        (k ∈ passthrough ∨ k ∈ addedKeys spice.dispatchUpstreamCASecretName spice.dispatchEnabled
          spice.telemetryTLSCASecretName migration.targetPhase ∨ k ∈ raw ∧ k ∉ T) ∧ stripped k = false)
      (fun _ _ => True) := by
  refine Triple.bind (Q := fun m _ => ∀ k, k ∈ m ↔
      (k ∈ passthrough ∨ k ∈ addedKeys spice.dispatchUpstreamCASecretName spice.dispatchEnabled
        spice.telemetryTLSCASecretName migration.targetPhase ∨ k ∈ raw ∧ k ∉ T))
          (Triple.act fun r hr k => ?_) fun m => ?_
  · simp only [mem_popRest, mem_ite_insert, addedKeys, List.mem_append, hr.mem_iff]
    tauto
  · refine Triple.pure fun _ hm k => ?_
    rw [← hm k, ← mem_strip]
    split_ifs with hempty
    · rw [AList.mem_insert]
    · -- the key is there already
      have hthere : "terminationLogPath" ∈ strip m := by
        rw [mem_iff_lookup]
        cases hlookup : (strip m).lookup "terminationLogPath" with
        | none => simp [hlookup] at hempty
        | some v => exact ⟨v, rfl⟩
      exact ⟨Or.inr, fun h => h.elim (fun hk => hk ▸ hthere) id⟩

/-! ## The map as a whole -/

/-- The keys the reading pops before the rest is passed on. -/
def optionKeys (tlsSecretName : String) : Set String :=
  {"version", "channel"} ∪ nameKeys ∪ {"datastoreEngine", "projectLabels", "projectAnnotations", "image"} ∪
    {"dispatchEnabled", "skipTLSWarning", "replicas", "skipMigrations", "extraPodLabels", "extraPodAnnotations",
      "extraServiceAccountAnnotations", "pdb"} ∪ tlsKeys tlsSecretName

/-- The keys the operator sets itself. -/
def Config.operatorKeys (c : Config) : List String :=
  ["datastoreEngine", "dispatchClusterEnabled", "terminationLogPath"] ++
  (if c.migration.spannerCredsSecretRef ≠ "" then ["datastoreSpannerCredentials"] else []) ++
  (if c.spice.tlsSecretName ≠ "" then Key.tlsPaths.map (·.key) else []) ++
  addedKeys c.spice.dispatchUpstreamCASecretName c.spice.dispatchEnabled c.spice.telemetryTLSCASecretName
    c.migration.targetPhase

/-- A key of the raw config that is passed on. -/
def Config.PassesOn (c : Config) (raw : RawConfig) (k : String) : Prop :=
  k ∈ raw ∧ k ∉ optionKeys c.spice.tlsSecretName ∧ stripped k = false

section

variable {lib : Libraries} {cluster : SpiceDBCluster} {globalConfig : OperatorConfig} {secrets : GoMap Secret}
  {resolver : PatchMetaResolver} {raw : RawConfig}

theorem readRest_passthrough {T : Set String} {datastoreEngine : String} {spice : SpiceConfig}
    {migration : MigrationConfig} {target : Target} :
    Triple (Knows raw T) (readRest lib cluster secrets resolver datastoreEngine spice migration target)
      (fun out _ => out.spice.envPrefix = spice.envPrefix ∧ ∀ k, k ∈ out.spice.passthrough ↔ k = "terminationLogPath" ∨
        (k ∈ out.operatorKeys ∨ k ∈ raw ∧ k ∉ T ∪ {"dispatchEnabled", "skipTLSWarning", "replicas", "skipMigrations",
          "extraPodLabels", "extraPodAnnotations", "extraServiceAccountAnnotations", "pdb"} ∪
            tlsKeys out.spice.tlsSecretName) ∧ stripped k = false)
      (fun _ _ => True) := by
  have hI := tolerant_knows raw
  unfold readRest
  refine Triple.bind ((readImage_reads target).run_empty hI _) fun _ => ?_
  refine Triple.bind (readFlag_reads _ _ hI _) fun _ => ?_
  refine Triple.bind (readFlag_reads _ _ hI _) fun _ => ?_
  refine Triple.bind ((resolveCredentials_reads _ _ _).run_empty hI _) fun _ => ?_
  refine Triple.bind (readReplicas_reads _ _ hI _) fun _ => ?_
  refine Triple.bind (readFlag_reads _ _ hI _) fun _ => ?_
  iterate 3 refine Triple.bind (readMetadata_reads _ _ _ _ hI _) fun _ => ?_
  refine Triple.bind (readPDB_reads _ hI _) fun _ => ?_
  -- the map so far, and what is left of the raw config
  refine Triple.bind ((readTLSPaths_reads _ _ _).value hI ((readTLSPaths_keys _ _ _).pre fun _ _ => trivial)) fun m =>
    Triple.assume fun hm => ?_
  refine Triple.bind (readPassthrough_keys _ _ _) fun passthrough => Triple.known fun hkeys => ?_
  refine Triple.bind Triple.trivially fun _ => Triple.pure fun _ _ => ⟨rfl, fun k => ?_⟩
  have hoptions : k ∉ T ∪ {BoolOrStringKey.dispatchEnabled.key} ∪ {BoolOrStringKey.skipTLSWarning.key} ∪ {"replicas"} ∪
      {BoolOrStringKey.skipMigrations.key} ∪ {MetadataSetKey.extraPodLabels} ∪ {MetadataSetKey.extraPodAnnotations} ∪
      {MetadataSetKey.extraServiceAccountAnnotations} ∪ {Key.pdb} ∪ tlsKeys spice.tlsSecretName ↔
      k ∉ T ∪ {"dispatchEnabled", "skipTLSWarning", "replicas", "skipMigrations", "extraPodLabels",
        "extraPodAnnotations",
        "extraServiceAccountAnnotations", "pdb"} ∪ tlsKeys spice.tlsSecretName := by
    simp only [Set.mem_union, Set.mem_insert_iff, Set.mem_singleton_iff, BoolOrStringKey.dispatchEnabled,
      BoolOrStringKey.skipTLSWarning, BoolOrStringKey.skipMigrations, MetadataSetKey.extraPodLabels,
      MetadataSetKey.extraPodAnnotations, MetadataSetKey.extraServiceAccountAnnotations, Key.pdb, or_assoc]
  have htls : k ∈ tlsKeys spice.tlsSecretName ↔
      k ∈ if spice.tlsSecretName ≠ "" then Key.tlsPaths.map (·.key) else [] := by
    by_cases hset : spice.tlsSecretName = "" <;> simp [tlsKeys, hset]
  refine (hkeys k).trans ?_
  rw [hoptions, hm k, mem_ite_insert, mem_mapOf, htls]
  simp only [Config.operatorKeys, List.mem_append, List.mem_cons, List.not_mem_nil, or_false, exists_eq_or_imp,
    exists_eq_left, eq_comm (b := k)]
  grind

/-- None of the keys that the operator may write is in the strip list. -/
theorem writtenKeys_not_stripped : ∀ k ∈ ["datastoreEngine", "dispatchClusterEnabled", "terminationLogPath",
    "datastoreSpannerCredentials", "dispatchUpstreamCAPath", "telemetryCAOverridePath", "datastoreMigrationPhase"] ++
      Key.tlsPaths.map (·.key), stripped k = false := by decide

theorem operatorKeys_not_stripped {c : Config} {k : String} (h : k ∈ c.operatorKeys) : stripped k = false := by
  have hsub : ∀ {b : Prop} [Decidable b] {xs : List String}, k ∈ (if b then xs else []) → k ∈ xs := by
    intro b _ xs hk
    split_ifs at hk
    · exact hk
    · cases hk
  apply writtenKeys_not_stripped
  simp only [Config.operatorKeys, addedKeys, List.mem_append] at h ⊢
  rcases h with ((h | h) | h) | (h | h) | h
  · exact Or.inl (List.mem_append_left _ h)
  · exact Or.inl (by simp [List.mem_singleton.1 (hsub h)])
  · exact Or.inr (hsub h)
  · exact Or.inl (by simp [List.mem_singleton.1 (hsub h)])
  · exact Or.inl (by simp [List.mem_singleton.1 (hsub h)])
  · exact Or.inl (by simp [List.mem_singleton.1 (hsub h)])

theorem readConfig_passthrough :
    Triple (Knows raw ∅) (readConfig lib cluster globalConfig secrets resolver)
      (fun out _ => out.spice.envPrefix = (Key.envPrefix.pop raw).1 ∧
        ∀ k, k ∈ out.spice.passthrough ↔ k ∈ out.operatorKeys ∨ out.PassesOn raw k)
      (fun _ _ => True) := by
  have hI := tolerant_knows raw
  unfold readConfig
  refine Triple.bind (dropIgnored_reads _ hI _) fun _ => ?_
  refine Triple.bind
    ((readNames_reads cluster).value hI (readNames_envPrefix cluster (by simp [Key.envPrefix]))) fun names =>
    Triple.assume fun henv => ?_
  refine Triple.bind (readEngine_reads _ hI _) fun _ => ?_
  refine Triple.bind (readProjection_reads _ _ hI _) fun _ => ?_
  refine Triple.bind (readProjection_reads _ _ hI _) fun _ => ?_
  refine Triple.bind (readTarget_reads _ _ _ _ _ hI _) fun _ => ?_
  refine Triple.conseq readRest_passthrough (fun _ h => h) (fun out r h => ⟨h.1.trans henv, fun k => ?_⟩) fun _ _ h => h
  have hoptions : k ∉ ∅ ∪ {"version", "channel"} ∪ nameKeys ∪ {Key.datastoreEngine.key} ∪
      {BoolOrStringKey.projectLabels.key} ∪ {BoolOrStringKey.projectAnnotations.key} ∪ {Key.image.key} ∪
      {"dispatchEnabled", "skipTLSWarning", "replicas", "skipMigrations", "extraPodLabels", "extraPodAnnotations",
        "extraServiceAccountAnnotations", "pdb"} ∪ tlsKeys out.spice.tlsSecretName ↔
      k ∉ optionKeys out.spice.tlsSecretName := by
    simp only [optionKeys, Set.empty_union, Set.mem_union, Set.mem_insert_iff, Set.mem_singleton_iff,
      Key.datastoreEngine,
      Key.image, BoolOrStringKey.projectLabels, BoolOrStringKey.projectAnnotations, or_assoc]
  have hterm : "terminationLogPath" ∈ out.operatorKeys := by simp [Config.operatorKeys]
  have hkept : k ∈ out.operatorKeys → stripped k = false := operatorKeys_not_stripped
  rw [h.2 k, hoptions, Config.PassesOn]
  constructor
  · rintro (rfl | ⟨hk | ⟨hraw, hoption⟩, hstrip⟩)
    · exact Or.inl hterm
    · exact Or.inl hk
    · exact Or.inr ⟨hraw, hoption, hstrip⟩
  · rintro (hk | ⟨hraw, hoption, hstrip⟩)
    · exact Or.inr ⟨Or.inl hk, hkept hk⟩
    · exact Or.inr ⟨Or.inr ⟨hraw, hoption⟩, hstrip⟩

/-- **What is passed on** under a config that was returned. -/
theorem newConfig_passthrough {c : Config} {warning : Option String}
    (hnew : newConfig lib cluster globalConfig secrets resolver = .ok (.ok c, warning))
    (hraw : cluster.spec.config = some (.ok raw)) :
    c.spice.envPrefix = (Key.envPrefix.pop raw).1 ∧
      ∀ k, k ∈ c.spice.passthrough ↔ k ∈ c.operatorKeys ∨ c.PassesOn raw k := by
  obtain ⟨r, ⟨raw', hraw', hrun⟩, -⟩ := newConfig_assembles hnew
  obtain rfl : raw' = raw := by simpa [hraw'] using hraw
  exact readConfig_passthrough.of_run (knows_nothing_gone raw') hrun

end

end SpiceDBOperator
