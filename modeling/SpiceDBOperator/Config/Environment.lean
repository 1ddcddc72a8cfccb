import Mathlib.Data.List.SplitBy
import SpiceDBOperator.Config.Passthrough
import SpiceDBOperator.Config.Plain
import SpiceDBOperator.Updates.Rails

/-!
# Names of environment variables

The variables of the containers are named by two rules. Those the operator builds by hand are the env prefix as it is,
an underscore and a fixed name (config.go:587-611, :811-825); those for passthrough keys are made by `toEnvVarName`
(config.go:1160) from the prefix without a trailing underscore, in upper case, and the words of the key.

* The names are distinct exactly if no two keys that are passed on have the same words up to case, and, where the two
  rules agree on the prefix, no such key has the words of a variable built by hand (`env_names_distinct_iff`).
* All names start with the normalised prefix exactly if that is in upper case already and the empty key is not set
  (`env_prefix_iff`).
-/

namespace SpiceDBOperator

open Golang

/-! ## The two rules -/

/-- What a key adds to the prefix. -/
def envSuffix (lib : Libraries) (key : String) : String :=
  String.join ((lib.camelcaseSplit key).map fun word => "_" ++ toUpper word)

/-- The underscore `strings.TrimSuffix` takes off. -/
def trailing (s : String) : String := if "_".toList <:+ s.toList then "_" else ""

theorem trimSuffix_trailing (s : String) : trimSuffix s "_" ++ trailing s = s := by
  unfold trimSuffix trailing
  split_ifs with h
  · obtain ⟨before, hs⟩ := h
    apply String.toList_inj.1
    simp [← hs]
  · exact String.append_empty

theorem intercalate_cons (sep s : String) (rest : List String) :
    sep.intercalate (s :: rest) = s ++ String.join (rest.map (sep ++ ·)) := by
  induction rest generalizing s with
  | nil => simp
  | cons t rest ih =>
    rw [String.intercalate_cons_cons, ih, List.map_cons, String.join_cons]
    simp only [String.append_assoc]

theorem toEnvVarName_eq (lib : Libraries) (pre key : String) :
    toEnvVarName lib pre key = toUpper (trimSuffix pre "_") ++ envSuffix lib key := by
  rw [toEnvVarName, intercalate_cons, List.map_map]
  rfl

theorem length_toUpper (s : String) : (toUpper s).toList.length = s.toList.length := by simp [toUpper]

theorem ownName_parts (pre own : String) :
    pre ++ "_" ++ own = trimSuffix pre "_" ++ (trailing pre ++ "_" ++ own) := by
  conv_lhs => rw [← trimSuffix_trailing pre]
  simp only [String.append_assoc]

/-- When a passthrough key yields the name of a variable built by hand. -/
theorem ownName_eq_iff {lib : Libraries} {pre own key : String} :
    pre ++ "_" ++ own = toEnvVarName lib pre key ↔
      toUpper (trimSuffix pre "_") = trimSuffix pre "_" ∧ envSuffix lib key = trailing pre ++ "_" ++ own := by
  rw [toEnvVarName_eq, ownName_parts]
  constructor
  · intro h
    have hlists : (trimSuffix pre "_").toList ++ (trailing pre ++ "_" ++ own).toList =
        (toUpper (trimSuffix pre "_")).toList ++ (envSuffix lib key).toList := by
      rw [← String.toList_append, ← String.toList_append, h]
    obtain ⟨hpre, hrest⟩ := List.append_inj hlists (length_toUpper (trimSuffix pre "_")).symm
    exact ⟨(String.toList_inj.1 hpre).symm, (String.toList_inj.1 hrest).symm⟩
  · rintro ⟨hpre, hrest⟩
    rw [hpre, hrest]

/-! ## The variables of the containers -/

namespace Config

variable (lib : Libraries) (c : Config)

/-- The variables of the SpiceDB container that are built by hand. -/
def ownVars : List String :=
  ["POD_NAME", "LOG_LEVEL"] ++
  (if c.spice.presharedKeyRef.skip then [] else ["GRPC_PRESHARED_KEY"]) ++
  (if c.migration.datastoreEngine ≠ "memory" ∧ c.spice.datastoreURIRef.skip = false then
    ["DATASTORE_CONN_URI"] else []) ++
  (if c.spice.dispatchEnabled then ["DISPATCH_UPSTREAM_ADDR"] else [])

/-- …and those of the migration container. -/
def jobOwnVars : List String :=
  ["LOG_LEVEL"] ++
  (if c.spice.datastoreURIRef.skip then [] else ["DATASTORE_CONN_URI"]) ++
  (if c.spice.migrationSecretsRef.skip then [] else ["SECRETS"])

/-- Variables built by hand, and those for the passthrough keys. -/
def namesWith (own : List String) : List String :=
  own.map (c.spice.envPrefix ++ "_" ++ ·) ++
    (c.spice.passthrough.keys.insertionSort (· ≤ ·)).map (toEnvVarName lib c.spice.envPrefix)

theorem passthroughEnv_names :
    (c.passthroughEnv lib).map (·.name) =
      (c.spice.passthrough.keys.insertionSort (· ≤ ·)).map (toEnvVarName lib c.spice.envPrefix) := by
  rw [passthroughEnv, List.map_map]
  rfl

theorem envVars_names : (c.envVars lib).map (·.name) = c.namesWith lib c.ownVars := by
  simp only [envVars, namesWith, ownVars, List.map_append, passthroughEnv_names, apply_ite (List.map _), List.map_cons,
    List.map_nil, secretEnv, String.append_assoc, String.reduceAppend]

theorem jobEnvVars_names : (c.jobEnvVars lib).map (·.name) = c.namesWith lib c.jobOwnVars := by
  simp only [jobEnvVars, namesWith, jobOwnVars, List.map_append, passthroughEnv_names, apply_ite (List.map _),
    List.map_cons, List.map_nil, secretEnv, String.append_assoc, String.reduceAppend]

theorem ownVars_nodup : c.ownVars.Nodup := by
  unfold ownVars
  split_ifs <;> decide

theorem jobOwnVars_nodup : c.jobOwnVars.Nodup := by
  unfold jobOwnVars
  split_ifs <;> decide

variable {lib c}

/-- Names are distinct unless two keys have the same words, or a key those of a variable built by hand. -/
theorem namesWith_nodup_iff {own : List String} (hown : own.Nodup) :
    (c.namesWith lib own).Nodup ↔
      (∀ k ∈ c.spice.passthrough, ∀ k' ∈ c.spice.passthrough, envSuffix lib k = envSuffix lib k' → k = k') ∧
      ∀ o ∈ own, ∀ k ∈ c.spice.passthrough, c.spice.envPrefix ++ "_" ++ o ≠ toEnvVarName lib c.spice.envPrefix k := by
  have hsorted : (c.spice.passthrough.keys.insertionSort (· ≤ ·)).Nodup :=
    (List.perm_insertionSort _ _).nodup_iff.2 (AList.keys_nodup _)
  have hfixed : (own.map (c.spice.envPrefix ++ "_" ++ ·)).Nodup :=
    hown.map fun o o' h => by simpa using h
  have hmem : ∀ k, k ∈ c.spice.passthrough.keys.insertionSort (· ≤ ·) ↔ k ∈ c.spice.passthrough := fun k =>
    (List.mem_insertionSort _).trans AList.mem_keys.symm
  have hsame : ∀ k k', toEnvVarName lib c.spice.envPrefix k = toEnvVarName lib c.spice.envPrefix k' ↔
      envSuffix lib k = envSuffix lib k' := fun k k' => by simp [toEnvVarName_eq]
  rw [namesWith, List.nodup_append, List.nodup_map_iff_inj_on hsorted]
  simp only [hfixed, true_and, hmem, hsame, List.forall_mem_map]

end Config

/-! ## A splitter

`camelcase.Split` cuts a key where the class of its runes changes, and gives the last capital of a run to the lower case
letters after it.
-/

inductive RuneClass where
  | lower | upper | digit | other
deriving DecidableEq

def runeClass (r : Char) : RuneClass :=
  if r.isLower then .lower else if r.isUpper then .upper else if r.isDigit then .digit else .other

/-- Hands capitals on from a run to the next. -/
def shiftCapitals (run : List Char) : List (List Char) → List (List Char)
  | [] => [run]
  | next :: rest =>
    if run.head?.map runeClass = some .upper ∧ next.head?.map runeClass = some .lower then
      run.dropLast :: shiftCapitals (run.getLast?.toList ++ next) rest
    else run :: shiftCapitals next rest

def camelWords (key : String) : List String :=
  let runs := shiftCapitals [] (key.toList.splitBy fun r r' => runeClass r = runeClass r')
  (runs.filter (· ≠ [])).map String.ofList

example : camelWords "dispatchUpstreamCAPath" = ["dispatch", "Upstream", "CA", "Path"] := by decide

theorem shiftCapitals_flatten (run : List Char) (runs : List (List Char)) :
    (shiftCapitals run runs).flatten = run ++ runs.flatten := by
  induction runs generalizing run with
  | nil => simp [shiftCapitals]
  | cons next rest ih =>
    have hlast : run.dropLast ++ run.getLast?.toList = run := by
      cases run using List.reverseRecOn <;> simp
    rw [shiftCapitals]
    split_ifs
    · rw [List.flatten_cons, ih, ← List.append_assoc, ← List.append_assoc, hlast, List.append_assoc, List.flatten_cons]
    · rw [List.flatten_cons, ih, List.flatten_cons]

theorem camelWords_eq_nil_iff (key : String) : camelWords key = [] ↔ key = "" := by
  have hwords := shiftCapitals_flatten [] (key.toList.splitBy fun r r' => runeClass r = runeClass r')
  rw [List.nil_append, List.flatten_splitBy, ← List.flatten_filter_ne_nil] at hwords
  constructor
  · intro h
    rw [camelWords, List.map_eq_nil_iff] at h
    rw [h] at hwords
    exact String.toList_eq_nil_iff.1 hwords.symm
  · rintro rfl
    decide

/-- `plain` with that splitter. -/
def casewise : Libraries := { plain with camelcaseSplit := camelWords }

/-- `smallCluster` with more options. -/
def configured (options : List (String × Any)) : SpiceDBCluster :=
  let small := smallCluster ""
  { small with
    spec := { small.spec with
      config :=
        some (.ok (mapOf ([("datastoreEngine", .string "postgres"), ("skipTLSWarning", .bool true)] ++ options))) } }

/-! ## Distinct names -/

/-- The keys that reach SpiceDB: the operator's own and what it passes on from the raw config. -/
def Config.passedKeys (c : Config) (raw : RawConfig) : Set String := {k | k ∈ c.operatorKeys ∨ c.PassesOn raw k}

/-- **When names are distinct**, in both containers: no two keys that are passed on have the same words up to case and,
if the prefix is in upper case already, none has the words of a variable that is built by hand. -/
theorem env_names_distinct_iff {lib : Libraries} {cluster : SpiceDBCluster} {globalConfig : OperatorConfig}
    {secrets : GoMap Secret} {resolver : PatchMetaResolver} {raw : RawConfig} {c : Config} {warning : Option String}
    (hnew : newConfig lib cluster globalConfig secrets resolver = .ok (.ok c, warning))
    (hraw : cluster.spec.config = some (.ok raw)) :
    ((c.envVars lib).map (·.name)).Nodup ∧ ((c.jobEnvVars lib).map (·.name)).Nodup ↔
      Set.InjOn (envSuffix lib) (c.passedKeys raw) ∧
      (toUpper (trimSuffix (Key.envPrefix.pop raw).1 "_") = trimSuffix (Key.envPrefix.pop raw).1 "_" →
        ∀ k ∈ c.passedKeys raw, ∀ own ∈ c.ownVars ++ c.jobOwnVars,
          envSuffix lib k ≠ trailing (Key.envPrefix.pop raw).1 ++ "_" ++ own) := by
  obtain ⟨henv, hkeys⟩ := newConfig_passthrough hnew hraw
  have hpassed : ∀ k, k ∈ c.spice.passthrough ↔ k ∈ c.passedKeys raw := hkeys
  rw [Config.envVars_names, Config.jobEnvVars_names, Config.namesWith_nodup_iff c.ownVars_nodup,
    Config.namesWith_nodup_iff c.jobOwnVars_nodup]
  simp only [hpassed, henv, ne_eq, ownName_eq_iff, not_and, List.mem_append]
  constructor
  · rintro ⟨⟨hinj, hown⟩, -, hjob⟩
    refine ⟨fun k hk k' hk' => hinj k hk k' hk', fun hupper k hk own hmem => ?_⟩
    rcases hmem with hmem | hmem
    · exact hown own hmem k hk hupper
    · exact hjob own hmem k hk hupper
  · rintro ⟨hinj, hown⟩
    have hinj' : ∀ k ∈ c.passedKeys raw, ∀ k' ∈ c.passedKeys raw, envSuffix lib k = envSuffix lib k' → k = k' :=
      fun k hk k' hk' => hinj hk hk'
    exact ⟨⟨hinj', fun own hmem k hk hupper => hown hupper k hk own (Or.inl hmem)⟩,
      hinj', fun own hmem k hk hupper => hown hupper k hk own (Or.inr hmem)⟩

/-- A passthrough key with the words of the dispatch address. -/
theorem dispatchUpstreamAddr_collides :
    ∃ config warning, newConfig casewise (configured [("dispatchUpstreamAddr", .string "elsewhere")])
        { imageName := "spicedb", updateGraph := UpdateGraph.twoReleases } ∅ plainResolver = .ok (.ok config, warning) ∧
      ((config.envVars casewise).map (·.name)).count "SPICEDB_DISPATCH_UPSTREAM_ADDR" = 2 ∧
      ¬ ((config.envVars casewise).map (·.name)).Nodup := by
  obtain ⟨config, warning, hconfig, hnames⟩ := exists_of_returnedConfig (b := 2)
    (f := fun c => ((c.envVars casewise).map (·.name)).count "SPICEDB_DISPATCH_UPSTREAM_ADDR")
    (r := newConfig casewise (configured [("dispatchUpstreamAddr", .string "elsewhere")])
      { imageName := "spicedb", updateGraph := UpdateGraph.twoReleases } ∅ plainResolver) (by decide)
  refine ⟨config, warning, hconfig, hnames, fun hdistinct => ?_⟩
  have hle := List.nodup_iff_count_le_one.1 hdistinct "SPICEDB_DISPATCH_UPSTREAM_ADDR"
  omega

/-- The operator's keys and one that is passed on. -/
def maxConnAgeKeys : List String :=
  ["datastoreEngine", "dispatchClusterEnabled", "terminationLogPath", "grpcMaxConnAge"]

theorem maxConnAge_distinct :
    ∃ config warning, newConfig casewise (configured [("grpcMaxConnAge", .string "30s")])
        { imageName := "spicedb", updateGraph := UpdateGraph.twoReleases } ∅ plainResolver = .ok (.ok config, warning) ∧
      ((config.envVars casewise).map (·.name)).Nodup ∧ ((config.jobEnvVars casewise).map (·.name)).Nodup := by
  obtain ⟨config, warning, hconfig, hsettings⟩ := exists_of_returnedConfig
    (b := (["datastoreEngine", "dispatchClusterEnabled", "terminationLogPath"],
      ["POD_NAME", "LOG_LEVEL", "DISPATCH_UPSTREAM_ADDR", "LOG_LEVEL"]))
    (f := fun c => (c.operatorKeys, c.ownVars ++ c.jobOwnVars))
    (r := newConfig casewise (configured [("grpcMaxConnAge", .string "30s")])
      { imageName := "spicedb", updateGraph := UpdateGraph.twoReleases } ∅ plainResolver) (by decide)
  obtain ⟨hset, hown⟩ := Prod.mk.inj hsettings
  refine ⟨config, warning, hconfig, (env_names_distinct_iff hconfig rfl).2 ?_⟩
  -- the keys that are passed on
  have hpassed : ∀ raw, raw = mapOf [("datastoreEngine", Any.string "postgres"), ("skipTLSWarning", .bool true),
      ("grpcMaxConnAge", .string "30s")] → ∀ k ∈ config.passedKeys raw,
      k ∈ maxConnAgeKeys := by
    unfold maxConnAgeKeys
    rintro _ rfl k (hk | ⟨hk, hoption, -⟩)
    · rw [hset] at hk
      simp only [List.mem_cons, List.not_mem_nil, or_false] at hk ⊢
      tauto
    · simp only [mem_mapOf, List.mem_cons, List.not_mem_nil, or_false, exists_eq_or_imp, exists_eq_left] at hk ⊢
      rcases hk with rfl | rfl | rfl
      · exact Or.inl rfl
      · exact absurd hoption (by simp [optionKeys])
      · simp
  have hsuffixes : maxConnAgeKeys.map (envSuffix casewise) =
      ["_DATASTORE_ENGINE", "_DISPATCH_CLUSTER_ENABLED", "_TERMINATION_LOG_PATH", "_GRPC_MAX_CONN_AGE"] := by
    decide
  have hinj : ∀ k ∈ maxConnAgeKeys, ∀ k' ∈ maxConnAgeKeys, envSuffix casewise k = envSuffix casewise k' → k = k' := by
    intro k hk k' hk'
    refine List.inj_on_of_nodup_map ?_ hk hk'
    rw [hsuffixes]
    decide
  have hfree : ∀ k ∈ maxConnAgeKeys, ∀ own ∈ ["POD_NAME", "LOG_LEVEL", "DISPATCH_UPSTREAM_ADDR", "LOG_LEVEL"],
      envSuffix casewise k ≠ trailing "SPICEDB" ++ "_" ++ own := by
    intro k hk
    have hmem := List.mem_map_of_mem (f := envSuffix casewise) hk
    rw [hsuffixes] at hmem
    generalize envSuffix casewise k = suffix at hmem
    revert suffix
    decide
  refine ⟨fun k hk k' hk' => hinj k (hpassed _ rfl k hk) k' (hpassed _ rfl k' hk'), fun _ k hk => ?_⟩
  rw [hown]
  exact hfree k (hpassed _ rfl k hk)

/-! ## One prefix -/

/-- The env prefix as `toEnvVarName` writes it. -/
def normalisedPrefix (pre : String) : String := toUpper (trimSuffix pre "_") ++ "_"

theorem ownName_starts_iff {pre own : String} :
    (normalisedPrefix pre).toList <+: (pre ++ "_" ++ own).toList ↔
      toUpper (trimSuffix pre "_") = trimSuffix pre "_" := by
  rw [ownName_parts, normalisedPrefix, String.toList_append, String.toList_append]
  constructor
  · rintro ⟨rest, hrest⟩
    rw [List.append_assoc] at hrest
    exact String.toList_inj.1 (List.append_inj_left hrest (length_toUpper _))
  · intro hupper
    rw [hupper, List.prefix_append_right_inj]
    unfold trailing
    split_ifs <;> simp

theorem toEnvVarName_starts_iff {lib : Libraries} {pre key : String} :
    (normalisedPrefix pre).toList <+: (toEnvVarName lib pre key).toList ↔ lib.camelcaseSplit key ≠ [] := by
  rw [toEnvVarName_eq, normalisedPrefix, String.toList_append, String.toList_append, List.prefix_append_right_inj,
    envSuffix]
  cases lib.camelcaseSplit key <;> simp

/-- The empty key is the operator's neither to set nor to take. -/
theorem empty_mem_passedKeys {c : Config} {raw : RawConfig} : "" ∈ c.passedKeys raw ↔ "" ∈ raw := by
  have hset : "" ∉ c.operatorKeys := by
    simp [Config.operatorKeys, addedKeys, Key.tlsPaths]
  have htaken : "" ∉ optionKeys c.spice.tlsSecretName := by
    simp [optionKeys, nameKeys, tlsKeys, Key.tlsPaths]
  have hkept : stripped "" = false := by decide
  simp [Config.passedKeys, Config.PassesOn, hset, htaken, hkept]

namespace Config

variable {lib : Libraries} {c : Config}

theorem logLevel_mem_ownVars : "LOG_LEVEL" ∈ c.ownVars := by simp [ownVars]

theorem logLevel_mem_jobOwnVars : "LOG_LEVEL" ∈ c.jobOwnVars := by simp [jobOwnVars]

theorem namesWith_starts_iff (hsplit : ∀ key, lib.camelcaseSplit key = [] ↔ key = "") {own : List String}
    (hlog : "LOG_LEVEL" ∈ own) :
    (∀ name ∈ c.namesWith lib own, (normalisedPrefix c.spice.envPrefix).toList <+: name.toList) ↔
      toUpper (trimSuffix c.spice.envPrefix "_") = trimSuffix c.spice.envPrefix "_" ∧ "" ∉ c.spice.passthrough := by
  simp only [namesWith, List.forall_mem_append, List.forall_mem_map, ownName_starts_iff, toEnvVarName_starts_iff, ne_eq,
    hsplit, List.mem_insertionSort, ← AList.mem_keys]
  constructor
  · rintro ⟨hown, hkeys⟩
    exact ⟨hown _ hlog, fun hempty => hkeys "" hempty rfl⟩
  · rintro ⟨hupper, hempty⟩
    exact ⟨fun _ _ => hupper, fun k hk h => hempty (h ▸ hk)⟩

/-- The variables built by hand come first. -/
theorem namesWith_own_iff {own : List String} (hlog : "LOG_LEVEL" ∈ own) :
    (c.namesWith lib own).take own.length = own.map (normalisedPrefix c.spice.envPrefix ++ ·) ↔
      toUpper (trimSuffix c.spice.envPrefix "_") = c.spice.envPrefix := by
  rw [namesWith, List.take_left' (List.length_map _), List.map_inj_left, normalisedPrefix]
  constructor
  · intro h
    exact ((String.append_left_inj _).1 ((String.append_left_inj _).1 (h _ hlog))).symm
  · intro h own _
    rw [h]

end Config

/-- **When there is one prefix**: the variables of both containers start with the normalised prefix exactly if the
prefix is in upper case but for a trailing underscore and the raw config does not set the empty key; those built by hand
are that prefix and their own name exactly if the prefix is in upper case and has no trailing underscore. -/
theorem env_prefix_iff {lib : Libraries} (hsplit : ∀ key, lib.camelcaseSplit key = [] ↔ key = "")
    {cluster : SpiceDBCluster} {globalConfig : OperatorConfig} {secrets : GoMap Secret} {resolver : PatchMetaResolver}
    {raw : RawConfig} {c : Config} {warning : Option String}
    (hnew : newConfig lib cluster globalConfig secrets resolver = .ok (.ok c, warning))
    (hraw : cluster.spec.config = some (.ok raw)) :
    ((∀ v ∈ c.envVars lib ++ c.jobEnvVars lib, (normalisedPrefix (Key.envPrefix.pop raw).1).toList <+: v.name.toList) ↔
      toUpper (trimSuffix (Key.envPrefix.pop raw).1 "_") = trimSuffix (Key.envPrefix.pop raw).1 "_" ∧ "" ∉ raw) ∧
    ((((c.envVars lib).map (·.name)).take c.ownVars.length =
          c.ownVars.map (normalisedPrefix (Key.envPrefix.pop raw).1 ++ ·) ∧
        ((c.jobEnvVars lib).map (·.name)).take c.jobOwnVars.length =
          c.jobOwnVars.map (normalisedPrefix (Key.envPrefix.pop raw).1 ++ ·)) ↔
      toUpper (trimSuffix (Key.envPrefix.pop raw).1 "_") = (Key.envPrefix.pop raw).1) := by
  obtain ⟨henv, hkeys⟩ := newConfig_passthrough hnew hraw
  have hempty : "" ∈ c.spice.passthrough ↔ "" ∈ raw := (hkeys "").trans empty_mem_passedKeys
  rw [← henv, ← hempty, Config.envVars_names, Config.jobEnvVars_names,
    Config.namesWith_own_iff Config.logLevel_mem_ownVars, Config.namesWith_own_iff Config.logLevel_mem_jobOwnVars,
    and_self]
  refine ⟨?_, Iff.rfl⟩
  have hnames : ∀ (vars : List EnvVar),
      (∀ v ∈ vars, (normalisedPrefix c.spice.envPrefix).toList <+: v.name.toList) ↔
        ∀ name ∈ vars.map (·.name), (normalisedPrefix c.spice.envPrefix).toList <+: name.toList := by
    simp only [List.forall_mem_map, implies_true]
  rw [List.forall_mem_append, hnames, hnames, Config.envVars_names, Config.jobEnvVars_names,
    Config.namesWith_starts_iff hsplit Config.logLevel_mem_ownVars,
    Config.namesWith_starts_iff hsplit Config.logLevel_mem_jobOwnVars, and_self]

/-- A prefix in lower case is as it is in front of the log level, but not in front of the engine. -/
theorem lowerCasePrefix_differs :
    ∃ config warning, newConfig casewise (configured [("envPrefix", .string "acme")])
        { imageName := "spicedb", updateGraph := UpdateGraph.twoReleases } ∅ plainResolver = .ok (.ok config, warning) ∧
      "acme_LOG_LEVEL" ∈ (config.envVars casewise).map (·.name) ∧
      "ACME_DATASTORE_ENGINE" ∈ (config.envVars casewise).map (·.name) ∧
      ¬ ∀ v ∈ config.envVars casewise ++ config.jobEnvVars casewise,
        (normalisedPrefix "acme").toList <+: v.name.toList := by
  obtain ⟨config, warning, hconfig, hnames⟩ := exists_of_returnedConfig
    (b := (true, true, false))
    (f := fun c => (decide ("acme_LOG_LEVEL" ∈ (c.envVars casewise).map (·.name)),
      decide ("ACME_DATASTORE_ENGINE" ∈ (c.envVars casewise).map (·.name)),
      decide (∀ v ∈ c.envVars casewise ++ c.jobEnvVars casewise, (normalisedPrefix "acme").toList <+: v.name.toList)))
    (r := newConfig casewise (configured [("envPrefix", .string "acme")])
      { imageName := "spicedb", updateGraph := UpdateGraph.twoReleases } ∅ plainResolver) (by decide)
  simp only [Prod.mk.injEq, decide_eq_true_eq, decide_eq_false_iff_not] at hnames
  exact ⟨config, warning, hconfig, hnames⟩

theorem upperCasePrefix_same :
    ∃ config warning, newConfig casewise (configured [("envPrefix", .string "ACME")])
        { imageName := "spicedb", updateGraph := UpdateGraph.twoReleases } ∅ plainResolver = .ok (.ok config, warning) ∧
      ∀ v ∈ config.envVars casewise ++ config.jobEnvVars casewise,
        (normalisedPrefix "ACME").toList <+: v.name.toList := by
  obtain ⟨config, warning, hconfig, -⟩ := exists_of_returnedConfig (b := ()) (f := fun _ => ())
    (r := newConfig casewise (configured [("envPrefix", .string "ACME")])
      { imageName := "spicedb", updateGraph := UpdateGraph.twoReleases } ∅ plainResolver) (by decide)
  exact ⟨config, warning, hconfig, (env_prefix_iff camelWords_eq_nil_iff hconfig rfl).1.2 (by decide)⟩

end SpiceDBOperator
