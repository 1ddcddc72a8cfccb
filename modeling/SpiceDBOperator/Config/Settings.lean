import SpiceDBOperator.Config.Patched
import SpiceDBOperator.Golang.Reorder

/-!
# The settings of a raw config, and what `NewConfig` makes of them

`NewConfig` pops its settings one by one and collects errors and warnings on the way. Here the popping is taken apart
from the rest: `settings` looks each setting up in the raw config as the user wrote it, and the config, the errors and
the warnings are functions of the settings (`Settings.config`, `Settings.errs`, `Settings.warnings`). `newConfig_eq`
says that the code comes to the same. Only `ComputeTarget` can fault.
-/

namespace SpiceDBOperator

open Golang Hoare Read

/-! ## What is left of the raw config -/

def RawConfig.without (raw : RawConfig) (ks : List String) : RawConfig := ks.foldl (fun config k => config.erase k) raw

theorem RawConfig.without_append (raw : RawConfig) (ks ks' : List String) :
    raw.without (ks ++ ks') = (raw.without ks).without ks' := List.foldl_append ..

theorem RawConfig.without_lookup (raw : RawConfig) (ks : List String) (k : String) :
    (raw.without ks).lookup k = if k ∈ ks then none else raw.lookup k := by
  induction ks generalizing raw with
  | nil => rfl
  | cons k' rest ih =>
    have hstep : raw.without (k' :: rest) = RawConfig.without (raw.erase k') rest := rfl
    rw [hstep, ih]
    by_cases hk : k = k'
    · subst hk
      simp [AList.lookup_erase]
    · simp [hk, AList.lookup_erase_ne hk]

theorem RawConfig.without_lookup_ne {raw : RawConfig} {ks : List String} {k : String} (hk : k ∉ ks) :
    (raw.without ks).lookup k = raw.lookup k := by rw [without_lookup, if_neg hk]

theorem RawConfig.without_keys (raw : RawConfig) (ks : List String) :
    (raw.without ks).keys = ks.foldl (fun l k => l.erase k) raw.keys := by
  induction ks generalizing raw with
  | nil => rfl
  | cons k rest ih =>
    rw [List.foldl_cons, ← AList.keys_erase]
    exact ih (raw.erase k)

/-- Popping a key that is not there changes nothing. -/
theorem RawConfig.erase_absent {config : RawConfig} {k : String} (hk : k ∉ config) : config.erase k = config :=
  AList.ext (List.kerase_of_notMem_keys hk)

/-- The reading once the keys `ks` are popped. -/
def popped (raw : RawConfig) (ks errs warnings : List String) : Reading := { config := raw.without ks, errs, warnings }

section

variable {α : Type} {raw : RawConfig} {ks errs warnings : List String}

theorem exec_fail (err : String) :
    exec (fail err) (popped raw ks errs warnings) = (.ok (), popped raw ks (errs ++ [err]) warnings) := rfl

theorem exec_failAll (es : List String) :
    exec (failAll es) (popped raw ks errs warnings) = (.ok (), popped raw ks (errs ++ es) warnings) := rfl

theorem exec_warn (warning : String) :
    exec (warn warning) (popped raw ks errs warnings) = (.ok (), popped raw ks errs (warnings ++ [warning])) := rfl

theorem exec_warnAll (ws : List String) :
    exec (warnAll ws) (popped raw ks errs warnings) = (.ok (), popped raw ks errs (warnings ++ ws)) := rfl

theorem exec_remaining :
    exec remaining (popped raw ks errs warnings) = (.ok (raw.without ks), popped raw ks errs warnings) := rfl

theorem exec_pure (a : α) :
    exec (pure a : Read α) (popped raw ks errs warnings) = (.ok a, popped raw ks errs warnings) :=
  rfl

theorem exec_pop {f : RawConfig → α × RawConfig} {k : String} (hrest : ∀ config, (f config).2 = config.erase k)
    (hvalue : (f (raw.without ks)).1 = (f raw).1) :
    exec (pop f) (popped raw ks errs warnings) = (.ok (f raw).1, popped raw (ks ++ [k]) errs warnings) := by
  change (Except.ok (f (raw.without ks)).1, Reading.mk (f (raw.without ks)).2 errs warnings) = _
  rw [hvalue, hrest, popped, RawConfig.without_append]
  rfl

theorem Key.pop_without (k : Key) (raw : RawConfig) (ks : List String) (hk : k.key ∉ ks) :
    k.pop (raw.without ks) = ((k.pop raw).1, raw.without (ks ++ [k.key])) := by
  rw [RawConfig.without_append]
  exact Prod.ext (k.pop_value (RawConfig.without_lookup_ne hk)) (k.pop_rest _)

theorem exec_popKey (k : Key) (hk : k.key ∉ ks) :
    exec (pop k.pop) (popped raw ks errs warnings) = (.ok (k.pop raw).1, popped raw (ks ++ [k.key]) errs warnings) :=
  exec_pop k.pop_rest (k.pop_value (RawConfig.without_lookup_ne hk))

theorem BoolOrStringKey.pop_value (key : BoolOrStringKey) {config config' : RawConfig}
    (h : config.lookup key.key = config'.lookup key.key) : (key.pop config).1 = (key.pop config').1 := by
  unfold BoolOrStringKey.pop
  rw [h]
  cases config'.lookup key.key with
  | none => rfl
  | some v =>
    cases v with
    | string s => cases hparse : parseBool s <;> simp [hparse]
    | _ => rfl

/-- A number is read from the text of its setting. -/
theorem IntOrStringKey.pop_eq (key : IntOrStringKey) (config : RawConfig) :
    (key.pop config).1 =
      match (config.lookup key.key).map Any.text with
      | none => (key.defaultValue, none)
      | some text =>
        match parseInt32 text with
        | .ok n => (n, none)
        | .error err => (0, some err) := by
  unfold IntOrStringKey.pop
  cases config.lookup key.key with
  | none => rfl
  | some v => cases hparse : parseInt32 v.text <;> simp [hparse]

theorem IntOrStringKey.pop_text (key : IntOrStringKey) {config config' : RawConfig}
    (h : (config.lookup key.key).map Any.text = (config'.lookup key.key).map Any.text) :
    (key.pop config).1 = (key.pop config').1 := by rw [key.pop_eq, key.pop_eq, h]

theorem MetadataSetKey.pop_value (key : MetadataSetKey) (objectType metadataType : String) {config config' : RawConfig}
    (h : config.lookup key = config'.lookup key) :
    (key.pop objectType metadataType config).1 = (key.pop objectType metadataType config').1 := by
  unfold MetadataSetKey.pop
  rw [h]
  cases config'.lookup key with
  | none => rfl
  | some v => cases v <;> rfl

end

/-! ## The settings -/

/-- The value of a part of the reading, with the errors and warnings it adds. -/
structure Yield (α : Type) where
  value : α
  errs : List String := []
  warnings : List String := []

def namesOf (cluster : SpiceDBCluster) (raw : RawConfig) : SpiceConfig × MigrationConfig :=
  ({ name := cluster.name, nameSpace := cluster.nameSpace, uid := cluster.uid
     tlsSecretName := (Key.tlsSecretName.pop raw).1
     serviceAccountName :=
       if (Key.serviceAccountName.pop raw).1 = "" then cluster.name else (Key.serviceAccountName.pop raw).1
     dispatchUpstreamCASecretName := (Key.dispatchCA.pop raw).1
     dispatchUpstreamCASecretPath := (Key.dispatchCAFilePath.pop raw).1
     telemetryTLSCASecretName := (Key.telemetryCA.pop raw).1
     envPrefix := (Key.envPrefix.pop raw).1
     spiceDBCmd := (Key.spiceDBCmd.pop raw).1
     logLevel := (Key.logLevel.pop raw).1 },
   { migrationLogLevel := (Key.migrationLogLevel.pop raw).1
     spannerCredsSecretRef := (Key.spannerCredentials.pop raw).1
     envPrefix := (Key.envPrefix.pop raw).1
     spiceDBCmd := (Key.spiceDBCmd.pop raw).1
     datastoreTLSSecretName := (Key.datastoreTLSSecret.pop raw).1
     targetMigration := (Key.targetMigration.pop raw).1
     targetPhase := (Key.targetPhase.pop raw).1 })

/-- The keys of the disruption budget that have a meaning. -/
def pdbKeys : List String := [BoolOrStringKey.pdbDisabled.key, Key.pdbMaxUnavailable.key, Key.pdbMinAvailable.key]

def pdbFields (pdbConfig : RawConfig) : Yield PDBConfig :=
  let disabled := (BoolOrStringKey.pdbDisabled.pop pdbConfig).1
  let maxUnavailable := (Key.pdbMaxUnavailable.pop pdbConfig).1
  let minAvailable := (Key.pdbMinAvailable.pop pdbConfig).1
  { value :=
      { disabled := disabled.1, maxUnavailable := pdbValue maxUnavailable, minAvailable := pdbValue minAvailable }
    errs := disabled.2.toList ++
      if maxUnavailable ≠ "" ∧ minAvailable ≠ "" then
        ["only one of pdb.maxUnavailable or pdb.minAvailable can be set"]
      else []
    warnings := (pdbConfig.without pdbKeys).keys.map fun k => "unknown key " ++ quote k ++ " in pdb config" }

def pdbOf (raw : RawConfig) : Yield PDBConfig :=
  match raw.lookup Key.pdb with
  | none => { value := {} }
  | some (.object fields) => pdbFields (mapOf fields)
  | some _ => { value := {}, errs := ["expected object for key " ++ quote Key.pdb] }

def replicasOf (datastoreEngine : String) (raw : RawConfig) : Int × Option String :=
  ((if datastoreEngine = "memory" then IntOrStringKey.replicasForMemory else IntOrStringKey.replicas).pop raw).1

/-- The keys popped on the way, in order; the TLS paths follow. -/
def poppedKeys : List String :=
  ["version", "channel", "tlsSecretName", "serviceAccountName", "dispatchUpstreamCASecretName",
    "dispatchUpstreamCAFilePath", "telemetryCASecretName", "envPrefix", "cmd", "logLevel", "migrationLogLevel",
    "spannerCredentials", "datastoreTLSSecretName", "targetMigration", "datastoreMigrationPhase", "datastoreEngine",
    "projectLabels", "projectAnnotations", "image", "dispatchEnabled", "skipTLSWarning", "replicas", "skipMigrations",
    "extraPodLabels", "extraPodAnnotations", "extraServiceAccountAnnotations", "pdb"]

/-- The TLS paths that are read. -/
def tlsPathsFor (tlsSecretName : String) : List Key := if tlsSecretName ≠ "" then Key.tlsPaths else []

theorem mem_tlsPaths {tlsSecretName : String} {k : Key} (h : k ∈ tlsPathsFor tlsSecretName) : k ∈ Key.tlsPaths := by
  unfold tlsPathsFor at h
  split_ifs at h
  · exact h
  · cases h

structure Settings where
  /-- Those of the two ignored keys that are there. -/
  ignored : List String
  names : SpiceConfig × MigrationConfig
  datastoreEngine : String
  projectLabels : Bool × Option String
  projectAnnotations : Bool × Option String
  dispatchEnabled : Bool × Option String
  skipTLSWarning : Bool × Option String
  replicas : Int × Option String
  skipMigrations : Bool × Option String
  extraPodLabels : MetadataSet
  extraPodAnnotations : MetadataSet
  extraServiceAccountAnnotations : MetadataSet
  pdb : Yield PDBConfig
  tlsPaths : List (String × String)
  /-- What goes on to SpiceDB. -/
  rest : RawConfig

def settings (cluster : SpiceDBCluster) (raw : RawConfig) : Settings :=
  let datastoreEngine := (Key.datastoreEngine.pop raw).1
  let tlsPaths := tlsPathsFor (Key.tlsSecretName.pop raw).1
  { ignored := ["version", "channel"].filter (· ∈ raw)
    names := namesOf cluster raw
    datastoreEngine
    projectLabels := (BoolOrStringKey.projectLabels.pop raw).1
    projectAnnotations := (BoolOrStringKey.projectAnnotations.pop raw).1
    dispatchEnabled := (BoolOrStringKey.dispatchEnabled.pop raw).1
    skipTLSWarning := (BoolOrStringKey.skipTLSWarning.pop raw).1
    replicas := replicasOf datastoreEngine raw
    skipMigrations := (BoolOrStringKey.skipMigrations.pop raw).1
    extraPodLabels := (MetadataSetKey.extraPodLabels.pop "pod" "label" raw).1
    extraPodAnnotations := (MetadataSetKey.extraPodAnnotations.pop "pod" "annotation" raw).1
    extraServiceAccountAnnotations :=
      (MetadataSetKey.extraServiceAccountAnnotations.pop "service account" "annotation" raw).1
    pdb := pdbOf raw
    tlsPaths := tlsPaths.map fun k => (k.key, (k.pop raw).1)
    rest := raw.without (poppedKeys ++ tlsPaths.map (·.key)) }

theorem settings_rest_eq (cluster : SpiceDBCluster) (raw : RawConfig) : (settings cluster raw).rest =
    raw.without (poppedKeys ++ (tlsPathsFor (Key.tlsSecretName.pop raw).1).map (·.key)) := by rw [settings]

/-! ## The parts of the reading -/

section

variable {raw : RawConfig} {ks errs warnings : List String}

theorem dropIgnored_exec (raw : RawConfig) :
    exec dropIgnored { config := raw } =
      (.ok (), popped raw ["version", "channel"] []
        ((["version", "channel"].filter (· ∈ raw)).map fun k =>
          ".spec.config." ++ k ++ " is ignored; use .spec." ++ k ++ " instead")) := by
  have one : ∀ (k : String) (ks warnings : List String), k ∉ ks →
      exec (do
        let config ← remaining
        if k ∈ config then
          warn (".spec.config." ++ k ++ " is ignored; use .spec." ++ k ++ " instead")
          pop fun config => ((), config.erase k)) (popped raw ks [] warnings) =
        (.ok (), popped raw (ks ++ [k]) []
          (warnings ++ if k ∈ raw then [".spec.config." ++ k ++ " is ignored; use .spec." ++ k ++ " instead"]
            else [])) := by
    intro k ks warnings hk
    have hmem : k ∈ raw.without ks ↔ k ∈ raw := by
      rw [mem_iff_lookup, mem_iff_lookup, RawConfig.without_lookup_ne hk]
    refine (exec_bind_ok exec_remaining _).trans ?_
    by_cases hthere : k ∈ raw
    · rw [if_pos (hmem.2 hthere), if_pos hthere]
      exact (exec_bind_ok (exec_warn _) _).trans (exec_pop (fun _ => rfl) rfl)
    · have hsame : raw.without (ks ++ [k]) = raw.without ks := by
        rw [RawConfig.without_append]
        exact RawConfig.erase_absent (mt hmem.1 hthere)
      rw [if_neg (mt hmem.1 hthere), if_neg hthere, List.append_nil, popped, popped, hsame]
      rfl
  simp only [dropIgnored, each]
  refine (exec_bind_ok (one "version" [] [] (by decide)) _).trans ?_
  refine (exec_bind_ok (one "channel" ["version"] _ (by decide)) _).trans ?_
  refine congrArg (fun ws => (Except.ok (), popped raw ["version", "channel"] [] ws)) ?_
  by_cases hversion : "version" ∈ raw <;> by_cases hchannel : "channel" ∈ raw <;> simp [hversion, hchannel]

theorem readNames_exec (cluster : SpiceDBCluster) :
    exec (readNames cluster) (popped raw ["version", "channel"] errs warnings) =
      (.ok (namesOf cluster raw), popped raw (poppedKeys.take 15) errs warnings) := by
  unfold readNames
  iterate 13 refine (exec_bind_ok (exec_popKey _ (by decide)) _).trans ?_
  rfl

theorem readEngine_exec (hk : Key.datastoreEngine.key ∉ ks) :
    exec readEngine (popped raw ks errs warnings) =
      (.ok (Key.datastoreEngine.pop raw).1, popped raw (ks ++ [Key.datastoreEngine.key])
        (errs ++ if (Key.datastoreEngine.pop raw).1 = "" then ["datastoreEngine is a required field"] else [])
          warnings) := by
  refine (exec_bind_ok (exec_popKey _ hk) _).trans ?_
  split_ifs with hempty
  · exact (exec_bind_ok (exec_fail _) _).trans rfl
  · rw [List.append_nil]
    rfl

theorem readProjection_exec (k : BoolOrStringKey) (hk : k.key ∉ ks) :
    exec (readProjection k) (popped raw ks errs warnings) =
      (.ok (k.pop raw).1.1, popped raw (ks ++ [k.key]) errs
        (warnings ++ ((k.pop raw).1.2.map ("defaulting to false: " ++ ·)).toList)) := by
  refine (exec_bind_ok (exec_pop k.pop_rest (k.pop_value (RawConfig.without_lookup_ne hk))) _).trans ?_
  rcases (k.pop raw).1 with ⟨b, _ | err⟩
  · simp only [Option.map_none, Option.toList_none, List.append_nil]
    rfl
  · rfl

theorem readFlag_exec (k : BoolOrStringKey) (hk : k.key ∉ ks) :
    exec (readFlag k) (popped raw ks errs warnings) =
      (.ok (k.pop raw).1.1, popped raw (ks ++ [k.key]) (errs ++ (k.pop raw).1.2.toList) warnings) := by
  refine (exec_bind_ok (exec_pop k.pop_rest (k.pop_value (RawConfig.without_lookup_ne hk))) _).trans ?_
  rcases (k.pop raw).1 with ⟨b, _ | err⟩
  · simp only [Option.toList_none, List.append_nil]
    rfl
  · rfl

/-- The call of `ComputeTarget` and its error. -/
theorem readTarget_exec {lib : Libraries} {cluster : SpiceDBCluster} {globalConfig : OperatorConfig}
    (hraw : cluster.spec.config = some (.ok raw)) (datastoreEngine : String) (hk : Key.image.key ∉ ks) :
    exec (readTarget lib globalConfig cluster datastoreEngine) (popped raw ks errs warnings) =
      match globalConfig.targetOf lib cluster datastoreEngine with
      | .error fault => (.error fault, popped raw (ks ++ [Key.image.key]) errs warnings)
      | .ok target => (.ok target, popped raw (ks ++ [Key.image.key])
          (errs ++ (target.err.map (·.textIn lib.mapsKeys)).toList) warnings) := by
  have himage : cluster.spec.imageSetting = (Key.image.pop raw).1 := by simp only [ClusterSpec.imageSetting, hraw]
  refine (exec_bind_ok (exec_popKey _ hk) _).trans ?_
  rw [OperatorConfig.targetOf, himage]
  cases globalConfig.updateGraph.computeTarget globalConfig.imageName cluster.spec.baseImage (Key.image.pop raw).1
      cluster.spec.version cluster.spec.channel datastoreEngine cluster.status.currentVersion
      (cluster.rolloutInProgress lib) with
  | error fault => rfl
  | ok target =>
    refine (exec_bind_ok (exec_pure target) _).trans ?_
    rcases target with ⟨baseImage, version, state, _ | err⟩
    · simp only [Option.map_none, Option.toList_none, List.append_nil]
      rfl
    · rfl

theorem readTarget_returned {lib : Libraries} {cluster : SpiceDBCluster} {globalConfig : OperatorConfig}
    (hraw : cluster.spec.config = some (.ok raw)) {datastoreEngine : String} {target : Target}
    (htarget : globalConfig.targetOf lib cluster datastoreEngine = .ok target) (hk : Key.image.key ∉ ks) :
    exec (readTarget lib globalConfig cluster datastoreEngine) (popped raw ks errs warnings) =
      (.ok target, popped raw (ks ++ [Key.image.key])
        (errs ++ (target.err.map (·.textIn lib.mapsKeys)).toList) warnings) := by
  rw [readTarget_exec hraw datastoreEngine hk, htarget]

def imageOf (target : Target) : Yield String :=
  if target.state.digest ≠ "" then { value := target.baseImage ++ "@" ++ target.state.digest }
  else if target.state.tag ≠ "" then { value := target.baseImage ++ ":" ++ target.state.tag }
  else { value := "", errs := ["no update found in channel"] }

theorem readImage_exec (target : Target) :
    exec (readImage target) (popped raw ks errs warnings) =
      (.ok (imageOf target).value, popped raw ks (errs ++ (imageOf target).errs) warnings) := by
  unfold readImage imageOf
  split_ifs
  · rw [List.append_nil]
    rfl
  · rw [List.append_nil]
    rfl
  · rfl

theorem readReplicas_exec (datastoreEngine : String) (hk : "replicas" ∉ ks) :
    exec (readReplicas datastoreEngine) (popped raw ks errs warnings) =
      (.ok (replicasOf datastoreEngine raw).1, popped raw (ks ++ ["replicas"])
        (errs ++ ((replicasOf datastoreEngine raw).2.map fun err =>
          "invalid value for replicas '\\x00': " ++ err).toList ++
          if 1 < (replicasOf datastoreEngine raw).1 ∧ datastoreEngine = "memory" then
            ["cannot set replicas > 1 for memory engine"]
          else []) warnings) := by
  have hpop : ∀ key : IntOrStringKey, key.key = "replicas" →
      exec (pop key.pop) (popped raw ks errs warnings) =
        (.ok (key.pop raw).1, popped raw (ks ++ ["replicas"]) errs warnings) := by
    intro key hkey
    rw [← hkey] at hk ⊢
    exact exec_pop key.pop_rest (key.pop_text (by rw [RawConfig.without_lookup_ne hk]))
  refine (exec_bind_ok (hpop _ (by split <;> rfl)) _).trans ?_
  refine (exec_bind_ok (exec_failAll _) _).trans ?_
  change exec (if 1 < (replicasOf datastoreEngine raw).1 ∧ datastoreEngine = "memory" then _ else _) _ = _
  by_cases hmany : 1 < (replicasOf datastoreEngine raw).1 ∧ datastoreEngine = "memory"
  · rw [if_pos hmany, if_pos hmany]
    rfl
  · rw [if_neg hmany, if_neg hmany, List.append_nil]
    rfl

theorem readMetadata_exec (k : MetadataSetKey) (objectType metadataType : String) (hk : k ∉ ks) :
    exec (readMetadata k objectType metadataType) (popped raw ks errs warnings) =
      (.ok (k.pop objectType metadataType raw).1.metadata, popped raw (ks ++ [k])
        (errs ++ (k.pop objectType metadataType raw).1.err.toList)
        (warnings ++ (k.pop objectType metadataType raw).1.warnings)) := by
  refine (exec_bind_ok (exec_pop (k.pop_rest objectType metadataType)
    (k.pop_value objectType metadataType (RawConfig.without_lookup_ne hk))) _).trans ?_
  refine (exec_bind_ok (exec_failAll _) _).trans ?_
  exact exec_bind_ok (exec_warnAll _) _

theorem readPDB_exec (hk : Key.pdb ∉ ks) :
    exec readPDB (popped raw ks errs warnings) =
      (.ok (pdbOf raw).value, popped raw (ks ++ [Key.pdb]) (errs ++ (pdbOf raw).errs)
        (warnings ++ (pdbOf raw).warnings)) := by
  have hlookup : (raw.without ks).lookup Key.pdb = raw.lookup Key.pdb := RawConfig.without_lookup_ne hk
  refine (exec_bind_ok exec_remaining _).trans ?_
  rw [hlookup]
  unfold pdbOf
  cases hpdb : raw.lookup Key.pdb with
  | none =>
    have habsent : Key.pdb ∉ raw.without ks := AList.lookup_eq_none.1 (hlookup.trans hpdb)
    have hsame : raw.without (ks ++ [Key.pdb]) = raw.without ks := by
      rw [RawConfig.without_append]
      exact RawConfig.erase_absent habsent
    simp only [List.append_nil, popped, hsame]
    rfl
  | some pdbRaw =>
    refine (exec_bind_ok (exec_pop (f := fun config => ((), config.erase Key.pdb)) (fun _ => rfl) rfl) _).trans ?_
    cases pdbRaw with
    | object fields =>
      -- the three pops from the object of the budget
      have hdisabled : BoolOrStringKey.pdbDisabled.pop (mapOf fields) =
          ((BoolOrStringKey.pdbDisabled.pop (mapOf fields)).1, RawConfig.without (mapOf fields) ["disabled"]) :=
        Prod.ext rfl (BoolOrStringKey.pop_rest _ _)
      have hmax := Key.pdbMaxUnavailable.pop_without (mapOf fields) ["disabled"] (by decide)
      have hmin := Key.pdbMinAvailable.pop_without (mapOf fields)
        (["disabled"] ++ [Key.pdbMaxUnavailable.key]) (by decide)
      simp only [pdbFields]
      generalize (BoolOrStringKey.pdbDisabled.pop (mapOf fields)).1 = disabled at hdisabled ⊢
      generalize (Key.pdbMaxUnavailable.pop (mapOf fields)).1 = maxUnavailable at hmax ⊢
      generalize (Key.pdbMinAvailable.pop (mapOf fields)).1 = minAvailable at hmin ⊢
      simp only [hdisabled, hmax, hmin]
      refine (exec_bind_ok (exec_failAll _) _).trans ?_
      split_ifs
      · refine (exec_bind_ok (exec_fail _) _).trans ?_
        rw [← List.append_assoc]
        rfl
      · rw [List.append_nil]
        rfl
    | _ =>
      simp only [List.append_nil]
      rfl

theorem popInto_exec (keys : List Key) (m : GoMap String) (ks : List String) (hkeys : (keys.map (·.key)).Nodup)
    (hks : ∀ k ∈ keys, k.key ∉ ks) :
    exec (popInto keys m) (popped raw ks errs warnings) =
      (.ok ((keys.map fun k => (k.key, (k.pop raw).1)).foldl (fun m e => m.insert e.1 e.2) m),
        popped raw (ks ++ keys.map (·.key)) errs warnings) := by
  induction keys generalizing m ks with
  | nil =>
    simp only [List.map_nil, List.append_nil]
    rfl
  | cons k rest ih =>
    obtain ⟨hnot, hrest⟩ := List.nodup_cons.1 hkeys
    refine (exec_bind_ok (exec_popKey k (hks k (List.mem_cons_self ..))) _).trans ?_
    refine (ih _ (ks ++ [k.key]) hrest fun k' hk' hmem => ?_).trans ?_
    · rcases List.mem_append.1 hmem with hmem | hmem
      · exact hks k' (List.mem_cons_of_mem _ hk') hmem
      · exact hnot (List.mem_map.2 ⟨k', hk', List.mem_singleton.1 hmem⟩)
    · rw [List.append_assoc]
      rfl

theorem readTLSPaths_exec (tlsSecretName : String) (skipTLSWarning : Bool) (m : GoMap String)
    (hks : ∀ k ∈ Key.tlsPaths, k.key ∉ ks) :
    exec (readTLSPaths tlsSecretName skipTLSWarning m) (popped raw ks errs warnings) =
      (.ok (((tlsPathsFor tlsSecretName).map fun k => (k.key, (k.pop raw).1)).foldl (fun m e => m.insert e.1 e.2) m),
        popped raw (ks ++ (tlsPathsFor tlsSecretName).map (·.key)) errs
          (warnings ++ if tlsSecretName = "" ∧ skipTLSWarning = false then
            ["no TLS configured, consider setting " ++ quote "tlsSecretName"] else [])) := by
  unfold readTLSPaths tlsPathsFor
  by_cases hset : tlsSecretName = ""
  · cases skipTLSWarning <;> simp [hset] <;> rfl
  · simp only [ne_eq, hset, not_false_eq_true, if_true, false_and, if_false, List.append_nil]
    exact popInto_exec Key.tlsPaths m ks (by decide) hks

/-- What the secrets and the phase add. -/
def addDerived (spice : SpiceConfig) (migration : MigrationConfig) (passthrough : GoMap String) : GoMap String :=
  let passthrough :=
    if spice.dispatchUpstreamCASecretName ≠ "" ∧ spice.dispatchEnabled then
      passthrough.insert "dispatchUpstreamCAPath" ("/dispatch-tls/" ++ spice.dispatchUpstreamCASecretPath)
    else passthrough
  let passthrough :=
    if spice.telemetryTLSCASecretName ≠ "" then passthrough.insert "telemetryCAOverridePath" "/telemetry-tls/tls.crt"
    else passthrough
  if migration.targetPhase ≠ "" then passthrough.insert "datastoreMigrationPhase" migration.targetPhase
  else passthrough

/-- The rest of the raw config is copied over what is there. -/
def passthroughOf (spice : SpiceConfig) (migration : MigrationConfig) (passthrough : GoMap String) (rest : RawConfig) :
    GoMap String :=
  let passthrough := strip (popRest rest (addDerived spice migration passthrough))
  if (passthrough.lookup "terminationLogPath").getD "" = "" then
    passthrough.insert "terminationLogPath" "/dev/termination-log"
  else passthrough

theorem readPassthrough_exec (spice : SpiceConfig) (migration : MigrationConfig) (m : GoMap String) :
    exec (readPassthrough spice migration m) (popped raw ks errs warnings) =
      (.ok (passthroughOf spice migration m (raw.without ks)), popped ∅ [] errs warnings) := rfl

end

/-! ## Parts that do not look at the raw config -/

section

variable {α β : Type} {m : Read α} {y : Yield α}

/-- `m` neither looks at the raw config nor changes it. -/
def Unread (m : Read α) (y : Yield α) : Prop :=
  ∀ raw ks errs warnings, exec m (popped raw ks errs warnings) =
    (.ok y.value, popped raw ks (errs ++ y.errs) (warnings ++ y.warnings))

namespace Unread

theorem pure (a : α) : Unread (Pure.pure a) { value := a } := by
  intro raw ks errs warnings
  simp only [List.append_nil]
  rfl

theorem fail_then (err : String) (a : α) : Unread (do Read.fail err; Pure.pure a) { value := a, errs := [err] } := by
  intro raw ks errs warnings
  simp only [List.append_nil]
  rfl

theorem failAll (es : List String) : Unread (Read.failAll es) { value := (), errs := es } := by
  intro raw ks errs warnings
  simp only [List.append_nil]
  rfl

theorem warn (warning : String) : Unread (Read.warn warning) { value := (), warnings := [warning] } := by
  intro raw ks errs warnings
  simp only [List.append_nil]
  rfl

theorem bind {f : α → Read β} {y' : Yield β} (hm : Unread m y) (hf : Unread (f y.value) y') :
    Unread (m >>= f)
      { value := y'.value, errs := y.errs ++ y'.errs, warnings := y.warnings ++ y'.warnings } := by
  intro raw ks errs warnings
  rw [exec_bind_ok (hm raw ks errs warnings), hf]
  simp only [List.append_assoc]

end Unread

/-- A part by itself. -/
def alone (m : Read α) : Go (Yield α) :=
  match exec m (popped ∅ [] [] []) with
  | (.ok a, r) => .ok { value := a, errs := r.errs, warnings := r.warnings }
  | (.error fault, _) => .error fault

theorem Unread.alone_eq (h : Unread m y) : alone m = .ok y := by
  rw [alone, h]
  rfl

/-- `m` is such a part, and its errors and warnings are of the kind given. -/
def Says (err warning : String → Prop) (m : Read α) : Prop :=
  ∃ y, Unread m y ∧ (∀ e ∈ y.errs, err e) ∧ ∀ w ∈ y.warnings, warning w

namespace Says

variable {err warning : String → Prop}

theorem pure (a : α) : Says err warning (Pure.pure a) := ⟨_, Unread.pure a, nofun, nofun⟩

theorem fail_then {e : String} (he : err e) (a : α) : Says err warning (do Read.fail e; Pure.pure a) :=
  ⟨_, Unread.fail_then e a, fun _ h => List.mem_singleton.1 h ▸ he, nofun⟩

theorem failAll {es : List String} (hes : ∀ e ∈ es, err e) : Says err warning (Read.failAll es) :=
  ⟨_, Unread.failAll es, hes, nofun⟩

theorem warn {w : String} (hw : warning w) : Says err warning (Read.warn w) :=
  ⟨_, Unread.warn w, nofun, fun _ h => List.mem_singleton.1 h ▸ hw⟩

theorem bind {f : α → Read β} (hm : Says err warning m) (hf : ∀ a, Says err warning (f a)) :
    Says err warning (m >>= f) := by
  obtain ⟨y, hm, herrs, hwarnings⟩ := hm
  obtain ⟨y', hf, herrs', hwarnings'⟩ := hf y.value
  refine ⟨_, hm.bind hf, fun e he => ?_, fun w hw => ?_⟩
  · exact (List.mem_append.1 he).elim (herrs e) (herrs' e)
  · exact (List.mem_append.1 hw).elim (hwarnings w) (hwarnings' w)

theorem lift_bind {a : α} {f : α → Read β} (hf : Says err warning (f a)) :
    Says err warning (Read.lift (.ok a) >>= f) := hf

theorem ite {c : Prop} [Decidable c] {m m' : Read α} (hm : Says err warning m) (hm' : Says err warning m') :
    Says err warning (if c then m else m') := by
  split_ifs
  · exact hm
  · exact hm'

end Says

end

def AboutCredentials (e : String) : Prop :=
  Begins "secret must be provided for " e ∨ Begins "secret must contain a " e ∨ Begins "credentials." e ∨
    Begins "credentials or secretName must be provided" e

theorem readSecret_reports (secrets : GoMap Secret) (field secretName key : String) :
    Says AboutCredentials (fun _ => False) (readSecret secrets field secretName key) := by
  unfold readSecret
  cases secrets.lookup secretName with
  | none => exact Says.fail_then (.inl (begins_append ..)) _
  | some sec =>
    simp only
    cases sec.data.lookup key with
    | none => exact Says.fail_then (.inr (.inl (begins_append_append ..))) _
    | some val => exact Says.pure _

theorem resolveCredential_reports (secrets : GoMap Secret) (field defaultKey : String) (fetch : Bool)
    (ref : Option CredentialRef) :
    Says AboutCredentials (fun _ => False) (resolveCredential secrets field defaultKey fetch ref) := by
  cases ref with
  | none => exact Says.fail_then (.inr (.inr (.inl (begins_append_append ..)))) _
  | some ref =>
    refine Says.ite (Says.pure _) (Says.ite ?_ (Says.pure _))
    exact Says.bind (readSecret_reports _ _ _ _) fun _ => Says.pure _

/-- There are no warnings about credentials. -/
theorem resolveCredentials_reports (cluster : SpiceDBCluster) (secrets : GoMap Secret) (datastoreEngine : String) :
    Says AboutCredentials (fun _ => False) (resolveCredentials cluster secrets datastoreEngine) := by
  have refs : ∀ credentials,
      Says AboutCredentials (fun _ => False) (resolveRefs secrets datastoreEngine credentials) := fun credentials =>
    Says.bind (resolveCredential_reports _ _ _ _ _) fun _ =>
      Says.bind (resolveCredential_reports _ _ _ _ _) fun _ => Says.pure _
  unfold resolveCredentials
  cases cluster.spec.credentials with
  | some credentials => exact refs credentials
  | none => exact Says.ite (Says.fail_then (.inr (.inr (.inr (begins_self _)))) _) (refs _)

theorem tryPatches_reports (lib : Libraries) {K : Type} (codec : Codec K) {typeMeta : TypeMeta} {version : String}
    (hversion : typeMeta.apiVersion = some version) (obj : K) (patches : List Patch) (resolver : PatchMetaResolver)
    {err : String → Prop}
    (herr : ∀ patched, applyPatches lib codec typeMeta obj obj patches resolver = .ok patched →
      ∀ e ∈ patched.errs, err e) :
    Says err (fun _ => True) (tryPatches lib codec typeMeta obj patches resolver) := by
  obtain ⟨patched, hpatched⟩ := applyPatches_returns lib resolver hversion codec obj obj patches
  unfold tryPatches
  rw [hpatched]
  refine Says.lift_bind (Says.bind (Says.failAll (herr patched hpatched)) fun _ => ?_)
  exact Says.ite (Says.bind (Says.warn trivial) fun _ => Says.pure _) (Says.pure _)

theorem validatePatches_reports (lib : Libraries) (out : Config) :
    Says (fun _ => True) (fun _ => True) (validatePatches lib out) := by
  unfold validatePatches
  iterate 6 refine Says.bind (tryPatches_reports lib _ rfl _ _ _ fun _ _ _ _ => trivial) fun _ => ?_
  exact Says.ite (Says.warn trivial) (Says.pure _)

/-! ## What is made of the settings -/

namespace Settings

variable (lib : Libraries) (s : Settings) (target : Target) (creds : ResolvedCredentials)

/-- There is no dispatch on the memory engine. -/
def dispatch : Bool := s.dispatchEnabled.1 && decide (s.datastoreEngine ≠ "memory")

def migration : MigrationConfig :=
  { s.names.2 with
    spiceDBVersion := target.target
    targetPhase := target.state.phase
    targetMigration := if target.state.migration = "" then "head" else target.state.migration
    targetSpiceDBImage := (imageOf target).value
    datastoreEngine := s.datastoreEngine
    datastoreURI := creds.datastoreURI }

/-- The typed settings, without those that are passed through. -/
def spice : SpiceConfig :=
  { s.names.1 with
    projectLabels := s.projectLabels.1
    projectAnnotations := s.projectAnnotations.1
    dispatchEnabled := s.dispatch
    skipTLSWarning := s.skipTLSWarning.1
    replicas := s.replicas.1
    skipMigrations := s.skipMigrations.1
    extraPodLabels := s.extraPodLabels.metadata
    extraPodAnnotations := s.extraPodAnnotations.metadata
    extraServiceAccountAnnotations := s.extraServiceAccountAnnotations.metadata
    pdb := s.pdb.value
    datastoreURIRef := creds.datastoreURIRef
    presharedKeyRef := creds.presharedKeyRef
    migrationSecretsRef := creds.migrationSecretsRef
    presharedKey := creds.presharedKey }

/-- What the operator passes on before the rest of the raw config. -/
def derived : GoMap String :=
  let passthrough := mapOf [("datastoreEngine", s.datastoreEngine), ("dispatchClusterEnabled", formatBool s.dispatch)]
  let passthrough :=
    if s.names.2.spannerCredsSecretRef ≠ "" then
      passthrough.insert "datastoreSpannerCredentials" "/spanner-credentials/credentials.json"
    else passthrough
  s.tlsPaths.foldl (fun m e => m.insert e.1 e.2) passthrough

def config (cluster : SpiceDBCluster) (resolver : PatchMetaResolver) : Config :=
  { migration := s.migration target creds
    spice :=
      { s.spice creds with
        passthrough := passthroughOf (s.spice creds) (s.migration target creds) s.derived s.rest }
    patches := fixDeploymentPatches lib cluster.name cluster.spec.patches
    patchMeta := resolver }

/-- The errors in order; `creds` and `tried` are those about the credentials and the patches. -/
def errs (creds tried : List String) : List String :=
  (if s.datastoreEngine = "" then ["datastoreEngine is a required field"] else []) ++
  (target.err.map (·.textIn lib.mapsKeys)).toList ++ (imageOf target).errs ++ s.dispatchEnabled.2.toList ++
  s.skipTLSWarning.2.toList ++ creds ++
  (s.replicas.2.map fun err => "invalid value for replicas '\\x00': " ++ err).toList ++
  (if 1 < s.replicas.1 ∧ s.datastoreEngine = "memory" then ["cannot set replicas > 1 for memory engine"] else []) ++
  s.skipMigrations.2.toList ++ s.extraPodLabels.err.toList ++ s.extraPodAnnotations.err.toList ++
  s.extraServiceAccountAnnotations.err.toList ++ s.pdb.errs ++ tried

def warnings (creds tried : List String) : List String :=
  (s.ignored.map fun k => ".spec.config." ++ k ++ " is ignored; use .spec." ++ k ++ " instead") ++
  (s.projectLabels.2.map ("defaulting to false: " ++ ·)).toList ++
  (s.projectAnnotations.2.map ("defaulting to false: " ++ ·)).toList ++ creds ++ s.extraPodLabels.warnings ++
  s.extraPodAnnotations.warnings ++ s.extraServiceAccountAnnotations.warnings ++ s.pdb.warnings ++
  (if s.names.1.tlsSecretName = "" ∧ s.skipTLSWarning.1 = false then
    ["no TLS configured, consider setting " ++ quote "tlsSecretName"]
   else []) ++ tried

end Settings

/-- `spec.config.datastoreEngine`, where it is a string. -/
def ClusterSpec.engineSetting (spec : ClusterSpec) : String :=
  match spec.config with
  | some (.ok config) => (Key.datastoreEngine.pop config).1
  | _ => ""

section

variable (lib : Libraries) (cluster : SpiceDBCluster) (globalConfig : OperatorConfig) (secrets : GoMap Secret)
  (resolver : PatchMetaResolver)

/-- The config, the errors and the warnings that a raw config comes to. -/
def outcome (raw : RawConfig) : Go (Yield Config) := do
  let s := settings cluster raw
  let target ← globalConfig.targetOf lib cluster s.datastoreEngine
  let creds ← alone (resolveCredentials cluster secrets s.datastoreEngine)
  let out := s.config lib target creds.value cluster resolver
  let tried ← alone (validatePatches lib out)
  .ok
    { value := out
      errs := s.errs lib target creds.errs tried.errs
      warnings := s.warnings creds.warnings tried.warnings }

/-- The results of `NewConfig`: a config only if there is no error. -/
def verdict (agg : Aggregation) (y : Yield Config) : Except String Config × Option String :=
  match agg.aggregate y.errs with
  | none => (.ok y.value, agg.aggregate y.warnings)
  | some err => (.error err, agg.aggregate y.warnings)

variable {cluster globalConfig} {raw : RawConfig}

theorem readConfig_exec (hraw : cluster.spec.config = some (.ok raw)) {target : Target}
    (htarget : globalConfig.targetOf lib cluster (settings cluster raw).datastoreEngine = .ok target) :
    ∃ y, outcome lib cluster globalConfig secrets resolver raw = .ok y ∧
      exec (readConfig lib cluster globalConfig secrets resolver) { config := raw } =
        (.ok y.value, popped ∅ [] y.errs y.warnings) := by
  obtain ⟨creds, hcreds, -⟩ := resolveCredentials_reports cluster secrets (settings cluster raw).datastoreEngine
  obtain ⟨tried, htried, -⟩ := validatePatches_reports lib
    ((settings cluster raw).config lib target creds.value cluster resolver)
  have houtcome : outcome lib cluster globalConfig secrets resolver raw = .ok
      { value := (settings cluster raw).config lib target creds.value cluster resolver
        errs := (settings cluster raw).errs lib target creds.errs tried.errs
        warnings := (settings cluster raw).warnings creds.warnings tried.warnings } := by
    simp only [outcome, htarget, hcreds.alone_eq, htried.alone_eq, bind, Except.bind]
  refine ⟨_, houtcome, ?_⟩
  unfold readConfig readRest
  refine (exec_bind_ok (dropIgnored_exec raw) _).trans ?_
  refine (exec_bind_ok (readNames_exec cluster) _).trans ?_
  refine (exec_bind_ok (readEngine_exec (by decide)) _).trans ?_
  refine (exec_bind_ok (readProjection_exec _ (by decide)) _).trans ?_
  refine (exec_bind_ok (readProjection_exec _ (by decide)) _).trans ?_
  refine (exec_bind_ok (readTarget_returned hraw htarget (by decide)) _).trans ?_
  refine (exec_bind_ok (readImage_exec target) _).trans ?_
  refine (exec_bind_ok (readFlag_exec _ (by decide)) _).trans ?_
  refine (exec_bind_ok (readFlag_exec _ (by decide)) _).trans ?_
  refine (exec_bind_ok (hcreds _ _ _ _) _).trans ?_
  refine (exec_bind_ok (readReplicas_exec _ (by decide)) _).trans ?_
  refine (exec_bind_ok (readFlag_exec _ (by decide)) _).trans ?_
  iterate 3 refine (exec_bind_ok (readMetadata_exec _ _ _ (by decide)) _).trans ?_
  refine (exec_bind_ok (readPDB_exec (by decide)) _).trans ?_
  refine (exec_bind_ok (readTLSPaths_exec _ _ _ (by decide)) _).trans ?_
  refine (exec_bind_ok (readPassthrough_exec _ _ _) _).trans ?_
  have hks : poppedKeys.take 15 ++ [Key.datastoreEngine.key] ++ [BoolOrStringKey.projectLabels.key] ++
      [BoolOrStringKey.projectAnnotations.key] ++ [Key.image.key] ++ [BoolOrStringKey.dispatchEnabled.key] ++
      [BoolOrStringKey.skipTLSWarning.key] ++ ["replicas"] ++ [BoolOrStringKey.skipMigrations.key] ++
      [MetadataSetKey.extraPodLabels] ++ [MetadataSetKey.extraPodAnnotations] ++
      [MetadataSetKey.extraServiceAccountAnnotations] ++ [Key.pdb] = poppedKeys := rfl
  rw [hks]
  simp only [settings, Settings.config, Settings.spice, Settings.migration, Settings.derived, Settings.dispatch,
    Settings.errs, Settings.warnings] at htried ⊢
  exact exec_bind_ok (htried _ _ _ _) _

theorem outcome_fault {fault : Fault}
    (htarget : globalConfig.targetOf lib cluster (settings cluster raw).datastoreEngine = .error fault) :
    outcome lib cluster globalConfig secrets resolver raw = .error fault := by
  simp only [outcome, htarget, bind, Except.bind]

theorem readConfig_fault (hraw : cluster.spec.config = some (.ok raw)) {fault : Fault}
    (htarget : globalConfig.targetOf lib cluster (settings cluster raw).datastoreEngine = .error fault) :
    (exec (readConfig lib cluster globalConfig secrets resolver) { config := raw }).1 = .error fault := by
  have hstop : ∀ ks errs warnings, Key.image.key ∉ ks →
      exec (readTarget lib globalConfig cluster (settings cluster raw).datastoreEngine) (popped raw ks errs warnings) =
        (.error fault, popped raw (ks ++ [Key.image.key]) errs warnings) := by
    intro ks errs warnings hk
    rw [readTarget_exec hraw _ hk, htarget]
  have hbind : ∀ {α β : Type} {m : Read α} {s s' : Reading} (f : α → Read β), exec m s = (.error fault, s') →
      (exec (m >>= f) s).1 = .error fault := by
    intro α β m s s' f h
    rw [exec_bind, h]
  unfold readConfig
  rw [exec_bind_ok (dropIgnored_exec raw), exec_bind_ok (readNames_exec cluster),
    exec_bind_ok (readEngine_exec (by decide)), exec_bind_ok (readProjection_exec _ (by decide)),
    exec_bind_ok (readProjection_exec _ (by decide))]
  exact hbind _ (hstop _ _ _ (by decide))

/-- **`NewConfig` reads the settings and makes a config of them.** -/
theorem newConfig_eq (hraw : cluster.spec.config = some (.ok raw)) :
    newConfig lib cluster globalConfig secrets resolver =
      (outcome lib cluster globalConfig secrets resolver raw).map (verdict lib.toAggregation) := by
  cases htarget : globalConfig.targetOf lib cluster (settings cluster raw).datastoreEngine with
  | error fault =>
    have hstop := readConfig_fault lib secrets resolver hraw htarget
    rw [outcome_fault lib secrets resolver htarget]
    simp only [newConfig, hraw]
    rcases hexec : exec (readConfig lib cluster globalConfig secrets resolver) { config := raw } with ⟨fault' | out, r⟩
    · rw [hexec] at hstop
      cases hstop
      rfl
    · rw [hexec] at hstop
      cases hstop
  | ok target =>
    obtain ⟨y, houtcome, hexec⟩ := readConfig_exec lib secrets resolver hraw htarget
    simp only [newConfig, hraw, hexec, houtcome, Except.map, verdict, popped]
    cases lib.aggregate y.errs <;> rfl

variable {lib secrets resolver}

theorem outcome_ok {y : Yield Config} (h : outcome lib cluster globalConfig secrets resolver raw = .ok y) :
    ∃ target creds tried, globalConfig.targetOf lib cluster (settings cluster raw).datastoreEngine = .ok target ∧
      alone (resolveCredentials cluster secrets (settings cluster raw).datastoreEngine) = .ok creds ∧
      alone (validatePatches lib ((settings cluster raw).config lib target creds.value cluster resolver)) = .ok tried ∧
      y = { value := (settings cluster raw).config lib target creds.value cluster resolver
            errs := (settings cluster raw).errs lib target creds.errs tried.errs
            warnings := (settings cluster raw).warnings creds.warnings tried.warnings } := by
  simp only [outcome, go_bind_ok, Except.ok.injEq] at h
  obtain ⟨target, htarget, creds, hcreds, tried, htried, rfl⟩ := h
  exact ⟨target, creds, tried, htarget, hcreds, htried, rfl⟩

/-- The config that is returned is the one made of the settings, and there was no error. -/
theorem newConfig_settings {c : Config} {warning : Option String} (hraw : cluster.spec.config = some (.ok raw))
    (hnew : newConfig lib cluster globalConfig secrets resolver = .ok (.ok c, warning)) :
    ∃ (target : Target) (creds : Yield ResolvedCredentials) (tried : List String),
      globalConfig.targetOf lib cluster (settings cluster raw).datastoreEngine = .ok target ∧
      c = (settings cluster raw).config lib target creds.value cluster resolver ∧
      (settings cluster raw).errs lib target creds.errs tried = [] := by
  rw [newConfig_eq lib secrets resolver hraw] at hnew
  cases houtcome : outcome lib cluster globalConfig secrets resolver raw with
  | error fault =>
    rw [houtcome] at hnew
    cases hnew
  | ok y =>
    obtain ⟨target, creds, tried, htarget, -, -, rfl⟩ := outcome_ok houtcome
    rw [houtcome] at hnew
    simp only [Except.map, verdict, Except.ok.injEq] at hnew
    split at hnew
    · rename_i hnone
      cases hnew
      exact ⟨target, creds, tried.errs, htarget, rfl, lib.eq_nil_of_aggregate hnone⟩
    · cases hnew

/-- A config is for the cluster it is made of. -/
theorem newConfig_named {c : Config} {warning : Option String}
    (h : newConfig lib cluster globalConfig secrets resolver = .ok (.ok c, warning)) :
    c.spice.name = cluster.name ∧ c.spice.nameSpace = cluster.nameSpace := by
  obtain ⟨_, ⟨raw, hraw, _⟩, _⟩ := newConfig_assembles h
  obtain ⟨target, creds, tried, -, rfl, -⟩ := newConfig_settings hraw h
  exact ⟨rfl, rfl⟩

/-- Of the status, `NewConfig` reads what its call of `ComputeTarget` reads. -/
theorem newConfig_target (status status' : ClusterStatus)
    (h : globalConfig.targetOf lib { cluster with status := status' } cluster.spec.engineSetting =
      globalConfig.targetOf lib { cluster with status } cluster.spec.engineSetting) :
    newConfig lib { cluster with status := status' } globalConfig secrets resolver =
      newConfig lib { cluster with status } globalConfig secrets resolver := by
  cases hraw : cluster.spec.config with
  | none => simp only [newConfig, hraw]
  | some decoded =>
    cases decoded with
    | error err => simp only [newConfig, hraw]
    | ok raw =>
      have heq : ∀ s : ClusterStatus, newConfig lib { cluster with status := s } globalConfig secrets resolver = _ :=
        fun _ => newConfig_eq lib secrets resolver hraw
      have hengine : cluster.spec.engineSetting = (settings cluster raw).datastoreEngine := by
        simp only [ClusterSpec.engineSetting, hraw]
        rfl
      have hsettings : ∀ s : ClusterStatus, settings { cluster with status := s } raw = settings cluster raw :=
        fun _ => rfl
      rw [heq, heq]
      simp only [outcome, hsettings, ← hengine, h]
      rfl

end

/-! ## Clusters with the same settings -/

def SpiceDBCluster.withConfig (cluster : SpiceDBCluster) (raw : RawConfig) : SpiceDBCluster :=
  { cluster with spec := { cluster.spec with config := some (.ok raw) } }

section

variable {cluster : SpiceDBCluster} {raw raw' : RawConfig}

/-- Raw configs that agree on the options agree on the settings, apart from the replicas, the disruption budget and what
is left. -/
theorem settings_congr (cluster : SpiceDBCluster)
    (h : ∀ k ∈ poppedKeys, k ≠ "replicas" → k ≠ "pdb" → raw'.lookup k = raw.lookup k)
    (htls : ∀ k ∈ tlsPathsFor (Key.tlsSecretName.pop raw).1, raw'.lookup k.key = raw.lookup k.key) :
    settings cluster raw' =
      { settings cluster raw with
        replicas := replicasOf (Key.datastoreEngine.pop raw).1 raw'
        pdb := pdbOf raw'
        rest := raw'.without (poppedKeys ++ (tlsPathsFor (Key.tlsSecretName.pop raw).1).map (·.key)) } := by
  have key : ∀ k : Key, (k.key ∈ poppedKeys ∧ k.key ≠ "replicas" ∧ k.key ≠ "pdb") → (k.pop raw').1 = (k.pop raw).1 :=
    fun k hk => k.pop_value (h _ hk.1 hk.2.1 hk.2.2)
  have flag : ∀ k : BoolOrStringKey, (k.key ∈ poppedKeys ∧ k.key ≠ "replicas" ∧ k.key ≠ "pdb") →
      (k.pop raw').1 = (k.pop raw).1 := fun k hk => k.pop_value (h _ hk.1 hk.2.1 hk.2.2)
  have metadata : ∀ (k : MetadataSetKey) (objectType metadataType : String),
      (k ∈ poppedKeys ∧ k ≠ "replicas" ∧ k ≠ "pdb") →
      (k.pop objectType metadataType raw').1 = (k.pop objectType metadataType raw).1 :=
    fun k _ _ hk => k.pop_value _ _ (h _ hk.1 hk.2.1 hk.2.2)
  have hnames : namesOf cluster raw' = namesOf cluster raw := by
    simp only [namesOf, key Key.tlsSecretName (by decide), key Key.serviceAccountName (by decide),
      key Key.dispatchCA (by decide), key Key.dispatchCAFilePath (by decide), key Key.telemetryCA (by decide),
      key Key.envPrefix (by decide), key Key.spiceDBCmd (by decide), key Key.logLevel (by decide),
      key Key.migrationLogLevel (by decide), key Key.spannerCredentials (by decide),
      key Key.datastoreTLSSecret (by decide), key Key.targetMigration (by decide), key Key.targetPhase (by decide)]
  have hignored : ∀ k, k ∈ poppedKeys ∧ k ≠ "replicas" ∧ k ≠ "pdb" → (k ∈ raw' ↔ k ∈ raw) := by
    intro k hk
    rw [mem_iff_lookup, mem_iff_lookup, h k hk.1 hk.2.1 hk.2.2]
  have hpaths : ((tlsPathsFor (Key.tlsSecretName.pop raw).1).map fun k => (k.key, (k.pop raw').1)) =
      (tlsPathsFor (Key.tlsSecretName.pop raw).1).map fun k => (k.key, (k.pop raw).1) :=
    List.map_congr_left fun k hk => by rw [k.pop_value (htls k hk)]
  simp only [settings, hnames, key Key.datastoreEngine (by decide), key Key.tlsSecretName (by decide),
    flag BoolOrStringKey.projectLabels (by decide), flag BoolOrStringKey.projectAnnotations (by decide),
    flag BoolOrStringKey.dispatchEnabled (by decide), flag BoolOrStringKey.skipTLSWarning (by decide),
    flag BoolOrStringKey.skipMigrations (by decide), metadata MetadataSetKey.extraPodLabels _ _ (by decide),
    metadata MetadataSetKey.extraPodAnnotations _ _ (by decide),
    metadata MetadataSetKey.extraServiceAccountAnnotations _ _ (by decide), hpaths, List.filter_cons, List.filter_nil,
    hignored "version" (by decide), hignored "channel" (by decide)]

theorem targetOf_withConfig {helpers : ConditionHelpers} (globalConfig : OperatorConfig)
    (himage : (Key.image.pop raw').1 = (Key.image.pop raw).1) (datastoreEngine : String) :
    globalConfig.targetOf helpers (cluster.withConfig raw') datastoreEngine =
      globalConfig.targetOf helpers (cluster.withConfig raw) datastoreEngine := by
  have hsetting : (cluster.withConfig raw').spec.imageSetting = (cluster.withConfig raw).spec.imageSetting := himage
  simp only [OperatorConfig.targetOf, hsetting]
  rfl

/-- Settings that pass on the same texts make the same config. -/
theorem outcome_congr (lib : Libraries) (globalConfig : OperatorConfig) (secrets : GoMap Secret)
    (resolver : PatchMetaResolver) {rest : RawConfig} (hs : settings cluster raw' = { settings cluster raw with rest })
    (hrest : ∀ m, popRest rest m = popRest (settings cluster raw).rest m)
    (himage : (Key.image.pop raw').1 = (Key.image.pop raw).1) :
    outcome lib (cluster.withConfig raw') globalConfig secrets resolver raw' =
      outcome lib (cluster.withConfig raw) globalConfig secrets resolver raw := by
  have hnames : ∀ r r', settings (cluster.withConfig r) r' = settings cluster r' := fun _ _ => rfl
  have hcreds : ∀ e, resolveCredentials (cluster.withConfig raw') secrets e =
      resolveCredentials (cluster.withConfig raw) secrets e := fun _ => rfl
  have hconfig : ∀ target creds, (settings cluster raw').config lib target creds (cluster.withConfig raw') resolver =
      (settings cluster raw).config lib target creds (cluster.withConfig raw) resolver := by
    intro target creds
    rw [hs]
    simp only [Settings.config, passthroughOf, hrest]
    rfl
  have hengine : (settings cluster raw').datastoreEngine = (settings cluster raw).datastoreEngine := by rw [hs]
  have herrs : ∀ target creds tried, (settings cluster raw').errs lib target creds tried =
      (settings cluster raw).errs lib target creds tried := by
    intro target creds tried
    rw [hs]
    rfl
  have hwarnings : ∀ creds tried, (settings cluster raw').warnings creds tried =
      (settings cluster raw).warnings creds tried := by
    intro creds tried
    rw [hs]
    rfl
  simp only [outcome, hnames, hengine, hcreds, hconfig, herrs, hwarnings, targetOf_withConfig globalConfig himage]

end

end SpiceDBOperator
