import SpiceDBOperator.Config.Derived

/-!
# Mounted files

The pods get the secrets the user names as volumes (config.go:741-797, 900-928), and SpiceDB is told where the files are
by settings that `NewConfig` adds to those it passes through (config.go:398, 478-511). The two are written apart, each
under conditions of its own. They fit: every mount has its volume, and every file that the operator itself points
SpiceDB to lies in a mounted secret (`files_are_mounted`).
-/

namespace SpiceDBOperator

open Golang

/-! ## Volumes and mounts -/

/-- Kubernetes accepts the mounts with these volumes. -/
structure Fitting (volumes : List Volume) (mounts : List VolumeMount) : Prop where
  names : (volumes.map (·.name)).Nodup
  mounted : ∀ m ∈ mounts, m.name ∈ volumes.map (·.name)
  paths : (mounts.map (·.mountPath)).Nodup

/-- An optional element. -/
theorem ite_singleton_sublist {α : Type} {p : Prop} [Decidable p] (a : α) : (if p then [a] else []).Sublist [a] := by
  split_ifs
  · exact List.Sublist.refl _
  · exact List.nil_sublist _

namespace Config

variable (c : Config)

theorem jobVolumes_names :
    (c.jobVolumes.map (·.name)).Sublist ["podname", "db-tls", "spanner", "podlabels", "podannotations"] := by
  simp only [jobVolumes, secretVolume, List.map_append, apply_ite (List.map Volume.name), List.map_cons, List.map_nil]
  exact (((List.Sublist.refl ["podname"]).append (ite_singleton_sublist "db-tls")).append
    (ite_singleton_sublist "spanner")).append (ite_singleton_sublist "podlabels") |>.append
    (ite_singleton_sublist "podannotations")

theorem jobVolumeMounts_paths :
    (c.jobVolumeMounts.map (·.mountPath)).Sublist
      ["/spicedb-db-tls", "/spanner-credentials", "/etc/podlabels", "/etc/podannotations"] := by
  simp only [jobVolumeMounts, List.map_append, apply_ite (List.map VolumeMount.mountPath), List.map_cons, List.map_nil]
  exact (((ite_singleton_sublist "/spicedb-db-tls").append (ite_singleton_sublist "/spanner-credentials")).append
    (ite_singleton_sublist "/etc/podlabels")).append (ite_singleton_sublist "/etc/podannotations")

theorem deploymentVolumes_names :
    (c.deploymentVolumes.map (·.name)).Sublist
      (["podname", "db-tls", "spanner", "podlabels", "podannotations"] ++ ["tls"] ++ ["dispatch-tls"] ++
        ["telemetry-tls"]) := by
  simp only [deploymentVolumes, secretVolume, List.map_append, apply_ite (List.map Volume.name), List.map_cons,
    List.map_nil]
  exact ((c.jobVolumes_names.append (ite_singleton_sublist "tls")).append (ite_singleton_sublist "dispatch-tls")).append
    (ite_singleton_sublist "telemetry-tls")

theorem deploymentVolumeMounts_paths :
    (c.deploymentVolumeMounts.map (·.mountPath)).Sublist
      (["/spicedb-db-tls", "/spanner-credentials", "/etc/podlabels", "/etc/podannotations"] ++ ["/tls"] ++
        ["/dispatch-tls"] ++ ["/telemetry-tls"]) := by
  simp only [deploymentVolumeMounts, List.map_append, apply_ite (List.map VolumeMount.mountPath), List.map_cons,
    List.map_nil]
  exact ((c.jobVolumeMounts_paths.append (ite_singleton_sublist "/tls")).append
    (ite_singleton_sublist "/dispatch-tls")).append (ite_singleton_sublist "/telemetry-tls")

/-- The condition of a mount is the condition of its volume. -/
theorem jobVolumeMounts_mounted : ∀ m ∈ c.jobVolumeMounts, m.name ∈ c.jobVolumes.map (·.name) := by
  intro m hm
  simp only [jobVolumes, secretVolume, List.map_append, apply_ite (List.map Volume.name), List.map_cons, List.map_nil]
  simp only [jobVolumeMounts, List.mem_append, List.mem_ite_nil_right, List.mem_singleton] at hm
  rcases hm with ((⟨h, rfl⟩ | ⟨h, rfl⟩) | ⟨h, rfl⟩) | ⟨h, rfl⟩ <;> simp [h]

theorem deploymentVolumeMounts_mounted : ∀ m ∈ c.deploymentVolumeMounts, m.name ∈ c.deploymentVolumes.map (·.name) := by
  intro m hm
  simp only [deploymentVolumes, secretVolume, List.map_append, apply_ite (List.map Volume.name), List.map_cons,
    List.map_nil]
  simp only [deploymentVolumeMounts, List.mem_append, List.mem_ite_nil_right, List.mem_singleton] at hm
  rcases hm with ((hjob | ⟨h, rfl⟩) | ⟨h, rfl⟩) | ⟨h, rfl⟩
  · simp only [List.mem_append]
    exact Or.inl (Or.inl (Or.inl (c.jobVolumeMounts_mounted m hjob)))
  all_goals simp [h]

theorem job_fitting : Fitting c.jobVolumes c.jobVolumeMounts :=
  ⟨c.jobVolumes_names.nodup (by decide), c.jobVolumeMounts_mounted, c.jobVolumeMounts_paths.nodup (by decide)⟩

theorem deployment_fitting : Fitting c.deploymentVolumes c.deploymentVolumeMounts :=
  ⟨c.deploymentVolumes_names.nodup (by decide), c.deploymentVolumeMounts_mounted,
    c.deploymentVolumeMounts_paths.nodup (by decide)⟩

/-- The serving pods have the file of the secret in the directory: the secret is mounted there, and its volume shows all
of its keys or this one. -/
def SecretFile (dir file secretName : String) : Prop :=
  ∃ mount ∈ c.deploymentVolumeMounts, mount.mountPath = dir ∧
    ∃ items, secretVolume mount.name secretName items ∈ c.deploymentVolumes ∧ (items = [] ∨ file ∈ items.map (·.2))

theorem secretFile_of_mem (name file : String) {dir secretName : String}
    (hmount : { name, mountPath := dir, readOnly := some true } ∈ c.deploymentVolumeMounts)
    (hvolume : secretVolume name secretName [] ∈ c.deploymentVolumes) : c.SecretFile dir file secretName :=
  ⟨_, hmount, rfl, [], hvolume, Or.inl rfl⟩

theorem tls_mounted (file : String) (h : c.spice.tlsSecretName ≠ "") : c.SecretFile "/tls" file c.spice.tlsSecretName :=
  c.secretFile_of_mem "tls" file (by simp [deploymentVolumeMounts, h]) (by simp [deploymentVolumes, h])

theorem dispatchCA_mounted (file : String)
    (h : c.spice.dispatchUpstreamCASecretName ≠ "" ∧ c.spice.dispatchEnabled = true) :
    c.SecretFile "/dispatch-tls" file c.spice.dispatchUpstreamCASecretName :=
  c.secretFile_of_mem "dispatch-tls" file (by simp [deploymentVolumeMounts, h]) (by simp [deploymentVolumes, h])

theorem telemetryCA_mounted (file : String) (h : c.spice.telemetryTLSCASecretName ≠ "") :
    c.SecretFile "/telemetry-tls" file c.spice.telemetryTLSCASecretName :=
  c.secretFile_of_mem "telemetry-tls" file (by simp [deploymentVolumeMounts, h]) (by simp [deploymentVolumes, h])

/-- Of this secret the pods see one key. -/
theorem spanner_mounted (h : c.migration.spannerCredsSecretRef ≠ "") :
    c.SecretFile "/spanner-credentials" "credentials.json" c.migration.spannerCredsSecretRef :=
  ⟨{ name := "spanner", mountPath := "/spanner-credentials", readOnly := some true },
    by simp [deploymentVolumeMounts, jobVolumeMounts, h], rfl, [("credentials.json", "credentials.json")],
    by simp [deploymentVolumes, jobVolumes, h], Or.inr (List.mem_singleton_self _)⟩

end Config

/-! ## The settings that name files -/

/-- The settings that the operator points to files. -/
def fileKeys : List String :=
  ["datastoreSpannerCredentials", "dispatchUpstreamCAPath", "telemetryCAOverridePath"] ++ Key.tlsPaths.map (·.key)

/-- The path is that of a file in a secret, which is named and mounted in the serving pods. -/
def Config.FileMounted (c : Config) (path : String) : Prop :=
  ∃ dir file secretName, path = dir ++ "/" ++ file ∧ secretName ≠ "" ∧ c.SecretFile dir file secretName

section

variable {lib : Libraries} {cluster : SpiceDBCluster} {resolver : PatchMetaResolver} {raw : RawConfig} {target : Target}
  {creds : ResolvedCredentials} {k path : String}

theorem tlsPaths_default {key : Key} (hkey : key ∈ Key.tlsPaths) :
    ∃ file, key.defaultValue = "/tls" ++ "/" ++ file := by
  have hfile : ∀ key ∈ Key.tlsPaths,
      key.defaultValue = Key.defaultTLSKeyFile ∨ key.defaultValue = Key.defaultTLSCrtFile := by decide
  rcases hfile key hkey with h | h
  · exact ⟨"tls.key", h⟩
  · exact ⟨"tls.crt", h⟩

theorem settings_tlsPaths_unset (hunset : raw.lookup k = none) (h : (k, path) ∈ (settings cluster raw).tlsPaths) :
    (settings cluster raw).names.1.tlsSecretName ≠ "" ∧ ∃ file, path = "/tls" ++ "/" ++ file := by
  obtain ⟨key, hkey, heq⟩ := List.mem_map.1 h
  obtain ⟨rfl, rfl⟩ := Prod.mk.inj heq
  have hdefault : (key.pop raw).1 = key.defaultValue := by rw [Key.pop, hunset]
  unfold tlsPathsFor at hkey
  split_ifs at hkey with hsecret
  · rw [hdefault]
    exact ⟨hsecret, tlsPaths_default hkey⟩
  · cases hkey

/-- What is written before the rest of the user's settings. -/
theorem derived_file (hk : k ∈ fileKeys) (hunset : raw.lookup k = none)
    (h : (settings cluster raw).derived.lookup k = some path) :
    (settings cluster raw).names.2.spannerCredsSecretRef ≠ "" ∧ path = "/spanner-credentials/credentials.json" ∨
    (settings cluster raw).names.1.tlsSecretName ≠ "" ∧ ∃ file, path = "/tls" ++ "/" ++ file := by
  rcases foldl_insert_some h with htls | hfirst
  · exact Or.inr (settings_tlsPaths_unset hunset htls)
  · rw [lookup_ite_insert] at hfirst
    split_ifs at hfirst with hspanner
    · exact Or.inl ⟨hspanner.2, (Option.some.inj hfirst).symm⟩
    · -- Neither of the two settings that are written first is a file.
      have hother : ∀ k ∈ fileKeys, k ≠ "datastoreEngine" ∧ k ≠ "dispatchClusterEnabled" := by decide
      obtain ⟨hengine, hdispatch⟩ := hother k hk
      have hnone : ∀ engine dispatch : String,
          (mapOf [("datastoreEngine", engine), ("dispatchClusterEnabled", dispatch)]).lookup k = none := by
        intro engine dispatch
        rw [mapOf, AList.lookup_to_alist, List.map_cons, List.dlookup_cons_ne _ _ hengine, List.map_cons,
          List.dlookup_cons_ne _ _ hdispatch]
        rfl
      rw [hnone] at hfirst
      cases hfirst

/-- Each setting is added under the condition under which its secret is mounted. -/
theorem config_fileMounted (hk : k ∈ fileKeys) (hunset : raw.lookup k = none)
    (h : ((settings cluster raw).config lib target creds cluster resolver).spice.passthrough.lookup k = some path) :
    ((settings cluster raw).config lib target creds cluster resolver).FileMounted path := by
  have hwritten : ∀ k ∈ fileKeys, k ≠ "terminationLogPath" ∧ k ≠ "datastoreMigrationPhase" ∧ stripped k = false := by
    decide
  obtain ⟨hterm, hphase, hstrip⟩ := hwritten k hk
  have hrest : (settings cluster raw).rest.lookup k = none := by
    rw [settings_rest_eq, RawConfig.without_lookup, hunset, ite_self]
  simp only [Settings.config] at h
  rw [passthroughOf_lookup _ _ _ _ hterm hstrip, hrest, Option.map_none, Option.none_or] at h
  simp only [addDerived, lookup_ite_insert, hphase, false_and, if_false] at h
  split_ifs at h with htelemetry hdispatch
  · cases h
    exact ⟨"/telemetry-tls", "tls.crt", _, rfl, htelemetry.2, Config.telemetryCA_mounted _ _ htelemetry.2⟩
  · cases h
    exact ⟨"/dispatch-tls", _, _, rfl, hdispatch.2.1, Config.dispatchCA_mounted _ _ hdispatch.2⟩
  · rcases derived_file hk hunset h with ⟨hsecret, rfl⟩ | ⟨hsecret, file, rfl⟩
    · exact ⟨"/spanner-credentials", "credentials.json", _, rfl, hsecret, Config.spanner_mounted _ hsecret⟩
    · exact ⟨"/tls", file, _, rfl, hsecret, Config.tls_mounted _ file hsecret⟩

end

/-- **Mounted files**: the mounts of the pods fit their volumes, and SpiceDB finds the files that the operator points it
to in mounted secrets. A path that the user sets is the user's own. -/
theorem files_are_mounted {lib : Libraries} {cluster : SpiceDBCluster} {globalConfig : OperatorConfig}
    {secrets : GoMap Secret} {resolver : PatchMetaResolver} {raw : RawConfig} {c : Config} {warning : Option String}
    (hraw : cluster.spec.config = some (.ok raw))
    (hnew : newConfig lib cluster globalConfig secrets resolver = .ok (.ok c, warning)) :
    Fitting c.jobVolumes c.jobVolumeMounts ∧ Fitting c.deploymentVolumes c.deploymentVolumeMounts ∧
      ∀ k ∈ fileKeys, raw.lookup k = none → ∀ path, c.spice.passthrough.lookup k = some path → c.FileMounted path := by
  obtain ⟨target, creds, tried, -, rfl, -⟩ := newConfig_settings hraw hnew
  exact ⟨Config.job_fitting _, Config.deployment_fitting _,
    fun k hk hunset path hpath => config_fileMounted hk hunset hpath⟩

/-- A user who names the secret of the serving certificate. -/
theorem certificate_is_mounted :
    ∃ config warning, newConfig plain (configured [("tlsSecretName", .string "serving-cert")])
        { imageName := "spicedb", updateGraph := UpdateGraph.twoReleases } ∅ plainResolver = .ok (.ok config, warning) ∧
      config.spice.passthrough.lookup "grpcTLSCertPath" = some "/tls/tls.crt" ∧ config.FileMounted "/tls/tls.crt" := by
  obtain ⟨config, warning, hconfig, hpath⟩ := exists_of_returnedConfig (b := some "/tls/tls.crt")
    (f := (·.spice.passthrough.lookup "grpcTLSCertPath"))
    (r := newConfig plain (configured [("tlsSecretName", .string "serving-cert")])
      { imageName := "spicedb", updateGraph := UpdateGraph.twoReleases } ∅ plainResolver) (by decide)
  exact ⟨config, warning, hconfig, hpath,
    (files_are_mounted rfl hconfig).2.2 "grpcTLSCertPath" (by decide) (by decide) _ hpath⟩

end SpiceDBOperator
