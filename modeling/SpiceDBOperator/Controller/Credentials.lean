import SpiceDBOperator.Config.Accepted
import SpiceDBOperator.Controller.Plain

/-!
# Which secrets matter

Four functions go through the credentials of a cluster on their own: `NewConfig` resolves them to refs,
`ConfigChangedHandler` hashes their values, `credentialSecretNames` says what is fetched and
`credentialSecretsForCluster` what is adopted; the environment of the pods mounts them. They agree on the pairs of
secret and key (`credential_paths_agree`), up to one thing: a secret that was not fetched is left out of the hash
(config_change.go:86), and `NewConfig` does not miss it when only the migration secrets are in it.
-/

namespace SpiceDBOperator

open Golang Hoare Metadata

/-! ## The refs of a config -/

/-- Secret and key of each credential that is not skipped. -/
def Config.credentialKeys (c : Config) : List (String × String) :=
  ([c.spice.datastoreURIRef, c.spice.presharedKeyRef, c.spice.migrationSecretsRef].filter (!·.skip)).map
    fun ref => (ref.secretName, ref.key)

/-- The references to secrets in the environment of the containers. -/
def PodTemplateSpec.secretKeyRefs (t : PodTemplateSpec) : List SecretKeySelector :=
  ((t.spec.map (·.containers)).getD []).flatMap fun container => container.env.filterMap fun e =>
    match e.valueFrom with
    | some (.secretKeyRef selector) => some selector
    | _ => none

/-- The keys `ConfigChangedHandler` looks up, with the promotion of `secretName` done before. -/
def credentialKeysOf (creds : ClusterCredentials) : List (String × String) := credKeys { credentials := some creds }

section

variable {spec : ClusterSpec} {creds : ClusterCredentials} {c : Config} {lib : Libraries}

theorem mem_credKeys (h : spec.credentialsInUse = some creds) (p : String × String) :
    p ∈ credKeys spec ↔ p ∈ credentialKeysOf creds := by
  unfold ClusterSpec.credentialsInUse at h
  cases hcreds : spec.credentials with
  | some creds' =>
    rw [hcreds] at h
    cases h
    simp [credKeys, credentialKeysOf, hcreds]
  | none =>
    rw [hcreds] at h
    by_cases hempty : spec.secretRef = ""
    · simp [hempty] at h
    · simp only [if_neg hempty, Option.some.injEq] at h
      subst h
      simp [credKeys, credentialKeysOf, credKey, hcreds, hempty]

/-- The two traversals find the same pairs. -/
theorem ResolvedFrom.mem_credentialKeys
    (h : ResolvedFrom creds c.spice.datastoreURIRef c.spice.presharedKeyRef c.spice.migrationSecretsRef)
    (p : String × String) : p ∈ c.credentialKeys ↔ p ∈ credentialKeysOf creds := by
  obtain ⟨d, hd, hdref⟩ := h.datastoreURI
  obtain ⟨k, hk, hkref⟩ := h.presharedKey
  rw [Config.credentialKeys, h.migrationSecrets, hdref, hkref]
  simp only [credentialKeysOf, credKeys, credKey, hd, hk]
  cases hm : creds.migrationSecrets with
  | none =>
    by_cases hskip : d.skip = true <;> by_cases hskip' : k.skip = true <;>
      simp [resolveMigrationSecrets, CredentialRef.resolve, hskip, hskip']
    tauto
  | some ref =>
    by_cases hskip : d.skip = true <;> by_cases hskip' : k.skip = true <;> by_cases hskip'' : ref.skip = true <;>
      simp [resolveMigrationSecrets, CredentialRef.resolve, hskip, hskip', hskip'']

theorem Config.CredentialsOf.mem_credKeys (h : c.CredentialsOf spec) (p : String × String) :
    p ∈ credKeys spec ↔ p ∈ c.credentialKeys := by
  obtain ⟨creds, huse, hresolved⟩ := h
  rw [SpiceDBOperator.mem_credKeys huse, hresolved.mem_credentialKeys]

/-- What is hashed: the pairs whose secret was fetched. -/
theorem mem_hashData (secrets : GoMap Secret) (p : String × String) :
    p ∈ (hashData secrets spec).map (fun e => (e.secret, e.key)) ↔ p ∈ credKeys spec ∧ p.1 ∈ secrets := by
  simp only [hashData, List.map_filterMap, List.mem_filterMap, List.mem_insertionSort, Option.map_map, mem_iff_lookup]
  constructor
  · rintro ⟨ck, hck, hentry⟩
    obtain ⟨sec, hsec, rfl⟩ := Option.map_eq_some_iff.1 hentry
    exact ⟨hck, sec, hsec⟩
  · rintro ⟨hck, sec, hsec⟩
    exact ⟨p, hck, by simp [hsec]⟩

/-- The ref is there, is not skipped and names this secret. -/
def Names (name : String) (ref : Option CredentialRef) : Prop :=
  ∃ r, ref = some r ∧ r.skip = false ∧ r.secretName = name

/-- The migration secrets of the datastore's secret name no secret of their own. -/
theorem mem_credKeys_names (creds : ClusterCredentials) (name : String) :
    name ∈ (credentialKeysOf creds).map Prod.fst ↔ ∃ ref ∈ credentialRefs creds, Names name ref := by
  rcases creds with ⟨d, k, ms⟩
  simp only [credentialKeysOf, credKeys, credKey, credentialRefs, List.mem_map, List.mem_append, List.mem_cons,
    List.not_mem_nil, or_false, exists_eq_or_imp, exists_eq_left, Names]
  cases d <;> cases k <;> cases ms <;> simp <;> grind

/-- In a valid spec a credential that is not skipped names its secret. -/
theorem referencedSecret_eq_some {field name : String} {ref : Option CredentialRef}
    (h : unnamedCredential field ref = none) : referencedSecret ref = some name ↔ Names name ref := by
  cases ref with
  | none => simp [referencedSecret, Names]
  | some ref =>
    simp only [unnamedCredential, ite_eq_right_iff, reduceCtorEq, imp_false, not_and] at h
    cases hskip : ref.skip
    · simp [referencedSecret, Names, hskip, h hskip]
    · simp [referencedSecret, Names, hskip]

theorem specError_eq_none (hcreds : spec.credentials = some creds) (h : specError spec = none) :
    ∀ ref ∈ credentialRefs creds, ∃ field, unnamedCredential field ref = none := by
  rw [specError, hcreds] at h
  by_cases hboth : spec.secretRef = ""
  · simp only [hboth, ne_eq, not_true_eq_false, if_false, Option.or_eq_none_iff] at h
    obtain ⟨hd, hk, hm⟩ := h
    intro ref href
    simp only [credentialRefs, List.mem_cons, List.not_mem_nil, or_false] at href
    rcases href with rfl | rfl | rfl
    · exact ⟨_, hd⟩
    · exact ⟨_, hk⟩
    · exact ⟨_, hm⟩
  · simp [hboth] at h

/-- What is fetched: the secrets of the pairs. -/
theorem mem_credentialSecretNames (hspec : specError spec = none) (name : String) :
    name ∈ credentialSecretNames spec ↔ name ∈ (credKeys spec).map Prod.fst := by
  cases hcreds : spec.credentials with
  | none => by_cases hempty : spec.secretRef = "" <;> simp [credentialSecretNames, credKeys, hcreds, hempty]
  | some creds =>
    have hkeys : credKeys spec = credentialKeysOf creds := by simp [credentialKeysOf, credKeys, hcreds]
    rw [hkeys, mem_credKeys_names]
    simp only [credentialSecretNames, hcreds, List.mem_eraseDups, List.mem_filterMap]
    have hiff : ∀ ref ∈ credentialRefs creds, referencedSecret ref = some name ↔ Names name ref := by
      intro ref href
      obtain ⟨field, hfield⟩ := specError_eq_none hcreds hspec ref href
      exact referencedSecret_eq_some hfield
    exact exists_congr fun ref => and_congr_right fun href => hiff ref href

/-- What is adopted is what is fetched. -/
theorem mem_credentialSecretsForCluster (name : String) :
    name ∈ (credentialSecretsForCluster spec).map Prod.fst ↔ name ∈ credentialSecretNames spec := by
  cases hcreds : spec.credentials with
  | none =>
    by_cases hempty : spec.secretRef = "" <;>
      simp [credentialSecretsForCluster, credentialSecretNames, hcreds, hempty]
  | some creds =>
    simp [credentialSecretsForCluster, credentialSecretNames, hcreds, roleSecrets, credentialRefs, List.mem_eraseDups,
      exists_or]

/-! ## Environments -/

theorem mem_passthroughEnv {e : EnvVar} (h : e ∈ c.passthroughEnv lib) : e.valueFrom = none := by
  obtain ⟨k, _, rfl⟩ := List.mem_map.1 h
  rfl

theorem mem_credentialKeys_of_ref {ref : ResolvedCredentialRef}
    (h : ref ∈ [c.spice.datastoreURIRef, c.spice.presharedKeyRef, c.spice.migrationSecretsRef])
    (hskip : ref.skip = false) : (ref.secretName, ref.key) ∈ c.credentialKeys :=
  List.mem_map.2 ⟨ref, List.mem_filter.2 ⟨h, by simp [hskip]⟩, rfl⟩

/-- The variable of a credential refers to its secret and key. -/
theorem secretEnv_ref {e : EnvVar} {name : String} {ref : ResolvedCredentialRef} {isOptional : Option Bool}
    {selector : SecretKeySelector} (he : e = Config.secretEnv name ref isOptional)
    (hs : e.valueFrom = some (.secretKeyRef selector)) : (selector.name, selector.key) = (ref.secretName, ref.key) := by
  subst he
  cases hs
  rfl

theorem envVars_refs {e : EnvVar} {selector : SecretKeySelector} (h : e ∈ c.envVars lib)
    (hs : e.valueFrom = some (.secretKeyRef selector)) : (selector.name, selector.key) ∈ c.credentialKeys := by
  simp only [Config.envVars, List.mem_append, List.mem_cons, List.not_mem_nil, or_false] at h
  rcases h with (((((rfl | rfl) | h) | h) | h) | h)
  · cases hs
  · cases hs
  · split_ifs at h with hskip
    · cases h
    · rw [secretEnv_ref (List.mem_singleton.1 h) hs]
      exact mem_credentialKeys_of_ref (by simp) (by simpa using hskip)
  · split_ifs at h with huse
    · rw [secretEnv_ref (List.mem_singleton.1 h) hs]
      exact mem_credentialKeys_of_ref (by simp) huse.2
    · cases h
  · split_ifs at h
    · rw [List.mem_singleton.1 h] at hs
      cases hs
    · cases h
  · rw [mem_passthroughEnv h] at hs
    cases hs

theorem jobEnvVars_refs {e : EnvVar} {selector : SecretKeySelector} (h : e ∈ c.jobEnvVars lib)
    (hs : e.valueFrom = some (.secretKeyRef selector)) : (selector.name, selector.key) ∈ c.credentialKeys := by
  simp only [Config.jobEnvVars, List.mem_append, List.mem_cons, List.not_mem_nil, or_false] at h
  rcases h with (((rfl | h) | h) | h)
  · cases hs
  · split_ifs at h with hskip
    · cases h
    · rw [secretEnv_ref (List.mem_singleton.1 h) hs]
      exact mem_credentialKeys_of_ref (by simp) (by simpa using hskip)
  · split_ifs at h with hskip
    · cases h
    · rw [secretEnv_ref (List.mem_singleton.1 h) hs]
      exact mem_credentialKeys_of_ref (by simp) (by simpa using hskip)
  · rw [mem_passthroughEnv h] at hs
    cases hs

theorem mem_secretKeyRefs {t : PodTemplateSpec} {selector : SecretKeySelector} (h : selector ∈ t.secretKeyRefs) :
    ∃ pod container e, t.spec = some pod ∧ container ∈ pod.containers ∧ e ∈ container.env ∧
      e.valueFrom = some (.secretKeyRef selector) := by
  obtain ⟨container, hcontainer, hselector⟩ := List.mem_flatMap.1 h
  obtain ⟨e, he, hfrom⟩ := List.mem_filterMap.1 hselector
  cases hpod : t.spec with
  | none => simp [hpod] at hcontainer
  | some pod =>
    refine ⟨pod, container, e, rfl, by simpa [hpod] using hcontainer, he, ?_⟩
    split at hfrom
    · rename_i hvalue
      cases hfrom
      exact hvalue
    · cases hfrom

/-- The references of a generated deployment and of a generated migration job. -/
theorem generated_refs (migrationHash secretHash : String) (t : PodTemplateSpec)
    (ht : ((c.unpatchedDeployment lib migrationHash secretHash).spec.bind (·.template)) = some t ∨
      ((c.unpatchedMigrationJob lib migrationHash).spec.bind (·.template)) = some t)
    {selector : SecretKeySelector} (h : selector ∈ t.secretKeyRefs) :
    (selector.name, selector.key) ∈ c.credentialKeys := by
  obtain ⟨pod, container, e, hpod, hcontainer, he, hs⟩ := mem_secretKeyRefs h
  rcases ht with ht | ht
  · cases ht
    cases hpod
    obtain rfl := List.mem_singleton.1 hcontainer
    exact envVars_refs he hs
  · cases ht
    cases hpod
    obtain rfl := List.mem_singleton.1 hcontainer
    exact jobEnvVars_refs he hs

end

/-! ## Agreement -/

/-- **All credential code paths agree.** For a cluster with a valid spec and a config: what `ConfigChangedHandler`
hashes are the pairs of the resolved refs whose secret was fetched; the generated pods refer to those pairs only; and
their secrets are the ones fetched and the ones adopted. -/
theorem credential_paths_agree (lib : Libraries) (cluster : SpiceDBCluster) (operatorConfig : OperatorConfig)
    (secrets : GoMap Secret) (resolver : PatchMetaResolver) (config : Config) (warning : Option String)
    (hspec : specError cluster.spec = none)
    (h : newConfig lib cluster operatorConfig secrets resolver = .ok (.ok config, warning)) :
    (∀ p, p ∈ (hashData secrets cluster.spec).map (fun e => (e.secret, e.key)) ↔
      p ∈ config.credentialKeys ∧ p.1 ∈ secrets) ∧
    (∀ migrationHash secretHash t selector,
      ((config.unpatchedDeployment lib migrationHash secretHash).spec.bind (·.template)) = some t ∨
        ((config.unpatchedMigrationJob lib migrationHash).spec.bind (·.template)) = some t →
      selector ∈ t.secretKeyRefs → (selector.name, selector.key) ∈ config.credentialKeys) ∧
    (∀ name, name ∈ credentialSecretNames cluster.spec ↔ name ∈ config.credentialKeys.map Prod.fst) ∧
    ∀ name, name ∈ (credentialSecretsForCluster cluster.spec).map Prod.fst ↔
      name ∈ config.credentialKeys.map Prod.fst := by
  have hkeys := (newConfig_accepted h).credentials.mem_credKeys
  have hfetched : ∀ name, name ∈ credentialSecretNames cluster.spec ↔ name ∈ config.credentialKeys.map Prod.fst := by
    intro name
    rw [mem_credentialSecretNames hspec]
    simp only [List.mem_map, hkeys]
  refine ⟨fun p => ?_, fun migrationHash secretHash t selector ht => generated_refs migrationHash secretHash t ht,
    hfetched, fun name => ?_⟩
  · rw [mem_hashData, hkeys]
  · rw [mem_credentialSecretsForCluster, hfetched]

/-- A cluster whose migration secrets are in a secret of their own. -/
def splitSecrets : SpiceDBCluster :=
  { smallCluster "" with
    spec :=
      { (smallCluster "").spec with
        credentials := some
          { datastoreURI := some { secretName := "db" }
            presharedKey := some { secretName := "db" }
            migrationSecrets := some { secretName := "migration" } } } }

def dbSecret : Secret := { name := "db", data := mapOf [("datastore_uri", "postgres://"), ("preshared_key", "k")] }

theorem splitSecrets_config :
    ∃ config warning, newConfig plain splitSecrets { imageName := "spicedb", updateGraph := UpdateGraph.twoReleases }
        (mapOf [("db", dbSecret)]) plainResolver = .ok (.ok config, warning) ∧
      config.credentialKeys = [("db", "datastore_uri"), ("db", "preshared_key"), ("migration", "migration_secrets")] :=
  exists_of_returnedConfig (by decide)

/-- Without that secret the config is valid all the same, and its key is not hashed. -/
theorem splitSecrets_unhashed :
    ∃ config warning, specError splitSecrets.spec = none ∧
      newConfig plain splitSecrets { imageName := "spicedb", updateGraph := UpdateGraph.twoReleases }
        (mapOf [("db", dbSecret)]) plainResolver = .ok (.ok config, warning) ∧
      ("migration", "migration_secrets") ∈ config.credentialKeys ∧
      ("migration", "migration_secrets") ∉
        (hashData (mapOf [("db", dbSecret)]) splitSecrets.spec).map fun e => (e.secret, e.key) := by
  obtain ⟨config, warning, hconfig, hkeys⟩ := splitSecrets_config
  exact ⟨config, warning, rfl, hconfig, by rw [hkeys]; decide, by decide⟩

theorem splitSecrets_agree :
    ∃ config warning, newConfig plain splitSecrets { imageName := "spicedb", updateGraph := UpdateGraph.twoReleases }
        (mapOf [("db", dbSecret)]) plainResolver = .ok (.ok config, warning) ∧
      ∀ name, name ∈ credentialSecretNames splitSecrets.spec ↔ name ∈ config.credentialKeys.map Prod.fst := by
  obtain ⟨config, warning, hconfig, _⟩ := splitSecrets_config
  exact ⟨config, warning, hconfig, (credential_paths_agree plain splitSecrets _ _ plainResolver config warning rfl
    hconfig).2.2.1⟩

end SpiceDBOperator
