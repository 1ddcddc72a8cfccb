import SpiceDBOperator.Controller.Credentials

/-!
# What the secret hash depends on

`ConfigChangedHandler` (config_change.go:22) hashes the values of the credentials a spec refers to. Over secrets that
are all there the hash is exact (`secretHash_exact`): it tells apart any two contents that differ in a referenced value,
and no others, where a key that is missing counts as empty. It reaches the pods as an annotation of their template,
which no patch can change. What was collected from the cache is enough to compute it.

`Referenced` says what a spec refers to without the defaults and the order of the handler.
-/

namespace SpiceDBOperator

open Golang Metadata

/-! ## The pairs a spec refers to -/

def CredentialRef.keyOr (ref : CredentialRef) (defaultKey : String) : String :=
  if ref.key = "" then defaultKey else ref.key

/-- A secret and a key the credentials refer to. The migration secrets are inherited from the datastore's secret. -/
inductive Referenced (creds : ClusterCredentials) : String → String → Prop
  | datastoreURI {ref : CredentialRef} : creds.datastoreURI = some ref → ref.skip = false →
      Referenced creds ref.secretName (ref.keyOr "datastore_uri")
  | presharedKey {ref : CredentialRef} : creds.presharedKey = some ref → ref.skip = false →
      Referenced creds ref.secretName (ref.keyOr "preshared_key")
  | migrationSecrets {ref : CredentialRef} : creds.migrationSecrets = some ref → ref.skip = false →
      Referenced creds ref.secretName (ref.keyOr "migration_secrets")
  | inherited {ref : CredentialRef} : creds.migrationSecrets = none → creds.datastoreURI = some ref → ref.skip = false →
      Referenced creds ref.secretName "migration_secrets"

def ClusterSpec.Refers (spec : ClusterSpec) (secret key : String) : Prop :=
  ∃ creds, spec.credentialsInUse = some creds ∧ Referenced creds secret key

/-- The pairs of one credential. -/
theorem mem_pairs_iff {credential : Option CredentialRef} {pairs : CredentialRef → List (String × String)}
    {p : String × String} :
    (p ∈ match credential with
      | some ref => if ref.skip then [] else pairs ref
      | none => []) ↔ ∃ ref, credential = some ref ∧ ref.skip = false ∧ p ∈ pairs ref := by
  cases credential with
  | none => simp
  | some ref => cases hskip : ref.skip <;> simp [hskip]

theorem mem_credentialKeysOf {creds : ClusterCredentials} {secret key : String} :
    (secret, key) ∈ credentialKeysOf creds ↔ Referenced creds secret key := by
  simp only [credentialKeysOf, credKeys, List.mem_append]
  refine (or_congr (or_congr mem_pairs_iff mem_pairs_iff) mem_pairs_iff).trans ?_
  constructor
  · rintro ((⟨ref, hd, hskip, h⟩ | ⟨ref, hk, hskip, h⟩) | ⟨ref, hm, hskip, h⟩)
    · rcases List.mem_cons.1 h with heq | h
      · cases heq
        exact .datastoreURI hd hskip
      · split_ifs at h with hm
        · cases List.mem_singleton.1 h
          exact .inherited hm hd hskip
        · cases h
    · cases List.mem_singleton.1 h
      exact .presharedKey hk hskip
    · cases List.mem_singleton.1 h
      exact .migrationSecrets hm hskip
  · rintro (⟨hd, hskip⟩ | ⟨hk, hskip⟩ | ⟨hm, hskip⟩ | ⟨hm, hd, hskip⟩)
    · exact Or.inl (Or.inl ⟨_, hd, hskip, List.mem_cons_self⟩)
    · exact Or.inl (Or.inr ⟨_, hk, hskip, List.mem_singleton_self _⟩)
    · exact Or.inr ⟨_, hm, hskip, List.mem_singleton_self _⟩
    · exact Or.inl (Or.inl ⟨_, hd, hskip, by simp [hm]⟩)

/-- The handler finds exactly these pairs. -/
theorem mem_credKeys_iff_refers {spec : ClusterSpec} {secret key : String} :
    (secret, key) ∈ credKeys spec ↔ spec.Refers secret key := by
  cases huse : spec.credentialsInUse with
  | some creds =>
    rw [mem_credKeys huse, mem_credentialKeysOf]
    exact ⟨fun h => ⟨creds, huse, h⟩, fun ⟨creds', huse', h⟩ => Option.some.inj (huse.symm.trans huse') ▸ h⟩
  | none =>
    refine iff_of_false ?_ fun ⟨creds, huse', _⟩ => Option.some_ne_none _ (huse'.symm.trans huse)
    unfold ClusterSpec.credentialsInUse at huse
    unfold credKeys
    cases hcreds : spec.credentials with
    | some creds => simp [hcreds] at huse
    | none =>
      have hempty : spec.secretRef = "" := by simpa [hcreds] using huse
      simp [hempty]

/-! ## The hash -/

/-- The value under a key of a secret; a key that is missing is empty. -/
def credentialValue (secrets : GoMap Secret) (secret key : String) : String :=
  ((secrets.lookup secret).bind (·.data.lookup key)).getD ""

/-- Every secret the spec refers to is there. -/
def ClusterSpec.CoveredBy (spec : ClusterSpec) (secrets : GoMap Secret) : Prop :=
  ∀ secret key, spec.Refers secret key → secret ∈ secrets

/-- The two contents hold the same value for every pair the spec refers to. -/
def ClusterSpec.SameValues (spec : ClusterSpec) (secrets secrets' : GoMap Secret) : Prop :=
  ∀ secret key, spec.Refers secret key → credentialValue secrets secret key = credentialValue secrets' secret key

section

variable {lib : Libraries} {spec : ClusterSpec} {secrets secrets' : GoMap Secret}

/-- With every secret there, each pair has an entry. -/
theorem hashData_eq_map (hcovered : spec.CoveredBy secrets) :
    hashData secrets spec = ((credKeys spec).insertionSort credKeyLe).map fun ck =>
      { secret := ck.1, key := ck.2, value := credentialValue secrets ck.1 ck.2 } := by
  rw [hashData, ← List.filterMap_eq_map]
  apply List.filterMap_congr
  intro ck hck
  have hrefers : spec.Refers ck.1 ck.2 := mem_credKeys_iff_refers.1 ((List.mem_insertionSort _).1 hck)
  obtain ⟨sec, hsec⟩ := mem_iff_lookup.1 (hcovered _ _ hrefers)
  simp [credentialValue, hsec]

theorem hashData_eq_iff (hcovered : spec.CoveredBy secrets) (hcovered' : spec.CoveredBy secrets') :
    hashData secrets spec = hashData secrets' spec ↔ spec.SameValues secrets secrets' := by
  rw [hashData_eq_map hcovered, hashData_eq_map hcovered', List.map_inj_left]
  constructor
  · intro h secret key hrefers
    have hmem := (List.mem_insertionSort credKeyLe).2 (mem_credKeys_iff_refers.2 hrefers)
    exact (HashEntry.mk.inj (h _ hmem)).2.2
  · intro h ck hck
    rw [h ck.1 ck.2 (mem_credKeys_iff_refers.1 ((List.mem_insertionSort _).1 hck))]

/-- Both contents have as many entries, so an empty list on one side is one on the other. -/
theorem secretHashOf_eq_iff (hinj : Function.Injective lib.secureHashData) (hcovered : spec.CoveredBy secrets)
    (hcovered' : spec.CoveredBy secrets') :
    secretHashOf lib secrets spec = secretHashOf lib secrets' spec ↔ spec.SameValues secrets secrets' := by
  rw [← hashData_eq_iff hcovered hcovered']
  have hempty : hashData secrets spec = [] ↔ hashData secrets' spec = [] := by
    rw [hashData_eq_map hcovered, hashData_eq_map hcovered', List.map_eq_nil_iff, List.map_eq_nil_iff]
  unfold secretHashOf
  by_cases hnil : hashData secrets spec = []
  · rw [if_pos hnil, if_pos (hempty.1 hnil), hnil, hempty.1 hnil]
    simp
  · rw [if_neg hnil, if_neg (mt hempty.2 hnil)]
    exact hinj.eq_iff

/-- What is collected from the cache has all the secrets the hash looks up. -/
theorem hashData_collectSecrets (hspec : specError spec = none) (secrets : GoMap Secret) :
    hashData (collectSecrets secrets spec) spec = hashData secrets spec := by
  apply List.filterMap_congr
  intro ck hck
  have hname : ck.1 ∈ credentialSecretNames spec := by
    rw [mem_credentialSecretNames hspec]
    exact List.mem_map.2 ⟨ck, (List.mem_insertionSort _).1 hck, rfl⟩
  simp [collectSecrets, mapRestrict_lookup, hname]

/-- The secret hash on the pod template of a deployment. -/
def DeploymentApply.podSecretHash (d : DeploymentApply) : Option String :=
  ((d.spec.bind (·.template)).map (·.metadata.annotations)).bind (·.lookup secretRequirementsKey)

theorem deployment_podSecretHash {c : Config} {migrationHash secretHash : String} {d : DeploymentApply}
    (h : c.deployment lib migrationHash secretHash = .ok d) : d.podSecretHash = some secretHash := by
  simp only [Config.deployment, go_bind_ok, Except.ok.injEq] at h
  obtain ⟨patched, -, unpatchedSpec, -, spec, -, selector, -, template, -, rfl⟩ := h
  simp only [DeploymentApply.podSecretHash, lib.withLabels_eq, lib.withAnnotations_eq, Option.bind_some,
    Option.map_some, mergeInto_lookup]
  rfl

end

/-- **The secret hash is exact**: over secrets that are there, it is the same exactly if every referenced value is, and
so is the annotation on the pods. -/
theorem secretHash_exact (lib : Libraries) (hinj : Function.Injective lib.secureHashData) (spec : ClusterSpec)
    (hspec : specError spec = none) (secrets secrets' : GoMap Secret) (hcovered : spec.CoveredBy secrets)
    (hcovered' : spec.CoveredBy secrets') :
    (secretHashOf lib secrets spec = secretHashOf lib secrets' spec ↔ spec.SameValues secrets secrets') ∧
    (secretHashOf lib (collectSecrets secrets spec) spec = secretHashOf lib (collectSecrets secrets' spec) spec ↔
      spec.SameValues secrets secrets') ∧
    ∀ config migrationHash d d',
      Config.deployment lib config migrationHash (secretHashOf lib secrets spec) = .ok d →
      Config.deployment lib config migrationHash (secretHashOf lib secrets' spec) = .ok d' →
      (d.podSecretHash = d'.podSecretHash ↔ spec.SameValues secrets secrets') := by
  have hexact := secretHashOf_eq_iff hinj hcovered hcovered'
  refine ⟨hexact, ?_, fun config migrationHash d d' hd hd' => ?_⟩
  · simpa only [secretHashOf, hashData_collectSecrets hspec] using hexact
  · rw [deployment_podSecretHash hd, deployment_podSecretHash hd', Option.some_inj]
    exact hexact

/-- The secrets of `splitSecrets`; nothing refers to the last key of the first. -/
def rotated (presharedKey : String) : GoMap Secret :=
  mapOf [("db", { name := "db", data := mapOf [("datastore_uri", "postgres://"), ("preshared_key", presharedKey),
      ("unrelated", presharedKey)] }),
    ("migration", { name := "migration" })]

theorem splitSecrets_covered (presharedKey : String) : splitSecrets.spec.CoveredBy (rotated presharedKey) := by
  intro secret key hrefers
  have hkeys : (secret, key) ∈ [("db", "datastore_uri"), ("db", "preshared_key"), ("migration", "migration_secrets")] :=
    mem_credKeys_iff_refers.2 hrefers
  simp only [List.mem_cons, List.not_mem_nil, or_false, Prod.mk.injEq] at hkeys
  rcases hkeys with ⟨rfl, -⟩ | ⟨rfl, -⟩ | ⟨rfl, -⟩ <;> exact mem_iff_lookup.2 ⟨_, rfl⟩

/-- A new preshared key shows in the hash. -/
theorem splitSecrets_rotated :
    secretHashOf plain (rotated "k") splitSecrets.spec ≠ secretHashOf plain (rotated "k'") splitSecrets.spec := by
  rw [Ne, (secretHash_exact plain plain_secureHashData_injective splitSecrets.spec rfl (rotated "k") (rotated "k'")
    (splitSecrets_covered _) (splitSecrets_covered _)).1]
  intro hsame
  have hrefers : splitSecrets.spec.Refers "db" "preshared_key" := mem_credKeys_iff_refers.1 (by decide)
  exact absurd (hsame _ _ hrefers) (by decide)

end SpiceDBOperator
