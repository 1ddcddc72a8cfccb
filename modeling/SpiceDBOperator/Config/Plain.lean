import SpiceDBOperator.Config.NewConfig

/-!
# Plain libraries

The development leaves the libraries open. Here is one choice that can be evaluated: a hash is the list of the fields,
each escaped and ended, so that different configs have different hashes (`plain_injective`), and decoding a patched
document keeps what is there. With it configs and runs of the operator can be computed.
-/

namespace SpiceDBOperator

open Golang Metadata

/-! ## Texts in sequence -/

def escape (cs : List Char) : List Char := cs.flatMap fun c => ['+', c]

def delimit (s : String) : List Char := escape s.toList ++ ['.']

theorem escape_append {cs cs' rest rest' : List Char} (h : escape cs ++ '.' :: rest = escape cs' ++ '.' :: rest') :
    cs = cs' ∧ rest = rest' := by
  induction cs generalizing cs' with
  | nil =>
    cases cs' with
    | nil => exact ⟨rfl, (List.cons.inj h).2⟩
    | cons c' cs' => exact absurd (List.cons.inj h).1 (by decide)
  | cons c cs ih =>
    cases cs' with
    | nil => exact absurd (List.cons.inj h).1 (by decide)
    | cons c' cs' =>
      obtain ⟨hc, htail⟩ := List.cons.inj (List.cons.inj h).2
      obtain ⟨hcs, hrest⟩ := ih htail
      exact ⟨by rw [hc, hcs], hrest⟩

theorem delimit_flatMap_injective : Function.Injective fun ss : List String => ss.flatMap delimit := by
  have hne : ∀ (s : String) (rest : List Char), delimit s ++ rest ≠ [] := fun s rest => by simp [delimit]
  intro ss ss' h
  induction ss generalizing ss' with
  | nil =>
    cases ss' with
    | nil => rfl
    | cons s' ss' => exact absurd h.symm (hne s' _)
  | cons s ss ih =>
    cases ss' with
    | nil => exact absurd h (hne s _)
    | cons s' ss' =>
      simp only [List.flatMap_cons, delimit, List.append_assoc, List.singleton_append] at h
      obtain ⟨hs, hrest⟩ := escape_append h
      rw [String.toList_inj.1 hs, ih hrest]

/-! ## The libraries -/

def MigrationConfig.fields (mc : MigrationConfig) : List String :=
  [mc.targetMigration, mc.targetPhase, mc.migrationLogLevel, mc.datastoreEngine, mc.datastoreURI,
    mc.spannerCredsSecretRef, mc.targetSpiceDBImage, mc.envPrefix, mc.spiceDBCmd, mc.datastoreTLSSecretName] ++
    match mc.spiceDBVersion with
    | none => []
    | some v => v.name :: v.channel :: v.description :: v.attributes

theorem MigrationConfig.fields_injective : Function.Injective MigrationConfig.fields := by
  intro mc mc' h
  rcases mc with ⟨_, _, _, _, _, _, _, _, _, _, v⟩
  rcases mc' with ⟨_, _, _, _, _, _, _, _, _, _, v'⟩
  simp only [fields, List.cons_append, List.nil_append, List.cons.injEq] at h
  obtain ⟨rfl, rfl, rfl, rfl, rfl, rfl, rfl, rfl, rfl, rfl, hversion⟩ := h
  -- the version comes last, and its attributes last of all
  rcases v with _ | ⟨_, _, _, _⟩ <;> rcases v' with _ | ⟨_, _, _, _⟩ <;> simp_all

def plainCodec (K : Type) : Codec K := { marshal := fun _ => .ok "", unmarshal := fun _ obj => (obj, none) }

/-- The error texts as the laws have them. -/
def plainAggregation : Aggregation where
  aggregate errs :=
    match errs.eraseDups with
    | [] => none
    | [err] => some err
    | errs => some ("[" ++ ", ".intercalate errs ++ "]")
  aggregate_nil := rfl
  aggregate_one _ _ h := by rw [h]
  aggregate_many _ _ _ _ h := by rw [h]

def plain : Libraries where
  toApplyMethods := plainApplyMethods
  toConditionHelpers := plainConditionHelpers
  toAggregation := plainAggregation
  secureMigrationConfig mc := String.ofList (mc.fields.flatMap delimit)
  secureHashData data := String.ofList (data.flatMap fun e => delimit e.secret ++ delimit e.key ++ delimit e.value)
  hashDeployment d := (d.metadata.annotations.lookup migrationRequirementsKey).getD ""
  hashEmpty := ""
  slugMake := id
  isValidLabelValue _ := true
  mapsKeys := id
  camelcaseSplit s := [s]
  decodeOperation _ := .error "no operation"
  toJSON := .ok
  parseGroupVersion s := .ok ("", s)
  applyOperation _ doc := .ok doc
  serviceAccountCodec := plainCodec _
  roleCodec := plainCodec _
  roleBindingCodec := plainCodec _
  serviceCodec := plainCodec _
  jobCodec := plainCodec _
  deploymentCodec := plainCodec _
  podDisruptionBudgetCodec := plainCodec _

def plainResolver : PatchMetaResolver := fun _ => .error "no schema"

theorem plain_injective : Function.Injective plain.secureMigrationConfig :=
  fun _ _ h => MigrationConfig.fields_injective (delimit_flatMap_injective (String.ofList_injective h))

/-- Three texts for each entry. -/
def HashEntry.fields (e : HashEntry) : List String := [e.secret, e.key, e.value]

theorem HashEntry.flatMap_fields_injective : Function.Injective fun data : List HashEntry => data.flatMap fields := by
  intro data data' h
  induction data generalizing data' with
  | nil =>
    cases data' with
    | nil => rfl
    | cons e' data' => cases h
  | cons e data ih =>
    cases data' with
    | nil => cases h
    | cons e' data' =>
      rcases e with ⟨_, _, _⟩
      rcases e' with ⟨_, _, _⟩
      simp only [List.flatMap_cons, fields, List.cons_append, List.nil_append, List.cons.injEq] at h
      obtain ⟨rfl, rfl, rfl, hrest⟩ := h
      rw [ih hrest]

theorem plain_secureHashData_injective : Function.Injective plain.secureHashData := by
  have hfields : ∀ data : List HashEntry,
      (data.flatMap fun e => delimit e.secret ++ delimit e.key ++ delimit e.value) =
        (data.flatMap HashEntry.fields).flatMap delimit := by
    intro data
    simp [List.flatMap_assoc, HashEntry.fields]
  intro data data' h
  have htexts := String.ofList_injective h
  rw [hfields, hfields] at htexts
  exact HashEntry.flatMap_fields_injective (delimit_flatMap_injective htexts)

theorem plain_hash_ne (mc : MigrationConfig) : plain.secureMigrationConfig mc ≠ "" := by
  intro h
  have hnil : mc.fields.flatMap delimit = [] := String.ofList_injective h
  simp [MigrationConfig.fields, delimit] at hnil

/-- The config of a call of `NewConfig`, if there is one. -/
def returnedConfig : Go (Except String Config × Option String) → Option Config
  | .ok (.ok config, _) => some config
  | _ => none

/-- From what can be computed about a config to the config. -/
theorem exists_of_returnedConfig {β : Type} {r : Go (Except String Config × Option String)} {f : Config → β} {b : β}
    (h : (returnedConfig r).map f = some b) : ∃ config warning, r = .ok (.ok config, warning) ∧ f config = b := by
  obtain ⟨config, hconfig, hb⟩ := Option.map_eq_some_iff.1 h
  unfold returnedConfig at hconfig
  split at hconfig
  · cases hconfig
    exact ⟨_, _, rfl, hb⟩
  · cases hconfig

/-! ## A small cluster -/

/-- A cluster on postgres that gets its credentials elsewhere. -/
def smallCluster (version : String) : SpiceDBCluster :=
  { name := "small", nameSpace := "test", generation := 1
    spec :=
      { version
        config := some (.ok (mapOf [("datastoreEngine", .string "postgres"), ("skipTLSWarning", .bool true)]))
        credentials := some
          { datastoreURI := some { skip := true }
            presharedKey := some { skip := true }
            migrationSecrets := some { skip := true } } } }

end SpiceDBOperator
