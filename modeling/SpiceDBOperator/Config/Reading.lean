import Mathlib.Data.Set.Insert
import SpiceDBOperator.Config.NewConfig

/-!
# What a part of `NewConfig` does to the reading

Every part of `NewConfig` records errors and warnings and pops keys, and nothing else. `Reads keys m` says so once for
each part, against every assertion that puts up with it (`Tolerant`): the assertion may follow which keys are gone. The
three assertions used are that no error is on record (`tolerant_errs`), that all warnings so far are ordinary ones
(`tolerant_ordinary`), and what is left of the raw config (`tolerant_knows`).
-/

namespace SpiceDBOperator

open Golang Hoare Read

/-- A warning that does not count patches. -/
def Ordinary (warning : String) : Prop := ∃ c ∈ warning.toList.head?, c ≠ 'o'

theorem Ordinary.append {s : String} (h : Ordinary s) (t : String) : Ordinary (s ++ t) := by
  obtain ⟨c, hc, hne⟩ := h
  refine ⟨c, ?_, hne⟩
  rw [String.toList_append, List.head?_append, hc]
  rfl

theorem ordinary_of_head {s : String} {c : Char} (hc : s.toList.head? = some c) (hne : c ≠ 'o') :
    Ordinary s := ⟨c, hc, hne⟩

/-- An assertion about a reading from whose raw config the keys `T` are gone. -/
structure Tolerant (I : Set String → Reading → Prop) : Prop where
  fail : ∀ {T r} (errs : List String), I T r → I T { r with errs := r.errs ++ errs }
  warn : ∀ {T r} (warnings : List String), (∀ w ∈ warnings, Ordinary w) → I T r →
    I T { r with warnings := r.warnings ++ warnings }
  erase : ∀ {T r} (k : String), I T r → I (T ∪ {k}) { r with config := r.config.erase k }
  clear : ∀ {T r}, I T r → I Set.univ { r with config := ∅ }

/-- `m` records errors and ordinary warnings and pops the keys `S`. -/
def Reads {α : Type} (S : Set String) (m : Read α) : Prop :=
  ∀ I, Tolerant I → ∀ T, Triple (I T) m (fun _ => I (T ∪ S)) (fun _ _ => True)

namespace Reads

variable {α β : Type} {S S' : Set String}

/-- For a part that pops nothing. -/
theorem of_empty {m : Read α} (h : ∀ I, Tolerant I → ∀ T, Triple (I T) m (fun _ => I T) (fun _ _ => True)) :
    Reads ∅ m := by
  intro I hI T
  rw [Set.union_empty]
  exact h I hI T

theorem run_empty {m : Read α} (h : Reads ∅ m) {I : Set String → Reading → Prop} (hI : Tolerant I) (T : Set String) :
    Triple (I T) m (fun _ => I T) (fun _ _ => True) := by
  have := h I hI T
  rwa [Set.union_empty] at this

theorem pure (a : α) : Reads ∅ (Pure.pure a) := of_empty fun _ _ _ => Triple.pure fun _ h => h

theorem bind {m : Read α} {f : α → Read β} (hm : Reads S m) (hf : ∀ a, Reads S' (f a)) : Reads (S ∪ S') (m >>= f) := by
  intro I hI T
  rw [← Set.union_assoc]
  exact Triple.bind (hm I hI T) fun a => hf a I hI _

/-- A part that pops nothing, and then one that does. -/
theorem then_ {m : Read α} {f : α → Read β} (hm : Reads ∅ m) (hf : ∀ a, Reads S (f a)) : Reads S (m >>= f) := by
  have := bind hm hf
  rwa [Set.empty_union] at this

/-- The other way round. -/
theorem finish {m : Read α} {f : α → Read β} (hm : Reads S m) (hf : ∀ a, Reads ∅ (f a)) : Reads S (m >>= f) := by
  have := bind hm hf
  rwa [Set.union_empty] at this

theorem ite {c : Prop} [Decidable c] {m m' : Read α} (hm : Reads S m) (hm' : Reads S m') :
    Reads S (if c then m else m') :=
  fun I hI T => Triple.ite (fun _ => hm I hI T) (fun _ => hm' I hI T)

theorem failAll (errs : List String) : Reads ∅ (failAll errs) :=
  of_empty fun _ hI _ => Triple.act fun _ h => hI.fail errs h

theorem fail (err : String) : Reads ∅ (fail err) := of_empty fun _ hI _ => Triple.act fun _ h => hI.fail [err] h

theorem warnAll {warnings : List String} (hw : ∀ w ∈ warnings, Ordinary w) : Reads ∅ (warnAll warnings) :=
  of_empty fun _ hI _ => Triple.act fun _ h => hI.warn warnings hw h

theorem warn {warning : String} (hw : Ordinary warning) : Reads ∅ (warn warning) :=
  of_empty fun _ hI _ => Triple.act fun _ h => hI.warn [warning] (List.forall_mem_singleton.2 hw) h

theorem pop {f : RawConfig → α × RawConfig} {k : String} (hf : ∀ config, (f config).2 = config.erase k) :
    Reads {k} (pop f) := by
  refine fun I hI T => Triple.act fun r h => ?_
  rw [hf r.config]
  exact hI.erase k h

theorem pop_then {f : RawConfig → α × RawConfig} {k : String} {g : α → Read β}
    (hf : ∀ config, (f config).2 = config.erase k) (hg : ∀ a, Reads S (g a)) : Reads (insert k S) (Read.pop f >>= g) :=
  bind (pop hf) hg

theorem remaining : Reads ∅ remaining := of_empty fun _ _ _ => Triple.act fun _ h => h

theorem lift (x : Go α) : Reads ∅ (lift x) := by
  cases x with
  | ok a => exact pure a
  | error f => exact of_empty fun _ _ _ => Triple.stop fun _ _ => trivial

theorem fail_then (err : String) (a : α) : Reads ∅ (do Read.fail err; Pure.pure a) := then_ (fail err) fun _ => pure a

theorem warn_then {warning : String} (hw : Ordinary warning) (a : α) : Reads ∅ (do Read.warn warning; Pure.pure a) :=
  then_ (warn hw) fun _ => pure a

/-- A key that is popped if it is there. -/
theorem of_remaining {k : String} {f : RawConfig → Read α} (habsent : ∀ config, k ∉ config → Reads ∅ (f config))
    (hpresent : ∀ config, k ∈ config → Reads {k} (f config)) : Reads {k} (Read.remaining >>= f) := by
  intro I hI T
  refine Triple.bind (Q := fun config r => config = r.config ∧ I T r) (Triple.act fun _ h => ⟨rfl, h⟩) fun config => ?_
  by_cases hk : k ∈ config
  · exact (hpresent config hk I hI T).pre fun _ h => h.2
  · refine ((habsent config hk).run_empty hI (T ∪ {k})).pre ?_
    -- the key is gone already: popping it changes nothing
    rintro r ⟨rfl, h⟩
    have hsame : r.config.erase k = r.config := AList.ext (List.kerase_of_notMem_keys hk)
    have := hI.erase k h
    rwa [hsame] at this

/-- What is known about the value joins what the part does. -/
theorem value {m : Read α} (hm : Reads S m) {B : α → Prop} {I : Set String → Reading → Prop} {T : Set String}
    (hI : Tolerant I) (h : Triple (I T) m (fun a _ => B a) (fun _ _ => True)) :
    Triple (I T) m (fun a r => B a ∧ I (T ∪ S) r) (fun _ _ => True) :=
  Triple.conseq (h.and (hm I hI T)) (fun _ h => h) (fun _ _ h => h) fun _ _ _ => trivial

end Reads

/-! ## Three assertions -/

theorem tolerant_errs (A : Prop) : Tolerant fun _ r => r.errs = [] → A where
  fail _ h hnil := h (List.append_eq_nil_iff.1 hnil).1
  warn _ _ h := h
  erase _ h := h
  clear h := h

/-- What holds of the value when there is no error joins what is known already. -/
theorem Reads.learn {α : Type} {S : Set String} {m : Read α} (hm : Reads S m) {B : α → Prop}
    (h : Triple (fun _ => True) m (fun a r => r.errs = [] → B a) (fun _ _ => True)) (A : Prop) :
    Triple (fun r => r.errs = [] → A) m (fun a r => r.errs = [] → A ∧ B a) (fun _ _ => True) := by
  refine Triple.conseq ((hm _ (tolerant_errs A) ∅).and (h.pre fun _ _ => trivial)) (fun _ hr => hr)
    (fun a r hr hnil => ?_) fun _ _ _ => trivial
  exact ⟨hr.1 hnil, hr.2 hnil⟩

/-- …and without anything to learn. -/
theorem Reads.grows {α : Type} {S : Set String} {m : Read α} (hm : Reads S m) (A : Prop) :
    Triple (fun r => r.errs = [] → A) m (fun _ r => r.errs = [] → A) (fun _ _ => True) := hm _ (tolerant_errs A) ∅

theorem tolerant_ordinary : Tolerant fun _ r => ∀ w ∈ r.warnings, Ordinary w where
  fail _ h := h
  warn _ hw h := fun w hmem => (List.mem_append.1 hmem).elim (h w) (hw w)
  erase _ h := h
  clear h := h

theorem Reads.ordinary {α : Type} {S : Set String} {m : Read α} (hm : Reads S m) :
    Triple (fun r => ∀ w ∈ r.warnings, Ordinary w) m (fun _ r => ∀ w ∈ r.warnings, Ordinary w) (fun _ _ => True) :=
  hm _ tolerant_ordinary ∅

/-- The raw config is `raw` without the keys `T`. -/
def Knows (raw : RawConfig) (T : Set String) (r : Reading) : Prop :=
  ∀ k, (k ∈ T → r.config.lookup k = none) ∧ (k ∉ T → r.config.lookup k = raw.lookup k)

theorem Knows.mem_iff {raw : RawConfig} {T : Set String} {r : Reading} (h : Knows raw T r) {k : String} :
    k ∈ r.config ↔ k ∈ raw ∧ k ∉ T := by
  rw [mem_iff_lookup, mem_iff_lookup]
  by_cases hk : k ∈ T
  · simp [(h k).1 hk, hk]
  · simp [(h k).2 hk, hk]

theorem tolerant_knows (raw : RawConfig) : Tolerant (Knows raw) where
  fail _ h := h
  warn _ _ h := h
  erase := by
    intro T r k h x
    by_cases hx : x = k
    · subst hx
      exact ⟨fun _ => AList.lookup_erase _ _, fun hnot => absurd (Set.mem_union_right _ rfl) hnot⟩
    · have hlookup : (r.config.erase k).lookup x = r.config.lookup x := AList.lookup_erase_ne hx
      refine ⟨fun hmem => ?_, fun hnot => ?_⟩
      · exact hlookup.trans ((h x).1 (hmem.resolve_right hx))
      · exact hlookup.trans ((h x).2 fun hT => hnot (Set.mem_union_left _ hT))
  clear _ := fun _ => ⟨fun _ => AList.lookup_empty _, fun hnot => absurd (Set.mem_univ _) hnot⟩

/-! ## The parts -/

theorem Key.pop_rest (key : Key) (config : RawConfig) : (key.pop config).2 = config.erase key.key := by
  unfold Key.pop
  split <;> rfl

theorem Key.pop_value (key : Key) {config config' : RawConfig} (h : config.lookup key.key = config'.lookup key.key) :
    (key.pop config).1 = (key.pop config').1 := by
  unfold Key.pop
  rw [h]
  split <;> rfl

theorem BoolOrStringKey.pop_rest (key : BoolOrStringKey) (config : RawConfig) :
    (key.pop config).2 = config.erase key.key := by
  unfold BoolOrStringKey.pop
  split
  · rfl
  · split <;> rfl
  · rfl
  · rfl

theorem IntOrStringKey.pop_rest (key : IntOrStringKey) (config : RawConfig) :
    (key.pop config).2 = config.erase key.key := by
  unfold IntOrStringKey.pop
  split
  · rfl
  · split <;> rfl

theorem MetadataSetKey.pop_rest (key : MetadataSetKey) (objectType metadataType : String) (config : RawConfig) :
    (key.pop objectType metadataType config).2 = config.erase key := by
  unfold MetadataSetKey.pop
  split <;> rfl

theorem dropIgnored_reads : Reads {"version", "channel"} dropIgnored := by
  have one : ∀ k, Reads {k} (do
      let config ← Read.remaining
      if k ∈ config then
        Read.warn (".spec.config." ++ k ++ " is ignored; use .spec." ++ k ++ " instead")
        Read.pop fun config => ((), config.erase k)) := by
    intro k
    have hw : Ordinary (".spec.config." ++ k ++ " is ignored; use .spec." ++ k ++ " instead") :=
      ((((ordinary_of_head (c := '.') (by decide) (by decide)).append _).append _).append _).append _
    refine Reads.of_remaining (fun config hk => ?_) fun config hk => ?_
    · rw [if_neg hk]
      exact Reads.pure _
    · rw [if_pos hk]
      exact Reads.then_ (Reads.warn hw) fun _ => Reads.pop fun _ => rfl
  exact Reads.bind (one "version") fun _ => Reads.finish (one "channel") fun _ => Reads.pure _

/-- The keys `readNames` pops. -/
def nameKeys : Set String :=
  {"tlsSecretName", "serviceAccountName", "dispatchUpstreamCASecretName", "dispatchUpstreamCAFilePath",
    "telemetryCASecretName", "envPrefix", "cmd", "logLevel", "migrationLogLevel", "spannerCredentials",
    "datastoreTLSSecretName", "targetMigration", "datastoreMigrationPhase"}

theorem readNames_reads (cluster : SpiceDBCluster) : Reads nameKeys (readNames cluster) := by
  unfold readNames nameKeys
  iterate 12 refine Reads.pop_then (Key.pop_rest _) fun _ => ?_
  exact Reads.finish (Reads.pop (Key.pop_rest _)) fun _ => Reads.pure _

/-- The prefix of the variables is the one of the raw config. -/
theorem readNames_envPrefix {raw : RawConfig} {T : Set String} (cluster : SpiceDBCluster)
    (hT : Key.envPrefix.key ∉ T) :
    Triple (Knows raw T) (readNames cluster) (fun names _ => names.1.envPrefix = (Key.envPrefix.pop raw).1)
      (fun _ _ => True) := by
  have hI := tolerant_knows raw
  unfold readNames
  iterate 5 refine Triple.bind (Reads.pop (Key.pop_rest _) _ hI _) fun _ => ?_
  refine Triple.bind (Q := fun v _ => v = (Key.envPrefix.pop raw).1) (Triple.act fun r hr => ?_)
    fun v => Triple.known ?_
  · refine Key.pop_value _ ((hr _).2 ?_)
    simpa [Key.tlsSecretName, Key.serviceAccountName, Key.dispatchCA, Key.dispatchCAFilePath, Key.telemetryCA,
      Key.envPrefix] using hT
  · rintro rfl
    iterate 7 refine Triple.bind Triple.trivially fun _ => ?_
    exact Triple.pure fun _ _ => rfl

theorem readEngine_reads : Reads {Key.datastoreEngine.key} readEngine := by
  refine Reads.finish (Reads.pop (Key.pop_rest _)) fun engine => ?_
  exact Reads.ite (Reads.fail_then _ _) (Reads.pure _)

theorem readProjection_reads (k : BoolOrStringKey) : Reads {k.key} (readProjection k) := by
  refine Reads.finish (Reads.pop k.pop_rest) fun ⟨b, err⟩ => ?_
  cases err with
  | none => exact Reads.pure _
  | some err => exact Reads.warn_then ((ordinary_of_head (c := 'd') (by decide) (by decide)).append _) _

theorem readTarget_reads (lib : Libraries) (globalConfig : OperatorConfig) (cluster : SpiceDBCluster)
    (datastoreEngine : String) : Reads {Key.image.key} (readTarget lib globalConfig cluster datastoreEngine) := by
  refine Reads.finish (Reads.pop (Key.pop_rest _)) fun image => ?_
  refine Reads.then_ (Reads.lift _) fun target => ?_
  cases target.err with
  | none => exact Reads.pure _
  | some err => exact Reads.fail_then _ _

theorem readImage_reads (target : Target) : Reads ∅ (readImage target) :=
  Reads.ite (Reads.pure _) (Reads.ite (Reads.pure _) (Reads.fail_then _ _))

theorem readFlag_reads (k : BoolOrStringKey) : Reads {k.key} (readFlag k) := by
  refine Reads.finish (Reads.pop k.pop_rest) fun ⟨b, err⟩ => ?_
  cases err with
  | none => exact Reads.pure _
  | some err => exact Reads.fail_then _ _

theorem readSecret_reads (secrets : GoMap Secret) (field secretName key : String) :
    Reads ∅ (readSecret secrets field secretName key) := by
  unfold readSecret
  cases secrets.lookup secretName with
  | none => exact Reads.fail_then _ _
  | some sec =>
    simp only
    cases sec.data.lookup key with
    | none => exact Reads.fail_then _ _
    | some val => exact Reads.pure _

theorem resolveCredential_reads (secrets : GoMap Secret) (field defaultKey : String) (fetch : Bool)
    (ref : Option CredentialRef) : Reads ∅ (resolveCredential secrets field defaultKey fetch ref) := by
  cases ref with
  | none => exact Reads.fail_then _ _
  | some ref =>
    refine Reads.ite (Reads.pure _) (Reads.ite ?_ (Reads.pure _))
    exact Reads.then_ (readSecret_reads _ _ _ _) fun _ => Reads.pure _

theorem resolveCredentials_reads (cluster : SpiceDBCluster) (secrets : GoMap Secret) (datastoreEngine : String) :
    Reads ∅ (resolveCredentials cluster secrets datastoreEngine) := by
  have refs : ∀ credentials, Reads ∅ (resolveRefs secrets datastoreEngine credentials) := fun credentials =>
    Reads.then_ (resolveCredential_reads _ _ _ _ _) fun _ =>
      Reads.then_ (resolveCredential_reads _ _ _ _ _) fun _ => Reads.pure _
  unfold resolveCredentials
  cases cluster.spec.credentials with
  | some credentials => exact refs credentials
  | none => exact Reads.ite (Reads.fail_then _ _) (refs _)

theorem readReplicas_reads (datastoreEngine : String) : Reads {"replicas"} (readReplicas datastoreEngine) := by
  have hpop : ∀ key : IntOrStringKey, key.key = "replicas" → Reads {"replicas"} (Read.pop key.pop) :=
    fun key hkey => hkey ▸ Reads.pop key.pop_rest
  refine Reads.finish (hpop _ (by split <;> rfl)) fun ⟨replicas, err⟩ => ?_
  refine Reads.then_ (Reads.failAll _) fun _ => ?_
  exact Reads.ite (Reads.fail_then _ _) (Reads.pure _)

theorem metadataSet_warnings (k : MetadataSetKey) (objectType metadataType : String) (config : RawConfig) :
    ∀ w ∈ (k.pop objectType metadataType config).1.warnings, Ordinary w := by
  have hparse : ∀ text, Ordinary ("couldn't parse extra " ++ objectType ++ " " ++ metadataType ++ " " ++ text) :=
    fun text =>
      (((((ordinary_of_head (c := 'c') (by decide) (by decide)).append _).append _).append _).append _).append _
  -- each piece or field adds at most one warning
  have hadd : ∀ (set : MetadataSet) (warning : String), (∀ w ∈ set.warnings, Ordinary w) → Ordinary warning →
      ∀ w ∈ set.warnings ++ [warning], Ordinary w := by
    intro set warning hset hw w hmem
    rcases List.mem_append.1 hmem with hmem | hmem
    · exact hset w hmem
    · rw [List.mem_singleton.1 hmem]
      exact hw
  unfold MetadataSetKey.pop
  split
  · exact fun w hw => absurd hw (List.not_mem_nil)
  · split_ifs
    · exact fun w hw => absurd hw (List.not_mem_nil)
    · refine List.foldlRecOn _ _ (motive := fun set : MetadataSet => ∀ w ∈ set.warnings, Ordinary w)
        (fun w hw => absurd hw (List.not_mem_nil)) fun set hset piece _ => ?_
      unfold metadataPair
      split
      · exact hset
      · exact hadd set _ hset ((hparse _).append _)
  · refine List.foldlRecOn _ _ (motive := fun set : MetadataSet => ∀ w ∈ set.warnings, Ordinary w)
      (fun w hw => absurd hw (List.not_mem_nil)) fun set hset field _ => ?_
    unfold metadataField
    split
    · exact hset
    · exact hadd set _ hset (hparse _)
  · exact fun w hw => absurd hw (List.not_mem_nil)

theorem readMetadata_reads (k : MetadataSetKey) (objectType metadataType : String) :
    Reads {k} (readMetadata k objectType metadataType) := by
  intro I hI T
  refine Triple.bind (Q := fun set r => (∀ w ∈ set.warnings, Ordinary w) ∧ I (T ∪ {k}) r) (Triple.act fun r h => ?_)
    fun set => Triple.assume fun hw => ?_
  · refine ⟨metadataSet_warnings k objectType metadataType r.config, ?_⟩
    rw [MetadataSetKey.pop_rest]
    exact hI.erase k h
  · refine Reads.run_empty (Reads.then_ (Reads.failAll _) fun _ => ?_) hI _
    exact Reads.then_ (Reads.warnAll hw) fun _ => Reads.pure _

theorem readPDB_reads : Reads {Key.pdb} readPDB := by
  have hunknown : ∀ k, Ordinary ("unknown key " ++ quote k ++ " in pdb config") :=
    fun k => ((ordinary_of_head (c := 'u') (by decide) (by decide)).append _).append _
  refine Reads.of_remaining (fun config hk => ?_) fun config hk => ?_
  · rw [AList.lookup_eq_none.2 hk]
    exact Reads.pure _
  · obtain ⟨pdbRaw, hlookup⟩ := mem_iff_lookup.1 hk
    rw [hlookup]
    refine Reads.finish (Reads.pop fun _ => rfl) fun _ => ?_
    cases pdbRaw with
    | object fields =>
      refine Reads.then_ (Reads.failAll _) fun _ => ?_
      have hrest : ∀ pdbConfig : RawConfig, ∀ pdb : PDBConfig, Reads ∅ (do
          Read.warnAll (pdbConfig.keys.map fun k => "unknown key " ++ quote k ++ " in pdb config")
          pure pdb) := by
        intro pdbConfig pdb
        refine Reads.then_ (Reads.warnAll fun w hw => ?_) fun _ => Reads.pure _
        obtain ⟨k, _, rfl⟩ := List.mem_map.1 hw
        exact hunknown k
      refine Reads.ite ?_ (hrest _ _)
      exact Reads.then_ (Reads.fail _) fun _ => hrest _ _
    | _ => exact Reads.fail_then _ _

theorem popInto_reads (keys : List Key) (m : GoMap String) : Reads {x | ∃ k ∈ keys, k.key = x} (popInto keys m) := by
  induction keys generalizing m with
  | nil =>
    have hempty : {x : String | ∃ k ∈ ([] : List Key), k.key = x} = ∅ := by simp
    rw [hempty]
    exact Reads.pure _
  | cons k rest ih =>
    have hinsert : {x | ∃ k' ∈ k :: rest, k'.key = x} = insert k.key {x | ∃ k' ∈ rest, k'.key = x} := by
      ext x
      simp [eq_comm]
    rw [hinsert]
    exact Reads.pop_then k.pop_rest fun v => ih _

/-- The keys `readTLSPaths` pops. -/
def tlsKeys (tlsSecretName : String) : Set String := {x | tlsSecretName ≠ "" ∧ ∃ k ∈ Key.tlsPaths, k.key = x}

theorem readTLSPaths_reads (tlsSecretName : String) (skipTLSWarning : Bool) (passthrough : GoMap String) :
    Reads (tlsKeys tlsSecretName) (readTLSPaths tlsSecretName skipTLSWarning passthrough) := by
  unfold readTLSPaths tlsKeys
  split
  · rename_i hset
    simpa [hset] using popInto_reads Key.tlsPaths passthrough
  · rename_i hunset
    have hempty : {x : String | tlsSecretName ≠ "" ∧ ∃ k ∈ Key.tlsPaths, k.key = x} = ∅ := by simp_all
    have hw : Ordinary ("no TLS configured, consider setting " ++ quote "tlsSecretName") :=
      (ordinary_of_head (c := 'n') (by decide) (by decide)).append _
    rw [hempty]
    exact Reads.ite (Reads.warn_then hw _) (Reads.pure _)

theorem readPassthrough_reads (spice : SpiceConfig) (migration : MigrationConfig) (passthrough : GoMap String) :
    Reads Set.univ (readPassthrough spice migration passthrough) := by
  intro I hI T
  rw [Set.union_univ]
  exact Triple.bind (Triple.act fun _ h => hI.clear h) fun _ => Triple.pure fun _ h => h

theorem tryPatches_reads (lib : Libraries) {K : Type} (codec : Codec K) (typeMeta : TypeMeta) (obj : K)
    (patches : List Patch) (resolver : PatchMetaResolver) :
    Reads ∅ (tryPatches lib codec typeMeta obj patches resolver) := by
  refine Reads.then_ (Reads.lift _) fun patched => ?_
  refine Reads.then_ (Reads.failAll _) fun _ => ?_
  exact Reads.ite (Reads.warn_then (ordinary_of_head (c := 'p') (by decide) (by decide)) _) (Reads.pure _)

end SpiceDBOperator
