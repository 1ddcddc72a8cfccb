import SpiceDBOperator.Config.Order

/-!
# Where the order of a map can be seen

The texts that `NewConfig` returns become conditions of the status, so an order that can be seen in them is a status
that changes by itself. It can be seen in three places: a budget with two unknown keys, an object of labels or
annotations with two values that are not strings, and a channel whose edges are wrong in two ways or whose cycle was
found after two nodes. `newConfig_orderFree_iff` says that there are no others. The libraries are those that accept
every patch, so that nothing else is reported than what is at issue.
-/

namespace SpiceDBOperator

open Golang

/-! ## Libraries that accept every patch -/

def quiet : Libraries := { plain with decodeOperation := fun _ => .ok { kind := "test", text := "" } }

theorem quiet_sorts : quiet.SortsMaps :=
  ⟨⟨fun _ => rfl, fun _ _ => rfl⟩, ⟨fun _ => rfl, fun _ _ => rfl⟩, ⟨fun _ => rfl, fun _ _ => rfl⟩⟩

theorem applyPatchLoop_quiet {typeMeta : TypeMeta} {kind : String} {resolver : PatchMetaResolver} {i : Nat}
    {patches : List Patch} {st st' : Patching}
    (h : applyPatchLoop quiet typeMeta kind resolver i patches st = .ok st') :
    st'.errs = st.errs := by
  induction patches generalizing i st with
  | nil =>
    cases h
    rfl
  | cons p rest ih =>
    have hone : applyPatch quiet typeMeta kind resolver i p st.encoded = .ok (.ok st.encoded) := rfl
    simp only [applyPatchLoop, hone, bind, Except.bind] at h
    split_ifs at h
    · have herrs := ih h
      exact herrs
    · exact ih h

theorem applyPatches_quiet {K : Type} {typeMeta : TypeMeta} {kind : String}
    (hkind : typeMeta.kind = some kind) {obj : K}
    {patches : List Patch} {resolver : PatchMetaResolver} {patched : Patched K}
    (h : applyPatches quiet (plainCodec K) typeMeta obj obj patches resolver = .ok patched) : patched.errs = [] := by
  simp only [applyPatches, plainCodec, hkind, go_bind_ok, Except.ok.injEq] at h
  obtain ⟨st, hst, rfl⟩ := h
  simp [applyPatchLoop_quiet hst]

theorem validatePatches_quiet (out : Config) : Says (fun _ => False) (fun _ => True) (validatePatches quiet out) := by
  have hquiet : ∀ {K : Type} {typeMeta : TypeMeta} {kind : String}, typeMeta.kind = some kind → ∀ (obj : K) patched,
      applyPatches quiet (plainCodec K) typeMeta obj obj out.patches out.patchMeta = .ok patched →
      ∀ e ∈ patched.errs, False := by
    intro K typeMeta kind hkind obj patched h e he
    rw [applyPatches_quiet hkind h] at he
    exact List.not_mem_nil he
  unfold validatePatches
  iterate 6 refine Says.bind (tryPatches_reports quiet _ rfl _ _ _ (hquiet rfl _)) fun _ => ?_
  exact Says.ite (Says.warn trivial) (Says.pure _)

/-! ## Warnings -/

section

variable {cluster : SpiceDBCluster} {globalConfig : OperatorConfig} {secrets : GoMap Secret} {raw raw' : RawConfig}

theorem targetOf_reordered {helpers : ConditionHelpers} (hraw : cluster.spec.config = some (.ok raw))
    (h : raw.Reordered raw') (engine : String) :
    globalConfig.targetOf helpers (cluster.withConfig raw') engine = globalConfig.targetOf helpers cluster engine := by
  rw [OperatorConfig.targetOf, OperatorConfig.targetOf, imageSetting_reordered hraw h]
  rfl

theorem RawConfig.Reordered.distinct (h : raw.Reordered raw') (hdistinct : raw.Distinct) : raw'.Distinct := by
  intro k v' hv'
  rcases h.lookup k with ⟨-, hnone⟩ | ⟨v, v'', hv, hv'', hsorted⟩
  · rw [hnone] at hv'
    cases hv'
  rw [hv''] at hv'
  cases hv'
  have hnodup := hdistinct k v hv
  cases v' with
  | object fields' =>
    cases v with
    | object fields =>
      have hnames := (perm_of_sorted hsorted).map (·.1)
      rw [sortedFields_names, sortedFields_names] at hnames
      exact hnames.nodup_iff.1 hnodup
    | _ => simp [Any.sorted] at hsorted
  | _ => trivial

/-- Two orders of the settings give one text of the warnings. -/
theorem OrderFree.warnings_eq (hfree : OrderFree cluster globalConfig secrets)
    (hraw : cluster.spec.config = some (.ok raw)) (hdistinct : raw.Distinct)
    (hreturns : ¬OraclePanics quiet cluster globalConfig raw) {raw₁ raw₂ : RawConfig} (h₁ : raw.Reordered raw₁)
    (h₂ : raw.Reordered raw₂) :
    ∃ tried, quiet.aggregate ((settings cluster raw₁).warnings [] tried) =
      quiet.aggregate ((settings cluster raw₂).warnings [] tried) := by
  obtain ⟨target, htarget⟩ := targetOf_returns_iff.2 hreturns
  have hengine₁ : (settings (cluster.withConfig raw₁) raw₁).datastoreEngine = (Key.datastoreEngine.pop raw).1 := by
    rw [settings_withConfig, (settings_same cluster h₁ hdistinct).fields]
    rfl
  have htarget₁ : globalConfig.targetOf quiet (cluster.withConfig raw₁)
      (settings (cluster.withConfig raw₁) raw₁).datastoreEngine = .ok target := by
    rw [hengine₁, targetOf_reordered hraw h₁]
    exact htarget
  have htarget₂ : globalConfig.targetOf quiet ((cluster.withConfig raw₁).withConfig raw₂)
      (settings (cluster.withConfig raw₁) raw₁).datastoreEngine = .ok target := by
    rw [hengine₁]
    exact (targetOf_reordered hraw h₂ _).trans htarget
  have hseen : UpdateGraph.seen id target = UpdateGraph.seen id target := rfl
  obtain ⟨y₁, y₂, tried, hy₁, hy₂, -, -, hwarnings₁, hwarnings₂⟩ :=
    outcome_same quiet_sorts secrets plainResolver (h₁.symm.trans h₂) (h₁.distinct hdistinct) htarget₁ htarget₂ hseen
  have hsame := hfree quiet quiet_sorts plainResolver
    ⟨_, _, id, .settings hraw h₁, .refl _, fun _ => .refl _⟩ ⟨_, _, id, .settings hraw h₂, .refl _, fun _ => .refl _⟩
  have hraw₁ : (cluster.withConfig raw₁).spec.config = some (.ok raw₁) := rfl
  have hraw₂ : (cluster.withConfig raw₂).spec.config = some (.ok raw₂) := rfl
  rw [Visit.newConfig, Visit.newConfig, newConfig_eq _ _ _ hraw₁, newConfig_eq _ _ _ hraw₂] at hsame
  have hy₂' : outcome { quiet with mapsKeys := id } (cluster.withConfig raw₂)
      { globalConfig with updateGraph := globalConfig.updateGraph } secrets plainResolver raw₂ = .ok y₂ := hy₂
  rw [hy₁, hy₂'] at hsame
  refine ⟨tried, ?_⟩
  rw [← settings_withConfig cluster raw₁ raw₁, ← settings_withConfig cluster raw₂ raw₁, ← hwarnings₁, ← hwarnings₂]
  exact hsame.texts.2

theorem RawConfig.Reordered.insert {key : String} {fields fields' : List (String × Any)} (hdistinct : raw.Distinct)
    (hv : raw.lookup key = some (.object fields)) (hperm : fields.Perm fields') :
    raw.Reordered (AList.insert key (.object fields') raw) := by
  intro k
  by_cases hk : k = key
  · subst hk
    rw [hv, AList.lookup_insert, Option.map_some, Option.map_some]
    exact congrArg some (sorted_of_perm hperm (hdistinct k _ hv))
  · rw [AList.lookup_insert_ne hk]

/-- If what is said about the fields of an object stands together, and nothing before it says the same, then it can
change places. -/
theorem OrderFree.commuting (hfree : OrderFree cluster globalConfig secrets)
    (hraw : cluster.spec.config = some (.ok raw)) (hdistinct : raw.Distinct)
    (hreturns : ¬OraclePanics quiet cluster globalConfig raw) {key : String} {fields : List (String × Any)}
    (hv : raw.lookup key = some (.object fields)) {say : String × Any → Option String} (before : List String)
    (after : List String → List String)
    (hwarnings : ∀ fields' tried, fields.Perm fields' →
      (settings cluster (AList.insert key (.object fields') raw)).warnings [] tried =
        before ++ (fields'.filterMap say ++ after tried))
    (hnew : ∀ x ∈ fields.filterMap say, x ∉ before) : Commuting ", " (fields.filterMap say) := by
  intro x hx y hy
  obtain ⟨f, hf, hsay⟩ := List.mem_filterMap.1 hx
  obtain ⟨f', hf', hsay'⟩ := List.mem_filterMap.1 hy
  by_cases hne : f = f'
  · subst hne
    rw [hsay] at hsay'
    rw [Option.some.inj hsay']
  obtain ⟨rest, hperm⟩ := exists_perm_pair hf hf' hne
  have hperm' : fields.Perm (f' :: f :: rest) := hperm.trans (.swap f' f rest)
  obtain ⟨tried, hsame⟩ := hfree.warnings_eq hraw hdistinct hreturns (RawConfig.Reordered.insert hdistinct hv hperm)
    (RawConfig.Reordered.insert hdistinct hv hperm')
  rw [hwarnings _ tried hperm, hwarnings _ tried hperm'] at hsame
  simp only [List.filterMap_cons, hsay, hsay', List.cons_append] at hsame
  exact aggregate_swap quiet.toAggregation (hnew x hx) (hnew y hy) _ hsame

/-! ## What warnings begin with -/

theorem popMetadata_begins (key : MetadataSetKey) (objectType metadataType : String) (raw : RawConfig) :
    ∀ w ∈ (key.pop objectType metadataType raw).1.warnings,
      Begins ("couldn't parse extra " ++ objectType ++ " " ++ metadataType ++ " ") w := by
  intro w hw
  rcases key.pop_cases objectType metadataType raw with hempty | ⟨pieces, hread⟩ | ⟨fields, hfields⟩ | herr
  · rw [hempty] at hw
    cases hw
  · rw [hread.warnings] at hw
    obtain ⟨p, -, rfl⟩ := List.mem_map.1 hw
    exact begins_append_append ..
  · rw [hfields, metadataFields_eq] at hw
    obtain ⟨f, -, hf⟩ := List.mem_filterMap.1 hw
    split at hf
    · cases hf
    · cases hf
      exact begins_append ..
  · rw [herr] at hw
    cases hw

theorem pdbOf_begins (raw : RawConfig) : ∀ w ∈ (pdbOf raw).warnings, Begins "unknown key " w := by
  intro w hw
  unfold pdbOf at hw
  split at hw
  · cases hw
  · obtain ⟨k, -, rfl⟩ := List.mem_map.1 hw
    exact begins_append_append ..
  · cases hw

theorem Settings.warningsBefore_begins (s : Settings) :
    ∀ w ∈ s.warningsBefore [], BeginsAny [".spec.config.", "defaulting to false: "] w := by
  intro w hw
  simp only [Settings.warningsBefore, List.append_nil, List.mem_append, Option.mem_toList,
    Option.map_eq_some_iff, List.mem_map] at hw
  rcases hw with (⟨k, -, rfl⟩ | ⟨err, -, rfl⟩) | ⟨err, -, rfl⟩
  · refine ⟨".spec.config.", by decide, ⟨k ++ (" is ignored; use .spec." ++ (k ++ " instead")), ?_⟩⟩
    simp only [String.append_assoc]
  · exact ⟨_, by decide, begins_append ..⟩
  · exact ⟨_, by decide, begins_append ..⟩

/-! ## Labels, annotations and the budget -/

theorem OrderFree.unparsed_commuting (hfree : OrderFree cluster globalConfig secrets)
    (hraw : cluster.spec.config = some (.ok raw)) (hdistinct : raw.Distinct)
    (hreturns : ¬OraclePanics quiet cluster globalConfig raw) {key : MetadataSetKey} {objectType metadataType : String}
    (before : List String) (after : List String → List String)
    (hwarnings : ∀ raw' tried, raw.Reordered raw' → (∀ k, k ≠ key → raw'.lookup k = raw.lookup k) →
      (settings cluster raw').warnings [] tried =
        before ++ ((key.pop objectType metadataType raw').1.warnings ++ after tried))
    (hbefore : ∀ w ∈ before, ¬Begins ("couldn't parse extra " ++ objectType ++ " " ++ metadataType ++ " ") w) :
    Commuting ", " (unparsedOf objectType metadataType (raw.lookup key)) := by
  cases hv : raw.lookup key with
  | none => exact nofun
  | some v =>
    cases v with
    | object fields =>
      refine hfree.commuting hraw hdistinct hreturns hv before after ?_ ?_
      · intro fields' tried hperm
        have hkey : (AList.insert key (.object fields') raw : RawConfig).lookup key = some (.object fields') :=
          AList.lookup_insert ..
        rw [hwarnings _ tried (RawConfig.Reordered.insert hdistinct hv hperm) fun k hk => AList.lookup_insert_ne hk,
          MetadataSetKey.pop_object hkey, metadataFields_eq]
        rfl
      · intro x hx hmem
        obtain ⟨f, -, hf⟩ := List.mem_filterMap.1 hx
        split at hf
        · cases hf
        · cases hf
          exact hbefore _ hmem (begins_append ..)
    | _ => exact nofun

theorem mapOf_keys {fields : List (String × Any)} (h : (fields.map (·.1)).Nodup) :
    (mapOf fields).keys = fields.map (·.1) := by
  induction fields with
  | nil => rfl
  | cons f rest ih =>
    obtain ⟨hnot, hrest⟩ := List.nodup_cons.1 h
    have hinsert : mapOf (f :: rest) = AList.insert f.1 f.2 (mapOf rest) := rfl
    rw [hinsert, AList.keys_insert, ih hrest, List.erase_of_not_mem hnot]
    rfl

theorem unknownKeys_mapOf {fields : List (String × Any)} (h : (fields.map (·.1)).Nodup) :
    unknownKeys (mapOf fields) = (fields.map (·.1)).filter (· ∉ pdbKeys) := by
  have hnodup : (mapOf fields).keys.Nodup := by rwa [mapOf_keys h]
  rw [unknownKeys, RawConfig.without_keys, ← List.diff_eq_foldl, hnodup.sdiff_eq_filter, mapOf_keys h]

/-- What is said about a field of the budget. -/
def unknownField (f : String × Any) : Option String :=
  if f.1 ∈ pdbKeys then none else some ("unknown key " ++ quote f.1 ++ " in pdb config")

theorem pdbFields_warnings {fields : List (String × Any)} (h : (fields.map (·.1)).Nodup) :
    (pdbFields (mapOf fields)).warnings = fields.filterMap unknownField := by
  have hwarnings : (pdbFields (mapOf fields)).warnings =
      (unknownKeys (mapOf fields)).map fun k => "unknown key " ++ quote k ++ " in pdb config" := rfl
  rw [hwarnings, unknownKeys_mapOf h]
  clear hwarnings h
  induction fields with
  | nil => rfl
  | cons f rest ih =>
    by_cases hf : f.1 ∈ pdbKeys
    · simpa [unknownField, hf] using ih
    · simpa [unknownField, hf] using ih

theorem OrderFree.unknownKeys_eq (hfree : OrderFree cluster globalConfig secrets)
    (hraw : cluster.spec.config = some (.ok raw)) (hdistinct : raw.Distinct)
    (hreturns : ¬OraclePanics quiet cluster globalConfig raw) (before : List String) (after : List String → List String)
    (hwarnings : ∀ raw' tried, raw.Reordered raw' → (∀ k, k ≠ Key.pdb → raw'.lookup k = raw.lookup k) →
      (settings cluster raw').warnings [] tried = before ++ ((pdbOf raw').warnings ++ after tried))
    (hbefore : ∀ w ∈ before, ¬Begins "unknown key " w) :
    ∀ k ∈ unknownKeysOf (raw.lookup Key.pdb), ∀ k' ∈ unknownKeysOf (raw.lookup Key.pdb), k = k' := by
  cases hv : raw.lookup Key.pdb with
  | none => exact nofun
  | some v =>
    cases v with
    | object fields =>
      have hnodup : (fields.map (·.1)).Nodup := hdistinct _ _ hv
      have hcommuting : Commuting ", " (fields.filterMap unknownField) := by
        refine hfree.commuting hraw hdistinct hreturns hv before after ?_ ?_
        · intro fields' tried hperm
          have hkey : (AList.insert Key.pdb (.object fields') raw : RawConfig).lookup Key.pdb =
              some (.object fields') :=
            AList.lookup_insert ..
          rw [hwarnings _ tried (RawConfig.Reordered.insert hdistinct hv hperm) fun k hk => AList.lookup_insert_ne hk,
            pdbOf_object hkey, pdbFields_warnings ((hperm.map _).nodup_iff.1 hnodup)]
        · intro x hx hmem
          rw [← pdbFields_warnings hnodup, ← pdbOf_object hv] at hx
          exact hbefore x hmem (pdbOf_begins raw x hx)
      intro k hk k' hk'
      have hsaid : ∀ k ∈ unknownKeys (mapOf fields),
          "unknown key " ++ quote k ++ " in pdb config" ∈ fields.filterMap unknownField := by
        intro k hk
        rw [← pdbFields_warnings hnodup]
        exact List.mem_map_of_mem hk
      have hswap := hcommuting _ (hsaid k hk) _ (hsaid k' hk')
      simp only [String.append_assoc, String.append_right_inj] at hswap
      exact quote_append_inj hswap
    | _ => exact nofun

/-! ## Channels -/

/-- What the errors other than that of the oracle begin with. -/
def otherStarts : List String :=
  ["datastoreEngine ", "no update ", "strconv.", "expected ", "secret must ", "credentials", "invalid value ",
    "cannot set ", "only one "]

def SaysOther (e : String) : Prop := BeginsAny otherStarts e

theorem SaysOther.not_fetch {e : String} (h : SaysOther e) : ¬Begins "error fetching update source: " e :=
  h.clash (by decide)

theorem BoolOrStringKey.pop_other (k : BoolOrStringKey) (raw : RawConfig) :
    ∀ e ∈ (k.pop raw).1.2.toList, SaysOther e := by
  intro e he
  have hparse : ∀ s err, parseBool s = .error err → SaysOther err := by
    intro s err h
    unfold parseBool at h
    split_ifs at h
    cases h
    exact ⟨"strconv.", by decide, ⟨"ParseBool" ++ (": parsing " ++ (quote s ++ (": " ++ "invalid syntax"))),
      by simp only [ParseError.text, String.append_assoc]⟩⟩
  unfold BoolOrStringKey.pop at he
  split at he
  · cases he
  · split at he
    · cases he
    · rename_i hbad
      cases List.mem_singleton.1 he
      exact hparse _ _ hbad
  · cases he
  · cases List.mem_singleton.1 he
    exact ⟨"expected ", by decide, ⟨"bool or string for key " ++ k.key, by rw [← String.append_assoc]; rfl⟩⟩

theorem MetadataSetKey.pop_other (k : MetadataSetKey) (objectType metadataType : String) (raw : RawConfig) :
    ∀ e ∈ (k.pop objectType metadataType raw).1.err.toList, SaysOther e := by
  intro e he
  rcases k.pop_cases objectType metadataType raw with hempty | ⟨pieces, hread⟩ | ⟨fields, hfields⟩ | herr
  · rw [hempty] at he
    cases he
  · rw [hread.err] at he
    cases he
  · rw [hfields, metadataFields_eq] at he
    cases he
  · rw [herr] at he
    cases List.mem_singleton.1 he
    exact ⟨"expected ", by decide, ⟨"string or map for key " ++ k, by rw [← String.append_assoc]; rfl⟩⟩

theorem pdbOf_other (raw : RawConfig) : ∀ e ∈ (pdbOf raw).errs, SaysOther e := by
  intro e he
  unfold pdbOf at he
  split at he
  · cases he
  · rcases List.mem_append.1 he with he | he
    · exact BoolOrStringKey.pop_other _ _ e he
    · split_ifs at he
      · cases List.mem_singleton.1 he
        exact ⟨"only one ", by decide, ⟨"of pdb.maxUnavailable or pdb.minAvailable can be set", rfl⟩⟩
      · cases he
  · cases List.mem_singleton.1 he
    exact ⟨"expected ", by decide, ⟨"object for key " ++ quote Key.pdb, by rw [← String.append_assoc]; rfl⟩⟩

theorem AboutCredentials.other {e : String} (h : AboutCredentials e) : SaysOther e := by
  rcases h with ⟨rest, rfl⟩ | ⟨rest, rfl⟩ | ⟨rest, rfl⟩ | ⟨rest, rfl⟩
  · exact ⟨"secret must ", by decide, ⟨"be provided for " ++ rest, by rw [← String.append_assoc]; rfl⟩⟩
  · exact ⟨"secret must ", by decide, ⟨"contain a " ++ rest, by rw [← String.append_assoc]; rfl⟩⟩
  · exact ⟨"credentials", by decide, ⟨"." ++ rest, by rw [← String.append_assoc]; rfl⟩⟩
  · exact ⟨"credentials", by decide, ⟨" or secretName must be provided" ++ rest, by rw [← String.append_assoc]; rfl⟩⟩

/-- The error before that of the oracle. -/
def Settings.errsBefore (s : Settings) : List String :=
  if s.datastoreEngine = "" then ["datastoreEngine is a required field"] else []

/-- The errors after that of the oracle, if it found no source and the patches fit. -/
def Settings.errsAfter (s : Settings) (creds : List String) : List String :=
  "no update found in channel" :: (s.dispatchEnabled.2.toList ++ (s.skipTLSWarning.2.toList ++ (creds ++
    ((s.replicas.2.map fun err => "invalid value for replicas '\\x00': " ++ err).toList ++
    ((if 1 < s.replicas.1 ∧ s.datastoreEngine = "memory" then ["cannot set replicas > 1 for memory engine"] else []) ++
    (s.skipMigrations.2.toList ++ (s.extraPodLabels.err.toList ++ (s.extraPodAnnotations.err.toList ++
    (s.extraServiceAccountAnnotations.err.toList ++ s.pdb.errs)))))))))

theorem Settings.errs_fetchSource (s : Settings) (lib : Libraries) {target : Target} {err : UpdateError}
    (herr : target.err = some (.fetchSource err)) (hstate : target.state = {}) (creds : List String) :
    s.errs lib target creds [] =
      s.errsBefore ++ ("error fetching update source: " ++ err.textIn lib.mapsKeys) :: s.errsAfter creds := by
  have himage : (imageOf target).errs = ["no update found in channel"] := by
    rw [imageOf, hstate]
    rfl
  have htext : (target.err.map (·.textIn lib.mapsKeys)).toList =
      ["error fetching update source: " ++ err.textIn lib.mapsKeys] := by
    rw [herr]
    rfl
  rw [Settings.errs, himage, htext]
  simp only [Settings.errsBefore, Settings.errsAfter, List.append_assoc, List.append_nil, List.cons_append,
    List.nil_append]

theorem errsBefore_other (s : Settings) : ∀ e ∈ s.errsBefore, SaysOther e := by
  intro e he
  unfold Settings.errsBefore at he
  split_ifs at he
  · cases List.mem_singleton.1 he
    exact ⟨"datastoreEngine ", by decide, ⟨"is a required field", rfl⟩⟩
  · cases he

theorem errsAfter_other (cluster : SpiceDBCluster) (raw : RawConfig) {creds : List String}
    (hcreds : ∀ e ∈ creds, AboutCredentials e) : ∀ e ∈ (settings cluster raw).errsAfter creds, SaysOther e := by
  have hreplicas : ∀ e ∈ ((settings cluster raw).replicas.2.map
      fun err => "invalid value for replicas '\\x00': " ++ err).toList, SaysOther e := by
    intro e he
    obtain ⟨err, -, rfl⟩ := Option.map_eq_some_iff.1 (Option.mem_toList.1 he)
    exact ⟨"invalid value ", by decide, ⟨"for replicas '\\x00': " ++ err, by rw [← String.append_assoc]; rfl⟩⟩
  have hmemory :
      ∀ e ∈ (if 1 < (settings cluster raw).replicas.1 ∧ (settings cluster raw).datastoreEngine = "memory" then
      ["cannot set replicas > 1 for memory engine"] else []), SaysOther e := by
    intro e he
    split_ifs at he
    · cases List.mem_singleton.1 he
      exact ⟨"cannot set ", by decide, ⟨"replicas > 1 for memory engine", rfl⟩⟩
    · cases he
  have hnone : SaysOther "no update found in channel" := ⟨"no update ", by decide, ⟨"found in channel", rfl⟩⟩
  intro e he
  simp only [Settings.errsAfter, List.mem_cons, List.mem_append] at he
  rcases he with rfl | he | he | he | he | he | he | he | he | he | he
  · exact hnone
  · exact BoolOrStringKey.pop_other _ raw e he
  · exact BoolOrStringKey.pop_other _ raw e he
  · exact (hcreds e he).other
  · exact hreplicas e he
  · exact hmemory e he
  · exact BoolOrStringKey.pop_other _ raw e he
  · exact MetadataSetKey.pop_other _ _ _ raw e he
  · exact MetadataSetKey.pop_other _ _ _ raw e he
  · exact MetadataSetKey.pop_other _ _ _ raw e he
  · exact pdbOf_other raw e he

/-- The errors of a run in which the oracle finds no source. -/
theorem newConfig_fetchSource (globalConfig : OperatorConfig) (secrets : GoMap Secret)
    (hraw : cluster.spec.config = some (.ok raw)) (untagged : (explodeImage cluster.spec.imageSetting).2 = ("", "")) :
    ∃ creds, (∀ e ∈ creds, AboutCredentials e) ∧
      ∀ {g' : UpdateGraph} {mapsKeys : List String → List String} {t : Target}
      {err : UpdateError},
      g'.call (callFor quiet cluster globalConfig (Key.datastoreEngine.pop raw).1 untagged)
        cluster.status.currentVersion =
        .ok t →
      t.err = some (.fetchSource err) → t.state = {} →
      ∃ y, newConfig { quiet with mapsKeys } cluster { globalConfig with updateGraph := g' } secrets plainResolver =
          .ok (verdict quiet.toAggregation y) ∧
        y.errs = (settings cluster raw).errsBefore ++
          ("error fetching update source: " ++ err.textIn mapsKeys) :: (settings cluster raw).errsAfter creds := by
  obtain ⟨creds, hcreds, habout, -⟩ := resolveCredentials_reports cluster secrets (settings cluster raw).datastoreEngine
  refine ⟨creds.errs, habout, fun {g' mapsKeys t err} hcall herr hstate => ?_⟩
  generalize hs : settings cluster raw = s at *
  have hengine : (Key.datastoreEngine.pop raw).1 = s.datastoreEngine := by
    rw [← hs]
    rfl
  rw [hengine] at hcall
  have htarget :
      OperatorConfig.targetOf quiet { globalConfig with updateGraph := g' } cluster s.datastoreEngine = .ok t :=
    hcall
  obtain ⟨tried, htried, hquiet, -⟩ := validatePatches_quiet
    (s.config { quiet with mapsKeys } t creds.value cluster plainResolver)
  rw [← validatePatches_mapsKeys quiet mapsKeys] at htried
  have hnone : tried.errs = [] := List.eq_nil_iff_forall_not_mem.2 hquiet
  have houtcome : outcome { quiet with mapsKeys } cluster { globalConfig with updateGraph := g' } secrets plainResolver
      raw = .ok _ := outcome_of_target hs htarget hcreds.alone_eq htried.alone_eq
  rw [newConfig_eq _ _ _ hraw, houtcome]
  refine ⟨_, rfl, ?_⟩
  simp only
  rw [hnone]
  exact s.errs_fetchSource _ herr hstate creds.errs

theorem OrderFree.steady (hfree : OrderFree cluster globalConfig secrets)
    (hraw : cluster.spec.config = some (.ok raw)) (untagged : (explodeImage cluster.spec.imageSetting).2 = ("", ""))
    {channel : Channel} (hasked : UpdateGraph.Asked globalConfig.updateGraph
      (callFor quiet cluster globalConfig (Key.datastoreEngine.pop raw).1 untagged)
        cluster.status.currentVersion channel) :
    channel.Steady := by
  obtain ⟨creds, hcreds, hrun⟩ := newConfig_fetchSource globalConfig secrets hraw untagged
  refine UpdateGraph.steady_of_texts ?_ hasked
  rintro g₁ g₂ mapsKeys₁ mapsKeys₂ t₁ t₂ err₁ err₂ hg₁ hg₂ hkeys₁ hkeys₂ ht₁ ht₂ ⟨herr₁, hstate₁⟩ ⟨herr₂, hstate₂⟩
  obtain ⟨y₁, hy₁, herrs₁⟩ := hrun ht₁ herr₁ hstate₁
  obtain ⟨y₂, hy₂, herrs₂⟩ := hrun ht₂ herr₂ hstate₂
  have hsame := hfree quiet quiet_sorts plainResolver ⟨_, g₁, mapsKeys₁, .same, hg₁, hkeys₁⟩
    ⟨_, g₂, mapsKeys₂, .same, hg₂, hkeys₂⟩
  rw [Visit.newConfig, Visit.newConfig, hy₁, hy₂] at hsame
  have htexts := hsame.texts.1
  rw [herrs₁, herrs₂] at htexts
  have hbefore : ∀ text, "error fetching update source: " ++ text ∉ (settings cluster raw).errsBefore :=
    fun text hmem => (errsBefore_other _ _ hmem).not_fetch (begins_append ..)
  have hafter : ∀ text, "error fetching update source: " ++ text ∉ (settings cluster raw).errsAfter creds :=
    fun text hmem => (errsAfter_other cluster raw hcreds _ hmem).not_fetch (begins_append ..)
  have htext := aggregate_replace quiet.toAggregation (hbefore _) (hafter _) (hbefore _) (hafter _) htexts
  exact (String.append_right_inj _).1 htext

/-! ## The condition -/

/-- The four blocks of warnings that follow the order of an object. -/
theorem warnings_blocks (cluster : SpiceDBCluster) (h : raw.Reordered raw') (hdistinct : raw.Distinct)
    (tried : List String) :
    (settings cluster raw').warnings [] tried = (settings cluster raw).warningsBefore [] ++
      ((MetadataSetKey.extraPodLabels.pop "pod" "label" raw').1.warnings ++
      ((MetadataSetKey.extraPodAnnotations.pop "pod" "annotation" raw').1.warnings ++
      ((MetadataSetKey.extraServiceAccountAnnotations.pop "service account" "annotation" raw').1.warnings ++
      ((pdbOf raw').warnings ++ (settings cluster raw).warningsAfter tried)))) := by
  have hsame := settings_same cluster h hdistinct
  rw [Settings.warnings_eq, hsame.warningsBefore, hsame.warningsAfter]
  rfl

theorem OrderFree.saidOnce (hfree : OrderFree cluster globalConfig secrets)
    (hraw : cluster.spec.config = some (.ok raw)) (hdistinct : raw.Distinct)
    (hreturns : ¬OraclePanics quiet cluster globalConfig raw) : SaidOnce quiet cluster globalConfig raw := by
  have hpdb : ∀ {raw' : RawConfig}, raw'.lookup Key.pdb = raw.lookup Key.pdb → pdbOf raw' = pdbOf raw := by
    intro raw' h
    rw [pdbOf, pdbOf, h]
  have hpop : ∀ {key : MetadataSetKey} {raw' : RawConfig} (objectType metadataType : String),
      raw'.lookup key = raw.lookup key →
      (key.pop objectType metadataType raw').1 = (key.pop objectType metadataType raw).1 :=
    fun {key} {_} objectType metadataType h => key.pop_value objectType metadataType h
  -- the starts of the warnings before each block
  have hbefore := (settings cluster raw).warningsBefore_begins
  have hlabels := beginsAny_append hbefore (popMetadata_begins MetadataSetKey.extraPodLabels "pod" "label" raw)
  have hannotations := beginsAny_append hlabels
    (popMetadata_begins MetadataSetKey.extraPodAnnotations "pod" "annotation" raw)
  have haccount := beginsAny_append hannotations
    (popMetadata_begins MetadataSetKey.extraServiceAccountAnnotations "service account" "annotation" raw)
  refine ⟨?_, ?_, ?_, ?_, fun untagged channel hasked => hfree.steady hraw untagged hasked⟩
  · refine hfree.unparsed_commuting hraw hdistinct hreturns _
      (fun tried => (MetadataSetKey.extraPodAnnotations.pop "pod" "annotation" raw).1.warnings ++
        ((MetadataSetKey.extraServiceAccountAnnotations.pop "service account" "annotation" raw).1.warnings ++
        ((pdbOf raw).warnings ++ (settings cluster raw).warningsAfter tried))) ?_
      fun w hw => (hbefore w hw).clash (by decide)
    intro raw' tried h hother
    rw [warnings_blocks cluster h hdistinct, hpop _ _ (hother MetadataSetKey.extraPodAnnotations (by decide)),
      hpop _ _ (hother MetadataSetKey.extraServiceAccountAnnotations (by decide)), hpdb (hother _ (by decide))]
  · refine hfree.unparsed_commuting hraw hdistinct hreturns _
      (fun tried => (MetadataSetKey.extraServiceAccountAnnotations.pop "service account" "annotation" raw).1.warnings ++
        ((pdbOf raw).warnings ++ (settings cluster raw).warningsAfter tried)) ?_
      fun w hw => (hlabels w hw).clash (by decide)
    intro raw' tried h hother
    rw [warnings_blocks cluster h hdistinct, hpop _ _ (hother MetadataSetKey.extraPodLabels (by decide)),
      hpop _ _ (hother MetadataSetKey.extraServiceAccountAnnotations (by decide)), hpdb (hother _ (by decide)),
      List.append_assoc]
  · refine hfree.unparsed_commuting hraw hdistinct hreturns _
      (fun tried => (pdbOf raw).warnings ++ (settings cluster raw).warningsAfter tried) ?_
      fun w hw => (hannotations w hw).clash (by decide)
    intro raw' tried h hother
    rw [warnings_blocks cluster h hdistinct, hpop _ _ (hother MetadataSetKey.extraPodLabels (by decide)),
      hpop _ _ (hother MetadataSetKey.extraPodAnnotations (by decide)), hpdb (hother _ (by decide)), List.append_assoc,
      List.append_assoc]
  · refine hfree.unknownKeys_eq hraw hdistinct hreturns _ (settings cluster raw).warningsAfter ?_
      fun w hw => (haccount w hw).clash (by decide)
    intro raw' tried h hother
    rw [warnings_blocks cluster h hdistinct, hpop _ _ (hother MetadataSetKey.extraPodLabels (by decide)),
      hpop _ _ (hother MetadataSetKey.extraPodAnnotations (by decide)),
      hpop _ _ (hother MetadataSetKey.extraServiceAccountAnnotations (by decide)), List.append_assoc, List.append_assoc,
      List.append_assoc]

theorem SpiceDBCluster.Reordered.exists_raw {cluster' : SpiceDBCluster} (h : cluster.Reordered cluster')
    (hraw : cluster.spec.config = some (.ok raw)) :
    ∃ raw', raw.Reordered raw' ∧ cluster' = cluster.withConfig raw' := by
  cases h with
  | same =>
    refine ⟨raw, .refl _, ?_⟩
    rw [SpiceDBCluster.withConfig, ← hraw]
  | settings hraw' h =>
    rw [hraw] at hraw'
    cases hraw'
    exact ⟨_, h, rfl⟩

theorem SpiceDBCluster.Reordered.eq_of_unread {cluster' : SpiceDBCluster} (h : cluster.Reordered cluster')
    (hunread : ∀ raw, cluster.spec.config ≠ some (.ok raw)) : cluster' = cluster := by
  cases h with
  | same => rfl
  | settings hraw _ => exact absurd hraw (hunread _)

/-- **When `NewConfig` does not depend on the order of a map.** Apart from the calls that panic in the oracle: exactly
if there is at most one unknown key in the budget, the warnings about labels and annotations can change places, and the
channels that are asked are rejected with one text, if at all. -/
theorem newConfig_orderFree_iff (helpers : ConditionHelpers) (cluster : SpiceDBCluster) (globalConfig : OperatorConfig)
    (secrets : GoMap Secret)
    (hdistinct : ∀ raw : RawConfig, cluster.spec.config = some (.ok raw) → raw.Distinct) :
    OrderFree cluster globalConfig secrets ↔ ∀ raw, cluster.spec.config = some (.ok raw) →
      OraclePanics helpers cluster globalConfig raw ∨ SaidOnce helpers cluster globalConfig raw := by
  obtain rfl := helpers.eq_plain
  constructor
  · intro hfree raw hraw
    by_cases hpanics : OraclePanics plainConditionHelpers cluster globalConfig raw
    · exact .inl hpanics
    · exact .inr (hfree.saidOnce hraw (hdistinct raw hraw) hpanics)
  · intro honce lib hlib resolver o₁ o₂
    have hbase : ∀ o : Visit cluster globalConfig,
        SameResult (newConfig { lib with mapsKeys := id } cluster globalConfig secrets resolver)
          (o.newConfig lib secrets resolver) := by
      rintro ⟨cluster', g', mapsKeys, hcluster, hg, hkeys⟩
      cases hconfig : cluster.spec.config with
      | none =>
        obtain rfl := hcluster.eq_of_unread (by simp [hconfig])
        simp only [Visit.newConfig, newConfig, hconfig]
        exact .error _ _
      | some config =>
        cases config with
        | error err =>
          obtain rfl := hcluster.eq_of_unread (by simp [hconfig])
          simp only [Visit.newConfig, newConfig, hconfig]
          exact .error _ _
        | ok raw =>
          obtain ⟨raw', h, rfl⟩ := hcluster.exists_raw hconfig
          exact newConfig_reordered hlib secrets resolver hconfig (hdistinct raw hconfig) h hg (fun _ => .refl _) hkeys
            (lib.toConditionHelpers.eq_plain ▸ honce raw hconfig)
    exact (hbase o₁).symm.trans (hbase o₂)

end

theorem distinct_mapOf {es : List (String × Any)} (h : ∀ e ∈ es, Any.Distinct e.2) : RawConfig.Distinct (mapOf es) := by
  intro k v hv
  induction es with
  | nil => cases hv
  | cons e rest ih =>
    have hinsert : mapOf (e :: rest) = AList.insert e.1 e.2 (mapOf rest) := rfl
    rw [hinsert] at hv
    by_cases hk : k = e.1
    · subst hk
      rw [AList.lookup_insert] at hv
      exact Option.some.inj hv ▸ h e (List.mem_cons_self ..)
    · rw [AList.lookup_insert_ne hk] at hv
      exact ih (fun e' he' => h e' (List.mem_cons_of_mem _ he')) hv

/-- A postgres cluster with such a budget. -/
def budgeted (fields : List (String × Any)) : SpiceDBCluster := configured [("pdb", .object fields)]

def budgetedConfig (fields : List (String × Any)) : RawConfig :=
  mapOf [("datastoreEngine", .string "postgres"), ("skipTLSWarning", .bool true), ("pdb", .object fields)]

theorem budgetedConfig_distinct {fields : List (String × Any)} (h : (fields.map (·.1)).Nodup) :
    (budgetedConfig fields).Distinct := by
  refine distinct_mapOf fun e he => ?_
  simp only [List.mem_cons, List.not_mem_nil, or_false] at he
  rcases he with rfl | rfl | rfl
  · trivial
  · trivial
  · exact h

/-- Two misspelt keys. -/
def misspelt : List (String × Any) := [("minavailable", .string "1"), ("maxunavailable", .string "1")]

theorem misspelt_reordered : (budgetedConfig misspelt).Reordered
    (AList.insert Key.pdb (.object misspelt.reverse) (budgetedConfig misspelt)) :=
  RawConfig.Reordered.insert (budgetedConfig_distinct (by decide)) rfl (List.reverse_perm misspelt).symm

/-- They are reported in the order of the map. -/
theorem misspelt_budget_in_two_orders :
    ∃ o₁ o₂ : Visit (budgeted misspelt) { imageName := "spicedb", updateGraph := UpdateGraph.twoReleases },
      (o₁.newConfig plain ∅ plainResolver).map (·.2) = .ok (some
        "[unknown key \"minavailable\" in pdb config, unknown key \"maxunavailable\" in pdb config]") ∧
      (o₂.newConfig plain ∅ plainResolver).map (·.2) = .ok (some
        "[unknown key \"maxunavailable\" in pdb config, unknown key \"minavailable\" in pdb config]") := by
  refine ⟨⟨_, _, id, .same, .refl _, fun _ => .refl _⟩,
    ⟨_, _, id, .settings rfl misspelt_reordered, .refl _, fun _ => .refl _⟩, ?_, ?_⟩
  · decide
  · decide

/-- One misspelt key, on a graph without errors. -/
theorem misspelt_key_once :
    OrderFree (budgeted [("minavailable", .string "1")])
      { imageName := "spicedb", updateGraph := UpdateGraph.twoReleases } ∅ ∧
    SaidOnce plain (budgeted [("minavailable", .string "1")])
      { imageName := "spicedb", updateGraph := UpdateGraph.twoReleases }
      (budgetedConfig [("minavailable", .string "1")]) := by
  have honce : SaidOnce plain (budgeted [("minavailable", .string "1")])
      { imageName := "spicedb", updateGraph := UpdateGraph.twoReleases }
      (budgetedConfig [("minavailable", .string "1")]) := by
    refine ⟨nofun, nofun, nofun, by decide, fun untagged channel hasked => ?_⟩
    obtain rfl := List.mem_singleton.1 hasked.mem
    exact Channel.steady_of_source rfl
  refine ⟨(newConfig_orderFree_iff plain _ _ _ ?_).2 ?_, honce⟩
  · intro raw hraw
    cases hraw
    exact budgetedConfig_distinct (by decide)
  · intro raw hraw
    cases hraw
    exact .inr honce

end SpiceDBOperator
