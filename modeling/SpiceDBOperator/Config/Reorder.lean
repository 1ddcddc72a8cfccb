import SpiceDBOperator.Config.Derived
import SpiceDBOperator.Config.Metadata
import SpiceDBOperator.Config.SameConfig
import SpiceDBOperator.Updates.Reorder

/-!
# A raw config in another order

`NewConfig` ranges over the raw config, over the budget and over objects of labels and annotations. What it looks up it
finds in any order, and what it passes on is a map again. What it says about a budget or an object of labels it says in
the order in which it visits the fields: in another order the warnings are permuted (`settings_same`).
-/

namespace SpiceDBOperator

open Golang

/-! ## Raw configs -/

/-- The same settings, in another order, whatever the order of the objects in them. -/
def RawConfig.Reordered (raw raw' : RawConfig) : Prop :=
  ∀ k, (raw.lookup k).map Any.sorted = (raw'.lookup k).map Any.sorted

/-- The fields of an object have distinct names. -/
def Any.Distinct : Any → Prop
  | .object fields => (fields.map (·.1)).Nodup
  | _ => True

/-- The objects among the settings are maps. -/
def RawConfig.Distinct (raw : RawConfig) : Prop := ∀ k v, raw.lookup k = some v → Any.Distinct v

section

variable {raw raw' : RawConfig}

theorem RawConfig.Reordered.refl (raw : RawConfig) : raw.Reordered raw := fun _ => rfl

theorem RawConfig.Reordered.symm (h : raw.Reordered raw') : raw'.Reordered raw := fun k => (h k).symm

theorem RawConfig.Reordered.trans {raw'' : RawConfig} (h : raw.Reordered raw') (h' : raw'.Reordered raw'') :
    raw.Reordered raw'' := fun k => (h k).trans (h' k)

theorem RawConfig.Reordered.keys (h : raw.Reordered raw') : raw.keys.Perm raw'.keys := by
  have hkeys : ∀ config : RawConfig, (mapRestrict (fun _ => true) Any.sorted config).keys = config.keys := by
    intro config
    simp [mapRestrict, AList.keys, List.keys, Function.comp_def]
  have hreordered : Golang.Reordered (mapRestrict (fun _ => true) Any.sorted raw)
      (mapRestrict (fun _ => true) Any.sorted raw') := by
    intro k
    rw [mapRestrict_lookup, mapRestrict_lookup, if_pos rfl, if_pos rfl, h k]
  rw [← hkeys raw, ← hkeys raw']
  exact hreordered.keys

theorem RawConfig.Reordered.without (h : raw.Reordered raw') (ks : List String) :
    (raw.without ks).Reordered (raw'.without ks) := by
  intro k
  rw [without_lookup, without_lookup]
  split_ifs
  · rfl
  · exact h k

theorem RawConfig.Reordered.mem (h : raw.Reordered raw') (k : String) : k ∈ raw' ↔ k ∈ raw := h.keys.symm.mem_iff

/-- A setting that is there in one order is there in the other. -/
theorem RawConfig.Reordered.lookup (h : raw.Reordered raw') (k : String) :
    (raw.lookup k = none ∧ raw'.lookup k = none) ∨
    ∃ v v', raw.lookup k = some v ∧ raw'.lookup k = some v' ∧ v.sorted = v'.sorted := by
  have hkey := h k
  cases hv : raw.lookup k with
  | none =>
    rw [hv, Option.map_none, eq_comm, Option.map_eq_none_iff] at hkey
    exact .inl ⟨rfl, hkey⟩
  | some v =>
    rw [hv, Option.map_some, eq_comm, Option.map_eq_some_iff] at hkey
    obtain ⟨v', hv', hsorted⟩ := hkey
    exact .inr ⟨v, v', rfl, hv', hsorted.symm⟩

theorem RawConfig.Reordered.texts (h : raw.Reordered raw') (k : String) :
    (raw'.lookup k).map Any.text = (raw.lookup k).map Any.text := by
  have htext : ∀ v : Option Any, v.map Any.text = (v.map Any.sorted).map Any.text := by
    intro v
    cases v with
    | none => rfl
    | some v => rw [Option.map_some, Option.map_some, Option.map_some, v.text_sorted]
  rw [htext (raw'.lookup k), htext (raw.lookup k), h k]

/-! ## Keys -/

theorem Key.pop_sorted (key : Key) (config : RawConfig) :
    (key.pop config).1 =
      match (config.lookup key.key).map Any.sorted with
      | some (.string s) => s
      | _ => key.defaultValue := by
  unfold Key.pop
  cases config.lookup key.key with
  | none => rfl
  | some v => cases v <;> simp [Any.sorted]

theorem BoolOrStringKey.pop_sorted (key : BoolOrStringKey) (config : RawConfig) :
    (key.pop config).1 =
      match (config.lookup key.key).map Any.sorted with
      | none => (key.defaultValue, none)
      | some (.string s) =>
        match parseBool s with
        | .ok b => (b, none)
        | .error err => (false, some err)
      | some (.bool b) => (b, none)
      | some _ => (false, some ("expected bool or string for key " ++ key.key)) := by
  unfold BoolOrStringKey.pop
  cases config.lookup key.key with
  | none => rfl
  | some v =>
    cases v with
    | string s => cases hparse : parseBool s <;> simp [Any.sorted, hparse]
    | _ => simp [Any.sorted]

theorem RawConfig.Reordered.pop (h : raw.Reordered raw') (key : Key) : (key.pop raw').1 = (key.pop raw).1 := by
  rw [key.pop_sorted, key.pop_sorted, h key.key]

theorem RawConfig.Reordered.popFlag (h : raw.Reordered raw') (key : BoolOrStringKey) :
    (key.pop raw').1 = (key.pop raw).1 := by
  rw [key.pop_sorted, key.pop_sorted, h key.key]

theorem RawConfig.Reordered.popNumber (h : raw.Reordered raw') (key : IntOrStringKey) :
    (key.pop raw').1 = (key.pop raw).1 := key.pop_text (h.texts key.key)

end

/-! ## Objects -/

section

variable {fields fields' : List (String × Any)}

/-- An object in two orders. -/
theorem perm_of_sorted (h : Any.sorted (.object fields) = Any.sorted (.object fields')) :
    (sortedFields fields).Perm (sortedFields fields') := by
  rw [Any.sorted, Any.sorted] at h
  have hsame := (List.mergeSort_perm (sortedFields fields) fun a b => decide (a.1 ≤ b.1)).symm
  rw [Any.object.inj h] at hsame
  exact hsame.trans (List.mergeSort_perm _ _)

theorem sortedFields_names (fields : List (String × Any)) :
    (sortedFields fields).map (·.1) = fields.map (·.1) := by
  rw [sortedFields_eq_map, List.map_map]
  rfl

theorem sorted_of_perm (hperm : fields.Perm fields') (hdistinct : (fields.map (·.1)).Nodup) :
    Any.sorted (.object fields) = Any.sorted (.object fields') := by
  have hperm' : (sortedFields fields).Perm (sortedFields fields') := by
    rw [sortedFields_eq_map, sortedFields_eq_map]
    exact hperm.map _
  have hpairwise : ∀ l : List (String × Any),
      (l.mergeSort fun a b => decide (a.1 ≤ b.1)).Pairwise fun a b => a.1 ≤ b.1 := by
    intro l
    refine (List.pairwise_mergeSort ?_ ?_ l).imp of_decide_eq_true
    · intro a b c hab hbc
      exact decide_eq_true (String.le_trans (of_decide_eq_true hab) (of_decide_eq_true hbc))
    · intro a b
      rcases String.le_total a.1 b.1 with h | h <;> simp [h]
  have hnodup : ((sortedFields fields).map (·.1)).Nodup := by
    rw [sortedFields_names]
    exact hdistinct
  rw [Any.sorted, Any.sorted]
  refine congrArg Any.object (List.Perm.eq_of_pairwise ?_ (hpairwise _) (hpairwise _) ?_)
  · intro a b ha hb hab hba
    have ha' := (List.mergeSort_perm _ _).mem_iff.1 ha
    have hb' := hperm'.mem_iff.2 ((List.mergeSort_perm _ _).mem_iff.1 hb)
    exact List.inj_on_of_nodup_map hnodup ha' hb' (String.le_antisymm hab hba)
  · exact (List.mergeSort_perm _ _).trans (hperm'.trans (List.mergeSort_perm _ _).symm)

theorem stringFields_sorted (fields : List (String × Any)) :
    stringFields (sortedFields fields) = stringFields fields := by
  rw [sortedFields_eq_map, stringFields, stringFields, List.filterMap_map]
  refine List.filterMap_congr fun f _ => ?_
  obtain ⟨k, v⟩ := f
  cases v <;> simp [Any.sorted]

theorem unparsed_sorted (objectType metadataType : String) (fields : List (String × Any)) :
    unparsed objectType metadataType (sortedFields fields) = unparsed objectType metadataType fields := by
  rw [sortedFields_eq_map, unparsed, unparsed, List.filterMap_map]
  refine List.filterMap_congr fun f _ => ?_
  obtain ⟨k, v⟩ := f
  have htext := v.text_sorted
  cases v <;> simp_all [Any.sorted]

theorem stringFields_nodupKeys (hdistinct : (fields.map (·.1)).Nodup) : (stringFields fields).NodupKeys := by
  refine List.Sublist.nodup ?_ hdistinct
  clear hdistinct
  induction fields with
  | nil => exact List.Sublist.refl _
  | cons f rest ih =>
    obtain ⟨k, v⟩ := f
    cases v with
    | string s => exact ih.cons_cons k
    | _ => exact ih.cons k

end

/-! ## Labels and annotations -/

/-- The same labels, and the same warnings in another order. -/
structure MetadataSet.Same (s s' : MetadataSet) : Prop where
  metadata : Golang.Reordered s.metadata s'.metadata
  warnings : s.warnings.Perm s'.warnings
  err : s'.err = s.err

theorem MetadataSet.Same.refl (s : MetadataSet) : s.Same s := ⟨.refl _, .refl _, rfl⟩

theorem metadataFields_same (objectType metadataType : String) {fields fields' : List (String × Any)}
    (hperm : (sortedFields fields).Perm (sortedFields fields')) (hdistinct : (fields.map (·.1)).Nodup) :
    (fields.foldl (metadataField objectType metadataType) {}).Same
      (fields'.foldl (metadataField objectType metadataType) {}) := by
  rw [metadataFields_eq, metadataFields_eq]
  have hstrings : (stringFields fields).Perm (stringFields fields') := by
    rw [← stringFields_sorted fields, ← stringFields_sorted fields']
    exact hperm.filterMap _
  have hnodup := stringFields_nodupKeys hdistinct
  refine ⟨fun k => ?_, ?_, rfl⟩
  · rw [foldl_insert_lookup _ hnodup, foldl_insert_lookup _ ((List.perm_nodupKeys hstrings).1 hnodup),
      List.perm_dlookup k hnodup hstrings]
  · change ([] ++ unparsed objectType metadataType fields).Perm ([] ++ unparsed objectType metadataType fields')
    rw [List.nil_append, List.nil_append, ← unparsed_sorted _ _ fields, ← unparsed_sorted _ _ fields']
    exact hperm.filterMap _

section

variable {raw raw' : RawConfig}

/-- Only an object is read in the order of its fields. -/
theorem RawConfig.Reordered.popMetadata_cases (h : raw.Reordered raw') (key : MetadataSetKey)
    (objectType metadataType : String) :
    (key.pop objectType metadataType raw').1 = (key.pop objectType metadataType raw).1 ∨
    ∃ fields fields', raw.lookup key = some (.object fields) ∧ raw'.lookup key = some (.object fields') ∧
      (sortedFields fields).Perm (sortedFields fields') := by
  unfold MetadataSetKey.pop
  rcases h.lookup key with ⟨hnone, hnone'⟩ | ⟨v, v', hv, hv', hsorted⟩
  · rw [hnone, hnone']
    exact .inl rfl
  rw [hv, hv']
  cases v with
  | object fields =>
    cases v' with
    | object fields' => exact .inr ⟨fields, fields', rfl, rfl, perm_of_sorted hsorted⟩
    | _ => simp [Any.sorted] at hsorted
  | string s =>
    cases v' with
    | string s' =>
      simp only [Any.sorted, Any.string.injEq] at hsorted
      rw [hsorted]
      exact .inl rfl
    | _ => simp [Any.sorted] at hsorted
  | _ =>
    cases v' with
    | string s' => simp [Any.sorted] at hsorted
    | object fields' => simp [Any.sorted] at hsorted
    | _ => exact .inl rfl

theorem RawConfig.Reordered.popMetadata (h : raw.Reordered raw') (hdistinct : raw.Distinct) (key : MetadataSetKey)
    (objectType metadataType : String) :
    (key.pop objectType metadataType raw).1.Same (key.pop objectType metadataType raw').1 := by
  rcases h.popMetadata_cases key objectType metadataType with hsame | ⟨fields, fields', hv, hv', hperm⟩
  · rw [hsame]
    exact .refl _
  · rw [MetadataSetKey.pop_object hv, MetadataSetKey.pop_object hv']
    exact metadataFields_same _ _ hperm (hdistinct key _ hv)

/-! ## The disruption budget -/

theorem mapOf_reordered {fields fields' : List (String × Any)}
    (hperm : (sortedFields fields).Perm (sortedFields fields'))
    (hdistinct : (fields.map (·.1)).Nodup) : RawConfig.Reordered (mapOf fields) (mapOf fields') := by
  have hlookup : ∀ (fields : List (String × Any)) (k : String), ((mapOf fields).lookup k).map Any.sorted =
      ((sortedFields fields).map fun f => (⟨f.1, f.2⟩ : Sigma fun _ : String => Any)).dlookup k := by
    intro fields k
    rw [mapOf, AList.lookup_to_alist, sortedFields_eq_map, List.map_map]
    have hmap := List.dlookup_map₂ (f := fun _ => Any.sorted)
      (l := fields.map fun f => (⟨f.1, f.2⟩ : Sigma fun _ : String => Any)) k
    rw [← hmap, List.map_map]
    rfl
  intro k
  rw [hlookup, hlookup]
  refine List.perm_dlookup k ?_ (hperm.map _)
  rw [List.NodupKeys, List.keys, List.map_map]
  have hnames :
    (sortedFields fields).map (Sigma.fst ∘ fun f : String × Any => (⟨f.1, f.2⟩ : Sigma fun _ : String => Any)) =
      fields.map (·.1) := sortedFields_names fields
  rw [hnames]
  exact hdistinct

/-- The keys of the budget that have no meaning. -/
def unknownKeys (pdbConfig : RawConfig) : List String := (pdbConfig.without pdbKeys).keys

/-- The same value and errors, and the same warnings in another order. -/
structure Yield.Same {α : Type} (y y' : Yield α) : Prop where
  value : y'.value = y.value
  errs : y'.errs = y.errs
  warnings : y.warnings.Perm y'.warnings

theorem Yield.Same.refl {α : Type} (y : Yield α) : y.Same y := ⟨rfl, rfl, .refl _⟩

theorem pdbFields_reordered {pdbConfig pdbConfig' : RawConfig} (h : pdbConfig.Reordered pdbConfig') :
    (pdbFields pdbConfig).Same (pdbFields pdbConfig') := by
  refine ⟨?_, ?_, (h.without pdbKeys).keys.map _⟩
  · simp only [pdbFields, h.pop, h.popFlag]
  · simp only [pdbFields, h.pop, h.popFlag]

theorem pdbOf_object {fields : List (String × Any)} (h : raw.lookup Key.pdb = some (.object fields)) :
    pdbOf raw = pdbFields (mapOf fields) := by rw [pdbOf, h]

theorem RawConfig.Reordered.pdbOf_cases (h : raw.Reordered raw') :
    pdbOf raw' = pdbOf raw ∨
    ∃ fields fields', raw.lookup Key.pdb = some (.object fields) ∧ raw'.lookup Key.pdb = some (.object fields') ∧
      (sortedFields fields).Perm (sortedFields fields') := by
  unfold pdbOf
  rcases h.lookup Key.pdb with ⟨hnone, hnone'⟩ | ⟨v, v', hv, hv', hsorted⟩
  · rw [hnone, hnone']
    exact .inl rfl
  rw [hv, hv']
  cases v with
  | object fields =>
    cases v' with
    | object fields' => exact .inr ⟨fields, fields', rfl, rfl, perm_of_sorted hsorted⟩
    | _ => simp [Any.sorted] at hsorted
  | _ =>
    cases v' with
    | object fields' => simp [Any.sorted] at hsorted
    | _ => exact .inl rfl

theorem RawConfig.Reordered.pdbOf_same (h : raw.Reordered raw') (hdistinct : raw.Distinct) :
    (pdbOf raw).Same (pdbOf raw') := by
  rcases h.pdbOf_cases with hsame | ⟨fields, fields', hv, hv', hperm⟩
  · rw [hsame]
    exact .refl _
  · rw [pdbOf_object hv, pdbOf_object hv']
    exact pdbFields_reordered (mapOf_reordered hperm (hdistinct Key.pdb _ hv))

/-! ## The settings -/

/-- The same settings, with what comes from maps in another order. -/
structure Settings.Same (s s' : Settings) : Prop where
  fields : s' =
    { s with
      extraPodLabels := s'.extraPodLabels
      extraPodAnnotations := s'.extraPodAnnotations
      extraServiceAccountAnnotations := s'.extraServiceAccountAnnotations
      pdb := s'.pdb
      rest := s'.rest }
  extraPodLabels : s.extraPodLabels.Same s'.extraPodLabels
  extraPodAnnotations : s.extraPodAnnotations.Same s'.extraPodAnnotations
  extraServiceAccountAnnotations : s.extraServiceAccountAnnotations.Same s'.extraServiceAccountAnnotations
  pdb : s.pdb.Same s'.pdb
  rest : s.rest.Reordered s'.rest

theorem settings_same (cluster : SpiceDBCluster) (h : raw.Reordered raw') (hdistinct : raw.Distinct) :
    (settings cluster raw).Same (settings cluster raw') := by
  have hnames : namesOf cluster raw' = namesOf cluster raw := by simp only [namesOf, h.pop]
  have hreplicas : ∀ e, replicasOf e raw' = replicasOf e raw := fun e => h.popNumber _
  refine ⟨?_, h.popMetadata hdistinct _ _ _, h.popMetadata hdistinct _ _ _, h.popMetadata hdistinct _ _ _,
    h.pdbOf_same hdistinct, ?_⟩
  · simp only [settings, hnames, hreplicas, h.pop, h.popFlag, h.mem]
  · rw [settings_rest_eq, settings_rest_eq, h.pop]
    exact h.without _

end

/-! ## What is made of them -/

theorem passthroughOf_reordered {rest rest' : RawConfig} (h : rest.Reordered rest') (spice : SpiceConfig)
    (migration : MigrationConfig) (m : GoMap String) :
    Golang.Reordered (passthroughOf spice migration m rest) (passthroughOf spice migration m rest') := by
  have hmap : Golang.Reordered (strip (popRest rest (addDerived spice migration m)))
      (strip (popRest rest' (addDerived spice migration m))) := by
    refine Golang.Reordered.mapRestrict (fun k => ?_) _ _
    rw [popRest_lookup, popRest_lookup, h.texts k]
  simp only [passthroughOf, ← hmap "terminationLogPath"]
  split_ifs
  · exact hmap.insert _ _
  · exact hmap

section

variable {s s' : Settings} {mapsKeys mapsKeys' : List String → List String} {target target' : Target}

/-- Two targets that look the same differ in their errors only. -/
theorem target_eq_of_seen (h : UpdateGraph.seen mapsKeys target = UpdateGraph.seen mapsKeys' target') :
    target' = { target with err := target'.err } ∧
      target'.err.map (·.textIn mapsKeys') = target.err.map (·.textIn mapsKeys) := by
  obtain ⟨baseImage, version, state, err⟩ := target
  obtain ⟨baseImage', version', state', err'⟩ := target'
  simp only [UpdateGraph.seen, Prod.mk.injEq] at h
  obtain ⟨rfl, rfl, rfl, herr⟩ := h
  exact ⟨rfl, herr.symm⟩

theorem Settings.Same.config (h : s.Same s') (htarget : target' = { target with err := target'.err }) (lib : Libraries)
    (mapsKeys mapsKeys' : List String → List String) (creds : ResolvedCredentials) (cluster : SpiceDBCluster)
    (raw : RawConfig) (resolver : PatchMetaResolver) :
    (s.config { lib with mapsKeys } target creds cluster resolver).Same
      (s'.config { lib with mapsKeys := mapsKeys' } target' creds (cluster.withConfig raw) resolver) := by
  have hpass := passthroughOf_reordered h.rest (s.spice creds) (s.migration target creds) s.derived
  have hpdb := h.pdb.value
  have hlabels := h.extraPodLabels.metadata
  have hannotations := h.extraPodAnnotations.metadata
  have haccount := h.extraServiceAccountAnnotations.metadata
  rw [htarget, h.fields]
  refine ⟨?_, ?_, hlabels, hannotations, haccount⟩
  · simp only [Settings.config, Settings.spice, Settings.migration, hpdb]
    rfl
  · exact hpass

theorem Settings.Same.errs (h : s.Same s') (htarget : target' = { target with err := target'.err })
    (herr : target'.err.map (·.textIn mapsKeys') = target.err.map (·.textIn mapsKeys)) (lib : Libraries)
    (creds tried : List String) :
    s'.errs { lib with mapsKeys := mapsKeys' } target' creds tried =
      s.errs { lib with mapsKeys } target creds tried := by
  have himage : (imageOf target').errs = (imageOf target).errs := by
    rw [htarget]
    rfl
  simp only [Settings.errs, herr, himage, h.pdb.errs, h.extraPodLabels.err, h.extraPodAnnotations.err,
    h.extraServiceAccountAnnotations.err]
  rw [h.fields]

end

end SpiceDBOperator
