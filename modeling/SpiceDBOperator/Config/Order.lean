import SpiceDBOperator.Config.Reorder

/-!
# `NewConfig` in two orders

`NewConfig` ranges over the raw config, over the disruption budget, over objects of labels and annotations, and in the
oracle over the edge map of a channel. A `Visit` is a choice of all these orders, and `OrderFree` says that no two of
them can be told apart by the config, the warning or the error.

The config is the same in all of them. The texts are joined in the order of the visit, without repetitions
(`utilerrors.NewAggregate`), so they are the same if what has more than one text is said once: `SaidOnce` is that
condition, and `newConfig_reordered` that it is enough.
-/

namespace SpiceDBOperator

open Golang

/-! ## Aggregated texts -/

theorem eraseDups_pair {x y : String} {before : List String} (hx : x ∉ before) (hy : y ∉ before) (hxy : x ≠ y)
    (after : List String) : ∃ before' after', (before ++ x :: y :: after).eraseDups = before' ++ x :: y :: after' ∧
      (before ++ y :: x :: after).eraseDups = before' ++ y :: x :: after' := by
  have hpair : ∀ {a b : String}, a ∉ before → b ∉ before → a ≠ b → (before ++ a :: b :: after).eraseDups =
      before.eraseDups ++ a :: b :: ((after.removeAll before).filter fun c => !c == b && !c == a).eraseDups := by
    intro a b ha hb hab
    have hnew : (a :: b :: after).removeAll before = a :: b :: after.removeAll before := by
      simp [List.removeAll, ha, hb]
    rw [List.eraseDups_append, hnew, List.eraseDups_cons, List.filter_cons_of_pos (by simpa using hab.symm),
      List.eraseDups_cons, List.filter_filter]
  refine ⟨_, _, hpair hx hy hxy, ?_⟩
  rw [hpair hy hx hxy.symm]
  simp only [Bool.and_comm]

theorem eraseDups_single (before after : List String) : ∃ before' after', ∀ x, x ∉ before → x ∉ after →
    (before ++ x :: after).eraseDups = before' ++ x :: after' := by
  refine ⟨before.eraseDups, (after.removeAll before).eraseDups, fun x hx hx' => ?_⟩
  have hnew : (x :: after).removeAll before = x :: after.removeAll before := by simp [List.removeAll, hx]
  have hother : (after.removeAll before).filter (fun c => !c == x) = after.removeAll before := by
    refine List.filter_eq_self.2 fun c hc => ?_
    have hc' : c ∈ after := List.mem_of_mem_filter hc
    have hne : c ≠ x := fun h => hx' (h ▸ hc')
    simpa using hne
  rw [List.eraseDups_append, hnew, List.eraseDups_cons, hother]

section

variable (agg : Aggregation)

theorem aggregate_pair {errs before after : List String} {x y : String}
    (h : errs.eraseDups = before ++ x :: y :: after) :
    agg.aggregate errs = some ("[" ++ ", ".intercalate (before ++ x :: y :: after) ++ "]") := by
  cases before with
  | nil => exact agg.aggregate_many errs x y after h
  | cons b rest =>
    cases rest with
    | nil => exact agg.aggregate_many errs b x (y :: after) h
    | cons b' rest => exact agg.aggregate_many errs b b' (rest ++ x :: y :: after) h

/-- Neighbours that can be told apart. -/
theorem aggregate_swap {x y : String} {before : List String} (hx : x ∉ before) (hy : y ∉ before) (after : List String)
    (h : agg.aggregate (before ++ x :: y :: after) = agg.aggregate (before ++ y :: x :: after)) :
    x ++ ", " ++ y = y ++ ", " ++ x := by
  by_cases hxy : x = y
  · rw [hxy]
  obtain ⟨before', after', hleft, hright⟩ := eraseDups_pair hx hy hxy after
  rw [aggregate_pair agg hleft, aggregate_pair agg hright, Option.some.injEq, String.append_left_inj,
    String.append_right_inj] at h
  exact (intercalate_swap_iff before' after').1 h

theorem aggregate_replace {x y : String} {before after : List String} (hx : x ∉ before) (hx' : x ∉ after)
    (hy : y ∉ before) (hy' : y ∉ after)
    (h : agg.aggregate (before ++ x :: after) = agg.aggregate (before ++ y :: after)) : x = y := by
  obtain ⟨before', after', hforms⟩ := eraseDups_single before after
  have hleft := hforms x hx hx'
  have hright := hforms y hy hy'
  have hbrackets : ∀ before' {after' : List String}, some ("[" ++ ", ".intercalate (before' ++ x :: after') ++ "]") =
      some ("[" ++ ", ".intercalate (before' ++ y :: after') ++ "]") → x = y := by
    intro before' after' h
    rw [Option.some.injEq, String.append_left_inj, String.append_right_inj] at h
    exact intercalate_replace before' after' h
  cases before' with
  | nil =>
    cases after' with
    | nil =>
      rw [agg.aggregate_one _ x hleft, agg.aggregate_one _ y hright] at h
      exact Option.some.inj h
    | cons z rest =>
      rw [agg.aggregate_many _ x z rest hleft, agg.aggregate_many _ y z rest hright] at h
      exact hbrackets [] h
  | cons b rest =>
    cases rest with
    | nil =>
      rw [agg.aggregate_many _ b x after' hleft, agg.aggregate_many _ b y after' hright] at h
      exact hbrackets [b] h
    | cons b' rest =>
      rw [agg.aggregate_many _ b b' _ hleft, agg.aggregate_many _ b b' _ hright] at h
      exact hbrackets (b :: b' :: rest) h

theorem aggregate_swapped {x y : String} (h : x ++ ", " ++ y = y ++ ", " ++ x) (before after : List String) :
    agg.aggregate (before ++ x :: y :: after) = agg.aggregate (before ++ y :: x :: after) := by
  have hdropped : ∀ {a b : String}, a ∈ before →
      (before ++ a :: b :: after).eraseDups = (before ++ b :: a :: after).eraseDups := by
    intro a b ha
    have hsame : (a :: b :: after).removeAll before = (b :: a :: after).removeAll before := by
      simp [List.removeAll, List.filter_cons, ha]
    rw [List.eraseDups_append, List.eraseDups_append, hsame]
  by_cases hx : x ∈ before
  · exact agg.aggregate_congr (hdropped hx)
  by_cases hy : y ∈ before
  · exact agg.aggregate_congr (hdropped hy).symm
  by_cases hxy : x = y
  · rw [hxy]
  obtain ⟨before', after', hleft, hright⟩ := eraseDups_pair hx hy hxy after
  rw [aggregate_pair agg hleft, aggregate_pair agg hright, (intercalate_swap_iff before' after').2 h]

theorem aggregate_perm {xs ys : List String} (hperm : xs.Perm ys) (h : Commuting ", " xs) (before after : List String) :
    agg.aggregate (before ++ xs ++ after) = agg.aggregate (before ++ ys ++ after) := by
  induction hperm generalizing before with
  | nil => rfl
  | cons x _ ih =>
    have hrest := ih (fun y hy z hz => h y (List.mem_cons_of_mem _ hy) z (List.mem_cons_of_mem _ hz)) (before ++ [x])
    simpa using hrest
  | swap x y rest =>
    rw [List.append_assoc, List.append_assoc]
    exact aggregate_swapped agg (h y (by simp) x (by simp)) before (rest ++ after)
  | trans hperm _ ih ih' =>
    exact (ih h before).trans (ih' (fun y hy z hz => h y (hperm.mem_iff.2 hy) z (hperm.mem_iff.2 hz)) before)

/-- In what is reported `xs` can stand for `ys`. -/
def Alike (xs ys : List String) : Prop :=
  ∀ before after, agg.aggregate (before ++ xs ++ after) = agg.aggregate (before ++ ys ++ after)

theorem Alike.refl (xs : List String) : Alike agg xs xs := fun _ _ => rfl

end

/-! ## Results in two orders -/

theorem Config.Same.symm {c c' : Config} (h : c.Same c') : c'.Same c := by
  refine ⟨?_, h.passthrough.symm, h.extraPodLabels.symm, h.extraPodAnnotations.symm,
    h.extraServiceAccountAnnotations.symm⟩
  rw [h.fields]

theorem Config.Same.trans {c c' c'' : Config} (h : c.Same c') (h' : c'.Same c'') : c.Same c'' := by
  refine ⟨?_, h.passthrough.trans h'.passthrough, h.extraPodLabels.trans h'.extraPodLabels,
    h.extraPodAnnotations.trans h'.extraPodAnnotations,
    h.extraServiceAccountAnnotations.trans h'.extraServiceAccountAnnotations⟩
  have hfields := h'.fields
  rw [h.fields] at hfields
  exact hfields

/-- The same config and warning, the same error and warning, or the same fault. -/
inductive SameResult : Go (Except String Config × Option String) → Go (Except String Config × Option String) → Prop
  | fault (f : Fault) : SameResult (.error f) (.error f)
  | error (err : String) (warning : Option String) : SameResult (.ok (.error err, warning)) (.ok (.error err, warning))
  | config {c c' : Config} (h : c.Same c') (warning : Option String) :
    SameResult (.ok (.ok c, warning)) (.ok (.ok c', warning))

theorem SameResult.symm {r r' : Go (Except String Config × Option String)} (h : SameResult r r') : SameResult r' r := by
  cases h with
  | fault f => exact .fault f
  | error err warning => exact .error err warning
  | config hc warning => exact .config hc.symm warning

theorem SameResult.trans {r r' r'' : Go (Except String Config × Option String)} (h : SameResult r r')
    (h' : SameResult r' r'') : SameResult r r'' := by
  cases h with
  | fault f => exact h'
  | error err warning => exact h'
  | config hc warning =>
    cases h' with
    | config hc' _ => exact .config (hc.trans hc') warning

theorem SameResult.texts {agg : Aggregation} {y y' : Yield Config}
    (h : SameResult (.ok (verdict agg y)) (.ok (verdict agg y'))) :
    agg.aggregate y.errs = agg.aggregate y'.errs ∧ agg.aggregate y.warnings = agg.aggregate y'.warnings := by
  unfold verdict at h
  generalize agg.aggregate y.warnings = warning, agg.aggregate y'.warnings = warning', agg.aggregate y.errs = errs,
    agg.aggregate y'.errs = errs' at *
  rcases errs with _ | err
  · rcases errs' with _ | err'
    · cases h
      exact ⟨rfl, rfl⟩
    · cases h
  · rcases errs' with _ | err'
    · cases h
    · cases h
      exact ⟨rfl, rfl⟩

/-- The cluster with its settings in another order. -/
inductive SpiceDBCluster.Reordered (cluster : SpiceDBCluster) : SpiceDBCluster → Prop
  | same : Reordered cluster cluster
  | settings {raw raw' : RawConfig} (hraw : cluster.spec.config = some (.ok raw)) (h : raw.Reordered raw') :
    Reordered cluster (cluster.withConfig raw')

/-- An order in which the maps may be visited: that of the settings and the objects in them, of the edges of the
channels, and of a set that is listed. -/
structure Visit (cluster : SpiceDBCluster) (globalConfig : OperatorConfig) where
  cluster' : SpiceDBCluster
  updateGraph : UpdateGraph
  mapsKeys : List String → List String
  cluster_reordered : cluster.Reordered cluster'
  graph_reordered : globalConfig.updateGraph.Reordered updateGraph
  lists : Lists mapsKeys

section

variable {helpers : ConditionHelpers} {cluster : SpiceDBCluster} {globalConfig : OperatorConfig}

/-- `NewConfig` in that order. -/
def Visit.newConfig (o : Visit cluster globalConfig) (lib : Libraries) (secrets : GoMap Secret)
    (resolver : PatchMetaResolver) : Go (Except String Config × Option String) :=
  SpiceDBOperator.newConfig { lib with mapsKeys := o.mapsKeys } o.cluster'
    { globalConfig with updateGraph := o.updateGraph } secrets resolver

variable (cluster globalConfig) in
/-- `NewConfig` does not depend on the order of a map. -/
def OrderFree (secrets : GoMap Secret) : Prop :=
  ∀ lib : Libraries, lib.SortsMaps → ∀ (resolver : PatchMetaResolver) (o₁ o₂ : Visit cluster globalConfig),
    SameResult (o₁.newConfig lib secrets resolver) (o₂.newConfig lib secrets resolver)

/-! ## Where the order cannot be seen -/

/-- What is said about an object of labels or annotations. -/
def unparsedOf (objectType metadataType : String) : Option Any → List String
  | some (.object fields) => unparsed objectType metadataType fields
  | _ => []

/-- The keys of a budget that have no meaning. -/
def unknownKeysOf : Option Any → List String
  | some (.object fields) => unknownKeys (mapOf fields)
  | _ => []

/-- The call of `ComputeTarget`, if it looks at the graph. -/
def callFor (helpers : ConditionHelpers) (cluster : SpiceDBCluster) (globalConfig : OperatorConfig) (engine : String)
    (untagged : (explodeImage cluster.spec.imageSetting).2 = ("", "")) : UpdateGraph.Call :=
  { operatorImageName := globalConfig.imageName, clusterBaseImage := cluster.spec.baseImage
    image := cluster.spec.imageSetting, version := cluster.spec.version, channel := cluster.spec.channel, engine
    rolling := cluster.rolloutInProgress helpers, untagged }

variable (helpers cluster globalConfig) in
/-- What has more than one text is said once: the warnings about an object can change places, there is one unknown key
of the budget at most, and the channels that are asked are steady. -/
structure SaidOnce (raw : RawConfig) : Prop where
  extraPodLabels : Commuting ", " (unparsedOf "pod" "label" (raw.lookup MetadataSetKey.extraPodLabels))
  extraPodAnnotations : Commuting ", " (unparsedOf "pod" "annotation" (raw.lookup MetadataSetKey.extraPodAnnotations))
  extraServiceAccountAnnotations : Commuting ", "
    (unparsedOf "service account" "annotation" (raw.lookup MetadataSetKey.extraServiceAccountAnnotations))
  pdb : ∀ k ∈ unknownKeysOf (raw.lookup Key.pdb), ∀ k' ∈ unknownKeysOf (raw.lookup Key.pdb), k = k'
  channels : ∀ untagged channel,
    UpdateGraph.Asked globalConfig.updateGraph
      (callFor helpers cluster globalConfig (Key.datastoreEngine.pop raw).1 untagged)
      cluster.status.currentVersion channel → channel.Steady

variable (helpers cluster globalConfig) in
/-- `NewConfig` panics in the oracle. -/
def OraclePanics (raw : RawConfig) : Prop :=
  UpdateGraph.UsesNilSource globalConfig.updateGraph globalConfig.imageName cluster.spec.baseImage
    cluster.spec.imageSetting cluster.spec.version cluster.spec.channel (Key.datastoreEngine.pop raw).1
    cluster.status.currentVersion (cluster.rolloutInProgress helpers)

variable {raw raw' : RawConfig}

theorem targetOf_returns_iff :
    (∃ target, globalConfig.targetOf helpers cluster (Key.datastoreEngine.pop raw).1 = .ok target) ↔
    ¬OraclePanics helpers cluster globalConfig raw :=
  globalConfig.updateGraph.computeTarget_returns_iff _ _ _ _ _ _ _ _

/-- A call that panics has asked no channel. -/
theorem OraclePanics.not_asked (h : OraclePanics helpers cluster globalConfig raw)
    (untagged : (explodeImage cluster.spec.imageSetting).2 = ("", "")) (channel : Channel) :
    ¬UpdateGraph.Asked globalConfig.updateGraph
      (callFor helpers cluster globalConfig (Key.datastoreEngine.pop raw).1 untagged)
      cluster.status.currentVersion channel := by
  have hunnamed : ∀ {name : String}, UpdateGraph.Chosen globalConfig.updateGraph cluster.spec.channel
      (Key.datastoreEngine.pop raw).1 cluster.status.currentVersion name → name = "" := by
    intro name hchosen
    have hselect := UpdateGraph.selectChannel_ok.2 hchosen
    rw [UpdateGraph.selectChannel_ok.2 h.2.2.1] at hselect
    exact (Except.ok.inj hselect).symm
  intro hasked
  cases hasked with
  | selected _ hchosen hname _ => exact hname (hunnamed hchosen)
  | current _ hchosen hname => exact hname (hunnamed hchosen)

theorem popMetadata_alike (agg : Aggregation) (h : raw.Reordered raw') (hdistinct : raw.Distinct) (key : MetadataSetKey)
    (objectType metadataType : String)
    (hcommute : Commuting ", " (unparsedOf objectType metadataType (raw.lookup key))) :
    Alike agg (key.pop objectType metadataType raw).1.warnings (key.pop objectType metadataType raw').1.warnings := by
  have hperm := (h.popMetadata hdistinct key objectType metadataType).warnings
  rcases h.popMetadata_cases key objectType metadataType with hsame | ⟨fields, fields', hv, -⟩
  · rw [hsame]
    exact .refl agg _
  · refine fun before after => aggregate_perm agg hperm ?_ before after
    rw [hv] at hcommute
    rw [MetadataSetKey.pop_object hv, metadataFields_eq]
    exact hcommute

theorem pdbOf_alike (agg : Aggregation) (h : raw.Reordered raw') (hdistinct : raw.Distinct)
    (honce : ∀ k ∈ unknownKeysOf (raw.lookup Key.pdb), ∀ k' ∈ unknownKeysOf (raw.lookup Key.pdb), k = k') :
    Alike agg (pdbOf raw).warnings (pdbOf raw').warnings := by
  have hperm := (h.pdbOf_same hdistinct).warnings
  rcases h.pdbOf_cases with hsame | ⟨fields, fields', hv, -⟩
  · rw [hsame]
    exact .refl agg _
  · refine fun before after => aggregate_perm agg hperm (fun x hx y hy => ?_) before after
    rw [hv] at honce
    rw [pdbOf_object hv] at hx hy
    obtain ⟨k, hk, rfl⟩ := List.mem_map.1 hx
    obtain ⟨k', hk', rfl⟩ := List.mem_map.1 hy
    rw [honce k hk k' hk']

end

namespace Settings

/-- The warnings before those about objects. -/
def warningsBefore (s : Settings) (creds : List String) : List String :=
  (s.ignored.map fun k => ".spec.config." ++ k ++ " is ignored; use .spec." ++ k ++ " instead") ++
  (s.projectLabels.2.map ("defaulting to false: " ++ ·)).toList ++
  (s.projectAnnotations.2.map ("defaulting to false: " ++ ·)).toList ++ creds

/-- The warnings after those about objects. -/
def warningsAfter (s : Settings) (tried : List String) : List String :=
  (if s.names.1.tlsSecretName = "" ∧ s.skipTLSWarning.1 = false then
    ["no TLS configured, consider setting " ++ quote "tlsSecretName"]
   else []) ++ tried

theorem warnings_eq (s : Settings) (creds tried : List String) :
    s.warnings creds tried = s.warningsBefore creds ++ (s.extraPodLabels.warnings ++ (s.extraPodAnnotations.warnings ++
      (s.extraServiceAccountAnnotations.warnings ++ (s.pdb.warnings ++ s.warningsAfter tried)))) := by
  simp only [warnings, warningsBefore, warningsAfter, List.append_assoc]

theorem Same.warningsBefore {s s' : Settings} (h : s.Same s') (creds : List String) :
    s'.warningsBefore creds = s.warningsBefore creds := by
  rw [h.fields]
  rfl

theorem Same.warningsAfter {s s' : Settings} (h : s.Same s') (tried : List String) :
    s'.warningsAfter tried = s.warningsAfter tried := by
  rw [h.fields]
  rfl

theorem Same.warnings {agg : Aggregation} {s s' : Settings} (h : s.Same s')
    (hlabels : Alike agg s.extraPodLabels.warnings s'.extraPodLabels.warnings)
    (hannotations : Alike agg s.extraPodAnnotations.warnings s'.extraPodAnnotations.warnings)
    (haccount : Alike agg s.extraServiceAccountAnnotations.warnings s'.extraServiceAccountAnnotations.warnings)
    (hpdb : Alike agg s.pdb.warnings s'.pdb.warnings) (creds tried : List String) :
    agg.aggregate (s.warnings creds tried) = agg.aggregate (s'.warnings creds tried) := by
  rw [warnings_eq, warnings_eq, h.warningsBefore, h.warningsAfter]
  generalize s.warningsBefore creds = before, s.warningsAfter tried = after
  -- one block after the other
  have h₁ := hlabels before (s.extraPodAnnotations.warnings ++ (s.extraServiceAccountAnnotations.warnings ++
    (s.pdb.warnings ++ after)))
  have h₂ := hannotations (before ++ s'.extraPodLabels.warnings) (s.extraServiceAccountAnnotations.warnings ++
    (s.pdb.warnings ++ after))
  have h₃ := haccount (before ++ s'.extraPodLabels.warnings ++ s'.extraPodAnnotations.warnings)
    (s.pdb.warnings ++ after)
  have h₄ := hpdb (before ++ s'.extraPodLabels.warnings ++ s'.extraPodAnnotations.warnings ++
    s'.extraServiceAccountAnnotations.warnings) after
  simp only [List.append_assoc] at h₁ h₂ h₃ h₄
  exact h₁.trans (h₂.trans (h₃.trans h₄))

end Settings

section

variable {helpers : ConditionHelpers} {cluster : SpiceDBCluster} {globalConfig : OperatorConfig} {g' : UpdateGraph}
  {raw raw' : RawConfig} {mapsKeys mapsKeys' : List String → List String}

theorem imageSetting_reordered (hraw : cluster.spec.config = some (.ok raw)) (h : raw.Reordered raw') :
    (cluster.withConfig raw').spec.imageSetting = cluster.spec.imageSetting := by
  simp only [ClusterSpec.imageSetting, hraw, SpiceDBCluster.withConfig, h.pop]

theorem targetOf_seen (hraw : cluster.spec.config = some (.ok raw)) (h : raw.Reordered raw')
    (hg : globalConfig.updateGraph.Reordered g') (hkeys : Lists mapsKeys) (hkeys' : Lists mapsKeys') {engine : String}
    (hchannels : ∀ untagged channel, UpdateGraph.Asked globalConfig.updateGraph
      (callFor helpers cluster globalConfig engine untagged) cluster.status.currentVersion channel → channel.Steady) :
    (globalConfig.targetOf helpers cluster engine).map (UpdateGraph.seen mapsKeys) =
      (OperatorConfig.targetOf helpers { globalConfig with updateGraph := g' } (cluster.withConfig raw') engine).map
        (UpdateGraph.seen mapsKeys') := by
  rw [OperatorConfig.targetOf, OperatorConfig.targetOf, imageSetting_reordered hraw h]
  by_cases huntag : (explodeImage cluster.spec.imageSetting).2 = ("", "")
  · have hcall : (globalConfig.updateGraph.call (callFor helpers cluster globalConfig engine huntag)
          cluster.status.currentVersion).map (UpdateGraph.seen mapsKeys) =
        (g'.call (callFor helpers cluster globalConfig engine huntag) cluster.status.currentVersion).map
          (UpdateGraph.seen mapsKeys') := UpdateGraph.call_steady hg hkeys hkeys' (hchannels huntag)
    rw [UpdateGraph.call, UpdateGraph.call] at hcall
    exact hcall
  · rw [UpdateGraph.computeTarget_tagged huntag, UpdateGraph.computeTarget_tagged huntag]
    exact UpdateGraph.seen_ok (UpdateGraph.seen_none rfl _ _)

theorem verdict_same {agg : Aggregation} {y y' : Yield Config} (hvalue : y.value.Same y'.value)
    (herrs : y'.errs = y.errs) (hwarnings : agg.aggregate y.warnings = agg.aggregate y'.warnings) :
    SameResult (.ok (verdict agg y)) (.ok (verdict agg y')) := by
  rw [verdict, verdict, herrs, hwarnings]
  cases agg.aggregate y.errs with
  | none => exact .config hvalue _
  | some err => exact .error err _

theorem settings_withConfig (cluster : SpiceDBCluster) (raw raw' : RawConfig) :
    settings (cluster.withConfig raw') raw = settings cluster raw := rfl

theorem resolveCredentials_withConfig (cluster : SpiceDBCluster) (raw : RawConfig) (secrets : GoMap Secret)
    (engine : String) :
    resolveCredentials (cluster.withConfig raw) secrets engine = resolveCredentials cluster secrets engine :=
  rfl

theorem outcome_of_target {s : Settings} (hs : settings cluster raw = s) {lib : Libraries} {secrets : GoMap Secret}
    {resolver : PatchMetaResolver} {target : Target} {creds : Yield ResolvedCredentials} {tried : Yield Unit}
    (htarget : globalConfig.targetOf lib cluster s.datastoreEngine = .ok target)
    (hcreds : alone (resolveCredentials cluster secrets s.datastoreEngine) = .ok creds)
    (htried : alone (validatePatches lib (s.config lib target creds.value cluster resolver)) = .ok tried) :
    outcome lib cluster globalConfig secrets resolver raw = .ok
      { value := s.config lib target creds.value cluster resolver
        errs := s.errs lib target creds.errs tried.errs
        warnings := s.warnings creds.warnings tried.warnings } := by
  simp only [outcome, hs, htarget, hcreds, htried, bind, Except.bind]

/-- The runs in two orders, once both have a target. -/
theorem outcome_same {lib : Libraries} (hlib : lib.SortsMaps) (secrets : GoMap Secret) (resolver : PatchMetaResolver)
    (h : raw.Reordered raw') (hdistinct : raw.Distinct) {target target' : Target}
    (htarget : globalConfig.targetOf lib cluster (settings cluster raw).datastoreEngine = .ok target)
    (htarget' : OperatorConfig.targetOf lib { globalConfig with updateGraph := g' } (cluster.withConfig raw')
      (settings cluster raw).datastoreEngine = .ok target')
    (hseen : UpdateGraph.seen mapsKeys target = UpdateGraph.seen mapsKeys' target') :
    ∃ y y' tried,
      outcome { lib with mapsKeys } cluster globalConfig secrets resolver raw = .ok y ∧
      outcome { lib with mapsKeys := mapsKeys' } (cluster.withConfig raw')
        { globalConfig with updateGraph := g' } secrets
        resolver raw' = .ok y' ∧
      y.value.Same y'.value ∧ y'.errs = y.errs ∧ y.warnings = (settings cluster raw).warnings [] tried ∧
      y'.warnings = (settings cluster raw').warnings [] tried := by
  have hsame := settings_same cluster h hdistinct
  have hs' := settings_withConfig cluster raw' raw'
  have hengine : (settings cluster raw').datastoreEngine = (settings cluster raw).datastoreEngine := by
    rw [hsame.fields]
  generalize hs : settings cluster raw = s at *
  generalize settings cluster raw' = s' at *
  obtain ⟨hfields, herr⟩ := target_eq_of_seen hseen
  obtain ⟨creds, hcreds, -, hsilent⟩ := resolveCredentials_reports cluster secrets s.datastoreEngine
  have hnone : creds.warnings = [] := List.eq_nil_iff_forall_not_mem.2 hsilent
  have hconfig := hsame.config hfields lib mapsKeys mapsKeys' creds.value cluster raw' resolver
  obtain ⟨tried, htried, -⟩ := validatePatches_reports { lib with mapsKeys }
    (s.config { lib with mapsKeys } target creds.value cluster resolver)
  have hcreds' : alone (resolveCredentials (cluster.withConfig raw') secrets s'.datastoreEngine) = .ok creds := by
    rw [resolveCredentials_withConfig, hengine]
    exact hcreds.alone_eq
  have htried' : alone (validatePatches { lib with mapsKeys := mapsKeys' } (s'.config
      { lib with mapsKeys := mapsKeys' } target' creds.value (cluster.withConfig raw') resolver)) = .ok tried := by
    rw [validatePatches_mapsKeys lib mapsKeys', validatePatches_congr hlib hconfig,
      ← validatePatches_mapsKeys lib mapsKeys]
    exact htried.alone_eq
  rw [← hengine] at htarget'
  refine ⟨_, _, tried.warnings, outcome_of_target hs htarget hcreds.alone_eq htried.alone_eq,
    outcome_of_target hs' htarget' hcreds' htried', hconfig, hsame.errs hfields herr lib creds.errs tried.errs, ?_, ?_⟩
  · rw [hnone]
  · rw [hnone]

/-- `NewConfig` cannot be told apart from its run in another order. -/
theorem newConfig_reordered {lib : Libraries} (hlib : lib.SortsMaps) (secrets : GoMap Secret)
    (resolver : PatchMetaResolver) (hraw : cluster.spec.config = some (.ok raw)) (hdistinct : raw.Distinct)
    (h : raw.Reordered raw') (hg : globalConfig.updateGraph.Reordered g') (hkeys : Lists mapsKeys)
    (hkeys' : Lists mapsKeys')
    (honce : OraclePanics lib cluster globalConfig raw ∨ SaidOnce lib cluster globalConfig raw) :
    SameResult (newConfig { lib with mapsKeys } cluster globalConfig secrets resolver)
      (newConfig { lib with mapsKeys := mapsKeys' } (cluster.withConfig raw')
        { globalConfig with updateGraph := g' } secrets
        resolver) := by
  have hraw' : (cluster.withConfig raw').spec.config = some (.ok raw') := rfl
  have hengine' :
      (settings (cluster.withConfig raw') raw').datastoreEngine = (settings cluster raw).datastoreEngine := by
    rw [settings_withConfig, (settings_same cluster h hdistinct).fields]
  have hasked : ∀ untagged channel, UpdateGraph.Asked globalConfig.updateGraph
      (callFor lib cluster globalConfig (Key.datastoreEngine.pop raw).1 untagged)
        cluster.status.currentVersion channel →
      channel.Steady := by
    rcases honce with hpanics | honce
    · exact fun untagged channel hasked => absurd hasked (hpanics.not_asked untagged channel)
    · exact honce.channels
  have hseen := targetOf_seen hraw h hg hkeys hkeys' hasked
  rw [newConfig_eq _ _ _ hraw, newConfig_eq _ _ _ hraw']
  have hengine : (Key.datastoreEngine.pop raw).1 = (settings cluster raw).datastoreEngine := rfl
  rw [hengine] at hseen
  rcases UpdateGraph.seen_cases hseen with ⟨fault, htarget, htarget'⟩ | ⟨target, target', htarget, htarget', hsame⟩
  · rw [← hengine'] at htarget'
    have hfault : outcome { lib with mapsKeys } cluster globalConfig secrets resolver raw = .error fault :=
      outcome_fault _ _ _ htarget
    have hfault' : outcome { lib with mapsKeys := mapsKeys' } (cluster.withConfig raw')
        { globalConfig with updateGraph := g' } secrets resolver raw' = .error fault := outcome_fault _ _ _ htarget'
    rw [hfault, hfault']
    exact .fault fault
  · have honce' := honce.resolve_left (targetOf_returns_iff.1 ⟨target, htarget⟩)
    obtain ⟨y, y', tried, hy, hy', hvalue, herrs, hwarnings, hwarnings'⟩ :=
      outcome_same hlib secrets resolver h hdistinct htarget htarget' hsame
    rw [hy, hy']
    refine verdict_same hvalue herrs ?_
    rw [hwarnings, hwarnings']
    exact (settings_same cluster h hdistinct).warnings
      (popMetadata_alike _ h hdistinct _ _ _ honce'.extraPodLabels)
      (popMetadata_alike _ h hdistinct _ _ _ honce'.extraPodAnnotations)
      (popMetadata_alike _ h hdistinct _ _ _ honce'.extraServiceAccountAnnotations)
      (pdbOf_alike _ h hdistinct honce'.pdb) [] tried

end

end SpiceDBOperator
