import SpiceDBOperator.Config.Derived
import SpiceDBOperator.Golang.Float

/-!
# Numbers and numeric strings

A number in `spec.config` is decoded to a float64. Three readers convert it in three ways: `intOrStringKey` and the
passthrough map take its text, and the string keys of the disruption budget take nothing but a string and otherwise fall
back to their default without a word (keys.go:28-37). The text of a float64 is `%v`, with an exponent from a million on.

So a number is as good as its decimal string in `replicas` and in what is passed through below a million, and never in
`pdb.maxUnavailable` and `pdb.minAvailable` (`numbers_interchangeable_iff`).
-/

namespace SpiceDBOperator

open Golang

/-! ## One setting, written in two ways -/

/-- The same raw config, but for one key. -/
structure DifferAt (k : String) (v v' : Any) (raw raw' : RawConfig) : Prop where
  keys : raw'.keys = raw.keys
  left : raw.lookup k = some v
  right : raw'.lookup k = some v'
  others : ∀ j, j ≠ k → raw'.lookup j = raw.lookup j

/-- The key goes on to SpiceDB. -/
def PassedOn (raw : RawConfig) (k : String) : Prop :=
  k ∉ poppedKeys ++ (tlsPathsFor (Key.tlsSecretName.pop raw).1).map (·.key) ∧ stripped k = false

/-- The settings that are integers. -/
inductive IntegerSetting where
  | replicas
  | maxUnavailable
  | minAvailable
  | passthrough (key : String)

namespace IntegerSetting

/-- A setting of the disruption budget. -/
def InBudget (k : String) (v v' : Any) (raw raw' : RawConfig) : Prop :=
  ∃ fields fields', DifferAt Key.pdb (.object fields) (.object fields') raw raw' ∧
    DifferAt k v v' (mapOf fields) (mapOf fields')

/-- The setting is `v` in the one config and `v'` in the other, and the rest is the same. -/
def Written : IntegerSetting → Any → Any → RawConfig → RawConfig → Prop
  | .replicas => DifferAt "replicas"
  | .maxUnavailable => InBudget Key.pdbMaxUnavailable.key
  | .minAvailable => InBudget Key.pdbMinAvailable.key
  | .passthrough k => fun v v' raw raw' => DifferAt k v v' raw raw' ∧ PassedOn raw k

/-- The replicas are 32 bits wide, and a key is passed through if the operator does not take it for itself. -/
def Takes : IntegerSetting → Int → Prop
  | .replicas, n => -2 ^ 31 ≤ n ∧ n < 2 ^ 31
  | .maxUnavailable, _ => True
  | .minAvailable, _ => True
  | .passthrough k, _ => k ∉ poppedKeys ∧ stripped k = false

/-- Written as the number `x` the setting has the same effect as written as the decimal string of `n`. -/
def Interchangeable (s : IntegerSetting) (x : Number) (n : Int) : Prop :=
  ∀ lib (cluster : SpiceDBCluster) globalConfig secrets resolver raw raw',
    s.Written (.number x) (.string (toString n)) raw raw' →
    (newConfig lib (cluster.withConfig raw) globalConfig secrets resolver).map Prod.fst =
      (newConfig lib (cluster.withConfig raw') globalConfig secrets resolver).map Prod.fst

/-- The number is printed without an exponent, and the setting is read from its text. -/
def Plain : IntegerSetting → Int → Prop
  | .replicas, n => |n| < 10 ^ 6
  | .maxUnavailable, _ => False
  | .minAvailable, _ => False
  | .passthrough _, n => |n| < 10 ^ 6

end IntegerSetting

/-! ## Equal texts -/

/-- What goes on to SpiceDB are the texts. -/
theorem popRest_congr {config config' : RawConfig} (hkeys : config'.keys = config.keys)
    (htexts : ∀ k, (config'.lookup k).map Any.text = (config.lookup k).map Any.text) (m : GoMap String) :
    popRest config' m = popRest config m := by
  have hpop : ∀ k, (config'.popText k).1 = (config.popText k).1 := by
    intro k
    have htext : ∀ config : RawConfig, (config.popText k).1 = ((config.lookup k).map Any.text).getD "" := by
      intro config
      unfold RawConfig.popText
      cases config.lookup k <;> rfl
    rw [htext, htext, htexts]
  simp only [popRest, hkeys, hpop]

section

variable {k : String} {v v' : Any} {raw raw' : RawConfig}

theorem DifferAt.texts (h : DifferAt k v v' raw raw') (htext : v'.text = v.text) (j : String) :
    (raw'.lookup j).map Any.text = (raw.lookup j).map Any.text := by
  by_cases hj : j = k
  · subst hj
    rw [h.left, h.right, Option.map_some, Option.map_some, htext]
  · rw [h.others j hj]

/-- A setting that is read from its text. -/
theorem newConfig_same_text (h : DifferAt k v v' raw raw') (htext : v'.text = v.text)
    (hk : k = "replicas" ∨ PassedOn raw k) (lib : Libraries) (cluster : SpiceDBCluster) (globalConfig : OperatorConfig)
    (secrets : GoMap Secret) (resolver : PatchMetaResolver) :
    newConfig lib (cluster.withConfig raw') globalConfig secrets resolver =
      newConfig lib (cluster.withConfig raw) globalConfig secrets resolver := by
  have hoption : ∀ j ∈ poppedKeys, j ≠ "replicas" → raw'.lookup j = raw.lookup j := by
    intro j hj hne
    refine h.others j ?_
    rintro rfl
    exact hk.elim hne fun hpassed => hpassed.1 (List.mem_append_left _ hj)
  have htls : ∀ key ∈ tlsPathsFor (Key.tlsSecretName.pop raw).1, raw'.lookup key.key = raw.lookup key.key := by
    intro key hkey
    refine h.others key.key ?_
    rintro rfl
    rcases hk with hreplicas | hpassed
    · exact absurd hreplicas ((by decide : ∀ key ∈ Key.tlsPaths, key.key ≠ "replicas") key (mem_tlsPaths hkey))
    · exact hpassed.1 (List.mem_append_right _ (List.mem_map_of_mem hkey))
  have hreplicas : ∀ e, replicasOf e raw' = replicasOf e raw := fun e => IntOrStringKey.pop_text _ (h.texts htext _)
  have hpdb : pdbOf raw' = pdbOf raw := by
    have hlookup := hoption Key.pdb (by decide) (by decide)
    simp only [pdbOf, hlookup]
  have hs : settings cluster raw' =
      { settings cluster raw with
        rest := raw'.without (poppedKeys ++ (tlsPathsFor (Key.tlsSecretName.pop raw).1).map (·.key)) } := by
    rw [settings_congr cluster (fun j hj hne _ => hoption j hj hne) htls, hreplicas, hpdb]
    rfl
  rw [newConfig_eq lib secrets resolver rfl, newConfig_eq lib secrets resolver rfl]
  refine congrArg (Except.map (verdict lib.toAggregation)) (outcome_congr lib globalConfig secrets resolver hs ?_ ?_)
  · refine popRest_congr ?_ fun j => ?_
    · rw [settings_rest_eq, RawConfig.without_keys, RawConfig.without_keys, h.keys]
    · rw [settings_rest_eq, RawConfig.without_lookup, RawConfig.without_lookup]
      split_ifs
      · rfl
      · exact h.texts htext j
  · exact Key.image.pop_value (hoption _ (by decide) (by decide))

end

/-! ## A cluster that is accepted -/

/-- The settings of `smallCluster`. -/
def smallEntries : List (String × Any) := [("datastoreEngine", .string "postgres"), ("skipTLSWarning", .bool true)]

def smallRaw : RawConfig := mapOf smallEntries

/-- `NewConfig` for the small cluster with another raw config. -/
def smallResult (raw : RawConfig) : Go (Except String Config × Option String) :=
  newConfig plain ((smallCluster "").withConfig raw)
    { imageName := "spicedb", updateGraph := UpdateGraph.twoReleases } ∅ plainResolver

/-- With a valid number of replicas and a valid budget, whatever is passed through, the small cluster is accepted. -/
theorem smallCluster_accepted {raw : RawConfig} {replicas : Int} {pdb : PDBConfig}
    (h : ∀ k ∈ poppedKeys, k ≠ "replicas" → k ≠ "pdb" → raw.lookup k = smallRaw.lookup k)
    (hreplicas : replicasOf "postgres" raw = (replicas, none)) (hpdb : pdbOf raw = { value := pdb }) :
    ∃ c warning, smallResult raw = .ok (.ok c, warning) := by
  have hs : settings (smallCluster "") raw =
      { settings (smallCluster "") smallRaw with
        replicas := (replicas, none), pdb := { value := pdb }, rest := raw.without poppedKeys } := by
    have hengine : (Key.datastoreEngine.pop smallRaw).1 = "postgres" := by decide
    have htls : (tlsPathsFor (Key.tlsSecretName.pop smallRaw).1).map (·.key) = [] := by decide
    rw [settings_congr (smallCluster "") h fun k hk => absurd hk List.not_mem_nil, hpdb, hengine, hreplicas, htls,
      List.append_nil]
  have himage : (Key.image.pop raw).1 = (Key.image.pop smallRaw).1 :=
    Key.image.pop_value (h _ (by decide) (by decide) (by decide))
  obtain ⟨target, htarget, herr, himg⟩ : ∃ target : Target,
      OperatorConfig.targetOf plain { imageName := "spicedb", updateGraph := UpdateGraph.twoReleases }
        ((smallCluster "").withConfig smallRaw) "postgres" = .ok target ∧ target.err = none ∧
      (imageOf target).errs = [] := ⟨_, rfl, rfl, by decide⟩
  obtain ⟨creds, hcreds, hcredErrs⟩ : ∃ creds : Yield ResolvedCredentials,
      alone (resolveCredentials ((smallCluster "").withConfig raw) ∅ "postgres") = .ok creds ∧ creds.errs = [] :=
    ⟨_, rfl, rfl⟩
  have htried : ∀ s target creds, alone (validatePatches plain
      (Settings.config plain s target creds ((smallCluster "").withConfig raw) plainResolver)) =
        .ok { value := () } := fun _ _ _ => rfl
  have hnames : settings ((smallCluster "").withConfig raw) raw = settings (smallCluster "") raw := rfl
  have hengine : (settings (smallCluster "") raw).datastoreEngine = "postgres" := by
    rw [hs]
    rfl
  have herrs : (settings (smallCluster "") raw).errs plain target creds.errs [] = [] := by
    rw [hs]
    simp only [Settings.errs, herr, himg, hcredErrs]
    have hmemory : ¬ (1 < replicas ∧ (settings (smallCluster "") smallRaw).datastoreEngine = "memory") :=
      fun h => absurd h.2 (by decide)
    rw [if_neg hmemory]
    rfl
  rw [smallResult, newConfig_eq plain ∅ plainResolver rfl]
  simp only [outcome, hnames, hengine, targetOf_withConfig _ himage, htarget, hcreds, htried, bind, Except.bind,
    Except.map, verdict, herrs]
  exact ⟨_, _, rfl⟩

theorem mapOf_cons (e : String × Any) (es : List (String × Any)) : mapOf (e :: es) = (mapOf es).insert e.1 e.2 := rfl

theorem mapOf_append_lookup (es : List (String × Any)) {k j : String} (v : Any) (hj : j ≠ k) :
    (mapOf (es ++ [(k, v)])).lookup j = (mapOf es).lookup j := by
  induction es with
  | nil =>
    rw [List.nil_append, mapOf_cons]
    exact AList.lookup_insert_ne hj
  | cons e rest ih =>
    rw [List.cons_append, mapOf_cons, mapOf_cons]
    by_cases he : j = e.1
    · subst he
      rw [AList.lookup_insert, AList.lookup_insert]
    · rw [AList.lookup_insert_ne he, AList.lookup_insert_ne he, ih]

theorem differAt_mapOf (es : List (String × Any)) {k : String} (hk : k ∉ es.map (·.1)) (v v' : Any) :
    DifferAt k v v' (mapOf (es ++ [(k, v)])) (mapOf (es ++ [(k, v')])) := by
  have hlast : ∀ v, (mapOf (es ++ [(k, v)])).lookup k = some v := by
    intro v
    induction es with
    | nil =>
      rw [List.nil_append, mapOf_cons]
      exact AList.lookup_insert _
    | cons e rest ih =>
      obtain ⟨hne, hrest⟩ := not_or.1 (fun h => hk (List.mem_cons.2 h))
      rw [List.cons_append, mapOf_cons, AList.lookup_insert_ne hne]
      exact ih hrest
  have hkeys : (mapOf (es ++ [(k, v')])).keys = (mapOf (es ++ [(k, v)])).keys := by
    clear hk hlast
    induction es with
    | nil => rfl
    | cons e rest ih => rw [List.cons_append, List.cons_append, mapOf_cons, mapOf_cons, AList.keys_insert,
        AList.keys_insert, ih]
  exact ⟨hkeys, hlast v, hlast v', fun j hj => by rw [mapOf_append_lookup es v' hj, mapOf_append_lookup es v hj]⟩

/-! ## What a number does to the small cluster -/

section

variable {s : IntegerSetting} {x : Number} {n : Int} {raw raw' : RawConfig}

theorem IntegerSetting.Interchangeable.small (h : s.Interchangeable x n)
    (hwritten : s.Written (.number x) (.string (toString n)) raw raw') {c : Config} {warning : Option String}
    (haccepted : smallResult raw' = .ok (.ok c, warning)) : ∃ warning, smallResult raw = .ok (.ok c, warning) := by
  have hsame : (smallResult raw).map Prod.fst = (smallResult raw').map Prod.fst := h plain _ _ _ _ _ _ hwritten
  rw [haccepted] at hsame
  cases hresult : smallResult raw with
  | error fault =>
    rw [hresult] at hsame
    cases hsame
  | ok r =>
    rw [hresult] at hsame
    obtain ⟨result, warning'⟩ := r
    have hresult' : result = .ok c := Except.ok.inj hsame
    exact ⟨warning', by rw [hresult']⟩

/-- Settings of the small cluster that are no option. -/
theorem smallEntries_lookup {k : String} (v : Any) {j : String} (hj : j ≠ k) :
    (mapOf (smallEntries ++ [(k, v)])).lookup j = smallRaw.lookup j := mapOf_append_lookup smallEntries v hj

theorem replicas_not_interchangeable (hx : x.Shortest n) (hbig : 10 ^ 6 ≤ |n|) (hlow : -2 ^ 31 ≤ n)
    (hhigh : n < 2 ^ 31) :
    ¬ IntegerSetting.replicas.Interchangeable x n := by
  intro h
  have hwritten := differAt_mapOf smallEntries (k := "replicas") (by decide) (.number x) (.string (toString n))
  -- the string is read
  have hstring : replicasOf "postgres" (mapOf (smallEntries ++ [("replicas", .string (toString n))])) = (n, none) := by
    rw [replicasOf, if_neg (by decide), IntOrStringKey.pop_eq, show IntOrStringKey.replicas.key = "replicas" from rfl,
      hwritten.right]
    simp only [Option.map_some, Any.text, parseInt32_toString hlow hhigh]
  obtain ⟨c, warning, haccepted⟩ := smallCluster_accepted
    (fun k _ hne _ => smallEntries_lookup (.string (toString n)) hne) hstring rfl
  obtain ⟨warning', hnumber⟩ := h.small hwritten haccepted
  -- the number is not
  obtain ⟨err, hparse⟩ := hx.parseInt32_big hbig
  have hfailed : replicasOf "postgres" (mapOf (smallEntries ++ [("replicas", .number x)])) = (0, some err) := by
    rw [replicasOf, if_neg (by decide), IntOrStringKey.pop_eq, show IntOrStringKey.replicas.key = "replicas" from rfl,
      hwritten.left]
    simp only [Option.map_some, Any.text, hparse]
  obtain ⟨target, creds, tried, -, -, herrs⟩ := newConfig_settings rfl hnumber
  simp only [Settings.errs, List.append_eq_nil_iff] at herrs
  have hreplicas : (settings ((smallCluster "").withConfig (mapOf (smallEntries ++ [("replicas", .number x)])))
      (mapOf (smallEntries ++ [("replicas", .number x)]))).replicas = (0, some err) := hfailed
  rw [hreplicas] at herrs
  simp at herrs

/-- A key that is passed on arrives as its text. -/
theorem passed_text {lib : Libraries} {cluster : SpiceDBCluster} {globalConfig : OperatorConfig}
    {secrets : GoMap Secret} {resolver : PatchMetaResolver} {c : Config} {warning : Option String} {k : String}
    {v : Any} (hnew : newConfig lib (cluster.withConfig raw) globalConfig secrets resolver = .ok (.ok c, warning))
    (hk : PassedOn raw k) (hv : raw.lookup k = some v) (hne : v.text ≠ "") :
    c.spice.passthrough.lookup k = some v.text := by
  obtain ⟨target, creds, tried, -, rfl, -⟩ := newConfig_settings rfl hnew
  simp only [Settings.config]
  refine passthroughOf_rest _ _ _ ?_ hne hk.2
  rw [settings_rest_eq, RawConfig.without_lookup_ne hk.1, hv]

theorem passthrough_not_interchangeable {k : String} (hx : x.Shortest n) (hbig : 10 ^ 6 ≤ |n|) (hk : k ∉ poppedKeys)
    (hstrip : stripped k = false) : ¬ (IntegerSetting.passthrough k).Interchangeable x n := by
  intro h
  have hne : ∀ j ∈ poppedKeys, j ≠ k := by
    rintro j hj rfl
    exact hk hj
  have hsmall : k ∉ smallEntries.map (·.1) :=
    fun hmem => hk ((by decide : ∀ j ∈ smallEntries.map (·.1), j ∈ poppedKeys) k hmem)
  have hwritten := differAt_mapOf smallEntries hsmall (.number x) (.string (toString n))
  have hlookup : ∀ v, ∀ j ∈ poppedKeys, (mapOf (smallEntries ++ [(k, v)])).lookup j = smallRaw.lookup j :=
    fun v j hj => smallEntries_lookup v (hne j hj)
  have hpassed : ∀ v, PassedOn (mapOf (smallEntries ++ [(k, v)])) k := by
    intro v
    have htls : (Key.tlsSecretName.pop (mapOf (smallEntries ++ [(k, v)]))).1 = "" :=
      Key.tlsSecretName.pop_value (hlookup v _ (by decide))
    refine ⟨fun hmem => ?_, hstrip⟩
    rw [htls] at hmem
    exact (List.mem_append.1 hmem).elim hk List.not_mem_nil
  have hreplicas : replicasOf "postgres" (mapOf (smallEntries ++ [(k, .string (toString n))])) = (2, none) := by
    rw [replicasOf, if_neg (by decide), IntOrStringKey.pop_eq, hlookup _ _ (by decide)]
    rfl
  have hpdb : pdbOf (mapOf (smallEntries ++ [(k, .string (toString n))])) = { value := {} } := by
    rw [pdbOf, hlookup _ _ (by decide)]
    rfl
  obtain ⟨c, warning, haccepted⟩ := smallCluster_accepted (fun j hj _ _ => hlookup _ j hj) hreplicas hpdb
  obtain ⟨warning', hnumber⟩ := h.small ⟨hwritten, hpassed _⟩ haccepted
  -- the two texts
  have hbig' := hx.text_big hbig
  have htext : x.text ≠ "" := by
    intro hempty
    rw [hempty] at hbig'
    cases hbig'
  have hleft := passed_text hnumber (hpassed _) hwritten.left htext
  have hright := passed_text haccepted (hpassed _) hwritten.right (toString_int_ne n)
  exact hx.text_ne hbig (Option.some.inj (hleft.symm.trans hright))

/-- The string keys of the budget take no number. -/
theorem budget_not_interchangeable {k : String} (hs : s.Written = IntegerSetting.InBudget k)
    (field : PDBConfig → Option IntOrString) {p : PDBConfig}
    (hnumber : field (pdbFields (mapOf [(k, .number x)])).value = none)
    (hstring : pdbFields (mapOf [(k, .string (toString n))]) = { value := p }) (hp : field p ≠ none) :
    ¬ s.Interchangeable x n := by
  intro h
  have hwritten := differAt_mapOf smallEntries (k := Key.pdb) (by decide) (.object [(k, .number x)])
    (.object [(k, .string (toString n))])
  have hlookup : ∀ v, ∀ j ∈ poppedKeys, j ≠ Key.pdb →
      (mapOf (smallEntries ++ [(Key.pdb, v)])).lookup j = smallRaw.lookup j :=
    fun v j _ hj => smallEntries_lookup v hj
  have hreplicas : replicasOf "postgres" (mapOf (smallEntries ++ [(Key.pdb, .object [(k, .string (toString n))])])) =
      (2, none) := by
    rw [replicasOf, if_neg (by decide), IntOrStringKey.pop_eq, hlookup _ _ (by decide) (by decide)]
    rfl
  have hright : pdbOf (mapOf (smallEntries ++ [(Key.pdb, .object [(k, .string (toString n))])])) = { value := p } := by
    rw [pdbOf, hwritten.right]
    exact hstring
  have hleft : pdbOf (mapOf (smallEntries ++ [(Key.pdb, .object [(k, .number x)])])) =
      pdbFields (mapOf [(k, .number x)]) := by rw [pdbOf, hwritten.left]
  obtain ⟨c, warning, haccepted⟩ := smallCluster_accepted (fun j hj _ hne => hlookup _ j hj hne) hreplicas hright
  have hbudget : s.Written (.number x) (.string (toString n))
      (mapOf (smallEntries ++ [(Key.pdb, .object [(k, .number x)])]))
      (mapOf (smallEntries ++ [(Key.pdb, .object [(k, .string (toString n))])])) := by
    rw [hs]
    exact ⟨_, _, hwritten, differAt_mapOf [] List.not_mem_nil _ _⟩
  obtain ⟨warning', hnew⟩ := h.small hbudget haccepted
  obtain ⟨target, creds, tried, -, hc, -⟩ := newConfig_settings rfl haccepted
  obtain ⟨target', creds', tried', -, hc', -⟩ := newConfig_settings rfl hnew
  have hpdb : c.spice.pdb = p := by rw [hc]; exact congrArg Yield.value hright
  have hpdb' : c.spice.pdb = (pdbFields (mapOf [(k, .number x)])).value := by rw [hc']; exact congrArg Yield.value hleft
  rw [← hpdb', hpdb] at hnumber
  exact hp hnumber

/-! ## Where a number is as good as its string -/

theorem IntegerSetting.Plain.interchangeable (hx : x.Shortest n) (hplain : s.Plain n) : s.Interchangeable x n := by
  have htext : |n| < 10 ^ 6 → Any.text (.string (toString n)) = Any.text (.number x) :=
    fun hn => (hx.text_small hn).symm
  intro lib cluster globalConfig secrets resolver raw raw' hwritten
  cases s with
  | replicas => rw [newConfig_same_text hwritten (htext hplain) (.inl rfl)]
  | passthrough k => rw [newConfig_same_text hwritten.1 (htext hplain) (.inr hwritten.2)]
  | maxUnavailable => exact hplain.elim
  | minAvailable => exact hplain.elim

/-- A number can stand for its decimal string where the text is read, and where the text has no exponent. -/
theorem numbers_interchangeable_iff (n : Int) (x : Number) (s : IntegerSetting) (hx : x.Shortest n) (hs : s.Takes n) :
    s.Interchangeable x n ↔ s.Plain n := by
  refine ⟨fun h => ?_, fun hplain => hplain.interchangeable hx⟩
  have hset : pdbValue (toString n) ≠ none := by
    rw [pdbValue, if_neg (toString_int_ne n)]
    exact Option.some_ne_none _
  cases s with
  | replicas => exact lt_of_not_ge fun hbig => replicas_not_interchangeable hx hbig hs.1 hs.2 h
  | passthrough k => exact lt_of_not_ge fun hbig => passthrough_not_interchangeable hx hbig hs.1 hs.2 h
  | maxUnavailable =>
    refine budget_not_interchangeable (p := { maxUnavailable := pdbValue (toString n) }) rfl
      (·.maxUnavailable) rfl ?_ hset h
    have hboth : ¬ (toString n ≠ "" ∧ "" ≠ "") := fun h => h.2 rfl
    exact congrArg (Yield.mk _ · _) (congrArg ([] ++ ·) (if_neg hboth))
  | minAvailable =>
    refine budget_not_interchangeable (p := { minAvailable := pdbValue (toString n) }) rfl
      (·.minAvailable) rfl ?_ hset h
    rfl

end

/-- The number 3, decoded. -/
def three : Number := { digits := 3, shortest := by decide }

/-- The number 1000000, decoded. -/
def million : Number := { digits := 1, exponent := 6, shortest := by decide }

theorem three_shortest : three.Shortest (3 : Int) := by
  have hvalue : three.value = (3 : Int) := by norm_num [three, Number.value]
  rw [← hvalue]
  refine Number.shortest_digit (by decide) (by decide) ?_ ?_
  · rw [hvalue]
    exact isFloat64_int (by norm_num)
  · rw [hvalue]
    norm_num [three]

theorem million_shortest : million.Shortest (1000000 : Int) := by
  have hvalue : million.value = (1000000 : Int) := by norm_num [million, Number.value]
  rw [← hvalue]
  refine Number.shortest_digit (by decide) (by decide) ?_ ?_
  · rw [hvalue]
    exact isFloat64_int (by norm_num)
  · rw [hvalue]
    norm_num [million]

/-- A million replicas are refused as a number, and a budget that is a number is dropped. -/
theorem numbers_refused_and_dropped :
    million.Shortest (1000000 : Int) ∧ three.Shortest (3 : Int) ∧
    (∃ config warning, newConfig plain (configured [("replicas", .string "1000000")])
        { imageName := "spicedb", updateGraph := UpdateGraph.twoReleases } ∅ plainResolver = .ok (.ok config, warning) ∧
      config.spice.replicas = 1000000) ∧
    returnedConfig (newConfig plain (configured [("replicas", .number million)])
      { imageName := "spicedb", updateGraph := UpdateGraph.twoReleases } ∅ plainResolver) = none ∧
    (∃ config warning, newConfig plain (configured [("pdb", .object [("maxUnavailable", .string "3")])])
        { imageName := "spicedb", updateGraph := UpdateGraph.twoReleases } ∅ plainResolver = .ok (.ok config, warning) ∧
      config.spice.pdb.maxUnavailable = some (.int 3)) ∧
    ∃ config warning, newConfig plain (configured [("pdb", .object [("maxUnavailable", .number three)])])
        { imageName := "spicedb", updateGraph := UpdateGraph.twoReleases } ∅ plainResolver = .ok (.ok config, warning) ∧
      config.spice.pdb.maxUnavailable = none := by
  refine ⟨million_shortest, three_shortest, ?_, ?_, ?_, ?_⟩
  · exact exists_of_returnedConfig (f := (·.spice.replicas)) (by decide)
  · exact Option.map_eq_none_iff.1 (by decide : Option.map (fun _ => ()) _ = none)
  · exact exists_of_returnedConfig (f := (·.spice.pdb.maxUnavailable)) (by decide)
  · exact exists_of_returnedConfig (f := (·.spice.pdb.maxUnavailable)) (by decide)

/-- Three replicas. -/
theorem three_replicas_interchangeable :
    IntegerSetting.replicas.Interchangeable three 3 ∧ IntegerSetting.replicas.Plain 3 := by
  have hplain : IntegerSetting.replicas.Plain 3 := show |(3 : Int)| < 10 ^ 6 by decide
  exact ⟨(numbers_interchangeable_iff 3 three .replicas three_shortest ⟨by decide, by decide⟩).2 hplain, hplain⟩

end SpiceDBOperator
