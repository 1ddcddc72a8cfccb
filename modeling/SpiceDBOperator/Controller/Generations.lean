import Mathlib.Data.List.Induction
import SpiceDBOperator.Controller.Plain
import SpiceDBOperator.Controller.Script

/-!
# Generations in status patches

`PatchStatus` (client.go:13) sets `status.observedGeneration` to the generation of the object it is given, and means to
do the same for the conditions: its loop assigns to a copy of each. What a patch records is therefore decided by the
handlers that have edited the conditions so far. None of them gives a condition a generation, and the object for a
missing secret has none itself (controller.go:690).

Which conditions a handler sets and removes is fixed by the place the patch is sent from (`Sender.edits`). A patch
records the generation of the cluster exactly when these edits, of all patches up to it, leave nothing set, and the
conditions that they keep of the status that was read have that generation already (`patch_records_generation_iff`).
-/

namespace SpiceDBOperator

open Golang Hoare Metadata Handler

def RecordsGeneration (g : Int) (s : ClusterStatus) : Prop :=
  s.observedGeneration = g ∧ ∀ c ∈ s.conditions, c.observedGeneration = g

instance (g : Int) (s : ClusterStatus) : Decidable (RecordsGeneration g s) := inferInstanceAs (Decidable (_ ∧ _))

/-! ## Edits -/

inductive Edit where
  | set (type : String)
  | remove (type : String)
deriving DecidableEq, Repr

def Edit.type : Edit → String
  | .set type | .remove type => type

/-- What is done to the conditions for a patch that is sent from this place. -/
def Sender.edits : Sender → List Edit
  | .paused => [.set typePaused]
  | .resumed => [.remove typePaused]
  | .invalidSpec | .invalidConfig => [.remove Condition.typeValidating, .set Condition.validatingFailed]
  | .missingSecret => [.set Condition.typePreconditionsFailed]
  | .configChanged => [.remove Condition.typePreconditionsFailed, .set Condition.typeValidating]
  | .validated warned =>
    [.remove Condition.validatingFailed, .remove Condition.typeValidating,
      if warned then .set Condition.typeConfigWarnings else .remove Condition.typeConfigWarnings]
  | .migrating => [.set Condition.typeMigrating]
  | .selfPaused => [.set Condition.typeMigrating, .set typePaused]
  | .rollingOut => [.remove Condition.typeMigrating, .set Condition.typeRolling]
  | .applyFailed | .podFailed => [.set Condition.typeRolloutError]
  | .applied => [.remove Condition.typeRolloutError]
  | .waiting => [.set Condition.typeRolling]
  | .rolledOut => [.remove Condition.typeRolling, .remove Condition.typeRolloutError]

/-- The edits of these calls. -/
def editsOf (calls : List Call) : List Edit :=
  calls.flatMap fun
    | .storeStatus sender _ => sender.edits
    | _ => []

/-- The last of the edits of this type sets it. -/
def LeftSet (type : String) (edits : List Edit) : Prop :=
  (edits.filter (·.type = type)).getLast? = some (.set type)

instance (type : String) (edits : List Edit) : Decidable (LeftSet type edits) := inferInstanceAs (Decidable (_ = _))

/-- The generations of the conditions of a type, in order. -/
def generationsOf (conditions : List Condition) (type : String) : List Int :=
  (conditions.filter (·.type = type)).map Condition.observedGeneration

/-- After the edits all conditions have generation `g`: if one is left set, which has no generation, that is 0, and all
that are kept of those that were read have it. What is set takes the place of the first of its type. -/
structure KeepsGeneration (g : Int) (read : List Condition) (edits : List Edit) : Prop where
  fresh : ∀ type, LeftSet type edits → g = 0
  kept : ∀ type, .remove type ∉ edits →
    ∀ g' ∈ (generationsOf read type).drop (if .set type ∈ edits then 1 else 0), g' = g

/-- The generations of a type after an edit. -/
def Edit.on (type : String) (gens : List Int) : Edit → List Int
  | .set t => if t = type then 0 :: gens.tail else gens
  | .remove t => if t = type then [] else gens

section

variable {type : String} {edits : List Edit}

theorem LeftSet.mem (h : LeftSet type edits) : .set type ∈ edits :=
  List.mem_of_mem_filter (List.mem_of_mem_getLast? h)

/-- What is set and never removed is left set. -/
theorem leftSet_of_mem (hset : .set type ∈ edits) (hremove : .remove type ∉ edits) : LeftSet type edits := by
  have hmem : .set type ∈ edits.filter (·.type = type) := List.mem_filter.2 ⟨hset, decide_eq_true rfl⟩
  rw [LeftSet, List.getLast?_eq_some_getLast (List.ne_nil_of_mem hmem)]
  obtain ⟨hlast, htype⟩ := List.mem_filter.1 (List.getLast_mem (List.ne_nil_of_mem hmem))
  revert hlast htype
  generalize (edits.filter (·.type = type)).getLast _ = last
  cases last with
  | set t => exact fun _ htype => congrArg (some ∘ Edit.set) (of_decide_eq_true htype)
  | remove t => exact fun hlast htype => absurd (of_decide_eq_true htype ▸ hlast) hremove

theorem leftSet_append_of_ne {e : Edit} (h : e.type ≠ type) : LeftSet type (edits ++ [e]) ↔ LeftSet type edits := by
  simp [LeftSet, h]

theorem leftSet_append_set : LeftSet type (edits ++ [.set type]) := by simp [LeftSet, Edit.type]

theorem not_leftSet_append_remove : ¬LeftSet type (edits ++ [.remove type]) := by simp [LeftSet, Edit.type]

/-- Edits of one type, all at once. -/
theorem foldl_on (gens : List Int) (edits : List Edit) :
    edits.foldl (Edit.on type) gens =
      (if LeftSet type edits then [0] else []) ++
        if .remove type ∈ edits then [] else gens.drop (if .set type ∈ edits then 1 else 0) := by
  induction edits using List.reverseRecOn with
  | nil => simp [LeftSet]
  | append_singleton edits e ih =>
    rw [List.foldl_append, List.foldl_cons, List.foldl_nil, ih]
    by_cases htype : e.type = type
    · cases e with
      | remove t =>
        obtain rfl : t = type := htype
        simp [Edit.on, not_leftSet_append_remove]
      | set t =>
        obtain rfl : t = type := htype
        rw [if_pos leftSet_append_set]
        by_cases hremove : .remove t ∈ edits
        · by_cases hleft : LeftSet t edits <;> simp [Edit.on, hremove, hleft]
        · by_cases hset : .set t ∈ edits
          · simp [Edit.on, hremove, hset, leftSet_of_mem hset hremove]
          · have hleft : ¬LeftSet t edits := fun h => hset h.mem
            simp [Edit.on, hremove, hset, hleft]
    · have hset : .set type ∈ edits ++ [e] ↔ .set type ∈ edits := by
        rw [List.mem_append, List.mem_singleton, or_iff_left]
        rintro rfl
        exact htype rfl
      have hremove : .remove type ∈ edits ++ [e] ↔ .remove type ∈ edits := by
        rw [List.mem_append, List.mem_singleton, or_iff_left]
        rintro rfl
        exact htype rfl
      simp only [leftSet_append_of_ne htype, hset, hremove]
      cases e with
      | set t | remove t => exact if_neg htype

end

/-! ## Conditions -/

section

variable {lib : Libraries} {conditions : List Condition} (type : String)

theorem generationsOf_set {new : Condition} (hnew : new.observedGeneration = 0) :
    generationsOf (lib.setStatusCondition conditions new) type =
      Edit.on type (generationsOf conditions type) (.set new.type) := by
  induction conditions with
  | nil => by_cases htype : new.type = type <;> simp [generationsOf, lib.set_nil, Edit.on, htype, hnew]
  | cons c rest ih =>
    by_cases hc : c.type = new.type
    · rw [lib.set_cons_self _ _ _ hc]
      by_cases htype : new.type = type <;> simp [generationsOf, Edit.on, hc, htype, hnew]
    · rw [lib.set_cons_ne _ _ _ hc]
      unfold generationsOf at ih ⊢
      by_cases htype : c.type = type
      · have hne : new.type ≠ type := fun h => hc (htype.trans h.symm)
        simp only [Edit.on, if_neg hne] at ih ⊢
        simp [htype, ih]
      · simp [htype, ih]

theorem generationsOf_remove (removed : String) :
    generationsOf (lib.removeStatusCondition conditions removed) type =
      Edit.on type (generationsOf conditions type) (.remove removed) := by
  unfold generationsOf
  rw [lib.remove_eq, List.filter_filter]
  by_cases htype : removed = type
  · subst htype
    simp [Edit.on]
  · rw [Edit.on, if_neg htype]
    congr 1
    refine List.filter_congr fun c _ => ?_
    by_cases hc : c.type = type
    · simp [hc, Ne.symm htype]
    · simp [hc]

variable {type}

theorem mem_generationsOf {c : Condition} (h : c ∈ conditions) :
    c.observedGeneration ∈ generationsOf conditions c.type :=
  List.mem_map.2 ⟨c, List.mem_filter.2 ⟨h, decide_eq_true rfl⟩, rfl⟩

theorem exists_of_mem_generationsOf {g : Int} (h : g ∈ generationsOf conditions type) :
    ∃ c ∈ conditions, c.observedGeneration = g := by
  obtain ⟨c, hc, hg⟩ := List.mem_map.1 h
  exact ⟨c, List.mem_of_mem_filter hc, hg⟩

end

/-! ## Objects in memory -/

/-- The conditions of the object are those of the cluster that was read, edited. -/
def Edited (read : SpiceDBCluster) (edits : List Edit) (p : SpiceDBCluster) : Prop :=
  ∀ type, generationsOf p.status.conditions type =
    edits.foldl (Edit.on type) (generationsOf read.status.conditions type)

section

variable (lib : Libraries) {read p : SpiceDBCluster} {edits : List Edit}

theorem Edited.set {type : String} (h : Edited read edits p) (new : Condition) (htype : new.type = type)
    (hnew : new.observedGeneration = 0) : Edited read (edits ++ [.set type]) (p.setStatusCondition lib new) := by
  intro type'
  rw [List.foldl_append, ← h type', List.foldl_cons, List.foldl_nil, ← htype]
  exact generationsOf_set type' hnew

theorem Edited.remove (h : Edited read edits p) (type : String) :
    Edited read (edits ++ [.remove type]) (p.removeStatusCondition lib type) := by
  intro type'
  rw [List.foldl_append, ← h type', List.foldl_cons, List.foldl_nil]
  exact generationsOf_remove type' type

theorem Edited.computed (h : Edited read edits p) (now : Nat) (config : Config) (warning : Option String)
    (migrationHash : String) (availableVersions : List SpiceDBVersion) :
    Edited read (edits ++ (Sender.validated warning.isSome).edits)
      { p with status := computedStatus lib now p config warning migrationHash availableVersions } := by
  have hremoved := (h.remove lib Condition.validatingFailed).remove lib Condition.typeValidating
  rw [List.append_assoc] at hremoved
  cases warning with
  | none =>
    have hedited := hremoved.remove lib Condition.typeConfigWarnings
    rw [List.append_assoc] at hedited
    exact hedited
  | some warning =>
    have hedited := hremoved.set lib (Condition.newConfigWarningCondition now warning) rfl rfl
    rw [List.append_assoc] at hedited
    exact hedited

/-- The object is that of a patch: it has the generation of the cluster, or none and a condition that says so. -/
structure Handed (read : SpiceDBCluster) (edits : List Edit) (p : SpiceDBCluster) : Prop where
  conditions : Edited read edits p
  generation : p.status.observedGeneration = read.generation ∨
    p.status.observedGeneration = 0 ∧ ∃ type, LeftSet type edits

theorem Handed.records_iff (h : Handed read edits p) :
    RecordsGeneration read.generation p.status ↔
      KeepsGeneration read.generation read.status.conditions edits := by
  constructor
  · rintro ⟨-, hall⟩
    have hgens : ∀ type, ∀ g ∈ generationsOf p.status.conditions type, g = read.generation := by
      intro type g hg
      obtain ⟨c, hc, rfl⟩ := exists_of_mem_generationsOf hg
      exact hall c hc
    simp only [h.conditions _, foldl_on] at hgens
    refine ⟨fun type hleft => ?_, fun type hremove g hg => ?_⟩
    · exact (hgens type 0 (List.mem_append_left _ (by simp [hleft]))).symm
    · refine hgens type g (List.mem_append_right _ ?_)
      rw [if_neg hremove]
      exact hg
  · intro hkeeps
    refine ⟨?_, fun c hc => ?_⟩
    · rcases h.generation with hgeneration | ⟨hzero, type, hleft⟩
      · exact hgeneration
      · rw [hzero, hkeeps.fresh type hleft]
    · have hmem := mem_generationsOf hc
      rw [h.conditions, foldl_on, List.mem_append] at hmem
      rcases hmem with hfresh | hkept
      · split at hfresh
        · rename_i hleft
          rw [List.mem_singleton.1 hfresh, hkeeps.fresh _ hleft]
        · cases hfresh
      · split at hkept
        · cases hkept
        · rename_i hremove
          exact hkeeps.kept _ hremove _ hkept

end

/-! ## Scripts -/

/-- What the handlers have in memory, after these edits of the cluster that was read. -/
def Memory.Edited (read : SpiceDBCluster) (edits : List Edit) : Memory → Prop
  | .unvalidated c => c.generation = read.generation ∧ SpiceDBOperator.Edited read edits c
  | .validated v => v.cluster.generation = read.generation ∧ SpiceDBOperator.Edited read edits v.cluster
  | .over => True

/-- A status patch is made of the cluster that was read by the edits up to it. -/
def Call.Handed (read : SpiceDBCluster) (edits : List Edit) : Call → Prop
  | .storeStatus _ p => SpiceDBOperator.Handed read edits p
  | _ => True

theorem editsOf_append (calls calls' : List Call) : editsOf (calls ++ calls') = editsOf calls ++ editsOf calls' :=
  List.flatMap_append

section

variable {lib : Libraries} {idioms : Idioms lib} {resolver : PatchMetaResolver} {w : World} {read : SpiceDBCluster}
  {edits : List Edit} {m m' : Memory} {x : Call}

/-- A call that is no status patch. -/
theorem Memory.Edited.idle (hm : m.Edited read edits) (hx : editsOf [x] = []) :
    m.Edited read (edits ++ editsOf [x]) := by
  rw [hx, List.append_nil]
  exact hm

/-- Each patch is the cluster in memory after the edits of its place. -/
theorem Acts.edited (h : Acts lib resolver w m x m') (hm : m.Edited read edits) :
    m'.Edited read (edits ++ editsOf [x]) ∧ x.Handed read (edits ++ editsOf [x]) := by
  cases h with
  | paused htype hnew => exact ⟨trivial, hm.2.set lib _ htype hnew, Or.inl hm.1⟩
  | resumed => exact ⟨⟨hm.1, hm.2.remove lib _⟩, hm.2.remove lib _, Or.inl hm.1⟩
  | rejected hsender now secretHash err =>
    have hedited :=
      (hm.2.remove lib Condition.typeValidating).set lib (Condition.newInvalidConfigCondition now secretHash err)
      rfl rfl
    rw [List.append_assoc] at hedited
    obtain rfl | rfl := hsender <;> exact ⟨trivial, hedited, Or.inl hm.1⟩
  | @missingSecret c now name =>
    have hedited := hm.2.set lib (Condition.newMissingSecretCondition now c.nameSpace name) rfl rfl
    exact ⟨trivial, hedited, Or.inr ⟨rfl, _, leftSet_append_set⟩⟩
  | configChanged now secretHash =>
    have hedited := (hm.2.remove lib Condition.typePreconditionsFailed).set lib
      (Condition.newValidatingConfigCondition now secretHash) rfl rfl
    rw [List.append_assoc] at hedited
    exact ⟨⟨hm.1, hedited⟩, hedited, Or.inl hm.1⟩
  | @accepted c p _ config warning now hash availableVersions _ _ _ hp =>
    have hedited := hm.2.computed lib now config warning hash availableVersions
    rw [← hp] at hedited
    have hgeneration : p.generation = read.generation := by
      rw [hp]
      exact hm.1
    have hsent : edits ++ editsOf [.storeStatus (.validated warning.isSome) (patched p)] =
        edits ++ (Sender.validated warning.isSome).edits := congrArg (edits ++ ·) (List.append_nil _)
    rw [hsent]
    exact ⟨⟨hgeneration, hedited⟩, hedited, Or.inl hgeneration⟩
  | @migrating v _ now engine migration hp =>
    subst hp
    have hedited := hm.2.set lib (Condition.newMigratingCondition now engine migration) rfl rfl
    exact ⟨⟨hm.1, hedited⟩, hedited, Or.inl hm.1⟩
  | @selfPaused v _ new now engine migration message htype hnew hp =>
    subst hp
    have hedited :=
      (hm.2.set lib (Condition.newMigrationFailedCondition now engine migration message) rfl rfl).set lib new
      htype hnew
    rw [List.append_assoc] at hedited
    exact ⟨⟨hm.1, hedited⟩, hedited, Or.inl hm.1⟩
  | rollingOut now =>
    have hedited := (hm.2.remove lib Condition.typeMigrating).set lib
      (Condition.newRollingCondition now "Rolling deployment to latest version") rfl rfl
    rw [List.append_assoc] at hedited
    exact ⟨⟨hm.1, hedited⟩, hedited, Or.inl hm.1⟩
  | applyFailed | podFailed | waiting => exact ⟨trivial, hm.2.set lib _ rfl rfl, Or.inl hm.1⟩
  | applied => exact ⟨trivial, hm.2.remove lib _, Or.inl hm.1⟩
  | rolledOut hp =>
    subst hp
    have hedited := (hm.2.remove lib Condition.typeRolling).remove lib Condition.typeRolloutError
    rw [List.append_assoc] at hedited
    exact ⟨⟨hm.1, hedited⟩, hedited, Or.inl hm.1⟩
  | patchCluster => exact ⟨trivial, trivial⟩
  | getSecret | applySecret | applyComponent | deleteComponent | applyJob | deleteJob | applyDeployment
  | deleteDeployment | deletePod => exact ⟨hm.idle rfl, trivial⟩

theorem Script.edited {deeds : List Deed} (h : Script lib resolver w deeds m) :
    m.Edited w.cache.cluster (editsOf (deeds.filterMap Deed.call)) := by
  induction h with
  | start => exact ⟨rfl, fun _ => rfl⟩
  | made h hx ih | refused h hx ih =>
    rw [List.filterMap_append, editsOf_append]
    exact (hx.edited ih).1
  | noted h e ih =>
    rw [List.filterMap_append]
    exact (List.append_nil _).symm ▸ ih
  | unchanged h _ hnew ih => exact ih

/-- The script up to one of its calls. -/
theorem Script.upTo {deeds : List Deed} {before after : List Call} (h : Script lib resolver w deeds m)
    (hsent : deeds.filterMap Deed.call = before ++ x :: after) :
    ∃ deeds' m₁ m₂, Script lib resolver w deeds' m₁ ∧ deeds'.filterMap Deed.call = before ∧
      Acts lib resolver w m₁ x m₂ := by
  induction h generalizing after with
  | start => simp at hsent
  | @made deeds m₁ m₂ y h hy ih | @refused deeds m₁ m₂ y h hy ih =>
    rw [List.filterMap_append] at hsent
    obtain rfl | ⟨after, last, rfl⟩ := List.eq_nil_or_concat' after
    · obtain ⟨hbefore, hlast⟩ := List.append_inj' hsent rfl
      obtain rfl : y = x := (List.cons.inj hlast).1
      exact ⟨deeds, m₁, m₂, h, hbefore, hy⟩
    · rw [← List.cons_append, ← List.append_assoc] at hsent
      exact ih (List.append_inj' hsent rfl).1
  | noted h e ih =>
    rw [List.filterMap_append] at hsent
    exact ih ((List.append_nil _).symm.trans hsent)
  | unchanged h _ hnew ih => exact ih hsent

end

/-- **When a status patch records the generation.** Whatever a reconcile reads and however its calls are answered, and
for each status patch it sends, served or not. -/
theorem patch_records_generation_iff (lib : Libraries) (idioms : Idioms lib) (resolver : PatchMetaResolver) (w : World)
    (answers : List Answer) (before after : List Call) (sender : Sender) (patch : SpiceDBCluster)
    (hsent : (exec (reconcile lib idioms resolver) { world := w, answers }).2.sent =
      before ++ .storeStatus sender patch :: after) :
    RecordsGeneration w.cache.cluster.generation patch.status ↔
      KeepsGeneration w.cache.cluster.generation w.cache.cluster.status.conditions
        (editsOf before ++ sender.edits) := by
  obtain ⟨m, deeds, hscript, hdeeds⟩ := reconcile_follows lib idioms resolver w answers
  obtain ⟨deeds', m₁, m₂, hscript', rfl, hx⟩ := hscript.upTo (hdeeds.sent.symm.trans hsent)
  have hhanded := (hx.edited hscript'.edited).2
  rw [show editsOf [.storeStatus sender patch] = sender.edits from List.append_nil _] at hhanded
  exact Handed.records_iff hhanded

/-! ## Two patches -/

/-- The small cluster, with its preshared key in a secret that is not there. -/
def unkeyedWorld : World :=
  let cluster : SpiceDBCluster :=
    { smallCluster "v1" with
      resourceVersion := some 1
      spec.credentials := some
        { datastoreURI := some { skip := true }
          presharedKey := some { secretName := "keys" }
          migrationSecrets := some { skip := true } } }
  { smallWorld UpdateGraph.twoReleases "v1" with api.cluster := cluster, cache.cluster := cluster }

/-- The place and the generations of each status patch. -/
def sentGenerations (calls : List Call) : List (Sender × Int × List Int) :=
  calls.filterMap fun
    | .storeStatus sender patch =>
      some (sender, patch.status.observedGeneration, patch.status.conditions.map Condition.observedGeneration)
    | _ => none

/-- Both clusters have generation 1. The patch for the missing secret says 0 throughout; the first patch of the other
reconcile says 1, and its condition 0. -/
theorem patches_without_generation :
    unkeyedWorld.cache.cluster.generation = 1 ∧
    sentGenerations (exec (reconcile plain plainIdioms plainResolver) { world := unkeyedWorld }).2.sent =
      [(.missingSecret, 0, [0])] ∧
    (smallWorld UpdateGraph.twoReleases "v1").cache.cluster.generation = 1 ∧
    (sentGenerations (exec (reconcile plain plainIdioms plainResolver)
      { world := smallWorld UpdateGraph.twoReleases "v1" }).2.sent).head? = some (.configChanged, 1, [0]) := by
  decide +kernel

/-- A cluster whose generation and secrets have been looked at. -/
def observedWorld : World :=
  let cluster : SpiceDBCluster := { smallCluster "v1" with status.observedGeneration := 1, resourceVersion := some 1 }
  { smallWorld UpdateGraph.twoReleases "v1" with api.cluster := cluster, cache.cluster := cluster }

/-- The patch after its validation carries no condition. -/
theorem observedWorld_records :
    ∃ patch after, (exec (reconcile plain plainIdioms plainResolver) { world := observedWorld }).2.sent =
        [] ++ .storeStatus (.validated false) patch :: after ∧ RecordsGeneration 1 patch.status := by
  have hfirst : ((exec (reconcile plain plainIdioms plainResolver) { world := observedWorld }).2.sent.head?.map
      fun x => (sentGenerations [x]).map Prod.fst) = some [.validated false] := by decide +kernel
  rcases hsent : (exec (reconcile plain plainIdioms plainResolver) { world := observedWorld }).2.sent
    with _ | ⟨x, after⟩
  · rw [hsent] at hfirst
    cases hfirst
  rw [hsent] at hfirst
  replace hfirst := Option.some.inj hfirst
  cases x with
  | storeStatus sender patch =>
    obtain rfl : sender = .validated false := (List.cons.inj hfirst).1
    refine ⟨patch, after, rfl, ?_⟩
    refine (patch_records_generation_iff plain plainIdioms plainResolver observedWorld [] [] after
      (.validated false) patch
      hsent).2 ⟨fun type hleft => ?_, fun type _ _ hg => ?_⟩
    · exact absurd hleft.mem (by simp [editsOf, Sender.edits])
    · have hnone : generationsOf observedWorld.cache.cluster.status.conditions type = [] := rfl
      rw [hnone, List.drop_nil] at hg
      cases hg
  | _ => cases hfirst

end SpiceDBOperator
