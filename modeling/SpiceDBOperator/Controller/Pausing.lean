import SpiceDBOperator.Controller.Plain

/-!
# Paused clusters

While the pause label is on a cluster the operator only says so in its status. Over a whole run: as long as every
reconcile finds the label, the world goes on as if there were no reconciles (`paused_is_absent`), except for the
`Paused` condition, the observed generation and the resource version. So no job or deployment is applied or deleted,
whatever others change in the meantime, and a migration that failed is not tried again before someone takes the label
off.

The cache may be behind (`Behind`): a report that is made of an older version of the cluster is refused.
-/

namespace SpiceDBOperator

open Golang Hoare Handler

/-! ## Worlds without the reports -/

namespace Unreported

variable (lib : Libraries)

def status (s : ClusterStatus) : ClusterStatus :=
  { s with observedGeneration := 0, conditions := lib.removeStatusCondition s.conditions typePaused }

def cluster (c : SpiceDBCluster) : SpiceDBCluster := { c with status := status lib c.status, resourceVersion := none }

def objects (o : Objects) : Objects := { o with cluster := cluster lib o.cluster }

def isReport : Event → Bool
  | .statusStored .. => true
  | _ => false

/-- All of the world but the clock and what a paused cluster reports. -/
def world (w : World) : World :=
  { w with api := objects lib w.api, cache := objects lib w.cache, now := 0, log := w.log.filter (!isReport ·) }

theorem remove_idem (conditions : List Condition) (type : String) :
    lib.removeStatusCondition (lib.removeStatusCondition conditions type) type =
      lib.removeStatusCondition conditions type := by
  simp [lib.remove_eq]

theorem remove_set_self (conditions : List Condition) (new : Condition) :
    lib.removeStatusCondition (lib.setStatusCondition conditions new) new.type =
      lib.removeStatusCondition conditions new.type := by
  induction conditions with
  | nil => simp [lib.set_nil, lib.remove_eq]
  | cons c rest ih =>
    by_cases htype : c.type = new.type
    · simp [lib.set_cons_self _ _ _ htype, lib.remove_eq, htype]
    · rw [lib.set_cons_ne _ _ _ htype]
      simp only [lib.remove_eq, List.filter_cons] at ih ⊢
      rw [ih]

theorem world_record_report (w : World) (spec : ClusterSpec) (s : ClusterStatus) :
    world lib (w.record (.statusStored spec s)) = world lib w := by
  simp [world, World.record, isReport]

end Unreported

/-! ## Steps -/

def Move.isReconcile : Move → Bool
  | .reconcile .. => true
  | _ => false

section

variable (lib : Libraries) (idioms : Idioms lib) (resolver : PatchMetaResolver)

/-- The others do not read the reports. -/
theorem step_unreported (w : World) {move : Move} (h : move.isReconcile = false) :
    Unreported.world lib (step lib idioms resolver w move) =
      Unreported.world lib (step lib idioms resolver (Unreported.world lib w) move) := by
  cases move with
  | reconcile now answers => cases h
  | _ => simp [step, Unreported.world, Unreported.objects, World.deleteDeployment, World.deleteJob, World.request,
      Unreported.cluster, Unreported.status, Unreported.remove_idem]

end

/-- The cached object is the stored one, or has an older version. -/
def Behind (cached live : SpiceDBCluster) : Prop :=
  ∃ v, cached.resourceVersion = some v ∧ (cached = live ∨ ∃ v', live.resourceVersion = some v' ∧ v < v')

/-- The label is on the cluster and in the cache, which may be behind. -/
structure Paused (w : World) : Prop where
  live : pausedControllerSelectorKey ∈ w.api.cluster.labels
  cached : pausedControllerSelectorKey ∈ w.cache.cluster.labels
  behind : Behind w.cache.cluster w.api.cluster

section

variable {lib : Libraries} {idioms : Idioms lib} {resolver : PatchMetaResolver} {w : World}

/-- Every write that gives a new version leaves the cache behind. -/
theorem Behind.bumped {cached live live' : SpiceDBCluster} (h : Behind cached live)
    (hlive : live'.resourceVersion = live.bumped) : Behind cached live' := by
  obtain ⟨v, hv, rfl | ⟨v', hv', hlt⟩⟩ := h
  · exact ⟨v, hv, Or.inr ⟨v + 1, by rw [hlive, SpiceDBCluster.bumped, hv]; rfl, v.lt_succ_self⟩⟩
  · exact ⟨v, hv, Or.inr ⟨v' + 1, by rw [hlive, SpiceDBCluster.bumped, hv']; rfl, Nat.lt_succ_of_lt hlt⟩⟩

theorem Paused.step (h : Paused w) {move : Move} (hmove : move.isReconcile = false)
    (hedit : ∀ labels spec, move = .editCluster labels spec → pausedControllerSelectorKey ∈ labels) :
    Paused (step lib idioms resolver w move) := by
  cases move with
  | reconcile now answers => cases hmove
  | editCluster labels spec => exact ⟨hedit labels spec rfl, h.cached, h.behind.bumped rfl⟩
  | syncCluster =>
    refine ⟨h.live, h.live, ?_⟩
    obtain ⟨v, hv, heq | ⟨v', hv', -⟩⟩ := h.behind
    · exact ⟨v, heq ▸ hv, Or.inl rfl⟩
    · exact ⟨v', hv', Or.inl rfl⟩
  | _ => exact ⟨h.live, h.cached, h.behind⟩

/-! ## Reports -/

/-- A report of the pause, made of the cluster in the cache. -/
def pauseReport (lib : Libraries) (w : World) (new : Condition) : SpiceDBCluster :=
  patched (w.cache.cluster.setStatusCondition lib new)

theorem storeStatus_unreported {new : Condition} (htype : new.type = typePaused)
    (h : w.cache.cluster = w.api.cluster) :
    Unreported.world lib (w.storeStatus (pauseReport lib w new)) = Unreported.world lib w := by
  have hstatus : Unreported.status lib (pauseReport lib w new).status = Unreported.status lib w.api.cluster.status := by
    rw [← h]
    simp only [Unreported.status, pauseReport, patched, SpiceDBCluster.setStatusCondition]
    rw [← htype, Unreported.remove_set_self]
  rw [World.storeStatus, Unreported.world_record_report]
  simp only [Unreported.world, Unreported.objects, Unreported.cluster, hstatus]

theorem storeStatus_paused (h : Paused w) (patch : SpiceDBCluster) :
    Paused (w.storeStatus patch) := by
  refine ⟨h.live, h.cached, ?_⟩
  by_cases hsame : w.api.cluster.status = patch.status
  · have hstored : (w.storeStatus patch).api.cluster = w.api.cluster := by
      simp [World.storeStatus, World.record, ← hsame]
    rw [hstored]
    exact h.behind
  · exact h.behind.bumped (if_neg hsame)

/-- A report is served only if it is made of the stored cluster. -/
theorem eq_of_not_refused (h : Behind w.cache.cluster w.api.cluster) {new : Condition}
    (hserved : w.refusal (.storeStatus .paused (pauseReport lib w new)) = none) : w.cache.cluster = w.api.cluster := by
  obtain ⟨v, hv, heq | ⟨v', hv', hlt⟩⟩ := h
  · exact heq
  · have hversion : (pauseReport lib w new).resourceVersion = some v := hv
    simp only [World.refusal, hversion, hv', Option.some.injEq] at hserved
    rw [if_neg (Nat.ne_of_gt hlt)] at hserved
    cases hserved

/-- Paused still, and nothing else has changed. -/
def Unmoved (lib : Libraries) (w w' : World) : Prop :=
  Paused w' ∧ Unreported.world lib w' = Unreported.world lib w

theorem callOr_settles {A J : World → Prop} {failed : String → QueueOp} {x : Call} (hA : ∀ w, A w → J w)
    (h : ∀ w, A w → w.refusal x = none → J (w.perform x)) :
    Triple (At A) (callOr failed x) (fun _ => At J) (fun _ => At J) := by
  have hcall : Triple (At A) (call x) (fun _ => At J) (fun _ => At J) := by
    refine Triple.act fun s hs => ?_
    change J (s.after x).world
    rcases s.served_cases x with ⟨heffect, hserved⟩ | ⟨-, hidle⟩
    · rw [heffect]
      exact h _ hs hserved
    · rw [hidle]
      exact hA _ hs
  refine Triple.bind hcall fun err => ?_
  cases err with
  | none => exact Triple.pure fun _ hs => hs
  | some err => exact queue_at fun _ hw => hw

theorem pause_unmoved (h : Paused w) :
    Triple (At (· = w)) (idioms.pause w.cache.cluster) (fun _ _ => False) (fun _ => At (Unmoved lib w)) := by
  have hstays : ∀ w', w' = w → Unmoved lib w w' := by
    rintro _ rfl
    exact ⟨h, rfl⟩
  rw [idioms.pause_eq]
  refine read_at fun w₁ => ?_
  rw [if_pos h.cached]
  refine Triple.ite (fun _ => queue_at hstays) fun _ => ?_
  have hreport : ∀ w', w' = w →
      w'.refusal (.storeStatus .paused (pauseReport lib w (idioms.pausedCondition w₁.now))) = none →
      Unmoved lib w (w'.storeStatus (pauseReport lib w (idioms.pausedCondition w₁.now))) := by
    rintro _ rfl hserved
    have hcache := eq_of_not_refused h.behind hserved
    exact ⟨storeStatus_paused h _, storeStatus_unreported (idioms.pausedCondition_fresh w₁.now).1 hcache⟩
  refine Triple.bind (Q := fun _ => At (Unmoved lib w)) (Triple.bind (callOr_settles hstays hreport) fun _ => ?_)
    fun _ => ?_
  · exact Triple.pure fun _ hs => hs
  · exact queue_at fun _ hw => hw

/-- A reconcile that finds the label does nothing but report it. -/
theorem reconcile_unmoved (h : Paused w) (now : Nat) (answers : List Answer) :
    Unmoved lib w (SpiceDBOperator.step lib idioms resolver w (.reconcile now answers)) := by
  have hstart : Paused { w with now } := ⟨h.live, h.cached, h.behind⟩
  have hends : Triple (At (· = { w with now })) (reconcile lib idioms resolver)
    (fun _ => At (Unmoved lib { w with now }))
      (fun _ => At (Unmoved lib { w with now })) := by
    refine look_at ?_
    rintro _ rfl
    exact Triple.bind (pause_unmoved hstart) fun _ => ⟨fun _ hs => hs.elim⟩
  exact hends.always (s := { world := { w with now }, answers }) rfl

end

/-- **A paused cluster is left alone.** The cache may be behind, and others may do whatever they like as long as they
leave the label on: a run ends where it would have ended without its reconciles, up to the clock, the `Paused`
condition, the observed generation and the resource version. -/
theorem paused_is_absent (lib : Libraries) (idioms : Idioms lib) (resolver : PatchMetaResolver) (w : World)
    (moves : List Move) (h : Paused w)
    (hmoves : ∀ labels spec, .editCluster labels spec ∈ moves → pausedControllerSelectorKey ∈ labels) :
    Unreported.world lib (run lib idioms resolver w moves) =
      Unreported.world lib (run lib idioms resolver w (moves.filter (!·.isReconcile))) := by
  suffices hruns : ∀ v, Unreported.world lib w = Unreported.world lib v →
      Unreported.world lib (run lib idioms resolver w moves) =
        Unreported.world lib (run lib idioms resolver v (moves.filter (!·.isReconcile))) from hruns w rfl
  induction moves generalizing w with
  | nil => exact fun v heq => heq
  | cons move rest ih =>
    intro v heq
    have hrest : ∀ labels spec, .editCluster labels spec ∈ rest → pausedControllerSelectorKey ∈ labels :=
      fun labels spec hmem => hmoves labels spec (List.mem_cons_of_mem _ hmem)
    by_cases hmove : move.isReconcile = true
    · rw [List.filter_cons_of_neg (by simp [hmove])]
      cases move with
      | reconcile now answers =>
        obtain ⟨hpaused, hstep⟩ : Unmoved lib w (step lib idioms resolver w (.reconcile now answers)) :=
          reconcile_unmoved h now answers
        exact ih _ hpaused hrest v (hstep.trans heq)
      | _ => cases hmove
    · rw [Bool.not_eq_true] at hmove
      rw [List.filter_cons_of_pos (by simp [hmove])]
      have hedit : ∀ labels spec, move = .editCluster labels spec → pausedControllerSelectorKey ∈ labels :=
        fun labels spec heq => hmoves labels spec (heq ▸ List.mem_cons_self ..)
      refine ih _ (h.step hmove hedit) hrest (step lib idioms resolver v move) ?_
      rw [step_unreported lib idioms resolver w hmove, heq, ← step_unreported lib idioms resolver v hmove]

/-- The small world, paused before anything is deployed. -/
def pausedWorld : World :=
  let cluster : SpiceDBCluster :=
    { smallCluster "" with labels := mapOf [(pausedControllerSelectorKey, "")], resourceVersion := some 1 }
  { smallWorld UpdateGraph.twoReleases "" with api := { cluster }, cache := { cluster } }

/-- The version is changed during the pause, which the operator does not see at once. -/
def editedWhilePaused : List Move :=
  [.reconcile 1 [], .editCluster (mapOf [(pausedControllerSelectorKey, "later")]) (smallCluster "v1").spec,
    .reconcile 2 [], .syncCluster, .reconcile 3 []]

theorem pausedWorld_absent :
    (∃ c, (run plain plainIdioms plainResolver pausedWorld editedWhilePaused).api.cluster.findStatusCondition plain
      typePaused = some c) ∧
    Unreported.world plain (run plain plainIdioms plainResolver pausedWorld editedWhilePaused) =
      Unreported.world plain
        (run plain plainIdioms plainResolver pausedWorld (editedWhilePaused.filter (!·.isReconcile))) := by
  refine ⟨⟨_, rfl⟩, paused_is_absent plain plainIdioms plainResolver pausedWorld editedWhilePaused ⟨?_, ?_, ?_⟩ ?_⟩
  · decide
  · decide
  · exact ⟨1, rfl, Or.inl rfl⟩
  · intro labels spec hmem
    simp only [editedWhilePaused, List.mem_cons, List.not_mem_nil, reduceCtorEq, or_false, false_or,
      Move.editCluster.injEq] at hmem
    rw [hmem.1]
    decide

end SpiceDBOperator
