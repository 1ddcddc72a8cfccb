import SpiceDBOperator.Controller.World

/-!
# The handlers of controller-idioms

Four handlers of the chain are made by controller-idioms, which is not part of the repository. They are parameters here,
with what the development relies on as laws. None of the laws says what a handler does with an object that it alone
reads, such as the hash of a component.

| here | there |
| --- | --- |
| `Idioms.pause`     | `pause.NewPauseContextHandler` (pause.go:17); the law lists the cases of pause_test.go |
| `Idioms.selfPause` | `pause.NewSelfPauseHandler` (self_pause.go:19); a status patch first, as client.go:29 has it |
| `Idioms.adopt`     | `adopt.AdoptionHandler` (secret_adoption.go:33) |
| `Idioms.ensure`    | `component.NewEnsureComponentByHash` (controller.go:582, :834) |
| `Confined`         | no function of the source: all that a handler does is done through these calls |
| `plainIdioms`      | a choice of handlers that shows the laws satisfiable, and that can be evaluated |
-/

namespace SpiceDBOperator

open Golang Hoare Metadata Handler

/-- The program acts through the allowed calls and the given programs, and ends a reconcile only to have it repeated. -/
def Confined (allowed : Call → Prop) (given : Set (Handler Unit)) (m : Handler Unit) : Prop :=
  ∀ (A : Session → Prop) (E : Stop → Session → Prop), (∀ x, allowed x → Triple A (call x) (fun _ => A) E) →
    (∀ p ∈ given, Triple A p (fun _ => A) E) → (∀ op s, op ≠ .done → A s → E (.queue op) s) → Triple A m (fun _ => A) E

/-- What a reconcile goes on after, if none of its calls failed, and stops after, if one did. -/
def Strict (m : Handler Unit) : Prop :=
  Triple (fun s => s.failures = []) m (fun _ s => s.failures = []) fun _ s => s.failures ≠ []

/-- A program that has been told of an error always stops. -/
def Reports (m : Handler Unit) : Prop :=
  Triple (fun s => s.failures ≠ []) m (fun _ _ => False) fun _ s => s.failures ≠ []

/-! ## Components -/

/-- An object to ensure, as its builder returns it. -/
inductive ComponentApply where
  | serviceAccount (o : ServiceAccountApply)
  | role (o : RoleApply)
  | service (o : ServiceApply)
  | roleBinding (o : RoleBindingApply)
  | podDisruptionBudget (o : PodDisruptionBudgetApply)

namespace ComponentApply

def kind : ComponentApply → ComponentKind
  | .serviceAccount _ => .serviceAccount
  | .role _ => .role
  | .service _ => .service
  | .roleBinding _ => .roleBinding
  | .podDisruptionBudget _ => .podDisruptionBudget

def metadata : ComponentApply → ObjectMeta
  | .serviceAccount o => o.metadata
  | .role o => o.metadata
  | .service o => o.metadata
  | .roleBinding o => o.metadata
  | .podDisruptionBudget o => o.metadata

/-- The object as it is applied, with annotations of the handler's. -/
def toComponent (o : ComponentApply) (name : String) (annotations : GoMap String) : Component :=
  { kind := o.kind, name, labels := o.metadata.labels, annotations }

end ComponentApply

/-! ## The handlers -/

def pausedControllerSelectorKey : String := "authzed.com/controller-paused"

def typePaused : String := "Paused"

/-- The cases of pause_test.go. -/
def pauseByLabel (lib : Libraries) (condition : Nat → Condition) (cluster : SpiceDBCluster) :
    Handler SpiceDBCluster := do
  let w ← world
  if pausedControllerSelectorKey ∈ cluster.labels then
    if (cluster.findStatusCondition lib typePaused).isSome then queue .done
    else do
      let _ ← patchStatus .paused .requeueAPIErr (cluster.setStatusCondition lib (condition w.now))
      queue .done
  else if (cluster.findStatusCondition lib typePaused).isSome then
    patchStatus .resumed .requeueAPIErr (cluster.removeStatusCondition lib typePaused)
  else pure cluster

/-- A status patch, and then the label; `Controller.Patch` takes the resource version out (client.go:31). -/
def pauseItself (lib : Libraries) (condition : Nat → Condition) (failed : String → QueueOp) (cluster : SpiceDBCluster) :
    Handler Unit := do
  let w ← world
  let cluster ← patchStatus .selfPaused failed (cluster.setStatusCondition lib (condition w.now))
  callOr failed (.patchCluster
    { cluster with resourceVersion := none, labels := cluster.labels.insert pausedControllerSelectorKey "" })
  queue .done

structure Idioms (lib : Libraries) where
  pausedCondition : Nat → Condition
  selfPausedCondition : Nat → Condition
  /-- What the self-pause handler leaves in the queue when a patch fails. -/
  selfPauseFailed : String → QueueOp
  /-- The cluster to go on with. -/
  pause : SpiceDBCluster → Handler SpiceDBCluster
  selfPause : SpiceDBCluster → Handler Unit
  /-- Adopt the secret `name` for `owner`, with these labels, and release what the index lists that is not used any
  more. `found` is the secret if it needs no labels, `cached` are the secrets in the cache, and `missing` is told of an
  error if the secret is not there. -/
  adopt : (owner name : String) → (found : Option ObjectMeta) → (labels : GoMap String) → (index : String) →
    (cached : GoMap ObjectMeta) → (missing : String → Handler Unit) → Handler Unit
  /-- Ensure that an object is there, and delete the others that are listed. -/
  ensure : (listed : List Component) → (o : ComponentApply) → (name : String) → Handler Unit
  pausedCondition_fresh : ∀ now, (pausedCondition now).type = typePaused ∧ (pausedCondition now).observedGeneration = 0
  selfPausedCondition_fresh : ∀ now,
    (selfPausedCondition now).type = typePaused ∧ (selfPausedCondition now).observedGeneration = 0
  selfPauseFailed_ne : ∀ err, selfPauseFailed err ≠ .done
  pause_eq : ∀ cluster, pause cluster = pauseByLabel lib pausedCondition cluster
  selfPause_eq : ∀ cluster, selfPause cluster = pauseItself lib selfPausedCondition selfPauseFailed cluster
  adopt_confined : ∀ owner name found labels index cached missing,
    Confined (fun x => x = .getSecret name ∨ ∃ n metadata, (n = name ∨ n ∈ cached) ∧ x = .applySecret n metadata)
      (Set.range missing) (adopt owner name found labels index cached missing)
  adopt_strict : ∀ owner name found labels index cached missing, (∀ err, Reports (missing err)) →
    Strict (adopt owner name found labels index cached missing)
  ensure_confined : ∀ listed o name,
    Confined (fun x => (∃ annotations, x = .applyComponent (o.toComponent name annotations)) ∨
      ∃ c ∈ listed, x = .deleteComponent c.kind c.name) ∅ (ensure listed o name)
  ensure_strict : ∀ listed o name, Strict (ensure listed o name)

/-! ## Rules -/

namespace Confined

variable {allowed : Call → Prop} {given : Set (Handler Unit)} {m : Handler Unit}

/-- What the allowed calls and the given programs keep, the program keeps. -/
theorem keeps {A J : World → Prop} (h : Confined allowed given m) (hcall : ∀ x, allowed x → ∀ w, A w → A (w.perform x))
    (hgiven : ∀ p ∈ given, Triple (At A) p (fun _ => At A) (fun _ => At J)) (hJ : ∀ w, A w → J w) :
    Triple (At A) m (fun _ => At A) (fun _ => At J) := by
  refine h (At A) _ (fun x hx => ?_) hgiven fun _ s _ hs => hJ s.world hs
  exact call_keeps (hcall x hx)

/-- If it goes on, no call has failed. -/
theorem smooth {A J : World → Prop} (h : Confined allowed given m) (hstrict : Strict m)
    (hcall : ∀ x, allowed x → ∀ w, A w → A (w.perform x))
    (hgiven : ∀ p ∈ given, Triple (At A) p (fun _ => At A) (fun _ _ => True)) :
    Triple (Smooth A) m (fun _ => Smooth A) (fun _ => Barring J) := by
  have hkeeps : Triple (At A) m (fun _ => At A) (fun _ _ => True) := by
    refine h (At A) _ (fun x hx => ?_) hgiven fun _ _ _ _ => trivial
    exact call_keeps (hcall x hx)
  refine ((hkeeps.pre fun _ hs => hs.2).and (hstrict.pre fun _ hs => hs.1)).conseq (fun _ hs => hs) ?_ ?_
  · exact fun _ _ hs => ⟨hs.2, hs.1⟩
  · exact fun _ _ hs hnone => absurd hnone hs.2

/-- It goes on if none of its calls is refused. -/
theorem served {A : World → Prop} {E : Stop → Session → Prop} (h : Confined allowed given m) (hstrict : Strict m)
    (hcall : ∀ x, allowed x → ∀ w, A w → w.refusal x = none ∧ A (w.perform x))
    (hgiven : ∀ p ∈ given, Triple (Served A) p (fun _ => Served A) fun _ s => s.failures = []) :
    Triple (Served A) m (fun _ => Served A) E := by
  have hkeeps : Triple (Served A) m (fun _ => Served A) fun _ s => s.failures = [] := by
    refine h (Served A) _ (fun x hx => ?_) hgiven fun _ _ _ hs => hs.2.1
    refine (call_served (fun w hw => (hcall x hx w hw).1) fun w hw => (hcall x hx w hw).2).conseq (fun _ hs => hs)
      (fun _ _ hs => hs.2) fun _ _ hs => hs
  refine (hkeeps.and (hstrict.pre fun _ hs => hs.2.1)).conseq (fun _ hs => hs) (fun _ _ hs => hs.1) ?_
  exact fun _ _ hs => absurd hs.1 hs.2

end Confined

/-! ## A choice -/

theorem callOr_strict {failed : String → QueueOp} {x : Call} : Strict (callOr failed x) := by
  have hcall : Triple (Smooth fun _ => True) (callOr failed x) (fun _ => Smooth fun _ => True)
      (fun _ => Barring fun _ => False) := callOr_smooth fun _ _ _ => trivial
  exact hcall.conseq (fun _ hs => ⟨hs, trivial⟩) (fun _ _ hs => hs.1) fun _ _ hs => hs

theorem callOr_confined {failed : String → QueueOp} {x : Call} {allowed : Call → Prop} {given : Set (Handler Unit)}
    (hx : allowed x) (hfailed : ∀ err, failed err ≠ .done) : Confined allowed given (callOr failed x) := by
  intro A E hcall _ hstop
  refine Triple.bind (hcall x hx) fun err => ?_
  cases err with
  | none => exact Triple.pure fun _ hs => hs
  | some err => exact Triple.stop fun s hs => hstop _ s (hfailed err) hs

/-- Look for the secret and label it. -/
def plainAdopt (name : String) (labels : GoMap String) (missing : String → Handler Unit) : Handler Unit := do
  match ← call (.getSecret name) with
  | some err => missing err
  | none => callOr .requeueAPIErr (.applySecret name { labels })

/-- Apply the object if none is listed. -/
def plainEnsure (listed : List Component) (o : ComponentApply) (name : String) : Handler Unit :=
  if listed = [] then callOr .requeueAPIErr (.applyComponent (o.toComponent name ∅)) else pure ()

section

variable {name : String} {labels : GoMap String} {missing : String → Handler Unit}

theorem plainAdopt_confined {cached : GoMap ObjectMeta} :
    Confined (fun x => x = .getSecret name ∨ ∃ n metadata, (n = name ∨ n ∈ cached) ∧ x = .applySecret n metadata)
      (Set.range missing) (plainAdopt name labels missing) := by
  intro A E hcall hgiven hstop
  refine Triple.bind (hcall _ (Or.inl rfl)) fun err => ?_
  cases err with
  | some err => exact hgiven _ ⟨err, rfl⟩
  | none => exact callOr_confined (Or.inr ⟨name, _, Or.inl rfl, rfl⟩) (by simp) A E hcall hgiven hstop

theorem plainAdopt_strict (hmissing : ∀ err, Reports (missing err)) : Strict (plainAdopt name labels missing) := by
  have hget := call_smooth (A := fun _ => True) (B := fun _ => True) (x := .getSecret name)
    (E := fun _ s => s.failures ≠ []) fun _ _ _ => trivial
  refine Triple.bind (hget.pre fun _ hs => ⟨hs, trivial⟩) fun err => ?_
  cases err with
  | none => exact callOr_strict.pre fun _ hs => hs.1
  | some err => exact (hmissing err).conseq (fun _ hs => hs) (fun _ _ h => h.elim) fun _ _ hs => hs

end

/-- The handlers, with nothing said that the laws do not say. -/
def plainIdioms {lib : Libraries} : Idioms lib where
  pausedCondition now :=
    { type := typePaused, status := .true, reason := "Paused", lastTransitionTime := now, message := "paused by label" }
  selfPausedCondition now :=
    { type := typePaused, status := .true, reason := "Paused", lastTransitionTime := now,
      message := "paused by controller" }
  selfPauseFailed := .requeueAPIErr
  pause := pauseByLabel lib _
  selfPause := pauseItself lib _ _
  adopt _ name _ labels _ _ missing := plainAdopt name labels missing
  ensure := plainEnsure
  pausedCondition_fresh _ := ⟨rfl, rfl⟩
  selfPausedCondition_fresh _ := ⟨rfl, rfl⟩
  selfPauseFailed_ne _ := by simp
  pause_eq _ := rfl
  selfPause_eq _ := rfl
  adopt_confined _ _ _ _ _ _ _ := plainAdopt_confined
  adopt_strict _ _ _ _ _ _ _ := plainAdopt_strict
  ensure_confined listed o name := by
    intro A E hcall hgiven hstop
    refine Triple.ite (fun _ => ?_) fun _ => Triple.pure fun _ hs => hs
    exact callOr_confined (Or.inl ⟨∅, rfl⟩) (by simp) A E hcall hgiven hstop
  ensure_strict _ _ _ := Triple.ite (fun _ => callOr_strict) fun _ => Triple.pure fun _ hs => hs

end SpiceDBOperator
