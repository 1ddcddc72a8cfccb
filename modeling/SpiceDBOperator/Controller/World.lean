import SpiceDBOperator.Config.NewConfig

/-!
# What a reconcile acts on

A reconcile reads one cluster and its dependents from informer caches, which may be behind, and makes calls to the API
server, any of which may fail. It is a program on a `Session`: the world, the answers the API server will give, and a
record of the calls.

A reconcile is one step here. It reads caches, and of what is stored its calls depend only on whether a secret is there
and on the resource version of the cluster (`World.refusal`). What else happens while it runs can be put before or after
it: a status patch that is refused because of it is one that is `rejected`.

| here | there |
| --- | --- |
| `Objects`     | what the API server, or the informer caches, hold for one cluster |
| `Call`        | a call of the clients that the handlers are given |
| `Sender`      | the place in the handlers that sends a status patch |
| `Answer`      | what becomes of one API call; a call can also fail after it took effect |
| `Event`       | what a run has done and seen so far; the source keeps no such record |
| `Request`     | a call of `deleteDeployment`, `deleteJob` or `deletePod`, with the name it is for |
| `call`        | one API call: the error it returned |
| `patchStatus` | `Controller.PatchStatus` (client.go:13) |
| `QueueOp`     | what a handler leaves in the work queue |
-/

namespace SpiceDBOperator

open Golang Hoare Metadata

/-- The kinds of the objects whose handlers only ensure that they are there. -/
inductive ComponentKind where
  | serviceAccount
  | role
  | service
  | roleBinding
  | podDisruptionBudget
deriving DecidableEq, Repr

structure Component where
  kind : ComponentKind
  name : String
  labels : GoMap String := ∅
  annotations : GoMap String := ∅

structure Objects where
  cluster : SpiceDBCluster
  secrets : GoMap Secret := ∅
  /-- The labels and annotations of the secrets. -/
  secretMeta : GoMap ObjectMeta := ∅
  components : List Component := []
  deployments : List Deployment := []
  jobs : List Job := []
  deploymentPods : List Pod := []
  jobPods : List Pod := []

inductive Event where
  /-- A status patch took effect, sent for a cluster with this spec. -/
  | statusStored (spec : ClusterSpec) (status : ClusterStatus)
  /-- A deployment was applied with this migration annotation, by a reconcile with this config and status. -/
  | deploymentApplied (hash : String) (config : Config) (status : ClusterStatus)
  /-- `WaitForMigrationsHandler` saw this job complete. -/
  | jobCompleted (job : Job)
  /-- `DeploymentHandler` saw this deployment of the config rolled out. -/
  | rolledOut (config : Config) (migrationHash secretHash : String) (deployment : Deployment)

inductive Request where
  | deleteDeployment (name : String)
  | deleteJob (name : String)
  | deletePod (name : String)
deriving DecidableEq, Repr

structure World where
  api : Objects
  cache : Objects
  operatorConfig : OperatorConfig
  now : Nat := 0
  log : List Event := []
  /-- The deletions so far, in order. -/
  requests : List Request := []

/-! ## Calls -/

/-- Which status patch it is, by the handler and the branch that sends it. -/
inductive Sender where
  | paused
  | resumed
  | invalidSpec
  | missingSecret
  | configChanged
  | invalidConfig
  | validated (warned : Bool)
  | migrating
  | selfPaused
  | rollingOut
  | applyFailed
  | applied
  | podFailed
  | waiting
  | rolledOut
deriving DecidableEq, Repr

inductive Call where
  | storeStatus (sender : Sender) (patch : SpiceDBCluster)
  | patchCluster (patch : SpiceDBCluster)
  | getSecret (name : String)
  /-- Apply to a secret, which leaves it with these labels and annotations. -/
  | applySecret (name : String) (metadata : ObjectMeta)
  | applyComponent (c : Component)
  | deleteComponent (kind : ComponentKind) (name : String)
  | applyDeployment (name : String) (d : DeploymentApply) (config : Config) (status : ClusterStatus)
  | deleteDeployment (name : String)
  | applyJob (name : String) (j : JobApply)
  | deleteJob (name : String)
  | deletePod (name : String)

namespace World

def record (w : World) (e : Event) : World := { w with log := w.log ++ [e] }

def request (w : World) (r : Request) : World := { w with requests := w.requests ++ [r] }

end World

/-- A write that changes something gives the object a new version. -/
def SpiceDBCluster.bumped (c : SpiceDBCluster) : Option Nat := some (c.resourceVersion.getD 0 + 1)

namespace World

def storeStatus (w : World) (patch : SpiceDBCluster) : World :=
  let cluster := w.api.cluster
  let resourceVersion := if cluster.status = patch.status then cluster.resourceVersion else cluster.bumped
  ({ w with api.cluster := { cluster with status := patch.status, resourceVersion } } : World).record
    (.statusStored patch.spec patch.status)

/-- Apply to the main resource: the object's labels and spec, as the operator last read them. -/
def patchCluster (w : World) (patch : SpiceDBCluster) : World :=
  let cluster := w.api.cluster
  { w with api.cluster :=
      { cluster with
        labels := mergeInto cluster.labels patch.labels, spec := patch.spec, resourceVersion := cluster.bumped } }

end World

/-- Server-side apply on a list of live objects: update the one with that key, or create it. -/
def upsert {α κ : Type} [DecidableEq κ] (keyOf : α → κ) (key : κ) (update : α → α) (create : α)
    (xs : List α) : List α :=
  if xs.any (keyOf · = key) then xs.map fun x => if keyOf x = key then update x else x else xs ++ [create]

theorem mem_upsert {α κ : Type} [DecidableEq κ] {keyOf : α → κ} {key : κ} {update : α → α} {create x : α} {xs : List α}
    (h : x ∈ upsert keyOf key update create xs) : x ∈ xs ∨ x = create ∨ ∃ y ∈ xs, x = update y := by
  unfold upsert at h
  split at h
  · obtain ⟨y, hy, rfl⟩ := List.mem_map.1 h
    split
    · exact Or.inr (Or.inr ⟨y, hy, rfl⟩)
    · exact Or.inl hy
  · rcases List.mem_append.1 h with h | h
    · exact Or.inl h
    · exact Or.inr (Or.inl (List.mem_singleton.1 h))

/-- The annotations of a live object after an apply: the applied ones win. -/
def appliedAnnotations (old : Option (GoMap String)) (applied : GoMap String) : Option (GoMap String) :=
  some (mergeInto (old.getD ∅) applied)

def Component.key (c : Component) : ComponentKind × String := (c.kind, c.name)

def Component.onto (c live : Component) : Component :=
  { live with labels := mergeInto live.labels c.labels, annotations := mergeInto live.annotations c.annotations }

namespace World

def applySecret (w : World) (name : String) (metadata : ObjectMeta) : World :=
  { w with api.secretMeta := w.api.secretMeta.insert name metadata }

def applyComponent (w : World) (c : Component) : World :=
  { w with api.components := upsert Component.key c.key c.onto c w.api.components }

def deleteComponent (w : World) (kind : ComponentKind) (name : String) : World :=
  { w with api.components := w.api.components.filter (·.key ≠ (kind, name)) }

def applyDeployment (w : World) (name : String) (d : DeploymentApply) (config : Config)
    (status : ClusterStatus) : World :=
  let replicas := d.spec.bind (·.replicas)
  let update (live : Deployment) : Deployment :=
    { live with
      annotations := appliedAnnotations live.annotations d.metadata.annotations
      generation := live.generation + 1
      replicas := replicas.or live.replicas }
  let create : Deployment := update { name }
  ({ w with api.deployments := upsert Deployment.name name update create w.api.deployments } : World).record
    (.deploymentApplied ((d.metadata.annotations.lookup migrationRequirementsKey).getD "") config status)

def deleteDeployment (w : World) (name : String) : World :=
  ({ w with api.deployments := w.api.deployments.filter (·.name ≠ name) } : World).request (.deleteDeployment name)

/-- A job that exists keeps its conditions. -/
def applyJob (w : World) (name : String) (j : JobApply) : World :=
  let update (live : Job) : Job :=
    { live with annotations := appliedAnnotations live.annotations j.metadata.annotations }
  { w with api.jobs := upsert Job.name name update (update { name }) w.api.jobs }

def deleteJob (w : World) (name : String) : World :=
  ({ w with api.jobs := w.api.jobs.filter (·.name ≠ name) } : World).request (.deleteJob name)

def deletePod (w : World) (name : String) : World :=
  ({ w with api.jobPods := w.api.jobPods.filter (·.name ≠ name) } : World).request (.deletePod name)

def perform (w : World) : Call → World
  | .storeStatus _ patch => w.storeStatus patch
  | .patchCluster patch => w.patchCluster patch
  | .getSecret _ => w
  | .applySecret name metadata => w.applySecret name metadata
  | .applyComponent c => w.applyComponent c
  | .deleteComponent kind name => w.deleteComponent kind name
  | .applyDeployment name d config status => w.applyDeployment name d config status
  | .deleteDeployment name => w.deleteDeployment name
  | .applyJob name j => w.applyJob name j
  | .deleteJob name => w.deleteJob name
  | .deletePod name => w.deletePod name

/-- A call that the API server refuses for what it finds. An apply that carries a resource version is in conflict if
the object has changed at all since (client.go:28), even with what would change nothing. -/
def refusal (w : World) : Call → Option String
  | .storeStatus _ patch =>
    match patch.resourceVersion with
    | none => none
    | some version =>
      if w.api.cluster.resourceVersion = some version then none
      else some "the object has been modified; please apply your changes to the latest version and try again"
  | .getSecret name => if name ∈ w.api.secrets then none else some ("secrets " ++ quote name ++ " not found")
  | _ => none

end World

/-! ## Sessions -/

inductive Answer where
  | ok
  /-- The call failed and changed nothing. -/
  | rejected (err : String)
  /-- The call took effect and its answer was an error. -/
  | lost (err : String)
deriving DecidableEq, Repr

/-- What becomes of a call: the error it returns, and the world after it. -/
def World.serve (w : World) (x : Call) (answer : Answer) : Option String × World :=
  match answer, w.refusal x with
  | .ok, none => (none, w.perform x)
  | .ok, some err => (some err, w)
  | .rejected err, _ => (some err, w)
  | .lost err, none => (some err, w.perform x)
  | .lost err, some _ => (some err, w)

structure Session where
  world : World
  /-- The answers to come; once they are used up, the API server refuses only what it must. -/
  answers : List Answer := []
  /-- The calls so far, in order. -/
  sent : List Call := []
  /-- The errors they returned. -/
  failures : List String := []

namespace Session

def served (s : Session) (x : Call) : Option String × World := s.world.serve x (s.answers.headD .ok)

def after (s : Session) (x : Call) : Session :=
  { world := (s.served x).2
    answers := s.answers.tail
    sent := s.sent ++ [x]
    failures := s.failures ++ (s.served x).1.toList }

end Session

inductive QueueOp where
  | done
  | requeue
  | requeueAfter (seconds : Nat)
  | requeueErr (err : String)
  | requeueAPIErr (err : String)
deriving DecidableEq, Repr

/-- How a reconcile ends before its last handler. -/
inductive Stop where
  | queue (op : QueueOp)
  | fault (f : Fault)
deriving DecidableEq, Repr

abbrev Handler := Prog Stop Session

namespace Handler

def world : Handler World := act fun s => (s.world, s)

def record (e : Event) : Handler Unit := act fun s => ((), { s with world := s.world.record e })

def queue {α : Type} (op : QueueOp) : Handler α := stop (.queue op)

/-- A call that may fault. -/
def lift {α : Type} : Go α → Handler α
  | .ok a => pure a
  | .error f => stop (.fault f)

def call (x : Call) : Handler (Option String) := act fun s => ((s.served x).1, s.after x)

/-- A call whose failure ends the reconcile. -/
def callOr (failed : String → QueueOp) (x : Call) : Handler Unit := do
  match ← call x with
  | none => pure ()
  | some err => queue (failed err)

/-- The object a status patch sends, and leaves in memory: the status has the generation of the object. -/
def patched (patch : SpiceDBCluster) : SpiceDBCluster := { patch with status.observedGeneration := patch.generation }

def patchStatus (sender : Sender) (failed : String → QueueOp) (patch : SpiceDBCluster) : Handler SpiceDBCluster := do
  callOr failed (.storeStatus sender (patched patch))
  pure (patched patch)

end Handler

/-! ## Rules

Assertions are about the world; what answers are left does not matter. -/

/-- The world of the session satisfies `A`. -/
def At (A : World → Prop) (s : Session) : Prop := A s.world

/-- A call takes effect, or it leaves the world alone and returns an error. -/
theorem Session.served_cases (s : Session) (x : Call) :
    (s.after x).world = s.world.perform x ∧ s.world.refusal x = none ∨
      (s.served x).1 ≠ none ∧ (s.after x).world = s.world := by
  unfold Session.after Session.served World.serve
  cases s.answers.headD .ok with
  | rejected err => exact Or.inr ⟨Option.some_ne_none err, rfl⟩
  | ok | lost err =>
    cases s.world.refusal x with
    | none => exact Or.inl ⟨rfl, rfl⟩
    | some err => exact Or.inr ⟨Option.some_ne_none _, rfl⟩

namespace Handler

variable {A B J : World → Prop}

theorem pre_at {α : Type} {m : Handler α} {Q : α → Session → Prop} {E : Stop → Session → Prop} (h : ∀ w, A w → B w)
    (hm : Triple (At B) m Q E) : Triple (At A) m Q E :=
  hm.pre fun s hs => h s.world hs

theorem assume_at {α : Type} {p : Prop} {m : Handler α} {Q : α → Session → Prop} {E : Stop → Session → Prop}
    (h : p → Triple (At A) m Q E) : Triple (At fun w => p ∧ A w) m Q E :=
  Triple.assume h

theorem look_at {α : Type} {f : World → Handler α} {Q : α → Session → Prop} {E : Stop → Session → Prop}
    (h : ∀ w, A w → Triple (At fun w' => w' = w) (f w) Q E) : Triple (At A) (world >>= f) Q E := by
  refine Triple.bind (Q := fun w => At fun w' => A w ∧ w' = w) (Triple.act fun _ hs => ⟨hs, rfl⟩) fun w => ?_
  exact assume_at (h w)

/-- A look at the world whose result does not matter. -/
theorem read_at {α : Type} {f : World → Handler α} {Q : α → Session → Prop} {E : Stop → Session → Prop}
    (h : ∀ w, Triple (At A) (f w) Q E) : Triple (At A) (world >>= f) Q E := by
  refine look_at fun w hw => Triple.pre (h w) ?_
  rintro s rfl
  exact hw

theorem record_at {e : Event} (h : ∀ w, A w → B (w.record e)) :
    Triple (At A) (record e) (fun _ => At B) (fun _ => At J) :=
  Triple.act fun s hs => h s.world hs

theorem queue_at {α : Type} {op : QueueOp} {Q : α → Session → Prop} (h : ∀ w, A w → J w) :
    Triple (At A) (queue op) Q (fun _ => At J) :=
  Triple.stop fun s hs => h s.world hs

/-- A computation that succeeds if the handler goes on. -/
theorem lift_at {α : Type} {x : Go α} (h : ∀ w, A w → J w) :
    Triple (At A) (lift x) (fun a => At fun w => x = .ok a ∧ A w) (fun _ => At J) := by
  cases x with
  | ok a => exact Triple.pure fun _ hs => ⟨rfl, hs⟩
  | error f => exact Triple.stop fun s hs => h s.world hs

theorem call_at {x : Call} {E : Stop → Session → Prop} (h : ∀ w, A w → B (w.perform x)) :
    Triple (At A) (call x) (fun err => At fun w => B w ∨ (err ≠ none ∧ A w)) E := by
  refine Triple.act fun s hs => ?_
  rcases s.served_cases x with ⟨heffect, -⟩ | ⟨herr, hidle⟩
  · exact Or.inl (heffect.symm ▸ h _ hs)
  · exact Or.inr ⟨herr, hidle.symm ▸ hs⟩

/-- A call whose effect keeps the assertion. -/
theorem call_keeps {x : Call} {E : Stop → Session → Prop} (h : ∀ w, A w → A (w.perform x)) :
    Triple (At A) (call x) (fun _ => At A) E :=
  (call_at h).conseq (fun _ hs => hs) (fun _ _ hs => hs.elim id And.right) fun _ _ hs => hs

theorem callOr_at {failed : String → QueueOp} {x : Call} (h : ∀ w, A w → B (w.perform x)) (hA : ∀ w, A w → J w)
    (hB : ∀ w, B w → J w) : Triple (At A) (callOr failed x) (fun _ => At B) (fun _ => At J) := by
  refine Triple.bind (call_at h) fun err => ?_
  cases err with
  | none => exact Triple.pure fun _ hs => hs.resolve_right fun h => h.1 rfl
  | some err => exact queue_at fun w hw => hw.elim (hB w) fun h => hA w h.2

theorem patchStatus_at {sender : Sender} {failed : String → QueueOp} {patch : SpiceDBCluster}
    (h : ∀ w, A w → B (w.storeStatus (patched patch))) (hA : ∀ w, A w → J w) (hB : ∀ w, B w → J w) :
    Triple (At A) (patchStatus sender failed patch) (fun c => At fun w => c = patched patch ∧ B w) (fun _ => At J) := by
  refine Triple.bind (callOr_at h hA hB) fun _ => ?_
  exact Triple.pure fun _ hs => ⟨rfl, hs⟩

end Handler

/-! ## Calls that succeed -/

/-- No call has failed, and the world satisfies `A`. -/
def Smooth (A : World → Prop) (s : Session) : Prop := s.failures = [] ∧ A s.world

/-- Unless a call has failed, the world satisfies `A`. -/
def Barring (A : World → Prop) (s : Session) : Prop := s.failures = [] → A s.world

/-- No call of the program fails. -/
def Succeeds {α : Type} (m : Handler α) (s : Session) : Prop := (exec m s).2.failures = []

instance {α : Type} (m : Handler α) (s : Session) : Decidable (Succeeds m s) :=
  inferInstanceAs (Decidable ((exec m s).2.failures = []))

section

open Handler

variable {A B J : World → Prop} {E : Stop → Session → Prop} {failed : String → QueueOp}

theorem look_smooth {α : Type} {f : World → Handler α} {Q : α → Session → Prop}
    (h : ∀ w, A w → Triple (Smooth fun w' => w' = w) (f w) Q E) : Triple (Smooth A) (world >>= f) Q E := by
  refine Triple.bind (Q := fun w s => A w ∧ Smooth (fun w' => w' = w) s) (Triple.act fun s hs => ?_) fun w => ?_
  · exact ⟨hs.2, hs.1, rfl⟩
  · exact Triple.assume (h w)

/-- A look at the world whose result does not matter. -/
theorem read_smooth {α : Type} {f : World → Handler α} {Q : α → Session → Prop}
    (h : ∀ w, Triple (Smooth A) (f w) Q E) : Triple (Smooth A) (world >>= f) Q E :=
  look_smooth fun w hw => (h w).pre fun _ hs => ⟨hs.1, hs.2 ▸ hw⟩

/-- A call that succeeds took effect, and was not refused. -/
theorem call_smooth {x : Call} (h : ∀ w, A w → w.refusal x = none → B (w.perform x)) :
    Triple (Smooth A) (call x) (fun err s => if err = none then Smooth B s else s.failures ≠ []) E := by
  refine Triple.act fun s hs => ?_
  by_cases herr : (s.served x).1 = none
  · rw [if_pos herr]
    rcases s.served_cases x with ⟨heffect, hserved⟩ | ⟨hfailed, -⟩
    · refine ⟨?_, heffect.symm ▸ h _ hs.2 hserved⟩
      rw [Session.after, herr, hs.1]
      rfl
    · exact absurd herr hfailed
  · rw [if_neg herr]
    obtain ⟨err, hsome⟩ := Option.ne_none_iff_exists'.1 herr
    simp [Session.after, hsome]

theorem callOr_smooth {x : Call} (h : ∀ w, A w → w.refusal x = none → B (w.perform x)) :
    Triple (Smooth A) (callOr failed x) (fun _ => Smooth B) (fun _ => Barring J) := by
  refine Triple.bind (call_smooth h) fun err => ?_
  cases err with
  | none => exact Triple.pure fun _ hs => hs
  | some err => exact Triple.stop fun _ hs hnone => absurd hnone hs

theorem patchStatus_smooth {sender : Sender} {patch : SpiceDBCluster}
    (h : ∀ w, A w → w.refusal (.storeStatus sender (patched patch)) = none → B (w.storeStatus (patched patch))) :
    Triple (Smooth A) (patchStatus sender failed patch) (fun c s => c = patched patch ∧ Smooth B s)
      (fun _ => Barring J) := by
  refine Triple.bind (callOr_smooth h) fun _ => ?_
  exact Triple.pure fun _ hs => ⟨rfl, hs⟩

/-- A patch after which the reconcile ends. -/
theorem patchStatus_stops {α : Type} {Q : α → Session → Prop} {sender : Sender} {patch : SpiceDBCluster} {op : QueueOp}
    (h : ∀ w, A w → w.refusal (.storeStatus sender (patched patch)) = none → B (w.storeStatus (patched patch))) :
    Triple (Smooth A) (do let _ ← patchStatus sender failed patch; queue op) Q (fun _ => Barring B) := by
  refine Triple.bind (patchStatus_smooth h) fun _ => ?_
  exact Triple.stop fun _ hs _ => hs.2.2

theorem lift_smooth {α : Type} {a : α} : Triple (Smooth A) (lift (.ok a)) (fun b s => b = a ∧ Smooth A s) E :=
  Triple.pure fun _ hs => ⟨rfl, hs⟩

end

/-! ## Calls that are not refused -/

/-- No call to come fails but for what the API server finds, none has failed, and the world satisfies `A`. -/
def Served (A : World → Prop) (s : Session) : Prop := (∀ a ∈ s.answers, a = .ok) ∧ Smooth A s

section

open Handler

variable {A B : World → Prop} {E : Stop → Session → Prop} {failed : String → QueueOp}

theorem look_served {α : Type} {f : World → Handler α} {Q : α → Session → Prop}
    (h : ∀ w, A w → Triple (Served fun w' => w' = w) (f w) Q E) : Triple (Served A) (world >>= f) Q E := by
  refine Triple.bind (Q := fun w s => A w ∧ Served (fun w' => w' = w) s) (Triple.act fun s hs => ?_) fun w => ?_
  · exact ⟨hs.2.2, hs.1, hs.2.1, rfl⟩
  · exact Triple.assume (h w)

/-- A look at the world whose result does not matter. -/
theorem read_served {α : Type} {f : World → Handler α} {Q : α → Session → Prop}
    (h : ∀ w, Triple (Served A) (f w) Q E) : Triple (Served A) (world >>= f) Q E :=
  look_served fun w hw => (h w).pre fun _ hs => ⟨hs.1, hs.2.1, hs.2.2 ▸ hw⟩

theorem lift_served {α : Type} {a : α} : Triple (Served A) (lift (.ok a)) (fun b s => b = a ∧ Served A s) E :=
  Triple.pure fun _ hs => ⟨rfl, hs⟩

/-- A call takes effect if it is not refused. -/
theorem call_answered {C : World → Prop} {x : Call} (h : ∀ w, A w → w.refusal x = none → B (w.perform x))
    (hrefused : ∀ w, A w → w.refusal x ≠ none → C w) :
    Triple (Served A) (call x) (fun err s => if err = none then Served B s else At C s) E := by
  refine Triple.act fun s hs => ?_
  obtain ⟨hok, hnone, hs⟩ := hs
  have hanswer : s.answers.headD .ok = .ok := by
    cases hanswers : s.answers with
    | nil => rfl
    | cons a rest => exact hok a (hanswers ▸ List.mem_cons_self ..)
  cases hrefusal : s.world.refusal x with
  | none =>
    have hserved : s.served x = (none, s.world.perform x) := by
      simp only [Session.served, hanswer, World.serve, hrefusal]
    rw [if_pos (by rw [hserved])]
    refine ⟨fun a ha => hok a (List.mem_of_mem_tail ha), ?_, ?_⟩
    · rw [Session.after, hserved, hnone]
      rfl
    · rw [Session.after, hserved]
      exact h _ hs hrefusal
  | some err =>
    have hserved : s.served x = (some err, s.world) := by
      simp only [Session.served, hanswer, World.serve, hrefusal]
    rw [if_neg (by simp [hserved]), At, Session.after, hserved]
    exact hrefused _ hs (by simp [hrefusal])

theorem callOr_answered {C : World → Prop} {x : Call} (h : ∀ w, A w → w.refusal x = none → B (w.perform x))
    (hrefused : ∀ w, A w → w.refusal x ≠ none → C w) :
    Triple (Served A) (callOr failed x) (fun _ => Served B) (fun _ => At C) := by
  refine Triple.bind (call_answered h hrefused) fun err => ?_
  cases err with
  | none => exact Triple.pure fun _ hs => hs
  | some err => exact Triple.stop fun _ hs => hs

theorem patchStatus_answered {C : World → Prop} {sender : Sender} {patch : SpiceDBCluster}
    (h : ∀ w, A w → w.refusal (.storeStatus sender (patched patch)) = none → B (w.storeStatus (patched patch)))
    (hrefused : ∀ w, A w → w.refusal (.storeStatus sender (patched patch)) ≠ none → C w) :
    Triple (Served A) (patchStatus sender failed patch) (fun c s => c = patched patch ∧ Served B s)
      (fun _ => At C) := by
  refine Triple.bind (callOr_answered h hrefused) fun _ => ?_
  exact Triple.pure fun _ hs => ⟨rfl, hs⟩

theorem call_served {x : Call} (hrefusal : ∀ w, A w → w.refusal x = none) (h : ∀ w, A w → B (w.perform x)) :
    Triple (Served A) (call x) (fun err s => err = none ∧ Served B s) E := by
  refine (call_answered (C := fun _ => False) (fun w hw _ => h w hw) fun w hw hne => hne (hrefusal w hw)).conseq
    (fun _ hs => hs) (fun err s hs => ?_) fun _ _ hs => hs
  by_cases herr : err = none
  · exact ⟨herr, by rwa [if_pos herr] at hs⟩
  · rw [if_neg herr] at hs
    exact hs.elim

theorem callOr_served {x : Call} (hrefusal : ∀ w, A w → w.refusal x = none) (h : ∀ w, A w → B (w.perform x)) :
    Triple (Served A) (callOr failed x) (fun _ => Served B) E := by
  refine Triple.bind (call_served hrefusal h) fun err => Triple.assume ?_
  rintro rfl
  exact Triple.pure fun _ hs => hs

end

end SpiceDBOperator
