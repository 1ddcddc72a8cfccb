import SpiceDBOperator.Updates.Converge

/-!
# The upgrade-path tool (`tools/validate-upgrade-path/main.go`)

`validateUpgrade` walks the source re-rooted at the wanted version and prints the path; here it returns what it prints
about. Its loop has no bound, so the model runs it for a number of rounds and says where it then is.

| here | there |
| --- | --- |
| `PathStep`, `firstStep`, `nextStep` | `pathStep` (main.go:335) and the steps appended at :247 and :263-276 |
| `walkPath`        | the loop `for current != to` (main.go:254-279), for `fuel` rounds |
| `validateUpgrade` | `validateUpgrade` (main.go:218) |
-/

namespace SpiceDBOperator

open Golang

structure PathStep where
  version : String
  migration : String
  phase : String
  hasMigration : Bool := false
deriving DecidableEq, Repr

/-- Where the loop is: at the wanted version, at a version without a next one, or still running. -/
inductive Walked where
  | arrived (path : List PathStep)
  | stuck (path : List PathStep)
  | running (path : List PathStep)
deriving DecidableEq, Repr

def Walked.path : Walked → List PathStep
  | arrived path | stuck path | running path => path

inductive ToolError where
  | datastoreNotFound (datastore : String)
  | source (err : UpdateError)
  | versionNotFound (version channel datastore : String)
deriving DecidableEq, Repr

def ToolError.text : ToolError → String
  | datastoreNotFound datastore => "datastore " ++ quote datastore ++ " not found in update graph"
  | source err => err.text
  | versionNotFound version channel datastore =>
    "version " ++ quote version ++ " not found in the " ++ channel ++ " channel for " ++ datastore

inductive Report where
  /-- `Subgraph` failed (main.go:240). -/
  | noSubgraph
  /-- The walk got stuck (main.go:257). -/
  | notSupported
  | sameVersion
  | supported (path : List PathStep)
deriving DecidableEq, Repr

def firstStep (src : String) (srcState : State) : PathStep :=
  { version := src, migration := srcState.migration, phase := srcState.phase }

def nextStep (source : MemorySource) (current next : String) : Go PathStep := do
  let nextState ← source.state next
  let prevState ← source.state current
  .ok { version := next, migration := nextState.migration, phase := nextState.phase
        hasMigration := nextState.migration ≠ prevState.migration ∨ nextState.phase ≠ prevState.phase }

def walkPath (source subSource : MemorySource) (dst : String) : Nat → String → List PathStep → Go Walked
  | 0, _, path => .ok (.running path)
  | fuel + 1, current, path =>
    if current = dst then .ok (.arrived path)
    else
      let next := subSource.nextVersion current
      if next = "" then .ok (.stuck path)
      else do
        let step ← nextStep source current next
        walkPath source subSource dst fuel next (path ++ [step])

/-- What the tool reports when the loop has ended; a loop that never ends never gets there. -/
def reportOf : Walked → Go (Except ToolError Report)
  | .running _ => .error .hang
  | .stuck _ => .ok (.ok .notSupported)
  | .arrived path => .ok (.ok (if path.length ≤ 1 then .sameVersion else .supported path))

def validateUpgrade (g : UpdateGraph) (datastore src dst : String) (fuel : Nat) : Go (Except ToolError Report) :=
  match g.defaultChannelForDatastore datastore with
  | .error _ => .ok (.error (.datastoreNotFound datastore))
  | .ok channelName => do
    match ← g.sourceForChannel datastore channelName with
    | .error err => .ok (.error (.source err))
    | .ok source =>
      let fromState ← source.state src
      if fromState.id = "" then .ok (.error (.versionNotFound src channelName datastore))
      else
        let toState ← source.state dst
        if toState.id = "" then .ok (.error (.versionNotFound dst channelName datastore))
        else match ← source.subgraph dst with
          | .error _ => .ok (.ok .noSubgraph)
          | .ok subSource => do
            reportOf (← walkPath source subSource dst fuel src [firstStep src fromState])

/-! ## The loop as a walk -/

namespace MemorySource

/-- One round of the loop: no successor at the wanted version, or where there is no next version. -/
def towards (sub : MemorySource) (dst x : String) : Option String :=
  if x = dst then none else if sub.nextVersion x = "" then none else some (sub.nextVersion x)

theorem towards_none {sub : MemorySource} {dst x : String} :
    sub.towards dst x = none ↔ x = dst ∨ sub.nextVersion x = "" := by
  unfold towards
  split_ifs <;> simp [*]

theorem towards_some {sub : MemorySource} {dst x y : String} :
    sub.towards dst x = some y ↔ x ≠ dst ∧ sub.nextVersion x = y ∧ y ≠ "" := by
  unfold towards
  split_ifs with h h'
  · simp [h]
  · simp only [h', ne_eq, h, not_false_eq_true, true_and]
    exact ⟨nofun, fun h => absurd h.1.symm h.2⟩
  · simp only [Option.some.injEq, ne_eq, h, not_false_eq_true, true_and]
    exact ⟨fun h => ⟨h, h ▸ h'⟩, fun h => h.1⟩

end MemorySource

section

open Walk MemorySource

variable {source sub : MemorySource} {dst : String}

theorem nextStep_eq (hwf : source.WF) (current next : String) :
    ∃ step, nextStep source current next = .ok step ∧ step.version = next := by
  unfold nextStep
  rw [hwf.state_eq, hwf.state_eq]
  exact ⟨_, rfl, rfl⟩

/-- How the loop ended after the steps `tail` from `x`, or that it took one step in each of `fuel` rounds. -/
def EndsAfter (sub : MemorySource) (dst x : String) (fuel : Nat) (tail : List PathStep) : Walked → Prop
  | .running _ => tail.length = fuel
  | .arrived _ => tail.length < fuel ∧ nth (sub.towards dst) x tail.length = some dst
  | .stuck _ => tail.length < fuel ∧
    ∃ z, nth (sub.towards dst) x tail.length = some z ∧ z ≠ dst ∧ sub.nextVersion z = ""

variable (sub dst) in
/-- **The loop (main.go:254-279)** is the walk along `towards`: it never faults, and the versions it appends are the
nodes of the walk, in order. -/
theorem walkPath_spec (hwf : source.WF) (fuel : Nat) (x : String) (path : List PathStep) :
    ∃ w tail, walkPath source sub dst fuel x path = .ok w ∧ w.path = path ++ tail ∧
      (∀ i step, tail[i]? = some step → nth (sub.towards dst) x (i + 1) = some step.version) ∧
      EndsAfter sub dst x fuel tail w := by
  induction fuel generalizing x path with
  | zero => exact ⟨.running path, [], rfl, by simp [Walked.path], by simp, rfl⟩
  | succ fuel ih =>
    unfold walkPath
    by_cases hx : x = dst
    · rw [if_pos hx]
      exact ⟨.arrived path, [], rfl, by simp [Walked.path], by simp, by simp [EndsAfter, nth, hx]⟩
    by_cases hnext : sub.nextVersion x = ""
    · simp only [if_neg hx, hnext, if_true]
      exact ⟨.stuck path, [], rfl, by simp [Walked.path], by simp, by simp [EndsAfter, nth, hx, hnext]⟩
    obtain ⟨step, hstep, hversion⟩ := nextStep_eq hwf x (sub.nextVersion x)
    have htowards : sub.towards dst x = some (sub.nextVersion x) := towards_some.2 ⟨hx, rfl, hnext⟩
    obtain ⟨w, tail, hw, hpath, htail, hend⟩ := ih (sub.nextVersion x) (path ++ [step])
    refine ⟨w, step :: tail, ?_, by simp [hpath], ?_, ?_⟩
    · simpa [hx, hnext, hstep, bind, Except.bind] using hw
    · intro i step' hi
      rw [nth_succ, htowards]
      cases i with
      | zero =>
        obtain rfl : step = step' := by simpa using hi
        exact congrArg some hversion.symm
      | succ i => exact htail i step' (by simpa using hi)
    · cases w with
      | running _ => exact congrArg (· + 1) hend
      | arrived _ =>
        refine ⟨Nat.succ_lt_succ hend.1, ?_⟩
        rw [List.length_cons, nth_succ, htowards]
        exact hend.2
      | stuck _ =>
        refine ⟨Nat.succ_lt_succ hend.1, ?_⟩
        rw [List.length_cons, nth_succ, htowards]
        exact hend.2

/-- The loop ended. -/
def Walked.Ended : Walked → Prop
  | running _ => False
  | arrived _ | stuck _ => True

theorem EndsAfter.stop {x : String} {fuel : Nat} {tail : List PathStep} {w : Walked}
    (h : EndsAfter sub dst x fuel tail w) (hended : w.Ended) :
    ∃ z, nth (sub.towards dst) x tail.length = some z ∧ sub.towards dst z = none := by
  cases w with
  | running _ => exact hended.elim
  | arrived _ => exact ⟨dst, h.2, towards_none.2 (Or.inl rfl)⟩
  | stuck _ =>
    obtain ⟨z, hz, _, hnext⟩ := h.2
    exact ⟨z, hz, towards_none.2 (Or.inr hnext)⟩

/-- Given more rounds than the walk has steps, the loop ends where the walk does. -/
theorem walkPath_stops (hwf : source.WF) {x z : String} {n : Nat} (hz : nth (sub.towards dst) x n = some z)
    (hstop : sub.towards dst z = none) (path : List PathStep) :
    ∃ w, walkPath source sub dst (n + 1) x path = .ok w ∧ w.Ended ∧ (z = dst → ∃ p, w = .arrived p) := by
  obtain ⟨w, tail, hw, _, htail, hend⟩ := walkPath_spec sub dst hwf (n + 1) x path
  refine ⟨w, hw, ?_⟩
  cases w with
  | running p =>
    have hlen : tail.length = n + 1 := hend
    have hstep := htail n tail[n] (List.getElem?_eq_getElem (by omega))
    rw [nth_none_of_stop hz hstop (Nat.lt_succ_self n)] at hstep
    cases hstep
  | arrived p => exact ⟨trivial, fun _ => ⟨p, rfl⟩⟩
  | stuck p =>
    obtain ⟨_, z', hz', hne, hnext⟩ := hend
    have := (nth_stop_unique hz hstop hz' (towards_none.2 (Or.inr hnext))).2
    exact ⟨trivial, fun h => absurd (this.symm.trans h) hne⟩

theorem walkPath_halts_iff (hwf : source.WF) (x : String) (path : List PathStep) :
    (∃ fuel w, walkPath source sub dst fuel x path = .ok w ∧ w.Ended) ↔
      ∃ z, StateTransition.Reaches (sub.towards dst) x z ∧ sub.towards dst z = none := by
  constructor
  · rintro ⟨fuel, w, hw, hended⟩
    obtain ⟨w', tail, hw', _, _, hend⟩ := walkPath_spec sub dst hwf fuel x path
    cases hw.symm.trans hw'
    obtain ⟨z, hz, hstop⟩ := hend.stop hended
    exact ⟨z, reaches_iff_nth.2 ⟨_, hz⟩, hstop⟩
  · rintro ⟨z, hreach, hstop⟩
    obtain ⟨n, hn⟩ := reaches_iff_nth.1 hreach
    obtain ⟨w, hw, hended, _⟩ := walkPath_stops hwf hn hstop path
    exact ⟨n + 1, w, hw, hended⟩

theorem walkPath_arrives_iff (hwf : source.WF) (x : String) (path : List PathStep) :
    (∃ fuel p, walkPath source sub dst fuel x path = .ok (.arrived p)) ↔
      StateTransition.Reaches (sub.towards dst) x dst := by
  constructor
  · rintro ⟨fuel, p, hp⟩
    obtain ⟨w, tail, hw, _, _, hend⟩ := walkPath_spec sub dst hwf fuel x path
    cases hp.symm.trans hw
    exact reaches_iff_nth.2 ⟨_, hend.2⟩
  · intro hreach
    obtain ⟨n, hn⟩ := reaches_iff_nth.1 hreach
    obtain ⟨w, hw, _, harrived⟩ := walkPath_stops hwf hn (towards_none.2 (Or.inl rfl)) path
    obtain ⟨p, rfl⟩ := harrived rfl
    exact ⟨n + 1, p, hw⟩

end

end SpiceDBOperator
