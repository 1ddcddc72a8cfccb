import SpiceDBOperator.Updates.Available
import SpiceDBOperator.Updates.Steps

/-!
# Which calls of the oracle return

`SourceForChannel` hands out well-formed sources only, on which no query panics, so `AvailableVersions` always returns
and so does `ComputeTarget` once it has a source (`targetFrom_returns`). It has none when the selected channel has the
empty name: `len(channel) > 0` guards the lookup (file.go:257) and not the calls after it. `oracle_returns_iff` says
exactly which calls dereference that nil source.
-/

namespace SpiceDBOperator

open Golang

namespace UpdateGraph

variable {g : UpdateGraph} {m : MemorySource} {baseImage version channel engine : String}
  {cur : Option SpiceDBVersion} {rolling : Bool}

/-- **`AvailableVersions`** returns. -/
theorem availableVersions_returns (g : UpdateGraph) (engine : String) (v : SpiceDBVersion) :
    ∃ r, g.availableVersions engine v = .ok r := by
  obtain ⟨source, hsource⟩ := g.sourceForChannel_returns engine v.channel
  cases source with
  | error err => simp [availableVersions, hsource, bind, Except.bind]
  | ok m =>
    obtain ⟨found, _, heq⟩ := availableVersions_eq hsource
    exact ⟨_, heq⟩

theorem rollOrStep_returns (hwf : m.WF) (v target : SpiceDBVersion) (currentState : State) (notInChannel : Bool) :
    ∃ r, rollOrStep baseImage version (some m) v rolling currentState target notInChannel = .ok r := by
  cases rolling with
  | true => by_cases hid : currentState.id = "" <;> simp [rollOrStep, hid]
  | false => exact ⟨_, by simpa [rollOrStep] using takeStep_some hwf currentState target notInChannel⟩

/-- With a source, every path of `ComputeTarget` returns. -/
theorem targetFrom_returns (hwf : m.WF) (hchannel : channel ≠ "") :
    ∃ r, g.targetFrom baseImage version channel engine cur rolling (some m) = .ok r := by
  by_cases hinstall : version ≠ "" ∧ (cur.map (·.name)).getD "" = ""
  · simp only [targetFrom, if_pos hinstall, deref, hwf.state_eq, bind, Except.bind]
    split_ifs <;> exact ⟨_, rfl⟩
  cases cur with
  | none =>
    have hversion : version = "" := by simpa using hinstall
    cases rolling with
    | true => simp [targetFrom, hversion]
    | false => simp [targetFrom, hversion, hchannel, takeStep_none hwf]
  | some v =>
    by_cases hmoved : v.name = version ∧ v.channel = channel
    · simp only [targetFrom, if_neg hinstall, if_pos hmoved, deref, hwf.state_eq, bind, Except.bind]
      exact ⟨_, rfl⟩
    have hlocated : ∃ r, g.locateCurrent engine (some m) v { v with channel } = .ok r := locateCurrent_returns hwf _
    obtain ⟨located, hl⟩ := hlocated
    rcases located with err | ⟨currentState, target, notInChannel⟩
    · exact ⟨_, targetFrom_unlocated hchannel hinstall hmoved hl⟩
    · rw [targetFrom_located hchannel hinstall hmoved hl]
      exact rollOrStep_returns hwf v target currentState notInChannel

/-- Without one, only a rollout that has nothing to roll out. -/
theorem targetFrom_nil_returns_iff :
    (∃ r, g.targetFrom baseImage version "" engine cur rolling none = .ok r) ↔
      cur = none ∧ version = "" ∧ rolling = true := by
  cases cur with
  | none =>
    by_cases hversion : version = ""
    · cases rolling <;> simp [targetFrom, takeStep, pinSource, deref, hversion, bind, Except.bind]
    · simp [targetFrom, deref, hversion, bind, Except.bind]
  | some v =>
    simp only [targetFrom, locateCurrent, deref, bind, Except.bind, reduceCtorEq, false_and, iff_false]
    rintro ⟨r, h⟩
    split_ifs at h

/-- The call uses a source, and the channel it selects has no name: it is the default channel of the engine. The only
use that is not a dereference is that of a rollout without a version. -/
def UsesNilSource (g : UpdateGraph) (operatorImageName clusterBaseImage image version channel engine : String)
    (cur : Option SpiceDBVersion) (rolling : Bool) : Prop :=
  (explodeImage image).2 = ("", "") ∧ cmpOr [(explodeImage image).1, clusterBaseImage, operatorImageName] ≠ "" ∧
    Chosen g channel engine cur "" ∧ ¬ (cur = none ∧ version = "" ∧ rolling = true)

theorem call_returns_iff (g : UpdateGraph) (c : Call) (cur : Option SpiceDBVersion) :
    (∃ r, g.call c cur = .ok r) ↔
      ¬ UsesNilSource g c.operatorImageName c.clusterBaseImage c.image c.version c.channel c.engine cur c.rolling := by
  by_cases hbase : c.baseImage = ""
  · exact iff_of_true ⟨_, call_without_base hbase cur⟩ fun h => h.2.1 hbase
  cases hselect : g.selectChannel c.channel c.engine cur with
  | error err =>
    refine iff_of_true ⟨_, call_unselected hbase hselect⟩ fun h => ?_
    rw [selectChannel_ok.2 h.2.2.1] at hselect
    cases hselect
  | ok selected =>
    have hchosen := selectChannel_ok.1 hselect
    rw [call_selected hbase hchosen]
    by_cases hne : selected = ""
    · subst hne
      have hfetch : g.fetchSource c.engine "" = .ok (.ok none) := rfl
      simp only [hfetch, bind, Except.bind, targetFrom_nil_returns_iff]
      exact ⟨fun h h' => h'.2.2.2 h, fun h => by_contra fun hno => h ⟨c.untagged, hbase, hchosen, hno⟩⟩
    · refine iff_of_true ?_ fun h => hne (hchosen.unique h.2.2.1)
      obtain ⟨source, hsource⟩ := g.sourceForChannel_returns c.engine selected
      cases source with
      | error err => simp [fetchSource, hne, hsource, bind, Except.bind]
      | ok m =>
        simp only [fetchSource, ne_eq, hne, not_false_eq_true, if_true, hsource, bind, Except.bind]
        exact targetFrom_returns (sourceForChannel_wf hsource) hne

theorem computeTarget_returns_iff (g : UpdateGraph)
    (operatorImageName clusterBaseImage image version channel engine : String) (cur : Option SpiceDBVersion)
    (rolling : Bool) :
    (∃ r, g.computeTarget operatorImageName clusterBaseImage image version channel engine cur rolling = .ok r) ↔
      ¬ UsesNilSource g operatorImageName clusterBaseImage image version channel engine cur rolling := by
  by_cases huntag : (explodeImage image).2 = ("", "")
  · exact g.call_returns_iff
      ⟨operatorImageName, clusterBaseImage, image, version, channel, engine, rolling, huntag⟩ cur
  · exact iff_of_true ⟨_, computeTarget_tagged huntag⟩ fun h => huntag h.1

/-- **The oracle cannot crash the operator**, except on an unnamed default channel: for every graph and all inputs
`AvailableVersions` returns, and `ComputeTarget` returns unless it uses the nil source of a channel without a name. -/
theorem oracle_returns_iff (g : UpdateGraph) (operatorImageName clusterBaseImage image version channel engine : String)
    (cur : Option SpiceDBVersion) (rolling : Bool) (v : SpiceDBVersion) :
    (∃ r, g.availableVersions engine v = .ok r) ∧
    ((∃ r, g.computeTarget operatorImageName clusterBaseImage image version channel engine cur rolling = .ok r) ↔
      ¬ UsesNilSource g operatorImageName clusterBaseImage image version channel engine cur rolling) := by
  exact ⟨g.availableVersions_returns engine v, g.computeTarget_returns_iff _ _ _ _ _ _ _ _⟩

/-- An installation on the unnamed default channel. -/
theorem unnamedChannel_install :
    unnamedChannel.computeTarget "spicedb" "" "" "" "" "postgres" none false = .error .nilDereference := rfl

end UpdateGraph

end SpiceDBOperator
