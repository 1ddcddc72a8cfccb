import SpiceDBOperator.Config.Patched

/-!
# Two clusters in one namespace

Every object is applied through the client of its kind under its name and namespace, and pods are picked by labels. Two
clusters of one namespace stay apart if no such identity is shared and no selector picks the pods of the other. The
patches of both are arbitrary here.

| here | there |
| --- | --- |
| `Config.generated`  | what the handlers apply: `Apply(ctx, obj)` under `obj.Name` and `obj.Namespace` |
| `Config.nameOf`     | the names the builders put back after the patches |
| `podLabels`         | the labels of the pod template, which the pods are created with |

* `objects_shared_iff`: of the seven kinds only service accounts can be shared, and they are exactly when both specs
  name the same one.
* `selectors_stay_home`: services, deployments and budgets pick the serving pods of no other cluster, and services pick
  no migration pods at all. The budget and the deployment go by the instance label alone, and the migration pods of a
  cluster `x-spicedb` have the instance label of the cluster `x`.
-/

namespace SpiceDBOperator

open Golang Metadata

/-! ## Identities -/

inductive ObjectKind where
  | serviceAccount | role | roleBinding | service | job | deployment | podDisruptionBudget
deriving DecidableEq, Repr

structure Identity where
  kind : ObjectKind
  nameSpace : Option String
  name : Option String
deriving DecidableEq, Repr

/-- The identity an object is applied under, if it is built at all. -/
def identityOf {K : Type} (kind : ObjectKind) (metadata : K → ObjectMeta) : Go K → List Identity
  | .ok o => [{ kind, nameSpace := (metadata o).nameSpace, name := (metadata o).name }]
  | .error _ => []

namespace Config

variable (lib : Libraries) (c : Config) (migrationHash secretHash : String)

def generated : List Identity :=
  identityOf .serviceAccount (·.metadata) (c.serviceAccount lib) ++
  identityOf .role (·.metadata) (c.role lib) ++
  identityOf .roleBinding (·.metadata) (c.roleBinding lib) ++
  identityOf .service (·.metadata) (c.service lib) ++
  identityOf .job (·.metadata) (c.migrationJob lib migrationHash) ++
  identityOf .deployment (·.metadata) (c.deployment lib migrationHash secretHash) ++
  identityOf .podDisruptionBudget (·.metadata) (c.podDisruptionBudget lib)

def nameOf : ObjectKind → String
  | .serviceAccount => c.spice.serviceAccountName
  | .role | .roleBinding | .service => c.spice.name
  | .job => c.jobName migrationHash
  | .deployment => deploymentName c.spice.name
  | .podDisruptionBudget => pdbName c.spice.name

def identity (kind : ObjectKind) : Identity :=
  { kind, nameSpace := some c.spice.nameSpace, name := some (c.nameOf migrationHash kind) }

theorem podDisruptionBudget_named {d : PodDisruptionBudgetApply} (h : c.podDisruptionBudget lib = .ok d) :
    d.metadata.name = some (pdbName c.spice.name) ∧ d.metadata.nameSpace = some c.spice.nameSpace := by
  simp only [podDisruptionBudget, go_bind_ok, deref_eq_ok] at h
  obtain ⟨_, _, _, _, _, _, h⟩ := h
  cases h
  exact ⟨by simp, by simp⟩

variable {lib c migrationHash secretHash}

/-- The objects that come out of their builders whatever the patches do. -/
theorem identityOf_owned (kind : ObjectKind) {K : Type} {metadata : K → ObjectMeta} {component : String} {build : Go K}
    (h : ∃ o, build = .ok o ∧ OperatorOwned c component (c.nameOf migrationHash kind) (metadata o)) :
    identityOf kind metadata build = [c.identity migrationHash kind] := by
  obtain ⟨o, rfl, howned⟩ := h
  simp [identityOf, identity, howned.name_eq, howned.nameSpace_eq]

theorem identityOf_podDisruptionBudget (lib : Libraries) (c : Config) (migrationHash : String) :
    identityOf .podDisruptionBudget (·.metadata) (c.podDisruptionBudget lib) ⊆
      [c.identity migrationHash .podDisruptionBudget] := by
  cases h : c.podDisruptionBudget lib with
  | error fault => exact List.nil_subset _
  | ok d =>
    obtain ⟨hname, hnameSpace⟩ := c.podDisruptionBudget_named lib h
    simp [identityOf, identity, hname, hnameSpace, nameOf]

/-- Six objects are always there; the budget can be missing. -/
theorem generated_eq : c.generated lib migrationHash secretHash =
    [.serviceAccount, .role, .roleBinding, .service, .job, .deployment].map (c.identity migrationHash) ++
      identityOf .podDisruptionBudget (·.metadata) (c.podDisruptionBudget lib) := by
  obtain ⟨s, hs, hservice, _⟩ := c.service_owned lib
  obtain ⟨j, hj, hjob, _⟩ := c.migrationJob_owned lib migrationHash
  obtain ⟨d, hd, hdeployment⟩ := c.deployment_intact lib migrationHash secretHash
  rw [generated, identityOf_owned .serviceAccount (c.serviceAccount_owned lib),
    identityOf_owned .role (c.role_owned lib), identityOf_owned .roleBinding (c.roleBinding_owned lib),
    identityOf_owned .service ⟨s, hs, hservice⟩, identityOf_owned .job ⟨j, hj, hjob⟩,
    identityOf_owned .deployment ⟨d, hd, hdeployment.owned⟩]
  rfl

theorem mem_generated {i : Identity} (h : i ∈ c.generated lib migrationHash secretHash) :
    i = c.identity migrationHash i.kind := by
  rw [generated_eq] at h
  rcases List.mem_append.1 h with h | h
  · obtain ⟨kind, _, rfl⟩ := List.mem_map.1 h
    rfl
  · have := identityOf_podDisruptionBudget lib c migrationHash h
    rw [List.mem_singleton.1 this]
    rfl

theorem serviceAccount_mem_generated :
    c.identity migrationHash .serviceAccount ∈ c.generated lib migrationHash secretHash := by
  rw [generated_eq]
  exact List.mem_append_left _ (List.mem_map_of_mem (List.mem_cons_self ..))

end Config

/-! ## Names -/

/-- A suffix without the separator is told apart from what stands before it. -/
theorem append_separator_inj {α : Type} {separator : α} {l l' r r' : List α} (hr : separator ∉ r) (hr' : separator ∉ r')
    (h : l ++ separator :: r = l' ++ separator :: r') : l = l' := by
  rcases List.append_eq_append_iff.1 h with ⟨t, rfl, ht⟩ | ⟨t, rfl, ht⟩
  · cases t with
    | nil => simp
    | cons x t =>
      cases ht
      simp at hr
  · cases t with
    | nil => simp
    | cons x t =>
      cases ht
      simp at hr'

theorem append_migrate_inj {a b h h' : String} (hh : '-' ∉ h.toList) (hh' : '-' ∉ h'.toList)
    (heq : a ++ "-migrate-" ++ h = b ++ "-migrate-" ++ h') : a = b := by
  have hlist := congrArg String.toList heq
  simp only [String.toList_append] at hlist
  have hsplit : "-migrate-".toList = "-migrate".toList ++ ['-'] := rfl
  rw [hsplit] at hlist
  have hleft : a.toList ++ "-migrate".toList = b.toList ++ "-migrate".toList :=
    append_separator_inj hh hh' (by simpa using hlist)
  exact String.toList_injective (List.append_cancel_right hleft)

theorem jobName_inj {c₁ c₂ : Config} {h₁ h₂ : String} (hh₁ : '-' ∉ h₁.toList) (hh₂ : '-' ∉ h₂.toList)
    (h : c₁.jobName h₁ = c₂.jobName h₂) : c₁.spice.name = c₂.spice.name := by
  refine append_migrate_inj ?_ ?_ h
  · rw [String.toList_ofList]
    exact fun hmem => hh₁ (List.mem_of_mem_take hmem)
  · rw [String.toList_ofList]
    exact fun hmem => hh₂ (List.mem_of_mem_take hmem)

/-- Only the name of the service account does not tell the cluster. -/
theorem Config.nameOf_inj {c₁ c₂ : Config} {h₁ h₂ : String} (hh₁ : '-' ∉ h₁.toList) (hh₂ : '-' ∉ h₂.toList)
    {kind : ObjectKind} (hkind : kind ≠ .serviceAccount) (h : c₁.nameOf h₁ kind = c₂.nameOf h₂ kind) :
    c₁.spice.name = c₂.spice.name := by
  cases kind with
  | serviceAccount => exact absurd rfl hkind
  | role | roleBinding | service => exact h
  | job => exact jobName_inj hh₁ hh₂ h
  | deployment | podDisruptionBudget => exact String.append_left_inj _ |>.1 h

/-- **Clusters of one namespace share an object exactly when they share a service account.** For any two configs in a
namespace with different cluster names, whatever their patches: some object is applied for both under one kind, name and
namespace if and only if both have the same `serviceAccountName`. The migration hashes are taken to be free of `-`, as
hexadecimal ones are. -/
theorem objects_shared_iff (lib : Libraries) (c₁ c₂ : Config)
    (migrationHash₁ secretHash₁ migrationHash₂ secretHash₂ : String)
    (hnameSpace : c₁.spice.nameSpace = c₂.spice.nameSpace) (hname : c₁.spice.name ≠ c₂.spice.name)
    (hhash₁ : '-' ∉ migrationHash₁.toList) (hhash₂ : '-' ∉ migrationHash₂.toList) :
    (∃ i ∈ c₁.generated lib migrationHash₁ secretHash₁, i ∈ c₂.generated lib migrationHash₂ secretHash₂) ↔
      c₁.spice.serviceAccountName = c₂.spice.serviceAccountName := by
  constructor
  · rintro ⟨i, h₁, h₂⟩
    have heq : c₁.identity migrationHash₁ i.kind = c₂.identity migrationHash₂ i.kind :=
      (Config.mem_generated h₁).symm.trans (Config.mem_generated h₂)
    have hnames : c₁.nameOf migrationHash₁ i.kind = c₂.nameOf migrationHash₂ i.kind :=
      Option.some.inj (congrArg Identity.name heq)
    by_cases hkind : i.kind = .serviceAccount
    · rw [hkind] at hnames
      exact hnames
    · exact absurd (Config.nameOf_inj hhash₁ hhash₂ hkind hnames) hname
  · intro h
    refine ⟨_, Config.serviceAccount_mem_generated, ?_⟩
    have heq : c₁.identity migrationHash₁ .serviceAccount = c₂.identity migrationHash₂ .serviceAccount := by
      simp [Config.identity, Config.nameOf, hnameSpace, h]
    rw [heq]
    exact Config.serviceAccount_mem_generated

def accountConfig (name serviceAccountName : String) : Config :=
  { migration := {}, spice := { name, nameSpace := "test", serviceAccountName }, patchMeta := plainResolver }

theorem accountConfig_shared :
    (∃ i ∈ (accountConfig "first" "runner").generated plain "m" "s",
      i ∈ (accountConfig "second" "runner").generated plain "m" "s") ∧
    ¬ ∃ i ∈ (accountConfig "first" "first").generated plain "m" "s",
      i ∈ (accountConfig "second" "second").generated plain "m" "s" := by
  constructor
  · exact (objects_shared_iff plain (accountConfig "first" "runner")
      (accountConfig "second" "runner") "m" "s" "m" "s" rfl
      (by decide) (by decide) (by decide)).2 rfl
  · rw [objects_shared_iff plain (accountConfig "first" "first") (accountConfig "second" "second") "m" "s" "m" "s" rfl
      (by decide) (by decide) (by decide)]
    decide

/-! ## Selectors -/

def ServiceApply.selector (s : ServiceApply) : GoMap String := (s.spec.map (·.selector)).getD ∅

def DeploymentApply.selector (d : DeploymentApply) : GoMap String :=
  ((d.spec.bind (·.selector)).map (·.matchLabels)).getD ∅

def PodDisruptionBudgetApply.selector (b : PodDisruptionBudgetApply) : GoMap String :=
  ((b.spec.bind (·.selector)).map (·.matchLabels)).getD ∅

def DeploymentApply.podLabels (d : DeploymentApply) : GoMap String :=
  ((d.spec.bind (·.template)).map (·.metadata.labels)).getD ∅

def JobApply.podLabels (j : JobApply) : GoMap String :=
  ((j.spec.bind (·.template)).map (·.metadata.labels)).getD ∅

namespace Config

variable {lib : Libraries} {c : Config} {migrationHash secretHash : String}

theorem service_selector {s : ServiceApply} (h : c.service lib = .ok s) :
    Carries (labelsForComponent c.spice.name componentSpiceDB) s.selector := by
  obtain ⟨_, hs, _, spec, hspec, hcarries⟩ := c.service_owned lib
  cases h.symm.trans hs
  simpa [ServiceApply.selector, hspec] using hcarries

theorem deployment_selector {d : DeploymentApply} (h : c.deployment lib migrationHash secretHash = .ok d) :
    d.selector.lookup kubernetesInstanceLabelKey = some (deploymentName c.spice.name) := by
  obtain ⟨_, hd, hintact⟩ := c.deployment_intact lib migrationHash secretHash
  cases h.symm.trans hd
  obtain ⟨spec, selector, _, hspec, hselector, hinstance, _⟩ := hintact.selected
  simpa [DeploymentApply.selector, hspec, hselector, deploymentName] using hinstance

theorem pdb_selector {b : PodDisruptionBudgetApply} (h : c.podDisruptionBudget lib = .ok b) :
    b.selector.lookup kubernetesInstanceLabelKey = some (deploymentName c.spice.name) := by
  simp only [podDisruptionBudget, go_bind_ok, deref_eq_ok] at h
  obtain ⟨_, _, _, _, _, _, h⟩ := h
  cases h
  exact carries_withMatchLabels _ _ _ _ _ rfl

theorem deployment_podLabels {d : DeploymentApply} (h : c.deployment lib migrationHash secretHash = .ok d) :
    d.podLabels.lookup kubernetesInstanceLabelKey = some (deploymentName c.spice.name) ∧
      Carries (labelsForComponent c.spice.name componentSpiceDB) d.podLabels := by
  obtain ⟨_, hd, hintact⟩ := c.deployment_intact lib migrationHash secretHash
  cases h.symm.trans hd
  obtain ⟨spec, _, template, hspec, _, _, htemplate, hinstance, hcomponent⟩ := hintact.selected
  simp only [DeploymentApply.podLabels, hspec, htemplate, Option.bind_some, Option.map_some, Option.getD_some]
  exact ⟨hinstance, hcomponent⟩

theorem migrationJob_podLabels {j : JobApply} (h : c.migrationJob lib migrationHash = .ok j) :
    Carries (labelsForComponent c.spice.name componentMigrationJob) j.podLabels := by
  have hlabels : ∃ j, c.migrationJob lib migrationHash = .ok j ∧
      Carries (labelsForComponent c.spice.name componentMigrationJob) j.podLabels :=
    after_patches rfl fun _ => after_restore fun _ => after_restore fun _ => ⟨_, rfl, carries_withLabels _ _ _⟩
  obtain ⟨_, hj, hcarries⟩ := hlabels
  cases h.symm.trans hj
  exact hcarries

end Config

/-- What is picked by a selector has its labels. -/
theorem Carries.agree {selector labels : GoMap String} (h : Carries selector labels) {key v v' : String}
    (hselector : selector.lookup key = some v) (hlabels : labels.lookup key = some v') : v = v' :=
  Option.some.inj ((h _ _ hselector).symm.trans hlabels)

theorem labelsForComponent_owner (owner component : String) :
    (labelsForComponent owner component).lookup ownerLabelKey = some owner := rfl

theorem labelsForComponent_component (owner component : String) :
    (labelsForComponent owner component).lookup componentLabelKey = some component := rfl

/-- The instance label of the migration pods before the patches. -/
theorem unpatchedMigrationJob_instance (lib : Libraries) (c : Config) (migrationHash : String) :
    (c.unpatchedMigrationJob lib migrationHash).podLabels.lookup kubernetesInstanceLabelKey =
      some ((c.spice.extraPodLabels.lookup kubernetesInstanceLabelKey).getD c.spice.name) := by
  have hcommon : (c.commonLabels lib c.spice.name).lookup kubernetesInstanceLabelKey = some c.spice.name := by
    unfold Config.commonLabels
    dsimp only
    split <;> rfl
  simp only [JobApply.podLabels, Config.unpatchedMigrationJob, Option.bind_some, Option.map_some, Option.getD_some,
    lib.withLabels_eq, lib.withAnnotations_eq, mergeInto_lookup, hcommon]
  cases c.spice.extraPodLabels.lookup kubernetesInstanceLabelKey <;> rfl

/-- **Selectors stay within their cluster, but for migration pods.** For any two configs, whatever their patches: a
service, a deployment or a disruption budget picks the serving pods of a cluster only if it is of that cluster, and a
service picks migration pods of none. Before the patches, the budget of one cluster picks the migration pods of another
exactly when these have its deployment's name for an instance label: the name of their cluster, unless the extra pod
labels set another. -/
theorem selectors_stay_home (lib : Libraries) (c₁ c₂ : Config)
    (migrationHash₁ secretHash₁ migrationHash₂ secretHash₂ : String) :
    (∀ s d, c₁.service lib = .ok s → c₂.deployment lib migrationHash₂ secretHash₂ = .ok d →
      Carries s.selector d.podLabels → c₁.spice.name = c₂.spice.name) ∧
    (∀ d₁ d₂, c₁.deployment lib migrationHash₁ secretHash₁ = .ok d₁ →
      c₂.deployment lib migrationHash₂ secretHash₂ = .ok d₂ → Carries d₁.selector d₂.podLabels →
      c₁.spice.name = c₂.spice.name) ∧
    (∀ b d, c₁.podDisruptionBudget lib = .ok b → c₂.deployment lib migrationHash₂ secretHash₂ = .ok d →
      Carries b.selector d.podLabels → c₁.spice.name = c₂.spice.name) ∧
    (∀ s j, c₁.service lib = .ok s → c₂.migrationJob lib migrationHash₂ = .ok j → ¬ Carries s.selector j.podLabels) ∧
    (Carries (c₁.unpatchedPDB lib).selector (c₂.unpatchedMigrationJob lib migrationHash₂).podLabels ↔
      (c₂.spice.extraPodLabels.lookup kubernetesInstanceLabelKey).getD c₂.spice.name =
        deploymentName c₁.spice.name) := by
  refine ⟨fun s d hs hd hpicks => ?_, fun d₁ d₂ h₁ h₂ hpicks => ?_, fun b d hb hd hpicks => ?_,
    fun s j hs hj hpicks => ?_, ?_⟩
  · refine hpicks.agree ?_ ((Config.deployment_podLabels hd).2 _ _ (labelsForComponent_owner _ _))
    exact Config.service_selector hs _ _ (labelsForComponent_owner _ _)
  · have hnames := hpicks.agree (Config.deployment_selector h₁) (Config.deployment_podLabels h₂).1
    exact String.append_left_inj _ |>.1 hnames
  · have hnames := hpicks.agree (Config.pdb_selector hb) (Config.deployment_podLabels hd).1
    exact String.append_left_inj _ |>.1 hnames
  · have hcomponent : componentSpiceDB = componentMigrationJob := by
      refine hpicks.agree ?_ (Config.migrationJob_podLabels hj _ _ (labelsForComponent_component _ _))
      exact Config.service_selector hs _ _ (labelsForComponent_component _ _)
    exact absurd hcomponent (by decide)
  · have hjob := unpatchedMigrationJob_instance lib c₂ migrationHash₂
    have hselector : (c₁.unpatchedPDB lib).selector =
        mapOf [(kubernetesInstanceLabelKey, deploymentName c₁.spice.name)] := by
      unfold PodDisruptionBudgetApply.selector Config.unpatchedPDB
      dsimp only
      split <;> rfl
    constructor
    · intro hpicks
      exact (hpicks.agree (by rw [hselector]; rfl) hjob).symm
    · intro hname key v hv
      rw [hselector] at hv
      by_cases hkey : key = kubernetesInstanceLabelKey
      · subst hkey
        rw [hjob, hname]
        exact hv
      · have hnone : (mapOf [(kubernetesInstanceLabelKey, deploymentName c₁.spice.name)]).lookup key = none :=
          List.dlookup_cons_ne _ _ hkey
        cases hnone.symm.trans hv

/-- The migration pods of `x-spicedb` have the instance label of the serving pods of `x`. -/
example : ((accountConfig "x-spicedb" "").unpatchedMigrationJob plain "m").podLabels.lookup kubernetesInstanceLabelKey =
    ((accountConfig "x" "").unpatchedPDB plain).selector.lookup kubernetesInstanceLabelKey := by decide

end SpiceDBOperator
