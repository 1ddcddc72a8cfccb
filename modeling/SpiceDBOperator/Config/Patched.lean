import SpiceDBOperator.Config.Accepted
import SpiceDBOperator.Config.Plain
import SpiceDBOperator.Updates.Rails

/-!
# Generated objects and user patches

What a patch does to an object is arbitrary here: the libraries that apply it and decode the result are open. Each
builder puts back its own critical fields afterwards, behind its own guards.

* Six of the seven do so whatever is left of the object; `PodDisruptionBudget` goes through the spec and the selector
  without a guard (config.go:1041) and dereferences nil exactly when the patches leave no selector.
* `Service` puts its labels into the selector that is left and keeps the rest of it (config.go:725), so a label that a
  patch adds there is one the pods need not carry.
-/

namespace SpiceDBOperator

open Golang Metadata

/-! ## What an object keeps -/

/-- Every entry of `entries` is in `m`. -/
def Carries (entries m : GoMap String) : Prop := ∀ k v, entries.lookup k = some v → m.lookup k = some v

theorem carries_mergeInto (entries m : GoMap String) : Carries entries (mergeInto m entries) := by
  intro k v h
  simp [h]

/-- The operator's name, namespace, owner reference and labels. -/
structure OperatorOwned (c : Config) (component name : String) (m : ObjectMeta) : Prop where
  name_eq : m.name = some name
  nameSpace_eq : m.nameSpace = some c.spice.nameSpace
  owner : c.ownerRef ∈ m.ownerReferences
  labels : Carries (labelsForComponent c.spice.name component) m.labels

section

variable (lib : Libraries) (entries : GoMap String)

theorem carries_withLabels (m : ObjectMeta) : Carries entries (lib.withLabels entries m).labels := by
  rw [lib.withLabels_eq]
  exact carries_mergeInto _ _

theorem carries_withAnnotations (m : ObjectMeta) : Carries entries (lib.withAnnotations entries m).annotations := by
  rw [lib.withAnnotations_eq]
  exact carries_mergeInto _ _

theorem carries_withMatchLabels (s : LabelSelector) : Carries entries (lib.withMatchLabels entries s).matchLabels := by
  rw [lib.withMatchLabels_eq]
  exact carries_mergeInto _ _

end

theorem OperatorOwned.withAnnotations {c : Config} {component name : String} {m : ObjectMeta}
    (h : OperatorOwned c component name m) (lib : Libraries) (entries : GoMap String) :
    OperatorOwned c component name (lib.withAnnotations entries m) := by
  rw [lib.withAnnotations_eq]
  exact ⟨h.name_eq, h.nameSpace_eq, h.owner, h.labels⟩

/-! ## Patching does not panic -/

section

variable (lib : Libraries) {typeMeta : TypeMeta} {version : String} (kind : String) (resolver : PatchMetaResolver)
  {K : Type}

theorem applyPatch_returns (hversion : typeMeta.apiVersion = some version) (i : Nat) (p : Patch) (encoded : String) :
    ∃ r, applyPatch lib typeMeta kind resolver i p encoded = .ok r := by
  unfold applyPatch
  simp only [hversion, deref, bind, Except.bind]
  repeat' split
  all_goals exact ⟨_, rfl⟩

theorem applyPatchLoop_returns (hversion : typeMeta.apiVersion = some version) (patches : List Patch) (i : Nat)
    (st : Patching) : ∃ st', applyPatchLoop lib typeMeta kind resolver i patches st = .ok st' := by
  induction patches generalizing i st with
  | nil => exact ⟨st, rfl⟩
  | cons p rest ih =>
    obtain ⟨r, hr⟩ := applyPatch_returns lib kind resolver hversion i p st.encoded
    rw [applyPatchLoop]
    split
    · cases r with
      | ok encoded => simpa [hr, bind, Except.bind] using ih _ _
      | error err => simpa [hr, bind, Except.bind] using ih _ _
    · exact ih _ _

theorem applyPatches_returns (hversion : typeMeta.apiVersion = some version) (codec : Codec K) (object out : K)
    (patches : List Patch) : ∃ patched, applyPatches lib codec typeMeta object out patches resolver = .ok patched := by
  unfold applyPatches
  cases codec.marshal object with
  | error err => exact ⟨_, rfl⟩
  | ok initial =>
    cases typeMeta.kind with
    | none => exact ⟨_, rfl⟩
    | some kind =>
      obtain ⟨st, hst⟩ := applyPatchLoop_returns lib kind resolver hversion patches 0 { encoded := initial }
      simp [hst, bind, Except.bind]

end

/-- What holds after any patching holds after this one. -/
theorem after_patches {K β : Type} {lib : Libraries} {typeMeta : TypeMeta} {version : String} {codec : Codec K}
    {object out : K} {patches : List Patch} {resolver : PatchMetaResolver} {f : Patched K → Go β} {P : β → Prop}
    (hversion : typeMeta.apiVersion = some version) (h : ∀ patched, ∃ o, f patched = .ok o ∧ P o) :
    ∃ o, (applyPatches lib codec typeMeta object out patches resolver >>= f) = .ok o ∧ P o := by
  obtain ⟨patched, hp⟩ := applyPatches_returns lib resolver hversion codec object out patches
  rw [hp]
  exact h patched

/-- A field that is put back if the patches removed it is there. -/
theorem after_restore {α β : Type} {field : Option α} {unpatched : α} {f : α → Go β} {P : β → Prop}
    (h : ∀ a, ∃ o, f a = .ok o ∧ P o) : ∃ o, (deref (field.or (some unpatched)) >>= f) = .ok o ∧ P o := by
  cases field with
  | none => exact h unpatched
  | some a => exact h a

/-! ## The builders -/

namespace Config

variable (lib : Libraries) (c : Config)

theorem owned_of_owner_last (component name : String) (m : ObjectMeta) :
    OperatorOwned c component name (m |> lib.withName name |> lib.withNamespace c.spice.nameSpace
      |> lib.withLabels (labelsForComponent c.spice.name component) |> lib.withOwnerReferences c.ownerRef) where
  name_eq := by simp
  nameSpace_eq := by simp
  owner := by simp
  labels := by simpa using carries_mergeInto _ _

theorem owned_of_labels_last (component name : String) (m : ObjectMeta) :
    OperatorOwned c component name (m |> lib.withName name |> lib.withNamespace c.spice.nameSpace
      |> lib.withOwnerReferences c.ownerRef |> lib.withLabels (labelsForComponent c.spice.name component)) where
  name_eq := by simp
  nameSpace_eq := by simp
  owner := by simp
  labels := carries_withLabels _ _ _

theorem serviceAccount_owned : ∃ o, c.serviceAccount lib = .ok o ∧
    OperatorOwned c componentServiceAccount c.spice.serviceAccountName o.metadata :=
  after_patches rfl fun _ => ⟨_, rfl, owned_of_owner_last ..⟩

theorem role_owned : ∃ o, c.role lib = .ok o ∧ OperatorOwned c componentRole c.spice.name o.metadata :=
  after_patches rfl fun _ => ⟨_, rfl, owned_of_owner_last ..⟩

theorem roleBinding_owned : ∃ o, c.roleBinding lib = .ok o ∧
    OperatorOwned c componentRoleBinding c.spice.name o.metadata :=
  after_patches rfl fun _ => ⟨_, rfl, owned_of_owner_last ..⟩

theorem service_owned : ∃ o, c.service lib = .ok o ∧ OperatorOwned c componentService c.spice.name o.metadata ∧
    ∃ spec, o.spec = some spec ∧ Carries (labelsForComponent c.spice.name componentSpiceDB) spec.selector := by
  refine after_patches rfl fun _ => after_restore fun _ => ⟨_, rfl, owned_of_owner_last .., _, rfl, ?_⟩
  exact carries_mergeInto _ _

theorem migrationJob_owned (migrationHash : String) : ∃ o, c.migrationJob lib migrationHash = .ok o ∧
    OperatorOwned c componentMigrationJob (c.jobName migrationHash) o.metadata ∧
    o.metadata.annotations.lookup migrationRequirementsKey = some migrationHash := by
  refine after_patches rfl fun _ => after_restore fun _ => after_restore fun _ =>
    ⟨_, rfl, (owned_of_labels_last ..).withAnnotations lib _, ?_⟩
  exact carries_withAnnotations _ _ _ _ _ rfl

/-- What the operator relies on in a deployment. -/
structure DeploymentIntact (migrationHash : String) (d : DeploymentApply) : Prop where
  owned : OperatorOwned c componentSpiceDB (deploymentName c.spice.name) d.metadata
  annotated : d.metadata.annotations.lookup migrationRequirementsKey =
    some (if c.spice.skipMigrations then "skipped" else migrationHash)
  selected : ∃ spec selector template, d.spec = some spec ∧ spec.selector = some selector ∧
    selector.matchLabels.lookup kubernetesInstanceLabelKey = some (c.spice.name ++ "-spicedb") ∧
    spec.template = some template ∧
    template.metadata.labels.lookup kubernetesInstanceLabelKey = some (c.spice.name ++ "-spicedb") ∧
    Carries (labelsForComponent c.spice.name componentSpiceDB) template.metadata.labels

theorem deployment_intact (migrationHash secretHash : String) :
    ∃ d, c.deployment lib migrationHash secretHash = .ok d ∧ DeploymentIntact c migrationHash d := by
  refine after_patches rfl fun _ => after_restore fun _ => after_restore fun _ => after_restore fun template => ?_
  refine ⟨_, rfl, (owned_of_labels_last ..).withAnnotations lib _, ?_, _, _, _, rfl, rfl, ?_, rfl, ?_, ?_⟩
  · exact carries_withAnnotations _ _ _ _ _ rfl
  · exact carries_withMatchLabels _ _ _ _ _ rfl
  · -- the component labels come on top of the instance label and leave it alone
    simp only [lib.withLabels_eq, mergeInto_lookup]
    rfl
  · exact carries_withLabels _ _ _

/-! ### The service and the pods -/

/-- The object the patches leave of the service. -/
def patchedService : Go (Patched ServiceApply) :=
  applyPatches lib lib.serviceCodec typeService (c.unpatchedService lib)
    { typeMeta := typeService, metadata := newMeta c.spice.name c.spice.nameSpace } c.patches c.patchMeta

/-- The object the patches leave of the deployment. -/
def patchedDeployment (migrationHash secretHash : String) : Go (Patched DeploymentApply) :=
  applyPatches lib lib.deploymentCodec typeDeployment (c.unpatchedDeployment lib migrationHash secretHash)
    { typeMeta := typeDeployment, metadata := newMeta (deploymentName c.spice.name) c.spice.nameSpace } c.patches
    c.patchMeta

/-- The selector the patches leave to the service; one they took away with the spec is put back. -/
def leftSelector (service : ServiceApply) : GoMap String :=
  ((service.spec.or (c.unpatchedService lib).spec).map (·.selector)).getD ∅

/-- The pod labels the patches leave to the deployment; those they took away with the spec or the template are put
back. -/
def leftPodLabels (migrationHash secretHash : String) (d : DeploymentApply) : GoMap String :=
  let unpatched := (c.unpatchedDeployment lib migrationHash secretHash).spec
  (((d.spec.or unpatched).bind fun spec => spec.template.or (unpatched.bind (·.template))).map
    (·.metadata.labels)).getD ∅

/-- The pods carry the labels the service selects on. -/
def SelectsPods (migrationHash secretHash : String) : Prop :=
  ∃ service serviceSpec d spec template, c.service lib = .ok service ∧ service.spec = some serviceSpec ∧
    c.deployment lib migrationHash secretHash = .ok d ∧ d.spec = some spec ∧ spec.template = some template ∧
    Carries serviceSpec.selector template.metadata.labels

/-- What the patches leave in the selector of the service beside the operator's own labels, they leave in the pod
labels of the deployment too. -/
def SelectorMatched (migrationHash secretHash : String) : Prop :=
  ∃ service d, c.patchedService lib = .ok service ∧ c.patchedDeployment lib migrationHash secretHash = .ok d ∧
    ∀ k v, (c.leftSelector lib service.out).lookup k = some v →
      (labelsForComponent c.spice.name componentSpiceDB).lookup k = none →
        (k = kubernetesInstanceLabelKey ∧ v = deploymentName c.spice.name) ∨
        (k ≠ kubernetesInstanceLabelKey ∧ (c.leftPodLabels lib migrationHash secretHash d.out).lookup k = some v)

theorem service_eq {patched : Patched ServiceApply} (h : c.patchedService lib = .ok patched) :
    ∃ o spec, c.service lib = .ok o ∧ o.spec = some spec ∧
      spec.selector = mergeInto (c.leftSelector lib patched.out)
        (labelsForComponent c.spice.name componentSpiceDB) := by
  rw [patchedService] at h
  dsimp only [service]
  rw [h]
  unfold leftSelector
  rcases patched with ⟨⟨typeMeta, metadata, spec⟩, count, diff, errs⟩
  cases spec <;> exact ⟨_, _, rfl, rfl, rfl⟩

theorem deployment_eq {migrationHash secretHash : String} {patched : Patched DeploymentApply}
    (h : c.patchedDeployment lib migrationHash secretHash = .ok patched) :
    ∃ d spec template, c.deployment lib migrationHash secretHash = .ok d ∧ d.spec = some spec ∧
      spec.template = some template ∧
      template.metadata.labels = mergeInto
        (mergeInto (c.leftPodLabels lib migrationHash secretHash patched.out)
          (mapOf [(kubernetesInstanceLabelKey, deploymentName c.spice.name)]))
        (labelsForComponent c.spice.name componentSpiceDB) := by
  rw [patchedDeployment] at h
  dsimp only [deployment]
  rw [h]
  unfold leftPodLabels
  have hlabels : ∀ annotations labels labels' m,
      (m |> lib.withAnnotations annotations |> lib.withLabels labels |> lib.withLabels labels').labels =
        mergeInto (mergeInto m.labels labels) labels' := by simp
  rcases patched with ⟨⟨typeMeta, metadata, spec⟩, count, diff, errs⟩
  rcases spec with _ | ⟨replicas, strategy, selector, template⟩
  · exact ⟨_, _, _, rfl, rfl, rfl, hlabels ..⟩
  · cases selector <;> cases template <;> exact ⟨_, _, _, rfl, rfl, rfl, hlabels ..⟩

variable {lib c} in
/-- There is only one service and one deployment to compare. -/
theorem selectsPods_of {migrationHash secretHash : String} {service : ServiceApply} {serviceSpec : ServiceSpec}
    {d : DeploymentApply} {spec : DeploymentSpec} {template : PodTemplateSpec} (hservice : c.service lib = .ok service)
    (hserviceSpec : service.spec = some serviceSpec) (hd : c.deployment lib migrationHash secretHash = .ok d)
    (hspec : d.spec = some spec) (htemplate : spec.template = some template) :
    SelectsPods lib c migrationHash secretHash ↔ Carries serviceSpec.selector template.metadata.labels := by
  constructor
  · rintro ⟨_, _, _, _, _, h₁, h₂, h₃, h₄, h₅, hcarries⟩
    obtain rfl := Except.ok.inj (hservice.symm.trans h₁)
    obtain rfl := Option.some.inj (hserviceSpec.symm.trans h₂)
    obtain rfl := Except.ok.inj (hd.symm.trans h₃)
    obtain rfl := Option.some.inj (hspec.symm.trans h₄)
    obtain rfl := Option.some.inj (htemplate.symm.trans h₅)
    exact hcarries
  · exact fun hcarries => ⟨_, _, _, _, _, hservice, hserviceSpec, hd, hspec, htemplate, hcarries⟩

theorem selectsPods_iff (migrationHash secretHash : String) :
    SelectsPods lib c migrationHash secretHash ↔ SelectorMatched lib c migrationHash secretHash := by
  obtain ⟨service, hservice⟩ : ∃ service, c.patchedService lib = .ok service := applyPatches_returns lib _ rfl _ _ _ _
  obtain ⟨d, hd⟩ : ∃ d, c.patchedDeployment lib migrationHash secretHash = .ok d :=
    applyPatches_returns lib _ rfl _ _ _ _
  obtain ⟨o, serviceSpec, ho, hserviceSpec, hselector⟩ := service_eq lib c hservice
  obtain ⟨o', spec, template, ho', hspec, htemplate, hlabels⟩ := deployment_eq lib c hd
  -- label by label: what the operator sets itself agrees, so only the rest is compared
  have hlabel : ∀ k v, ((mergeInto (c.leftSelector lib service.out)
        (labelsForComponent c.spice.name componentSpiceDB)).lookup k = some v →
      (mergeInto (mergeInto (c.leftPodLabels lib migrationHash secretHash d.out)
          (mapOf [(kubernetesInstanceLabelKey, deploymentName c.spice.name)]))
        (labelsForComponent c.spice.name componentSpiceDB)).lookup k = some v) ↔
      ((c.leftSelector lib service.out).lookup k = some v →
        (labelsForComponent c.spice.name componentSpiceDB).lookup k = none →
          (k = kubernetesInstanceLabelKey ∧ v = deploymentName c.spice.name) ∨
          (k ≠ kubernetesInstanceLabelKey ∧
            (c.leftPodLabels lib migrationHash secretHash d.out).lookup k = some v)) := by
    intro k v
    simp only [mergeInto_lookup]
    cases hown : (labelsForComponent c.spice.name componentSpiceDB).lookup k with
    | some own => simp
    | none =>
      by_cases hk : k = kubernetesInstanceLabelKey
      · subst hk
        have hinstance : (mapOf [(kubernetesInstanceLabelKey, deploymentName c.spice.name)]).lookup
            kubernetesInstanceLabelKey = some (deploymentName c.spice.name) := rfl
        simp [hinstance, eq_comm]
      · have hother : (mapOf [(kubernetesInstanceLabelKey, deploymentName c.spice.name)]).lookup k = none := by
          simp [mapOf, hk]
        simp [hother, hk]
  rw [selectsPods_of ho hserviceSpec ho' hspec htemplate, hselector, hlabels]
  constructor
  · exact fun hcarries => ⟨service, d, hservice, hd, fun k v => (hlabel k v).1 (hcarries k v)⟩
  · rintro ⟨_, _, h₁, h₂, hmatched⟩ k v
    obtain rfl := Except.ok.inj (hservice.symm.trans h₁)
    obtain rfl := Except.ok.inj (hd.symm.trans h₂)
    exact (hlabel k v).2 (hmatched k v)

/-- The object the patches leave of the disruption budget. -/
def patchedPDB : Go (Patched PodDisruptionBudgetApply) :=
  applyPatches lib lib.podDisruptionBudgetCodec typePDB (c.unpatchedPDB lib)
    { typeMeta := typePDB, metadata := newMeta (pdbName c.spice.name) c.spice.nameSpace } c.patches c.patchMeta

/-- The budget comes out intact. -/
def PDBIntact : Prop :=
  ∃ d spec selector, c.podDisruptionBudget lib = .ok d ∧
    OperatorOwned c componentPDB (pdbName c.spice.name) d.metadata ∧ d.spec = some spec ∧
    spec.selector = some selector ∧
    selector.matchLabels.lookup kubernetesInstanceLabelKey = some (c.spice.name ++ "-spicedb")

theorem pdb_intact_iff : PDBIntact lib c ↔
    ∃ patched spec selector, c.patchedPDB lib = .ok patched ∧ patched.out.spec = some spec ∧
      spec.selector = some selector := by
  constructor
  · rintro ⟨d, _, _, hd, _⟩
    simp only [podDisruptionBudget, go_bind_ok, deref_eq_ok] at hd
    obtain ⟨patched, hp, spec, hspec, selector, hselector, _⟩ := hd
    exact ⟨patched, spec, selector, hp, hspec, hselector⟩
  · rintro ⟨patched, spec, selector, hp, hspec, hselector⟩
    refine ⟨_, _, _, go_bind_ok.2 ⟨patched, hp, go_bind_ok.2 ⟨spec, deref_eq_ok.2 hspec, go_bind_ok.2 ⟨selector,
      deref_eq_ok.2 hselector, rfl⟩⟩⟩, ⟨?_, ?_, ?_, ?_⟩, rfl, rfl, ?_⟩
    · simp
    · simp
    · simp
    · exact carries_withLabels _ _ _
    · exact carries_withMatchLabels _ _ _ _ _ rfl

end Config

/-- **What user patches cannot break.** For every config and every effect of its patches: the service account, the role,
the role binding, the service, the migration job and the deployment come out with what the operator relies on. The
pods carry the labels the service selects on exactly when the patches leave nothing in the selector of the service
that they do not leave in the pod labels. The disruption budget comes out intact exactly when the patches leave it a
spec with a selector. -/
theorem builders_withstand_patches (lib : Libraries) (c : Config) (migrationHash secretHash : String) :
    (∃ o, c.serviceAccount lib = .ok o ∧
      OperatorOwned c componentServiceAccount c.spice.serviceAccountName o.metadata) ∧
    (∃ o, c.role lib = .ok o ∧ OperatorOwned c componentRole c.spice.name o.metadata) ∧
    (∃ o, c.roleBinding lib = .ok o ∧ OperatorOwned c componentRoleBinding c.spice.name o.metadata) ∧
    (∃ o, c.service lib = .ok o ∧ OperatorOwned c componentService c.spice.name o.metadata ∧
      ∃ spec, o.spec = some spec ∧ Carries (labelsForComponent c.spice.name componentSpiceDB) spec.selector) ∧
    (∃ o, c.migrationJob lib migrationHash = .ok o ∧
      OperatorOwned c componentMigrationJob (c.jobName migrationHash) o.metadata ∧
      o.metadata.annotations.lookup migrationRequirementsKey = some migrationHash) ∧
    (∃ d, c.deployment lib migrationHash secretHash = .ok d ∧ c.DeploymentIntact migrationHash d) ∧
    (c.SelectsPods lib migrationHash secretHash ↔ c.SelectorMatched lib migrationHash secretHash) ∧
    (c.PDBIntact lib ↔
      ∃ patched spec selector, c.patchedPDB lib = .ok patched ∧ patched.out.spec = some spec ∧
        spec.selector = some selector) :=
  ⟨c.serviceAccount_owned lib, c.role_owned lib, c.roleBinding_owned lib, c.service_owned lib,
    c.migrationJob_owned lib migrationHash, c.deployment_intact lib migrationHash secretHash,
    c.selectsPods_iff lib migrationHash secretHash, c.pdb_intact_iff lib⟩

/-- Libraries that take every patch for the removal of the spec: the document is empty afterwards, and an empty document
fills in nothing. -/
def specRemoving : Libraries :=
  { plain with
    decodeOperation := fun text => .ok { kind := "remove", text }
    applyOperation := fun _ _ => .ok "\x7b\x7d" }

/-- Libraries that take every patch for the addition of a label to the selector of the service. -/
def selectorExtending : Libraries :=
  { plain with
    decodeOperation := fun text => .ok { kind := "add", text }
    applyOperation := fun _ doc => .ok (doc ++ "tier: gold")
    serviceCodec :=
      { marshal := fun _ => .ok ""
        unmarshal := fun doc s =>
          (if doc = "" then s
            else { s with spec := some { selector := mapOf [("tier", "gold")], ports := [] } }, none) } }

/-- A small config with one patch. -/
def onePatch (p : Patch) : Config :=
  { migration := {}, spice := { name := "small", nameSpace := "test" }, patches := [p], patchMeta := plainResolver }

/-- A patch that removes the spec of the budget makes the builder dereference nil, and after one that adds a label to
the selector of the service, the service selects on a label that no pod carries. -/
theorem patches_break_builders :
    (onePatch { kind := "PodDisruptionBudget"
                patch := "\x7b\"op\": \"remove\", \"path\": \"/spec\"\x7d" }).podDisruptionBudget specRemoving =
      .error .nilDereference ∧
    ¬ (onePatch
        { kind := "Service"
          patch := "\x7b\"op\": \"add\", \"path\": \"/spec/selector/tier\", \"value\": \"gold\"\x7d" }).SelectsPods
      selectorExtending "" "" := by
  refine ⟨rfl, fun hselects => ?_⟩
  rw [Config.selectsPods_of rfl rfl rfl rfl rfl] at hselects
  exact absurd (hselects "tier" "gold" (by decide)) (by decide)

end SpiceDBOperator
