import SpiceDBOperator.Config.Tried

/-!
# The warning about patches that did not apply (config.go:550-574)

`NewConfig` adds up, over the six objects it tries the patches on, how many patches applied, and warns when the sum is
less than the number of patches. With no patch error the sum counts a patch for one of the six kinds once, a wildcard
six times, and a patch for the disruption budget or for any other kind never (`sum_targets`). So the warning says that
some patch applied to nothing only while the five surplus counts of each wildcard do not make up for it, and it is also
given for patches that apply to the disruption budget, which is not tried. The job and the deployment are tried with
other hashes than they are generated with, so a patch for one of them may be counted and then not apply
(`unapplied_warning_iff`).
-/

namespace SpiceDBOperator

open Golang Hoare

/-! ## Which patches apply to an object -/

/-- The loop of `ApplyPatches` tries the patch on objects of this kind. -/
def Patch.targets (kind : String) (p : Patch) : Bool := p.kind = kind ∨ p.kind = wildcard

section

variable (lib : Libraries) (typeMeta : TypeMeta) (kind : String) (resolver : PatchMetaResolver)

/-- For each patch whether it applies when its turn comes; the loop goes on with the document as it is after one that
does not. -/
def applied : Nat → List Patch → String → List Bool
  | _, [], _ => []
  | i, p :: rest, doc =>
    if p.kind = kind ∨ p.kind = wildcard then
      match applyPatch lib typeMeta kind resolver i p doc with
      | .ok (.ok next) => true :: applied (i + 1) rest next
      | _ => false :: applied (i + 1) rest doc
    else false :: applied (i + 1) rest doc

/-- …on an object. -/
def appliedTo {K : Type} (codec : Codec K) (object : K) (patches : List Patch) : List Bool :=
  match codec.marshal object with
  | .ok doc => applied lib typeMeta kind resolver 0 patches doc
  | .error _ => patches.map fun _ => false

variable {lib typeMeta kind resolver}

/-- Without an error, the patches that apply are those the loop tries, and it counts them. -/
theorem applyPatchLoop_targets {patches : List Patch} {i : Nat} {st st' : Patching}
    (h : applyPatchLoop lib typeMeta kind resolver i patches st = .ok st') (hnil : st'.errs = []) :
    applied lib typeMeta kind resolver i patches st.encoded = patches.map (Patch.targets kind) ∧
      st'.count = st.count + patches.countP (Patch.targets kind) := by
  induction patches generalizing i st with
  | nil =>
    cases h
    exact ⟨rfl, rfl⟩
  | cons p rest ih =>
    rw [applyPatchLoop] at h
    rw [applied, List.map_cons, List.countP_cons]
    by_cases hkind : p.kind = kind ∨ p.kind = wildcard
    · have htarget : p.targets kind = true := decide_eq_true hkind
      rw [if_pos hkind] at h
      obtain ⟨r, happly, h⟩ := go_bind_ok.1 h
      cases r with
      | ok next =>
        obtain ⟨hflags, hcount⟩ := ih h
        simp only [if_pos hkind, happly, htarget, if_true, hflags, true_and, hcount]
        omega
      | error err => exact absurd (applyPatchLoop_errs h hnil) (by simp)
    · have htarget : p.targets kind = false := decide_eq_false hkind
      rw [if_neg hkind] at h
      obtain ⟨hflags, hcount⟩ := ih h
      simp [if_neg hkind, htarget, hflags, hcount]

theorem Applies.targets {K : Type} {codec : Codec K} {object : K} {patches : List Patch}
    (h : Applies lib codec typeMeta object object patches resolver) (hkind : typeMeta.kind = some kind) :
    appliedTo lib typeMeta kind resolver codec object patches = patches.map (Patch.targets kind) ∧
      ∃ patched, applyPatches lib codec typeMeta object object patches resolver = .ok patched ∧
        patched.count = patches.countP (Patch.targets kind) := by
  obtain ⟨patched, hpatched, hnil⟩ := h
  unfold applyPatches at hpatched ⊢
  unfold appliedTo
  cases hdoc : codec.marshal object with
  | error err =>
    rw [hdoc] at hpatched
    cases hpatched
    cases hnil
  | ok doc =>
    simp only [hdoc, hkind, go_bind_ok, Except.ok.injEq] at hpatched ⊢
    obtain ⟨st, hloop, rfl⟩ := hpatched
    obtain ⟨hflags, hcount⟩ := applyPatchLoop_targets hloop (List.append_eq_nil_iff.1 hnil).1
    exact ⟨hflags, _, ⟨st, hloop, rfl⟩, hcount.trans (Nat.zero_add _)⟩

end

/-! ## Counting -/

/-- The kinds of the objects that are tried. -/
def triedKinds : List String := ["ServiceAccount", "Role", "RoleBinding", "Service", "Job", "Deployment"]

/-- The kind is none of the operator's objects. -/
def Patch.stray (p : Patch) : Bool := p.kind ∉ triedKinds ∧ p.kind ≠ "PodDisruptionBudget" ∧ p.kind ≠ wildcard

def countKind (kind : String) (patches : List Patch) : Nat := patches.countP fun p => p.kind = kind

theorem countP_or_of_disjoint {α : Type} {p q : α → Bool} (h : ∀ a, p a = true → q a = false) (l : List α) :
    l.countP (fun a => p a || q a) = l.countP p + l.countP q := by
  induction l with
  | nil => rfl
  | cons a rest ih =>
    have hone := h a
    simp only [List.countP_cons, ih]
    cases hp : p a with
    | true =>
      simp only [hone hp, Bool.or_false, if_true, Bool.false_eq_true, if_false]
      omega
    | false =>
      simp only [Bool.false_or, Bool.false_eq_true, if_false]
      omega

/-- Over objects of different kinds a patch is counted for its own kind, and a wildcard for all of them. -/
theorem sum_targets {kinds : List String} (hnodup : kinds.Nodup) (hwild : wildcard ∉ kinds) (patches : List Patch) :
    (kinds.map fun kind => patches.countP (Patch.targets kind)).sum =
      patches.countP (fun p => p.kind ∈ kinds) + kinds.length * countKind wildcard patches := by
  induction kinds with
  | nil => simp
  | cons kind rest ih =>
    obtain ⟨hnew, hrest⟩ := List.nodup_cons.1 hnodup
    obtain ⟨hkind, hwild⟩ := not_or.1 (mt List.mem_cons.2 hwild)
    have hone : patches.countP (Patch.targets kind) = countKind kind patches + countKind wildcard patches := by
      rw [countKind, countKind, ← countP_or_of_disjoint]
      · exact List.countP_congr fun p _ => by simp [Patch.targets]
      · exact fun p hp => decide_eq_false fun hw => hkind (hw.symm.trans (of_decide_eq_true hp))
    have hkinds : patches.countP (fun p => p.kind ∈ kind :: rest) =
        countKind kind patches + patches.countP fun p => p.kind ∈ rest := by
      rw [countKind, ← countP_or_of_disjoint]
      · simp
      · exact fun p hp => decide_eq_false fun hmem => hnew (of_decide_eq_true hp ▸ hmem)
    rw [List.map_cons, List.sum_cons, ih hrest hwild, hone, hkinds, List.length_cons, Nat.succ_mul]
    omega

/-- Every patch is for an object that is tried, for all objects, for the budget, or for none. -/
theorem length_eq_kinds (patches : List Patch) :
    patches.length = patches.countP (fun p => p.kind ∈ triedKinds) + countKind wildcard patches +
      countKind "PodDisruptionBudget" patches + patches.countP Patch.stray := by
  have hwild : wildcard ∉ triedKinds := by decide
  have hpdb : "PodDisruptionBudget" ∉ triedKinds := by decide
  have hne : "PodDisruptionBudget" ≠ wildcard := by decide
  induction patches with
  | nil => rfl
  | cons p rest ih =>
    have hone : (if p.kind ∈ triedKinds then 1 else 0) + (if p.kind = wildcard then 1 else 0) +
        (if p.kind = "PodDisruptionBudget" then 1 else 0) + (if p.stray = true then 1 else 0) = 1 := by
      unfold Patch.stray
      by_cases h₁ : p.kind = wildcard
      · simp [h₁, hwild, hne.symm]
      by_cases h₂ : p.kind = "PodDisruptionBudget"
      · simp [h₂, hpdb, hne]
      by_cases h₃ : p.kind ∈ triedKinds <;> simp [h₁, h₂, h₃]
    simp only [countKind, List.countP_cons, List.length_cons, decide_eq_true_eq] at ih ⊢
    omega

/-- The sum falls short of the number of patches when the wildcards do not make up for what is not counted. -/
theorem sum_lt_length_iff (patches : List Patch) :
    (triedKinds.map fun kind => patches.countP (Patch.targets kind)).sum < patches.length ↔
      5 * countKind wildcard patches < countKind "PodDisruptionBudget" patches + patches.countP Patch.stray := by
  have hsum := sum_targets (by decide : triedKinds.Nodup) (by decide) patches
  have hlength := length_eq_kinds patches
  have hsix : triedKinds.length = 6 := rfl
  rw [hsix] at hsum
  omega

/-! ## The warning -/

def CountsPatches (warning : String) : Prop :=
  ∃ k n : Nat, warning = "only " ++ toString k ++ "/" ++ toString n ++ " patches applied successfully"

theorem Ordinary.not_countsPatches {warning : String} (h : Ordinary warning) : ¬ CountsPatches warning := by
  rintro ⟨k, n, rfl⟩
  obtain ⟨c, hc, hne⟩ := h
  simp only [String.toList_append, List.append_assoc] at hc
  exact hne (Option.some.inj hc).symm

/-- `NewConfig` warns that not all patches applied. -/
def Reading.Warned (r : Reading) : Prop := ∃ w ∈ r.warnings, CountsPatches w

section

variable {lib : Libraries}

theorem tryPatches_count {K : Type} {codec : Codec K} {typeMeta : TypeMeta} {kind : String} {obj : K}
    {patches : List Patch} {resolver : PatchMetaResolver} (h : Applies lib codec typeMeta obj obj patches resolver)
    (hkind : typeMeta.kind = some kind) :
    Triple (fun r => ∀ w ∈ r.warnings, Ordinary w) (tryPatches lib codec typeMeta obj patches resolver)
      (fun n r => n = patches.countP (Patch.targets kind) ∧ ∀ w ∈ r.warnings, Ordinary w) (fun _ _ => True) := by
  obtain ⟨-, patched, hpatched, hcount⟩ := h.targets hkind
  have hvalue : Triple (fun _ => True) (tryPatches lib codec typeMeta obj patches resolver)
      (fun n _ => n = patches.countP (Patch.targets kind)) (fun _ _ => True) := by
    unfold tryPatches
    rw [hpatched]
    refine Triple.bind (Q := fun p _ => p = patched) (Triple.pure fun _ _ => rfl) fun p => ?_
    refine Triple.known ?_
    rintro rfl
    refine Triple.bind (Q := fun _ _ => True) (Triple.act fun _ _ => trivial) fun _ => ?_
    refine Triple.ite (fun _ => ?_) fun _ => Triple.pure fun _ _ => hcount
    exact Triple.bind (Q := fun _ _ => True) (Triple.act fun _ _ => trivial) fun _ => Triple.pure fun _ _ => hcount
  exact (tryPatches_reads lib codec typeMeta obj patches resolver).value (T := ∅) tolerant_ordinary
    (hvalue.pre fun _ _ => trivial)

/-- With no patch error the warning compares the counts. -/
theorem validatePatches_warned {out : Config} (h : PatchesTried lib out) :
    Triple (fun r => ∀ w ∈ r.warnings, Ordinary w) (validatePatches lib out)
      (fun _ r => r.Warned ↔
        (triedKinds.map fun kind => out.patches.countP (Patch.targets kind)).sum < out.patches.length)
      (fun _ _ => True) := by
  unfold validatePatches
  refine Triple.bind (tryPatches_count h.serviceAccount rfl) fun n₁ => Triple.assume fun h₁ => ?_
  refine Triple.bind (tryPatches_count h.role rfl) fun n₂ => Triple.assume fun h₂ => ?_
  refine Triple.bind (tryPatches_count h.roleBinding rfl) fun n₃ => Triple.assume fun h₃ => ?_
  refine Triple.bind (tryPatches_count h.service rfl) fun n₄ => Triple.assume fun h₄ => ?_
  refine Triple.bind (tryPatches_count h.job rfl) fun n₅ => Triple.assume fun h₅ => ?_
  refine Triple.bind (tryPatches_count h.deployment rfl) fun n₆ => Triple.assume fun h₆ => ?_
  have htotal : n₁ + n₂ + n₃ + n₄ + n₅ + n₆ =
      (triedKinds.map fun kind => out.patches.countP (Patch.targets kind)).sum := by
    rw [h₁, h₂, h₃, h₄, h₅, h₆]
    simp only [triedKinds, List.map_cons, List.map_nil, List.sum_cons, List.sum_nil]
    omega
  refine Triple.ite (fun hshort => Triple.act fun r _ => ?_) fun hall => Triple.pure fun r hr => ?_
  · exact iff_of_true ⟨_, List.mem_append_right _ (List.mem_singleton.2 rfl), _, _, rfl⟩ (htotal ▸ hshort)
  · exact iff_of_false (fun ⟨w, hw, hcounts⟩ => (hr w hw).not_countsPatches hcounts) (htotal ▸ hall)

variable {cluster : SpiceDBCluster} {globalConfig : OperatorConfig} {secrets : GoMap Secret}
  {resolver : PatchMetaResolver}

theorem readRest_warned {datastoreEngine : String} {spice : SpiceConfig} {migration : MigrationConfig}
    {target : Target} :
    Triple (fun r => ∀ w ∈ r.warnings, Ordinary w)
      (readRest lib cluster secrets resolver datastoreEngine spice migration target)
      (fun out r => (PatchesTried lib out → (r.Warned ↔
          (triedKinds.map fun kind => out.patches.countP (Patch.targets kind)).sum < out.patches.length)) ∧
        out.patches = fixDeploymentPatches lib cluster.name cluster.spec.patches)
      (fun _ _ => True) := by
  have htry : ∀ out : Config, Triple (fun r => ∀ w ∈ r.warnings, Ordinary w) (validatePatches lib out)
      (fun _ r => PatchesTried lib out → (r.Warned ↔
        (triedKinds.map fun kind => out.patches.countP (Patch.targets kind)).sum < out.patches.length))
      (fun _ _ => True) := by
    intro out
    by_cases htried : PatchesTried lib out
    · exact Triple.conseq (validatePatches_warned htried) (fun _ h => h) (fun _ _ h _ => h) fun _ _ h => h
    · exact Triple.conseq Triple.trivially (fun _ h => h) (fun _ _ _ h => absurd h htried) fun _ _ h => h
  unfold readRest
  refine Triple.bind (readImage_reads target).ordinary fun _ => ?_
  refine Triple.bind (readFlag_reads _).ordinary fun _ => ?_
  refine Triple.bind (readFlag_reads _).ordinary fun _ => ?_
  refine Triple.bind (resolveCredentials_reads _ _ _).ordinary fun _ => ?_
  refine Triple.bind (readReplicas_reads _).ordinary fun _ => ?_
  refine Triple.bind (readFlag_reads _).ordinary fun _ => ?_
  iterate 3 refine Triple.bind (readMetadata_reads _ _ _).ordinary fun _ => ?_
  refine Triple.bind readPDB_reads.ordinary fun _ => ?_
  refine Triple.bind (readTLSPaths_reads _ _ _).ordinary fun _ => ?_
  refine Triple.bind (readPassthrough_reads _ _ _).ordinary fun _ => ?_
  refine Triple.bind (htry _) fun _ => ?_
  exact Triple.pure fun _ h => ⟨h, rfl⟩

theorem readConfig_warned :
    Triple (fun r => ∀ w ∈ r.warnings, Ordinary w) (readConfig lib cluster globalConfig secrets resolver)
      (fun out r => (PatchesTried lib out → (r.Warned ↔
          (triedKinds.map fun kind => out.patches.countP (Patch.targets kind)).sum < out.patches.length)) ∧
        out.patches = fixDeploymentPatches lib cluster.name cluster.spec.patches)
      (fun _ _ => True) := by
  unfold readConfig
  refine Triple.bind dropIgnored_reads.ordinary fun _ => ?_
  refine Triple.bind (readNames_reads cluster).ordinary fun _ => ?_
  refine Triple.bind readEngine_reads.ordinary fun _ => ?_
  refine Triple.bind (readProjection_reads _).ordinary fun _ => ?_
  refine Triple.bind (readProjection_reads _).ordinary fun _ => ?_
  refine Triple.bind (readTarget_reads _ _ _ _).ordinary fun _ => ?_
  exact readRest_warned

end

/-! ## Patches that apply to nothing -/

namespace Config

variable (lib : Libraries) (c : Config)

/-- For each object the operator generates, which patches apply to it. The disruption budget is one of them if `budget`
says so: a cluster can disable it. -/
def generatedFlags (budget : Bool) (migrationHash secretHash : String) : List (String × List Bool) :=
  [("ServiceAccount", appliedTo lib typeServiceAccount "ServiceAccount" c.patchMeta lib.serviceAccountCodec
      (c.unpatchedServiceAccount lib) c.patches),
    ("Role", appliedTo lib typeRole "Role" c.patchMeta lib.roleCodec (c.unpatchedRole lib) c.patches),
    ("RoleBinding", appliedTo lib typeRoleBinding "RoleBinding" c.patchMeta lib.roleBindingCodec
      (c.unpatchedRoleBinding lib) c.patches),
    ("Service", appliedTo lib typeService "Service" c.patchMeta lib.serviceCodec (c.unpatchedService lib) c.patches),
    ("Job", appliedTo lib typeJob "Job" c.patchMeta lib.jobCodec (c.unpatchedMigrationJob lib migrationHash) c.patches),
    ("Deployment", appliedTo lib typeDeployment "Deployment" c.patchMeta lib.deploymentCodec
      (c.unpatchedDeployment lib migrationHash secretHash) c.patches)] ++
  if budget then
    [("PodDisruptionBudget", appliedTo lib typePDB "PodDisruptionBudget" c.patchMeta lib.podDisruptionBudgetCodec
      (c.unpatchedPDB lib) c.patches)]
  else []

/-- Patch number `j` applies to none of them. -/
def Unapplied (budget : Bool) (migrationHash secretHash : String) (j : Nat) : Prop :=
  ∀ object ∈ c.generatedFlags lib budget migrationHash secretHash, object.2[j]? ≠ some true

/-- A patch for an object that was not tried as it is generated (the job, the deployment, the disruption budget) does
not apply to it. -/
def Missed (budget : Bool) (migrationHash secretHash : String) : Prop :=
  ∃ (j : Nat) (p : Patch), c.patches[j]? = some p ∧ p.kind ∈ ["Job", "Deployment", "PodDisruptionBudget"] ∧
    ∀ object ∈ c.generatedFlags lib budget migrationHash secretHash, object.1 = p.kind → object.2[j]? ≠ some true

end Config

section

variable {lib : Libraries} {typeMeta : TypeMeta} {kind : String} {resolver : PatchMetaResolver}

theorem applied_targets {patches : List Patch} {i j : Nat} {doc : String}
    (h : (applied lib typeMeta kind resolver i patches doc)[j]? = some true) :
    ∃ p, patches[j]? = some p ∧ p.targets kind = true := by
  induction patches generalizing i j doc with
  | nil => simp [applied] at h
  | cons p rest ih =>
    rw [applied] at h
    by_cases hkind : p.kind = kind ∨ p.kind = wildcard
    · cases j with
      | zero => exact ⟨p, rfl, decide_eq_true hkind⟩
      | succ j =>
        rw [if_pos hkind] at h
        split at h
        · exact ih h
        · exact ih h
    · rw [if_neg hkind] at h
      cases j with
      | zero => cases h
      | succ j => exact ih h

theorem appliedTo_targets {K : Type} {codec : Codec K} {object : K} {patches : List Patch} {j : Nat}
    (h : (appliedTo lib typeMeta kind resolver codec object patches)[j]? = some true) :
    ∃ p, patches[j]? = some p ∧ p.targets kind = true := by
  unfold appliedTo at h
  split at h
  · exact applied_targets h
  · rw [List.getElem?_map, Option.map_eq_some_iff] at h
    obtain ⟨_, _, hfalse⟩ := h
    cases hfalse

variable {c : Config} {budget : Bool} {migrationHash secretHash : String} {j : Nat} {p : Patch}

theorem generatedFlags_kind {object : String × List Bool}
    (hmem : object ∈ c.generatedFlags lib budget migrationHash secretHash) :
    object.1 ∈ triedKinds ∨ object.1 = "PodDisruptionBudget" := by
  have hkinds : (c.generatedFlags lib budget migrationHash secretHash).map Prod.fst =
      triedKinds ++ if budget then ["PodDisruptionBudget"] else [] := by
    unfold Config.generatedFlags
    cases budget <;> rfl
  have hkind := hkinds ▸ List.mem_map_of_mem (f := Prod.fst) hmem
  rw [List.mem_append] at hkind
  refine hkind.imp_right fun hbudget => ?_
  split at hbudget
  · exact List.mem_singleton.1 hbudget
  · cases hbudget

/-- A patch applies to objects of its kind only, unless it is a wildcard. -/
theorem generatedFlags_targets {object : String × List Bool}
    (hmem : object ∈ c.generatedFlags lib budget migrationHash secretHash) (hp : c.patches[j]? = some p)
    (h : object.2[j]? = some true) : p.kind = object.1 ∨ p.kind = wildcard := by
  have htargets : ∀ {K : Type} {typeMeta : TypeMeta} {kind : String} {codec : Codec K} {o : K},
      (appliedTo lib typeMeta kind c.patchMeta codec o c.patches)[j]? = some true →
        p.kind = kind ∨ p.kind = wildcard := by
    intro K typeMeta kind codec o hflag
    obtain ⟨p', hp', htarget⟩ := appliedTo_targets hflag
    obtain rfl := Option.some.inj (hp.symm.trans hp')
    exact of_decide_eq_true htarget
  simp only [Config.generatedFlags, List.mem_append, List.mem_cons, List.not_mem_nil, or_false] at hmem
  rcases hmem with (rfl | rfl | rfl | rfl | rfl | rfl) | hbudget
  iterate 6 exact htargets h
  split at hbudget
  · rw [List.mem_singleton] at hbudget
    subst hbudget
    exact htargets h
  · cases hbudget

/-- With no patch error, what was tried as it is generated gets all the patches for it. -/
theorem PatchesTried.applies (h : PatchesTried lib c) (hp : c.patches[j]? = some p)
    (hkind : p.kind ∈ ["ServiceAccount", "Role", "RoleBinding", "Service"] ∨ p.kind = wildcard) :
    ¬ c.Unapplied lib budget migrationHash secretHash j := by
  have happlies : ∀ {flags : List Bool} {kind : String}, flags = c.patches.map (Patch.targets kind) →
      p.kind = kind ∨ p.kind = wildcard → flags[j]? = some true := by
    rintro flags kind rfl htarget
    simp [hp, Patch.targets, htarget]
  intro hun
  simp only [List.mem_cons, List.not_mem_nil, or_false] at hkind
  rcases hkind with (hkind | hkind | hkind | hkind) | hkind
  · exact hun _ (.head _) (happlies (h.serviceAccount.targets rfl).1 (Or.inl hkind))
  · exact hun _ (.tail _ (.head _)) (happlies (h.role.targets rfl).1 (Or.inl hkind))
  · exact hun _ (.tail _ (.tail _ (.head _))) (happlies (h.roleBinding.targets rfl).1 (Or.inl hkind))
  · exact hun _ (.tail _ (.tail _ (.tail _ (.head _)))) (happlies (h.service.targets rfl).1 (Or.inl hkind))
  · exact hun _ (.head _) (happlies (h.serviceAccount.targets rfl).1 (Or.inr hkind))

theorem PatchesTried.exists_unapplied_iff (h : PatchesTried lib c) :
    (∃ j < c.patches.length, c.Unapplied lib budget migrationHash secretHash j) ↔
      0 < c.patches.countP Patch.stray ∨ c.Missed lib budget migrationHash secretHash := by
  constructor
  · rintro ⟨j, hj, hun⟩
    have hp : c.patches[j]? = some c.patches[j] := List.getElem?_eq_getElem hj
    obtain ⟨hkind, hwild⟩ := not_or.1 fun hkind => h.applies hp hkind hun
    by_cases hlate : c.patches[j].kind ∈ ["Job", "Deployment", "PodDisruptionBudget"]
    · exact Or.inr ⟨j, _, hp, hlate, fun object hobject _ => hun object hobject⟩
    · refine Or.inl (List.countP_pos_iff.2 ⟨_, List.getElem_mem hj, decide_eq_true ⟨?_, ?_, hwild⟩⟩)
      · simp only [triedKinds, List.mem_cons, List.not_mem_nil, or_false] at hkind hlate ⊢
        tauto
      · exact fun hpdb => hlate (by simp [hpdb])
  · rintro (hstray | ⟨j, p, hp, hlate, hmissed⟩)
    · obtain ⟨p, hmem, hp⟩ := List.countP_pos_iff.1 hstray
      obtain ⟨hkind, hpdb, hwild⟩ := of_decide_eq_true hp
      obtain ⟨j, hj, rfl⟩ := List.getElem_of_mem hmem
      refine ⟨j, hj, fun object hobject hflag => ?_⟩
      have hnamed : object.1 ∈ triedKinds ∨ object.1 = "PodDisruptionBudget" := generatedFlags_kind hobject
      rcases generatedFlags_targets hobject (List.getElem?_eq_getElem hj) hflag with heq | heq
      · rw [← heq] at hnamed
        exact hnamed.elim hkind hpdb
      · exact hwild heq
    · obtain ⟨hj, -⟩ := List.getElem?_eq_some_iff.1 hp
      refine ⟨j, hj, fun object hobject hflag => ?_⟩
      rcases generatedFlags_targets hobject hp hflag with heq | heq
      · exact hmissed object hobject heq.symm hflag
      · rw [heq] at hlate
        exact absurd hlate (by decide)

end

/-! ## When the warning is exact -/

section

variable {lib : Libraries} {cluster : SpiceDBCluster} {globalConfig : OperatorConfig} {secrets : GoMap Secret}
  {resolver : PatchMetaResolver} {out : Config} {r : Reading}

theorem Assembles.newConfig_eq (h : Assembles lib cluster globalConfig secrets resolver out r) :
    newConfig lib cluster globalConfig secrets resolver =
      .ok ((lib.aggregate r.errs).elim (.ok out) .error, lib.aggregate r.warnings) := by
  obtain ⟨raw, hconfig, hrun⟩ := h
  simp only [newConfig, hconfig, hrun]
  cases lib.aggregate r.errs <;> rfl

theorem countP_fixDeploymentPatches {f : Patch → Bool} (hf : ∀ p p' : Patch, p.kind = p'.kind → f p = f p')
    (name : String) (patches : List Patch) :
    (fixDeploymentPatches lib name patches).countP f = patches.countP f := by
  rw [fixDeploymentPatches, List.countP_map]
  exact List.countP_congr fun p _ => by rw [Function.comp_apply, hf _ p (fixDeploymentPatch_kind lib name p)]

theorem Assembles.countKind_eq (h : Assembles lib cluster globalConfig secrets resolver out r) (kind : String) :
    countKind kind out.patches = countKind kind cluster.spec.patches := by
  obtain ⟨raw, -, hrun⟩ := h
  rw [(readConfig_warned.of_run (fun _ hw => absurd hw List.not_mem_nil) hrun).2]
  exact countP_fixDeploymentPatches (fun p p' hkind => by rw [hkind]) _ _

theorem Assembles.stray_eq (h : Assembles lib cluster globalConfig secrets resolver out r) :
    out.patches.countP Patch.stray = cluster.spec.patches.countP Patch.stray := by
  obtain ⟨raw, -, hrun⟩ := h
  rw [(readConfig_warned.of_run (fun _ hw => absurd hw List.not_mem_nil) hrun).2]
  exact countP_fixDeploymentPatches (fun p p' hkind => by rw [Patch.stray, Patch.stray, hkind]) _ _

/-- With no patch error the warning depends on the kinds of the patches only. -/
theorem Assembles.warned_iff (h : Assembles lib cluster globalConfig secrets resolver out r)
    (htried : PatchesTried lib out) :
    r.Warned ↔ 5 * countKind wildcard cluster.spec.patches <
      countKind "PodDisruptionBudget" cluster.spec.patches + cluster.spec.patches.countP Patch.stray := by
  rw [← h.countKind_eq, ← h.countKind_eq, ← h.stray_eq, ← sum_lt_length_iff]
  obtain ⟨raw, -, hrun⟩ := h
  exact (readConfig_warned.of_run (fun _ hw => absurd hw List.not_mem_nil) hrun).1 htried

/-- **The warning is exact** under a condition on the kinds of the patches: if some patch is for no object at all, or
one for the job, the deployment or the disruption budget does not apply to it, the five surplus counts of each wildcard
must be fewer than the patches that are not counted; otherwise they must make up for those for the disruption budget. -/
theorem unapplied_warning_iff (hrun : Assembles lib cluster globalConfig secrets resolver out r)
    (htried : PatchesTried lib out) (budget : Bool) (migrationHash secretHash : String) :
    newConfig lib cluster globalConfig secrets resolver =
        .ok ((lib.aggregate r.errs).elim (.ok out) .error, lib.aggregate r.warnings) ∧
      ((r.Warned ↔ ∃ j < out.patches.length, out.Unapplied lib budget migrationHash secretHash j) ↔
        (0 < cluster.spec.patches.countP Patch.stray ∨ out.Missed lib budget migrationHash secretHash →
          5 * countKind wildcard cluster.spec.patches <
            countKind "PodDisruptionBudget" cluster.spec.patches + cluster.spec.patches.countP Patch.stray) ∧
        (cluster.spec.patches.countP Patch.stray = 0 ∧ ¬ out.Missed lib budget migrationHash secretHash →
          countKind "PodDisruptionBudget" cluster.spec.patches ≤ 5 * countKind wildcard cluster.spec.patches)) := by
  refine ⟨hrun.newConfig_eq, ?_⟩
  rw [hrun.warned_iff htried, htried.exists_unapplied_iff, hrun.stray_eq]
  by_cases hmissed : out.Missed lib budget migrationHash secretHash
  · simp [hmissed]
  · simp only [hmissed, or_false, not_false_eq_true, and_true]
    omega

end

/-- The small cluster with patches of these kinds. -/
def clusterWithPatches (kinds : List String) : SpiceDBCluster :=
  { smallCluster "" with
    spec := { (smallCluster "").spec with patches := kinds.map fun kind => { kind, patch := "" } } }

/-- `NewConfig` gets through the patches of these kinds under `idlePatches`. -/
theorem clusterWithPatches_assembles (kinds : List String)
    (h : (returnedConfig (newConfig idlePatches (clusterWithPatches kinds)
      { imageName := "spicedb", updateGraph := UpdateGraph.twoReleases } ∅ plainResolver)).map
        (fun _ => ()) = some ()) :
    ∃ config r, Assembles idlePatches (clusterWithPatches kinds)
        { imageName := "spicedb", updateGraph := UpdateGraph.twoReleases } ∅ plainResolver config r ∧
      PatchesTried idlePatches config := by
  obtain ⟨config, warning, hconfig, -⟩ := exists_of_returnedConfig h
  obtain ⟨r, hr, -⟩ := newConfig_assembles hconfig
  exact ⟨config, r, hr, (newConfig_accepted hconfig).patches⟩

/-- A wildcard hides a patch for a kind that does not exist. -/
theorem wildcard_hides_unapplied :
    ∃ config r, Assembles idlePatches (clusterWithPatches ["*", "Ingress"])
        { imageName := "spicedb", updateGraph := UpdateGraph.twoReleases } ∅ plainResolver config r ∧
      PatchesTried idlePatches config ∧ ¬ r.Warned ∧
      ∀ migrationHash secretHash, ∃ j < config.patches.length,
        config.Unapplied idlePatches true migrationHash secretHash j := by
  obtain ⟨config, r, hr, htried⟩ := clusterWithPatches_assembles ["*", "Ingress"] (by decide)
  refine ⟨config, r, hr, htried, ?_, ?_⟩
  · rw [hr.warned_iff htried]
    decide
  · intro migrationHash secretHash
    rw [htried.exists_unapplied_iff, hr.stray_eq]
    exact Or.inl (by decide)

theorem unapplied_warned :
    ∃ config r, Assembles idlePatches (clusterWithPatches ["Deployment", "Ingress"])
        { imageName := "spicedb", updateGraph := UpdateGraph.twoReleases } ∅ plainResolver config r ∧
      (r.Warned ↔ ∃ j < config.patches.length, config.Unapplied idlePatches true "" "" j) := by
  obtain ⟨config, r, hr, htried⟩ := clusterWithPatches_assembles ["Deployment", "Ingress"] (by decide)
  refine ⟨config, r, hr, (unapplied_warning_iff hr htried true "" "").2.2 ⟨fun _ => by decide, fun hnone => ?_⟩⟩
  exact absurd hnone.1 (by decide)

end SpiceDBOperator
