import SpiceDBOperator.Config.Plain
import SpiceDBOperator.Golang.Pointer

/-!
# Old container names (`fixDeploymentPatches`, config.go:1103)

Containers used to be named after the deployment, and are now named `spicedb`. `fixDeploymentPatches` rewrites the
patches that still use the old name: if the old name occurs anywhere in the text of a merge patch, the first container
of the patch is renamed. That is what it should do exactly if the first container has one of the two names and no other
has the old one (`oldNames_fixed_iff`). Where the text occurs for another reason, the first container is renamed
whatever its name.

Patches are texts; `Documents` gives their meaning and says what is relied on in the libraries that convert and change
them.
-/

namespace SpiceDBOperator

open Golang

/-! ## What should be renamed -/

def containersPath : List String := ["spec", "template", "spec", "containers"]

/-- The path of `renameContainer`. -/
def firstNamePath : List String := containersPath ++ ["0", "name"]

def elements : Any → List Any
  | .array xs => xs
  | _ => []

/-- The containers of a merge patch. -/
def patchContainers (v : Any) : List Any := ((v.get containersPath).map elements).getD []

def nameOf (container : Any) : Option String :=
  match container.get ["name"] with
  | some (.string s) => some s
  | _ => none

def renameEntry (old : String) (container : Any) : Any :=
  if nameOf container = some old then (Any.replace ["name"] (.string "spicedb") container).getD container else container

def renameEntries (old : String) : Any → Any
  | .array xs => .array (xs.map (renameEntry old))
  | v => v

/-- Every container with the old name is renamed, and nothing else is changed. -/
def renameOld (old : String) (v : Any) : Any := (v.update (fun a => some (renameEntries old a)) containersPath).getD v

section

variable {old : String} {v : Any}

theorem get_of_nameOf {container : Any} {s : String} (h : nameOf container = some s) :
    container.get ["name"] = some (.string s) := by
  unfold nameOf at h
  split at h
  · rename_i hget
    rw [hget, Option.some.inj h]
  · cases h

theorem renameEntry_eq_self (hold : old ≠ "spicedb") {container : Any} :
    renameEntry old container = container ↔ nameOf container ≠ some old := by
  unfold renameEntry
  by_cases hname : nameOf container = some old
  · have hget := get_of_nameOf hname
    have hne : Any.replace ["name"] (.string "spicedb") container ≠ some container := by
      rw [Ne, Any.replace_eq_self_iff hget]
      intro h
      exact hold (Any.string.inj h).symm
    have hsome : Any.replace ["name"] (.string "spicedb") container ≠ none := by
      rw [Any.replace, Ne, Any.update_eq_none, hget]
      exact Option.some_ne_none _
    obtain ⟨renamed, hrenamed⟩ := Option.ne_none_iff_exists'.1 hsome
    rw [hrenamed] at hne
    simpa [hname, hrenamed] using hne
  · simp [hname]

theorem map_renameEntry_eq_self (hold : old ≠ "spicedb") {xs : List Any} :
    xs.map (renameEntry old) = xs ↔ ∀ c ∈ xs, nameOf c ≠ some old := by
  have hid : xs.map (renameEntry old) = xs.map id ↔ ∀ c ∈ xs, renameEntry old c = id c := List.map_inj_left
  rw [List.map_id] at hid
  rw [hid]
  exact forall₂_congr fun c _ => renameEntry_eq_self hold

theorem renameEntries_eq_self (hold : old ≠ "spicedb") {a : Any} :
    renameEntries old a = a ↔ ∀ c ∈ elements a, nameOf c ≠ some old := by
  cases a with
  | array xs => rw [renameEntries, Any.array.injEq, elements, map_renameEntry_eq_self hold]
  | _ => exact iff_of_true rfl fun c hc => absurd hc List.not_mem_nil

theorem renameOld_of_get {a : Any} (h : v.get containersPath = some a) :
    v.update (fun a => some (renameEntries old a)) containersPath = some (renameOld old v) := by
  have hsome : v.update (fun a => some (renameEntries old a)) containersPath ≠ none := by
    rw [Ne, Any.update_eq_none, h]
    exact Option.some_ne_none _
  obtain ⟨v', hv'⟩ := Option.ne_none_iff_exists'.1 hsome
  rw [renameOld, hv', Option.getD_some]

theorem renameOld_eq_self (hold : old ≠ "spicedb") :
    renameOld old v = v ↔ ∀ c ∈ patchContainers v, nameOf c ≠ some old := by
  unfold patchContainers
  cases hget : v.get containersPath with
  | none =>
    have hnone : v.update (fun a => some (renameEntries old a)) containersPath = none := by
      rw [Any.update_eq_none, hget]
      rfl
    rw [renameOld, hnone]
    exact iff_of_true rfl fun c hc => absurd hc List.not_mem_nil
  | some a =>
    rw [← Option.some_inj, ← renameOld_of_get hget, Any.update_eq_self_iff hget, Option.some_inj]
    exact renameEntries_eq_self hold

/-- Renaming a container whatever its name does the same as renaming the old name. -/
theorem replace_name_eq_iff {c c' x : Any} (hx : c.get ["name"] = some x)
    (hreplace : Any.replace ["name"] (.string "spicedb") c = some c') :
    c' = renameEntry old c ↔ x = .string "spicedb" ∨ nameOf c = some old := by
  unfold renameEntry
  by_cases hname : nameOf c = some old
  · exact iff_of_true (by simp [hname, hreplace]) (Or.inr hname)
  · rw [if_neg hname, ← Option.some_inj, ← hreplace, Any.replace_eq_self_iff hx]
    simp [hname, eq_comm]

/-- Renaming the first element does the same as renaming the old names. -/
theorem replace_first_eq_iff (hold : old ≠ "spicedb") {a x : Any} (hx : a.get ["0", "name"] = some x) :
    Any.replace ["0", "name"] (.string "spicedb") a = some (renameEntries old a) ↔
      (x = .string "spicedb" ∨ (elements a).head?.bind nameOf = some old) ∧
        ∀ c ∈ (elements a).tail, nameOf c ≠ some old := by
  have hself : renameEntries old a = a → elements a = [] →
      (Any.replace ["0", "name"] (.string "spicedb") a = some (renameEntries old a) ↔
        (x = .string "spicedb" ∨ (elements a).head?.bind nameOf = some old) ∧
          ∀ c ∈ (elements a).tail, nameOf c ≠ some old) := by
    intro hkeep hnone
    rw [hkeep, Any.replace_eq_self_iff hx, hnone]
    simp [eq_comm]
  cases a with
  | array xs =>
    cases xs with
    | nil => cases hx
    | cons c cs =>
      have hname : c.get ["name"] = some x := hx
      have hfirst : Any.replace ["0", "name"] (.string "spicedb") (.array (c :: cs)) =
          (Any.replace ["name"] (.string "spicedb") c).map fun c' => .array (c' :: cs) := by
        change (updateElement (Any.replace ["name"] (.string "spicedb")) 0 (c :: cs)).map Any.array = _
        rw [updateElement, Option.map_map]
        rfl
      have hsome : Any.replace ["name"] (.string "spicedb") c ≠ none := by
        rw [Any.replace, Ne, Any.update_eq_none, hname]
        exact Option.some_ne_none _
      obtain ⟨c', hc'⟩ := Option.ne_none_iff_exists'.1 hsome
      rw [hfirst, hc', renameEntries, List.map_cons, Option.map_some, Option.some_inj, Any.array.injEq,
        List.cons.injEq, replace_name_eq_iff hname hc', eq_comm (a := cs), map_renameEntry_eq_self hold]
      rfl
  | _ => exact hself rfl rfl

/-- …and so for the whole document. -/
theorem replace_firstName_eq_iff (hold : old ≠ "spicedb") {x : Any} (hx : v.get firstNamePath = some x) :
    Any.replace firstNamePath (.string "spicedb") v = some (renameOld old v) ↔
      (x = .string "spicedb" ∨ (patchContainers v).head?.bind nameOf = some old) ∧
        ∀ c ∈ (patchContainers v).tail, nameOf c ≠ some old := by
  rw [firstNamePath, Any.get_append] at hx
  obtain ⟨a, ha, hx⟩ := Option.bind_eq_some_iff.1 hx
  have hcontainers : patchContainers v = elements a := by rw [patchContainers, ha, Option.map_some, Option.getD_some]
  rw [hcontainers, ← replace_first_eq_iff hold hx, ← renameOld_of_get ha, Any.replace, firstNamePath, Any.update_append,
    Any.update_eq_iff ha]
  rfl

end

/-! ## Texts and their meaning -/

/-- What documents mean, and what the libraries do to it: converting a document to JSON keeps its meaning, and
`renameContainer` replaces the value at its path, which has to be there. A text that is no document has no meaning. -/
structure Documents (lib : Libraries) where
  meaning : String → Option Any
  toJSON_some : ∀ text v, meaning text = some v → ∃ json, lib.toJSON text = .ok json ∧ meaning json = some v
  toJSON_none : ∀ text json, meaning text = none → lib.toJSON text = .ok json → meaning json = none
  rename_some : ∀ json v v', meaning json = some v → Any.replace firstNamePath (.string "spicedb") v = some v' →
    ∃ modified, lib.applyOperation renameContainer json = .ok modified ∧ meaning modified = some v'
  rename_missing : ∀ json v, meaning json = some v → Any.replace firstNamePath (.string "spicedb") v = none →
    ∃ err, lib.applyOperation renameContainer json = .error err
  rename_none : ∀ json, meaning json = none → ∃ err, lib.applyOperation renameContainer json = .error err

/-- A merge patch that can apply to the deployment. -/
def Patch.MergesDeployment (lib : Libraries) (p : Patch) : Prop :=
  (p.kind = "Deployment" ∨ p.kind = wildcard) ∧ ∃ op, lib.decodeOperation p.patch = .ok op ∧ op.kind = "unknown"

namespace Documents

variable {lib : Libraries} (docs : Documents lib) (name : String)

/-- `q` is `p` with the old container names replaced. -/
structure Renames (p q : Patch) : Prop where
  kind_eq : q.kind = p.kind
  merge : p.MergesDeployment lib → docs.meaning q.patch = (docs.meaning p.patch).map (renameOld (name ++ "-spicedb"))
  other : ¬ p.MergesDeployment lib → q = p

/-- If the old name occurs in the text and the first container has a name, that name is the old or the new one and no
other container has the old one. Otherwise no container has it. -/
def Fixable (p : Patch) : Prop :=
  p.MergesDeployment lib → ∀ v, docs.meaning p.patch = some v →
    if contains p.patch (name ++ "-spicedb") = true ∧ (v.get firstNamePath).isSome then
      (v.get firstNamePath = some (.string "spicedb") ∨
        (patchContainers v).head?.bind nameOf = some (name ++ "-spicedb")) ∧
      ∀ c ∈ (patchContainers v).tail, nameOf c ≠ some (name ++ "-spicedb")
    else ∀ c ∈ patchContainers v, nameOf c ≠ some (name ++ "-spicedb")

variable {docs name} {p : Patch}

theorem fixDeploymentPatch_of_not_merges (h : ¬ p.MergesDeployment lib) : fixDeploymentPatch lib name p = p := by
  unfold fixDeploymentPatch
  split_ifs with hkind hcontains
  · rfl
  · rfl
  · have hkind' : p.kind = "Deployment" ∨ p.kind = wildcard := by tauto
    cases hop : lib.decodeOperation p.patch with
    | error err => rfl
    | ok op =>
      have hknown : op.kind ≠ "unknown" := fun hop' => h ⟨hkind', op, hop, hop'⟩
      simp [hknown]

theorem old_ne (name : String) : name ++ "-spicedb" ≠ "spicedb" := by
  intro h
  have hlength := congrArg (fun s : String => s.toList.length) h
  simp at hlength

/-- The meaning of a fixed merge patch. -/
theorem meaning_fixDeploymentPatch (h : p.MergesDeployment lib) :
    docs.meaning (fixDeploymentPatch lib name p).patch =
      if contains p.patch (name ++ "-spicedb") = true then
        (docs.meaning p.patch).map fun v => (Any.replace firstNamePath (.string "spicedb") v).getD v
      else docs.meaning p.patch := by
  obtain ⟨hkind, op, hop, hunknown⟩ := h
  have hkind' : ¬ (p.kind ≠ "Deployment" ∧ p.kind ≠ wildcard) := by tauto
  simp only [fixDeploymentPatch, if_neg hkind', hop, hunknown, ne_eq, not_true_eq_false, if_false]
  cases hcontains : contains p.patch (name ++ "-spicedb") with
  | false => simp
  | true =>
    simp only [Bool.true_eq_false, if_false, if_true]
    cases hmeaning : docs.meaning p.patch with
    | none =>
      cases hjson : lib.toJSON p.patch with
      | error err => simp [hmeaning]
      | ok json =>
        obtain ⟨err, herr⟩ := docs.rename_none json (docs.toJSON_none _ _ hmeaning hjson)
        simp [herr, hmeaning]
    | some v =>
      obtain ⟨json, hjson, hsame⟩ := docs.toJSON_some _ _ hmeaning
      cases hreplace : Any.replace firstNamePath (.string "spicedb") v with
      | none =>
        obtain ⟨err, herr⟩ := docs.rename_missing json v hsame hreplace
        simp [hjson, herr, hmeaning, hreplace]
      | some v' =>
        obtain ⟨modified, hmodified, hv'⟩ := docs.rename_some json v v' hsame hreplace
        simp [hjson, hmodified, hv', hreplace]

/-- Two readings of one document: what the fix makes of it, and what it should be. -/
theorem fixed_eq_renamed_iff (v : Any) :
    ((Any.replace firstNamePath (.string "spicedb") v).getD v = renameOld (name ++ "-spicedb") v) ↔
      if (v.get firstNamePath).isSome then
        (v.get firstNamePath = some (.string "spicedb") ∨
          (patchContainers v).head?.bind nameOf = some (name ++ "-spicedb")) ∧
        ∀ c ∈ (patchContainers v).tail, nameOf c ≠ some (name ++ "-spicedb")
      else ∀ c ∈ patchContainers v, nameOf c ≠ some (name ++ "-spicedb") := by
  have hold := old_ne name
  cases hget : v.get firstNamePath with
  | none =>
    have hnone : Any.replace firstNamePath (.string "spicedb") v = none := by
      rw [Any.replace, Any.update_eq_none, hget]
      rfl
    rw [hnone, Option.getD_none, eq_comm, renameOld_eq_self hold]
    exact Iff.rfl
  | some x =>
    have hsome : Any.replace firstNamePath (.string "spicedb") v ≠ none := by
      rw [Any.replace, Ne, Any.update_eq_none, hget]
      exact Option.some_ne_none _
    obtain ⟨v', hv'⟩ := Option.ne_none_iff_exists'.1 hsome
    rw [hv', Option.getD_some, ← Option.some_inj, ← hv', replace_firstName_eq_iff hold hget]
    simp

theorem renames_iff_fixable : docs.Renames name p (fixDeploymentPatch lib name p) ↔ docs.Fixable name p := by
  by_cases hmerges : p.MergesDeployment lib
  swap
  · refine iff_of_true ⟨fixDeploymentPatch_kind lib name p, fun h => absurd h hmerges, fun _ => ?_⟩
      fun h => absurd h hmerges
    exact fixDeploymentPatch_of_not_merges hmerges
  have hequation : docs.Renames name p (fixDeploymentPatch lib name p) ↔
      docs.meaning (fixDeploymentPatch lib name p).patch =
        (docs.meaning p.patch).map (renameOld (name ++ "-spicedb")) :=
    ⟨fun h => h.merge hmerges, fun h => ⟨fixDeploymentPatch_kind lib name p, fun _ => h, fun hno => absurd hmerges hno⟩⟩
  rw [hequation, meaning_fixDeploymentPatch hmerges, Fixable]
  cases hmeaning : docs.meaning p.patch with
  | none => simp
  | some v =>
    have hone : ∀ P : Any → Prop, (p.MergesDeployment lib → ∀ w, some v = some w → P w) ↔ P v :=
      fun P => ⟨fun h => h hmerges v rfl, fun h _ w hw => Option.some.inj hw ▸ h⟩
    rw [hone]
    cases contains p.patch (name ++ "-spicedb") with
    | true =>
      simp only [if_true, Option.map_some, Option.some_inj, true_and]
      exact fixed_eq_renamed_iff v
    | false =>
      simp only [Bool.false_eq_true, if_false, false_and, Option.map_some, Option.some_inj]
      rw [eq_comm, renameOld_eq_self (old_ne name)]

/-- **Old container names are fixed**, and nothing else is changed, exactly for the patches that are `Fixable`. -/
theorem oldNames_fixed_iff (docs : Documents lib) (name : String) (patches : List Patch) :
    (fixDeploymentPatches lib name patches).length = patches.length ∧
      (List.Forall₂ (docs.Renames name) patches (fixDeploymentPatches lib name patches) ↔
        ∀ p ∈ patches, docs.Fixable name p) := by
  refine ⟨List.length_map _, ?_⟩
  rw [fixDeploymentPatches, List.forall₂_map_right_iff, List.forall₂_same]
  exact forall₂_congr fun p _ => renames_iff_fixable

end Documents

/-! ## The name in another place -/

/-- A merge patch for a deployment with the name `test-spicedb` and one container. -/
def mergeText (container : String) : String :=
  "\x7b\"metadata\":\x7b\"name\":\"test-spicedb\"\x7d,\"spec\":\x7b\"template\":\x7b\"spec\":\x7b\"containers\":[\x7b\"name\":\"" ++
    container ++ "\"\x7d]\x7d\x7d\x7d\x7d"

def mergeValue (container : String) : Any :=
  .object [("metadata", .object [("name", .string "test-spicedb")]),
    ("spec", .object [("template", .object [("spec", .object [("containers",
      .array [.object [("name", .string container)]])])])])]

/-- The container of one of three such texts. -/
def containerOf (text : String) : Option String :=
  ["test-spicedb", "sidecar", "spicedb"].find? fun container => mergeText container == text

def mergeLibraries : Libraries :=
  { plain with
    decodeOperation := fun text => .ok { kind := "unknown", text }
    applyOperation := fun _ json =>
      if (containerOf json).isSome then .ok (mergeText "spicedb") else .error "missing path" }

theorem replace_mergeValue (container : String) :
    Any.replace firstNamePath (.string "spicedb") (mergeValue container) = some (mergeValue "spicedb") := rfl

def mergeDocuments : Documents mergeLibraries where
  meaning text := (containerOf text).map mergeValue
  toJSON_some text _ h := ⟨text, rfl, h⟩
  toJSON_none := by
    rintro text json hnone ⟨⟩
    exact hnone
  rename_some := by
    rintro json v v' hv hv'
    obtain ⟨container, hcontainer, rfl⟩ := Option.map_eq_some_iff.1 hv
    obtain rfl := Option.some.inj ((replace_mergeValue container).symm.trans hv')
    have hrenamed : containerOf (mergeText "spicedb") = some "spicedb" := by decide
    exact ⟨mergeText "spicedb", by simp [mergeLibraries, hcontainer], by rw [hrenamed, Option.map_some]⟩
  rename_missing := by
    rintro json v hv hnone
    obtain ⟨container, -, rfl⟩ := Option.map_eq_some_iff.1 hv
    cases hnone
  rename_none := by
    intro json hnone
    have hunknown : containerOf json = none := Option.map_eq_none_iff.1 hnone
    exact ⟨"missing path", by simp [mergeLibraries, hunknown]⟩

def mergePatch (container : String) : Patch := { kind := "Deployment", patch := mergeText container }

theorem meaning_mergePatch {container : String} (h : containerOf (mergeText container) = some container) :
    mergeDocuments.meaning (mergePatch container).patch = some (mergeValue container) := by
  simp only [mergeDocuments, mergePatch, h, Option.map_some]

/-- The name of the deployment is in the patch, and the sidecar is renamed. -/
theorem sidecar_renamed :
    fixDeploymentPatches mergeLibraries "test" [mergePatch "sidecar"] = [mergePatch "spicedb"] ∧
      ¬ List.Forall₂ (mergeDocuments.Renames "test") [mergePatch "sidecar"]
        (fixDeploymentPatches mergeLibraries "test" [mergePatch "sidecar"]) := by
  refine ⟨by decide, fun hrenames => ?_⟩
  rw [fixDeploymentPatches, List.map_cons, List.forall₂_cons, Documents.renames_iff_fixable] at hrenames
  have hfirst := hrenames.1 ⟨Or.inl rfl, _, rfl, rfl⟩ _ (meaning_mergePatch (by decide))
  have hcontains : contains (mergePatch "sidecar").patch ("test" ++ "-spicedb") = true := by decide
  rw [if_pos ⟨hcontains, rfl⟩] at hfirst
  rcases hfirst.1 with hname | hname
  · exact absurd (Any.string.inj (Option.some.inj hname)) (by decide)
  · exact absurd (Option.some.inj hname) (by decide)

theorem oldName_renamed :
    List.Forall₂ (mergeDocuments.Renames "test") [mergePatch "test-spicedb"]
      (fixDeploymentPatches mergeLibraries "test" [mergePatch "test-spicedb"]) := by
  refine (Documents.oldNames_fixed_iff mergeDocuments "test" _).2.2 fun p hp => ?_
  obtain rfl := List.mem_singleton.1 hp
  intro _ v hv
  obtain rfl := Option.some.inj ((meaning_mergePatch (by decide)).symm.trans hv)
  have hcontains : contains (mergePatch "test-spicedb").patch ("test" ++ "-spicedb") = true := by decide
  rw [if_pos ⟨hcontains, rfl⟩]
  exact ⟨Or.inr rfl, fun c hc => absurd hc List.not_mem_nil⟩

end SpiceDBOperator
