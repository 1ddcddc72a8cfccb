import SpiceDBOperator.Config.Types

/-!
# User patches (`pkg/config/patch.go`, `fixDeploymentPatches` in config.go)

| here | there |
| --- | --- |
| `applyPatch`      | the body of the loop of `ApplyPatches` (patch.go:60-104) |
| `applyPatches`    | `ApplyPatches` (patch.go:29); its error is the list of its parts |
| `fixDeploymentPatches` | config.go:1103 |

`ApplyPatches` reads the kind and the API version back from the encoded object; here they are the object's own.
-/

namespace SpiceDBOperator

open Golang

def wildcard : String := "*"

variable (lib : Libraries)

/-- Apply patch number `i`: the patched document, or the error that makes the loop skip the patch. -/
def applyPatch (typeMeta : TypeMeta) (kind : String) (resolver : PatchMetaResolver) (i : Nat) (p : Patch)
    (encoded : String) : Go (Except String String) :=
  match lib.decodeOperation p.patch with
  | .error err => .ok (.error ("error decoding patch " ++ toString i ++ ": " ++ err))
  | .ok op =>
    -- no operation: a strategic merge patch
    if op.kind = "unknown" then
      match lib.toJSON p.patch with
      | .error err => .ok (.error ("error converting patch " ++ toString i ++ " to json: " ++ err))
      | .ok jsonPatch => do
        let apiVersion ← deref typeMeta.apiVersion
        match lib.parseGroupVersion apiVersion with
        | .error err => .ok (.error ("error applying patch " ++ toString i ++ ", to object: " ++ err))
        | .ok (group, version) =>
          match resolver { group, version, kind } with
          | .error err =>
            .ok (.error ("error applying patch " ++ toString i ++ ", couldn't resolve patch metadata: " ++ err))
          | .ok strategicMerge =>
            match strategicMerge encoded jsonPatch with
            | .error err => .ok (.error ("error applying patch " ++ toString i ++ ", to object: " ++ err))
            | .ok patched => .ok (.ok patched)
    else
      match lib.applyOperation op encoded with
      | .error err => .ok (.error ("error applying patch " ++ toString i ++ " to object: " ++ err))
      | .ok patched => .ok (.ok patched)

/-- Document, number of patches applied and errors so far. -/
structure Patching where
  encoded : String
  count : Nat := 0
  errs : List String := []

def applyPatchLoop (typeMeta : TypeMeta) (kind : String) (resolver : PatchMetaResolver) :
    Nat → List Patch → Patching → Go Patching
  | _, [], st => .ok st
  | i, p :: rest, st =>
    if p.kind = kind ∨ p.kind = wildcard then do
      match ← applyPatch lib typeMeta kind resolver i p st.encoded with
      | .ok encoded => applyPatchLoop typeMeta kind resolver (i + 1) rest { st with encoded, count := st.count + 1 }
      | .error err => applyPatchLoop typeMeta kind resolver (i + 1) rest { st with errs := st.errs ++ [err] }
    else applyPatchLoop typeMeta kind resolver (i + 1) rest st

structure Patched (K : Type) where
  out : K
  count : Nat := 0
  diff : Bool := false
  errs : List String := []

def applyPatches {K : Type} (codec : Codec K) (typeMeta : TypeMeta) (object out : K) (patches : List Patch)
    (resolver : PatchMetaResolver) : Go (Patched K) :=
  match codec.marshal object with
  | .error err => .ok { out, errs := ["error marshalling object to patch: " ++ err] }
  | .ok initial =>
    match typeMeta.kind with
    | none => .ok { out, errs := ["object doesn't specify kind: " ++ initial] }
    | some kind => do
      let st ← applyPatchLoop lib typeMeta kind resolver 0 patches { encoded := initial }
      let (out, err) := codec.unmarshal st.encoded out
      .ok { out
            count := st.count
            diff := decide (0 < st.count) && decide (st.encoded ≠ initial)
            errs := st.errs ++ (err.map ("error converting back to object: " ++ ·)).toList }

/-! ## Old container names -/

/-- The operation `fixDeploymentPatches` applies to a patch. -/
def renameContainer : Operation :=
  { kind := "replace"
    text := "[\n\t\t\t\x7b\"op\": \"replace\", \"path\": \"/spec/template/spec/containers/0/name\", \"value\": \"spicedb\"\x7d\n\t\t]" }

def fixDeploymentPatch (name : String) (p : Patch) : Patch :=
  if p.kind ≠ "Deployment" ∧ p.kind ≠ wildcard then p
  else if contains p.patch (name ++ "-spicedb") = false then p
  else
    match lib.decodeOperation p.patch with
    | .error _ => p
    | .ok op =>
      if op.kind ≠ "unknown" then p
      else
        match lib.toJSON p.patch with
        | .error _ => p
        | .ok smpPatch =>
          match lib.applyOperation renameContainer smpPatch with
          | .error _ => p
          | .ok modified => { p with patch := modified }

theorem fixDeploymentPatch_kind (name : String) (p : Patch) : (fixDeploymentPatch lib name p).kind = p.kind := by
  unfold fixDeploymentPatch
  repeat' split
  all_goals rfl

def fixDeploymentPatches (name : String) (patches : List Patch) : List Patch :=
  patches.map (fixDeploymentPatch lib name)

end SpiceDBOperator
