import SpiceDBOperator.Config.Types
import SpiceDBOperator.OnceCache

/-!
# Patch metadata from the API server (`pkg/config/patchmeta.go`)

A strategic merge patch needs the schema of the object it is for. `V3PatchMetaResolver` fetches the schemas of one
group-version at a time, indexes them by the kinds they describe, and keeps them; reconciles of many clusters use it at
the same time. The rest of the model takes a resolver to be a function (`PatchMetaResolver`). Whatever the interleaving,
that is what it is (`resolver_is_a_function`), and a slow group-version holds up nobody who asks for another
(`slow_group_version_blocks_no_other`).

| here | there |
| --- | --- |
| `GVSpec`          | what `openapi3.Root.GVSpec` returns |
| `Schema`          | `spec.Schema`: its extensions, and the rest as text |
| `decodeStringMap`, `decodeStringMaps` | `encoding/json` into a `map[string]string` and a slice of them |
| `GetObject`       | `spec.Extensions.GetObject` of kube-openapi, a parameter with its laws |
| `load`            | `groupVersionSchemas.load` (patchmeta.go:92) |
| `LookupState`     | the resolver, its entries and the goroutines that look something up (`groupVersion`, patchmeta.go:62) |
| `lookupPatchMeta` | `LookupPatchMeta` (patchmeta.go:50), from the entry on |
-/

namespace SpiceDBOperator

open Golang

structure GroupVersion where
  group : String
  version : String
deriving DecidableEq, Repr

/-- `GroupVersion.String`. -/
def GroupVersion.text (gv : GroupVersion) : String :=
  if gv.group ≠ "" then gv.group ++ "/" ++ gv.version else gv.version

/-- `GroupVersionKind.String`. -/
def GroupVersionKind.text (gvk : GroupVersionKind) : String :=
  gvk.group ++ "/" ++ gvk.version ++ ", Kind=" ++ gvk.kind

def GroupVersionKind.groupVersion (gvk : GroupVersionKind) : GroupVersion :=
  { group := gvk.group, version := gvk.version }

structure Schema where
  extensions : GoMap Any := ∅
  body : String := ""

/-- `none` is a nil pointer. -/
structure OpenAPI where
  components : Option (GoMap Schema) := none

abbrev GVSpec := Except String (Option OpenAPI)

/-! ## Kinds of a schema -/

def groupVersionKindExtensionKey : String := "x-kubernetes-group-version-kind"

/-- A string, or null for the empty one. -/
def decodeString : Any → Option String
  | .string s => some s
  | .null => some ""
  | _ => none

def decodeStringMap : Any → Option (GoMap String)
  | .null => some ∅
  | .object fields => (fields.mapM fun field => (decodeString field.2).map fun s => (field.1, s)).map mapOf
  | _ => none

def decodeStringMaps : Any → Option (List (GoMap String))
  | .null => some []
  | .array xs => xs.mapM decodeStringMap
  | _ => none

/-- Decode an extension into a slice of maps or into a map; `none` is an error. A key that is not there is no error and
leaves the zero value. -/
structure GetObject where
  list : GoMap Any → String → Option (List (GoMap String))
  single : GoMap Any → String → Option (GoMap String)
  list_absent : ∀ ext key, ext.lookup key = none → list ext key = some []
  list_present : ∀ ext key v, ext.lookup key = some v → list ext key = decodeStringMaps v
  single_absent : ∀ ext key, ext.lookup key = none → single ext key = some ∅
  single_present : ∀ ext key v, ext.lookup key = some v → single ext key = decodeStringMap v

def plainGetObject : GetObject where
  list ext key := (ext.lookup key).elim (some []) decodeStringMaps
  single ext key := (ext.lookup key).elim (some ∅) decodeStringMap
  list_absent _ _ h := by rw [h]; rfl
  list_present _ _ _ h := by rw [h]; rfl
  single_absent _ _ h := by rw [h]; rfl
  single_present _ _ _ h := by rw [h]; rfl

variable (getObject : GetObject)

def gvksFromMaps (maps : List (GoMap String)) : List GroupVersionKind :=
  maps.filterMap fun m =>
    let field (key : String) := (m.lookup key).getD ""
    if field "kind" = "" then none
    else some { group := field "group", version := field "version", kind := field "kind" }

/-- A list, or a single object. -/
def describedGVKs (ext : GoMap Any) : List GroupVersionKind :=
  match getObject.list ext groupVersionKindExtensionKey with
  | some list => gvksFromMaps list
  | none =>
    match getObject.single ext groupVersionKindExtensionKey with
    | some single => gvksFromMaps [single]
    | none => []

/-- The fields of an object are those of this kind; absent ones are empty. -/
def NamesKind (m : GoMap String) (gvk : GroupVersionKind) : Prop :=
  gvk.kind ≠ "" ∧ (m.lookup "group").getD "" = gvk.group ∧ (m.lookup "version").getD "" = gvk.version ∧
    (m.lookup "kind").getD "" = gvk.kind

/-- The extension is an object that names the kind, or a list with one. -/
def Describes (v : Any) (gvk : GroupVersionKind) : Prop :=
  ∃ m, NamesKind m gvk ∧ (decodeStringMap v = some m ∨ ∃ maps, decodeStringMaps v = some maps ∧ m ∈ maps)

/-! ## One group-version -/

structure GroupVersionSchemas where
  byGVK : AList fun _ : GroupVersionKind => Schema := ∅
  all : GoMap Schema := ∅
  err : Option String := none

/-- The two loops of `load`: a kind that is described again is overwritten. -/
def indexByGVK (schemas : List Schema) : AList fun _ : GroupVersionKind => Schema :=
  schemas.foldl
    (fun byGVK s => (describedGVKs getObject s.extensions).foldl (fun byGVK gvk => byGVK.insert gvk s) byGVK)
    ∅

def GroupVersionSchemas.load (gv : GroupVersion) : GVSpec → GroupVersionSchemas
  | .error err => { err := some ("couldn't fetch OpenAPI v3 schema for " ++ gv.text ++ ": " ++ err) }
  | .ok (some { components := some schemas }) =>
    { all := schemas, byGVK := indexByGVK getObject (schemas.entries.map Sigma.snd) }
  | .ok _ => { err := some ("OpenAPI v3 schema for " ++ gv.text ++ " has no components") }

def GroupVersionSchemas.lookupPatchMeta (patchMetaFromOpenAPIV3 : Schema → GoMap Schema → LookupPatchMeta)
    (gvs : GroupVersionSchemas) : PatchMetaResolver := fun gvk =>
  match gvs.err with
  | some err => .error err
  | none =>
    match gvs.byGVK.lookup gvk with
    | some s => .ok (patchMetaFromOpenAPIV3 s gvs.all)
    | none => .error ("no OpenAPI v3 schema describes " ++ gvk.text)

theorem mem_gvksFromMaps (maps : List (GoMap String)) (gvk : GroupVersionKind) :
    gvk ∈ gvksFromMaps maps ↔ ∃ m ∈ maps, NamesKind m gvk := by
  simp only [gvksFromMaps, List.mem_filterMap]
  refine exists_congr fun m => and_congr_right fun _ => ?_
  constructor
  · intro h
    split at h
    · cases h
    · rename_i hkind
      cases h
      exact ⟨hkind, rfl, rfl, rfl⟩
  · rintro ⟨hkind, hgroup, hversion, hname⟩
    rw [if_neg (hname ▸ hkind), hgroup, hversion, hname]

theorem not_namesKind_empty (gvk : GroupVersionKind) : ¬ NamesKind ∅ gvk := by
  rintro ⟨hkind, -, -, hname⟩
  exact hkind (by simpa using hname.symm)

theorem mem_describedGVKs (ext : GoMap Any) (gvk : GroupVersionKind) :
    gvk ∈ describedGVKs getObject ext ↔ ∃ v, ext.lookup groupVersionKindExtensionKey = some v ∧ Describes v gvk := by
  unfold describedGVKs
  cases hv : ext.lookup groupVersionKindExtensionKey with
  | none => simp [getObject.list_absent ext _ hv, gvksFromMaps]
  | some v =>
    rw [getObject.list_present ext _ v hv, getObject.single_present ext _ v hv]
    simp only [Option.some.injEq, exists_eq_left']
    unfold Describes
    cases hlist : decodeStringMaps v with
    | some maps =>
      have hsingle : ∀ m, decodeStringMap v = some m → m = ∅ := by
        -- a list is not an object, and null is an empty one
        intro m hm
        cases v <;> simp_all [decodeStringMaps, decodeStringMap]
      rw [mem_gvksFromMaps]
      constructor
      · rintro ⟨m, hm, hnames⟩
        exact ⟨m, hnames, Or.inr ⟨maps, rfl, hm⟩⟩
      · rintro ⟨m, hnames, hobject | ⟨maps', hmaps', hm⟩⟩
        · exact absurd (hsingle m hobject ▸ hnames) (not_namesKind_empty gvk)
        · cases hmaps'
          exact ⟨m, hm, hnames⟩
    | none =>
      cases hobject : decodeStringMap v with
      | none => simp
      | some m => simp [mem_gvksFromMaps]

/-! The index. -/

/-- The pairs the two loops of `load` visit, in this order. -/
def described (schemas : List Schema) : List (GroupVersionKind × Schema) :=
  schemas.flatMap fun s => (describedGVKs getObject s.extensions).map fun gvk => (gvk, s)

theorem indexByGVK_eq (schemas : List Schema) :
    indexByGVK getObject schemas = (described getObject schemas).foldl (fun byGVK e => byGVK.insert e.1 e.2) ∅ := by
  rw [indexByGVK, described, List.foldl_flatMap]
  simp only [List.foldl_map]

theorem foldl_insert_mem {l : List (GroupVersionKind × Schema)} {m : AList fun _ : GroupVersionKind => Schema}
    {gvk : GroupVersionKind} (h : gvk ∈ m ∨ ∃ s, (gvk, s) ∈ l) :
    gvk ∈ l.foldl (fun byGVK e => byGVK.insert e.1 e.2) m := by
  induction l generalizing m with
  | nil => simpa using h
  | cons e rest ih =>
    refine ih ?_
    rcases h with hm | ⟨s, hs⟩
    · exact Or.inl ((AList.mem_insert _).2 (Or.inr hm))
    · rcases List.mem_cons.1 hs with rfl | hrest
      · exact Or.inl ((AList.mem_insert _).2 (Or.inl rfl))
      · exact Or.inr ⟨s, hrest⟩

theorem mem_described (schemas : GoMap Schema) (gvk : GroupVersionKind) (s : Schema) :
    (gvk, s) ∈ described getObject (schemas.entries.map Sigma.snd) ↔
    ∃ name v, schemas.lookup name = some s ∧ s.extensions.lookup groupVersionKindExtensionKey = some v ∧
      Describes v gvk := by
  simp only [described, List.mem_flatMap, List.mem_map, Prod.mk.injEq]
  constructor
  · rintro ⟨s', ⟨⟨name, s''⟩, hentry, rfl⟩, gvk', hgvk, rfl, rfl⟩
    obtain ⟨v, hv, hdescribes⟩ := (mem_describedGVKs _ _ _).1 hgvk
    exact ⟨name, v, AList.mem_lookup_iff.2 hentry, hv, hdescribes⟩
  · rintro ⟨name, v, hname, hv, hdescribes⟩
    exact ⟨s, ⟨⟨name, s⟩, AList.mem_lookup_iff.1 hname, rfl⟩, gvk, (mem_describedGVKs _ _ _).2 ⟨v, hv, hdescribes⟩, rfl,
      rfl⟩

/-- **The index is exact.** Of a fetched document, a lookup finds a schema for a kind exactly if one of its schemas
carries an extension that describes the kind, as a list or as a single object, and then it is such a schema, with all
the document's schemas beside it. Otherwise the error names the kind. -/
theorem lookup_finds_described_kinds (patchMetaFromOpenAPIV3 : Schema → GoMap Schema → LookupPatchMeta)
    (gv : GroupVersion) (schemas : GoMap Schema) (gvk : GroupVersionKind) :
    let found := (GroupVersionSchemas.load getObject gv (.ok (some { components := some schemas }))).lookupPatchMeta
      patchMetaFromOpenAPIV3 gvk
    let describes (s : Schema) := ∃ name v, schemas.lookup name = some s ∧
      s.extensions.lookup groupVersionKindExtensionKey = some v ∧ Describes v gvk
    (∃ s, describes s ∧ found = .ok (patchMetaFromOpenAPIV3 s schemas)) ∨
    ((∀ s, ¬ describes s) ∧ found = .error ("no OpenAPI v3 schema describes " ++ gvk.text)) := by
  intro found describes
  have hfound : found = match (indexByGVK getObject (schemas.entries.map Sigma.snd)).lookup gvk with
    | some s => .ok (patchMetaFromOpenAPIV3 s schemas)
    | none => .error ("no OpenAPI v3 schema describes " ++ gvk.text) := rfl
  rw [hfound, indexByGVK_eq]
  cases hlookup : ((described getObject (schemas.entries.map Sigma.snd)).foldl
      (fun byGVK e => byGVK.insert e.1 e.2) (∅ : AList fun _ : GroupVersionKind => Schema)).lookup gvk with
  | some s =>
    refine Or.inl ⟨s, ?_, rfl⟩
    rcases foldl_insert_some hlookup with hmem | hempty
    · exact (mem_described _ _ _ _).1 hmem
    · simp at hempty
  | none =>
    refine Or.inr ⟨fun s hdescribes => ?_, rfl⟩
    have hmem := foldl_insert_mem (m := ∅) (Or.inr ⟨s, (mem_described getObject _ _ _).2 hdescribes⟩)
    rw [← AList.lookup_isSome, hlookup] at hmem
    cases hmem

/-! ## The resolver -/

/-- Goroutines are numbered. -/
abbrev LookupState := OnceCache.State Nat GroupVersion GVSpec GroupVersionSchemas

abbrev LookupTurn := Nat × OnceCache.Input GroupVersion GVSpec

/-- `NewV3PatchMetaResolver`, and then any goroutines in any order. -/
def lookups (schedule : List LookupTurn) : LookupState :=
  OnceCache.run (GroupVersionSchemas.load getObject) {} schedule

/-- A call of `LookupPatchMeta` for this kind has returned `result`. An entry that was not loaded yet would be the
zero one. -/
def LookupReturned (patchMetaFromOpenAPIV3 : Schema → GoMap Schema → LookupPatchMeta) (s : LookupState)
    (gvk : GroupVersionKind) (result : Except String LookupPatchMeta) : Prop :=
  ∃ gvs, (gvk.groupVersion, gvs) ∈ s.returns ∧
    result = (gvs.getD {}).lookupPatchMeta patchMetaFromOpenAPIV3 gvk

theorem lookups_inv (schedule : List LookupTurn) :
    OnceCache.Inv (GroupVersionSchemas.load getObject) (lookups getObject schedule) :=
  OnceCache.run_inv _ schedule (OnceCache.Inv.initial _)

/-- **A resolver is a function.** However the lookups of any number of goroutines interleave, every group-version is
fetched at most once, and there is one function of the kind that all of them have returned. What it says of a kind is
what the one answer for its group-version says, so a failed fetch is never tried again. -/
theorem resolver_is_a_function (patchMetaFromOpenAPIV3 : Schema → GoMap Schema → LookupPatchMeta)
    (schedule : List LookupTurn) :
    (∀ gv, ((lookups getObject schedule).answers gv).length ≤ 1) ∧
    ∃ resolver : PatchMetaResolver, ∀ gvk result,
      LookupReturned patchMetaFromOpenAPIV3 (lookups getObject schedule) gvk result → result = resolver gvk ∧
      ∃ answer, (lookups getObject schedule).answers gvk.groupVersion = [answer] ∧
        result = (GroupVersionSchemas.load getObject gvk.groupVersion answer).lookupPatchMeta patchMetaFromOpenAPIV3
          gvk := by
  have hinv := lookups_inv getObject schedule
  let resolver : PatchMetaResolver := fun gvk =>
    match (lookups getObject schedule).answers gvk.groupVersion with
    | [] => .error ""
    | answer :: _ =>
        (GroupVersionSchemas.load getObject gvk.groupVersion answer).lookupPatchMeta patchMetaFromOpenAPIV3 gvk
  refine ⟨fun gv => ?_, resolver, fun gvk result hreturned => ?_⟩
  · rcases hinv.asked_once gv with hnone | ⟨answer, hone⟩
    · simp [hnone]
    · simp [hone]
  · obtain ⟨gvs, hmem, rfl⟩ := hreturned
    obtain ⟨answer, hone, rfl⟩ := hinv.returned _ _ hmem
    refine ⟨?_, answer, hone, rfl⟩
    simp only [resolver, hone]
    rfl

/-- Both goroutines come to the entry before it is loaded. -/
def raced : List LookupTurn :=
  let apps : GroupVersion := { group := "apps", version := "v1" }
  [(0, .lookup apps), (1, .lookup apps), (0, .go), (1, .go), (0, .go), (0, .go), (1, .go), (0, .go), (1, .go), (1, .go),
   (1, .go), (0, .answer (.error "timeout")), (1, .go), (0, .go), (1, .go), (1, .go), (0, .go)]

example : (lookups plainGetObject raced).returns.length = 2 ∧
    (lookups plainGetObject raced).asked.length = 1 := by decide

/-- **A slow group-version blocks no other.** A goroutine in the middle of a lookup can go on, or waits for the answer
it asked for, or for the mutex, whose holder can go on at once and is not in a fetch, or for a goroutine that loads the
same group-version and can itself go on or waits for the answer. -/
theorem slow_group_version_blocks_no_other (schedule : List LookupTurn) (t : Nat)
    (hbusy : (lookups getObject schedule).pc t ≠ .idle) :
    OnceCache.Ready (GroupVersionSchemas.load getObject) (lookups getObject schedule) t ∨
    (∃ gv u, (lookups getObject schedule).pc t = .locking gv ∧ (lookups getObject schedule).mutex = some u ∧
      (∀ gv', ¬ OnceCache.Loads (lookups getObject schedule) u gv') ∧
      (OnceCache.step (GroupVersionSchemas.load getObject) (lookups getObject schedule) u .go).isSome) ∨
    ∃ gv a u, (lookups getObject schedule).pc t = .entering gv a ∧ OnceCache.Loads (lookups getObject schedule) u gv ∧
      OnceCache.Ready (GroupVersionSchemas.load getObject) (lookups getObject schedule) u := by
  have hinv := lookups_inv getObject schedule
  rcases hinv.waits_for t hbusy with hready | ⟨gv, u, hpc, hmutex, hgo⟩ | hload
  · exact Or.inl hready
  · refine Or.inr (Or.inl ⟨gv, u, hpc, hmutex, ?_, hgo⟩)
    rintro gv' ⟨a, hu⟩
    rcases hinv.holder u hmutex with ⟨k, hholds⟩ | ⟨k, b, hholds⟩ <;> rw [hholds] at hu <;> simp at hu
  · exact Or.inr (Or.inr hload)

/-- One goroutine fetches `apps/v1`, the next waits for it, and the third has its answer for `policy/v1`. -/
def slowApps : List LookupTurn :=
  let apps : GroupVersion := { group := "apps", version := "v1" }
  let policy : GroupVersion := { group := "policy", version := "v1" }
  [(0, .lookup apps), (0, .go), (0, .go), (0, .go), (0, .go), (1, .lookup apps), (1, .go), (1, .go), (1, .go),
   (2, .lookup policy), (2, .go), (2, .go), (2, .go), (2, .go), (2, .answer (.ok none)), (2, .go), (2, .go)]

theorem slowApps_blocks_one :
    (lookups plainGetObject slowApps).returns.length = 1 ∧
    ∃ gv a u, (lookups plainGetObject slowApps).pc 1 = .entering gv a ∧
      OnceCache.Loads (lookups plainGetObject slowApps) u gv ∧
      OnceCache.Ready (GroupVersionSchemas.load plainGetObject) (lookups plainGetObject slowApps) u := by
  have hpc : (lookups plainGetObject slowApps).pc 1 = .entering { group := "apps", version := "v1" } 0 := by rfl
  refine ⟨by rfl, ?_⟩
  have hbusy : (lookups plainGetObject slowApps).pc 1 ≠ .idle := by rw [hpc]; nofun
  rcases slow_group_version_blocks_no_other plainGetObject slowApps 1 hbusy with hready | ⟨gv, u, hlocking, -⟩ | h
  · rcases hready with hgo | ⟨⟨gv, a, hloading⟩, -⟩
    · exact absurd hgo (by decide)
    · rw [hpc] at hloading
      cases hloading
  · rw [hpc] at hlocking
    cases hlocking
  · exact h

end SpiceDBOperator
