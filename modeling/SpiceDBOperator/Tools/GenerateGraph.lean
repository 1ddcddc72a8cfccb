import Mathlib.Data.List.Lex
import Mathlib.Data.List.Sort
import Mathlib.Data.Prod.Lex
import Mathlib.Data.String.Basic
import Mathlib.Data.Sum.Order
import Mathlib.Order.WithBot
import SpiceDBOperator.Updates.Accept
import SpiceDBOperator.Updates.Graph

/-!
# The graph generator (`tools/generate-update-graph/main.go`)

The generator lists releases and writes, for each of them, a version range; the edges of a release are the releases in
its range, from the oldest to the newest. `NewMemorySource` does not check that order, and everything that reads a
channel relies on it. Here is what the generated edges are, for any releases and ranges, and that the channel of
`memoryChannel` is accepted (`generated_edges_exact`).

| here | there |
| --- | --- |
| `Semver`            | `github.com/blang/semver`, by what is assumed of it |
| `matching`          | the loop over the releases (main.go:556-564); the comparator of the sort parses the same ids again |
| `edgesFromPatterns` | `edgesFromPatterns` (main.go:552) |
| `memoryPatterns`, `memoryChannel` | the loop and the channel of `memoryChannel` (main.go:537-549), for any releases |
-/

namespace SpiceDBOperator

open Golang

/-- `Version` is what versions are compared by; build metadata does not count. -/
structure Semver where
  Version : Type
  order : LinearOrder Version
  parse : String → Except String Version
  parseRange : String → Except String (Version → Bool)
  /-- Without build metadata a version has one text. -/
  parse_injective : ∀ s t v, '+' ∉ s.toList → '+' ∉ t.toList → parse s = .ok v → parse t = .ok v → s = t
  /-- A range `>v` holds what is newer than `v`. -/
  range_newer : ∀ s v, parse s = .ok v → parseRange (">" ++ s) = .ok fun w => decide (v < w)

instance (semver : Semver) : LinearOrder semver.Version := semver.order

section

variable (semver : Semver)

def mustParse (s : String) : Go semver.Version :=
  match semver.parse s with
  | .ok v => .ok v
  | .error err => .error (.panicked ("semver: Parse(" ++ s ++ "): " ++ err))

def mustParseRange (s : String) : Go (semver.Version → Bool) :=
  match semver.parseRange s with
  | .ok r => .ok r
  | .error err => .error (.panicked ("semver: ParseRange(" ++ s ++ "): " ++ err))

/-- The ids of the releases in the range, with their versions. -/
def matching (toRange : semver.Version → Bool) : List State → Go (List (semver.Version × String))
  | [] => .ok []
  | release :: rest =>
    if release.deprecated then matching toRange rest
    else do
      let v ← mustParse semver (trimPrefix release.id "v")
      let found ← matching toRange rest
      .ok (if toRange v then (v, release.id) :: found else found)

/-- `sort.Slice` by version. -/
def sortedIDs (found : List (semver.Version × String)) : List String :=
  (found.insertionSort fun a b => a.1 ≤ b.1).map Prod.snd

/-- The adjacency list of one pattern. -/
def edgesFromPattern (pattern : String) (releases : List State) : Go (List String) := do
  let toRange ← mustParseRange semver pattern
  let found ← matching semver toRange releases
  .ok (sortedIDs semver found)

/-- An entry is made by the first release that is appended to it, so there are no empty ones. -/
def edgesFromPatterns (patterns : GoMap String) (releases : List State) : Go EdgeSet := do
  let edges ← patterns.entries.mapM fun e => do
    let toSet ← edgesFromPattern semver e.2 releases
    .ok (e.1, toSet)
  .ok (mapCollect (fun _ toSet => if toSet = [] then none else some toSet) (mapOf edges))

def memoryPatterns (releases : List State) : GoMap String :=
  releases.foldl (fun patterns release => patterns.insert release.id (">" ++ trimPrefix release.id "v")) ∅

def memoryChannel (releases : List State) : Go Channel := do
  let edges ← edgesFromPatterns semver (memoryPatterns releases) releases
  .ok { name := "stable", metadata := some (mapOf [("datastore", "memory"), ("default", "true")])
        edges, nodes := releases }

end

/-! ## Versions -/

section

variable {semver : Semver}

/-- The version an id stands for. -/
def versionOf (semver : Semver) (id : String) : Except String semver.Version := semver.parse (trimPrefix id "v")

def Older (semver : Semver) (a b : String) : Prop :=
  ∃ v w, versionOf semver a = .ok v ∧ versionOf semver b = .ok w ∧ v < w

theorem Older.trans {a b c : String} (h : Older semver a b) (h' : Older semver b c) : Older semver a c := by
  obtain ⟨v, w, hv, hw, hlt⟩ := h
  obtain ⟨w', x, hw', hx, hlt'⟩ := h'
  cases hw.symm.trans hw'
  exact ⟨v, x, hv, hx, hlt.trans hlt'⟩

theorem Older.ne {a b : String} (h : Older semver a b) : a ≠ b := by
  rintro rfl
  obtain ⟨v, w, hv, hw, hlt⟩ := h
  cases hv.symm.trans hw
  exact lt_irrefl v hlt

/-- The ids are distinct semantic versions behind a `v`, without build metadata. -/
structure Versioned (semver : Semver) (releases : List State) : Prop where
  versions : ∀ r ∈ releases, ∃ s v, r.id = "v" ++ s ∧ '+' ∉ s.toList ∧ semver.parse s = .ok v
  distinct : (releases.map State.id).Nodup

/-- A release that can be updated to, in the range. -/
def Matches (semver : Semver) (toRange : semver.Version → Bool) (r : State) : Prop :=
  r.deprecated = false ∧ ∃ v, versionOf semver r.id = .ok v ∧ toRange v = true

variable {releases : List State}

theorem Versioned.versionOf_ok (h : Versioned semver releases) {r : State} (hr : r ∈ releases) :
    ∃ v, versionOf semver r.id = .ok v := by
  obtain ⟨s, v, hid, -, hparse⟩ := h.versions r hr
  exact ⟨v, by rw [versionOf, hid, trimPrefix_append, hparse]⟩

/-- Releases of one version are one release. -/
theorem Versioned.id_eq (h : Versioned semver releases) {r r' : State} (hr : r ∈ releases) (hr' : r' ∈ releases)
    {v : semver.Version} (hv : versionOf semver r.id = .ok v)
    (hv' : versionOf semver r'.id = .ok v) : r.id = r'.id := by
  obtain ⟨s, w, hid, hplus, -⟩ := h.versions r hr
  obtain ⟨s', w', hid', hplus', -⟩ := h.versions r' hr'
  rw [versionOf, hid, trimPrefix_append] at hv
  rw [versionOf, hid', trimPrefix_append] at hv'
  rw [hid, hid', semver.parse_injective s s' v hplus hplus' hv hv']

end

/-! ## One adjacency list -/

section

variable {semver : Semver} {toRange : semver.Version → Bool} {releases : List State}

theorem matching_ok (toRange : semver.Version → Bool) (h : ∀ r ∈ releases, ∃ v, versionOf semver r.id = .ok v) :
    ∃ found, matching semver toRange releases = .ok found ∧
      (found.map Prod.snd).Sublist (releases.map State.id) ∧
      ∀ v id, (v, id) ∈ found ↔
        ∃ r ∈ releases, r.deprecated = false ∧ versionOf semver r.id = .ok v ∧ toRange v = true ∧ r.id = id := by
  induction releases with
  | nil => exact ⟨[], rfl, List.Sublist.refl _, by simp⟩
  | cons r rest ih =>
    obtain ⟨found, hfound, hsub, hmem⟩ := ih fun r hr => h r (List.mem_cons_of_mem _ hr)
    obtain ⟨w, hw⟩ := h r (List.mem_cons_self ..)
    have hparse : mustParse semver (trimPrefix r.id "v") = .ok w := by
      rw [mustParse, ← versionOf, hw]
    rw [matching]
    by_cases hdeprecated : r.deprecated = true
    · rw [if_pos hdeprecated]
      exact ⟨found, hfound, hsub.cons _, by simp [hmem, hdeprecated]⟩
    · rw [if_neg hdeprecated, hparse, hfound]
      by_cases hrange : toRange w = true
      · refine ⟨(w, r.id) :: found, by simp [bind, Except.bind, hrange], hsub.cons_cons _, fun v id => ?_⟩
        simp only [List.mem_cons, Prod.mk.injEq, hmem, exists_eq_or_imp]
        refine or_congr_left ⟨?_, ?_⟩
        · rintro ⟨rfl, rfl⟩
          exact ⟨by simpa using hdeprecated, hw, hrange, rfl⟩
        · rintro ⟨-, hv, -, rfl⟩
          cases hw.symm.trans hv
          exact ⟨rfl, rfl⟩
      · refine ⟨found, by simp [bind, Except.bind, hrange], hsub.cons _, fun v id => ?_⟩
        simp only [List.mem_cons, hmem, exists_eq_or_imp]
        refine (or_iff_right ?_).symm
        rintro ⟨-, hv, hin, -⟩
        cases hw.symm.trans hv
        exact hrange hin

/-- The list of a range: the releases in it, from the oldest to the newest. -/
structure ExactList (semver : Semver) (toRange : semver.Version → Bool) (releases : List State) (toSet : List String) :
    Prop where
  exact : ∀ id, id ∈ toSet ↔ ∃ r ∈ releases, Matches semver toRange r ∧ r.id = id
  nodup : toSet.Nodup
  ordered : toSet.Pairwise (Older semver)

theorem sortedIDs_exact (h : Versioned semver releases) {found : List (semver.Version × String)}
    (hfound : matching semver toRange releases = .ok found) :
    ExactList semver toRange releases (sortedIDs semver found) := by
  obtain ⟨found', hok, hsub, hmem⟩ := matching_ok toRange fun r hr => h.versionOf_ok hr
  cases hfound.symm.trans hok
  set sorted := found.insertionSort fun a b => a.1 ≤ b.1 with hsorted
  have hperm : sorted.Perm found := List.perm_insertionSort _ _
  have hids : (sorted.map Prod.snd).Nodup := (hperm.map _).nodup_iff.2 (hsub.nodup h.distinct)
  have hle : sorted.Pairwise fun a b => a.1 ≤ b.1 :=
    have : Std.Total fun a b : semver.Version × String => a.1 ≤ b.1 := ⟨fun a b => le_total a.1 b.1⟩
    have : IsTrans (semver.Version × String) fun a b => a.1 ≤ b.1 := ⟨fun _ _ _ => le_trans⟩
    List.pairwise_insertionSort _ _
  have hversion : ∀ p ∈ sorted, ∃ r ∈ releases, versionOf semver r.id = .ok p.1 ∧ r.id = p.2 := by
    rintro ⟨v, id⟩ hp
    obtain ⟨r, hr, -, hv, -, hid⟩ := (hmem v id).1 (hperm.mem_iff.1 hp)
    exact ⟨r, hr, hv, hid⟩
  refine ⟨fun id => ?_, hids, ?_⟩
  · rw [sortedIDs, ← hsorted]
    constructor
    · intro hid
      obtain ⟨⟨v, id⟩, hp, rfl⟩ := List.mem_map.1 hid
      obtain ⟨r, hr, hdeprecated, hv, hin, hid⟩ := (hmem v id).1 (hperm.mem_iff.1 hp)
      exact ⟨r, hr, ⟨hdeprecated, v, hv, hin⟩, hid⟩
    · rintro ⟨r, hr, ⟨hdeprecated, v, hv, hin⟩, hid⟩
      exact List.mem_map.2 ⟨(v, id), hperm.mem_iff.2 ((hmem v id).2 ⟨r, hr, hdeprecated, hv, hin, hid⟩), rfl⟩
  · -- two ids in the list have different versions
    refine List.pairwise_map.2 ((hle.and (List.pairwise_map.1 hids)).imp_of_mem fun {a b} ha hb hab => ?_)
    obtain ⟨r, hr, hv, hid⟩ := hversion a ha
    obtain ⟨r', hr', hv', hid'⟩ := hversion b hb
    refine ⟨a.1, b.1, hid ▸ hv, hid' ▸ hv', lt_of_le_of_ne hab.1 fun heq => hab.2 ?_⟩
    rw [← hid, ← hid']
    exact h.id_eq hr hr' hv (heq ▸ hv')

theorem edgesFromPattern_ok (h : Versioned semver releases) {pattern : String}
    (hrange : semver.parseRange pattern = .ok toRange) :
    ∃ toSet, edgesFromPattern semver pattern releases = .ok toSet ∧ ExactList semver toRange releases toSet := by
  obtain ⟨found, hfound, -, -⟩ := matching_ok toRange fun r hr => h.versionOf_ok hr
  refine ⟨sortedIDs semver found, ?_, sortedIDs_exact h hfound⟩
  rw [edgesFromPattern, mustParseRange, hrange]
  simp only [bind, Except.bind, hfound]

end

/-! ## All adjacency lists -/

section

variable {semver : Semver} {patterns : GoMap String} {releases : List State}

theorem edgesFromPatterns_ok (patterns : GoMap String) (h : Versioned semver releases)
    (hvalid : ∀ key pattern, patterns.lookup key = some pattern → ∃ toRange, semver.parseRange pattern = .ok toRange) :
    ∃ edges, edgesFromPatterns semver patterns releases = .ok edges ∧
      ∀ key toSet, edges.lookup key = some toSet ↔
        toSet ≠ [] ∧ ∃ pattern, patterns.lookup key = some pattern ∧
          edgesFromPattern semver pattern releases = .ok toSet := by
  -- the list of each pattern, as a function
  obtain ⟨lists, hlists⟩ : ∃ lists : String → List String, ∀ key pattern, patterns.lookup key = some pattern →
      edgesFromPattern semver pattern releases = .ok (lists pattern) := by
    refine ⟨fun pattern => ((edgesFromPattern semver pattern releases).toOption).getD [], fun key pattern hkey => ?_⟩
    obtain ⟨toRange, hrange⟩ := hvalid key pattern hkey
    obtain ⟨toSet, hok, -⟩ := edgesFromPattern_ok h hrange
    dsimp only
    rw [hok]
    rfl
  have hentries : (patterns.entries.mapM fun e => do
        let toSet ← edgesFromPattern semver e.2 releases
        .ok (e.1, toSet)) = .ok (patterns.entries.map fun e => (e.1, lists e.2)) := by
    refine go_mapM_map fun e he => ?_
    rw [hlists e.1 e.2 (AList.mem_lookup_iff.2 he)]
    rfl
  refine ⟨_, by rw [edgesFromPatterns, hentries]; rfl, fun key toSet => ?_⟩
  rw [mapCollect_lookup, mapOf_map_lookup]
  cases hkey : patterns.lookup key with
  | none => simp
  | some pattern =>
    have hlist := hlists key pattern hkey
    simp only [Option.map_some, Option.bind_some, Option.some.injEq, exists_eq_left', hlist, Except.ok.injEq]
    by_cases hnil : lists pattern = []
    · rw [if_pos hnil, hnil]
      simp only [reduceCtorEq, false_iff, not_and]
      exact fun hne heq => hne heq.symm
    · rw [if_neg hnil, Option.some.injEq]
      exact ⟨fun heq => ⟨heq ▸ hnil, heq⟩, fun heq => heq.2⟩

end

/-! ## `memoryChannel` -/

section

variable {semver : Semver} {releases : List State}

theorem memoryPatterns_lookup (releases : List State) (key : String) :
    (memoryPatterns releases).lookup key =
      if key ∈ releases.map State.id then some (">" ++ trimPrefix key "v") else none := by
  have hfold : ∀ patterns : GoMap String,
      (releases.foldl (fun patterns release => patterns.insert release.id (">" ++ trimPrefix release.id "v"))
        patterns).lookup key =
        if key ∈ releases.map State.id then some (">" ++ trimPrefix key "v") else patterns.lookup key := by
    induction releases with
    | nil => simp
    | cons r rest ih =>
      intro patterns
      rw [List.foldl_cons, ih, List.map_cons]
      by_cases hrest : key ∈ rest.map State.id
      · rw [if_pos hrest, if_pos (List.mem_cons_of_mem _ hrest)]
      · by_cases hkey : key = r.id
        · rw [if_neg hrest, hkey, AList.lookup_insert, if_pos (List.mem_cons_self ..)]
        · rw [if_neg hrest, AList.lookup_insert_ne hkey, if_neg (by rw [List.mem_cons, not_or]; exact ⟨hkey, hrest⟩)]
  exact hfold ∅

/-- The range of a release: what is newer. -/
theorem newer_exact (h : Versioned semver releases) {r : State} (hr : r ∈ releases) :
    ∃ toSet, edgesFromPattern semver (">" ++ trimPrefix r.id "v") releases = .ok toSet ∧
      (∀ id, id ∈ toSet ↔ ∃ r' ∈ releases, r'.deprecated = false ∧ Older semver r.id r'.id ∧ r'.id = id) ∧
      toSet.Pairwise (Older semver) := by
  obtain ⟨v, hv⟩ := h.versionOf_ok hr
  obtain ⟨toSet, hok, hexact⟩ := edgesFromPattern_ok h (semver.range_newer _ v hv)
  refine ⟨toSet, hok, fun id => ?_, hexact.ordered⟩
  rw [hexact.exact]
  constructor
  · rintro ⟨r', hr', ⟨hdeprecated, w, hw, hlt⟩, hid⟩
    exact ⟨r', hr', hdeprecated, ⟨v, w, hv, hw, of_decide_eq_true hlt⟩, hid⟩
  · rintro ⟨r', hr', hdeprecated, ⟨v', w, hv', hw, hlt⟩, hid⟩
    cases hv.symm.trans hv'
    exact ⟨r', hr', ⟨hdeprecated, w, hw, decide_eq_true hlt⟩, hid⟩

/-- The edges of the channel: for each release with a newer one to update to, the newer ones. -/
structure NewerEdges (semver : Semver) (releases : List State) (edges : EdgeSet) : Prop where
  keys : ∀ src ∈ edges, ∃ r ∈ releases, r.id = src
  nonempty : ∀ src, edges.lookup src ≠ some []
  targets : ∀ src toSet, edges.lookup src = some toSet → ∀ id,
    id ∈ toSet ↔ ∃ r ∈ releases, r.deprecated = false ∧ Older semver src r.id ∧ r.id = id
  ordered : ∀ src toSet, edges.lookup src = some toSet → toSet.Pairwise (Older semver)
  present : ∀ r ∈ releases, ∀ r' ∈ releases, r'.deprecated = false → Older semver r.id r'.id → r.id ∈ edges

theorem memoryEdges_ok (h : Versioned semver releases) :
    ∃ edges, edgesFromPatterns semver (memoryPatterns releases) releases = .ok edges ∧
      NewerEdges semver releases edges := by
  have hpattern : ∀ {key pattern : String}, (memoryPatterns releases).lookup key = some pattern →
      ∃ r ∈ releases, r.id = key ∧ pattern = ">" ++ trimPrefix r.id "v" := by
    intro key pattern hlookup
    rw [memoryPatterns_lookup] at hlookup
    split at hlookup
    · next hkey =>
      obtain ⟨r, hr, rfl⟩ := List.mem_map.1 hkey
      exact ⟨r, hr, rfl, (Option.some.inj hlookup).symm⟩
    · cases hlookup
  obtain ⟨edges, hok, hlookup⟩ := edgesFromPatterns_ok (memoryPatterns releases) h fun key pattern hkey => by
    obtain ⟨r, hr, -, rfl⟩ := hpattern hkey
    obtain ⟨v, hv⟩ := h.versionOf_ok hr
    exact ⟨_, semver.range_newer _ v hv⟩
  have hlist : ∀ src toSet, edges.lookup src = some toSet → ∃ r ∈ releases, r.id = src ∧
      (∀ id, id ∈ toSet ↔ ∃ r' ∈ releases, r'.deprecated = false ∧ Older semver src r'.id ∧ r'.id = id) ∧
      toSet.Pairwise (Older semver) := by
    intro src toSet hsrc
    obtain ⟨-, pattern, hkey, hedges⟩ := (hlookup src toSet).1 hsrc
    obtain ⟨r, hr, rfl, rfl⟩ := hpattern hkey
    obtain ⟨toSet', hok', hexact, hordered⟩ := newer_exact h hr
    cases hedges.symm.trans hok'
    exact ⟨r, hr, rfl, hexact, hordered⟩
  refine ⟨edges, hok, ?_, ?_, ?_, ?_, ?_⟩
  · intro src hsrc
    obtain ⟨toSet, hsrc⟩ := mem_iff_lookup.1 hsrc
    obtain ⟨r, hr, hid, -⟩ := hlist src toSet hsrc
    exact ⟨r, hr, hid⟩
  · intro src hnil
    exact ((hlookup src []).1 hnil).1 rfl
  · intro src toSet hsrc
    obtain ⟨-, -, -, hexact, -⟩ := hlist src toSet hsrc
    exact hexact
  · intro src toSet hsrc
    obtain ⟨-, -, -, -, hordered⟩ := hlist src toSet hsrc
    exact hordered
  · intro r hr r' hr' hdeprecated holder
    obtain ⟨toSet, hedges, hexact, -⟩ := newer_exact h hr
    have hmem : r'.id ∈ toSet := (hexact r'.id).2 ⟨r', hr', hdeprecated, holder, rfl⟩
    refine mem_iff_lookup.2 ⟨toSet, (hlookup r.id toSet).2 ⟨List.ne_nil_of_mem hmem, _, ?_, hedges⟩⟩
    rw [memoryPatterns_lookup, if_pos (List.mem_map_of_mem hr)]

variable {head : State} {rest : List State} {edges : EdgeSet}

/-- With the newest release first, and not deprecated, it ends every list. -/
theorem NewerEdges.ends_at_head (h : NewerEdges semver (head :: rest) edges) (hdeprecated : head.deprecated = false)
    (hnewest : ∀ r ∈ rest, Older semver r.id head.id) {r : State} (hr : r ∈ rest) :
    ∃ toSet, edges.lookup r.id = some toSet ∧ toSet.getLast? = some head.id := by
  have hhead : head ∈ head :: rest := List.mem_cons_self ..
  obtain ⟨toSet, hlookup⟩ := mem_iff_lookup.1
    (h.present r (List.mem_cons_of_mem _ hr) head hhead hdeprecated (hnewest r hr))
  have hmem : head.id ∈ toSet := (h.targets r.id toSet hlookup head.id).2 ⟨head, hhead, hdeprecated, hnewest r hr, rfl⟩
  refine ⟨toSet, hlookup, ?_⟩
  obtain ⟨before, after, rfl⟩ := List.append_of_mem hmem
  -- what stands behind the head would be newer
  suffices hnil : after = [] by simp [hnil]
  refine List.eq_nil_iff_forall_not_mem.2 fun id hid => ?_
  have hordered := (List.pairwise_append.1 (h.ordered r.id _ hlookup)).2.1
  have hnewer : Older semver head.id id := (List.pairwise_cons.1 hordered).1 id hid
  obtain ⟨r', hr', -, -, hid'⟩ := (h.targets r.id _ hlookup id).1 (by simp [hid])
  rcases List.mem_cons.1 hr' with rfl | hr'
  · exact hnewer.ne hid'
  · exact (hnewer.trans (hid' ▸ hnewest r' hr')).ne rfl

theorem NewerEdges.nextVersion_eq (h : NewerEdges semver (head :: rest) edges) (hdeprecated : head.deprecated = false)
    (hnewest : ∀ r ∈ rest, Older semver r.id head.id) {r : State} (hr : r ∈ rest) :
    (channelSource (head :: rest) edges).nextVersion r.id = head.id := by
  obtain ⟨toSet, hlookup, hlast⟩ := h.ends_at_head hdeprecated hnewest hr
  have hedges : (channelSource (head :: rest) edges).edges.lookup r.id = some toSet := hlookup
  rw [MemorySource.nextVersion, hedges]
  simp only [hlast, Option.getD_some]

theorem NewerEdges.wellFormed (h : NewerEdges semver (head :: rest) edges)
    (hdistinct : ((head :: rest).map State.id).Nodup) (hdeprecated : head.deprecated = false)
    (hnewest : ∀ r ∈ rest, Older semver r.id head.id) (hrest : rest ≠ []) : WellFormedChannel (head :: rest) edges where
  nodes_nonempty := List.cons_ne_nil _ _
  edges_nonempty := by
    intro hnil
    obtain ⟨r, hr⟩ := List.exists_mem_of_ne_nil rest hrest
    obtain ⟨toSet, hlookup, -⟩ := h.ends_at_head hdeprecated hnewest hr
    have hentry := AList.mem_lookup_iff.1 hlookup
    rw [hnil] at hentry
    cases hentry
  distinct := hdistinct
  keys := h.keys
  targets := by
    intro src toSet hlookup dst hdst
    obtain ⟨r, hr, -, -, hid⟩ := (h.targets src toSet hlookup dst).1 hdst
    exact ⟨r, hr, hid⟩
  only_head_ends := fun src hnil => absurd hnil (h.nonempty src)
  reaches_head := by
    intro r hr
    rcases List.mem_cons.1 hr with rfl | hr
    · exact ⟨0, Nat.succ_pos _, rfl⟩
    · refine ⟨1, Nat.succ_lt_succ (List.length_pos_iff.2 hrest), ?_⟩
      rw [Function.iterate_one, h.nextVersion_eq hdeprecated hnewest hr]
      rfl

theorem newMemorySource_of_wellFormed {nodes : List State} (hid : ∀ n ∈ nodes, n.id ≠ "")
    (h : WellFormedChannel nodes edges) : newMemorySource nodes edges = .ok (.ok (channelSource nodes edges)) := by
  obtain ⟨head, hchecked, hpaths⟩ := (wellFormedChannel_iff hid).1 h
  exact newMemorySource_accepts.2 ⟨head, hchecked, rfl, hpaths⟩

end

/-- **The generated edges are exact, ordered and accepted.** -/
theorem generated_edges_exact (semver : Semver) (releases : List State) (h : Versioned semver releases) :
    (∀ patterns : GoMap String,
      (∀ key pattern, patterns.lookup key = some pattern → ∃ toRange, semver.parseRange pattern = .ok toRange) →
      ∃ edges, edgesFromPatterns semver patterns releases = .ok edges ∧ (∀ key ∈ edges, key ∈ patterns) ∧
        ∀ key pattern toRange, patterns.lookup key = some pattern → semver.parseRange pattern = .ok toRange →
          (key ∈ edges ↔ ∃ r ∈ releases, Matches semver toRange r) ∧
          ∀ toSet, edges.lookup key = some toSet → ExactList semver toRange releases toSet) ∧
    ∀ head rest, releases = head :: rest → rest ≠ [] → head.deprecated = false →
      releases.Pairwise (fun r r' => Older semver r'.id r.id) →
      ∃ c m, memoryChannel semver releases = .ok c ∧ newMemorySource c.nodes c.edges = .ok (.ok m) ∧
        (∀ src toSet, c.edges.lookup src = some toSet → toSet.Pairwise (Older semver) ∧
          ∀ dst ∈ toSet, Older semver src dst ∧ ∃ r ∈ releases, r.id = dst) ∧
        ∀ r ∈ rest, m.nextVersion r.id = head.id := by
  constructor
  · intro patterns hvalid
    obtain ⟨edges, hok, hlookup⟩ := edgesFromPatterns_ok patterns h hvalid
    refine ⟨edges, hok, fun key hkey => ?_, fun key pattern toRange hkey hrange => ?_⟩
    · obtain ⟨toSet, hsome⟩ := mem_iff_lookup.1 hkey
      obtain ⟨-, pattern, hpattern, -⟩ := (hlookup key toSet).1 hsome
      exact mem_iff_lookup.2 ⟨pattern, hpattern⟩
    · obtain ⟨toSet, hlist, hexact⟩ := edgesFromPattern_ok h hrange
      have hsome : ∀ found, edges.lookup key = some found ↔ found ≠ [] ∧ found = toSet := by
        intro found
        rw [hlookup, hkey]
        simp only [Option.some.injEq, exists_eq_left', hlist, Except.ok.injEq]
        exact and_congr_right fun _ => eq_comm
      refine ⟨?_, fun found hfound => ((hsome found).1 hfound).2 ▸ hexact⟩
      rw [mem_iff_lookup]
      constructor
      · rintro ⟨found, hfound⟩
        obtain ⟨hne, rfl⟩ := (hsome found).1 hfound
        obtain ⟨id, hid⟩ := List.exists_mem_of_ne_nil _ hne
        obtain ⟨r, hr, hmatches, -⟩ := (hexact.exact id).1 hid
        exact ⟨r, hr, hmatches⟩
      · rintro ⟨r, hr, hmatches⟩
        exact ⟨toSet, (hsome toSet).2 ⟨List.ne_nil_of_mem ((hexact.exact r.id).2 ⟨r, hr, hmatches, rfl⟩), rfl⟩⟩
  · rintro head rest rfl hrest hdeprecated hordered
    have hnewest := (List.pairwise_cons.1 hordered).1
    obtain ⟨edges, hok, hedges⟩ := memoryEdges_ok h
    have hid : ∀ n ∈ head :: rest, n.id ≠ "" := by
      intro n hn heq
      obtain ⟨s, -, hs, -⟩ := h.versions n hn
      have hlength := congrArg (fun s => s.toList.length) (hs.symm.trans heq)
      simp at hlength
    refine ⟨_, _, by rw [memoryChannel, hok]; rfl,
      newMemorySource_of_wellFormed hid (hedges.wellFormed h.distinct hdeprecated hnewest hrest), ?_, ?_⟩
    · intro src toSet hlookup
      refine ⟨hedges.ordered src toSet hlookup, fun dst hdst => ?_⟩
      obtain ⟨r, hr, -, holder, rfl⟩ := (hedges.targets src toSet hlookup dst).1 hdst
      exact ⟨holder, r, hr, rfl⟩
    · exact fun r hr => hedges.nextVersion_eq hdeprecated hnewest hr

/-! ## Semantic versions -/

/-- A prerelease identifier: a number, or a text, which is higher. -/
abbrev Identifier := ℕ ⊕ₗ String

/-- Major, minor and patch version and the prerelease; without one a version is higher than with any. -/
abbrev PlainVersion := ℕ ×ₗ ℕ ×ₗ ℕ ×ₗ WithTop (List Identifier)

def number (cs : List Char) : Option ℕ :=
  if cs ≠ [] ∧ cs.all Char.isDigit then some (cs.foldl (fun n c => 10 * n + (c.toNat - '0'.toNat)) 0) else none

def identifier (cs : List Char) : Identifier :=
  match number cs with
  | some n => toLex (.inl n)
  | none => toLex (.inr (String.ofList cs))

def Identifier.text (i : Identifier) : String :=
  match ofLex i with
  | .inl n => toString n
  | .inr s => s

def PlainVersion.text (v : PlainVersion) : String :=
  let core := toString v.1 ++ "." ++ toString v.2.1 ++ "." ++ toString v.2.2.1
  match v.2.2.2 with
  | none => core
  | some identifiers => core ++ "-" ++ ".".intercalate (identifiers.map Identifier.text)

/-- The parts of a version, however they are written. -/
def splitVersion (s : String) : Option PlainVersion :=
  let (core, prerelease, hasPrerelease) := cut s '-'
  match (core.toList.splitOn '.').map number with
  | [some major, some minor, some patch] =>
    let identifiers := (prerelease.toList.splitOn '.').map identifier
    some (toLex (major, toLex (minor, toLex (patch, if hasPrerelease then ↑identifiers else ⊤))))
  | _ => none

/-- A text with leading zeros is no version. -/
def parseVersion (s : String) : Except String PlainVersion :=
  match splitVersion s with
  | some v => if v.text = s then .ok v else .error "invalid version"
  | none => .error "invalid version"

theorem text_of_parseVersion {s : String} {v : PlainVersion} (h : parseVersion s = .ok v) : v.text = s := by
  unfold parseVersion at h
  split at h
  · split at h
    · next htext =>
      cases h
      exact htext
    · cases h
  · cases h

/-- Ranges of one comparison. -/
def parseVersionRange (s : String) : Except String (PlainVersion → Bool) :=
  match s.toList with
  | '>' :: rest => (parseVersion (String.ofList rest)).map fun v w => decide (v < w)
  | '<' :: rest => (parseVersion (String.ofList rest)).map fun v w => decide (w < v)
  | _ => .error "invalid range"

def plainSemver : Semver where
  Version := PlainVersion
  order := inferInstance
  parse := parseVersion
  parseRange := parseVersionRange
  parse_injective := fun _ _ _ _ _ hs ht => (text_of_parseVersion hs).symm.trans (text_of_parseVersion ht)
  range_newer := by
    intro s v hv
    have hrest : (">" ++ s).toList = '>' :: s.toList := by rw [String.toList_append]; rfl
    rw [parseVersionRange, hrest]
    simp only [String.ofList_toList, hv, Except.map]

theorem plainSemver_parse (s : String) : plainSemver.parse s = parseVersion s := rfl

/-- A release candidate, its release, which is deprecated, and the next release. -/
def threeReleases : List State :=
  [{ id := "v1.10.0", tag := "v1.10.0" }, { id := "v1.9.0", tag := "v1.9.0", deprecated := true },
    { id := "v1.9.0-phase1", tag := "v1.9.0-phase1" }]

/-- Compare the versions of two ids. -/
def olderOf (semver : Semver) (a b : String) : Bool :=
  match versionOf semver a, versionOf semver b with
  | .ok v, .ok w => decide (v < w)
  | _, _ => false

theorem older_of_olderOf {semver : Semver} {a b : String} (h : olderOf semver a b = true) : Older semver a b := by
  unfold olderOf at h
  split at h
  · next v w hv hw => exact ⟨v, w, hv, hw, of_decide_eq_true h⟩
  · cases h

theorem threeReleases_versioned : Versioned plainSemver threeReleases where
  versions := by
    have hparse : ∀ r ∈ threeReleases, r.id = "v" ++ trimPrefix r.id "v" ∧ '+' ∉ (trimPrefix r.id "v").toList ∧
        (parseVersion (trimPrefix r.id "v")).toOption.isSome = true := by decide
    intro r hr
    obtain ⟨hid, hplus, hsome⟩ := hparse r hr
    cases hv : parseVersion (trimPrefix r.id "v") with
    | ok v => exact ⟨trimPrefix r.id "v", v, hid, hplus, (plainSemver_parse _).trans hv⟩
    | error err =>
      rw [hv] at hsome
      cases hsome
  distinct := by decide

theorem threeReleases_generated :
    (∃ edges, edgesFromPatterns plainSemver (mapOf [("v1.9.0-phase1", ">1.9.0-phase1")]) threeReleases = .ok edges ∧
      ∀ key ∈ edges, key ∈ mapOf [("v1.9.0-phase1", ">1.9.0-phase1")]) ∧
    ∃ c m, memoryChannel plainSemver threeReleases = .ok c ∧ newMemorySource c.nodes c.edges = .ok (.ok m) ∧
      m.nextVersion "v1.9.0-phase1" = "v1.10.0" := by
  obtain ⟨hedges, hchannel⟩ := generated_edges_exact plainSemver threeReleases threeReleases_versioned
  constructor
  · obtain ⟨edges, hok, hkeys, -⟩ := hedges (mapOf [("v1.9.0-phase1", ">1.9.0-phase1")]) fun key pattern hkey => by
      have hvalid : ∀ e ∈ (mapOf [("v1.9.0-phase1", ">1.9.0-phase1")]).entries,
          (parseVersionRange e.2).toOption.isSome = true := by decide
      have hsome := hvalid ⟨key, pattern⟩ (AList.mem_lookup_iff.1 hkey)
      cases hrange : parseVersionRange pattern with
      | ok toRange => exact ⟨toRange, hrange⟩
      | error err =>
        dsimp only at hsome
        rw [hrange] at hsome
        cases hsome
    exact ⟨edges, hok, hkeys⟩
  · have hordered : threeReleases.Pairwise fun r r' => olderOf plainSemver r'.id r.id = true := by decide
    obtain ⟨c, m, hc, hm, -, hnext⟩ := hchannel _ _ rfl (by decide) rfl (hordered.imp older_of_olderOf)
    exact ⟨c, m, hc, hm, hnext { id := "v1.9.0-phase1", tag := "v1.9.0-phase1" } (by decide)⟩

end SpiceDBOperator
