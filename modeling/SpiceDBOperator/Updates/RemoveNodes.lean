import Mathlib.Data.List.Chain
import Mathlib.Data.List.Nodup
import SpiceDBOperator.Updates.Graph

/-!
# Removing nodes from a channel (`Channel.RemoveNodes`, file.go:58)

The adjacency lists are cleared of a removed node by `slices.Delete`, inside a `range` over the same backing array
(file.go:63-67). A deletion moves the rest of the list one place down, while the loop goes one place up: the element
behind a deleted one is never looked at, so of two adjacent edges to the node the second one stays. Behind the list the
array is cleared to empty strings, which the loop does look at: to remove the node of the empty id it then deletes out
of range and panics.

`leftover` is what a pass over one list leaves; `removeNodes_exact_iff` says when nothing is left.

| here | there |
| --- | --- |
| `slicesDelete`  | `slices.Delete(s, i, i+1)`, its bounds check and its `clear`; the slice is the first `len` of `backing` |
| `removeRound`   | the body of the loop over one adjacency list (file.go:64-66) |
| `removeTargets` | that loop; the `range` has evaluated its slice once, so its length does not change |
| `removeEdges`   | `delete` and the loop over the edge map (file.go:61-68) |
| `removeNode`    | the body of the outer loop |
-/

namespace SpiceDBOperator

open Golang

def slicesDelete (backing : List String) (len i : Nat) : Go (List String × Nat) :=
  if i + 1 ≤ len then .ok ((backing.take len).eraseIdx i ++ "" :: backing.drop len, len - 1)
  else .error .indexOutOfRange

def removeRound (id : String) (s : List String × Nat) (i : Nat) : Go (List String × Nat) := do
  let dst ← index s.1 i
  if dst = id then slicesDelete s.1 s.2 i else .ok s

def removeTargets (id : String) (edges : List String) : Go (List String) := do
  let (backing, len) ← (List.range edges.length).foldlM (removeRound id) (edges, edges.length)
  .ok (backing.take len)

def removeEdges (edges : EdgeSet) (id : String) : Go EdgeSet := do
  let entries ← (edges.erase id).entries.mapM fun e => do
    let toSet ← removeTargets id e.2
    .ok (e.1, toSet)
  .ok (mapOf entries)

namespace Channel

def removeNode (c : Channel) (n : State) : Go Channel := do
  let edges ← removeEdges c.edges n.id
  .ok { c with edges, nodes := c.nodes.erase n }

def removeNodes (c : Channel) (nodes : List State) : Go Channel := nodes.foldlM removeNode c

end Channel

/-! ## One pass over one list -/

/-- What a pass leaves of a list: the element behind a deleted one stays, whatever it is. -/
def leftover (id : String) : List String → List String
  | [] => []
  | [x] => if x = id then [] else [x]
  | x :: y :: rest => if x = id then y :: leftover id rest else x :: leftover id (y :: rest)

section

variable {id : String} {backing : List String} {len : Nat}

theorem removeRound_skip {i : Nat} {x : String} (hread : backing[i]? = some x) (hne : x ≠ id) :
    removeRound id (backing, len) i = .ok (backing, len) := by
  rw [removeRound, index_eq_ok.2 hread]
  exact if_neg hne

/-- Rounds that read other ids change nothing. -/
theorem rounds_skip {is : List Nat} (h : ∀ i ∈ is, ∃ x, backing[i]? = some x ∧ x ≠ id) :
    is.foldlM (removeRound id) (backing, len) = .ok (backing, len) := by
  induction is with
  | nil => rfl
  | cons i rest ih =>
    obtain ⟨x, hread, hne⟩ := h i (List.mem_cons_self ..)
    rw [List.foldlM_cons, removeRound_skip hread hne]
    exact ih fun j hj => h j (List.mem_cons_of_mem _ hj)

/-- A round that reads the id moves the rest of the list down. -/
theorem removeRound_delete (id : String) (pre post cleared : List String) :
    removeRound id (pre ++ id :: post ++ cleared, pre.length + (post.length + 1)) pre.length =
      .ok (pre ++ post ++ "" :: cleared, pre.length + post.length) := by
  have hread : (pre ++ id :: post ++ cleared)[pre.length]? = some id := by simp
  have hlen : pre.length + (post.length + 1) = (pre ++ id :: post).length := by simp
  rw [removeRound, index_eq_ok.2 hread]
  simp only [bind, Except.bind, if_true, slicesDelete]
  rw [if_pos (by omega), hlen, List.take_left, List.drop_left, List.eraseIdx_append_of_length_le le_rfl]
  simp

theorem rounds_cleared (len : Nat) (hid : id ≠ "") (pre : List String) (d start : Nat) (hstart : pre.length ≤ start)
    (count : Nat) (hcount : start + count ≤ pre.length + d) :
    (List.range' start count).foldlM (removeRound id) (pre ++ List.replicate d "", len) =
      .ok (pre ++ List.replicate d "", len) := by
  refine rounds_skip fun i hi => ⟨"", ?_, hid.symm⟩
  obtain ⟨k, hk, rfl⟩ := List.mem_range'.1 hi
  rw [List.getElem?_append_right (by omega)]
  exact List.getElem?_replicate_of_lt (by omega)

theorem rounds_cons (s : List String × Nat) (start d : Nat) (x : String) (rest : List String) :
    (List.range' start ((x :: rest).length + d)).foldlM (removeRound id) s =
      removeRound id s start >>= (List.range' (start + 1) (rest.length + d)).foldlM (removeRound id) := by
  have hcount : (x :: rest).length + d = rest.length + d + 1 := by rw [List.length_cons]; omega
  rw [hcount, List.range'_succ, List.foldlM_cons]

/-- The loop, from any place on: `pre` is done, `post` is to come, and `d` elements were deleted. -/
theorem rounds_leftover (hid : id ≠ "") (pre post : List String) (d : Nat) :
    ∃ d', (List.range' pre.length (post.length + d)).foldlM (removeRound id)
        (pre ++ post ++ List.replicate d "", pre.length + post.length) =
      .ok (pre ++ leftover id post ++ List.replicate d' "", (pre ++ leftover id post).length) := by
  fun_induction leftover id post generalizing pre d with
  | case1 =>
    refine ⟨d, ?_⟩
    simpa using rounds_cleared pre.length hid pre d pre.length le_rfl d le_rfl
  | case2 =>
    -- the last element goes, and the loop is behind the list
    refine ⟨d + 1, ?_⟩
    rw [rounds_cons, List.length_singleton, ← Nat.zero_add 1, ← @List.length_nil String,
      removeRound_delete id pre [] (List.replicate d "")]
    have hrest := rounds_cleared pre.length hid pre (d + 1) (pre.length + 1) (by omega) d (by omega)
    simpa [bind, Except.bind, List.replicate_succ] using hrest
  | case3 x hne =>
    refine ⟨d, ?_⟩
    rw [rounds_cons, removeRound_skip (x := x) (by simp) hne]
    have hrest := rounds_cleared (pre.length + 1) hid (pre ++ [x]) d (pre.length + 1) (by simp) d (by simp)
    simpa [bind, Except.bind] using hrest
  | case4 y rest ih =>
    -- `y` moves to the place of the deleted one, and the loop goes on behind it
    obtain ⟨d', hrest⟩ := ih (pre ++ [y]) (d + 1)
    refine ⟨d', ?_⟩
    rw [rounds_cons, List.length_cons, removeRound_delete id pre (y :: rest) (List.replicate d "")]
    have hcount : (y :: rest).length + d = rest.length + (d + 1) := by rw [List.length_cons]; omega
    rw [hcount]
    simpa [bind, Except.bind, List.replicate_succ, Nat.add_assoc, Nat.add_comm, Nat.add_left_comm] using hrest
  | case5 x y rest hne ih =>
    obtain ⟨d', hrest⟩ := ih (pre ++ [x]) d
    refine ⟨d', ?_⟩
    rw [rounds_cons, removeRound_skip (x := x) (by simp) hne]
    simpa [bind, Except.bind, Nat.add_assoc, Nat.add_comm, Nat.add_left_comm] using hrest

theorem removeTargets_of_ne (hid : id ≠ "") (edges : List String) :
    removeTargets id edges = .ok (leftover id edges) := by
  obtain ⟨d, hrun⟩ := rounds_leftover hid [] edges 0
  rw [List.length_nil, Nat.add_zero, ← List.range_eq_range'] at hrun
  simp only [List.nil_append, List.replicate_zero, List.append_nil, Nat.zero_add] at hrun
  rw [removeTargets, hrun]
  exact congrArg Except.ok List.take_left

theorem leftover_of_not_mem {edges : List String} (h : id ∉ edges) : leftover id edges = edges := by
  fun_induction leftover id edges with
  | case1 => rfl
  | case2 => exact absurd (List.mem_cons_self ..) h
  | case3 x hne => rfl
  | case4 y rest ih => exact absurd (List.mem_cons_self ..) h
  | case5 x y rest hne ih => rw [ih fun hmem => h (List.mem_cons_of_mem _ hmem)]

theorem leftover_append_last {init : List String} (h : id ∉ init) : leftover id (init ++ [id]) = init := by
  induction init with
  | nil => exact if_pos rfl
  | cons x rest ih =>
    rw [List.mem_cons, not_or] at h
    obtain ⟨hne, hrest⟩ := h
    cases rest with
    | nil => simp [leftover, Ne.symm hne]
    | cons y rest =>
      rw [List.cons_append, List.cons_append, leftover, if_neg (Ne.symm hne), ← List.cons_append, ih hrest]

/-- The rounds up to the first edge to the node. -/
theorem rounds_before (len : Nat) {init : List String} (h : id ∉ init) (post : List String) :
    (List.range init.length).foldlM (removeRound id) (init ++ post, len) = .ok (init ++ post, len) := by
  refine rounds_skip fun i hi => ?_
  have hlt : i < init.length := List.mem_range.1 hi
  refine ⟨init[i], ?_, fun heq => h (heq ▸ List.getElem_mem hlt)⟩
  rw [List.getElem?_append_left hlt, List.getElem?_eq_getElem hlt]

/-- The empty id is removed where it ends the list. -/
theorem removeTargets_empty {edges : List String} (h : "" ∉ edges.dropLast) :
    removeTargets "" edges = .ok (leftover "" edges) := by
  by_cases hmem : "" ∈ edges
  · have hne : edges ≠ [] := List.ne_nil_of_mem hmem
    have hlast : edges.getLast hne = "" := by
      rw [← List.dropLast_append_getLast hne, List.mem_append] at hmem
      exact (List.mem_singleton.1 (hmem.resolve_left h)).symm
    obtain ⟨init, hinit⟩ : ∃ init, edges = init ++ [""] :=
      ⟨edges.dropLast, by rw [← hlast]; exact (List.dropLast_append_getLast hne).symm⟩
    subst hinit
    rw [List.dropLast_concat] at h
    have hbefore := rounds_before (init ++ [""]).length h [""]
    have hdelete := removeRound_delete "" init [] []
    rw [leftover_append_last h, removeTargets, List.length_append, List.length_singleton, List.range_succ,
      List.foldlM_append]
    rw [List.length_append, List.length_singleton] at hbefore
    rw [hbefore]
    simp only [List.append_nil, List.length_nil, Nat.zero_add, Nat.add_zero] at hdelete
    simp only [bind, Except.bind, List.foldlM_cons, List.foldlM_nil, hdelete]
    exact congrArg Except.ok List.take_left
  · rw [leftover_of_not_mem hmem, removeTargets]
    have hbefore := rounds_before edges.length hmem []
    rw [List.append_nil] at hbefore
    rw [hbefore]
    exact congrArg Except.ok List.take_length

/-- Something was deleted, so the last place is cleared. -/
structure LastCleared (backing : List String) (len : Nat) : Prop where
  short : len < backing.length
  cleared : backing.getLast? = some ""

theorem LastCleared.round (h : LastCleared backing len) {i : Nat} {s : List String × Nat}
    (hround : removeRound "" (backing, len) i = .ok s) : LastCleared s.1 s.2 ∧ s.1.length = backing.length := by
  obtain ⟨x, -, hround⟩ := go_bind_ok.1 hround
  split at hround
  · rw [slicesDelete] at hround
    split at hround
    · next hbound =>
      cases hround
      have hlength : ((backing.take len).eraseIdx i ++ "" :: backing.drop len).length = backing.length := by
        have hshort := h.short
        rw [List.length_append, List.length_eraseIdx_of_lt (by rw [List.length_take]; omega), List.length_take,
          List.length_cons, List.length_drop]
        omega
      refine ⟨⟨by rw [hlength]; have hshort := h.short; omega, ?_⟩, hlength⟩
      rw [List.getLast?_append_cons, List.getLast?_cons, List.getLast?_drop, if_neg (Nat.not_le.2 h.short), h.cleared]
      rfl
    · cases hround
  · cases hround
    exact ⟨h, rfl⟩

/-- The round of the last place deletes out of range. -/
theorem LastCleared.panics (is : List Nat) (h : LastCleared backing len) :
    ∃ fault, (is ++ [backing.length - 1]).foldlM (removeRound "") (backing, len) = .error fault := by
  induction is generalizing backing len with
  | nil =>
    have hread : backing[backing.length - 1]? = some "" := by rw [← List.getLast?_eq_getElem?, h.cleared]
    have hbound : ¬backing.length - 1 + 1 ≤ len := by have hshort := h.short; omega
    refine ⟨.indexOutOfRange, ?_⟩
    rw [List.nil_append, List.foldlM_cons, removeRound, index_eq_ok.2 hread]
    simp only [bind, Except.bind, if_true, slicesDelete, if_neg hbound]
  | cons i rest ih =>
    rw [List.cons_append, List.foldlM_cons]
    cases hround : removeRound "" (backing, len) i with
    | error fault => exact ⟨fault, rfl⟩
    | ok s =>
      obtain ⟨hs, hlength⟩ := h.round hround
      rw [← hlength]
      exact ih hs

/-- The empty id is not removed where it does not end the list. -/
theorem removeTargets_panics {edges : List String} (h : "" ∈ edges.dropLast) :
    ∃ fault, removeTargets "" edges = .error fault := by
  obtain ⟨init, between, hdrop, hinit⟩ := List.eq_append_cons_of_mem h
  have hne : edges ≠ [] := by
    rintro rfl
    cases h
  set post := between ++ [edges.getLast hne] with hpost
  have hedges : edges = init ++ "" :: post := by
    rw [hpost, ← List.cons_append, ← List.append_assoc, ← hdrop, List.dropLast_append_getLast hne]
  have hlength : edges.length = init.length + (post.length + 1) := by rw [hedges]; simp
  have hrange : List.range edges.length = List.range init.length ++
      init.length :: (List.range' (init.length + 1) between.length ++ [(init ++ post ++ [""]).length - 1]) := by
    have hcount : edges.length = init.length + (between.length + 1 + 1) := by rw [hlength, hpost]; simp
    have hlast : (init ++ post ++ [""]).length - 1 = init.length + 1 + between.length := by simp [hpost]; omega
    rw [hcount, List.range_eq_range', ← List.range'_append_1, ← List.range_eq_range', Nat.zero_add, List.range'_succ,
      List.range'_1_concat, hlast]
  have hcleared : LastCleared (init ++ post ++ [""]) (init.length + post.length) :=
    ⟨by simp, by simp⟩
  obtain ⟨fault, hpanics⟩ := hcleared.panics (List.range' (init.length + 1) between.length)
  refine ⟨fault, ?_⟩
  have hdelete := removeRound_delete "" init post []
  rw [List.append_nil] at hdelete
  rw [removeTargets, hrange, List.foldlM_append, hlength]
  conv_lhs => rw [hedges]
  rw [rounds_before _ hinit]
  simp only [bind, Except.bind] at hpanics ⊢
  rw [List.foldlM_cons, hdelete]
  simp only [bind, Except.bind, hpanics]

end

/-! ## What a pass leaves -/

/-- No two edges to the node stand side by side. -/
def Apart (id : String) (toSet : List String) : Prop := toSet.IsChain fun x y => ¬(x = id ∧ y = id)

/-- The deletions of the id stay in the list. -/
def InRange (id : String) (toSet : List String) : Prop := id = "" → "" ∉ toSet.dropLast

section

variable {id : String} {toSet : List String}

theorem removeTargets_ok (h : InRange id toSet) : removeTargets id toSet = .ok (leftover id toSet) := by
  by_cases hid : id = ""
  · subst hid
    exact removeTargets_empty (h rfl)
  · exact removeTargets_of_ne hid toSet

theorem inRange_of_removeTargets {left : List String} (h : removeTargets id toSet = .ok left) : InRange id toSet := by
  rintro rfl hmem
  obtain ⟨fault, hpanics⟩ := removeTargets_panics hmem
  rw [hpanics] at h
  cases h

theorem mem_leftover_of_ne {x : String} (hne : x ≠ id) : x ∈ leftover id toSet ↔ x ∈ toSet := by
  fun_induction leftover id toSet with
  | case1 => rfl
  | case2 => simp [hne]
  | case3 y hy => rfl
  | case4 y rest ih => simp [hne, ih]
  | case5 y z rest hy ih => rw [List.mem_cons, List.mem_cons, ih]

/-- A pass removes edges to the node only. -/
theorem leftover_filter {p : String → Bool} (hp : p id = false) : (leftover id toSet).filter p = toSet.filter p := by
  fun_induction leftover id toSet with
  | case1 => rfl
  | case2 => simp [hp]
  | case3 y hy => rfl
  | case4 y rest ih => rw [List.filter_cons, ih, List.filter_cons_of_neg (by simp [hp]), List.filter_cons]
  | case5 y z rest hy ih => rw [List.filter_cons, ih, List.filter_cons (x := y)]

theorem leftover_sublist : (leftover id toSet).Sublist toSet := by
  fun_induction leftover id toSet with
  | case1 => exact List.Sublist.refl _
  | case2 => exact List.nil_sublist _
  | case3 y hy => exact List.Sublist.refl _
  | case4 y rest ih => exact (ih.cons_cons y).cons _
  | case5 y z rest hy ih => exact ih.cons_cons y

theorem apart_cons_of_ne {x : String} (hne : x ≠ id) : Apart id (x :: toSet) ↔ Apart id toSet := by
  cases toSet with
  | nil => simp [Apart]
  | cons y rest => simp [Apart, hne]

/-- A pass leaves no edge to the node just if no two of them stand side by side. -/
theorem not_mem_leftover_iff : id ∉ leftover id toSet ↔ Apart id toSet := by
  fun_induction leftover id toSet with
  | case1 => simp [Apart]
  | case2 => simp [Apart]
  | case3 y hy => simp [Apart, Ne.symm hy]
  | case4 y rest ih =>
    rw [List.mem_cons, not_or, ih]
    by_cases hy : y = id
    · subst hy
      simp [Apart]
    · rw [← apart_cons_of_ne hy]
      simp [Apart, hy, Ne.symm hy]
  | case5 y z rest hy ih =>
    rw [List.mem_cons, not_or, ih, apart_cons_of_ne hy]
    exact and_iff_right (Ne.symm hy)

end

/-! ## All passes over one list -/

def passes (ids : List String) (toSet : List String) : List String :=
  ids.foldl (fun toSet id => leftover id toSet) toSet

/-- The passes over the list of `key` stay in range, up to the one that removes the key. -/
def PassesInRange (key : String) : List String → List String → Prop
  | [], _ => True
  | id :: rest, toSet => key = id ∨ InRange id toSet ∧ PassesInRange key rest (leftover id toSet)

/-- No pass finds two edges to its node side by side; a node that is passed again may wait for its last pass. -/
def PassesApart : List String → List String → Prop
  | [], _ => True
  | id :: rest, toSet => (id ∈ rest ∨ Apart id toSet) ∧ PassesApart rest (leftover id toSet)

section

variable {ids toSet : List String}

theorem mem_passes_of_not_mem {x : String} (hx : x ∉ ids) : x ∈ passes ids toSet ↔ x ∈ toSet := by
  induction ids generalizing toSet with
  | nil => rfl
  | cons id rest ih =>
    rw [List.mem_cons, not_or] at hx
    exact (ih hx.2).trans (mem_leftover_of_ne hx.1)

theorem passes_filter (toSet : List String) {p : String → Bool} (hp : ∀ id ∈ ids, p id = false) :
    (passes ids toSet).filter p = toSet.filter p := by
  induction ids generalizing toSet with
  | nil => rfl
  | cons id rest ih =>
    refine (ih (leftover id toSet) fun id' h => hp id' (List.mem_cons_of_mem _ h)).trans ?_
    exact leftover_filter (hp id (List.mem_cons_self ..))

/-- The passes leave none of their nodes. -/
theorem passes_clear_iff : (∀ id ∈ ids, id ∉ passes ids toSet) ↔ PassesApart ids toSet := by
  induction ids generalizing toSet with
  | nil => simp [PassesApart]
  | cons id rest ih =>
    have hpasses : passes (id :: rest) toSet = passes rest (leftover id toSet) := rfl
    rw [PassesApart, ← ih, List.forall_mem_cons, hpasses]
    refine and_congr_left fun hrest => ?_
    by_cases hagain : id ∈ rest
    · exact iff_of_true (hrest id hagain) (Or.inl hagain)
    · rw [mem_passes_of_not_mem hagain, not_mem_leftover_iff, or_iff_right hagain]

theorem passes_eq_filter (h : PassesApart ids toSet) : passes ids toSet = toSet.filter (· ∉ ids) := by
  have hclear := passes_clear_iff.2 h
  have hkept : (passes ids toSet).filter (· ∉ ids) = toSet.filter (· ∉ ids) := passes_filter toSet (by simp)
  rw [← hkept]
  refine (List.filter_eq_self.2 fun x hx => ?_).symm
  exact decide_eq_true fun hmem => hclear x hmem hx

end

/-! ## All lists -/

section

variable {edges : EdgeSet} {id : String}

theorem removeEdges_ok (h : ∀ key toSet, edges.lookup key = some toSet → key ≠ id → InRange id toSet) :
    ∃ left, removeEdges edges id = .ok left ∧
      ∀ key, left.lookup key = if key = id then none else (edges.lookup key).map (leftover id) := by
  refine ⟨mapOf ((edges.erase id).entries.map fun e => (e.1, leftover id e.2)), ?_, fun key => ?_⟩
  · have hentries : ((edges.erase id).entries.mapM fun e => do
          let toSet ← removeTargets id e.2
          .ok (e.1, toSet)) = .ok ((edges.erase id).entries.map fun e => (e.1, leftover id e.2)) := by
      refine go_mapM_map fun e he => ?_
      have hlookup : (edges.erase id).lookup e.1 = some e.2 := AList.mem_lookup_iff.2 he
      have hne : e.1 ≠ id := by
        intro heq
        rw [heq, AList.lookup_erase] at hlookup
        cases hlookup
      rw [AList.lookup_erase_ne hne] at hlookup
      rw [removeTargets_ok (h e.1 e.2 hlookup hne)]
      rfl
    rw [removeEdges, hentries]
    rfl
  · rw [mapOf_map_lookup]
    by_cases hkey : key = id
    · rw [if_pos hkey, hkey, AList.lookup_erase]
      rfl
    · rw [if_neg hkey, AList.lookup_erase_ne hkey]

/-- A removal that returned kept in range. -/
theorem inRange_of_removeEdges {left : EdgeSet} (h : removeEdges edges id = .ok left) {key : String}
    {toSet : List String} (hlookup : edges.lookup key = some toSet) (hkey : key ≠ id) : InRange id toSet := by
  obtain ⟨entries, hentries, -⟩ := go_bind_ok.1 h
  have hmem : (⟨key, toSet⟩ : Sigma fun _ : String => List String) ∈ (edges.erase id).entries := by
    rw [← AList.mem_lookup_iff, AList.lookup_erase_ne hkey, hlookup]
    rfl
  obtain ⟨pair, hpair⟩ := go_mapM_mem hentries hmem
  obtain ⟨left, hleft, -⟩ := go_bind_ok.1 hpair
  exact inRange_of_removeTargets hleft

end

namespace Channel

variable {c c' : Channel} {n : State} {ns : List State}

theorem removeNodes_ok (h : ∀ key toSet, c.edges.lookup key = some toSet → PassesInRange key (ns.map State.id) toSet) :
    ∃ c', c.removeNodes ns = .ok c' ∧ c'.nodes = c.nodes.diff ns ∧
      ∀ key, c'.edges.lookup key =
        if key ∈ ns.map State.id then none else (c.edges.lookup key).map (passes (ns.map State.id)) := by
  induction ns generalizing c with
  | nil =>
    refine ⟨c, rfl, rfl, fun key => ?_⟩
    rw [List.map_nil, if_neg List.not_mem_nil]
    exact Option.map_id'.symm
  | cons n rest ih =>
    have hfirst : ∀ key toSet, c.edges.lookup key = some toSet → key ≠ n.id → InRange n.id toSet :=
      fun key toSet hlookup hkey => ((h key toSet hlookup).resolve_left hkey).1
    obtain ⟨left, hleft, hlookup⟩ := removeEdges_ok hfirst
    obtain ⟨c', hrun, hnodes, hedges⟩ := ih (c := { c with edges := left, nodes := c.nodes.erase n }) (by
      intro key toSet hkey
      rw [hlookup] at hkey
      split at hkey
      · cases hkey
      · next hne =>
        obtain ⟨old, hold, rfl⟩ := Option.map_eq_some_iff.1 hkey
        exact ((h key old hold).resolve_left hne).2)
    refine ⟨c', ?_, ?_, fun key => ?_⟩
    · rw [removeNodes, List.foldlM_cons, removeNode, hleft]
      exact hrun
    · rw [hnodes, List.diff_cons]
    · rw [hedges, hlookup, List.map_cons]
      by_cases hkey : key = n.id
      · simp [hkey]
      · by_cases hrest : key ∈ rest.map State.id
        · rw [if_pos hrest, if_pos (List.mem_cons_of_mem _ hrest)]
        · rw [if_neg hrest, if_neg hkey, if_neg (by rw [List.mem_cons, not_or]; exact ⟨hkey, hrest⟩), Option.map_map]
          rfl

theorem passesInRange_of_removeNodes (h : c.removeNodes ns = .ok c') {key : String} {toSet : List String}
    (hlookup : c.edges.lookup key = some toSet) : PassesInRange key (ns.map State.id) toSet := by
  induction ns generalizing c toSet with
  | nil => trivial
  | cons n rest ih =>
    rw [removeNodes, List.foldlM_cons] at h
    obtain ⟨c₁, hnode, hrest⟩ := go_bind_ok.1 h
    obtain ⟨left, hleft, hc₁⟩ := go_bind_ok.1 hnode
    cases hc₁
    by_cases hkey : key = n.id
    · exact Or.inl hkey
    · have hfirst : ∀ key toSet, c.edges.lookup key = some toSet → key ≠ n.id → InRange n.id toSet :=
        fun key toSet hlookup hkey => inRange_of_removeEdges hleft hlookup hkey
      obtain ⟨left', hleft', hleftover⟩ := removeEdges_ok hfirst
      cases hleft.symm.trans hleft'
      refine Or.inr ⟨hfirst key toSet hlookup hkey, ih hrest ?_⟩
      rw [hleftover, if_neg hkey, hlookup]
      rfl

/-! ## The whole call -/

/-- The nodes and all their edges are gone, and nothing else is. -/
structure Removed (c : Channel) (ns : List State) (c' : Channel) : Prop where
  keys : ∀ key ∈ c'.edges, key ∉ ns.map State.id
  targets : ∀ key toSet, c'.edges.lookup key = some toSet → ∀ dst ∈ toSet, dst ∉ ns.map State.id
  nodes : c'.nodes = c.nodes.filter (· ∉ ns)
  edges : ∀ n ∈ c'.nodes, c'.edges.lookup n.id =
    (c.edges.lookup n.id).map fun toSet => toSet.filter (· ∉ ns.map State.id)

/-- Every pass over the list of `key` does what it should. -/
def Removable (ids : List String) (key : String) (toSet : List String) : Prop :=
  PassesInRange key ids toSet ∧ (key ∉ ids → PassesApart ids toSet)

/-- **`RemoveNodes` removes the nodes and all their edges and nothing else**, exactly when its passes over the adjacency
lists stay in range and never find two edges to a node side by side. -/
theorem removeNodes_exact_iff (c : Channel) (hids : (c.nodes.map State.id).Nodup) (ns : List State)
    (hns : ∀ n ∈ ns, n ∈ c.nodes) :
    (∃ c', c.removeNodes ns = .ok c' ∧ Removed c ns c') ↔
      ∀ key toSet, c.edges.lookup key = some toSet → Removable (ns.map State.id) key toSet := by
  constructor
  · rintro ⟨c', hrun, hremoved⟩ key toSet hlookup
    have hrange : ∀ key toSet, c.edges.lookup key = some toSet → PassesInRange key (ns.map State.id) toSet :=
      fun _ _ => passesInRange_of_removeNodes hrun
    refine ⟨hrange key toSet hlookup, fun hkey => passes_clear_iff.1 fun id hid hmem => ?_⟩
    obtain ⟨c'', hrun', -, hedges⟩ := removeNodes_ok hrange
    cases hrun.symm.trans hrun'
    have hleft : c'.edges.lookup key = some (passes (ns.map State.id) toSet) := by
      rw [hedges, if_neg hkey, hlookup]
      rfl
    exact hremoved.targets key _ hleft id hmem hid
  · intro h
    obtain ⟨c', hrun, hnodes, hedges⟩ := removeNodes_ok fun key toSet hlookup => (h key toSet hlookup).1
    have hkept : c'.nodes = c.nodes.filter (· ∉ ns) := by
      rw [hnodes, hids.of_map.sdiff_eq_filter]
    have hlookup : ∀ key, key ∉ ns.map State.id → c'.edges.lookup key =
        (c.edges.lookup key).map fun toSet => toSet.filter (· ∉ ns.map State.id) := by
      intro key hkey
      rw [hedges, if_neg hkey]
      refine Option.map_congr fun toSet htoSet => ?_
      exact passes_eq_filter ((h key toSet htoSet).2 hkey)
    have hkeys : ∀ key ∈ c'.edges, key ∉ ns.map State.id := by
      intro key hmem hkey
      obtain ⟨toSet, hlookup⟩ := mem_iff_lookup.1 hmem
      rw [hedges, if_pos hkey] at hlookup
      cases hlookup
    refine ⟨c', hrun, hkeys, fun key toSet htoSet dst hdst hremoved => ?_, hkept, fun n hn => hlookup n.id ?_⟩
    · rw [hlookup key (hkeys key (mem_iff_lookup.2 ⟨toSet, htoSet⟩))] at htoSet
      obtain ⟨old, -, rfl⟩ := Option.map_eq_some_iff.1 htoSet
      exact of_decide_eq_true (List.mem_filter.1 hdst).2 hremoved
    · -- a node with the id of a removed node is that node
      intro hid
      rw [hkept] at hn
      obtain ⟨hmem, hnot⟩ := List.mem_filter.1 hn
      obtain ⟨m, hm, heq⟩ := List.mem_map.1 hid
      obtain rfl := List.inj_on_of_nodup_map hids (hns m hm) hmem heq
      exact of_decide_eq_true hnot hm

/-- A list without repeats is no trouble. -/
theorem removable_of_nodup {ids toSet : List String} (key : String) (h : toSet.Nodup) (hempty : "" ∉ toSet) :
    Removable ids key toSet := by
  have hpass : ∀ (id : String) {toSet : List String}, toSet.Nodup → "" ∉ toSet →
      (leftover id toSet).Nodup ∧ "" ∉ leftover id toSet ∧ InRange id toSet ∧ Apart id toSet := by
    intro id toSet h hempty
    refine ⟨leftover_sublist.nodup h, fun hmem => hempty (leftover_sublist.subset hmem),
      fun _ hmem => hempty (List.dropLast_subset _ hmem), ?_⟩
    exact (List.Pairwise.imp (fun hne heq => hne (heq.1.trans heq.2.symm)) h).isChain
  constructor
  · induction ids generalizing toSet with
    | nil => trivial
    | cons id rest ih =>
      obtain ⟨hnodup, hempty', hrange, -⟩ := hpass id h hempty
      exact Or.inr ⟨hrange, ih hnodup hempty'⟩
  · intro hkey
    clear hkey
    induction ids generalizing toSet with
    | nil => trivial
    | cons id rest ih =>
      obtain ⟨hnodup, hempty', -, hapart⟩ := hpass id h hempty
      exact ⟨Or.inr hapart, ih hnodup hempty'⟩

/-- A node for each id. -/
def idNodes (ids : List String) : List State := ids.map fun id => { id, tag := id }

/-- Three releases, with these targets for the oldest. -/
def withTargets (targets : List String) : Channel :=
  { name := "stable", edges := mapOf [("v1", targets)], nodes := idNodes ["v3", "v2", "v1"] }

/-- The adjacency list of `v1` without `v2`. -/
def withoutV2 (targets : List String) : Go (Option (List String)) :=
  ((withTargets targets).removeNodes (idNodes ["v2"])).map fun c => c.edges.lookup "v1"

theorem repeated_target_stays : withoutV2 ["v2", "v2", "v3"] = .ok (some ["v2", "v3"]) := by
  decide

theorem single_target_removed : ∃ c', (withTargets ["v2", "v3"]).removeNodes (idNodes ["v2"]) = .ok c' ∧
    Removed (withTargets ["v2", "v3"]) (idNodes ["v2"]) c' := by
  refine (removeNodes_exact_iff (withTargets ["v2", "v3"]) (by decide) (idNodes ["v2"]) (by decide)).2 ?_
  intro key toSet hlookup
  have hentries : ∀ e ∈ (withTargets ["v2", "v3"]).edges.entries, e.2.Nodup ∧ "" ∉ e.2 := by decide
  have hlist := hentries ⟨key, toSet⟩ (AList.mem_lookup_iff.1 hlookup)
  exact removable_of_nodup key hlist.1 hlist.2

end Channel

end SpiceDBOperator
