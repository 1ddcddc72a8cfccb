import Mathlib.Data.List.AList

/-!
# Go values: results, slices and maps

A Go function returns a value, panics, or never returns; a `map[string]T` is a finite map whose
iteration order is not specified.

| here | there |
| --- | --- |
| `Go α`         | what a call does: a value, or a `Fault` |
| `index`        | `xs[i]` on a slice |
| `sliceFrom`    | `xs[i:]` on a slice |
| `deref`        | a call through a pointer or an interface that may be nil |
| `GoMap β`      | `map[string]β`; the order of `entries` is the order in which a `range` visits them |
| `mapOf`        | a map literal |
| `mergeInto`    | `for k, v := range entries { m[k] = v }` |
| `mapRestrict`  | a loop that copies the entries with a kept key into a fresh map, rewriting the value |
| `mapCollect`   | a loop that puts into a fresh map what it computes for an entry, or nothing |
-/

namespace Golang

/-- Ways in which a call does not return. -/
inductive Fault where
  | indexOutOfRange
  | nilDereference
  /-- A call of `panic`. -/
  | panicked (message : String)
  /-- A loop that used up the rounds the model gives it. -/
  | hang
deriving DecidableEq, Repr

abbrev Go (α : Type) := Except Fault α

def index {α : Type} (xs : List α) (i : Nat) : Go α :=
  match xs[i]? with
  | some x => .ok x
  | none => .error .indexOutOfRange

def sliceFrom {α : Type} (xs : List α) (i : Nat) : Go (List α) :=
  if i ≤ xs.length then .ok (xs.drop i) else .error .indexOutOfRange

/-- A method call through a pointer or an interface. -/
def deref {α : Type} : Option α → Go α
  | some x => .ok x
  | none => .error .nilDereference

theorem index_eq_ok {α : Type} {xs : List α} {i : Nat} {x : α} :
    index xs i = .ok x ↔ xs[i]? = some x := by
  unfold index
  cases h : xs[i]? <;> simp

theorem deref_eq_ok {α : Type} {x : Option α} {a : α} : deref x = .ok a ↔ x = some a := by
  cases x <;> simp [deref]

/-- Peel one statement off a Go block that returned. -/
theorem go_bind_ok {α β : Type} {x : Go α} {f : α → Go β} {b : β} :
    (x >>= f) = .ok b ↔ ∃ a, x = .ok a ∧ f a = .ok b := by
  cases x <;> simp [bind, Except.bind]

/-- A loop over a list whose rounds all return. -/
theorem go_mapM_ok {α β : Type} {f : α → Go β} {P : α → β → Prop} {xs : List α}
    (h : ∀ x ∈ xs, ∃ y, f x = .ok y ∧ P x y) : ∃ ys, xs.mapM f = .ok ys ∧ List.Forall₂ P xs ys := by
  induction xs with
  | nil => exact ⟨[], rfl, List.Forall₂.nil⟩
  | cons x rest ih =>
    obtain ⟨y, hy, hP⟩ := h x (List.mem_cons_self ..)
    obtain ⟨ys, hys, hall⟩ := ih fun x hx => h x (List.mem_cons_of_mem _ hx)
    refine ⟨y :: ys, ?_, List.Forall₂.cons hP hall⟩
    rw [List.mapM_cons, hy, hys]
    rfl

theorem go_mapM_map {α β : Type} {f : α → Go β} {g : α → β} {xs : List α} (h : ∀ x ∈ xs, f x = .ok (g x)) :
    xs.mapM f = .ok (xs.map g) := by
  induction xs with
  | nil => rfl
  | cons x rest ih =>
    rw [List.mapM_cons, h x (List.mem_cons_self ..), ih fun y hy => h y (List.mem_cons_of_mem _ hy)]
    rfl

theorem go_mapM_mem {α β : Type} {f : α → Go β} {xs : List α} {ys : List β} (h : xs.mapM f = .ok ys) {x : α}
    (hx : x ∈ xs) : ∃ y, f x = .ok y := by
  induction xs generalizing ys with
  | nil => cases hx
  | cons x' rest ih =>
    rw [List.mapM_cons] at h
    obtain ⟨y, hy, h⟩ := go_bind_ok.1 h
    obtain ⟨ys', hys, -⟩ := go_bind_ok.1 h
    rcases List.mem_cons.1 hx with rfl | hx
    · exact ⟨y, hy⟩
    · exact ih hys hx

/-! ## Maps -/

abbrev GoMap (β : Type) := AList fun _ : String => β

def mapOf {β : Type} (es : List (String × β)) : GoMap β :=
  (es.map fun e => (⟨e.1, e.2⟩ : Sigma fun _ : String => β)).toAList

theorem mem_mapOf {β : Type} {es : List (String × β)} {k : String} : k ∈ mapOf es ↔ ∃ e ∈ es, e.1 = k := by
  induction es with
  | nil => exact iff_of_false (AList.notMem_empty k) (by simp)
  | cons e rest ih =>
    have hinsert : mapOf (e :: rest) = (mapOf rest).insert e.1 e.2 := rfl
    simp only [hinsert, AList.mem_insert, ih, List.mem_cons, exists_eq_or_imp, eq_comm (a := k)]

/-- The map of the entries of another, with rewritten values. -/
theorem mapOf_map_lookup {β γ : Type} (m : GoMap β) (f : β → γ) (k : String) :
    (mapOf (m.entries.map fun e => (e.1, f e.2))).lookup k = (m.lookup k).map f := by
  rw [mapOf, List.map_map, AList.lookup_to_alist]
  exact List.dlookup_map₂ (f := fun _ => f) k

def mergeInto {β : Type} (m entries : GoMap β) : GoMap β := entries.entries.foldl (fun m e => m.insert e.1 e.2) m

/-- What is found after a fold of insertions was inserted, or was there. -/
theorem foldl_insert_some {κ β : Type} [DecidableEq κ] {l : List (κ × β)} {m : AList fun _ : κ => β} {k : κ} {v : β}
    (h : (l.foldl (fun m e => m.insert e.1 e.2) m).lookup k = some v) : (k, v) ∈ l ∨ m.lookup k = some v := by
  induction l generalizing m with
  | nil => exact Or.inr h
  | cons e rest ih =>
    rcases ih h with hmem | hlookup
    · exact Or.inl (List.mem_cons_of_mem _ hmem)
    · by_cases he : k = e.1
      · subst he
        rw [AList.lookup_insert, Option.some.injEq] at hlookup
        subst hlookup
        exact Or.inl List.mem_cons_self
      · rw [AList.lookup_insert_ne he] at hlookup
        exact Or.inr hlookup

theorem foldl_insert_lookup {β : Type} (es : List (Sigma fun _ : String => β)) (h : es.NodupKeys) (m : GoMap β)
    (k : String) :
    (es.foldl (fun m e => m.insert e.1 e.2) m).lookup k = (es.dlookup k).or (m.lookup k) := by
  induction es generalizing m with
  | nil => simp
  | cons e rest ih =>
    obtain ⟨hnot, hrest⟩ := List.nodupKeys_cons.1 h
    rw [List.foldl_cons, ih hrest]
    by_cases hk : e.1 = k
    · subst hk
      rw [List.dlookup_cons_eq, List.dlookup_eq_none.2 hnot, AList.lookup_insert]
      rfl
    · rw [List.dlookup_cons_ne _ _ (Ne.symm hk), AList.lookup_insert_ne (Ne.symm hk)]

@[simp] theorem mergeInto_lookup {β : Type} (m entries : GoMap β) (k : String) :
    (mergeInto m entries).lookup k = (entries.lookup k).or (m.lookup k) :=
  foldl_insert_lookup entries.entries entries.nodupKeys m k

theorem nodupKeys_filter_map {β γ : Type} (keep : String → Bool) (f : β → γ) {l : List (Sigma fun _ : String => β)}
    (h : l.NodupKeys) :
    ((l.filter fun e => keep e.1).map fun e => (⟨e.1, f e.2⟩ : Sigma fun _ : String => γ)).NodupKeys := by
  have hk : ((l.filter fun e => keep e.1).map fun e => (⟨e.1, f e.2⟩ : Sigma fun _ : String => γ)).keys =
      (l.filter fun e => keep e.1).keys := by simp [List.keys, Function.comp_def]
  rw [List.NodupKeys, hk]
  exact (List.filter_sublist.map Sigma.fst).nodup h

def mapRestrict {β γ : Type} (keep : String → Bool) (f : β → γ) (m : GoMap β) : GoMap γ :=
  ⟨(m.entries.filter fun e => keep e.1).map fun e => ⟨e.1, f e.2⟩, nodupKeys_filter_map keep f m.nodupKeys⟩

theorem mapRestrict_lookup {β γ : Type} (keep : String → Bool) (f : β → γ) (m : GoMap β) (k : String) :
    (mapRestrict keep f m).lookup k = if keep k then (m.lookup k).map f else none := by
  have mem_iff : ∀ c, c ∈ (mapRestrict keep f m).lookup k ↔ keep k ∧ ∃ b, b ∈ m.lookup k ∧ f b = c := by
    intro c
    simp only [AList.mem_lookup_iff, mapRestrict, List.mem_map, List.mem_filter]
    constructor
    · rintro ⟨⟨k', b⟩, ⟨hm, hk⟩, he⟩
      simp only [Sigma.mk.injEq] at he
      obtain ⟨rfl, he⟩ := he
      exact ⟨hk, b, hm, eq_of_heq he⟩
    · rintro ⟨hk, b, hb, rfl⟩
      exact ⟨⟨k, b⟩, ⟨hb, hk⟩, rfl⟩
  ext c
  rw [← Option.mem_def, mem_iff]
  by_cases hk : keep k <;> simp [hk]

/-- Restricting twice is restricting once, when the second restriction keeps less and rewrites over the first. -/
theorem mapRestrict_mapRestrict {β γ δ : Type} {keep keep' : String → Bool} {f : β → γ} {f' : γ → δ} {f'' : β → δ}
    (hkeep : ∀ k, keep' k = true → keep k = true) (hf : ∀ b, f' (f b) = f'' b) (m : GoMap β) :
    mapRestrict keep' f' (mapRestrict keep f m) = mapRestrict keep' f'' m := by
  apply AList.ext
  simp only [mapRestrict, List.filter_map, List.map_map, List.filter_filter]
  have hboth : ∀ e : Sigma fun _ : String => β, (keep' e.1 && keep e.1) = keep' e.1 := by
    intro e
    cases h : keep' e.1 <;> simp_all
  simp only [Function.comp_def, hboth, hf]

theorem nodupKeys_filterMap {β γ : Type} (f : String → β → Option γ) {l : List (Sigma fun _ : String => β)}
    (h : l.NodupKeys) :
    (l.filterMap fun e => (f e.1 e.2).map fun c => (⟨e.1, c⟩ : Sigma fun _ : String => γ)).NodupKeys := by
  refine List.Sublist.nodup ?_ h
  induction l with
  | nil => exact List.Sublist.refl _
  | cons e rest ih =>
    have hrest := ih (List.nodupKeys_cons.1 h).2
    rw [List.filterMap_cons]
    cases f e.1 e.2 with
    | none => exact hrest.cons _
    | some c => exact hrest.cons_cons _

def mapCollect {β γ : Type} (f : String → β → Option γ) (m : GoMap β) : GoMap γ :=
  ⟨m.entries.filterMap fun e => (f e.1 e.2).map fun c => ⟨e.1, c⟩, nodupKeys_filterMap f m.nodupKeys⟩

theorem mapCollect_lookup {β γ : Type} (f : String → β → Option γ) (m : GoMap β) (k : String) :
    (mapCollect f m).lookup k = (m.lookup k).bind (f k) := by
  ext c
  rw [← Option.mem_def, AList.mem_lookup_iff, mapCollect, List.mem_filterMap, Option.bind_eq_some_iff]
  constructor
  · rintro ⟨⟨k', b⟩, hmem, he⟩
    obtain ⟨c', hc, he⟩ := Option.map_eq_some_iff.1 he
    cases he
    exact ⟨b, AList.mem_lookup_iff.2 hmem, hc⟩
  · rintro ⟨b, hb, hc⟩
    exact ⟨⟨k, b⟩, AList.mem_lookup_iff.1 hb, by simp [hc]⟩

theorem mem_iff_lookup {β : Type} {m : GoMap β} {k : String} : k ∈ m ↔ ∃ v, m.lookup k = some v := by
  rw [← AList.lookup_isSome, Option.isSome_iff_exists]

end Golang
