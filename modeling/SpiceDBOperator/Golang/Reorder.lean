import SpiceDBOperator.Golang.Any

/-!
# Maps in another order

The order in which a `range` visits a map is not specified, and may be another one the next time. `Reordered` and
`Any.sorted` say when two values are the same but for the order of their maps: the texts that `fmt` prints are then the
same, because it sorts. A text that is joined in the order of a visit is the same in every order just when the pieces
are `Commuting`.
-/

namespace Golang

/-! ## Maps -/

section

variable {β γ : Type} {m m' : GoMap β}

/-- The same map, in another order. -/
def Reordered (m m' : GoMap β) : Prop := ∀ k, m.lookup k = m'.lookup k

theorem Reordered.refl (m : GoMap β) : Reordered m m := fun _ => rfl

theorem Reordered.symm (h : Reordered m m') : Reordered m' m := fun k => (h k).symm

theorem Reordered.trans {m'' : GoMap β} (h : Reordered m m') (h' : Reordered m' m'') : Reordered m m'' :=
  fun k => (h k).trans (h' k)

theorem reordered_iff_perm : Reordered m m' ↔ m.entries.Perm m'.entries := by
  refine ⟨fun h => List.lookup_ext m.nodupKeys m'.nodupKeys fun k v => ?_, fun h k => AList.perm_lookup h⟩
  exact iff_of_eq (congrArg (v ∈ ·) (h k))

theorem Reordered.keys (h : Reordered m m') : m.keys.Perm m'.keys := (reordered_iff_perm.1 h).map Sigma.fst

theorem Reordered.insert (h : Reordered m m') (k : String) (v : β) : Reordered (m.insert k v) (m'.insert k v) := by
  intro j
  by_cases hj : j = k
  · rw [hj, AList.lookup_insert, AList.lookup_insert]
  · rw [AList.lookup_insert_ne hj, AList.lookup_insert_ne hj, h j]

theorem Reordered.mergeInto {entries entries' : GoMap β} (h : Reordered m m') (hentries : Reordered entries entries') :
    Reordered (mergeInto m entries) (mergeInto m' entries') := by
  intro k
  rw [mergeInto_lookup, mergeInto_lookup, h k, hentries k]

theorem Reordered.mapRestrict (h : Reordered m m') (keep : String → Bool) (f : β → γ) :
    Reordered (mapRestrict keep f m) (mapRestrict keep f m') := by
  intro k
  rw [mapRestrict_lookup, mapRestrict_lookup, h k]

end

theorem exists_perm_first {α : Type} {l : List α} {x : α} (hx : x ∈ l) : ∃ rest, l.Perm (x :: rest) := by
  obtain ⟨before, after, rfl⟩ := List.append_of_mem hx
  exact ⟨_, List.perm_middle⟩

theorem exists_perm_pair {α : Type} {l : List α} {x y : α} (hx : x ∈ l) (hy : y ∈ l) (hne : x ≠ y) :
    ∃ rest, l.Perm (x :: y :: rest) := by
  obtain ⟨rest, hperm⟩ := exists_perm_first hx
  have hy' : y ∈ rest := (List.mem_cons.1 (hperm.mem_iff.1 hy)).resolve_left hne.symm
  obtain ⟨rest', hperm'⟩ := exists_perm_first hy'
  exact ⟨rest', hperm.trans (hperm'.cons x)⟩

/-- The entries of a map in any order are a map. -/
theorem exists_reordered {β : Type} {m : GoMap β} {es : List (Sigma fun _ : String => β)} (h : m.entries.Perm es) :
    ∃ m' : GoMap β, Reordered m m' ∧ m'.entries = es :=
  ⟨⟨es, (List.perm_nodupKeys h).1 m.nodupKeys⟩, reordered_iff_perm.2 h, rfl⟩

/-! ## Values -/

mutual

/-- The value with the fields of its objects in the order of their names. -/
def Any.sorted : Any → Any
  | .array xs => .array (sortedElements xs)
  | .object fields => .object ((sortedFields fields).mergeSort fun a b => decide (a.1 ≤ b.1))
  | .null => .null
  | .bool b => .bool b
  | .number x => .number x
  | .string s => .string s

def sortedElements : List Any → List Any
  | [] => []
  | x :: rest => x.sorted :: sortedElements rest

def sortedFields : List (String × Any) → List (String × Any)
  | [] => []
  | (k, v) :: rest => (k, v.sorted) :: sortedFields rest

end

theorem fieldTexts_eq_map (fields : List (String × Any)) : fieldTexts fields = fields.map fun f => (f.1, f.2.text) := by
  induction fields with
  | nil => rfl
  | cons f rest ih =>
    rw [fieldTexts, ih]
    rfl

theorem sortedFields_eq_map (fields : List (String × Any)) :
    sortedFields fields = fields.map fun f => (f.1, f.2.sorted) := by
  induction fields with
  | nil => rfl
  | cons f rest ih =>
    rw [sortedFields, ih]
    rfl

theorem fieldTexts_mergeSort (fields : List (String × Any)) :
    fieldTexts (fields.mergeSort fun a b => decide (a.1 ≤ b.1)) =
      (fieldTexts fields).mergeSort fun a b => decide (a.1 ≤ b.1) := by
  rw [fieldTexts_eq_map, fieldTexts_eq_map]
  exact List.map_mergeSort fun _ _ _ _ => rfl

theorem mergeSort_names {α : Type} (fields : List (String × α)) :
    (fields.mergeSort fun a b => decide (a.1 ≤ b.1)).mergeSort (fun a b => decide (a.1 ≤ b.1)) =
      fields.mergeSort fun a b => decide (a.1 ≤ b.1) := by
  refine List.mergeSort_of_pairwise (List.pairwise_mergeSort ?_ ?_ fields)
  · intro a b c hab hbc
    exact decide_eq_true (String.le_trans (of_decide_eq_true hab) (of_decide_eq_true hbc))
  · intro a b
    rcases String.le_total a.1 b.1 with h | h <;> simp [h]

mutual

/-- `fmt` sorts the fields itself. -/
theorem Any.text_sorted : (v : Any) → v.sorted.text = v.text
  | .null => rfl
  | .bool _ => rfl
  | .number _ => rfl
  | .string _ => rfl
  | .array xs => by rw [Any.sorted, Any.text, Any.text, elementTexts_sorted xs]
  | .object fields => by
    rw [Any.sorted, Any.text, Any.text, fieldTexts_mergeSort, fieldTexts_sorted fields, mergeSort_names]

theorem elementTexts_sorted : (xs : List Any) → elementTexts (sortedElements xs) = elementTexts xs
  | [] => rfl
  | x :: rest => by rw [sortedElements, elementTexts, elementTexts, x.text_sorted, elementTexts_sorted rest]

theorem fieldTexts_sorted : (fields : List (String × Any)) → fieldTexts (sortedFields fields) = fieldTexts fields
  | [] => rfl
  | (k, v) :: rest => by rw [sortedFields, fieldTexts, fieldTexts, v.text_sorted, fieldTexts_sorted rest]

end

/-! ## Texts that are joined -/

/-- Texts that can change places: joined by `sep`, any two of them read the same in either order. -/
def Commuting (sep : String) (xs : List String) : Prop := ∀ x ∈ xs, ∀ y ∈ xs, x ++ sep ++ y = y ++ sep ++ x

theorem intercalate_swap_iff {sep x y : String} (before after : List String) :
    sep.intercalate (before ++ x :: y :: after) = sep.intercalate (before ++ y :: x :: after) ↔
      x ++ sep ++ y = y ++ sep ++ x := by
  induction before with
  | nil =>
    rw [List.nil_append, List.nil_append, String.intercalate_cons_cons, String.intercalate_cons_cons]
    cases after with
    | nil => rw [String.intercalate_singleton, String.intercalate_singleton]
    | cons z rest =>
      rw [String.intercalate_cons_cons, String.intercalate_cons_cons, ← String.append_assoc, ← String.append_assoc,
        ← String.append_assoc, ← String.append_assoc, String.append_left_inj, String.append_left_inj]
  | cons b rest ih =>
    rw [List.cons_append, List.cons_append, String.intercalate_cons_of_ne_nil (by simp),
      String.intercalate_cons_of_ne_nil (by simp), String.append_right_inj, ih]

theorem intercalate_replace {sep x y : String} (before after : List String)
    (h : sep.intercalate (before ++ x :: after) = sep.intercalate (before ++ y :: after)) : x = y := by
  induction before with
  | nil =>
    cases after with
    | nil => simpa using h
    | cons z rest =>
      rw [List.nil_append, List.nil_append, String.intercalate_cons_cons, String.intercalate_cons_cons,
        String.append_left_inj, String.append_left_inj] at h
      exact h
  | cons b rest ih =>
    rw [List.cons_append, List.cons_append, String.intercalate_cons_of_ne_nil (by simp),
      String.intercalate_cons_of_ne_nil (by simp), String.append_right_inj] at h
    exact ih h

theorem Commuting.intercalate_perm {sep : String} {xs ys : List String} (hperm : xs.Perm ys) (h : Commuting sep xs)
    (before after : List String) :
    sep.intercalate (before ++ xs ++ after) = sep.intercalate (before ++ ys ++ after) := by
  induction hperm generalizing before with
  | nil => rfl
  | cons x _ ih =>
    have hrest := ih (fun y hy z hz => h y (List.mem_cons_of_mem _ hy) z (List.mem_cons_of_mem _ hz)) (before ++ [x])
    simpa using hrest
  | swap x y rest =>
    rw [List.append_assoc, List.append_assoc]
    exact (intercalate_swap_iff before (rest ++ after)).2 (h y (by simp) x (by simp))
  | trans hperm _ ih ih' =>
    exact (ih h before).trans (ih' (fun y hy z hz => h y (hperm.mem_iff.2 hy) z (hperm.mem_iff.2 hz)) before)

/-! ## Texts by how they begin -/

def Begins (start s : String) : Prop := ∃ rest, s = start ++ rest

theorem begins_append (start rest : String) : Begins start (start ++ rest) := ⟨rest, rfl⟩

theorem begins_append_append (start middle rest : String) : Begins start (start ++ middle ++ rest) :=
  ⟨middle ++ rest, String.append_assoc ..⟩

theorem begins_self (s : String) : Begins s s := ⟨"", by rw [String.append_empty]⟩

/-- A text does not begin in two ways, unless the one begins with the other. -/
theorem Begins.clash {start start' s : String} (h : Begins start s) (h' : Begins start' s)
    (hclash : ¬ start.toList <+: start'.toList ∧ ¬ start'.toList <+: start.toList) : False := by
  obtain ⟨rest, rfl⟩ := h
  obtain ⟨rest', heq⟩ := h'
  have hlist := congrArg String.toList heq
  rw [String.toList_append, String.toList_append] at hlist
  have hone : start.toList <+: start'.toList ++ rest'.toList := ⟨rest.toList, hlist⟩
  rcases List.prefix_or_prefix_of_prefix hone (List.prefix_append _ _) with hle | hle
  · exact hclash.1 hle
  · exact hclash.2 hle

def BeginsAny (starts : List String) (s : String) : Prop := ∃ start ∈ starts, Begins start s

theorem BeginsAny.clash {starts : List String} {start s : String} (h : BeginsAny starts s)
    (hclash : ∀ start' ∈ starts, ¬ start'.toList <+: start.toList ∧
      ¬ start.toList <+: start'.toList) : ¬Begins start s := by
  obtain ⟨start', hmem, hbegins⟩ := h
  exact fun hstart => hbegins.clash hstart (hclash start' hmem)

theorem beginsAny_append {starts xs ys : List String} {start : String} (hxs : ∀ x ∈ xs, BeginsAny starts x)
    (hys : ∀ y ∈ ys, Begins start y) : ∀ x ∈ xs ++ ys, BeginsAny (start :: starts) x := by
  intro x hx
  rcases List.mem_append.1 hx with hx | hx
  · obtain ⟨start', hmem, hbegins⟩ := hxs x hx
    exact ⟨start', List.mem_cons_of_mem _ hmem, hbegins⟩
  · exact ⟨start, List.mem_cons_self .., hys x hx⟩

end Golang
