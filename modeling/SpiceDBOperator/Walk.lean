import Mathlib.Logic.Function.Iterate
import Mathlib.Computability.StateTransition
import Mathlib.Data.Fintype.Pigeonhole
import Mathlib.Data.Set.Finite.List
import Mathlib.Data.List.Nodup
import Mathlib.Data.List.Perm.Subperm
import Mathlib.Data.Nat.Count
import Mathlib.Data.Nat.Find

/-!
# Walks of a function

A walk follows `f : α → α` from a start: `x, f x, f (f x), …`. The two facts every bounded search over
it rests on: a walk that repeats itself meets nothing new afterwards (`iterate_mem_prefix`), and the
first arrival at a node comes before any repetition, hence within the number of nodes there are
(`exists_first_hit`, `FirstHit.lt_length`). A walk along which a height goes down comes to rest (`iterate_rests`);
where only some steps bring it down, it is these that count (`count_down`).

A walk that may stop follows `f : α → Option α`; `StateTransition.Reaches` is reachability along it. Over finitely many
nodes it stops exactly when it meets no node twice (`halts_iff_acyclic`).
-/

namespace Walk

variable {α : Type*} {f : α → α} {x y : α}

/-- Once `f^[j] x` is an earlier node, the walk stays among its first `j` nodes. -/
theorem iterate_mem_prefix {i j : Nat} (hij : i < j) (h : f^[j] x = f^[i] x) :
    ∀ n, ∃ k < j, f^[n] x = f^[k] x := by
  intro n
  induction n using Nat.strongRecOn with
  | ind n ih =>
    by_cases hn : n < j
    · exact ⟨n, hn, rfl⟩
    · have hback : f^[n] x = f^[n - j + i] x := by
        calc f^[n] x = f^[n - j + j] x := by rw [Nat.sub_add_cancel (by omega)]
          _ = f^[n - j] (f^[j] x) := Function.iterate_add_apply f _ _ x
          _ = f^[n - j + i] x := by rw [h, Function.iterate_add_apply]
      obtain ⟨k, hk, he⟩ := ih (n - j + i) (by omega)
      exact ⟨k, hk, hback.trans he⟩

/-- Arrival at `y` for the first time, after `k` steps. -/
def FirstHit (f : α → α) (x y : α) (k : Nat) : Prop := f^[k] x = y ∧ ∀ i < k, f^[i] x ≠ y

theorem exists_first_hit {k : Nat} (h : f^[k] x = y) : ∃ k' ≤ k, FirstHit f x y k' := by
  classical
  have hex : ∃ n, f^[n] x = y := ⟨k, h⟩
  exact ⟨Nat.find hex, Nat.find_min' hex h, Nat.find_spec hex, fun i hi => Nat.find_min hex hi⟩

/-- No node repeats up to the first arrival. -/
theorem FirstHit.injOn {k : Nat} (h : FirstHit f x y k) :
    ∀ i j, i < j → j ≤ k → f^[i] x ≠ f^[j] x := by
  intro i j hij hjk he
  obtain ⟨n, hn, hy⟩ := iterate_mem_prefix hij he.symm k
  exact h.2 n (by omega) (hy ▸ h.1)

theorem FirstHit.nodup {k : Nat} (h : FirstHit f x y k) : ((List.range (k + 1)).map fun i => f^[i] x).Nodup := by
  refine (List.nodup_map_iff_inj_on List.nodup_range).2 fun i hi j hj he => ?_
  rw [List.mem_range] at hi hj
  rcases Nat.lt_trichotomy i j with hlt | rfl | hgt
  · exact absurd he (h.injOn i j hlt (by omega))
  · rfl
  · exact absurd he.symm (h.injOn j i hgt (by omega))

/-- A first arrival through nodes of `L` takes fewer steps than `L` has entries. -/
theorem FirstHit.lt_length {k : Nat} {L : List α} (h : FirstHit f x y k) (hL : ∀ i ≤ k, f^[i] x ∈ L) :
    k < L.length := by
  have hsub : ((List.range (k + 1)).map fun i => f^[i] x) ⊆ L := by
    intro a ha
    obtain ⟨i, hi, rfl⟩ := List.mem_map.1 ha
    exact hL i (by rw [List.mem_range] at hi; omega)
  have := (h.nodup.subperm hsub).length_le
  simp only [List.length_map, List.length_range] at this
  omega

/-- A walk that goes down whenever it moves comes to rest within the height of its start. -/
theorem iterate_rests {Good : α → Prop} {height : α → Nat} (hgood : ∀ a, Good a → Good (f a))
    (hdown : ∀ a, Good a → f a ≠ a → height (f a) < height a) (hx : Good x) {k n : Nat} (hk : height x ≤ k)
    (hn : k ≤ n) :
    f^[n] x = f^[k] x ∧ f (f^[k] x) = f^[k] x := by
  have hfixed : f (f^[k] x) = f^[k] x := by
    induction k generalizing x with
    | zero =>
      by_contra hmoves
      have := hdown x hx hmoves
      omega
    | succ k ih =>
      by_cases hrest : f x = x
      · rw [Function.iterate_fixed hrest, hrest]
      · have := hdown x hx hrest
        rw [Function.iterate_succ_apply]
        exact ih (hgood x hx) (by omega) (by omega)
  refine ⟨?_, hfixed⟩
  rw [← Nat.sub_add_cancel hn, Function.iterate_add_apply, Function.iterate_fixed hfixed]

/-- A bound that every good step brings down by one, and that no other step raises above one, is used up after as many
good steps. -/
theorem count_down (W : Nat → α) (good : α → Prop) [DecidablePred good] {P : Nat → α → Prop}
    (hmono : ∀ {p q a}, p ≤ q → P p a → P q a)
    (hstep : ∀ n p, P p (W n) → P (if good (W n) then p - 1 else max p 1) (W (n + 1))) {p : Nat}
    (h : P p (W 0)) (n : Nat) :
    P (max (p - Nat.count (fun i => good (W i)) n) 1) (W n) := by
  induction n with
  | zero => exact hmono (le_max_left _ _) h
  | succ n ih =>
    refine hmono ?_ (hstep n _ ih)
    rw [Nat.count_succ]
    split_ifs <;> omega

/-! ## Walks that may stop -/

section

open StateTransition Relation

variable {f : α → Option α} {a b : α}

/-- The `n`-th node, if the walk gets that far. -/
def nth (f : α → Option α) (a : α) : Nat → Option α
  | 0 => some a
  | n + 1 => (nth f a n).bind f

theorem nth_succ (f : α → Option α) (a : α) (n : Nat) : nth f a (n + 1) = (f a).bind fun b => nth f b n := by
  induction n with
  | zero => cases h : f a <;> simp [nth, h]
  | succ n ih =>
    rw [nth, ih]
    cases f a <;> rfl

theorem nth_none_of_stop {n : Nat} (h : nth f a n = some b) (hb : f b = none) {k : Nat} (hk : n < k) :
    nth f a k = none := by
  induction hk with
  | refl => simp [nth, h, hb]
  | step _ ih => rw [nth, ih]; rfl

/-- A walk stops once. -/
theorem nth_stop_unique {n k : Nat} {c : α} (hn : nth f a n = some b) (hb : f b = none) (hk : nth f a k = some c)
    (hc : f c = none) : n = k ∧ b = c := by
  rcases Nat.lt_trichotomy n k with hlt | rfl | hgt
  · rw [nth_none_of_stop hn hb hlt] at hk; cases hk
  · exact ⟨rfl, Option.some.inj (hn.symm.trans hk)⟩
  · rw [nth_none_of_stop hk hc hgt] at hn; cases hn

theorem reaches_iff_nth : Reaches f a b ↔ ∃ n, nth f a n = some b := by
  constructor
  · intro h
    induction h with
    | refl => exact ⟨0, rfl⟩
    | tail _ hstep ih =>
      obtain ⟨n, hn⟩ := ih
      exact ⟨n + 1, by simpa [nth, hn] using hstep⟩
  · rintro ⟨n, hn⟩
    induction n generalizing b with
    | zero => cases hn; exact ReflTransGen.refl
    | succ n ih =>
      obtain ⟨c, hc, hcb⟩ := Option.bind_eq_some_iff.1 hn
      exact ReflTransGen.tail (ih hc) hcb

/-- A node on a loop leads only to nodes on that loop. -/
theorem loop_of_reaches (hloop : Reaches₁ f a a) (h : Reaches f a b) : Reaches₁ f b b := by
  induction h with
  | refl => exact hloop
  | tail _ hstep ih => exact TransGen.tail' (reaches₁_fwd ih hstep) hstep

theorem not_reaches₁_of_stop (h : f a = none) : ¬ Reaches₁ f a b := by
  intro hab
  obtain ⟨c, hc, _⟩ := TransGen.head'_iff.1 hab
  rw [h] at hc
  cases hc

theorem nth_reaches₁ {i j : Nat} (hij : i < j) {c : α} (hb : nth f a i = some b) (hc : nth f a j = some c) :
    Reaches₁ f b c := by
  induction hij generalizing c with
  | refl =>
    rw [nth, hb] at hc
    exact TransGen.single hc
  | step _ ih =>
    obtain ⟨d, hd, hdc⟩ := Option.bind_eq_some_iff.1 hc
    exact TransGen.tail (ih hd) hdc

/-- **A walk over finitely many nodes stops exactly when it meets no node twice.** -/
theorem halts_iff_acyclic {L : List α} (hL : ∀ x, ∀ y ∈ f x, y ∈ L) :
    (∃ z, Reaches f a z ∧ f z = none) ↔ ∀ b, Reaches f a b → ¬ Reaches₁ f b b := by
  constructor
  · rintro ⟨z, haz, hz⟩ b hab hloop
    rcases reaches_total hab haz with hbz | hzb
    · exact not_reaches₁_of_stop hz (loop_of_reaches hloop hbz)
    · obtain rfl : b = z := (reflTransGen_iff_eq fun c hc => by rw [hz] at hc; cases hc).1 hzb
      exact not_reaches₁_of_stop hz hloop
  · intro hacyclic
    by_contra hgo
    -- otherwise the walk gets arbitrarily far, among the entries of `L`
    have hsome : ∀ n, ∃ b, nth f a n = some b := by
      intro n
      induction n with
      | zero => exact ⟨a, rfl⟩
      | succ n ih =>
        obtain ⟨b, hb⟩ := ih
        cases hfb : f b with
        | none => exact absurd ⟨b, reaches_iff_nth.2 ⟨n, hb⟩, hfb⟩ hgo
        | some c => exact ⟨c, by simp [nth, hb, hfb]⟩
    choose node hnode using hsome
    have hmem : ∀ n, node (n + 1) ∈ L := by
      intro n
      have h := hnode (n + 1)
      rw [nth, hnode n] at h
      exact hL _ _ h
    have : Finite { x // x ∈ L } := (List.finite_toSet L).to_subtype
    obtain ⟨i, j, hij, heq⟩ :=
      Finite.exists_ne_map_eq_of_infinite fun n : Nat => (⟨node (n + 1), hmem n⟩ : { x // x ∈ L })
    have heq : node (i + 1) = node (j + 1) := congrArg Subtype.val heq
    rcases Nat.lt_or_gt_of_ne hij with hlt | hgt
    · have hloop := nth_reaches₁ (Nat.succ_lt_succ hlt) (hnode (i + 1)) (hnode (j + 1))
      rw [← heq] at hloop
      exact hacyclic _ (reaches_iff_nth.2 ⟨i + 1, hnode _⟩) hloop
    · have hloop := nth_reaches₁ (Nat.succ_lt_succ hgt) (hnode (j + 1)) (hnode (i + 1))
      rw [heq] at hloop
      exact hacyclic _ (reaches_iff_nth.2 ⟨j + 1, hnode _⟩) hloop

end

end Walk
