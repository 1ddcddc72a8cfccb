import Mathlib.Data.List.Basic
import Mathlib.Logic.Function.Basic

/-!
# A cache whose entries load themselves once

Threads look keys up in a map behind a mutex. A key that is not there gets a fresh entry, and the mutex is released
before the entry is used. The entry loads itself on first use, under a guard of its own: the first thread to come runs
the load, those that come while it runs wait for it, and those that come later go on at once. A load asks the outside
for an answer, which may take any time, and stores what it makes of it.

A step is one thread's next action, so a run is any interleaving. Nothing forces a thread to read a finished entry:
`reading` reads what is there. That no thread reads too early, that a key is asked for once, and that all lookups of a
key return the same, are the invariant `Inv`.
-/

namespace OnceCache

variable {τ κ ρ ν : Type}

/-- Where a thread is in a lookup. -/
inductive PC (κ ρ : Type) where
  | idle
  /-- Before the mutex. -/
  | locking (k : κ)
  /-- With the mutex, before the map. -/
  | finding (k : κ)
  | unlocking (k : κ) (a : Nat)
  /-- Before the guard of the entry. -/
  | entering (k : κ) (a : Nat)
  /-- In the load, waiting for the answer. -/
  | loading (k : κ) (a : Nat)
  /-- In the load, with the answer. -/
  | storing (k : κ) (a : Nat) (r : ρ)
  | reading (k : κ) (a : Nat)

inductive Cell (τ ν : Type) where
  | fresh
  | running (t : τ)
  | done (v : ν)

def Cell.value : Cell τ ν → Option ν
  | .done v => some v
  | _ => none

/-- `asked` and `returns` are what happened so far. -/
structure State (τ κ ρ ν : Type) where
  mutex : Option τ := none
  cached : κ → Option Nat := fun _ => none
  cells : List (Cell τ ν) := []
  pc : τ → PC κ ρ := fun _ => .idle
  asked : List (κ × ρ) := []
  returns : List (κ × Option ν) := []

/-- What comes from outside with a step. -/
inductive Input (κ ρ : Type) where
  | lookup (k : κ)
  | answer (r : ρ)
  | go

section

variable [DecidableEq τ] [DecidableEq κ]

def State.move (s : State τ κ ρ ν) (t : τ) (pc : PC κ ρ) : State τ κ ρ ν :=
  { s with pc := Function.update s.pc t pc }

variable (load : κ → ρ → ν)

/-- The next action of a thread; `none` if it has to wait, or if the input is not for it. -/
def step (s : State τ κ ρ ν) (t : τ) (input : Input κ ρ) : Option (State τ κ ρ ν) :=
  match s.pc t, input with
  | .idle, .lookup k => some (s.move t (.locking k))
  | .locking k, .go => if s.mutex.isNone then some { s.move t (.finding k) with mutex := some t } else none
  | .finding k, .go =>
    match s.cached k with
    | some a => some (s.move t (.unlocking k a))
    | none =>
      some { s.move t (.unlocking k s.cells.length) with
             cached := Function.update s.cached k (some s.cells.length), cells := s.cells ++ [.fresh] }
  | .unlocking k a, .go => some { s.move t (.entering k a) with mutex := none }
  | .entering k a, .go =>
    match s.cells[a]? with
    | some .fresh => some { s.move t (.loading k a) with cells := s.cells.set a (.running t) }
    | some (.running _) => none
    | _ => some (s.move t (.reading k a))
  | .loading k a, .answer r => some { s.move t (.storing k a r) with asked := s.asked ++ [(k, r)] }
  | .storing k a r, .go => some { s.move t (.reading k a) with cells := s.cells.set a (.done (load k r)) }
  | .reading k a, .go => some { s.move t .idle with returns := s.returns ++ [(k, s.cells[a]?.bind Cell.value)] }
  | _, _ => none

/-- A thread that cannot act is passed over. -/
def run (s : State τ κ ρ ν) (schedule : List (τ × Input κ ρ)) : State τ κ ρ ν :=
  schedule.foldl (fun s turn => (step load s turn.1 turn.2).getD s) s

end

/-! ## What a step can do -/

section

variable [DecidableEq τ] [DecidableEq κ] {load : κ → ρ → ν} {s s' : State τ κ ρ ν} {t : τ} {input : Input κ ρ}

inductive Action (load : κ → ρ → ν) (s : State τ κ ρ ν) (t : τ) : State τ κ ρ ν → Prop
  | lookup (k : κ) (hpc : s.pc t = .idle) : Action load s t (s.move t (.locking k))
  | lock (k : κ) (hpc : s.pc t = .locking k) (hfree : s.mutex = none) :
      Action load s t { s.move t (.finding k) with mutex := some t }
  | hit (k : κ) (a : Nat) (hpc : s.pc t = .finding k) (ha : s.cached k = some a) :
      Action load s t (s.move t (.unlocking k a))
  | miss (k : κ) (hpc : s.pc t = .finding k) (hnone : s.cached k = none) :
      Action load s t { s.move t (.unlocking k s.cells.length) with
        cached := Function.update s.cached k (some s.cells.length), cells := s.cells ++ [.fresh] }
  | unlock (k : κ) (a : Nat) (hpc : s.pc t = .unlocking k a) :
      Action load s t { s.move t (.entering k a) with mutex := none }
  | begin (k : κ) (a : Nat) (hpc : s.pc t = .entering k a) (hfresh : s.cells[a]? = some .fresh) :
      Action load s t { s.move t (.loading k a) with cells := s.cells.set a (.running t) }
  | pass (k : κ) (a : Nat) (hpc : s.pc t = .entering k a) (hfresh : s.cells[a]? ≠ some .fresh)
      (hrunning : ∀ u, s.cells[a]? ≠ some (.running u)) : Action load s t (s.move t (.reading k a))
  | answer (k : κ) (a : Nat) (r : ρ) (hpc : s.pc t = .loading k a) :
      Action load s t { s.move t (.storing k a r) with asked := s.asked ++ [(k, r)] }
  | store (k : κ) (a : Nat) (r : ρ) (hpc : s.pc t = .storing k a r) :
      Action load s t { s.move t (.reading k a) with cells := s.cells.set a (.done (load k r)) }
  | read (k : κ) (a : Nat) (hpc : s.pc t = .reading k a) :
      Action load s t { s.move t .idle with returns := s.returns ++ [(k, s.cells[a]?.bind Cell.value)] }

theorem step_action (h : step load s t input = some s') : Action load s t s' := by
  unfold step at h
  split at h
  · cases h
    exact .lookup _ ‹_›
  · split at h
    · cases h
      exact .lock _ ‹_› (Option.isNone_iff_eq_none.1 ‹_›)
    · cases h
  · split at h <;> cases h
    · exact .hit _ _ ‹_› ‹_›
    · exact .miss _ ‹_› ‹_›
  · cases h
    exact .unlock _ _ ‹_›
  · split at h
    · cases h
      exact .begin _ _ ‹_› ‹_›
    · cases h
    · rename_i hfresh hrunning
      cases h
      exact .pass _ _ ‹_› hfresh hrunning
  · cases h
    exact .answer _ _ _ ‹_›
  · cases h
    exact .store _ _ _ ‹_›
  · cases h
    exact .read _ _ ‹_›
  · cases h

end

/-! ## The invariant -/

section

variable [DecidableEq κ]

/-- The answers for a key so far. -/
def State.answers (s : State τ κ ρ ν) (k : κ) : List ρ := (s.asked.filter fun p => p.1 = k).map Prod.snd

/-- What a thread can rely on. -/
def Knows (s : State τ κ ρ ν) (t : τ) : PC κ ρ → Prop
  | .idle => True
  | .locking _ => True
  | .finding _ => s.mutex = some t
  | .unlocking k a => s.mutex = some t ∧ s.cached k = some a
  | .entering k a => s.cached k = some a
  | .loading k a => s.cached k = some a ∧ s.cells[a]? = some (.running t) ∧ s.answers k = []
  | .storing k a r => s.cached k = some a ∧ s.cells[a]? = some (.running t) ∧ s.answers k = [r]
  | .reading k a => s.cached k = some a ∧ ∃ v, s.cells[a]? = some (.done v)

/-- What the entry of a key has seen. -/
def Filed (load : κ → ρ → ν) (s : State τ κ ρ ν) (k : κ) (a : Nat) : Prop :=
  match s.cells[a]? with
  | none => False
  | some .fresh => s.answers k = []
  | some (.running t) => s.pc t = .loading k a ∨ ∃ r, s.pc t = .storing k a r
  | some (.done v) => ∃ r, s.answers k = [r] ∧ v = load k r

structure Inv (load : κ → ρ → ν) (s : State τ κ ρ ν) : Prop where
  knows : ∀ t, Knows s t (s.pc t)
  holder : ∀ t, s.mutex = some t → (∃ k, s.pc t = .finding k) ∨ ∃ k a, s.pc t = .unlocking k a
  missing : ∀ k, s.cached k = none → s.answers k = []
  filed : ∀ k a, s.cached k = some a → Filed load s k a
  apart : ∀ k k' a, s.cached k = some a → s.cached k' = some a → k = k'
  returned : ∀ k o, (k, o) ∈ s.returns → ∃ r, s.answers k = [r] ∧ o = some (load k r)

theorem Inv.initial (load : κ → ρ → ν) : Inv load ({} : State τ κ ρ ν) where
  knows _ := trivial
  holder := nofun
  missing _ _ := rfl
  filed := nofun
  apart := nofun
  returned := nofun

end

section

variable [DecidableEq κ] {load : κ → ρ → ν} {s s' : State τ κ ρ ν} {t : τ}

/-- A key with a cell that `t` is not running is not one that `t` waits for an answer for. -/
theorem Inv.not_loading (h : Inv load s) {k : κ} {a : Nat} (ha : s.cached k = some a)
    (hcell : s.cells[a]? ≠ some (.running t)) (b : Nat) : s.pc t ≠ .loading k b := by
  intro hpc
  have hself := h.knows t
  rw [hpc] at hself
  cases ha.symm.trans hself.1
  exact hcell hself.2.1

/-- A key is asked for at most once. -/
theorem Inv.asked_once (h : Inv load s) (k : κ) : s.answers k = [] ∨ ∃ r, s.answers k = [r] := by
  cases ha : s.cached k with
  | none => exact Or.inl (h.missing k ha)
  | some a =>
    have hfiled := h.filed k a ha
    unfold Filed at hfiled
    split at hfiled
    · exact hfiled.elim
    · exact Or.inl hfiled
    · rename_i t _
      have hknows := h.knows t
      rcases hfiled with hpc | ⟨r, hpc⟩ <;> rw [hpc] at hknows
      · exact Or.inl hknows.2.2
      · exact Or.inr ⟨r, hknows.2.2⟩
    · obtain ⟨r, hone, -⟩ := hfiled
      exact Or.inr ⟨r, hone⟩

/-- Nothing happened to the entry of this key. -/
theorem Filed.keep {k : κ} {a : Nat} (h : Filed load s k a) (hcells : s'.cells[a]? = s.cells[a]?)
    (hanswers : s'.answers k = s.answers k) (hpc : ∀ u, s.cells[a]? = some (.running u) → s'.pc u = s.pc u) :
    Filed load s' k a := by
  unfold Filed at h ⊢
  rw [hcells, hanswers]
  split
  · rename_i hnone
    simp [hnone] at h
  · rename_i hfresh
    simpa [hfresh] using h
  · rename_i u hrunning
    rw [hpc u hrunning]
    simpa [hrunning] using h
  · rename_i v hdone
    simpa [hdone] using h

/-- The entry of a key is in the list. -/
theorem Inv.lt_length (h : Inv load s) {k : κ} {a : Nat} (ha : s.cached k = some a) : a < s.cells.length := by
  by_contra hlt
  have hfiled := h.filed k a ha
  rw [Filed, List.getElem?_eq_none (Nat.le_of_not_lt hlt)] at hfiled
  exact hfiled

end

section

variable {cells : List (Cell τ ν)} {a b : Nat} {c old new : Cell τ ν}

/-- A cell that was written to, but not this one. -/
theorem getElem?_set_other (hold : cells[a]? = some old)
    (hb : cells[b]? = some c) (hne : c ≠ old) : (cells.set a new)[b]? = some c := by
  have hab : a ≠ b := by
    rintro rfl
    exact hne (Option.some.inj (hb.symm.trans hold))
  rw [List.getElem?_set_ne hab, hb]

theorem getElem?_set_here (hold : cells[a]? = some old) :
    (cells.set a new)[a]? = some new :=
  List.getElem?_set_self (List.getElem?_eq_some_iff.1 hold).1

end

section

variable [DecidableEq κ] {load : κ → ρ → ν} {s s' : State τ κ ρ ν} {t : τ}

/-- What an action of `t` leaves alone. -/
structure Frame (s s' : State τ κ ρ ν) (t : τ) : Prop where
  pc : ∀ u, u ≠ t → s'.pc u = s.pc u
  mutex : ∀ u, u ≠ t → (s'.mutex = some u ↔ s.mutex = some u)
  cached : ∀ k a, s.cached k = some a → s'.cached k = some a
  cells : ∀ (a : Nat) (c : Cell τ ν), s.cells[a]? = some c → c ≠ .fresh → c ≠ .running t → s'.cells[a]? = some c
  answers : ∀ k, (∀ a, s.pc t ≠ .loading k a) → s'.answers k = s.answers k

theorem Inv.knows_other (h : Inv load s) (hframe : Frame s s' t) {u : τ} (hu : u ≠ t) : Knows s' u (s'.pc u) := by
  rw [hframe.pc u hu]
  have hother := h.knows u
  have hrunning : ∀ k a, s.cached k = some a → s.cells[a]? = some (.running u) →
      s'.cells[a]? = some (.running u) ∧ s'.answers k = s.answers k := by
    intro k a ha hcell
    have hne : (Cell.running u : Cell τ ν) ≠ .running t := fun heq => hu (Cell.running.inj heq)
    refine ⟨hframe.cells a _ hcell nofun hne, hframe.answers k (h.not_loading ha ?_)⟩
    rw [hcell]
    exact fun heq => hne (Option.some.inj heq)
  cases hpc : s.pc u with
  | idle => trivial
  | locking k => trivial
  | finding k =>
    rw [hpc] at hother
    exact (hframe.mutex u hu).2 hother
  | unlocking k a =>
    rw [hpc] at hother
    exact ⟨(hframe.mutex u hu).2 hother.1, hframe.cached k a hother.2⟩
  | entering k a =>
    rw [hpc] at hother
    exact hframe.cached k a hother
  | loading k a =>
    rw [hpc] at hother
    obtain ⟨ha, hcell, hnone⟩ := hother
    obtain ⟨hcell', hanswers⟩ := hrunning k a ha hcell
    exact ⟨hframe.cached k a ha, hcell', hanswers.trans hnone⟩
  | storing k a r =>
    rw [hpc] at hother
    obtain ⟨ha, hcell, hone⟩ := hother
    obtain ⟨hcell', hanswers⟩ := hrunning k a ha hcell
    exact ⟨hframe.cached k a ha, hcell', hanswers.trans hone⟩
  | reading k a =>
    rw [hpc] at hother
    obtain ⟨ha, v, hcell⟩ := hother
    exact ⟨hframe.cached k a ha, v, hframe.cells a _ hcell nofun nofun⟩

/-- The entries of keys that `t` neither makes nor loads. -/
theorem Inv.filed_frame (h : Inv load s) (hframe : Frame s s' t) {k : κ} {a : Nat} (ha : s.cached k = some a)
    (hcells : s'.cells[a]? = s.cells[a]?) (hrunning : s.cells[a]? ≠ some (.running t)) : Filed load s' k a := by
  refine (h.filed k a ha).keep hcells (hframe.answers k (h.not_loading ha hrunning)) fun u hu => hframe.pc u ?_
  rintro rfl
  exact hrunning hu

/-- A thread that is not in a load runs no entry. -/
theorem Inv.not_running (h : Inv load s) {k : κ} {a : Nat} (ha : s.cached k = some a)
    (hpc : ∀ k b, s.pc t ≠ .loading k b ∧ ∀ r, s.pc t ≠ .storing k b r) : s.cells[a]? ≠ some (.running t) := by
  intro hcell
  have hfiled := h.filed k a ha
  simp only [Filed, hcell] at hfiled
  rcases hfiled with hload | ⟨r, hstore⟩
  · exact (hpc k a).1 hload
  · exact (hpc k a).2 r hstore

end

section

variable [DecidableEq τ] [DecidableEq κ] {load : κ → ρ → ν} {s s' : State τ κ ρ ν} {t : τ}

theorem Inv.frame (h : Inv load s) (haction : Action load s t s') : Frame s s' t := by
  have hself := h.knows t
  have hpcs : ∀ {pc : PC κ ρ} (u : τ), u ≠ t → Function.update s.pc t pc u = s.pc u :=
    fun u hu => Function.update_of_ne hu _ _
  cases haction with
  | lookup k hpc => exact ⟨hpcs, fun _ _ => Iff.rfl, fun _ _ ha => ha, fun _ _ hc _ _ => hc, fun _ _ => rfl⟩
  | lock k hpc hfree =>
    refine ⟨hpcs, fun u hu => ?_, fun _ _ ha => ha, fun _ _ hc _ _ => hc, fun _ _ => rfl⟩
    simp [hfree, hu.symm]
  | hit k a hpc ha => exact ⟨hpcs, fun _ _ => Iff.rfl, fun _ _ ha => ha, fun _ _ hc _ _ => hc, fun _ _ => rfl⟩
  | miss k hpc hnone =>
    refine ⟨hpcs, fun _ _ => Iff.rfl, fun k' a ha => ?_, fun a c hc _ _ => ?_, fun _ _ => rfl⟩
    · have hne : k' ≠ k := by
        rintro rfl
        cases hnone.symm.trans ha
      exact (Function.update_of_ne hne _ _).trans ha
    · exact (List.getElem?_append_left (List.getElem?_eq_some_iff.1 hc).1).trans hc
  | unlock k a hpc =>
    refine ⟨hpcs, fun u hu => ?_, fun _ _ ha => ha, fun _ _ hc _ _ => hc, fun _ _ => rfl⟩
    rw [hpc] at hself
    simp [hself.1, hu.symm]
  | begin k a hpc hfresh =>
    refine ⟨hpcs, fun _ _ => Iff.rfl, fun _ _ ha => ha, fun b c hc hne _ => ?_, fun _ _ => rfl⟩
    exact getElem?_set_other hfresh hc hne
  | pass k a hpc hfresh hrunning =>
    exact ⟨hpcs, fun _ _ => Iff.rfl, fun _ _ ha => ha, fun _ _ hc _ _ => hc, fun _ _ => rfl⟩
  | answer k a r hpc =>
    refine ⟨hpcs, fun _ _ => Iff.rfl, fun _ _ ha => ha, fun _ _ hc _ _ => hc, fun k' hk' => ?_⟩
    have hne : k ≠ k' := by
      rintro rfl
      exact hk' a hpc
    simp [State.answers, hne]
  | store k a r hpc =>
    rw [hpc] at hself
    refine ⟨hpcs, fun _ _ => Iff.rfl, fun _ _ ha => ha, fun b c hc _ hne => ?_, fun _ _ => rfl⟩
    exact getElem?_set_other hself.2.1 hc hne
  | read k a hpc => exact ⟨hpcs, fun _ _ => Iff.rfl, fun _ _ ha => ha, fun _ _ hc _ _ => hc, fun _ _ => rfl⟩

theorem Inv.filed_action (h : Inv load s) (haction : Action load s t s') (k : κ) (a : Nat)
    (ha : s'.cached k = some a) : Filed load s' k a := by
  have hframe := h.frame haction
  have hself := h.knows t
  -- outside a load the entries stay as they are
  have houtside : s'.cells = s.cells → s'.cached = s.cached →
      (∀ k b, s.pc t ≠ .loading k b ∧ ∀ r, s.pc t ≠ .storing k b r) → Filed load s' k a := by
    intro hcells hcached hpc
    rw [hcached] at ha
    exact h.filed_frame hframe ha (by rw [hcells]) (h.not_running ha hpc)
  cases haction with
  | lookup k' hpc => exact houtside rfl rfl (by simp [hpc])
  | lock k' hpc hfree => exact houtside rfl rfl (by simp [hpc])
  | hit k' a' hpc ha' => exact houtside rfl rfl (by simp [hpc])
  | unlock k' a' hpc => exact houtside rfl rfl (by simp [hpc])
  | pass k' a' hpc hfresh hrunning => exact houtside rfl rfl (by simp [hpc])
  | read k' a' hpc => exact houtside rfl rfl (by simp [hpc])
  | miss k' hpc hnone =>
    by_cases hk : k = k'
    · subst hk
      obtain rfl : s.cells.length = a := by simpa using ha
      simp only [Filed, List.getElem?_concat_length]
      exact h.missing k hnone
    · have hold : s.cached k = some a := by simpa [Function.update_of_ne hk] using ha
      refine h.filed_frame hframe hold (List.getElem?_append_left (h.lt_length hold)) (h.not_running hold ?_)
      simp [hpc]
  | begin k' a' hpc hfresh =>
    by_cases haa : a' = a
    · subst haa
      rw [hpc] at hself
      obtain rfl := h.apart k' k a' hself ha
      simp only [Filed, getElem?_set_here hfresh]
      exact Or.inl (Function.update_self ..)
    · exact h.filed_frame hframe ha (List.getElem?_set_ne haa) (h.not_running ha (by simp [hpc]))
  | answer k' a' r hpc =>
    rw [hpc] at hself
    by_cases haa : a' = a
    · subst haa
      obtain rfl := h.apart k' k a' hself.1 ha
      simp only [Filed, State.move, hself.2.1]
      exact Or.inr ⟨r, Function.update_self ..⟩
    · refine h.filed_frame hframe ha rfl fun hrunning => haa ?_
      have hfiled := h.filed k a ha
      simp only [Filed, hrunning, hpc] at hfiled
      rcases hfiled with heq | ⟨_, heq⟩
      · exact (PC.loading.inj heq).2
      · cases heq
  | store k' a' r hpc =>
    rw [hpc] at hself
    by_cases haa : a' = a
    · subst haa
      obtain rfl := h.apart k' k a' hself.1 ha
      simp only [Filed, getElem?_set_here hself.2.1]
      exact ⟨r, hself.2.2, rfl⟩
    · refine h.filed_frame hframe ha (List.getElem?_set_ne haa) fun hrunning => haa ?_
      have hfiled := h.filed k a ha
      simp only [Filed, hrunning, hpc] at hfiled
      rcases hfiled with heq | ⟨_, heq⟩
      · cases heq
      · exact (PC.storing.inj heq).2.1

/-- What `t` itself knows after its action. -/
theorem Inv.knows_self (h : Inv load s) (haction : Action load s t s') : Knows s' t (s'.pc t) := by
  have hself := h.knows t
  cases haction with
  | lookup k hpc => simp [State.move, Knows]
  | lock k hpc hfree => simp [State.move, Knows]
  | hit k a hpc ha =>
    rw [hpc] at hself
    simpa [State.move, Knows, ha] using hself
  | miss k hpc hnone =>
    rw [hpc] at hself
    simpa [State.move, Knows] using hself
  | unlock k a hpc =>
    rw [hpc] at hself
    simpa [State.move, Knows] using hself.2
  | begin k a hpc hfresh =>
    rw [hpc] at hself
    have hfiled := h.filed k a hself
    simp only [Filed, hfresh] at hfiled
    simp only [State.move, Function.update_self, Knows]
    exact ⟨hself, getElem?_set_here hfresh, hfiled⟩
  | pass k a hpc hfresh hrunning =>
    rw [hpc] at hself
    have hfiled := h.filed k a hself
    simp only [State.move, Function.update_self, Knows]
    refine ⟨hself, ?_⟩
    rcases hcell : s.cells[a]? with _ | _ | u | v
    · simp [Filed, hcell] at hfiled
    · exact absurd hcell hfresh
    · exact absurd hcell (hrunning u)
    · exact ⟨v, rfl⟩
  | answer k a r hpc =>
    rw [hpc] at hself
    obtain ⟨ha, hcell, hnone⟩ := hself
    simp only [State.move, Function.update_self, Knows]
    refine ⟨ha, hcell, ?_⟩
    simp only [State.answers, List.map_eq_nil_iff] at hnone
    simp [State.answers, hnone]
  | store k a r hpc =>
    rw [hpc] at hself
    simp only [State.move, Function.update_self, Knows]
    exact ⟨hself.1, _, getElem?_set_here hself.2.1⟩
  | read k a hpc => simp [State.move, Knows]

theorem Inv.holder_self (h : Inv load s) (haction : Action load s t s') (hmutex : s'.mutex = some t) :
    (∃ k, s'.pc t = .finding k) ∨ ∃ k a, s'.pc t = .unlocking k a := by
  -- with the mutex, `t` is at the map or on its way out
  have hheld : s.mutex = some t → (∀ k, s.pc t ≠ .finding k) → (∀ k a, s.pc t ≠ .unlocking k a) → False := by
    intro hheld hfinding hunlocking
    rcases h.holder t hheld with ⟨k, hpc⟩ | ⟨k, a, hpc⟩
    · exact hfinding k hpc
    · exact hunlocking k a hpc
  cases haction with
  | lock k hpc hfree => exact Or.inl ⟨k, Function.update_self ..⟩
  | hit k a hpc ha => exact Or.inr ⟨k, a, Function.update_self ..⟩
  | miss k hpc hnone => exact Or.inr ⟨k, _, Function.update_self ..⟩
  | unlock k a hpc => cases hmutex
  | lookup k hpc => exact (hheld hmutex (by simp [hpc]) (by simp [hpc])).elim
  | begin k a hpc hfresh => exact (hheld hmutex (by simp [hpc]) (by simp [hpc])).elim
  | pass k a hpc hfresh hrunning => exact (hheld hmutex (by simp [hpc]) (by simp [hpc])).elim
  | answer k a r hpc => exact (hheld hmutex (by simp [hpc]) (by simp [hpc])).elim
  | store k a r hpc => exact (hheld hmutex (by simp [hpc]) (by simp [hpc])).elim
  | read k a hpc => exact (hheld hmutex (by simp [hpc]) (by simp [hpc])).elim

theorem Inv.apart_action (h : Inv load s) (haction : Action load s t s') (k k' : κ) (a : Nat)
    (hk : s'.cached k = some a) (hk' : s'.cached k' = some a) : k = k' := by
  cases haction with
  | miss k₀ hpc hnone =>
    simp only [Function.update_apply] at hk hk'
    split_ifs at hk hk' with h₀ h₀' h₀'
    · exact h₀.trans h₀'.symm
    · exact absurd (Option.some.inj hk) (Nat.ne_of_gt (h.lt_length hk'))
    · exact absurd (Option.some.inj hk') (Nat.ne_of_gt (h.lt_length hk))
    · exact h.apart k k' a hk hk'
  | _ => exact h.apart k k' a hk hk'

theorem Inv.returned_action (h : Inv load s) (haction : Action load s t s') (k : κ) (o : Option ν)
    (hreturn : (k, o) ∈ s'.returns) : ∃ r, s'.answers k = [r] ∧ o = some (load k r) := by
  have hframe := h.frame haction
  have hself := h.knows t
  have hold : (k, o) ∈ s.returns → ∃ r, s'.answers k = [r] ∧ o = some (load k r) := by
    intro hmem
    obtain ⟨r, hone, ho⟩ := h.returned k o hmem
    refine ⟨r, (hframe.answers k fun a hpc => ?_).trans hone, ho⟩
    rw [hpc] at hself
    cases hone.symm.trans hself.2.2
  cases haction with
  | read k' a hpc =>
    rcases List.mem_append.1 hreturn with hmem | hnew
    · exact hold hmem
    · obtain ⟨rfl, rfl⟩ := Prod.mk.inj (List.mem_singleton.1 hnew)
      rw [hpc] at hself
      obtain ⟨ha, v, hcell⟩ := hself
      have hfiled := h.filed k a ha
      simp only [Filed, hcell] at hfiled
      obtain ⟨r, hone, rfl⟩ := hfiled
      exact ⟨r, hone, by rw [hcell]; rfl⟩
  | _ => exact hold hreturn

theorem Inv.action (h : Inv load s) (haction : Action load s t s') : Inv load s' := by
  have hframe := h.frame haction
  refine ⟨fun u => ?_, fun u hu => ?_, fun k hk => ?_, h.filed_action haction, h.apart_action haction,
    h.returned_action haction⟩
  · by_cases hut : u = t
    · exact hut ▸ h.knows_self haction
    · exact h.knows_other hframe hut
  · by_cases hut : u = t
    · subst hut
      exact h.holder_self haction hu
    · rw [hframe.pc u hut]
      exact h.holder u ((hframe.mutex u hut).1 hu)
  · cases ha : s.cached k with
    | some a => cases hk.symm.trans (hframe.cached k a ha)
    | none =>
      rw [hframe.answers k fun a hpc => ?_]
      · exact h.missing k ha
      · have hself := h.knows t
        rw [hpc] at hself
        cases ha.symm.trans hself.1

variable (load) in
/-- Every interleaving keeps the invariant. -/
theorem run_inv (schedule : List (τ × Input κ ρ)) (h : Inv load s) : Inv load (run load s schedule) := by
  induction schedule generalizing s with
  | nil => exact h
  | cons turn rest ih =>
    refine ih (s := (step load s turn.1 turn.2).getD s) ?_
    cases hstep : step load s turn.1 turn.2 with
    | none => exact h
    | some s' => exact h.action (step_action hstep)

/-! ## Who waits for whom -/

variable (load s) in
/-- The thread can go on at once, or as soon as the answer it asked for comes. -/
def Ready (t : τ) : Prop :=
  (step load s t .go).isSome ∨ ((∃ k a, s.pc t = .loading k a) ∧ ∀ r, (step load s t (.answer r)).isSome)

/-- The thread runs the load of this key. -/
def Loads (s : State τ κ ρ ν) (t : τ) (k : κ) : Prop := ∃ a, s.pc t = .loading k a ∨ ∃ r, s.pc t = .storing k a r

/-- A thread that has to wait waits for the mutex, whose holder can go on at once, or for a thread that loads the same
key. -/
theorem Inv.waits_for (h : Inv load s) (t : τ) (hbusy : s.pc t ≠ .idle) :
    Ready load s t ∨
    (∃ k u, s.pc t = .locking k ∧ s.mutex = some u ∧ (step load s u .go).isSome) ∨
    ∃ k a u, s.pc t = .entering k a ∧ Loads s u k ∧ Ready load s u := by
  have hloading : ∀ {u k a}, s.pc u = .loading k a → Ready load s u := fun {u k a} hu =>
    Or.inr ⟨⟨k, a, hu⟩, fun r => by simp [step, hu]⟩
  cases hpc : s.pc t with
  | idle => exact absurd hpc hbusy
  | locking k =>
    cases hmutex : s.mutex with
    | none => exact Or.inl (Or.inl (by simp [step, hpc, hmutex]))
    | some u =>
      refine Or.inr (Or.inl ⟨k, u, rfl, rfl, ?_⟩)
      rcases h.holder u hmutex with ⟨k', hu⟩ | ⟨k', a, hu⟩
      · cases hcached : s.cached k' <;> simp [step, hu, hcached]
      · simp [step, hu]
  | finding k => exact Or.inl (Or.inl (by cases hcached : s.cached k <;> simp [step, hpc, hcached]))
  | unlocking k a => exact Or.inl (Or.inl (by simp [step, hpc]))
  | entering k a =>
    have hself := h.knows t
    rw [hpc] at hself
    have hfiled := h.filed k a hself
    rcases hcell : s.cells[a]? with _ | _ | u | v
    · simp [Filed, hcell] at hfiled
    · exact Or.inl (Or.inl (by simp [step, hpc, hcell]))
    · simp only [Filed, hcell] at hfiled
      refine Or.inr (Or.inr ⟨k, a, u, rfl, ⟨a, hfiled⟩, ?_⟩)
      rcases hfiled with hu | ⟨r, hu⟩
      · exact hloading hu
      · exact Or.inl (by simp [step, hu])
    · exact Or.inl (Or.inl (by simp [step, hpc, hcell]))
  | loading k a => exact Or.inl (hloading hpc)
  | storing k a r => exact Or.inl (Or.inl (by simp [step, hpc]))
  | reading k a => exact Or.inl (Or.inl (by simp [step, hpc]))

end

end OnceCache
