import Mathlib.Logic.Basic

/-!
# Programs with state and early exit

A program reads and writes a state and either returns a value or stops early; a program that stops keeps what
it did to the state. `Triple P m Q E` says what a run of `m` from a state with `P` can end in: `Q` where it
returns, `E` where it stops.

The rules follow the program text: `Triple.bind` along a sequence, `Triple.ite` and `Triple.assume` at branches,
`Triple.each` along a loop. An invariant is a triple with the same assertion in all three places.
-/

namespace Hoare

/-- State `σ`, early exits `ε`. -/
abbrev Prog (ε σ : Type) := ExceptT ε (StateM σ)

variable {ε σ α β : Type}

/-- A step that reads and changes the state. -/
def act (f : σ → α × σ) : Prog ε σ α := ExceptT.mk fun s => (.ok (f s).1, (f s).2)

/-- Leave the program. -/
def stop (e : ε) : Prog ε σ α := ExceptT.mk fun s => (.error e, s)

def exec (m : Prog ε σ α) (s : σ) : Except ε α × σ := m.run s

theorem exec_bind (m : Prog ε σ α) (f : α → Prog ε σ β) (s : σ) :
    exec (m >>= f) s = match exec m s with
      | (.ok a, s') => exec (f a) s'
      | (.error e, s') => (.error e, s') := by
  change exec (ExceptT.bind m f) s = _
  simp only [exec, ExceptT.bind, ExceptT.run, ExceptT.mk, bind, StateT.bind]
  rcases h : m s with ⟨a | a, s'⟩ <;> rfl

/-- A program that returns, in front of another. -/
theorem exec_bind_ok {m : Prog ε σ α} {s s' : σ} {a : α} (h : exec m s = (.ok a, s')) (f : α → Prog ε σ β) :
    exec (m >>= f) s = exec (f a) s' := by rw [exec_bind, h]

structure Triple (P : σ → Prop) (m : Prog ε σ α) (Q : α → σ → Prop) (E : ε → σ → Prop) : Prop where
  run : ∀ s, P s → match exec m s with
    | (.ok a, s') => Q a s'
    | (.error e, s') => E e s'

namespace Triple

variable {P P' : σ → Prop} {Q Q' : α → σ → Prop} {R : β → σ → Prop} {E E' : ε → σ → Prop} {m m' : Prog ε σ α}

theorem pure {a : α} (h : ∀ s, P s → Q a s) : Triple P (Pure.pure a) Q E := ⟨h⟩

theorem act {f : σ → α × σ} (h : ∀ s, P s → Q (f s).1 (f s).2) : Triple P (act f) Q E := ⟨h⟩

theorem stop {e : ε} (h : ∀ s, P s → E e s) : Triple P (stop e) Q E := ⟨h⟩

/-- What a triple says about a run that returned. -/
theorem of_run {s s' : σ} {a : α} (h : Triple P m Q E) (hs : P s) (hrun : exec m s = (.ok a, s')) : Q a s' := by
  have := h.run s hs
  rwa [hrun] at this

theorem bind {f : α → Prog ε σ β} (hm : Triple P m Q E) (hf : ∀ a, Triple (Q a) (f a) R E) :
    Triple P (m >>= f) R E := by
  constructor
  intro s hs
  have first := hm.run s hs
  rw [exec_bind]
  rcases h : exec m s with ⟨e | a, s'⟩
  · rw [h] at first
    exact first
  · rw [h] at first
    exact (hf a).run s' first

theorem conseq (h : Triple P' m Q' E') (hpre : ∀ s, P s → P' s) (hpost : ∀ a s, Q' a s → Q a s)
    (hexit : ∀ e s, E' e s → E e s) : Triple P m Q E := by
  constructor
  intro s hs
  have := h.run s (hpre s hs)
  rcases hm : exec m s with ⟨e | a, s'⟩ <;> rw [hm] at this
  · exact hexit e s' this
  · exact hpost a s' this

theorem pre (h : Triple P' m Q E) (hpre : ∀ s, P s → P' s) : Triple P m Q E :=
  h.conseq hpre (fun _ _ => id) (fun _ _ => id)

/-- A run has one end, so what two triples say of it holds together. -/
theorem and (h : Triple P m Q E) (h' : Triple P m Q' E') :
    Triple P m (fun a s => Q a s ∧ Q' a s) (fun e s => E e s ∧ E' e s) := by
  constructor
  intro s hs
  have hfirst := h.run s hs
  have hsecond := h'.run s hs
  rcases hm : exec m s with ⟨e | a, s'⟩ <;> rw [hm] at hfirst hsecond
  · exact ⟨hfirst, hsecond⟩
  · exact ⟨hfirst, hsecond⟩

/-- What holds at both ends of a program holds of the state it leaves. -/
theorem always {I : σ → Prop} (h : Triple P m (fun _ => I) (fun _ => I)) {s : σ} (hs : P s) : I (exec m s).2 := by
  have hrun := h.run s hs
  rcases hm : exec m s with ⟨e | a, s'⟩ <;> rw [hm] at hrun
  · exact hrun
  · exact hrun

/-- A fact that does not speak of the state moves out of the precondition. -/
theorem assume {A : Prop} (h : A → Triple P m Q E) : Triple (fun s => A ∧ P s) m Q E :=
  ⟨fun s hs => (h hs.1).run s hs.2⟩

theorem known {A : Prop} (h : A → Triple (fun _ => True) m Q E) : Triple (fun _ => A) m Q E :=
  ⟨fun s hA => (h hA).run s trivial⟩

theorem trivially : Triple P m (fun _ _ => True) (fun _ _ => True) :=
  ⟨fun s _ => by split <;> trivial⟩

theorem ite {c : Prop} [Decidable c] (hpos : c → Triple P m Q E) (hneg : ¬c → Triple P m' Q E) :
    Triple P (if c then m else m') Q E := by
  by_cases hc : c
  · rw [if_pos hc]; exact hpos hc
  · rw [if_neg hc]; exact hneg hc

/-- Both branches end in `m'`. -/
theorem ite_join {c : Prop} [Decidable c] (hrest : Triple P m' Q E) (hpos : c → Triple P m' Q E → Triple P m Q E) :
    Triple P (if c then m else m') Q E :=
  ite (fun hc => hpos hc hrest) fun _ => hrest

end Triple

/-! ## Loops -/

/-- Run `body` on each element in turn. -/
def each (xs : List α) (body : α → Prog ε σ Unit) : Prog ε σ Unit :=
  match xs with
  | [] => pure ()
  | x :: rest => do
    body x
    each rest body

theorem Triple.each {I : σ → Prop} {E : ε → σ → Prop} {xs : List α} {body : α → Prog ε σ Unit}
    (h : ∀ x ∈ xs, Triple I (body x) (fun _ => I) E) : Triple I (each xs body) (fun _ => I) E := by
  induction xs with
  | nil => exact Triple.pure fun _ hs => hs
  | cons x rest ih =>
    apply Triple.bind (h x (List.mem_cons_self ..))
    intro _
    exact ih fun y hy => h y (List.mem_cons_of_mem _ hy)

/-- A loop that keeps account of the elements it has been through. -/
theorem Triple.each_through {I : List α → σ → Prop} {E : ε → σ → Prop} {xs : List α} {body : α → Prog ε σ Unit}
    (h : ∀ through x, Triple (I through) (body x) (fun _ => I (through ++ [x])) E) :
    Triple (I []) (Hoare.each xs body) (fun _ => I xs) E := by
  suffices hloop : ∀ through, Triple (I through) (Hoare.each xs body) (fun _ => I (through ++ xs)) E from hloop []
  induction xs with
  | nil =>
    intro through
    exact Triple.pure fun _ hs => by rwa [List.append_nil]
  | cons x rest ih =>
    intro through
    refine Triple.bind (h through x) fun _ => ?_
    simpa only [List.append_assoc, List.singleton_append] using ih (through ++ [x])

end Hoare
