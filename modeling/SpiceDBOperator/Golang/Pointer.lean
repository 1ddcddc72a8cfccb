import SpiceDBOperator.Golang.Any

/-!
# JSON pointers

A JSON pointer is a list of tokens: a token names a field of an object, or is the index of an element of an array.
`Any.update f path` changes the value at a path by `f` and fails where the path does not lead to a value or `f` fails on
it; with a constant `f` this is the `replace` operation of a JSON patch, whose target has to exist. Two updates at one
path agree exactly if they agree on the value there (`Any.update_eq_iff`), and an update at a longer path is an update
at its first part (`Any.update_append`).
-/

namespace Golang

def updateField (k : String) (f : Any → Option Any) : List (String × Any) → Option (List (String × Any))
  | [] => none
  | (k', v) :: rest =>
    if k == k' then (f v).map fun v' => (k', v') :: rest else (updateField k f rest).map ((k', v) :: ·)

def updateElement (f : Any → Option Any) : Nat → List Any → Option (List Any)
  | _, [] => none
  | 0, v :: rest => (f v).map (· :: rest)
  | i + 1, v :: rest => (updateElement f i rest).map (v :: ·)

section

variable {f g : Any → Option Any} {k : String} {v : Any}

theorem updateField_eq_none {fields : List (String × Any)} :
    updateField k f fields = none ↔ (fields.lookup k).bind f = none := by
  induction fields with
  | nil => exact iff_of_true rfl rfl
  | cons field rest ih =>
    rw [updateField, List.lookup_cons]
    cases hk : k == field.1 with
    | true => simp
    | false => simpa using ih

theorem updateField_eq_iff {fields : List (String × Any)} (h : fields.lookup k = some v) :
    updateField k f fields = updateField k g fields ↔ f v = g v := by
  induction fields with
  | nil => simp at h
  | cons field rest ih =>
    rw [List.lookup_cons] at h
    rw [updateField, updateField]
    cases hk : k == field.1 with
    | true =>
      obtain rfl : field.2 = v := by simpa [hk] using h
      simp only [if_true]
      exact (Option.map_injective fun _ _ h => by simpa using h).eq_iff
    | false =>
      rw [← ih (by simpa [hk] using h)]
      simp only [Bool.false_eq_true, if_false]
      exact (Option.map_injective (List.cons_injective)).eq_iff

theorem updateElement_eq_none {i : Nat} {xs : List Any} : updateElement f i xs = none ↔ xs[i]?.bind f = none := by
  induction xs generalizing i with
  | nil => exact iff_of_true (by rw [updateElement]) rfl
  | cons x rest ih =>
    cases i with
    | zero => simp [updateElement]
    | succ i => simpa [updateElement] using ih

theorem updateElement_eq_iff {i : Nat} {xs : List Any} (h : xs[i]? = some v) :
    updateElement f i xs = updateElement g i xs ↔ f v = g v := by
  induction xs generalizing i with
  | nil => cases h
  | cons x rest ih =>
    cases i with
    | zero =>
      cases h
      exact (Option.map_injective fun _ _ h => (List.cons.inj h).1).eq_iff
    | succ i =>
      rw [← ih h, updateElement, updateElement]
      exact (Option.map_injective List.cons_injective).eq_iff

end

/-- A token as the index of an element. -/
def arrayIndex (token : String) : Option Nat := (parseUint32 token.toList).toOption

namespace Any

/-- The value at a path. -/
def get : List String → Any → Option Any
  | [], v => some v
  | token :: rest, .object fields => (fields.lookup token).bind (get rest)
  | token :: rest, .array xs => ((arrayIndex token).bind (xs[·]?)).bind (get rest)
  | _ :: _, _ => none

def update (f : Any → Option Any) : List String → Any → Option Any
  | [], v => f v
  | token :: rest, .object fields => (updateField token (update f rest) fields).map .object
  | token :: rest, .array xs => (arrayIndex token).bind fun i => (updateElement (update f rest) i xs).map .array
  | _ :: _, _ => none

/-- The operation `replace`. -/
def replace (path : List String) (new : Any) : Any → Option Any := update (fun _ => some new) path

variable {f g : Any → Option Any}

theorem update_append (path path' : List String) (v : Any) :
    update f (path ++ path') v = update (update f path') path v := by
  induction path generalizing v with
  | nil => rfl
  | cons token rest ih =>
    have hrest : update f (rest ++ path') = update (update f path') rest := funext ih
    cases v with
    | object fields => rw [List.cons_append, update, update, hrest]
    | array xs => rw [List.cons_append, update, update, hrest]
    | _ => rfl

theorem get_append (path path' : List String) (v : Any) : get (path ++ path') v = (get path v).bind (get path') := by
  induction path generalizing v with
  | nil => rfl
  | cons token rest ih =>
    have hrest : get (rest ++ path') = fun w => (get rest w).bind (get path') := funext ih
    cases v with
    | object fields => rw [List.cons_append, get, get, hrest, Option.bind_assoc]
    | array xs =>
      rw [List.cons_append, get, get, hrest]
      exact (Option.bind_assoc _ _ _).symm
    | _ => rfl

/-- An update fails where there is no value or it fails on the value. -/
theorem update_eq_none {path : List String} {v : Any} : update f path v = none ↔ (get path v).bind f = none := by
  induction path generalizing v with
  | nil => rfl
  | cons token rest ih =>
    have hrest : ∀ o : Option Any, o.bind (update f rest) = none ↔ (o.bind (get rest)).bind f = none := by
      intro o
      cases o with
      | none => exact Iff.rfl
      | some w => exact ih
    cases v with
    | object fields => rw [update, get, Option.map_eq_none_iff, updateField_eq_none, hrest]
    | array xs =>
      rw [update, get]
      cases arrayIndex token with
      | none => exact Iff.rfl
      | some i =>
        rw [Option.bind_some, Option.map_eq_none_iff, updateElement_eq_none, hrest]
        rfl
    | _ => exact Iff.rfl

theorem update_eq_iff {path : List String} {v x : Any} (h : get path v = some x) :
    update f path v = update g path v ↔ f x = g x := by
  induction path generalizing v with
  | nil =>
    cases h
    rfl
  | cons token rest ih =>
    cases v with
    | object fields =>
      obtain ⟨w, hw, hx⟩ := Option.bind_eq_some_iff.1 h
      rw [← ih hx, update, update, ← updateField_eq_iff hw]
      exact (Option.map_injective fun _ _ h => by simpa using h).eq_iff
    | array xs =>
      obtain ⟨w, hw, hx⟩ := Option.bind_eq_some_iff.1 h
      obtain ⟨i, hi, hw⟩ := Option.bind_eq_some_iff.1 hw
      rw [← ih hx, update, update, ← updateElement_eq_iff hw, hi]
      exact (Option.map_injective fun _ _ h => by simpa using h).eq_iff
    | _ => cases h

theorem updateField_self {fields : List (String × Any)} {k : String} {v : Any} (h : fields.lookup k = some v)
    (hf : f v = some v) : updateField k f fields = some fields := by
  induction fields with
  | nil => simp at h
  | cons field rest ih =>
    rw [List.lookup_cons] at h
    rw [updateField]
    cases hk : k == field.1 with
    | true =>
      obtain rfl : field.2 = v := by simpa [hk] using h
      simp [hf]
    | false => simp [ih (by simpa [hk] using h)]

theorem updateElement_self {xs : List Any} {i : Nat} {v : Any} (h : xs[i]? = some v) (hf : f v = some v) :
    updateElement f i xs = some xs := by
  induction xs generalizing i with
  | nil => cases h
  | cons x rest ih =>
    cases i with
    | zero =>
      cases h
      simp [updateElement, hf]
    | succ i => simp [updateElement, ih h]

/-- An update that leaves the value alone leaves all alone. -/
theorem update_self {path : List String} {v x : Any} (h : get path v = some x) (hf : f x = some x) :
    update f path v = some v := by
  induction path generalizing v with
  | nil =>
    cases h
    exact hf
  | cons token rest ih =>
    cases v with
    | object fields =>
      obtain ⟨w, hw, hx⟩ := Option.bind_eq_some_iff.1 h
      rw [update, updateField_self hw (ih hx), Option.map_some]
    | array xs =>
      obtain ⟨w, hw, hx⟩ := Option.bind_eq_some_iff.1 h
      obtain ⟨i, hi, hw⟩ := Option.bind_eq_some_iff.1 hw
      rw [update, hi, Option.bind_some, updateElement_self hw (ih hx), Option.map_some]
    | _ => cases h

theorem update_eq_self_iff {path : List String} {v x : Any} (h : get path v = some x) :
    update f path v = some v ↔ f x = some x := by
  rw [← update_self (f := some) h rfl]
  exact update_eq_iff h

theorem replace_eq_self_iff {path : List String} {v x new : Any} (h : get path v = some x) :
    replace path new v = some v ↔ new = x := by
  rw [replace, update_eq_self_iff h, Option.some_inj]

end Any

end Golang
