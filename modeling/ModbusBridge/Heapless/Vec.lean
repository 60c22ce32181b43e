/-!
This module contains vectors of a fixed capacity. Appending beyond the capacity fails and leaves the
vector as it was.
-/

namespace Heapless

structure Vec (α : Type) (cap : Nat) where
  data : List α
  length_le : data.length ≤ cap
  deriving DecidableEq, Repr

namespace Vec

variable {α : Type} {cap : Nat}

@[ext]
theorem ext {v w : Vec α cap} (h : v.data = w.data) : v = w := by
  cases v
  cases w
  simpa using h

def empty : Vec α cap := ⟨[], Nat.zero_le cap⟩

@[simp]
theorem data_empty : (empty : Vec α cap).data = [] := rfl

def extendFromSlice (v : Vec α cap) (other : List α) : Option (Vec α cap) :=
  if h : (v.data ++ other).length ≤ cap then
    some ⟨v.data ++ other, h⟩
  else
    none

def push (v : Vec α cap) (item : α) : Option (Vec α cap) :=
  v.extendFromSlice [item]

/--
A chain of appends that are all carried out, also after one of them has failed. The flag tells
whether all of them succeeded.
-/
def extendAll (v : Vec α cap) : List (List α) → Bool × Vec α cap
  | [] => (true, v)
  | other :: others =>
    let (ok, v) :=
      match v.extendFromSlice other with
      | some w => (true, w)
      | none => (false, v)
    let (oks, v) := v.extendAll others
    (ok && oks, v)

theorem extendFromSlice_of_le {v : Vec α cap} {other : List α}
    (h : v.data.length + other.length ≤ cap)
    : ∃ w, v.extendFromSlice other = some w ∧ w.data = v.data ++ other := by
  unfold extendFromSlice
  rw [dif_pos (by simpa using h)]
  exact ⟨_, rfl, rfl⟩

theorem extendFromSlice_empty {other : List α} (h : other.length ≤ cap)
    : ∃ w, (empty : Vec α cap).extendFromSlice other = some w ∧ w.data = other :=
  extendFromSlice_of_le (by simpa using h)

theorem extendFromSlice_of_lt {v : Vec α cap} {other : List α}
    (h : cap < v.data.length + other.length) : v.extendFromSlice other = none := by
  unfold extendFromSlice
  rw [dif_neg]
  simp only [List.length_append]
  omega

theorem extendFromSlice_eq_some {v w : Vec α cap} {other : List α}
    (h : v.extendFromSlice other = some w) : w.data = v.data ++ other := by
  unfold extendFromSlice at h
  split at h
  . injection h with h
    rw [← h]
  . contradiction

theorem push_eq_none {v : Vec α cap} {item : α} (h : v.push item = none) : v.data.length = cap := by
  have hle := v.length_le
  unfold push extendFromSlice at h
  split at h
  . contradiction
  . next hlt =>
    simp only [List.length_append, List.length_singleton] at hlt
    omega

theorem push_of_lt {v : Vec α cap} (h : v.data.length < cap) (item : α)
    : ∃ w, v.push item = some w ∧ w.data = v.data ++ [item] :=
  extendFromSlice_of_le (by simp only [List.length_singleton]; omega)

theorem push_full {v : Vec α cap} {item : α} (h : v.data.length = cap) : v.push item = none :=
  extendFromSlice_of_lt (by simp only [List.length_singleton]; omega)

theorem extendAll_of_le {v : Vec α cap} {others : List (List α)}
    (h : v.data.length + others.flatten.length ≤ cap)
    : (v.extendAll others).1 = true ∧ (v.extendAll others).2.data = v.data ++ others.flatten := by
  induction others generalizing v with
  | nil => simp [extendAll]
  | cons other others ih =>
    simp only [List.flatten_cons, List.length_append] at h
    obtain ⟨w, hw, hdata⟩ := extendFromSlice_of_le (show v.data.length + other.length ≤ cap by omega)
    have hfit : w.data.length + others.flatten.length ≤ cap := by
      rw [hdata, List.length_append]
      omega
    simp [extendAll, hw, ih hfit, hdata]

theorem length_le_of_extendAll {v : Vec α cap} {others : List (List α)}
    (h : (v.extendAll others).1 = true) : v.data.length + others.flatten.length ≤ cap := by
  induction others generalizing v with
  | nil =>
    rw [List.flatten_nil, List.length_nil]
    apply v.length_le
  | cons other others ih =>
    unfold extendAll at h
    cases hv : v.extendFromSlice other with
    | none =>
      rw [hv] at h
      contradiction
    | some w =>
      rw [hv] at h
      have hfit := ih (by simpa using h)
      rw [extendFromSlice_eq_some hv, List.length_append] at hfit
      rw [List.flatten_cons, List.length_append]
      omega

end Vec

end Heapless
