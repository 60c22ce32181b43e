import Mathlib.Data.List.Infix

/-!
This module contains histories: the events of a process in the order in which they happened, what holds at every
moment of a history, and two processes that run at the same time and are connected by links.
-/

namespace Dataflow

variable {α β γ δ : Type}

/--
After `u`, the property holds at every moment while `v` happens, the first and the last one included.
-/
def During (P : List α → Prop) (u v : List α) : Prop := ∀ p, p <+: v → P (u ++ p)

def Always (P : List α → Prop) (t : List α) : Prop := During P [] t

theorem prefix_append_cases {p v w : List α} (h : p <+: v ++ w) : p <+: v ∨ ∃ q, p = v ++ q ∧ q <+: w := by
  cases List.prefix_or_prefix_of_prefix h (List.prefix_append v w) with
  | inl hp => exact .inl hp
  | inr hv =>
    obtain ⟨q, rfl⟩ := hv
    exact .inr ⟨q, rfl, (List.prefix_append_right_inj v).mp h⟩

namespace During

variable {P Q : List α → Prop} {u v w : List α}

theorem last (h : During P u v) : P (u ++ v) := h v (List.prefix_refl v)

theorem nil (h : P u) : During P u [] := by
  intro p hp
  rw [List.prefix_nil.mp hp, List.append_nil]
  apply h

theorem append (hv : During P u v) (hw : During P (u ++ v) w) : During P u (v ++ w) := by
  intro p hp
  cases prefix_append_cases hp with
  | inl hp => apply hv p hp
  | inr hp =>
    obtain ⟨q, rfl, hq⟩ := hp
    rw [← List.append_assoc]
    apply hw q hq

theorem imp (h : During P u v) (hPQ : ∀ t, P t → Q t) : During Q u v := by
  intro p hp
  apply hPQ
  apply h p hp

end During

/--
A history that is made up of pieces, each of which is about one item.
-/
inductive Pieces (R : β → List α → Prop) : List β → List α → Prop where
  | nil : Pieces R [] []
  | cons (hpiece : R b u) (hrest : Pieces R bs v) : Pieces R (b :: bs) (u ++ v)

theorem Pieces.fold {R : β → List α → Prop} {P : List α → Prop} (h : Pieces R bs t) (hpiece : ∀ b u, R b u → P u)
    (hnil : P []) (happend : ∀ u v, P u → P v → P (u ++ v)) : P t := by
  induction h with
  | nil => apply hnil
  | cons hu _ ih => apply happend _ _ (hpiece _ _ hu) ih

section Follows

variable {f : List β → List δ} {g : List γ → List δ} {out : α → List β} {input : α → List γ} {u v : List α}

/--
The output of a process, seen through `f`, is the start of its input, seen through `g`.
-/
def Follows (f : List β → List δ) (g : List γ → List δ) (out : α → List β) (input : α → List γ) (t : List α)
    : Prop :=
  f (t.flatMap out) <+: g (t.flatMap input)

/--
All the input up to now has been accounted for, so that what follows may be looked at on its own.
-/
def Settled (f : List β → List δ) (g : List γ → List δ) (out : α → List β) (input : α → List γ) (t : List α)
    : Prop :=
  ∀ x y, f x <+: g y → f (t.flatMap out ++ x) <+: g (t.flatMap input ++ y)

theorem Settled.during (hu : Settled f g out input u) (hv : Always (Follows f g out input) v)
    : During (Follows f g out input) u v := by
  intro p hp
  unfold Follows
  rw [List.flatMap_append, List.flatMap_append]
  apply hu
  apply hv p hp

theorem flatMap_eq_nil_at {p : List α} (h : v.flatMap out = []) (hp : p <+: v) : p.flatMap out = [] := by
  have hle := hp.flatMap out
  rw [h] at hle
  apply List.prefix_nil.mp hle

/--
A process that only takes input does not overtake it.
-/
theorem Follows.during_input (h : Follows f g out input u) (hg : ∀ x y, x <+: y → g x <+: g y)
    (hquiet : v.flatMap out = []) : During (Follows f g out input) u v := by
  intro p hp
  unfold Follows
  rw [List.flatMap_append, List.flatMap_append, flatMap_eq_nil_at hquiet hp, List.append_nil]
  apply h.trans
  apply hg
  apply List.prefix_append

/--
A process that only produces output has not overtaken its input if it has not done so in the end.
-/
theorem Follows.during_output (hf : ∀ x y, x <+: y → f x <+: f y) (hquiet : v.flatMap input = [])
    (hend : f ((u ++ v).flatMap out) <+: g (u.flatMap input)) : During (Follows f g out input) u v := by
  intro p hp
  unfold Follows
  have hinput : (u ++ p).flatMap input = u.flatMap input := by
    rw [List.flatMap_append, flatMap_eq_nil_at hquiet hp, List.append_nil]
  rw [hinput]
  apply List.IsPrefix.trans _ hend
  apply hf
  apply List.IsPrefix.flatMap
  apply (List.prefix_append_right_inj u).mpr hp

end Follows

section Links

def lefts (t : List (α ⊕ β)) : List α := t.filterMap Sum.getLeft?

def rights (t : List (α ⊕ β)) : List β := t.filterMap Sum.getRight?

variable {t p : List (α ⊕ β)}

@[simp]
theorem lefts_append (t u : List (α ⊕ β)) : lefts (t ++ u) = lefts t ++ lefts u := List.filterMap_append

@[simp]
theorem rights_append (t u : List (α ⊕ β)) : rights (t ++ u) = rights t ++ rights u := List.filterMap_append

@[simp]
theorem lefts_map_inl (u : List α) : lefts (u.map .inl : List (α ⊕ β)) = u := by
  unfold lefts
  rw [List.filterMap_map]
  apply List.filterMap_some

@[simp]
theorem rights_map_inr (v : List β) : rights (v.map .inr : List (α ⊕ β)) = v := by
  unfold rights
  rw [List.filterMap_map]
  apply List.filterMap_some

@[simp]
theorem lefts_map_inr (v : List β) : lefts (v.map .inr : List (α ⊕ β)) = [] := by
  simp [lefts]

@[simp]
theorem rights_map_inl (u : List α) : rights (u.map .inl : List (α ⊕ β)) = [] := by
  simp [rights]

theorem lefts_mono (h : p <+: t) : lefts p <+: lefts t := h.filterMap Sum.getLeft?

theorem rights_mono (h : p <+: t) : rights p <+: rights t := h.filterMap Sum.getRight?

/--
A link from one process to the other: what has come out of it has gone in before, and in this order. Any amount
of it may still be under way.
-/
def Link (sent : List α → List γ) (received : List β → List γ) (sender : List δ → List α)
    (receiver : List δ → List β) (t : List δ) : Prop :=
  ∀ p, p <+: t → received (receiver p) <+: sent (sender p)

end Links

end Dataflow
