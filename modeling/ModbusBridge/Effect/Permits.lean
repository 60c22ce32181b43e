/-!
This module contains permits that are good for one use: every use in a sequence of events must have been
permitted since the use before it.
-/

namespace Effect

variable {α : Type} {permits uses : α → Bool}

/--
Every use in the sequence has a permit, where `permitted` tells whether there is one to begin with.
-/
def usesPermits (permits uses : α → Bool) (permitted : Bool) : List α → Bool
  | [] => true
  | e :: t =>
    if uses e then
      permitted && usesPermits permits uses false t
    else
      usesPermits permits uses (permitted || permits e) t

namespace usesPermits

theorem of_no_use {t : List α} (h : ∀ e ∈ t, uses e = false) (permitted : Bool)
    : usesPermits permits uses permitted t = true := by
  induction t generalizing permitted with
  | nil => rfl
  | cons e t ih =>
    rw [List.forall_mem_cons] at h
    rw [usesPermits, h.1]
    apply ih h.2

theorem append_of_no_use {t : List α} (h : ∀ e ∈ t, uses e = false) (permitted : Bool) (t' : List α)
    : usesPermits permits uses permitted (t ++ t')
        = usesPermits permits uses (permitted || t.any permits) t' := by
  induction t generalizing permitted with
  | nil => rw [List.nil_append, List.any_nil, Bool.or_false]
  | cons e t ih =>
    rw [List.forall_mem_cons] at h
    rw [List.cons_append, usesPermits, h.1, List.any_cons, ← Bool.or_assoc]
    apply ih h.2

theorem of_one_use {t : List α} (h : ∀ e ∈ t, uses e = false) (hpermit : ∃ e ∈ t, permits e = true)
    (use : α) (permitted : Bool) : usesPermits permits uses permitted (t ++ [use]) = true := by
  have hany : t.any permits = true := List.any_eq_true.mpr hpermit
  rw [append_of_no_use h, hany, Bool.or_true, usesPermits]
  split
  . rfl
  . rfl

theorem of_append {t t' : List α} (h : usesPermits permits uses permitted (t ++ t') = true)
    : ∃ permitted', usesPermits permits uses permitted' t' = true := by
  induction t generalizing permitted with
  | nil => exact ⟨permitted, h⟩
  | cons e t ih =>
    rw [List.cons_append, usesPermits] at h
    split at h
    . rw [Bool.and_eq_true] at h
      apply ih h.2
    . apply ih h

theorem not_of_reuse {first second : α} (hfirst : uses first = true) (hsecond : uses second = true)
    (permitted : Bool) (t t' : List α)
    : ¬ usesPermits permits uses permitted (t ++ first :: second :: t') = true := by
  intro h
  obtain ⟨permitted', h⟩ := of_append h
  rw [usesPermits, if_pos hfirst, usesPermits, if_pos hsecond, Bool.false_and, Bool.and_false] at h
  contradiction

end usesPermits

end Effect
