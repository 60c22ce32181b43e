/-!
This module contains monitors: state machines that watch a history of events and refuse those that are out of place.
-/

namespace Dataflow

variable {σ α : Type} {step : σ → α → Option σ}

/--
The state that the monitor is in after the events, if it has refused none of them.
-/
def watch (step : σ → α → Option σ) (s : σ) (t : List α) : Option σ := t.foldlM step s

@[simp]
theorem watch_nil (s : σ) : watch step s [] = some s := rfl

@[simp]
theorem watch_cons (s : σ) (e : α) (t : List α) : watch step s (e :: t) = (step s e).bind fun s' => watch step s' t :=
  List.foldlM_cons

theorem watch_append (s : σ) (t u : List α)
    : watch step s (t ++ u) = (watch step s t).bind fun s' => watch step s' u :=
  List.foldlM_append

theorem watch_stays {t : List α} (h : ∀ e ∈ t, step s e = some s) : watch step s t = some s := by
  induction t with
  | nil => rfl
  | cons e t ih =>
    rw [List.forall_mem_cons] at h
    rw [watch_cons, h.1]
    apply ih h.2

/--
What relates the events so far to the state of the monitor.
-/
theorem watch_invariant {inv : List α → σ → Prop} (hstart : inv [] s)
    (hstep : ∀ t s e s', inv t s → step s e = some s' → inv (t ++ [e]) s') {t : List α}
    (h : watch step s t = some s') : inv t s' := by
  suffices hrest : ∀ before s, inv before s → watch step s t = some s' → inv (before ++ t) s' by
    apply hrest [] s hstart h
  clear h hstart
  induction t with
  | nil =>
    intro before s hbefore h
    injection h with h
    rw [List.append_nil, ← h]
    apply hbefore
  | cons e t ih =>
    intro before s hbefore h
    rw [watch_cons, Option.bind_eq_some_iff] at h
    obtain ⟨s₁, he, h⟩ := h
    have := ih (before ++ [e]) s₁ (hstep before s e s₁ hbefore he) h
    rwa [List.append_assoc] at this

/--
An event that the monitor has let pass was in place when it happened.
-/
theorem watch_event {before after : List α} (h : watch step s (before ++ e :: after) = some s')
    : ∃ s₁ s₂, watch step s before = some s₁ ∧ step s₁ e = some s₂ := by
  rw [watch_append, Option.bind_eq_some_iff] at h
  obtain ⟨s₁, hbefore, h⟩ := h
  rw [watch_cons, Option.bind_eq_some_iff] at h
  obtain ⟨s₂, he, _⟩ := h
  exact ⟨s₁, s₂, hbefore, he⟩

end Dataflow
