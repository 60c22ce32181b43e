import ModbusBridge.Effect.Lemmas

/-!
This module contains the rules to compare the runs of two programs: both return the same and end in related
states, unless the first one stops in a way that excuses it.
-/

namespace Effect
namespace Exec

variable {σ τ ε δ α β : Type}

/--
Started in related states, the two programs have the same outcome and end in related states. The first
program may also stop where `excused` says so.
-/
def Agrees (excused : Stop ε → σ → Prop) (R : σ → τ → Prop) (x : Exec σ ε α) (y : Exec τ ε α)
    : Prop :=
  ∀ s t, R s t → (∃ e s', x s = .error e s' ∧ excused e s')
    ∨ (outcome (x s) = outcome (y t) ∧ R (finalState (x s)) (finalState (y t)))

/--
If `lax`, a program is excused when it is dropped. Otherwise nothing excuses it.
-/
def droppedIf (lax : Prop) (e : Stop ε) (_ : σ) : Prop := lax ∧ e = .dropped

namespace Agrees

variable {excused : Stop ε → σ → Prop} {excused' : Stop δ → σ → Prop} {R : σ → τ → Prop}

theorem eq_ok {x : Exec σ ε α} {y : Exec τ ε α} (h : Agrees excused R x y) (hR : R s t)
    (hx : x s = .ok a s') : ∃ t', y t = .ok a t' ∧ R s' t' := by
  obtain ⟨e, s₁, herror, _⟩ | ⟨houtcome, hR'⟩ := h s t hR
  . rw [hx] at herror
    contradiction
  . rw [hx] at houtcome hR'
    exact ⟨_, eq_ok_of_outcome houtcome.symm, hR'⟩

theorem eq_error {x : Exec σ ε α} {y : Exec τ ε α} (h : Agrees excused R x y) (hR : R s t)
    (hx : x s = .error e s') : excused e s' ∨ ∃ t', y t = .error e t' ∧ R s' t' := by
  obtain ⟨e₁, s₁, herror, hexcused⟩ | ⟨houtcome, hR'⟩ := h s t hR
  . rw [hx] at herror
    injection herror with he hs
    rw [he, hs]
    exact .inl hexcused
  . rw [hx] at houtcome hR'
    exact .inr ⟨_, eq_error_of_outcome houtcome.symm, hR'⟩

theorem of_runs {x : Exec σ ε α} {y : Exec τ ε α}
    (hok : ∀ s t a s', R s t → x s = .ok a s' → ∃ t', y t = .ok a t' ∧ R s' t')
    (herror : ∀ s t e s', R s t → x s = .error e s' → excused e s' ∨ ∃ t', y t = .error e t' ∧ R s' t')
    : Agrees excused R x y := by
  intro s t hR
  cases hx : x s with
  | ok a s' =>
    obtain ⟨t', hy, hR'⟩ := hok s t a s' hR hx
    right
    rw [hy]
    exact ⟨rfl, hR'⟩
  | error e s' =>
    cases herror s t e s' hR hx with
    | inl hexcused => exact .inl ⟨e, s', rfl, hexcused⟩
    | inr h =>
      obtain ⟨t', hy, hR'⟩ := h
      right
      rw [hy]
      exact ⟨rfl, hR'⟩

theorem of_ok {x : Exec σ ε α} {y : Exec τ ε α}
    (h : ∀ s t, R s t → ∃ a s' t', x s = .ok a s' ∧ y t = .ok a t' ∧ R s' t') : Agrees excused R x y := by
  intro s t hR
  obtain ⟨a, s', t', hx, hy, hR'⟩ := h s t hR
  right
  rw [hx, hy]
  exact ⟨rfl, hR'⟩

theorem pure (a : α) : Agrees excused R (Pure.pure a) (Pure.pure a) := by
  intro s t hR
  exact .inr ⟨rfl, hR⟩

theorem fail (e : ε) : Agrees excused R (Exec.fail e : Exec σ ε α) (Exec.fail e) := by
  intro s t hR
  exact .inr ⟨rfl, hR⟩

theorem ofExcept (r : Except ε α) : Agrees excused R (Exec.ofExcept r) (Exec.ofExcept r) := by
  cases r with
  | ok a => apply pure
  | error e => apply fail

theorem ofOption (e : ε) (o : Option α) : Agrees excused R (Exec.ofOption e o) (Exec.ofOption e o) := by
  cases o with
  | some a => apply pure
  | none => apply fail

theorem bind {x : Exec σ ε α} {y : Exec τ ε α} {f : α → Exec σ ε β} {g : α → Exec τ ε β}
    (hx : Agrees excused R x y) (hf : ∀ a, Agrees excused R (f a) (g a))
    : Agrees excused R (x >>= f) (y >>= g) := by
  intro s t hR
  cases h : x s with
  | ok a s₁ =>
    obtain ⟨t₁, hy, hR₁⟩ := hx.eq_ok hR h
    rw [bind_ok h, bind_ok hy]
    apply hf a s₁ t₁ hR₁
  | error e s₁ =>
    rw [bind_error h]
    cases hx.eq_error hR h with
    | inl hexcused => exact .inl ⟨e, s₁, rfl, hexcused⟩
    | inr h =>
      obtain ⟨t₁, hy, hR₁⟩ := h
      right
      rw [bind_error hy]
      exact ⟨rfl, hR₁⟩

theorem mapErr {x : Exec σ ε α} {y : Exec τ ε α} (hx : Agrees excused R x y) {f g : ε → δ}
    (hfg : ∀ e, f e = g e) (hexcused : ∀ e s, excused e s → excused' (e.map f) s)
    : Agrees excused' R (Exec.mapErr f x) (Exec.mapErr g y) := by
  obtain rfl : f = g := funext hfg
  apply of_runs
  . intro s t a s' hR h
    rw [mapErr_eq_ok] at h
    obtain ⟨t', hy, hR'⟩ := hx.eq_ok hR h
    exact ⟨t', mapErr_ok hy, hR'⟩
  . intro s t e s' hR h
    rw [mapErr_eq_error] at h
    obtain ⟨e₀, h, rfl⟩ := h
    cases hx.eq_error hR h with
    | inl he => exact .inl (hexcused e₀ s' he)
    | inr hy =>
      obtain ⟨t', hy, hR'⟩ := hy
      exact .inr ⟨t', mapErr_error hy, hR'⟩

theorem result {x : Exec σ ε α} {y : Exec τ ε α} (hx : Agrees excused R x y)
    (hexcused : ∀ e s, excused e s → e = .dropped ∧ excused' .dropped s)
    : Agrees excused' R (Exec.result x) (Exec.result y) := by
  apply of_runs
  . intro s t r s' hR h
    rw [result_eq_ok] at h
    cases h with
    | inl h =>
      obtain ⟨a, h, rfl⟩ := h
      obtain ⟨t', hy, hR'⟩ := hx.eq_ok hR h
      exact ⟨t', result_eq_ok.mpr (.inl ⟨a, hy, rfl⟩), hR'⟩
    | inr h =>
      obtain ⟨e, h, rfl⟩ := h
      cases hx.eq_error hR h with
      | inl he => exact absurd (hexcused _ _ he).1 (by simp)
      | inr hy =>
        obtain ⟨t', hy, hR'⟩ := hy
        exact ⟨t', result_eq_ok.mpr (.inr ⟨e, hy, rfl⟩), hR'⟩
  . intro s t e s' hR h
    rw [result_eq_error] at h
    obtain ⟨h, rfl⟩ := h
    cases hx.eq_error hR h with
    | inl he => exact .inl (hexcused _ _ he).2
    | inr hy =>
      obtain ⟨t', hy, hR'⟩ := hy
      exact .inr ⟨t', result_eq_error.mpr ⟨hy, rfl⟩, hR'⟩

variable {lax : Prop}

theorem mapErr_droppedIf {x : Exec σ ε α} {y : Exec τ ε α} (hx : Agrees (droppedIf lax) R x y)
    (f : ε → δ) : Agrees (droppedIf lax) R (Exec.mapErr f x) (Exec.mapErr f y) := by
  apply hx.mapErr (fun _ => rfl)
  rintro e s ⟨hlax, rfl⟩
  exact ⟨hlax, rfl⟩

theorem result_droppedIf {x : Exec σ ε α} {y : Exec τ ε α} (hx : Agrees (droppedIf lax) R x y)
    : Agrees (droppedIf lax) R (Exec.result x : Exec σ δ _) (Exec.result y) := by
  apply hx.result
  rintro e s ⟨hlax, rfl⟩
  exact ⟨rfl, hlax, rfl⟩

end Agrees

end Exec
end Effect
