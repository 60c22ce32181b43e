import ModbusBridge.Effect.Basic
import Mathlib.Order.Defs.Unbundled

/-!
This module contains the rules to reason about runs of programs: what a run of a composed program
says about the runs of its parts, and how a relation between the first and the last state of a run
carries over from the parts to the whole.
-/

namespace Effect

theorem map_eq_ok {o : Except ε α} {f : α → β} (hf : ∀ a b, f a = f b → a = b)
    : o.map f = .ok (f a) ↔ o = .ok a := by
  cases o with
  | ok b => simpa [Except.map] using ⟨hf b a, congrArg f⟩
  | error e => simp [Except.map]

theorem map_eq_error {o : Except ε α} {f : α → β} : o.map f = .error e ↔ o = .error e := by
  cases o with
  | ok a => simp [Except.map]
  | error e' => simp [Except.map]

namespace Exec

variable {σ ε δ α β : Type}

theorem pure_run (a : α) (s : σ) : (pure a : Exec σ ε α) s = .ok a s := rfl

theorem bind_ok {x : Exec σ ε α} {f : α → Exec σ ε β} (h : x s = .ok a s₁)
    : (x >>= f) s = f a s₁ := by
  show EStateM.bind x f s = _
  unfold EStateM.bind
  rw [h]

theorem bind_error {x : Exec σ ε α} {f : α → Exec σ ε β} (h : x s = .error e s₁)
    : (x >>= f) s = .error e s₁ := by
  show EStateM.bind x f s = _
  unfold EStateM.bind
  rw [h]

theorem bind_eq_ok {x : Exec σ ε α} {f : α → Exec σ ε β}
    : (x >>= f) s = .ok b s' ↔ ∃ a s₁, x s = .ok a s₁ ∧ f a s₁ = .ok b s' := by
  cases hx : x s with
  | ok a s₁ => simp [bind_ok hx, and_assoc]
  | error e s₁ => simp [bind_error hx]

theorem bind_eq_error {x : Exec σ ε α} {f : α → Exec σ ε β}
    : (x >>= f) s = .error e s'
        ↔
      x s = .error e s' ∨ ∃ a s₁, x s = .ok a s₁ ∧ f a s₁ = .error e s' := by
  cases hx : x s with
  | ok a s₁ => simp [bind_ok hx, and_assoc]
  | error e s₁ => simp [bind_error hx]

/--
A program that is put in front of a loop adds its result to those of the loop.
-/
theorem bind_cons_ok {x : Exec σ ε α} {xs : Exec σ ε (List α)} (h : x s = .ok a s₁)
    : outcome ((x >>= fun a => xs >>= fun as => pure (a :: as)) s) = (outcome (xs s₁)).map (a :: ·)
        ∧ finalState ((x >>= fun a => xs >>= fun as => pure (a :: as)) s) = finalState (xs s₁) := by
  rw [bind_ok h]
  cases hrest : xs s₁ with
  | ok as s₂ =>
    rw [bind_ok hrest]
    exact ⟨rfl, rfl⟩
  | error e s₂ =>
    rw [bind_error hrest]
    exact ⟨rfl, rfl⟩

theorem eq_ok_of_outcome {x : Exec σ ε α} (h : outcome (x s) = .ok a) : x s = .ok a (finalState (x s)) := by
  cases hx : x s with
  | ok a s₁ =>
    rw [hx, outcome_ok] at h
    injection h with h
    rw [h]
    rfl
  | error e s₁ =>
    rw [hx] at h
    contradiction

theorem eq_error_of_outcome {x : Exec σ ε α} (h : outcome (x s) = .error e)
    : x s = .error e (finalState (x s)) := by
  cases hx : x s with
  | ok a s₁ =>
    rw [hx] at h
    contradiction
  | error e₁ s₁ =>
    rw [hx, outcome_error] at h
    injection h with h
    rw [h]
    rfl

theorem ok_unique {x : Exec σ ε α} (h₁ : x s = .ok a₁ s₁) (h₂ : x s = .ok a₂ s₂)
    : a₁ = a₂ ∧ s₁ = s₂ := by
  rw [h₁] at h₂
  injection h₂ with ha hs
  exact ⟨ha, hs⟩

theorem mapErr_ok {x : Exec σ ε α} {f : ε → δ} (h : x s = .ok a s') : mapErr f x s = .ok a s' := by
  unfold mapErr
  rw [h]

theorem mapErr_error {x : Exec σ ε α} {f : ε → δ} (h : x s = .error e s')
    : mapErr f x s = .error (e.map f) s' := by
  unfold mapErr
  rw [h]

theorem mapErr_eq_ok {x : Exec σ ε α} {f : ε → δ} : mapErr f x s = .ok a s' ↔ x s = .ok a s' := by
  cases hx : x s with
  | ok a s₁ => simp [mapErr_ok hx]
  | error e s₁ => simp [mapErr_error hx]

theorem mapErr_eq_error {x : Exec σ ε α} {f : ε → δ}
    : mapErr f x s = .error e s' ↔ ∃ e₀, x s = .error e₀ s' ∧ e₀.map f = e := by
  cases hx : x s with
  | ok a s₁ => simp [mapErr_ok hx]
  | error e₀ s₁ =>
    simp only [mapErr_error hx, EStateM.Result.error.injEq]
    constructor
    . rintro ⟨rfl, rfl⟩
      exact ⟨e₀, ⟨rfl, rfl⟩, rfl⟩
    . rintro ⟨_, ⟨rfl, rfl⟩, rfl⟩
      exact ⟨rfl, rfl⟩

theorem mapErr_congr {x : Exec σ ε α} {f g : ε → δ} (h : ∀ s e s', x s = .error (.failed e) s' → f e = g e)
    : mapErr f x = mapErr g x := by
  funext s
  cases hx : x s with
  | ok a s₁ => rw [mapErr_ok hx, mapErr_ok hx]
  | error e s₁ =>
    rw [mapErr_error hx, mapErr_error hx]
    cases e with
    | failed e => rw [Stop.map_failed, Stop.map_failed, h s e s₁ hx]
    | dropped => rfl

theorem mapErr_ne_dropped {x : Exec σ ε α} (f : ε → δ) (h : outcome (x s) ≠ .error .dropped)
    : outcome (mapErr f x s) ≠ .error .dropped := by
  cases hx : x s with
  | ok a s₁ =>
    rw [mapErr_ok hx]
    exact nofun
  | error e s₁ =>
    rw [mapErr_error hx]
    cases e with
    | failed e => simp
    | dropped =>
      rw [hx] at h
      contradiction

theorem result_eq_ok {x : Exec σ ε α}
    : (result x s : EStateM.Result (Stop δ) σ _) = .ok r s'
        ↔
      (∃ a, x s = .ok a s' ∧ r = .ok a) ∨ (∃ e, x s = .error (.failed e) s' ∧ r = .error e) := by
  unfold result
  cases x s with
  | ok a s₁ =>
    simp only [EStateM.Result.ok.injEq]
    grind
  | error e s₁ =>
    cases e with
    | failed e =>
      simp only [EStateM.Result.ok.injEq, EStateM.Result.error.injEq]
      grind
    | dropped => simp

theorem result_eq_error {x : Exec σ ε α}
    : (result x s : EStateM.Result (Stop δ) σ _) = .error e s'
        ↔
      x s = .error .dropped s' ∧ e = .dropped := by
  unfold result
  cases x s with
  | ok a s₁ => simp
  | error e s₁ =>
    cases e with
    | failed e => simp
    | dropped =>
      simp only [EStateM.Result.error.injEq, true_and]
      grind

theorem bind_result_ok {x : Exec σ ε α} {f : Except ε α → Exec σ δ β} (h : x s = .ok a s')
    : (result x >>= f) s = f (.ok a) s' :=
  bind_ok (result_eq_ok.mpr (.inl ⟨a, h, rfl⟩))

theorem bind_result_failed {x : Exec σ ε α} {f : Except ε α → Exec σ δ β} (h : x s = .error (.failed e) s')
    : (result x >>= f) s = f (.error e) s' :=
  bind_ok (result_eq_ok.mpr (.inr ⟨e, h, rfl⟩))

theorem bind_result_dropped {x : Exec σ ε α} {f : Except ε α → Exec σ δ β} (h : x s = .error .dropped s')
    : (result x >>= f) s = .error .dropped s' :=
  bind_error (result_eq_error.mpr ⟨h, rfl⟩)

@[simp]
theorem finalState_mapErr (x : Exec σ ε α) (f : ε → δ) (s : σ)
    : finalState (mapErr f x s) = finalState (x s) := by
  unfold mapErr
  cases x s <;> rfl

@[simp]
theorem finalState_result (x : Exec σ ε α) (s : σ)
    : finalState (result x s : EStateM.Result (Stop δ) σ _) = finalState (x s) := by
  unfold result
  split
  . next h => rw [h]; rfl
  . next h => rw [h]; rfl
  . next h => rw [h]; rfl

@[simp]
theorem ofExcept_ok (a : α) (s : σ) : (ofExcept (.ok a) : Exec σ ε α) s = .ok a s := rfl

@[simp]
theorem ofExcept_error (e : ε) (s : σ)
    : (ofExcept (.error e) : Exec σ ε α) s = .error (.failed e) s := rfl

@[simp]
theorem ofOption_some (e : ε) (a : α) (s : σ)
    : (ofOption e (some a) : Exec σ ε α) s = .ok a s := rfl

@[simp]
theorem ofOption_none (e : ε) (s : σ)
    : (ofOption e none : Exec σ ε α) s = .error (.failed e) s := rfl

theorem ofOption_eq_ok {e : ε} {o : Option α}
    : (ofOption e o : Exec σ ε α) s = .ok a s' ↔ o = some a ∧ s = s' := by
  cases o with
  | none => simp
  | some a => simp

theorem ofExcept_eq_ok {r : Except ε α}
    : (ofExcept r : Exec σ ε α) s = .ok a s' ↔ r = .ok a ∧ s = s' := by
  cases r with
  | ok a => simp
  | error e => simp

theorem ofExcept_eq_failed {r : Except ε α}
    : (ofExcept r : Exec σ ε α) s = .error (.failed e) s' ↔ r = .error e ∧ s = s' := by
  cases r with
  | ok a => simp
  | error e => simp

theorem ofExcept_ne_dropped (r : Except ε α) (s : σ) : outcome (ofExcept r s) ≠ .error .dropped := by
  cases r with
  | ok a => exact nofun
  | error e => exact nofun

@[simp]
theorem finalState_ofExcept (r : Except ε α) (s : σ) : finalState (ofExcept r s) = s := by
  cases r with
  | ok a => rfl
  | error e => rfl

@[simp]
theorem outcome_ofExcept (r : Except ε α) (s : σ) : outcome (ofExcept r s) = r.mapError .failed := by
  cases r with
  | ok a => rfl
  | error e => rfl

/--
Every run of the program ends in a state that is `R`-related to the one it started in.
-/
def Within (R : σ → σ → Prop) (x : Exec σ ε α) : Prop :=
  ∀ s, R s (finalState (x s))

namespace Within

variable {R : σ → σ → Prop}

theorem of_ok {x : Exec σ ε α} (hx : Within R x) (h : x s = .ok a s') : R s s' := by
  have := hx s
  rwa [h] at this

theorem of_error {x : Exec σ ε α} (hx : Within R x) (h : x s = .error e s') : R s s' := by
  have := hx s
  rwa [h] at this

theorem mono {R' : σ → σ → Prop} {x : Exec σ ε α} (hx : Within R x)
    (h : ∀ s s', R s s' → R' s s') : Within R' x := by
  intro s
  apply h
  apply hx

theorem mapErr {x : Exec σ ε α} {f : ε → δ} (hx : Within R x) : Within R (mapErr f x) := by
  intro s
  rw [finalState_mapErr]
  apply hx

theorem result {x : Exec σ ε α} (hx : Within R x)
    : Within R (result x : Exec σ δ (Except ε α)) := by
  intro s
  rw [finalState_result]
  apply hx

variable [IsPreorder σ R]

theorem pure (a : α) : Within R (Pure.pure a : Exec σ ε α) := by
  intro s
  exact refl_of R s

theorem fail (e : ε) : Within R (Exec.fail e : Exec σ ε α) := by
  intro s
  exact refl_of R s

theorem get : Within R (MonadState.get : Exec σ ε σ) := by
  intro s
  exact refl_of R s

theorem ofExcept (r : Except ε α) : Within R (ofExcept r) := by
  cases r with
  | ok a => exact pure a
  | error e => exact fail e

theorem ofOption (e : ε) (o : Option α) : Within R (ofOption e o) := by
  cases o with
  | some a => exact pure a
  | none => exact fail e

theorem bind {x : Exec σ ε α} {f : α → Exec σ ε β} (hx : Within R x) (hf : ∀ a, Within R (f a))
    : Within R (x >>= f) := by
  intro s
  cases h : x s with
  | ok a s₁ =>
    rw [bind_ok h]
    exact trans_of R (hx.of_ok h) (hf a s₁)
  | error e s₁ =>
    rw [bind_error h]
    exact hx.of_error h

/--
Whatever the first program does, the rest starts from where it has left off.
-/
theorem bind_rest {x : Exec σ ε α} {f : α → Exec σ ε β} (hf : ∀ a, Within R (f a)) (s : σ)
    : R (finalState (x s)) (finalState ((x >>= f) s)) := by
  cases h : x s with
  | ok a s₁ =>
    rw [bind_ok h]
    apply hf
  | error e s₁ =>
    rw [bind_error h]
    apply refl_of

end Within

end Exec
end Effect
