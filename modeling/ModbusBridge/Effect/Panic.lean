import ModbusBridge.Effect.Refinement

/-!
This module contains programs that can panic: then they have no value. A program that does not panic is the
lift of one that cannot, so the rules say how lifts are put together.
-/

namespace Effect

namespace Exec

variable {σ ε δ α β : Type}

theorem map_ok {x : Exec σ ε α} (g : α → β) (h : x s = .ok a s') : (g <$> x) s = .ok (g a) s' := by
  rw [map_eq_pure_bind, bind_ok h, pure_run]

theorem map_error {x : Exec σ ε α} (g : α → β) (h : x s = .error e s') : (g <$> x) s = .error e s' := by
  rw [map_eq_pure_bind, bind_error h]

theorem mapErr_map (f : ε → δ) (g : α → β) (x : Exec σ ε α) : mapErr f (g <$> x) = g <$> mapErr f x := by
  rw [map_eq_pure_bind, map_eq_pure_bind, mapErr_bind]
  rfl

end Exec

/--
A panic is not an error: nothing that handles errors sees it.
-/
abbrev MayPanic (σ ε α : Type) : Type := OptionT (Exec σ ε) α

namespace MayPanic

variable {σ ε δ α β γ : Type}

def orPanic (o : Option α) : MayPanic σ ε α := OptionT.mk (pure o)

def mapErr (f : ε → δ) (x : MayPanic σ ε α) : MayPanic σ δ α := OptionT.mk (Exec.mapErr f x.run)

/--
How the program ends in `s`, unless it panics.
-/
def completed (x : MayPanic σ ε α) (s : σ) : Option (Except (Stop ε) α × σ) :=
  match x.run s with
  | .ok (some a) s => some (.ok a, s)
  | .ok none _ => none
  | .error e s => some (.error e, s)

@[simp]
theorem orPanic_some (a : α) : (orPanic (some a) : MayPanic σ ε α) = pure a := rfl

theorem orPanic_attach {o : Option α} (h : o = some a) : (orPanic o.attach : MayPanic σ ε _) = pure ⟨a, h⟩ := by
  subst h
  rfl

@[simp]
theorem mapErr_lift (f : ε → δ) (x : Exec σ ε α)
    : mapErr f (OptionT.lift x) = OptionT.lift (Exec.mapErr f x) := by
  apply OptionT.ext
  apply Exec.mapErr_map f some x

theorem completed_lift (x : Exec σ ε α) (s : σ)
    : completed (OptionT.lift x) s = some (outcome (x s), finalState (x s)) := by
  have hrun : (OptionT.lift x).run = some <$> x := rfl
  unfold completed
  rw [hrun]
  cases h : x s with
  | ok a s' => rw [Exec.map_ok some h, outcome_ok, finalState_ok]
  | error e s' => rw [Exec.map_error some h, outcome_error, finalState_error]

theorem lift_bind_eq {x : Exec σ ε α} {f : α → MayPanic σ ε β} {g : α → Exec σ ε β}
    (h : ∀ a, f a = OptionT.lift (g a)) : OptionT.lift x >>= f = OptionT.lift (x >>= g) := by
  rw [OptionT.lift_bind]
  apply bind_congr h

theorem lift_ofExcept_bind_eq {r : Except ε α} {toError : ε → δ} {f : α → MayPanic σ δ β} {g : α → Exec σ δ β}
    (h : ∀ a, r = .ok a → f a = OptionT.lift (g a))
    : OptionT.lift (Exec.ofExcept (r.mapError toError)) >>= f
        = OptionT.lift (Exec.ofExcept (r.mapError toError) >>= g) := by
  cases r with
  | ok a => apply h a rfl
  | error e => rfl

theorem lift_map_bind_eq {x : Exec σ ε α} {view : α → γ} {f : γ → MayPanic σ ε β} {g : α → Exec σ ε β}
    (h : ∀ a, f (view a) = OptionT.lift (g a)) : OptionT.lift (view <$> x) >>= f = OptionT.lift (x >>= g) := by
  rw [map_eq_pure_bind, OptionT.lift_bind, bind_assoc]
  apply lift_bind_eq
  intro a
  rw [OptionT.lift_pure, pure_bind, h]

/--
Two programs are the same if they go on alike after the same elements, even if these come with different bounds.
-/
theorem result_bind_congr {read : (n : Nat) → Exec σ ε {xs : List α // xs.length ≤ n}} {n m : Nat} (h : n = m)
    {f : Except ε {xs : List α // xs.length ≤ n} → MayPanic σ δ β}
    {g : Except ε {xs : List α // xs.length ≤ m} → MayPanic σ δ β} (herror : ∀ e, f (.error e) = g (.error e))
    (hok : ∀ xs hn hm, f (.ok ⟨xs, hn⟩) = g (.ok ⟨xs, hm⟩))
    : OptionT.lift (Exec.result (read n)) >>= f = OptionT.lift (Exec.result (read m)) >>= g := by
  subst h
  apply bind_congr
  intro r
  cases r with
  | ok xs => apply hok xs.val xs.property
  | error e => apply herror

end MayPanic

end Effect
