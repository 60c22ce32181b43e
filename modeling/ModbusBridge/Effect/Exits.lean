import ModbusBridge.Effect.Lemmas

/-!
This module contains partial correctness with two exits: what is invariant as long as a program goes on, and
what holds of the error and the state when it stops.
-/

namespace Effect
namespace Exec

variable {σ ε δ α β : Type} {P : σ → Prop} {E : Stop ε → σ → Prop} {s : σ}

/--
Started in `s` with `P`, the program returns with `P` or stops with `E`.
-/
def Exits (P : σ → Prop) (E : Stop ε → σ → Prop) (x : Exec σ ε α) (s : σ) : Prop :=
  P s → (∀ a s', x s = .ok a s' → P s') ∧ (∀ e s', x s = .error e s' → E e s')

namespace Exits

theorem of_error {x : Exec σ ε α} (hx : x s = .error e s') (h : P s → E e s') : Exits P E x s := by
  intro hs
  rw [hx]
  constructor
  . exact nofun
  . intro e' s'' heq
    injection heq with he hs'
    rw [← he, ← hs']
    apply h hs

theorem step {x y : Exec σ ε α} (hx : x s = y s₁) (hP : P s → P s₁) (hy : Exits P E y s₁)
    : Exits P E x s := by
  intro hs
  rw [hx]
  apply hy (hP hs)

theorem pure (a : α) : Exits P E (Pure.pure a : Exec σ ε α) s := by
  intro hs
  constructor
  . intro a s' h
    injection h with _ h
    rw [← h]
    apply hs
  . exact nofun

theorem fail {e : ε} (h : P s → E (.failed e) s) : Exits P E (Exec.fail e : Exec σ ε α) s :=
  of_error rfl h

theorem ofOption {e : ε} (o : Option α) (h : P s → E (.failed e) s) : Exits P E (Exec.ofOption e o) s := by
  cases o with
  | some a => apply pure
  | none => apply fail h

theorem bind {x : Exec σ ε α} {f : α → Exec σ ε β} (hx : Exits P E x s)
    (hf : ∀ a s₁, x s = .ok a s₁ → Exits P E (f a) s₁) : Exits P E (x >>= f) s := by
  intro hs
  obtain ⟨hok, herror⟩ := hx hs
  cases h : x s with
  | ok a s₁ =>
    rw [bind_ok h]
    apply hf a s₁ h (hok a s₁ h)
  | error e s₁ =>
    rw [bind_error h]
    constructor
    . exact nofun
    . intro e' s' heq
      injection heq with he hs'
      rw [← he, ← hs']
      apply herror e s₁ h

end Exits

end Exec
end Effect
