import ModbusBridge.Effect.Lemmas

/-!
This module contains the rules to bound what a program costs, where the state measures what has been spent so far.
Costs of programs that run one after the other add up, whether or not they succeed.
-/

namespace Effect
namespace Exec

variable {σ ε δ α β : Type} {m : σ → Nat}

/--
Every run of the program costs at most `n`.
-/
def Costs (m : σ → Nat) (n : Nat) (x : Exec σ ε α) : Prop := ∀ s, m (finalState (x s)) ≤ m s + n

namespace Costs

theorem of_ok {x : Exec σ ε α} (hx : Costs m n x) (h : x s = .ok a s') : m s' ≤ m s + n := by
  have := hx s
  rwa [h] at this

theorem of_error {x : Exec σ ε α} (hx : Costs m n x) (h : x s = .error e s') : m s' ≤ m s + n := by
  have := hx s
  rwa [h] at this

theorem mono {x : Exec σ ε α} (hx : Costs m n x) (h : n ≤ n') : Costs m n' x := by
  intro s
  have := hx s
  omega

theorem pure (a : α) : Costs m n (Pure.pure a : Exec σ ε α) := by
  intro s
  apply Nat.le_add_right

theorem fail (e : ε) : Costs m n (Exec.fail e : Exec σ ε α) := by
  intro s
  apply Nat.le_add_right

theorem ofExcept (r : Except ε α) : Costs m n (ofExcept r) := by
  cases r with
  | ok a => apply pure
  | error e => apply fail

theorem ofOption (e : ε) (o : Option α) : Costs m n (ofOption e o) := by
  cases o with
  | some a => apply pure
  | none => apply fail

theorem mapErr {x : Exec σ ε α} {f : ε → δ} (hx : Costs m n x) : Costs m n (mapErr f x) := by
  intro s
  rw [finalState_mapErr]
  apply hx

theorem result {x : Exec σ ε α} (hx : Costs m n x) : Costs m n (result x : Exec σ δ (Except ε α)) := by
  intro s
  rw [finalState_result]
  apply hx

/--
The rule for one program after the other. What follows has to be bounded for those results only that the first
program can return.
-/
theorem bind_of {x : Exec σ ε α} {f : α → Exec σ ε β} (hx : Costs m n x)
    (hf : ∀ a s s', x s = .ok a s' → Costs m k (f a)) : Costs m (n + k) (x >>= f) := by
  intro s
  cases h : x s with
  | ok a s₁ =>
    have hfirst := hx.of_ok h
    have hrest := hf a s s₁ h s₁
    rw [bind_ok h]
    omega
  | error e s₁ =>
    have hfirst := hx.of_error h
    rw [bind_error h]
    show m s₁ ≤ _
    omega

theorem bind {x : Exec σ ε α} {f : α → Exec σ ε β} (hx : Costs m n x) (hf : ∀ a, Costs m k (f a))
    : Costs m (n + k) (x >>= f) :=
  hx.bind_of fun a _ _ _ => hf a

theorem bind_free {x : Exec σ ε α} {f : α → Exec σ ε β} (hx : Costs m n x) (hf : ∀ a, Costs m 0 (f a))
    : Costs m n (x >>= f) :=
  hx.bind hf

theorem free_bind {x : Exec σ ε α} {f : α → Exec σ ε β} (hx : Costs m 0 x) (hf : ∀ a, Costs m n (f a))
    : Costs m n (x >>= f) :=
  (hx.bind hf).mono (Nat.le_of_eq (Nat.zero_add n))

section Steps

theorem mono_mul {x : Exec σ ε α} (hx : Costs m (k * c) x) (h : k ≤ n) : Costs m (n * c) x :=
  hx.mono (Nat.mul_le_mul_right c h)

/--
The first of at most `n` steps that cost the same.
-/
theorem step {x : Exec σ ε α} {f : α → Exec σ ε β} (hx : Costs m c x) (h : 0 < n)
    (hf : ∀ a, Costs m ((n - 1) * c) (f a)) : Costs m (n * c) (x >>= f) := by
  apply (hx.bind hf).mono
  obtain ⟨n, rfl⟩ := Nat.exists_eq_succ_of_ne_zero (Nat.ne_of_gt h)
  rw [Nat.succ_mul, Nat.add_comm]
  apply Nat.le_refl

end Steps

end Costs

end Exec
end Effect
