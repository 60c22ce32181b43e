import ModbusBridge.Effect.Relational

/-!
This module contains the rules to compare a program that is dropped while it waits with one that is told instead that
there is nothing to wait for.
-/

namespace Effect
namespace Exec

variable {σ τ ε α β : Type}

/--
Started in states related by `R`, the two programs do the same and end in related states, or the first one is dropped
where the second one fails with `eof`, in states related by `Q`.
-/
def DropsAt (eof : ε) (R Q : σ → τ → Prop) (x : Exec σ ε α) (y : Exec τ ε α) : Prop :=
  ∀ s t, R s t →
    (outcome (x s) = outcome (y t) ∧ outcome (x s) ≠ .error (.failed eof) ∧ R (finalState (x s)) (finalState (y t)))
      ∨ (∃ s' t', x s = .error .dropped s' ∧ y t = .error (.failed eof) t' ∧ Q s' t')

namespace DropsAt

variable {eof : ε} {R Q : σ → τ → Prop}

theorem of_agrees {x : Exec σ ε α} {y : Exec τ ε α} (h : Agrees (droppedIf False) R x y)
    (hne : ∀ s, outcome (x s) ≠ .error (.failed eof)) : DropsAt eof R Q x y := by
  intro s t hR
  obtain ⟨_, _, _, hfalse, _⟩ | ⟨houtcome, hR'⟩ := h s t hR
  . contradiction
  . exact .inl ⟨houtcome, hne s, hR'⟩

theorem pure (a : α) : DropsAt eof R Q (Pure.pure a) (Pure.pure a) :=
  of_agrees (Agrees.pure a) (fun _ => nofun)

theorem fail {e : ε} (h : e ≠ eof) : DropsAt eof R Q (Exec.fail e : Exec σ ε α) (Exec.fail e) := by
  apply of_agrees (Agrees.fail e)
  intro s heq
  injection heq with heq
  injection heq with heq
  exact h heq

theorem ofOption {e : ε} (h : e ≠ eof) (o : Option α)
    : DropsAt eof R Q (Exec.ofOption e o) (Exec.ofOption e o) := by
  cases o with
  | some a => apply pure
  | none => apply fail h

/--
The rule for one program after the other. What follows is compared for those results only that the first program can
return.
-/
theorem bind {x : Exec σ ε α} {y : Exec τ ε α} {f : α → Exec σ ε β} {g : α → Exec τ ε β}
    (hx : DropsAt eof R Q x y) (hf : ∀ a s s', x s = .ok a s' → DropsAt eof R Q (f a) (g a))
    : DropsAt eof R Q (x >>= f) (y >>= g) := by
  intro s t hR
  obtain ⟨houtcome, hne, hR₁⟩ | ⟨s', t', hx, hy, hQ⟩ := hx s t hR
  . cases h : x s with
    | ok a s₁ =>
      rw [h] at houtcome hR₁
      rw [bind_ok h, bind_ok (eq_ok_of_outcome houtcome.symm)]
      apply hf a s s₁ h _ _ hR₁
    | error e s₁ =>
      rw [h] at houtcome hne hR₁
      rw [bind_error h, bind_error (eq_error_of_outcome houtcome.symm)]
      rw [outcome_error] at hne
      refine .inl ⟨rfl, ?_, hR₁⟩
      rintro heq
      injection heq with heq
      exact hne (congrArg _ heq)
  . rw [bind_error hx, bind_error hy]
    exact .inr ⟨s', t', rfl, rfl, hQ⟩

end DropsAt

end Exec
end Effect
