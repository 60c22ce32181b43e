import ModbusBridge.Effect.Lemmas

/-!
This module contains monotonic programs: with more to work on, a program does what it has done with less, and then
perhaps more.
-/

namespace Effect
namespace Exec

variable {σ ε α β : Type}

/--
`more s s'` means that there is more to work on in `s'` than in `s`, and `further s s'` that at least as much has been
done in `s'`. A program that fails with less may go on with more.
-/
structure Monotonic (more further : σ → σ → Prop) (x : Exec σ ε α) : Prop where
  ok : ∀ {s s' a t}, more s s' → x s = .ok a t → ∃ t', x s' = .ok a t' ∧ more t t'
  error : ∀ {s s' e t}, more s s' → x s = .error e t → further t (finalState (x s'))
  grows : Within further x

namespace Monotonic

variable {more further : σ → σ → Prop} [IsPreorder σ further]

theorem pure (a : α) : Monotonic more further (Pure.pure a : Exec σ ε α) where
  ok hmore h := by
    injection h with ha ht
    rw [← ha, ← ht]
    exact ⟨_, rfl, hmore⟩
  error _ h := by contradiction
  grows := .pure a

theorem fail (hle : ∀ s s', more s s' → further s s') (e : ε)
    : Monotonic more further (Exec.fail e : Exec σ ε α) where
  ok _ h := by contradiction
  error hmore h := by
    injection h with _ ht
    rw [← ht]
    apply hle _ _ hmore
  grows := .fail e

theorem bind {x : Exec σ ε α} {f : α → Exec σ ε β} (hx : Monotonic more further x)
    (hf : ∀ a, Monotonic more further (f a)) : Monotonic more further (x >>= f) where
  ok hmore h := by
    obtain ⟨a, s₁, hfirst, hrest⟩ := bind_eq_ok.mp h
    obtain ⟨s₁', hfirst', hmore₁⟩ := hx.ok hmore hfirst
    rw [bind_ok hfirst']
    apply (hf a).ok hmore₁ hrest
  error {s s' e t} hmore h := by
    cases hfirst : x s with
    | error e₁ s₁ =>
      rw [bind_error hfirst] at h
      injection h with _ ht
      rw [← ht]
      exact trans_of further (hx.error hmore hfirst) (Within.bind_rest (fun a => (hf a).grows) s')
    | ok a s₁ =>
      rw [bind_ok hfirst] at h
      obtain ⟨s₁', hfirst', hmore₁⟩ := hx.ok hmore hfirst
      rw [bind_ok hfirst']
      apply (hf a).error hmore₁ h
  grows := hx.grows.bind fun a => (hf a).grows

end Monotonic

end Exec
end Effect
