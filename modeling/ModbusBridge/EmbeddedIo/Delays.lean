import ModbusBridge.EmbeddedIo.MockStream

/-!
This module contains delay providers that keep time: a longer delay is never over before a shorter one, whatever
either provider has been used for before.
-/

namespace EmbeddedIo

open Effect

class KeepsTime (δ : Type) [DelayNs δ] where
  /-- The two providers are the same one, except for what they have been used for. -/
  Same : δ → δ → Prop
  polls_le {d d' : δ} {ms ms' : UInt32} (h : Same d d') (hle : ms ≤ ms') :
    (DelayNs.delayMs d ms).1 ≤ (DelayNs.delayMs d' ms').1
  next {d d' : δ} (h : Same d d') (ms ms' : UInt32) : Same (DelayNs.delayMs d ms).2 (DelayNs.delayMs d' ms').2

instance : KeepsTime MockDelay where
  Same := Eq
  polls_le h _ := by
    rw [h]
    apply Nat.le_refl
  next h _ _ := h

section Deadlines

/--
The operation is over before the deadline `d`, so it is over before `d'`.
-/
theorem Completion.answer_later {c : Completion σ ε α} {d d' : Option Nat} (hle : Option.Rel (· ≤ ·) d d')
    : (d ≠ none ∧ c.answer d = (.error .dropped, c.dropped))
        ∨ (c.answer d = c.answer d' ∧ Option.Rel (· ≤ ·) (d.map (· - c.polls)) (d'.map (· - c.polls))) := by
  cases hle with
  | none => exact .inr ⟨rfl, .none⟩
  | @some n n' hle =>
    unfold answer
    by_cases hearly : n < c.polls
    . left
      exact ⟨nofun, if_pos (by simpa using hearly)⟩
    . right
      refine ⟨?_, .some (Nat.sub_le_sub_right hle c.polls)⟩
      rw [if_neg (by simpa using hearly), if_neg (by simp; omega)]

end Deadlines

end EmbeddedIo
