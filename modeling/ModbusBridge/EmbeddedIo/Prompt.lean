import ModbusBridge.EmbeddedIo.Lossless

/-!
This module contains devices that never keep anybody waiting: no operation is ever pending, and whatever is still
going to be delivered can be read right away.
-/

namespace EmbeddedIo

open Effect
open ReadReady (readReady pollReady)

class Prompt (σ : Type) {ε : outParam Type} [Device σ ε] [ReadReady σ ε] [Lossless σ] : Prop where
  read_polls (d : σ) (n : Nat) : (Device.read d n).polls = 0
  write_polls (d : σ) (buf : List UInt8) (h : buf ≠ []) : (Device.write d buf h).polls = 0
  flush_polls (d : σ) : (Device.flush d).polls = 0
  /-- A stream that has come to its end is never ready. -/
  readReady_ok (d : σ) : (readReady d).1 = .ok !(Lossless.rx d).isEmpty
  readReady_next (d : σ) :
    Lossless.rx (readReady d).2 = Lossless.rx d ∧ Lossless.faults (readReady d).2 ≤ Lossless.faults d

instance : Prompt MockStream where
  read_polls _ _ := rfl
  write_polls _ _ _ := rfl
  flush_polls _ := rfl
  readReady_ok _ := rfl
  readReady_next _ := ⟨rfl, Nat.le_refl 0⟩

/--
An operation that is never pending is not dropped.
-/
theorem Completion.answer_of_polls {c : Completion σ ε α} (h : c.polls = 0) (deadline : Option Nat)
    : c.answer deadline = (c.result.mapError .failed, c.next) := by
  have hlate : ¬ deadline.any (· < c.polls) := by
    rw [h]
    cases deadline with
    | none => simp
    | some n => simp
  rw [answer, if_neg hlate]

namespace Prompt

variable {σ ε : Type} [Device σ ε] [ReadReady σ ε] [Lossless σ] [Prompt σ]

theorem pollReady_of_ne_nil {d : σ} (h : Lossless.rx d ≠ []) (n : Nat) : pollReady n d = some (.ok ()) := by
  have hready := readReady_ok d
  rw [List.isEmpty_eq_false_iff.mpr h, Bool.not_false] at hready
  unfold pollReady
  rw [show readReady d = (.ok true, (readReady d).2) by rw [← hready]]

theorem pollReady_of_nil {d : σ} (h : Lossless.rx d = []) (n : Nat) : pollReady n d = none := by
  have hready := readReady_ok d
  rw [h, List.isEmpty_nil, Bool.not_true] at hready
  unfold pollReady
  rw [show readReady d = (.ok false, (readReady d).2) by rw [← hready]]
  cases n with
  | zero => rfl
  | succ n =>
    apply pollReady_of_nil
    rw [(readReady_next d).1, h]

end Prompt

end EmbeddedIo
