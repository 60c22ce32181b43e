import ModbusBridge.EmbeddedIo.MockStream
import ModbusBridge.EmbeddedIo.Polling

/-!
This module contains peers that send some bytes and then fall silent, as seen through the device at this
end of the line.
-/

namespace EmbeddedIo

open ReadReady

variable {σ ε : Type} [Device σ ε] [ReadReady σ ε]

/--
The peer sends `bytes` and nothing after them: when the device is ready, a read returns some of those that
are left, and when none are left it is never ready again.
-/
inductive Stalls : List UInt8 → σ → Prop where
  | silent (h : Silent d) : Stalls [] d
  | waits (h : (readReady d).1 = .ok false) (hnext : Stalls bytes (readReady d).2) : Stalls bytes d
  | ready (h : (readReady d).1 = .ok true)
      (hread : ∀ n, 0 < n → answered (Device.read (readReady d).2 n).result ≠ []
        ∧ answered (Device.read (readReady d).2 n).result <+: bytes)
      (hnext : ∀ n, 0 < n →
        Stalls (bytes.drop (answered (Device.read (readReady d).2 n).result).length)
          (Device.read (readReady d).2 n).next)
      : Stalls bytes d

namespace Stalls

theorem pollReady_eq {d : σ} (h : Stalls bytes d) (n : Nat)
    : pollReady n d = none ∨ pollReady n d = some (.ok ()) := by
  induction h generalizing n with
  | silent h => exact .inl (h.pollReady_eq n)
  | @waits d bytes h _ ih =>
    unfold pollReady
    rw [show readReady d = (.ok false, (readReady d).2) by rw [← h]]
    cases n with
    | zero => exact .inl rfl
    | succ n => apply ih
  | @ready d bytes h _ _ _ =>
    unfold pollReady
    rw [show readReady d = (.ok true, (readReady d).2) by rw [← h]]
    exact .inr rfl

theorem answered_of_readyAfter {d : σ} (h : Stalls bytes d) (hready : ReadyAfter k d) (hn : 0 < n)
    : answered (Device.read (polled (k + 1) d) n).result ≠ []
        ∧ answered (Device.read (polled (k + 1) d) n).result <+: bytes := by
  induction h generalizing k with
  | silent h => exact absurd hready (h.not_readyAfter k)
  | waits h _ ih =>
    cases k with
    | zero =>
      unfold ReadyAfter at hready
      rw [h] at hready
      cases hready
    | succ k => apply ih hready.2
  | ready h hread _ _ =>
    cases k with
    | zero => apply hread n hn
    | succ k =>
      have hnot := hready.1
      rw [h] at hnot
      cases hnot

end Stalls

namespace MockStream

theorem polled_eq (n : Nat) (d : MockStream) : polled n d = d := by
  induction n with
  | zero => rfl
  | succ n ih => apply ih

theorem silent {d : MockStream} (h : d.rx = []) : Silent d := by
  intro n
  rw [polled_eq]
  show Except.ok (!d.rx.isEmpty) = _
  rw [h]
  rfl

theorem stalls (d : MockStream) : Stalls d.rx d := by
  by_cases hrx : d.rx = []
  . rw [hrx]
    apply Stalls.silent (silent hrx)
  . have hpos : 0 < d.rx.length := List.length_pos_iff.mpr hrx
    apply Stalls.ready
    . show Except.ok (!d.rx.isEmpty) = _
      rw [List.isEmpty_eq_false_iff.mpr hrx]
      rfl
    . intro n hn
      constructor
      . show d.rx.take (grant d.limits.head? n) ≠ []
        have := grant_pos d.limits.head? hn
        rw [← List.length_pos_iff, List.length_take]
        omega
      . exact List.take_prefix _ _
    . intro n hn
      have hgrant := grant_pos d.limits.head? hn
      exact stalls (d.used (d.rx.take (grant d.limits.head? n)).length)
termination_by d.rx.length
decreasing_by
  simp only [used, List.length_drop, List.length_take]
  omega

end MockStream

end EmbeddedIo
