import ModbusBridge.EmbeddedIo.Device

/-!
This module contains an in-memory device, for evaluating programs on concrete inputs. Its reads return
what is left of `rx` and its writes are accepted, both in pieces that `limits` prescribes.
-/

namespace EmbeddedIo

structure MockStream where
  rx : List UInt8
  /-- How many bytes each of the next operations transfers at most. Later ones have no limit. -/
  limits : List Nat
  deriving DecidableEq, Repr

namespace MockStream

def withRx (rx : List UInt8) : MockStream := ⟨rx, []⟩

def used (s : MockStream) (n : Nat) : MockStream := ⟨s.rx.drop n, s.limits.tail⟩

instance : Device MockStream Empty where
  read s n :=
    let bytes := s.rx.take (grant s.limits.head? n)
    have hle : bytes.length ≤ n := by
      have := grant_le s.limits.head? n
      simp only [bytes, List.length_take]
      omega
    { polls := 0, result := .ok ⟨bytes, hle⟩, next := s.used bytes.length, dropped := s }
  write s buf hbuf :=
    let n := grant s.limits.head? buf.length
    have hn : 0 < n ∧ n ≤ buf.length :=
      ⟨grant_pos _ (List.length_pos_iff.mpr hbuf), grant_le _ _⟩
    { polls := 0, result := .ok ⟨n, hn⟩, next := s.used 0, dropped := s }
  flush s := { polls := 0, result := .ok (), next := s, dropped := s }

instance : ReadReady MockStream Empty where
  readReady s := (.ok !s.rx.isEmpty, s)

end MockStream

structure MockResponder where
  response : List UInt8
  rx : List UInt8
  deriving DecidableEq, Repr

namespace MockResponder

instance : Device MockResponder Empty where
  read d n :=
    have hle : (d.rx.take n).length ≤ n := List.length_take_le _ _
    { polls := 0, result := .ok ⟨d.rx.take n, hle⟩, next := { d with rx := d.rx.drop n }, dropped := d }
  write d buf hbuf :=
    have hn : 0 < buf.length ∧ buf.length ≤ buf.length :=
      ⟨List.length_pos_iff.mpr hbuf, Nat.le_refl _⟩
    { polls := 0, result := .ok ⟨buf.length, hn⟩, next := { d with rx := d.response }, dropped := d }
  flush d := { polls := 0, result := .ok (), next := d, dropped := d }

instance : ReadReady MockResponder Empty where
  readReady d := (.ok !d.rx.isEmpty, d)

theorem polled_eq (n : Nat) (d : MockResponder) : ReadReady.polled n d = d := by
  induction n with
  | zero => rfl
  | succ n ih => apply ih

theorem silent {d : MockResponder} (h : d.rx = []) : ReadReady.Silent d := by
  intro n
  rw [polled_eq]
  show Except.ok (!d.rx.isEmpty) = _
  rw [h]
  rfl

end MockResponder

structure MockDelay where
  polls : Nat
  deriving DecidableEq, Repr

instance : DelayNs MockDelay where
  delayMs d _ := (d.polls, d)

end EmbeddedIo
