import ModbusBridge.Lemmas.ReadExact
import ModbusBridge.Lemmas.Rtu

/-!
This module contains how the RTU transport reads an exact number of bytes: which bytes it returns, and after
which answers of the serial port it gives up.
-/

namespace ModbusBridge

open Effect EmbeddedIo Session

variable {S TS D SE TE : Type} [Device S SE]

/--
A call that asks for `len` bytes in `s` and ends with `r`. The answers are those of the serial port when each
read asks for what is still missing.
-/
structure RetryingRead (len : Nat) (s : Session S TS D SE TE)
    (r : EStateM.Result (Stop (ModbusError SE Empty)) (Session S TS D SE TE) (Vector UInt8 len)) : Prop where
  reads : ∃ k ≤ len + 11, finalState r = stateAfter serialRead len s k
    ∧ (finalState r).trace = s.trace ++ (List.range k).map (fun i =>
        .serial (.read (missing serialRead len s i) (answer serialRead len s i)))
    ∧ ∀ buf, outcome r = .ok buf → arrived (answers serialRead len s k) = buf.toList
  full (buf : Vector UInt8 len) : outcome r = .ok buf
    ↔ ∃ k, Undisturbed 10 (answers serialRead len s k) ∧ arrived (answers serialRead len s k) = buf.toList
  too_short : outcome r = .error (.failed .payloadTooShort)
    ↔ ∃ k, Unsettled 10 len (answers serialRead len s k) ∧ answer serialRead len s k = .ok []
  gives_up (e : SE) : outcome r = .error (.failed (.serial e))
    ↔ ∃ k, Unsettled 10 len (answers serialRead len s k) ∧ failures (answers serialRead len s k) = 10
        ∧ answer serialRead len s k = .error (.failed e)
  dropped : outcome r = .error .dropped
    ↔ ∃ k, Unsettled 10 len (answers serialRead len s k) ∧ answer serialRead len s k = .error .dropped
  ends : (∃ buf, outcome r = .ok buf) ∨ outcome r = .error (.failed .payloadTooShort)
    ∨ (∃ e, outcome r = .error (.failed (.serial e))) ∨ outcome r = .error .dropped

theorem trace_stateAfter (len : Nat) (s : Session S TS D SE TE) (k : Nat)
    : (stateAfter serialRead len s k).trace = s.trace ++ (List.range k).map (fun i =>
        .serial (.read (missing serialRead len s i) (answer serialRead len s i))) := by
  induction k with
  | zero => exact (List.append_nil _).symm
  | succ k ih =>
    rw [stateAfter_succ, trace_serialRead, ih, List.range_succ, List.map_append, List.append_assoc]
    rfl

/--
Reading goes on over failures without losing its place, and over successes without forgetting the failures.
-/
theorem ModbusRtu.readExact_retries (len : Nat) (s : Session S TS D SE TE)
    : RetryingRead len s (ModbusRtu.readExact len s) := by
  obtain ⟨n, r, hends, houtcome, hfinal⟩ := readExact_reads len s
  have hok (buf : Vector UInt8 len)
      : outcome (ModbusRtu.readExact len s) = .ok buf ↔ r = .full buf.toList := by
    rw [← reported_eq_ok, ← houtcome, Effect.map_eq_ok fun _ _ => Vector.toList_inj.mp]
  have hfailed (e : Stop (ModbusError SE Empty))
      : outcome (ModbusRtu.readExact len s) = .error e ↔ reported .serial r = .error e := by
    rw [← houtcome, Effect.map_eq_error]
  constructor
  . refine ⟨n, ?_, hfinal, ?_, ?_⟩
    . have hle := hends.length_le
      rw [length_answers] at hle
      omega
    . rw [hfinal]
      apply trace_stateAfter
    . intro buf hbuf
      rw [(hok buf).mp hbuf] at hends
      apply hends.arrived_eq
  . intro buf
    rw [hok, hends.eq_iff, exists_ends_full_iff]
    simp only [Vector.length_toList, true_and]
  . rw [hfailed, ← exists_ends_eof_iff, ← hends.eq_iff]
    cases r <;> simp [reported]
  . intro e
    rw [hfailed, ← exists_ends_failed_iff, ← hends.eq_iff]
    cases r <;> simp [reported]
  . rw [hfailed, ← exists_ends_dropped_iff, ← hends.eq_iff]
    cases r <;> simp [reported]
  . cases hr : outcome (ModbusRtu.readExact len s) with
    | ok buf => exact .inl ⟨buf, rfl⟩
    | error e =>
      rw [hfailed] at hr
      cases r with
      | full bytes => contradiction
      | eof => exact .inr (.inl (congrArg _ (Except.error.inj hr).symm))
      | failed e' => exact .inr (.inr (.inl ⟨e', congrArg _ (Except.error.inj hr).symm⟩))
      | dropped => exact .inr (.inr (.inr (congrArg _ (Except.error.inj hr).symm)))

end ModbusBridge
