import ModbusBridge.EmbeddedIo.ReadExact
import ModbusBridge.Impl.Rtu
import ModbusBridge.Impl.Tcp

/-!
This module contains the two functions that read an exact number of bytes: each ends the way its answers from
the port make it end, where only the one for the serial port puts up with failures.
-/

namespace ModbusBridge

open Effect EmbeddedIo Session

variable {S TS D SE TE : Type}

def reported (ioError : ε → ModbusError SE TE) : ReadEnd ε UInt8 → Except (Stop (ModbusError SE TE)) (List UInt8)
  | .full bytes => .ok bytes
  | .eof => .error (.failed .payloadTooShort)
  | .failed e => .error (.failed (ioError e))
  | .dropped => .error .dropped

/--
Started in `s`, a program that reads `len` bytes with `read` ends with `x`.
-/
def ReadsExactly (retries : Nat) (read : (n : Nat) → Exec σ ε {bytes : List UInt8 // bytes.length ≤ n})
    (ioError : ε → ModbusError SE TE) (s : σ)
    (x : EStateM.Result (Stop (ModbusError SE TE)) σ (Vector UInt8 len)) : Prop :=
  ∃ n r, Ends retries len (answers read len s n) r
    ∧ (outcome x).map Vector.toList = reported ioError r
    ∧ finalState x = stateAfter read len s n

theorem reported_eq_ok {ioError : ε → ModbusError SE TE} {r : ReadEnd ε UInt8}
    : reported ioError r = .ok bytes ↔ r = .full bytes := by
  cases r <;> simp [reported]

namespace ModbusTcp

variable [Device TS TE] {s : Session S TS D SE TE}

theorem readExact.go_reads {filled : List UInt8} (hfilled : filled.length ≤ len)
    (h : Progress tcpRead len s 0 k filled failed)
    : ReadsExactly 0 tcpRead .tcp s (go len filled hfilled (stateAfter tcpRead len s k)) := by
  unfold go
  split
  . next hlt =>
    cases hread : tcpRead (len - filled.length) (stateAfter tcpRead len s k) with
    | ok chunk s₁ =>
      obtain ⟨bytes, hbytes⟩ := chunk
      have hnext := h.next_eq hread
      rw [Exec.bind_result_ok hread]
      cases bytes with
      | nil => exact ⟨k + 1, .eof, h.stopped hread hlt rfl, rfl, hnext.symm⟩
      | cons byte bytes =>
        dsimp only
        rw [show s₁ = stateAfter tcpRead len s (k + 1) from hnext.symm]
        exact go_reads _ (h.bytes hread (List.cons_ne_nil byte bytes))
    | error e s₁ =>
      have hnext := h.next_eq hread
      cases e with
      | dropped =>
        rw [Exec.bind_result_dropped hread]
        exact ⟨k + 1, .dropped, h.stopped hread hlt rfl, rfl, hnext.symm⟩
      | failed e =>
        rw [Exec.bind_result_failed hread]
        exact ⟨k + 1, .failed e, h.stopped hread hlt rfl, rfl, hnext.symm⟩
  . next hge => exact ⟨k, .full filled, h.full (by omega), rfl, rfl⟩
termination_by len - filled.length
decreasing_by
  simp only [List.length_append, List.length_cons]
  omega

theorem readExact_reads (len : Nat) (s : Session S TS D SE TE)
    : ReadsExactly 0 tcpRead .tcp s (readExact len s) := by
  apply readExact.go_reads _ .start

end ModbusTcp

namespace ModbusRtu

variable [Device S SE] {s : Session S TS D SE TE}

theorem readExact.go_reads {filled : List UInt8} (hfilled : filled.length ≤ len) (failed : Nat)
    (h : Progress serialRead len s 10 k filled failed)
    : ReadsExactly 10 serialRead .serial s (go len filled hfilled (failed + 1) (stateAfter serialRead len s k)) := by
  unfold go
  split
  . next hlt =>
    cases hread : serialRead (len - filled.length) (stateAfter serialRead len s k) with
    | ok chunk s₁ =>
      obtain ⟨bytes, hbytes⟩ := chunk
      have hnext := h.next_eq hread
      rw [Exec.bind_result_ok hread]
      cases bytes with
      | nil => exact ⟨k + 1, .eof, h.stopped hread hlt rfl, rfl, hnext.symm⟩
      | cons byte bytes =>
        dsimp only
        rw [show s₁ = stateAfter serialRead len s (k + 1) from hnext.symm]
        exact go_reads _ failed (h.bytes hread (List.cons_ne_nil byte bytes))
    | error e s₁ =>
      have hnext := h.next_eq hread
      cases e with
      | dropped =>
        rw [Exec.bind_result_dropped hread]
        exact ⟨k + 1, .dropped, h.stopped hread hlt rfl, rfl, hnext.symm⟩
      | failed e =>
        rw [Exec.bind_result_failed hread]
        dsimp only
        split
        -- The eleventh failure is the one that is reported.
        . next hgt =>
          have hend : endOf 10 failed (.error (.failed e) : Except (Stop SE) (List UInt8)) = some (.failed e) :=
            endOf_eq_failed.mpr ⟨by omega, rfl⟩
          exact ⟨k + 1, .failed e, h.stopped hread hlt hend, rfl, hnext.symm⟩
        . next hle =>
          rw [show s₁ = stateAfter serialRead len s (k + 1) from hnext.symm]
          exact go_reads hfilled (failed + 1) (h.failure hread (by omega))
  . next hge => exact ⟨k, .full filled, h.full (by omega), rfl, rfl⟩
termination_by (len - filled.length) + (11 - failed)
decreasing_by
  . simp only [List.length_append, List.length_cons]
    omega
  . omega

theorem readExact_reads (len : Nat) (s : Session S TS D SE TE)
    : ReadsExactly 10 serialRead .serial s (readExact len s) := by
  apply readExact.go_reads _ 0 .start

end ModbusRtu

end ModbusBridge
