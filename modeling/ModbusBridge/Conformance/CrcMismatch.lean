import ModbusBridge.Lemmas.Connection
import ModbusBridge.Lemmas.Eof
import ModbusBridge.Spec.Mock

/-!
This module contains what `RtuCrcMismatch` says about a call of the bridge: the device has sent a response
whose CRC does not match, or the serial port has come to its end before the response was complete.
-/

namespace ModbusBridge

open Effect EmbeddedIo Session
open Exec (Within)

variable {S TS D SE TE : Type}

/--
All of an RTU response is there, but its CRC does not match.
-/
def BrokenResponse (rtu : List UInt8) : Prop :=
  rtu.length = responseLength rtu ∧ crc (rtu.take (rtu.length - 2)) ≠ rtu.drop (rtu.length - 2)

/--
The outcome `r` of a call with the events `t` is a CRC mismatch if there is one, and a serial port that has
come to its end is something else.
-/
structure MeansMismatch (r : Except (Stop (BridgeError SE TE)) BridgeEvent) (t : List (Event SE TE)) : Prop where
  mismatch_iff : r = .error (.failed .rtuCrcMismatch) ↔ BrokenResponse (Trace.serialRx t)
  ended : (∃ n, .serial (.read n (.ok [])) ∈ t) → r ≠ .error (.failed .rtuCrcMismatch)

theorem not_brokenResponse_of_lt {rtu : List UInt8} (h : rtu.length < responseLength rtu)
    : ¬ BrokenResponse rtu := by
  rintro ⟨hlen, _⟩
  omega

theorem not_brokenResponse_nil : ¬ BrokenResponse [] := by
  have := responseLength_bounds []
  apply not_brokenResponse_of_lt
  rw [List.length_nil]
  omega

theorem brokenResponse_iff {rtu : List UInt8} (hlen : rtu.length = responseLength rtu)
    : BrokenResponse rtu ↔ checkCrc rtu = .error .crc := by
  have hbounds := responseLength_bounds rtu
  unfold BrokenResponse
  rw [checkCrc_eq_ite (by omega)]
  simp [hlen]

/--
What the serial port has delivered between `s` and `s'`, and whether it has come to its end there, amounts to
a mismatch.
-/
def Mismatched (s s' : Session S TS D SE TE) (mismatch : Prop) : Prop :=
  ∃ bytes ends, SerialReads bytes s s' ∧ Yields Event.serialEof ends s s'
    ∧ (mismatch ↔ BrokenResponse bytes ∨ ends ≠ [])

namespace Mismatched

variable {s s₁ s' : Session S TS D SE TE}

theorem quiet (h : Emits kinds s s') (hread : .serialRead ∉ kinds) (hmismatch : ¬ mismatch)
    : Mismatched s s' mismatch := by
  refine ⟨[], [], .of_emits Event.onlyOf_serialRx h hread, .of_emits Event.onlyOf_serialEof h hread, ?_⟩
  simp [hmismatch, not_brokenResponse_nil]

theorem after (h : Emits kinds s s₁) (hread : .serialRead ∉ kinds) (hrest : Mismatched s₁ s' mismatch)
    : Mismatched s s' mismatch := by
  obtain ⟨bytes, ends, hreads, heof, hiff⟩ := hrest
  have hquiet : SerialReads [] s s₁ := .of_emits Event.onlyOf_serialRx h hread
  have hnone : Yields Event.serialEof [] s s₁ := .of_emits Event.onlyOf_serialEof h hread
  exact ⟨bytes, ends, hquiet.quiet_append hreads, hnone.quiet_append heof, hiff⟩

theorem before (hfirst : Mismatched s s₁ mismatch) (h : Emits kinds s₁ s') (hread : .serialRead ∉ kinds)
    : Mismatched s s' mismatch := by
  obtain ⟨bytes, ends, hreads, heof, hiff⟩ := hfirst
  have hquiet : SerialReads [] s₁ s' := .of_emits Event.onlyOf_serialRx h hread
  have hnone : Yields Event.serialEof [] s₁ s' := .of_emits Event.onlyOf_serialEof h hread
  exact ⟨bytes, ends, hreads.append_quiet hquiet, heof.append_quiet hnone, hiff⟩

theorem congr (hfirst : Mismatched s s' mismatch) (h : mismatch' ↔ mismatch) : Mismatched s s' mismatch' := by
  obtain ⟨bytes, ends, hreads, heof, hiff⟩ := hfirst
  exact ⟨bytes, ends, hreads, heof, h.trans hiff⟩

end Mismatched

theorem eofs_ne_nil_iff {r : Except (Stop (ModbusError SE TE)) α}
    : eofs r ≠ [] ↔ r = .error (.failed .payloadTooShort) := by
  unfold eofs
  split
  . simp
  . next hne => simpa using hne

section Exchange

/--
The two failures of an exchange that are reported as a mismatch.
-/
def Unanswered (r : Except (Stop (ModbusError SE Empty)) α) : Prop :=
  r = .error (.failed .crc) ∨ r = .error (.failed .payloadTooShort)

theorem exchangeError_eq_mismatch {e : ModbusError SE Empty}
    : (Connection.exchangeError flavour e : BridgeError SE TE) = .rtuCrcMismatch
        ↔ Unanswered (.error (.failed e) : Except _ α) := by
  unfold Unanswered
  cases e with
  | tcp e => cases e
  | serial | crc | push | payloadTooShort | invalidTransactionId | conversionSlice | rtuIllegal =>
    simp [Connection.exchangeError]

variable [Device S SE]

theorem receive_mismatched (s : Session S TS D SE TE)
    : Mismatched s (finalState (ModbusRtu.receive s)) (Unanswered (outcome (ModbusRtu.receive s))) := by
  have heof := ModbusRtu.receive_eofAt s
  unfold EofAt at heof
  unfold Unanswered
  rw [← eofs_ne_nil_iff]
  cases h : ModbusRtu.receive s with
  | ok f s' =>
    rw [h] at heof
    obtain ⟨hreads, hlen, body, hmin, hdata⟩ := ModbusRtu.receive_ok h
    have hok : ¬ BrokenResponse f.data := by
      rw [brokenResponse_iff hlen, hdata, checkCrc_rtuFrame hmin]
      exact nofun
    refine ⟨f.data, _, hreads, heof, ?_⟩
    simp [hok]
  | error e s' =>
    rw [h] at heof
    obtain ⟨bytes, hreads, hcases⟩ := ModbusRtu.receive_error h
    refine ⟨bytes, _, hreads, heof, ?_⟩
    obtain ⟨rfl, hlen, hcrc⟩ | ⟨hstop, hlt⟩ := hcases
    . simp [(brokenResponse_iff hlen).mpr hcrc]
    . have hne : e ≠ .failed .crc := by
        rintro rfl
        exact hstop
      simp [not_brokenResponse_of_lt hlt, hne]

theorem sendAndReceive_mismatched {s : Session S TS D SE TE} (h : ModbusRtu.sendAndReceive req s = r)
    : Mismatched s (finalState r) (Unanswered (outcome r)) := by
  have hsend := (ModbusRtu.send_onSerial (List.Subset.refl ModbusRtu.sendKinds) req s).emits
  rw [← h]
  unfold ModbusRtu.sendAndReceive
  cases hs : ModbusRtu.send req s with
  | error e s₁ =>
    rw [hs] at hsend
    rw [Exec.bind_error (Exec.mapErr_error hs)]
    apply Mismatched.quiet hsend (by decide)
    rintro (h | h)
    all_goals cases e <;> cases h
  | ok _ s₁ =>
    rw [hs] at hsend
    rw [Exec.bind_ok (Exec.mapErr_ok hs)]
    apply Mismatched.after hsend (by decide)
    apply receive_mismatched

variable [ReadReady S SE] [DelayNs D]

theorem exchange_mismatched (rtuReq : List UInt8) (flavour : Flavour) (s : Session S TS D SE TE)
    : Mismatched s (finalState (Connection.exchange rtuReq flavour s))
        (outcome (Connection.exchange rtuReq flavour s)
          = .error (.failed (.rtuCrcMismatch : BridgeError SE TE))) := by
  have hrun : GuardedRun _ _ _ _ _ _ s (Connection.exchange rtuReq flavour s) :=
    Connection.exchange_run rtuReq flavour s
  generalize Connection.exchange rtuReq flavour s = r at hrun
  have hanswered {s₁ r} (hwait : OnSerial [.serialReady, .delayMs] s s₁)
      (hfut : ModbusRtu.sendAndReceive rtuReq s₁ = r) : Mismatched s (finalState r) (Unanswered (outcome r)) :=
    .after hwait.emits (by decide) (sendAndReceive_mismatched hfut)
  cases hrun with
  | notReady hwait hstop =>
    apply Mismatched.quiet hwait.emits (by decide)
    obtain rfl | ⟨e, rfl⟩ | rfl := waitReadyFor_error hstop
    all_goals simp
  | returned hwait hfut deadline =>
    apply Mismatched.congr (hanswered hwait hfut)
    simp [Unanswered]
  | failed hwait hfut deadline =>
    apply Mismatched.congr (hanswered hwait hfut)
    rw [outcome_error, Except.error.injEq, Stop.failed.injEq]
    apply exchangeError_eq_mismatch
  | dropped hwait hfut deadline hstop =>
    apply Mismatched.congr (hanswered hwait hfut)
    obtain rfl | rfl := hstop
    all_goals simp [Unanswered]

end Exchange

section Next

theorem listenError_ne_mismatch (flavour : Flavour) (e : ModbusError Empty TE)
    : (Connection.listenError flavour e : BridgeError SE TE) ≠ .rtuCrcMismatch := by
  cases e with
  | serial e => cases e
  | tcp | crc | push | payloadTooShort | invalidTransactionId | conversionSlice | rtuIllegal =>
    cases flavour <;> simp [Connection.listenError]

theorem receiveRequest_ne_mismatch [Device TS TE] [ReadReady TS TE] [DelayNs D] {s s' : Session S TS D SE TE}
    (h : Connection.receiveRequest flavour s = .error e s') : e ≠ .failed .rtuCrcMismatch := by
  have hrun := Connection.receiveRequest_run flavour s
  rw [h] at hrun
  cases hrun with
  | notReady _ hstop =>
    obtain rfl | ⟨e, rfl⟩ | rfl := waitReadyFor_error hstop
    all_goals simp
  | failed _ _ _ => simp [listenError_ne_mismatch]
  | dropped _ _ _ hstop =>
    obtain rfl | rfl := hstop
    all_goals simp

variable [Device S SE] [Device TS TE] [ReadReady S SE] [ReadReady TS TE] [DelayNs D]

theorem next_mismatched (flavour : Flavour) (s : Session S TS D SE TE)
    : Mismatched s (finalState (Connection.next flavour s))
        (outcome (Connection.next flavour s) = .error (.failed .rtuCrcMismatch)) := by
  have hrun := Connection.next_run flavour s
  generalize Connection.next flavour s = r at hrun
  have hexchanged {rtuReq tcpReq s₁ r} (hreq : Connection.receiveRequest flavour s = .ok tcpReq s₁)
      (hexchange : (Connection.exchange rtuReq flavour s₁
        : EStateM.Result (Stop (BridgeError SE TE)) _ _) = r)
      : Mismatched s (finalState r) (outcome r = .error (.failed .rtuCrcMismatch)) := by
    have hquiet := ((Connection.receiveRequest_onTcp flavour).of_ok hreq).emits
    rw [← hexchange]
    apply Mismatched.after hquiet (by decide)
    apply exchange_mismatched
  cases hrun with
  | requestFailed hreq =>
    have hquiet := ((Connection.receiveRequest_onTcp flavour).of_error hreq).emits
    apply Mismatched.quiet hquiet (by decide)
    simp [receiveRequest_ne_mismatch hreq]
  | rejected hreq _ =>
    have hquiet := ((Connection.receiveRequest_onTcp flavour).of_ok hreq).emits
    apply Mismatched.quiet hquiet (by decide)
    simp
  | exchangeFailed hreq _ _ _ hexchange =>
    apply Mismatched.congr (hexchanged hreq hexchange)
    simp
  | replyFailed hreq _ _ _ hexchange _ _ hsend =>
    have hquiet := ((ModbusTcp.send_onTcp _).of_error hsend).emits
    apply Mismatched.congr ((hexchanged hreq hexchange).before hquiet (by decide))
    simp [Stop.map_ne_failed]
  | replied hreq _ _ _ hexchange _ _ hsend =>
    have hquiet := ((ModbusTcp.send_onTcp _).of_ok hsend).emits
    apply Mismatched.congr ((hexchanged hreq hexchange).before hquiet (by decide))
    simp

/--
A mismatch is what it says, unless a read of the serial port returns no bytes: that is reported as a mismatch,
too.
-/
theorem meansMismatch_iff (flavour : Flavour) (s : Session S TS D SE TE)
    : MeansMismatch (outcome (Connection.next flavour s)) (during (Connection.next flavour) s)
        ↔
      ¬ ∃ n, .serial (.read n (.ok [])) ∈ during (Connection.next flavour) s := by
  obtain ⟨bytes, ends, hreads, heof, hiff⟩ := next_mismatched flavour s
  have hrx : Trace.serialRx (during (Connection.next flavour) s) = bytes := hreads.flatMap_during
  have hended : (∃ n, .serial (.read n (.ok [])) ∈ during (Connection.next flavour) s) ↔ ends ≠ [] := by
    rw [← Event.flatMap_serialEof_ne_nil, heof.flatMap_during]
  constructor
  . intro h hsome
    exact h.ended hsome (hiff.mpr (.inr (hended.mp hsome)))
  . intro hnone
    constructor
    . rw [hrx, hiff, ← hended, or_iff_left hnone]
    . intro hsome
      exact absurd hsome hnone

end Next

theorem meansMismatch_fails
    : ¬ MeansMismatch
        (outcome (Connection.next .sync
          (mockSession [0x11, 0x03, 0x02, 0xAA] (tcpFrame 1 0 readRequest))))
        (during (Connection.next .sync)
          (mockSession [0x11, 0x03, 0x02, 0xAA] (tcpFrame 1 0 readRequest))) := by
  intro h
  have hcrc : outcome (Connection.next .sync
      (mockSession [0x11, 0x03, 0x02, 0xAA] (tcpFrame 1 0 readRequest)))
        = .error (.failed .rtuCrcMismatch) := by
    decide +kernel
  have hrx : Trace.serialRx (during (Connection.next .sync)
      (mockSession [0x11, 0x03, 0x02, 0xAA] (tcpFrame 1 0 readRequest))) = [0x11, 0x03, 0x02, 0xAA] := by
    decide +kernel
  -- The last three bytes of the response are missing, so there is no CRC that could fail to match.
  obtain ⟨hlen, _⟩ := h.mismatch_iff.mp hcrc
  rw [hrx] at hlen
  contradiction

end ModbusBridge
