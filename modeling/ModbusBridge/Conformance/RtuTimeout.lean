import ModbusBridge.EmbeddedIo.Polling
import ModbusBridge.Lemmas.Connection
import ModbusBridge.Spec.Mock

/-!
This module contains what the RTU timeout of the blocking bridge is applied to. It is the time the serial
port takes to become ready before the request is sent, so a device that answers when it is asked is never
asked.
-/

namespace ModbusBridge

open Effect EmbeddedIo Session
open ReadReady (polled Silent)

variable {S TS D SE TE : Type}

def AnswersWithin [Device S SE] [ReadReady S SE] (timeoutMs : UInt32) (rtuReq : List UInt8)
    (s : Session S TS D SE TE) : Prop :=
  ∃ s', ModbusRtu.send rtuReq s = .ok () s'
    ∧ ∃ n ≤ timeoutMs.toNat, (ReadReady.readReady (polled n s'.serial)).1 = .ok true

/--
A cycle that has received the request in `s` and then ends with `r`, performing `t`, waits for the device
only after asking it.
-/
structure AsksFirst [Device S SE] [ReadReady S SE] (timeoutMs : UInt32) (rtuReq : List UInt8)
    (s : Session S TS D SE TE) (r : Except (Stop (BridgeError SE TE)) BridgeEvent)
    (t : List (Event SE TE)) : Prop where
  asked : r = .error (.failed .timeout) → Trace.serialTx t = rtuReq
  answered : AnswersWithin timeoutMs rtuReq s → r ≠ .error (.failed .timeout)

section Wait

variable [ReadReady S SE] [DelayNs D]

theorem waitReadyFor_silent {s : Session S TS D SE TE} (h : Silent s.serial)
    (ioError : SE → BridgeError SE TE) (timeoutMs : UInt32)
    : ∃ s', waitReadyFor serialReadReady ioError (some timeoutMs) s = .error (.failed .timeout) s'
        ∧ Emits [.serialReady, .delayMs] s s' := by
  have houtcome : outcome (waitReadyFor serialReadReady ioError (some timeoutMs) s)
      = .error (.failed .timeout) := by
    show outcome (waitReady.go serialReadReady ioError timeoutMs 0 s) = _
    rw [waitReady.go_outcome polls_serial, h.pollReady_eq]
    rfl
  have hwait := Exec.eq_error_of_outcome houtcome
  exact ⟨_, hwait, (waitReadyFor_serialEmits ioError _).of_error hwait⟩

theorem exchange_silent [Device S SE] {s : Session S TS D SE TE} (h : Silent s.serial)
    (htimeout : s.rtuTimeoutMs = some timeoutMs) (rtuReq : List UInt8)
    : ∃ s', (Connection.exchange rtuReq .syncTimed : Exec _ (BridgeError SE TE) _) s
          = .error (.failed .timeout) s'
        ∧ Emits [.serialReady, .delayMs] s s' := by
  obtain ⟨s', hwait, hemits⟩ := waitReadyFor_silent h .rtuIo timeoutMs
  refine ⟨s', ?_, hemits⟩
  unfold Connection.exchange guarded
  dsimp only
  rw [Exec.bind_ok (show (get : Exec _ (BridgeError SE TE) _) s = .ok s s by rfl), htimeout]
  rw [Exec.bind_error hwait]

end Wait

section Next

variable [Device S SE] [Device TS TE] [ReadReady S SE] [ReadReady TS TE] [DelayNs D]

theorem next_silent {s : Session S TS D SE TE} (hsilent : Silent s.serial)
    (htimeout : s.rtuTimeoutMs = some timeoutMs)
    (hreq : Connection.receiveRequest .syncTimed s = .ok tcpReq s₁)
    (hconv : tcpToRtu tcpReq.data = .ok (rtuReq, tid))
    : outcome (Connection.next .syncTimed s) = .error (.failed .timeout)
        ∧ Trace.serialTx (during (Connection.next .syncTimed) s) = [] := by
  have hrequest := (Connection.receiveRequest_onTcp .syncTimed).of_ok hreq
  rw [← hrequest.serial_eq] at hsilent
  rw [← hrequest.rtuTimeoutMs_eq] at htimeout
  obtain ⟨s₂, hexchange, hemits⟩ := exchange_silent hsilent htimeout rtuReq.data
  have hnext : Connection.next .syncTimed s = .error (.failed .timeout) s₂ := by
    unfold Connection.next Connection.cycle
    rw [Exec.bind_ok hreq]
    dsimp only
    rw [hconv]
    dsimp only [Except.mapError]
    rw [Exec.bind_ok (Exec.ofExcept_ok _ _)]
    apply Exec.bind_error hexchange
  constructor
  . rw [hnext]
    rfl
  . apply Yields.flatMap_during
    rw [hnext]
    apply Yields.append_quiet
    . apply Yields.of_emits Event.onlyOf_serialTx hrequest.emits
      decide
    . apply Yields.of_emits Event.onlyOf_serialTx hemits
      decide

/--
Whatever the timeout, the request and the device, a device that is not ready before it is asked is not
asked: the cycle ends in `Timeout` with nothing written, even if the device would answer at once.
-/
theorem not_asksFirst (s : Session S TS D SE TE) (timeoutMs : UInt32) (tcpReq : TcpFrame)
    (rtuReq : RtuResponse) (tid : UInt16) (htimeout : s.rtuTimeoutMs = some timeoutMs)
    (hreq : outcome (Connection.receiveRequest .syncTimed s) = .ok tcpReq)
    (hconv : tcpToRtu tcpReq.data = .ok (rtuReq, tid)) (hsilent : Silent s.serial)
    : ¬ AsksFirst timeoutMs rtuReq.data (finalState (Connection.receiveRequest .syncTimed s))
        (outcome (Connection.next .syncTimed s)) (during (Connection.next .syncTimed) s) := by
  have hreq := Exec.eq_ok_of_outcome hreq
  obtain ⟨htimedOut, hnothing⟩ := next_silent hsilent htimeout hreq hconv
  obtain ⟨_, rid, pid, body, hdata, hmax⟩ := Connection.receiveRequest_ok hreq
  intro h
  have hasked := h.asked htimedOut
  rw [hnothing] at hasked
  rw [hdata] at hconv
  -- Nothing was written, but the request is never empty: it has at least a unit id and a checksum.
  cases body with
  | nil =>
    have hshort : tcpToRtu (tcpFrame rid pid []) = .error .payloadTooShort := by
      apply tcpToRtu_mbap_nil
    rw [hshort] at hconv
    contradiction
  | cons unitId pdu =>
    have hmin : 1 ≤ (unitId :: pdu).length := by simp
    obtain ⟨out, hout, hframe⟩ := tcpToRtu_tcpFrame hmin (by omega) rid pid
    rw [hout] at hconv
    injection hconv with hconv
    injection hconv with hconv
    rw [← hconv, hframe] at hasked
    contradiction

end Next

def promptSession (timeoutMs : UInt32) : Session MockResponder MockStream MockDelay Empty Empty :=
  Bridge.accept
    { serial := ⟨rtuFrame [0x11, 0x03, 0x02, 0xAA, 0xBB], []⟩, txEn := false
      rtuTimeoutMs := some timeoutMs, tcpTimeoutMs := none, delay := ⟨0⟩ }
    (.withRx (tcpFrame 1 0 readRequest))

theorem not_asksFirst_prompt
    : ¬ AsksFirst 1000 (rtuFrame readRequest)
        (finalState (Connection.receiveRequest .syncTimed (promptSession 1000)))
        (outcome (Connection.next .syncTimed (promptSession 1000)))
        (during (Connection.next .syncTimed) (promptSession 1000)) :=
  not_asksFirst (promptSession 1000) 1000 ⟨tcpFrame 1 0 readRequest, by decide⟩
    ⟨rtuFrame readRequest, by decide +kernel⟩ 1 (by rfl) (by decide +kernel) (by decide +kernel)
    (MockResponder.silent (by rfl))

theorem asksFirst_fails
    : ¬ AsksFirst 20 (rtuFrame readRequest)
        (finalState (Connection.receiveRequest .syncTimed (promptSession 20)))
        (outcome (Connection.next .syncTimed (promptSession 20)))
        (during (Connection.next .syncTimed) (promptSession 20)) := by
  intro h
  -- The device is ready as soon as the request is written, well within the 20 ms.
  apply h.answered
  . refine ⟨_, Exec.eq_ok_of_outcome ?_, 0, by decide, ?_⟩
    . decide +kernel
    . decide +kernel
  . decide +kernel

end ModbusBridge
