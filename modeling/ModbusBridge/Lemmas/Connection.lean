import ModbusBridge.Impl.Connection
import ModbusBridge.Lemmas.Receive
import ModbusBridge.Lemmas.Send

/-!
This module contains the ways in which a call of `Connection::next` can go, on arbitrary devices and
in all four copies.
-/

namespace ModbusBridge

open Effect EmbeddedIo Session
open Exec (Within)

namespace ModbusRtu

variable {S TS D SE TE : Type} [Device S SE]

theorem sendAndReceive_frames (req : List UInt8) (s : Session S TS D SE TE)
    : Yields Event.rtuFrames [req] s (finalState (sendAndReceive req s)) := by
  have hsend := send_yields req s
  unfold sendAndReceive
  cases hs : send req s with
  | error e s₁ =>
    rw [hs] at hsend
    rw [Exec.bind_error (Exec.mapErr_error hs)]
    apply hsend
  | ok _ s₁ =>
    rw [hs] at hsend
    rw [Exec.bind_ok (Exec.mapErr_ok hs)]
    have hreads := (receive_onSerial (List.mem_singleton_self _) s₁).emits
    apply hsend.append_quiet
    apply Yields.of_emits Event.onlyOf_rtuFrames hreads
    decide

theorem sendAndReceive_ok {s s' : Session S TS D SE TE} (h : sendAndReceive req s = .ok r s')
    : Yields Event.serialTx req s s' ∧ SerialReads r.data s s'
        ∧ r.data.length = responseLength r.data
        ∧ ∃ body, 2 ≤ body.length ∧ r.data = rtuFrame body := by
  unfold sendAndReceive at h
  rw [Exec.bind_eq_ok] at h
  obtain ⟨_, s₁, hsend, hreceive⟩ := h
  rw [Exec.mapErr_eq_ok] at hsend
  obtain ⟨hreads, hlen, hframe⟩ := receive_ok hreceive
  have hsent := (send_onSerial (List.Subset.refl sendKinds) req).of_ok hsend
  have hreceived := (receive_onSerial (List.mem_singleton_self Event.Kind.serialRead)).of_ok hreceive
  refine ⟨?_, ?_, hlen, hframe⟩
  . apply (send_writes hsend).append_quiet
    apply Yields.of_emits Event.onlyOf_serialTx hreceived.emits
    decide
  . apply Yields.quiet_append _ hreads
    apply Yields.of_emits Event.onlyOf_serialRx hsent.emits
    decide

/--
A failure of `send_and_receive` comes from a port operation, or from a response that is incomplete or
whose CRC does not match. In particular there is always room for the response.
-/
theorem sendAndReceive_error {s s' : Session S TS D SE TE} (h : sendAndReceive req s = .error e s')
    : (e = .failed .crc ∨ ReadStop e)
        ∧ ∃ bytes, SerialReads bytes s s'
            ∧ ¬ RtuComplete bytes := by
  unfold sendAndReceive at h
  rw [Exec.bind_eq_error] at h
  have hsent : Within (OnSerial sendKinds) (send req : Exec (Session S TS D SE TE) SE Unit) :=
    send_onSerial (List.Subset.refl sendKinds) req
  cases h with
  | inl hsend =>
    rw [Exec.mapErr_eq_error] at hsend
    obtain ⟨e₀, hsend, rfl⟩ := hsend
    refine ⟨.inr ?_, [], ?_, ?_⟩
    . cases e₀ <;> trivial
    . apply Yields.of_emits Event.onlyOf_serialRx (hsent.of_error hsend).emits
      decide
    . apply not_rtuComplete_nil
  | inr h =>
    obtain ⟨_, s₁, hsend, hreceive⟩ := h
    rw [Exec.mapErr_eq_ok] at hsend
    have hquiet : SerialReads [] s s₁ := by
      apply Yields.of_emits Event.onlyOf_serialRx (hsent.of_ok hsend).emits
      decide
    obtain ⟨bytes, hreads, hcases⟩ := receive_error hreceive
    obtain ⟨rfl, _, hcrc⟩ | ⟨hstop, hlt⟩ := hcases
    . refine ⟨.inl rfl, bytes, hquiet.quiet_append hreads, ?_⟩
      rintro ⟨_, hok⟩
      rw [hcrc] at hok
      contradiction
    . refine ⟨.inr hstop, bytes, hquiet.quiet_append hreads, ?_⟩
      rintro ⟨hlen, _⟩
      omega

end ModbusRtu

namespace Connection

variable {S TS D SE TE : Type}

section Request

variable [Device TS TE] [ReadReady TS TE] [DelayNs D]

theorem receiveRequest_run (flavour : Flavour) (s : Session S TS D SE TE)
    : TcpReceiveRun s.tcpTimeoutMs (listenError flavour) s (receiveRequest flavour s) := by
  apply guarded_run
  . apply tcpReadReady_onTcp
    decide
  . apply delayMs_onTcp
    decide
  . apply OnTcp.timers

theorem receiveRequest_onTcp (flavour : Flavour)
    : Within (OnTcp tcpReceiveKinds)
        (receiveRequest flavour : Exec (Session S TS D SE TE) (BridgeError SE TE) _) := by
  intro s
  apply (receiveRequest_run flavour s).onTcp

theorem receiveRequest_ok {s s' : Session S TS D SE TE} (h : receiveRequest flavour s = .ok f s')
    : TcpReads f.data s s' ∧ ∃ tid pid body, f.data = tcpFrame tid pid body ∧ body.length ≤ 255 := by
  have hrun := receiveRequest_run flavour s
  rw [h] at hrun
  apply hrun.of_ok

omit [Device TS TE] [ReadReady TS TE] [DelayNs D] in
theorem listenError_of_readStop {e : ModbusError Empty TE} (h : ReadStop (.failed e))
    : (listenError flavour e : BridgeError SE TE) ≠ .bufferOverflow := by
  cases e with
  | serial e => cases e
  | tcp e => cases flavour <;> simp [listenError]
  | payloadTooShort => cases flavour <;> simp [listenError]
  | crc | push | invalidTransactionId | conversionSlice | rtuIllegal => cases h

theorem receiveRequest_error {s s' : Session S TS D SE TE} (h : receiveRequest flavour s = .error e s')
    : ∃ bytes, TcpReads bytes s s'
        ∧ ((e = .failed .bufferOverflow ∧ bytes.length = tcpBuf + 1 ∧ bytes.length ≤ 6 + lengthField bytes)
          ∨ (e ≠ .failed .bufferOverflow ∧ bytes.length ≤ tcpBuf
            ∧ bytes.length < 6 + lengthField bytes)) := by
  have hrun := receiveRequest_run flavour s
  rw [h] at hrun
  apply hrun.of_error
  . cases flavour <;> rfl
  . intro e
    apply listenError_of_readStop

end Request

section Exchange

def exchangeKinds : List Event.Kind := [.serialReady, .delayMs, .serialRead] ++ ModbusRtu.sendKinds

theorem waited_frames {s s₁ : Session S TS D SE TE} (h : OnSerial [.serialReady, .delayMs] s s₁)
    : Yields Event.rtuFrames [] s s₁ := by
  apply Yields.of_emits Event.onlyOf_rtuFrames h.emits
  decide

theorem sent_frames [Device S SE] {s s₁ : Session S TS D SE TE}
    (h : OnSerial [.serialReady, .delayMs] s s₁) (hfut : ModbusRtu.sendAndReceive rtuReq s₁ = r)
    : Yields Event.rtuFrames [rtuReq] s (finalState r) := by
  rw [← hfut]
  apply (waited_frames h).quiet_append
  apply ModbusRtu.sendAndReceive_frames

variable [Device S SE] [ReadReady S SE] [DelayNs D]

theorem exchange_run (rtuReq : List UInt8) (flavour : Flavour) (s : Session S TS D SE TE)
    : GuardedRun (OnSerial [.serialReady, .delayMs]) serialReadReady .rtuIo s.rtuTimeoutMs
        (ModbusRtu.sendAndReceive rtuReq) (exchangeError flavour) s (exchange rtuReq flavour s) := by
  apply guarded_run
  . apply serialReadReady_onSerial
    decide
  . apply delayMs_onSerial
    decide
  . apply OnSerial.timers

theorem exchange_onSerial (rtuReq : List UInt8) (flavour : Flavour)
    : Within (OnSerial exchangeKinds)
        (exchange rtuReq flavour : Exec (Session S TS D SE TE) (BridgeError SE TE) _) := by
  intro s
  apply (exchange_run rtuReq flavour s).within
  . intro s s' h
    apply h.mono
    decide
  . apply ModbusRtu.sendAndReceive_onSerial
    . decide
    . decide
  . apply OnSerial.timers

theorem exchange_frames (rtuReq : List UInt8) (flavour : Flavour) (s : Session S TS D SE TE)
    : Yields Event.rtuFrames [] s (finalState (exchange rtuReq flavour s))
        ∨ Yields Event.rtuFrames [rtuReq] s (finalState (exchange rtuReq flavour s)) := by
  have hrun := exchange_run rtuReq flavour s
  generalize exchange rtuReq flavour s = r at hrun
  cases hrun with
  | notReady h _ =>
    left
    apply waited_frames h
  | returned h hfut _ | failed h hfut _ | dropped h hfut _ _ =>
    right
    apply sent_frames h hfut

theorem exchange_frames_of_ready (rtuReq : List UInt8) {s : Session S TS D SE TE}
    (h : flavour = .syncTimed → ReadyFor s.rtuTimeoutMs s.serial)
    : Yields Event.rtuFrames [rtuReq] s
        (finalState (exchange rtuReq flavour s : EStateM.Result (Stop (BridgeError SE TE)) _ _)) := by
  obtain ⟨s₁, deadline, hwait, hfinal⟩ : ∃ s₁ deadline, OnSerial [.serialReady, .delayMs] s s₁
      ∧ finalState (exchange rtuReq flavour s : EStateM.Result (Stop (BridgeError SE TE)) _ _)
        = { finalState (ModbusRtu.sendAndReceive rtuReq s₁) with deadline } := by
    apply guarded_of_ready
    . apply serialReadReady_onSerial
      decide
    . apply delayMs_onSerial
      decide
    . apply OnSerial.timers
    . intro hflavour
      apply (waitReadyFor_ok_iff polls_serial .rtuIo _ s).mpr (h hflavour)
  rw [hfinal]
  apply (waited_frames hwait).quiet_append
  apply ModbusRtu.sendAndReceive_frames

theorem exchange_frames_of_not_ready (rtuReq : List UInt8) {s : Session S TS D SE TE}
    (h : ¬ ReadyFor s.rtuTimeoutMs s.serial)
    : Yields Event.rtuFrames [] s
        (finalState (exchange rtuReq .syncTimed s : EStateM.Result (Stop (BridgeError SE TE)) _ _)) := by
  have hwithin : Within (OnSerial [.serialReady, .delayMs])
      (waitReadyFor serialReadReady .rtuIo s.rtuTimeoutMs : Exec (Session S TS D SE TE) _ _) := by
    apply waitReadyFor_within
    . apply serialReadReady_onSerial
      decide
    . apply delayMs_onSerial
      decide
  unfold exchange guarded
  dsimp only
  rw [Exec.bind_ok (show (get : Exec _ (BridgeError SE TE) _) s = .ok s s by rfl)]
  cases hwait : waitReadyFor serialReadReady .rtuIo s.rtuTimeoutMs s with
  | ok _ s₁ =>
    exfalso
    apply h
    apply (waitReadyFor_ok_iff polls_serial .rtuIo _ s).mp
    rw [hwait]
    rfl
  | error e s₁ =>
    rw [Exec.bind_error hwait]
    apply waited_frames (hwithin.of_error hwait)

theorem exchange_ok {s s' : Session S TS D SE TE} (h : exchange rtuReq flavour s = .ok r s')
    : Yields Event.rtuFrames [rtuReq] s s' ∧ Yields Event.serialTx rtuReq s s'
        ∧ SerialReads r.data s s' ∧ r.data.length = responseLength r.data
        ∧ ∃ body, 2 ≤ body.length ∧ r.data = rtuFrame body := by
  have hrun := exchange_run rtuReq flavour s
  rw [h] at hrun
  cases hrun with
  | returned hwait hfut deadline =>
    obtain ⟨hwrites, hreads, hlen, hframe⟩ := ModbusRtu.sendAndReceive_ok hfut
    refine ⟨sent_frames hwait hfut, ?_, ?_, hlen, hframe⟩
    . apply Yields.quiet_append _ hwrites
      apply Yields.of_emits Event.onlyOf_serialTx hwait.emits
      decide
    . apply Yields.quiet_append _ hreads
      apply Yields.of_emits Event.onlyOf_serialRx hwait.emits
      decide

/--
An exchange stopped in one of the ways that a request on the serial line can: no answer, a broken one, or
a failed operation.
-/
def ExchangeStop : Stop (BridgeError SE TE) → Prop
  | .failed (.rtuIo _) => True
  | .failed .rtuCrcMismatch => True
  | .failed .timeout => True
  | .failed _ => False
  | .dropped => True

omit [Device S SE] [ReadReady S SE] [DelayNs D] in
theorem exchangeError_of_stop {e : ModbusError SE Empty}
    (h : (Stop.failed e : Stop (ModbusError SE Empty)) = .failed .crc ∨ ReadStop (.failed e))
    : ExchangeStop (.failed (exchangeError flavour e : BridgeError SE TE)) := by
  cases e with
  | serial e => trivial
  | tcp e => cases e
  | crc => trivial
  | payloadTooShort => trivial
  | push | invalidTransactionId | conversionSlice | rtuIllegal => simp [ReadStop] at h

theorem exchange_error {s s' : Session S TS D SE TE} (h : exchange rtuReq flavour s = .error e s')
    : ExchangeStop e
        ∧ ∃ bytes, SerialReads bytes s s'
            ∧ ¬ RtuComplete bytes := by
  have hwaited : ∀ s₁, OnSerial [.serialReady, .delayMs] s s₁ → SerialReads [] s s₁ := by
    intro s₁ h
    apply Yields.of_emits Event.onlyOf_serialRx h.emits
    decide
  have hrun := exchange_run rtuReq flavour s
  rw [h] at hrun
  cases hrun with
  | notReady hwait hstop =>
    refine ⟨?_, [], hwaited _ hwait, ?_⟩
    . obtain rfl | ⟨e, rfl⟩ | rfl := waitReadyFor_error hstop
      all_goals trivial
    . apply not_rtuComplete_nil
  | failed hwait hfut deadline =>
    obtain ⟨hstop, bytes, hreads, hnot⟩ := ModbusRtu.sendAndReceive_error hfut
    refine ⟨?_, bytes, (hwaited _ hwait).quiet_append hreads, hnot⟩
    apply exchangeError_of_stop hstop
  | dropped hwait hfut deadline hstop =>
    obtain ⟨_, bytes, hreads, hnot⟩ := ModbusRtu.sendAndReceive_error hfut
    refine ⟨?_, bytes, (hwaited _ hwait).quiet_append hreads, hnot⟩
    obtain rfl | rfl := hstop
    all_goals trivial

theorem exchange_not_overflow {s s' : Session S TS D SE TE} (h : exchange rtuReq flavour s = .error e s')
    : e ≠ .failed .bufferOverflow := by
  rintro rfl
  exact (exchange_error h).1

end Exchange

section Next

theorem frameReply_rtuFrame {body : List UInt8} (hmin : 2 ≤ body.length) (hmax : body.length ≤ 506)
    (rxTid : List UInt8 → UInt16) (tid : UInt16)
    : ∃ out, (frameReply rxTid (rtuFrame body) tid : Except (BridgeError SE TE) _) = .ok (out, none)
        ∧ out.data = tcpFrame tid 0 body := by
  obtain ⟨out, hout, hdata⟩ := wrapMbap_rtuFrame hmin hmax tid
  refine ⟨out, ?_, hdata⟩
  unfold frameReply rtuRespToTcp
  rw [hout]

section Within

variable [Device S SE] [Device TS TE] [ReadReady S SE] [ReadReady TS TE] [DelayNs D]
  {R : Session S TS D SE TE → Session S TS D SE TE → Prop} [IsPreorder (Session S TS D SE TE) R]

theorem next_after (hexchange : ∀ rtuReq, Within R (exchange rtuReq flavour))
    (hreply : ∀ data, Within R (ModbusTcp.send data)) (s : Session S TS D SE TE)
    : R (finalState (receiveRequest flavour s)) (finalState (next flavour s)) := by
  unfold next cycle
  apply Within.bind_rest
  intro tcpReq
  apply Within.bind
  . apply Within.ofExcept
  intro (rtuReq, tid)
  apply Within.bind (hexchange _)
  intro rtuResp
  apply Within.bind
  . apply Within.ofExcept
  intro (tcpResp, tidWarning)
  apply Within.bind (hreply _).mapErr
  intro _
  cases tidWarning with
  | some w => apply Within.pure
  | none => apply Within.pure

theorem next_within (hrequest : Within R (receiveRequest flavour))
    (hexchange : ∀ rtuReq, Within R (exchange rtuReq flavour))
    (hreply : ∀ data, Within R (ModbusTcp.send data)) : Within R (next flavour) := by
  intro s
  apply trans_of R (hrequest s)
  apply next_after hexchange hreply

end Within

/--
Which frames a call hands to the two transports, in terms of what it reads.
-/
inductive CallFrames (s s' : Session S TS D SE TE) : Prop where
  | nothing (hrtu : Yields Event.rtuFrames [] s s') (htcp : Yields Event.tcpFrames [] s s')
  | forwarded (hpos : 1 ≤ body.length) (hmax : body.length ≤ 255)
      (hreq : TcpReads (tcpFrame tid pid body) s s')
      (hrtu : Yields Event.rtuFrames [rtuFrame body] s s') (htcp : Yields Event.tcpFrames [] s s')
  | answered (hpos : 1 ≤ body.length) (hmax : body.length ≤ 255)
      (hlen : rbody.length + 2 = responseLength (rtuFrame rbody))
      (hreq : TcpReads (tcpFrame tid pid body) s s') (hresp : SerialReads (rtuFrame rbody) s s')
      (hrtu : Yields Event.rtuFrames [rtuFrame body] s s')
      (hwrites : Yields Event.serialTx (rtuFrame body) s s')
      (htcp : Yields Event.tcpFrames [tcpFrame tid 0 rbody] s s')

theorem CallFrames.rtuFrames {s s' : Session S TS D SE TE} (h : CallFrames s s')
    : ∃ seen, Yields Event.rtuFrames seen s s' := by
  cases h with
  | nothing hrtu _ | forwarded _ _ _ hrtu _ | answered _ _ _ _ _ hrtu _ _ => exact ⟨_, hrtu⟩

theorem CallFrames.of_request [Device TS TE] [ReadReady TS TE] [DelayNs D]
    {s s₁ : Session S TS D SE TE}
    (hreq : finalState (receiveRequest flavour s) = s₁) : CallFrames s s₁ := by
  have h₁ : Emits tcpReceiveKinds s s₁ := by
    rw [← hreq]
    apply (receiveRequest_onTcp flavour s).emits
  apply CallFrames.nothing
  . apply Yields.of_emits Event.onlyOf_rtuFrames h₁ (by decide)
  . apply Yields.of_emits Event.onlyOf_tcpFrames h₁ (by decide)

variable [Device S SE] [Device TS TE] [ReadReady S SE] [ReadReady TS TE] [DelayNs D]

/--
The ways in which a call of `next` can end. A response that `receive` has accepted can always be
converted, so no call ends between the two.
-/
inductive NextRun (flavour : Flavour) (s : Session S TS D SE TE)
    : EStateM.Result (Stop (BridgeError SE TE)) (Session S TS D SE TE) BridgeEvent → Prop where
  | requestFailed (hreq : receiveRequest flavour s = .error e s₁) : NextRun flavour s (.error e s₁)
  | rejected (hreq : receiveRequest flavour s = .ok tcpReq s₁) (hdata : tcpReq.data = tcpFrame tid pid [])
      : NextRun flavour s (.error (.failed .bufferOverflow) s₁)
  | exchangeFailed (hreq : receiveRequest flavour s = .ok tcpReq s₁)
      (hdata : tcpReq.data = tcpFrame tid pid body) (hpos : 1 ≤ body.length) (hmax : body.length ≤ 255)
      (hexchange : exchange (rtuFrame body) flavour s₁ = .error e s₂) : NextRun flavour s (.error e s₂)
  | replyFailed (hreq : receiveRequest flavour s = .ok tcpReq s₁)
      (hdata : tcpReq.data = tcpFrame tid pid body) (hpos : 1 ≤ body.length) (hmax : body.length ≤ 255)
      (hexchange : exchange (rtuFrame body) flavour s₁ = .ok rtuResp s₂)
      (hresp : rtuResp.data = rtuFrame rbody) (hlen : rbody.length + 2 = responseLength (rtuFrame rbody))
      (hsend : ModbusTcp.send (tcpFrame tid 0 rbody) s₂ = .error e s₃)
      : NextRun flavour s (.error (e.map .tcpIo) s₃)
  | replied (hreq : receiveRequest flavour s = .ok tcpReq s₁)
      (hdata : tcpReq.data = tcpFrame tid pid body) (hpos : 1 ≤ body.length) (hmax : body.length ≤ 255)
      (hexchange : exchange (rtuFrame body) flavour s₁ = .ok rtuResp s₂)
      (hresp : rtuResp.data = rtuFrame rbody) (hlen : rbody.length + 2 = responseLength (rtuFrame rbody))
      (hsend : ModbusTcp.send (tcpFrame tid 0 rbody) s₂ = .ok () s₃)
      : NextRun flavour s (.ok (.transaction (.ofRequest (parseTcpRequest tcpReq.data))) s₃)

theorem next_run (flavour : Flavour) (s : Session S TS D SE TE)
    : NextRun flavour s (next flavour s) := by
  unfold next cycle
  cases hreq : receiveRequest flavour s with
  | error e s₁ =>
    rw [Exec.bind_error hreq]
    apply NextRun.requestFailed hreq
  | ok tcpReq s₁ =>
    rw [Exec.bind_ok hreq]
    obtain ⟨_, tid, pid, body, hdata, hmax⟩ := receiveRequest_ok hreq
    -- A length field of zero is received without complaint and rejected only by the conversion.
    by_cases hbody : body = []
    . have hconv : tcpToRtu tcpReq.data = .error .payloadTooShort := by
        rw [hdata, hbody]
        apply tcpToRtu_mbap_nil
      simp only [hconv]
      rw [hbody] at hdata
      apply NextRun.rejected hreq hdata
    . have hpos : 1 ≤ body.length := List.length_pos_iff.mpr hbody
      obtain ⟨rtuReq, hconv, hrtu⟩ := tcpToRtu_tcpFrame hpos (by omega) tid pid
      simp only [hdata, hconv]
      dsimp only [Except.mapError]
      rw [Exec.bind_ok (Exec.ofExcept_ok _ _)]
      rw [hrtu]
      cases hexchange : exchange (rtuFrame body) flavour s₁ with
      | error e s₂ =>
        rw [Exec.bind_error hexchange]
        apply NextRun.exchangeFailed hreq hdata hpos hmax hexchange
      | ok rtuResp s₂ =>
        rw [Exec.bind_ok hexchange]
        obtain ⟨_, _, _, hlen, rbody, hmin, hresp⟩ := exchange_ok hexchange
        rw [hresp, length_rtuFrame] at hlen
        have := responseLength_bounds (rtuFrame rbody)
        obtain ⟨out, hreply, hout⟩ := frameReply_rtuFrame hmin (by omega) (rxTid flavour) tid
        rw [hresp, hreply]
        rw [Exec.bind_ok (Exec.ofExcept_ok _ _)]
        dsimp only
        rw [hout]
        cases hsend : ModbusTcp.send (tcpFrame tid 0 rbody) s₂ with
        | error e s₃ =>
          rw [Exec.bind_error (Exec.mapErr_error hsend)]
          apply NextRun.replyFailed hreq hdata hpos hmax hexchange hresp hlen hsend
        | ok _ s₃ =>
          rw [Exec.bind_ok (Exec.mapErr_ok hsend)]
          rw [← hdata]
          apply NextRun.replied hreq hdata hpos hmax hexchange hresp hlen hsend

omit [Device S SE] [ReadReady S SE] in
theorem request_reads {s s₁ s₂ s₃ : Session S TS D SE TE} (hreq : receiveRequest flavour s = .ok tcpReq s₁)
    (hdata : tcpReq.data = tcpFrame tid pid body) (h₂ : Emits exchangeKinds s₁ s₂)
    (h₃ : Emits ModbusTcp.sendKinds s₂ s₃) : TcpReads (tcpFrame tid pid body) s s₃ := by
  have hreads := (receiveRequest_ok hreq).1
  rw [hdata] at hreads
  apply (hreads.append_quiet _).append_quiet
  . apply Yields.of_emits Event.onlyOf_tcpRx h₃ (by decide)
  . apply Yields.of_emits Event.onlyOf_tcpRx h₂ (by decide)

omit [Device S SE] [ReadReady S SE] in
theorem request_rtuFrames {s s₁ : Session S TS D SE TE} (hreq : receiveRequest flavour s = .ok tcpReq s₁)
    : Yields Event.rtuFrames [] s s₁ := by
  apply Yields.of_emits Event.onlyOf_rtuFrames ((receiveRequest_onTcp flavour).of_ok hreq).emits
  decide

theorem exchanged_rtuFrames {s s₁ s₂ s₃ : Session S TS D SE TE}
    (hreq : receiveRequest flavour s = .ok tcpReq s₁)
    (hexchange : exchange rtuReq flavour s₁ = .ok rtuResp s₂)
    (hsend : finalState (ModbusTcp.send data s₂) = s₃) : Yields Event.rtuFrames [rtuReq] s s₃ := by
  rw [← hsend]
  apply ((request_rtuFrames hreq).quiet_append (exchange_ok hexchange).1).append_quiet
  apply Yields.of_emits Event.onlyOf_rtuFrames (ModbusTcp.send_onTcp data s₂).emits
  decide

theorem CallFrames.of_answered {s s₁ s₂ s₃ : Session S TS D SE TE}
    (hreq : receiveRequest flavour s = .ok tcpReq s₁) (hdata : tcpReq.data = tcpFrame tid pid body)
    (hpos : 1 ≤ body.length) (hmax : body.length ≤ 255)
    (hexchange : exchange (rtuFrame body) flavour s₁ = .ok rtuResp s₂)
    (hresp : rtuResp.data = rtuFrame rbody) (hlen : rbody.length + 2 = responseLength (rtuFrame rbody))
    (hsend : finalState (ModbusTcp.send (tcpFrame tid 0 rbody) s₂) = s₃) : CallFrames s s₃ := by
  have h₁ := ((receiveRequest_onTcp flavour).of_ok hreq).emits
  have h₂ := ((exchange_onSerial (rtuFrame body) flavour).of_ok hexchange).emits
  have h₃ : Emits ModbusTcp.sendKinds s₂ s₃ := by
    rw [← hsend]
    apply (ModbusTcp.send_onTcp _ s₂).emits
  obtain ⟨_, hwrites, hserial, _, _⟩ := exchange_ok hexchange
  have htcp := ModbusTcp.send_yields (tcpFrame tid 0 rbody) s₂
  rw [hresp] at hserial
  rw [hsend] at htcp
  apply CallFrames.answered hpos hmax hlen
  . apply request_reads hreq hdata h₂ h₃
  . apply Yields.append_quiet _ (Yields.of_emits Event.onlyOf_serialRx h₃ (by decide))
    apply Yields.quiet_append _ hserial
    apply Yields.of_emits Event.onlyOf_serialRx h₁ (by decide)
  . apply exchanged_rtuFrames hreq hexchange hsend
  . apply Yields.append_quiet _ (Yields.of_emits Event.onlyOf_serialTx h₃ (by decide))
    apply Yields.quiet_append _ hwrites
    apply Yields.of_emits Event.onlyOf_serialTx h₁ (by decide)
  . apply Yields.quiet_append _ htcp
    apply Yields.quiet_append
    . apply Yields.of_emits Event.onlyOf_tcpFrames h₁ (by decide)
    . apply Yields.of_emits Event.onlyOf_tcpFrames h₂ (by decide)

theorem CallFrames.of_exchange {s s₁ s₂ : Session S TS D SE TE}
    (hreq : receiveRequest flavour s = .ok tcpReq s₁) (hdata : tcpReq.data = tcpFrame tid pid body)
    (hpos : 1 ≤ body.length) (hmax : body.length ≤ 255)
    (hexchange : finalState (exchange (rtuFrame body) flavour s₁) = s₂) : CallFrames s s₂ := by
  have h₁ := ((receiveRequest_onTcp flavour).of_ok hreq).emits
  have h₂ : Emits exchangeKinds s₁ s₂ := by
    rw [← hexchange]
    apply (exchange_onSerial (rtuFrame body) flavour s₁).emits
  have hrx := (receiveRequest_ok hreq).1
  have hframes := exchange_frames (rtuFrame body) flavour s₁
  rw [hdata] at hrx
  rw [hexchange] at hframes
  have htcp : Yields Event.tcpFrames [] s s₂ := by
    apply Yields.quiet_append
    . apply Yields.of_emits Event.onlyOf_tcpFrames h₁ (by decide)
    . apply Yields.of_emits Event.onlyOf_tcpFrames h₂ (by decide)
  have hreads : TcpReads (tcpFrame tid pid body) s s₂ := by
    apply hrx.append_quiet
    apply Yields.of_emits Event.onlyOf_tcpRx h₂ (by decide)
  cases hframes with
  | inl hrtu₂ => apply CallFrames.nothing ((request_rtuFrames hreq).quiet_append hrtu₂) htcp
  | inr hrtu₂ => apply CallFrames.forwarded hpos hmax hreads ((request_rtuFrames hreq).quiet_append hrtu₂) htcp

theorem next_frames (flavour : Flavour) (s : Session S TS D SE TE)
    : CallFrames s (finalState (next flavour s)) := by
  have hrun := next_run flavour s
  generalize next flavour s = r at hrun
  cases hrun with
  | requestFailed hreq | rejected hreq hdata =>
    apply CallFrames.of_request
    rw [hreq]
    rfl
  | exchangeFailed hreq hdata hpos hmax hexchange =>
    apply CallFrames.of_exchange hreq hdata hpos hmax
    rw [hexchange]
    rfl
  | replyFailed hreq hdata hpos hmax hexchange hresp hlen hsend
  | replied hreq hdata hpos hmax hexchange hresp hlen hsend =>
    apply CallFrames.of_answered hreq hdata hpos hmax hexchange hresp hlen
    rw [hsend]
    rfl

theorem next_ok {s s' : Session S TS D SE TE} (h : next flavour s = .ok event s')
    : ∃ tid rbody, rbody.length + 2 = responseLength (rtuFrame rbody)
        ∧ Yields Event.tcpTx (tcpFrame tid 0 rbody) s s' := by
  have hrun := next_run flavour s
  rw [h] at hrun
  cases hrun with
  | replied hreq hdata hpos hmax hexchange hresp hlen hsend =>
    have h₁ := ((receiveRequest_onTcp flavour).of_ok hreq).emits
    have h₂ := ((exchange_onSerial _ flavour).of_ok hexchange).emits
    have hquiet : Yields Event.tcpTx [] s _ :=
      (Yields.of_emits Event.onlyOf_tcpTx h₁ (by decide)).quiet_append
        (Yields.of_emits Event.onlyOf_tcpTx h₂ (by decide))
    exact ⟨_, _, hlen, hquiet.quiet_append (ModbusTcp.send_writes hsend)⟩

theorem next_yields (obs : Event SE TE → List α) (flavour : Flavour) (s : Session S TS D SE TE)
    : Yields obs ((during (next flavour) s).flatMap obs) s (finalState (next flavour s)) := by
  obtain ⟨_, h⟩ := (next_frames flavour s).rtuFrames
  apply h.of_during

def SerialReady (flavour : Flavour) (s : Session S TS D SE TE) : Prop :=
  flavour = .syncTimed → ReadyFor s.rtuTimeoutMs s.serial

omit [Device S SE] in
theorem SerialReady.of_request {s s₁ : Session S TS D SE TE} (hreq : receiveRequest flavour s = .ok tcpReq s₁)
    : SerialReady flavour s₁ ↔ SerialReady flavour s := by
  have h := (receiveRequest_onTcp flavour).of_ok hreq
  unfold SerialReady
  rw [h.serial_eq, h.rtuTimeoutMs_eq]

theorem NextRun.hands_over {r : EStateM.Result (Stop (BridgeError SE TE)) (Session S TS D SE TE) _}
    (hrun : NextRun flavour s r) (hready : SerialReady flavour s) (hrx : TcpReads tcp s (finalState r))
    (hcomplete : TcpComplete tcp) (hpos : 1 ≤ lengthField tcp) (hmax : lengthField tcp ≤ 255)
    : ∃ payload, Yields Event.rtuFrames [payload] s (finalState r) := by
  cases hrun with
  | requestFailed hreq =>
    have hbuf : tcpBuf = 261 := rfl
    unfold TcpComplete at hcomplete
    obtain ⟨bytes, hreads, hcases⟩ := receiveRequest_error hreq
    obtain rfl := hrx.unique hreads
    omega
  | rejected hreq hdata =>
    have hreads := (receiveRequest_ok hreq).1
    rw [hdata] at hreads
    obtain rfl := hrx.unique hreads
    rw [lengthField_tcpFrame (by simp)] at hpos
    contradiction
  | @exchangeFailed tcpReq s₁ tid pid body e s₂ hreq _ _ _ hexchange =>
    have hframes := exchange_frames_of_ready (rtuFrame body) ((SerialReady.of_request hreq).mpr hready)
    rw [hexchange] at hframes
    exact ⟨_, (request_rtuFrames hreq).quiet_append hframes⟩
  | replyFailed hreq _ _ _ hexchange _ _ hsend =>
    exact ⟨_, exchanged_rtuFrames hreq hexchange (congrArg finalState hsend)⟩
  | replied hreq _ _ _ hexchange _ _ hsend =>
    exact ⟨_, exchanged_rtuFrames hreq hexchange (congrArg finalState hsend)⟩

theorem NextRun.hands_nothing_over
    {r : EStateM.Result (Stop (BridgeError SE TE)) (Session S TS D SE TE) _}
    (hrun : NextRun flavour s r) (hnot : ¬ SerialReady flavour s)
    : Yields Event.rtuFrames [] s (finalState r) := by
  obtain ⟨rfl, hnot⟩ := Classical.not_imp.mp hnot
  have hexchanges {tcpReq s₁ r} (rtuReq : List UInt8) (hreq : receiveRequest .syncTimed s = .ok tcpReq s₁)
      (hexchange : exchange rtuReq .syncTimed s₁ = r) : Yields Event.rtuFrames [] s₁ (finalState r) := by
    have h := (receiveRequest_onTcp .syncTimed).of_ok hreq
    rw [← hexchange]
    apply exchange_frames_of_not_ready
    rwa [h.serial_eq, h.rtuTimeoutMs_eq]
  cases hrun with
  | requestFailed hreq =>
    apply Yields.of_emits Event.onlyOf_rtuFrames ((receiveRequest_onTcp _).of_error hreq).emits
    decide
  | rejected hreq _ => apply request_rtuFrames hreq
  | exchangeFailed hreq _ _ _ hexchange =>
    apply (request_rtuFrames hreq).quiet_append (hexchanges _ hreq hexchange)
  | replyFailed hreq _ _ _ hexchange _ _ _ | replied hreq _ _ _ hexchange _ _ _ =>
    have := (hexchanges _ hreq hexchange).unique (exchange_ok hexchange).1
    contradiction

theorem NextRun.reads_request {r : EStateM.Result (Stop (BridgeError SE TE)) (Session S TS D SE TE) _}
    (hrun : NextRun flavour s r) (hreq : receiveRequest flavour s = .ok tcpReq s₁)
    : TcpReads tcpReq.data s (finalState r) := by
  cases hrun with
  | requestFailed hreq' =>
    rw [hreq] at hreq'
    contradiction
  | rejected hreq' _ =>
    obtain ⟨_, rfl⟩ := Exec.ok_unique hreq hreq'
    apply (receiveRequest_ok hreq).1
  | exchangeFailed hreq' hdata _ _ hexchange =>
    obtain ⟨rfl, rfl⟩ := Exec.ok_unique hreq hreq'
    rw [hdata]
    apply request_reads hreq hdata ((exchange_onSerial _ flavour).of_error hexchange).emits (Emits.refl _)
  | replyFailed hreq' hdata _ _ hexchange _ _ hsend =>
    obtain ⟨rfl, rfl⟩ := Exec.ok_unique hreq hreq'
    have h₃ := ((ModbusTcp.send_onTcp _).of_error hsend).emits
    rw [hdata]
    apply request_reads hreq hdata ((exchange_onSerial _ flavour).of_ok hexchange).emits h₃
  | replied hreq' hdata _ _ hexchange _ _ hsend =>
    obtain ⟨rfl, rfl⟩ := Exec.ok_unique hreq hreq'
    have h₃ := ((ModbusTcp.send_onTcp _).of_ok hsend).emits
    rw [hdata]
    apply request_reads hreq hdata ((exchange_onSerial _ flavour).of_ok hexchange).emits h₃

/--
Once a whole TCP frame has arrived, `BufferOverflow` says that it is empty or too long, and nothing
else does.
-/
theorem NextRun.overflow_iff {r : EStateM.Result (Stop (BridgeError SE TE)) (Session S TS D SE TE) _}
    (hrun : NextRun flavour s r) (hrx : TcpReads tcp s (finalState r)) (hcomplete : TcpComplete tcp)
    : outcome r = .error (.failed .bufferOverflow) ↔ lengthField tcp = 0 ∨ 255 < lengthField tcp := by
  unfold TcpComplete at hcomplete
  have hbuf : tcpBuf = 261 := rfl
  cases hrun with
  | requestFailed hreq =>
    obtain ⟨bytes, hreads, hcases⟩ := receiveRequest_error hreq
    obtain rfl := hrx.unique hreads
    simp only [outcome_error, Except.error.injEq]
    obtain ⟨he, hlen, hle⟩ | ⟨he, hlen, hlt⟩ := hcases
    . simp only [he, true_iff]
      omega
    . omega
  | rejected hreq hdata =>
    have hreads := (receiveRequest_ok hreq).1
    rw [hdata] at hreads
    obtain rfl := hrx.unique hreads
    rw [lengthField_tcpFrame (by simp)]
    simp
  | exchangeFailed hreq hdata hpos hmax hexchange =>
    have h₂ := ((exchange_onSerial _ flavour).of_error hexchange).emits
    obtain rfl := hrx.unique (request_reads hreq hdata h₂ (Emits.refl _))
    have hne := exchange_not_overflow hexchange
    rw [lengthField_tcpFrame (by omega)]
    simp only [outcome_error, Except.error.injEq, hne, false_iff]
    omega
  | replyFailed hreq hdata hpos hmax hexchange hresp hlen hsend =>
    have h₂ := ((exchange_onSerial _ flavour).of_ok hexchange).emits
    have h₃ := ((ModbusTcp.send_onTcp _).of_error hsend).emits
    obtain rfl := hrx.unique (request_reads hreq hdata h₂ h₃)
    have hne (stop : Stop TE)
        : stop.map .tcpIo ≠ (.failed .bufferOverflow : Stop (BridgeError SE TE)) :=
      Stop.map_ne_failed (by simp) stop
    rw [lengthField_tcpFrame (by omega)]
    simp only [outcome_error, Except.error.injEq, hne, false_iff]
    omega
  | replied hreq hdata hpos hmax hexchange hresp hlen hsend =>
    have h₂ := ((exchange_onSerial _ flavour).of_ok hexchange).emits
    have h₃ := ((ModbusTcp.send_onTcp _).of_ok hsend).emits
    obtain rfl := hrx.unique (request_reads hreq hdata h₂ h₃)
    rw [lengthField_tcpFrame (by omega)]
    simp only [outcome_ok, reduceCtorEq, false_iff]
    omega

/--
Once a whole RTU response has arrived, the call does not end with `BufferOverflow`, whatever the size
of the response.
-/
theorem NextRun.not_overflow {r : EStateM.Result (Stop (BridgeError SE TE)) (Session S TS D SE TE) _}
    (hrun : NextRun flavour s r) (hrx : SerialReads rtu s (finalState r)) (hcomplete : RtuComplete rtu)
    : outcome r ≠ .error (.failed .bufferOverflow) := by
  cases hrun with
  | requestFailed hreq =>
    have h₁ := ((receiveRequest_onTcp flavour).of_error hreq).emits
    obtain rfl := hrx.unique (Yields.of_emits Event.onlyOf_serialRx h₁ (by decide))
    exact absurd hcomplete not_rtuComplete_nil
  | rejected hreq hdata =>
    have h₁ := ((receiveRequest_onTcp flavour).of_ok hreq).emits
    obtain rfl := hrx.unique (Yields.of_emits Event.onlyOf_serialRx h₁ (by decide))
    exact absurd hcomplete not_rtuComplete_nil
  | exchangeFailed hreq hdata hpos hmax hexchange =>
    simpa using exchange_not_overflow hexchange
  | replyFailed hreq hdata hpos hmax hexchange hresp hlen hsend =>
    have hne : ∀ e, (.tcpIo e : BridgeError SE TE) ≠ .bufferOverflow := by simp
    simpa using Stop.map_ne_failed hne _
  | replied hreq hdata hpos hmax hexchange hresp hlen hsend => simp

end Next

end Connection

end ModbusBridge
