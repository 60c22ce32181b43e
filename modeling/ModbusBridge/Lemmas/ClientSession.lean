import ModbusBridge.Impl.ClientSession
import ModbusBridge.Lemmas.Eof
import ModbusBridge.Lemmas.Receive
import ModbusBridge.Lemmas.Send

/-!
This module contains the ways in which a call of `ClientSession::next` can go, on arbitrary devices
and in all four copies.
-/

namespace ModbusBridge

open Effect EmbeddedIo Session
open Exec (Within)

namespace ClientSession

variable {S TS D SE TE : Type}

section Request

variable [Device S SE] [ReadReady S SE] [DelayNs D]

def requestKinds : List Event.Kind := [.serialReady, .delayMs, .serialRead]

theorem receiveRequest_run (flavour : Flavour) (s : Session S TS D SE TE)
    : GuardedRun (OnSerial [.serialReady, .delayMs]) serialReadReady .rtuIo s.rtuTimeoutMs
        ModbusRtu.listen (requestError flavour) s (receiveRequest flavour s) := by
  apply guarded_run
  . apply serialReadReady_onSerial
    decide
  . apply delayMs_onSerial
    decide
  . apply OnSerial.timers

theorem receiveRequest_onSerial (flavour : Flavour)
    : Within (OnSerial requestKinds)
        (receiveRequest flavour : Exec (Session S TS D SE TE) (BridgeError SE TE) _) := by
  intro s
  apply (receiveRequest_run flavour s).within
  . intro s s' h
    apply h.mono
    decide
  . apply ModbusRtu.listen_onSerial
    decide
  . apply OnSerial.timers

theorem receiveRequest_ok {s s' : Session S TS D SE TE} (h : receiveRequest flavour s = .ok f s')
    : SerialReads f.data s s' ∧ f.data.length = requestLength f.data
        ∧ ∃ body, 2 ≤ body.length ∧ f.data = rtuFrame body := by
  have hrun := receiveRequest_run flavour s
  rw [h] at hrun
  cases hrun with
  | returned hwait hlisten deadline =>
    obtain ⟨hreads, hlen, hframe⟩ := ModbusRtu.listen_ok hlisten
    refine ⟨?_, hlen, hframe⟩
    apply Yields.quiet_append _ hreads
    apply Yields.of_emits Event.onlyOf_serialRx hwait.emits
    decide

def closes : Except (Stop (BridgeError SE TE)) α → List Unit
  | .error (.failed .rtuClosed) => [()]
  | _ => []

theorem closes_requestError (flavour : Flavour) (e : ModbusError SE Empty)
    : closes (.error (.failed (requestError flavour e : BridgeError SE TE)) : Except _ α)
        =
      eofs (.error (.failed e) : Except _ β) := by
  cases e with
  | tcp e => cases e
  | serial | crc | push | payloadTooShort | invalidTransactionId | conversionSlice | rtuIllegal => rfl

/--
`RtuClosed` says that a serial read has returned no bytes, and nothing else does.
-/
theorem receiveRequest_closes (flavour : Flavour) (s : Session S TS D SE TE)
    : Yields Event.serialEof (closes (outcome (receiveRequest flavour s))) s
        (finalState (receiveRequest flavour s)) := by
  have hwaited : ∀ s₁, OnSerial [.serialReady, .delayMs] s s₁ → Yields Event.serialEof [] s s₁ := by
    intro s₁ h
    apply Yields.of_emits Event.onlyOf_serialEof h.emits
    decide
  have hrun := receiveRequest_run flavour s
  generalize receiveRequest flavour s = r at hrun
  cases hrun with
  | notReady hwait hstop =>
    obtain rfl | ⟨e, rfl⟩ | rfl := waitReadyFor_error hstop
    all_goals apply hwaited _ hwait
  | returned hwait hfut deadline =>
    apply (hwaited _ hwait).quiet_append
    apply (ModbusRtu.listen_eofAt _).of_ok hfut
  | failed hwait hfut deadline =>
    rw [outcome_error, closes_requestError]
    apply (hwaited _ hwait).quiet_append
    apply (ModbusRtu.listen_eofAt _).of_error hfut
  | dropped hwait hfut deadline hstop =>
    have hread := (ModbusRtu.listen_eofAt _).of_error hfut
    obtain rfl | rfl := hstop
    all_goals
      apply (hwaited _ hwait).quiet_append
      apply hread

theorem requestError_eq_crc {flavour : Flavour} {e : ModbusError SE Empty}
    : (requestError flavour e : BridgeError SE TE) = .rtuCrcMismatch ↔ e = .crc := by
  cases e with
  | tcp e => cases e
  | serial | crc | push | payloadTooShort | invalidTransactionId | conversionSlice | rtuIllegal =>
    simp [requestError]

/--
`RtuCrcMismatch` says that the request is broken, and that is said of every broken request for which there
is room.
-/
theorem receiveRequest_error {s s' : Session S TS D SE TE} (h : receiveRequest flavour s = .error e s')
    : ∃ bytes, SerialReads bytes s s'
        ∧ (e = .failed .rtuCrcMismatch ↔ BrokenRequest bytes ∧ bytes.length ≤ rtuBuf) := by
  have hwaited : ∀ s₁, OnSerial [.serialReady, .delayMs] s s₁ → SerialReads [] s s₁ := by
    intro s₁ h
    apply Yields.of_emits Event.onlyOf_serialRx h.emits
    decide
  have hrun := receiveRequest_run flavour s
  rw [h] at hrun
  cases hrun with
  | notReady hwait hstop =>
    refine ⟨[], hwaited _ hwait, ?_⟩
    have hshort : ¬ BrokenRequest [] := by
      rintro ⟨hlen, _⟩
      have := requestLength_ge []
      rw [← hlen] at this
      contradiction
    obtain rfl | ⟨e, rfl⟩ | rfl := waitReadyFor_error hstop
    all_goals simp [hshort]
  | failed hwait hfut deadline =>
    obtain ⟨bytes, hreads, hcases⟩ := ModbusRtu.listen_error hfut
    refine ⟨bytes, (hwaited _ hwait).quiet_append hreads, ?_⟩
    rw [Stop.failed.injEq, requestError_eq_crc]
    obtain ⟨he, hlen, hle, hcrc⟩ | ⟨he, hlen, hle⟩ | ⟨hstop, hlt, _⟩ := hcases
    . injection he with he
      simp only [he, true_iff]
      exact ⟨⟨hlen, hcrc⟩, hle⟩
    . injection he with he
      simp only [he, reduceCtorEq, false_iff]
      omega
    . constructor
      . rintro rfl
        cases hstop
      . rintro ⟨⟨hlen, _⟩, _⟩
        omega
  | dropped hwait hfut deadline hstop =>
    obtain ⟨bytes, hreads, hcases⟩ := ModbusRtu.listen_error hfut
    refine ⟨bytes, (hwaited _ hwait).quiet_append hreads, ?_⟩
    have hlt : bytes.length < requestLength bytes := by
      obtain ⟨he, _⟩ | ⟨he, _⟩ | ⟨_, hlt, _⟩ := hcases
      . contradiction
      . contradiction
      . exact hlt
    have hnot : ¬ BrokenRequest bytes := by
      rintro ⟨hlen, _⟩
      omega
    obtain rfl | rfl := hstop
    all_goals simp [hnot]

end Request

section Response

variable [Device TS TE] [ReadReady TS TE] [DelayNs D]

theorem receiveResponse_run (flavour : Flavour) (s : Session S TS D SE TE)
    : TcpReceiveRun s.tcpTimeoutMs (responseError flavour) s (receiveResponse flavour s) := by
  apply guarded_run
  . apply tcpReadReady_onTcp
    decide
  . apply delayMs_onTcp
    decide
  . apply OnTcp.timers

theorem receiveResponse_onTcp (flavour : Flavour)
    : Within (OnTcp tcpReceiveKinds)
        (receiveResponse flavour : Exec (Session S TS D SE TE) (BridgeError SE TE) _) := by
  intro s
  apply (receiveResponse_run flavour s).onTcp

theorem receiveResponse_ok {s s' : Session S TS D SE TE} (h : receiveResponse flavour s = .ok f s')
    : TcpReads f.data s s' ∧ ∃ tid pid body, f.data = tcpFrame tid pid body ∧ body.length ≤ 255 := by
  have hrun := receiveResponse_run flavour s
  rw [h] at hrun
  apply hrun.of_ok

theorem responseError_of_readStop {e : ModbusError Empty TE} (h : ReadStop (.failed e))
    : (responseError flavour e : BridgeError SE TE) ≠ .bufferOverflow := by
  cases e with
  | serial e => cases e
  | tcp e => cases flavour <;> simp [responseError]
  | payloadTooShort => cases flavour <;> simp [responseError]
  | crc | push | invalidTransactionId | conversionSlice | rtuIllegal => cases h

theorem receiveResponse_error {s s' : Session S TS D SE TE}
    (h : receiveResponse flavour s = .error e s')
    : ∃ bytes, TcpReads bytes s s'
        ∧ ((e = .failed .bufferOverflow ∧ bytes.length = tcpBuf + 1 ∧ bytes.length ≤ 6 + lengthField bytes)
          ∨ (e ≠ .failed .bufferOverflow ∧ bytes.length ≤ tcpBuf
            ∧ bytes.length < 6 + lengthField bytes)) := by
  have hrun := receiveResponse_run flavour s
  rw [h] at hrun
  apply hrun.of_error
  . cases flavour <;> rfl
  . intro e
    apply responseError_of_readStop

/--
A response failed to arrive in one of the ways that have to do with TCP.
-/
def ResponseStop : Stop (BridgeError SE TE) → Prop
  | .failed .tcpClosed => True
  | .failed (.tcpIo _) => True
  | .failed .bufferOverflow => True
  | .failed .timeout => True
  | .failed _ => False
  | .dropped => True

theorem receiveResponse_stop {s s' : Session S TS D SE TE} (h : receiveResponse flavour s = .error e s')
    : ResponseStop e := by
  have hrun := receiveResponse_run flavour s
  rw [h] at hrun
  cases hrun with
  | notReady _ hstop =>
    obtain rfl | ⟨e, rfl⟩ | rfl := waitReadyFor_error hstop
    all_goals trivial
  | @failed _ e _ _ _ _ =>
    cases e with
    | serial e => cases e
    | tcp | crc | push | payloadTooShort | invalidTransactionId | conversionSlice | rtuIllegal =>
      cases flavour <;> trivial
  | dropped _ _ _ hstop =>
    obtain rfl | rfl := hstop
    all_goals trivial

end Response

section Within

variable [Device S SE] [Device TS TE] [ReadReady S SE] [ReadReady TS TE] [DelayNs D]
  {R : Session S TS D SE TE → Session S TS D SE TE → Prop} [IsPreorder (Session S TS D SE TE) R]

theorem next_after (hid : Within R (ModbusTcp.nextTransactionId : Exec _ (BridgeError SE TE) UInt16))
    (hsend : ∀ data, Within R (ModbusTcp.send data)) (hresponse : Within R (receiveResponse flavour))
    (hreply : ∀ payload, Within R (ModbusRtu.send payload)) (s : Session S TS D SE TE)
    : R (finalState (receiveRequest flavour s)) (finalState (next flavour s)) := by
  unfold next cycle
  apply Within.bind_rest
  intro rtuReq
  apply Within.bind hid
  intro nextTid
  apply Within.bind
  . apply Within.ofExcept
  intro tcpReq
  apply Within.bind (hsend _).mapErr
  intro _
  apply Within.bind hresponse
  intro tcpResp
  apply Within.bind
  . apply Within.ofExcept
  intro (rtuResp, tidWarning)
  apply Within.bind (hreply _).mapErr
  intro _
  cases tidWarning with
  | some w => apply Within.pure
  | none => apply Within.pure

theorem next_within (hrequest : Within R (receiveRequest flavour))
    (hid : Within R (ModbusTcp.nextTransactionId : Exec _ (BridgeError SE TE) UInt16))
    (hsend : ∀ data, Within R (ModbusTcp.send data)) (hresponse : Within R (receiveResponse flavour))
    (hreply : ∀ payload, Within R (ModbusRtu.send payload)) : Within R (next flavour) := by
  intro s
  apply trans_of R (hrequest s)
  apply next_after hid hsend hresponse hreply

end Within

section Next

def report (rtuReq : List UInt8) (tid rxTid : UInt16) : BridgeEvent :=
  if rxTid = tid then
    .transaction (.ofRequest (parseRtuRequest rtuReq))
  else
    .warning (.transactionIdMismatch tid rxTid)

theorem rxTid_tcpFrame (flavour : Flavour) (tid pid : UInt16) (body : List UInt8)
    : Connection.rxTid flavour (tcpFrame tid pid body) = tid := by
  obtain ⟨t₀, t₁, p₀, p₁, n₀, n₁, hmbap, htid⟩ := exists_mbap tid pid body.length
  have hsync : Connection.rxTidSync (tcpFrame tid pid body) = tid := by
    unfold Connection.rxTidSync tcpFrame
    simp [hmbap, htid]
  have hasync : Connection.rxTidAsync (tcpFrame tid pid body) = tid := by
    unfold Connection.rxTidAsync tcpFrame
    simp [hmbap, htid]
  unfold Connection.rxTid
  split
  all_goals assumption

theorem tid_tcpFrame (tid pid : UInt16) (body : List UInt8)
    : fromBeBytes ((tcpFrame tid pid body).getD 0 0) ((tcpFrame tid pid body).getD 1 0) = tid :=
  idField_tcpFrame tid pid body

theorem frameReply_tcpFrame {body : List UInt8} (hmin : 1 ≤ body.length) (hmax : body.length ≤ 255)
    (flavour : Flavour) (rtid pid tid : UInt16)
    : ∃ out, (frameReply (Connection.rxTid flavour) (tcpFrame rtid pid body) tid
          : Except (BridgeError SE TE) _)
        = .ok (out, if rtid = tid then none else some (.transactionIdMismatch tid rtid))
          ∧ out.data = rtuFrame body := by
  obtain ⟨out, hout, hdata⟩ := tcpRespToRtu_tcpFrame hmin hmax rtid pid
  refine ⟨out, ?_, hdata⟩
  unfold frameReply
  rw [rxTid_tcpFrame, hout]
  by_cases htid : rtid = tid
  . rw [← htid, hout]
    simp
  . rw [tcpRespToRtu_of_ne hmin hmax pid htid]
    simp [htid]

/--
Which frames a call hands to the two transports, in terms of what it reads.
-/
inductive CallFrames (s s' : Session S TS D SE TE) : Prop where
  | nothing (htcp : Yields Event.tcpFrames [] s s') (hrtu : Yields Event.rtuFrames [] s s')
  | asked (tid : UInt16) (hlen : body.length + 2 = requestLength (rtuFrame body)) (hmax : body.length ≤ 253)
      (hreq : SerialReads (rtuFrame body) s s')
      (htcp : Yields Event.tcpFrames [tcpFrame tid 0 body] s s') (hrtu : Yields Event.rtuFrames [] s s')
  | answered (tid rtid pid : UInt16) (hlen : body.length + 2 = requestLength (rtuFrame body))
      (hmax : body.length ≤ 253)
      (hpos : 1 ≤ rbody.length) (hrmax : rbody.length ≤ 255)
      (hreq : SerialReads (rtuFrame body) s s') (hresp : TcpReads (tcpFrame rtid pid rbody) s s')
      (htcp : Yields Event.tcpFrames [tcpFrame tid 0 body] s s')
      (hrtu : Yields Event.rtuFrames [rtuFrame rbody] s s')

theorem CallFrames.rtuFrames {s s' : Session S TS D SE TE} (h : CallFrames s s')
    : ∃ seen, Yields Event.rtuFrames seen s s' := by
  cases h with
  | nothing _ hrtu | asked _ _ _ _ _ hrtu | answered _ _ _ _ _ _ _ _ _ _ hrtu => exact ⟨_, hrtu⟩

theorem CallFrames.of_request [Device S SE] [ReadReady S SE] [DelayNs D] {s s₁ : Session S TS D SE TE}
    (hreq : receiveRequest flavour s = .error e s₁) : CallFrames s s₁ := by
  have h₁ := ((receiveRequest_onSerial flavour).of_error hreq).emits
  apply CallFrames.nothing
  . apply Yields.of_emits Event.onlyOf_tcpFrames h₁ (by decide)
  . apply Yields.of_emits Event.onlyOf_rtuFrames h₁ (by decide)

def numbered (s : Session S TS D SE TE) : Session S TS D SE TE :=
  { s with transactionId := s.transactionId + 1 }

theorem CallFrames.of_send [Device S SE] [Device TS TE] [ReadReady S SE] [DelayNs D]
    {s s₁ s₂ s₃ : Session S TS D SE TE} (tid : UInt16)
    (hreq : receiveRequest flavour s = .ok rtuReq s₁) (hdata : rtuReq.data = rtuFrame body)
    (hlen : body.length + 2 = requestLength (rtuFrame body)) (hmax : body.length ≤ 253)
    (hsend : finalState (ModbusTcp.send (tcpFrame tid 0 body) (numbered s₁)) = s₂)
    (hrest : Emits tcpReceiveKinds s₂ s₃) : CallFrames s s₃ := by
  have h₁ := ((receiveRequest_onSerial flavour).of_ok hreq).emits
  have h₂ : Emits ModbusTcp.sendKinds s₁ s₂ := by
    rw [← hsend]
    apply (ModbusTcp.send_onTcp _ (numbered s₁)).emits
  have hrx := (receiveRequest_ok hreq).1
  have htcp : Yields Event.tcpFrames [tcpFrame tid 0 body] s₁ s₂ := by
    rw [← hsend]
    apply ModbusTcp.send_yields (tcpFrame tid 0 body) (numbered s₁)
  rw [hdata] at hrx
  apply CallFrames.asked tid hlen hmax
  . apply Yields.append_quiet _ (Yields.of_emits Event.onlyOf_serialRx hrest (by decide))
    apply hrx.append_quiet
    apply Yields.of_emits Event.onlyOf_serialRx h₂ (by decide)
  . apply Yields.append_quiet _ (Yields.of_emits Event.onlyOf_tcpFrames hrest (by decide))
    apply Yields.quiet_append _ htcp
    apply Yields.of_emits Event.onlyOf_tcpFrames h₁ (by decide)
  . apply Yields.append_quiet _ (Yields.of_emits Event.onlyOf_rtuFrames hrest (by decide))
    apply Yields.quiet_append
    . apply Yields.of_emits Event.onlyOf_rtuFrames h₁ (by decide)
    . apply Yields.of_emits Event.onlyOf_rtuFrames h₂ (by decide)

variable [Device S SE] [Device TS TE] [ReadReady S SE] [ReadReady TS TE] [DelayNs D]

/--
The ways in which a call of `next` can end.
-/
inductive NextRun (flavour : Flavour) (s : Session S TS D SE TE)
    : EStateM.Result (Stop (BridgeError SE TE)) (Session S TS D SE TE) BridgeEvent → Prop where
  | requestFailed (hreq : receiveRequest flavour s = .error e s₁) : NextRun flavour s (.error e s₁)
  | sendFailed (hreq : receiveRequest flavour s = .ok rtuReq s₁) (hdata : rtuReq.data = rtuFrame body)
      (hlen : body.length + 2 = requestLength (rtuFrame body)) (hmax : body.length ≤ 253)
      (hsend : ModbusTcp.send (tcpFrame (s₁.transactionId + 1) 0 body) (numbered s₁) = .error e s₂)
      : NextRun flavour s (.error (e.map .tcpIo) s₂)
  | responseFailed (hreq : receiveRequest flavour s = .ok rtuReq s₁)
      (hdata : rtuReq.data = rtuFrame body) (hlen : body.length + 2 = requestLength (rtuFrame body))
      (hmax : body.length ≤ 253)
      (hsend : ModbusTcp.send (tcpFrame (s₁.transactionId + 1) 0 body) (numbered s₁) = .ok () s₂)
      (hresp : receiveResponse flavour s₂ = .error e s₃) : NextRun flavour s (.error e s₃)
  | rejected (hreq : receiveRequest flavour s = .ok rtuReq s₁) (hdata : rtuReq.data = rtuFrame body)
      (hlen : body.length + 2 = requestLength (rtuFrame body)) (hmax : body.length ≤ 253)
      (hsend : ModbusTcp.send (tcpFrame (s₁.transactionId + 1) 0 body) (numbered s₁) = .ok () s₂)
      (hresp : receiveResponse flavour s₂ = .ok tcpResp s₃) (hrdata : tcpResp.data = tcpFrame rtid pid [])
      : NextRun flavour s (.error (.failed .bufferOverflow) s₃)
  | replyFailed (hreq : receiveRequest flavour s = .ok rtuReq s₁) (hdata : rtuReq.data = rtuFrame body)
      (hlen : body.length + 2 = requestLength (rtuFrame body)) (hmax : body.length ≤ 253)
      (hsend : ModbusTcp.send (tcpFrame (s₁.transactionId + 1) 0 body) (numbered s₁) = .ok () s₂)
      (hresp : receiveResponse flavour s₂ = .ok tcpResp s₃)
      (hrdata : tcpResp.data = tcpFrame rtid pid rbody) (hpos : 1 ≤ rbody.length)
      (hrmax : rbody.length ≤ 255) (hreply : ModbusRtu.send (rtuFrame rbody) s₃ = .error e s₄)
      : NextRun flavour s (.error (e.map .rtuIo) s₄)
  | replied (hreq : receiveRequest flavour s = .ok rtuReq s₁) (hdata : rtuReq.data = rtuFrame body)
      (hlen : body.length + 2 = requestLength (rtuFrame body)) (hmax : body.length ≤ 253)
      (hsend : ModbusTcp.send (tcpFrame (s₁.transactionId + 1) 0 body) (numbered s₁) = .ok () s₂)
      (hresp : receiveResponse flavour s₂ = .ok tcpResp s₃)
      (hrdata : tcpResp.data = tcpFrame rtid pid rbody) (hpos : 1 ≤ rbody.length)
      (hrmax : rbody.length ≤ 255) (hreply : ModbusRtu.send (rtuFrame rbody) s₃ = .ok () s₄)
      : NextRun flavour s (.ok (report (rtuFrame body) (s₁.transactionId + 1) rtid) s₄)

theorem frameReply_nil (flavour : Flavour) (rtid pid tid : UInt16)
    : (frameReply (Connection.rxTid flavour) (tcpFrame rtid pid []) tid
          : Except (BridgeError SE TE) _) = .error .bufferOverflow := by
  unfold frameReply tcpRespToRtu
  rw [dif_pos (by simp)]

theorem next_run (flavour : Flavour) (s : Session S TS D SE TE)
    : NextRun flavour s (next flavour s) := by
  unfold next cycle
  cases hreq : receiveRequest flavour s with
  | error e s₁ =>
    rw [Exec.bind_error hreq]
    apply NextRun.requestFailed hreq
  | ok rtuReq s₁ =>
    rw [Exec.bind_ok hreq]
    obtain ⟨_, hlen, body, hmin, hdata⟩ := receiveRequest_ok hreq
    -- `RtuFrame` has room for 255 bytes, so that the TCP frame always fits.
    have hmax : body.length ≤ 253 := by
      have := rtuReq.length_le
      rw [hdata, length_rtuFrame] at this
      simp only [rtuBuf] at this
      omega
    rw [hdata, length_rtuFrame] at hlen
    obtain ⟨tcpReq, hconv, htcp⟩ := wrapMbap_rtuFrame hmin (by omega) (s₁.transactionId + 1)
    rw [hdata]
    dsimp only
    rw [Exec.bind_ok (show ModbusTcp.nextTransactionId s₁ = .ok _ (numbered s₁) by rfl)]
    simp only [rtuToTcp, hconv]
    dsimp only [Except.mapError]
    rw [Exec.bind_ok (Exec.ofExcept_ok _ _)]
    rw [htcp]
    cases hsend : ModbusTcp.send (tcpFrame (s₁.transactionId + 1) 0 body) (numbered s₁) with
    | error e s₂ =>
      rw [Exec.bind_error (Exec.mapErr_error hsend)]
      apply NextRun.sendFailed hreq hdata hlen hmax hsend
    | ok _ s₂ =>
      rw [Exec.bind_ok (Exec.mapErr_ok hsend)]
      cases hresp : receiveResponse flavour s₂ with
      | error e s₃ =>
        rw [Exec.bind_error hresp]
        apply NextRun.responseFailed hreq hdata hlen hmax hsend hresp
      | ok tcpResp s₃ =>
        rw [Exec.bind_ok hresp]
        -- The id of the response is compared with the one in the frame that was sent.
        rw [tid_tcpFrame]
        obtain ⟨_, rtid, pid, rbody, hrdata, hrmax⟩ := receiveResponse_ok hresp
        -- A length field of zero is received without complaint and rejected only by the conversion.
        by_cases hrbody : rbody = []
        . rw [hrbody] at hrdata
          rw [hrdata, frameReply_nil]
          apply NextRun.rejected hreq hdata hlen hmax hsend hresp hrdata
        . have hpos : 1 ≤ rbody.length := List.length_pos_iff.mpr hrbody
          obtain ⟨out, hreply, hout⟩ :=
            frameReply_tcpFrame hpos hrmax flavour rtid pid (s₁.transactionId + 1)
          rw [hrdata, hreply]
          rw [Exec.bind_ok (Exec.ofExcept_ok _ _)]
          dsimp only
          rw [hout]
          cases hrtu : ModbusRtu.send (rtuFrame rbody) s₃ with
          | error e s₄ =>
            rw [Exec.bind_error (Exec.mapErr_error hrtu)]
            apply NextRun.replyFailed hreq hdata hlen hmax hsend hresp hrdata hpos hrmax hrtu
          | ok _ s₄ =>
            rw [Exec.bind_ok (Exec.mapErr_ok hrtu)]
            have hrun := NextRun.replied hreq hdata hlen hmax hsend hresp hrdata hpos hrmax hrtu
            unfold report at hrun
            by_cases htid : rtid = s₁.transactionId + 1
            . rw [if_pos htid] at hrun ⊢
              apply hrun
            . rw [if_neg htid] at hrun ⊢
              apply hrun

omit [Device TS TE] [ReadReady TS TE] in
theorem request_tcpReads {s s₁ s₂ : Session S TS D SE TE} (hreq : receiveRequest flavour s = .ok rtuReq s₁)
    (hsend : Emits ModbusTcp.sendKinds s₁ s₂) : TcpReads [] s s₂ := by
  have h₁ := ((receiveRequest_onSerial flavour).of_ok hreq).emits
  apply Yields.quiet_append
  . apply Yields.of_emits Event.onlyOf_tcpRx h₁ (by decide)
  . apply Yields.of_emits Event.onlyOf_tcpRx hsend (by decide)

theorem response_tcpReads {s s₁ s₂ s₃ : Session S TS D SE TE} (hreq : receiveRequest flavour s = .ok rtuReq s₁)
    (hsend : ModbusTcp.send tcpReq (numbered s₁) = .ok () s₂) (hresp : receiveResponse flavour s₂ = .ok tcpResp s₃)
    : TcpReads tcpResp.data s s₃ := by
  have h₂ : Emits ModbusTcp.sendKinds s₁ s₂ := ((ModbusTcp.send_onTcp _).of_ok hsend).emits
  apply (request_tcpReads hreq h₂).quiet_append (receiveResponse_ok hresp).1

theorem reply_tcpReads {s s₁ s₂ s₃ s₄ : Session S TS D SE TE} (hreq : receiveRequest flavour s = .ok rtuReq s₁)
    (hsend : ModbusTcp.send tcpReq (numbered s₁) = .ok () s₂) (hresp : receiveResponse flavour s₂ = .ok tcpResp s₃)
    (hreply : finalState (ModbusRtu.send payload s₃) = s₄) : TcpReads tcpResp.data s s₄ := by
  have h₄ : Emits ModbusRtu.sendKinds s₃ s₄ := by
    rw [← hreply]
    apply (ModbusRtu.send_onSerial (List.Subset.refl _) _ s₃).emits
  apply (response_tcpReads hreq hsend hresp).append_quiet
  apply Yields.of_emits Event.onlyOf_tcpRx h₄ (by decide)

theorem reply_rtuFrames {s s₁ s₂ s₃ s₄ : Session S TS D SE TE} (hreq : receiveRequest flavour s = .ok rtuReq s₁)
    (hsend : ModbusTcp.send tcpReq (numbered s₁) = .ok () s₂) (hresp : receiveResponse flavour s₂ = .ok tcpResp s₃)
    (hreply : finalState (ModbusRtu.send payload s₃) = s₄) : Yields Event.rtuFrames [payload] s s₄ := by
  have h₁ := ((receiveRequest_onSerial flavour).of_ok hreq).emits
  have h₂ : Emits ModbusTcp.sendKinds s₁ s₂ := ((ModbusTcp.send_onTcp _).of_ok hsend).emits
  have h₃ := ((receiveResponse_onTcp flavour).of_ok hresp).emits
  have hsent := ModbusRtu.send_yields payload s₃
  rw [hreply] at hsent
  apply Yields.quiet_append _ hsent
  apply Yields.quiet_append _ (Yields.of_emits Event.onlyOf_rtuFrames h₃ (by decide))
  apply Yields.quiet_append _ (Yields.of_emits Event.onlyOf_rtuFrames h₂ (by decide))
  apply Yields.of_emits Event.onlyOf_rtuFrames h₁ (by decide)

theorem CallFrames.of_reply {s s₁ s₂ s₃ s₄ : Session S TS D SE TE}
    (hreq : receiveRequest flavour s = .ok rtuReq s₁) (hdata : rtuReq.data = rtuFrame body)
    (hlen : body.length + 2 = requestLength (rtuFrame body)) (hmax : body.length ≤ 253)
    (hsend : ModbusTcp.send (tcpFrame tid 0 body) (numbered s₁) = .ok () s₂)
    (hresp : receiveResponse flavour s₂ = .ok tcpResp s₃) (hrdata : tcpResp.data = tcpFrame rtid pid rbody)
    (hpos : 1 ≤ rbody.length) (hrmax : rbody.length ≤ 255)
    (hreply : finalState (ModbusRtu.send (rtuFrame rbody) s₃) = s₄) : CallFrames s s₄ := by
  have h₁ := ((receiveRequest_onSerial flavour).of_ok hreq).emits
  have h₂ : Emits ModbusTcp.sendKinds s₁ s₂ :=
    ((ModbusTcp.send_onTcp _).of_ok hsend).emits
  have h₃ := ((receiveResponse_onTcp flavour).of_ok hresp).emits
  have h₄ : Emits ModbusRtu.sendKinds s₃ s₄ := by
    rw [← hreply]
    apply (ModbusRtu.send_onSerial (List.Subset.refl _) _ s₃).emits
  have hrx := (receiveRequest_ok hreq).1
  have htcp : Yields Event.tcpFrames [tcpFrame tid 0 body] s₁ s₂ := by
    have := ModbusTcp.send_yields (tcpFrame tid 0 body) (numbered s₁)
    rwa [hsend] at this
  rw [hdata] at hrx
  apply CallFrames.answered tid rtid pid hlen hmax hpos hrmax
  . apply Yields.append_quiet _ (Yields.of_emits Event.onlyOf_serialRx h₄ (by decide))
    apply Yields.append_quiet _ (Yields.of_emits Event.onlyOf_serialRx h₃ (by decide))
    apply hrx.append_quiet
    apply Yields.of_emits Event.onlyOf_serialRx h₂ (by decide)
  . rw [← hrdata]
    apply reply_tcpReads hreq hsend hresp hreply
  . apply Yields.append_quiet _ (Yields.of_emits Event.onlyOf_tcpFrames h₄ (by decide))
    apply Yields.append_quiet _ (Yields.of_emits Event.onlyOf_tcpFrames h₃ (by decide))
    apply Yields.quiet_append _ htcp
    apply Yields.of_emits Event.onlyOf_tcpFrames h₁ (by decide)
  . apply reply_rtuFrames hreq hsend hresp hreply

theorem next_frames (flavour : Flavour) (s : Session S TS D SE TE)
    : CallFrames s (finalState (next flavour s)) := by
  have hrun := next_run flavour s
  generalize next flavour s = r at hrun
  cases hrun with
  | requestFailed hreq => apply CallFrames.of_request hreq
  | sendFailed hreq hdata hlen hmax hsend =>
    apply CallFrames.of_send _ hreq hdata hlen hmax (congrArg finalState hsend) (Emits.refl _)
  | responseFailed hreq hdata hlen hmax hsend hresp =>
    have hrest := ((receiveResponse_onTcp flavour).of_error hresp).emits
    apply CallFrames.of_send _ hreq hdata hlen hmax (congrArg finalState hsend) hrest
  | rejected hreq hdata hlen hmax hsend hresp _ =>
    have hrest := ((receiveResponse_onTcp flavour).of_ok hresp).emits
    apply CallFrames.of_send _ hreq hdata hlen hmax (congrArg finalState hsend) hrest
  | replyFailed hreq hdata hlen hmax hsend hresp hrdata hpos hrmax hreply
  | replied hreq hdata hlen hmax hsend hresp hrdata hpos hrmax hreply =>
    apply CallFrames.of_reply hreq hdata hlen hmax hsend hresp hrdata hpos hrmax
    rw [hreply]
    rfl

theorem next_yields (obs : Event SE TE → List α) (flavour : Flavour) (s : Session S TS D SE TE)
    : Yields obs ((during (next flavour) s).flatMap obs) s (finalState (next flavour s)) := by
  obtain ⟨_, h⟩ := (next_frames flavour s).rtuFrames
  apply h.of_during

theorem NextRun.hands_over {r : EStateM.Result (Stop (BridgeError SE TE)) (Session S TS D SE TE) _}
    (hrun : NextRun flavour s r) (hrx : TcpReads tcp s (finalState r)) (hcomplete : TcpComplete tcp)
    (hpos : 1 ≤ lengthField tcp) (hmax : lengthField tcp ≤ 255)
    : ∃ payload, Yields Event.rtuFrames [payload] s (finalState r) := by
  cases hrun with
  | requestFailed hreq =>
    have h₁ := ((receiveRequest_onSerial flavour).of_error hreq).emits
    obtain rfl := hrx.unique (Yields.of_emits Event.onlyOf_tcpRx h₁ (by decide))
    exact absurd hcomplete not_tcpComplete_nil
  | sendFailed hreq hdata hlen hmax hsend =>
    have h₂ := ((ModbusTcp.send_onTcp _).of_error hsend).emits
    obtain rfl := hrx.unique (request_tcpReads hreq h₂)
    exact absurd hcomplete not_tcpComplete_nil
  | responseFailed hreq _ _ _ hsend hresp =>
    have hbuf : tcpBuf = 261 := rfl
    have h₂ := ((ModbusTcp.send_onTcp _).of_ok hsend).emits
    unfold TcpComplete at hcomplete
    obtain ⟨bytes, hreads, hcases⟩ := receiveResponse_error hresp
    obtain rfl := hrx.unique ((request_tcpReads hreq h₂).quiet_append hreads)
    omega
  | rejected hreq _ _ _ hsend hresp hrdata =>
    have hreads := response_tcpReads hreq hsend hresp
    rw [hrdata] at hreads
    obtain rfl := hrx.unique hreads
    rw [lengthField_tcpFrame (by simp)] at hpos
    contradiction
  | replyFailed hreq _ _ _ hsend hresp _ _ _ hreply =>
    exact ⟨_, reply_rtuFrames hreq hsend hresp (congrArg finalState hreply)⟩
  | replied hreq _ _ _ hsend hresp _ _ _ hreply =>
    exact ⟨_, reply_rtuFrames hreq hsend hresp (congrArg finalState hreply)⟩

/--
Once a whole TCP response has arrived, `BufferOverflow` says that it is empty or too long, and nothing
else does.
-/
theorem NextRun.overflow_iff {r : EStateM.Result (Stop (BridgeError SE TE)) (Session S TS D SE TE) _}
    (hrun : NextRun flavour s r) (hrx : TcpReads tcp s (finalState r)) (hcomplete : TcpComplete tcp)
    : outcome r = .error (.failed .bufferOverflow) ↔ lengthField tcp = 0 ∨ 255 < lengthField tcp := by
  cases hrun with
  | requestFailed hreq =>
    have h₁ := ((receiveRequest_onSerial flavour).of_error hreq).emits
    obtain rfl := hrx.unique (Yields.of_emits Event.onlyOf_tcpRx h₁ (by decide))
    exact absurd hcomplete not_tcpComplete_nil
  | sendFailed hreq hdata hlen hmax hsend =>
    have h₂ := ((ModbusTcp.send_onTcp _).of_error hsend).emits
    obtain rfl := hrx.unique (request_tcpReads hreq h₂)
    exact absurd hcomplete not_tcpComplete_nil
  | responseFailed hreq hdata hlen hmax hsend hresp =>
    have h₂ := ((ModbusTcp.send_onTcp _).of_ok hsend).emits
    obtain ⟨bytes, hreads, hcases⟩ := receiveResponse_error hresp
    obtain rfl := hrx.unique ((request_tcpReads hreq h₂).quiet_append hreads)
    unfold TcpComplete at hcomplete
    have hbuf : tcpBuf = 261 := rfl
    simp only [outcome_error, Except.error.injEq]
    obtain ⟨he, hlen, hle⟩ | ⟨he, hlen, hlt⟩ := hcases
    . simp only [he, true_iff]
      omega
    . omega
  | rejected hreq hdata hlen hmax hsend hresp hrdata =>
    have hreads := response_tcpReads hreq hsend hresp
    rw [hrdata] at hreads
    obtain rfl := hrx.unique hreads
    rw [lengthField_tcpFrame (by simp)]
    simp
  | replyFailed hreq hdata hlen hmax hsend hresp hrdata hpos hrmax hreply =>
    have hreads := reply_tcpReads hreq hsend hresp (congrArg finalState hreply)
    rw [hrdata] at hreads
    obtain rfl := hrx.unique hreads
    have hne (stop : Stop SE)
        : stop.map .rtuIo ≠ (.failed .bufferOverflow : Stop (BridgeError SE TE)) :=
      Stop.map_ne_failed (by simp) stop
    rw [lengthField_tcpFrame (by omega)]
    simp only [outcome_error, Except.error.injEq, hne, false_iff]
    omega
  | replied hreq hdata hlen hmax hsend hresp hrdata hpos hrmax hreply =>
    have hreads := reply_tcpReads hreq hsend hresp (congrArg finalState hreply)
    rw [hrdata] at hreads
    obtain rfl := hrx.unique hreads
    rw [lengthField_tcpFrame (by omega)]
    simp only [outcome_ok, reduceCtorEq, false_iff]
    omega

end Next

end ClientSession

end ModbusBridge
