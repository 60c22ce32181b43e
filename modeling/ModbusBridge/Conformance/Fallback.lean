import ModbusBridge.Lemmas.ClientSession
import ModbusBridge.Spec.Mock

/-!
This module contains what a client makes of a response with the id of another request: the master gets it all
the same, and the call returns a warning.
-/

namespace ModbusBridge

open Effect EmbeddedIo Session

variable {S TS D SE TE : Type}

/--
What becomes of the frame `tcp` that has been received for the request `tid`, in a call with the outcome `r`
and the events `t`.
-/
structure FallsBack (tid : UInt16) (tcp : List UInt8) (r : Except (Stop (BridgeError SE TE)) BridgeEvent)
    (t : List (Event SE TE)) : Prop where
  written : Trace.serialTx t = rtuFrame (tcp.drop 6)
  transaction_iff : (∃ transaction, r = .ok (.transaction transaction)) ↔ idField tcp = tid
  warning : idField tcp ≠ tid → r = .ok (.warning (.transactionIdMismatch tid (idField tcp)))

theorem ModbusRtu.SendRun.fault_of_error {t : List (Event SE TE)} (h : SendRun payload (.error e) t)
    : ∃ ev ∈ t, ev.isSerialWriteFault = true := by
  cases h with
  | flushFailed => exact ⟨.serial (.flush (.error e)), by simp, rfl⟩
  | @writeFailed _ ws hws =>
    obtain ⟨w, hw, hfault⟩ := hws.isFault_of_error
    have hwrite := hws.isWrite w hw
    refine ⟨.serial w, by simp [hw], ?_⟩
    cases w with
    | write buf result =>
      cases result with
      | ok n => contradiction
      | error e => rfl
    | read | flush | readReady => contradiction
  | drainFailed => exact ⟨.serial (.flush (.error e)), by simp, rfl⟩

namespace ClientSession

theorem report_eq_transaction {tid rxTid : UInt16}
    : (∃ transaction, report rtuReq tid rxTid = .transaction transaction) ↔ rxTid = tid := by
  unfold report
  split
  . next h => simp [h]
  . next h => simp [h]

variable [Device S SE] [Device TS TE] [ReadReady S SE] [ReadReady TS TE] [DelayNs D]

/--
A call up to the point where `ModbusTcp::listen` has returned a frame, with the id of the request that it has
sent.
-/
def ask (flavour : Flavour) : Exec (Session S TS D SE TE) (BridgeError SE TE) (UInt16 × TcpFrame) := do
  let rtuReq ← receiveRequest flavour
  let nextTid ← ModbusTcp.nextTransactionId
  let tcpReq ← Exec.ofExcept ((rtuToTcp rtuReq.data nextTid).mapError fun _ => .bufferOverflow)
  Exec.mapErr .tcpIo (ModbusTcp.send tcpReq.data)
  let tcpResp ← receiveResponse flavour
  pure (nextTid, tcpResp)

variable {s s' : Session S TS D SE TE}

theorem ask_ok (h : ask flavour s = .ok (tid, tcpResp) s')
    : ∃ rtuReq s₁ body s₂, receiveRequest flavour s = .ok rtuReq s₁ ∧ rtuReq.data = rtuFrame body
        ∧ s₁.transactionId + 1 = tid
        ∧ ModbusTcp.send (tcpFrame (s₁.transactionId + 1) 0 body) (numbered s₁) = .ok () s₂
        ∧ receiveResponse flavour s₂ = .ok tcpResp s' := by
  unfold ask at h
  rw [Exec.bind_eq_ok] at h
  obtain ⟨rtuReq, s₁, hreq, h⟩ := h
  obtain ⟨_, _, body, hmin, hdata⟩ := receiveRequest_ok hreq
  have hmax : body.length ≤ 506 := by
    have := rtuReq.length_le
    rw [hdata, length_rtuFrame] at this
    simp only [rtuBuf] at this
    omega
  rw [Exec.bind_ok (show ModbusTcp.nextTransactionId s₁ = .ok _ (numbered s₁) by rfl)] at h
  obtain ⟨tcpReq, hconv, htcp⟩ := wrapMbap_rtuFrame hmin hmax (s₁.transactionId + 1)
  rw [hdata, rtuToTcp, hconv] at h
  dsimp only [Except.mapError] at h
  rw [Exec.bind_ok (Exec.ofExcept_ok _ _), htcp, Exec.bind_eq_ok] at h
  obtain ⟨_, s₂, hsend, h⟩ := h
  rw [Exec.mapErr_eq_ok] at hsend
  rw [Exec.bind_eq_ok] at h
  obtain ⟨f, s₃, hresp, h⟩ := h
  injection h with hpair hs
  injection hpair with htid hf
  rw [hf, hs] at hresp
  exact ⟨rtuReq, s₁, body, s₂, hreq, hdata, htid, hsend, hresp⟩

theorem ask_serialTx (h : ask flavour s = .ok (tid, tcpResp) s') : Yields Event.serialTx [] s s' := by
  obtain ⟨rtuReq, s₁, body, s₂, hreq, _, _, hsend, hresp⟩ := ask_ok h
  have h₁ := ((receiveRequest_onSerial flavour).of_ok hreq).emits
  have h₂ : Emits ModbusTcp.sendKinds s₁ s₂ := ((ModbusTcp.send_onTcp _).of_ok hsend).emits
  have h₃ := ((receiveResponse_onTcp flavour).of_ok hresp).emits
  apply Yields.quiet_append (Yields.of_emits Event.onlyOf_serialTx h₁ (by decide))
  apply Yields.quiet_append (Yields.of_emits Event.onlyOf_serialTx h₂ (by decide))
  apply Yields.of_emits Event.onlyOf_serialTx h₃ (by decide)

theorem ask_replies (h : ask flavour s = .ok (tid, tcpResp) s') (hpayload : tcpResp.data.drop 6 ≠ [])
    : ∃ rtuReq, ∃ r : EStateM.Result (Stop SE) (Session S TS D SE TE) Unit,
        ModbusRtu.send (rtuFrame (tcpResp.data.drop 6)) s' = r
          ∧ finalState (next flavour s) = finalState r
          ∧ (outcome r = .ok () → outcome (next flavour s) = .ok (report rtuReq tid (idField tcpResp.data))) := by
  obtain ⟨rtuReq, s₁, body, s₂, hreq, hdata, htid, hsend, hresp⟩ := ask_ok h
  have hsame {rtuReq' s₁' body'} (hreq' : receiveRequest flavour s = .ok rtuReq' s₁')
      (hdata' : rtuReq'.data = rtuFrame body') : s₁ = s₁' ∧ body = body' := by
    obtain ⟨rfl, rfl⟩ := Exec.ok_unique hreq hreq'
    exact ⟨rfl, rtuFrame_inj (hdata.symm.trans hdata')⟩
  have hrun := next_run flavour s
  generalize next flavour s = r at hrun
  cases hrun with
  | requestFailed hreq' =>
    rw [hreq] at hreq'
    contradiction
  | sendFailed hreq' hdata' _ _ hsend' =>
    obtain ⟨rfl, rfl⟩ := hsame hreq' hdata'
    rw [hsend] at hsend'
    contradiction
  | responseFailed hreq' hdata' _ _ hsend' hresp' =>
    obtain ⟨rfl, rfl⟩ := hsame hreq' hdata'
    obtain ⟨_, rfl⟩ := Exec.ok_unique hsend hsend'
    rw [hresp] at hresp'
    contradiction
  | rejected hreq' hdata' _ _ hsend' hresp' hrdata =>
    obtain ⟨rfl, rfl⟩ := hsame hreq' hdata'
    obtain ⟨_, rfl⟩ := Exec.ok_unique hsend hsend'
    obtain ⟨rfl, rfl⟩ := Exec.ok_unique hresp hresp'
    rw [hrdata, drop_tcpFrame] at hpayload
    contradiction
  | replyFailed hreq' hdata' _ _ hsend' hresp' hrdata _ _ hreply =>
    obtain ⟨rfl, rfl⟩ := hsame hreq' hdata'
    obtain ⟨_, rfl⟩ := Exec.ok_unique hsend hsend'
    obtain ⟨rfl, rfl⟩ := Exec.ok_unique hresp hresp'
    rw [hrdata, drop_tcpFrame]
    exact ⟨rtuFrame body, _, hreply, rfl, nofun⟩
  | replied hreq' hdata' _ _ hsend' hresp' hrdata _ _ hreply =>
    obtain ⟨rfl, rfl⟩ := hsame hreq' hdata'
    obtain ⟨_, rfl⟩ := Exec.ok_unique hsend hsend'
    obtain ⟨rfl, rfl⟩ := Exec.ok_unique hresp hresp'
    rw [hrdata, drop_tcpFrame, idField_tcpFrame, ← htid]
    exact ⟨rtuFrame body, _, hreply, rfl, fun _ => rfl⟩

end ClientSession

variable [Device S SE] [Device TS TE] [ReadReady S SE] [ReadReady TS TE] [DelayNs D]

/--
A response with another id than that of the request is no failure: the master gets the same bytes, and the
warning names the two ids.
-/
theorem next_fallsBack (flavour : Flavour) (s : Session S TS D SE TE) (tid : UInt16) (tcpResp : TcpFrame)
    (hask : outcome (ClientSession.ask flavour s) = .ok (tid, tcpResp)) (hpayload : tcpResp.data.drop 6 ≠ [])
    (hwrites : ∀ ev ∈ during (ClientSession.next flavour) s, ev.isSerialWriteFault = false)
    : FallsBack tid tcpResp.data (outcome (ClientSession.next flavour s))
        (during (ClientSession.next flavour) s) := by
  have hask := Exec.eq_ok_of_outcome hask
  obtain ⟨rtuReq, r, hreply, hfinal, houtcome⟩ := ClientSession.ask_replies hask hpayload
  obtain ⟨t₀, ht₀, hquiet⟩ := ClientSession.ask_serialTx hask
  obtain ⟨t, hrun, htrace, _⟩ := ModbusRtu.send_run (rtuFrame (tcpResp.data.drop 6))
    (finalState (ClientSession.ask flavour s))
  rw [hreply, ← hfinal, ht₀, List.append_assoc] at htrace
  rw [hreply] at hrun
  rw [during_eq htrace] at hwrites ⊢
  have hok : outcome r = .ok () := by
    cases h : outcome r with
    | ok _ => rfl
    | error e =>
      rw [h] at hrun
      obtain ⟨ev, hmem, hfault⟩ := hrun.fault_of_error
      rw [hwrites ev (List.mem_append_right _ hmem)] at hfault
      contradiction
  rw [hok] at hrun
  have hresult := houtcome hok
  constructor
  . unfold Trace.serialTx
    rw [List.flatMap_append, hquiet, hrun.serialTx_of_ok, List.nil_append]
  . simp only [hresult, Except.ok.injEq]
    apply ClientSession.report_eq_transaction
  . intro hne
    rw [hresult, ClientSession.report, if_neg hne]

theorem next_fallsBack_late
    : FallsBack 1 (tcpFrame 7 0 [0x11, 0x03, 0x02, 0xAA, 0xBB])
        (outcome (ClientSession.next .sync
          (mockSession (rtuFrame readRequest) (tcpFrame 7 0 [0x11, 0x03, 0x02, 0xAA, 0xBB]))))
        (during (ClientSession.next .sync)
          (mockSession (rtuFrame readRequest) (tcpFrame 7 0 [0x11, 0x03, 0x02, 0xAA, 0xBB]))) :=
  next_fallsBack .sync _ 1 ⟨tcpFrame 7 0 [0x11, 0x03, 0x02, 0xAA, 0xBB], by decide⟩ (by decide +kernel)
    (by decide) (by decide +kernel)

end ModbusBridge
