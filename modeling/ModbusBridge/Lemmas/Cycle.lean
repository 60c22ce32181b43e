import ModbusBridge.Lemmas.ClientSession
import ModbusBridge.Lemmas.Connection
import ModbusBridge.Lemmas.Lossless
import ModbusBridge.Spec.Layout

/-!
This module contains the triples of the untimed copies of `next` on lossless devices.
-/

namespace ModbusBridge

open Effect EmbeddedIo Session
open Exec (Ends)

variable {S TS D SE TE : Type} {srx trx stx ttx : List UInt8} {tid : UInt16}

theorem TcpMessage.length_frame_le (m : TcpMessage) : m.frame.length ≤ tcpBuf := by
  have := m.max
  unfold TcpMessage.frame
  rw [length_tcpFrame]
  simp only [tcpBuf]
  omega

def TcpMessage.received (m : TcpMessage) : TcpFrame := ⟨m.frame, m.length_frame_le⟩

theorem TcpMessage.received_length (m : TcpMessage)
    : m.received.data.length = 6 + lengthField m.received.data := by
  have := m.max
  show (tcpFrame m.transactionId m.protocolId m.body).length
    = 6 + lengthField (tcpFrame m.transactionId m.protocolId m.body)
  rw [length_tcpFrame, lengthField_tcpFrame (by omega)]

theorem RtuQuery.length_ge (q : RtuQuery) : 8 ≤ q.frame.length := by
  unfold RtuQuery.frame
  rw [length_rtuFrame, q.layout.length_eq]
  apply requestLength_ge

theorem Session.flatMap_during {x : Exec (Session S TS D SE TE) ε α} {s : Session S TS D SE TE}
    {any : Event SE TE → List β} (hgrows : Yields any seen s (finalState (x s))) (obs : Event SE TE → List UInt8)
    : (finalState (x s)).trace.flatMap obs = s.trace.flatMap obs ++ (during x s).flatMap obs := by
  obtain ⟨t, htrace, _⟩ := hgrows
  rw [during_eq htrace, htrace]
  apply List.flatMap_append

theorem Session.At.serialTx_during [Device S SE] [Device TS TE] [Lossless S] [Lossless TS]
    {x : Exec (Session S TS D SE TE) ε α} {s : Session S TS D SE TE} (hbefore : At v s)
    (hafter : At v' (finalState (x s))) {any : Event SE TE → List β}
    (hgrows : Yields any seen s (finalState (x s)))
    : v'.serialTx = v.serialTx ++ Trace.serialTx (during x s) := by
  rw [← hafter.serialTx, ← hbefore.serialTx]
  apply flatMap_during hgrows

theorem Session.At.tcpTx_during [Device S SE] [Device TS TE] [Lossless S] [Lossless TS]
    {x : Exec (Session S TS D SE TE) ε α} {s : Session S TS D SE TE} (hbefore : At v s)
    (hafter : At v' (finalState (x s))) {any : Event SE TE → List β}
    (hgrows : Yields any seen s (finalState (x s)))
    : v'.tcpTx = v.tcpTx ++ Trace.tcpTx (during x s) := by
  rw [← hafter.tcpTx, ← hbefore.tcpTx]
  apply flatMap_during hgrows

theorem guarded_untimed [DelayNs D] (hflavour : Flavour.Untimed flavour)
    (readReady : Exec (Session S TS D SE TE) ε' Bool) (ioError : ε' → BridgeError SE TE)
    (timeoutMs : Session S TS D SE TE → Option UInt32) (fut : Exec (Session S TS D SE TE) ε α)
    (toError : Flavour → ε → BridgeError SE TE)
    : guarded readReady ioError timeoutMs fut toError flavour = Exec.mapErr (toError flavour) fut := by
  cases hflavour with
  | sync => rfl
  | async => rfl

variable [Device S SE] [Device TS TE] [ReadReady S SE] [ReadReady TS TE] [DelayNs D] [Lossless S]
  [Lossless TS]

namespace Connection

omit [ReadReady S SE] in
theorem receiveRequest_ends (hflavour : Flavour.Untimed flavour) (f : TcpFrame)
    (hlen : f.data.length = 6 + lengthField f.data)
    : Ends (At ⟨srx, f.data ++ trx, stx, ttx, tid⟩)
        (receiveRequest flavour : Exec (Session S TS D SE TE) (BridgeError SE TE) TcpFrame) (.ok f)
        (At ⟨srx, trx, stx, ttx, tid⟩) := by
  unfold receiveRequest
  rw [guarded_untimed hflavour]
  apply Ends.mapErr_ok
  apply ModbusTcp.listen_ends f hlen

omit [ReadReady TS TE] in
theorem exchange_ends (hflavour : Flavour.Untimed flavour) (rtuReq : List UInt8) (r : RtuResponse)
    (hlen : r.data.length = responseLength r.data) (hcrc : checkCrc r.data = .ok ())
    : Ends (At ⟨r.data ++ srx, trx, stx, ttx, tid⟩)
        (exchange rtuReq flavour : Exec (Session S TS D SE TE) (BridgeError SE TE) RtuResponse) (.ok r)
        (At ⟨srx, trx, stx ++ rtuReq, ttx, tid⟩) := by
  unfold exchange
  rw [guarded_untimed hflavour]
  apply Ends.mapErr_ok
  apply ModbusRtu.sendAndReceive_ends rtuReq r hlen hcrc

/--
A cycle of the bridge: the request moves from the TCP input to the serial output and the response from
the serial input to the TCP output, each in the frame of the other side.
-/
theorem next_ends (hflavour : Flavour.Untimed flavour) (q : TcpMessage) (rbody : List UInt8)
    (hlen : rbody.length + 2 = responseLength (rtuFrame rbody))
    : Ends (At ⟨rtuFrame rbody ++ srx, q.frame ++ trx, stx, ttx, tid⟩)
        (next flavour : Exec (Session S TS D SE TE) (BridgeError SE TE) BridgeEvent)
        (.ok (.transaction (.ofRequest (parseTcpRequest q.frame))))
        (At ⟨srx, trx, stx ++ rtuFrame q.body, ttx ++ tcpFrame q.transactionId 0 rbody, tid⟩) := by
  have hmax := q.max
  have hbounds := responseLength_bounds (rtuFrame rbody)
  have hmin : 2 ≤ rbody.length := by omega
  have hfit : rbody.length ≤ 506 := by omega
  let resp : RtuResponse := ⟨rtuFrame rbody, by rw [length_rtuFrame]; omega⟩
  obtain ⟨rtuReq, hconv, hrtu⟩ := tcpToRtu_tcpFrame q.pos (by omega) q.transactionId q.protocolId
  unfold next cycle
  apply Ends.bind (receiveRequest_ends hflavour q.received q.received_length)
  apply Ends.bind (a := (rtuReq, q.transactionId))
  . apply Ends.ofExcept
    show Except.mapError _ (tcpToRtu (tcpFrame q.transactionId q.protocolId q.body)) = _
    rw [hconv]
    rfl
  apply Ends.bind (a := resp)
  . show Ends _ (exchange rtuReq.data flavour) _ _
    rw [hrtu]
    apply exchange_ends hflavour (rtuFrame q.body) resp
    . show (rtuFrame rbody).length = _
      rw [length_rtuFrame, hlen]
    . apply checkCrc_rtuFrame hmin
  obtain ⟨out, hreply, hout⟩
      : ∃ out, (frameReply (rxTid flavour) (rtuFrame rbody) q.transactionId : Except (BridgeError SE TE) _)
            = .ok (out, none)
          ∧ out.data = tcpFrame q.transactionId 0 rbody :=
    frameReply_rtuFrame hmin hfit (rxTid flavour) q.transactionId
  apply Ends.bind (a := (out, none))
  . apply Ends.ofExcept hreply
  apply Ends.bind
  . apply Ends.mapErr_ok
    apply ModbusTcp.send_ends
  rw [hout]
  apply Ends.pure

theorem next_eof (hflavour : Flavour.Untimed flavour)
    : Ends (At ⟨srx, [], stx, ttx, tid⟩)
        (next flavour : Exec (Session S TS D SE TE) (BridgeError SE TE) BridgeEvent)
        (.error (.failed .tcpClosed)) (At ⟨srx, [], stx, ttx, tid⟩) := by
  unfold next cycle receiveRequest
  rw [guarded_untimed hflavour]
  apply Ends.bind_error
  cases hflavour with
  | sync => apply Ends.mapErr_error ModbusTcp.listen_eof
  | async => apply Ends.mapErr_error ModbusTcp.listen_eof

end Connection

namespace ClientSession

omit [ReadReady TS TE] in
theorem receiveRequest_ends (hflavour : Flavour.Untimed flavour) (f : RtuFrame)
    (hlen : f.data.length = requestLength f.data) (hcrc : checkCrc f.data = .ok ())
    : Ends (At ⟨f.data ++ srx, trx, stx, ttx, tid⟩)
        (receiveRequest flavour : Exec (Session S TS D SE TE) (BridgeError SE TE) RtuFrame) (.ok f)
        (At ⟨srx, trx, stx, ttx, tid⟩) := by
  unfold receiveRequest
  rw [guarded_untimed hflavour]
  apply Ends.mapErr_ok
  apply ModbusRtu.listen_ends f hlen hcrc

omit [ReadReady S SE] in
theorem receiveResponse_ends (hflavour : Flavour.Untimed flavour) (f : TcpFrame)
    (hlen : f.data.length = 6 + lengthField f.data)
    : Ends (At ⟨srx, f.data ++ trx, stx, ttx, tid⟩)
        (receiveResponse flavour : Exec (Session S TS D SE TE) (BridgeError SE TE) TcpFrame) (.ok f)
        (At ⟨srx, trx, stx, ttx, tid⟩) := by
  unfold receiveResponse
  rw [guarded_untimed hflavour]
  apply Ends.mapErr_ok
  apply ModbusTcp.listen_ends f hlen

omit [ReadReady S SE] [ReadReady TS TE] [DelayNs D] in
theorem nextTransactionId_ends
    : Ends (At ⟨srx, trx, stx, ttx, tid⟩)
        (ModbusTcp.nextTransactionId : Exec (Session S TS D SE TE) (BridgeError SE TE) UInt16) (.ok (tid + 1))
        (At ⟨srx, trx, stx, ttx, tid + 1⟩) := by
  apply Ends.of_eq_ok
  intro s h
  have htid : s.transactionId = tid := h.transactionId
  refine ⟨{ s with transactionId := tid + 1 }, ?_, ?_⟩
  . rw [← htid]
    rfl
  . exact { h with transactionId := rfl }

omit [ReadReady S SE] [ReadReady TS TE] [DelayNs D] in
theorem asked_ends {rest : TcpResponse → Exec (Session S TS D SE TE) (BridgeError SE TE) β}
    {body : List UInt8} (hmin : 2 ≤ body.length) (hmax : body.length ≤ 253)
    (hrest : ∀ tcpReq, tcpReq.data = tcpFrame (tid + 1) 0 body →
      Ends (At ⟨srx, trx, stx, ttx ++ tcpReq.data, tid + 1⟩) (rest tcpReq) r Q)
    : Ends (At ⟨srx, trx, stx, ttx, tid⟩)
        (do
          let nextTid ← ModbusTcp.nextTransactionId
          let tcpReq ← Exec.ofExcept ((rtuToTcp (rtuFrame body) nextTid).mapError fun _ => .bufferOverflow)
          Exec.mapErr .tcpIo (ModbusTcp.send tcpReq.data)
          rest tcpReq)
        r Q := by
  obtain ⟨tcpReq, hconv, htcp⟩ := wrapMbap_rtuFrame hmin (by omega) (tid + 1)
  apply Ends.bind nextTransactionId_ends
  apply Ends.bind (a := tcpReq)
  . apply Ends.ofExcept
    unfold rtuToTcp
    rw [hconv]
    rfl
  apply Ends.bind
  . apply Ends.mapErr_ok
    apply ModbusTcp.send_ends
  apply hrest tcpReq htcp

/--
A cycle of the client in which the server answers under the id of the request.
-/
theorem next_ends (hflavour : Flavour.Untimed flavour) {body : List UInt8}
    (hlen : body.length + 2 = requestLength (rtuFrame body))
    (hmax : body.length ≤ 253) (m : TcpMessage) (htid : m.transactionId = tid + 1)
    : Ends (At ⟨rtuFrame body ++ srx, m.frame ++ trx, stx, ttx, tid⟩)
        (next flavour : Exec (Session S TS D SE TE) (BridgeError SE TE) BridgeEvent)
        (.ok (.transaction (.ofRequest (parseRtuRequest (rtuFrame body)))))
        (At ⟨srx, trx, stx ++ rtuFrame m.body, ttx ++ tcpFrame (tid + 1) 0 body, tid + 1⟩) := by
  have hge := requestLength_ge (rtuFrame body)
  have hmin : 2 ≤ body.length := by omega
  let f : RtuFrame := ⟨rtuFrame body, by rw [length_rtuFrame]; simp only [rtuBuf]; omega⟩
  unfold next cycle
  apply Ends.bind (a := f)
  . apply receiveRequest_ends hflavour f
    . show (rtuFrame body).length = _
      rw [length_rtuFrame, hlen]
    . apply checkCrc_rtuFrame hmin
  dsimp only [f]
  apply asked_ends hmin hmax
  intro tcpReq htcp
  rw [htcp, tid_tcpFrame]
  apply Ends.bind (receiveResponse_ends hflavour m.received m.received_length)
  obtain ⟨out, hreply, hout⟩
      : ∃ out, (frameReply (Connection.rxTid flavour) m.frame (tid + 1)
            : Except (BridgeError SE TE) _) = .ok (out, none)
          ∧ out.data = rtuFrame m.body := by
    obtain ⟨out, hreply, hout⟩ :=
      frameReply_tcpFrame m.pos m.max flavour m.transactionId m.protocolId (tid + 1)
    rw [if_pos htid] at hreply
    exact ⟨out, hreply, hout⟩
  apply Ends.bind (a := (out, none))
  . apply Ends.ofExcept hreply
  apply Ends.bind
  . apply Ends.mapErr_ok
    apply ModbusRtu.send_ends
  rw [hout]
  apply Ends.pure

theorem next_overflow (hflavour : Flavour.Untimed flavour) {body : List UInt8}
    (hlen : body.length + 2 = requestLength (rtuFrame body)) (hmax : body.length ≤ 253)
    {bytes : List UInt8} (hbytes : bytes.length = tcpBuf + 1) (hover : 255 < lengthField bytes)
    : Ends (At ⟨rtuFrame body ++ srx, bytes ++ trx, stx, ttx, tid⟩)
        (next flavour : Exec (Session S TS D SE TE) (BridgeError SE TE) BridgeEvent)
        (.error (.failed .bufferOverflow))
        (At ⟨srx, trx, stx, ttx ++ tcpFrame (tid + 1) 0 body, tid + 1⟩) := by
  have hge := requestLength_ge (rtuFrame body)
  have hmin : 2 ≤ body.length := by omega
  let f : RtuFrame := ⟨rtuFrame body, by rw [length_rtuFrame]; simp only [rtuBuf]; omega⟩
  unfold next cycle
  apply Ends.bind (a := f)
  . apply receiveRequest_ends hflavour f
    . show (rtuFrame body).length = _
      rw [length_rtuFrame, hlen]
    . apply checkCrc_rtuFrame hmin
  dsimp only [f]
  apply asked_ends hmin hmax
  intro tcpReq htcp
  rw [htcp]
  apply Ends.bind_error
  unfold receiveResponse
  rw [guarded_untimed hflavour]
  cases hflavour with
  | sync => apply Ends.mapErr_error (ModbusTcp.listen_overflow hbytes hover)
  | async => apply Ends.mapErr_error (ModbusTcp.listen_overflow hbytes hover)

theorem next_eof (hflavour : Flavour.Untimed flavour)
    : Ends (At ⟨[], trx, stx, ttx, tid⟩)
        (next flavour : Exec (Session S TS D SE TE) (BridgeError SE TE) BridgeEvent)
        (.error (.failed .rtuClosed)) (At ⟨[], trx, stx, ttx, tid⟩) := by
  unfold next cycle receiveRequest
  rw [guarded_untimed hflavour]
  apply Ends.bind_error
  cases hflavour with
  | sync => apply Ends.mapErr_error ModbusRtu.listen_eof
  | async => apply Ends.mapErr_error ModbusRtu.listen_eof

end ClientSession

end ModbusBridge
