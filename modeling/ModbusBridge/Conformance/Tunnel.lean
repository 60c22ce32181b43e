import ModbusBridge.Lemmas.Cycle
import ModbusBridge.Lemmas.Idle
import ModbusBridge.Spec.Mock

/-!
This module contains what a client and a bridge do to the frames of an RTU master and its device when
they are chained over a lossless TCP stream.
-/

namespace ModbusBridge

open Effect EmbeddedIo Session
open Exec (Within Ends)

variable {S TS D SE TE S' TS' D' SE' TE' : Type}

theorem ModbusTcp.writeAll_idle [Device TS TE] [Lossless TS] (data : List UInt8)
    (s : Session S TS D SE TE) (h : s.deadline = none)
    : ∃ s', ModbusTcp.writeAll data s = .ok () s' := by
  have hwrite (_ : List UInt8) (s : Session S TS D SE TE) (buf : List UInt8) (hbuf : buf ≠ [])
      (hidle : s.deadline = none) : ∃ n s', tcpWrite buf hbuf s = .ok n s' ∧ s'.deadline = none := by
    obtain ⟨⟨n, hresult⟩, _⟩ := Lossless.write_ok s.stream buf hbuf
    exact ⟨n, _, show tcpPort.write buf hbuf s = .ok n _ from tcpPort.perform_ok hidle hresult _, hidle⟩
  obtain ⟨s', hsent, _⟩ := writeAll_sends (fun _ (s : Session S TS D SE TE) => s.deadline = none) hwrite data [] h
  exact ⟨s', hsent⟩

theorem ModbusTcp.send_idle [Device TS TE] [Lossless TS] (data : List UInt8)
    {s : Session S TS D SE TE} (h : s.deadline = none) : ∃ s', ModbusTcp.send data s = .ok () s' := by
  unfold ModbusTcp.send
  rw [Exec.bind_ok (show note (.tcpSend data) s = .ok () _ by rfl)]
  apply ModbusTcp.writeAll_idle
  apply h

section Request

theorem parseTcpRequest_tcpFrame {body : List UInt8} (h : 6 ≤ body.length) (tid pid : UInt16)
    : parseTcpRequest (tcpFrame tid pid body) = parseRtuRequest (rtuFrame body) := by
  match body, h with
  | unitId :: fc :: b₂ :: b₃ :: b₄ :: b₅ :: rest, _ =>
    unfold parseTcpRequest parseRtuRequest
    rw [dif_neg (by simp; omega), dif_neg (by simp)]
    rfl

namespace ClientSession

variable [Device S SE] [Device TS TE] [ReadReady S SE] [ReadReady TS TE] [DelayNs D]

theorem NextRun.sent {r : EStateM.Result (Stop (BridgeError SE TE)) (Session S TS D SE TE) BridgeEvent}
    (hrun : NextRun flavour s r) (hreq : receiveRequest flavour s = .ok f s₁)
    : ∃ body, f.data = rtuFrame body ∧ body.length + 2 = requestLength (rtuFrame body)
        ∧ body.length ≤ 253
        ∧ Emits (tcpReceiveKinds ++ ModbusRtu.sendKinds)
            (finalState (ModbusTcp.send (tcpFrame (s₁.transactionId + 1) 0 body) (numbered s₁)))
            (finalState r) := by
  have hreplies (payload : List UInt8) : Within (Emits (tcpReceiveKinds ++ ModbusRtu.sendKinds))
      (ModbusRtu.send payload : Exec (Session S TS D SE TE) SE Unit) := by
    intro s
    apply (ModbusRtu.send_onSerial (List.Subset.refl ModbusRtu.sendKinds) payload s).emits.mono
    apply List.subset_append_right
  have hresponses : Within (Emits (tcpReceiveKinds ++ ModbusRtu.sendKinds))
      (receiveResponse flavour : Exec (Session S TS D SE TE) (BridgeError SE TE) TcpFrame) := by
    intro s
    apply (receiveResponse_onTcp flavour s).emits.mono
    apply List.subset_append_left
  cases hrun with
  | requestFailed h =>
    rw [hreq] at h
    contradiction
  | sendFailed h hdata hlen hmax hsend =>
    obtain ⟨rfl, rfl⟩ := Exec.ok_unique hreq h
    refine ⟨_, hdata, hlen, hmax, ?_⟩
    rw [hsend]
    apply Emits.refl
  | responseFailed h hdata hlen hmax hsend hresp =>
    obtain ⟨rfl, rfl⟩ := Exec.ok_unique hreq h
    refine ⟨_, hdata, hlen, hmax, ?_⟩
    rw [hsend]
    apply hresponses.of_error hresp
  | rejected h hdata hlen hmax hsend hresp _ =>
    obtain ⟨rfl, rfl⟩ := Exec.ok_unique hreq h
    refine ⟨_, hdata, hlen, hmax, ?_⟩
    rw [hsend]
    apply hresponses.of_ok hresp
  | replyFailed h hdata hlen hmax hsend hresp _ _ _ hreply =>
    obtain ⟨rfl, rfl⟩ := Exec.ok_unique hreq h
    refine ⟨_, hdata, hlen, hmax, ?_⟩
    rw [hsend]
    apply (hresponses.of_ok hresp).trans ((hreplies _).of_error hreply)
  | replied h hdata hlen hmax hsend hresp _ _ _ hreply =>
    obtain ⟨rfl, rfl⟩ := Exec.ok_unique hreq h
    refine ⟨_, hdata, hlen, hmax, ?_⟩
    rw [hsend]
    apply (hresponses.of_ok hresp).trans ((hreplies _).of_ok hreply)

/--
On a lossless stream, a client that has received a request writes one TCP frame.
-/
theorem next_writes [Lossless TS] {s : Session S TS D SE TE} (hidle : s.deadline = none)
    (hreq : outcome (receiveRequest flavour s) = .ok f)
    : ∃ body, f.data = rtuFrame body ∧ body.length + 2 = requestLength (rtuFrame body)
        ∧ body.length ≤ 253
        ∧ Yields Event.tcpTx (tcpFrame (s.transactionId + 1) 0 body) s (finalState (next flavour s)) := by
  have hreq := Exec.eq_ok_of_outcome hreq
  obtain ⟨body, hdata, hlen, hmax, hrest⟩ := (next_run flavour s).sent hreq
  have hrequest := (receiveRequest_onSerial flavour).of_ok hreq
  have hidle := (receiveRequest_staysIdle flavour).of_ok hreq hidle
  obtain ⟨s₂, hsend⟩ := ModbusTcp.send_idle (tcpFrame (s.transactionId + 1) 0 body)
    (show (numbered (finalState (receiveRequest flavour s))).deadline = none from hidle)
  rw [hrequest.transactionId_eq, hsend] at hrest
  refine ⟨body, hdata, hlen, hmax, ?_⟩
  apply Yields.append_quiet _ (Yields.of_emits Event.onlyOf_tcpTx hrest (by decide))
  apply Yields.quiet_append _ (ModbusTcp.send_writes hsend)
  apply Yields.of_emits Event.onlyOf_tcpTx hrequest.emits (by decide)

end ClientSession

namespace Connection

variable [Device S SE] [Device TS TE] [ReadReady S SE] [ReadReady TS TE] [DelayNs D] [Lossless S]
  [Lossless TS] {srx trx stx ttx : List UInt8} {tid : UInt16}

omit [ReadReady TS TE] in
theorem exchange_writes (hflavour : Flavour.Untimed flavour) (rtuReq : List UInt8)
    {s : Session S TS D SE TE} (hs : At ⟨srx, trx, stx, ttx, tid⟩ s)
    : Yields Event.serialTx rtuReq s (finalState (exchange rtuReq flavour s)) := by
  obtain ⟨s₁, hsend, _⟩ := (ModbusRtu.send_ends rtuReq).eq_ok hs
  have hreads := (ModbusRtu.receive_onSerial (List.mem_singleton_self Event.Kind.serialRead) s₁).emits
  unfold exchange
  rw [guarded_untimed hflavour, Exec.finalState_mapErr]
  unfold ModbusRtu.sendAndReceive
  rw [Exec.bind_ok (Exec.mapErr_ok hsend)]
  apply (ModbusRtu.send_writes hsend).append_quiet
  apply Yields.of_emits Event.onlyOf_serialTx hreads
  decide

theorem next_forwards (hflavour : Flavour.Untimed flavour) (q : TcpMessage) {s : Session S TS D SE TE}
    (hs : At ⟨srx, q.frame ++ trx, stx, ttx, tid⟩ s)
    : Yields Event.serialTx (rtuFrame q.body) s (finalState (next flavour s)) := by
  obtain ⟨s₁, hreq, h₁⟩ := (receiveRequest_ends hflavour q.received q.received_length).eq_ok hs
  have hquiet : Yields Event.serialTx [] s s₁ := by
    apply Yields.of_emits Event.onlyOf_serialTx ((receiveRequest_onTcp flavour).of_ok hreq).emits
    decide
  have hbody {tid pid body} (h : q.frame = tcpFrame tid pid body) : q.body = body := by
    have := congrArg (List.drop 6) h
    unfold TcpMessage.frame at this
    rwa [drop_tcpFrame, drop_tcpFrame] at this
  have hwrites := exchange_writes hflavour (rtuFrame q.body) h₁
  have hreplies {data s₂ s₃} (h : finalState (ModbusTcp.send data s₂) = s₃)
      : Yields Event.serialTx [] (s₂ : Session S TS D SE TE) s₃ := by
    rw [← h]
    apply Yields.of_emits Event.onlyOf_serialTx (ModbusTcp.send_onTcp data s₂).emits
    decide
  have hrun := next_run flavour s
  generalize next flavour s = r at hrun
  cases hrun with
  | requestFailed h =>
    rw [hreq] at h
    contradiction
  -- Only an empty body is rejected, and that of `q` has a unit id.
  | rejected h hdata =>
    obtain ⟨rfl, rfl⟩ := Exec.ok_unique hreq h
    have hpos := q.pos
    rw [hbody hdata] at hpos
    contradiction
  | exchangeFailed h hdata hpos hmax hexchange =>
    obtain ⟨rfl, rfl⟩ := Exec.ok_unique hreq h
    rw [hbody hdata, hexchange] at hwrites
    rw [hbody hdata]
    apply hquiet.quiet_append hwrites
  | replyFailed h hdata hpos hmax hexchange hresp hlen hsend =>
    obtain ⟨rfl, rfl⟩ := Exec.ok_unique hreq h
    rw [hbody hdata, hexchange] at hwrites
    rw [hbody hdata]
    apply (hquiet.quiet_append hwrites).append_quiet
    apply hreplies (congrArg finalState hsend)
  | replied h hdata hpos hmax hexchange hresp hlen hsend =>
    obtain ⟨rfl, rfl⟩ := Exec.ok_unique hreq h
    rw [hbody hdata, hexchange] at hwrites
    rw [hbody hdata]
    apply (hquiet.quiet_append hwrites).append_quiet
    apply hreplies (congrArg finalState hsend)

end Connection

/--
What a bridge makes of the bytes `tcp` that a client has written for the request `f`. The bytes `trx`
come after them on the stream.
-/
structure RequestTunnelled [Device S SE] [Device TS TE] [ReadReady S SE] [ReadReady TS TE] [DelayNs D]
    [Lossless TS] (flavour : Flavour) (f : RtuFrame) (id : UInt16) (tcp trx : List UInt8)
    (b : Session S TS D SE TE) : Prop where
  listened : ∃ g, outcome (ModbusTcp.listen b) = .ok g ∧ g.data = tcp
  consumed : Lossless.rx (finalState (ModbusTcp.listen b)).stream = trx
  converted : ∃ out, tcpToRtu tcp = .ok (out, id) ∧ out.data = f.data
  forwarded : Trace.serialTx (during (Connection.next flavour) b) = f.data
  metadata : parseTcpRequest tcp = parseRtuRequest f.data

variable [Device S SE] [Device TS TE] [ReadReady S SE] [ReadReady TS TE] [DelayNs D] [Lossless TS]
  [Device S' SE'] [Device TS' TE'] [ReadReady S' SE'] [ReadReady TS' TE'] [DelayNs D'] [Lossless S']
  [Lossless TS']

/--
A bridge forwards a request of the client's master as it is, under the id that the client has given it.
-/
theorem request_tunnelled (flavour flavour' : Flavour) (f : RtuFrame) (c : Session S TS D SE TE)
    (b : Session S' TS' D' SE' TE') (srx trx stx ttx : List UInt8) (tid : UInt16)
    (hidle : c.deadline = none)
    (hlisten : outcome (ClientSession.receiveRequest flavour c) = .ok f) (hflavour : flavour'.Untimed)
    (hb : At ⟨srx, Trace.tcpTx (during (ClientSession.next flavour) c) ++ trx, stx, ttx, tid⟩ b)
    : RequestTunnelled flavour' f (c.transactionId + 1)
        (Trace.tcpTx (during (ClientSession.next flavour) c)) trx b := by
  obtain ⟨body, hf, hlen, hmax, hwrites⟩ := ClientSession.next_writes hidle hlisten
  have hge := requestLength_ge (rtuFrame body)
  have htcp : Trace.tcpTx (during (ClientSession.next flavour) c) = tcpFrame (c.transactionId + 1) 0 body :=
    hwrites.flatMap_during
  rw [htcp] at hb ⊢
  let q : TcpMessage := ⟨c.transactionId + 1, 0, body, by omega, by omega⟩
  obtain ⟨hlistened, hafter⟩ := ModbusTcp.listen_ends q.received q.received_length b hb
  refine ⟨⟨q.received, hlistened, rfl⟩, hafter.tcpRx, ?_, ?_, ?_⟩
  . rw [hf]
    apply tcpToRtu_tcpFrame
    . omega
    . omega
  . rw [hf]
    apply (Connection.next_forwards hflavour q hb).flatMap_during
  . rw [hf]
    apply parseTcpRequest_tcpFrame
    omega

def tunnelClient : Session MockStream MockStream MockDelay Empty Empty :=
  { mockSession (rtuFrame readRequest) [] with transactionId := 0xFFFF }

theorem request_tunnelled_read
    : RequestTunnelled .sync ⟨rtuFrame readRequest, by decide⟩ 0
        (Trace.tcpTx (during (ClientSession.next .asyncTimed) tunnelClient)) [0xEE]
        (mockSession [] (Trace.tcpTx (during (ClientSession.next .asyncTimed) tunnelClient) ++ [0xEE])) :=
  request_tunnelled .asyncTimed .sync ⟨rtuFrame readRequest, by decide⟩ tunnelClient
    (mockSession [] (Trace.tcpTx (during (ClientSession.next .asyncTimed) tunnelClient) ++ [0xEE])) [] [0xEE]
    [] [] 0 (by rfl) (by decide +kernel) .sync ⟨rfl, rfl, rfl, rfl, rfl, by decide, rfl, rfl⟩

end Request

section Response

variable [Device S SE] [Device TS TE] [ReadReady S SE] [ReadReady TS TE] [DelayNs D]

/--
In a cycle that starts in `b`, a bridge receives a request with the id `tid` and accepts `f` as the
response to it.
-/
def Accepts (flavour : Flavour) (b : Session S TS D SE TE) (tid : UInt16) (f : RtuResponse) : Prop :=
  ∃ tcpReq b₁ rtuReq, Connection.receiveRequest flavour b = .ok tcpReq b₁
    ∧ tcpToRtu tcpReq.data = .ok (rtuReq, tid)
    ∧ outcome (Connection.exchange rtuReq.data flavour b₁) = .ok f

theorem Connection.next_writes [Lossless TS] {b : Session S TS D SE TE} (hidle : b.deadline = none)
    (haccepts : Accepts flavour b tid f)
    : ∃ body, f.data = rtuFrame body ∧ body.length + 2 = responseLength (rtuFrame body)
        ∧ Yields Event.tcpTx (tcpFrame tid 0 body) b (finalState (next flavour b)) := by
  obtain ⟨tcpReq, b₁, rtuReq, hreq, hconv, hexchange⟩ := haccepts
  have hexchange := Exec.eq_ok_of_outcome hexchange
  have hidle := (receiveRequest_staysIdle flavour).of_ok hreq hidle
  have hidle := (exchange_staysIdle rtuReq.data flavour).of_ok hexchange hidle
  have hconverted {tid' pid qbody} (hdata : tcpReq.data = tcpFrame tid' pid qbody)
      (hpos : 1 ≤ qbody.length) (hmax : qbody.length ≤ 255)
      : rtuReq.data = rtuFrame qbody ∧ tid = tid' := by
    obtain ⟨out, hout, hframe⟩ := tcpToRtu_tcpFrame hpos (by omega) tid' pid
    rw [hdata, hout] at hconv
    injection hconv with hconv
    injection hconv with hrtu htid
    rw [← hrtu]
    exact ⟨hframe, htid.symm⟩
  have hrun := next_run flavour b
  generalize next flavour b = r at hrun
  cases hrun with
  | requestFailed h =>
    rw [hreq] at h
    contradiction
  | rejected h hdata =>
    obtain ⟨rfl, rfl⟩ := Exec.ok_unique hreq h
    rw [hdata, tcpFrame, List.append_nil, tcpToRtu_mbap_nil] at hconv
    contradiction
  | exchangeFailed h hdata hpos hmax hfailed =>
    obtain ⟨rfl, rfl⟩ := Exec.ok_unique hreq h
    rw [← (hconverted hdata hpos hmax).1, hexchange] at hfailed
    contradiction
  | replyFailed h hdata hpos hmax hok hresp hlen hsend =>
    obtain ⟨rfl, rfl⟩ := Exec.ok_unique hreq h
    rw [← (hconverted hdata hpos hmax).1] at hok
    obtain ⟨rfl, rfl⟩ := Exec.ok_unique hexchange hok
    -- No deadline is running any more, so that the reply cannot be dropped half way.
    obtain ⟨_, hsent⟩ := ModbusTcp.send_idle _ hidle
    rw [hsent] at hsend
    contradiction
  | replied h hdata hpos hmax hok hresp hlen hsend =>
    obtain ⟨rfl, rfl⟩ := Exec.ok_unique hreq h
    obtain ⟨hrtu, rfl⟩ := hconverted hdata hpos hmax
    rw [← hrtu] at hok
    obtain ⟨rfl, rfl⟩ := Exec.ok_unique hexchange hok
    refine ⟨_, hresp, hlen, ?_⟩
    apply Yields.quiet_append _ (ModbusTcp.send_writes hsend)
    apply Yields.quiet_append
    . apply Yields.of_emits Event.onlyOf_tcpTx ((receiveRequest_onTcp flavour).of_ok hreq).emits
      decide
    . apply Yields.of_emits Event.onlyOf_tcpTx ((exchange_onSerial _ flavour).of_ok hexchange).emits
      decide

/--
What a client makes of the bytes `tcp` that a bridge has written for the response `f` to the request `q`.
The bytes `trx` come after them on the stream.
-/
structure ResponseTunnelled [Lossless TS] (flavour : Flavour) (f : RtuResponse) (q : RtuQuery)
    (tcp trx : List UInt8) (c : Session S TS D SE TE) : Prop where
  max : f.data.length ≤ 260
  listened : f.data.length ≤ 257 →
    (∃ g, outcome (ModbusTcp.listen c) = .ok g ∧ g.data = tcp)
      ∧ Lossless.rx (finalState (ModbusTcp.listen c)).stream = trx
  transaction : f.data.length ≤ 257 →
    outcome (ClientSession.next flavour c) = .ok (.transaction (.ofBytes q.frame))
  written : f.data.length ≤ 257 → Trace.serialTx (during (ClientSession.next flavour) c) = f.data
  refused : 257 < f.data.length →
    outcome (ClientSession.next flavour c) = .error (.failed .bufferOverflow)
      ∧ Trace.serialTx (during (ClientSession.next flavour) c) = []

theorem tcpFrame_split {body : List UInt8} (hmin : 255 < body.length) (hmax : body.length < 65536)
    (tid pid : UInt16)
    : ∃ bytes rest, tcpFrame tid pid body = bytes ++ rest ∧ bytes.length = tcpBuf + 1
        ∧ 255 < lengthField bytes := by
  refine ⟨mbap tid pid body.length ++ body.take 256, body.drop 256, ?_, ?_, ?_⟩
  . rw [List.append_assoc, List.take_append_drop]
    rfl
  . rw [List.length_append, length_mbap, List.length_take, Nat.min_eq_left hmin]
    rfl
  . rw [lengthField_mbap_append tid pid hmax]
    apply hmin

variable [Lossless S] [Lossless TS] [Device S' SE'] [Device TS' TE'] [ReadReady S' SE']
  [ReadReady TS' TE'] [DelayNs D'] [Lossless TS']

/--
A client returns a response of the bridge's device as it is, if it is at most 257 bytes long. It refuses a
longer one.
-/
theorem response_tunnelled (flavour flavour' : Flavour) (f : RtuResponse) (q : RtuQuery)
    (b : Session S' TS' D' SE' TE') (c : Session S TS D SE TE) (srx trx stx ttx : List UInt8)
    (tid : UInt16) (hidle : b.deadline = none) (haccepts : Accepts flavour' b (tid + 1) f)
    (hflavour : flavour.Untimed)
    (hc : At ⟨q.frame ++ srx, Trace.tcpTx (during (Connection.next flavour') b) ++ trx, stx, ttx, tid⟩ c)
    : ResponseTunnelled flavour f q (Trace.tcpTx (during (Connection.next flavour') b)) trx c := by
  obtain ⟨body, hf, hlen, hwrites⟩ := Connection.next_writes hidle haccepts
  have hbounds := responseLength_bounds (rtuFrame body)
  have htcp : Trace.tcpTx (during (Connection.next flavour') b) = tcpFrame (tid + 1) 0 body :=
    hwrites.flatMap_during
  have hflen : f.data.length = body.length + 2 := by
    rw [hf, length_rtuFrame]
  have hgrows := ClientSession.next_yields Event.serialTx flavour c
  rw [htcp] at hc ⊢
  by_cases hshort : f.data.length ≤ 257
  . let m : TcpMessage := ⟨tid + 1, 0, body, by omega, by omega⟩
    obtain ⟨hlistened, hafter⟩ := ModbusTcp.listen_ends m.received m.received_length c hc
    obtain ⟨hok, hend⟩ := ClientSession.next_ends hflavour q.layout.length_eq q.layout.length_le m rfl c hc
    rw [← RtuQuery.frame, Transaction.ofRequest_parseRtuRequest q.length_ge] at hok
    refine ⟨by omega, ?_, ?_, ?_, ?_⟩
    . intro _
      exact ⟨⟨m.received, hlistened, rfl⟩, hafter.tcpRx⟩
    . intro _
      apply hok
    . intro _
      rw [hf]
      apply List.append_cancel_left (hc.serialTx_during hend hgrows).symm
    . intro hlong
      exact absurd hshort (Nat.not_le_of_lt hlong)
  -- A response of more than 257 bytes has a body of more than 255 and does not fit into `TcpFrame`.
  . obtain ⟨bytes, rest, hsplit, hbytes, hover⟩ :=
      tcpFrame_split (by omega : 255 < body.length) (by omega) (tid + 1) 0
    rw [hsplit, List.append_assoc] at hc
    obtain ⟨hrefused, hend⟩ :=
      ClientSession.next_overflow hflavour q.layout.length_eq q.layout.length_le hbytes hover c hc
    refine ⟨by omega, ?_, ?_, ?_, ?_⟩
    . intro hle
      contradiction
    . intro hle
      contradiction
    . intro hle
      contradiction
    . intro _
      refine ⟨hrefused, ?_⟩
      apply List.append_right_eq_self.mp (hc.serialTx_during hend hgrows).symm

def tunnelBridge : Session MockStream MockStream MockDelay Empty Empty :=
  mockSession (rtuFrame (0x11 :: 0x03 :: 0x14 :: List.replicate 20 0xAB)) (tcpFrame 1 0 readRequest)

theorem response_tunnelled_read
    : ResponseTunnelled .async ⟨rtuFrame (0x11 :: 0x03 :: 0x14 :: List.replicate 20 0xAB), by decide⟩
        ⟨readRequest, .fixed 0x11 (by decide) 0x00 0x00 0x00 0x0A⟩
        (Trace.tcpTx (during (Connection.next .asyncTimed) tunnelBridge)) [0xEE]
        (mockSession (rtuFrame readRequest)
          (Trace.tcpTx (during (Connection.next .asyncTimed) tunnelBridge) ++ [0xEE])) :=
  response_tunnelled .async .asyncTimed _ ⟨readRequest, .fixed 0x11 (by decide) 0x00 0x00 0x00 0x0A⟩ tunnelBridge
    (mockSession (rtuFrame readRequest)
      (Trace.tcpTx (during (Connection.next .asyncTimed) tunnelBridge) ++ [0xEE])) [] [0xEE] [] [] 0 (by rfl)
    ⟨⟨tcpFrame 1 0 readRequest, by decide⟩, _, ⟨rtuFrame readRequest, by decide⟩,
      Exec.eq_ok_of_outcome (by decide +kernel), by decide +kernel, by decide +kernel⟩
    .async ⟨rfl, rfl, rfl, rfl, rfl, by decide, rfl, rfl⟩

end Response

end ModbusBridge
