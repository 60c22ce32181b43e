import ModbusBridge.Conformance.Relay
import ModbusBridge.Spec.Run

/-!
This module contains how a client numbers its requests, and what that says about late responses: the id
of a request is its number in the session modulo 65536, and only a response with the same id is reported
as a transaction.
-/

namespace ModbusBridge

open Effect EmbeddedIo Session

variable {S TS D SE TE : Type}

namespace ClientSession

section Step

/--
No request is sent to the server, and none gets a number.
-/
def Unasked (s s' : Session S TS D SE TE) : Prop :=
  s'.transactionId = s.transactionId ∧ Yields Event.tcpFrames [] s s'

theorem Unasked.refl (s : Session S TS D SE TE) : Unasked s s := ⟨rfl, .refl s⟩

theorem Unasked.trans {s s₁ s' : Session S TS D SE TE} (h₁ : Unasked s s₁) (h₂ : Unasked s₁ s')
    : Unasked s s' := ⟨h₂.1.trans h₁.1, h₁.2.quiet_append h₂.2⟩

theorem Unasked.of_onTcp {s s' : Session S TS D SE TE} (h : OnTcp kinds s s') (hsend : .tcpSend ∉ kinds)
    : Unasked s s' := ⟨h.transactionId_eq, .of_emits Event.onlyOf_tcpFrames h.emits hsend⟩

theorem Unasked.of_onSerial {s s' : Session S TS D SE TE} (h : OnSerial kinds s s')
    (hsend : .tcpSend ∉ kinds) : Unasked s s' :=
  ⟨h.transactionId_eq, .of_emits Event.onlyOf_tcpFrames h.emits hsend⟩

/--
One request is sent to the server, under the next number.
-/
def Asked (s s' : Session S TS D SE TE) : Prop :=
  s'.transactionId = s.transactionId + 1
    ∧ ∃ body, Yields Event.tcpFrames [tcpFrame (s.transactionId + 1) 0 body] s s'

variable [Device S SE] [Device TS TE] [ReadReady S SE] [ReadReady TS TE] [DelayNs D]

omit [ReadReady TS TE] in
theorem Asked.of_send {s s₁ s₂ s₃ : Session S TS D SE TE}
    (hreq : receiveRequest flavour s = .ok rtuReq s₁)
    (hsend : finalState (ModbusTcp.send (tcpFrame (s₁.transactionId + 1) 0 body) (numbered s₁)) = s₂)
    (hrest : Unasked s₂ s₃) : Asked s s₃ := by
  obtain ⟨hid, hquiet⟩ := Unasked.of_onSerial ((receiveRequest_onSerial flavour).of_ok hreq) (by decide)
  have hstep := ModbusTcp.send_onTcp (tcpFrame (s₁.transactionId + 1) 0 body) (numbered s₁)
  have hsent : Yields Event.tcpFrames [tcpFrame (s₁.transactionId + 1) 0 body] s₁ s₂ := by
    rw [← hsend]
    apply ModbusTcp.send_yields (tcpFrame (s₁.transactionId + 1) 0 body) (numbered s₁)
  rw [hsend] at hstep
  constructor
  . rw [hrest.1, hstep.transactionId_eq, ← hid]
    rfl
  . rw [hid] at hsent
    exact ⟨body, (hquiet.quiet_append hsent).append_quiet hrest.2⟩

omit [Device TS TE] [ReadReady TS TE] in
theorem reads_of_ok {s s₁ : Session S TS D SE TE} (hreq : receiveRequest flavour s = .ok rtuReq s₁)
    : reads flavour s = true := by
  unfold reads
  rw [hreq]
  rfl

/--
A cycle that reads a request sends it under the next number, whatever becomes of it. A cycle that reads
none changes nothing.
-/
theorem next_ids (flavour : Flavour) (s : Session S TS D SE TE)
    : (reads flavour s = false ∧ Unasked s (advance flavour s))
        ∨ (reads flavour s = true ∧ Asked s (advance flavour s)) := by
  unfold advance
  have hrun := next_run flavour s
  generalize next flavour s = r at hrun
  have hresponded {s₂ : Session S TS D SE TE} {r} (hresp : receiveResponse flavour s₂ = r)
      : Unasked s₂ (finalState r) := by
    rw [← hresp]
    apply Unasked.of_onTcp (receiveResponse_onTcp flavour s₂)
    decide
  have hreplied {s₃ : Session S TS D SE TE} {payload r} (hreply : ModbusRtu.send payload s₃ = r)
      : Unasked s₃ (finalState r) := by
    rw [← hreply]
    apply Unasked.of_onSerial (ModbusRtu.send_onSerial (List.Subset.refl _) payload s₃)
    decide
  cases hrun with
  | requestFailed hreq =>
    left
    constructor
    . unfold reads
      rw [hreq]
      rfl
    . apply Unasked.of_onSerial ((receiveRequest_onSerial flavour).of_error hreq)
      decide
  | sendFailed hreq _ _ _ hsend =>
    exact .inr ⟨reads_of_ok hreq, Asked.of_send hreq (congrArg finalState hsend) (.refl _)⟩
  | responseFailed hreq _ _ _ hsend hresp =>
    exact .inr ⟨reads_of_ok hreq, Asked.of_send hreq (congrArg finalState hsend) (hresponded hresp)⟩
  | rejected hreq _ _ _ hsend hresp _ =>
    exact .inr ⟨reads_of_ok hreq, Asked.of_send hreq (congrArg finalState hsend) (hresponded hresp)⟩
  | replyFailed hreq _ _ _ hsend hresp _ _ _ hreply | replied hreq _ _ _ hsend hresp _ _ _ hreply =>
    exact .inr ⟨reads_of_ok hreq, Asked.of_send hreq (congrArg finalState hsend)
      ((hresponded hresp).trans (hreplied hreply))⟩

theorem next_echo {s s' : Session S TS D SE TE} (h : next flavour s = .ok (.transaction t) s')
    : reads flavour s = true
        ∧ ∃ pid rbody, rbody.length ≤ 255 ∧ TcpReads (tcpFrame (s.transactionId + 1) pid rbody) s s' := by
  have hrun := next_run flavour s
  rw [h] at hrun
  generalize hr : EStateM.Result.ok (BridgeEvent.transaction t) s' = r at hrun
  cases hrun with
  | requestFailed | sendFailed | responseFailed | rejected | replyFailed => contradiction
  | @replied _ s₁ _ _ _ s₃ rtid pid rbody s₄ hreq hdata hlen hmax hsend hresp hrdata hpos hrmax hreply =>
    injection hr with hevent hs
    rw [hs]
    have hid := ((receiveRequest_onSerial flavour).of_ok hreq).transactionId_eq
    have htid : rtid = s₁.transactionId + 1 := by
      apply Classical.byContradiction
      intro hne
      unfold report at hevent
      rw [if_neg hne] at hevent
      contradiction
    rw [htid, hid] at hrdata
    have hreads := reply_tcpReads hreq hsend hresp (congrArg finalState hreply)
    rw [hrdata] at hreads
    exact ⟨reads_of_ok hreq, pid, rbody, hrmax, hreads⟩

end Step

section Run

variable [Device S SE] [Device TS TE] [ReadReady S SE] [ReadReady TS TE] [DelayNs D]
  {s : Session S TS D SE TE}

theorem requestsRead_append (before flavours : List Flavour) (s : Session S TS D SE TE)
    : requestsRead (before ++ flavours) s
        = requestsRead before s + requestsRead flavours (afterCalls advance before s) := by
  unfold requestsRead
  rw [callsOf_append, List.countP_append]

theorem requestsRead_single (flavour : Flavour) (s : Session S TS D SE TE)
    : requestsRead [flavour] s = if reads flavour s then 1 else 0 := by
  unfold requestsRead callsOf callsOf
  rw [List.countP_singleton]

theorem transactionId_afterCalls (flavours : List Flavour) (s : Session S TS D SE TE)
    : (afterCalls advance flavours s).transactionId
        = s.transactionId + UInt16.ofNat (requestsRead flavours s) := by
  induction flavours generalizing s with
  | nil =>
    show s.transactionId = s.transactionId + 0
    rw [UInt16.add_zero]
  | cons flavour flavours ih =>
    rw [← List.singleton_append, requestsRead_append, requestsRead_single, afterCalls_append, ih]
    show (advance flavour s).transactionId + UInt16.ofNat (requestsRead flavours (advance flavour s)) = _
    cases next_ids flavour s with
    | inl h =>
      obtain ⟨hreads, hid, _⟩ := h
      rw [hid, hreads, if_neg (by decide), Nat.zero_add]
      rfl
    | inr h =>
      obtain ⟨hreads, hid, _⟩ := h
      rw [hid, hreads, if_pos rfl, UInt16.ofNat_add, ← UInt16.add_assoc]
      rfl

/--
The cycle that starts in `s` and ends with the request number `n`, or with none.
-/
structure CycleIds (n : Nat) (flavour : Flavour) (s : Session S TS D SE TE) : Prop where
  unread : reads flavour s = false →
    Trace.tcpFrames (during (next flavour) s) = [] ∧ (advance flavour s).transactionId = s.transactionId
  sent : reads flavour s = true → ∃ request,
    Trace.tcpFrames (during (next flavour) s) = [request] ∧ (idField request).toNat = n % 65536
  echoed : ∀ t, outcome (next flavour s) = .ok (.transaction t) → ∃ request,
    Trace.tcpFrames (during (next flavour) s) = [request]
      ∧ (Trace.tcpRx (during (next flavour) s)).length
          = 6 + lengthField (Trace.tcpRx (during (next flavour) s))
      ∧ idField (Trace.tcpRx (during (next flavour) s)) = idField request

theorem next_cycleIds (flavour : Flavour) (s : Session S TS D SE TE)
    (hid : s.transactionId = UInt16.ofNat n)
    : CycleIds (n + (if reads flavour s then 1 else 0)) flavour s := by
  have hids := next_ids flavour s
  constructor
  . intro hunread
    cases hids with
    | inl h => exact ⟨h.2.2.flatMap_during, h.2.1⟩
    | inr h =>
      rw [hunread] at h
      exact absurd h.1 (by decide)
  . intro hread
    cases hids with
    | inl h =>
      rw [hread] at h
      exact absurd h.1 (by decide)
    | inr h =>
      obtain ⟨_, _, body, hsent⟩ := h
      refine ⟨_, hsent.flatMap_during, ?_⟩
      rw [idField_tcpFrame, hid, hread, if_pos rfl]
      show (UInt16.ofNat n + UInt16.ofNat 1).toNat = _
      rw [← UInt16.ofNat_add, UInt16.toNat_ofNat']
  . intro t ht
    have hnext := Exec.eq_ok_of_outcome ht
    obtain ⟨hread, pid, rbody, hmax, hreads⟩ := next_echo hnext
    have hrx : Trace.tcpRx (during (next flavour) s) = _ := hreads.flatMap_during
    cases hids with
    | inl h =>
      rw [hread] at h
      exact absurd h.1 (by decide)
    | inr h =>
      obtain ⟨_, _, body, hsent⟩ := h
      refine ⟨_, hsent.flatMap_during, ?_, ?_⟩
      . rw [hrx, length_tcpFrame, lengthField_tcpFrame (by omega)]
      . rw [hrx, idField_tcpFrame, idField_tcpFrame]

/--
The ids of a session that starts in `s`. A response with the id of an earlier request is late if fewer
than 65535 requests have been read after that one and before the one of the cycle that it arrives in.
-/
structure SessionIds (s : Session S TS D SE TE) : Prop where
  cycle : ∀ before flavour,
    CycleIds (requestsRead (before ++ [flavour]) s) flavour (afterCalls advance before s)
  late : ∀ before flavour between flavour' request t,
    request ∈ Trace.tcpFrames (during (next flavour) (afterCalls advance before s)) →
    requestsRead between (afterCalls advance (before ++ [flavour]) s) < 65535 →
    idField (Trace.tcpRx (during (next flavour') (afterCalls advance (before ++ [flavour] ++ between) s)))
      = idField request →
    outcome (next flavour' (afterCalls advance (before ++ [flavour] ++ between) s))
      ≠ .ok (.transaction t)

theorem cycleIds_after (hstart : s.transactionId = 0) (before : List Flavour) (flavour : Flavour)
    : CycleIds (requestsRead (before ++ [flavour]) s) flavour (afterCalls advance before s) := by
  rw [requestsRead_append, requestsRead_single]
  apply next_cycleIds
  rw [transactionId_afterCalls, hstart, UInt16.zero_add]

theorem sessionIds_of_start (hstart : s.transactionId = 0) : SessionIds s := by
  constructor
  . intro before flavour
    apply cycleIds_after hstart
  . intro before flavour between flavour' request t hrequest hbetween hid htransaction
    have hfirst := cycleIds_after hstart before flavour
    have hlast := cycleIds_after hstart (before ++ [flavour] ++ between) flavour'
    obtain ⟨request', hsent', _, hid'⟩ := hlast.echoed t htransaction
    have hread : reads flavour (afterCalls advance before s) = true := by
      cases hreads : reads flavour (afterCalls advance before s) with
      | true => rfl
      | false =>
        rw [(hfirst.unread hreads).1] at hrequest
        contradiction
    have hread' : reads flavour' (afterCalls advance (before ++ [flavour] ++ between) s) = true := by
      cases hreads : reads flavour' (afterCalls advance (before ++ [flavour] ++ between) s) with
      | true => rfl
      | false =>
        rw [(hlast.unread hreads).1] at hsent'
        contradiction
    obtain ⟨_, hsent, hn⟩ := hfirst.sent hread
    obtain ⟨_, hsent'', hn'⟩ := hlast.sent hread'
    rw [hsent, List.mem_singleton] at hrequest
    rw [hsent', List.singleton_inj] at hsent''
    rw [← hrequest] at hn
    rw [← hsent'', ← hid', hid, hn] at hn'
    -- The numbers of the two requests differ by less than 65536.
    rw [requestsRead_append (before ++ [flavour] ++ between), requestsRead_append (before ++ [flavour])]
      at hn'
    rw [requestsRead_single, hread', if_pos rfl] at hn'
    omega

end Run

end ClientSession

section Client

variable [Device S SE] [Device TS TE] [ReadReady S SE] [ReadReady TS TE] [DelayNs D]

theorem client_ids (c : Bridge S D) (stream : TS)
    : ClientSession.SessionIds (c.accept stream : Session S TS D SE TE) :=
  ClientSession.sessionIds_of_start rfl

variable [Lossless S] [Lossless TS]

theorem ClientSession.afterCalls_exchanges (hflavour : Flavour.Untimed flavour)
    (done xs rest : List ClientExchange) (s : Session S TS D SE TE) (hs : At (clientView done (xs ++ rest)) s)
    : At (clientView (done ++ xs) rest) (afterCalls advance (List.replicate xs.length flavour) s)
        ∧ requestsRead (List.replicate xs.length flavour) s = xs.length := by
  induction xs generalizing done s with
  | nil =>
    rw [List.append_nil]
    exact ⟨hs, rfl⟩
  | cons x xs ih =>
    obtain ⟨s₁, hnext, hs₁⟩ := (ClientSession.next_exchange hflavour done x (xs ++ rest)).eq_ok hs
    have hadvance : advance flavour s = s₁ := by
      unfold advance
      rw [hnext, finalState_ok]
    obtain ⟨hat, hcount⟩ := ih (done ++ [x]) s₁ hs₁
    rw [List.append_assoc, List.singleton_append] at hat
    rw [List.length_cons, List.replicate_succ]
    constructor
    . rw [afterCalls_cons, hadvance]
      apply hat
    . rw [← List.singleton_append, requestsRead_append, requestsRead_single, (next_echo hnext).1]
      rw [afterCalls_cons, afterCalls_nil, hadvance, hcount, if_pos rfl, Nat.add_comm]

def readResponse : List UInt8 := [0x11, 0x03, 0x02, 0xAA, 0xBB]

theorem readRequest_layout : RequestLayout readRequest := .fixed 0x11 (by decide) 0x00 0x00 0x00 0x0A

theorem readResponse_pos : 1 ≤ readResponse.length := by decide

theorem readResponse_max : readResponse.length ≤ 255 := by decide

def polled : ClientExchange where
  query := ⟨readRequest, readRequest_layout⟩
  protocolId := 0
  body := readResponse
  pos := readResponse_pos
  max := readResponse_max

def polledSession (n : Nat) : Session MockStream MockStream MockDelay Empty Empty :=
  mockSession ((List.replicate n polled).flatMap fun x => x.query.frame)
    (numberedFrames ClientExchange.response 1 (List.replicate n polled))

theorem polledSession_at (n : Nat) : At (clientView [] (List.replicate n polled)) (polledSession n) :=
  ⟨rfl, rfl, rfl, rfl, rfl, Nat.zero_le 10, rfl, rfl⟩

theorem polled_run (n : Nat)
    : ClientSession.reads .sync (polledSession (n + 2)) = true
        ∧ ClientSession.requestsRead (List.replicate n .sync)
            (afterCalls ClientSession.advance [.sync] (polledSession (n + 2))) = n
        ∧ outcome (ClientSession.next .sync
            (afterCalls ClientSession.advance ([.sync] ++ List.replicate n .sync) (polledSession (n + 2))))
          = .ok (.transaction (.ofBytes polled.query.frame)) := by
  have hstart := polledSession_at (n + 2)
  rw [List.replicate_succ, List.replicate_succ'] at hstart
  obtain ⟨s₁, hfirst, hat₁⟩ := (ClientSession.next_exchange .sync [] polled _).eq_ok hstart
  obtain ⟨hat, hcount⟩ := ClientSession.afterCalls_exchanges .sync _ _ [polled] s₁ hat₁
  obtain ⟨s', hlast, _⟩ := (ClientSession.next_exchange .sync _ polled []).eq_ok hat
  have hadvance : afterCalls ClientSession.advance [.sync] (polledSession (n + 2)) = s₁ := by
    show finalState (ClientSession.next .sync (polledSession (n + 2))) = s₁
    rw [hfirst, finalState_ok]
  rw [List.length_replicate] at hcount hlast
  rw [afterCalls_append, hadvance]
  refine ⟨(ClientSession.next_echo hfirst).1, hcount, ?_⟩
  rw [hlast, outcome_ok]

/--
After 65535 requests in between, the ids of two requests are the same.
-/
theorem client_ids_wrap
    : ∃ request, request ∈ Trace.tcpFrames (during (ClientSession.next .sync) (polledSession 65537))
        ∧ ClientSession.requestsRead (List.replicate 65535 .sync)
            (afterCalls ClientSession.advance [.sync] (polledSession 65537)) < 65536
        ∧ idField (Trace.tcpRx (during (ClientSession.next .sync)
            (afterCalls ClientSession.advance ([.sync] ++ List.replicate 65535 .sync) (polledSession 65537))))
          = idField request
        ∧ outcome (ClientSession.next .sync
            (afterCalls ClientSession.advance ([.sync] ++ List.replicate 65535 .sync) (polledSession 65537)))
          = .ok (.transaction (.ofBytes polled.query.frame)) := by
  obtain ⟨hread, hcount, hlast⟩ := polled_run 65535
  obtain ⟨request, hsent, hn⟩ :=
    (ClientSession.cycleIds_after (s := polledSession 65537) rfl [] .sync).sent hread
  have hcycle := ClientSession.cycleIds_after (s := polledSession 65537) rfl
    ([.sync] ++ List.replicate 65535 .sync) .sync
  obtain ⟨request', hsent', _, hid'⟩ := hcycle.echoed _ hlast
  have hread' := (ClientSession.next_echo (Exec.eq_ok_of_outcome hlast)).1
  obtain ⟨_, hsent'', hn'⟩ := hcycle.sent hread'
  rw [hsent', List.singleton_inj] at hsent''
  refine ⟨request, ?_, by rw [hcount]; decide, ?_, hlast⟩
  . show request ∈ Trace.tcpFrames (during (ClientSession.next .sync)
      (afterCalls ClientSession.advance [] (polledSession 65537)))
    rw [hsent]
    apply List.mem_singleton_self
  -- The two numbers are 1 and 65537.
  . rw [hid']
    apply UInt16.toNat_inj.mp
    rw [hn, hsent'', hn']
    rw [ClientSession.requestsRead_append, ClientSession.requestsRead_append, hcount]
    rw [List.nil_append, ClientSession.requestsRead_single, ClientSession.requestsRead_single, hread, hread']
    rfl

end Client

end ModbusBridge
