import ModbusBridge.Lemmas.ClientSession
import ModbusBridge.Lemmas.Connection

/-!
This module contains the events of a call of `next`, phase by phase, whichever way it ends. What has been sent of
a frame when a call is cut short is the start of that frame.
-/

namespace ModbusBridge

open Effect EmbeddedIo Session
open Exec (Within)

variable {S TS D SE TE : Type}

def OnlyKinds (kinds : List Event.Kind) (t : List (Event SE TE)) : Prop := ∀ e ∈ t, e.kind ∈ kinds

namespace Trace

variable (t u : List (Event SE TE))

@[simp]
theorem serialRx_append : serialRx (t ++ u) = serialRx t ++ serialRx u := List.flatMap_append

@[simp]
theorem serialTx_append : serialTx (t ++ u) = serialTx t ++ serialTx u := List.flatMap_append

@[simp]
theorem tcpRx_append : tcpRx (t ++ u) = tcpRx t ++ tcpRx u := List.flatMap_append

@[simp]
theorem tcpTx_append : tcpTx (t ++ u) = tcpTx t ++ tcpTx u := List.flatMap_append

end Trace

section Kinds

variable {kinds : List Event.Kind} {t p : List (Event SE TE)}

theorem OnlyKinds.serialRx (h : OnlyKinds kinds t) (hk : .serialRead ∉ kinds) : Trace.serialRx t = [] :=
  Event.onlyOf_serialRx.flatMap_eq_nil h hk

theorem OnlyKinds.serialTx (h : OnlyKinds kinds t) (hk : .serialWrite ∉ kinds) : Trace.serialTx t = [] :=
  Event.onlyOf_serialTx.flatMap_eq_nil h hk

theorem OnlyKinds.tcpRx (h : OnlyKinds kinds t) (hk : .tcpRead ∉ kinds) : Trace.tcpRx t = [] :=
  Event.onlyOf_tcpRx.flatMap_eq_nil h hk

theorem OnlyKinds.tcpTx (h : OnlyKinds kinds t) (hk : .tcpWrite ∉ kinds) : Trace.tcpTx t = [] :=
  Event.onlyOf_tcpTx.flatMap_eq_nil h hk

end Kinds

/--
The events `t` deliver a whole TCP frame, and do nothing else but wait for it.
-/
structure TcpReceived (tid pid : UInt16) (body : List UInt8) (t : List (Event SE TE)) : Prop where
  kinds : OnlyKinds tcpReceiveKinds t
  tcpRx : Trace.tcpRx t = tcpFrame tid pid body
  pos : 1 ≤ body.length
  max : body.length ≤ 255

namespace ModbusRtu

variable [Device S SE]

theorem sendAndReceive_writes_start (req : List UInt8) (s : Session S TS D SE TE)
    : ∃ sent, Yields Event.serialTx sent s (finalState (sendAndReceive req s)) ∧ sent <+: req := by
  obtain ⟨sent, hsent, hprefix⟩ := send_writes_start req s
  refine ⟨sent, ?_, hprefix⟩
  unfold sendAndReceive
  cases hs : send req s with
  | error e s₁ =>
    rw [hs] at hsent
    rw [Exec.bind_error (Exec.mapErr_error hs)]
    apply hsent
  | ok _ s₁ =>
    rw [hs] at hsent
    rw [Exec.bind_ok (Exec.mapErr_ok hs)]
    have hreads := (receive_onSerial (List.mem_singleton_self _) s₁).emits
    apply hsent.append_quiet
    apply Yields.of_emits Event.onlyOf_serialTx hreads
    decide

end ModbusRtu

namespace Connection

section Exchange

variable [Device S SE] [ReadReady S SE] [DelayNs D]

theorem exchange_writes_start (rtuReq : List UInt8) (flavour : Flavour) (s : Session S TS D SE TE)
    : ∃ sent, Yields Event.serialTx sent s
          (finalState (exchange rtuReq flavour s : EStateM.Result (Stop (BridgeError SE TE)) _ _))
        ∧ sent <+: rtuReq := by
  have hwaited {s₁} (h : OnSerial [.serialReady, .delayMs] s s₁) : Yields Event.serialTx [] s s₁ := by
    apply Yields.of_emits Event.onlyOf_serialTx h.emits
    decide
  have hrun : GuardedRun _ _ _ _ _ _ s (exchange rtuReq flavour s : EStateM.Result (Stop (BridgeError SE TE)) _ _) :=
    exchange_run rtuReq flavour s
  generalize (exchange rtuReq flavour s : EStateM.Result (Stop (BridgeError SE TE)) _ _) = r at hrun
  cases hrun with
  | notReady h _ => exact ⟨[], hwaited h, List.nil_prefix⟩
  | @returned s₁ _ _ h hfut _ | @failed s₁ _ _ h hfut _ | @dropped s₁ _ _ h hfut _ _ =>
    obtain ⟨sent, hsent, hprefix⟩ := ModbusRtu.sendAndReceive_writes_start rtuReq s₁
    rw [hfut] at hsent
    exact ⟨sent, (hwaited h).quiet_append hsent, hprefix⟩

end Exchange

structure Exchanged (body rbody : List UInt8) (t : List (Event SE TE)) : Prop where
  kinds : OnlyKinds exchangeKinds t
  serialTx : Trace.serialTx t = rtuFrame body
  serialRx : Trace.serialRx t = rtuFrame rbody
  length : rbody.length + 2 = responseLength (rtuFrame rbody)

inductive CallEvents : Except (Stop (BridgeError SE TE)) BridgeEvent → List (Event SE TE) → Prop where
  | requestFailed (e : Stop (BridgeError SE TE)) (hreq : OnlyKinds tcpReceiveKinds t₁) : CallEvents (.error e) t₁
  | exchangeFailed (e : Stop (BridgeError SE TE)) (hreq : TcpReceived tid pid body t₁)
      (hexchange : OnlyKinds exchangeKinds t₂) (hsent : Trace.serialTx t₂ <+: rtuFrame body)
      : CallEvents (.error e) (t₁ ++ t₂)
  | replyFailed (e : Stop (BridgeError SE TE)) (hreq : TcpReceived tid pid body t₁)
      (hexchange : Exchanged body rbody t₂) (hreply : OnlyKinds ModbusTcp.sendKinds t₃)
      (hsent : Trace.tcpTx t₃ <+: tcpFrame tid 0 rbody) : CallEvents (.error e) (t₁ ++ t₂ ++ t₃)
  | replied (hreq : TcpReceived tid pid body t₁) (hexchange : Exchanged body rbody t₂)
      (hreply : OnlyKinds ModbusTcp.sendKinds t₃) (hsent : Trace.tcpTx t₃ = tcpFrame tid 0 rbody)
      : CallEvents (.ok (.transaction (.ofRequest (parseTcpRequest (tcpFrame tid pid body))))) (t₁ ++ t₂ ++ t₃)

/--
What a call that returns an event has transferred on the two lines.
-/
structure Relayed (tid pid : UInt16) (body rbody : List UInt8) (event : BridgeEvent) (t : List (Event SE TE))
    : Prop where
  tcpRx : Trace.tcpRx t = tcpFrame tid pid body
  serialTx : Trace.serialTx t = rtuFrame body
  serialRx : Trace.serialRx t = rtuFrame rbody
  tcpTx : Trace.tcpTx t = tcpFrame tid 0 rbody
  event_eq : event = .transaction (.ofRequest (parseTcpRequest (tcpFrame tid pid body)))
  pos : 1 ≤ body.length
  max : body.length ≤ 255
  length : rbody.length + 2 = responseLength (rtuFrame rbody)

theorem CallEvents.relayed {t : List (Event SE TE)} (h : CallEvents (.ok event) t)
    : ∃ tid pid body rbody, Relayed tid pid body rbody event t := by
  cases h with
  | @replied tid pid body t₁ rbody t₂ t₃ hreq hexchange hreply hsent =>
    have h₁ := hreq.kinds
    have h₂ := hexchange.kinds
    refine ⟨tid, pid, body, rbody, ?_, ?_, ?_, ?_, rfl, hreq.pos, hreq.max, hexchange.length⟩
    . rw [Trace.tcpRx_append, Trace.tcpRx_append, hreq.tcpRx, h₂.tcpRx (by decide), hreply.tcpRx (by decide)]
      simp
    . rw [Trace.serialTx_append, Trace.serialTx_append, hexchange.serialTx, h₁.serialTx (by decide),
        hreply.serialTx (by decide)]
      simp
    . rw [Trace.serialRx_append, Trace.serialRx_append, hexchange.serialRx, h₁.serialRx (by decide),
        hreply.serialRx (by decide)]
      simp
    . rw [Trace.tcpTx_append, Trace.tcpTx_append, hsent, h₁.tcpTx (by decide), h₂.tcpTx (by decide)]
      simp

variable [Device S SE] [Device TS TE] [ReadReady S SE] [ReadReady TS TE] [DelayNs D]

omit [Device S SE] [ReadReady S SE] in
theorem receiveRequest_events {s s₁ : Session S TS D SE TE} (h : receiveRequest flavour s = .ok f s₁)
    (hdata : f.data = tcpFrame tid pid body) (hpos : 1 ≤ body.length) (hmax : body.length ≤ 255)
    : ∃ t, s₁.trace = s.trace ++ t ∧ TcpReceived tid pid body t := by
  obtain ⟨t, htrace, hkinds⟩ := ((receiveRequest_onTcp flavour).of_ok h).emits
  have hreads := (receiveRequest_ok h).1.flatMap_of_trace htrace
  rw [hdata] at hreads
  exact ⟨t, htrace, hkinds, hreads, hpos, hmax⟩

omit [Device TS TE] [ReadReady TS TE] in
theorem exchange_events {s s₁ : Session S TS D SE TE} (h : exchange (rtuFrame body) flavour s = .ok r s₁)
    (hresp : r.data = rtuFrame rbody) (hlen : rbody.length + 2 = responseLength (rtuFrame rbody))
    : ∃ t, s₁.trace = s.trace ++ t ∧ Exchanged body rbody t := by
  obtain ⟨t, htrace, hkinds⟩ := ((exchange_onSerial _ flavour).of_ok h).emits
  obtain ⟨_, hwrites, hreads, _⟩ := exchange_ok h
  rw [hresp] at hreads
  exact ⟨t, htrace, hkinds, hwrites.flatMap_of_trace htrace, hreads.flatMap_of_trace htrace, hlen⟩

theorem next_events (flavour : Flavour) (s : Session S TS D SE TE)
    : CallEvents (outcome (next flavour s)) (during (next flavour) s) := by
  suffices h : ∃ t, (finalState (next flavour s)).trace = s.trace ++ t ∧ CallEvents (outcome (next flavour s)) t by
    obtain ⟨t, htrace, ht⟩ := h
    rw [during_eq htrace]
    apply ht
  have hrun := next_run flavour s
  generalize next flavour s = r at hrun
  cases hrun with
  | requestFailed hreq =>
    obtain ⟨t₁, htrace₁, hkinds⟩ := ((receiveRequest_onTcp flavour).of_error hreq).emits
    exact ⟨t₁, htrace₁, .requestFailed _ hkinds⟩
  | rejected hreq hdata =>
    obtain ⟨t₁, htrace₁, hkinds⟩ := ((receiveRequest_onTcp flavour).of_ok hreq).emits
    exact ⟨t₁, htrace₁, .requestFailed _ hkinds⟩
  | @exchangeFailed _ s₁ _ _ body _ _ hreq hdata hpos hmax hexchange =>
    obtain ⟨t₁, htrace₁, hreq⟩ := receiveRequest_events hreq hdata hpos hmax
    obtain ⟨t₂, htrace₂, hkinds⟩ := ((exchange_onSerial _ flavour).of_error hexchange).emits
    obtain ⟨sent, hsent, hprefix⟩ := exchange_writes_start (rtuFrame body) flavour s₁
    rw [hexchange] at hsent
    refine ⟨t₁ ++ t₂, ?_, .exchangeFailed _ hreq hkinds ?_⟩
    . rw [finalState_error, htrace₂, htrace₁, List.append_assoc]
    . rwa [← hsent.flatMap_of_trace htrace₂] at hprefix
  | @replyFailed _ _ tid _ _ _ s₂ rbody _ _ hreq hdata hpos hmax hexchange hresp hlen hsend =>
    obtain ⟨t₁, htrace₁, hreq⟩ := receiveRequest_events hreq hdata hpos hmax
    obtain ⟨t₂, htrace₂, hexchange⟩ := exchange_events hexchange hresp hlen
    obtain ⟨t₃, htrace₃, hkinds⟩ := ((ModbusTcp.send_onTcp _).of_error hsend).emits
    obtain ⟨sent, hsent, hprefix⟩ := ModbusTcp.send_writes_start (tcpFrame tid 0 rbody) s₂
    rw [hsend] at hsent
    refine ⟨t₁ ++ t₂ ++ t₃, ?_, .replyFailed _ hreq hexchange hkinds ?_⟩
    . simp only [finalState_error, htrace₃, htrace₂, htrace₁, List.append_assoc]
    . rwa [← hsent.flatMap_of_trace htrace₃] at hprefix
  | replied hreq hdata hpos hmax hexchange hresp hlen hsend =>
    obtain ⟨t₁, htrace₁, hreq⟩ := receiveRequest_events hreq hdata hpos hmax
    obtain ⟨t₂, htrace₂, hexchange⟩ := exchange_events hexchange hresp hlen
    obtain ⟨t₃, htrace₃, hkinds⟩ := ((ModbusTcp.send_onTcp _).of_ok hsend).emits
    have hsent := (ModbusTcp.send_writes hsend).flatMap_of_trace htrace₃
    refine ⟨t₁ ++ t₂ ++ t₃, ?_, ?_⟩
    . simp only [finalState_ok, htrace₃, htrace₂, htrace₁, List.append_assoc]
    . rw [hdata]
      exact .replied hreq hexchange hkinds hsent

end Connection

namespace ClientSession

structure Requested (body : List UInt8) (t : List (Event SE TE)) : Prop where
  kinds : OnlyKinds requestKinds t
  serialRx : Trace.serialRx t = rtuFrame body
  length : body.length + 2 = requestLength (rtuFrame body)
  max : body.length ≤ 253

structure TcpAsked (tid : UInt16) (body : List UInt8) (t : List (Event SE TE)) : Prop where
  kinds : OnlyKinds ModbusTcp.sendKinds t
  tcpTx : Trace.tcpTx t = tcpFrame tid 0 body

/--
The events of a call that sends its request under the id `tid`, if it sends one.
-/
inductive CallEvents (tid : UInt16) : Except (Stop (BridgeError SE TE)) BridgeEvent → List (Event SE TE) → Prop where
  | requestFailed (e : Stop (BridgeError SE TE)) (hreq : OnlyKinds requestKinds t₁) : CallEvents tid (.error e) t₁
  | sendFailed (e : Stop (BridgeError SE TE)) (hreq : Requested body t₁)
      (hask : OnlyKinds ModbusTcp.sendKinds t₂) (hsent : Trace.tcpTx t₂ <+: tcpFrame tid 0 body)
      : CallEvents tid (.error e) (t₁ ++ t₂)
  | responseFailed (e : Stop (BridgeError SE TE)) (hreq : Requested body t₁) (hask : TcpAsked tid body t₂)
      (hresp : OnlyKinds tcpReceiveKinds t₃) : CallEvents tid (.error e) (t₁ ++ t₂ ++ t₃)
  | replyFailed (e : Stop (BridgeError SE TE)) (hreq : Requested body t₁) (hask : TcpAsked tid body t₂)
      (hresp : TcpReceived rtid pid rbody t₃) (hreply : OnlyKinds ModbusRtu.sendKinds t₄)
      (hsent : Trace.serialTx t₄ <+: rtuFrame rbody) : CallEvents tid (.error e) (t₁ ++ t₂ ++ t₃ ++ t₄)
  | replied (hreq : Requested body t₁) (hask : TcpAsked tid body t₂) (hresp : TcpReceived rtid pid rbody t₃)
      (hreply : OnlyKinds ModbusRtu.sendKinds t₄) (hsent : Trace.serialTx t₄ = rtuFrame rbody)
      : CallEvents tid (.ok (report (rtuFrame body) tid rtid)) (t₁ ++ t₂ ++ t₃ ++ t₄)

structure Relayed (tid rtid pid : UInt16) (body rbody : List UInt8) (event : BridgeEvent)
    (t : List (Event SE TE)) : Prop where
  serialRx : Trace.serialRx t = rtuFrame body
  tcpTx : Trace.tcpTx t = tcpFrame tid 0 body
  tcpRx : Trace.tcpRx t = tcpFrame rtid pid rbody
  serialTx : Trace.serialTx t = rtuFrame rbody
  event_eq : event = report (rtuFrame body) tid rtid
  length : body.length + 2 = requestLength (rtuFrame body)
  max : body.length ≤ 253
  pos_response : 1 ≤ rbody.length
  max_response : rbody.length ≤ 255

theorem CallEvents.relayed {t : List (Event SE TE)} (h : CallEvents tid (.ok event) t)
    : ∃ rtid pid body rbody, Relayed tid rtid pid body rbody event t := by
  cases h with
  | @replied body t₁ t₂ rtid pid rbody t₃ t₄ hreq hask hresp hreply hsent =>
    have h₁ := hreq.kinds
    have h₂ := hask.kinds
    have h₃ := hresp.kinds
    refine ⟨rtid, pid, body, rbody, ?_, ?_, ?_, ?_, rfl, hreq.length, hreq.max, hresp.pos, hresp.max⟩
    . rw [Trace.serialRx_append, Trace.serialRx_append, Trace.serialRx_append, hreq.serialRx,
        h₂.serialRx (by decide), h₃.serialRx (by decide), hreply.serialRx (by decide)]
      simp
    . rw [Trace.tcpTx_append, Trace.tcpTx_append, Trace.tcpTx_append, hask.tcpTx, h₁.tcpTx (by decide),
        h₃.tcpTx (by decide), hreply.tcpTx (by decide)]
      simp
    . rw [Trace.tcpRx_append, Trace.tcpRx_append, Trace.tcpRx_append, hresp.tcpRx, h₁.tcpRx (by decide),
        h₂.tcpRx (by decide), hreply.tcpRx (by decide)]
      simp
    . rw [Trace.serialTx_append, Trace.serialTx_append, Trace.serialTx_append, hsent, h₁.serialTx (by decide),
        h₂.serialTx (by decide), h₃.serialTx (by decide)]
      simp

variable [Device S SE] [Device TS TE] [ReadReady S SE] [ReadReady TS TE] [DelayNs D]

omit [Device TS TE] [ReadReady TS TE] in
theorem receiveRequest_events {s s₁ : Session S TS D SE TE} (h : receiveRequest flavour s = .ok f s₁)
    (hdata : f.data = rtuFrame body) (hlen : body.length + 2 = requestLength (rtuFrame body))
    (hmax : body.length ≤ 253)
    : ∃ t, s₁.trace = s.trace ++ t ∧ s₁.transactionId = s.transactionId ∧ Requested body t := by
  have hid := ((receiveRequest_onSerial flavour).of_ok h).transactionId_eq
  obtain ⟨t, htrace, hkinds⟩ := ((receiveRequest_onSerial flavour).of_ok h).emits
  have hreads := (receiveRequest_ok h).1.flatMap_of_trace htrace
  rw [hdata] at hreads
  exact ⟨t, htrace, hid, hkinds, hreads, hlen, hmax⟩

omit [Device S SE] [ReadReady S SE] [ReadReady TS TE] [DelayNs D] in
theorem send_events {s s₁ : Session S TS D SE TE}
    (h : ModbusTcp.send (tcpFrame tid 0 body) (numbered s) = .ok () s₁)
    : ∃ t, s₁.trace = s.trace ++ t ∧ TcpAsked tid body t := by
  obtain ⟨t, htrace, hkinds⟩ := ((ModbusTcp.send_onTcp _).of_ok h).emits
  exact ⟨t, htrace, hkinds, (ModbusTcp.send_writes h).flatMap_of_trace htrace⟩

omit [Device S SE] [ReadReady S SE] in
theorem receiveResponse_events {s s₁ : Session S TS D SE TE} (h : receiveResponse flavour s = .ok f s₁)
    (hdata : f.data = tcpFrame tid pid body) (hpos : 1 ≤ body.length) (hmax : body.length ≤ 255)
    : ∃ t, s₁.trace = s.trace ++ t ∧ TcpReceived tid pid body t := by
  obtain ⟨t, htrace, hkinds⟩ := ((receiveResponse_onTcp flavour).of_ok h).emits
  have hreads := (receiveResponse_ok h).1.flatMap_of_trace htrace
  rw [hdata] at hreads
  exact ⟨t, htrace, hkinds, hreads, hpos, hmax⟩

theorem next_events (flavour : Flavour) (s : Session S TS D SE TE)
    : CallEvents (s.transactionId + 1) (outcome (next flavour s)) (during (next flavour) s) := by
  suffices h : ∃ t, (finalState (next flavour s)).trace = s.trace ++ t
      ∧ CallEvents (s.transactionId + 1) (outcome (next flavour s)) t by
    obtain ⟨t, htrace, ht⟩ := h
    rw [during_eq htrace]
    apply ht
  have hrun := next_run flavour s
  generalize next flavour s = r at hrun
  cases hrun with
  | requestFailed hreq =>
    obtain ⟨t₁, htrace₁, hkinds⟩ := ((receiveRequest_onSerial flavour).of_error hreq).emits
    exact ⟨t₁, htrace₁, .requestFailed _ hkinds⟩
  | @sendFailed _ s₁ body _ _ hreq hdata hlen hmax hsend =>
    obtain ⟨t₁, htrace₁, hid, hreq⟩ := receiveRequest_events hreq hdata hlen hmax
    obtain ⟨t₂, htrace₂, hkinds⟩ := ((ModbusTcp.send_onTcp _).of_error hsend).emits
    obtain ⟨sent, hsent, hprefix⟩ :=
      ModbusTcp.send_writes_start (tcpFrame (s₁.transactionId + 1) 0 body) (numbered s₁)
    rw [hsend] at hsent
    rw [hid] at hprefix
    refine ⟨t₁ ++ t₂, ?_, .sendFailed _ hreq hkinds ?_⟩
    . rw [finalState_error, htrace₂, ← List.append_assoc, ← htrace₁]
      rfl
    . rwa [← hsent.flatMap_of_trace htrace₂] at hprefix
  | responseFailed hreq hdata hlen hmax hsend hresp =>
    obtain ⟨t₁, htrace₁, hid, hreq⟩ := receiveRequest_events hreq hdata hlen hmax
    obtain ⟨t₂, htrace₂, hask⟩ := send_events hsend
    rw [hid] at hask
    obtain ⟨t₃, htrace₃, hkinds⟩ := ((receiveResponse_onTcp flavour).of_error hresp).emits
    refine ⟨t₁ ++ t₂ ++ t₃, ?_, .responseFailed _ hreq hask hkinds⟩
    simp only [finalState_error, htrace₃, htrace₂, htrace₁, List.append_assoc]
  | rejected hreq hdata hlen hmax hsend hresp _ =>
    obtain ⟨t₁, htrace₁, hid, hreq⟩ := receiveRequest_events hreq hdata hlen hmax
    obtain ⟨t₂, htrace₂, hask⟩ := send_events hsend
    rw [hid] at hask
    obtain ⟨t₃, htrace₃, hkinds⟩ := ((receiveResponse_onTcp flavour).of_ok hresp).emits
    refine ⟨t₁ ++ t₂ ++ t₃, ?_, .responseFailed _ hreq hask hkinds⟩
    simp only [finalState_error, htrace₃, htrace₂, htrace₁, List.append_assoc]
  | @replyFailed _ _ _ _ _ s₃ _ _ rbody _ _ hreq hdata hlen hmax hsend hresp hrdata hpos hrmax hreply =>
    obtain ⟨t₁, htrace₁, hid, hreq⟩ := receiveRequest_events hreq hdata hlen hmax
    obtain ⟨t₂, htrace₂, hask⟩ := send_events hsend
    rw [hid] at hask
    obtain ⟨t₃, htrace₃, hresp⟩ := receiveResponse_events hresp hrdata hpos hrmax
    obtain ⟨t₄, htrace₄, hkinds⟩ := ((ModbusRtu.send_onSerial (List.Subset.refl _) _).of_error hreply).emits
    obtain ⟨sent, hsent, hprefix⟩ := ModbusRtu.send_writes_start (rtuFrame rbody) s₃
    rw [hreply] at hsent
    refine ⟨t₁ ++ t₂ ++ t₃ ++ t₄, ?_, .replyFailed _ hreq hask hresp hkinds ?_⟩
    . simp only [finalState_error, htrace₄, htrace₃, htrace₂, htrace₁, List.append_assoc]
    . rwa [← hsent.flatMap_of_trace htrace₄] at hprefix
  | replied hreq hdata hlen hmax hsend hresp hrdata hpos hrmax hreply =>
    obtain ⟨t₁, htrace₁, hid, hreq⟩ := receiveRequest_events hreq hdata hlen hmax
    obtain ⟨t₂, htrace₂, hask⟩ := send_events hsend
    rw [hid] at hask
    obtain ⟨t₃, htrace₃, hresp⟩ := receiveResponse_events hresp hrdata hpos hrmax
    obtain ⟨t₄, htrace₄, hkinds⟩ := ((ModbusRtu.send_onSerial (List.Subset.refl _) _).of_ok hreply).emits
    have hsent := (ModbusRtu.send_writes hreply).flatMap_of_trace htrace₄
    rw [hid]
    refine ⟨t₁ ++ t₂ ++ t₃ ++ t₄, ?_, .replied hreq hask hresp hkinds hsent⟩
    simp only [finalState_ok, htrace₄, htrace₃, htrace₂, htrace₁, List.append_assoc]

end ClientSession

end ModbusBridge
