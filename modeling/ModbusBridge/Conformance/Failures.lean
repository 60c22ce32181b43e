import ModbusBridge.Lemmas.ClientSession
import ModbusBridge.Lemmas.Connection
import ModbusBridge.Lemmas.Lossless
import ModbusBridge.Spec.Mock

/-!
This module contains what the error of a call says about the two lines: how far the call has got, and
what has certainly not been written.
-/

namespace ModbusBridge

open Effect EmbeddedIo Session

variable {S TS D SE TE : Type}

/--
What a call of the bridge can return once the request has been handed to the serial line.
-/
inductive Forwarded : Except (Stop (BridgeError SE TE)) BridgeEvent → Prop where
  | transaction (t : Transaction) : Forwarded (.ok (.transaction t))
  | rtuIo (e : SE) : Forwarded (.error (.failed (.rtuIo e)))
  | rtuCrcMismatch : Forwarded (.error (.failed .rtuCrcMismatch))
  | tcpIo (e : TE) : Forwarded (.error (.failed (.tcpIo e)))
  | timeout : Forwarded (.error (.failed .timeout))

/--
A call of the bridge with the outcome `r` and the events `t` keeps to the discipline of its errors. A call
whose future is dropped by its caller returns nothing.
-/
structure BridgeFailure (r : Except (Stop (BridgeError SE TE)) BridgeEvent) (t : List (Event SE TE)) : Prop where
  noReply : ∀ e, r = .error (.failed e) → (∀ te, e ≠ .tcpIo te) → Trace.tcpTx t = []
  noRequest : r = .error (.failed .tcpClosed) ∨ r = .error (.failed .bufferOverflow) →
    Trace.serialTx t = [] ∧ .txEn true ∉ t
  forwarded : Trace.rtuFrames t ≠ [] ∨ Trace.serialTx t ≠ [] → r ≠ .error .dropped → Forwarded r

theorem serial_quiet {t : List (Event SE TE)} {kinds : List Event.Kind}
    (h : ∀ e ∈ t, e.kind ∈ kinds) (hwrite : .serialWrite ∉ kinds) (hpin : .txEn ∉ kinds)
    : Trace.serialTx t = [] ∧ .txEn true ∉ t := by
  refine ⟨Event.onlyOf_serialTx.flatMap_eq_nil h hwrite, ?_⟩
  intro hraised
  exact hpin (h _ hraised)

section Bridge

variable {t : List (Event SE TE)}

theorem BridgeFailure.of_receive {r : Except (Stop (BridgeError SE TE)) BridgeEvent}
    (h : ∀ e ∈ t, e.kind ∈ tcpReceiveKinds) : BridgeFailure r t := by
  have hframes : Trace.rtuFrames t = [] := Event.onlyOf_rtuFrames.flatMap_eq_nil h (by decide)
  have hserial : Trace.serialTx t = [] := Event.onlyOf_serialTx.flatMap_eq_nil h (by decide)
  constructor
  . intro _ _ _
    apply Event.onlyOf_tcpTx.flatMap_eq_nil h
    decide
  . intro _
    apply serial_quiet h
    . decide
    . decide
  . rintro (hsent | hsent)
    . exact absurd hframes hsent
    . exact absurd hserial hsent

theorem BridgeFailure.of_exchange {e : Stop (BridgeError SE TE)} (hstop : Connection.ExchangeStop e)
    (h : ∀ e ∈ t, e.kind ∈ tcpReceiveKinds ++ Connection.exchangeKinds) : BridgeFailure (.error e) t := by
  constructor
  . intro _ _ _
    apply Event.onlyOf_tcpTx.flatMap_eq_nil h
    decide
  . rintro (he | he)
    all_goals
      injection he with he
      rw [he] at hstop
      cases hstop
  . intro _ hreturned
    cases e with
    | dropped => contradiction
    | failed e =>
      cases e with
      | rtuIo e => apply Forwarded.rtuIo
      | rtuCrcMismatch => apply Forwarded.rtuCrcMismatch
      | timeout => apply Forwarded.timeout
      | tcpClosed | rtuClosed | tcpIo | bufferOverflow => cases hstop

theorem BridgeFailure.of_reply (stop : Stop TE)
    : BridgeFailure (.error (stop.map .tcpIo : Stop (BridgeError SE TE))) t := by
  cases stop with
  | failed te =>
    rw [Stop.map_failed]
    constructor
    . intro e he hne
      injection he with he
      injection he with he
      exact absurd he.symm (hne te)
    . rintro (he | he)
      all_goals simp at he
    . intro _ _
      apply Forwarded.tcpIo
  | dropped =>
    rw [Stop.map_dropped]
    constructor
    . intro e he
      simp at he
    . rintro (he | he)
      all_goals simp at he
    . intro _ hreturned
      exact absurd rfl hreturned

variable [Device S SE] [Device TS TE] [ReadReady S SE] [ReadReady TS TE] [DelayNs D]

theorem bridge_failure (flavour : Flavour) (s : Session S TS D SE TE)
    : BridgeFailure (outcome (Connection.next flavour s)) (during (Connection.next flavour) s) := by
  obtain ⟨t, ht, _⟩ := Connection.next_yields Event.rtuFrames flavour s
  have hrun := Connection.next_run flavour s
  rw [during_eq ht]
  generalize Connection.next flavour s = r at hrun ht
  cases hrun with
  | requestFailed hreq =>
    apply BridgeFailure.of_receive
    apply ((Connection.receiveRequest_onTcp flavour).of_error hreq).emits.kind_mem ht
  | rejected hreq hdata =>
    apply BridgeFailure.of_receive
    apply ((Connection.receiveRequest_onTcp flavour).of_ok hreq).emits.kind_mem ht
  | exchangeFailed hreq hdata hpos hmax hexchange =>
    have h₁ := ((Connection.receiveRequest_onTcp flavour).of_ok hreq).emits
    have h₂ := ((Connection.exchange_onSerial _ flavour).of_error hexchange).emits
    apply BridgeFailure.of_exchange (Connection.exchange_error hexchange).1
    apply Emits.kind_mem _ ht
    apply (h₁.mono (List.subset_append_left _ _)).trans
    apply h₂.mono (List.subset_append_right _ _)
  | replyFailed hreq hdata hpos hmax hexchange hresp hlen hsend => apply BridgeFailure.of_reply
  | replied hreq hdata hpos hmax hexchange hresp hlen hsend =>
    constructor
    . intro e he
      contradiction
    . rintro (he | he)
      all_goals contradiction
    . intro _ _
      apply Forwarded.transaction

end Bridge

section Client

/--
A call of the client that leads from `s` to `s'` with the outcome `r` and the events `t` keeps to the
discipline of its errors.
-/
structure ClientFailure (r : Except (Stop (BridgeError SE TE)) BridgeEvent) (t : List (Event SE TE))
    (s s' : Session S TS D SE TE) : Prop where
  noReply : ∀ e, r = .error (.failed e) → (∀ se, e ≠ .rtuIo se) → Trace.serialTx t = [] ∧ .txEn true ∉ t
  noRequest : r = .error (.failed .rtuClosed) ∨ r = .error (.failed .rtuCrcMismatch) →
    Trace.tcpTx t = [] ∧ s'.transactionId = s.transactionId
  closed_iff : r = .error (.failed .rtuClosed) ↔ ∃ n, .serial (.read n (.ok [])) ∈ t
  crcMismatch_iff : r = .error (.failed .rtuCrcMismatch) ↔
    BrokenRequest (Trace.serialRx t) ∧ (Trace.serialRx t).length ≤ rtuBuf

variable {t : List (Event SE TE)}

theorem not_brokenRequest {body : List UInt8} (hmin : 2 ≤ body.length) : ¬ BrokenRequest (rtuFrame body) := by
  rintro ⟨_, hcrc⟩
  rw [checkCrc_rtuFrame hmin] at hcrc
  contradiction

variable [Device S SE] [ReadReady S SE] [DelayNs D] {s s₁ s' : Session S TS D SE TE}

theorem ClientFailure.of_request (hreq : ClientSession.receiveRequest flavour s = .error e s')
    (ht : s'.trace = s.trace ++ t) : ClientFailure (.error e) t s s' := by
  have hstep := (ClientSession.receiveRequest_onSerial flavour).of_error hreq
  have hkinds := hstep.emits.kind_mem ht
  have hcloses := ClientSession.receiveRequest_closes flavour s
  obtain ⟨bytes, hreads, hcrc⟩ := ClientSession.receiveRequest_error hreq
  rw [hreq] at hcloses
  constructor
  . intro _ _ _
    apply serial_quiet hkinds
    . decide
    . decide
  . intro _
    exact ⟨Event.onlyOf_tcpTx.flatMap_eq_nil hkinds (by decide), hstep.transactionId_eq⟩
  . rw [← Event.flatMap_serialEof_ne_nil, hcloses.flatMap_of_trace ht, outcome_error]
    unfold ClientSession.closes
    split
    . next he => simpa using he
    . next hne => simpa using hne
  . rw [show Trace.serialRx t = bytes from hreads.flatMap_of_trace ht, ← hcrc]
    simp

theorem ClientFailure.of_received {r : Except (Stop (BridgeError SE TE)) BridgeEvent}
    (hreq : ClientSession.receiveRequest flavour s = .ok rtuReq s₁) (hrest : Emits kinds s₁ s')
    (hread : .serialRead ∉ kinds) (ht : s'.trace = s.trace ++ t)
    (hreply : ∀ e, r = .error (.failed e) → (∀ se, e ≠ .rtuIo se) → Trace.serialTx t = [] ∧ .txEn true ∉ t)
    (hclosed : r ≠ .error (.failed .rtuClosed)) (hcrc : r ≠ .error (.failed .rtuCrcMismatch))
    : ClientFailure r t s s' := by
  have hcloses := ClientSession.receiveRequest_closes flavour s
  obtain ⟨hreads, _, body, hmin, hdata⟩ := ClientSession.receiveRequest_ok hreq
  rw [hreq] at hcloses
  rw [hdata] at hreads
  have heof := hcloses.append_quiet (Yields.of_emits Event.onlyOf_serialEof hrest hread)
  have hrx := hreads.append_quiet (Yields.of_emits Event.onlyOf_serialRx hrest hread)
  constructor
  . apply hreply
  . rintro (he | he)
    . exact absurd he hclosed
    . exact absurd he hcrc
  . rw [← Event.flatMap_serialEof_ne_nil, heof.flatMap_of_trace ht]
    simp [hclosed, ClientSession.closes]
  . rw [show Trace.serialRx t = rtuFrame body from hrx.flatMap_of_trace ht]
    simp [hcrc, not_brokenRequest hmin]

/--
What happens between the request and the reply leaves the serial line alone.
-/
def forwardKinds : List Event.Kind := ModbusTcp.sendKinds ++ tcpReceiveKinds

theorem ClientFailure.of_forward {r : Except (Stop (BridgeError SE TE)) BridgeEvent}
    (hreq : ClientSession.receiveRequest flavour s = .ok rtuReq s₁) (hforward : Emits forwardKinds s₁ s')
    (ht : s'.trace = s.trace ++ t) (hclosed : r ≠ .error (.failed .rtuClosed))
    (hcrc : r ≠ .error (.failed .rtuCrcMismatch)) : ClientFailure r t s s' := by
  have h₁ := ((ClientSession.receiveRequest_onSerial flavour).of_ok hreq).emits
  have hkinds : Emits (ClientSession.requestKinds ++ forwardKinds) s s' := by
    apply (h₁.mono (List.subset_append_left _ _)).trans
    apply hforward.mono (List.subset_append_right _ _)
  apply ClientFailure.of_received hreq hforward (by decide) ht _ hclosed hcrc
  intro _ _ _
  apply serial_quiet (hkinds.kind_mem ht)
  . decide
  . decide

variable [Device TS TE] [ReadReady TS TE]

namespace ClientSession

variable {s s₁ s₂ : Session S TS D SE TE}

omit [Device S SE] [ReadReady S SE] [ReadReady TS TE] [DelayNs D] in
theorem sent_emits (hsend : ModbusTcp.send data (numbered s) = r) : Emits forwardKinds s (finalState r) := by
  have h := (ModbusTcp.send_onTcp data (numbered s)).emits
  rw [hsend] at h
  apply h.mono (List.subset_append_left _ _)

omit [Device S SE] [ReadReady S SE] in
theorem received_emits (hresp : receiveResponse flavour s = r) : Emits forwardKinds s (finalState r) := by
  have h := (receiveResponse_onTcp flavour s).emits
  rw [hresp] at h
  apply h.mono (List.subset_append_right _ _)

omit [ReadReady S SE] in
theorem replied_emits (hsend : ModbusTcp.send data (numbered s) = .ok () s₁)
    (hresp : receiveResponse flavour s₁ = .ok f s₂) (hreply : ModbusRtu.send payload s₂ = r)
    : Emits (forwardKinds ++ ModbusRtu.sendKinds) s (finalState r) := by
  have h := (ModbusRtu.send_onSerial (List.Subset.refl _) payload s₂).emits
  rw [hreply] at h
  have hforward := (sent_emits hsend).trans (received_emits hresp)
  apply (hforward.mono (List.subset_append_left _ _)).trans
  apply h.mono (List.subset_append_right _ _)

end ClientSession

theorem client_failure (flavour : Flavour) (s : Session S TS D SE TE)
    : ClientFailure (outcome (ClientSession.next flavour s)) (during (ClientSession.next flavour) s) s
        (finalState (ClientSession.next flavour s)) := by
  obtain ⟨t, ht, _⟩ := ClientSession.next_yields Event.rtuFrames flavour s
  have hrun := ClientSession.next_run flavour s
  rw [during_eq ht]
  generalize ClientSession.next flavour s = r at hrun ht
  cases hrun with
  | requestFailed hreq => apply ClientFailure.of_request hreq ht
  | sendFailed hreq hdata hlen hmax hsend =>
    apply ClientFailure.of_forward hreq (ClientSession.sent_emits hsend) ht
    . simpa using Stop.map_ne_failed (by simp) _
    . simpa using Stop.map_ne_failed (by simp) _
  | responseFailed hreq hdata hlen hmax hsend hresp =>
    have hstop := ClientSession.receiveResponse_stop hresp
    have hforward := (ClientSession.sent_emits hsend).trans (ClientSession.received_emits hresp)
    apply ClientFailure.of_forward hreq hforward ht
    . intro he
      injection he with he
      rw [he] at hstop
      cases hstop
    . intro he
      injection he with he
      rw [he] at hstop
      cases hstop
  | rejected hreq hdata hlen hmax hsend hresp _ =>
    have hforward := (ClientSession.sent_emits hsend).trans (ClientSession.received_emits hresp)
    apply ClientFailure.of_forward hreq hforward ht
    . simp
    . simp
  | @replyFailed _ _ _ _ _ _ _ _ _ stop _ hreq hdata hlen hmax hsend hresp hrdata hpos hrmax hreply =>
    apply ClientFailure.of_received hreq (ClientSession.replied_emits hsend hresp hreply) (by decide) ht
    . intro e he hne
      cases stop with
      | failed se =>
        rw [outcome_error, Stop.map_failed] at he
        injection he with he
        injection he with he
        exact absurd he.symm (hne se)
      | dropped => simp at he
    . simpa using Stop.map_ne_failed (by simp) _
    . simpa using Stop.map_ne_failed (by simp) _
  | replied hreq hdata hlen hmax hsend hresp hrdata hpos hrmax hreply =>
    apply ClientFailure.of_received hreq (ClientSession.replied_emits hsend hresp hreply) (by decide) ht
    . intro e he
      simp at he
    . simp
    . simp

/--
A request to write with the largest byte count that Modbus knows room for: 256 bytes with the CRC.
-/
def longRequest : List UInt8 := 0x01 :: 0x0F :: 0x00 :: 0x00 :: 0x07 :: 0xB8 :: 0xF7 :: List.replicate 247 0x00

def brokenCrc (data : List UInt8) : List UInt8 := (crc data).map (· + 1)

theorem checkCrc_brokenCrc {data : List UInt8} (h : 2 ≤ data.length)
    : checkCrc (data ++ brokenCrc data) = .error .crc := by
  have hne : crc data ≠ brokenCrc data := by
    unfold brokenCrc crc
    intro h
    injection h with h
    simp at h
  rw [checkCrc_append (by simp [brokenCrc, length_crc]), if_neg (by omega), if_neg hne]

/--
There is no room for the last byte of such a request, so its CRC is never looked at.
-/
theorem client_failure_long
    : outcome (ClientSession.next .sync (mockSession (longRequest ++ brokenCrc longRequest) []))
          = .error (.failed .bufferOverflow)
        ∧ BrokenRequest (Trace.serialRx
            (during (ClientSession.next .sync) (mockSession (longRequest ++ brokenCrc longRequest) []))) := by
  have hlen : longRequest.length = 254 := by
    simp only [longRequest, List.length_cons, List.length_replicate]
  have hrequest : (longRequest ++ brokenCrc longRequest).length = rtuBuf + 1 := by
    rw [List.length_append, hlen]
    simp [brokenCrc, length_crc, rtuBuf]
  have hwanted : requestLength (longRequest ++ brokenCrc longRequest) = 256 := rfl
  have hat : At ⟨longRequest ++ brokenCrc longRequest ++ [], [], [], [], 0⟩
      (mockSession (longRequest ++ brokenCrc longRequest) []) := by
    rw [List.append_nil]
    exact ⟨rfl, rfl, rfl, rfl, rfl, Nat.zero_le 10, rfl, rfl⟩
  obtain ⟨s', hlisten, hat'⟩ := (ModbusRtu.listen_overflow hrequest (by rw [hwanted]; decide)).eq_error hat
  obtain ⟨_, seen, hreads, hrx⟩ :=
    (ModbusRtu.listen_within serialRead_conserves).of_error hlisten rfl
  have hseen : longRequest ++ brokenCrc longRequest = seen := by
    rw [show Lossless.rx s'.serial = [] from hat'.serialRx, List.append_nil] at hrx
    apply hrx
  have hnext : ClientSession.next .sync (mockSession (longRequest ++ brokenCrc longRequest) [])
      = .error (.failed .bufferOverflow) s' := Exec.bind_error (Exec.mapErr_error hlisten)
  constructor
  . rw [hnext, outcome_error]
  . obtain ⟨t, ht, hobs⟩ := hreads
    rw [during_eq (t := t) (by rw [hnext]; exact ht)]
    rw [show Trace.serialRx t = seen from hobs, ← hseen]
    exact ⟨hrequest, checkCrc_brokenCrc (by omega)⟩

end Client

end ModbusBridge
