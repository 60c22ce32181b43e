import ModbusBridge.Lemmas.Run
import ModbusBridge.Spec.Machine

/-!
This module contains the two modes as transducers: all that they write to the TCP stream, headers and ids included,
is at every moment of a run the start of a function of what they have read.
-/

namespace ModbusBridge

open Dataflow Effect EmbeddedIo Session Framing

variable {SE TE : Type}

/--
The replies of a bridge: the responses on the serial line, each of them under the id of the request that it is paired
with.
-/
def replies (tcp rtu : List UInt8) : List UInt8 :=
  (List.zipWith (fun request response => tcpFrame (idField request) 0 (withoutCrc response))
    (tcpLayout.frames tcpBuf tcp) (responseLayout.frames 512 rtu)).flatten

def numberedFrom : UInt16 → List (List UInt8) → List UInt8
  | _, [] => []
  | tid, request :: requests => tcpFrame tid 0 (withoutCrc request) ++ numberedFrom (tid + 1) requests

/--
The requests of a client: the requests on the serial line, under the ids from `tid` on.
-/
def requests (tid : UInt16) (rtu : List UInt8) : List UInt8 :=
  numberedFrom tid (requestLayout.frames rtuBuf rtu)

section Streams

theorem replies_append {body rbody : List UInt8} (tid pid : UInt16) (hmax : body.length ≤ 255)
    (hlen : rbody.length + 2 = responseLength (rtuFrame rbody)) (tcp rtu : List UInt8)
    : replies (tcpFrame tid pid body ++ tcp) (rtuFrame rbody ++ rtu)
        = tcpFrame tid 0 rbody ++ replies tcp rtu := by
  have hbuf : tcpBuf = 261 := rfl
  have hbounds := responseLength_bounds (rtuFrame rbody)
  have hlentcp := length_tcpFrame tid pid body
  have hlenrtu := length_rtuFrame rbody
  have hwhole : responseLayout.Whole (rtuFrame rbody) := hlenrtu.trans hlen
  have hne : tcpFrame tid pid body ≠ [] := List.ne_nil_of_length_pos (by omega)
  have hne' : rtuFrame rbody ≠ [] := List.ne_nil_of_length_pos (by omega)
  unfold replies
  rw [Layout.frames_cons (whole_tcpFrame tid pid (by omega)) (by omega) hne,
    Layout.frames_cons hwhole (by omega) hne']
  rw [List.zipWith_cons_cons, List.flatten_cons, idField_tcpFrame, withoutCrc, take_rtuFrame]

theorem replies_nil : replies [] [] = [] := by
  unfold replies
  rw [Layout.frames_nil (by decide)]
  rfl

theorem numberedFrom_append (tid : UInt16) (frames more : List (List UInt8))
    : numberedFrom tid frames <+: numberedFrom tid (frames ++ more) := by
  induction frames generalizing tid with
  | nil => apply List.nil_prefix
  | cons frame frames ih =>
    rw [numberedFrom, List.cons_append, numberedFrom, List.prefix_append_right_inj]
    apply ih

theorem requests_mono (tid : UInt16) (h : rtu <+: rtu') : requests tid rtu <+: requests tid rtu' := by
  have hframes : requestLayout.frames rtuBuf rtu <+: requestLayout.frames rtuBuf rtu' := Layout.frames_mono h
  obtain ⟨more, hmore⟩ := hframes
  unfold requests
  rw [← hmore]
  apply numberedFrom_append

theorem requests_append {body : List UInt8} (tid : UInt16) (hlen : body.length + 2 = requestLength (rtuFrame body))
    (hmax : body.length ≤ 253) (rtu : List UInt8)
    : requests tid (rtuFrame body ++ rtu) = tcpFrame tid 0 body ++ requests (tid + 1) rtu := by
  have hbuf : rtuBuf = 255 := rfl
  have hlenrtu := length_rtuFrame body
  have hwhole : requestLayout.Whole (rtuFrame body) := hlenrtu.trans hlen
  have hne : rtuFrame body ≠ [] := List.ne_nil_of_length_pos (by omega)
  unfold requests
  rw [Layout.frames_cons hwhole (by omega) hne, numberedFrom, withoutCrc, take_rtuFrame]

theorem requests_nil (tid : UInt16) : requests tid [] = [] := by
  unfold requests
  rw [Layout.frames_nil (by decide)]
  rfl

end Streams

section Bridge

def Paired (t : List (Event SE TE)) : Prop := Trace.tcpTx t <+: replies (Trace.tcpRx t) (Trace.serialRx t)

namespace Connection

variable {t t₁ t₂ t₃ u : List (Event SE TE)}

theorem paired_silent (h : Trace.tcpTx t = []) : Always Paired t := by
  intro p hp
  show Trace.tcpTx p <+: _
  rw [show Trace.tcpTx p = [] from flatMap_eq_nil_at h hp]
  apply List.nil_prefix

theorem paired_answered (hreq : TcpReceived tid pid body t₁) (hexchange : Exchanged body rbody t₂)
    (hsent : Trace.tcpTx t₃ <+: tcpFrame tid 0 rbody) : Always Paired (t₁ ++ t₂ ++ t₃) := by
  have hquiet : Trace.tcpTx (t₁ ++ t₂) = [] := by
    rw [Trace.tcpTx_append, hreq.kinds.tcpTx (by decide), hexchange.kinds.tcpTx (by decide), List.append_nil]
  apply (paired_silent hquiet).append
  intro p hp
  have hstart := replies_append tid pid hreq.max hexchange.length (Trace.tcpRx p) (Trace.serialRx p)
  show Trace.tcpTx (t₁ ++ t₂ ++ p) <+: replies (Trace.tcpRx (t₁ ++ t₂ ++ p)) (Trace.serialRx (t₁ ++ t₂ ++ p))
  rw [Trace.tcpTx_append, hquiet, Trace.tcpRx_append, Trace.tcpRx_append, hreq.tcpRx,
    hexchange.kinds.tcpRx (by decide), Trace.serialRx_append, Trace.serialRx_append, hexchange.serialRx,
    hreq.kinds.serialRx (by decide), List.nil_append, List.nil_append, List.append_nil, hstart]
  apply (hp.flatMap Event.tcpTx).trans
  apply hsent.trans
  apply List.prefix_append

theorem CallEvents.paired (h : CallEvents r t) : Always Paired t := by
  cases h with
  | requestFailed e hreq => apply paired_silent (hreq.tcpTx (by decide))
  | exchangeFailed e hreq hexchange hsent =>
    apply paired_silent
    rw [Trace.tcpTx_append, hreq.kinds.tcpTx (by decide), hexchange.tcpTx (by decide), List.append_nil]
  | replyFailed e hreq hexchange hreply hsent => apply paired_answered hreq hexchange hsent
  | replied hreq hexchange hreply hsent =>
    apply paired_answered hreq hexchange
    rw [hsent]

/--
A call that has replied leaves the pairing of requests and responses as it was.
-/
theorem Relayed.replies_append {event : BridgeEvent} (h : Relayed tid pid body rbody event t)
    (u : List (Event SE TE))
    : ModbusBridge.replies (Trace.tcpRx (t ++ u)) (Trace.serialRx (t ++ u))
        = Trace.tcpTx t ++ ModbusBridge.replies (Trace.tcpRx u) (Trace.serialRx u) := by
  rw [Trace.tcpRx_append, Trace.serialRx_append, h.tcpRx, h.serialRx, h.tcpTx]
  apply ModbusBridge.replies_append tid pid h.max h.length

theorem Relayed.paired_during {event : BridgeEvent} (h : Relayed tid pid body rbody event t) (hu : Always Paired u)
    : During Paired t u := by
  intro p hp
  show Trace.tcpTx (t ++ p) <+: _
  rw [Trace.tcpTx_append, h.replies_append, List.prefix_append_right_inj]
  apply hu p hp

/--
All requests have been replied to, so that whatever comes next is paired as from the start.
-/
def AllReplied (t : List (Event SE TE)) : Prop :=
  ∀ u : List (Event SE TE), ModbusBridge.replies (Trace.tcpRx (t ++ u)) (Trace.serialRx (t ++ u))
    = Trace.tcpTx t ++ ModbusBridge.replies (Trace.tcpRx u) (Trace.serialRx u)

theorem AllReplied.append (ht : AllReplied t) (hu : AllReplied u) : AllReplied (t ++ u) := by
  intro v
  rw [List.append_assoc, ht, hu, Trace.tcpTx_append, List.append_assoc]

theorem AllReplied.tcpTx (h : AllReplied t)
    : Trace.tcpTx t = ModbusBridge.replies (Trace.tcpRx t) (Trace.serialRx t) := by
  have hend := h []
  rw [List.append_nil, show Trace.tcpRx ([] : List (Event SE TE)) = [] from rfl,
    show Trace.serialRx ([] : List (Event SE TE)) = [] from rfl, replies_nil, List.append_nil] at hend
  exact hend.symm

end Connection

variable {S TS D : Type} [Device S SE] [Device TS TE] [ReadReady S SE] [ReadReady TS TE] [DelayNs D]

/--
Whatever the devices and the timers do: at every moment of a run of a bridge, what it has written to the TCP stream is
the start of its replies to the requests that it has read. When all calls have returned an event, it has written all
of them.
-/
theorem replies_in_order (flavours : List Flavour) (s : Session S TS D SE TE)
    : Always Paired (during (Mode.bridge.run flavours) s)
        ∧ ∀ events, outcome (Mode.bridge.run flavours s) = .ok events
          → Trace.tcpTx (during (Mode.bridge.run flavours) s)
            = replies (Trace.tcpRx (during (Mode.bridge.run flavours) s))
                (Trace.serialRx (during (Mode.bridge.run flavours) s)) := by
  constructor
  . induction flavours generalizing s with
    | nil =>
      rw [during_eq (t := []) (List.append_nil _).symm]
      apply Connection.paired_silent rfl
    | cons flavour flavours ih =>
      have hevents := Connection.next_events flavour s
      cases hnext : Mode.bridge.next flavour s with
      | error e s₁ =>
        rw [Mode.during_run_cons_error flavours hnext]
        apply hevents.paired
      | ok event s₁ =>
        have hcall := hevents.paired
        rw [show outcome (Connection.next flavour s) = _ from congrArg outcome hnext] at hevents
        obtain ⟨_, _, _, _, hrelayed⟩ := hevents.relayed
        rw [Mode.during_run_cons_ok flavours hnext]
        apply hcall.append
        apply hrelayed.paired_during (ih s₁)
  . intro events h
    have hpieces := Mode.bridge_pieces (Exec.eq_ok_of_outcome h)
    apply Connection.AllReplied.tcpTx
    apply hpieces.fold
    . rintro _ t ⟨_, _, _, _, hrelayed⟩
      apply hrelayed.replies_append
    . intro u
      rfl
    . intro t u
      apply Connection.AllReplied.append

end Bridge

section Client

def Numbered (tid : UInt16) (t : List (Event SE TE)) : Prop := Trace.tcpTx t <+: requests tid (Trace.serialRx t)

namespace ClientSession

variable {t t₁ t₂ u : List (Event SE TE)}

theorem numbered_quiet (h : Numbered tid t) (hquiet : Trace.tcpTx u = []) : During (Numbered tid) t u := by
  apply Follows.during_input (f := id) h (fun _ _ => requests_mono tid) hquiet

theorem numbered_silent (h : Trace.tcpTx t = []) : Always (Numbered tid) t := by
  apply numbered_quiet _ h
  rw [Numbered, show Trace.tcpTx ([] : List (Event SE TE)) = [] from rfl]
  apply List.nil_prefix

theorem numbered_request (hreq : Requested body t₁) (hask : OnlyKinds ModbusTcp.sendKinds t₂)
    (hsent : Trace.tcpTx t₂ <+: tcpFrame tid 0 body) : Always (Numbered tid) (t₁ ++ t₂) := by
  have hquiet := hreq.kinds.tcpTx (by decide)
  have hstart := requests_append tid hreq.length hreq.max []
  rw [List.append_nil, requests_nil, List.append_nil] at hstart
  apply (numbered_silent hquiet).append
  apply Follows.during_output (f := id) (fun _ _ => id) (hask.serialRx (by decide))
  show Trace.tcpTx (t₁ ++ t₂) <+: requests tid (Trace.serialRx t₁)
  rwa [Trace.tcpTx_append, hquiet, List.nil_append, hreq.serialRx, hstart]

theorem CallEvents.numbered (h : CallEvents tid r t) : Always (Numbered tid) t := by
  cases h with
  | requestFailed e hreq => apply numbered_silent (hreq.tcpTx (by decide))
  | sendFailed e hreq hask hsent => apply numbered_request hreq hask hsent
  | responseFailed e hreq hask hresp =>
    have hasked := numbered_request hreq hask.kinds (by rw [hask.tcpTx])
    apply hasked.append
    apply numbered_quiet hasked.last (hresp.tcpTx (by decide))
  | replyFailed e hreq hask hresp hreply hsent =>
    have hasked := numbered_request hreq hask.kinds (by rw [hask.tcpTx])
    rw [List.append_assoc]
    apply hasked.append
    apply numbered_quiet hasked.last
    rw [Trace.tcpTx_append, hresp.kinds.tcpTx (by decide), hreply.tcpTx (by decide), List.append_nil]
  | replied hreq hask hresp hreply hsent =>
    have hasked := numbered_request hreq hask.kinds (by rw [hask.tcpTx])
    rw [List.append_assoc]
    apply hasked.append
    apply numbered_quiet hasked.last
    rw [Trace.tcpTx_append, hresp.kinds.tcpTx (by decide), hreply.tcpTx (by decide), List.append_nil]

theorem Relayed.requests_append {event : BridgeEvent} (h : Relayed tid rtid pid body rbody event t)
    (u : List (Event SE TE))
    : requests tid (Trace.serialRx (t ++ u)) = Trace.tcpTx t ++ requests (tid + 1) (Trace.serialRx u) := by
  rw [Trace.serialRx_append, h.serialRx, h.tcpTx]
  apply ModbusBridge.requests_append tid h.length h.max

theorem Relayed.numbered_during {event : BridgeEvent} (h : Relayed tid rtid pid body rbody event t)
    (hu : Always (Numbered (tid + 1)) u) : During (Numbered tid) t u := by
  intro p hp
  show Trace.tcpTx (t ++ p) <+: requests tid (Trace.serialRx (t ++ p))
  rw [Trace.tcpTx_append, h.requests_append, List.prefix_append_right_inj]
  apply hu p hp

variable {S TS D : Type} [Device S SE] [Device TS TE] [ReadReady S SE] [ReadReady TS TE] [DelayNs D]

theorem next_ok_id {s s₁ : Session S TS D SE TE} (h : next flavour s = .ok event s₁)
    : s₁.transactionId = s.transactionId + 1 := by
  have hrun := next_run flavour s
  rw [h] at hrun
  cases hrun with
  | replied hreq _ _ _ hsend hresp _ _ _ hreply =>
    have hid := ((receiveRequest_onSerial flavour).of_ok hreq).transactionId_eq
    have hsent := ((ModbusTcp.send_onTcp _).of_ok hsend).transactionId_eq
    have hresponse := ((receiveResponse_onTcp flavour).of_ok hresp).transactionId_eq
    have hreplied := ((ModbusRtu.send_onSerial (List.Subset.refl _) _).of_ok hreply).transactionId_eq
    rw [hreplied, hresponse, hsent, ← hid]
    rfl

theorem run_numbered (flavours : List Flavour) (s : Session S TS D SE TE)
    : Always (Numbered (s.transactionId + 1)) (during (Mode.client.run flavours) s) := by
  induction flavours generalizing s with
  | nil =>
    rw [during_eq (t := []) (List.append_nil _).symm]
    apply numbered_silent rfl
  | cons flavour flavours ih =>
    have hevents := next_events flavour s
    have hcall := hevents.numbered
    cases hnext : Mode.client.next flavour s with
    | error e s₁ =>
      rw [Mode.during_run_cons_error flavours hnext]
      apply hcall
    | ok event s₁ =>
      have hrest := ih s₁
      rw [show outcome (next flavour s) = _ from congrArg outcome hnext] at hevents
      rw [next_ok_id hnext] at hrest
      obtain ⟨_, _, _, _, hrelayed⟩ := hevents.relayed
      rw [Mode.during_run_cons_ok flavours hnext]
      apply hcall.append
      apply hrelayed.numbered_during hrest

theorem run_numbered_all {flavours : List Flavour} {s s' : Session S TS D SE TE}
    (h : Mode.client.run flavours s = .ok events s')
    : Trace.tcpTx (during (Mode.client.run flavours) s)
        = requests (s.transactionId + 1) (Trace.serialRx (during (Mode.client.run flavours) s)) := by
  induction flavours generalizing s s' events with
  | nil =>
    rw [during_eq (t := []) (List.append_nil _).symm]
    exact (requests_nil _).symm
  | cons flavour flavours ih =>
    have hevents := next_events flavour s
    cases hnext : Mode.client.next flavour s with
    | error e s₁ =>
      rw [Mode.run_cons_error flavours hnext] at h
      contradiction
    | ok event s₁ =>
      rw [show outcome (next flavour s) = _ from congrArg outcome hnext] at hevents
      obtain ⟨_, _, _, _, hrelayed⟩ := hevents.relayed
      obtain ⟨houtcome, _⟩ := Mode.run_cons_ok flavours hnext
      rw [Mode.during_run_cons_ok flavours hnext, Trace.tcpTx_append]
      cases hrest : Mode.client.run flavours s₁ with
      | error e s₂ =>
        rw [h, hrest] at houtcome
        contradiction
      | ok events' s₂ =>
        have hasked := ih hrest
        rw [next_ok_id hnext] at hasked
        rw [hasked]
        exact (hrelayed.requests_append _).symm

/--
Whatever the devices and the timers do: at every moment of a run of a client, what it has written to the TCP stream is
the start of the requests that it has read, numbered from the next id on. When all calls have returned an event, it
has written all of them.
-/
theorem requests_in_order (flavours : List Flavour) (s : Session S TS D SE TE)
    : Always (Numbered (s.transactionId + 1)) (during (Mode.client.run flavours) s)
        ∧ ∀ events, outcome (Mode.client.run flavours s) = .ok events
          → Trace.tcpTx (during (Mode.client.run flavours) s)
            = requests (s.transactionId + 1) (Trace.serialRx (during (Mode.client.run flavours) s)) := by
  constructor
  . apply run_numbered
  . intro events h
    apply run_numbered_all (Exec.eq_ok_of_outcome h)

end ClientSession

end Client

end ModbusBridge
