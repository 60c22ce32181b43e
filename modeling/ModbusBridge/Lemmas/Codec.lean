import ModbusBridge.Dataflow.History
import ModbusBridge.Framing.Frames
import ModbusBridge.Lemmas.CallEvents
import ModbusBridge.Lemmas.Cut

/-!
This module contains the gateway as a codec: what is written on the one side is at every moment the translation of
what has been read on the other side, whichever way the calls of `next` go.
-/

namespace ModbusBridge

open Dataflow Effect EmbeddedIo Session Framing

variable {SE TE : Type}

/--
The RTU frames that the TCP frames at the start of the stream are translated to. It ends with the first frame that
is not complete or that there is no room for.
-/
def unwrapped (tcp : List UInt8) : List UInt8 :=
  (tcpLayout.frames tcpBuf tcp).flatMap fun frame => rtuFrame (frame.drop 6)

section Unwrapped

variable {tid pid : UInt16} {body : List UInt8}

@[simp]
theorem unwrapped_nil : unwrapped [] = [] := by
  unfold unwrapped
  rw [Layout.frames_nil (by decide), List.flatMap_nil]

theorem unwrapped_mono (h : tcp <+: tcp') : unwrapped tcp <+: unwrapped tcp' := by
  unfold unwrapped
  obtain ⟨more, hmore⟩ := Layout.frames_mono h
  rw [← hmore, List.flatMap_append]
  apply List.prefix_append

theorem whole_tcpFrame (tid pid : UInt16) (h : body.length < 65536) : tcpLayout.Whole (tcpFrame tid pid body) := by
  show (tcpFrame tid pid body).length = 6 + lengthField (tcpFrame tid pid body)
  rw [length_tcpFrame, lengthField_tcpFrame h]

theorem unwrapped_tcpFrame (hmax : body.length ≤ 255) (rest : List UInt8)
    : unwrapped (tcpFrame tid pid body ++ rest) = rtuFrame body ++ unwrapped rest := by
  have hbuf : tcpBuf = 261 := rfl
  have hlen := length_tcpFrame tid pid body
  have hne : tcpFrame tid pid body ≠ [] := List.ne_nil_of_length_pos (by omega)
  unfold unwrapped
  rw [Layout.frames_cons (whole_tcpFrame tid pid (by omega)) (by omega) hne, List.flatMap_cons, drop_tcpFrame]

/--
A frame with more than 255 bytes is not translated, and nothing that comes after it.
-/
theorem unwrapped_tcpFrame_le (hmax : body.length < 65536) (rest : List UInt8)
    : unwrapped (tcpFrame tid pid body ++ rest) <+: rtuFrame body ++ unwrapped rest := by
  by_cases hroom : body.length ≤ 255
  . rw [unwrapped_tcpFrame hroom]
  . have hbuf : tcpBuf = 261 := rfl
    have hneed := (whole_tcpFrame tid pid hmax).need_eq (List.prefix_append _ rest)
    rw [length_tcpFrame] at hneed
    have hnone : ∀ frame, (tcpLayout.cut tcpBuf (tcpFrame tid pid body ++ rest)).1 ≠ .whole frame := by
      intro frame h
      obtain ⟨hwhole, hlen, hstart⟩ := Layout.cut_eq_whole.mp h
      rw [hwhole.need_eq hstart] at hneed
      omega
    unfold unwrapped
    rw [Layout.frames_eq_nil hnone, List.flatMap_nil]
    apply List.nil_prefix

theorem unwrapped_one (tid pid : UInt16) (hmax : body.length ≤ 255)
    : unwrapped (tcpFrame tid pid body) = rtuFrame body := by
  have h : unwrapped (tcpFrame tid pid body ++ []) = _ := unwrapped_tcpFrame hmax []
  rwa [List.append_nil, unwrapped_nil, List.append_nil] at h

theorem unwrapped_start (h : tcp <+: tcpFrame tid pid body) (hmax : body.length < 65536)
    : unwrapped tcp <+: rtuFrame body := by
  have hle : unwrapped (tcpFrame tid pid body ++ []) <+: _ := unwrapped_tcpFrame_le hmax []
  rw [List.append_nil, unwrapped_nil, List.append_nil] at hle
  apply (unwrapped_mono h).trans hle

end Unwrapped

/--
Nothing has been written that is not the translation of something that has been read.
-/
structure InStep (t : List (Event SE TE)) : Prop where
  down : Trace.serialTx t <+: unwrapped (Trace.tcpRx t)
  up : unwrapped (Trace.tcpTx t) <+: Trace.serialRx t

namespace InStep

variable {kinds : List Event.Kind} {u t : List (Event SE TE)}

theorem nil : InStep ([] : List (Event SE TE)) := by
  constructor
  . apply List.nil_prefix
  . simp [Trace.tcpTx]

theorem follows (h : InStep t)
    : Follows id unwrapped Event.serialTx Event.tcpRx t ∧ Follows unwrapped id Event.tcpTx Event.serialRx t :=
  ⟨h.down, h.up⟩

theorem during (hdown : During (Follows id unwrapped Event.serialTx Event.tcpRx) u t)
    (hup : During (Follows unwrapped id Event.tcpTx Event.serialRx) u t) : During InStep u t := by
  intro p hp
  exact ⟨hdown p hp, hup p hp⟩

theorem during_reads (h : InStep u) (hkinds : OnlyKinds kinds t) (hserial : .serialWrite ∉ kinds)
    (htcp : .tcpWrite ∉ kinds) : During InStep u t := by
  apply InStep.during
  . apply h.follows.1.during_input (fun _ _ => unwrapped_mono) (hkinds.serialTx hserial)
  . apply h.follows.2.during_input (fun _ _ => id) (hkinds.tcpTx htcp)

/--
While a serial frame is written, what counts is that it is the translation of what has been read from TCP.
-/
theorem during_serialTx (h : InStep u) (hstart : Trace.serialTx u = [])
    (hsent : Trace.serialTx t <+: unwrapped (Trace.tcpRx u)) (hkinds : OnlyKinds kinds t) (hrx : .tcpRead ∉ kinds)
    (htx : .tcpWrite ∉ kinds) : During InStep u t := by
  apply InStep.during
  . apply Follows.during_output (fun _ _ => id) (hkinds.tcpRx hrx)
    show Trace.serialTx (u ++ t) <+: unwrapped (Trace.tcpRx u)
    rwa [Trace.serialTx_append, hstart, List.nil_append]
  . apply h.follows.2.during_input (fun _ _ => id) (hkinds.tcpTx htx)

theorem during_tcpTx (h : InStep u) (hstart : Trace.tcpTx u = [])
    (hsent : unwrapped (Trace.tcpTx t) <+: Trace.serialRx u) (hkinds : OnlyKinds kinds t) (hrx : .serialRead ∉ kinds)
    (htx : .serialWrite ∉ kinds) : During InStep u t := by
  apply InStep.during
  . apply h.follows.1.during_input (fun _ _ => unwrapped_mono) (hkinds.serialTx htx)
  . apply Follows.during_output (fun _ _ => unwrapped_mono) (hkinds.serialRx hrx)
    show unwrapped (Trace.tcpTx (u ++ t)) <+: Trace.serialRx u
    rwa [Trace.tcpTx_append, hstart, List.nil_append]

end InStep

theorem TcpReceived.always {t : List (Event SE TE)} (h : TcpReceived tid pid body t) : Always InStep t := by
  apply InStep.nil.during_reads h.kinds (by decide) (by decide)

namespace Connection

variable {t t₁ t₂ t₃ : List (Event SE TE)}

theorem always_forwarded (hreq : TcpReceived tid pid body t₁) (hexchange : OnlyKinds exchangeKinds t₂)
    (hsent : Trace.serialTx t₂ <+: rtuFrame body) : Always InStep (t₁ ++ t₂) := by
  apply hreq.always.append
  apply hreq.always.last.during_serialTx _ _ hexchange (by decide) (by decide)
  . apply hreq.kinds.serialTx (by decide)
  . show _ <+: unwrapped (Trace.tcpRx t₁)
    rwa [hreq.tcpRx, unwrapped_one tid pid hreq.max]

theorem always_answered (hreq : TcpReceived tid pid body t₁) (hexchange : Exchanged body rbody t₂)
    (hreply : OnlyKinds ModbusTcp.sendKinds t₃) (hsent : Trace.tcpTx t₃ <+: tcpFrame tid 0 rbody)
    : Always InStep (t₁ ++ t₂ ++ t₃) := by
  have hforwarded := always_forwarded hreq hexchange.kinds (by rw [hexchange.serialTx])
  have hbounds := responseLength_bounds (rtuFrame rbody)
  have hlen := hexchange.length
  apply hforwarded.append
  apply hforwarded.last.during_tcpTx _ _ hreply (by decide) (by decide)
  . show Trace.tcpTx (t₁ ++ t₂) = []
    rw [Trace.tcpTx_append, hreq.kinds.tcpTx (by decide), hexchange.kinds.tcpTx (by decide), List.append_nil]
  . show _ <+: Trace.serialRx (t₁ ++ t₂)
    rw [Trace.serialRx_append, hreq.kinds.serialRx (by decide), hexchange.serialRx, List.nil_append]
    apply unwrapped_start hsent (by omega)

theorem CallEvents.always (h : CallEvents r t) : Always InStep t := by
  cases h with
  | requestFailed e hreq => apply InStep.nil.during_reads hreq (by decide) (by decide)
  | exchangeFailed e hreq hexchange hsent => apply always_forwarded hreq hexchange hsent
  | replyFailed e hreq hexchange hreply hsent => apply always_answered hreq hexchange hreply hsent
  | replied hreq hexchange hreply hsent =>
    apply always_answered hreq hexchange hreply
    rw [hsent]

end Connection

namespace ClientSession

variable {t t₁ t₂ t₃ t₄ : List (Event SE TE)}

theorem always_requested (hreq : OnlyKinds requestKinds t₁) : Always InStep t₁ := by
  apply InStep.nil.during_reads hreq (by decide) (by decide)

theorem always_asked (hreq : Requested body t₁) (hask : OnlyKinds ModbusTcp.sendKinds t₂)
    (hsent : Trace.tcpTx t₂ <+: tcpFrame tid 0 body) : Always InStep (t₁ ++ t₂) := by
  have hmax := hreq.max
  apply (always_requested hreq.kinds).append
  apply (always_requested hreq.kinds).last.during_tcpTx _ _ hask (by decide) (by decide)
  . apply hreq.kinds.tcpTx (by decide)
  . show _ <+: Trace.serialRx t₁
    rw [hreq.serialRx]
    apply unwrapped_start hsent (by omega)

theorem always_responded (hreq : Requested body t₁) (hask : TcpAsked tid body t₂)
    (hresp : OnlyKinds tcpReceiveKinds t₃) : Always InStep (t₁ ++ t₂ ++ t₃) := by
  have hasked := always_asked hreq hask.kinds (by rw [hask.tcpTx])
  apply hasked.append
  apply hasked.last.during_reads hresp (by decide) (by decide)

theorem always_replied (hreq : Requested body t₁) (hask : TcpAsked tid body t₂)
    (hresp : TcpReceived rtid pid rbody t₃) (hreply : OnlyKinds ModbusRtu.sendKinds t₄)
    (hsent : Trace.serialTx t₄ <+: rtuFrame rbody) : Always InStep (t₁ ++ t₂ ++ t₃ ++ t₄) := by
  have hresponded := always_responded hreq hask hresp.kinds
  apply hresponded.append
  apply hresponded.last.during_serialTx _ _ hreply (by decide) (by decide)
  . show Trace.serialTx (t₁ ++ t₂ ++ t₃) = []
    rw [Trace.serialTx_append, Trace.serialTx_append, hreq.kinds.serialTx (by decide),
      hask.kinds.serialTx (by decide), hresp.kinds.serialTx (by decide)]
    rfl
  . show _ <+: unwrapped (Trace.tcpRx (t₁ ++ t₂ ++ t₃))
    rw [Trace.tcpRx_append, Trace.tcpRx_append, hreq.kinds.tcpRx (by decide), hask.kinds.tcpRx (by decide),
      hresp.tcpRx, List.nil_append, List.nil_append, unwrapped_one rtid pid hresp.max]
    apply hsent

theorem CallEvents.always (h : CallEvents tid r t) : Always InStep t := by
  cases h with
  | requestFailed e hreq => apply always_requested hreq
  | sendFailed e hreq hask hsent => apply always_asked hreq hask hsent
  | responseFailed e hreq hask hresp => apply always_responded hreq hask hresp
  | replyFailed e hreq hask hresp hreply hsent => apply always_replied hreq hask hresp hreply hsent
  | replied hreq hask hresp hreply hsent =>
    apply always_replied hreq hask hresp hreply
    rw [hsent]

end ClientSession

/--
All that has been read has also been written, so that whatever comes next is translated as from the start.
-/
structure Aligned (t : List (Event SE TE)) : Prop where
  down (next : List UInt8) : unwrapped (Trace.tcpRx t ++ next) = Trace.serialTx t ++ unwrapped next
  up (next : List UInt8) : unwrapped (Trace.tcpTx t ++ next) <+: Trace.serialRx t ++ unwrapped next

namespace Aligned

variable {t u : List (Event SE TE)}

theorem nil : Aligned ([] : List (Event SE TE)) := by
  constructor
  . intro next
    rfl
  . intro next
    apply List.prefix_refl

theorem append (ht : Aligned t) (hu : Aligned u) : Aligned (t ++ u) := by
  constructor
  . intro next
    rw [Trace.tcpRx_append, Trace.serialTx_append, List.append_assoc, ht.down, hu.down, List.append_assoc]
  . intro next
    rw [Trace.tcpTx_append, Trace.serialRx_append, List.append_assoc, List.append_assoc]
    apply (ht.up _).trans
    apply (List.prefix_append_right_inj _).mpr
    apply hu.up

theorem settled (h : Aligned t)
    : Settled id unwrapped Event.serialTx Event.tcpRx t ∧ Settled unwrapped id Event.tcpTx Event.serialRx t := by
  constructor
  . intro x y hxy
    show Trace.serialTx t ++ x <+: unwrapped (Trace.tcpRx t ++ y)
    rw [h.down]
    apply (List.prefix_append_right_inj _).mpr hxy
  . intro x y hxy
    apply (h.up x).trans
    apply (List.prefix_append_right_inj _).mpr hxy

theorem during (hu : Aligned u) (ht : Always InStep t) : During InStep u t := by
  apply InStep.during
  . apply hu.settled.1.during
    apply ht.imp (fun _ h => h.down)
  . apply hu.settled.2.during
    apply ht.imp (fun _ h => h.up)

end Aligned

theorem Connection.Relayed.aligned {t : List (Event SE TE)} (h : Relayed tid pid body rbody event t) : Aligned t := by
  have hbounds := responseLength_bounds (rtuFrame rbody)
  have hlen := h.length
  constructor
  . intro next
    rw [h.tcpRx, h.serialTx, unwrapped_tcpFrame h.max]
  . intro next
    rw [h.tcpTx, h.serialRx]
    apply unwrapped_tcpFrame_le (by omega)

theorem ClientSession.Relayed.aligned {t : List (Event SE TE)} (h : Relayed tid rtid pid body rbody event t)
    : Aligned t := by
  have hmax := h.max
  constructor
  . intro next
    rw [h.tcpRx, h.serialTx, unwrapped_tcpFrame h.max_response]
  . intro next
    rw [h.tcpTx, h.serialRx]
    apply unwrapped_tcpFrame_le (by omega)

end ModbusBridge
