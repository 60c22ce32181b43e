import ModbusBridge.Lemmas.Cut
import ModbusBridge.Spec.Mock

/-!
This module contains what the receiving functions accept: for every stream of bytes which result they have,
and what is left of the stream.
-/

namespace ModbusBridge

open Effect EmbeddedIo Session Framing

variable {S TS D SE TE : Type}

theorem checkCrc_ne_push (frame : List UInt8) : checkCrc frame ≠ .error .push := by
  unfold checkCrc
  split
  . exact nofun
  . dsimp only
    split
    . exact nofun
    . exact nofun

theorem checkCrc_ne_tooShort {frame : List UInt8} (h : 4 ≤ frame.length)
    : checkCrc frame ≠ .error .payloadTooShort := by
  obtain hcrc | hcrc := checkCrc_of_length h
  . rw [hcrc]
    exact nofun
  . rw [hcrc]
    exact nofun

theorem checkCrc_eq_ok_of_length {frame : List UInt8} (h : 4 ≤ frame.length)
    : checkCrc frame = .ok () ↔ ∃ body, frame = rtuFrame body := by
  rw [checkCrc_eq_ok]
  constructor
  . rintro ⟨body, _, hframe⟩
    exact ⟨body, hframe⟩
  . rintro ⟨body, rfl⟩
    rw [length_rtuFrame] at h
    exact ⟨body, by omega, rfl⟩

theorem checkCrc_eq_crc_of_length {frame : List UInt8} (h : 4 ≤ frame.length)
    : checkCrc frame = .error .crc ↔ ∀ body, frame ≠ rtuFrame body := by
  obtain hcrc | hcrc := checkCrc_of_length h
  . obtain ⟨body, hframe⟩ := (checkCrc_eq_ok_of_length h).mp hcrc
    rw [hcrc]
    constructor
    . exact nofun
    . intro hnone
      exact absurd hframe (hnone body)
  . rw [hcrc]
    simp only [true_iff]
    intro body hframe
    rw [(checkCrc_eq_ok_of_length h).mpr ⟨body, hframe⟩] at hcrc
    contradiction

section Requests

/--
The request is of the length that its function code and its byte count prescribe, and there is room for it.
-/
inductive RequestShape (frame : List UInt8) : Prop where
  | fixed (hcode : ¬ (frame.getD 1 0 = 0x0F ∨ frame.getD 1 0 = 0x10)) (hlen : frame.length = 8)
  | counted (hcode : frame.getD 1 0 = 0x0F ∨ frame.getD 1 0 = 0x10)
      (hcount : (frame.getD 6 0).toNat ≤ 246) (hlen : frame.length = 9 + (frame.getD 6 0).toNat)

def OversizedRequest (rtu : List UInt8) : Prop :=
  (rtu.getD 1 0 = 0x0F ∨ rtu.getD 1 0 = 0x10) ∧ 246 < (rtu.getD 6 0).toNat

/--
The result of reading a request from the stream `rx`, of which `rest` is left.
-/
structure ParsesRequest (rx rest : List UInt8) (result : Except (Stop (ModbusError SE Empty)) RtuFrame)
    : Prop where
  ok : ∀ f, result = .ok f ↔ f.data <+: rx ∧ RequestShape f.data ∧ ∃ body, f.data = rtuFrame body
  consumed : ∀ f, result = .ok f → rx = f.data ++ rest
  crc : result = .error (.failed .crc)
    ↔ ∃ frame, frame <+: rx ∧ RequestShape frame ∧ ∀ body, frame ≠ rtuFrame body
  push : result = .error (.failed .push) ↔ OversizedRequest rx ∧ 256 ≤ rx.length
  tooShort : result = .error (.failed .payloadTooShort)
    ↔ (∀ frame, frame <+: rx → ¬ RequestShape frame) ∧ ¬ (OversizedRequest rx ∧ 256 ≤ rx.length)

theorem requestShape_iff {frame : List UInt8}
    : RequestShape frame ↔ requestLayout.Whole frame ∧ frame.length ≤ rtuBuf := by
  show _ ↔ frame.length = requestLength frame ∧ frame.length ≤ 255
  unfold requestLength
  constructor
  . rintro (⟨hcode, hlen⟩ | ⟨hcode, hcount, hlen⟩)
    . rw [if_neg hcode]
      omega
    . rw [if_pos hcode]
      omega
  . rintro ⟨hlen, hroom⟩
    split at hlen
    . next hcode => exact .counted hcode (by omega) hlen
    . next hcode => exact .fixed hcode hlen

theorem oversizedRequest_iff {rtu : List UInt8} : OversizedRequest rtu ↔ rtuBuf < requestLength rtu := by
  show _ ↔ 255 < requestLength rtu
  unfold OversizedRequest requestLength
  split
  . next hcode => simp only [hcode, true_and]; omega
  . next hcode => simp only [hcode, false_and, false_iff]; omega

theorem RequestShape.length_ge {frame : List UInt8} (h : RequestShape frame) : 4 ≤ frame.length := by
  cases h with
  | fixed _ hlen => omega
  | counted _ _ hlen => omega

theorem whole_request_length_ge {frame : List UInt8} (h : requestLayout.Whole frame) : 4 ≤ frame.length := by
  have hlen : frame.length = requestLength frame := h
  have := requestLength_ge frame
  omega

theorem exists_requestShape_iff {rx : List UInt8}
    : (∃ frame, frame <+: rx ∧ RequestShape frame)
        ↔ requestLength rx ≤ rx.length ∧ requestLength rx ≤ rtuBuf := by
  have hwhole : (∃ frame, requestLayout.Whole frame ∧ frame.length ≤ rtuBuf ∧ frame <+: rx)
      ↔ requestLength rx ≤ rx.length ∧ requestLength rx ≤ rtuBuf := Layout.exists_whole_iff
  rw [← hwhole]
  apply exists_congr
  intro frame
  rw [requestShape_iff]
  exact ⟨fun h => ⟨h.2.1, h.2.2, h.1⟩, fun h => ⟨h.2.2, h.1, h.2.1⟩⟩

/--
The request parser accepts exactly its grammar, as long as the port does not give up.
-/
theorem listen_parses [Device S SE] [InOrder S] (s : Session S TS D SE TE) (hidle : s.deadline = none)
    (hport : ¬ GivesUp (outcome (ModbusRtu.listen s)))
    : ParsesRequest (serialIn s) (serialIn (finalState (ModbusRtu.listen s))) (outcome (ModbusRtu.listen s)) := by
  have hcuts := (ModbusRtu.listen_cuts_idle hidle hport).1
  have hbuf : rtuBuf = 255 := rfl
  constructor
  . intro f
    rw [hcuts.ok_iff, Layout.cut_eq_whole]
    constructor
    . rintro ⟨⟨hwhole, hroom, hstart⟩, hcrc⟩
      have hshape := requestShape_iff.mpr ⟨hwhole, hroom⟩
      exact ⟨hstart, hshape, (checkCrc_eq_ok_of_length hshape.length_ge).mp hcrc⟩
    . rintro ⟨hstart, hshape, hbody⟩
      obtain ⟨hwhole, hroom⟩ := requestShape_iff.mp hshape
      exact ⟨⟨hwhole, hroom, hstart⟩, (checkCrc_eq_ok_of_length hshape.length_ge).mpr hbody⟩
  . intro f
    apply hcuts.rest_of_ok
  . rw [hcuts.refused_iff]
    constructor
    . rintro ⟨frame, ⟨hwhole, hroom, hstart⟩, hcrc⟩
      have hshape := requestShape_iff.mpr ⟨hwhole, hroom⟩
      exact ⟨frame, hstart, hshape, (checkCrc_eq_crc_of_length hshape.length_ge).mp hcrc⟩
    . rintro ⟨frame, hstart, hshape, hbody⟩
      obtain ⟨hwhole, hroom⟩ := requestShape_iff.mp hshape
      exact ⟨frame, ⟨hwhole, hroom, hstart⟩, (checkCrc_eq_crc_of_length hshape.length_ge).mpr hbody⟩
  . rw [oversizedRequest_iff]
    apply hcuts.push_iff checkCrc_ne_push
  . have hshort := hcuts.tooShort_iff fun _ hwhole => checkCrc_ne_tooShort (whole_request_length_ge hwhole)
    have hneed : requestLayout.need (serialIn s) = requestLength (serialIn s) := rfl
    have hnone : (∀ frame, frame <+: serialIn s → ¬ RequestShape frame)
        ↔ ¬ (requestLength (serialIn s) ≤ (serialIn s).length ∧ requestLength (serialIn s) ≤ rtuBuf) := by
      rw [← exists_requestShape_iff]
      simp
    rw [hshort, hnone, oversizedRequest_iff, hneed]
    omega

theorem listen_parses_next
    : ParsesRequest (serialIn (mockSession (rtuFrame readRequest ++ [0x22]) []))
        (serialIn (finalState (ModbusRtu.listen (mockSession (rtuFrame readRequest ++ [0x22]) []))))
        (outcome (ModbusRtu.listen (mockSession (rtuFrame readRequest ++ [0x22]) []))) :=
  listen_parses (mockSession (rtuFrame readRequest ++ [0x22]) []) rfl (not_givesUp _)

end Requests

section Responses

/--
The result of reading a response from the stream `rx`, of which `rest` is left.
-/
structure ParsesResponse (rx rest : List UInt8) (result : Except (Stop (ModbusError SE Empty)) RtuResponse)
    : Prop where
  ok : ∀ f, result = .ok f
    ↔ f.data <+: rx ∧ f.data.length = responseLength f.data ∧ ∃ body, f.data = rtuFrame body
  consumed : ∀ f, result = .ok f → rx = f.data ++ rest
  crc : result = .error (.failed .crc)
    ↔ responseLength rx ≤ rx.length ∧ ∀ body, rx.take (responseLength rx) ≠ rtuFrame body
  tooShort : result = .error (.failed .payloadTooShort) ↔ rx.length < responseLength rx
  fits : result ≠ .error (.failed .push)
  documented : ∀ (answer : RtuAnswer) after, rx = answer.frame ++ after
    → ∃ f, result = .ok f ∧ f.data = answer.frame ∧ rest = after

theorem whole_response_length_ge {frame : List UInt8} (h : responseLayout.Whole frame) : 4 ≤ frame.length := by
  have hlen : frame.length = responseLength frame := h
  have := responseLength_bounds frame
  omega

/--
The response parser takes as many bytes as the first three of them announce, and that is right for every
response that is documented.
-/
theorem receive_parses [Device S SE] [InOrder S] (s : Session S TS D SE TE) (hidle : s.deadline = none)
    (hport : ¬ GivesUp (outcome (ModbusRtu.receive s)))
    : ParsesResponse (serialIn s) (serialIn (finalState (ModbusRtu.receive s)))
        (outcome (ModbusRtu.receive s)) := by
  have hcuts := (ModbusRtu.receive_cuts_idle hidle hport).1
  have hbounds := responseLength_bounds (serialIn s)
  have hneed : responseLayout.need (serialIn s) = responseLength (serialIn s) := rfl
  have hok (f : RtuResponse) : outcome (ModbusRtu.receive s) = .ok f
      ↔ f.data <+: serialIn s ∧ f.data.length = responseLength f.data ∧ ∃ body, f.data = rtuFrame body := by
    rw [hcuts.ok_iff, Layout.cut_eq_whole]
    constructor
    . rintro ⟨⟨hwhole, _, hstart⟩, hcrc⟩
      exact ⟨hstart, hwhole, (checkCrc_eq_ok_of_length (whole_response_length_ge hwhole)).mp hcrc⟩
    . rintro ⟨hstart, hwhole, hbody⟩
      exact ⟨⟨hwhole, f.length_le, hstart⟩,
        (checkCrc_eq_ok_of_length (whole_response_length_ge hwhole)).mpr hbody⟩
  constructor
  . apply hok
  . intro f
    apply hcuts.rest_of_ok
  . rw [hcuts.refused_iff]
    constructor
    . rintro ⟨frame, ⟨hwhole, _, hstart⟩, hcrc⟩
      have hlen : responseLength (serialIn s) = frame.length := hwhole.need_eq hstart
      rw [hlen, ← List.prefix_iff_eq_take.mp hstart]
      exact ⟨hstart.length_le, (checkCrc_eq_crc_of_length (whole_response_length_ge hwhole)).mp hcrc⟩
    . rintro ⟨hlen, hbody⟩
      have hwhole : responseLayout.Whole ((serialIn s).take (responseLength (serialIn s))) :=
        Layout.whole_take hlen
      refine ⟨_, ⟨hwhole, ?_, List.take_prefix _ _⟩,
        (checkCrc_eq_crc_of_length (whole_response_length_ge hwhole)).mpr hbody⟩
      rw [List.length_take]
      omega
  . rw [hcuts.tooShort_iff fun _ hwhole => checkCrc_ne_tooShort (whole_response_length_ge hwhole), hneed]
    omega
  . rw [ne_eq, hcuts.push_iff checkCrc_ne_push, hneed]
    omega
  . intro answer after hrx
    have hlen : answer.frame.length = responseLength answer.frame := by
      rw [RtuAnswer.frame, ← answer.layout.length_eq, length_rtuFrame]
    have hroom : answer.frame.length ≤ 512 := by
      have := responseLength_bounds answer.frame
      omega
    have hf : outcome (ModbusRtu.receive s) = .ok ⟨answer.frame, hroom⟩ := by
      rw [hok, hrx]
      exact ⟨List.prefix_append _ _, hlen, answer.body, rfl⟩
    have hrest := hcuts.rest_of_ok hf
    rw [hrx] at hrest
    exact ⟨_, hf, rfl, (List.append_cancel_left hrest).symm⟩

theorem receive_parses_read
    : ParsesResponse (serialIn (mockSession (rtuFrame [0x11, 0x03, 0x02, 0xAA, 0xBB] ++ [0x22]) []))
        (serialIn (finalState (ModbusRtu.receive
          (mockSession (rtuFrame [0x11, 0x03, 0x02, 0xAA, 0xBB] ++ [0x22]) []))))
        (outcome (ModbusRtu.receive (mockSession (rtuFrame [0x11, 0x03, 0x02, 0xAA, 0xBB] ++ [0x22]) []))) :=
  receive_parses (mockSession (rtuFrame [0x11, 0x03, 0x02, 0xAA, 0xBB] ++ [0x22]) []) rfl (not_givesUp _)

end Responses

section Tcp

/--
The result of reading a TCP frame from the stream `rx`, of which `rest` is left.
-/
structure FramesTcp (rx rest : List UInt8) (result : Except (Stop (ModbusError Empty TE)) TcpFrame) : Prop where
  ok : ∀ f, result = .ok f
    ↔ lengthField rx ≤ 255 ∧ 6 + lengthField rx ≤ rx.length ∧ f.data = rx.take (6 + lengthField rx)
  consumed : ∀ f, result = .ok f → rest = rx.drop (6 + lengthField rx)
  push : result = .error (.failed .push) ↔ 255 < lengthField rx ∧ 262 ≤ rx.length
  pushConsumed : result = .error (.failed .push) → rest = rx.drop 262
  tooShort : result = .error (.failed .payloadTooShort)
    ↔ ¬ (lengthField rx ≤ 255 ∧ 6 + lengthField rx ≤ rx.length)
      ∧ ¬ (255 < lengthField rx ∧ 262 ≤ rx.length)
  drained : result = .error (.failed .payloadTooShort) → rest = []

theorem listen_framesTcp [Device TS TE] [InOrder TS] {s : Session S TS D SE TE} (hidle : s.deadline = none)
    (hport : ¬ GivesUp (outcome (ModbusTcp.listen s)))
    : FramesTcp (tcpIn s) (tcpIn (finalState (ModbusTcp.listen s))) (outcome (ModbusTcp.listen s)) := by
  have hcuts := (ModbusTcp.listen_cuts_idle hidle hport).1
  have hbuf : tcpBuf = 261 := rfl
  have hneed : tcpLayout.need (tcpIn s) = 6 + lengthField (tcpIn s) := rfl
  have hpush := hcuts.push_iff fun _ => nofun
  have hshort := hcuts.tooShort_iff fun _ _ => nofun
  have hok (f : TcpFrame) : outcome (ModbusTcp.listen s) = .ok f
      ↔ lengthField (tcpIn s) ≤ 255 ∧ 6 + lengthField (tcpIn s) ≤ (tcpIn s).length
        ∧ f.data = (tcpIn s).take (6 + lengthField (tcpIn s)) := by
    rw [hcuts.ok_iff, Layout.cut_eq_whole]
    constructor
    . rintro ⟨⟨hwhole, hroom, hstart⟩, _⟩
      have hlen := hwhole.need_eq hstart
      rw [hneed] at hlen
      rw [hlen]
      exact ⟨by omega, hstart.length_le, List.prefix_iff_eq_take.mp hstart⟩
    . rintro ⟨hfield, hlen, hf⟩
      rw [hf]
      refine ⟨⟨Layout.whole_take hlen, ?_, List.take_prefix _ _⟩, rfl⟩
      rw [List.length_take]
      omega
  constructor
  . apply hok
  . intro f hf
    obtain ⟨_, _, hdata⟩ := (hok f).mp hf
    have hrest := hcuts.rest_of_ok hf
    rw [hdata] at hrest
    apply List.append_cancel_left
    rw [← hrest, List.take_append_drop]
  . rw [hpush, hneed]
    omega
  . intro hresult
    rw [hcuts.rest, Layout.cut_rest_oversized (Layout.cut_eq_oversized.mpr (hpush.mp hresult))]
    rfl
  . rw [hshort, hneed]
    omega
  . intro hresult
    rw [hcuts.rest, Layout.cut_rest_short (Layout.cut_eq_short.mpr (hshort.mp hresult))]

/--
What `listen` does with the stream that the session `s` has: one frame of it, and any number of frames that
lie one after the other.
-/
structure FramesStream [Device TS TE] [InOrder TS] (s : Session S TS D SE TE) : Prop where
  single : FramesTcp (tcpIn s) (tcpIn (finalState (ModbusTcp.listen s))) (outcome (ModbusTcp.listen s))
  inOrder : ∀ (frames : List (List UInt8)) rest,
    (∀ frame ∈ frames, frame.length = 6 + lengthField frame ∧ lengthField frame ≤ 255)
    → tcpIn s = frames.flatten ++ rest
    → (Exec.repeated ModbusTcp.listen frames.length s).1.map (Except.map Heapless.Vec.data) = frames.map .ok
      ∧ tcpIn (Exec.repeated ModbusTcp.listen frames.length s).2 = rest

/--
The TCP framer takes exactly what the length field announces, so it reads the frames of a stream in order.
-/
theorem listen_framesStream [Device TS TE] [InOrder TS] (s : Session S TS D SE TE)
    (hidle : s.deadline = none)
    (hport : ∀ n, ∀ r ∈ (Exec.repeated ModbusTcp.listen n s).1, ¬ GivesUp r) : FramesStream s where
  single := by
    apply listen_framesTcp hidle
    exact hport 1 _ List.mem_cons_self
  inOrder frames rest hframes hrx := by
    have hwhole : ∀ frame ∈ frames, tcpLayout.Whole frame ∧ frame.length ≤ tcpBuf := by
      intro frame hmem
      obtain ⟨hlen, hfield⟩ := hframes frame hmem
      have hbuf : tcpBuf = 261 := rfl
      exact ⟨hlen, by omega⟩
    have hlisten (s : Session S TS D SE TE) (hidle : s.deadline = none)
        (hport : ¬ GivesUp (outcome (ModbusTcp.listen s))) := ModbusTcp.listen_cuts_idle hidle hport
    apply Cuts.repeated hlisten hwhole rest hrx hidle (hport _)

theorem listen_framesStream_pair
    : FramesStream (mockSession [] (tcpFrame 1 0 readRequest ++ tcpFrame 2 0 [])) :=
  listen_framesStream (mockSession [] (tcpFrame 1 0 readRequest ++ tcpFrame 2 0 [])) rfl
    fun _ _ _ => not_givesUp _

end Tcp

end ModbusBridge
