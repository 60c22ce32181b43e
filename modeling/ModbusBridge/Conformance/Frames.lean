import ModbusBridge.Impl.Capacity
import ModbusBridge.Lemmas.Cycle
import ModbusBridge.Spec.Mock

/-!
This module contains what can be said about every frame that `next` puts on a line: which of them are
well-formed RTU frames, and which of them keep to the maximum sizes.
-/

namespace ModbusBridge

open Effect EmbeddedIo Session

variable {S TS D SE TE : Type} [Device S SE] [Device TS TE] [ReadReady S SE] [ReadReady TS TE]
  [DelayNs D]

section Relay

theorem Connection.rtuFrames_during (flavour : Flavour) (s : Session S TS D SE TE)
    : Trace.rtuFrames (during (Connection.next flavour) s) = []
        ∨ ∃ tid pid body, 1 ≤ body.length ∧ body.length ≤ 255
            ∧ Trace.tcpRx (during (Connection.next flavour) s) = tcpFrame tid pid body
            ∧ Trace.rtuFrames (during (Connection.next flavour) s) = [rtuFrame body] := by
  cases Connection.next_frames flavour s with
  | nothing hrtu _ =>
    left
    apply hrtu.flatMap_during
  | forwarded hpos hmax hreq hrtu _ | answered hpos hmax _ hreq _ hrtu _ _ =>
    right
    exact ⟨_, _, _, hpos, hmax, hreq.flatMap_during, hrtu.flatMap_during⟩

theorem ClientSession.rtuFrames_during (flavour : Flavour) (s : Session S TS D SE TE)
    : Trace.rtuFrames (during (ClientSession.next flavour) s) = []
        ∨ ∃ tid pid body, 1 ≤ body.length ∧ body.length ≤ 255
            ∧ Trace.tcpRx (during (ClientSession.next flavour) s) = tcpFrame tid pid body
            ∧ Trace.rtuFrames (during (ClientSession.next flavour) s) = [rtuFrame body] := by
  cases ClientSession.next_frames flavour s with
  | nothing _ hrtu | asked _ _ _ _ _ hrtu =>
    left
    apply hrtu.flatMap_during
  | answered tid rtid pid _ _ hpos hrmax _ hresp _ hrtu =>
    right
    exact ⟨_, _, _, hpos, hrmax, hresp.flatMap_during, hrtu.flatMap_during⟩

theorem Connection.tcpFrames_during (flavour : Flavour) (s : Session S TS D SE TE)
    : Trace.tcpFrames (during (Connection.next flavour) s) = []
        ∨ ∃ tid body, body.length + 2 = responseLength (rtuFrame body)
            ∧ Trace.serialRx (during (Connection.next flavour) s) = rtuFrame body
            ∧ Trace.tcpFrames (during (Connection.next flavour) s) = [tcpFrame tid 0 body] := by
  cases Connection.next_frames flavour s with
  | nothing _ htcp | forwarded _ _ _ _ htcp =>
    left
    apply htcp.flatMap_during
  | answered _ _ hlen _ hresp _ _ htcp =>
    right
    exact ⟨_, _, hlen, hresp.flatMap_during, htcp.flatMap_during⟩

theorem ClientSession.tcpFrames_during (flavour : Flavour) (s : Session S TS D SE TE)
    : Trace.tcpFrames (during (ClientSession.next flavour) s) = []
        ∨ ∃ tid body, body.length ≤ 253
            ∧ Trace.serialRx (during (ClientSession.next flavour) s) = rtuFrame body
            ∧ Trace.tcpFrames (during (ClientSession.next flavour) s) = [tcpFrame tid 0 body] := by
  cases ClientSession.next_frames flavour s with
  | nothing htcp _ =>
    left
    apply htcp.flatMap_during
  | asked tid _ hmax hreq htcp _ | answered tid _ _ _ hmax _ _ hreq _ htcp _ =>
    right
    exact ⟨_, _, hmax, hreq.flatMap_during, htcp.flatMap_during⟩

end Relay

section WellFormed

omit [Device S SE] [Device TS TE] [ReadReady S SE] [ReadReady TS TE] [DelayNs D]

/--
Every frame handed to the serial transport has a unit id, a function code and a matching CRC, and
nothing is handed over if the TCP frame that was read is too short for that.
-/
def WellFormedFrames (t : List (Event SE TE)) : Prop :=
  (∀ payload ∈ Trace.rtuFrames t, checkCrc payload = .ok ())
    ∧ (lengthField (Trace.tcpRx t) < 2 → Trace.rtuFrames t = [])

theorem checkCrc_rtuFrame_iff (body : List UInt8)
    : checkCrc (rtuFrame body) = .ok () ↔ 2 ≤ body.length := by
  constructor
  . intro h
    unfold rtuFrame at h
    rw [checkCrc_append (length_crc body)] at h
    split at h
    . contradiction
    . omega
  . apply checkCrc_rtuFrame

/--
A whole TCP frame with a single byte after its header: there is no room for a function code.
-/
def SingleByte (tcp : List UInt8) : Prop := TcpComplete tcp ∧ lengthField tcp = 1

theorem tcpComplete_tcpFrame {body : List UInt8} (h : body.length < 65536) (tid pid : UInt16)
    : TcpComplete (tcpFrame tid pid body) := by
  unfold TcpComplete
  rw [lengthField_tcpFrame h, length_tcpFrame]
  omega

theorem wellFormedFrames_of_relay {t : List (Event SE TE)} (ready : Prop)
    (hrelay : Trace.rtuFrames t = []
      ∨ ∃ tid pid body, 1 ≤ body.length ∧ body.length ≤ 255 ∧ Trace.tcpRx t = tcpFrame tid pid body
          ∧ Trace.rtuFrames t = [rtuFrame body])
    (hready : SingleByte (Trace.tcpRx t) → ready → Trace.rtuFrames t ≠ [])
    (hnot : ¬ ready → Trace.rtuFrames t = [])
    : WellFormedFrames t ↔ ¬ (SingleByte (Trace.tcpRx t) ∧ ready) := by
  unfold WellFormedFrames
  obtain hnone | ⟨tid, pid, body, hpos, hmax, hrx, hrtu⟩ := hrelay
  . simp only [hnone, List.not_mem_nil, false_implies, implies_true, and_true, true_iff]
    rintro ⟨hsingle, hisReady⟩
    apply hready hsingle hisReady hnone
  . have hisReady : ready := by
      apply Classical.not_not.mp
      intro h
      rw [hnot h] at hrtu
      contradiction
    have hcomplete := tcpComplete_tcpFrame (by omega : body.length < 65536) tid pid
    unfold SingleByte
    rw [hrx, hrtu, lengthField_tcpFrame (by omega)]
    simp only [List.mem_singleton, forall_eq, checkCrc_rtuFrame_iff, List.cons_ne_nil, hisReady, hcomplete,
      true_and, and_true]
    omega

theorem ne_nil_of_yields {x : Exec (Session S TS D SE TE) ε α} {s : Session S TS D SE TE}
    (h : ∃ payload, Yields Event.rtuFrames [payload] s (finalState (x s)))
    : Trace.rtuFrames (during x s) ≠ [] := by
  obtain ⟨payload, h⟩ := h
  rw [show Trace.rtuFrames (during x s) = [payload] from h.flatMap_during]
  apply List.cons_ne_nil

/--
A frame that `next` puts on the serial line is well formed, unless it comes from a TCP frame whose
length field is one: seven bytes are enough for `tcp_to_rtu` and `tcp_resp_to_rtu`, but they leave no
room for a function code.
-/
theorem wellFormedFrames_iff [Device S SE] [Device TS TE] [ReadReady S SE] [ReadReady TS TE]
    [DelayNs D] (flavour : Flavour) (s : Session S TS D SE TE)
    : (WellFormedFrames (during (Connection.next flavour) s)
          ↔
        ¬ (SingleByte (Trace.tcpRx (during (Connection.next flavour) s))
            ∧ Connection.SerialReady flavour s))
        ∧
      (WellFormedFrames (during (ClientSession.next flavour) s)
          ↔
        ¬ SingleByte (Trace.tcpRx (during (ClientSession.next flavour) s))) := by
  constructor
  . have hrun := Connection.next_run flavour s
    have hrx := Connection.next_yields Event.tcpRx flavour s
    apply wellFormedFrames_of_relay _ (Connection.rtuFrames_during flavour s)
    . rintro ⟨hcomplete, hone⟩ hready
      apply ne_nil_of_yields
      apply hrun.hands_over hready hrx hcomplete
      . apply Nat.le_of_eq hone.symm
      . apply Nat.le_trans (Nat.le_of_eq hone)
        decide
    . intro hnot
      apply (hrun.hands_nothing_over hnot).flatMap_during
  . have hrun := ClientSession.next_run flavour s
    have hrx := ClientSession.next_yields Event.tcpRx flavour s
    have hiff : WellFormedFrames (during (ClientSession.next flavour) s)
        ↔ ¬ (SingleByte (Trace.tcpRx (during (ClientSession.next flavour) s)) ∧ True) := by
      apply wellFormedFrames_of_relay True (ClientSession.rtuFrames_during flavour s)
      . rintro ⟨hcomplete, hone⟩ _
        apply ne_nil_of_yields
        apply hrun.hands_over hrx hcomplete
        . apply Nat.le_of_eq hone.symm
        . apply Nat.le_trans (Nat.le_of_eq hone)
          decide
      . intro hnot
        exact absurd trivial hnot
    rwa [and_true] at hiff

theorem wellFormedFrames_fails
    : ¬ WellFormedFrames (during (Connection.next .sync) (mockSession [] [0, 1, 0, 0, 0, 1, 0x11])) := by
  unfold WellFormedFrames
  decide +kernel

end WellFormed

section Sizes

omit [Device S SE] [Device TS TE] [ReadReady S SE] [ReadReady TS TE] [DelayNs D]

/--
The frames that are put on a line keep to the maximum size of that line, and a complete TCP frame whose
RTU form would not is refused before anything is put on the serial line.
-/
structure SizedFrames (r : Except (Stop (BridgeError SE TE)) BridgeEvent) (t : List (Event SE TE))
    : Prop where
  rtu_le : ∀ payload ∈ Trace.rtuFrames t, payload.length ≤ rtuMax
  tcp_le : ∀ frame ∈ Trace.tcpFrames t, frame.length ≤ tcpMax
  refused : TcpComplete (Trace.tcpRx t) → rtuMax < lengthField (Trace.tcpRx t) + 2 →
    r = .error (.failed .bufferOverflow) ∧ Trace.rtuFrames t = []

/--
A complete RTU response whose TCP form would be too long is refused before anything is sent for it.
-/
def RefusesResponse (r : Except (Stop (BridgeError SE TE)) BridgeEvent) (t : List (Event SE TE)) : Prop :=
  RtuComplete (Trace.serialRx t) → tcpMax < (Trace.serialRx t).length + 4 →
    r = .error (.failed .bufferOverflow) ∧ Trace.tcpFrames t = []

/--
The call reads one of the two lengths of TCP frames that fit its buffer while the RTU form is too long.
-/
def ReadsLongTcp (t : List (Event SE TE)) : Prop :=
  TcpComplete (Trace.tcpRx t)
    ∧ (lengthField (Trace.tcpRx t) = 254 ∨ lengthField (Trace.tcpRx t) = 255)

def ReadsLongRtu (t : List (Event SE TE)) : Prop :=
  RtuComplete (Trace.serialRx t) ∧ 257 < (Trace.serialRx t).length

theorem rtuComplete_rtuFrame {body : List UInt8}
    (h : body.length + 2 = responseLength (rtuFrame body)) : RtuComplete (rtuFrame body) := by
  have := responseLength_bounds (rtuFrame body)
  constructor
  . rw [length_rtuFrame, h]
  . apply checkCrc_rtuFrame
    omega

theorem sizedFrames_of_relay {r : Except (Stop (BridgeError SE TE)) BridgeEvent}
    {t : List (Event SE TE)} (htcp : ∀ frame ∈ Trace.tcpFrames t, frame.length ≤ tcpMax)
    (hrelay : Trace.rtuFrames t = []
      ∨ ∃ tid pid body, 1 ≤ body.length ∧ body.length ≤ 255 ∧ Trace.tcpRx t = tcpFrame tid pid body
          ∧ Trace.rtuFrames t = [rtuFrame body])
    (hover : TcpComplete (Trace.tcpRx t) → (r = .error (.failed .bufferOverflow)
      ↔ lengthField (Trace.tcpRx t) = 0 ∨ 255 < lengthField (Trace.tcpRx t)))
    : SizedFrames r t ↔ ¬ ReadsLongTcp t := by
  have hmax : rtuMax = 255 := rfl
  constructor
  . rintro hsized ⟨hcomplete, hlong⟩
    obtain ⟨hr, _⟩ := hsized.refused hcomplete (by omega)
    have := (hover hcomplete).mp hr
    omega
  . intro hshort
    unfold ReadsLongTcp at hshort
    refine ⟨?_, htcp, ?_⟩
    . intro payload hmem
      obtain hnone | ⟨tid, pid, body, _, hle, hrx, hrtu⟩ := hrelay
      . rw [hnone] at hmem
        contradiction
      . rw [hrx, lengthField_tcpFrame (by omega)] at hshort
        have := tcpComplete_tcpFrame (by omega : body.length < 65536) tid pid
        rw [hrtu, List.mem_singleton] at hmem
        rw [hmem, length_rtuFrame]
        grind
    . intro hcomplete hlong
      have hlong : 255 < lengthField (Trace.tcpRx t) := by
        apply Nat.lt_of_not_le
        intro hle
        apply hshort
        exact ⟨hcomplete, by omega⟩
      refine ⟨(hover hcomplete).mpr (.inr hlong), ?_⟩
      obtain hnone | ⟨tid, pid, body, _, hle, hrx, _⟩ := hrelay
      . apply hnone
      . rw [hrx, lengthField_tcpFrame (by omega)] at hlong
        omega

end Sizes

end ModbusBridge
