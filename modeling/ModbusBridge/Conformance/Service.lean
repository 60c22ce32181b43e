import ModbusBridge.Lemmas.Machine
import ModbusBridge.Lemmas.Run

/-!
This module contains the fact that a stream of finitely many bytes is served only for so long: sooner or later a
call fails, and the next stream can be accepted.
-/

namespace ModbusBridge

open Effect EmbeddedIo Session Framing View

/--
Why no message can be taken from a TCP stream.
-/
inductive TcpRefuses {SE TE : Type} (stream : List UInt8) : BridgeError SE TE → Prop where
  | short (h : (tcpLayout.cut tcpBuf stream).1 = .short) : TcpRefuses stream .tcpClosed
  | oversized (h : (tcpLayout.cut tcpBuf stream).1 = .oversized) : TcpRefuses stream .bufferOverflow
  | empty (h : (tcpLayout.cut tcpBuf stream).1 = .whole frame) (hbody : frame.drop 6 = [])
    : TcpRefuses stream .bufferOverflow

/--
Why no frame can be taken from the serial line.
-/
inductive RtuRefuses {SE TE : Type} (L : Layout UInt8) (cap : Nat) (closed : BridgeError SE TE) (stream : List UInt8)
    : BridgeError SE TE → Prop where
  | short (h : (L.cut cap stream).1 = .short) : RtuRefuses L cap closed stream closed
  | oversized (h : (L.cut cap stream).1 = .oversized) : RtuRefuses L cap closed stream .bufferOverflow
  | corrupted (h : (L.cut cap stream).1 = .whole frame) (hcrc : checkCrc frame ≠ .ok ())
    : RtuRefuses L cap closed stream .rtuCrcMismatch

/--
What is left in the two streams makes a call fail with `e`.
-/
def Mode.Refuses {SE TE : Type} (v : View) (e : BridgeError SE TE) : Mode → Prop
  | .bridge => TcpRefuses v.tcpRx e ∨ RtuRefuses responseLayout 512 .rtuCrcMismatch v.serialRx e
  | .client => RtuRefuses requestLayout rtuBuf .rtuClosed v.serialRx e ∨ TcpRefuses v.tcpRx e

/--
Calls are served until one of them fails with `e`, because of what is left in the streams by then.
-/
inductive Mode.Exhausts {SE TE : Type} (mode : Mode) : View → BridgeError SE TE → Prop where
  | refused (hrefuses : mode.Refuses v e) (hstep : mode.step v = .error (.failed e) v') : Exhausts mode v e
  | served (hstep : (mode.step v : EStateM.Result (Stop (BridgeError SE TE)) _ _) = .ok event v')
      (hrest : Exhausts mode v' e) : Exhausts mode v e

/--
A conversation over a new stream with these bytes, if those in `line` are coming in on the serial line.
-/
def Mode.converse {SE TE : Type} (mode : Mode) (n : Nat) (tcpRx line : List UInt8)
    : EStateM.Result (Stop (BridgeError SE TE)) View (List BridgeEvent) := mode.steps n ⟨line, tcpRx, [], [], 0⟩

def Mode.lineAfter (SE TE : Type) (mode : Mode) (n : Nat) (tcpRx line : List UInt8) : List UInt8 :=
  (finalState (mode.converse n tcpRx line : EStateM.Result (Stop (BridgeError SE TE)) _ _)).serialRx

section Machine

variable {SE TE : Type}

/--
A call of the machine that returns an event has used up a header and at least one more byte of the TCP stream.
-/
inductive Mode.Uses (mode : Mode) (v : View)
    : EStateM.Result (Stop (BridgeError SE TE)) View BridgeEvent → Prop where
  | ok (h : v'.tcpRx.length + 7 ≤ v.tcpRx.length) : Uses mode v (.ok event v')
  | error (h : mode.Refuses v e) : Uses mode v (.error (.failed e) v')

variable {v v' : View}

theorem takeTcp_error (h : (takeTcp v : EStateM.Result (Stop (BridgeError SE TE)) _ _) = .error e v')
    : ∃ e', e = .failed e' ∧ TcpRefuses v.tcpRx e' := by
  cases hcut : (tcpLayout.cut tcpBuf v.tcpRx).1 with
  | whole frame =>
    rw [takeTcp_whole hcut] at h
    contradiction
  | oversized =>
    rw [takeTcp_oversized hcut] at h
    injection h with h _
    exact ⟨_, h.symm, .oversized hcut⟩
  | short =>
    rw [takeTcp_short hcut] at h
    injection h with h _
    exact ⟨_, h.symm, .short hcut⟩

theorem takeRtu_error {L : Layout UInt8} {closed : BridgeError SE TE} (h : takeRtu L cap closed v = .error e v')
    : ∃ e', e = .failed e' ∧ RtuRefuses L cap closed v.serialRx e' := by
  cases hcut : (L.cut cap v.serialRx).1 with
  | whole frame =>
    by_cases hcrc : checkCrc frame = .ok ()
    . rw [takeRtu_whole hcut hcrc] at h
      contradiction
    . rw [takeRtu_refused hcut hcrc] at h
      injection h with h _
      exact ⟨_, h.symm, .corrupted hcut hcrc⟩
  | oversized =>
    rw [takeRtu_oversized hcut] at h
    injection h with h _
    exact ⟨_, h.symm, .oversized hcut⟩
  | short =>
    rw [takeRtu_short hcut] at h
    injection h with h _
    exact ⟨_, h.symm, .short hcut⟩

theorem takeTcp_length (h : (takeTcp v : EStateM.Result (Stop (BridgeError SE TE)) _ _) = .ok frame v')
    (hbody : frame.drop 6 ≠ []) : v'.tcpRx.length + 7 ≤ v.tcpRx.length := by
  obtain ⟨hcut, rfl⟩ := takeTcp_eq_ok h
  have hrest := congrArg List.length (Layout.cut_rest hcut)
  have hpos := List.length_pos_iff.mpr hbody
  rw [List.length_append] at hrest
  rw [List.length_drop] at hpos
  dsimp only
  omega

theorem bridgeStep_uses (v : View)
    : Mode.bridge.Uses v ((bridgeStep : Exec View (BridgeError SE TE) BridgeEvent) v) := by
  unfold bridgeStep bridgeProgram
  cases hrequest : (takeTcp v : EStateM.Result (Stop (BridgeError SE TE)) _ _) with
  | error e v₁ =>
    obtain ⟨e', rfl, hrefuses⟩ := takeTcp_error hrequest
    rw [Exec.bind_error hrequest]
    exact .error (Or.inl hrefuses)
  | ok request v₁ =>
    obtain ⟨hcut, hv₁⟩ := takeTcp_eq_ok hrequest
    rw [Exec.bind_ok hrequest]
    by_cases hbody : request.drop 6 = []
    . rw [if_pos hbody]
      exact .error (Or.inl (.empty hcut hbody))
    . have hlen := takeTcp_length hrequest hbody
      rw [if_neg hbody]
      cases hresponse : (exchangeRtu (rtuFrame (request.drop 6)) : Exec View (BridgeError SE TE) _) v₁ with
      | error e v₂ =>
        obtain ⟨e', rfl, hrefuses⟩ := takeRtu_error (v := { v₁ with serialTx := _ }) hresponse
        rw [hv₁] at hrefuses
        rw [Exec.bind_error hresponse]
        exact .error (Or.inr hrefuses)
      | ok response v₂ =>
        obtain ⟨_, _, hv₂⟩ := takeRtu_eq_ok (v := { v₁ with serialTx := _ }) hresponse
        rw [Exec.bind_ok hresponse]
        apply Mode.Uses.ok
        rw [hv₂]
        exact hlen

theorem clientStep_uses (v : View)
    : Mode.client.Uses v ((clientStep : Exec View (BridgeError SE TE) BridgeEvent) v) := by
  unfold clientStep clientProgram
  cases hrequest : takeRtu requestLayout rtuBuf (.rtuClosed : BridgeError SE TE) v with
  | error e v₁ =>
    obtain ⟨e', rfl, hrefuses⟩ := takeRtu_error hrequest
    rw [Exec.bind_error hrequest]
    exact .error (Or.inl hrefuses)
  | ok request v₁ =>
    obtain ⟨_, _, hv₁⟩ := takeRtu_eq_ok hrequest
    rw [Exec.bind_ok hrequest, nextId_bind, putTcp_bind]
    generalize hv₂ : View.mk _ _ _ _ _ = v₂
    have htcp : v₂.tcpRx = v.tcpRx := by rw [← hv₂, hv₁]
    cases hresponse : (takeTcp v₂ : EStateM.Result (Stop (BridgeError SE TE)) _ _) with
    | error e v₃ =>
      obtain ⟨e', rfl, hrefuses⟩ := takeTcp_error hresponse
      rw [htcp] at hrefuses
      rw [Exec.bind_error hresponse]
      exact .error (Or.inr hrefuses)
    | ok response v₃ =>
      obtain ⟨hcut, _⟩ := takeTcp_eq_ok hresponse
      rw [htcp] at hcut
      rw [Exec.bind_ok hresponse]
      by_cases hbody : response.drop 6 = []
      . rw [if_pos hbody]
        exact .error (Or.inr (.empty hcut hbody))
      . rw [if_neg hbody, putRtu_bind]
        have hlen := takeTcp_length hresponse hbody
        rw [htcp] at hlen
        split
        . apply Mode.Uses.ok
          exact hlen
        . apply Mode.Uses.ok
          exact hlen

theorem Mode.step_uses (mode : Mode) (v : View)
    : mode.Uses v ((mode.step : Exec View (BridgeError SE TE) BridgeEvent) v) := by
  cases mode with
  | bridge => apply bridgeStep_uses
  | client => apply clientStep_uses

theorem Mode.steps_exhaust (mode : Mode) {n : Nat} {v : View} (hlong : v.tcpRx.length < 7 * n)
    : ∃ e, outcome ((mode.steps n : Exec View (BridgeError SE TE) _) v) = .error (.failed e) ∧ mode.Exhausts v e := by
  induction n generalizing v with
  | zero => simp at hlong
  | succ n ih =>
    have huses : mode.Uses v ((mode.step : Exec View (BridgeError SE TE) BridgeEvent) v) := mode.step_uses v
    cases hresult : (mode.step : Exec View (BridgeError SE TE) BridgeEvent) v with
    | error e v₁ =>
      rw [hresult] at huses
      rw [steps_succ_error n hresult]
      cases huses with
      | error hrefuses => exact ⟨_, rfl, .refused hrefuses hresult⟩
    | ok event v₁ =>
      rw [hresult] at huses
      rw [(steps_succ_ok n hresult).1]
      cases huses with
      | ok hlen =>
        obtain ⟨e, hrest, hexhausts⟩ := ih (v := v₁) (by omega)
        rw [hrest]
        exact ⟨e, rfl, .served hresult hexhausts⟩

theorem Mode.converse_ends (mode : Mode) {n : Nat} {tcpRx : List UInt8} (hlong : tcpRx.length < 7 * n)
    (line : List UInt8)
    : ∃ e, outcome (mode.converse n tcpRx line : EStateM.Result (Stop (BridgeError SE TE)) _ _) = .error (.failed e)
        ∧ mode.Exhausts ⟨line, tcpRx, [], [], 0⟩ e := by
  apply mode.steps_exhaust hlong

end Machine

section Run

variable {S TS D SE TE : Type} [Device S SE] [Device TS TE] [ReadReady S SE] [ReadReady TS TE] [DelayNs D]
  [Lossless S] [Lossless TS]

/--
Streams of finitely many bytes are served one after the other, and none of them keeps a bridge or a client from the
next one: if more calls are made than one for every seven bytes of a stream, its conversation ends with an error, which
is the one of the program and due to what is left in the streams.
-/
theorem conversations_end (mode : Mode) {flavours : List Flavour} (huntimed : ∀ flavour ∈ flavours, flavour.Untimed)
    {streams : List TS} (hsteady : ∀ stream ∈ streams, Lossless.faults stream = 0)
    (hlong : ∀ stream ∈ streams, (Lossless.rx stream).length < 7 * flavours.length) {s : Session S TS D SE TE}
    (hfaults : Lossless.faults s.serial ≤ 10)
    : answersOf (fun stream s => finalState (mode.conversation flavours stream s))
            (fun stream s => outcome (mode.conversation flavours stream s)) streams s
          = answersOf (fun stream line => mode.lineAfter SE TE flavours.length (Lossless.rx stream) line)
            (fun stream line => outcome (mode.converse flavours.length (Lossless.rx stream) line)) streams
            (Lossless.rx s.serial)
        ∧ ∀ x ∈ callsOf (fun stream line => mode.lineAfter SE TE flavours.length (Lossless.rx stream) line) streams
              (Lossless.rx s.serial),
            ∃ e : BridgeError SE TE,
              outcome (mode.converse flavours.length (Lossless.rx x.2) x.1) = .error (.failed e)
                ∧ mode.Exhausts ⟨x.1, Lossless.rx x.2, [], [], 0⟩ e := by
  constructor
  . have hstep : ∀ stream ∈ streams, ∀ (line : List UInt8) (s : Session S TS D SE TE),
        Lossless.rx s.serial = line ∧ Lossless.faults s.serial ≤ 10 →
        outcome (mode.conversation flavours stream s)
            = outcome (mode.converse flavours.length (Lossless.rx stream) line)
          ∧ Lossless.rx (finalState (mode.conversation flavours stream s)).serial
            = mode.lineAfter SE TE flavours.length (Lossless.rx stream) line
          ∧ Lossless.faults (finalState (mode.conversation flavours stream s)).serial ≤ 10 := by
      rintro stream hmem line s ⟨rfl, hfaults⟩
      have hstart : At ⟨Lossless.rx s.serial, Lossless.rx stream, [], [], 0⟩
          (s.owner.accept stream : Session S TS D SE TE) :=
        ⟨rfl, rfl, rfl, rfl, rfl, hfaults, hsteady stream hmem, rfl⟩
      obtain ⟨houtcome, hend⟩ := (mode.run_implements huntimed).ends _ _ hstart
      exact ⟨houtcome, hend.serialRx, hend.faults⟩
    exact (answersOf_simulates hstep ⟨rfl, hfaults⟩).1
  . intro x hmem
    apply mode.converse_ends
    apply hlong _ (mem_of_mem_callsOf hmem)

/--
Two streams of a bridge. The first one ends within a request, the second one holds a header and nothing else.
-/
def twoStreams : List MockStream := [.withRx (tcpFrame 1 0 readRequest ++ [0x00, 0x02]), .withRx (tcpFrame 1 0 [])]

theorem conversations_end_two
    : answersOf (fun stream s => finalState (Mode.bridge.conversation [.sync, .async, .sync] stream s))
          (fun stream s => outcome (Mode.bridge.conversation [.sync, .async, .sync] stream s)) twoStreams
          (mockSession (rtuFrame [0x11, 0x83, 0x02]) [])
        = [.error (.failed .tcpClosed), .error (.failed .bufferOverflow)] := by
  have hshort : ∀ stream ∈ twoStreams, (Lossless.rx stream).length < 21 := by decide +kernel
  rw [(conversations_end .bridge (by simp [Flavour.Untimed.sync, Flavour.Untimed.async]) (by decide) hshort
    (by decide)).1]
  decide +kernel

end Run

end ModbusBridge
