import ModbusBridge.Conformance.Bursts
import ModbusBridge.Conformance.Noise

/-!
This module contains what interruptions do to a run of asynchronous timed calls: a frame that is cut off by a silence
costs its own call, which reports a timeout, and no other exchange is disturbed. Noise may hit the line as well.
-/

namespace ModbusBridge

open Effect EmbeddedIo Session Framing BurstView

variable {S TS D SE TE : Type} [Device S SE] [Device TS TE] [ReadReady S SE] [ReadReady TS TE] [DelayNs D] [Bursty S]
  [Bursty TS] {srx trx : Bursts} {stx ttx : List UInt8} {tid : UInt16}

namespace BurstView

variable {L : Layout UInt8} {cap max : Nat}

theorem takeTcp_before (m : TcpMessage)
    : (takeTcp ⟨srx, trx.before m.frame, stx, ttx, tid⟩ : EStateM.Result (Stop (BridgeError SE TE)) _ _)
        = .ok m.frame ⟨srx, trx, stx, ttx, tid⟩ :=
  inTime_ok (b := ⟨srx, trx.before m.frame, stx, ttx, tid⟩) (cutTcp_append m srx.now trx.now stx ttx tid)

theorem takeTcp_interrupted {bytes : List UInt8} (h : (tcpLayout.cut tcpBuf bytes).1 = .short)
    : (takeTcp ⟨srx, trx.interrupted bytes, stx, ttx, tid⟩ : EStateM.Result (Stop (BridgeError SE TE)) _ _)
        = .error (.failed .timeout) ⟨srx, trx, stx, ttx, tid⟩ := by
  have hcut : (View.cutTcp _ : EStateM.Result (Stop (ModbusError Empty TE)) _ _) = _ :=
    cutTcp_of (v := ⟨srx.now, bytes, stx, ttx, tid⟩) h
  exact inTime_eof (b := ⟨srx, trx.interrupted bytes, stx, ttx, tid⟩) hcut

theorem takeRtu_before (r : Reception L max) (hmax : max ≤ maxFrame) (hcap : max ≤ cap)
    : (takeRtu L cap ⟨srx.before r.received, trx, stx, ttx, tid⟩ : EStateM.Result (Stop (BridgeError SE TE)) _ _)
        = if r.Intact then .ok (rtuFrame r.body) ⟨srx, trx, stx, ttx, tid⟩
          else .error (.failed .rtuCrcMismatch) ⟨srx, trx, stx, ttx, tid⟩ := by
  have hcut : (View.cutRtu L cap _ : EStateM.Result (Stop (ModbusError SE Empty)) _ _) = _ :=
    r.cutRtu_received hmax hcap srx.now trx.now stx ttx tid
  split
  . next hintact =>
    rw [if_pos hintact] at hcut
    exact inTime_ok (b := ⟨srx.before r.received, trx, stx, ttx, tid⟩) hcut
  . next hbroken =>
    rw [if_neg hbroken] at hcut
    exact inTime_failed (b := ⟨srx.before r.received, trx, stx, ttx, tid⟩) hcut nofun

theorem takeRtu_interrupted {bytes : List UInt8} (h : (L.cut cap bytes).1 = .short)
    : (takeRtu L cap ⟨srx.interrupted bytes, trx, stx, ttx, tid⟩ : EStateM.Result (Stop (BridgeError SE TE)) _ _)
        = .error (.failed .timeout) ⟨srx, trx, stx, ttx, tid⟩ := by
  have hcut : (View.cutRtu L cap _ : EStateM.Result (Stop (ModbusError SE Empty)) _ _) = _ :=
    cutRtu_of (v := ⟨bytes, trx.now, stx, ttx, tid⟩) h
  exact inTime_eof (b := ⟨srx.interrupted bytes, trx, stx, ttx, tid⟩) hcut

section Put

variable {k : Unit → Exec BurstView ε α}

theorem putTcp_bind (frame : List UInt8)
    : (atOnce (View.putTcp frame) >>= k) ⟨srx, trx, stx, ttx, tid⟩ = k () ⟨srx, trx, stx, ttx ++ frame, tid⟩ := rfl

theorem putRtu_bind (frame : List UInt8)
    : (atOnce (View.putRtu frame) >>= k) ⟨srx, trx, stx, ttx, tid⟩ = k () ⟨srx, trx, stx ++ frame, ttx, tid⟩ := rfl

theorem nextId_bind {k : UInt16 → Exec BurstView ε α}
    : (atOnce View.nextId >>= k) ⟨srx, trx, stx, ttx, tid⟩ = k (tid + 1) ⟨srx, trx, stx, ttx, tid + 1⟩ := rfl

end Put

end BurstView

section Bridge

/--
What a call of a bridge meets: an exchange whose response noise may have hit, the start of a request that never
becomes whole, or a request to which the device gives no whole response.
-/
inductive BridgeEpisode where
  | exchange (request : TcpMessage) (response : Reception responseLayout maxFrame)
  | lateRequest (bytes : List UInt8) (h : (tcpLayout.cut tcpBuf bytes).1 = .short)
  | lateResponse (request : TcpMessage) (bytes : List UInt8) (h : (responseLayout.cut 512 bytes).1 = .short)

namespace BridgeEpisode

/--
The bursts on the serial line, if those in `rest` come after the episode.
-/
def serialRx (e : BridgeEpisode) (rest : Bursts) : Bursts :=
  match e with
  | .exchange _ response => rest.before response.received
  | .lateRequest .. => rest
  | .lateResponse _ bytes _ => rest.interrupted bytes

def tcpRx (e : BridgeEpisode) (rest : Bursts) : Bursts :=
  match e with
  | .exchange request _ => rest.before request.frame
  | .lateRequest bytes _ => rest.interrupted bytes
  | .lateResponse request _ _ => rest.before request.frame

def result : BridgeEpisode → Except (Stop (BridgeError SE TE)) BridgeEvent
  | .exchange request response =>
    if response.Intact then
      .ok (.transaction (.ofRequest (parseTcpRequest request.frame)))
    else
      .error (.failed .rtuCrcMismatch)
  | .lateRequest .. | .lateResponse .. => .error (.failed .timeout)

def forwarded : BridgeEpisode → List UInt8
  | .exchange request _ => rtuFrame request.body
  | .lateRequest .. => []
  | .lateResponse request _ _ => rtuFrame request.body

def reply : BridgeEpisode → List UInt8
  | .exchange request response =>
    if response.Intact then tcpFrame request.transactionId 0 response.body else []
  | .lateRequest .. | .lateResponse .. => []

theorem burstStep_ends (e : BridgeEpisode)
    : outcome (Mode.bridge.burstStep ⟨e.serialRx srx, e.tcpRx trx, stx, ttx, tid⟩)
          = (e.result : Except (Stop (BridgeError SE TE)) BridgeEvent)
        ∧ finalState (Mode.bridge.burstStep ⟨e.serialRx srx, e.tcpRx trx, stx, ttx, tid⟩
            : EStateM.Result (Stop (BridgeError SE TE)) BurstView BridgeEvent)
          = ⟨srx, trx, stx ++ e.forwarded, ttx ++ e.reply, tid⟩ := by
  unfold Mode.burstStep
  cases e with
  | exchange request response =>
    have hroom : maxFrame ≤ 512 := by decide
    have htake : (exchangeRtu (rtuFrame request.body) : Exec BurstView (BridgeError SE TE) _)
          ⟨srx.before response.received, trx, stx, ttx, tid⟩ = _ :=
      takeRtu_before response (Nat.le_refl _) hroom
    dsimp only [serialRx, tcpRx, result, forwarded, reply]
    by_cases hintact : response.Intact
    . rw [if_pos hintact] at htake
      rw [bridgeProgram_relays (takeTcp_before request) htake, if_pos hintact, if_pos hintact]
      exact ⟨rfl, rfl⟩
    . rw [if_neg hintact] at htake
      rw [bridgeProgram_fails (takeTcp_before request) htake, if_neg hintact, if_neg hintact, List.append_nil]
      exact ⟨rfl, rfl⟩
  | lateRequest bytes h =>
    unfold bridgeProgram
    dsimp only [serialRx, tcpRx, result, forwarded, reply]
    rw [Exec.bind_error (takeTcp_interrupted h), List.append_nil, List.append_nil]
    exact ⟨rfl, rfl⟩
  | lateResponse request bytes h =>
    have htake : (exchangeRtu (rtuFrame request.body) : Exec BurstView (BridgeError SE TE) _)
          ⟨srx.interrupted bytes, trx, stx, ttx, tid⟩ = _ := takeRtu_interrupted h
    dsimp only [serialRx, tcpRx, result, forwarded, reply]
    rw [bridgeProgram_fails (takeTcp_before request) htake, List.append_nil]
    exact ⟨rfl, rfl⟩

theorem next_call (e : BridgeEpisode) {s : Session S TS D SE TE}
    (h : InBursts ⟨e.serialRx srx, e.tcpRx trx, stx, ttx, tid⟩ s)
    : (Call.bridge .asyncTimed : Call TS).answer s = some e.result
        ∧ InBursts ⟨srx, trx, stx ++ e.forwarded, ttx ++ e.reply, tid⟩
            ((Call.bridge .asyncTimed : Call TS).perform s) := by
  obtain ⟨hresult, hfinal⟩
      : outcome (Mode.bridge.burstStep _) = (e.result : Except (Stop (BridgeError SE TE)) _) ∧ _ = _ :=
    e.burstStep_ends
  obtain ⟨hanswer, hafter⟩ := Call.burst_step .bridge h
  rw [Call.burstExpected, hresult] at hanswer
  rw [Call.burstAdvance, hfinal] at hafter
  exact ⟨hanswer, hafter⟩

end BridgeEpisode

/--
Half a request, a request that is half answered, one with a corrupted response and one with a good response.
-/
def bridgeEpisodes : List BridgeEpisode := [
  .lateRequest ((tcpFrame 1 0 readOne).take 7) (by decide +kernel),
  .lateResponse (readOneMessage 2) [0x11, 0x83] (by decide +kernel),
  .exchange (readOneMessage 3) hitResponse,
  .exchange (readOneMessage 4) intactResponse]

end Bridge

section Client

/--
The same for a client. Whether a server is asked depends on the request, and so does what comes from it.
-/
inductive ClientEpisode where
  | exchange (request : Reception requestLayout rtuBuf) (response : TcpMessage)
  | lateRequest (bytes : List UInt8) (h : (requestLayout.cut rtuBuf bytes).1 = .short)
  | lateResponse (request : Reception requestLayout rtuBuf) (hintact : request.Intact) (bytes : List UInt8)
      (h : (tcpLayout.cut tcpBuf bytes).1 = .short)

namespace ClientEpisode

def serialRx (e : ClientEpisode) (rest : Bursts) : Bursts :=
  match e with
  | .exchange request _ => rest.before request.received
  | .lateRequest bytes _ => rest.interrupted bytes
  | .lateResponse request _ _ _ => rest.before request.received

def tcpRx (e : ClientEpisode) (rest : Bursts) : Bursts :=
  match e with
  | .exchange request response => if request.Intact then rest.before response.frame else rest
  | .lateRequest .. => rest
  | .lateResponse _ _ bytes _ => rest.interrupted bytes

def result (e : ClientEpisode) (tid : UInt16) : Except (Stop (BridgeError SE TE)) BridgeEvent :=
  match e with
  | .exchange request response =>
    if request.Intact then
      .ok (ClientSession.report (rtuFrame request.body) (tid + 1) response.transactionId)
    else
      .error (.failed .rtuCrcMismatch)
  | .lateRequest .. | .lateResponse .. => .error (.failed .timeout)

def asked (e : ClientEpisode) (tid : UInt16) : List UInt8 :=
  match e with
  | .exchange request _ => if request.Intact then tcpFrame (tid + 1) 0 request.body else []
  | .lateRequest .. => []
  | .lateResponse request _ _ _ => tcpFrame (tid + 1) 0 request.body

def count (e : ClientEpisode) (tid : UInt16) : UInt16 :=
  match e with
  | .exchange request _ => if request.Intact then tid + 1 else tid
  | .lateRequest .. => tid
  | .lateResponse .. => tid + 1

def reply : ClientEpisode → List UInt8
  | .exchange request response => if request.Intact then rtuFrame response.body else []
  | .lateRequest .. | .lateResponse .. => []

theorem burstStep_ends (e : ClientEpisode)
    : outcome (Mode.client.burstStep ⟨e.serialRx srx, e.tcpRx trx, stx, ttx, tid⟩)
          = (e.result tid : Except (Stop (BridgeError SE TE)) BridgeEvent)
        ∧ finalState (Mode.client.burstStep ⟨e.serialRx srx, e.tcpRx trx, stx, ttx, tid⟩
            : EStateM.Result (Stop (BridgeError SE TE)) BurstView BridgeEvent)
          = ⟨srx, trx, stx ++ e.reply, ttx ++ e.asked tid, e.count tid⟩ := by
  unfold Mode.burstStep
  have htake (request : Reception requestLayout rtuBuf) (trx : Bursts)
      : (takeRtu requestLayout rtuBuf ⟨srx.before request.received, trx, stx, ttx, tid⟩
          : EStateM.Result (Stop (BridgeError SE TE)) _ _) = _ :=
    takeRtu_before request (by decide) (Nat.le_refl rtuBuf)
  cases e with
  | exchange request response =>
    have hbody : response.body ≠ [] := List.ne_nil_of_length_pos response.pos
    dsimp only [serialRx, tcpRx, result, asked, count, reply]
    by_cases hintact : request.Intact
    . simp only [if_pos hintact]
      rw [clientProgram_taken ((htake request _).trans (if_pos hintact))]
      rw [BurstView.nextId_bind, BurstView.putTcp_bind, Exec.bind_ok (takeTcp_before response)]
      rw [response.drop_frame, if_neg hbody, BurstView.putRtu_bind, response.idField_frame]
      exact ⟨rfl, rfl⟩
    . simp only [if_neg hintact]
      unfold clientProgram
      rw [Exec.bind_error ((htake request trx).trans (if_neg hintact)), List.append_nil, List.append_nil]
      exact ⟨rfl, rfl⟩
  | lateRequest bytes h =>
    unfold clientProgram
    dsimp only [serialRx, tcpRx, result, asked, count, reply]
    rw [Exec.bind_error (takeRtu_interrupted h), List.append_nil, List.append_nil]
    exact ⟨rfl, rfl⟩
  | lateResponse request hintact bytes h =>
    dsimp only [serialRx, tcpRx, result, asked, count, reply]
    rw [clientProgram_taken ((htake request _).trans (if_pos hintact))]
    rw [BurstView.nextId_bind, BurstView.putTcp_bind, Exec.bind_error (takeTcp_interrupted h), List.append_nil]
    exact ⟨rfl, rfl⟩

theorem next_call (e : ClientEpisode) {s : Session S TS D SE TE}
    (h : InBursts ⟨e.serialRx srx, e.tcpRx trx, stx, ttx, tid⟩ s)
    : (Call.client .asyncTimed : Call TS).answer s = some (e.result tid)
        ∧ InBursts ⟨srx, trx, stx ++ e.reply, ttx ++ e.asked tid, e.count tid⟩
            ((Call.client .asyncTimed : Call TS).perform s) := by
  obtain ⟨hresult, hfinal⟩
      : outcome (Mode.client.burstStep _) = (e.result tid : Except (Stop (BridgeError SE TE)) _) ∧ _ = _ :=
    e.burstStep_ends
  obtain ⟨hanswer, hafter⟩ := Call.burst_step .client h
  rw [Call.burstExpected, hresult] at hanswer
  rw [Call.burstAdvance, hfinal] at hafter
  exact ⟨hanswer, hafter⟩

end ClientEpisode

/--
Half a request, a request that the server answers with half a frame, a corrupted request and a good one.
-/
def clientEpisodes : List ClientEpisode := [
  .lateRequest [0x11, 0x03, 0x00] (by decide +kernel),
  .lateResponse intactRequest rfl ((tcpFrame 1 0 exception).take 7) (by decide +kernel),
  .exchange hitRequest (exceptionMessage 0),
  .exchange intactRequest (exceptionMessage 2)]

end Client

end ModbusBridge
