import ModbusBridge.Lemmas.Cut
import ModbusBridge.Spec.Run
import ModbusBridge.Spec.View

/-!
This module contains what the two modes are for, as programs on four streams of bytes: a program takes the first
frame from a stream, however it may be delivered, and puts a frame on a stream.
-/

namespace ModbusBridge

open Effect EmbeddedIo Framing

variable {SE TE : Type}

namespace View

/--
What becomes of a piece of a stream.
-/
def frameOf : Piece UInt8 → Except (ModbusError SE TE) (List UInt8)
  | .whole frame => .ok frame
  | .oversized => .error .push
  | .short => .error .payloadTooShort

def verified (frame : List UInt8) : Except (ModbusError SE TE) (List UInt8) :=
  if checkCrc frame = .ok () then .ok frame else .error .crc

/--
The first TCP frame of the stream, or the error of the transport.
-/
def cutTcp : Exec View (ModbusError Empty TE) (List UInt8) := fun v =>
  let (piece, tcpRx) := tcpLayout.cut tcpBuf v.tcpRx
  Exec.ofExcept (frameOf piece) { v with tcpRx }

/--
The first frame of the serial line by one of the two layouts. The CRC of the frame has to match.
-/
def cutRtu (L : Layout UInt8) (cap : Nat) : Exec View (ModbusError SE Empty) (List UInt8) := fun v =>
  let (piece, serialRx) := L.cut cap v.serialRx
  Exec.ofExcept (frameOf piece >>= verified) { v with serialRx }

/--
The names that `next` gives these errors. What the end of a stream is called depends on where it is found.
-/
def named (closed : BridgeError SE TE) : ModbusError SE' TE' → BridgeError SE TE
  | .payloadTooShort => closed
  | .crc => .rtuCrcMismatch
  | _ => .bufferOverflow

def takeTcp : Exec View (BridgeError SE TE) (List UInt8) :=
  Exec.mapErr (named .tcpClosed) (cutTcp : Exec View (ModbusError Empty TE) _)

def takeRtu (L : Layout UInt8) (cap : Nat) (closed : BridgeError SE TE) : Exec View (BridgeError SE TE) (List UInt8) :=
  Exec.mapErr (named closed) (cutRtu L cap : Exec View (ModbusError SE Empty) _)

def putTcp (frame : List UInt8) : Exec View ε Unit := fun v => .ok () { v with tcpTx := v.tcpTx ++ frame }

def putRtu (frame : List UInt8) : Exec View ε Unit := fun v => .ok () { v with serialTx := v.serialTx ++ frame }

/--
A request is sent and its response taken.
-/
def exchangeRtu (request : List UInt8) : Exec View (BridgeError SE TE) (List UInt8) := do
  putRtu request
  takeRtu responseLayout 512 .rtuCrcMismatch

def nextId : Exec View ε UInt16 := fun v =>
  .ok (v.transactionId + 1) { v with transactionId := v.transactionId + 1 }

/--
A blocking timed copy gives up if there is nothing to wait for. The other copies do not wait.
-/
def await (rx : View → List UInt8) (timeoutMs : Option UInt32)
    : Flavour → Exec View (BridgeError SE TE) Unit
  | .syncTimed => fun v =>
    if timeoutMs.isSome ∧ rx v = [] then
      .error (.failed .timeout) v
    else
      .ok () v
  | .sync | .async | .asyncTimed => pure ()

end View

open View

def withoutCrc (rtu : List UInt8) : List UInt8 := rtu.take (rtu.length - 2)

/--
The program of a bridge in general: how it takes a request, exchanges it for a response and puts the answer on the
stream is left open, and so is the state.
-/
def bridgeProgram (takeRequest : Exec τ (BridgeError SE TE) (List UInt8))
    (exchange : List UInt8 → Exec τ (BridgeError SE TE) (List UInt8))
    (putAnswer : List UInt8 → Exec τ (BridgeError SE TE) Unit) : Exec τ (BridgeError SE TE) BridgeEvent := do
  let request ← takeRequest
  let body := request.drop 6
  if body = [] then
    Exec.fail .bufferOverflow
  else
    let response ← exchange (rtuFrame body)
    putAnswer (tcpFrame (idField request) 0 (withoutCrc response))
    pure (.transaction (.ofRequest (parseTcpRequest request)))

def clientProgram (takeRequest : Exec τ (BridgeError SE TE) (List UInt8)) (nextId : Exec τ (BridgeError SE TE) UInt16)
    (putRequest : List UInt8 → Exec τ (BridgeError SE TE) Unit)
    (takeResponse : Exec τ (BridgeError SE TE) (List UInt8))
    (putAnswer : List UInt8 → Exec τ (BridgeError SE TE) Unit) : Exec τ (BridgeError SE TE) BridgeEvent := do
  let request ← takeRequest
  let id ← nextId
  putRequest (tcpFrame id 0 (withoutCrc request))
  let response ← takeResponse
  let body := response.drop 6
  if body = [] then
    Exec.fail .bufferOverflow
  else
    putAnswer (rtuFrame body)
    if idField response = id then
      pure (.transaction (.ofRequest (parseRtuRequest request)))
    else
      pure (.warning (.transactionIdMismatch id (idField response)))

/--
The program of a bridge that may have to wait for its ports. The serial port has to be ready before the request is sent.
-/
def bridgeStepAfter (tcpWait rtuWait : Exec View (BridgeError SE TE) Unit)
    : Exec View (BridgeError SE TE) BridgeEvent :=
  bridgeProgram (tcpWait >>= fun _ => takeTcp) (fun request => rtuWait >>= fun _ => exchangeRtu request) putTcp

def clientStepAfter (rtuWait tcpWait : Exec View (BridgeError SE TE) Unit)
    : Exec View (BridgeError SE TE) BridgeEvent :=
  clientProgram (rtuWait >>= fun _ => takeRtu requestLayout rtuBuf .rtuClosed) nextId putTcp
    (tcpWait >>= fun _ => takeTcp) putRtu

def bridgeStep : Exec View (BridgeError SE TE) BridgeEvent := bridgeProgram takeTcp exchangeRtu putTcp

def clientStep : Exec View (BridgeError SE TE) BridgeEvent :=
  clientProgram (takeRtu requestLayout rtuBuf .rtuClosed) nextId putTcp takeTcp putRtu

structure Timeouts where
  rtuMs : Option UInt32
  tcpMs : Option UInt32

def Session.timeouts {S TS D : Type} (s : Session S TS D SE TE) : Timeouts where
  rtuMs := s.rtuTimeoutMs
  tcpMs := s.tcpTimeoutMs

/--
The program of each of the four copies.
-/
def Mode.stepOf (mode : Mode) (flavour : Flavour) (timeouts : Timeouts) : Exec View (BridgeError SE TE) BridgeEvent :=
  let rtuWait := await View.serialRx timeouts.rtuMs flavour
  let tcpWait := await View.tcpRx timeouts.tcpMs flavour
  match mode with
  | .bridge => bridgeStepAfter tcpWait rtuWait
  | .client => clientStepAfter rtuWait tcpWait

def Mode.step : Mode → Exec View (BridgeError SE TE) BridgeEvent
  | .bridge => bridgeStep
  | .client => clientStep

def Mode.steps (mode : Mode) : Nat → Exec View (BridgeError SE TE) (List BridgeEvent)
  | 0 => pure []
  | n + 1 => do
    let event ← mode.step
    let events ← mode.steps n
    pure (event :: events)

namespace Call

variable {S TS D : Type} [Device S SE] [Device TS TE] [ReadReady S SE] [ReadReady TS TE] [DelayNs D]

/--
What the user of a session gets from a call. A new stream is accepted without any answer.
-/
def answer : Call TS → Session S TS D SE TE → Option (Except (Stop (BridgeError SE TE)) BridgeEvent)
  | .accept _, _ => none
  | .bridge flavour, s => some (outcome (Mode.bridge.next flavour s))
  | .client flavour, s => some (outcome (Mode.client.next flavour s))

/--
The answer that the program of the mode gives, whichever of its copies is called.
-/
def expected : Call TS → View → Option (Except (Stop (BridgeError SE TE)) BridgeEvent)
  | .accept _, _ => none
  | .bridge _, v => some (outcome (Mode.bridge.step v))
  | .client _, v => some (outcome (Mode.client.step v))

/--
The serial line outlives the stream. The transmitters are empty again, since a session records what it has sent.
-/
def advance (SE : Type) [Lossless TS] : Call TS → View → View
  | .accept stream, v => ⟨v.serialRx, Lossless.rx stream, [], [], 0⟩
  | .bridge _, v => finalState ((bridgeStep : Exec View (BridgeError SE TE) BridgeEvent) v)
  | .client _, v => finalState ((clientStep : Exec View (BridgeError SE TE) BridgeEvent) v)

/--
The answer of the copy that is called.
-/
def expectedOf (timeouts : Timeouts) : Call TS → View → Option (Except (Stop (BridgeError SE TE)) BridgeEvent)
  | .accept _, _ => none
  | .bridge flavour, v => some (outcome (Mode.bridge.stepOf flavour timeouts v))
  | .client flavour, v => some (outcome (Mode.client.stepOf flavour timeouts v))

def advanceOf (SE : Type) [Lossless TS] (timeouts : Timeouts) : Call TS → View → View
  | .accept stream, v => ⟨v.serialRx, Lossless.rx stream, [], [], 0⟩
  | .bridge flavour, v =>
    finalState (Mode.bridge.stepOf flavour timeouts v : EStateM.Result (Stop (BridgeError SE TE)) View BridgeEvent)
  | .client flavour, v =>
    finalState (Mode.client.stepOf flavour timeouts v : EStateM.Result (Stop (BridgeError SE TE)) View BridgeEvent)

/--
A stream whose reads do not fail, or an untimed copy of `next`.
-/
inductive Steady [Lossless TS] : Call TS → Prop where
  | accept (h : Lossless.faults stream = 0) : Steady (.accept stream)
  | bridge (h : Flavour.Untimed flavour) : Steady (.bridge flavour)
  | client (h : Flavour.Untimed flavour) : Steady (.client flavour)

end Call

end ModbusBridge
