import ModbusBridge.Spec.Machine
import ModbusBridge.EmbeddedIo.Bursty

/-!
This module contains what the asynchronous timed copies are for if the bytes come in bursts: a program takes a frame
from the burst that is coming in, and gives up if the burst ends before the frame does. What there was of the frame is
lost, and the next program starts with the next burst.
-/

namespace ModbusBridge

open Effect EmbeddedIo Framing

variable {SE TE : Type}

structure BurstView where
  serialRx : Bursts
  tcpRx : Bursts
  serialTx : List UInt8
  tcpTx : List UInt8
  transactionId : UInt16

namespace BurstView

/--
What a program without a deadline sees of the bursts.
-/
def view (b : BurstView) : View := ⟨b.serialRx.now, b.tcpRx.now, b.serialTx, b.tcpTx, b.transactionId⟩

def after (b : BurstView) (v : View) : BurstView :=
  ⟨⟨v.serialRx, b.serialRx.later⟩, ⟨v.tcpRx, b.tcpRx.later⟩, v.serialTx, v.tcpTx, v.transactionId⟩

def passSerial (b : BurstView) : BurstView := { b with serialRx := b.serialRx.pass }

def passTcp (b : BurstView) : BurstView := { b with tcpRx := b.tcpRx.pass }

/--
The program under a deadline: where it would find the end of its input it gives up, and a burst passes.
-/
def inTime (pass : BurstView → BurstView) (toError : ModbusError SE' TE' → BridgeError SE TE)
    (y : Exec View (ModbusError SE' TE') α) : Exec BurstView (BridgeError SE TE) α := fun b =>
  match y b.view with
  | .ok a v => .ok a (b.after v)
  | .error (.failed .payloadTooShort) v => .error (.failed .timeout) (pass (b.after v))
  | .error e v => .error (e.map toError) (b.after v)

/--
A program that needs no deadline.
-/
def atOnce (y : Exec View ε α) : Exec BurstView ε α := fun b =>
  match y b.view with
  | .ok a v => .ok a (b.after v)
  | .error e v => .error e (b.after v)

def takeTcp : Exec BurstView (BridgeError SE TE) (List UInt8) :=
  inTime passTcp (View.named .timeout) (View.cutTcp : Exec View (ModbusError Empty TE) _)

def takeRtu (L : Layout UInt8) (cap : Nat) : Exec BurstView (BridgeError SE TE) (List UInt8) :=
  inTime passSerial (View.named .timeout) (View.cutRtu L cap : Exec View (ModbusError SE Empty) _)

def exchangeRtu (request : List UInt8) : Exec BurstView (BridgeError SE TE) (List UInt8) := do
  atOnce (View.putRtu request)
  takeRtu responseLayout 512

end BurstView

open BurstView

def Mode.burstStep : Mode → Exec BurstView (BridgeError SE TE) BridgeEvent
  | .bridge => bridgeProgram takeTcp exchangeRtu (fun frame => atOnce (View.putTcp frame))
  | .client =>
    clientProgram (takeRtu requestLayout rtuBuf) (atOnce View.nextId) (fun frame => atOnce (View.putTcp frame))
      takeTcp (fun frame => atOnce (View.putRtu frame))

namespace Call

variable {S TS D : Type} [Device TS TE] [Bursty TS]

def burstExpected : Call TS → BurstView → Option (Except (Stop (BridgeError SE TE)) BridgeEvent)
  | .accept _, _ => none
  | .bridge _, b => some (outcome (Mode.bridge.burstStep b))
  | .client _, b => some (outcome (Mode.client.burstStep b))

def burstAdvance (SE : Type) : Call TS → BurstView → BurstView
  | .accept stream, b => ⟨b.serialRx, Bursty.rx stream, [], [], 0⟩
  | .bridge _, b => finalState (Mode.bridge.burstStep b : EStateM.Result (Stop (BridgeError SE TE)) _ _)
  | .client _, b => finalState (Mode.client.burstStep b : EStateM.Result (Stop (BridgeError SE TE)) _ _)

/--
A new stream or the asynchronous timed copy of `next`.
-/
inductive AsyncTimed : Call TS → Prop where
  | accept (stream : TS) : AsyncTimed (.accept stream)
  | bridge : AsyncTimed (.bridge .asyncTimed)
  | client : AsyncTimed (.client .asyncTimed)

end Call

namespace Session

variable {S TS D : Type} [Device S SE] [Device TS TE] [Bursty S] [Bursty TS] [DelayNs D]

/--
The session has the view `b` and no deadline is running. Both timeouts are set, and no silence is over before they are.
-/
structure InBursts (b : BurstView) (s : Session S TS D SE TE) : Prop where
  serialRx : Bursty.rx s.serial = b.serialRx
  tcpRx : Bursty.rx s.stream = b.tcpRx
  serialTx : Trace.serialTx s.trace = b.serialTx
  tcpTx : Trace.tcpTx s.trace = b.tcpTx
  transactionId : s.transactionId = b.transactionId
  deadline : s.deadline = none
  rtuTimeout : ∃ ms, s.rtuTimeoutMs = some ms ∧ Expires (Bursty.silence S) ms s.delay
  tcpTimeout : ∃ ms, s.tcpTimeoutMs = some ms ∧ Expires (Bursty.silence TS) ms s.delay

end Session

end ModbusBridge
