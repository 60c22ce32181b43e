import ModbusBridge.Impl.Session

/-!
This module contains what an observer can read off the trace of a session: the bytes on either line,
the frames handed to the transports and the level of the TX-enable pin.
-/

namespace ModbusBridge

open Effect EmbeddedIo

namespace Event

def serialRx : Event SE TE → List UInt8
  | .serial e => e.delivered
  | _ => []

def serialTx : Event SE TE → List UInt8
  | .serial e => e.accepted
  | _ => []

def tcpRx : Event SE TE → List UInt8
  | .tcp e => e.delivered
  | _ => []

def tcpTx : Event SE TE → List UInt8
  | .tcp e => e.accepted
  | _ => []

def rtuFrames : Event SE TE → List (List UInt8)
  | .rtuSend payload => [payload]
  | _ => []

def tcpFrames : Event SE TE → List (List UInt8)
  | .tcpSend data => [data]
  | _ => []

def isSerialRead : Event SE TE → Bool
  | .serial e => e.isRead
  | _ => false

def isTcpRead : Event SE TE → Bool
  | .tcp e => e.isRead
  | _ => false

def isSerialReady : Event SE TE → Bool
  | .serial (.readReady (.ok true)) => true
  | _ => false

def isTcpReady : Event SE TE → Bool
  | .tcp (.readReady (.ok true)) => true
  | _ => false

def isSerialWriteFault : Event SE TE → Bool
  | .serial (.write _ (.error _)) => true
  | .serial (.flush (.error _)) => true
  | _ => false

def isSerialWrite : Event SE TE → Bool
  | .serial e => e.isWrite
  | _ => false

/--
What a write or a flush of the serial port fails with.
-/
def serialWriteFault : Event SE TE → Option (Stop SE)
  | .serial (.write _ (.error e)) => some e
  | .serial (.flush (.error e)) => some e
  | _ => none

def pin (high : Bool) : Event SE TE → Bool
  | .txEn high => high
  | _ => high

/--
Asking whether a port is ready, and waiting for it.
-/
def isPoll : Event SE TE → Bool
  | .serial (.readReady _) => true
  | .tcp (.readReady _) => true
  | .delayMs _ => true
  | _ => false

def isFailedPoll : Event SE TE → Bool
  | .serial (.readReady (.error _)) => true
  | .tcp (.readReady (.error _)) => true
  | _ => false

def pins : Event SE TE → List Bool
  | .txEn high => [high]
  | _ => []

end Event

namespace Trace

variable {SE TE : Type}

def serialRx (t : List (Event SE TE)) : List UInt8 := t.flatMap Event.serialRx

def serialTx (t : List (Event SE TE)) : List UInt8 := t.flatMap Event.serialTx

def tcpRx (t : List (Event SE TE)) : List UInt8 := t.flatMap Event.tcpRx

def tcpTx (t : List (Event SE TE)) : List UInt8 := t.flatMap Event.tcpTx

def rtuFrames (t : List (Event SE TE)) : List (List UInt8) := t.flatMap Event.rtuFrames

def tcpFrames (t : List (Event SE TE)) : List (List UInt8) := t.flatMap Event.tcpFrames

def pins (t : List (Event SE TE)) : List Bool := t.flatMap Event.pins

/--
Everything but the polls.
-/
def operations (t : List (Event SE TE)) : List (Event SE TE) := t.filter fun e => !e.isPoll

def pinAfter (high : Bool) (t : List (Event SE TE)) : Bool := t.foldl Event.pin high

/--
The events that happen while the TX-enable line is high.
-/
def whileHigh (high : Bool) : List (Event SE TE) → List (Event SE TE)
  | [] => []
  | e :: t => (if high then [e] else []) ++ whileHigh (e.pin high) t

/--
A transmission is cut short: a write, or a flush other than the one it begins with, fails or is dropped.
-/
def cutShort : List (Event SE TE) → Bool
  | [] => false
  | .rtuSend _ :: .serial (.flush _) :: t => cutShort t
  | .serial (.write _ (.error _)) :: _ => true
  | .serial (.flush (.error _)) :: _ => true
  | _ :: t => cutShort t

end Trace

def Session.during (x : Exec (Session S TS D SE TE) ε α) (s : Session S TS D SE TE)
    : List (Event SE TE) :=
  (finalState (x s)).trace.drop s.trace.length

end ModbusBridge
