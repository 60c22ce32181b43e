import ModbusBridge.Impl.Bridge
import ModbusBridge.Impl.ClientSession
import ModbusBridge.Effect.Runs
import ModbusBridge.Spec.Trace

/-!
This module contains what the user of a bridge or a client does with it: start a session on a new
stream, and call one of the copies of `next` on the current one.
-/

namespace ModbusBridge

open Effect EmbeddedIo Session

/--
A `Bridge` runs `Connection::next`, a `Client` runs `ClientSession::next`.
-/
inductive Mode where
  | bridge
  | client

def Mode.next {S TS D SE TE : Type} [Device S SE] [Device TS TE] [ReadReady S SE] [ReadReady TS TE]
    [DelayNs D] : Mode → Flavour → Exec (Session S TS D SE TE) (BridgeError SE TE) BridgeEvent
  | .bridge => Connection.next
  | .client => ClientSession.next

/--
The loop that the crate documents: `next` is called again and again until a call fails.
-/
def Mode.run {S TS D SE TE : Type} [Device S SE] [Device TS TE] [ReadReady S SE] [ReadReady TS TE]
    [DelayNs D] (mode : Mode) : List Flavour → Exec (Session S TS D SE TE) (BridgeError SE TE) (List BridgeEvent)
  | [] => pure []
  | flavour :: flavours => do
    let event ← mode.next flavour
    let events ← mode.run flavours
    pure (event :: events)

/--
The loop around it: a new stream is accepted, and it is served until a call fails.
-/
def Mode.conversation {S TS D SE TE : Type} [Device S SE] [Device TS TE] [ReadReady S SE] [ReadReady TS TE]
    [DelayNs D] (mode : Mode) (flavours : List Flavour) (stream : TS) (s : Session S TS D SE TE)
    : EStateM.Result (Stop (BridgeError SE TE)) (Session S TS D SE TE) (List BridgeEvent) :=
  mode.run flavours (s.owner.accept stream)

inductive Call (TS : Type) where
  | accept (stream : TS)
  | bridge (flavour : Flavour)
  | client (flavour : Flavour)

namespace Call

variable {S TS D SE TE : Type} [Device S SE] [Device TS TE] [ReadReady S SE] [ReadReady TS TE]
  [DelayNs D]

def perform : Call TS → Session S TS D SE TE → Session S TS D SE TE
  | .accept stream, s => s.owner.accept stream
  | .bridge flavour, s => finalState (Connection.next flavour s)
  | .client flavour, s => finalState (ClientSession.next flavour s)

def events : Call TS → Session S TS D SE TE → List (Event SE TE)
  | .accept _, _ => []
  | .bridge flavour, s => during (Connection.next flavour) s
  | .client flavour, s => during (ClientSession.next flavour) s

end Call

namespace ClientSession

variable {S TS D SE TE : Type} [Device S SE] [Device TS TE] [ReadReady S SE] [ReadReady TS TE]
  [DelayNs D]

def advance (flavour : Flavour) (s : Session S TS D SE TE) : Session S TS D SE TE :=
  finalState (next flavour s)

/--
Whether the call reads an RTU request with success.
-/
def reads (flavour : Flavour) (s : Session S TS D SE TE) : Bool :=
  (outcome (receiveRequest flavour s)).isOk

def requestsRead (flavours : List Flavour) (s : Session S TS D SE TE) : Nat :=
  (callsOf advance flavours s).countP fun x => reads x.2 x.1

end ClientSession

end ModbusBridge
