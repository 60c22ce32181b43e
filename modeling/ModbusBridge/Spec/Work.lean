import Mathlib.Algebra.GroupWithZero.Nat
import ModbusBridge.Lemmas.Session
import ModbusBridge.Spec.Run

/-!
This module contains how much work a call may do at most: what it does with either port, with the pin and with the
timer, where each kind of event has a weight of its own.
-/

namespace ModbusBridge

variable {SE TE : Type} (w : Event.Kind → Nat)

def Trace.work (t : List (Event SE TE)) : Nat := (t.map fun e => w e.kind).sum

/--
A transmission of `n` bytes. In the worst case the port accepts one byte with every write.
-/
def ModbusRtu.sendWork (n : Nat) : Nat := w .rtuSend + 2 * w .serialFlush + 2 * w .txEn + n * w .serialWrite

def pollWork (ready : Event.Kind) : Option UInt32 → Nat
  | some timeoutMs => timeoutMs.toNat * (w ready + w .delayMs) + w ready
  | none => 0

/--
Only the blocking timed copy polls.
-/
def Flavour.polls : Flavour → Option UInt32 → Option UInt32
  | .syncTimed, timeoutMs => timeoutMs
  | _, _ => none

/--
A request of the client or a response of the server is read until there is no more room for it. The RTU transport
also reads again after up to ten faults in each piece that it wants.
-/
def Mode.work (flavour : Flavour) (rtuTimeoutMs tcpTimeoutMs : Option UInt32) : Mode → Nat
  | .bridge =>
    pollWork w .tcpReady (flavour.polls tcpTimeoutMs) + 262 * w .tcpRead
      + (pollWork w .serialReady (flavour.polls rtuTimeoutMs) + (ModbusRtu.sendWork w 257 + 2840 * w .serialRead))
      + (w .tcpSend + 264 * w .tcpWrite)
  | .client =>
    pollWork w .serialReady (flavour.polls rtuTimeoutMs) + 2766 * w .serialRead
      + (w .tcpSend + 259 * w .tcpWrite)
      + (pollWork w .tcpReady (flavour.polls tcpTimeoutMs) + 262 * w .tcpRead)
      + ModbusRtu.sendWork w 257

def Call.work (rtuTimeoutMs tcpTimeoutMs : Option UInt32) : Call TS → Nat
  | .accept _ => 0
  | .bridge flavour => Mode.bridge.work w flavour rtuTimeoutMs tcpTimeoutMs
  | .client flavour => Mode.client.work w flavour rtuTimeoutMs tcpTimeoutMs

end ModbusBridge
