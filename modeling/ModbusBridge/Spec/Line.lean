import ModbusBridge.Impl.Session

/-!
This module contains the discipline of the serial line: in which order the port is flushed, the TX-enable pin moved
and the payload written, and that nothing else happens in between.
-/

namespace ModbusBridge

open EmbeddedIo

/--
How far a transmission has come.
-/
inductive Line where
  | free
  | called (payload : List UInt8)
  | drained (payload : List UInt8)
  /-- The pin is high, and `rest` has not been accepted yet. -/
  | driven (rest : List UInt8)
  | emptied
  deriving DecidableEq

/--
A fault ends a transmission wherever it is.
-/
def Line.step {SE TE : Type} : Line → Event SE TE → Option Line
  | .free, .rtuSend payload => some (.called payload)
  | .free, .serial (.read _ _) => some .free
  | .free, .serial (.readReady _) => some .free
  | .free, .tcpSend _ => some .free
  | .free, .tcp _ => some .free
  | .free, .delayMs _ => some .free
  | .called payload, .serial (.flush (.ok _)) => some (.drained payload)
  | .called _, .serial (.flush (.error _)) => some .free
  | .drained payload, .txEn true => some (.driven payload)
  | .driven rest, .serial (.write buf (.ok n)) =>
    if buf = rest ∧ 0 < n ∧ n ≤ rest.length then some (.driven (rest.drop n)) else none
  | .driven rest, .serial (.write buf (.error _)) => if buf = rest ∧ rest ≠ [] then some .free else none
  | .driven [], .serial (.flush (.ok _)) => some .emptied
  | .driven [], .serial (.flush (.error _)) => some .free
  | .emptied, .txEn false => some .free
  | _, _ => none

end ModbusBridge
