import ModbusBridge.EmbeddedIo.Lossless
import ModbusBridge.Spec.Trace

/-!
This module contains the abstract state of a session on lossless devices: four streams of bytes and the
transaction id.
-/

namespace ModbusBridge

open EmbeddedIo

structure View where
  serialRx : List UInt8
  tcpRx : List UInt8
  serialTx : List UInt8
  tcpTx : List UInt8
  transactionId : UInt16

namespace Session

variable {S TS D SE TE : Type} [Device S SE] [Device TS TE] [Lossless S] [Lossless TS]

/--
The session has the view `v`, no deadline is running, and its ports are good enough for the code: it
survives ten failed reads of the serial port and none of the TCP stream.
-/
structure At (v : View) (s : Session S TS D SE TE) : Prop where
  serialRx : Lossless.rx s.serial = v.serialRx
  tcpRx : Lossless.rx s.stream = v.tcpRx
  serialTx : Trace.serialTx s.trace = v.serialTx
  tcpTx : Trace.tcpTx s.trace = v.tcpTx
  transactionId : s.transactionId = v.transactionId
  faults : Lossless.faults s.serial ≤ 10
  steady : Lossless.faults s.stream = 0
  deadline : s.deadline = none

end Session

end ModbusBridge
