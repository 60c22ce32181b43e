import ModbusBridge.Impl.Session

/-!
This module contains the owners of the serial port. `Bridge` and `Client` have the same fields, and
`accept` and `connect` the same body, so one definition of each serves both modes.
-/

namespace ModbusBridge

structure Bridge (S D : Type) where
  /-- `ModbusRtu::serial` -/
  serial : S
  /-- `ModbusRtu::tx_en` -/
  txEn : Bool
  rtuTimeoutMs : Option UInt32
  tcpTimeoutMs : Option UInt32
  delay : D

namespace Bridge

variable {S TS D SE TE : Type}

/--
`Bridge::accept`, or `Client::connect`: a session on a new stream.
-/
def accept (b : Bridge S D) (stream : TS) : Session S TS D SE TE where
  serial := b.serial
  txEn := b.txEn
  stream
  transactionId := 0
  rtuTimeoutMs := b.rtuTimeoutMs
  tcpTimeoutMs := b.tcpTimeoutMs
  delay := b.delay
  deadline := none
  trace := []

end Bridge

namespace Session

variable {S TS D SE TE : Type}

def owner (s : Session S TS D SE TE) : Bridge S D where
  serial := s.serial
  txEn := s.txEn
  rtuTimeoutMs := s.rtuTimeoutMs
  tcpTimeoutMs := s.tcpTimeoutMs
  delay := s.delay

end Session

end ModbusBridge
