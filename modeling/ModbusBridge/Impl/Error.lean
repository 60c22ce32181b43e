/-!
This module contains the error type shared by the framing functions and the two transports.
-/

namespace ModbusBridge

/--
`SE` is the error type of the serial port and `TE` that of the TCP stream. A side that cannot fail
has the error type `Empty`.
-/
inductive ModbusError (SE TE : Type) where
  | serial (e : SE)
  | tcp (e : TE)
  | crc
  | push
  | payloadTooShort
  | invalidTransactionId
  | conversionSlice
  | rtuIllegal
  deriving DecidableEq, Repr

abbrev FrameError := ModbusError Empty Empty

def FrameError.intoCombined : FrameError → ModbusError SE TE
  | .crc => .crc
  | .push => .push
  | .payloadTooShort => .payloadTooShort
  | .invalidTransactionId => .invalidTransactionId
  | .conversionSlice => .conversionSlice
  | .rtuIllegal => .rtuIllegal

end ModbusBridge
