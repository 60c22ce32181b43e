/-!
This module contains the events and errors that a cycle of the bridge or of the client reports.
-/

namespace ModbusBridge

inductive FunctionCode where
  | readCoils
  | readDiscreteInputs
  | readHoldingRegisters
  | readInputRegisters
  | writeSingleCoil
  | writeSingleRegister
  | writeMultipleCoils
  | writeMultipleRegisters
  /-- Any other function code. It is passed through to the RTU device. -/
  | other (v : UInt8)
  deriving DecidableEq, Repr

def FunctionCode.ofByte (v : UInt8) : FunctionCode :=
  if v = 0x01 then .readCoils
  else if v = 0x02 then .readDiscreteInputs
  else if v = 0x03 then .readHoldingRegisters
  else if v = 0x04 then .readInputRegisters
  else if v = 0x05 then .writeSingleCoil
  else if v = 0x06 then .writeSingleRegister
  else if v = 0x0F then .writeMultipleCoils
  else if v = 0x10 then .writeMultipleRegisters
  else .other v

structure Transaction where
  unitId : UInt8
  functionCode : FunctionCode
  startAddress : UInt16
  registerCount : UInt16
  deriving DecidableEq, Repr

inductive Warning where
  | transactionIdMismatch (expected got : UInt16)
  deriving DecidableEq, Repr

inductive BridgeEvent where
  | transaction (t : Transaction)
  | warning (w : Warning)
  deriving DecidableEq, Repr

inductive BridgeError (SE TE : Type) where
  | tcpClosed
  | rtuClosed
  | tcpIo (e : TE)
  | rtuIo (e : SE)
  | rtuCrcMismatch
  | bufferOverflow
  | timeout
  deriving DecidableEq, Repr

end ModbusBridge
