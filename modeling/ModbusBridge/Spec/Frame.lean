import ModbusBridge.Impl.Event
import ModbusBridge.Impl.Frame
import ModbusBridge.Impl.Tcp

/-!
This module contains the two frame formats of Modbus as the protocol defines them: an MBAP header in
front of a unit id and PDU, and a unit id and PDU followed by their CRC.
-/

namespace ModbusBridge

/--
The MBAP header up to and including the length field, which counts the bytes that follow it.
-/
def mbap (transactionId protocolId : UInt16) (len : Nat) : List UInt8 :=
  toBeBytes transactionId ++ toBeBytes protocolId ++ toBeBytes (UInt16.ofNat len)

def tcpFrame (transactionId protocolId : UInt16) (body : List UInt8) : List UInt8 :=
  mbap transactionId protocolId body.length ++ body

def rtuFrame (body : List UInt8) : List UInt8 := body ++ crc body

def idField (tcp : List UInt8) : UInt16 := fromBeBytes (tcp.getD 0 0) (tcp.getD 1 0)

def lengthField (tcp : List UInt8) : Nat :=
  (fromBeBytes (tcp.getD 4 0) (tcp.getD 5 0)).toNat

def requestLength (rtu : List UInt8) : Nat :=
  if rtu.getD 1 0 = 0x0F ∨ rtu.getD 1 0 = 0x10 then
    9 + (rtu.getD 6 0).toNat
  else
    8

/--
Bit `i` of a frame in line order: byte after byte, and the low bit of each byte first.
-/
def bitAt (frame : List UInt8) (i : Nat) : Bool := (frame.getD (i / 8) 0).toBitVec.getLsbD (i % 8)

/--
The length that the code expects of an RTU response from its first three bytes.
-/
def responseLength (rtu : List UInt8) : Nat :=
  3 + rtuResponseRemaining #v[rtu.getD 0 0, rtu.getD 1 0, rtu.getD 2 0]

/--
All of a TCP frame is there, or more of it than there is room for.
-/
def TcpComplete (tcp : List UInt8) : Prop :=
  min (6 + lengthField tcp) (tcpBuf + 1) ≤ tcp.length

def RtuComplete (rtu : List UInt8) : Prop :=
  rtu.length = responseLength rtu ∧ checkCrc rtu = .ok ()

/--
All of an RTU request is there, but its CRC does not match.
-/
def BrokenRequest (rtu : List UInt8) : Prop :=
  rtu.length = requestLength rtu ∧ checkCrc rtu = .error .crc

/--
What a read of the header of a TCP request gets ends the request: nothing, or a header that announces nothing.
-/
def EndsRequest (got : List UInt8) : Prop := got = [] ∨ (got.length = 6 ∧ lengthField got = 0)

def Transaction.ofRequest (info : Option RequestInfo) : Transaction :=
  let (unitId, fcByte, startAddress, registerCount) := info.getD (0, 0, 0, 0)
  { unitId, functionCode := .ofByte fcByte, startAddress, registerCount }

end ModbusBridge
