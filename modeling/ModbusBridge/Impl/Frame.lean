import ModbusBridge.Heapless.Vec
import ModbusBridge.Impl.Error

/-!
This module contains the pure framing functions: CRC, MBAP header and the conversions between RTU
and TCP frames. Byte slices are lists of bytes.
-/

namespace ModbusBridge

/--
Capacity of the buffers that the conversions write to.
-/
abbrev TcpResponse := Heapless.Vec UInt8 512
abbrev RtuResponse := Heapless.Vec UInt8 512

def modbusProto : List UInt8 := [0, 0]

def toBeBytes (v : UInt16) : List UInt8 := [(v >>> 8).toUInt8, v.toUInt8]

def fromBeBytes (hi lo : UInt8) : UInt16 := (hi.toUInt16 <<< 8) ||| lo.toUInt16

def crcBit (crc : UInt16) : UInt16 :=
  if crc &&& 1 ≠ 0 then
    (crc >>> 1) ^^^ 0xA001
  else
    crc >>> 1

def crcByte (crc : UInt16) (byte : UInt8) : UInt16 :=
  Nat.repeat crcBit 8 (crc ^^^ byte.toUInt16)

/--
The Modbus CRC-16 as the pair `[lo, hi]`.
-/
def crc (data : List UInt8) : List UInt8 :=
  let crc := data.foldl crcByte 0xFFFF
  [crc.toUInt8, (crc >>> 8).toUInt8]

def checkCrc (frame : List UInt8) : Except FrameError Unit :=
  if frame.length < 4 then
    .error .payloadTooShort
  else
    let (body, rxCrc) := frame.splitAt (frame.length - 2)
    if crc body = rxCrc then
      .ok ()
    else
      .error .crc

/--
Append all parts to an empty buffer. Every append is carried out, whether or not an earlier one
failed, and any failure is reported as `ConversionSlice`.
-/
def collect (parts : List (List UInt8)) : Except FrameError (Heapless.Vec UInt8 512) :=
  let (ok, out) := Heapless.Vec.empty.extendAll parts
  if ok then
    .ok out
  else
    .error .conversionSlice

/--
Replace the CRC of an RTU frame by an MBAP header. `rtu_to_tcp` and `rtu_resp_to_tcp` share this
body.
-/
def wrapMbap (rtu : List UInt8) (transactionId : UInt16) : Except FrameError TcpResponse :=
  if rtu.length < 4 then
    .error .payloadTooShort
  else
    let (pdu, _crc) := rtu.splitAt (rtu.length - 2)
    let lenBytes := toBeBytes (UInt16.ofNat pdu.length)
    collect [toBeBytes transactionId, modbusProto, lenBytes, pdu]

def rtuToTcp (rtu : List UInt8) (transactionId : UInt16) : Except FrameError TcpResponse :=
  wrapMbap rtu transactionId

def tcpToRtu (tcp : List UInt8) : Except FrameError (RtuResponse × UInt16) :=
  if h : tcp.length < 7 then
    .error .payloadTooShort
  else
    let transactionId := fromBeBytes tcp[0] tcp[1]
    let pdu := tcp.drop 6
    match collect [pdu, crc pdu] with
    | .ok out => .ok (out, transactionId)
    | .error e => .error e

def tcpRespToRtu (tcp : List UInt8) (expectedTid : UInt16) : Except FrameError RtuResponse :=
  if h : tcp.length < 7 then
    .error .payloadTooShort
  else
    let rxTid := fromBeBytes tcp[0] tcp[1]
    if rxTid ≠ expectedTid then
      .error .invalidTransactionId
    else
      let pduLen := tcp[5].toNat
      if tcp.length < 6 + pduLen then
        .error .payloadTooShort
      else
        let pdu := (tcp.drop 6).take pduLen
        collect [pdu, crc pdu]

def rtuRespToTcp (rtu : List UInt8) (transactionId : UInt16) : Except FrameError TcpResponse :=
  wrapMbap rtu transactionId

/--
The number of bytes that follow the first three of an RTU response. A response to a function code
that is neither an exception nor a write echo is taken to carry its byte count in the third byte.
-/
def rtuResponseRemaining (header : Vector UInt8 3) : Nat :=
  if header[1] ≥ 0x80 then
    2
  else if header[1] = 0x05 ∨ header[1] = 0x06 ∨ header[1] = 0x0F ∨ header[1] = 0x10 then
    5
  else
    header[2].toNat + 2

abbrev RequestInfo := UInt8 × UInt8 × UInt16 × UInt16

def parseTcpRequest (tcp : List UInt8) : Option RequestInfo :=
  if h : tcp.length < 12 then
    none
  else
    some (tcp[6], tcp[7], fromBeBytes tcp[8] tcp[9], fromBeBytes tcp[10] tcp[11])

def parseRtuRequest (rtu : List UInt8) : Option RequestInfo :=
  if h : rtu.length < 8 then
    none
  else
    some (rtu[0], rtu[1], fromBeBytes rtu[2] rtu[3], fromBeBytes rtu[4] rtu[5])

end ModbusBridge
