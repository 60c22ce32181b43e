import ModbusBridge.Impl.Frame
import ModbusBridge.Rust.Slice

/-!
This module contains the framing functions once more, with every index, slice and subtraction of lengths as
the operation of the language that panics when it is out of range.
-/

namespace ModbusBridge

namespace Checked

open Rust

/--
The shift by a constant, which is less than the width at both places.
-/
def shr (v : UInt16) (n : Nat) : Option UInt16 :=
  if n < 16 then
    some (v >>> UInt16.ofNat n)
  else
    none

def crcBit (crc : UInt16) : Option UInt16 :=
  if crc &&& 1 ≠ 0 then do
    return (← shr crc 1) ^^^ 0xA001
  else
    shr crc 1

def crcByte (crc : UInt16) (byte : UInt8) : Option UInt16 :=
  Nat.repeat (· >>= crcBit) 8 (some (crc ^^^ byte.toUInt16))

def crc (data : List UInt8) : Option (List UInt8) := do
  let crc ← data.foldlM crcByte 0xFFFF
  return [crc.toUInt8, (← shr crc 8).toUInt8]

def checkCrc (frame : List UInt8) : Option (Except FrameError Unit) :=
  if frame.length < 4 then
    return .error .payloadTooShort
  else do
    let (body, rxCrc) ← Slice.splitAt frame (← Usize.sub frame.length 2)
    if (← crc body) = rxCrc then
      return .ok ()
    else
      return .error .crc

def wrapMbap (rtu : List UInt8) (transactionId : UInt16) : Option (Except FrameError TcpResponse) :=
  if rtu.length < 4 then
    return .error .payloadTooShort
  else do
    let (pdu, _crc) ← Slice.splitAt rtu (← Usize.sub rtu.length 2)
    let lenBytes := toBeBytes (UInt16.ofNat pdu.length)
    return collect [toBeBytes transactionId, modbusProto, lenBytes, pdu]

def rtuToTcp (rtu : List UInt8) (transactionId : UInt16) : Option (Except FrameError TcpResponse) :=
  wrapMbap rtu transactionId

def tcpToRtu (tcp : List UInt8) : Option (Except FrameError (RtuResponse × UInt16)) :=
  if tcp.length < 7 then
    return .error .payloadTooShort
  else do
    let transactionId := fromBeBytes (← Slice.index tcp 0) (← Slice.index tcp 1)
    let pdu ← Slice.sliceFrom tcp 6
    match collect [pdu, ← crc pdu] with
    | .ok out => return .ok (out, transactionId)
    | .error e => return .error e

def tcpRespToRtu (tcp : List UInt8) (expectedTid : UInt16) : Option (Except FrameError RtuResponse) :=
  if tcp.length < 7 then
    return .error .payloadTooShort
  else do
    let rxTid := fromBeBytes (← Slice.index tcp 0) (← Slice.index tcp 1)
    if rxTid ≠ expectedTid then
      return .error .invalidTransactionId
    else
      let pduLen := (← Slice.index tcp 5).toNat
      if tcp.length < 6 + pduLen then
        return .error .payloadTooShort
      else
        let pdu ← Slice.slice tcp 6 (6 + pduLen)
        return collect [pdu, ← crc pdu]

def rtuRespToTcp (rtu : List UInt8) (transactionId : UInt16) : Option (Except FrameError TcpResponse) :=
  wrapMbap rtu transactionId

def rtuResponseRemaining (header : List UInt8) : Option Nat := do
  let fc ← Slice.index header 1
  if fc ≥ 0x80 then
    return 2
  else if fc = 0x05 ∨ fc = 0x06 ∨ fc = 0x0F ∨ fc = 0x10 then
    return 5
  else
    Usize.add (← Slice.index header 2).toNat 2

def parseTcpRequest (tcp : List UInt8) : Option (Option RequestInfo) :=
  if tcp.length < 12 then
    return none
  else do
    let unitId ← Slice.index tcp 6
    let fc ← Slice.index tcp 7
    let start := fromBeBytes (← Slice.index tcp 8) (← Slice.index tcp 9)
    let qty := fromBeBytes (← Slice.index tcp 10) (← Slice.index tcp 11)
    return some (unitId, fc, start, qty)

def parseRtuRequest (rtu : List UInt8) : Option (Option RequestInfo) :=
  if rtu.length < 8 then
    return none
  else do
    let unitId ← Slice.index rtu 0
    let fc ← Slice.index rtu 1
    let start := fromBeBytes (← Slice.index rtu 2) (← Slice.index rtu 3)
    let qty := fromBeBytes (← Slice.index rtu 4) (← Slice.index rtu 5)
    return some (unitId, fc, start, qty)

end Checked

end ModbusBridge
