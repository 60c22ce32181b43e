import ModbusBridge.Impl.Wait
import ModbusBridge.Spec.Frame

/-!
This module contains the requests and responses that the two protocols document, each with the bounds
that make it one.
-/

namespace ModbusBridge

/--
The copies of `next` that know no timeouts.
-/
inductive Flavour.Untimed : Flavour → Prop where
  | sync : Untimed .sync
  | async : Untimed .async

structure TcpMessage where
  transactionId : UInt16
  protocolId : UInt16
  body : List UInt8
  pos : 1 ≤ body.length
  max : body.length ≤ 255

def TcpMessage.frame (m : TcpMessage) : List UInt8 := tcpFrame m.transactionId m.protocolId m.body

def readCodes : List UInt8 := [0x01, 0x02, 0x03, 0x04]

def writeCodes : List UInt8 := [0x05, 0x06, 0x0F, 0x10]

/--
The three documented layouts of a response, without the CRC.
-/
inductive ResponseLayout : List UInt8 → Prop where
  | read (unitId : UInt8) (hcode : fc ∈ readCodes) (hlen : data.length ≤ 255)
      : ResponseLayout (unitId :: fc :: UInt8.ofNat data.length :: data)
  | echo (unitId : UInt8) (hcode : fc ∈ writeCodes) (b₂ b₃ b₄ b₅ : UInt8)
      : ResponseLayout [unitId, fc, b₂, b₃, b₄, b₅]
  | exception (unitId : UInt8) (hcode : 0x80 ≤ fc) (exceptionCode : UInt8)
      : ResponseLayout [unitId, fc, exceptionCode]

structure RtuAnswer where
  body : List UInt8
  layout : ResponseLayout body

def RtuAnswer.frame (r : RtuAnswer) : List UInt8 := rtuFrame r.body

/--
The two documented layouts of a request, without the CRC.
-/
inductive RequestLayout : List UInt8 → Prop where
  | fixed (unitId : UInt8) (hcode : fc ≠ 0x0F ∧ fc ≠ 0x10) (b₂ b₃ b₄ b₅ : UInt8)
      : RequestLayout [unitId, fc, b₂, b₃, b₄, b₅]
  | counted (unitId : UInt8) (hcode : fc = 0x0F ∨ fc = 0x10) (b₂ b₃ b₄ b₅ : UInt8)
      (hlen : data.length ≤ 246)
      : RequestLayout (unitId :: fc :: b₂ :: b₃ :: b₄ :: b₅ :: UInt8.ofNat data.length :: data)

structure RtuQuery where
  body : List UInt8
  layout : RequestLayout body

def RtuQuery.frame (q : RtuQuery) : List UInt8 := rtuFrame q.body

def Transaction.ofBytes (bytes : List UInt8) : Transaction where
  unitId := bytes.getD 0 0
  functionCode := .ofByte (bytes.getD 1 0)
  startAddress := fromBeBytes (bytes.getD 2 0) (bytes.getD 3 0)
  registerCount := fromBeBytes (bytes.getD 4 0) (bytes.getD 5 0)

end ModbusBridge
