import ModbusBridge.Impl.CheckedTransport
import ModbusBridge.Impl.ClientSession

/-!
This module contains the two versions of `next` once more, on the transports that can panic and with every index
as the operation of the language that panics when it is out of range. Nothing in the waiting for a port can panic.
-/

namespace ModbusBridge

namespace Checked

open Effect EmbeddedIo Session Rust
open MayPanic (orPanic)

variable {S TS D SE TE : Type}

namespace Connection

def rxTidAsync (rtuResp : List UInt8) : Option UInt16 :=
  match Slice.getTo rtuResp 2 with
  | some b => do
    return fromBeBytes (← Slice.index b 0) (← Slice.index b 1)
  | none => return 0

def rxTidSync (rtuResp : List UInt8) : Option UInt16 :=
  if rtuResp.length ≥ 2 then do
    return fromBeBytes (← Slice.index rtuResp 0) (← Slice.index rtuResp 1)
  else
    return 0

def rxTid : Flavour → List UInt8 → Option UInt16
  | .sync | .syncTimed => rxTidSync
  | .async | .asyncTimed => rxTidAsync

def frameReply (rxTid : List UInt8 → Option UInt16) (rtuResp : List UInt8) (tid : UInt16)
    : Option (Except (BridgeError SE TE) (TcpResponse × Option Warning)) := do
  match ← rtuRespToTcp rtuResp tid with
  | .ok r => return .ok (r, none)
  | .error .invalidTransactionId =>
    match ← rtuRespToTcp rtuResp 0 with
    | .ok fallback => return .ok (fallback, some (.transactionIdMismatch tid (← rxTid rtuResp)))
    | .error _ => return .error .bufferOverflow
  | .error _ => return .error .bufferOverflow

def cycle [Device TS TE] (receiveRequest : MayPanic (Session S TS D SE TE) (BridgeError SE TE) TcpFrame)
    (exchange : List UInt8 → MayPanic (Session S TS D SE TE) (BridgeError SE TE) RtuResponse)
    (rxTid : List UInt8 → Option UInt16)
    : MayPanic (Session S TS D SE TE) (BridgeError SE TE) BridgeEvent := do
  let tcpReq ← receiveRequest
  let (unitId, fcByte, startAddress, registerCount) :=
    (← orPanic (parseTcpRequest tcpReq.data)).getD (0, 0, 0, 0)
  let (rtuReq, tid) ←
    OptionT.lift (Exec.ofExcept ((← orPanic (tcpToRtu tcpReq.data)).mapError fun _ => .bufferOverflow))
  let rtuResp ← exchange rtuReq.data
  let (tcpResp, tidWarning) ← OptionT.lift (Exec.ofExcept (← orPanic (frameReply rxTid rtuResp.data tid)))
  MayPanic.mapErr .tcpIo (ModbusTcp.send tcpResp.data)
  match tidWarning with
  | some w => pure (.warning w)
  | none =>
    pure <| .transaction {
      unitId
      functionCode := .ofByte fcByte
      startAddress
      registerCount
    }

variable [Device S SE] [Device TS TE]

def receiveRequest [ReadReady TS TE] [DelayNs D] (flavour : Flavour)
    : MayPanic (Session S TS D SE TE) (BridgeError SE TE) TcpFrame :=
  OptionT.mk <| guarded tcpReadReady .tcpIo Session.tcpTimeoutMs ModbusTcp.listen.run Connection.listenError flavour

def exchange [ReadReady S SE] [DelayNs D] (rtuReq : List UInt8) (flavour : Flavour)
    : MayPanic (Session S TS D SE TE) (BridgeError SE TE) RtuResponse :=
  OptionT.mk <| guarded serialReadReady .rtuIo Session.rtuTimeoutMs (ModbusRtu.sendAndReceive rtuReq).run
    Connection.exchangeError flavour

def next [ReadReady S SE] [ReadReady TS TE] [DelayNs D] (flavour : Flavour)
    : MayPanic (Session S TS D SE TE) (BridgeError SE TE) BridgeEvent :=
  cycle (receiveRequest flavour) (fun rtuReq => exchange rtuReq flavour) (rxTid flavour)

end Connection

namespace ClientSession

def frameReply (rxTid : List UInt8 → Option UInt16) (tcpResp : List UInt8) (tid : UInt16)
    : Option (Except (BridgeError SE TE) (RtuResponse × Option Warning)) := do
  match ← tcpRespToRtu tcpResp tid with
  | .ok r => return .ok (r, none)
  | .error .invalidTransactionId =>
    let rxTid ← rxTid tcpResp
    match ← tcpRespToRtu tcpResp rxTid with
    | .ok fallback => return .ok (fallback, some (.transactionIdMismatch tid rxTid))
    | .error _ => return .error .bufferOverflow
  | .error _ => return .error .bufferOverflow

def cycle [Device S SE] [Device TS TE]
    (receiveRequest : MayPanic (Session S TS D SE TE) (BridgeError SE TE) RtuFrame)
    (receiveResponse : MayPanic (Session S TS D SE TE) (BridgeError SE TE) TcpFrame)
    (rxTid : List UInt8 → Option UInt16)
    : MayPanic (Session S TS D SE TE) (BridgeError SE TE) BridgeEvent := do
  let rtuReq ← receiveRequest
  let (unitId, fcByte, startAddress, registerCount) :=
    (← orPanic (parseRtuRequest rtuReq.data)).getD (0, 0, 0, 0)
  let nextTid ← OptionT.lift ModbusTcp.nextTransactionId
  let tcpReq ←
    OptionT.lift (Exec.ofExcept ((← orPanic (rtuToTcp rtuReq.data nextTid)).mapError fun _ => .bufferOverflow))
  let tid := fromBeBytes (← orPanic (Slice.index tcpReq.data 0)) (← orPanic (Slice.index tcpReq.data 1))
  MayPanic.mapErr .tcpIo (ModbusTcp.send tcpReq.data)
  let tcpResp ← receiveResponse
  let (rtuResp, tidWarning) ← OptionT.lift (Exec.ofExcept (← orPanic (frameReply rxTid tcpResp.data tid)))
  MayPanic.mapErr .rtuIo (ModbusRtu.send rtuResp.data)
  match tidWarning with
  | some w => pure (.warning w)
  | none =>
    pure <| .transaction {
      unitId
      functionCode := .ofByte fcByte
      startAddress
      registerCount
    }

variable [Device S SE] [Device TS TE]

def receiveRequest [ReadReady S SE] [DelayNs D] (flavour : Flavour)
    : MayPanic (Session S TS D SE TE) (BridgeError SE TE) RtuFrame :=
  OptionT.mk <| guarded serialReadReady .rtuIo Session.rtuTimeoutMs ModbusRtu.listen.run
    ClientSession.requestError flavour

def receiveResponse [ReadReady TS TE] [DelayNs D] (flavour : Flavour)
    : MayPanic (Session S TS D SE TE) (BridgeError SE TE) TcpFrame :=
  OptionT.mk <| guarded tcpReadReady .tcpIo Session.tcpTimeoutMs ModbusTcp.listen.run
    ClientSession.responseError flavour

def next [ReadReady S SE] [ReadReady TS TE] [DelayNs D] (flavour : Flavour)
    : MayPanic (Session S TS D SE TE) (BridgeError SE TE) BridgeEvent :=
  cycle (receiveRequest flavour) (receiveResponse flavour) (Connection.rxTid flavour)

end ClientSession

end Checked

end ModbusBridge
