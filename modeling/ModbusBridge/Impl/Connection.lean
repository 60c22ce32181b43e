import ModbusBridge.Impl.Rtu
import ModbusBridge.Impl.Tcp
import ModbusBridge.Impl.Wait

/-!
This module contains bridge mode: the four copies of `Connection::next`.
-/

namespace ModbusBridge

open Effect EmbeddedIo Session

namespace Connection

variable {S TS D SE TE : Type}

/--
How a failed `ModbusTcp::listen` is reported. The asynchronous timed copy has no arm for `Push`.
-/
def listenError : Flavour → ModbusError Empty TE → BridgeError SE TE
  | .asyncTimed => fun
    | .payloadTooShort => .tcpClosed
    | .tcp te => .tcpIo te
    | _ => .bufferOverflow
  | .sync | .syncTimed | .async => fun
    | .payloadTooShort => .tcpClosed
    | .tcp te => .tcpIo te
    | .push => .bufferOverflow
    | _ => .bufferOverflow

def exchangeError : Flavour → ModbusError SE Empty → BridgeError SE TE
  | _, .serial se => .rtuIo se
  | _, .crc => .rtuCrcMismatch
  | _, .payloadTooShort => .rtuCrcMismatch
  | _, _ => .bufferOverflow

/--
The first two bytes of the response: `get(..2)` in the asynchronous copies.
-/
def rxTidAsync (rtuResp : List UInt8) : UInt16 :=
  match rtuResp with
  | b0 :: b1 :: _ => fromBeBytes b0 b1
  | _ => 0

/--
The first two bytes of the response: a length test and indexing in the blocking copies.
-/
def rxTidSync (rtuResp : List UInt8) : UInt16 :=
  if h : rtuResp.length ≥ 2 then
    fromBeBytes rtuResp[0] rtuResp[1]
  else
    0

def frameReply (rxTid : List UInt8 → UInt16) (rtuResp : List UInt8) (tid : UInt16)
    : Except (BridgeError SE TE) (TcpResponse × Option Warning) :=
  match rtuRespToTcp rtuResp tid with
  | .ok r => .ok (r, none)
  | .error .invalidTransactionId =>
    match rtuRespToTcp rtuResp 0 with
    | .ok fallback => .ok (fallback, some (.transactionIdMismatch tid (rxTid rtuResp)))
    | .error _ => .error .bufferOverflow
  | .error _ => .error .bufferOverflow

/--
The body that the four copies share. They differ in how they receive the request, in how they
exchange it for a response on the serial line, and in how they read an id out of a response.
-/
def cycle [Device TS TE] (receiveRequest : Exec (Session S TS D SE TE) (BridgeError SE TE) TcpFrame)
    (exchange : List UInt8 → Exec (Session S TS D SE TE) (BridgeError SE TE) RtuResponse)
    (rxTid : List UInt8 → UInt16)
    : Exec (Session S TS D SE TE) (BridgeError SE TE) BridgeEvent := do
  let tcpReq ← receiveRequest
  let (unitId, fcByte, startAddress, registerCount) :=
    (parseTcpRequest tcpReq.data).getD (0, 0, 0, 0)
  let (rtuReq, tid) ← Exec.ofExcept ((tcpToRtu tcpReq.data).mapError fun _ => .bufferOverflow)
  let rtuResp ← exchange rtuReq.data
  let (tcpResp, tidWarning) ← Exec.ofExcept (frameReply rxTid rtuResp.data tid)
  Exec.mapErr .tcpIo (ModbusTcp.send tcpResp.data)
  match tidWarning with
  | some w => pure (.warning w)
  | none =>
    pure <| .transaction {
      unitId
      functionCode := .ofByte fcByte
      startAddress
      registerCount
    }

variable [Device S SE] [Device TS TE]

def receiveRequest [ReadReady TS TE] [DelayNs D]
    : Flavour → Exec (Session S TS D SE TE) (BridgeError SE TE) TcpFrame :=
  guarded tcpReadReady .tcpIo Session.tcpTimeoutMs ModbusTcp.listen listenError

def exchange [ReadReady S SE] [DelayNs D] (rtuReq : List UInt8)
    : Flavour → Exec (Session S TS D SE TE) (BridgeError SE TE) RtuResponse :=
  guarded serialReadReady .rtuIo Session.rtuTimeoutMs (ModbusRtu.sendAndReceive rtuReq)
    exchangeError

def rxTid : Flavour → List UInt8 → UInt16
  | .sync | .syncTimed => rxTidSync
  | .async | .asyncTimed => rxTidAsync

def next [ReadReady S SE] [ReadReady TS TE] [DelayNs D] (flavour : Flavour)
    : Exec (Session S TS D SE TE) (BridgeError SE TE) BridgeEvent :=
  cycle (receiveRequest flavour) (fun rtuReq => exchange rtuReq flavour) (rxTid flavour)

end Connection

end ModbusBridge
