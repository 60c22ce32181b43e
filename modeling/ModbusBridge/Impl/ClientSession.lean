import ModbusBridge.Impl.Connection

/-!
This module contains client mode: the four copies of `ClientSession::next`.
-/

namespace ModbusBridge

open Effect EmbeddedIo Session

namespace ClientSession

variable {S TS D SE TE : Type}

def requestError : Flavour → ModbusError SE Empty → BridgeError SE TE
  | _, .serial se => .rtuIo se
  | _, .crc => .rtuCrcMismatch
  | _, .payloadTooShort => .rtuClosed
  | _, _ => .bufferOverflow

/--
How a failed `ModbusTcp::listen` is reported. The asynchronous copies have no arm for `Push`.
-/
def responseError : Flavour → ModbusError Empty TE → BridgeError SE TE
  | .async | .asyncTimed => fun
    | .payloadTooShort => .tcpClosed
    | .tcp te => .tcpIo te
    | _ => .bufferOverflow
  | .sync | .syncTimed => fun
    | .payloadTooShort => .tcpClosed
    | .tcp te => .tcpIo te
    | .push => .bufferOverflow
    | _ => .bufferOverflow

/--
The reply to the RTU master, with the warning that goes with it. A frame with another id than the
one of the request is converted under its own id.
-/
def frameReply (rxTid : List UInt8 → UInt16) (tcpResp : List UInt8) (tid : UInt16)
    : Except (BridgeError SE TE) (RtuResponse × Option Warning) :=
  match tcpRespToRtu tcpResp tid with
  | .ok r => .ok (r, none)
  | .error .invalidTransactionId =>
    match tcpRespToRtu tcpResp (rxTid tcpResp) with
    | .ok fallback => .ok (fallback, some (.transactionIdMismatch tid (rxTid tcpResp)))
    | .error _ => .error .bufferOverflow
  | .error _ => .error .bufferOverflow

/--
The body that the four copies share. They differ in how they receive the request from the serial line
and the response from the TCP stream, and in how they read an id out of a response.
-/
def cycle [Device S SE] [Device TS TE]
    (receiveRequest : Exec (Session S TS D SE TE) (BridgeError SE TE) RtuFrame)
    (receiveResponse : Exec (Session S TS D SE TE) (BridgeError SE TE) TcpFrame)
    (rxTid : List UInt8 → UInt16)
    : Exec (Session S TS D SE TE) (BridgeError SE TE) BridgeEvent := do
  let rtuReq ← receiveRequest
  let (unitId, fcByte, startAddress, registerCount) :=
    (parseRtuRequest rtuReq.data).getD (0, 0, 0, 0)
  let nextTid ← ModbusTcp.nextTransactionId
  let tcpReq ← Exec.ofExcept ((rtuToTcp rtuReq.data nextTid).mapError fun _ => .bufferOverflow)
  -- A converted frame starts with a header, so both bytes are there.
  let tid := fromBeBytes (tcpReq.data.getD 0 0) (tcpReq.data.getD 1 0)
  Exec.mapErr .tcpIo (ModbusTcp.send tcpReq.data)
  let tcpResp ← receiveResponse
  let (rtuResp, tidWarning) ← Exec.ofExcept (frameReply rxTid tcpResp.data tid)
  Exec.mapErr .rtuIo (ModbusRtu.send rtuResp.data)
  match tidWarning with
  | some w => pure (.warning w)
  | none =>
    pure <| .transaction {
      unitId
      functionCode := .ofByte fcByte
      startAddress
      registerCount
    }

variable [Device S SE] [Device TS TE]

def receiveRequest [ReadReady S SE] [DelayNs D]
    : Flavour → Exec (Session S TS D SE TE) (BridgeError SE TE) RtuFrame :=
  guarded serialReadReady .rtuIo Session.rtuTimeoutMs ModbusRtu.listen requestError

def receiveResponse [ReadReady TS TE] [DelayNs D]
    : Flavour → Exec (Session S TS D SE TE) (BridgeError SE TE) TcpFrame :=
  guarded tcpReadReady .tcpIo Session.tcpTimeoutMs ModbusTcp.listen responseError

def next [ReadReady S SE] [ReadReady TS TE] [DelayNs D] (flavour : Flavour)
    : Exec (Session S TS D SE TE) (BridgeError SE TE) BridgeEvent :=
  cycle (receiveRequest flavour) (receiveResponse flavour) (Connection.rxTid flavour)

end ClientSession

end ModbusBridge
