import ModbusBridge.Impl.Frame
import ModbusBridge.Impl.Session

/-!
This module contains the Modbus TCP transport. The blocking and the asynchronous version of each
function have the same body up to `.await`, so one definition stands for both; only a caller that
runs it under `Session.select` can see it dropped.
-/

namespace ModbusBridge

open Effect EmbeddedIo Session

def tcpBuf : Nat := 261

abbrev TcpFrame := Heapless.Vec UInt8 tcpBuf

namespace ModbusTcp

variable {S TS D SE TE : Type} [Device TS TE]

def nextTransactionId : Exec (Session S TS D SE TE) ε UInt16 := fun s =>
  let transactionId := s.transactionId + 1
  .ok transactionId { s with transactionId }

def readExact (len : Nat) : Exec (Session S TS D SE TE) (ModbusError Empty TE) (Vector UInt8 len) :=
  go [] (Nat.zero_le len)
where
  go (filled : List UInt8) (hfilled : filled.length ≤ len)
      : Exec (Session S TS D SE TE) (ModbusError Empty TE) (Vector UInt8 len) := do
    if h : filled.length < len then
      match ← Exec.result (tcpRead (len - filled.length)) with
      | .ok ⟨[], _⟩ => Exec.fail .payloadTooShort
      | .ok ⟨byte :: bytes, hbytes⟩ =>
        go (filled ++ byte :: bytes) (by simp only [List.length_append]; omega)
      | .error e => Exec.fail (.tcp e)
    else
      pure ⟨filled.toArray, by simp only [List.size_toArray]; omega⟩
  termination_by len - filled.length
  decreasing_by
    simp only [List.length_append, List.length_cons]
    omega

def listen : Exec (Session S TS D SE TE) (ModbusError Empty TE) TcpFrame := do
  let mbap ← readExact 6
  let pduLen := (fromBeBytes mbap[4] mbap[5]).toNat
  let req ← Exec.ofOption .push (Heapless.Vec.empty.extendFromSlice mbap.toList)
  pushBytes (readExact 1) pduLen req

def writeAll (data : List UInt8) : Exec (Session S TS D SE TE) TE Unit :=
  ModbusBridge.writeAll tcpWrite data

def send (data : List UInt8) : Exec (Session S TS D SE TE) TE Unit := do
  note (.tcpSend data)
  writeAll data

end ModbusTcp

end ModbusBridge
