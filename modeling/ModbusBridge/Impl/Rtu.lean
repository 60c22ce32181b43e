import ModbusBridge.Impl.Frame
import ModbusBridge.Impl.Session

/-!
This module contains the Modbus RTU transport. As for TCP, one definition stands for the blocking and
the asynchronous version of a function.
-/

namespace ModbusBridge

open Effect EmbeddedIo Session

def rtuBuf : Nat := 255

abbrev RtuFrame := Heapless.Vec UInt8 rtuBuf

namespace ModbusRtu

variable {S TS D SE TE : Type} [Device S SE]

def readExact (len : Nat) : Exec (Session S TS D SE TE) (ModbusError SE Empty) (Vector UInt8 len) :=
  go [] (Nat.zero_le len) 1
where
  go (filled : List UInt8) (hfilled : filled.length ≤ len) (attempt : Nat)
      : Exec (Session S TS D SE TE) (ModbusError SE Empty) (Vector UInt8 len) := do
    if h : filled.length < len then
      match ← Exec.result (serialRead (len - filled.length)) with
      | .ok ⟨[], _⟩ => Exec.fail .payloadTooShort
      | .ok ⟨byte :: bytes, hbytes⟩ =>
        go (filled ++ byte :: bytes) (by simp only [List.length_append]; omega) attempt
      | .error e =>
        if attempt > 10 then
          Exec.fail (.serial e)
        else
          go filled hfilled (attempt + 1)
    else
      pure ⟨filled.toArray, by simp only [List.size_toArray]; omega⟩
  -- A successful read fills at least one byte and a failed one uses up an attempt.
  termination_by (len - filled.length) + (11 - attempt)
  decreasing_by
    . simp only [List.length_append, List.length_cons]
      omega
    . omega

def writeAll (data : List UInt8) : Exec (Session S TS D SE TE) SE Unit :=
  ModbusBridge.writeAll serialWrite data

def flush : Exec (Session S TS D SE TE) SE Unit := serialFlush

def send (payload : List UInt8) : Exec (Session S TS D SE TE) SE Unit := do
  note (.rtuSend payload)
  flush
  setTxEn true
  writeAll payload
  flush
  setTxEn false

def listen : Exec (Session S TS D SE TE) (ModbusError SE Empty) RtuFrame := do
  let hdr ← readExact 2
  let req ← Exec.ofOption .push (Heapless.Vec.empty.extendFromSlice hdr.toList)
  let req ← listenRest hdr[1] req
  Exec.mapErr FrameError.intoCombined (Exec.ofExcept (checkCrc req.data))
  pure req
where
  /-- The `match hdr[1]` of `listen`: the part of the request whose length depends on its function code. -/
  listenRest (fc : UInt8) (req : RtuFrame)
      : Exec (Session S TS D SE TE) (ModbusError SE Empty) RtuFrame := do
    if fc = 0x0F ∨ fc = 0x10 then
      let fixed ← readExact 5
      let req ← Exec.ofOption .push (req.extendFromSlice fixed.toList)
      let byteCount := fixed[4].toNat
      pushBytes (readExact 1) (byteCount + 2) req
    else
      let rest ← readExact 6
      Exec.ofOption .push (req.extendFromSlice rest.toList)

def receive : Exec (Session S TS D SE TE) (ModbusError SE Empty) RtuResponse := do
  let header ← readExact 3
  let remaining := rtuResponseRemaining header
  let resp ← Exec.ofOption .push (Heapless.Vec.empty.extendFromSlice header.toList)
  let resp ← pushBytes (readExact 1) remaining resp
  Exec.mapErr FrameError.intoCombined (Exec.ofExcept (checkCrc resp.data))
  pure resp

def sendAndReceive (req : List UInt8)
    : Exec (Session S TS D SE TE) (ModbusError SE Empty) RtuResponse := do
  Exec.mapErr .serial (send req)
  receive

end ModbusRtu

end ModbusBridge
