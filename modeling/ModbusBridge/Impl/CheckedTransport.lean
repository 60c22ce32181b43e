import ModbusBridge.Effect.Panic
import ModbusBridge.Impl.Checked
import ModbusBridge.Impl.Rtu
import ModbusBridge.Impl.Tcp

/-!
This module contains the two transports once more, with every index, slice and addition as the operation of the
language that panics when it is out of range. The functions that read fill a buffer of the caller, as in the code.
-/

namespace ModbusBridge

namespace Checked

open Effect EmbeddedIo Session Rust
open MayPanic (orPanic)

variable {S TS D SE TE : Type}

def pushBytes (readExact : List UInt8 → MayPanic σ (ModbusError SE TE) (List UInt8)) (byte : List UInt8) (n : Nat)
    (buf : Heapless.Vec UInt8 cap) : MayPanic σ (ModbusError SE TE) (Heapless.Vec UInt8 cap) :=
  match n with
  | 0 => pure buf
  | n + 1 => do
    let byte ← readExact byte
    let buf ← OptionT.lift (Exec.ofOption .push (buf.push (← orPanic (Slice.index byte 0))))
    pushBytes readExact byte n buf

def writeAll (write : (buf : List UInt8) → buf ≠ [] → Exec σ ε {n : Nat // 0 < n ∧ n ≤ buf.length})
    (data : List UInt8) : MayPanic σ ε Unit := do
  if h : data = [] then
    pure ()
  else
    let n ← OptionT.lift (write data h)
    let ⟨remaining, _hremaining⟩ ← orPanic (Slice.sliceFrom data n.val).attach
    writeAll write remaining
termination_by data.length
decreasing_by
  have := n.property
  rw [Slice.sliceFrom_eq_some _hremaining, List.length_drop]
  omega

namespace ModbusTcp

variable [Device TS TE]

def readExact (buf : List UInt8) : MayPanic (Session S TS D SE TE) (ModbusError Empty TE) (List UInt8) :=
  go buf 0
where
  go (buf : List UInt8) (filled : Nat)
      : MayPanic (Session S TS D SE TE) (ModbusError Empty TE) (List UInt8) := do
    if _h : filled < buf.length then
      let ⟨rest, _hrest⟩ ← orPanic (Slice.sliceFrom buf filled).attach
      match ← OptionT.lift (Exec.result (tcpRead rest.length)) with
      | .ok ⟨[], _⟩ => OptionT.lift (Exec.fail .payloadTooShort)
      | .ok ⟨byte :: bytes, _hbytes⟩ =>
        let ⟨next, _hnext⟩ ← orPanic (Usize.add filled (byte :: bytes).length).attach
        go (Slice.overwrite buf filled (byte :: bytes)) next
      | .error e => OptionT.lift (Exec.fail (.tcp e))
    else
      pure buf
  termination_by buf.length - filled
  decreasing_by
    rw [Slice.sliceFrom_eq_some _hrest, List.length_drop] at _hbytes
    rw [Slice.length_overwrite (by omega), Usize.add_eq_some _hnext]
    simp only [List.length_cons] at _hbytes ⊢
    omega

def listen : MayPanic (Session S TS D SE TE) (ModbusError Empty TE) TcpFrame := do
  let mbap ← readExact (List.replicate 6 0)
  let pduLen := (fromBeBytes (← orPanic (Slice.index mbap 4)) (← orPanic (Slice.index mbap 5))).toNat
  let req ← OptionT.lift (Exec.ofOption .push (Heapless.Vec.empty.extendFromSlice mbap))
  pushBytes readExact (List.replicate 1 0) pduLen req

def writeAll (data : List UInt8) : MayPanic (Session S TS D SE TE) TE Unit := Checked.writeAll tcpWrite data

def send (data : List UInt8) : MayPanic (Session S TS D SE TE) TE Unit := do
  OptionT.lift (note (.tcpSend data))
  writeAll data

end ModbusTcp

namespace ModbusRtu

variable [Device S SE]

def readExact (buf : List UInt8) : MayPanic (Session S TS D SE TE) (ModbusError SE Empty) (List UInt8) :=
  go buf 0 1
where
  go (buf : List UInt8) (filled : Nat) (attempt : Nat)
      : MayPanic (Session S TS D SE TE) (ModbusError SE Empty) (List UInt8) := do
    if _h : filled < buf.length then
      let ⟨rest, _hrest⟩ ← orPanic (Slice.sliceFrom buf filled).attach
      match ← OptionT.lift (Exec.result (serialRead rest.length)) with
      | .ok ⟨[], _⟩ => OptionT.lift (Exec.fail .payloadTooShort)
      | .ok ⟨byte :: bytes, _hbytes⟩ =>
        let ⟨next, _hnext⟩ ← orPanic (Usize.add filled (byte :: bytes).length).attach
        go (Slice.overwrite buf filled (byte :: bytes)) next attempt
      | .error e =>
        if attempt > 10 then
          OptionT.lift (Exec.fail (.serial e))
        else
          let ⟨next, _hnext⟩ ← orPanic (I32.add attempt 1).attach
          go buf filled next
    else
      pure buf
  termination_by (buf.length - filled) + (11 - attempt)
  decreasing_by
    . rw [Slice.sliceFrom_eq_some _hrest, List.length_drop] at _hbytes
      rw [Slice.length_overwrite (by omega), Usize.add_eq_some _hnext]
      simp only [List.length_cons] at _hbytes ⊢
      omega
    . rw [I32.add_eq_some _hnext]
      omega

def writeAll (data : List UInt8) : MayPanic (Session S TS D SE TE) SE Unit := Checked.writeAll serialWrite data

def send (payload : List UInt8) : MayPanic (Session S TS D SE TE) SE Unit := do
  OptionT.lift (note (.rtuSend payload))
  OptionT.lift serialFlush
  OptionT.lift (setTxEn true)
  writeAll payload
  OptionT.lift serialFlush
  OptionT.lift (setTxEn false)

def listen : MayPanic (Session S TS D SE TE) (ModbusError SE Empty) RtuFrame := do
  let hdr ← readExact (List.replicate 2 0)
  let req ← OptionT.lift (Exec.ofOption .push (Heapless.Vec.empty.extendFromSlice hdr))
  let req ← listenRest (← orPanic (Slice.index hdr 1)) req
  OptionT.lift (Exec.mapErr FrameError.intoCombined (Exec.ofExcept (← orPanic (checkCrc req.data))))
  pure req
where
  listenRest (fc : UInt8) (req : RtuFrame)
      : MayPanic (Session S TS D SE TE) (ModbusError SE Empty) RtuFrame := do
    if fc = 0x0F ∨ fc = 0x10 then
      let fixed ← readExact (List.replicate 5 0)
      let req ← OptionT.lift (Exec.ofOption .push (req.extendFromSlice fixed))
      let byteCount := (← orPanic (Slice.index fixed 4)).toNat
      pushBytes readExact (List.replicate 1 0) (← orPanic (Usize.add byteCount 2)) req
    else
      let rest ← readExact (List.replicate 6 0)
      OptionT.lift (Exec.ofOption .push (req.extendFromSlice rest))

def receive : MayPanic (Session S TS D SE TE) (ModbusError SE Empty) RtuResponse := do
  let header ← readExact (List.replicate 3 0)
  let remaining ← orPanic (rtuResponseRemaining header)
  let resp ← OptionT.lift (Exec.ofOption .push (Heapless.Vec.empty.extendFromSlice header))
  let resp ← pushBytes readExact (List.replicate 1 0) remaining resp
  OptionT.lift (Exec.mapErr FrameError.intoCombined (Exec.ofExcept (← orPanic (checkCrc resp.data))))
  pure resp

def sendAndReceive (req : List UInt8) : MayPanic (Session S TS D SE TE) (ModbusError SE Empty) RtuResponse := do
  MayPanic.mapErr .serial (send req)
  receive

end ModbusRtu

end Checked

end ModbusBridge
