import ModbusBridge.Impl.Checked

/-!
This module contains the lemmas that the checks never fail: none of the framing functions panics, and each
of them is what it is without the checks.
-/

namespace ModbusBridge

namespace Checked

open Rust

theorem crcBit_eq (c : UInt16) : crcBit c = some (ModbusBridge.crcBit c) := by
  unfold crcBit ModbusBridge.crcBit
  split
  . rfl
  . rfl

theorem crcByte_eq (c : UInt16) (byte : UInt8) : crcByte c byte = some (ModbusBridge.crcByte c byte) := by
  have hrepeat (n : Nat) (c : UInt16)
      : Nat.repeat (· >>= crcBit) n (some c) = some (Nat.repeat ModbusBridge.crcBit n c) := by
    induction n with
    | zero => rfl
    | succ n ih =>
      show Nat.repeat (· >>= crcBit) n (some c) >>= crcBit = _
      rw [ih]
      apply crcBit_eq
  apply hrepeat

@[simp]
theorem crc_eq (data : List UInt8) : crc data = some (ModbusBridge.crc data) := by
  have hfold (c : UInt16) : data.foldlM crcByte c = some (data.foldl ModbusBridge.crcByte c) := by
    induction data generalizing c with
    | nil => rfl
    | cons byte data ih =>
      rw [List.foldlM_cons, crcByte_eq]
      apply ih
  unfold crc
  rw [hfold]
  rfl

theorem checkCrc_eq (frame : List UInt8) : checkCrc frame = some (ModbusBridge.checkCrc frame) := by
  unfold checkCrc ModbusBridge.checkCrc
  split
  . rfl
  . next h =>
    rw [Usize.sub_of_le (by omega)]
    simp only [Option.bind_eq_bind, Option.bind_some]
    rw [Slice.splitAt_of_le (by omega)]
    simp only [Option.bind_some, crc_eq]
    split
    . rfl
    . rfl

theorem wrapMbap_eq (rtu : List UInt8) (tid : UInt16)
    : wrapMbap rtu tid = some (ModbusBridge.wrapMbap rtu tid) := by
  unfold wrapMbap ModbusBridge.wrapMbap
  split
  . rfl
  . next h =>
    rw [Usize.sub_of_le (by omega)]
    simp only [Option.bind_eq_bind, Option.bind_some]
    rw [Slice.splitAt_of_le (by omega)]
    rfl

theorem tcpToRtu_eq (tcp : List UInt8) : tcpToRtu tcp = some (ModbusBridge.tcpToRtu tcp) := by
  unfold tcpToRtu ModbusBridge.tcpToRtu
  split
  . rfl
  . next h =>
    rw [Slice.index_of_lt (by omega), Slice.index_of_lt (by omega), Slice.sliceFrom_of_le (by omega)]
    simp only [Option.bind_eq_bind, Option.bind_some, crc_eq]
    cases collect [tcp.drop 6, ModbusBridge.crc (tcp.drop 6)] with
    | ok out => rfl
    | error e => rfl

theorem tcpRespToRtu_eq (tcp : List UInt8) (expectedTid : UInt16)
    : tcpRespToRtu tcp expectedTid = some (ModbusBridge.tcpRespToRtu tcp expectedTid) := by
  unfold tcpRespToRtu ModbusBridge.tcpRespToRtu
  split
  . rfl
  . next h =>
    rw [Slice.index_of_lt (by omega), Slice.index_of_lt (by omega), Slice.index_of_lt (by omega)]
    simp only [Option.bind_eq_bind, Option.bind_some]
    split
    . rfl
    . split
      . rfl
      . rw [Slice.slice_of_le (by omega) (by omega), Nat.add_sub_cancel_left]
        simp only [Option.bind_some, crc_eq]
        rfl

theorem rtuResponseRemaining_eq (header : Vector UInt8 3)
    : rtuResponseRemaining header.toList = some (ModbusBridge.rtuResponseRemaining header) := by
  have hlen : header.toList.length = 3 := header.length_toList
  have hbyte : header[2].toNat < 256 := header[2].toNat_lt
  unfold rtuResponseRemaining ModbusBridge.rtuResponseRemaining
  rw [Slice.index_of_lt (by omega), Slice.index_of_lt (by omega)]
  simp only [Option.bind_eq_bind, Option.bind_some, Vector.getElem_toList]
  split
  . rfl
  . split
    . rfl
    . apply Usize.add_of_lt
      omega

theorem parseTcpRequest_eq (tcp : List UInt8)
    : parseTcpRequest tcp = some (ModbusBridge.parseTcpRequest tcp) := by
  unfold parseTcpRequest ModbusBridge.parseTcpRequest
  split
  . rfl
  . iterate 6 rw [Slice.index_of_lt (by omega)]
    rfl

theorem parseRtuRequest_eq (rtu : List UInt8)
    : parseRtuRequest rtu = some (ModbusBridge.parseRtuRequest rtu) := by
  unfold parseRtuRequest ModbusBridge.parseRtuRequest
  split
  . rfl
  . iterate 6 rw [Slice.index_of_lt (by omega)]
    rfl

end Checked

end ModbusBridge
