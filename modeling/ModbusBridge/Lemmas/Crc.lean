import Mathlib.Data.List.Basic
import ModbusBridge.Crc.Register
import ModbusBridge.Lemmas.Frame

/-!
This module contains the CRC as a shift register: the bytes of a frame enter it in line order, and a frame
with the right CRC at its end leaves it empty.
-/

namespace ModbusBridge

/--
The polynomial, with the coefficient of the highest power in the low bit.
-/
def crcPoly : BitVec 16 := 0xA001#16

def byteBits (byte : UInt8) : List Bool := (List.range 8).map byte.toBitVec.getLsbD

def bits (data : List UInt8) : List Bool := (List.range (8 * data.length)).map (bitAt data)

@[simp]
theorem length_byteBits (byte : UInt8) : (byteBits byte).length = 8 := rfl

@[simp]
theorem length_bits (data : List UInt8) : (bits data).length = 8 * data.length := by
  simp [bits]

theorem getD_byteBits (byte : UInt8) (i : Nat) : (byteBits byte).getD i false = byte.toBitVec.getLsbD i := by
  unfold byteBits
  by_cases hi : i < 8
  . simp [hi]
  . rw [BitVec.getLsbD_of_ge _ _ (by omega)]
    simp [hi]

theorem byteBits_inj {byte byte' : UInt8} (h : byteBits byte = byteBits byte') : byte = byte' := by
  apply UInt8.toBitVec_inj.mp
  apply BitVec.eq_of_getLsbD_eq
  intro i _
  rw [← getD_byteBits, ← getD_byteBits, h]

theorem bits_cons (byte : UInt8) (data : List UInt8) : bits (byte :: data) = byteBits byte ++ bits data := by
  unfold bits byteBits
  rw [List.length_cons, Nat.mul_succ, Nat.add_comm, List.range_add, List.map_append, List.map_map]
  -- The first eight bits are those of the first byte by computation.
  congr 1
  apply List.map_congr_left
  intro i _
  show ((byte :: data).getD ((8 + i) / 8) 0).toBitVec.getLsbD ((8 + i) % 8) = _
  rw [Nat.add_div_left _ (by decide : 0 < 8), Nat.add_mod_left]
  rfl

theorem bits_append (data data' : List UInt8) : bits (data ++ data') = bits data ++ bits data' := by
  induction data with
  | nil => rfl
  | cons byte data ih => rw [List.cons_append, bits_cons, bits_cons, ih, List.append_assoc]

theorem bits_inj {data data' : List UInt8} (h : bits data = bits data') : data = data' := by
  induction data generalizing data' with
  | nil =>
    have hlen := congrArg List.length h
    rw [length_bits, length_bits, List.length_nil] at hlen
    apply (List.eq_nil_of_length_eq_zero (by omega)).symm
  | cons byte data ih =>
    cases data' with
    | nil =>
      have hlen := congrArg List.length h
      rw [length_bits, length_bits, List.length_cons, List.length_nil] at hlen
      omega
    | cons byte' data' =>
      rw [bits_cons, bits_cons] at h
      rw [byteBits_inj (List.append_inj_left h rfl), ih (List.append_inj_right h rfl)]

section Register

theorem and_one_ne_zero (r : UInt16) : r &&& 1 ≠ 0 ↔ r.toBitVec.getLsbD 0 = true := by
  rw [ne_eq, ← UInt16.toNat_inj, UInt16.toNat_and]
  simp [Nat.and_one_is_mod, BitVec.getLsbD, Nat.testBit_zero]

theorem toBitVec_crcBit (r : UInt16) : (crcBit r).toBitVec = Crc.shift crcPoly r.toBitVec := by
  unfold crcBit Crc.shift
  by_cases h : r &&& 1 ≠ 0
  . rw [if_pos h, if_pos ((and_one_ne_zero r).mp h)]
    rfl
  . rw [if_neg h, if_neg (mt (and_one_ne_zero r).mpr h)]
    rfl

theorem toBitVec_repeat (n : Nat) (r : UInt16)
    : (Nat.repeat crcBit n r).toBitVec = Crc.shifts crcPoly n r.toBitVec := by
  induction n with
  | zero => rfl
  | succ n ih =>
    show (crcBit (Nat.repeat crcBit n r)).toBitVec = Crc.shift crcPoly (Crc.shifts crcPoly n r.toBitVec)
    rw [toBitVec_crcBit, ih]

theorem word_byteBits (byte : UInt8) : Crc.word 16 (byteBits byte) = byte.toUInt16.toBitVec := by
  apply BitVec.eq_of_getLsbD_eq
  intro i hi
  rw [Crc.getLsbD_word, getD_byteBits, decide_eq_true hi, Bool.true_and, UInt8.toBitVec_toUInt16,
    BitVec.getLsbD_setWidth, decide_eq_true hi, Bool.true_and]

theorem toBitVec_crcByte (r : UInt16) (byte : UInt8)
    : (crcByte r byte).toBitVec = Crc.run crcPoly r.toBitVec (byteBits byte) := by
  unfold crcByte
  rw [toBitVec_repeat, Crc.run_eq_shifts _ _ (by simp), word_byteBits]
  rfl

theorem toBitVec_foldl (r : UInt16) (data : List UInt8)
    : (data.foldl crcByte r).toBitVec = Crc.run crcPoly r.toBitVec (bits data) := by
  induction data generalizing r with
  | nil => rfl
  | cons byte data ih => rw [List.foldl_cons, ih, bits_cons, Crc.run_append, toBitVec_crcByte]

end Register

section Residue

def register (data : List UInt8) : BitVec 16 := Crc.run crcPoly 0xFFFF#16 (bits data)

theorem crc_eq (data : List UInt8)
    : ∃ r : UInt16, r.toBitVec = register data ∧ crc data = [r.toUInt8, (r >>> 8).toUInt8] :=
  ⟨data.foldl crcByte 0xFFFF, toBitVec_foldl 0xFFFF data, rfl⟩

theorem word_bytes (r : UInt16)
    : Crc.word 16 (byteBits r.toUInt8 ++ byteBits (r >>> 8).toUInt8) = r.toBitVec := by
  apply BitVec.eq_of_getLsbD_eq
  intro i hi
  rw [Crc.getLsbD_word, decide_eq_true hi, Bool.true_and, List.getD_eq_getElem?_getD]
  by_cases hlow : i < 8
  . rw [List.getElem?_append_left hlow, ← List.getD_eq_getElem?_getD, getD_byteBits]
    simp [hlow]
  . rw [List.getElem?_append_right (Nat.le_of_not_lt hlow), ← List.getD_eq_getElem?_getD, getD_byteBits]
    have hback : 8 + (i - 8) = i := by omega
    simp [hback]
    omega

theorem word_inj {ds es : List Bool} (hds : ds.length = w) (hes : es.length = w)
    (h : Crc.word w ds = Crc.word w es) : ds = es := by
  apply List.ext_getElem
  . rw [hds, hes]
  . intro i hi hi'
    have hbit := Crc.getLsbD_word w ds i
    rw [h, Crc.getLsbD_word, decide_eq_true (by omega), Bool.true_and, Bool.true_and] at hbit
    simpa [hi, hi'] using hbit.symm

theorem register_eq_zero_iff (body suffix : List UInt8) (h : suffix.length = 2)
    : register (body ++ suffix) = 0#16 ↔ suffix = crc body := by
  obtain ⟨lo, hi, rfl⟩ := List.length_eq_two.mp h
  obtain ⟨r, hr, hcrc⟩ := crc_eq body
  have hrun : register (body ++ [lo, hi])
      = Crc.shifts crcPoly 16 (r.toBitVec ^^^ Crc.word 16 (byteBits lo ++ byteBits hi)) := by
    have hbits : bits [lo, hi] = byteBits lo ++ byteBits hi := by
      rw [bits_cons, bits_cons]
      apply congrArg (byteBits lo ++ ·) (List.append_nil _)
    have hlen : (byteBits lo ++ byteBits hi).length = 16 := rfl
    unfold register
    rw [bits_append, Crc.run_append, ← register, ← hr, hbits, Crc.run_eq_shifts _ _ (Nat.le_of_eq hlen), hlen]
  rw [hrun, hcrc]
  constructor
  . intro hzero
    have hword := Crc.eq_zero_of_shifts_eq_zero (by decide) hzero
    rw [BitVec.xor_eq_zero_iff, ← word_bytes] at hword
    have hbits : byteBits r.toUInt8 ++ byteBits (r >>> 8).toUInt8 = byteBits lo ++ byteBits hi :=
      word_inj (show _ = 16 from rfl) (show _ = 16 from rfl) hword
    have hlo := byteBits_inj (List.append_inj_left hbits rfl)
    have hhi := byteBits_inj (List.append_inj_right hbits rfl)
    rw [hlo, hhi]
  . intro hsame
    injection hsame with hlo hsame
    injection hsame with hhi
    rw [hlo, hhi, word_bytes, BitVec.xor_self, Crc.shifts_zero_right]

theorem checkCrc_eq_ok_iff_register {frame : List UInt8} (h : 4 ≤ frame.length)
    : checkCrc frame = .ok () ↔ register frame = 0#16 := by
  obtain ⟨body, suffix, rfl, hsuffix, hbody⟩ := exists_append_of_le_length (by omega : 2 ≤ frame.length)
  rw [register_eq_zero_iff body suffix hsuffix, checkCrc_append hsuffix, if_neg (by omega)]
  constructor
  . intro hok
    split at hok
    . next heq => exact heq.symm
    . contradiction
  . intro heq
    rw [if_pos heq.symm]

end Residue

end ModbusBridge
