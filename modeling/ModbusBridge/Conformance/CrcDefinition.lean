import ModbusBridge.Crc.Remainder
import ModbusBridge.Lemmas.Crc

/-!
This module contains the CRC as the protocol defines it, as the remainder of a division of polynomials over
GF(2), and what the CRC of a frame that includes its own CRC comes to.
-/

namespace ModbusBridge

open Polynomial

def leBytes (r : UInt16) : List UInt8 := [r.toUInt8, (r >>> 8).toUInt8]

noncomputable def generator : (ZMod 2)[X] := X ^ 16 + X ^ 15 + X ^ 2 + 1

/--
The bits of the message in line order and then 16 zeros, with a one added to each of the first 16 bits.
-/
noncomputable def dividend (data : List UInt8) : (ZMod 2)[X] :=
  X ^ 16 * ∑ i ∈ Finset.range (8 * data.length),
      C ((bitAt data i).toNat : ZMod 2) * X ^ (8 * data.length - 1 - i)
    + X ^ (8 * data.length) * ∑ j ∈ Finset.range 16, X ^ j

noncomputable def registerPolynomial (r : UInt16) : (ZMod 2)[X] :=
  ∑ k ∈ Finset.range 16, C ((r.toBitVec.getLsbD k).toNat : ZMod 2) * X ^ (15 - k)

section Remainder

theorem ofRegister_toBitVec (r : UInt16) : Crc.ofRegister r.toBitVec = registerPolynomial r := rfl

theorem ofRegister_ones : Crc.ofRegister 0xFFFF#16 = ∑ j ∈ Finset.range 16, X ^ j := by
  have hones : Crc.ofRegister 0xFFFF#16 = Crc.ofCoeffs 16 fun _ => true := by
    apply Crc.ofCoeffs_congr
    decide
  rw [hones, ← Finset.sum_range_reflect]
  unfold Crc.ofCoeffs
  simp

theorem divisor_crcPoly : Crc.divisor crcPoly = generator := by
  have hbits : Crc.ofRegister crcPoly
      = Crc.ofCoeffs 16 fun k => decide (k = 0) || decide (k = 13) || decide (k = 15) := by
    apply Crc.ofCoeffs_congr
    decide
  unfold Crc.divisor generator
  rw [hbits]
  unfold Crc.ofCoeffs
  simp [Finset.sum_range_succ]
  ring

theorem ofMessage_bits (data : List UInt8)
    : Crc.ofMessage (bits data)
        = ∑ i ∈ Finset.range (8 * data.length),
            C ((bitAt data i).toNat : ZMod 2) * X ^ (8 * data.length - 1 - i) := by
  unfold Crc.ofMessage
  rw [length_bits]
  apply Crc.ofCoeffs_congr
  intro i hi
  simp [bits, hi]

theorem leBytes_inj {r r' : UInt16} (h : leBytes r = leBytes r') : r = r' := by
  injection h with hlo h
  injection h with hhi
  apply UInt16.toBitVec_inj.mp
  rw [← word_bytes, ← word_bytes, hlo, hhi]

/--
The bytes of the CRC are those of one register only, and it holds the remainder.
-/
theorem crc_remainder (data : List UInt8)
    : ∃ r : UInt16, (∀ r', crc data = leBytes r' ↔ r' = r) ∧ registerPolynomial r = dividend data %ₘ generator := by
  obtain ⟨r, hr, hcrc⟩ := crc_eq data
  refine ⟨r, ?_, ?_⟩
  . intro r'
    constructor
    . intro h
      apply leBytes_inj
      rw [← h, hcrc]
      rfl
    . intro h
      rw [h, hcrc]
      rfl
  . have hrun := Crc.ofRegister_run (by decide) crcPoly 0xFFFF#16 (bits data)
    rw [← register, ← hr, ofRegister_toBitVec, ofRegister_ones, length_bits, ofMessage_bits, divisor_crcPoly]
      at hrun
    rw [hrun, add_comm]
    rfl

example : crc [0x00] = leBytes 0x40BF ∧ crc [0xFF] = leBytes 0x00FF := by decide

end Remainder

section Residue

theorem crc_eq_zero_iff (data : List UInt8) : crc data = [0x00, 0x00] ↔ register data = 0#16 := by
  obtain ⟨r, hr, hcrc⟩ := crc_eq data
  rw [← hr, hcrc]
  constructor
  . intro h
    have hzero : r = 0 := leBytes_inj h
    rw [hzero]
    rfl
  . intro h
    rw [UInt16.toBitVec_inj.mp (show r.toBitVec = (0 : UInt16).toBitVec from h)]
    rfl

/--
A frame is accepted if and only if its CRC, taken over all of it, is zero. No other two bytes than the CRC
of what comes before them achieve that.
-/
theorem checkCrc_residue (frame body suffix : List UInt8) (h : 4 ≤ frame.length)
    : (checkCrc frame = .ok () ↔ crc frame = [0x00, 0x00])
        ∧ (suffix.length = 2 ∧ crc (body ++ suffix) = [0x00, 0x00] ↔ suffix = crc body) := by
  constructor
  . rw [checkCrc_eq_ok_iff_register h, crc_eq_zero_iff]
  . constructor
    . rintro ⟨hlen, hzero⟩
      exact (register_eq_zero_iff body suffix hlen).mp ((crc_eq_zero_iff _).mp hzero)
    . intro hsuffix
      have hlen : suffix.length = 2 := by
        rw [hsuffix]
        apply length_crc
      exact ⟨hlen, (crc_eq_zero_iff _).mpr ((register_eq_zero_iff body suffix hlen).mpr hsuffix)⟩

theorem checkCrc_residue_request
    : (checkCrc [0x01, 0x03, 0x00, 0x00, 0x00, 0x02, 0xC4, 0x0B] = .ok ()
          ↔ crc [0x01, 0x03, 0x00, 0x00, 0x00, 0x02, 0xC4, 0x0B] = [0x00, 0x00])
        ∧ (([0xBF, 0x40] : List UInt8).length = 2 ∧ crc ([0x00] ++ [0xBF, 0x40]) = [0x00, 0x00]
          ↔ [0xBF, 0x40] = crc [0x00]) :=
  checkCrc_residue [0x01, 0x03, 0x00, 0x00, 0x00, 0x02, 0xC4, 0x0B] [0x00] [0xBF, 0x40] (by decide)

end Residue

end ModbusBridge
