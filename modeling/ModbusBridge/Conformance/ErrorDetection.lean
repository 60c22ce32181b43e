import ModbusBridge.Crc.Detection
import ModbusBridge.Lemmas.Crc

/-!
This module contains which errors in a frame its CRC is sure to detect: all that lie within 16 consecutive
bits, any odd number of them, and any two in a frame that is not too long for the code.
-/

namespace ModbusBridge

/--
The number of bits in which two frames of the same length differ.
-/
def bitErrors (a b : List UInt8) : Nat := (List.range (8 * a.length)).countP fun i => bitAt a i != bitAt b i

/--
The longest frame that is read from a serial port.
-/
def maxFrame : Nat := 260

section Errors

def errors (a b : List UInt8) : List Bool := List.zipWith xor (bits a) (bits b)

theorem errors_eq {a b : List UInt8} (hlen : b.length = a.length)
    : errors a b = (List.range (8 * a.length)).map fun i => bitAt a i ^^ bitAt b i := by
  unfold errors bits
  rw [hlen, List.zipWith_map, List.zipWith_self]

theorem length_errors {a b : List UInt8} (hlen : b.length = a.length)
    : (errors a b).length = 8 * a.length := by
  rw [errors_eq hlen, List.length_map, List.length_range]

theorem bitAt_eq_false {a : List UInt8} (h : 8 * a.length ≤ i) : bitAt a i = false := by
  unfold bitAt
  rw [List.getD_eq_default _ _ (by omega)]
  simp

theorem getD_errors {a b : List UInt8} (hlen : b.length = a.length) (i : Nat)
    : (errors a b).getD i false = (bitAt a i ^^ bitAt b i) := by
  rw [errors_eq hlen]
  by_cases hi : i < 8 * a.length
  . simp [hi]
  . rw [List.getD_eq_default _ _ (by simpa using hi), bitAt_eq_false (by omega), bitAt_eq_false (by omega)]
    rfl

theorem count_errors {a b : List UInt8} (hlen : b.length = a.length)
    : (errors a b).count true = bitErrors a b := by
  rw [errors_eq hlen, List.count_eq_countP, List.countP_map]
  apply List.countP_congr
  intro i _
  simp

theorem eq_of_bitAt {a b : List UInt8} (hlen : b.length = a.length) (h : ∀ i, bitAt a i = bitAt b i)
    : b = a := by
  apply bits_inj
  unfold bits
  rw [hlen]
  apply List.map_congr_left
  intro i _
  exact (h i).symm

/--
By linearity, what the errors leave in an empty register is what they change in that of the frame.
-/
theorem checkCrc_of_run_errors {a b : List UInt8} (ha : checkCrc a = .ok ()) (hlen : b.length = a.length)
    (h : Crc.run crcPoly 0#16 (errors a b) ≠ 0#16) : checkCrc b = .error .crc := by
  have hfour := length_ge_of_checkCrc ha
  apply (checkCrc_of_length (by omega)).resolve_left
  intro hb
  apply h
  rw [checkCrc_eq_ok_iff_register (by omega)] at ha hb
  apply Crc.run_zipWith_of_eq
  . rw [length_bits, length_bits, hlen]
  . rw [← register, ← register, ha, hb]

end Errors

section Burst

theorem highest_crcPoly : crcPoly.getLsbD (16 - 1) = true := by
  decide

/--
Errors that all lie within 16 consecutive bits are detected, wherever they are in a frame of any length.
-/
theorem burst_detected (a b : List UInt8) (start : Nat) (ha : checkCrc a = .ok ())
    (hlen : b.length = a.length) (hne : b ≠ a)
    (hburst : ∀ i, bitAt a i ≠ bitAt b i → start ≤ i ∧ i < start + 16)
    : checkCrc b = .error .crc := by
  apply checkCrc_of_run_errors ha hlen
  intro hzero
  apply hne
  apply eq_of_bitAt hlen
  have hwindow (i : Nat) (hi : (errors a b).getD i false = true) : start ≤ i ∧ i < start + 16 := by
    apply hburst
    intro hsame
    rw [getD_errors hlen, hsame, Bool.xor_self] at hi
    contradiction
  intro i
  have hbit := Crc.no_burst highest_crcPoly start hwindow hzero i
  rw [getD_errors hlen, bne_eq_false_iff_eq] at hbit
  apply hbit

theorem burst_detected_across_crc : checkCrc [0x11, 0x83, 0xB2, 0xE0] = .error .crc := by
  apply burst_detected (rtuFrame [0x11, 0x03]) [0x11, 0x83, 0xB2, 0xE0] 15 (by decide +kernel) (by decide)
    (by decide +kernel)
  intro i hne
  have hi : i < 32 := by
    apply Nat.lt_of_not_le
    intro hge
    rw [bitAt_eq_false hge, bitAt_eq_false hge] at hne
    contradiction
  have hall : ∀ i < 32, bitAt (rtuFrame [0x11, 0x03]) i ≠ bitAt [0x11, 0x83, 0xB2, 0xE0] i
      → 15 ≤ i ∧ i < 15 + 16 := by
    decide +kernel
  exact hall i hi hne

end Burst

section Distance

theorem parity_crcPoly : Crc.parity crcPoly = 1 := by
  decide

theorem crcPoly_avoids : Crc.avoids crcPoly 1#16 2079 1#16 = true := by
  decide +kernel

theorem odd_detected {a b : List UInt8} (ha : checkCrc a = .ok ()) (hlen : b.length = a.length)
    (hodd : Odd (bitErrors a b)) : checkCrc b = .error .crc := by
  apply checkCrc_of_run_errors ha hlen
  apply Crc.run_ne_zero_of_odd parity_crcPoly
  rw [count_errors hlen]
  apply hodd

theorem two_detected {a b : List UInt8} (ha : checkCrc a = .ok ()) (hlen : b.length = a.length)
    (hmax : a.length ≤ maxFrame) (htwo : bitErrors a b = 2) : checkCrc b = .error .crc := by
  apply checkCrc_of_run_errors ha hlen
  apply Crc.run_ne_zero_of_two highest_crcPoly
  . intro k hk
    apply Crc.shifts_ne_of_avoids crcPoly_avoids
    rw [length_errors hlen] at hk
    unfold maxFrame at hmax
    omega
  . rw [count_errors hlen, htwo]

/--
What the CRC detects in a frame with few errors, if `b` is received for `a`.
-/
structure Detects (a b : List UInt8) : Prop where
  odd : Odd (bitErrors a b) → checkCrc b = .error .crc
  two : a.length ≤ maxFrame → bitErrors a b = 2 → checkCrc b = .error .crc
  few : a.length ≤ maxFrame → 1 ≤ bitErrors a b → bitErrors a b ≤ 3 → checkCrc b = .error .crc

theorem crc_detects (a b : List UInt8) (ha : checkCrc a = .ok ()) (hlen : b.length = a.length)
    : Detects a b where
  odd := odd_detected ha hlen
  two := two_detected ha hlen
  few hmax hmin hthree := by
    obtain hone | htwo | hthree : bitErrors a b = 1 ∨ bitErrors a b = 2 ∨ bitErrors a b = 3 := by omega
    . apply odd_detected ha hlen
      rw [hone]
      decide
    . apply two_detected ha hlen hmax htwo
    . apply odd_detected ha hlen
      rw [hthree]
      decide

theorem crc_detects_two_flips : Detects (rtuFrame [0x11, 0x03]) [0x10, 0x03, 0x4D, 0xE0] :=
  crc_detects (rtuFrame [0x11, 0x03]) [0x10, 0x03, 0x4D, 0xE0] (by decide +kernel) (by decide)

end Distance

end ModbusBridge
