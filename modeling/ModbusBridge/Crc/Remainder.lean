import Mathlib.Algebra.CharP.Two
import Mathlib.Algebra.Polynomial.Div
import Mathlib.RingTheory.Polynomial.Basic
import Mathlib.Tactic.LinearCombination
import ModbusBridge.Crc.Detection

/-!
This module contains the meaning of the registers as polynomials over GF(2): what a message leaves in the
register is the remainder of a division.
-/

namespace Crc

open Polynomial

/--
The polynomial with the given `n` coefficients, that of the highest power first.
-/
noncomputable def ofCoeffs (n : Nat) (f : Nat → Bool) : (ZMod 2)[X] :=
  ∑ k ∈ Finset.range n, C ((f k).toNat : ZMod 2) * X ^ (n - 1 - k)

noncomputable def ofRegister (r : BitVec w) : (ZMod 2)[X] := ofCoeffs w r.getLsbD

noncomputable def ofMessage (ds : List Bool) : (ZMod 2)[X] := ofCoeffs ds.length fun i => ds.getD i false

/--
The divisor. Its highest power has no bit in `poly`, which has room for the lower ones only.
-/
noncomputable def divisor (poly : BitVec w) : (ZMod 2)[X] := X ^ w + ofRegister poly

variable {w : Nat} {poly : BitVec w}

section Coefficients

theorem ofCoeffs_congr {f g : Nat → Bool} (h : ∀ k < n, f k = g k) : ofCoeffs n f = ofCoeffs n g := by
  unfold ofCoeffs
  apply Finset.sum_congr rfl
  intro k hk
  rw [h k (Finset.mem_range.mp hk)]

theorem ofCoeffs_false (n : Nat) : ofCoeffs n (fun _ => false) = 0 := by
  simp [ofCoeffs]

theorem ofCoeffs_xor (n : Nat) (f g : Nat → Bool)
    : ofCoeffs n (fun k => f k ^^ g k) = ofCoeffs n f + ofCoeffs n g := by
  unfold ofCoeffs
  rw [← Finset.sum_add_distrib]
  apply Finset.sum_congr rfl
  intro k _
  rw [toNat_xor, C_add, add_mul]

theorem ofCoeffs_and (n : Nat) (b : Bool) (f : Nat → Bool)
    : ofCoeffs n (fun k => b && f k) = C (b.toNat : ZMod 2) * ofCoeffs n f := by
  cases b with
  | false =>
    simp only [Bool.false_and, Bool.toNat_false, Nat.cast_zero, C_0, zero_mul]
    apply ofCoeffs_false
  | true => simp

theorem ofCoeffs_succ' (n : Nat) (f : Nat → Bool)
    : ofCoeffs (n + 1) f = C ((f 0).toNat : ZMod 2) * X ^ n + ofCoeffs n (fun k => f (k + 1)) := by
  have hrest : ∑ k ∈ Finset.range n, C ((f (k + 1)).toNat : ZMod 2) * X ^ (n + 1 - 1 - (k + 1))
      = ofCoeffs n (fun k => f (k + 1)) := by
    apply Finset.sum_congr rfl
    intro k _
    rw [show n + 1 - 1 - (k + 1) = n - 1 - k by omega]
  rw [ofCoeffs, Finset.sum_range_succ', hrest, add_comm]
  rfl

theorem ofCoeffs_succ (n : Nat) (f : Nat → Bool)
    : ofCoeffs (n + 1) f = X * ofCoeffs n f + C ((f n).toNat : ZMod 2) := by
  have hrest : ∑ k ∈ Finset.range n, C ((f k).toNat : ZMod 2) * X ^ (n + 1 - 1 - k) = X * ofCoeffs n f := by
    unfold ofCoeffs
    rw [Finset.mul_sum]
    apply Finset.sum_congr rfl
    intro k hk
    have hk := Finset.mem_range.mp hk
    rw [show n + 1 - 1 - k = n - 1 - k + 1 by omega, pow_succ]
    ring
  rw [ofCoeffs, Finset.sum_range_succ, hrest, Nat.add_sub_cancel, Nat.sub_self, pow_zero, mul_one]

theorem degree_ofCoeffs_lt (n : Nat) (f : Nat → Bool) : (ofCoeffs n f).degree < n := by
  rw [← mem_degreeLT]
  apply Submodule.sum_mem
  intro k hk
  have hk := Finset.mem_range.mp hk
  rw [mem_degreeLT]
  apply lt_of_le_of_lt (degree_C_mul_X_pow_le _ _)
  rw [Nat.cast_lt]
  omega

end Coefficients

section Step

theorem ofRegister_xor (r s : BitVec w) : ofRegister (r ^^^ s) = ofRegister r + ofRegister s := by
  unfold ofRegister
  rw [← ofCoeffs_xor]
  apply ofCoeffs_congr
  intro k _
  apply BitVec.getLsbD_xor

theorem X_mul_ofRegister_input (hw : 0 < w) (d : Bool)
    : X * ofRegister (input w d) = C (d.toNat : ZMod 2) * X ^ w := by
  obtain ⟨n, rfl⟩ := Nat.exists_eq_succ_of_ne_zero (Nat.ne_of_gt hw)
  have hlow : (input (n + 1) d).getLsbD 0 = d := by simp [input]
  have hrest : ofCoeffs n (fun k => (input (n + 1) d).getLsbD (k + 1)) = 0 := by
    rw [← ofCoeffs_false n]
    apply ofCoeffs_congr
    intro k _
    simp [input]
  show X * ofCoeffs (n + 1) _ = _
  rw [ofCoeffs_succ', hlow, hrest, pow_succ]
  ring

/--
A shift multiplies by X and takes the divisor away if the result has the power that the divisor begins with.
-/
theorem X_mul_ofRegister (poly r : BitVec w)
    : X * ofRegister r = ofRegister (shift poly r) + C ((r.getLsbD 0).toNat : ZMod 2) * divisor poly := by
  cases w with
  | zero => simp [ofRegister, ofCoeffs, BitVec.of_length_zero]
  | succ n =>
    have hlast : r.getLsbD (n + 1) = false := BitVec.getLsbD_of_ge _ _ (Nat.le_refl _)
    have hshift : ofRegister (shift poly r)
        = X * ofCoeffs n (fun k => r.getLsbD (k + 1)) + C ((r.getLsbD 0).toNat : ZMod 2) * ofRegister poly := by
      have hbits : ofRegister (shift poly r)
          = ofCoeffs (n + 1) (fun k => r.getLsbD (k + 1) ^^ (r.getLsbD 0 && poly.getLsbD k)) := by
        apply ofCoeffs_congr
        intro k _
        apply getLsbD_shift
      rw [hbits, ofCoeffs_xor, ofCoeffs_and, ofCoeffs_succ, hlast]
      simp [ofRegister]
    have htwice := CharTwo.add_self_eq_zero (C ((r.getLsbD 0).toNat : ZMod 2) * ofRegister poly)
    rw [hshift]
    unfold divisor
    nth_rewrite 1 [ofRegister]
    rw [ofCoeffs_succ']
    linear_combination -htwice

end Step

section Run

theorem ofMessage_cons (d : Bool) (ds : List Bool)
    : ofMessage (d :: ds) = C (d.toNat : ZMod 2) * X ^ ds.length + ofMessage ds := by
  apply ofCoeffs_succ'

/--
The register goes through the division one power of X for each bit of the message.
-/
theorem dvd_run (hw : 0 < w) (poly r : BitVec w) (ds : List Bool)
    : divisor poly ∣ X ^ ds.length * ofRegister r + X ^ w * ofMessage ds - ofRegister (run poly r ds) := by
  induction ds generalizing r with
  | nil => simp [run, ofMessage, ofCoeffs]
  | cons d ds ih =>
    have hstep := X_mul_ofRegister poly (r ^^^ input w d)
    rw [ofRegister_xor, mul_add, X_mul_ofRegister_input hw] at hstep
    have hsplit : X ^ (d :: ds).length * ofRegister r + X ^ w * ofMessage (d :: ds)
        - ofRegister (run poly r (d :: ds))
          = (X ^ ds.length * ofRegister (shift poly (r ^^^ input w d)) + X ^ w * ofMessage ds
              - ofRegister (run poly (shift poly (r ^^^ input w d)) ds))
            + divisor poly * (C (((r ^^^ input w d).getLsbD 0).toNat : ZMod 2) * X ^ ds.length) := by
      rw [ofMessage_cons, List.length_cons, pow_succ, run]
      linear_combination X ^ ds.length * hstep
    rw [hsplit]
    apply dvd_add (ih _)
    apply dvd_mul_right

theorem ofRegister_run (hw : 0 < w) (poly r : BitVec w) (ds : List Bool)
    : ofRegister (run poly r ds)
        = (X ^ ds.length * ofRegister r + X ^ w * ofMessage ds) %ₘ divisor poly := by
  have hdegree : (ofRegister poly).degree < w := degree_ofCoeffs_lt w _
  have hmonic : (divisor poly).Monic := monic_X_pow_add hdegree
  have hsmall : (ofRegister (run poly r ds)).degree < (divisor poly).degree := by
    have hlower : (ofRegister poly).degree < (X ^ w : (ZMod 2)[X]).degree := by
      rw [degree_X_pow]
      apply hdegree
    unfold divisor
    rw [degree_add_eq_left_of_degree_lt hlower, degree_X_pow]
    apply degree_ofCoeffs_lt
  rw [modByMonic_eq_of_dvd_sub hmonic (dvd_run hw poly r ds)]
  exact ((modByMonic_eq_self_iff hmonic).mpr hsmall).symm

end Run

end Crc
