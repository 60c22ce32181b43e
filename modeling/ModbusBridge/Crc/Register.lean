/-!
This module contains the shift registers that compute cyclic redundancy checks. A register is shifted to
the right, so its low bit is the next one to fall out, and a message enters it bit by bit at that end.
-/

namespace Crc

variable {w : Nat} {poly : BitVec w}

/--
One shift: when the bit that falls out is set, the polynomial is added to what is left.
-/
def shift (poly r : BitVec w) : BitVec w :=
  if r.getLsbD 0 then
    (r >>> 1) ^^^ poly
  else
    r >>> 1

def shifts (poly : BitVec w) (n : Nat) (r : BitVec w) : BitVec w := Nat.repeat (shift poly) n r

/--
The bit `d` at the end where the register takes in a message.
-/
def input (w : Nat) (d : Bool) : BitVec w := (BitVec.ofBool d).setWidth w

/--
The register after a message, when it was `r` before.
-/
def run (poly r : BitVec w) : List Bool → BitVec w
  | [] => r
  | d :: ds => run poly (shift poly (r ^^^ input w d)) ds

/--
The bits of a message that has room in the register, the first one at the end where it is taken in.
-/
def word (w : Nat) (ds : List Bool) : BitVec w := (BitVec.ofBoolListLE ds).setWidth w

section Shift

theorem getLsbD_shift (r : BitVec w) (i : Nat)
    : (shift poly r).getLsbD i = (r.getLsbD (i + 1) ^^ (r.getLsbD 0 && poly.getLsbD i)) := by
  have hright : (r >>> 1).getLsbD i = r.getLsbD (i + 1) := by
    rw [BitVec.getLsbD_ushiftRight, Nat.add_comm]
  unfold shift
  split
  . next h =>
    rw [BitVec.getLsbD_xor, hright, h, Bool.true_and]
  . next h =>
    rw [Bool.not_eq_true] at h
    rw [hright, h, Bool.false_and, Bool.xor_false]

@[simp]
theorem shift_zero : shift poly 0#w = 0#w := by
  unfold shift
  simp

theorem shift_xor (r s : BitVec w) : shift poly (r ^^^ s) = shift poly r ^^^ shift poly s := by
  apply BitVec.eq_of_getLsbD_eq
  intro i _
  rw [BitVec.getLsbD_xor, getLsbD_shift, getLsbD_shift, getLsbD_shift, BitVec.getLsbD_xor,
    BitVec.getLsbD_xor]
  rw [Bool.and_xor_distrib_right]
  rw [Bool.xor_assoc, Bool.xor_assoc, Bool.xor_left_comm (s.getLsbD (i + 1))]

/--
If the polynomial has its highest bit, that bit of the register tells afterwards what has fallen out.
-/
theorem eq_zero_of_shift_eq_zero (hpoly : poly.getLsbD (w - 1) = true) (h : shift poly r = 0#w)
    : r = 0#w := by
  have hbit (i : Nat) : (r.getLsbD (i + 1) ^^ (r.getLsbD 0 && poly.getLsbD i)) = false := by
    rw [← getLsbD_shift, h, BitVec.getLsbD_zero]
  have hlow : r.getLsbD 0 = false := by
    have hlast := hbit (w - 1)
    rw [BitVec.getLsbD_of_ge r (w - 1 + 1) (by omega), hpoly, Bool.false_xor, Bool.and_true] at hlast
    apply hlast
  apply BitVec.eq_of_getLsbD_eq
  intro i _
  rw [BitVec.getLsbD_zero]
  cases i with
  | zero => apply hlow
  | succ i =>
    have hnext := hbit i
    rw [hlow, Bool.false_and, Bool.xor_false] at hnext
    apply hnext

end Shift

section Shifts

@[simp]
theorem shifts_zero_right (n : Nat) : shifts poly n 0#w = 0#w := by
  induction n with
  | zero => rfl
  | succ n ih =>
    show shift poly (shifts poly n 0#w) = 0#w
    rw [ih, shift_zero]

theorem shifts_succ' (n : Nat) (r : BitVec w) : shifts poly (n + 1) r = shifts poly n (shift poly r) := by
  induction n with
  | zero => rfl
  | succ n ih =>
    show shift poly (shifts poly (n + 1) r) = shift poly (shifts poly n (shift poly r))
    rw [ih]

theorem eq_zero_of_shifts_eq_zero (hpoly : poly.getLsbD (w - 1) = true) (h : shifts poly n r = 0#w)
    : r = 0#w := by
  induction n with
  | zero => apply h
  | succ n ih =>
    apply ih
    apply eq_zero_of_shift_eq_zero hpoly h

end Shifts

section Run

theorem run_append (r : BitVec w) (ds es : List Bool)
    : run poly r (ds ++ es) = run poly (run poly r ds) es := by
  induction ds generalizing r with
  | nil => rfl
  | cons d ds ih => apply ih

theorem input_xor (d e : Bool) : input w (d ^^ e) = input w d ^^^ input w e := by
  unfold input
  rw [← BitVec.setWidth_xor, BitVec.ofBool_xor_ofBool]

theorem run_xor (r s : BitVec w) {ds es : List Bool} (h : ds.length = es.length)
    : run poly (r ^^^ s) (List.zipWith xor ds es) = run poly r ds ^^^ run poly s es := by
  induction ds generalizing r s es with
  | nil =>
    rw [List.eq_nil_of_length_eq_zero h.symm]
    rfl
  | cons d ds ih =>
    cases es with
    | nil => contradiction
    | cons e es =>
      show run poly (shift poly (r ^^^ s ^^^ input w (d ^^ e))) _ = _
      have hstep : r ^^^ s ^^^ input w (d ^^ e) = (r ^^^ input w d) ^^^ (s ^^^ input w e) := by
        rw [input_xor]
        ac_rfl
      rw [hstep, shift_xor]
      apply ih
      simpa using h

theorem run_replicate (r : BitVec w) (n : Nat) : run poly r (List.replicate n false) = shifts poly n r := by
  induction n generalizing r with
  | zero => rfl
  | succ n ih =>
    have hinput : input w false = 0#w := by simp [input]
    rw [shifts_succ', ← ih, List.replicate_succ]
    show run poly (shift poly (r ^^^ input w false)) _ = _
    rw [hinput, BitVec.xor_zero]

theorem getLsbD_word (w : Nat) (ds : List Bool) (i : Nat)
    : (word w ds).getLsbD i = (decide (i < w) && ds.getD i false) := by
  unfold word
  rw [BitVec.getLsbD_setWidth, BitVec.getLsbD_ofBoolListLE]

/--
Taking in a bit and shifting drops that bit from a word that is still to be taken in.
-/
theorem shift_word (r : BitVec w) (d : Bool) (ds : List Bool) (h : ds.length < w)
    : shift poly (r ^^^ word w (d :: ds)) = shift poly (r ^^^ input w d) ^^^ word w ds := by
  apply BitVec.eq_of_getLsbD_eq
  intro i hi
  have hlow : (input w d).getLsbD 0 = (word w (d :: ds)).getLsbD 0 := by
    rw [getLsbD_word, input, BitVec.getLsbD_setWidth]
    simp
  have hrest : (word w (d :: ds)).getLsbD (i + 1) = (word w ds).getLsbD i := by
    rw [getLsbD_word, getLsbD_word, List.getD_cons_succ]
    by_cases hlast : i + 1 < w
    . simp [hlast, hi]
    . rw [List.getD_eq_getElem?_getD, List.getElem?_eq_none (by omega)]
      simp [hlast]
  have hhigh : (input w d).getLsbD (i + 1) = false := by
    rw [input, BitVec.getLsbD_setWidth]
    simp
  rw [BitVec.getLsbD_xor, getLsbD_shift, getLsbD_shift, BitVec.getLsbD_xor, BitVec.getLsbD_xor,
    BitVec.getLsbD_xor, BitVec.getLsbD_xor, hlow, hrest, hhigh, Bool.xor_false]
  rw [Bool.xor_assoc, Bool.xor_assoc, Bool.xor_comm ((word w ds).getLsbD i)]

theorem run_eq_shifts (r : BitVec w) (ds : List Bool) (h : ds.length ≤ w)
    : run poly r ds = shifts poly ds.length (r ^^^ word w ds) := by
  induction ds generalizing r with
  | nil => simp [run, shifts, word, BitVec.ofBoolListLE, Nat.repeat]
  | cons d ds ih =>
    rw [List.length_cons] at h
    rw [List.length_cons, shifts_succ', shift_word r d ds h]
    apply ih
    omega

end Run

end Crc
