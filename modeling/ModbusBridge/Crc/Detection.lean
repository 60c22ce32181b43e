import Mathlib.Algebra.BigOperators.Intervals
import Mathlib.Algebra.BigOperators.Ring.Finset
import Mathlib.Algebra.Field.ZMod
import Mathlib.Algebra.Ring.Parity
import Mathlib.Data.List.GetD
import ModbusBridge.Crc.Register

/-!
This module contains which errors in a message leave the register with a remainder. By linearity the
errors can be looked at alone: they are a message of their own, which starts from an empty register.
-/

namespace Crc

variable {w : Nat} {poly : BitVec w}

theorem run_zipWith_of_eq {r : BitVec w} {ds es : List Bool} (hlen : ds.length = es.length)
    (h : run poly r ds = run poly r es) : run poly 0#w (List.zipWith xor ds es) = 0#w := by
  have hlinear : run poly (r ^^^ r) (List.zipWith xor ds es) = run poly r ds ^^^ run poly r es :=
    run_xor r r hlen
  rw [h, BitVec.xor_self, BitVec.xor_self] at hlinear
  apply hlinear

theorem eq_replicate_of_getD {es : List Bool} (h : ∀ i, es.getD i false = false)
    : es = List.replicate es.length false := by
  apply List.ext_getElem
  . simp
  . intro i hi _
    have hbit := h i
    rw [List.getD_eq_getElem _ _ hi] at hbit
    simpa using hbit

section Burst

theorem eq_false_of_word_eq_zero {ds : List Bool} (hlen : ds.length ≤ w) (h : word w ds = 0#w) (i : Nat)
    : ds.getD i false = false := by
  by_cases hi : i < w
  . have hbit := getLsbD_word w ds i
    rw [h, BitVec.getLsbD_zero, decide_eq_true hi, Bool.true_and] at hbit
    rw [← hbit]
  . rw [List.getD_eq_default _ _ (by omega)]

/--
Errors within as many consecutive bits as the register has leave a remainder, wherever they are.
-/
theorem no_burst (hpoly : poly.getLsbD (w - 1) = true) {es : List Bool} (start : Nat)
    (hburst : ∀ i, es.getD i false = true → start ≤ i ∧ i < start + w) (h : run poly 0#w es = 0#w)
    : ∀ i, es.getD i false = false := by
  have hquiet (i : Nat) (hi : ¬ (start ≤ i ∧ i < start + w)) : es.getD i false = false := by
    rw [← Bool.not_eq_true]
    intro hbit
    exact hi (hburst i hbit)
  have hbefore : es.take start = List.replicate (es.take start).length false := by
    apply eq_replicate_of_getD
    intro i
    rw [List.getD_eq_getElem?_getD, List.getElem?_take]
    split
    . rw [← List.getD_eq_getElem?_getD]
      apply hquiet
      omega
    . rfl
  have hafter : es.drop (start + w) = List.replicate (es.drop (start + w)).length false := by
    apply eq_replicate_of_getD
    intro i
    rw [List.getD_eq_getElem?_getD, List.getElem?_drop, ← List.getD_eq_getElem?_getD]
    apply hquiet
    omega
  have hsplit : es = es.take start ++ ((es.drop start).take w ++ es.drop (start + w)) := by
    rw [← List.drop_drop, List.take_append_drop, List.take_append_drop]
  have hwindow : ((es.drop start).take w).length ≤ w := List.length_take_le _ _
  -- What comes before the window leaves the register empty, what comes after it only shifts.
  rw [hsplit, run_append, run_append, hbefore, run_replicate, shifts_zero_right, hafter, run_replicate]
    at h
  have hword := eq_zero_of_shifts_eq_zero hpoly h
  rw [run_eq_shifts _ _ hwindow, BitVec.zero_xor] at hword
  have hnone := eq_false_of_word_eq_zero hwindow (eq_zero_of_shifts_eq_zero hpoly hword)
  intro i
  by_cases hi : start ≤ i ∧ i < start + w
  . have hbit := hnone (i - start)
    rw [List.getD_eq_getElem?_getD, List.getElem?_take, if_pos (by omega), List.getElem?_drop,
      ← List.getD_eq_getElem?_getD, Nat.add_sub_cancel' hi.1] at hbit
    apply hbit
  . apply hquiet i hi

end Burst

section Parity

def parity (r : BitVec w) : ZMod 2 := ∑ i ∈ Finset.range w, ((r.getLsbD i).toNat : ZMod 2)

theorem toNat_xor (a b : Bool) : ((a ^^ b).toNat : ZMod 2) = a.toNat + b.toNat := by
  revert a b
  decide

theorem parity_xor (r s : BitVec w) : parity (r ^^^ s) = parity r + parity s := by
  unfold parity
  rw [← Finset.sum_add_distrib]
  apply Finset.sum_congr rfl
  intro i _
  rw [BitVec.getLsbD_xor, toNat_xor]

/--
With an odd number of terms in the polynomial, a bit that falls out is made up for by those that are added.
-/
theorem parity_shift (hpoly : parity poly = 1) (r : BitVec w) : parity (shift poly r) = parity r := by
  have hright : ∑ i ∈ Finset.range w, ((r.getLsbD (i + 1)).toNat : ZMod 2) + (r.getLsbD 0).toNat
      = parity r := by
    rw [← Finset.sum_range_succ' fun i => ((r.getLsbD i).toNat : ZMod 2), Finset.sum_range_succ]
    rw [BitVec.getLsbD_of_ge r w (Nat.le_refl w)]
    simp [parity]
  rw [← hright]
  have hbits : parity (shift poly r)
      = ∑ i ∈ Finset.range w, ((r.getLsbD (i + 1)).toNat : ZMod 2)
        + (r.getLsbD 0).toNat * parity poly := by
    unfold parity
    rw [Finset.mul_sum, ← Finset.sum_add_distrib]
    apply Finset.sum_congr rfl
    intro i _
    rw [getLsbD_shift, toNat_xor]
    cases r.getLsbD 0 <;> simp
  rw [hbits, hpoly, mul_one]

theorem parity_input (hpoly : parity poly = 1) (d : Bool) : parity (input w d) = (d.toNat : ZMod 2) := by
  have hpos : 0 < w := by
    apply Nat.pos_of_ne_zero
    rintro rfl
    simp [parity] at hpoly
  unfold parity
  rw [Finset.sum_eq_single_of_mem 0 (Finset.mem_range.mpr hpos)]
  . simp [input, hpos]
  . intro i _ hi
    simp [input, hi]

theorem parity_run (hpoly : parity poly = 1) (r : BitVec w) (ds : List Bool)
    : parity (run poly r ds) = parity r + (ds.count true : ZMod 2) := by
  induction ds generalizing r with
  | nil => simp [run]
  | cons d ds ih =>
    show parity (run poly (shift poly (r ^^^ input w d)) ds) = _
    rw [ih, parity_shift hpoly, parity_xor, parity_input hpoly, add_assoc]
    cases d <;> simp [add_comm]

theorem run_ne_zero_of_odd (hpoly : parity poly = 1) {es : List Bool} (hodd : Odd (es.count true))
    : run poly 0#w es ≠ 0#w := by
  intro h
  have hparity := parity_run hpoly 0#w es
  have hzero : parity (0#w) = 0 := by simp [parity]
  rw [h, hzero, zero_add, ZMod.natCast_eq_one_iff_odd.mpr hodd] at hparity
  contradiction

end Parity

section TwoBits

/--
None of the first `n` registers that follow `r` is `target`.
-/
def avoids (poly target : BitVec w) : Nat → BitVec w → Bool
  | 0, _ => true
  | n + 1, r => shift poly r != target && avoids poly target n (shift poly r)

theorem shifts_ne_of_avoids {target : BitVec w} (h : avoids poly target n r = true) (hk : k < n)
    : shifts poly (k + 1) r ≠ target := by
  induction n generalizing r k with
  | zero => contradiction
  | succ n ih =>
    unfold avoids at h
    rw [Bool.and_eq_true, bne_iff_ne] at h
    cases k with
    | zero => exact h.1
    | succ k =>
      rw [shifts_succ']
      apply ih h.2
      omega

theorem exists_first_true {es : List Bool} (h : es.count true = n + 1)
    : ∃ i rest, es = List.replicate i false ++ true :: rest ∧ rest.count true = n := by
  have hmem : true ∈ es := List.count_pos_iff.mp (by omega)
  obtain ⟨zeros, rest, rfl, hnot⟩ := List.eq_append_cons_of_mem hmem
  refine ⟨zeros.length, rest, ?_, ?_⟩
  . congr 1
    apply List.eq_replicate_of_mem
    intro b hb
    cases b with
    | false => rfl
    | true => contradiction
  . rw [List.count_append, List.count_eq_zero.mpr hnot, List.count_cons_self] at h
    omega

theorem input_true (w : Nat) : input w true = 1#w := by
  apply BitVec.eq_of_toNat_eq
  simp [input]

theorem run_replicate_true (i : Nat) (rest : List Bool) (r : BitVec w)
    : run poly r (List.replicate i false ++ true :: rest)
        = run poly (shift poly (shifts poly i r ^^^ 1#w)) rest := by
  rw [run_append, run_replicate]
  show run poly (shift poly (_ ^^^ input w true)) rest = _
  rw [input_true]

/--
Two errors leave a remainder as long as the register does not come back to 1 in between.
-/
theorem run_ne_zero_of_two (hpoly : poly.getLsbD (w - 1) = true) {es : List Bool}
    (hperiod : ∀ k, k + 1 < es.length → shifts poly (k + 1) 1#w ≠ 1#w) (htwo : es.count true = 2)
    : run poly 0#w es ≠ 0#w := by
  obtain ⟨i, rest, rfl, hone⟩ := exists_first_true htwo
  obtain ⟨j, rest, rfl, hnone⟩ := exists_first_true hone
  have hquiet : rest = List.replicate rest.length false := by
    apply List.eq_replicate_of_mem
    intro b hb
    cases b with
    | false => rfl
    | true => exact absurd hb (List.count_eq_zero.mp hnone)
  rw [run_replicate_true, run_replicate_true, hquiet, run_replicate, shifts_zero_right, BitVec.zero_xor]
  intro h
  have h := eq_zero_of_shift_eq_zero hpoly (eq_zero_of_shifts_eq_zero hpoly h)
  rw [BitVec.xor_eq_zero_iff, ← shifts_succ'] at h
  apply hperiod j _ h
  simp only [List.length_append, List.length_cons, List.length_replicate]
  omega

end TwoBits

end Crc
