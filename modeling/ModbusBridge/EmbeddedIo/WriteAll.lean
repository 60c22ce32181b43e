import ModbusBridge.EmbeddedIo.Device

/-!
This module contains the operations that writing a whole buffer with partial writes can give rise to,
on any device that keeps to the contract of `Write`.
-/

namespace EmbeddedIo

open Effect

/--
`WriteAll buf r ws`: writing `buf` until nothing is left of it can perform the operations `ws` and
end with `r`.
-/
inductive WriteAll : List UInt8 → Except (Stop ε) Unit → List (IoEvent ε) → Prop where
  | done : WriteAll [] (.ok ()) []
  | step {n : Nat} (hpos : 0 < n) (hle : n ≤ buf.length) (hrest : WriteAll (buf.drop n) r ws)
      : WriteAll buf r (.write buf (.ok n) :: ws)
  | stop (hbuf : buf ≠ []) (e : Stop ε) : WriteAll buf (.error e) [.write buf (.error e)]

namespace WriteAll

variable {buf : List UInt8} {r : Except (Stop ε) Unit} {ws : List (IoEvent ε)}

theorem isWrite (h : WriteAll buf r ws) : ∀ w ∈ ws, w.isWrite = true := by
  induction h with
  | done => simp
  | step _ _ _ ih => simpa [IoEvent.isWrite] using ih
  | stop => simp [IoEvent.isWrite]

/--
Success means that no operation failed, and then the accepted pieces make up the buffer.
-/
theorem accepted_of_ok (h : WriteAll buf (.ok ()) ws)
    : ws.flatMap IoEvent.accepted = buf ∧ ∀ w ∈ ws, w.isFault = false := by
  generalize hr : (Except.ok () : Except (Stop ε) Unit) = r at h
  induction h with
  | done => simp
  | step hpos hle hrest ih =>
    obtain ⟨hacc, hfault⟩ := ih hr
    constructor
    . simp [IoEvent.accepted, hacc]
    . simpa [IoEvent.isFault] using hfault
  | stop => contradiction

/--
Every write takes at least one byte or is the last one.
-/
theorem length_le (h : WriteAll buf r ws) : ws.length ≤ buf.length := by
  induction h with
  | done => simp
  | step hpos hle hrest ih =>
    rw [List.length_drop] at ih
    rw [List.length_cons]
    omega
  | stop hbuf e => exact List.length_pos_iff.mpr hbuf

theorem accepted_append (h : WriteAll buf r ws) : ∃ rest, ws.flatMap IoEvent.accepted ++ rest = buf := by
  induction h with
  | done => exact ⟨[], rfl⟩
  | step hpos hle hrest ih =>
    obtain ⟨rest, hrest⟩ := ih
    refine ⟨rest, ?_⟩
    rw [List.flatMap_cons, List.append_assoc, hrest]
    apply List.take_append_drop
  | stop hbuf e => exact ⟨_, rfl⟩

/--
An operation that fails is the last one, and no other one has failed.
-/
theorem eq_append_of_error (h : WriteAll buf (.error e) ws)
    : ∃ before last, ws = before ++ [.write last (.error e)] ∧ ∀ w ∈ before, w.isFault = false := by
  generalize hr : (Except.error e : Except (Stop ε) Unit) = r at h
  induction h with
  | done => contradiction
  | @step _ _ _ buf n hpos hle hrest ih =>
    obtain ⟨before, last, hws, hbefore⟩ := ih hr
    refine ⟨.write buf (.ok n) :: before, last, ?_, ?_⟩
    . rw [hws, List.cons_append]
    . rw [List.forall_mem_cons]
      exact ⟨rfl, hbefore⟩
  | stop hbuf e' =>
    injection hr with he
    rw [he]
    exact ⟨[], _, rfl, by simp⟩

theorem isFault_of_error (h : WriteAll buf (.error e) ws) : ∃ w ∈ ws, w.isFault = true := by
  obtain ⟨before, last, rfl, _⟩ := h.eq_append_of_error
  exact ⟨.write last (.error e), List.mem_append_right _ (List.mem_singleton_self _), rfl⟩

end WriteAll

end EmbeddedIo
