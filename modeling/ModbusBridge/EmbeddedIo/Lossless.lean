import ModbusBridge.EmbeddedIo.MockStream

/-!
This module contains devices that deliver their input in order and accept everything that is written,
in pieces of any size. Some of their reads may fail, but then nothing is lost.
-/

namespace EmbeddedIo

open Effect

class Lossless (σ : Type) {ε : outParam Type} [Device σ ε] where
  /-- What has not been read yet. -/
  rx : σ → List UInt8
  /-- How many reads are still going to fail at most. -/
  faults : σ → Nat
  read_ok {d : σ} {n : Nat} {bytes : {bytes : List UInt8 // bytes.length ≤ n}} :
    (Device.read d n).result = .ok bytes →
      rx d = bytes.val ++ rx (Device.read d n).next ∧ faults (Device.read d n).next ≤ faults d
  read_ne_nil {d : σ} {n : Nat} {bytes : {bytes : List UInt8 // bytes.length ≤ n}} :
    (Device.read d n).result = .ok bytes → 0 < n → rx d ≠ [] → bytes.val ≠ []
  read_error {d : σ} {n : Nat} {e : ε} :
    (Device.read d n).result = .error e →
      rx (Device.read d n).next = rx d ∧ faults (Device.read d n).next < faults d
  write_ok (d : σ) (buf : List UInt8) (h : buf ≠ []) :
    (∃ n, (Device.write d buf h).result = .ok n)
      ∧ rx (Device.write d buf h).next = rx d ∧ faults (Device.write d buf h).next ≤ faults d
  flush_ok (d : σ) :
    (Device.flush d).result = .ok ()
      ∧ rx (Device.flush d).next = rx d ∧ faults (Device.flush d).next ≤ faults d

instance : Lossless MockStream where
  rx := MockStream.rx
  faults _ := 0
  read_ok := by
    intro d n bytes h
    injection h with h
    rw [← h]
    refine ⟨?_, Nat.le_refl 0⟩
    show d.rx = d.rx.take _ ++ d.rx.drop _
    rw [List.length_take, List.take_eq_take_min, List.take_append_drop]
  read_ne_nil := by
    intro d n bytes h hpos hne
    injection h with h
    rw [← h]
    have hgrant := grant_pos d.limits.head? hpos
    have hlen := List.length_pos_iff.mpr hne
    apply List.ne_nil_of_length_pos
    show 0 < (d.rx.take _).length
    rw [List.length_take]
    omega
  read_error := by
    intro d n e h
    contradiction
  write_ok d buf h := ⟨⟨_, rfl⟩, rfl, Nat.le_refl 0⟩
  flush_ok d := ⟨rfl, rfl, Nat.le_refl 0⟩

end EmbeddedIo
