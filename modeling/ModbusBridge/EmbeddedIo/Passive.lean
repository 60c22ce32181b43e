import ModbusBridge.EmbeddedIo.MockStream

/-!
This module contains devices that do the same whether or not they are asked if they are ready: the streams
that a program meets are then the same for a copy of it that asks and for one that does not.
-/

namespace EmbeddedIo

open Effect

class Passive (σ : Type) {ε : outParam Type} [Device σ ε] [ReadReady σ ε] where
  /-- The two devices answer every sequence of reads, writes and flushes in the same way. -/
  Same : σ → σ → Prop
  refl (d : σ) : Same d d
  read {d d' : σ} (h : Same d d') (n : Nat) :
    (Device.read d n).result = (Device.read d' n).result
      ∧ Same (Device.read d n).next (Device.read d' n).next
  write {d d' : σ} (h : Same d d') (buf : List UInt8) (hbuf : buf ≠ []) :
    (Device.write d buf hbuf).result = (Device.write d' buf hbuf).result
      ∧ Same (Device.write d buf hbuf).next (Device.write d' buf hbuf).next
  flush {d d' : σ} (h : Same d d') :
    (Device.flush d).result = (Device.flush d').result
      ∧ Same (Device.flush d).next (Device.flush d').next
  readReady {d d' : σ} (h : Same d d') : Same (ReadReady.readReady d).2 d'

instance : Passive MockStream where
  Same := Eq
  refl _ := rfl
  read h n := by
    rw [h]
    exact ⟨rfl, rfl⟩
  write h buf hbuf := by
    rw [h]
    exact ⟨rfl, rfl⟩
  flush h := by
    rw [h]
    exact ⟨rfl, rfl⟩
  readReady h := h

end EmbeddedIo
