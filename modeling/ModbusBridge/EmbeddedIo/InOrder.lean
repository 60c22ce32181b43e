import ModbusBridge.EmbeddedIo.Lossless

/-!
This module contains devices that deliver a stream of bytes in order, in pieces of any size. Any number of
their reads may fail, but then nothing is lost, and nothing is asked of their writes.
-/

namespace EmbeddedIo

open Effect

class InOrder (σ : Type) {ε : outParam Type} [Device σ ε] where
  /-- What has not been read yet. -/
  rx : σ → List UInt8
  read_ok {d : σ} {n : Nat} {bytes : {bytes : List UInt8 // bytes.length ≤ n}} :
    (Device.read d n).result = .ok bytes → rx d = bytes.val ++ rx (Device.read d n).next
  read_ne_nil {d : σ} {n : Nat} {bytes : {bytes : List UInt8 // bytes.length ≤ n}} :
    (Device.read d n).result = .ok bytes → 0 < n → rx d ≠ [] → bytes.val ≠ []
  read_error {d : σ} {n : Nat} {e : ε} :
    (Device.read d n).result = .error e → rx (Device.read d n).next = rx d

instance [Device σ ε] [Lossless σ] : InOrder σ where
  rx := Lossless.rx
  read_ok h := (Lossless.read_ok h).1
  read_ne_nil := Lossless.read_ne_nil
  read_error h := (Lossless.read_error h).1

/--
To ask such a device whether it is ready takes nothing from its stream.
-/
class ReadyInOrder (σ : Type) {ε : outParam Type} [Device σ ε] [InOrder σ] [ReadReady σ ε] : Prop where
  readReady (d : σ) : InOrder.rx (ReadReady.readReady d).2 = InOrder.rx d

instance : ReadyInOrder MockStream where
  readReady _ := rfl

end EmbeddedIo
