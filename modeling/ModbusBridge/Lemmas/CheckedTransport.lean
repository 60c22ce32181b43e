import ModbusBridge.Impl.CheckedTransport
import ModbusBridge.Lemmas.Checked

/-!
This module contains the lemmas that the checks of the transports never fail either, whatever the devices do.
-/

namespace ModbusBridge

namespace Checked

open Effect EmbeddedIo Session Rust
open MayPanic (orPanic)

variable {S TS D SE TE : Type}

/--
`readBuf` fills any buffer with what `readExact` returns.
-/
def Fills (readBuf : List UInt8 → MayPanic σ ε (List UInt8)) (readExact : (len : Nat) → Exec σ ε (Vector UInt8 len))
    : Prop :=
  ∀ (len : Nat) (buf : List UInt8), buf.length = len → len < 65536
    → readBuf buf = OptionT.lift (Vector.toList <$> readExact len)

/--
What has been read is put behind what is there already.
-/
theorem fill_eq (go : List UInt8 → Nat → MayPanic σ ε α) {filled old bytes : List UInt8}
    (hfit : filled.length + bytes.length < 65536)
    : (do
        let ⟨next, _⟩ ← orPanic (Usize.add filled.length bytes.length).attach
        go (Slice.overwrite (filled ++ old) filled.length bytes) next)
        =
      go (filled ++ bytes ++ old.drop bytes.length) (filled ++ bytes).length := by
  rw [MayPanic.orPanic_attach (Usize.add_of_lt hfit), pure_bind, Slice.overwrite_append, List.length_append]

theorem pushBytes_eq {readBuf : List UInt8 → MayPanic σ (ModbusError SE TE) (List UInt8)}
    {readExact : (len : Nat) → Exec σ (ModbusError SE TE) (Vector UInt8 len)} (hread : Fills readBuf readExact)
    {byte : List UInt8} (hbyte : byte.length = 1) (n : Nat) (buf : Heapless.Vec UInt8 cap)
    : pushBytes readBuf byte n buf = OptionT.lift (ModbusBridge.pushBytes (readExact 1) n buf) := by
  induction n generalizing byte buf with
  | zero => rfl
  | succ n ih =>
    unfold pushBytes ModbusBridge.pushBytes
    rw [hread 1 byte hbyte (by decide)]
    apply MayPanic.lift_map_bind_eq
    intro byte
    have hindex : Slice.index byte.toList 0 = some (byte.get 0) := by
      rw [Slice.index_of_lt (by rw [byte.length_toList]; exact Nat.one_pos), Vector.getElem_toList]
      rfl
    rw [hindex, MayPanic.orPanic_some, pure_bind]
    apply MayPanic.lift_bind_eq
    intro buf
    apply ih byte.length_toList

theorem writeAll_eq (write : (buf : List UInt8) → buf ≠ [] → Exec σ ε {n : Nat // 0 < n ∧ n ≤ buf.length})
    (data : List UInt8) : writeAll write data = OptionT.lift (ModbusBridge.writeAll write data) := by
  unfold writeAll ModbusBridge.writeAll
  split
  . rfl
  . next hne =>
    apply MayPanic.lift_bind_eq
    intro n
    obtain ⟨hpos, hle⟩ := n.property
    rw [MayPanic.orPanic_attach (Slice.sliceFrom_of_le hle), pure_bind]
    apply writeAll_eq
termination_by data.length
decreasing_by
  rw [List.length_drop]
  omega

theorem checkCrc_bind_eq (frame : Heapless.Vec UInt8 cap)
    : (do
        OptionT.lift (Exec.mapErr FrameError.intoCombined (Exec.ofExcept (← orPanic (checkCrc frame.data))))
        pure frame : MayPanic σ (ModbusError SE Empty) _)
        =
      OptionT.lift (do
        Exec.mapErr FrameError.intoCombined (Exec.ofExcept (ModbusBridge.checkCrc frame.data))
        pure frame) := by
  rw [checkCrc_eq, MayPanic.orPanic_some, pure_bind, OptionT.lift_bind]
  simp only [OptionT.lift_pure]

namespace ModbusTcp

variable [Device TS TE]

theorem readExact.go_eq (filled old : List UInt8) (hlen : filled.length + old.length = len) (hfit : len < 65536)
    (hfilled : filled.length ≤ len)
    : (go (filled ++ old) filled.length : MayPanic (Session S TS D SE TE) _ _)
        = OptionT.lift (Vector.toList <$> ModbusBridge.ModbusTcp.readExact.go len filled hfilled) := by
  unfold go ModbusBridge.ModbusTcp.readExact.go
  by_cases hlt : filled.length < len
  . rw [dif_pos (by rw [List.length_append]; omega), dif_pos hlt]
    rw [MayPanic.orPanic_attach (Slice.sliceFrom_append filled old), pure_bind, map_bind, OptionT.lift_bind]
    apply MayPanic.result_bind_congr
    . omega
    . intro e
      rfl
    . intro bytes hold hmissing
      cases bytes with
      | nil => rfl
      | cons byte bytes =>
        dsimp only
        rw [fill_eq go (by omega)]
        apply go_eq _ _ _ hfit
        rw [List.length_append, List.length_drop]
        omega
  . rw [dif_neg (by rw [List.length_append]; omega), dif_neg hlt]
    have hold : old = [] := List.length_eq_zero_iff.mp (by omega)
    rw [hold, List.append_nil, map_pure, OptionT.lift_pure]
    rfl
termination_by old.length
decreasing_by
  rw [List.length_drop]
  simp only [List.length_cons] at *
  omega

theorem readExact_fills
    : Fills (readExact : List UInt8 → MayPanic (Session S TS D SE TE) _ _) ModbusBridge.ModbusTcp.readExact := by
  rintro len buf rfl hfit
  apply readExact.go_eq [] buf (Nat.zero_add _) hfit

theorem listen_eq
    : (listen : MayPanic (Session S TS D SE TE) _ _) = OptionT.lift ModbusBridge.ModbusTcp.listen := by
  unfold listen ModbusBridge.ModbusTcp.listen
  rw [readExact_fills 6 _ (List.length_replicate ..) (by decide)]
  apply MayPanic.lift_map_bind_eq
  intro mbap
  have hlen : mbap.toList.length = 6 := mbap.length_toList
  rw [Slice.index_of_lt (by omega), Slice.index_of_lt (by omega)]
  simp only [MayPanic.orPanic_some, pure_bind, Vector.getElem_toList]
  apply MayPanic.lift_bind_eq
  intro req
  apply pushBytes_eq readExact_fills (List.length_replicate ..)

theorem writeAll_eq (data : List UInt8)
    : (writeAll data : MayPanic (Session S TS D SE TE) _ _) = OptionT.lift (ModbusBridge.ModbusTcp.writeAll data) :=
  Checked.writeAll_eq tcpWrite data

theorem send_eq (data : List UInt8)
    : (send data : MayPanic (Session S TS D SE TE) _ _) = OptionT.lift (ModbusBridge.ModbusTcp.send data) := by
  apply MayPanic.lift_bind_eq
  intro _
  apply writeAll_eq

end ModbusTcp

namespace ModbusRtu

variable [Device S SE]

theorem readExact.go_eq (filled old : List UInt8) (hlen : filled.length + old.length = len) (hfit : len < 65536)
    (hfilled : filled.length ≤ len) {attempt : Nat} (hattempt : attempt ≤ 11)
    : (go (filled ++ old) filled.length attempt : MayPanic (Session S TS D SE TE) _ _)
        = OptionT.lift (Vector.toList <$> ModbusBridge.ModbusRtu.readExact.go len filled hfilled attempt) := by
  unfold go ModbusBridge.ModbusRtu.readExact.go
  by_cases hlt : filled.length < len
  . rw [dif_pos (by rw [List.length_append]; omega), dif_pos hlt]
    rw [MayPanic.orPanic_attach (Slice.sliceFrom_append filled old), pure_bind, map_bind, OptionT.lift_bind]
    apply MayPanic.result_bind_congr
    . omega
    . intro e
      dsimp only
      split
      . rfl
      -- At most ten failures have been counted, so the counter is far from its limit.
      . next hle =>
        have hcount : attempt + 1 ≤ 11 := by omega
        have hnext : I32.add attempt 1 = some (attempt + 1) := I32.add_of_lt (by omega)
        rw [MayPanic.orPanic_attach hnext, pure_bind]
        apply go_eq _ _ hlen hfit hfilled hcount
    . intro bytes hold hmissing
      cases bytes with
      | nil => rfl
      | cons byte bytes =>
        dsimp only
        rw [fill_eq (go · · attempt) (by omega)]
        apply go_eq _ _ _ hfit _ hattempt
        rw [List.length_append, List.length_drop]
        omega
  . rw [dif_neg (by rw [List.length_append]; omega), dif_neg hlt]
    have hold : old = [] := List.length_eq_zero_iff.mp (by omega)
    rw [hold, List.append_nil, map_pure, OptionT.lift_pure]
    rfl
termination_by old.length + (11 - attempt)
decreasing_by
  . omega
  . rw [List.length_drop]
    simp only [List.length_cons] at *
    omega

theorem readExact_fills
    : Fills (readExact : List UInt8 → MayPanic (Session S TS D SE TE) _ _) ModbusBridge.ModbusRtu.readExact := by
  rintro len buf rfl hfit
  apply readExact.go_eq [] buf (Nat.zero_add _) hfit _ (by decide)

theorem writeAll_eq (data : List UInt8)
    : (writeAll data : MayPanic (Session S TS D SE TE) _ _) = OptionT.lift (ModbusBridge.ModbusRtu.writeAll data) :=
  Checked.writeAll_eq serialWrite data

theorem send_eq (payload : List UInt8)
    : (send payload : MayPanic (Session S TS D SE TE) _ _)
        = OptionT.lift (ModbusBridge.ModbusRtu.send payload) := by
  unfold send
  rw [writeAll_eq]
  unfold ModbusBridge.ModbusRtu.send ModbusBridge.ModbusRtu.flush
  simp only [OptionT.lift_bind]

theorem listenRest_eq (fc : UInt8) (req : RtuFrame)
    : (listen.listenRest fc req : MayPanic (Session S TS D SE TE) _ _)
        = OptionT.lift (ModbusBridge.ModbusRtu.listen.listenRest fc req) := by
  unfold listen.listenRest ModbusBridge.ModbusRtu.listen.listenRest
  split
  . rw [readExact_fills 5 _ (List.length_replicate ..) (by decide)]
    apply MayPanic.lift_map_bind_eq
    intro fixed
    apply MayPanic.lift_bind_eq
    intro req
    have hlen : fixed.toList.length = 5 := fixed.length_toList
    have hbyte : fixed[4].toNat < 256 := fixed[4].toNat_lt
    rw [Slice.index_of_lt (by omega)]
    simp only [MayPanic.orPanic_some, pure_bind, Vector.getElem_toList]
    rw [Usize.add_of_lt (by omega), MayPanic.orPanic_some, pure_bind]
    apply pushBytes_eq readExact_fills (List.length_replicate ..)
  . rw [readExact_fills 6 _ (List.length_replicate ..) (by decide)]
    apply MayPanic.lift_map_bind_eq
    intro rest
    rfl

theorem listen_eq
    : (listen : MayPanic (Session S TS D SE TE) _ _) = OptionT.lift ModbusBridge.ModbusRtu.listen := by
  unfold listen ModbusBridge.ModbusRtu.listen
  rw [readExact_fills 2 _ (List.length_replicate ..) (by decide)]
  apply MayPanic.lift_map_bind_eq
  intro hdr
  have hlen : hdr.toList.length = 2 := hdr.length_toList
  apply MayPanic.lift_bind_eq
  intro req
  rw [Slice.index_of_lt (by omega)]
  simp only [MayPanic.orPanic_some, pure_bind, Vector.getElem_toList, listenRest_eq]
  apply MayPanic.lift_bind_eq
  intro req
  apply checkCrc_bind_eq

theorem receive_eq
    : (receive : MayPanic (Session S TS D SE TE) _ _) = OptionT.lift ModbusBridge.ModbusRtu.receive := by
  unfold receive ModbusBridge.ModbusRtu.receive
  rw [readExact_fills 3 _ (List.length_replicate ..) (by decide)]
  apply MayPanic.lift_map_bind_eq
  intro header
  rw [rtuResponseRemaining_eq, MayPanic.orPanic_some, pure_bind]
  apply MayPanic.lift_bind_eq
  intro resp
  rw [pushBytes_eq readExact_fills (List.length_replicate ..)]
  apply MayPanic.lift_bind_eq
  intro resp
  apply checkCrc_bind_eq

theorem sendAndReceive_eq (req : List UInt8)
    : (sendAndReceive req : MayPanic (Session S TS D SE TE) _ _)
        = OptionT.lift (ModbusBridge.ModbusRtu.sendAndReceive req) := by
  unfold sendAndReceive ModbusBridge.ModbusRtu.sendAndReceive
  rw [send_eq, MayPanic.mapErr_lift]
  apply MayPanic.lift_bind_eq
  intro _
  apply receive_eq

end ModbusRtu

end Checked

end ModbusBridge
