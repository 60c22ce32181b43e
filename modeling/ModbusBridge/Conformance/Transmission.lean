import ModbusBridge.Lemmas.Send

/-!
This module contains what a transmission on the RTU side does, in order, however the serial port cuts the
frame into pieces and wherever it fails.
-/

namespace ModbusBridge

open Effect EmbeddedIo Session

variable {S TS D SE TE : Type}

/--
The effects of a transmission in which nothing fails: the pin is high from the first byte until the last
one has left. The first event only marks the call.
-/
def SentAll (payload : List UInt8) (t : List (Event SE TE)) : Prop :=
  ∃ ws : List (IoEvent SE),
    t = [.rtuSend payload, .serial (.flush (.ok ())), .txEn true] ++ ws.map .serial
          ++ [.serial (.flush (.ok ())), .txEn false]
      ∧ (∀ w ∈ ws, w.isWrite = true)
      ∧ ws.flatMap IoEvent.accepted = payload
      ∧ ws.length ≤ payload.length

/--
`t` ends with the event `x`, and nothing has failed before it.
-/
def StopsAt (x : Event SE TE) (t : List (Event SE TE)) : Prop :=
  ∃ before, t = before ++ [x] ∧ ∀ y ∈ before, y.serialWriteFault = none

/--
A transmission of `payload` that performs `t` and ends with `r`.
-/
structure Transmission (payload : List UInt8) (r : Except (Stop SE) Unit) (t : List (Event SE TE)) : Prop where
  writes_le : t.countP Event.isSerialWrite ≤ payload.length
  completed : (∀ x ∈ t, x.serialWriteFault = none) → r = .ok () ∧ SentAll payload t
  stopped : ∀ x ∈ t, ∀ e, x.serialWriteFault = some e →
    r = .error e ∧ Trace.serialTx t <+: payload ∧ StopsAt x t

section Writes

theorem serialWriteFault_serial {w : IoEvent SE} (h : w.isFault = false)
    : (Event.serial w : Event SE TE).serialWriteFault = none := by
  unfold Event.serialWriteFault
  split
  . next heq =>
    injection heq with heq
    rw [heq] at h
    contradiction
  . next heq =>
    injection heq with heq
    rw [heq] at h
    contradiction
  . rfl

theorem forall_map_serial {ws : List (IoEvent SE)} (h : ∀ w ∈ ws, w.isFault = false)
    : ∀ x ∈ (ws.map .serial : List (Event SE TE)), x.serialWriteFault = none := by
  rw [List.forall_mem_map]
  intro w hw
  apply serialWriteFault_serial (h w hw)

theorem serialTx_map_serial (ws : List (IoEvent SE))
    : Trace.serialTx (ws.map .serial : List (Event SE TE)) = ws.flatMap IoEvent.accepted := by
  unfold Trace.serialTx
  rw [List.flatMap_map]
  rfl

def begun (payload : List UInt8) : List (Event SE TE) :=
  [.rtuSend payload, .serial (.flush (.ok ())), .txEn true]

theorem countP_begun {payload : List UInt8} {r : Except (Stop SE) Unit} {ws : List (IoEvent SE)}
    (h : WriteAll payload r ws)
    : (begun payload ++ ws.map .serial : List (Event SE TE)).countP Event.isSerialWrite
        ≤ payload.length := by
  have hbegun : (begun payload : List (Event SE TE)).countP Event.isSerialWrite = 0 := rfl
  rw [List.countP_append, hbegun, Nat.zero_add, List.countP_map]
  exact Nat.le_trans List.countP_le_length h.length_le

end Writes

section Transmission

variable {payload : List UInt8} {t : List (Event SE TE)}

theorem Transmission.of_sentAll (h : SentAll payload t) (hquiet : ∀ x ∈ t, x.serialWriteFault = none)
    (hwrites : t.countP Event.isSerialWrite ≤ payload.length) : Transmission payload (.ok ()) t where
  writes_le := hwrites
  completed _ := ⟨rfl, h⟩
  stopped x hx e hfault := by
    rw [hquiet x hx] at hfault
    contradiction

theorem Transmission.of_stopsAt {x : Event SE TE} (h : StopsAt x t) (hfault : x.serialWriteFault = some e)
    (hwrites : t.countP Event.isSerialWrite ≤ payload.length) (hsent : Trace.serialTx t <+: payload)
    : Transmission payload (.error e) t := by
  obtain ⟨before, rfl, hbefore⟩ := h
  have hlast : x ∈ before ++ [x] := List.mem_append_right _ (List.mem_singleton_self x)
  constructor
  . apply hwrites
  . intro hquiet
    rw [hquiet x hlast] at hfault
    contradiction
  . intro y hy e' hfault'
    cases List.mem_append.mp hy with
    | inl hy =>
      rw [hbefore y hy] at hfault'
      contradiction
    | inr hy =>
      rw [List.mem_singleton] at hy
      subst hy
      rw [hfault] at hfault'
      injection hfault' with he
      rw [he]
      exact ⟨rfl, hsent, before, rfl, hbefore⟩

theorem ModbusRtu.SendRun.transmission (h : ModbusRtu.SendRun payload r t) : Transmission payload r t := by
  have hbegun : ∀ x ∈ (begun payload : List (Event SE TE)), x.serialWriteFault = none := by
    simp [begun, Event.serialWriteFault]
  cases h with
  | flushFailed e =>
    apply Transmission.of_stopsAt (e := e) (x := .serial (.flush (.error e)))
    . refine ⟨[.rtuSend payload], rfl, ?_⟩
      simp [Event.serialWriteFault]
    . rfl
    . simp [Event.isSerialWrite, IoEvent.isWrite]
    . exact ⟨payload, rfl⟩
  | @writeFailed ws e hws =>
    obtain ⟨before, last, heq, hbefore⟩ := hws.eq_append_of_error
    obtain ⟨rest, hrest⟩ := hws.accepted_append
    apply Transmission.of_stopsAt (e := e) (x := .serial (.write last (.error e)))
    . refine ⟨begun payload ++ before.map .serial, ?_, ?_⟩
      . rw [heq, List.map_append, ← List.append_assoc]
        rfl
      . rw [List.forall_mem_append]
        exact ⟨hbegun, forall_map_serial hbefore⟩
    . rfl
    . exact countP_begun hws
    . refine ⟨rest, ?_⟩
      rw [← hrest, ← serialTx_map_serial]
      rfl
  | @drainFailed ws e hws =>
    obtain ⟨haccepted, hquiet⟩ := hws.accepted_of_ok
    apply Transmission.of_stopsAt (e := e) (x := .serial (.flush (.error e)))
    . refine ⟨begun payload ++ ws.map .serial, rfl, ?_⟩
      rw [List.forall_mem_append]
      exact ⟨hbegun, forall_map_serial hquiet⟩
    . rfl
    . rw [List.countP_append]
      exact countP_begun hws
    . have hsent : Trace.serialTx (ws.map .serial ++ [.serial (.flush (.error e))] : List (Event SE TE))
          = payload := by
        unfold Trace.serialTx
        rw [List.flatMap_append, ← Trace.serialTx, serialTx_map_serial, haccepted]
        apply List.append_nil
      show Trace.serialTx (ws.map .serial ++ [.serial (.flush (.error e))] : List (Event SE TE)) <+: payload
      exact ⟨[], by rw [hsent, List.append_nil]⟩
  | @done ws hws =>
    obtain ⟨haccepted, hquiet⟩ := hws.accepted_of_ok
    apply Transmission.of_sentAll
    . exact ⟨ws, rfl, hws.isWrite, haccepted, hws.length_le⟩
    . rw [List.forall_mem_append, List.forall_mem_append]
      refine ⟨⟨hbegun, forall_map_serial hquiet⟩, ?_⟩
      simp [Event.serialWriteFault]
    . rw [List.countP_append]
      exact countP_begun hws

/--
Whatever the port accepts at a time and wherever it fails, in the blocking and the asynchronous version.
-/
theorem ModbusRtu.send_transmits [Device S SE] (payload : List UInt8) (s : Session S TS D SE TE)
    : Transmission payload (outcome (ModbusRtu.send payload s)) (during (ModbusRtu.send payload) s) := by
  obtain ⟨t, hrun, htrace, _⟩ := ModbusRtu.send_run payload s
  rw [during_eq htrace]
  apply hrun.transmission

end Transmission

end ModbusBridge
