import ModbusBridge.EmbeddedIo.Uart
import ModbusBridge.Lemmas.Connection

/-!
This module contains what a call of `Connection::next` does to a serial port in time: what the trace
shows as read was taken from the front of the queue, and what it shows as written was accepted at ticks
after the call began.
-/

namespace ModbusBridge

open Effect EmbeddedIo Session
open Exec (Within)

variable {TS D TE : Type}

namespace Session

def UartRun (s s' : Session Uart TS D Unit TE) : Prop :=
  ∃ t, s'.trace = s.trace ++ t ∧ Uart.Ran (Trace.serialRx t) (Trace.serialTx t) s.serial s'.serial

instance : IsPreorder (Session Uart TS D Unit TE) UartRun where
  refl s := ⟨[], (List.append_nil _).symm, .refl s.serial⟩
  trans s s₁ s' h₁ h₂ := by
    obtain ⟨t₁, htrace₁, hran₁⟩ := h₁
    obtain ⟨t₂, htrace₂, hran₂⟩ := h₂
    refine ⟨t₁ ++ t₂, ?_, ?_⟩
    . rw [htrace₂, htrace₁, List.append_assoc]
    . unfold Trace.serialRx Trace.serialTx at *
      rw [List.flatMap_append, List.flatMap_append]
      apply hran₁.trans hran₂

namespace UartRun

theorem of_quiet {s s' : Session Uart TS D Unit TE} (hserial : s'.serial = s.serial)
    (hrx : Yields Event.serialRx [] s s') (htx : Yields Event.serialTx [] s s') : UartRun s s' := by
  obtain ⟨t, htrace, ht⟩ := hrx
  obtain ⟨t', htrace', ht'⟩ := htx
  rw [htrace] at htrace'
  rw [← List.append_cancel_left htrace'] at ht'
  refine ⟨t, htrace, ?_⟩
  unfold Trace.serialRx Trace.serialTx
  rw [ht, ht', hserial]
  apply Uart.Ran.refl

theorem of_onTcp {s s' : Session Uart TS D Unit TE} (h : OnTcp kinds s s')
    (hread : .serialRead ∉ kinds) (hwrite : .serialWrite ∉ kinds) : UartRun s s' := by
  apply of_quiet h.serial_eq
  . apply Yields.of_emits Event.onlyOf_serialRx h.emits hread
  . apply Yields.of_emits Event.onlyOf_serialTx h.emits hwrite

theorem of_event {s s' : Session Uart TS D Unit TE} {e : IoEvent Unit}
    (htrace : s'.trace = s.trace ++ [.serial e])
    (h : Uart.Ran e.delivered e.accepted s.serial s'.serial) : UartRun s s' := by
  refine ⟨_, htrace, ?_⟩
  unfold Trace.serialRx Trace.serialTx
  rw [List.flatMap_singleton, List.flatMap_singleton]
  apply h

theorem perform {op : Uart → Completion Uart Unit α} {ev : Except (Stop Unit) α → IoEvent Unit}
    (hop : ∀ d deadline, Uart.Ran (ev ((op d).answer deadline).1).delivered (ev ((op d).answer deadline).1).accepted d
      ((op d).answer deadline).2)
    : Within UartRun (serialPort.perform op ev : Exec (Session Uart TS D Unit TE) Unit α) := by
  intro s
  rw [Port.finalState_perform]
  apply of_event rfl
  apply hop

theorem serialRead (n : Nat)
    : Within UartRun (serialRead n : Exec (Session Uart TS D Unit TE) Unit _) := by
  show Within UartRun (serialPort.read n)
  apply perform
  intro d deadline
  obtain ⟨e, hanswer⟩ | hanswer := Uart.answer_perform d _ _ deadline
  . rw [show (Device.read d n).answer deadline = _ from hanswer]
    apply Uart.Ran.pass
  . rw [show (Device.read d n).answer deadline = _ from hanswer]
    apply (Uart.Ran.pass d).trans
    apply Uart.Ran.take

theorem serialWrite (buf : List UInt8) (hbuf : buf ≠ [])
    : Within UartRun (serialWrite buf hbuf : Exec (Session Uart TS D Unit TE) Unit _) := by
  show Within UartRun (serialPort.write buf hbuf)
  apply perform
  intro d deadline
  obtain ⟨e, hanswer⟩ | hanswer := Uart.answer_perform d _ _ deadline
  . rw [show (Device.write d buf hbuf).answer deadline = _ from hanswer]
    apply Uart.Ran.pass
  . rw [show (Device.write d buf hbuf).answer deadline = _ from hanswer]
    apply Uart.Ran.accept

theorem serialFlush : Within UartRun (serialFlush : Exec (Session Uart TS D Unit TE) Unit _) := by
  show Within UartRun serialPort.flush
  apply perform
  intro d deadline
  obtain ⟨e, hanswer⟩ | hanswer := Uart.answer_perform d _ _ deadline
  . rw [show (Device.flush d).answer deadline = _ from hanswer]
    apply Uart.Ran.pass
  . rw [show (Device.flush d).answer deadline = _ from hanswer]
    apply Uart.Ran.pass

theorem serialReadReady
    : Within UartRun (serialReadReady : Exec (Session Uart TS D Unit TE) Unit Bool) := by
  intro s
  show UartRun s (finalState (serialPort.readReady s))
  rw [Port.finalState_readReady]
  exact ⟨_, rfl, Uart.Ran.pass s.serial⟩

theorem send (payload : List UInt8)
    : Within UartRun (ModbusRtu.send payload : Exec (Session Uart TS D Unit TE) Unit Unit) := by
  apply ModbusRtu.send_within
  . intro payload s
    exact ⟨_, rfl, Uart.Ran.refl s.serial⟩
  . apply serialFlush
  . intro high s
    exact ⟨_, rfl, Uart.Ran.refl s.serial⟩
  . apply serialWrite

variable [DelayNs D]

theorem exchange (rtuReq : List UInt8) (flavour : Flavour)
    : Within UartRun (Connection.exchange rtuReq flavour
        : Exec (Session Uart TS D Unit TE) (BridgeError Unit TE) RtuResponse) := by
  have htimers (s : Session Uart TS D Unit TE) (delay : D) (deadline : Option Nat)
      : UartRun s { s with delay, deadline } := by
    apply of_quiet rfl
    . exact ⟨[], by simp⟩
    . exact ⟨[], by simp⟩
  intro s
  apply (guarded_run (R := UartRun) serialReadReady _ htimers _ _ flavour s).within
  . intro s s' h
    apply h
  . apply ModbusRtu.sendAndReceive_within
    . apply serialRead
    . apply send
  . apply htimers
  . intro s
    exact ⟨_, rfl, Uart.Ran.refl s.serial⟩

variable [Device TS TE] [ReadReady TS TE]

theorem next (flavour : Flavour)
    : Within UartRun (Connection.next flavour
        : Exec (Session Uart TS D Unit TE) (BridgeError Unit TE) BridgeEvent) := by
  apply Connection.next_within
  . intro s
    apply of_onTcp (Connection.receiveRequest_onTcp flavour s)
    . decide
    . decide
  . intro rtuReq
    apply exchange
  . intro data s
    apply of_onTcp (ModbusTcp.send_onTcp data s)
    . decide
    . decide

end UartRun

end Session

end ModbusBridge
