import ModbusBridge.Lemmas.ClientSession
import ModbusBridge.Lemmas.Connection
import ModbusBridge.Spec.Run

/-!
This module contains the fact that `select` ends every deadline that it starts, so that whatever comes
after a guarded operation runs to its end and no deadline is running between two calls.
-/

namespace ModbusBridge

open Effect EmbeddedIo Session
open Exec (Within)

variable {S TS D SE TE : Type}

namespace Session

def StaysIdle (s s' : Session S TS D SE TE) : Prop := s.deadline = none → s'.deadline = none

instance : IsPreorder (Session S TS D SE TE) StaysIdle where
  refl _ h := h
  trans _ _ _ h₁ h₂ h := h₂ (h₁ h)

section Ports

variable (p : Port S TS D SE TE σ ε)

theorem Port.perform_staysIdle (op : σ → Completion σ ε α) (ev : Except (Stop ε) α → IoEvent ε)
    : Within StaysIdle (p.perform op ev) := by
  intro s h
  rw [p.deadline_perform, h, Option.map_none]

theorem Port.read_staysIdle [Device σ ε] (n : Nat) : Within StaysIdle (p.read n) :=
  p.perform_staysIdle _ _

theorem Port.write_staysIdle [Device σ ε] (buf : List UInt8) (hbuf : buf ≠ [])
    : Within StaysIdle (p.write buf hbuf) :=
  p.perform_staysIdle _ _

theorem Port.flush_staysIdle [Device σ ε] : Within StaysIdle p.flush :=
  p.perform_staysIdle _ _

theorem Port.readReady_staysIdle [ReadReady σ ε] : Within StaysIdle p.readReady := by
  intro s h
  rw [p.finalState_readReady, p.deadline_withDevice]
  apply h

end Ports

theorem serialRead_staysIdle [Device S SE] (n : Nat)
    : Within StaysIdle (serialRead n : Exec (Session S TS D SE TE) SE _) :=
  serialPort.read_staysIdle n

theorem serialWrite_staysIdle [Device S SE] (buf : List UInt8) (hbuf : buf ≠ [])
    : Within StaysIdle (serialWrite buf hbuf : Exec (Session S TS D SE TE) SE _) :=
  serialPort.write_staysIdle buf hbuf

theorem serialFlush_staysIdle [Device S SE]
    : Within StaysIdle (serialFlush : Exec (Session S TS D SE TE) SE _) :=
  serialPort.flush_staysIdle

theorem tcpRead_staysIdle [Device TS TE] (n : Nat)
    : Within StaysIdle (tcpRead n : Exec (Session S TS D SE TE) TE _) :=
  tcpPort.read_staysIdle n

theorem tcpWrite_staysIdle [Device TS TE] (buf : List UInt8) (hbuf : buf ≠ [])
    : Within StaysIdle (tcpWrite buf hbuf : Exec (Session S TS D SE TE) TE _) :=
  tcpPort.write_staysIdle buf hbuf

theorem note_staysIdle (e : Event SE TE)
    : Within StaysIdle (note e : Exec (Session S TS D SE TE) ε Unit) := by
  intro s h
  apply h

theorem setTxEn_staysIdle (high : Bool)
    : Within StaysIdle (setTxEn high : Exec (Session S TS D SE TE) ε Unit) := by
  intro s h
  apply h

theorem serialReadReady_staysIdle [ReadReady S SE]
    : Within StaysIdle (serialReadReady : Exec (Session S TS D SE TE) SE Bool) :=
  serialPort.readReady_staysIdle

theorem tcpReadReady_staysIdle [ReadReady TS TE]
    : Within StaysIdle (tcpReadReady : Exec (Session S TS D SE TE) TE Bool) :=
  tcpPort.readReady_staysIdle

variable [DelayNs D]

theorem delayMs_staysIdle (ms : UInt32)
    : Within StaysIdle (delayMs ms : Exec (Session S TS D SE TE) ε Unit) := by
  intro s h
  apply h

theorem select_staysIdle (fut : Exec (Session S TS D SE TE) ε α) (ms : UInt32)
    : Within StaysIdle (select fut ms : Exec (Session S TS D SE TE) δ _) := by
  intro s _
  unfold select
  dsimp only
  split
  all_goals rfl

end Session

theorem guarded_staysIdle [DelayNs D] {readReady : Exec (Session S TS D SE TE) ε' Bool}
    {fut : Exec (Session S TS D SE TE) ε α} (hready : Within StaysIdle readReady)
    (hfut : Within StaysIdle fut) (ioError : ε' → BridgeError SE TE)
    (timeoutMs : Session S TS D SE TE → Option UInt32) (toError : Flavour → ε → BridgeError SE TE)
    (flavour : Flavour)
    : Within StaysIdle (guarded readReady ioError timeoutMs fut toError flavour) := by
  unfold guarded
  cases flavour with
  | sync => apply hfut.mapErr
  | async => apply hfut.mapErr
  | syncTimed =>
    dsimp only
    apply Within.bind
    . apply Within.get
    intro s
    apply Within.bind
    . apply waitReadyFor_within ioError hready
      apply delayMs_staysIdle
    . intro _
      apply hfut.mapErr
  | asyncTimed =>
    dsimp only
    apply Within.bind
    . apply Within.get
    intro s
    unfold selectFor
    split
    . apply Within.bind
      . apply select_staysIdle
      . intro r
        split
        . apply Within.ofExcept
        . apply Within.fail
    . apply hfut.mapErr

theorem ModbusTcp.send_staysIdle [Device TS TE] (data : List UInt8)
    : Within StaysIdle (ModbusTcp.send data : Exec (Session S TS D SE TE) TE Unit) := by
  unfold ModbusTcp.send
  apply Within.bind
  . apply note_staysIdle
  . intro _
    apply ModbusTcp.writeAll_within
    apply tcpWrite_staysIdle

theorem ModbusRtu.send_staysIdle [Device S SE] (payload : List UInt8)
    : Within StaysIdle (ModbusRtu.send payload : Exec (Session S TS D SE TE) SE Unit) := by
  apply ModbusRtu.send_within
  . intro payload
    apply note_staysIdle
  . apply serialFlush_staysIdle
  . apply setTxEn_staysIdle
  . apply serialWrite_staysIdle

variable [Device S SE] [Device TS TE] [ReadReady S SE] [ReadReady TS TE] [DelayNs D]

namespace Connection

omit [Device S SE] [ReadReady S SE] in
theorem receiveRequest_staysIdle (flavour : Flavour)
    : Within StaysIdle
        (receiveRequest flavour : Exec (Session S TS D SE TE) (BridgeError SE TE) _) := by
  apply guarded_staysIdle
  . apply tcpReadReady_staysIdle
  . apply ModbusTcp.listen_within
    apply tcpRead_staysIdle

omit [Device TS TE] [ReadReady TS TE] in
theorem exchange_staysIdle (rtuReq : List UInt8) (flavour : Flavour)
    : Within StaysIdle
        (exchange rtuReq flavour : Exec (Session S TS D SE TE) (BridgeError SE TE) _) := by
  apply guarded_staysIdle
  . apply serialReadReady_staysIdle
  . apply ModbusRtu.sendAndReceive_within
    . apply serialRead_staysIdle
    . apply ModbusRtu.send_staysIdle

theorem next_staysIdle (flavour : Flavour)
    : Within StaysIdle (next flavour : Exec (Session S TS D SE TE) (BridgeError SE TE) _) := by
  apply next_within
  . apply receiveRequest_staysIdle
  . intro rtuReq
    apply exchange_staysIdle
  . apply ModbusTcp.send_staysIdle

end Connection

namespace ClientSession

omit [Device TS TE] [ReadReady TS TE] in
theorem receiveRequest_staysIdle (flavour : Flavour)
    : Within StaysIdle
        (receiveRequest flavour : Exec (Session S TS D SE TE) (BridgeError SE TE) _) := by
  apply guarded_staysIdle
  . apply serialReadReady_staysIdle
  . apply ModbusRtu.listen_within
    apply serialRead_staysIdle

theorem next_staysIdle (flavour : Flavour)
    : Within StaysIdle (next flavour : Exec (Session S TS D SE TE) (BridgeError SE TE) _) := by
  apply next_within
  . apply receiveRequest_staysIdle
  . intro s h
    apply h
  . apply ModbusTcp.send_staysIdle
  . apply guarded_staysIdle
    . apply tcpReadReady_staysIdle
    . apply ModbusTcp.listen_within
      apply tcpRead_staysIdle
  . apply ModbusRtu.send_staysIdle

end ClientSession

/--
No deadline is running between two calls.
-/
theorem Call.perform_idle (c : Call TS) {s : Session S TS D SE TE} (h : s.deadline = none)
    : (c.perform s).deadline = none := by
  cases c with
  | accept stream => rfl
  | bridge flavour => apply Connection.next_staysIdle flavour s h
  | client flavour => apply ClientSession.next_staysIdle flavour s h

end ModbusBridge
