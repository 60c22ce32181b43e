import ModbusBridge.EmbeddedIo.WriteAll
import ModbusBridge.Lemmas.Rtu
import ModbusBridge.Lemmas.Tcp
import ModbusBridge.Lemmas.Trace

/-!
This module contains the events that a call of `ModbusRtu::send` or `ModbusTcp::send` can give rise
to, on an arbitrary device and under an arbitrary deadline.
-/

namespace ModbusBridge

open Effect EmbeddedIo Session
open Exec (Within)

variable {S TS D SE TE : Type}

/--
Whatever the outcome, writing all of the data performs writes and nothing else.
-/
theorem writeAll_run {event : IoEvent ε → Event SE TE}
    {write : (buf : List UInt8) → buf ≠ [] →
      Exec (Session S TS D SE TE) ε {n : Nat // 0 < n ∧ n ≤ buf.length}}
    (hwrite : ∀ buf hbuf s, (finalState (write buf hbuf s)).trace
      = s.trace ++ [event (.write buf ((outcome (write buf hbuf s)).map Subtype.val))])
    (data : List UInt8) (s : Session S TS D SE TE)
    : ∃ ws, WriteAll data (outcome (writeAll write data s)) ws
        ∧ (finalState (writeAll write data s)).trace = s.trace ++ ws.map event := by
  unfold writeAll
  split
  . next hnil =>
    subst hnil
    exact ⟨[], .done, (List.append_nil _).symm⟩
  . next hne =>
    have htrace := hwrite data hne s
    cases hw : write data hne s with
    | ok n s₁ =>
      rw [hw] at htrace
      rw [Exec.bind_ok hw]
      obtain ⟨ws, hws, hrest⟩ := writeAll_run hwrite (data.drop n.val) s₁
      refine ⟨_, .step n.property.1 n.property.2 hws, ?_⟩
      rw [hrest, show s₁.trace = _ from htrace, List.append_assoc]
      rfl
    | error e s₁ =>
      rw [hw] at htrace
      rw [Exec.bind_error hw]
      exact ⟨_, .stop hne e, htrace⟩
termination_by data.length
decreasing_by
  have := n.property
  simp only [List.length_drop]
  omega

namespace ModbusRtu

/--
`SendRun payload r t`: a call of `send` can perform the events `t` and end with `r`.
-/
inductive SendRun (payload : List UInt8) : Except (Stop SE) Unit → List (Event SE TE) → Prop where
  | flushFailed (e : Stop SE) : SendRun payload (.error e)
      [.rtuSend payload, .serial (.flush (.error e))]
  | writeFailed (e : Stop SE) (hws : WriteAll payload (.error e) ws) : SendRun payload (.error e)
      ([.rtuSend payload, .serial (.flush (.ok ())), .txEn true] ++ ws.map .serial)
  | drainFailed (e : Stop SE) (hws : WriteAll payload (.ok ()) ws) : SendRun payload (.error e)
      ([.rtuSend payload, .serial (.flush (.ok ())), .txEn true] ++ ws.map .serial
        ++ [.serial (.flush (.error e))])
  | done (hws : WriteAll payload (.ok ()) ws) : SendRun payload (.ok ())
      ([.rtuSend payload, .serial (.flush (.ok ())), .txEn true] ++ ws.map .serial
        ++ [.serial (.flush (.ok ())), .txEn false])

section

variable [Device S SE]

theorem writeAll_run (data : List UInt8) (s : Session S TS D SE TE)
    : ∃ ws, WriteAll data (outcome (writeAll data s)) ws
        ∧ (finalState (writeAll data s)).trace = s.trace ++ ws.map .serial :=
  ModbusBridge.writeAll_run trace_serialWrite data s

theorem pinAfter_writes (high : Bool) (ws : List (IoEvent SE))
    : Trace.pinAfter high (ws.map .serial : List (Event SE TE)) = high := by
  induction ws with
  | nil => rfl
  | cons w ws ih => exact ih

theorem transmit_run (payload : List UInt8) {s : Session S TS D SE TE} (hraised : s.txEn = true)
    {r : EStateM.Result (Stop SE) (Session S TS D SE TE) Unit}
    (hr : (do writeAll payload; flush; setTxEn false) s = r)
    : ∃ t, SendRun payload (outcome r) ([.rtuSend payload, .serial (.flush (.ok ())), .txEn true] ++ t)
        ∧ (finalState r).trace = s.trace ++ t ∧ (finalState r).txEn = Trace.pinAfter true t := by
  have hflushes : Within (OnSerial [.serialFlush]) (serialFlush : Exec (Session S TS D SE TE) SE _) :=
    serialFlush_onSerial (List.mem_singleton_self _)
  have hwrites : Within (OnSerial [.serialWrite]) (writeAll payload : Exec (Session S TS D SE TE) SE _) :=
    writeAll_onSerial (List.mem_singleton_self _) payload
  rw [← hr]
  unfold flush
  obtain ⟨ws, hws, hwrite⟩ := writeAll_run payload s
  cases hw : writeAll payload s with
  | error e s₁ =>
    have hpin := (hwrites.of_error hw).txEn_eq (by decide)
    rw [hw] at hws hwrite
    rw [Exec.bind_error hw]
    refine ⟨_, .writeFailed e hws, hwrite, ?_⟩
    rw [pinAfter_writes, ← hraised]
    apply hpin
  | ok _ s₁ =>
    have hpin := (hwrites.of_ok hw).txEn_eq (by decide)
    rw [hw] at hws hwrite
    rw [Exec.bind_ok hw]
    have hdrain := trace_serialFlush s₁
    cases hd : serialFlush s₁ with
    | error e s₂ =>
      have hpin₂ := (hflushes.of_error hd).txEn_eq (by decide)
      rw [hd] at hdrain
      rw [Exec.bind_error hd]
      -- Only the last operation lowers the pin, and it has not been reached.
      refine ⟨ws.map .serial ++ [.serial (.flush (.error e))], ?_, ?_, ?_⟩
      . rw [← List.append_assoc]
        exact .drainFailed e hws
      . rw [hdrain, show s₁.trace = _ from hwrite, List.append_assoc]
        rfl
      . unfold Trace.pinAfter
        rw [List.foldl_append]
        show s₂.txEn = Trace.pinAfter true (ws.map .serial)
        rw [pinAfter_writes, hpin₂, hpin, hraised]
    | ok _ s₂ =>
      rw [hd] at hdrain
      rw [Exec.bind_ok hd]
      refine ⟨ws.map .serial ++ [.serial (.flush (.ok ())), .txEn false], ?_, ?_, ?_⟩
      . rw [← List.append_assoc]
        exact .done hws
      . show s₂.trace ++ _ = _
        rw [show s₂.trace = _ from hdrain, show s₁.trace = _ from hwrite]
        simp only [List.append_assoc]
        rfl
      . unfold Trace.pinAfter
        rw [List.foldl_append]
        rfl

theorem send_run (payload : List UInt8) (s : Session S TS D SE TE)
    : ∃ t, SendRun payload (outcome (send payload s)) t
        ∧ (finalState (send payload s)).trace = s.trace ++ t
        ∧ (finalState (send payload s)).txEn = Trace.pinAfter s.txEn t := by
  have hflushes : Within (OnSerial [.serialFlush]) (serialFlush : Exec (Session S TS D SE TE) SE _) :=
    serialFlush_onSerial (List.mem_singleton_self _)
  unfold send
  let s₁ := { s with trace := s.trace ++ [Event.rtuSend payload] }
  rw [Exec.bind_ok (show note (Event.rtuSend payload) s = .ok () s₁ by rfl)]
  have hflush := trace_serialFlush s₁
  cases hf : serialFlush s₁ with
  | error e s₂ =>
    have hpin := (hflushes.of_error hf).txEn_eq (by decide)
    rw [hf] at hflush
    rw [Exec.bind_error (show flush s₁ = _ from hf)]
    refine ⟨_, .flushFailed e, ?_, hpin⟩
    rw [hflush, List.append_assoc]
    rfl
  | ok _ s₂ =>
    rw [hf] at hflush
    rw [Exec.bind_ok (show flush s₁ = _ from hf)]
    let s₃ := { s₂ with txEn := true, trace := s₂.trace ++ [Event.txEn true] }
    rw [Exec.bind_ok (show setTxEn true s₂ = .ok () s₃ by rfl)]
    have hhead : s₃.trace
        = s.trace ++ [.rtuSend payload, .serial (.flush (.ok ())), .txEn true] := by
      show s₂.trace ++ _ = _
      rw [show s₂.trace = _ from hflush, List.append_assoc, List.append_assoc]
      rfl
    obtain ⟨t, hrun, htrace, hpin⟩ := transmit_run payload (show s₃.txEn = true from rfl) rfl
    refine ⟨_, hrun, ?_, ?_⟩
    . rw [htrace, hhead, List.append_assoc]
    -- Whatever the level was before, the pin is high while the payload is written.
    . apply hpin

theorem SendRun.rtuFrames {t : List (Event SE TE)} (h : SendRun payload r t)
    : t.flatMap Event.rtuFrames = [payload] := by
  cases h <;> simp [Event.rtuFrames, List.flatMap_map]

theorem send_yields (payload : List UInt8) (s : Session S TS D SE TE)
    : Yields Event.rtuFrames [payload] s (finalState (send payload s)) := by
  obtain ⟨t, hrun, htrace, _⟩ := send_run payload s
  exact ⟨t, htrace, hrun.rtuFrames⟩

theorem SendRun.serialTx_of_ok {t : List (Event SE TE)} (h : SendRun payload (.ok ()) t)
    : t.flatMap Event.serialTx = payload := by
  cases h with
  | @done ws hws =>
    rw [List.flatMap_append, List.flatMap_append, List.flatMap_map]
    show [] ++ ws.flatMap IoEvent.accepted ++ [] = payload
    rw [hws.accepted_of_ok.1, List.nil_append, List.append_nil]

theorem send_writes {s s' : Session S TS D SE TE} (h : send payload s = .ok () s')
    : Yields Event.serialTx payload s s' := by
  obtain ⟨t, hrun, htrace, _⟩ := send_run payload s
  rw [h] at hrun htrace
  exact ⟨t, htrace, hrun.serialTx_of_ok⟩

theorem SendRun.serialTx_start {t : List (Event SE TE)} (h : SendRun payload r t)
    : t.flatMap Event.serialTx <+: payload := by
  have hprefix {r : Except (Stop SE) Unit} {ws} (hws : WriteAll payload r ws)
      : (ws.map .serial : List (Event SE TE)).flatMap Event.serialTx <+: payload := by
    rw [List.flatMap_map]
    apply hws.accepted_append
  cases h with
  | flushFailed e => apply List.nil_prefix
  | writeFailed e hws | drainFailed e hws | done hws => simpa [Event.serialTx, IoEvent.accepted] using hprefix hws

theorem send_writes_start (payload : List UInt8) (s : Session S TS D SE TE)
    : ∃ sent, Yields Event.serialTx sent s (finalState (send payload s)) ∧ sent <+: payload := by
  obtain ⟨t, hrun, htrace, _⟩ := send_run payload s
  exact ⟨_, ⟨t, htrace, rfl⟩, hrun.serialTx_start⟩

end

end ModbusRtu

namespace ModbusTcp

variable [Device TS TE]

theorem writeAll_run (data : List UInt8) (s : Session S TS D SE TE)
    : ∃ ws, WriteAll data (outcome (writeAll data s)) ws
        ∧ (finalState (writeAll data s)).trace = s.trace ++ ws.map .tcp :=
  ModbusBridge.writeAll_run trace_tcpWrite data s

theorem send_run (data : List UInt8) (s : Session S TS D SE TE)
    : ∃ ws, WriteAll data (outcome (send data s)) ws
        ∧ (finalState (send data s)).trace = s.trace ++ .tcpSend data :: ws.map .tcp := by
  let s₁ := { s with trace := s.trace ++ [Event.tcpSend data] }
  obtain ⟨ws, hws, htrace⟩ := writeAll_run data s₁
  unfold send
  rw [Exec.bind_ok (show note (.tcpSend data) s = .ok () s₁ by rfl)]
  refine ⟨ws, hws, ?_⟩
  rw [htrace, List.append_assoc]
  rfl

theorem send_writes {s s' : Session S TS D SE TE} (h : send data s = .ok () s')
    : Yields Event.tcpTx data s s' := by
  obtain ⟨ws, hws, htrace⟩ := send_run data s
  rw [h] at hws htrace
  refine ⟨_, htrace, ?_⟩
  rw [List.flatMap_cons, List.flatMap_map]
  apply hws.accepted_of_ok.1

theorem send_writes_start (data : List UInt8) (s : Session S TS D SE TE)
    : ∃ sent, Yields Event.tcpTx sent s (finalState (send data s)) ∧ sent <+: data := by
  obtain ⟨ws, hws, htrace⟩ := send_run data s
  refine ⟨_, ⟨_, htrace, rfl⟩, ?_⟩
  rw [List.flatMap_cons, List.flatMap_map]
  apply hws.accepted_append

theorem send_yields (data : List UInt8) (s : Session S TS D SE TE)
    : Yields Event.tcpFrames [data] s (finalState (send data s)) := by
  let s₁ := { s with trace := s.trace ++ [Event.tcpSend data] }
  have hnote : Yields Event.tcpFrames [data] s s₁ := ⟨[.tcpSend data], rfl, rfl⟩
  have hwrite := (writeAll_onTcp (List.mem_singleton_self _) data s₁).emits
  unfold send
  rw [Exec.bind_ok (show note (.tcpSend data) s = .ok () s₁ by rfl)]
  apply hnote.append_quiet
  apply Yields.of_emits Event.onlyOf_tcpFrames hwrite
  decide

end ModbusTcp

end ModbusBridge
