import ModbusBridge.EmbeddedIo.Delays
import ModbusBridge.Impl.Builder
import ModbusBridge.Lemmas.Agreement
import ModbusBridge.Lemmas.Wait
import ModbusBridge.Effect.Refinement
import ModbusBridge.Spec.Machine
import ModbusBridge.Spec.Mock

/-!
This module contains the fact that it is safe to raise a timeout: a run in which no timeout has occurred is the same
with longer ones.
-/

namespace ModbusBridge

open Effect EmbeddedIo Session
open Exec (Agrees droppedIf)

variable {S TS D SE TE : Type} [DelayNs D] [KeepsTime D]

/--
The second session waits at least as long as the first one, and there is no other difference between them. A deadline
may be running if `lax`.
-/
structure Patient (lax : Prop) (s s' : Session S TS D SE TE) : Prop where
  serial : s.serial = s'.serial
  txEn : s.txEn = s'.txEn
  stream : s.stream = s'.stream
  transactionId : s.transactionId = s'.transactionId
  rtuTimeoutMs : Option.Rel (· ≤ ·) s.rtuTimeoutMs s'.rtuTimeoutMs
  tcpTimeoutMs : Option.Rel (· ≤ ·) s.tcpTimeoutMs s'.tcpTimeoutMs
  delay : KeepsTime.Same s.delay s'.delay
  deadline : Option.Rel (· ≤ ·) s.deadline s'.deadline
  idle : ¬ lax → s.deadline = none
  trace : s.trace = s'.trace

section Operations

variable {lax : Prop}

theorem Patient.trace_append {s s' : Session S TS D SE TE} (h : Patient lax s s') (e : Event SE TE)
    : s.trace ++ [e] = s'.trace ++ [e] := by
  rw [h.trace]

theorem serial_patient : (serialPort : Port S TS D SE TE S SE).Respects Eq (Patient lax) where
  device h := h.serial
  withDevice h hd := { h with serial := hd }

theorem tcp_patient : (tcpPort : Port S TS D SE TE TS TE).Respects Eq (Patient lax) where
  device h := h.stream
  withDevice h hd := { h with stream := hd }

namespace Session.Port.Respects

variable {p : Port S TS D SE TE σ ε}

theorem perform_patient (hport : p.Respects Eq (Patient lax)) (op : σ → Completion σ ε α)
    (ev : Except (Stop ε) α → IoEvent ε)
    : Agrees (droppedIf lax) (Patient lax) (p.perform op ev) (p.perform op ev) := by
  intro s s' h
  obtain ⟨hrunning, hdropped⟩ | ⟨hanswer, hdeadline⟩ := (op (p.device s)).answer_later h.deadline
  . left
    refine ⟨.dropped, _, Exec.eq_error_of_outcome (x := p.perform op ev) ?_, ?_, rfl⟩
    . rw [p.outcome_perform, hdropped]
    . apply Classical.byContradiction
      intro hlax
      exact hrunning (h.idle hlax)
  . right
    rw [p.outcome_perform, p.outcome_perform, p.finalState_perform, p.finalState_perform, ← hport.device h, hanswer]
    refine ⟨rfl, hport.withDevice { h with deadline := hdeadline, idle := ?_, trace := h.trace_append _ } rfl⟩
    intro hlax
    rw [h.idle hlax, Option.map_none]

theorem read_patient [Device σ ε] (hport : p.Respects Eq (Patient lax)) (n : Nat)
    : Agrees (droppedIf lax) (Patient lax) (p.read n) (p.read n) :=
  hport.perform_patient _ _

theorem write_patient [Device σ ε] (hport : p.Respects Eq (Patient lax)) (buf : List UInt8) (hbuf : buf ≠ [])
    : Agrees (droppedIf lax) (Patient lax) (p.write buf hbuf) (p.write buf hbuf) :=
  hport.perform_patient _ _

theorem flush_patient [Device σ ε] (hport : p.Respects Eq (Patient lax))
    : Agrees (droppedIf lax) (Patient lax) p.flush p.flush :=
  hport.perform_patient _ _

theorem readReady_patient [ReadReady σ ε] (hport : p.Respects Eq (Patient lax))
    : Agrees (droppedIf False) (Patient lax) p.readReady p.readReady := by
  intro s s' h
  right
  rw [p.outcome_readReady, p.outcome_readReady, p.finalState_readReady, p.finalState_readReady, ← hport.device h]
  exact ⟨rfl, hport.withDevice { h with trace := h.trace_append _ } rfl⟩

end Session.Port.Respects

theorem note_patient (e : Event SE TE)
    : Agrees (droppedIf lax) (Patient lax : Session S TS D SE TE → _ → Prop) (note e : Exec _ ε Unit) (note e) := by
  intro s s' h
  exact .inr ⟨rfl, { h with trace := h.trace_append e }⟩

theorem setTxEn_patient (high : Bool)
    : Agrees (droppedIf lax) (Patient lax : Session S TS D SE TE → _ → Prop)
        (setTxEn high : Exec _ ε Unit) (setTxEn high) := by
  intro s s' h
  exact .inr ⟨rfl, { h with txEn := rfl, trace := h.trace_append _ }⟩

theorem nextTransactionId_patient {excused : Stop ε → Session S TS D SE TE → Prop}
    : Agrees excused (Patient lax : Session S TS D SE TE → _ → Prop)
        (ModbusTcp.nextTransactionId : Exec _ ε UInt16) ModbusTcp.nextTransactionId := by
  intro s s' h
  right
  have hid : s.transactionId + 1 = s'.transactionId + 1 := by rw [h.transactionId]
  refine ⟨congrArg Except.ok hid, { h with transactionId := hid }⟩

theorem ModbusTcp.readExact_patient [Device TS TE] (len : Nat)
    : Agrees (droppedIf lax) (Patient lax : Session S TS D SE TE → _ → Prop)
        (ModbusTcp.readExact len) (ModbusTcp.readExact len) := by
  apply ModbusTcp.readExact_agrees
  apply tcp_patient.read_patient

theorem ModbusRtu.readExact_patient [Device S SE] (len : Nat)
    : Agrees (droppedIf lax) (Patient lax : Session S TS D SE TE → _ → Prop)
        (ModbusRtu.readExact len) (ModbusRtu.readExact len) := by
  apply ModbusRtu.readExact_agrees
  apply serial_patient.read_patient

theorem ModbusTcp.send_patient [Device TS TE] (data : List UInt8)
    : Agrees (droppedIf lax) (Patient lax : Session S TS D SE TE → _ → Prop)
        (ModbusTcp.send data) (ModbusTcp.send data) := by
  apply ModbusTcp.send_agrees (fun _ => note_patient _)
  apply ModbusTcp.writeAll_agrees
  apply tcp_patient.write_patient

theorem ModbusRtu.send_patient [Device S SE] (payload : List UInt8)
    : Agrees (droppedIf lax) (Patient lax : Session S TS D SE TE → _ → Prop)
        (ModbusRtu.send payload) (ModbusRtu.send payload) := by
  apply ModbusRtu.send_agrees (fun _ => note_patient _) _ setTxEn_patient
  . apply ModbusRtu.writeAll_agrees
    apply serial_patient.write_patient
  . apply serial_patient.flush_patient

theorem serialReadReady_patient [ReadReady S SE]
    : Agrees (droppedIf False) (Patient lax) (serialReadReady : Exec (Session S TS D SE TE) SE Bool)
        serialReadReady :=
  serial_patient.readReady_patient

theorem tcpReadReady_patient [ReadReady TS TE]
    : Agrees (droppedIf False) (Patient lax) (tcpReadReady : Exec (Session S TS D SE TE) TE Bool) tcpReadReady :=
  tcp_patient.readReady_patient

theorem delayMs_patient (ms : UInt32) {excused : Stop ε → Session S TS D SE TE → Prop}
    : Agrees excused (Patient lax) (delayMs ms : Exec (Session S TS D SE TE) ε Unit) (delayMs ms) := by
  intro s s' h
  right
  exact ⟨rfl, { h with
    delay := KeepsTime.next h.delay ms ms
    trace := h.trace_append _
  }⟩

end Operations

section Guarded

/--
Only a timeout excuses the session that waits less.
-/
def TimedOut (e : Stop (BridgeError SE TE)) (_ : Session S TS D SE TE) : Prop := e = .failed .timeout

variable {readReady : Exec (Session S TS D SE TE) ε' Bool} {ioError : ε' → BridgeError SE TE}

theorem waitReady.go_patient (hready : Agrees (droppedIf False) (Patient False) readReady readReady)
    {timeoutMs timeoutMs' : UInt32} (hle : timeoutMs ≤ timeoutMs') (elapsed : UInt32)
    : Agrees TimedOut (Patient False) (go readReady ioError timeoutMs elapsed)
        (go readReady ioError timeoutMs' elapsed) := by
  unfold go
  apply Agrees.bind
  . apply hready.result
    rintro e s ⟨hfalse, _⟩
    contradiction
  intro r
  cases r with
  | error e => apply Agrees.fail
  | ok ready =>
    cases ready with
    | true => apply Agrees.pure
    | false =>
      dsimp only
      by_cases hge : elapsed ≥ timeoutMs
      . intro s s' _
        rw [dif_pos hge]
        exact .inl ⟨_, s, rfl, rfl⟩
      . have hlt : elapsed < timeoutMs := UInt32.not_le.mp hge
        have hnat := UInt32.lt_iff_toNat_lt.mp hlt
        have hsucc := toNat_saturatingAdd_one hlt
        rw [dif_neg hge, dif_neg (UInt32.not_le.mpr (UInt32.lt_of_lt_of_le hlt hle))]
        apply Agrees.bind (delayMs_patient 1)
        intro _
        apply go_patient hready hle
termination_by timeoutMs.toNat - elapsed.toNat
decreasing_by
  omega

theorem waitReadyFor_patient (hready : Agrees (droppedIf False) (Patient False) readReady readReady)
    {ms ms' : Option UInt32} (hle : Option.Rel (· ≤ ·) ms ms')
    : Agrees TimedOut (Patient False) (waitReadyFor readReady ioError ms) (waitReadyFor readReady ioError ms') := by
  cases hle with
  | none => apply Agrees.pure
  | some hle => apply waitReady.go_patient hready hle

variable {fut : Exec (Session S TS D SE TE) ε α}

theorem plain_patient (hfut : ∀ lax, Agrees (droppedIf lax) (Patient lax) fut fut) (f : ε → BridgeError SE TE)
    : Agrees TimedOut (Patient False) (Exec.mapErr f fut) (Exec.mapErr f fut) := by
  apply (hfut False).mapErr (fun _ => rfl)
  rintro e s ⟨hfalse, _⟩
  contradiction

theorem selectFor_patient (hfut : ∀ lax, Agrees (droppedIf lax) (Patient lax) fut fut) (f : ε → BridgeError SE TE)
    {ms ms' : Option UInt32} (hle : Option.Rel (· ≤ ·) ms ms')
    : Agrees TimedOut (Patient False) (selectFor fut f ms) (selectFor fut f ms') := by
  cases hle with
  | none => apply plain_patient hfut
  | @some ms ms' hle =>
    intro s s' h
    have harmed : Patient True (armed s ms) (armed s' ms') := { h with
      delay := KeepsTime.next h.delay ms ms'
      deadline := .some (KeepsTime.polls_le h.delay hle)
      idle := fun hlax => absurd trivial hlax
    }
    have hended {s₁ s₁' : Session S TS D SE TE} (h₁ : Patient True s₁ s₁')
        : Patient False { s₁ with deadline := none } { s₁' with deadline := none } :=
      { h₁ with deadline := .none, idle := fun _ => rfl }
    unfold selectFor
    dsimp only
    cases hx : fut (armed s ms) with
    | ok a s₁ =>
      obtain ⟨s₁', hy, h₁⟩ := (hfut True).eq_ok harmed hx
      rw [Exec.bind_ok (select_ok hx), Exec.bind_ok (select_ok hy)]
      exact .inr ⟨rfl, hended h₁⟩
    | error e s₁ =>
      cases e with
      | dropped => exact .inl ⟨_, _, Exec.bind_ok (select_dropped hx), rfl⟩
      | failed e =>
        cases (hfut True).eq_error harmed hx with
        | inl hdropped => exact absurd hdropped.2 (by simp)
        | inr hy =>
          obtain ⟨s₁', hy, h₁⟩ := hy
          rw [Exec.bind_ok (select_failed hx), Exec.bind_ok (select_failed hy)]
          exact .inr ⟨rfl, hended h₁⟩

theorem guarded_patient {timeoutMs : Session S TS D SE TE → Option UInt32}
    (hready : Agrees (droppedIf False) (Patient False) readReady readReady)
    (htimeout : ∀ s s', Patient False s s' → Option.Rel (· ≤ ·) (timeoutMs s) (timeoutMs s'))
    (hfut : ∀ lax, Agrees (droppedIf lax) (Patient lax) fut fut) (toError : Flavour → ε → BridgeError SE TE)
    (flavour : Flavour)
    : Agrees TimedOut (Patient False) (guarded readReady ioError timeoutMs fut toError flavour)
        (guarded readReady ioError timeoutMs fut toError flavour) := by
  cases flavour with
  | sync | async => apply plain_patient hfut
  | syncTimed =>
    intro s s' h
    unfold guarded
    dsimp only
    rw [Exec.bind_ok (show (get : Exec _ (BridgeError SE TE) _) s = .ok s s by rfl)]
    rw [Exec.bind_ok (show (get : Exec _ (BridgeError SE TE) _) s' = .ok s' s' by rfl)]
    apply Agrees.bind _ (fun _ => plain_patient hfut _) s s' h
    apply waitReadyFor_patient hready (htimeout s s' h)
  | asyncTimed =>
    intro s s' h
    unfold guarded
    dsimp only
    rw [Exec.bind_ok (show (get : Exec _ (BridgeError SE TE) _) s = .ok s s by rfl)]
    rw [Exec.bind_ok (show (get : Exec _ (BridgeError SE TE) _) s' = .ok s' s' by rfl)]
    apply selectFor_patient hfut _ (htimeout s s' h) s s' h

end Guarded

theorem events_patient {x : Exec (Session S TS D SE TE) ε α} {s s' : Session S TS D SE TE} (h : Patient lax s s')
    (hend : Patient lax (finalState (x s)) (finalState (x s'))) : during x s = during x s' := by
  unfold during
  rw [h.trace, hend.trace]

section Calls

variable [Device S SE] [Device TS TE] [ReadReady S SE] [ReadReady TS TE]

theorem Connection.next_patient (flavour : Flavour)
    : Agrees TimedOut (Patient False : Session S TS D SE TE → _ → Prop)
        (Connection.next flavour) (Connection.next flavour) := by
  unfold Connection.next
  apply Connection.cycle_agrees
  . apply guarded_patient tcpReadReady_patient (fun s s' h => h.tcpTimeoutMs)
    intro lax
    apply ModbusTcp.listen_agrees ModbusTcp.readExact_patient
  . intro rtuReq
    apply guarded_patient serialReadReady_patient (fun s s' h => h.rtuTimeoutMs)
    intro lax
    apply ModbusRtu.sendAndReceive_agrees ModbusRtu.readExact_patient
    apply ModbusRtu.send_patient
  . apply ModbusTcp.send_patient

theorem ClientSession.next_patient (flavour : Flavour)
    : Agrees TimedOut (Patient False : Session S TS D SE TE → _ → Prop)
        (ClientSession.next flavour) (ClientSession.next flavour) := by
  unfold ClientSession.next
  apply ClientSession.cycle_agrees
  . apply guarded_patient serialReadReady_patient (fun s s' h => h.rtuTimeoutMs)
    intro lax
    apply ModbusRtu.listen_agrees ModbusRtu.readExact_patient
  . apply nextTransactionId_patient
  . apply ModbusTcp.send_patient
  . apply guarded_patient tcpReadReady_patient (fun s s' h => h.tcpTimeoutMs)
    intro lax
    apply ModbusTcp.listen_agrees ModbusTcp.readExact_patient
  . apply ModbusRtu.send_patient

theorem Call.step_patient (c : Call TS) {s s' : Session S TS D SE TE} (h : Patient False s s')
    (hintime : c.answer s ≠ some (.error (.failed .timeout)))
    : c.answer s = c.answer s' ∧ c.events s = c.events s' ∧ Patient False (c.perform s) (c.perform s') := by
  cases c with
  | accept stream =>
    refine ⟨rfl, rfl, { h with stream := rfl, transactionId := rfl, deadline := .none, idle := ?_, trace := rfl }⟩
    exact fun _ => rfl
  | bridge flavour =>
    obtain ⟨e, s₁, herror, rfl⟩ | ⟨houtcome, hend⟩ := Connection.next_patient flavour s s' h
    . exact absurd (congrArg (fun r => some (outcome r)) herror) hintime
    . exact ⟨congrArg some houtcome, events_patient h hend, hend⟩
  | client flavour =>
    obtain ⟨e, s₁, herror, rfl⟩ | ⟨houtcome, hend⟩ := ClientSession.next_patient flavour s s' h
    . exact absurd (congrArg (fun r => some (outcome r)) herror) hintime
    . exact ⟨congrArg some houtcome, events_patient h hend, hend⟩

theorem Call.run_patient (cs : List (Call TS)) {s s' : Session S TS D SE TE} (h : Patient False s s')
    (hintime : ∀ r ∈ answersOf Call.perform Call.answer cs s, r ≠ some (.error (.failed .timeout)))
    : answersOf Call.perform Call.answer cs s = answersOf Call.perform Call.answer cs s'
        ∧ answersOf Call.perform Call.events cs s = answersOf Call.perform Call.events cs s' := by
  induction cs generalizing s s' with
  | nil => exact ⟨rfl, rfl⟩
  | cons c cs ih =>
    rw [answersOf_cons, List.forall_mem_cons] at hintime
    obtain ⟨hanswer, hevents, hnext⟩ := c.step_patient h hintime.1
    obtain ⟨hanswers, hrest⟩ := ih hnext hintime.2
    rw [answersOf_cons, answersOf_cons, answersOf_cons, answersOf_cons, hanswer, hevents, hanswers, hrest]
    exact ⟨rfl, rfl⟩

/--
The two bridges differ in their timeouts only, and those of the second one are not shorter.
-/
structure Raised (b b' : Bridge S D) : Prop where
  serial : b.serial = b'.serial
  txEn : b.txEn = b'.txEn
  rtuTimeoutMs : Option.Rel (· ≤ ·) b.rtuTimeoutMs b'.rtuTimeoutMs
  tcpTimeoutMs : Option.Rel (· ≤ ·) b.tcpTimeoutMs b'.tcpTimeoutMs
  delay : KeepsTime.Same b.delay b'.delay

/--
Two bridges are built from the same port with a timeout each, and perhaps with a second one that is the same.
-/
theorem BridgeBuilder.raised (b : BridgeBuilder S Bool D) (hdelay : KeepsTime.Same b.delay b.delay) {ms ms' : UInt32}
    (hle : ms ≤ ms') : Raised (b.rtuTimeout ms).build (b.rtuTimeout ms').build where
  serial := rfl
  txEn := rfl
  rtuTimeoutMs := .some hle
  tcpTimeoutMs := by
    show Option.Rel _ b.tcpTimeoutMs b.tcpTimeoutMs
    cases b.tcpTimeoutMs with
    | none => exact .none
    | some ms => exact .some (UInt32.le_refl ms)
  delay := hdelay

/--
A bridge or a client that never reports a timeout in a run of calls, on whichever streams it accepts, does exactly the
same if its timeouts are raised.
-/
theorem raise_timeouts {b b' : Bridge S D} (h : Raised b b') (stream : TS) (cs : List (Call TS))
    (hintime : ∀ r ∈ answersOf Call.perform Call.answer cs (b.accept stream : Session S TS D SE TE),
      r ≠ some (.error (.failed .timeout)))
    : answersOf Call.perform Call.answer cs (b.accept stream : Session S TS D SE TE)
          = answersOf Call.perform Call.answer cs (b'.accept stream)
        ∧ answersOf Call.perform Call.events cs (b.accept stream : Session S TS D SE TE)
            = answersOf Call.perform Call.events cs (b'.accept stream) :=
  Call.run_patient cs ⟨h.serial, h.txEn, rfl, rfl, h.rtuTimeoutMs, h.tcpTimeoutMs, h.delay, .none, fun _ => rfl, rfl⟩
    hintime

end Calls

def mockBuilder : BridgeBuilder MockStream Bool MockDelay :=
  ((BridgeBuilder.new.rtuNoPin (.withRx (rtuFrame [0x11, 0x83, 0x02]))).tcpTimeout 20).withDelay ⟨3⟩

theorem raise_timeouts_builder
    : answersOf Call.perform Call.answer [.bridge .syncTimed, .bridge .asyncTimed]
          ((mockBuilder.rtuTimeout 5).build.accept (MockStream.withRx (tcpFrame 1 0 readRequest))
            : Session MockStream MockStream MockDelay Empty Empty)
        = answersOf Call.perform Call.answer [.bridge .syncTimed, .bridge .asyncTimed]
          ((mockBuilder.rtuTimeout 500).build.accept (MockStream.withRx (tcpFrame 1 0 readRequest))) :=
  (raise_timeouts (mockBuilder.raised rfl (by decide : (5 : UInt32) ≤ 500))
    (MockStream.withRx (tcpFrame 1 0 readRequest))
    [.bridge .syncTimed, .bridge .asyncTimed] (by decide +kernel)).1

end ModbusBridge
