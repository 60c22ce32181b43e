import ModbusBridge.Lemmas.TxEnable
import ModbusBridge.Spec.Mock

/-!
This module contains what can be said about the TX-enable pin over the calls of a run: it is low between
two calls as long as no transmission is cut short.
-/

namespace ModbusBridge

open Effect EmbeddedIo Session

variable {S TS D SE TE : Type} [Device S SE] [Device TS TE] [ReadReady S SE] [ReadReady TS TE]
  [DelayNs D]

def ReleasesBus (x : Session S TS D SE TE × Call TS) : Prop :=
  (x.2.perform x.1).txEn = false
    ∧ ∀ e ∈ Trace.whileHigh x.1.txEn (x.2.events x.1), e.isSerialRead = false

def CutShort (x : Session S TS D SE TE × Call TS) : Prop :=
  Trace.cutShort (x.2.events x.1) = true

omit [Device S SE] [Device TS TE] [ReadReady S SE] [ReadReady TS TE] [DelayNs D] in
theorem releasesBus_of_transmits {x : Exec (Session S TS D SE TE) ε α} {s : Session S TS D SE TE}
    (h : Transmits s (finalState (x s))) (hlow : s.txEn = false)
    : ((finalState (x s)).txEn = false
          ∧ ∀ e ∈ Trace.whileHigh s.txEn (during x s), e.isSerialRead = false)
        ↔
      ¬ Trace.cutShort (during x s) = true := by
  obtain ⟨t, htrace, hpin, hread⟩ := h.pin_low hlow
  rw [during_eq htrace, hpin, hlow]
  simp only [Bool.not_eq_true]
  constructor
  . rintro ⟨hcut, _⟩
    apply hcut
  . intro hcut
    exact ⟨hcut, hread⟩

theorem releasesBus_call (c : Call TS) (s : Session S TS D SE TE) (hlow : s.txEn = false)
    : ReleasesBus (s, c) ↔ ¬ CutShort (s, c) := by
  cases c with
  | accept stream =>
    unfold ReleasesBus CutShort
    simpa [Call.perform, Call.events, Bridge.accept, owner, Trace.whileHigh, Trace.cutShort] using hlow
  | bridge flavour =>
    apply releasesBus_of_transmits _ hlow
    apply Connection.next_transmits
  | client flavour =>
    apply releasesBus_of_transmits _ hlow
    apply ClientSession.next_transmits

/--
In a run that starts with the pin low, all calls release the bus if and only if no transmission of the
run is cut short: by a failed or dropped write, or by a failed or dropped flush after the writes.
-/
theorem releasesBus_iff (cs : List (Call TS)) (s : Session S TS D SE TE) (hlow : s.txEn = false)
    : (∀ x ∈ callsOf Call.perform cs s, ReleasesBus x)
        ↔
      (∀ x ∈ callsOf Call.perform cs s, ¬ CutShort x) := by
  apply forall_callsOf_iff (fun s => s.txEn = false)
  . intro s c hlow
    apply releasesBus_call c s hlow
  . intro s c hlow hcut
    exact ((releasesBus_call c s hlow).mpr hcut).1
  . apply hlow

theorem releasesBus_iff_idle
    : (∀ x ∈ callsOf Call.perform [.bridge .sync, .client .async]
            (uartSession (fun _ => .idle) none ⟨0⟩ (tcpFrame 1 0 readRequest)), ReleasesBus x)
        ↔
      (∀ x ∈ callsOf Call.perform [.bridge .sync, .client .async]
          (uartSession (fun _ => .idle) none ⟨0⟩ (tcpFrame 1 0 readRequest)), ¬ CutShort x) :=
  releasesBus_iff _ _ (by rfl)

theorem releasesBus_fails
    : ¬ ∀ x ∈ callsOf Call.perform [.bridge .sync]
          (uartSession (fun tick => { Uart.Tick.idle with fault := tick = 1 }) none ⟨0⟩
            (tcpFrame 1 0 readRequest)),
        ReleasesBus x := by
  intro h
  have hpin := (h _ List.mem_cons_self).1
  revert hpin
  decide +kernel

end ModbusBridge
