import ModbusBridge.Lemmas.Uart
import ModbusBridge.Spec.Mock
import ModbusBridge.Spec.Run

/-!
This module contains what can be said about the age of the bytes that a bridge relays: they are younger
than the request they answer only if the receive queue of the serial port is empty when the request has
been written. Nothing in the code empties it.
-/

namespace ModbusBridge

open Effect EmbeddedIo Session

variable {TS D TE : Type} [Device TS TE] [ReadReady TS TE] [DelayNs D]

def portAfter (x : Session Uart TS D Unit TE × Call TS) : Uart := (x.2.perform x.1).serial

def requestBytes (x : Session Uart TS D Unit TE × Call TS) : List Stamped :=
  Uart.Ran.writes x.1.serial (portAfter x)

def firstRead (n : Nat) (x : Session Uart TS D Unit TE × Call TS) : List Stamped :=
  ((portAfter x).arrived.drop x.1.serial.taken).take n

def Replies (x : Session Uart TS D Unit TE × Call TS) : Prop :=
  match x.2 with
  | .bridge _ => Trace.tcpFrames (x.2.events x.1) ≠ []
  | _ => False

/--
What the reply carries after its header was transmitted by the device after the request of the same call
had been written.
-/
def Fresh (x : Session Uart TS D Unit TE × Call TS) : Prop :=
  ∀ reply ∈ Trace.tcpFrames (x.2.events x.1),
    (firstRead (reply.length - 6) x).map Stamped.byte = reply.drop 6
      ∧ Uart.Ran.After (firstRead (reply.length - 6) x) (requestBytes x)

/--
The receive queue is empty when the call begins, and the device transmits nothing until the request has
been written.
-/
def Undisturbed (x : Session Uart TS D Unit TE × Call TS) : Prop :=
  x.1.serial.unread = []
    ∧ Uart.Ran.After (Uart.Ran.arrivals x.1.serial (portAfter x)) (requestBytes x)

instance (x : Session Uart TS D Unit TE × Call TS) : Decidable (Replies x) :=
  match x with
  | (s, .bridge flavour) => inferInstanceAs (Decidable (Trace.tcpFrames (Call.events (.bridge flavour) s) ≠ []))
  | (_, .accept _) | (_, .client _) => isFalse id

instance (x : Session Uart TS D Unit TE × Call TS) : Decidable (Fresh x) :=
  inferInstanceAs (Decidable (∀ _ ∈ _, _ ∧ _))

theorem fresh_iff_undisturbed (x : Session Uart TS D Unit TE × Call TS) (h : Replies x)
    : Fresh x ↔ Undisturbed x := by
  obtain ⟨s, c⟩ := x
  cases c with
  | accept stream => contradiction
  | client flavour => contradiction
  | bridge flavour =>
    obtain ⟨t, htrace, hran⟩ := UartRun.next flavour s
    have hevents : Call.events (.bridge flavour) s = t := during_eq htrace
    unfold Replies at h
    unfold Fresh
    simp only [hevents] at h ⊢
    cases Connection.next_frames flavour s with
    -- Only a cycle that got an answer writes anything to the stream.
    | nothing _ htcp | forwarded _ _ _ _ htcp =>
      exact absurd (Yields.unique ⟨t, htrace, rfl⟩ htcp) h
    | @answered rbody tid pid body hpos hmax hlen hreq hresp hrtu hwrites htcp =>
      have hbounds := responseLength_bounds (rtuFrame rbody)
      have hframes : Trace.tcpFrames t = [tcpFrame tid 0 rbody] := Yields.unique ⟨t, htrace, rfl⟩ htcp
      have htx : Trace.serialTx t = rtuFrame body := Yields.unique ⟨t, htrace, rfl⟩ hwrites
      have hrx : Trace.serialRx t = rtuFrame rbody := Yields.unique ⟨t, htrace, rfl⟩ hresp
      have hne : Trace.serialTx t ≠ [] := by
        rw [htx]
        apply List.ne_nil_of_length_pos
        rw [length_rtuFrame]
        omega
      have hread : (firstRead rbody.length (s, .bridge flavour)).map Stamped.byte = rbody := by
        have := congrArg (List.take rbody.length) hran.rx_eq
        rw [← List.map_take, List.take_take, hrx, length_rtuFrame] at this
        rw [Nat.min_eq_left (by omega)] at this
        rw [rtuFrame, List.take_left] at this
        apply this
      rw [hframes, List.forall_mem_singleton]
      rw [show (tcpFrame tid 0 rbody).length - 6 = rbody.length by rw [length_tcpFrame]; omega]
      rw [show (tcpFrame tid 0 rbody).drop 6 = rbody by rfl]
      rw [and_iff_right hread]
      apply hran.after_iff hne
      omega

/--
In any run of a bridge over any connections, all replies are fresh if and only if every call that sends a
reply is undisturbed.
-/
theorem fresh_iff (cs : List (Call TS)) (s : Session Uart TS D Unit TE)
    : (∀ x ∈ callsOf Call.perform cs s, Replies x → Fresh x)
        ↔
      (∀ x ∈ callsOf Call.perform cs s, Replies x → Undisturbed x) := by
  constructor
  . intro h x hx hreplies
    exact (fresh_iff_undisturbed x hreplies).mp (h x hx hreplies)
  . intro h x hx hreplies
    exact (fresh_iff_undisturbed x hreplies).mpr (h x hx hreplies)

/--
The response of the first device that is asked comes after its deadline, while the bridge waits for the
next connection.
-/
def lateResponse (tick : Nat) : Uart.Tick :=
  if tick = 3 then
    { Uart.Tick.idle with polls := 10 }
  else if tick = 4 then
    { Uart.Tick.idle with arrivals := rtuFrame [0x11, 0x03, 0x02, 0xAA, 0xBB] }
  else
    .idle

theorem fresh_fails
    : ¬ ∀ x ∈ callsOf Call.perform
            [.bridge .asyncTimed,
             .accept (.withRx (tcpFrame 2 0 [0x12, 0x03, 0x00, 0x05, 0x00, 0x01])),
             .bridge .asyncTimed]
            (uartSession lateResponse (some 1000) ⟨5⟩
              (tcpFrame 1 0 [0x11, 0x03, 0x00, 0x00, 0x00, 0x01])),
        Replies x → Fresh x := by
  decide +kernel

end ModbusBridge
