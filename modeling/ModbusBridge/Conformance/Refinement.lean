import ModbusBridge.Lemmas.Prompt

/-!
This module contains the refinement between the two levels of the model: over a whole run, also after failed calls
and on new streams, the untimed copies of `next` are the programs on four streams of bytes, and so are all copies if
no operation is ever pending.
-/

namespace ModbusBridge

open Effect EmbeddedIo Session

variable {S TS D SE TE : Type} [Device S SE] [Device TS TE] [ReadReady S SE] [ReadReady TS TE] [DelayNs D]
  [Lossless S] [Lossless TS]

theorem refines_machine (cs : List (Call TS)) (hsteady : ∀ c ∈ cs, c.Steady) {v : View} {s : Session S TS D SE TE}
    (h : At v s)
    : answersOf Call.perform Call.answer cs s = answersOf (Call.advance SE) Call.expected cs v
        ∧ At (afterCalls (Call.advance SE) cs v) (afterCalls Call.perform cs s) := by
  apply answersOf_simulates (R := At)
  . intro c hc v s hv
    apply Call.steady_step (hsteady c hc) hv
  . apply h

/--
A bridge refuses a corrupted response, then serves the next request of the same client, then another client.
-/
def refusedThenServed : List (Call MockStream) :=
  [.bridge .sync, .bridge .async, .accept (MockStream.withRx (tcpFrame 9 0 readRequest)), .bridge .sync]

theorem refines_machine_noisy
    : answersOf Call.perform Call.answer refusedThenServed
          (mockSession ([0x11, 0x83, 0x02, 0x00, 0x00] ++ rtuFrame [0x11, 0x83, 0x02] ++ rtuFrame [0x11, 0x83, 0x02])
            (tcpFrame 1 0 readRequest ++ tcpFrame 2 0 readRequest))
        =
      [
        some (.error (.failed .rtuCrcMismatch)),
        some (.ok (.transaction (.ofBytes readRequest))),
        none,
        some (.ok (.transaction (.ofBytes readRequest)))
      ] := by
  have hsteady : ∀ c ∈ refusedThenServed, c.Steady := by
    simp [refusedThenServed, Call.Steady.bridge, Call.Steady.accept, Flavour.Untimed.sync, Flavour.Untimed.async,
      Lossless.faults]
  rw [(refines_machine refusedThenServed hsteady (mockSession_at _ _)).1]
  decide +kernel

/--
Once the stream has ended, a blocking timed copy waits in vain where the asynchronous one finds that it is closed.
-/
def mixedCopies : List (Call MockStream) :=
  [
    .bridge .asyncTimed,
    .bridge .syncTimed,
    .bridge .syncTimed,
    .bridge .asyncTimed,
    .accept (MockStream.withRx (tcpFrame 9 0 readRequest)),
    .bridge .syncTimed,
    .accept (MockStream.withRx (tcpFrame 9 0 readRequest)),
    .bridge .asyncTimed
  ]

end ModbusBridge
