import ModbusBridge.Lemmas.Run
import ModbusBridge.Lemmas.Work

/-!
This module contains a bound on the work of a whole run, on arbitrary devices: no call can be kept busy for longer
by what it reads, by ports that deliver single bytes or by ports that fail.
-/

namespace ModbusBridge

open Effect EmbeddedIo Session

variable {S TS D SE TE : Type} [Device S SE] [Device TS TE] [ReadReady S SE] [ReadReady TS TE] [DelayNs D]

/--
What a single call spends shows in its events, and it leaves the timeouts as they are.
-/
theorem Call.events_work (w : Event.Kind → Nat) (c : Call TS) (s : Session S TS D SE TE)
    : Trace.work w (c.events s) ≤ c.work w s.rtuTimeoutMs s.tcpTimeoutMs
        ∧ (c.perform s).rtuTimeoutMs = s.rtuTimeoutMs ∧ (c.perform s).tcpTimeoutMs = s.tcpTimeoutMs := by
  have hspent (mode : Mode) {flavour : Flavour}
      (h : Spends w (mode.work w flavour s.rtuTimeoutMs s.tcpTimeoutMs) s (finalState (mode.next flavour s)))
      : Trace.work w (during (mode.next flavour) s) ≤ mode.work w flavour s.rtuTimeoutMs s.tcpTimeoutMs := by
    have hwork := h.work_le
    rw [work_eq w (mode.trace_next flavour s)] at hwork
    omega
  cases c with
  | accept stream => exact ⟨Nat.zero_le _, rfl, rfl⟩
  | bridge flavour =>
    have h := Connection.next_spends w flavour s
    exact ⟨hspent .bridge h, h.rtuTimeoutMs_eq, h.tcpTimeoutMs_eq⟩
  | client flavour =>
    have h := ClientSession.next_spends w flavour s
    exact ⟨hspent .client h, h.rtuTimeoutMs_eq, h.tcpTimeoutMs_eq⟩

/--
However the kinds of events are weighted, the calls of a run do no more work than the sum of their bounds, which
depend on the copy of `next` and on the two timeouts only.
-/
theorem work_bounded (w : Event.Kind → Nat) (cs : List (Call TS)) (s : Session S TS D SE TE)
    : ((callsOf Call.perform cs s).map fun x => Trace.work w (x.2.events x.1)).sum
        ≤ (cs.map (Call.work w s.rtuTimeoutMs s.tcpTimeoutMs)).sum := by
  induction cs generalizing s with
  | nil => apply Nat.le_refl
  | cons c cs ih =>
    obtain ⟨hwork, hrtu, htcp⟩ := c.events_work w s
    have hrest := ih (c.perform s)
    rw [hrtu, htcp] at hrest
    rw [callsOf, List.map_cons, List.map_cons, List.sum_cons, List.sum_cons]
    apply Nat.add_le_add hwork hrest

/--
An untimed bridge that is given a single byte, or an error, with each operation.
-/
example : Mode.bridge.work (fun _ => 1) .sync none none = 3629 := by decide

end ModbusBridge
