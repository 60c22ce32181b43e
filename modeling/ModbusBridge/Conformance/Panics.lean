import ModbusBridge.Lemmas.CheckedSession
import ModbusBridge.Spec.Machine

/-!
This module contains that nothing panics: whatever the devices, the timers and the peers do, no call in any run of
calls ever reaches an index, a slice or a sum that is out of range.
-/

namespace ModbusBridge

open Effect EmbeddedIo Session

variable {S TS D SE TE : Type} [Device S SE] [Device TS TE] [ReadReady S SE] [ReadReady TS TE] [DelayNs D]

namespace Checked

/--
The answer to a call and the session after it, unless the call panics.
-/
def perform : Call TS → Session S TS D SE TE
    → Option (Option (Except (Stop (BridgeError SE TE)) BridgeEvent) × Session S TS D SE TE)
  | .accept stream, s => some (none, s.owner.accept stream)
  | .bridge flavour, s => (MayPanic.completed (Connection.next flavour) s).map (Prod.map some id)
  | .client flavour, s => (MayPanic.completed (ClientSession.next flavour) s).map (Prod.map some id)

/--
The answers to a run of calls and the session after it, unless one of them panics.
-/
def run : List (Call TS) → Session S TS D SE TE
    → Option (List (Option (Except (Stop (BridgeError SE TE)) BridgeEvent)) × Session S TS D SE TE)
  | [], s => some ([], s)
  | c :: cs, s => do
    let (answer, s) ← perform c s
    let (answers, s) ← run cs s
    return (answer :: answers, s)

theorem perform_eq (c : Call TS) (s : Session S TS D SE TE) : perform c s = some (c.answer s, c.perform s) := by
  cases c with
  | accept stream => rfl
  | bridge flavour =>
    unfold perform
    dsimp only
    rw [Connection.next_eq, MayPanic.completed_lift]
    rfl
  | client flavour =>
    unfold perform
    dsimp only
    rw [ClientSession.next_eq, MayPanic.completed_lift]
    rfl

end Checked

/--
The run with all checks has the answers and the last session of the run without them.
-/
theorem runs_never_panic (cs : List (Call TS)) (s : Session S TS D SE TE)
    : Checked.run cs s = some (answersOf Call.perform Call.answer cs s, afterCalls Call.perform cs s) := by
  induction cs generalizing s with
  | nil => rfl
  | cons c cs ih =>
    unfold Checked.run
    simp only [Checked.perform_eq, Option.bind_eq_bind, Option.bind_some, ih]
    rfl

end ModbusBridge
