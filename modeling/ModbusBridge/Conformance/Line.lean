import ModbusBridge.Dataflow.Monitor
import ModbusBridge.Lemmas.TxEnable
import ModbusBridge.Spec.Line

/-!
This module contains the fact that every run keeps to the discipline of the serial line, on arbitrary devices and
whatever fails or times out.
-/

namespace ModbusBridge

open Dataflow Effect EmbeddedIo Session
open ModbusRtu (SendRun sendKinds)

variable {S TS D SE TE : Type}

namespace Line

theorem step_quiet {e : Event SE TE} (h : e.kind ∉ sendKinds) : step .free e = some .free := by
  cases e with
  | serial e =>
    cases e with
    | read | readReady => rfl
    | write | flush => simp [Event.kind, sendKinds] at h
  | tcpSend | tcp | delayMs => rfl
  | rtuSend | txEn => simp [Event.kind, sendKinds] at h

theorem watch_quiet {t : List (Event SE TE)} (h : ∀ e ∈ t, e.kind ∉ sendKinds)
    : watch step .free t = some .free := by
  apply watch_stays
  intro e he
  apply step_quiet (h e he)

def afterWrites : Except (Stop SE) Unit → Line
  | .ok _ => .driven []
  | .error _ => .free

/--
The writes offer what is left each time, until nothing is left or one of them fails.
-/
theorem watch_writes {buf : List UInt8} {r : Except (Stop SE) Unit} {ws : List (IoEvent SE)} (h : WriteAll buf r ws)
    : watch step (.driven buf) (ws.map .serial : List (Event SE TE))
        = some (afterWrites r) := by
  induction h with
  | done => rfl
  | step hpos hle hrest ih => simp [Line.step, hpos, hle, ih]
  | stop hbuf e => simp [Line.step, hbuf, afterWrites]

theorem watch_send {payload : List UInt8} {r : Except (Stop SE) Unit} {t : List (Event SE TE)}
    (h : SendRun payload r t) : watch step .free t = some .free := by
  cases h with
  | flushFailed e => rfl
  | writeFailed e hws => simp [watch_writes hws, Line.step, afterWrites]
  | drainFailed e hws => simp [watch_append, watch_writes hws, Line.step, afterWrites]
  | done hws => simp [watch_append, watch_writes hws, Line.step, afterWrites]

theorem watch_transmits {s s' : Session S TS D SE TE} (h : Transmits s s')
    : ∃ t, s'.trace = s.trace ++ t ∧ watch step .free t = some .free := by
  cases h with
  | nothing h =>
    obtain ⟨_, t, htrace, hkinds⟩ := h
    exact ⟨t, htrace, watch_quiet hkinds⟩
  | failed t hbefore hsend htrace _ =>
    obtain ⟨_, t₁, htrace₁, hkinds₁⟩ := hbefore
    refine ⟨t₁ ++ t, ?_, ?_⟩
    . rw [htrace, htrace₁, List.append_assoc]
    . rw [watch_append, watch_quiet hkinds₁]
      apply watch_send hsend
  | done h =>
    obtain ⟨t, hbefore, hsend, htrace, _, hafter⟩ := h
    obtain ⟨_, t₁, htrace₁, hkinds₁⟩ := hbefore
    obtain ⟨_, t₂, htrace₂, hkinds₂⟩ := hafter
    refine ⟨t₁ ++ (t ++ t₂), ?_, ?_⟩
    . rw [htrace₂, htrace, htrace₁]
      simp only [List.append_assoc]
    . rw [watch_append, watch_quiet hkinds₁, Option.bind_some, watch_append, watch_send hsend]
      apply watch_quiet hkinds₂

theorem step_eq_driven {line : Line} {e : Event SE TE} (h : line.step e = some (.driven rest))
    : (∃ payload, line = .drained payload ∧ e = .txEn true)
        ∨ (∃ rest' buf n, line = .driven rest' ∧ e = .serial (.write buf (.ok n))) := by
  unfold step at h
  split at h
  case h_9 => exact .inl ⟨_, rfl, rfl⟩
  case h_10 => exact .inr ⟨_, _, _, rfl, rfl⟩
  all_goals simp at h

theorem step_write {line : Line} {buf : List UInt8} {r : Except (Stop SE) Nat}
    (h : line.step (.serial (.write buf r) : Event SE TE) = some line') : line = .driven buf := by
  cases line with
  | driven rest =>
    cases r with
    | ok n =>
      rw [step] at h
      split at h
      . next hwrite => rw [hwrite.1]
      . contradiction
    | error e =>
      rw [step] at h
      split at h
      . next hwrite => rw [hwrite.1]
      . contradiction
  | free | called | drained | emptied => simp [step] at h

/--
The line is driven only while the pin is high.
-/
def PinHigh (high : Bool) (t : List (Event SE TE)) (line : Line) : Prop :=
  ∀ rest, line = .driven rest → Trace.pinAfter high t = true

theorem pinHigh_step {t : List (Event SE TE)} (hpin : PinHigh high t line) (h : step line e = some line')
    : PinHigh high (t ++ [e]) line' := by
  rintro rest rfl
  rw [Trace.pinAfter_append]
  obtain ⟨_, rfl, rfl⟩ | ⟨rest', _, _, rfl, rfl⟩ := step_eq_driven h
  . rfl
  . rw [hpin rest' rfl]
    rfl

theorem pin_of_driven (high : Bool) {t : List (Event SE TE)} (h : watch step .free t = some (.driven rest))
    : Trace.pinAfter high t = true := by
  have hstart : PinHigh high ([] : List (Event SE TE)) .free := nofun
  have hpin : PinHigh high t (.driven rest) := watch_invariant hstart (fun _ _ _ _ => pinHigh_step) h
  apply hpin rest rfl

end Line

/--
What a history of events does to the serial line, if the pin starts at the level `high`.
-/
structure KeepsLine (high : Bool) (t : List (Event SE TE)) : Prop where
  watched : watch Line.step .free t = some .free
  driven : ∀ before buf r after, t = before ++ .serial (.write buf r) :: after
    → Trace.pinAfter high before = true ∧ watch Line.step .free before = some (.driven buf)

theorem KeepsLine.of_watched {t : List (Event SE TE)} (high : Bool) (h : watch Line.step .free t = some .free)
    : KeepsLine high t where
  watched := h
  driven := by
    intro before buf r after ht
    rw [ht] at h
    obtain ⟨line, line', hbefore, hwrite⟩ := watch_event h
    rw [Line.step_write hwrite] at hbefore
    exact ⟨Line.pin_of_driven high hbefore, hbefore⟩

theorem watch_during {x : Exec (Session S TS D SE TE) ε α} {s : Session S TS D SE TE}
    (h : Transmits s (finalState (x s))) : watch Line.step .free (during x s) = some .free := by
  obtain ⟨t, htrace, hwatch⟩ := Line.watch_transmits h
  rw [during_eq htrace]
  apply hwatch

end ModbusBridge
