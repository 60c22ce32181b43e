import ModbusBridge.Lemmas.Codec
import ModbusBridge.Spec.Run

/-!
This module contains the lemmas about the loop that calls `next` until a call fails: the events of a run are those
of its calls, one after the other.
-/

namespace ModbusBridge

open Dataflow Effect EmbeddedIo Session

namespace Mode

variable {S TS D SE TE : Type} [Device S SE] [Device TS TE] [ReadReady S SE] [ReadReady TS TE] [DelayNs D]

theorem trace_next (mode : Mode) (flavour : Flavour) (s : Session S TS D SE TE)
    : (finalState (mode.next flavour s)).trace = s.trace ++ during (mode.next flavour) s := by
  have hyields : ∃ seen, Yields Event.pins seen s (finalState (mode.next flavour s)) := by
    cases mode with
    | bridge => exact ⟨_, Connection.next_yields Event.pins flavour s⟩
    | client => exact ⟨_, ClientSession.next_yields Event.pins flavour s⟩
  obtain ⟨_, t, htrace, _⟩ := hyields
  rw [during_eq htrace]
  apply htrace

theorem run_cons_error (flavours : List Flavour) {mode : Mode} {s s₁ : Session S TS D SE TE}
    (h : mode.next flavour s = .error e s₁) : mode.run (flavour :: flavours) s = .error e s₁ := by
  unfold run
  rw [Exec.bind_error h]

theorem run_cons_ok (flavours : List Flavour) {mode : Mode} {s s₁ : Session S TS D SE TE}
    (h : mode.next flavour s = .ok event s₁)
    : outcome (mode.run (flavour :: flavours) s) = (outcome (mode.run flavours s₁)).map (event :: ·)
        ∧ finalState (mode.run (flavour :: flavours) s) = finalState (mode.run flavours s₁) := by
  rw [run]
  apply Exec.bind_cons_ok h

theorem trace_run (mode : Mode) (flavours : List Flavour) (s : Session S TS D SE TE)
    : (finalState (mode.run flavours s)).trace = s.trace ++ during (mode.run flavours) s := by
  suffices h : ∃ t, (finalState (mode.run flavours s)).trace = s.trace ++ t by
    obtain ⟨t, htrace⟩ := h
    rw [during_eq htrace, htrace]
  induction flavours generalizing s with
  | nil => exact ⟨[], (List.append_nil _).symm⟩
  | cons flavour flavours ih =>
    have htrace := mode.trace_next flavour s
    cases hnext : mode.next flavour s with
    | error e s₁ =>
      rw [hnext] at htrace
      rw [run_cons_error flavours hnext]
      exact ⟨_, htrace⟩
    | ok event s₁ =>
      obtain ⟨t, hrest⟩ := ih s₁
      rw [hnext] at htrace
      rw [(run_cons_ok flavours hnext).2, hrest, show s₁.trace = _ from htrace, List.append_assoc]
      exact ⟨_, rfl⟩

theorem during_run_cons_ok (flavours : List Flavour) {mode : Mode} {s s₁ : Session S TS D SE TE}
    (h : mode.next flavour s = .ok event s₁)
    : during (mode.run (flavour :: flavours)) s = during (mode.next flavour) s ++ during (mode.run flavours) s₁ := by
  have htrace := mode.trace_next flavour s
  have hrest := mode.trace_run flavours s₁
  rw [h] at htrace
  apply during_eq
  rw [(run_cons_ok flavours h).2, hrest, show s₁.trace = _ from htrace, List.append_assoc]

theorem during_run_cons_error (flavours : List Flavour) {mode : Mode} {s s₁ : Session S TS D SE TE}
    (h : mode.next flavour s = .error e s₁)
    : during (mode.run (flavour :: flavours)) s = during (mode.next flavour) s := by
  unfold during
  rw [run_cons_error flavours h, h]
  rfl

theorem next_always (mode : Mode) (flavour : Flavour) (s : Session S TS D SE TE)
    : Always InStep (during (mode.next flavour) s) := by
  cases mode with
  | bridge => apply (Connection.next_events flavour s).always
  | client => apply (ClientSession.next_events flavour s).always

theorem next_aligned {mode : Mode} {s s₁ : Session S TS D SE TE} (h : mode.next flavour s = .ok event s₁)
    : Aligned (during (mode.next flavour) s) := by
  cases mode with
  | bridge =>
    have hevents := Connection.next_events flavour s
    rw [show outcome (Connection.next flavour s) = _ from congrArg outcome h] at hevents
    obtain ⟨_, _, _, _, hrelayed⟩ := hevents.relayed
    apply hrelayed.aligned
  | client =>
    have hevents := ClientSession.next_events flavour s
    rw [show outcome (ClientSession.next flavour s) = _ from congrArg outcome h] at hevents
    obtain ⟨_, _, _, _, hrelayed⟩ := hevents.relayed
    apply hrelayed.aligned

theorem run_always (mode : Mode) (flavours : List Flavour) (s : Session S TS D SE TE)
    : Always InStep (during (mode.run flavours) s) := by
  induction flavours generalizing s with
  | nil =>
    rw [during_eq (t := []) (List.append_nil _).symm]
    apply During.nil
    apply InStep.nil
  | cons flavour flavours ih =>
    have hnext := mode.next_always flavour s
    cases h : mode.next flavour s with
    | error e s₁ =>
      rw [during_run_cons_error flavours h]
      apply hnext
    | ok event s₁ =>
      rw [during_run_cons_ok flavours h]
      apply hnext.append
      apply (next_aligned h).during (ih s₁)

/--
A run in which all calls have returned an event is made up of what these calls have done.
-/
theorem run_pieces {mode : Mode} {R : BridgeEvent → List (Event SE TE) → Prop}
    (hnext : ∀ flavour (s s₁ : Session S TS D SE TE) event, mode.next flavour s = .ok event s₁
      → R event (during (mode.next flavour) s))
    {flavours : List Flavour} {s s' : Session S TS D SE TE} (h : mode.run flavours s = .ok events s')
    : Pieces R events (during (mode.run flavours) s) := by
  induction flavours generalizing s events with
  | nil =>
    injection h with hevents hs
    rw [← hevents, during_eq (t := []) (List.append_nil _).symm]
    apply Pieces.nil
  | cons flavour flavours ih =>
    cases hcall : mode.next flavour s with
    | error e s₁ =>
      rw [run_cons_error flavours hcall] at h
      contradiction
    | ok event s₁ =>
      obtain ⟨houtcome, hfinal⟩ := run_cons_ok flavours hcall
      rw [h] at houtcome hfinal
      rw [during_run_cons_ok flavours hcall]
      cases hrest : mode.run flavours s₁ with
      | error e s₂ =>
        rw [hrest] at houtcome
        contradiction
      | ok events' s₂ =>
        rw [hrest] at houtcome hfinal
        injection houtcome with houtcome
        rw [houtcome]
        apply Pieces.cons (hnext _ _ _ _ hcall)
        apply ih
        rw [hrest, show s' = s₂ from hfinal]

theorem run_aligned {mode : Mode} {flavours : List Flavour} {s s' : Session S TS D SE TE}
    (h : mode.run flavours s = .ok events s') : Aligned (during (mode.run flavours) s) := by
  have hpieces := run_pieces (R := fun _ t => Aligned t) (fun _ _ _ _ => next_aligned) h
  apply hpieces.fold
  . intro _ t ht
    apply ht
  . apply Aligned.nil
  . intro t u
    apply Aligned.append

theorem bridge_pieces {flavours : List Flavour} {s s' : Session S TS D SE TE}
    (h : Mode.bridge.run flavours s = .ok events s')
    : Pieces (fun event t => ∃ tid pid body rbody, Connection.Relayed tid pid body rbody event t) events
        (during (Mode.bridge.run flavours) s) := by
  apply run_pieces _ h
  intro flavour s s₁ event hnext
  have hevents := Connection.next_events flavour s
  rw [show outcome (Connection.next flavour s) = _ from congrArg outcome hnext] at hevents
  apply hevents.relayed

theorem client_pieces {flavours : List Flavour} {s s' : Session S TS D SE TE}
    (h : Mode.client.run flavours s = .ok events s')
    : Pieces (fun event t => ∃ tid rtid pid body rbody, ClientSession.Relayed tid rtid pid body rbody event t) events
        (during (Mode.client.run flavours) s) := by
  apply run_pieces _ h
  intro flavour s s₁ event hnext
  have hevents := ClientSession.next_events flavour s
  rw [show outcome (ClientSession.next flavour s) = _ from congrArg outcome hnext] at hevents
  exact ⟨_, hevents.relayed⟩

end Mode

end ModbusBridge
