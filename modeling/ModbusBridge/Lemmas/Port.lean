import ModbusBridge.Effect.Lemmas
import ModbusBridge.Impl.Session

/-!
This module contains what an operation on a port of a session does, whichever of the two ports it is.
-/

namespace ModbusBridge

open Effect EmbeddedIo

namespace Session

variable {S TS D SE TE : Type}

attribute [simp] Port.device_withDevice Port.withDevice_device Port.trace_withDevice Port.deadline_withDevice

namespace Port

variable (p : Port S TS D SE TE σ ε)

section Perform

variable (op : σ → Completion σ ε α) (ev : Except (Stop ε) α → IoEvent ε)

theorem finalState_perform (s : Session S TS D SE TE)
    : finalState (p.perform op ev s) = p.withDevice ((op (p.device s)).answer s.deadline).2 { s with
        deadline := s.deadline.map (· - (op (p.device s)).polls)
        trace := s.trace ++ [p.event (ev ((op (p.device s)).answer s.deadline).1)] } := by
  unfold perform
  dsimp
  split
  all_goals rfl

theorem outcome_perform (s : Session S TS D SE TE)
    : outcome (p.perform op ev s) = ((op (p.device s)).answer s.deadline).1 := by
  unfold perform
  dsimp
  split
  all_goals
    next h =>
    rw [h]
    rfl

theorem trace_perform (s : Session S TS D SE TE)
    : (finalState (p.perform op ev s)).trace = s.trace ++ [p.event (ev (outcome (p.perform op ev s)))] := by
  rw [finalState_perform, outcome_perform, trace_withDevice]

theorem deadline_perform (s : Session S TS D SE TE)
    : (finalState (p.perform op ev s)).deadline = s.deadline.map (· - (op (p.device s)).polls) := by
  rw [finalState_perform, deadline_withDevice]

/--
An operation completes, or it fails, or it is dropped because a deadline is over.
-/
theorem perform_cases (s : Session S TS D SE TE)
    : (∃ a, (op (p.device s)).result = .ok a
          ∧ p.perform op ev s = .ok a (p.withDevice (op (p.device s)).next { s with
              deadline := s.deadline.map (· - (op (p.device s)).polls)
              trace := s.trace ++ [p.event (ev (.ok a))] }))
        ∨ (∃ e, (op (p.device s)).result = .error e
          ∧ p.perform op ev s = .error (.failed e) (p.withDevice (op (p.device s)).next { s with
              deadline := s.deadline.map (· - (op (p.device s)).polls)
              trace := s.trace ++ [p.event (ev (.error (.failed e)))] }))
        ∨ (s.deadline ≠ none ∧ ∃ s', p.perform op ev s = .error .dropped s') := by
  unfold perform
  dsimp only
  obtain ⟨hdeadline, hanswer⟩ | hanswer := (op (p.device s)).answer_cases s.deadline
  . rw [hanswer]
    exact .inr (.inr ⟨hdeadline, _, rfl⟩)
  . rw [hanswer]
    cases (op (p.device s)).result with
    | ok a => exact .inl ⟨a, rfl, rfl⟩
    | error e => exact .inr (.inl ⟨e, rfl, rfl⟩)

end Perform

section Idle

variable {op : σ → Completion σ ε α} {s : Session S TS D SE TE}

theorem perform_ok (hdeadline : s.deadline = none) (hresult : (op (p.device s)).result = .ok a)
    (ev : Except (Stop ε) α → IoEvent ε)
    : p.perform op ev s
        = .ok a (p.withDevice (op (p.device s)).next { s with trace := s.trace ++ [p.event (ev (.ok a))] }) := by
  unfold perform
  dsimp only
  rw [hdeadline, Completion.answer_none, hresult]
  rfl

theorem perform_failed (hdeadline : s.deadline = none) (hresult : (op (p.device s)).result = .error e)
    (ev : Except (Stop ε) α → IoEvent ε)
    : p.perform op ev s = .error (.failed e)
        (p.withDevice (op (p.device s)).next { s with trace := s.trace ++ [p.event (ev (.error (.failed e)))] }) := by
  unfold perform
  dsimp only
  rw [hdeadline, Completion.answer_none, hresult]
  rfl

end Idle

section Operations

variable [Device σ ε]

theorem trace_read (n : Nat) (s : Session S TS D SE TE)
    : (finalState (p.read n s)).trace
        =
      s.trace ++ [p.event (.read n ((outcome (p.read n s)).map Subtype.val))] := by
  apply trace_perform

theorem trace_write (buf : List UInt8) (h : buf ≠ []) (s : Session S TS D SE TE)
    : (finalState (p.write buf h s)).trace
        =
      s.trace ++ [p.event (.write buf ((outcome (p.write buf h s)).map Subtype.val))] := by
  apply trace_perform

theorem trace_flush (s : Session S TS D SE TE)
    : (finalState (p.flush s)).trace = s.trace ++ [p.event (.flush (outcome (p.flush s)))] := by
  apply trace_perform

/--
If no deadline is running, a read returns what the device answers.
-/
theorem read_idle {s : Session S TS D SE TE} (hidle : s.deadline = none) (n : Nat)
    : ∃ s' r, (Exec.result (p.read n) s : EStateM.Result (Stop δ) _ _)
          = .ok (Device.read (p.device s) n).result s'
        ∧ s'.trace = s.trace ++ [p.event (.read n r)] := by
  have hfinal := p.trace_read n s
  have houtcome : outcome (p.read n s) = (Device.read (p.device s) n).result.mapError .failed := by
    unfold read
    rw [outcome_perform, hidle]
    rfl
  refine ⟨finalState (p.read n s), _, ?_, hfinal⟩
  rw [Exec.result_eq_ok]
  cases hr : (Device.read (p.device s) n).result with
  | ok bytes =>
    rw [hr] at houtcome
    exact .inl ⟨bytes, Exec.eq_ok_of_outcome houtcome, rfl⟩
  | error e =>
    rw [hr] at houtcome
    exact .inr ⟨e, Exec.eq_error_of_outcome houtcome, rfl⟩

end Operations

section ReadReady

variable [ReadReady σ ε]

theorem finalState_readReady (s : Session S TS D SE TE)
    : finalState (p.readReady s) = p.withDevice (ReadReady.readReady (p.device s)).2
        { s with trace := s.trace ++ [p.event (.readReady (ReadReady.readReady (p.device s)).1)] } := by
  unfold readReady
  dsimp
  split
  all_goals rfl

theorem outcome_readReady (s : Session S TS D SE TE)
    : outcome (p.readReady s) = (ReadReady.readReady (p.device s)).1.mapError .failed := by
  unfold readReady
  dsimp
  split
  all_goals
    next h =>
    rw [h]
    rfl

theorem device_readReady (s : Session S TS D SE TE)
    : p.device (finalState (p.readReady s)) = (ReadReady.readReady (p.device s)).2 := by
  rw [finalState_readReady, device_withDevice]

theorem trace_readReady (s : Session S TS D SE TE)
    : (finalState (p.readReady s)).trace
        = s.trace ++ [p.event (.readReady (ReadReady.readReady (p.device s)).1)] := by
  rw [finalState_readReady, trace_withDevice]

end ReadReady

/--
Two sessions in the relation `R` have the same device behind the port, and they stay in it if they go on with the same.
-/
structure Respects (same : σ → σ → Prop) (R : Session S TS D SE TE → Session S TS D SE TE → Prop) : Prop where
  device {s s'} (h : R s s') : same (p.device s) (p.device s')
  withDevice {s s' d d'} (h : R s s') (hd : same d d') : R (p.withDevice d s) (p.withDevice d' s')

end Port

end Session

end ModbusBridge
