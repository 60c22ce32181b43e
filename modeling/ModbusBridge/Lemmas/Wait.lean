import ModbusBridge.Impl.Wait
import ModbusBridge.Lemmas.Session

/-!
This module contains the rules for the two ways in which a timed `next` guards an operation: the
poll loop of the blocking copies and the `select` of the asynchronous ones.
-/

namespace ModbusBridge

open Effect EmbeddedIo Session
open Exec (Within)
open ReadReady (pollReady)

variable {S TS D SE TE : Type} [DelayNs D]

section WaitReady

variable {R : Session S TS D SE TE → Session S TS D SE TE → Prop}
  [IsPreorder (Session S TS D SE TE) R] {readReady : Exec (Session S TS D SE TE) ε Bool}
  {ioError : ε → BridgeError SE TE}

theorem waitReady.go_within (hready : Within R readReady)
    (hdelay : Within R (delayMs 1 : Exec _ (BridgeError SE TE) _)) (timeoutMs elapsed : UInt32)
    : Within R (go readReady ioError timeoutMs elapsed) := by
  unfold go
  refine Within.bind hready.result fun r => ?_
  split
  . exact Within.pure _
  . split
    . exact Within.fail _
    . refine Within.bind hdelay fun _ => ?_
      exact go_within hready hdelay timeoutMs _
  . exact Within.fail _
termination_by timeoutMs.toNat - elapsed.toNat
decreasing_by
  next h =>
  have hlt : elapsed < timeoutMs := UInt32.not_le.mp h
  have := UInt32.lt_iff_toNat_lt.mp hlt
  rw [toNat_saturatingAdd_one hlt]
  omega

theorem waitReadyFor_within (ioError : ε → BridgeError SE TE) (hready : Within R readReady)
    (hdelay : Within R (delayMs 1 : Exec _ (BridgeError SE TE) _)) (timeoutMs : Option UInt32)
    : Within R (waitReadyFor readReady ioError timeoutMs) := by
  unfold waitReadyFor
  split
  . exact waitReady.go_within hready hdelay _ _
  . exact Within.pure _

theorem Session.Port.waitReadyFor_emits [ReadReady σ ε] (p : Port S TS D SE TE σ ε)
    (hkind : ∀ r, (p.event (.readReady r)).kind = k) (ioError : ε → BridgeError SE TE) (timeoutMs : Option UInt32)
    : Within (Emits [k, .delayMs]) (waitReadyFor p.readReady ioError timeoutMs : Exec (Session S TS D SE TE) _ _) := by
  apply waitReadyFor_within
  . intro s
    apply Emits.single (p.trace_readReady s)
    rw [hkind]
    apply List.mem_cons_self
  . intro s
    apply Emits.single (e := .delayMs 1) rfl
    apply List.mem_cons_of_mem _ List.mem_cons_self

theorem waitReadyFor_serialEmits [ReadReady S SE] (ioError : SE → BridgeError SE TE) (timeoutMs : Option UInt32)
    : Within (Emits [.serialReady, .delayMs])
        (waitReadyFor serialReadReady ioError timeoutMs : Exec (Session S TS D SE TE) _ _) :=
  serialPort.waitReadyFor_emits (fun _ => rfl) ioError timeoutMs

theorem waitReadyFor_tcpEmits [ReadReady TS TE] (ioError : TE → BridgeError SE TE) (timeoutMs : Option UInt32)
    : Within (Emits [.tcpReady, .delayMs])
        (waitReadyFor tcpReadReady ioError timeoutMs : Exec (Session S TS D SE TE) _ _) :=
  tcpPort.waitReadyFor_emits (fun _ => rfl) ioError timeoutMs

end WaitReady

section Polls

/--
`readReady` asks the device `port`, which a delay leaves as it is.
-/
structure Polls [ReadReady σ ε] (readReady : Exec (Session S TS D SE TE) ε Bool)
    (port : Session S TS D SE TE → σ) : Prop where
  outcome_eq (s : Session S TS D SE TE)
    : outcome (readReady s) = (ReadReady.readReady (port s)).1.mapError .failed
  port_eq (s : Session S TS D SE TE)
    : port (finalState (readReady s)) = (ReadReady.readReady (port s)).2
  port_delayMs (s : Session S TS D SE TE) (delay : D) (trace : List (Event SE TE))
    : port { s with delay, trace } = port s

omit [DelayNs D] in
theorem polls_serial [ReadReady S SE]
    : Polls (serialReadReady : Exec (Session S TS D SE TE) SE Bool) Session.serial where
  outcome_eq := serialPort.outcome_readReady
  port_eq := serialPort.device_readReady
  port_delayMs _ _ _ := rfl

omit [DelayNs D] in
theorem polls_tcp [ReadReady TS TE]
    : Polls (tcpReadReady : Exec (Session S TS D SE TE) TE Bool) Session.stream where
  outcome_eq := tcpPort.outcome_readReady
  port_eq := tcpPort.device_readReady
  port_delayMs _ _ _ := rfl

omit [DelayNs D] in
theorem Polls.result [ReadReady σ ε] {readReady : Exec (Session S TS D SE TE) ε Bool}
    {port : Session S TS D SE TE → σ} (h : Polls readReady port) (s : Session S TS D SE TE)
    : ∃ s', (Exec.result readReady s : EStateM.Result (Stop δ) _ _) = .ok (ReadReady.readReady (port s)).1 s'
        ∧ port s' = (ReadReady.readReady (port s)).2 := by
  refine ⟨finalState (readReady s), ?_, h.port_eq s⟩
  have houtcome := h.outcome_eq s
  rw [Exec.result_eq_ok]
  cases hr : readReady s with
  | ok ready s₁ =>
    rw [hr] at houtcome
    cases hd : (ReadReady.readReady (port s)).1 with
    | ok b =>
      rw [hd] at houtcome
      injection houtcome with hb
      rw [hb]
      exact .inl ⟨b, rfl, rfl⟩
    | error e =>
      rw [hd] at houtcome
      contradiction
  | error e s₁ =>
    rw [hr] at houtcome
    cases hd : (ReadReady.readReady (port s)).1 with
    | ok b =>
      rw [hd] at houtcome
      contradiction
    | error e =>
      rw [hd] at houtcome
      injection houtcome with he
      rw [he]
      exact .inr ⟨e, rfl, rfl⟩

def waitResult (ioError : ε → BridgeError SE TE) : Option (Except ε Unit) → Except (Stop (BridgeError SE TE)) Unit
  | some (.ok ()) => .ok ()
  | some (.error e) => .error (.failed (ioError e))
  | none => .error (.failed .timeout)

theorem waitReady.go_outcome [ReadReady σ ε] {readReady : Exec (Session S TS D SE TE) ε Bool}
    {port : Session S TS D SE TE → σ} (h : Polls readReady port) (ioError : ε → BridgeError SE TE)
    (timeoutMs elapsed : UInt32) (s : Session S TS D SE TE)
    : outcome (go readReady ioError timeoutMs elapsed s)
        = waitResult ioError (pollReady (timeoutMs.toNat - elapsed.toNat) (port s)) := by
  obtain ⟨s₁, hready, hport⟩ := h.result s
  unfold go
  rw [Exec.bind_ok hready]
  unfold pollReady
  rw [show ReadReady.readReady (port s) = ((ReadReady.readReady (port s)).1, port s₁) by rw [hport]]
  obtain e | ready := (ReadReady.readReady (port s)).1
  . rfl
  cases ready with
  | true => rfl
  | false =>
    dsimp only
    split
    . next hge =>
      have hle := UInt32.le_iff_toNat_le.mp hge
      rw [Nat.sub_eq_zero_of_le hle]
      rfl
    -- `elapsed` is below a 32-bit bound, so that adding one does not saturate.
    . next hge =>
      have hlt : elapsed < timeoutMs := UInt32.not_le.mp hge
      have hnat := UInt32.lt_iff_toNat_lt.mp hlt
      have hsucc := toNat_saturatingAdd_one hlt
      obtain ⟨n, hn⟩ := Nat.exists_eq_succ_of_ne_zero (by omega : timeoutMs.toNat - elapsed.toNat ≠ 0)
      rw [Exec.bind_ok (show delayMs 1 s₁ = .ok () _ by rfl)]
      rw [go_outcome h, h.port_delayMs, hn]
      rw [show timeoutMs.toNat - (saturatingAdd elapsed 1).toNat = n by omega]
termination_by timeoutMs.toNat - elapsed.toNat
decreasing_by
  omega

def ReadyFor [ReadReady σ ε] (timeoutMs : Option UInt32) (d : σ) : Prop :=
  ∀ ms, timeoutMs = some ms → pollReady ms.toNat d = some (.ok ())

theorem waitReadyFor_ok_iff [ReadReady σ ε] {readReady : Exec (Session S TS D SE TE) ε Bool}
    {port : Session S TS D SE TE → σ} (h : Polls readReady port) (ioError : ε → BridgeError SE TE)
    (timeoutMs : Option UInt32) (s : Session S TS D SE TE)
    : outcome (waitReadyFor readReady ioError timeoutMs s) = .ok () ↔ ReadyFor timeoutMs (port s) := by
  unfold waitReadyFor ReadyFor
  cases timeoutMs with
  | none => simp [Exec.pure_run]
  | some ms =>
    show outcome (waitReady.go readReady ioError ms 0 s) = _ ↔ _
    rw [waitReady.go_outcome h]
    simp only [Option.some.injEq, forall_eq']
    show waitResult ioError (pollReady ms.toNat (port s)) = _ ↔ _
    unfold waitResult
    split
    . next hr => simp [hr]
    . next hr => simp [hr]
    . next hr => simp [hr]

end Polls

section Select

variable {fut : Exec (Session S TS D SE TE) ε α} {ms : UInt32} {s s' : Session S TS D SE TE}

def armed (s : Session S TS D SE TE) (ms : UInt32) : Session S TS D SE TE :=
  let (polls, delay) := DelayNs.delayMs s.delay ms
  { s with delay, deadline := some polls }

theorem select_ok (h : fut (armed s ms) = .ok a s')
    : (select fut ms : Exec _ δ _) s = .ok (some (.ok a)) { s' with deadline := none } := by
  unfold select
  dsimp only [armed] at h ⊢
  rw [h]

theorem select_failed (h : fut (armed s ms) = .error (.failed e) s')
    : (select fut ms : Exec _ δ _) s = .ok (some (.error e)) { s' with deadline := none } := by
  unfold select
  dsimp only [armed] at h ⊢
  rw [h]

theorem select_dropped (h : fut (armed s ms) = .error .dropped s')
    : (select fut ms : Exec _ δ _) s = .ok none { s' with deadline := none } := by
  unfold select
  dsimp only [armed] at h ⊢
  rw [h]

def selectStop (toError : ε → BridgeError SE TE) (timeoutMs : Option UInt32)
    : Stop ε → Stop (BridgeError SE TE)
  | .failed e => .failed (toError e)
  | .dropped => if timeoutMs.isSome then .failed .timeout else .dropped

def armedFor (s : Session S TS D SE TE) : Option UInt32 → Session S TS D SE TE
  | some ms => armed s ms
  | none => s

/--
`selectFor` passes on what its future returns; besides what the future does, only timers change.
-/
theorem selectFor_ok (toError : ε → BridgeError SE TE) {timeoutMs : Option UInt32}
    (h : fut (armedFor s timeoutMs) = .ok a s')
    : ∃ deadline, selectFor fut toError timeoutMs s = .ok a { s' with deadline } := by
  cases timeoutMs with
  | none => exact ⟨s'.deadline, Exec.mapErr_ok h⟩
  | some ms => exact ⟨none, Exec.bind_ok (select_ok h)⟩

theorem selectFor_error (toError : ε → BridgeError SE TE) {timeoutMs : Option UInt32}
    (h : fut (armedFor s timeoutMs) = .error e s')
    : ∃ deadline, selectFor fut toError timeoutMs s
        = .error (selectStop toError timeoutMs e) { s' with deadline } := by
  cases timeoutMs with
  | none =>
    refine ⟨s'.deadline, ?_⟩
    cases e with
    | failed e => exact Exec.mapErr_error h
    | dropped => exact Exec.mapErr_error h
  | some ms =>
    refine ⟨none, ?_⟩
    cases e with
    | failed e => exact Exec.bind_ok (select_failed h)
    | dropped => exact Exec.bind_ok (select_dropped h)

end Select

section Guarded

/--
`GuardedRun R .. r`: `guarded` can end with `r`. Before the guarded operation starts, only steps in
`R` are taken.
-/
inductive GuardedRun (R : Session S TS D SE TE → Session S TS D SE TE → Prop)
    (readReady : Exec (Session S TS D SE TE) ε' Bool) (ioError : ε' → BridgeError SE TE)
    (timeoutMs : Option UInt32) (fut : Exec (Session S TS D SE TE) ε α)
    (toError : ε → BridgeError SE TE) (s : Session S TS D SE TE)
    : EStateM.Result (Stop (BridgeError SE TE)) (Session S TS D SE TE) α → Prop where
  | notReady (h : R s s₁) (hwait : waitReadyFor readReady ioError timeoutMs s = .error stop s₁)
      : GuardedRun R readReady ioError timeoutMs fut toError s (.error stop s₁)
  | returned (h : R s s₁) (hfut : fut s₁ = .ok a s₂) (deadline : Option Nat)
      : GuardedRun R readReady ioError timeoutMs fut toError s (.ok a { s₂ with deadline })
  | failed (h : R s s₁) (hfut : fut s₁ = .error (.failed e) s₂) (deadline : Option Nat)
      : GuardedRun R readReady ioError timeoutMs fut toError s
          (.error (.failed (toError e)) { s₂ with deadline })
  | dropped (h : R s s₁) (hfut : fut s₁ = .error .dropped s₂) (deadline : Option Nat)
      (hstop : stop = .failed .timeout ∨ stop = .dropped)
      : GuardedRun R readReady ioError timeoutMs fut toError s (.error stop { s₂ with deadline })

variable {R : Session S TS D SE TE → Session S TS D SE TE → Prop}
  {readReady : Exec (Session S TS D SE TE) ε' Bool} {ioError : ε' → BridgeError SE TE}
  {fut : Exec (Session S TS D SE TE) ε α}

theorem mapErr_run {timeoutMs : Option UInt32} {toError : ε → BridgeError SE TE}
    {s s₁ : Session S TS D SE TE} (h : R s s₁)
    : GuardedRun R readReady ioError timeoutMs fut toError s (Exec.mapErr toError fut s₁) := by
  cases hfut : fut s₁ with
  | ok a s₂ =>
    rw [Exec.mapErr_ok hfut]
    apply GuardedRun.returned h hfut s₂.deadline
  | error e s₂ =>
    rw [Exec.mapErr_error hfut]
    cases e with
    | failed e => apply GuardedRun.failed h hfut s₂.deadline
    | dropped => apply GuardedRun.dropped h hfut s₂.deadline (.inr rfl)

theorem guarded_run [IsPreorder (Session S TS D SE TE) R] (hready : Within R readReady)
    (hdelay : Within R (delayMs 1 : Exec _ (BridgeError SE TE) _))
    (htimers : ∀ s delay deadline, R s { s with delay, deadline })
    (timeoutMs : Session S TS D SE TE → Option UInt32) (toError : Flavour → ε → BridgeError SE TE)
    (flavour : Flavour) (s : Session S TS D SE TE)
    : GuardedRun R readReady ioError (timeoutMs s) fut (toError flavour) s
        (guarded readReady ioError timeoutMs fut toError flavour s) := by
  unfold guarded
  cases flavour with
  | sync => apply mapErr_run (refl_of R s)
  | async => apply mapErr_run (refl_of R s)
  | syncTimed =>
    dsimp only
    rw [Exec.bind_ok (show (get : Exec _ (BridgeError SE TE) _) s = .ok s s by rfl)]
    have hwithin := waitReadyFor_within ioError hready hdelay (timeoutMs s)
    cases hwait : waitReadyFor readReady ioError (timeoutMs s) s with
    | ok _ s₁ =>
      rw [Exec.bind_ok hwait]
      apply mapErr_run (hwithin.of_ok hwait)
    | error e s₁ =>
      rw [Exec.bind_error hwait]
      apply GuardedRun.notReady (hwithin.of_error hwait) hwait
  | asyncTimed =>
    dsimp only
    rw [Exec.bind_ok (show (get : Exec _ (BridgeError SE TE) _) s = .ok s s by rfl)]
    have harmed : R s (armedFor s (timeoutMs s)) := by
      cases timeoutMs s with
      | none => apply refl_of
      | some ms => apply htimers
    cases hfut : fut (armedFor s (timeoutMs s)) with
    | ok a s₂ =>
      obtain ⟨deadline, hsel⟩ := selectFor_ok (toError .asyncTimed) hfut
      rw [hsel]
      apply GuardedRun.returned harmed hfut
    | error e s₂ =>
      obtain ⟨deadline, hsel⟩ := selectFor_error (toError .asyncTimed) hfut
      rw [hsel]
      cases e with
      | failed e => apply GuardedRun.failed harmed hfut
      | dropped =>
        apply GuardedRun.dropped harmed hfut
        unfold selectStop
        dsimp only
        split
        . apply Or.inl rfl
        . apply Or.inr rfl

/--
Once the wait of the blocking timed copy is over, the guarded operation runs in all four copies.
-/
theorem guarded_of_ready [IsPreorder (Session S TS D SE TE) R] (hready : Within R readReady)
    (hdelay : Within R (delayMs 1 : Exec _ (BridgeError SE TE) _))
    (htimers : ∀ s delay deadline, R s { s with delay, deadline })
    (timeoutMs : Session S TS D SE TE → Option UInt32) (toError : Flavour → ε → BridgeError SE TE)
    (flavour : Flavour) (s : Session S TS D SE TE)
    (h : flavour = .syncTimed → outcome (waitReadyFor readReady ioError (timeoutMs s) s) = .ok ())
    : ∃ s₁ deadline, R s s₁
        ∧ finalState (guarded readReady ioError timeoutMs fut toError flavour s)
            = { finalState (fut s₁) with deadline } := by
  unfold guarded
  cases flavour with
  | sync | async =>
    refine ⟨s, (finalState (fut s)).deadline, refl_of R s, ?_⟩
    apply Exec.finalState_mapErr
  | syncTimed =>
    have hwithin := waitReadyFor_within ioError hready hdelay (timeoutMs s)
    obtain ⟨s₁, hwait⟩ : ∃ s₁, waitReadyFor readReady ioError (timeoutMs s) s = .ok () s₁ :=
      ⟨_, Exec.eq_ok_of_outcome (h rfl)⟩
    dsimp only
    rw [Exec.bind_ok (show (get : Exec _ (BridgeError SE TE) _) s = .ok s s by rfl)]
    rw [Exec.bind_ok hwait]
    refine ⟨s₁, (finalState (fut s₁)).deadline, hwithin.of_ok hwait, ?_⟩
    apply Exec.finalState_mapErr
  | asyncTimed =>
    have harmed : R s (armedFor s (timeoutMs s)) := by
      cases timeoutMs s with
      | none => apply refl_of
      | some ms => apply htimers
    dsimp only
    rw [Exec.bind_ok (show (get : Exec _ (BridgeError SE TE) _) s = .ok s s by rfl)]
    cases hfut : fut (armedFor s (timeoutMs s)) with
    | ok a s₂ =>
      obtain ⟨deadline, hsel⟩ := selectFor_ok (toError .asyncTimed) hfut
      refine ⟨_, deadline, harmed, ?_⟩
      rw [hsel, hfut]
      rfl
    | error e s₂ =>
      obtain ⟨deadline, hsel⟩ := selectFor_error (toError .asyncTimed) hfut
      refine ⟨_, deadline, harmed, ?_⟩
      rw [hsel, hfut]
      rfl

theorem GuardedRun.within {R' : Session S TS D SE TE → Session S TS D SE TE → Prop}
    [IsPreorder (Session S TS D SE TE) R'] {timeoutMs : Option UInt32}
    {toError : ε → BridgeError SE TE} {s : Session S TS D SE TE}
    {r : EStateM.Result (Stop (BridgeError SE TE)) (Session S TS D SE TE) α}
    (hrun : GuardedRun R readReady ioError timeoutMs fut toError s r)
    (hsub : ∀ s s', R s s' → R' s s') (hfut : Within R' fut)
    (htimers : ∀ s delay deadline, R' s { s with delay, deadline }) : R' s (finalState r) := by
  cases hrun with
  | notReady h _ => apply hsub _ _ h
  | returned h hok deadline =>
    apply trans_of R' (hsub _ _ h)
    apply trans_of R' (hfut.of_ok hok)
    apply htimers
  | failed h herr deadline =>
    apply trans_of R' (hsub _ _ h)
    apply trans_of R' (hfut.of_error herr)
    apply htimers
  | dropped h herr deadline _ =>
    apply trans_of R' (hsub _ _ h)
    apply trans_of R' (hfut.of_error herr)
    apply htimers

end Guarded

end ModbusBridge
