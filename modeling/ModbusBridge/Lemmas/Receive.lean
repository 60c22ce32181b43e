import ModbusBridge.Lemmas.Reads
import ModbusBridge.Lemmas.Wait

/-!
This module contains what is known about a TCP frame that `next` receives, whichever of its copies
receives it and whatever guards the operation.
-/

namespace ModbusBridge

open Effect EmbeddedIo Session
open Exec (Within)

variable {S TS D SE TE : Type}

theorem waitReady.go_error [DelayNs D] {readReady : Exec (Session S TS D SE TE) ε Bool}
    {ioError : ε → BridgeError SE TE} (timeoutMs elapsed : UInt32)
    (h : go readReady ioError timeoutMs elapsed s = .error stop s')
    : stop = .failed .timeout ∨ (∃ e, stop = .failed (ioError e)) ∨ stop = .dropped := by
  unfold go at h
  rw [Exec.bind_eq_error] at h
  cases h with
  | inl h =>
    rw [Exec.result_eq_error] at h
    exact .inr (.inr h.2)
  | inr h =>
    obtain ⟨r, s₁, _, h⟩ := h
    split at h
    . contradiction
    . split at h
      . injection h with he
        exact .inl he.symm
      . next hge =>
        have hlt : elapsed < timeoutMs := UInt32.not_le.mp hge
        have hnat := UInt32.lt_iff_toNat_lt.mp hlt
        have hsucc := toNat_saturatingAdd_one hlt
        rw [Exec.bind_eq_error] at h
        cases h with
        | inl h => contradiction
        | inr h =>
          obtain ⟨_, _, _, h⟩ := h
          apply go_error _ _ h
    . injection h with he
      exact .inr (.inl ⟨_, he.symm⟩)
termination_by timeoutMs.toNat - elapsed.toNat
decreasing_by
  omega

theorem waitReadyFor_error [DelayNs D] {readReady : Exec (Session S TS D SE TE) ε Bool}
    {ioError : ε → BridgeError SE TE} (h : waitReadyFor readReady ioError timeoutMs s = .error stop s')
    : stop = .failed .timeout ∨ (∃ e, stop = .failed (ioError e)) ∨ stop = .dropped := by
  unfold waitReadyFor at h
  split at h
  . apply waitReady.go_error _ _ h
  . contradiction

section Tcp

variable [Device TS TE] [ReadReady TS TE] [DelayNs D] {s s' : Session S TS D SE TE}
  {toError : ModbusError Empty TE → BridgeError SE TE} {timeoutMs : Option UInt32}

def tcpReceiveKinds : List Event.Kind := [.tcpReady, .delayMs, .tcpRead]

abbrev TcpReceiveRun (timeoutMs : Option UInt32) (toError : ModbusError Empty TE → BridgeError SE TE)
    (s : Session S TS D SE TE) (r : EStateM.Result (Stop (BridgeError SE TE)) (Session S TS D SE TE) TcpFrame)
    : Prop :=
  GuardedRun (OnTcp [.tcpReady, .delayMs]) tcpReadReady .tcpIo timeoutMs ModbusTcp.listen toError s r

theorem TcpReceiveRun.onTcp (hrun : TcpReceiveRun timeoutMs toError s r)
    : OnTcp tcpReceiveKinds s (finalState r) := by
  apply hrun.within
  . intro s s' h
    apply h.mono
    decide
  . apply ModbusTcp.listen_onTcp
    decide
  . apply OnTcp.timers

theorem TcpReceiveRun.of_ok (hrun : TcpReceiveRun timeoutMs toError s (.ok f s'))
    : TcpReads f.data s s' ∧ ∃ tid pid body, f.data = tcpFrame tid pid body ∧ body.length ≤ 255 := by
  cases hrun with
  | returned hwait hlisten deadline =>
    obtain ⟨hreads, hframe⟩ := ModbusTcp.listen_ok hlisten
    refine ⟨?_, hframe⟩
    apply Yields.quiet_append _ hreads
    apply Yields.of_emits Event.onlyOf_tcpRx hwait.emits
    decide

/--
`BufferOverflow` means that more bytes have arrived than a frame may have; any other failure comes
before the frame is complete.
-/
theorem TcpReceiveRun.of_error (hpush : toError .push = .bufferOverflow)
    (hread : ∀ e, ReadStop (.failed e) → toError e ≠ .bufferOverflow)
    (hrun : TcpReceiveRun timeoutMs toError s (.error e s'))
    : ∃ bytes, TcpReads bytes s s'
        ∧ ((e = .failed .bufferOverflow ∧ bytes.length = tcpBuf + 1 ∧ bytes.length ≤ 6 + lengthField bytes)
          ∨ (e ≠ .failed .bufferOverflow ∧ bytes.length ≤ tcpBuf ∧ bytes.length < 6 + lengthField bytes)) := by
  have hwaited : ∀ s₁, OnTcp [.tcpReady, .delayMs] s s₁ → TcpReads [] s s₁ := by
    intro s₁ h
    apply Yields.of_emits Event.onlyOf_tcpRx h.emits
    decide
  cases hrun with
  | notReady h hwait =>
    refine ⟨[], hwaited _ h, .inr ⟨?_, Nat.zero_le _, by rw [List.length_nil]; omega⟩⟩
    obtain rfl | ⟨e, rfl⟩ | rfl := waitReadyFor_error hwait
    all_goals simp
  | failed h hfut deadline =>
    obtain ⟨bytes, hreads, hcases⟩ := ModbusTcp.listen_error hfut
    refine ⟨bytes, (hwaited _ h).quiet_append hreads, ?_⟩
    cases hcases with
    | inl hcases =>
      obtain ⟨he, hlen, hle⟩ := hcases
      injection he with he
      rw [he, hpush]
      exact .inl ⟨rfl, hlen, hle⟩
    | inr hcases =>
      obtain ⟨hstop, hlen, hlt⟩ := hcases
      refine .inr ⟨?_, hlen, hlt⟩
      intro he
      injection he with he
      apply hread _ hstop he
  | dropped h hfut deadline hstop =>
    obtain ⟨bytes, hreads, hcases⟩ := ModbusTcp.listen_error hfut
    refine ⟨bytes, (hwaited _ h).quiet_append hreads, ?_⟩
    cases hcases with
    | inl hcases => exact absurd hcases.1 (by simp)
    | inr hcases =>
      obtain ⟨_, hlen, hlt⟩ := hcases
      refine .inr ⟨?_, hlen, hlt⟩
      obtain rfl | rfl := hstop
      all_goals simp

end Tcp

end ModbusBridge
