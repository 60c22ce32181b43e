import ModbusBridge.EmbeddedIo.Polling
import ModbusBridge.Impl.ClientSession
import ModbusBridge.Lemmas.FirstRead

/-!
This module contains the loops in which the blocking timed copies of `next` wait for a port: how often they
poll it, how long they sleep and how they end, for every timeout and every sequence of answers.
-/

namespace ModbusBridge

open Effect EmbeddedIo Session
open ReadReady (poll polled Quiet FirstAnswer quietPolls)

variable {S TS D SE TE : Type}

/--
A loop that waits up to `timeoutMs` for `port`, started in `s`, ends with `r`. It sleeps once after every
poll but the last one.
-/
structure WaitLoop [ReadReady σ ε] (port : Session S TS D SE TE → σ) (other : Session S TS D SE TE → τ)
    (mark : Except ε Bool → Event SE TE) (ioError : ε → BridgeError SE TE) (timeoutMs : UInt32)
    (s : Session S TS D SE TE) (r : EStateM.Result (Stop (BridgeError SE TE)) (Session S TS D SE TE) Unit)
    : Prop where
  falls_through : outcome r = .ok ()
    ↔ ∃ k ≤ timeoutMs.toNat, Quiet (port s) k ∧ poll (port s) k = .ok true
  fails (e : ε) : outcome r = .error (.failed (ioError e))
    ↔ ∃ k ≤ timeoutMs.toNat, Quiet (port s) k ∧ poll (port s) k = .error e
  times_out : outcome r = .error (.failed .timeout)
    ↔ ∀ i ≤ timeoutMs.toNat, poll (port s) i = .ok false
  ends : outcome r = .ok () ∨ (∃ e, outcome r = .error (.failed (ioError e)))
    ∨ outcome r = .error (.failed .timeout)
  sleeps : ∃ m, (finalState r).trace = s.trace ++ waits mark m (poll (port s) m)
    ∧ port (finalState r) = polled (m + 1) (port s)
    ∧ (∀ k, FirstAnswer (port s) k → m = min k timeoutMs.toNat)
    ∧ ((∀ i, poll (port s) i = .ok false) → m = timeoutMs.toNat)
  other_eq : other (finalState r) = other s

/--
Up to `s'`, the serial port has been asked whether it is ready, `n` times, and nothing else has been done.
-/
structure OnlyAsked [ReadReady S SE] (n : Nat) (s s' : Session S TS D SE TE) : Prop where
  serial_eq : s'.serial = polled n s.serial
  stream_eq : s'.stream = s.stream
  txEn_eq : s'.txEn = s.txEn
  transactionId_eq : s'.transactionId = s.transactionId
  polls : ∃ t, s'.trace = s.trace ++ t ∧ ∀ e ∈ t, e.isPoll = true

/--
With the timeout configured, the step of a cycle waits first and goes on with `rest` if that returns.
-/
def WaitsFirst (configured : Option UInt32) (timeoutMs : UInt32)
    (wait : UInt32 → Exec (Session S TS D SE TE) (BridgeError SE TE) Unit)
    (step rest : Exec (Session S TS D SE TE) (BridgeError SE TE) α) (s : Session S TS D SE TE) : Prop :=
  configured = some timeoutMs → step s = (wait timeoutMs >>= fun _ => rest) s

section Loop

variable [DelayNs D] [ReadReady σ ε] {readReady : Exec (Session S TS D SE TE) ε Bool}
  {port : Session S TS D SE TE → σ} {mark : Except ε Bool → Event SE TE} {ioError : ε → BridgeError SE TE}

/--
`ioError` is how an error of the port is reported: as an error of its own, and not as a timeout.
-/
structure Reports (ioError : ε → BridgeError SE TE) : Prop where
  injective : Function.Injective ioError
  ne_timeout (e : ε) : ioError e ≠ .timeout

omit [DelayNs D] [ReadReady σ ε] in
theorem waitResult_eq_ok (r : Option (Except ε Unit)) : waitResult ioError r = .ok () ↔ r = some (.ok ()) := by
  rcases r with _ | _ | _
  . simp [waitResult]
  . simp [waitResult]
  . simp [waitResult]

theorem Reports.waitResult_eq_failed (h : Reports ioError) (r : Option (Except ε Unit)) (e : ε)
    : waitResult ioError r = .error (.failed (ioError e)) ↔ r = some (.error e) := by
  rcases r with _ | _ | _
  . simpa [waitResult] using (h.ne_timeout e).symm
  . simpa [waitResult] using h.injective.eq_iff
  . simp [waitResult]

theorem Reports.waitResult_eq_timeout (h : Reports ioError) (r : Option (Except ε Unit))
    : waitResult ioError r = .error (.failed .timeout) ↔ r = none := by
  rcases r with _ | _ | _
  . simp [waitResult]
  . simp [waitResult, h.ne_timeout]
  . simp [waitResult]

theorem waitReady_waitLoop (h : PollsAs readReady port mark) (hio : Reports ioError)
    {other : Session S TS D SE TE → τ} (timeoutMs : UInt32) (s : Session S TS D SE TE)
    (hother : other (finalState (waitReady readReady ioError timeoutMs s)) = other s)
    : WaitLoop port other mark ioError timeoutMs s (waitReady readReady ioError timeoutMs s) := by
  have houtcome : outcome (waitReady readReady ioError timeoutMs s)
      = waitResult ioError (ReadReady.pollReady timeoutMs.toNat (port s)) := by
    apply waitReady.go_outcome h.toPolls
  have hsleeps := waitReady.go_sleeps h ioError timeoutMs 0 s rfl
  constructor
  . rw [houtcome, waitResult_eq_ok, ReadReady.pollReady_eq_some]
    rfl
  . intro e
    rw [houtcome, hio.waitResult_eq_failed, ReadReady.pollReady_eq_some]
    rfl
  . rw [houtcome, hio.waitResult_eq_timeout, ReadReady.pollReady_eq_none]
    simp only [Quiet, Nat.lt_succ_iff]
  . rw [houtcome]
    rcases ReadReady.pollReady timeoutMs.toNat (port s) with _ | e | _
    . exact .inr (.inr rfl)
    . exact .inr (.inl ⟨e, rfl⟩)
    . exact .inl rfl
  . refine ⟨_, hsleeps.1, hsleeps.2, ?_, ?_⟩
    . intro k hfirst
      apply ReadReady.quietPolls_of_first hfirst
    . intro hnever
      apply ReadReady.quietPolls_of_quiet
      intro i _
      apply hnever
  . apply hother

end Loop

theorem guarded_waitsFirst [DelayNs D] (readReady : Exec (Session S TS D SE TE) ε' Bool)
    (ioError : ε' → BridgeError SE TE) (configured : Session S TS D SE TE → Option UInt32)
    (fut : Exec (Session S TS D SE TE) ε α) (toError : Flavour → ε → BridgeError SE TE) (timeoutMs : UInt32)
    (s : Session S TS D SE TE)
    : WaitsFirst (configured s) timeoutMs (waitReady readReady ioError)
        (guarded readReady ioError configured fut toError .syncTimed) (Exec.mapErr (toError .syncTimed) fut) s := by
  intro h
  unfold guarded
  dsimp only
  rw [Exec.bind_ok (show (get : Exec _ (BridgeError SE TE) _) s = .ok s s by rfl), h]
  rfl

def Connection.tcpWait [ReadReady TS TE] [DelayNs D] (timeoutMs : UInt32)
    : Exec (Session S TS D SE TE) (BridgeError SE TE) Unit :=
  waitReady tcpReadReady .tcpIo timeoutMs

def Connection.rtuWait [ReadReady S SE] [DelayNs D] (timeoutMs : UInt32)
    : Exec (Session S TS D SE TE) (BridgeError SE TE) Unit :=
  waitReady serialReadReady .rtuIo timeoutMs

def ClientSession.rtuWait [ReadReady S SE] [DelayNs D] (timeoutMs : UInt32)
    : Exec (Session S TS D SE TE) (BridgeError SE TE) Unit :=
  waitReady serialReadReady .rtuIo timeoutMs

def ClientSession.tcpWait [ReadReady TS TE] [DelayNs D] (timeoutMs : UInt32)
    : Exec (Session S TS D SE TE) (BridgeError SE TE) Unit :=
  waitReady tcpReadReady .tcpIo timeoutMs

theorem reports_rtuIo : Reports (BridgeError.rtuIo : SE → BridgeError SE TE) where
  injective _ _ h := BridgeError.rtuIo.inj h
  ne_timeout _ := nofun

theorem reports_tcpIo : Reports (BridgeError.tcpIo : TE → BridgeError SE TE) where
  injective _ _ h := BridgeError.tcpIo.inj h
  ne_timeout _ := nofun

theorem waits_isPoll (m : Nat) (last : Except SE Bool)
    : ∀ e ∈ (waits (.serial ∘ .readReady) m last : List (Event SE TE)), e.isPoll = true := by
  intro e he
  unfold waits at he
  rw [List.mem_append] at he
  cases he with
  | inl he =>
    obtain ⟨l, hl, he⟩ := List.mem_flatten.mp he
    rw [List.eq_of_mem_replicate hl] at he
    simp only [List.mem_cons, List.not_mem_nil, or_false] at he
    rcases he with rfl | rfl
    . rfl
    . rfl
  | inr he =>
    rw [List.mem_singleton.mp he]
    rfl

section Serial

variable [ReadReady S SE] [DelayNs D]

theorem serialWait_onSerial (timeoutMs : UInt32) (s : Session S TS D SE TE)
    : OnSerial [.serialReady, .delayMs] s (finalState (waitReady serialReadReady .rtuIo timeoutMs s)) := by
  apply waitReady.go_within
  . apply serialReadReady_onSerial
    decide
  . apply delayMs_onSerial
    decide

theorem serialWait_waitLoop (timeoutMs : UInt32) (s : Session S TS D SE TE)
    : WaitLoop Session.serial Session.stream (.serial ∘ .readReady) .rtuIo timeoutMs s
        (waitReady serialReadReady .rtuIo timeoutMs s) := by
  apply waitReady_waitLoop pollsAs_serial reports_rtuIo
  apply (serialWait_onSerial timeoutMs s).stream_eq

theorem ClientSession.rtuWait_onlyAsked (timeoutMs : UInt32) {s : Session S TS D SE TE}
    (h : outcome (rtuWait timeoutMs s) = .error (.failed .timeout))
    : OnlyAsked (timeoutMs.toNat + 1) s (finalState (rtuWait timeoutMs s)) := by
  have hserial := serialWait_onSerial timeoutMs s
  have hquiet : Quiet s.serial timeoutMs.toNat := by
    intro i hi
    apply (serialWait_waitLoop timeoutMs s).times_out.mp h
    omega
  obtain ⟨htrace, hport⟩ := waitReady.go_sleeps pollsAs_serial .rtuIo timeoutMs 0 s
    (ReadReady.quietPolls_of_quiet hquiet)
  constructor
  . apply hport
  . apply hserial.stream_eq
  . apply hserial.txEn_eq
    decide
  . apply hserial.transactionId_eq
  . exact ⟨_, htrace, waits_isPoll _ _⟩

end Serial

section Tcp

variable [ReadReady TS TE] [DelayNs D]

theorem tcpWait_onTcp (timeoutMs : UInt32) (s : Session S TS D SE TE)
    : OnTcp [.tcpReady, .delayMs] s (finalState (waitReady tcpReadReady .tcpIo timeoutMs s)) := by
  apply waitReady.go_within
  . apply tcpReadReady_onTcp
    decide
  . apply delayMs_onTcp
    decide

theorem tcpWait_waitLoop (timeoutMs : UInt32) (s : Session S TS D SE TE)
    : WaitLoop Session.stream Session.serial (.tcp ∘ .readReady) .tcpIo timeoutMs s
        (waitReady tcpReadReady .tcpIo timeoutMs s) := by
  apply waitReady_waitLoop pollsAs_tcp reports_tcpIo
  apply (tcpWait_onTcp timeoutMs s).serial_eq

end Tcp

section Next

variable [ReadReady S SE] [ReadReady TS TE] [DelayNs D] [Device S SE] [Device TS TE]

theorem ClientSession.next_of_rtuWait_error {s : Session S TS D SE TE}
    (hconfigured : s.rtuTimeoutMs = some timeoutMs) (hwait : rtuWait timeoutMs s = .error e s')
    : ClientSession.next .syncTimed s = .error e s' := by
  have hfirst : receiveRequest .syncTimed s = _ :=
    guarded_waitsFirst serialReadReady .rtuIo Session.rtuTimeoutMs ModbusRtu.listen requestError timeoutMs s
      hconfigured
  unfold ClientSession.next ClientSession.cycle
  apply Exec.bind_error
  rw [hfirst]
  apply Exec.bind_error hwait

/--
The four loops and where they are, for every timeout and every sequence of answers, and what becomes of a
cycle of the client that times out in its first loop.
-/
theorem waitLoops (timeoutMs : UInt32) (rtuReq : List UInt8) (s : Session S TS D SE TE)
    : (WaitLoop Session.serial Session.stream (.serial ∘ .readReady) .rtuIo timeoutMs s
            (ClientSession.rtuWait timeoutMs s)
          ∧ WaitsFirst s.rtuTimeoutMs timeoutMs ClientSession.rtuWait (ClientSession.receiveRequest .syncTimed)
            (Exec.mapErr (ClientSession.requestError .syncTimed) ModbusRtu.listen) s)
        ∧ (WaitLoop Session.stream Session.serial (.tcp ∘ .readReady) .tcpIo timeoutMs s
            (ClientSession.tcpWait timeoutMs s)
          ∧ WaitsFirst s.tcpTimeoutMs timeoutMs ClientSession.tcpWait (ClientSession.receiveResponse .syncTimed)
            (Exec.mapErr (ClientSession.responseError .syncTimed) ModbusTcp.listen) s)
        ∧ (WaitLoop Session.stream Session.serial (.tcp ∘ .readReady) .tcpIo timeoutMs s
            (Connection.tcpWait timeoutMs s)
          ∧ WaitsFirst s.tcpTimeoutMs timeoutMs Connection.tcpWait (Connection.receiveRequest .syncTimed)
            (Exec.mapErr (Connection.listenError .syncTimed) ModbusTcp.listen) s)
        ∧ (WaitLoop Session.serial Session.stream (.serial ∘ .readReady) .rtuIo timeoutMs s
            (Connection.rtuWait timeoutMs s)
          ∧ WaitsFirst s.rtuTimeoutMs timeoutMs Connection.rtuWait (Connection.exchange rtuReq .syncTimed)
            (Exec.mapErr (Connection.exchangeError .syncTimed) (ModbusRtu.sendAndReceive rtuReq)) s)
        ∧ (s.rtuTimeoutMs = some timeoutMs →
          outcome (ClientSession.rtuWait timeoutMs s) = .error (.failed .timeout) →
          ∃ s', ClientSession.next .syncTimed s = .error (.failed .timeout) s'
            ∧ OnlyAsked (timeoutMs.toNat + 1) s s') := by
  refine ⟨⟨serialWait_waitLoop timeoutMs s, ?_⟩, ⟨tcpWait_waitLoop timeoutMs s, ?_⟩,
    ⟨tcpWait_waitLoop timeoutMs s, ?_⟩, ⟨serialWait_waitLoop timeoutMs s, ?_⟩, ?_⟩
  . apply guarded_waitsFirst
  . apply guarded_waitsFirst
  . apply guarded_waitsFirst
  . apply guarded_waitsFirst
  . intro hconfigured htimeout
    refine ⟨_, ?_, ClientSession.rtuWait_onlyAsked timeoutMs htimeout⟩
    apply ClientSession.next_of_rtuWait_error hconfigured
    apply Exec.eq_error_of_outcome htimeout

end Next

end ModbusBridge
