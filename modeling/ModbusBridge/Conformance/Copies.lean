import ModbusBridge.EmbeddedIo.Passive
import ModbusBridge.Lemmas.Agreement
import ModbusBridge.Lemmas.Trace
import ModbusBridge.Lemmas.Wait
import ModbusBridge.Spec.Layout
import ModbusBridge.Spec.Mock
import ModbusBridge.Spec.Run

/-!
This module contains the fact that the copies of `next` agree: on the same streams they perform the same
operations and return the same, except that the timed ones may give up.
-/

namespace ModbusBridge

open Effect EmbeddedIo Session
open Exec (Agrees droppedIf)

variable {S TS D SE TE : Type} [Device S SE] [Device TS TE] [ReadReady S SE] [ReadReady TS TE]
  [Passive S] [Passive TS]

/--
The first session has performed the same operations as the second one since both had the trace `p`, and in
between it may have polled. A deadline may be running for it if `lax`.
-/
structure Mirrors (lax : Prop) (p : List (Event SE TE)) (s s' : Session S TS D SE TE) : Prop where
  serial : Passive.Same s.serial s'.serial
  stream : Passive.Same s.stream s'.stream
  txEn : s.txEn = s'.txEn
  transactionId : s.transactionId = s'.transactionId
  trace : ∃ t t', s.trace = p ++ t ∧ s'.trace = p ++ t' ∧ Trace.operations t = Trace.operations t'
  deadline : ¬ lax → s.deadline = none
  idle : s'.deadline = none

variable {lax : Prop} {p : List (Event SE TE)}

section Operations

theorem trace_operation {s s' : Session S TS D SE TE} (h : Mirrors lax p s s') (e : Event SE TE)
    : ∃ t t', s.trace ++ [e] = p ++ t ∧ s'.trace ++ [e] = p ++ t'
        ∧ Trace.operations t = Trace.operations t' := by
  obtain ⟨t, t', ht, ht', hsame⟩ := h.trace
  refine ⟨t ++ [e], t' ++ [e], ?_, ?_, ?_⟩
  . rw [ht, List.append_assoc]
  . rw [ht', List.append_assoc]
  . unfold Trace.operations at hsame ⊢
    rw [List.filter_append, List.filter_append, hsame]

theorem trace_poll {s s' : Session S TS D SE TE} (h : Mirrors lax p s s') {e : Event SE TE}
    (he : e.isPoll = true)
    : ∃ t t', s.trace ++ [e] = p ++ t ∧ s'.trace = p ++ t' ∧ Trace.operations t = Trace.operations t' := by
  obtain ⟨t, t', ht, ht', hsame⟩ := h.trace
  refine ⟨t ++ [e], t', ?_, ht', ?_⟩
  . rw [ht, List.append_assoc]
  . unfold Trace.operations at hsame ⊢
    rw [List.filter_append, hsame]
    simp [he]

theorem serial_mirrors : (serialPort : Port S TS D SE TE S SE).Respects Passive.Same (Mirrors lax p) where
  device h := h.serial
  withDevice h hd := { h with serial := hd }

theorem tcp_mirrors : (tcpPort : Port S TS D SE TE TS TE).Respects Passive.Same (Mirrors lax p) where
  device h := h.stream
  withDevice h hd := { h with stream := hd }

namespace Session.Port.Respects

variable [Device σ ε] [ReadReady σ ε] [Passive σ] {port : Port S TS D SE TE σ ε}

theorem perform_mirrors (hport : port.Respects Passive.Same (Mirrors lax p)) (op : σ → Completion σ ε α)
    (hop : ∀ d d', Passive.Same d d' → (op d).result = (op d').result ∧ Passive.Same (op d).next (op d').next)
    (ev : Except (Stop ε) α → IoEvent ε)
    : Agrees (droppedIf lax) (Mirrors lax p) (port.perform op ev) (port.perform op ev) := by
  intro s s' h
  obtain ⟨hresult, hnext⟩ := hop _ _ (hport.device h)
  obtain ⟨hrunning, hdropped⟩ | hanswer := (op (port.device s)).answer_cases s.deadline
  . left
    refine ⟨.dropped, _, Exec.eq_error_of_outcome (x := port.perform op ev) ?_, ?_, rfl⟩
    . rw [port.outcome_perform, hdropped]
    . apply Classical.byContradiction
      intro hlax
      exact hrunning (h.deadline hlax)
  . right
    rw [port.outcome_perform, port.outcome_perform, port.finalState_perform, port.finalState_perform, hanswer, h.idle,
      Completion.answer_none, ← hresult]
    refine ⟨rfl, hport.withDevice { h with trace := trace_operation h _, deadline := ?_, idle := rfl } hnext⟩
    intro hlax
    rw [h.deadline hlax, Option.map_none]

theorem read_mirrors (hport : port.Respects Passive.Same (Mirrors lax p)) (n : Nat)
    : Agrees (droppedIf lax) (Mirrors lax p) (port.read n) (port.read n) :=
  hport.perform_mirrors _ (fun _ _ h => Passive.read h n) _

theorem write_mirrors (hport : port.Respects Passive.Same (Mirrors lax p)) (buf : List UInt8) (hbuf : buf ≠ [])
    : Agrees (droppedIf lax) (Mirrors lax p) (port.write buf hbuf) (port.write buf hbuf) :=
  hport.perform_mirrors _ (fun _ _ h => Passive.write h buf hbuf) _

theorem flush_mirrors (hport : port.Respects Passive.Same (Mirrors lax p))
    : Agrees (droppedIf lax) (Mirrors lax p) port.flush port.flush :=
  hport.perform_mirrors _ (fun _ _ h => Passive.flush h) _

end Session.Port.Respects

theorem note_mirrors (e : Event SE TE)
    : Agrees (droppedIf lax) (Mirrors lax p : Session S TS D SE TE → _ → Prop)
        (note e : Exec _ ε Unit) (note e) := by
  intro s s' h
  exact .inr ⟨rfl, { h with trace := trace_operation h e }⟩

theorem setTxEn_mirrors (high : Bool)
    : Agrees (droppedIf lax) (Mirrors lax p : Session S TS D SE TE → _ → Prop)
        (setTxEn high : Exec _ ε Unit) (setTxEn high) := by
  intro s s' h
  exact .inr ⟨rfl, { h with txEn := rfl, trace := trace_operation h _ }⟩

theorem nextTransactionId_mirrors {excused : Stop ε → Session S TS D SE TE → Prop}
    : Agrees excused (Mirrors lax p : Session S TS D SE TE → _ → Prop)
        (ModbusTcp.nextTransactionId : Exec _ ε UInt16) ModbusTcp.nextTransactionId := by
  intro s s' h
  right
  have hid : s.transactionId + 1 = s'.transactionId + 1 := by rw [h.transactionId]
  constructor
  . show Except.ok (s.transactionId + 1) = Except.ok (s'.transactionId + 1)
    rw [hid]
  . exact { h with transactionId := hid }

theorem ModbusTcp.readExact_mirrors (len : Nat)
    : Agrees (droppedIf lax) (Mirrors lax p : Session S TS D SE TE → _ → Prop)
        (ModbusTcp.readExact len) (ModbusTcp.readExact len) := by
  apply ModbusTcp.readExact_agrees
  apply tcp_mirrors.read_mirrors

theorem ModbusRtu.readExact_mirrors (len : Nat)
    : Agrees (droppedIf lax) (Mirrors lax p : Session S TS D SE TE → _ → Prop)
        (ModbusRtu.readExact len) (ModbusRtu.readExact len) := by
  apply ModbusRtu.readExact_agrees
  apply serial_mirrors.read_mirrors

theorem ModbusTcp.send_mirrors (data : List UInt8)
    : Agrees (droppedIf lax) (Mirrors lax p : Session S TS D SE TE → _ → Prop)
        (ModbusTcp.send data) (ModbusTcp.send data) := by
  apply ModbusTcp.send_agrees (fun _ => note_mirrors _)
  apply ModbusTcp.writeAll_agrees
  apply tcp_mirrors.write_mirrors

theorem ModbusRtu.send_mirrors (payload : List UInt8)
    : Agrees (droppedIf lax) (Mirrors lax p : Session S TS D SE TE → _ → Prop)
        (ModbusRtu.send payload) (ModbusRtu.send payload) := by
  apply ModbusRtu.send_agrees (fun _ => note_mirrors _) _ setTxEn_mirrors
  . apply ModbusRtu.writeAll_agrees
    apply serial_mirrors.write_mirrors
  . apply serial_mirrors.flush_mirrors

end Operations

section Guarded

def PollFailed (p : List (Event SE TE)) (s : Session S TS D SE TE) : Prop :=
  ∃ t, s.trace = p ++ t ∧ ∃ e ∈ t, e.isFailedPoll = true

/--
A timed copy may give up, or find that it cannot tell whether a port is ready.
-/
def GaveUp (flavour : Flavour) (p : List (Event SE TE)) (e : Stop (BridgeError SE TE))
    (s : Session S TS D SE TE) : Prop :=
  ¬ flavour.Untimed ∧ (e = .failed .timeout ∨ PollFailed p s)

/--
`readReady` asks a port and does nothing else.
-/
def Asks (p : List (Event SE TE)) (readReady : Exec (Session S TS D SE TE) ε Bool) : Prop :=
  ∀ s s', Mirrors False p s s' →
    (∃ ready s₁, readReady s = .ok ready s₁ ∧ Mirrors False p s₁ s')
      ∨ ∃ e s₁, readReady s = .error (.failed e) s₁ ∧ PollFailed p s₁

theorem readReady_asks [Device σ ε] [ReadReady σ ε] [Passive σ] {port : Port S TS D SE TE σ ε}
    (hport : port.Respects Passive.Same (Mirrors False p)) (hpoll : ∀ r, (port.event (.readReady r)).isPoll = true)
    (hfailed : ∀ e, (port.event (.readReady (.error e))).isFailedPoll = true) : Asks p port.readReady := by
  intro s s' h
  cases hready : (ReadReady.readReady (port.device s)).1 with
  | ok ready =>
    left
    have houtcome := port.outcome_readReady s
    rw [hready] at houtcome
    refine ⟨ready, _, Exec.eq_ok_of_outcome houtcome, ?_⟩
    have hpolled : Mirrors False p { s with trace := s.trace ++ [port.event (.readReady (.ok ready))] } s' :=
      { h with trace := trace_poll h (hpoll _) }
    have hsame := hport.withDevice hpolled (Passive.readReady (hport.device h))
    rw [port.withDevice_device] at hsame
    rw [port.finalState_readReady, hready]
    exact hsame
  | error e =>
    right
    have houtcome := port.outcome_readReady s
    rw [hready] at houtcome
    obtain ⟨t, _, ht, _⟩ := h.trace
    refine ⟨e, _, Exec.eq_error_of_outcome houtcome, t ++ [port.event (.readReady (.error e))], ?_,
      port.event (.readReady (.error e)), ?_, hfailed e⟩
    . rw [port.trace_readReady, ht, List.append_assoc, hready]
    . exact List.mem_append_right _ (List.mem_singleton_self _)

theorem serialReadReady_asks : Asks p (serialReadReady : Exec (Session S TS D SE TE) SE Bool) :=
  readReady_asks serial_mirrors (fun _ => rfl) (fun _ => rfl)

theorem tcpReadReady_asks : Asks p (tcpReadReady : Exec (Session S TS D SE TE) TE Bool) :=
  readReady_asks tcp_mirrors (fun _ => rfl) (fun _ => rfl)

variable [DelayNs D] {readReady : Exec (Session S TS D SE TE) ε' Bool} {ioError : ε' → BridgeError SE TE}

theorem waitReady.go_mirrors (hasks : Asks p readReady) (timeoutMs elapsed : UInt32)
    {s s' : Session S TS D SE TE} (h : Mirrors False p s s')
    : (∃ s₁, go readReady ioError timeoutMs elapsed s = .ok () s₁ ∧ Mirrors False p s₁ s')
        ∨ ∃ e s₁, go readReady ioError timeoutMs elapsed s = .error e s₁
            ∧ (e = .failed .timeout ∨ PollFailed p s₁) := by
  unfold go
  obtain ⟨ready, s₁, hready, h₁⟩ | ⟨e, s₁, hready, hfailed⟩ := hasks s s' h
  . rw [Exec.bind_result_ok hready]
    cases ready with
    | true => exact .inl ⟨s₁, rfl, h₁⟩
    | false =>
      dsimp only
      split
      . exact .inr ⟨_, s₁, rfl, .inl rfl⟩
      . next hge =>
        have hlt : elapsed < timeoutMs := UInt32.not_le.mp hge
        have hnat := UInt32.lt_iff_toNat_lt.mp hlt
        have hsucc := toNat_saturatingAdd_one hlt
        rw [Exec.bind_ok (show delayMs 1 s₁ = .ok () _ by rfl)]
        apply go_mirrors hasks
        exact { h₁ with trace := trace_poll h₁ rfl }
  . rw [Exec.bind_result_failed hready]
    exact .inr ⟨_, s₁, rfl, .inr hfailed⟩
termination_by timeoutMs.toNat - elapsed.toNat
decreasing_by
  omega

theorem waitReadyFor_mirrors {excused : Stop (BridgeError SE TE) → Session S TS D SE TE → Prop}
    {x y : Exec (Session S TS D SE TE) (BridgeError SE TE) α} (hasks : Asks p readReady)
    (hx : Agrees excused (Mirrors False p) x y)
    (hexcused : ∀ e s, e = .failed .timeout ∨ PollFailed p s → excused e s) (timeoutMs : Option UInt32)
    : Agrees excused (Mirrors False p)
        (do waitReadyFor readReady ioError timeoutMs; x) y := by
  intro s s' h
  cases timeoutMs with
  | none =>
    unfold waitReadyFor
    dsimp only
    rw [Exec.bind_ok (show (pure () : Exec _ (BridgeError SE TE) _) s = .ok () s by rfl)]
    apply hx s s' h
  | some ms =>
    unfold waitReadyFor
    dsimp only
    obtain ⟨s₁, hwait, h₁⟩ | ⟨e, s₁, hwait, hgave⟩ := waitReady.go_mirrors hasks ms 0 h
    . rw [Exec.bind_ok (show waitReady readReady ioError ms s = .ok () s₁ from hwait)]
      apply hx s₁ s' h₁
    . left
      exact ⟨e, s₁, Exec.bind_error (show waitReady readReady ioError ms s = .error e s₁ from hwait),
        hexcused e s₁ hgave⟩

variable {fut : Exec (Session S TS D SE TE) ε α} {toError : Flavour → ε → BridgeError SE TE}
  {timeoutMs : Session S TS D SE TE → Option UInt32}

theorem selectFor_mirrors {excused : Stop (BridgeError SE TE) → Session S TS D SE TE → Prop}
    (hfut : ∀ lax, Agrees (droppedIf lax) (Mirrors lax p) fut fut) {f g : ε → BridgeError SE TE}
    (hfg : ∀ e, f e = g e) (htimeout : ∀ s, excused (.failed .timeout) s) (ms : Option UInt32)
    : Agrees excused (Mirrors False p) (selectFor fut f ms) (Exec.mapErr g fut) := by
  cases ms with
  | none =>
    apply (hfut False).mapErr hfg
    rintro e s ⟨hfalse, _⟩
    contradiction
  | some ms =>
    obtain rfl : f = g := funext hfg
    intro s s' h
    have harmed : Mirrors True p (armed s ms) s' := { h with deadline := fun hlax => absurd trivial hlax }
    have hended {s₁ s₁' : Session S TS D SE TE} (h₁ : Mirrors True p s₁ s₁')
        : Mirrors False p { s₁ with deadline := none } s₁' := { h₁ with deadline := fun _ => rfl }
    cases hx : fut (armed s ms) with
    | ok a s₁ =>
      obtain ⟨s₁', hy, h₁⟩ := (hfut True).eq_ok harmed hx
      right
      unfold selectFor
      dsimp only
      rw [Exec.bind_ok (select_ok hx), Exec.mapErr_ok hy]
      exact ⟨rfl, hended h₁⟩
    | error e s₁ =>
      unfold selectFor
      dsimp only
      cases e with
      | dropped =>
        left
        exact ⟨_, _, Exec.bind_ok (select_dropped hx), htimeout _⟩
      | failed e =>
        rw [Exec.bind_ok (select_failed hx)]
        cases (hfut True).eq_error harmed hx with
        | inl hdropped => exact absurd hdropped.2 (by simp)
        | inr h =>
          obtain ⟨s₁', hy, h₁⟩ := h
          right
          rw [Exec.mapErr_error hy]
          exact ⟨rfl, hended h₁⟩

theorem guarded_mirrors (hasks : Asks p readReady)
    (hfut : ∀ lax, Agrees (droppedIf lax) (Mirrors lax p) fut fut)
    (htoError : ∀ flavour flavour' e, toError flavour e = toError flavour' e) (flavour : Flavour)
    : Agrees (GaveUp flavour p) (Mirrors False p) (guarded readReady ioError timeoutMs fut toError flavour)
        (guarded readReady ioError timeoutMs fut toError .sync) := by
  have hplain : Agrees (GaveUp flavour p) (Mirrors False p) (Exec.mapErr (toError flavour) fut)
      (Exec.mapErr (toError .sync) fut) := by
    apply (hfut False).mapErr (htoError flavour .sync)
    rintro e s ⟨hfalse, _⟩
    contradiction
  have hget {f : Session S TS D SE TE → Exec (Session S TS D SE TE) (BridgeError SE TE) α}
      {y : Exec (Session S TS D SE TE) (BridgeError SE TE) α}
      (hf : ∀ s, Agrees (GaveUp flavour p) (Mirrors False p) (f s) y)
      : Agrees (GaveUp flavour p) (Mirrors False p) (get >>= f) y := by
    intro s s' h
    rw [Exec.bind_ok (show (get : Exec _ (BridgeError SE TE) _) s = .ok s s by rfl)]
    apply hf s s s' h
  cases flavour with
  | sync | async => apply hplain
  | syncTimed =>
    have htimed : ¬ Flavour.Untimed .syncTimed := by
      intro h
      cases h
    apply hget
    intro s₀
    apply waitReadyFor_mirrors hasks hplain
    intro e s hgave
    exact ⟨htimed, hgave⟩
  | asyncTimed =>
    have htimed : ¬ Flavour.Untimed .asyncTimed := by
      intro h
      cases h
    apply hget
    intro s₀
    apply selectFor_mirrors hfut (htoError .asyncTimed .sync)
    intro s
    exact ⟨htimed, .inl rfl⟩

theorem Connection.next_mirrors (flavour : Flavour)
    : Agrees (GaveUp flavour p) (Mirrors False p : Session S TS D SE TE → _ → Prop)
        (Connection.next flavour) (Connection.next .sync) := by
  unfold Connection.next
  apply Connection.cycle_agrees
  . apply guarded_mirrors tcpReadReady_asks _ listenError_eq
    intro lax
    apply ModbusTcp.listen_agrees ModbusTcp.readExact_mirrors
  . intro rtuReq
    apply guarded_mirrors serialReadReady_asks _ exchangeError_eq
    intro lax
    apply ModbusRtu.sendAndReceive_agrees ModbusRtu.readExact_mirrors
    apply ModbusRtu.send_mirrors
  . apply ModbusTcp.send_mirrors

theorem ClientSession.next_mirrors (flavour : Flavour)
    : Agrees (GaveUp flavour p) (Mirrors False p : Session S TS D SE TE → _ → Prop)
        (ClientSession.next flavour) (ClientSession.next .sync) := by
  unfold ClientSession.next
  apply ClientSession.cycle_agrees
  . apply guarded_mirrors serialReadReady_asks _ requestError_eq
    intro lax
    apply ModbusRtu.listen_agrees ModbusRtu.readExact_mirrors
  . apply nextTransactionId_mirrors
  . apply ModbusTcp.send_mirrors
  . apply guarded_mirrors tcpReadReady_asks _ responseError_eq
    intro lax
    apply ModbusTcp.listen_agrees ModbusTcp.readExact_mirrors
  . apply ModbusRtu.send_mirrors

end Guarded

theorem Trace.flatMap_operations {obs : Event SE TE → List α} (hobs : ∀ e, e.isPoll = true → obs e = [])
    (t : List (Event SE TE)) : (Trace.operations t).flatMap obs = t.flatMap obs := by
  induction t with
  | nil => rfl
  | cons e t ih =>
    unfold Trace.operations at ih ⊢
    rw [List.filter_cons, List.flatMap_cons, ← ih]
    split
    . rfl
    . next hpoll => rw [hobs e (by simpa using hpoll), List.nil_append]

/--
The calls `x` and `y` in `s` do the same on both lines and at the pin, and return the same.
-/
structure SameCycle (x y : Exec (Session S TS D SE TE) ε α) (s : Session S TS D SE TE) : Prop where
  result : outcome (x s) = outcome (y s)
  operations : Trace.operations (during x s) = Trace.operations (during y s)
  serialRx : Trace.serialRx (during x s) = Trace.serialRx (during y s)
  tcpRx : Trace.tcpRx (during x s) = Trace.tcpRx (during y s)
  serialTx : Trace.serialTx (during x s) = Trace.serialTx (during y s)
  tcpTx : Trace.tcpTx (during x s) = Trace.tcpTx (during y s)
  pins : Trace.pins (during x s) = Trace.pins (during y s)
  transactionId : (finalState (x s)).transactionId = (finalState (y s)).transactionId

namespace SameCycle

variable {x y z : Exec (Session S TS D SE TE) ε α} {s : Session S TS D SE TE}

omit [Device S SE] [Device TS TE] [ReadReady S SE] [ReadReady TS TE] [Passive S] [Passive TS] in
theorem symm (h : SameCycle x y s) : SameCycle y x s :=
  ⟨h.1.symm, h.2.symm, h.3.symm, h.4.symm, h.5.symm, h.6.symm, h.7.symm, h.8.symm⟩

omit [Device S SE] [Device TS TE] [ReadReady S SE] [ReadReady TS TE] [Passive S] [Passive TS] in
theorem trans (h : SameCycle x y s) (h' : SameCycle y z s) : SameCycle x z s :=
  ⟨h.1.trans h'.1, h.2.trans h'.2, h.3.trans h'.3, h.4.trans h'.4, h.5.trans h'.5, h.6.trans h'.6,
    h.7.trans h'.7, h.8.trans h'.8⟩

theorem of_mirrors (hresult : outcome (x s) = outcome (y s))
    (h : Mirrors False s.trace (finalState (x s)) (finalState (y s))) : SameCycle x y s := by
  obtain ⟨t, t', ht, ht', hsame⟩ := h.trace
  have hobs {α : Type} {obs : Event SE TE → List α} (hpoll : ∀ e, e.isPoll = true → obs e = [])
      : (during x s).flatMap obs = (during y s).flatMap obs := by
    rw [← Trace.flatMap_operations hpoll (during x s), ← Trace.flatMap_operations hpoll (during y s),
      during_eq ht, during_eq ht', hsame]
  have hquiet (e : Event SE TE) (hpoll : e.isPoll = true) : e.serialRx = [] ∧ e.tcpRx = []
      ∧ e.serialTx = [] ∧ e.tcpTx = [] ∧ e.pins = [] := by
    unfold Event.isPoll at hpoll
    split at hpoll
    . exact ⟨rfl, rfl, rfl, rfl, rfl⟩
    . exact ⟨rfl, rfl, rfl, rfl, rfl⟩
    . exact ⟨rfl, rfl, rfl, rfl, rfl⟩
    . contradiction
  constructor
  . apply hresult
  . rw [during_eq ht, during_eq ht', hsame]
  . apply hobs fun e hpoll => (hquiet e hpoll).1
  . apply hobs fun e hpoll => (hquiet e hpoll).2.1
  . apply hobs fun e hpoll => (hquiet e hpoll).2.2.1
  . apply hobs fun e hpoll => (hquiet e hpoll).2.2.2.1
  . apply hobs fun e hpoll => (hquiet e hpoll).2.2.2.2
  . apply h.transactionId

end SameCycle

/--
The call neither runs into a timeout nor finds a port that cannot tell whether it is ready.
-/
def Smooth (x : Exec (Session S TS D SE TE) (BridgeError SE TE) α) (s : Session S TS D SE TE) : Prop :=
  outcome (x s) ≠ .error (.failed .timeout) ∧ ∀ e ∈ during x s, e.isFailedPoll = false

variable [DelayNs D]

theorem Mode.next_mirrors (mode : Mode) (flavour : Flavour)
    : Agrees (GaveUp flavour p) (Mirrors False p : Session S TS D SE TE → _ → Prop)
        (mode.next flavour) (mode.next .sync) := by
  cases mode with
  | bridge => apply Connection.next_mirrors
  | client => apply ClientSession.next_mirrors

theorem Mode.next_sameCycle_sync (mode : Mode) {flavour : Flavour} {s : Session S TS D SE TE}
    (hidle : s.deadline = none) (hsmooth : ¬ flavour.Untimed → Smooth (mode.next flavour) s)
    : SameCycle (mode.next flavour) (mode.next .sync) s := by
  have hstart : Mirrors False s.trace s s :=
    ⟨Passive.refl _, Passive.refl _, rfl, rfl, ⟨[], [], by simp, by simp, rfl⟩, fun _ => hidle, hidle⟩
  obtain ⟨e, s₁, hfailed, htimed, hgave⟩ | ⟨hresult, hend⟩ := mode.next_mirrors flavour s s hstart
  . obtain ⟨hintime, hpolls⟩ := hsmooth htimed
    cases hgave with
    | inl htimeout =>
      rw [hfailed, htimeout] at hintime
      exact absurd rfl hintime
    | inr hpoll =>
      obtain ⟨t, ht, e', hmem, hbad⟩ := hpoll
      rw [during_eq (t := t) (by rw [hfailed]; exact ht)] at hpolls
      rw [hpolls e' hmem] at hbad
      contradiction
  . apply SameCycle.of_mirrors hresult hend

theorem copies_agree (mode : Mode) (flavour flavour' : Flavour) (s : Session S TS D SE TE)
    (hidle : s.deadline = none) (hsmooth : ¬ flavour.Untimed → Smooth (mode.next flavour) s)
    (hsmooth' : ¬ flavour'.Untimed → Smooth (mode.next flavour') s)
    : SameCycle (mode.next flavour) (mode.next flavour') s :=
  (mode.next_sameCycle_sync hidle hsmooth).trans (mode.next_sameCycle_sync hidle hsmooth').symm

theorem copies_agree_read
    : SameCycle (Mode.bridge.next .syncTimed) (Mode.bridge.next .asyncTimed)
        (timedSession (rtuFrame [0x11, 0x03, 0x02, 0xAA, 0xBB]) (tcpFrame 1 0 readRequest)) :=
  copies_agree .bridge .syncTimed .asyncTimed _ rfl (fun _ => ⟨by decide +kernel, by decide +kernel⟩)
    (fun _ => ⟨by decide +kernel, by decide +kernel⟩)

end ModbusBridge
