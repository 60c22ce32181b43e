import ModbusBridge.EmbeddedIo.Prompt
import ModbusBridge.Lemmas.Agreement
import ModbusBridge.Lemmas.Machine

/-!
This module contains the proof that on devices that are never pending each of the four copies of `next` implements a
program on streams of bytes.
-/

namespace ModbusBridge

open Effect EmbeddedIo Session View
open Exec (Agrees Implements Within droppedIf)

variable {S TS D SE TE : Type}

namespace Session

/--
The two sessions are the same, except for their timers.
-/
def SameButTimers (s s' : Session S TS D SE TE) : Prop := ∃ delay deadline, s' = { s with delay, deadline }

theorem serial_sameButTimers : (serialPort : Port S TS D SE TE S SE).Respects Eq SameButTimers where
  device := by
    rintro s _ ⟨delay, deadline, rfl⟩
    rfl
  withDevice := by
    rintro s _ d _ ⟨delay, deadline, rfl⟩ rfl
    exact ⟨_, _, rfl⟩

theorem tcp_sameButTimers : (tcpPort : Port S TS D SE TE TS TE).Respects Eq SameButTimers where
  device := by
    rintro s _ ⟨delay, deadline, rfl⟩
    rfl
  withDevice := by
    rintro s _ d _ ⟨delay, deadline, rfl⟩ rfl
    exact ⟨_, _, rfl⟩

namespace Port.Respects

variable {p : Port S TS D SE TE σ ε}

theorem perform_sameButTimers (hport : p.Respects Eq SameButTimers) (op : σ → Completion σ ε α)
    (hop : ∀ d, (op d).polls = 0) (ev : Except (Stop ε) α → IoEvent ε)
    : Agrees (droppedIf False) SameButTimers (p.perform op ev) (p.perform op ev) := by
  intro s s' h
  right
  rw [p.outcome_perform, p.outcome_perform, p.finalState_perform, p.finalState_perform, ← hport.device h,
    Completion.answer_of_polls (hop _), Completion.answer_of_polls (hop _)]
  refine ⟨rfl, hport.withDevice ?_ rfl⟩
  obtain ⟨delay, deadline, rfl⟩ := h
  exact ⟨_, _, rfl⟩

variable [Device σ ε] [ReadReady σ ε] [Lossless σ] [Prompt σ]

theorem read_sameButTimers (hport : p.Respects Eq SameButTimers) (n : Nat)
    : Agrees (droppedIf False) SameButTimers (p.read n) (p.read n) :=
  hport.perform_sameButTimers _ (fun d => Prompt.read_polls d n) _

theorem write_sameButTimers (hport : p.Respects Eq SameButTimers) (buf : List UInt8) (hbuf : buf ≠ [])
    : Agrees (droppedIf False) SameButTimers (p.write buf hbuf) (p.write buf hbuf) :=
  hport.perform_sameButTimers _ (fun d => Prompt.write_polls d buf hbuf) _

theorem flush_sameButTimers (hport : p.Respects Eq SameButTimers)
    : Agrees (droppedIf False) SameButTimers p.flush p.flush :=
  hport.perform_sameButTimers _ (fun d => Prompt.flush_polls d) _

end Port.Respects

theorem note_sameButTimers (e : Event SE TE)
    : Agrees (droppedIf False) (SameButTimers : Session S TS D SE TE → _ → Prop)
        (note e : Exec _ ε Unit) (note e) := by
  rintro s _ ⟨delay, deadline, rfl⟩
  exact .inr ⟨rfl, _, _, rfl⟩

theorem setTxEn_sameButTimers (high : Bool)
    : Agrees (droppedIf False) (SameButTimers : Session S TS D SE TE → _ → Prop)
        (setTxEn high : Exec _ ε Unit) (setTxEn high) := by
  rintro s _ ⟨delay, deadline, rfl⟩
  exact .inr ⟨rfl, _, _, rfl⟩

end Session

section Transports

variable [Device S SE] [Device TS TE] [ReadReady S SE] [ReadReady TS TE] [Lossless S] [Lossless TS]

omit [Device S SE] [ReadReady S SE] [Lossless S] in
theorem ModbusTcp.listen_sameButTimers [Prompt TS]
    : Agrees (droppedIf False) (SameButTimers : Session S TS D SE TE → _ → Prop) listen listen := by
  apply listen_agrees
  apply readExact_agrees
  apply tcp_sameButTimers.read_sameButTimers

variable [Prompt S]

omit [Device TS TE] [ReadReady TS TE] [Lossless TS] in
theorem ModbusRtu.readExact_sameButTimers (len : Nat)
    : Agrees (droppedIf False) (SameButTimers : Session S TS D SE TE → _ → Prop) (readExact len) (readExact len) := by
  apply readExact_agrees
  apply serial_sameButTimers.read_sameButTimers

omit [Device TS TE] [ReadReady TS TE] [Lossless TS] in
theorem ModbusRtu.listen_sameButTimers
    : Agrees (droppedIf False) (SameButTimers : Session S TS D SE TE → _ → Prop) listen listen := by
  apply listen_agrees readExact_sameButTimers

omit [Device TS TE] [ReadReady TS TE] [Lossless TS] in
theorem ModbusRtu.sendAndReceive_sameButTimers (req : List UInt8)
    : Agrees (droppedIf False) (SameButTimers : Session S TS D SE TE → _ → Prop)
        (sendAndReceive req) (sendAndReceive req) := by
  apply sendAndReceive_agrees readExact_sameButTimers
  apply send_agrees (fun _ => note_sameButTimers _) _ setTxEn_sameButTimers
  . apply writeAll_agrees
    apply serial_sameButTimers.write_sameButTimers
  . apply serial_sameButTimers.flush_sameButTimers

end Transports

section Guarded

variable [Device S SE] [Device TS TE] [ReadReady S SE] [ReadReady TS TE] [Lossless S] [Lossless TS]

/--
A step that leaves the view of the session as it is.
-/
def Unseen (s s' : Session S TS D SE TE) : Prop := ∀ v, At v s → At v s'

omit [ReadReady S SE] [ReadReady TS TE] in
instance : IsPreorder (Session S TS D SE TE) Unseen where
  refl _ _ h := h
  trans _ _ _ h₁ h₂ v h := h₂ v (h₁ v h)

omit [ReadReady TS TE] in
theorem serialReadReady_unseen [Prompt S]
    : Within Unseen (serialReadReady : Exec (Session S TS D SE TE) SE Bool) := by
  intro s v h
  obtain ⟨hrx, hfaults⟩ := Prompt.readReady_next s.serial
  show At v (finalState (serialPort.readReady s))
  rw [Port.finalState_readReady]
  exact h.serialStep (hrx.trans h.serialRx) hfaults (List.append_nil _)

omit [ReadReady S SE] in
theorem tcpReadReady_unseen [Prompt TS]
    : Within Unseen (tcpReadReady : Exec (Session S TS D SE TE) TE Bool) := by
  intro s v h
  obtain ⟨hrx, hfaults⟩ := Prompt.readReady_next s.stream
  show At v (finalState (tcpPort.readReady s))
  rw [Port.finalState_readReady]
  exact h.tcpStep (hrx.trans h.tcpRx) hfaults (List.append_nil _)

variable [DelayNs D]

omit [ReadReady S SE] [ReadReady TS TE] in
theorem delayMs_unseen (ms : UInt32) : Within Unseen (delayMs ms : Exec (Session S TS D SE TE) ε Unit) := by
  intro s v h
  exact { h.mark (e := .delayMs ms) rfl rfl s.txEn with }

omit [ReadReady S SE] [ReadReady TS TE] in
/--
The deadline of an asynchronous timed copy makes no difference.
-/
theorem selectFor_implements {fut : Exec (Session S TS D SE TE) ε α} {toError : ε → BridgeError SE TE}
    {y : Exec View (BridgeError SE TE) β} (hfut : Implements At view (Exec.mapErr toError fut) y)
    (hsame : Agrees (droppedIf False) SameButTimers fut fut) (hy : ∀ v, outcome (y v) ≠ .error .dropped)
    (timeoutMs : Option UInt32) : Implements At view (selectFor fut toError timeoutMs) y := by
  cases timeoutMs with
  | none => apply hfut
  | some ms =>
    intro v s h
    obtain ⟨houtcome, hafter⟩ := hfut v s h
    have harmed : SameButTimers (armed s ms) s := ⟨_, _, rfl⟩
    have hended {s₁ s₂ : Session S TS D SE TE} {v₁ : View} (hsame : SameButTimers s₁ s₂) (h : At v₁ s₂)
        : At v₁ { s₁ with deadline := none } := by
      obtain ⟨_, _, rfl⟩ := hsame
      exact { h with deadline := rfl }
    unfold selectFor
    dsimp only
    cases hx : fut (armed s ms) with
    | ok a s₁ =>
      obtain ⟨s₂, hfut, hsame⟩ := hsame.eq_ok harmed hx
      rw [Exec.mapErr_ok hfut] at houtcome hafter
      rw [Exec.bind_ok (select_ok hx)]
      exact ⟨houtcome, hended hsame hafter⟩
    | error e s₁ =>
      obtain hdropped | ⟨s₂, hfut, hsame⟩ := hsame.eq_error harmed hx
      . exact absurd hdropped.1 id
      rw [Exec.mapErr_error hfut] at houtcome hafter
      cases e with
      | failed e =>
        rw [Exec.bind_ok (select_failed hx)]
        exact ⟨houtcome, hended hsame hafter⟩
      | dropped => exact absurd houtcome.symm (hy v)

variable {σ ε' : Type} [Device σ ε'] [ReadReady σ ε'] [Lossless σ] [Prompt σ]
  {readReady : Exec (Session S TS D SE TE) ε' Bool} {port : Session S TS D SE TE → σ}

omit [ReadReady S SE] [ReadReady TS TE] in
/--
The wait of a blocking timed copy is over at once, unless there is nothing to wait for.
-/
theorem waitReadyFor_implements {rx : View → List UInt8} (hpolls : Polls readReady port)
    (hrx : ∀ {v s}, At v s → Lossless.rx (port s) = rx v) (hready : Within Unseen readReady)
    (ioError : ε' → BridgeError SE TE) (timeoutMs : Option UInt32)
    : Implements At id (waitReadyFor readReady ioError timeoutMs) (await rx timeoutMs .syncTimed) := by
  intro v s h
  have hunseen : At v (finalState (waitReadyFor readReady ioError timeoutMs s)) :=
    waitReadyFor_within ioError hready (delayMs_unseen 1) timeoutMs s v h
  unfold await
  cases timeoutMs with
  | none => exact ⟨rfl, h⟩
  | some ms =>
    have houtcome : outcome (waitReadyFor readReady ioError (some ms) s) = _ :=
      waitReady.go_outcome hpolls ioError ms 0 s
    have hport := hrx h
    rw [houtcome]
    dsimp only
    by_cases hempty : rx v = []
    . rw [if_pos ⟨rfl, hempty⟩, Prompt.pollReady_of_nil (hport.trans hempty)]
      exact ⟨rfl, hunseen⟩
    . rw [if_neg (fun h => hempty h.2), Prompt.pollReady_of_ne_nil (by rwa [hport])]
      exact ⟨rfl, hunseen⟩

omit [ReadReady S SE] [ReadReady TS TE] in
theorem guarded_implements (rx : View → List UInt8) (hpolls : Polls readReady port)
    (hrx : ∀ {v s}, At v s → Lossless.rx (port s) = rx v) (hready : Within Unseen readReady)
    {fut : Exec (Session S TS D SE TE) ε α} {toError : Flavour → ε → BridgeError SE TE}
    {y : Exec View (BridgeError SE TE) β}
    (hfut : ∀ flavour, Implements At view (Exec.mapErr (toError flavour) fut) y)
    (hsame : Agrees (droppedIf False) SameButTimers fut fut) (hy : ∀ v, outcome (y v) ≠ .error .dropped)
    (ioError : ε' → BridgeError SE TE) (timeoutMs : Session S TS D SE TE → Option UInt32) (flavour : Flavour)
    {v : View} {s : Session S TS D SE TE} (h : At v s)
    : (outcome (guarded readReady ioError timeoutMs fut toError flavour s)).map view
          = outcome ((await rx (timeoutMs s) flavour >>= fun _ => y) v)
        ∧ At (finalState ((await rx (timeoutMs s) flavour >>= fun _ => y) v))
            (finalState (guarded readReady ioError timeoutMs fut toError flavour s)) := by
  unfold guarded
  cases flavour with
  | sync => apply hfut .sync v s h
  | async => apply hfut .async v s h
  | syncTimed =>
    dsimp only
    rw [Exec.bind_ok (show (get : Exec _ (BridgeError SE TE) _) s = .ok s s by rfl)]
    apply Implements.bind (waitReadyFor_implements hpolls hrx hready ioError (timeoutMs s)) _ v s h
    intro _ _ _ _
    apply hfut
  | asyncTimed =>
    dsimp only
    rw [Exec.bind_ok (show (get : Exec _ (BridgeError SE TE) _) s = .ok s s by rfl)]
    apply selectFor_implements (hfut .asyncTimed) hsame hy (timeoutMs s) v s h

end Guarded

section Next

variable [Device S SE] [Device TS TE] [ReadReady S SE] [ReadReady TS TE] [Lossless S] [Lossless TS] [DelayNs D]
  {timeouts : Timeouts}

/--
The session has the view `v` and these timeouts.
-/
def AtWith (timeouts : Timeouts) (v : View) (s : Session S TS D SE TE) : Prop := At v s ∧ s.timeouts = timeouts

omit [ReadReady S SE] [ReadReady TS TE] [DelayNs D] in
/--
A program that leaves the timeouts alone does so while it implements another one.
-/
theorem implements_with {x : Exec (Session S TS D SE TE) ε α} {y : Exec View ε β} (h : Implements At view x y)
    (hkeeps : ∀ s, (finalState (x s)).timeouts = s.timeouts) : Implements (AtWith timeouts) view x y := by
  rintro v s ⟨hat, htimeouts⟩
  obtain ⟨houtcome, hafter⟩ := h v s hat
  exact ⟨houtcome, hafter, (hkeeps s).trans htimeouts⟩

omit [Device S SE] [Device TS TE] [ReadReady S SE] [ReadReady TS TE] [Lossless S] [Lossless TS] [DelayNs D] in
theorem Session.OnTcp.timeouts_eq {s s' : Session S TS D SE TE} (h : OnTcp kinds s s')
    : s'.timeouts = s.timeouts := by
  unfold Session.timeouts
  rw [h.rtuTimeoutMs_eq, h.tcpTimeoutMs_eq]

omit [Device S SE] [Device TS TE] [ReadReady S SE] [ReadReady TS TE] [Lossless S] [Lossless TS] [DelayNs D] in
theorem Session.OnSerial.timeouts_eq {s s' : Session S TS D SE TE} (h : OnSerial kinds s s')
    : s'.timeouts = s.timeouts := by
  unfold Session.timeouts
  rw [h.rtuTimeoutMs_eq, h.tcpTimeoutMs_eq]

omit [ReadReady S SE] [ReadReady TS TE] [DelayNs D] in
theorem sendTcp_implements_with (data : List UInt8)
    : Implements (AtWith timeouts) id
        (Exec.mapErr .tcpIo (ModbusTcp.send data) : Exec (Session S TS D SE TE) (BridgeError SE TE) Unit)
        (putTcp data) := by
  apply implements_with (sendTcp_implements data)
  intro s
  rw [Exec.finalState_mapErr]
  apply (ModbusTcp.send_onTcp data s).timeouts_eq

omit [ReadReady S SE] [ReadReady TS TE] [DelayNs D] in
theorem sendRtu_implements_with (payload : List UInt8)
    : Implements (AtWith timeouts) id
        (Exec.mapErr .rtuIo (ModbusRtu.send payload) : Exec (Session S TS D SE TE) (BridgeError SE TE) Unit)
        (putRtu payload) := by
  apply implements_with (sendRtu_implements payload)
  intro s
  rw [Exec.finalState_mapErr]
  apply (ModbusRtu.send_onSerial (List.Subset.refl _) payload s).timeouts_eq

variable [Prompt S] [Prompt TS]

namespace Connection

omit [ReadReady S SE] [Prompt S] in
theorem receiveRequest_implements_with (flavour : Flavour)
    : Implements (AtWith timeouts) Heapless.Vec.data
        (receiveRequest flavour : Exec (Session S TS D SE TE) (BridgeError SE TE) TcpFrame)
        (await View.tcpRx timeouts.tcpMs flavour >>= fun _ => takeTcp) := by
  rintro v s ⟨hat, rfl⟩
  have hguarded := guarded_implements View.tcpRx polls_tcp At.tcpRx tcpReadReady_unseen
    listen_implements ModbusTcp.listen_sameButTimers takeTcp_ne_dropped .tcpIo Session.tcpTimeoutMs flavour hat
  exact ⟨hguarded.1, hguarded.2, (receiveRequest_onTcp flavour s).timeouts_eq⟩

omit [ReadReady TS TE] [Prompt TS] in
theorem exchange_implements_with (flavour : Flavour) (rtuReq : List UInt8)
    : Implements (AtWith timeouts) Heapless.Vec.data
        (exchange rtuReq flavour : Exec (Session S TS D SE TE) (BridgeError SE TE) RtuResponse)
        (await View.serialRx timeouts.rtuMs flavour >>= fun _ => putRtu rtuReq >>= fun _ =>
          takeRtu responseLayout 512 .rtuCrcMismatch) := by
  rintro v s ⟨hat, rfl⟩
  have hguarded := guarded_implements View.serialRx polls_serial At.serialRx serialReadReady_unseen
    (fun flavour => sendAndReceive_implements flavour rtuReq) (ModbusRtu.sendAndReceive_sameButTimers rtuReq)
    (fun _ => takeRtu_ne_dropped _ _ _ _) .rtuIo Session.rtuTimeoutMs flavour hat
  exact ⟨hguarded.1, hguarded.2, (exchange_onSerial rtuReq flavour s).timeouts_eq⟩

theorem next_implements_with (flavour : Flavour)
    : Implements (AtWith timeouts) id
        (next flavour : Exec (Session S TS D SE TE) (BridgeError SE TE) BridgeEvent)
        (Mode.bridge.stepOf flavour timeouts) := by
  apply cycle_implements
  . apply receiveRequest_implements_with
  . apply exchange_implements_with
  . apply sendTcp_implements_with

end Connection

namespace ClientSession

omit [ReadReady TS TE] [Prompt TS] in
theorem receiveRequest_implements_with (flavour : Flavour)
    : Implements (AtWith timeouts) Heapless.Vec.data
        (receiveRequest flavour : Exec (Session S TS D SE TE) (BridgeError SE TE) RtuFrame)
        (await View.serialRx timeouts.rtuMs flavour >>= fun _ => takeRtu requestLayout rtuBuf .rtuClosed) := by
  rintro v s ⟨hat, rfl⟩
  have hguarded := guarded_implements View.serialRx polls_serial At.serialRx serialReadReady_unseen
    listen_implements ModbusRtu.listen_sameButTimers (takeRtu_ne_dropped _ _ _) .rtuIo Session.rtuTimeoutMs flavour hat
  exact ⟨hguarded.1, hguarded.2, (receiveRequest_onSerial flavour s).timeouts_eq⟩

omit [ReadReady S SE] [Prompt S] in
theorem receiveResponse_implements_with (flavour : Flavour)
    : Implements (AtWith timeouts) Heapless.Vec.data
        (receiveResponse flavour : Exec (Session S TS D SE TE) (BridgeError SE TE) TcpFrame)
        (await View.tcpRx timeouts.tcpMs flavour >>= fun _ => takeTcp) := by
  rintro v s ⟨hat, rfl⟩
  have hguarded := guarded_implements View.tcpRx polls_tcp At.tcpRx tcpReadReady_unseen
    listenResponse_implements ModbusTcp.listen_sameButTimers takeTcp_ne_dropped .tcpIo Session.tcpTimeoutMs flavour hat
  exact ⟨hguarded.1, hguarded.2, (receiveResponse_onTcp flavour s).timeouts_eq⟩

theorem next_implements_with (flavour : Flavour)
    : Implements (AtWith timeouts) id
        (next flavour : Exec (Session S TS D SE TE) (BridgeError SE TE) BridgeEvent)
        (Mode.client.stepOf flavour timeouts) := by
  apply cycle_implements
  . apply receiveRequest_implements_with
  . apply implements_with nextTransactionId_implements
    intro s
    rfl
  . apply sendTcp_implements_with
  . apply receiveResponse_implements_with
  . apply sendRtu_implements_with

end ClientSession

theorem Call.prompt_step {c : Call TS} (hsteady : ∀ stream, c = .accept stream → Lossless.faults stream = 0)
    {v : View} {s : Session S TS D SE TE} (h : AtWith timeouts v s)
    : c.answer s = c.expectedOf timeouts v ∧ AtWith timeouts (c.advanceOf SE timeouts v) (c.perform s) := by
  cases c with
  | accept stream =>
    obtain ⟨hat, htimeouts⟩ := h
    exact ⟨rfl, hat.accept (hsteady stream rfl), htimeouts⟩
  | bridge flavour =>
    obtain ⟨hresult, hafter⟩ := (Connection.next_implements_with flavour).ends v s h
    exact ⟨congrArg some hresult, hafter⟩
  | client flavour =>
    obtain ⟨hresult, hafter⟩ := (ClientSession.next_implements_with flavour).ends v s h
    exact ⟨congrArg some hresult, hafter⟩

end Next

end ModbusBridge
