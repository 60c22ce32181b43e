import ModbusBridge.Lemmas.Closing
import ModbusBridge.Lemmas.Machine
import ModbusBridge.Spec.Bursts

/-!
This module contains the proof that the asynchronous timed copies of `next` implement the programs on bursts.
-/

namespace ModbusBridge

open Effect EmbeddedIo Session Framing BurstView
open Exec (Agrees DropsAt Implements droppedIf)

variable {S TS D SE TE : Type} [Device S SE] [Device TS TE] [Bursty S] [Bursty TS]

section Views

variable {SE' TE' : Type} {b : BurstView} {v : View}

theorem inTime_congr {toError toError' : ModbusError SE' TE' → BridgeError SE TE} (pass : BurstView → BurstView)
    {y : Exec View (ModbusError SE' TE') α}
    (h : ∀ v e v', y v = .error (.failed e) v' → e ≠ .payloadTooShort → toError e = toError' e)
    : inTime pass toError y = inTime pass toError' y := by
  funext b
  unfold inTime
  cases hy : y b.view with
  | ok a v => rfl
  | error e v =>
    cases e with
    | dropped => rfl
    | failed e =>
      cases e with
      | payloadTooShort => rfl
      | crc | push | serial _ | tcp _ | invalidTransactionId | conversionSlice | rtuIllegal =>
        dsimp only
        rw [Stop.map_failed, Stop.map_failed, h _ _ _ hy nofun]

theorem inTime_cutTcp {toError : ModbusError Empty TE → BridgeError SE TE} (hpush : toError .push = .bufferOverflow)
    : inTime passTcp toError View.cutTcp = takeTcp := by
  apply inTime_congr
  intro v e v' h hne
  obtain rfl | rfl := cutTcp_error h
  . apply hpush
  . contradiction

theorem inTime_cutRtu {toError : ModbusError SE Empty → BridgeError SE TE} (hpush : toError .push = .bufferOverflow)
    (hcrc : toError .crc = .rtuCrcMismatch) (L : Layout UInt8) (cap : Nat)
    : inTime passSerial toError (View.cutRtu L cap) = takeRtu L cap := by
  apply inTime_congr
  intro v e v' h hne
  obtain rfl | rfl | rfl := cutRtu_error h
  . apply hpush
  . contradiction
  . apply hcrc

theorem inTime_putRtu {toError : ModbusError SE Empty → BridgeError SE TE} {pass : BurstView → BurstView}
    (frame : List UInt8) (y : Exec View (ModbusError SE Empty) α)
    : inTime pass toError (View.putRtu frame >>= fun _ => y)
        = (atOnce (View.putRtu frame) >>= fun _ => inTime pass toError y) := rfl

theorem outcome_atOnce (y : Exec View ε α) (b : BurstView) : outcome (atOnce y b) = outcome (y b.view) := by
  unfold atOnce
  cases y b.view with
  | ok a v => rfl
  | error e v => rfl

theorem finalState_atOnce (y : Exec View ε α) (b : BurstView)
    : finalState (atOnce y b) = b.after (finalState (y b.view)) := by
  unfold atOnce
  cases y b.view with
  | ok a v => rfl
  | error e v => rfl

section Run

variable {pass : BurstView → BurstView} {toError : ModbusError SE' TE' → BridgeError SE TE}
  {y : Exec View (ModbusError SE' TE') α}

theorem inTime_ok (h : y b.view = .ok a v) : inTime pass toError y b = .ok a (b.after v) := by
  unfold inTime
  rw [h]

theorem inTime_eof (h : y b.view = .error (.failed .payloadTooShort) v)
    : inTime pass toError y b = .error (.failed .timeout) (pass (b.after v)) := by
  unfold inTime
  rw [h]

theorem inTime_failed (h : y b.view = .error (.failed e) v) (hne : e ≠ .payloadTooShort)
    : inTime pass toError y b = .error (.failed (toError e)) (b.after v) := by
  unfold inTime
  rw [h]
  cases e with
  | payloadTooShort => contradiction
  | crc | push | serial _ | tcp _ | invalidTransactionId | conversionSlice | rtuIllegal => rfl

theorem inTime_eq_ok (h : inTime pass toError y b = .ok a b') : ∃ v, y b.view = .ok a v := by
  unfold inTime at h
  split at h
  . next a' v hy =>
    injection h with ha
    rw [← ha]
    exact ⟨v, hy⟩
  . contradiction
  . contradiction

end Run

end Views

section Guarded

variable [DelayNs D]

theorem closing_at {b : BurstView} {s : Session S TS D SE TE} (h : InBursts b { s with deadline := none })
    : At b.view (closing s) where
  serialRx := congrArg Bursts.now h.serialRx
  tcpRx := congrArg Bursts.now h.tcpRx
  serialTx := h.serialTx
  tcpTx := h.tcpTx
  transactionId := h.transactionId
  faults := Nat.zero_le 10
  steady := rfl
  deadline := rfl

variable {b : BurstView} {v : View} {s₀ s : Session S TS D SE TE} {t : Session (Closing S) (Closing TS) D SE TE}

theorem Trails.inBursts (h : Trails s₀ s t) (hstart : InBursts b { s₀ with deadline := none }) (hend : At v t)
    : InBursts (b.after v) { s with deadline := none } where
  serialRx := by
    have hnow : (Bursty.rx t.serial.port).now = v.serialRx := hend.serialRx
    rw [h.serial] at hnow
    have hlater := h.serialLater.trans (congrArg Bursts.later hstart.serialRx)
    show Bursty.rx s.serial = ⟨v.serialRx, b.serialRx.later⟩
    rw [← hnow, ← hlater]
  tcpRx := by
    have hnow : (Bursty.rx t.stream.port).now = v.tcpRx := hend.tcpRx
    rw [h.stream] at hnow
    have hlater := h.tcpLater.trans (congrArg Bursts.later hstart.tcpRx)
    show Bursty.rx s.stream = ⟨v.tcpRx, b.tcpRx.later⟩
    rw [← hnow, ← hlater]
  serialTx := h.serialTx.symm.trans hend.serialTx
  tcpTx := h.tcpTx.symm.trans hend.tcpTx
  transactionId := h.transactionId.symm.trans hend.transactionId
  deadline := rfl
  rtuTimeout := by
    obtain ⟨ms, hms, hexpires⟩ := hstart.rtuTimeout
    exact ⟨ms, h.rtuTimeoutMs.trans hms, h.delay ▸ hexpires⟩
  tcpTimeout := by
    obtain ⟨ms, hms, hexpires⟩ := hstart.tcpTimeout
    exact ⟨ms, h.tcpTimeoutMs.trans hms, h.delay ▸ hexpires⟩

theorem MissedSerial.inBursts (h : MissedSerial s₀ s t) (hstart : InBursts b { s₀ with deadline := none })
    (hend : At v t) : InBursts (b.after v).passSerial { s with deadline := none } := by
  obtain ⟨hpass, htrails⟩ := h
  have hbursts := htrails.inBursts hstart hend
  exact { hbursts with serialRx := hpass.trans (congrArg Bursts.pass hbursts.serialRx) }

theorem MissedTcp.inBursts (h : MissedTcp s₀ s t) (hstart : InBursts b { s₀ with deadline := none })
    (hend : At v t) : InBursts (b.after v).passTcp { s with deadline := none } := by
  obtain ⟨hpass, htrails⟩ := h
  have hbursts := htrails.inBursts hstart hend
  exact { hbursts with tcpRx := hpass.trans (congrArg Bursts.pass hbursts.tcpRx) }

theorem Session.InBursts.arm (h : InBursts b s) (ms : UInt32) : InBursts b { armed s ms with deadline := none } := by
  obtain ⟨rms, hrms, hrtu⟩ := h.rtuTimeout
  obtain ⟨tms, htms, htcp⟩ := h.tcpTimeout
  exact { h with
    deadline := rfl
    rtuTimeout := ⟨rms, hrms, hrtu.next ms⟩
    tcpTimeout := ⟨tms, htms, htcp.next ms⟩ }

theorem Session.InBursts.due_serial (h : InBursts b s) (hms : s.rtuTimeoutMs = some ms)
    : (armed s ms).DueWithin (Bursty.silence S) := by
  obtain ⟨ms', hms', hexpires⟩ := h.rtuTimeout
  injection hms.symm.trans hms' with heq
  rw [heq]
  exact ⟨_, rfl, hexpires.polls_lt⟩

theorem Session.InBursts.due_tcp (h : InBursts b s) (hms : s.tcpTimeoutMs = some ms)
    : (armed s ms).DueWithin (Bursty.silence TS) := by
  obtain ⟨ms', hms', hexpires⟩ := h.tcpTimeout
  injection hms.symm.trans hms' with heq
  rw [heq]
  exact ⟨_, rfl, hexpires.polls_lt⟩

variable {SE' TE' : Type} {fut : Exec (Session S TS D SE TE) (ModbusError SE' TE') α}
  {fut' : Exec (Session (Closing S) (Closing TS) D SE TE) (ModbusError SE' TE') α}
  {y : Exec View (ModbusError SE' TE') β} {pass : BurstView → BurstView}
  {Missed : Session S TS D SE TE → Session S TS D SE TE → Session (Closing S) (Closing TS) D SE TE → Prop}

theorem selectFor_inTime {view : α → β} (toError : ModbusError SE' TE' → BridgeError SE TE) {ms : UInt32}
    (hdrops : DropsAt .payloadTooShort (Trails (armed s ms)) (Missed (armed s ms)) fut fut')
    (hmissed : ∀ {v s₁ t}, Missed (armed s ms) s₁ t → At v t →
      InBursts (pass (b.after v)) { s₁ with deadline := none })
    (hfut : Implements At view fut' y) (hy : ∀ v, outcome (y v) ≠ .error .dropped) (h : InBursts b s)
    : (outcome (selectFor fut toError (some ms) s)).map view = outcome (inTime pass toError y b)
        ∧ InBursts (finalState (inTime pass toError y b)) (finalState (selectFor fut toError (some ms) s)) := by
  have hstart := h.arm ms
  obtain ⟨houtcome, hafter⟩ := hfut b.view (closing (armed s ms)) (closing_at hstart)
  obtain ⟨hsame, hne, htrails⟩ | ⟨s₁, t₁, hx, hx', hmiss⟩ := hdrops _ _ (trails_closing (armed s ms))
  . rw [← hsame] at houtcome
    have hend := htrails.inBursts hstart hafter
    unfold selectFor
    dsimp only
    cases hx : fut (armed s ms) with
    | ok a s₁ =>
      rw [hx] at houtcome hend
      rw [Exec.bind_ok (select_ok hx), inTime_ok (Exec.eq_ok_of_outcome houtcome.symm)]
      exact ⟨rfl, hend⟩
    | error e s₁ =>
      rw [hx] at houtcome hend hne
      cases e with
      | failed e =>
        have hne : e ≠ .payloadTooShort := by
          rintro rfl
          exact hne rfl
        rw [Exec.bind_ok (select_failed hx), inTime_failed (Exec.eq_error_of_outcome houtcome.symm) hne]
        exact ⟨rfl, hend⟩
      | dropped => exact absurd houtcome.symm (hy b.view)
  . rw [hx'] at houtcome hafter
    unfold selectFor
    dsimp only
    rw [Exec.bind_ok (select_dropped hx), inTime_eof (Exec.eq_error_of_outcome houtcome.symm)]
    exact ⟨rfl, hmissed hmiss hafter⟩

/--
What needs no deadline does the same on bursts.
-/
theorem implements_bursts {x : Exec (Session S TS D SE TE) ε Unit}
    {x' : Exec (Session (Closing S) (Closing TS) D SE TE) ε Unit} {y : Exec View ε Unit}
    (hagrees : ∀ s₀, Agrees (droppedIf False) (Trails s₀) x x') (hx : Implements At id x' y)
    : Implements InBursts id x (atOnce y) := by
  intro b s h
  have hidle : { s with deadline := none } = s := by rw [← h.deadline]
  obtain ⟨houtcome, hafter⟩ := hx b.view (closing s) (closing_at (by rwa [hidle]))
  obtain ⟨_, _, _, hfalse, _⟩ | ⟨hsame, htrails⟩ := hagrees s s _ (trails_closing s)
  . contradiction
  . have hend := htrails.inBursts (by rwa [hidle]) hafter
    have hidle' : { finalState (x s) with deadline := none } = finalState (x s) := by
      rw [← h.deadline, ← htrails.deadline]
    rw [hsame, outcome_atOnce, finalState_atOnce, ← hidle']
    exact ⟨houtcome, hend⟩

end Guarded

section Next

theorem exists_of_burstTcp {b b' : BurstView}
    (h : (takeTcp b : EStateM.Result (Stop (BridgeError SE TE)) _ _) = .ok frame b')
    : ∃ tid pid body, frame = tcpFrame tid pid body ∧ body.length ≤ 255 := by
  obtain ⟨v, hcut⟩ := inTime_eq_ok h
  have htake : (View.takeTcp b.view : EStateM.Result (Stop (BridgeError SE TE)) _ _) = _ := Exec.mapErr_ok hcut
  apply exists_of_takeTcp htake

theorem exists_of_burstRtu {L : Layout UInt8} {b b' : BurstView}
    (h : (takeRtu L cap b : EStateM.Result (Stop (BridgeError SE TE)) _ _) = .ok frame b')
    : ∃ body, frame = rtuFrame body ∧ 2 ≤ body.length ∧ body.length + 2 = L.need (rtuFrame body)
        ∧ body.length + 2 ≤ cap := by
  obtain ⟨v, hcut⟩ := inTime_eq_ok h
  have htake : (View.takeRtu L cap .rtuClosed b.view : EStateM.Result (Stop (BridgeError SE TE)) _ _) = _ :=
    Exec.mapErr_ok hcut
  apply exists_of_takeRtu htake

variable [ReadReady S SE] [ReadReady TS TE] [DelayNs D]

omit [Device S SE] [Device TS TE] [Bursty S] [Bursty TS] [ReadReady S SE] [ReadReady TS TE] in
theorem guarded_asyncTimed {readReady : Exec (Session S TS D SE TE) ε' Bool} {ioError : ε' → BridgeError SE TE}
    {timeoutMs : Session S TS D SE TE → Option UInt32} {fut : Exec (Session S TS D SE TE) ε α}
    {toError : Flavour → ε → BridgeError SE TE} {s : Session S TS D SE TE} (hms : timeoutMs s = some ms)
    : guarded readReady ioError timeoutMs fut toError .asyncTimed s
        = selectFor fut (toError .asyncTimed) (some ms) s := by
  unfold guarded
  dsimp only
  rw [Exec.bind_ok (show (get : Exec _ (BridgeError SE TE) _) s = .ok s s by rfl), hms]

omit [ReadReady S SE] [ReadReady TS TE] in
theorem sendTcp_bursts (data : List UInt8)
    : Implements InBursts id
        (Exec.mapErr .tcpIo (ModbusTcp.send data) : Exec (Session S TS D SE TE) (BridgeError SE TE) Unit)
        (atOnce (View.putTcp data)) := by
  apply implements_bursts (fun _ => (ModbusTcp.send_trails data).mapErr_droppedIf _) (sendTcp_implements data)

omit [ReadReady S SE] [ReadReady TS TE] in
theorem sendRtu_bursts (payload : List UInt8)
    : Implements InBursts id
        (Exec.mapErr .rtuIo (ModbusRtu.send payload) : Exec (Session S TS D SE TE) (BridgeError SE TE) Unit)
        (atOnce (View.putRtu payload)) := by
  apply implements_bursts (fun _ => (ModbusRtu.send_trails payload).mapErr_droppedIf _) (sendRtu_implements payload)

omit [ReadReady S SE] [ReadReady TS TE] in
theorem nextTransactionId_bursts
    : Implements InBursts id
        (ModbusTcp.nextTransactionId : Exec (Session S TS D SE TE) (BridgeError SE TE) UInt16)
        (atOnce View.nextId) := by
  intro b s h
  have hid := h.transactionId
  refine ⟨?_, { h with transactionId := ?_ }⟩
  . show Except.ok (s.transactionId + 1) = .ok (b.transactionId + 1)
    rw [hid]
  . show s.transactionId + 1 = b.transactionId + 1
    rw [hid]

omit [ReadReady S SE] in
theorem listenTcp_bursts {toError : Flavour → ModbusError Empty TE → BridgeError SE TE}
    (hpush : toError .asyncTimed .push = .bufferOverflow)
    : Implements InBursts Heapless.Vec.data
        (guarded tcpReadReady .tcpIo Session.tcpTimeoutMs ModbusTcp.listen toError .asyncTimed
          : Exec (Session S TS D SE TE) (BridgeError SE TE) TcpFrame) takeTcp := by
  intro b s h
  obtain ⟨ms, hms, _⟩ := h.tcpTimeout
  rw [guarded_asyncTimed hms, ← inTime_cutTcp hpush]
  apply selectFor_inTime _ (ModbusTcp.listen_dropsAt (h.due_tcp hms)) _ ModbusTcp.listen_implements
    cutTcp_ne_dropped h
  intro v s₁ t hmissed
  apply hmissed.inBursts (h.arm ms)

namespace Connection

omit [ReadReady S SE] in
theorem receiveRequest_bursts
    : Implements InBursts Heapless.Vec.data
        (receiveRequest .asyncTimed : Exec (Session S TS D SE TE) (BridgeError SE TE) TcpFrame) takeTcp := by
  apply listenTcp_bursts
  rfl

omit [ReadReady TS TE] in
theorem exchange_bursts (rtuReq : List UInt8)
    : Implements InBursts Heapless.Vec.data
        (exchange rtuReq .asyncTimed : Exec (Session S TS D SE TE) (BridgeError SE TE) RtuResponse)
        (exchangeRtu rtuReq) := by
  intro b s h
  obtain ⟨ms, hms, _⟩ := h.rtuTimeout
  have hcut : inTime passSerial (exchangeError .asyncTimed) (View.cutRtu responseLayout 512)
      = (takeRtu responseLayout 512 : Exec BurstView (BridgeError SE TE) _) := inTime_cutRtu rfl rfl _ _
  unfold exchange exchangeRtu
  rw [guarded_asyncTimed hms, ← hcut, ← inTime_putRtu]
  apply selectFor_inTime _ (ModbusRtu.sendAndReceive_dropsAt (h.due_serial hms) rtuReq) _
    (ModbusRtu.sendAndReceive_implements rtuReq) (fun _ => cutRtu_ne_dropped _ _ _) h
  intro v s₁ t hmissed
  apply hmissed.inBursts (h.arm ms)

theorem next_bursts
    : Implements InBursts id
        (next .asyncTimed : Exec (Session S TS D SE TE) (BridgeError SE TE) BridgeEvent) Mode.bridge.burstStep := by
  unfold Mode.burstStep
  apply cycle_implements_program
  . intro b frame b'
    apply exists_of_burstTcp
  . intro rtuReq b frame b' htake
    obtain ⟨_, b₁, _, htake⟩ := Exec.bind_eq_ok.mp htake
    obtain ⟨body, hframe, hmin, hlen, _⟩ := exists_of_burstRtu htake
    have hlen : body.length + 2 = responseLength (rtuFrame body) := hlen
    have hbounds := responseLength_bounds (rtuFrame body)
    exact ⟨body, hframe, hmin, by omega⟩
  . apply receiveRequest_bursts
  . apply exchange_bursts
  . apply sendTcp_bursts

end Connection

namespace ClientSession

omit [ReadReady TS TE] in
theorem receiveRequest_bursts
    : Implements InBursts Heapless.Vec.data
        (receiveRequest .asyncTimed : Exec (Session S TS D SE TE) (BridgeError SE TE) RtuFrame)
        (takeRtu requestLayout rtuBuf) := by
  intro b s h
  obtain ⟨ms, hms, _⟩ := h.rtuTimeout
  have hcut : inTime passSerial (requestError .asyncTimed) (View.cutRtu requestLayout rtuBuf)
      = (takeRtu requestLayout rtuBuf : Exec BurstView (BridgeError SE TE) _) := inTime_cutRtu rfl rfl _ _
  unfold receiveRequest
  rw [guarded_asyncTimed hms, ← hcut]
  apply selectFor_inTime _ (ModbusRtu.listen_dropsAt (h.due_serial hms)) _ ModbusRtu.listen_implements
    (cutRtu_ne_dropped _ _) h
  intro v s₁ t hmissed
  apply hmissed.inBursts (h.arm ms)

omit [ReadReady S SE] in
theorem receiveResponse_bursts
    : Implements InBursts Heapless.Vec.data
        (receiveResponse .asyncTimed : Exec (Session S TS D SE TE) (BridgeError SE TE) TcpFrame) takeTcp := by
  apply listenTcp_bursts
  rfl

theorem next_bursts
    : Implements InBursts id
        (next .asyncTimed : Exec (Session S TS D SE TE) (BridgeError SE TE) BridgeEvent) Mode.client.burstStep := by
  unfold Mode.burstStep
  apply cycle_implements_program
  . intro b frame b' htake
    obtain ⟨body, hframe, hmin, _, hcap⟩ := exists_of_burstRtu htake
    exact ⟨body, hframe, hmin, by simp only [rtuBuf] at hcap; omega⟩
  . intro b frame b'
    apply exists_of_burstTcp
  . apply receiveRequest_bursts
  . apply nextTransactionId_bursts
  . apply sendTcp_bursts
  . apply receiveResponse_bursts
  . apply sendRtu_bursts

end ClientSession

theorem Call.burst_step {c : Call TS} (htimed : c.AsyncTimed) {b : BurstView} {s : Session S TS D SE TE}
    (h : InBursts b s) : c.answer s = c.burstExpected b ∧ InBursts (c.burstAdvance SE b) (c.perform s) := by
  cases htimed with
  | accept stream =>
    refine ⟨rfl, { h with
      tcpRx := rfl
      serialTx := rfl
      tcpTx := rfl
      transactionId := rfl
      deadline := rfl }⟩
  | bridge =>
    obtain ⟨hresult, hafter⟩ := Connection.next_bursts.ends b s h
    exact ⟨congrArg some hresult, hafter⟩
  | client =>
    obtain ⟨hresult, hafter⟩ := ClientSession.next_bursts.ends b s h
    exact ⟨congrArg some hresult, hafter⟩

end Next

end ModbusBridge
