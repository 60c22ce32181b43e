import ModbusBridge.Effect.Dropped
import ModbusBridge.EmbeddedIo.Bursty
import ModbusBridge.EmbeddedIo.Prompt
import ModbusBridge.Lemmas.Agreement
import ModbusBridge.Lemmas.Reads

/-!
This module contains how the transports under a deadline compare with those without one on ports that are closed at the
end of a burst: they are dropped where the others find the end of their input.
-/

namespace ModbusBridge

open Effect EmbeddedIo Session
open Exec (Agrees DropsAt droppedIf)

variable {S TS D SE TE : Type} [Device S SE] [Device TS TE] [Bursty S] [Bursty TS]

section Trails

/--
Since `s₀` the first session has kept its timers, and the second one has done the same on the ports that are closed at
the end of a burst.
-/
structure Trails (s₀ s : Session S TS D SE TE) (t : Session (Closing S) (Closing TS) D SE TE) : Prop where
  serial : t.serial.port = s.serial
  stream : t.stream.port = s.stream
  serialLater : (Bursty.rx s.serial).later = (Bursty.rx s₀.serial).later
  tcpLater : (Bursty.rx s.stream).later = (Bursty.rx s₀.stream).later
  serialTx : Trace.serialTx t.trace = Trace.serialTx s.trace
  tcpTx : Trace.tcpTx t.trace = Trace.tcpTx s.trace
  transactionId : t.transactionId = s.transactionId
  rtuTimeoutMs : s.rtuTimeoutMs = s₀.rtuTimeoutMs
  tcpTimeoutMs : s.tcpTimeoutMs = s₀.tcpTimeoutMs
  delay : s.delay = s₀.delay
  deadline : s.deadline = s₀.deadline
  idle : t.deadline = none

/--
The first session has been dropped in a silence of the serial line, and the second one has found the line closed.
-/
def MissedSerial (s₀ s : Session S TS D SE TE) (t : Session (Closing S) (Closing TS) D SE TE) : Prop :=
  Bursty.rx s.serial = (Bursty.rx t.serial.port).pass
    ∧ Trails s₀ { s with serial := t.serial.port, deadline := s₀.deadline } t

def MissedTcp (s₀ s : Session S TS D SE TE) (t : Session (Closing S) (Closing TS) D SE TE) : Prop :=
  Bursty.rx s.stream = (Bursty.rx t.stream.port).pass
    ∧ Trails s₀ { s with stream := t.stream.port, deadline := s₀.deadline } t

/--
A deadline is running, and it is over before `n` polls are.
-/
def Session.DueWithin (s : Session S TS D SE TE) (n : Nat) : Prop := ∃ polls, s.deadline = some polls ∧ polls < n

def closing (s : Session S TS D SE TE) : Session (Closing S) (Closing TS) D SE TE :=
  { s with serial := ⟨s.serial⟩, stream := ⟨s.stream⟩, deadline := none }

theorem trails_closing (s : Session S TS D SE TE) : Trails s s (closing s) :=
  ⟨rfl, rfl, rfl, rfl, rfl, rfl, rfl, rfl, rfl, rfl, rfl, rfl⟩

variable {s₀ s : Session S TS D SE TE} {t : Session (Closing S) (Closing TS) D SE TE}

theorem Trails.sent (h : Trails s₀ s t) (e e' : Event SE TE) (hserial : e'.serialTx = e.serialTx)
    (htcp : e'.tcpTx = e.tcpTx)
    : Trails s₀ { s with trace := s.trace ++ [e] } { t with trace := t.trace ++ [e'] } := by
  have hserialTx := h.serialTx
  have htcpTx := h.tcpTx
  unfold Trace.serialTx at hserialTx
  unfold Trace.tcpTx at htcpTx
  exact { h with
    serialTx := by simp [Trace.serialTx, hserialTx, hserial]
    tcpTx := by simp [Trace.tcpTx, htcpTx, htcp] }

end Trails

section Operations

/--
`p'` is the port `p` if it is closed at the end of a burst, and `missed` is how the two sessions compare once an
operation on `p` has been dropped in a silence.
-/
structure Closes {σ ε : Type} [Device σ ε] [Bursty σ] (p : Port S TS D SE TE σ ε)
    (p' : Port (Closing S) (Closing TS) D SE TE (Closing σ) ε)
    (missed : Session S TS D SE TE → Session S TS D SE TE → Session (Closing S) (Closing TS) D SE TE → Prop)
    : Prop where
  device {s₀ s t} (h : Trails s₀ s t) : (p'.device t).port = p.device s
  step {s₀ s t} {d : σ} {e e' : IoEvent ε} (h : Trails s₀ s t)
    (hlater : (Bursty.rx d).later = (Bursty.rx (p.device s)).later) (hsent : e'.accepted = e.accepted)
    : Trails s₀ (p.withDevice d { s with trace := s.trace ++ [p.event e] })
        (p'.withDevice ⟨d⟩ { t with trace := t.trace ++ [p'.event e'] })
  drop {s₀ s t} {d : σ} {e e' : IoEvent ε} (h : Trails s₀ s t)
    (hpass : Bursty.rx d = (Bursty.rx (p.device s)).pass) (hsent : e'.accepted = e.accepted) (deadline : Option Nat)
    : missed s₀ (p.withDevice d { s with deadline, trace := s.trace ++ [p.event e] })
        (p'.withDevice (p'.device t) { t with trace := t.trace ++ [p'.event e'] })

theorem serial_closes
    : Closes (serialPort : Port S TS D SE TE S SE) serialPort MissedSerial where
  device h := h.serial
  step {_ _ _ _ e e'} h hlater hsent :=
    { h.sent (.serial e) (.serial e') hsent rfl with
      serial := rfl
      serialLater := hlater.trans h.serialLater }
  drop {_ _ t _ e e'} h hpass hsent _ := by
    constructor
    . show _ = (Bursty.rx t.serial.port).pass
      rw [h.serial]
      exact hpass
    . exact { h.sent (.serial e) (.serial e') hsent rfl with
        serial := rfl
        serialLater := (congrArg (fun d => (Bursty.rx d).later) h.serial).trans h.serialLater
        deadline := rfl }

theorem tcp_closes
    : Closes (tcpPort : Port S TS D SE TE TS TE) tcpPort MissedTcp where
  device h := h.stream
  step {_ _ _ _ e e'} h hlater hsent :=
    { h.sent (.tcp e) (.tcp e') rfl hsent with
      stream := rfl
      tcpLater := hlater.trans h.tcpLater }
  drop {_ _ t _ e e'} h hpass hsent _ := by
    constructor
    . show _ = (Bursty.rx t.stream.port).pass
      rw [h.stream]
      exact hpass
    . exact { h.sent (.tcp e) (.tcp e') rfl hsent with
        stream := rfl
        tcpLater := (congrArg (fun d => (Bursty.rx d).later) h.stream).trans h.tcpLater
        deadline := rfl }

variable {p : Port S TS D SE TE σ ε}

omit [Device S SE] [Device TS TE] [Bursty S] [Bursty TS] in
theorem Session.Port.perform_of_polls {op : σ → Completion σ ε α} {s : Session S TS D SE TE}
    (hpolls : (op (p.device s)).polls = 0) (hresult : (op (p.device s)).result = .ok a)
    (ev : Except (Stop ε) α → IoEvent ε)
    : p.perform op ev s
        = .ok a (p.withDevice (op (p.device s)).next { s with trace := s.trace ++ [p.event (ev (.ok a))] }) := by
  have hdeadline : s.deadline.map (· - (op (p.device s)).polls) = s.deadline := by
    rw [hpolls]
    exact congrFun Option.map_id s.deadline
  unfold perform
  dsimp only
  rw [Completion.answer_of_polls hpolls, hresult, hdeadline]
  rfl

omit [Device S SE] [Device TS TE] [Bursty S] [Bursty TS] in
theorem Session.Port.perform_of_late {op : σ → Completion σ ε α} {s : Session S TS D SE TE}
    (hdeadline : s.deadline = some polls) (hlt : polls < (op (p.device s)).polls)
    (ev : Except (Stop ε) α → IoEvent ε)
    : p.perform op ev s = .error .dropped (p.withDevice (op (p.device s)).dropped { s with
        deadline := some (polls - (op (p.device s)).polls)
        trace := s.trace ++ [p.event (ev (.error .dropped))] }) := by
  unfold perform
  dsimp only
  rw [hdeadline, Completion.answer, if_pos (by simpa using hlt)]
  rfl

namespace Closes

variable [Device σ ε] [Bursty σ] {p' : Port (Closing S) (Closing TS) D SE TE (Closing σ) ε}
  {missed : Session S TS D SE TE → Session S TS D SE TE → Session (Closing S) (Closing TS) D SE TE → Prop}
  {s₀ s : Session S TS D SE TE} {t : Session (Closing S) (Closing TS) D SE TE}

/--
An operation that is not pending is the same on both ports.
-/
theorem perform (hclosed : Closes p p' missed) (h : Trails s₀ s t) (op : σ → Completion σ ε α)
    (op' : Closing σ → Completion (Closing σ) ε α) (hop : op' (p'.device t) = Closing.wrap (op (p'.device t).port))
    (hpolls : (op (p.device s)).polls = 0) (hresult : (op (p.device s)).result = .ok a)
    (hlater : (Bursty.rx (op (p.device s)).next).later = (Bursty.rx (p.device s)).later)
    (ev : Except (Stop ε) α → IoEvent ε)
    : ∃ s' t', p.perform op ev s = .ok a s' ∧ p'.perform op' ev t = .ok a t' ∧ Trails s₀ s' t' := by
  rw [hclosed.device h] at hop
  refine ⟨_, _, Port.perform_of_polls hpolls hresult ev,
    Port.perform_of_polls (by rw [hop]; exact hpolls) (by rw [hop]; exact hresult) ev, ?_⟩
  rw [hop]
  apply hclosed.step h hlater rfl

/--
A read in a silence is dropped. In a burst both sessions read the same.
-/
theorem read (hclosed : Closes p p' missed) (hdue : s₀.DueWithin (Bursty.silence σ)) (h : Trails s₀ s t) (n : Nat)
    : (∃ s' t', p.read n s = .error .dropped s' ∧ p'.read n t = .ok ⟨[], Nat.zero_le n⟩ t' ∧ missed s₀ s' t')
        ∨ ∃ bytes s' t', p.read n s = .ok bytes s' ∧ p'.read n t = .ok bytes t'
          ∧ (0 < n → bytes.val ≠ []) ∧ Trails s₀ s' t' := by
  have hport := hclosed.device h
  by_cases hnow : (Bursty.rx (p.device s)).now = []
  . left
    obtain ⟨polls, hdeadline, hlt⟩ := hdue
    obtain ⟨hpolls, hpass⟩ := Bursty.read_silence n hnow
    have hread := Closing.read_of_nil (show (Bursty.rx (p'.device t).port).now = [] by rw [hport]; exact hnow) n
    refine ⟨_, _, Port.perform_of_late (h.deadline.trans hdeadline) (Nat.lt_of_lt_of_le hlt hpolls) _,
      Port.perform_of_polls (by rw [hread]) (by rw [hread]) _, ?_⟩
    rw [hread]
    exact hclosed.drop h hpass (by rfl) _
  . right
    obtain ⟨hpolls, bytes, hresult, hbytes, _, hlater⟩ := Bursty.read_burst n hnow
    have hread := Closing.read_of_ne_nil (show (Bursty.rx (p'.device t).port).now ≠ [] by rw [hport]; exact hnow) n
    obtain ⟨s', t', hs, ht, htrails⟩ := hclosed.perform h (fun d => Device.read d n) (fun d => Device.read d n)
      hread hpolls hresult hlater (fun r => .read n (r.map Subtype.val))
    exact ⟨bytes, s', t', hs, ht, hbytes, htrails⟩

theorem write (hclosed : Closes p p' missed) (buf : List UInt8) (hbuf : buf ≠ [])
    : Agrees (droppedIf False) (Trails s₀) (p.write buf hbuf) (p'.write buf hbuf) := by
  apply Agrees.of_ok
  intro s t h
  obtain ⟨hpolls, ⟨n, hresult⟩, hrx⟩ := Bursty.write_ok (p.device s) buf hbuf
  obtain ⟨s', t', hs, ht, htrails⟩ := hclosed.perform h (fun d => Device.write d buf hbuf)
    (fun d => Device.write d buf hbuf) rfl hpolls hresult (congrArg Bursts.later hrx)
    (fun r => .write buf (r.map Subtype.val))
  exact ⟨n, s', t', hs, ht, htrails⟩

theorem flush (hclosed : Closes p p' missed) : Agrees (droppedIf False) (Trails s₀) p.flush p'.flush := by
  apply Agrees.of_ok
  intro s t h
  obtain ⟨hpolls, hresult, hrx⟩ := Bursty.flush_ok (p.device s)
  obtain ⟨s', t', hs, ht, htrails⟩ := hclosed.perform h Device.flush Device.flush rfl hpolls hresult
    (congrArg Bursts.later hrx) .flush
  exact ⟨(), s', t', hs, ht, htrails⟩

/--
The rule for a read of a loop that fails if it is told that there is nothing to read.
-/
theorem read_dropsAt (hclosed : Closes p p' missed) (hdue : s₀.DueWithin (Bursty.silence σ)) (hpos : 0 < n)
    {k : Except ε {bytes : List UInt8 // bytes.length ≤ n} → Exec (Session S TS D SE TE) (ModbusError SE' TE') α}
    {k' : Except ε {bytes : List UInt8 // bytes.length ≤ n}
      → Exec (Session (Closing S) (Closing TS) D SE TE) (ModbusError SE' TE') α}
    (hend : ∀ h, k' (.ok ⟨[], h⟩) = Exec.fail .payloadTooShort)
    (hbytes : ∀ byte bytes h, DropsAt .payloadTooShort (Trails s₀) (missed s₀) (k (.ok ⟨byte :: bytes, h⟩))
      (k' (.ok ⟨byte :: bytes, h⟩)))
    : DropsAt .payloadTooShort (Trails s₀) (missed s₀) (Exec.result (p.read n) >>= k)
        (Exec.result (p'.read n) >>= k') := by
  intro s t h
  obtain ⟨s', t', hs, ht, hmissed⟩ | ⟨⟨bytes, hle⟩, s', t', hs, ht, hne, htrails⟩ := hclosed.read hdue h n
  . right
    refine ⟨s', t', Exec.bind_result_dropped hs, ?_, hmissed⟩
    rw [Exec.bind_result_ok ht, hend]
    rfl
  . rw [Exec.bind_result_ok hs, Exec.bind_result_ok ht]
    cases bytes with
    | nil => exact absurd rfl (hne hpos)
    | cons byte bytes => apply hbytes byte bytes hle s' t' htrails

end Closes

end Operations

section Sends

variable {s₀ : Session S TS D SE TE}

theorem note_trails (e : Event SE TE)
    : Agrees (droppedIf False) (Trails s₀) (note e : Exec _ ε Unit) (note e) := by
  apply Agrees.of_ok
  intro s t h
  exact ⟨(), _, _, rfl, rfl, h.sent e e rfl rfl⟩

theorem setTxEn_trails (high : Bool)
    : Agrees (droppedIf False) (Trails s₀) (setTxEn high : Exec _ ε Unit) (setTxEn high) := by
  apply Agrees.of_ok
  intro s t h
  exact ⟨(), _, _, rfl, rfl, { h.sent (.txEn high) (.txEn high) rfl rfl with }⟩

theorem ModbusTcp.send_trails (data : List UInt8)
    : Agrees (droppedIf False) (Trails s₀) (send data) (send data) := by
  apply send_agrees
  . intro data
    apply note_trails
  . apply writeAll_agrees
    apply tcp_closes.write

theorem ModbusRtu.send_trails (payload : List UInt8)
    : Agrees (droppedIf False) (Trails s₀) (send payload) (send payload) := by
  apply send_agrees
  . intro payload
    apply note_trails
  . apply serial_closes.flush
  . apply setTxEn_trails
  . apply writeAll_agrees
    apply serial_closes.write

end Sends

section Receives

variable {s₀ : Session S TS D SE TE} {Q : σ → τ → Prop}

omit [Device S SE] [Device TS TE] [Bursty S] [Bursty TS] in
theorem pushBytes_dropsAt {R : σ → τ → Prop} {readByte : Exec σ (ModbusError SE TE) (Vector UInt8 1)}
    {readByte' : Exec τ (ModbusError SE TE) (Vector UInt8 1)}
    (hread : DropsAt .payloadTooShort R Q readByte readByte') (n : Nat) (buf : Heapless.Vec UInt8 cap)
    : DropsAt .payloadTooShort R Q (pushBytes readByte n buf) (pushBytes readByte' n buf) := by
  induction n generalizing buf with
  | zero => apply DropsAt.pure
  | succ n ih =>
    unfold pushBytes
    apply DropsAt.bind hread
    intro byte _ _ _
    apply DropsAt.bind
    . apply DropsAt.ofOption
      simp
    intro buf _ _ _
    apply ih

omit [Device S SE] [Device TS TE] [Bursty S] [Bursty TS] in
theorem checkCrc_dropsAt {R : σ → τ → Prop} {frame : List UInt8} (hlen : 4 ≤ frame.length)
    : DropsAt (.payloadTooShort : ModbusError SE TE) R Q
        (Exec.mapErr FrameError.intoCombined (Exec.ofExcept (checkCrc frame)))
        (Exec.mapErr FrameError.intoCombined (Exec.ofExcept (checkCrc frame))) := by
  obtain hcrc | hcrc := checkCrc_of_length hlen
  . rw [hcrc]
    apply DropsAt.pure
  . rw [hcrc]
    apply DropsAt.fail
    exact nofun

namespace ModbusTcp

theorem readExact.go_dropsAt (hdue : s₀.DueWithin (Bursty.silence TS)) (len : Nat)
    (filled : List UInt8) (hfilled : filled.length ≤ len)
    : DropsAt .payloadTooShort (Trails s₀) (MissedTcp s₀) (go len filled hfilled) (go len filled hfilled) := by
  unfold go
  split
  . next hlt =>
    apply tcp_closes.read_dropsAt hdue (by omega : 0 < len - filled.length)
    . intro _
      rfl
    . intro byte bytes _
      apply go_dropsAt hdue
  . apply DropsAt.pure
termination_by len - filled.length
decreasing_by
  simp only [List.length_append, List.length_cons]
  omega

theorem listen_dropsAt (hdue : s₀.DueWithin (Bursty.silence TS))
    : DropsAt .payloadTooShort (Trails s₀) (MissedTcp s₀) listen listen := by
  unfold listen
  apply DropsAt.bind (readExact.go_dropsAt hdue 6 _ _)
  intro mbap _ _ _
  apply DropsAt.bind
  . apply DropsAt.ofOption
    exact nofun
  intro req _ _ _
  apply pushBytes_dropsAt
  apply readExact.go_dropsAt hdue

end ModbusTcp

namespace ModbusRtu

theorem readExact.go_dropsAt (hdue : s₀.DueWithin (Bursty.silence S)) (len : Nat)
    (filled : List UInt8) (hfilled : filled.length ≤ len) (attempt : Nat)
    : DropsAt .payloadTooShort (Trails s₀) (MissedSerial s₀) (go len filled hfilled attempt)
        (go len filled hfilled attempt) := by
  unfold go
  split
  . next hlt =>
    apply serial_closes.read_dropsAt hdue (by omega : 0 < len - filled.length)
    . intro _
      rfl
    . intro byte bytes _
      apply go_dropsAt hdue
  . apply DropsAt.pure
termination_by len - filled.length
decreasing_by
  simp only [List.length_append, List.length_cons]
  omega

variable (hdue : s₀.DueWithin (Bursty.silence S))

include hdue

theorem readExact_dropsAt (len : Nat)
    : DropsAt .payloadTooShort (Trails s₀) (MissedSerial s₀) (readExact len) (readExact len) := by
  apply readExact.go_dropsAt hdue

theorem listen.listenRest_dropsAt (fc : UInt8) (req : RtuFrame)
    : DropsAt .payloadTooShort (Trails s₀) (MissedSerial s₀) (listenRest fc req) (listenRest fc req) := by
  unfold listenRest
  split
  . apply DropsAt.bind (readExact_dropsAt hdue 5)
    intro fixed _ _ _
    apply DropsAt.bind
    . apply DropsAt.ofOption
      exact nofun
    intro req _ _ _
    apply pushBytes_dropsAt
    apply readExact_dropsAt hdue
  . apply DropsAt.bind (readExact_dropsAt hdue 6)
    intro rest _ _ _
    apply DropsAt.ofOption
    exact nofun

theorem listen_dropsAt : DropsAt .payloadTooShort (Trails s₀) (MissedSerial s₀) listen listen := by
  unfold listen
  apply DropsAt.bind (readExact_dropsAt hdue 2)
  intro hdr _ _ _
  apply DropsAt.bind
  . apply DropsAt.ofOption
    exact nofun
  intro req _ _ _
  apply DropsAt.bind (listen.listenRest_dropsAt hdue _ _)
  intro req _ _ hrest
  apply DropsAt.bind
  . -- A request that has been read is never too short for its CRC.
    apply checkCrc_dropsAt
    apply listen.length_ge_of_listenRest hrest
  intro _ _ _ _
  apply DropsAt.pure

theorem receive_dropsAt : DropsAt .payloadTooShort (Trails s₀) (MissedSerial s₀) receive receive := by
  unfold receive
  apply DropsAt.bind (readExact_dropsAt hdue 3)
  intro header _ _ _
  apply DropsAt.bind
  . apply DropsAt.ofOption
    exact nofun
  intro resp₀ _ _ hresp
  apply DropsAt.bind
  . apply pushBytes_dropsAt
    apply readExact_dropsAt hdue
  intro resp s s' hpush
  apply DropsAt.bind
  . apply checkCrc_dropsAt
    have hresp := (Exec.ofOption_eq_ok.mp hresp).1
    apply receive.length_ge_of_pushBytes (Exec.ofOption_eq_ok.mpr ⟨hresp, rfl⟩) hpush
  intro _ _ _ _
  apply DropsAt.pure

theorem sendAndReceive_dropsAt (req : List UInt8)
    : DropsAt .payloadTooShort (Trails s₀) (MissedSerial s₀) (sendAndReceive req) (sendAndReceive req) := by
  unfold sendAndReceive
  apply DropsAt.bind
  . apply DropsAt.of_agrees
    . apply (send_trails req).mapErr_droppedIf
    . intro s
      cases hsend : send req s with
      | ok _ s₁ =>
        rw [Exec.mapErr_ok hsend]
        exact nofun
      | error e s₁ =>
        rw [Exec.mapErr_error hsend]
        cases e with
        | failed e => simp
        | dropped => simp
  intro _ _ _ _
  apply receive_dropsAt hdue

end ModbusRtu

end Receives

end ModbusBridge
