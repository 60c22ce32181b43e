import ModbusBridge.Lemmas.FirstRead
import ModbusBridge.Lemmas.Cycle
import ModbusBridge.Spec.Mock

/-!
This module contains what the timeouts of the blocking copies cover. Each of them covers the time until the
first byte of a frame arrives. From there on the frame is read without asking the port again, so a peer that
stops in the middle of a frame is waited for without limit.
-/

namespace ModbusBridge

open Effect EmbeddedIo Session
open Exec (Within)
open ReadReady (polled ReadyAfter)

variable {S TS D SE TE : Type} [Device S SE] [Device TS TE] [ReadReady S SE] [ReadReady TS TE] [DelayNs D]

def ProperPrefix (sent frame : List UInt8) : Prop := sent <+: frame ∧ sent ≠ frame

/--
A peer of the call begins a frame that the call waits for and stays silent before the frame is over.
-/
inductive PeerStalls : Mode → Session S TS D SE TE → Prop where
  | tcpRequest (m : TcpMessage) (hpart : ProperPrefix sent m.frame) (hsent : Stalls sent s.stream)
      : PeerStalls .bridge s
  | rtuResponse (hreq : Connection.receiveRequest .syncTimed s = .ok tcpReq s₁)
      (hconv : tcpToRtu tcpReq.data = .ok (rtuReq, tid)) (hsend : ModbusRtu.send rtuReq.data s₁ = .ok () s₂)
      (r : RtuAnswer) (hpart : ProperPrefix sent r.frame) (hsent : Stalls sent s₂.serial)
      : PeerStalls .bridge s
  | rtuRequest (q : RtuQuery) (hpart : ProperPrefix sent q.frame) (hsent : Stalls sent s.serial)
      : PeerStalls .client s
  | tcpResponse (hreq : ClientSession.receiveRequest .syncTimed s = .ok rtuReq s₁)
      (hid : ModbusTcp.nextTransactionId s₁ = (.ok tid s₂ : EStateM.Result (Stop (BridgeError SE TE)) _ _))
      (hconv : rtuToTcp rtuReq.data tid = .ok tcpReq) (hsend : ModbusTcp.send tcpReq.data s₂ = .ok () s₃)
      (m : TcpMessage) (hpart : ProperPrefix sent m.frame) (hsent : Stalls sent s₃.stream)
      : PeerStalls .client s

/--
The timeouts of the blocking timed call cover whole frames: no read is issued on a port that has not been
found ready since the last one, and a peer that stops in the middle of a frame makes the call time out.
-/
structure CoversFrames (mode : Mode) (s : Session S TS D SE TE) : Prop where
  serialPolled : usesPermits Event.isSerialReady Event.isSerialRead false
    (during (mode.next .syncTimed) s) = true
  tcpPolled : usesPermits Event.isTcpReady Event.isTcpRead false (during (mode.next .syncTimed) s) = true
  timesOut : PeerStalls mode s → outcome (mode.next .syncTimed s) = .error (.failed .timeout)

/--
If the port that the call receives its request from becomes ready in time at all, the first read on it ends
the call: on the TCP stream it fails, returns nothing or returns a header that announces nothing; on the
serial port it returns nothing.
-/
def EndsAtOnce (mode : Mode) (rtuTimeoutMs tcpTimeoutMs : UInt32) (s : Session S TS D SE TE) : Prop :=
  match mode with
  | .bridge => ∀ k ≤ tcpTimeoutMs.toNat, ReadyAfter k s.stream →
    EndsRequest (answered (Device.read (polled (k + 1) s.stream) 6).result)
  | .client => ∀ k ≤ rtuTimeoutMs.toNat, ReadyAfter k s.serial →
    (Device.read (polled (k + 1) s.serial) 2).result.map Subtype.val = .ok []

variable {s : Session S TS D SE TE}

/--
A wait for a peer that stalls can only end with a timeout, unless the port becomes ready.
-/
theorem timeout_of_stalls {σ ε : Type} [Device σ ε] [ReadReady σ ε] {d : σ} (hsent : Stalls sent d)
    {ioError : ε → BridgeError SE TE} (hresult : .error e = waitResult ioError (ReadReady.pollReady n d))
    : e = .failed .timeout := by
  cases hsent.pollReady_eq n with
  | inl hnever =>
    rw [hnever] at hresult
    injection hresult
  | inr hready =>
    rw [hready] at hresult
    contradiction

/--
A call that reads nothing covers the frames if a peer that stalls makes it time out.
-/
theorem coversFrames_of_unread (hnext : mode.next .syncTimed s = .error e s₁) (hquiet : Emits kinds s s₁)
    (hserial : .serialRead ∉ kinds) (htcp : .tcpRead ∉ kinds) (hstalls : PeerStalls mode s → e = .failed .timeout)
    : CoversFrames mode s := by
  have hemits : Emits kinds s (finalState (mode.next .syncTimed s)) := by
    rw [hnext]
    exact hquiet
  constructor
  . apply polled_of_quiet readsAre_serialRead hserial hemits
  . apply polled_of_quiet readsAre_tcpRead htcp hemits
  . intro h
    rw [hnext, hstalls h]
    rfl

section Bridge

namespace Connection

variable {tcpTimeoutMs : UInt32}

theorem finalState_next (h : ∀ f s₁, receiveRequest .syncTimed s = .ok f s₁ → f.data.length < 7)
    : finalState (next .syncTimed s) = finalState (receiveRequest .syncTimed s) := by
  have hrun := next_run .syncTimed s
  generalize next .syncTimed s = r at hrun
  cases hrun with
  | requestFailed hreq | rejected hreq _ =>
    rw [hreq]
    rfl
  | exchangeFailed hreq hdata hpos _ _ | replyFailed hreq hdata hpos _ _ _ _ _
  | replied hreq hdata hpos _ _ _ _ _ =>
    have hlen := h _ _ hreq
    rw [hdata, length_tcpFrame] at hlen
    omega

theorem next_rereads (h : Rereads Event.isTcpRead s (finalState (receiveRequest .syncTimed s)))
    : Rereads Event.isTcpRead s (finalState (next .syncTimed s)) := by
  have hrest : Emits (exchangeKinds ++ ModbusTcp.sendKinds) (finalState (receiveRequest .syncTimed s))
      (finalState (next .syncTimed s)) := by
    apply next_after
    . intro rtuReq s₁
      apply (exchange_onSerial rtuReq .syncTimed _).emits.mono
      apply List.subset_append_left
    . intro data s₁
      apply (ModbusTcp.send_onTcp data _).emits.mono
      apply List.subset_append_right
  apply h.append hrest

omit [Device S SE] [ReadReady S SE] in
theorem receiveRequest_readyAfter (htcp : s.tcpTimeoutMs = some tcpTimeoutMs) (hle : k ≤ tcpTimeoutMs.toNat)
    (hready : ReadyAfter k s.stream)
    : ∃ s₁, Emits [.tcpReady, .delayMs] s s₁ ∧ Waited Session.stream (.tcp ∘ .readReady) k s s₁
        ∧ receiveRequest .syncTimed s = Exec.mapErr (listenError .syncTimed) ModbusTcp.listen s₁ := by
  obtain ⟨s₁, hwait, hwaited, hrun⟩ :=
    guarded_readyAfter BridgeError.tcpIo ModbusTcp.listen listenError pollsAs_tcp htcp hle hready
  exact ⟨s₁, (waitReadyFor_tcpEmits _ _).of_ok hwait, hwaited, hrun⟩

omit [Device S SE] [ReadReady S SE] in
theorem receiveRequest_not_ready (htcp : s.tcpTimeoutMs = some tcpTimeoutMs)
    (hnot : ∀ k ≤ tcpTimeoutMs.toNat, ¬ ReadyAfter k s.stream)
    : ∃ e s₁, receiveRequest .syncTimed s = .error e s₁ ∧ Emits [.tcpReady, .delayMs] s s₁
        ∧ .error e = waitResult BridgeError.tcpIo (ReadReady.pollReady tcpTimeoutMs.toNat s.stream) := by
  obtain ⟨e, s₁, hwait, hresult, hrun⟩ :=
    guarded_not_ready BridgeError.tcpIo ModbusTcp.listen listenError pollsAs_tcp htcp hnot
  exact ⟨e, s₁, hrun, (waitReadyFor_tcpEmits _ _).of_error hwait, hresult⟩

theorem timesOut_of_not_ready (hreq : receiveRequest .syncTimed s = .error e s₁)
    (hresult : .error e = waitResult BridgeError.tcpIo (ReadReady.pollReady n s.stream))
    (hstalls : PeerStalls .bridge s) : e = .failed .timeout := by
  cases hstalls with
  | tcpRequest m _ hsent => apply timeout_of_stalls hsent hresult
  | rtuResponse hreq' _ _ _ _ _ =>
    rw [hreq] at hreq'
    contradiction

theorem not_stalls (hready : ReadyAfter k s.stream)
    (hend : EndsRequest (answered (Device.read (polled (k + 1) s.stream) 6).result))
    (hshort : ∀ f s₁, receiveRequest .syncTimed s = .ok f s₁ → f.data.length < 7)
    : ¬ PeerStalls .bridge s := by
  intro hstalls
  cases hstalls with
  | tcpRequest m hpart hsent =>
    obtain ⟨hne, hstart⟩ := hsent.answered_of_readyAfter hready (by decide : 0 < 6)
    obtain hnil | ⟨hlen, hzero⟩ := hend
    . contradiction
    . obtain ⟨rest, hrest⟩ := hstart.trans hpart.1
      have hheader := List.append_inj_left hrest (hlen.trans (length_mbap _ _ _).symm)
      have hpos := m.pos
      have hmax := m.max
      have hfield :=
        lengthField_mbap_append m.transactionId m.protocolId (by omega : m.body.length < 65536) []
      rw [List.append_nil, ← hheader, hzero] at hfield
      omega
  | rtuResponse hreq hconv _ _ _ _ =>
    have hlen := hshort _ _ hreq
    unfold tcpToRtu at hconv
    rw [dif_pos hlen] at hconv
    contradiction

theorem coversFrames_of_not_ready (htcp : s.tcpTimeoutMs = some tcpTimeoutMs)
    (hnot : ∀ k ≤ tcpTimeoutMs.toNat, ¬ ReadyAfter k s.stream) : CoversFrames .bridge s := by
  obtain ⟨e, s₁, hreq, hwait, hresult⟩ := receiveRequest_not_ready htcp hnot
  apply coversFrames_of_unread (Exec.bind_error hreq) hwait (by decide) (by decide)
  apply timesOut_of_not_ready hreq hresult

theorem coversFrames_of_ends (htcp : s.tcpTimeoutMs = some tcpTimeoutMs) (hidle : s.deadline = none)
    (hle : k ≤ tcpTimeoutMs.toNat) (hready : ReadyAfter k s.stream)
    (hend : EndsRequest (answered (Device.read (polled (k + 1) s.stream) 6).result))
    : CoversFrames .bridge s := by
  obtain ⟨s₁, hwait, hwaited, hrun⟩ := receiveRequest_readyAfter htcp hle hready
  obtain ⟨r, htrace, hshort⟩ :=
    ModbusTcp.listen_stops (hwaited.idle hidle) rfl (by rw [hwaited.port_eq]; exact hend)
  have hreq (f : TcpFrame) (s₂ : Session S TS D SE TE) (h : receiveRequest .syncTimed s = .ok f s₂)
      : f.data.length < 7 := by
    rw [hrun, Exec.mapErr_eq_ok] at h
    rw [hshort f s₂ h]
    decide
  have hfinal : finalState (next .syncTimed s) = finalState (ModbusTcp.listen s₁) := by
    rw [finalState_next hreq, hrun, Exec.finalState_mapErr]
  rw [← hfinal] at htrace
  have hemits : Emits [.tcpReady, .delayMs, .tcpRead] s (finalState (next .syncTimed s)) := by
    apply (hwait.mono _).trans (Emits.single htrace _)
    . decide
    . show Event.Kind.tcpRead ∈ _
      decide
  constructor
  . apply polled_of_quiet readsAre_serialRead (by decide) hemits
  . apply polled_of_read readsAre_tcpRead (by decide) hwait _ htrace
    obtain ⟨t, ht, hmem⟩ := hwaited.asked
    exact ⟨t, ht, _, hmem, rfl⟩
  . intro hstalls
    exact absurd hstalls (not_stalls hready hend hreq)

theorem endsRequest_of_coversFrames (htcp : s.tcpTimeoutMs = some tcpTimeoutMs) (hidle : s.deadline = none)
    (hcovers : CoversFrames .bridge s) (hle : k ≤ tcpTimeoutMs.toNat) (hready : ReadyAfter k s.stream)
    : EndsRequest (answered (Device.read (polled (k + 1) s.stream) 6).result) := by
  apply Classical.byContradiction
  intro hmore
  obtain ⟨s₁, hwait, hwaited, hrun⟩ := receiveRequest_readyAfter htcp hle hready
  rw [← hwaited.port_eq] at hmore
  have hrereads := ModbusTcp.listen_rereads (hwaited.idle hidle) rfl hmore
  rw [← Exec.finalState_mapErr, ← hrun] at hrereads
  exact (next_rereads (hrereads.prepend hwait)).not_polled hcovers.tcpPolled

end Connection

end Bridge

section Client

namespace ClientSession

variable {rtuTimeoutMs : UInt32}

theorem next_rereads (h : Rereads Event.isSerialRead s (finalState (receiveRequest .syncTimed s)))
    : Rereads Event.isSerialRead s (finalState (next .syncTimed s)) := by
  have hrest : Emits (ModbusTcp.sendKinds ++ tcpReceiveKinds ++ ModbusRtu.sendKinds)
      (finalState (receiveRequest .syncTimed s)) (finalState (next .syncTimed s)) := by
    apply next_after
    . intro s₁
      exact ⟨[], (List.append_nil _).symm, by simp⟩
    . intro data s₁
      apply (ModbusTcp.send_onTcp data _).emits.mono
      decide
    . intro s₁
      apply (receiveResponse_onTcp .syncTimed _).emits.mono
      decide
    . intro payload s₁
      apply (ModbusRtu.send_onSerial (List.Subset.refl _) payload _).emits.mono
      apply List.subset_append_right
  apply h.append hrest

omit [Device TS TE] [ReadReady TS TE] in
theorem receiveRequest_readyAfter (hrtu : s.rtuTimeoutMs = some rtuTimeoutMs) (hle : k ≤ rtuTimeoutMs.toNat)
    (hready : ReadyAfter k s.serial)
    : ∃ s₁, Emits [.serialReady, .delayMs] s s₁ ∧ Waited Session.serial (.serial ∘ .readReady) k s s₁
        ∧ receiveRequest .syncTimed s = Exec.mapErr (requestError .syncTimed) ModbusRtu.listen s₁ := by
  obtain ⟨s₁, hwait, hwaited, hrun⟩ :=
    guarded_readyAfter BridgeError.rtuIo ModbusRtu.listen requestError pollsAs_serial hrtu hle hready
  exact ⟨s₁, (waitReadyFor_serialEmits _ _).of_ok hwait, hwaited, hrun⟩

omit [Device TS TE] [ReadReady TS TE] in
theorem receiveRequest_not_ready (hrtu : s.rtuTimeoutMs = some rtuTimeoutMs)
    (hnot : ∀ k ≤ rtuTimeoutMs.toNat, ¬ ReadyAfter k s.serial)
    : ∃ e s₁, receiveRequest .syncTimed s = .error e s₁ ∧ Emits [.serialReady, .delayMs] s s₁
        ∧ .error e = waitResult BridgeError.rtuIo (ReadReady.pollReady rtuTimeoutMs.toNat s.serial) := by
  obtain ⟨e, s₁, hwait, hresult, hrun⟩ :=
    guarded_not_ready BridgeError.rtuIo ModbusRtu.listen requestError pollsAs_serial hrtu hnot
  exact ⟨e, s₁, hrun, (waitReadyFor_serialEmits _ _).of_error hwait, hresult⟩

theorem timesOut_of_not_ready (hreq : receiveRequest .syncTimed s = .error e s₁)
    (hresult : .error e = waitResult BridgeError.rtuIo (ReadReady.pollReady n s.serial))
    (hstalls : PeerStalls .client s) : e = .failed .timeout := by
  cases hstalls with
  | rtuRequest q _ hsent => apply timeout_of_stalls hsent hresult
  | tcpResponse hreq' _ _ _ _ _ _ =>
    rw [hreq] at hreq'
    contradiction

theorem not_stalls (hready : ReadyAfter k s.serial)
    (hgot : (Device.read (polled (k + 1) s.serial) 2).result.map Subtype.val = .ok [])
    (hreq : receiveRequest .syncTimed s = .error e s₁) : ¬ PeerStalls .client s := by
  intro hstalls
  cases hstalls with
  | rtuRequest q _ hsent =>
    obtain ⟨hne, _⟩ := hsent.answered_of_readyAfter hready (by decide : 0 < 2)
    apply hne
    generalize (Device.read (polled (k + 1) s.serial) 2).result = r at hgot
    obtain e | bytes := r
    . contradiction
    . injection hgot
  | tcpResponse hreq' _ _ _ _ _ _ =>
    rw [hreq] at hreq'
    contradiction

theorem coversFrames_of_not_ready (hrtu : s.rtuTimeoutMs = some rtuTimeoutMs)
    (hnot : ∀ k ≤ rtuTimeoutMs.toNat, ¬ ReadyAfter k s.serial) : CoversFrames .client s := by
  obtain ⟨e, s₁, hreq, hwait, hresult⟩ := receiveRequest_not_ready hrtu hnot
  apply coversFrames_of_unread (Exec.bind_error hreq) hwait (by decide) (by decide)
  apply timesOut_of_not_ready hreq hresult

theorem coversFrames_of_ends (hrtu : s.rtuTimeoutMs = some rtuTimeoutMs) (hidle : s.deadline = none)
    (hle : k ≤ rtuTimeoutMs.toNat) (hready : ReadyAfter k s.serial)
    (hgot : (Device.read (polled (k + 1) s.serial) 2).result.map Subtype.val = .ok [])
    : CoversFrames .client s := by
  obtain ⟨s₁, hwait, hwaited, hrun⟩ := receiveRequest_readyAfter hrtu hle hready
  obtain ⟨e, s₂, r, hlisten, htrace⟩ :=
    ModbusRtu.listen_stops (hwaited.idle hidle) (by rw [hwaited.port_eq]; exact hgot)
  rw [Exec.mapErr_error hlisten] at hrun
  have hfinal : finalState (next .syncTimed s) = s₂ := congrArg finalState (Exec.bind_error hrun)
  rw [← hfinal] at htrace
  have hemits : Emits [.serialReady, .delayMs, .serialRead] s (finalState (next .syncTimed s)) := by
    apply (hwait.mono _).trans (Emits.single htrace _)
    . decide
    . show Event.Kind.serialRead ∈ _
      decide
  constructor
  . apply polled_of_read readsAre_serialRead (by decide) hwait _ htrace
    obtain ⟨t, ht, hmem⟩ := hwaited.asked
    exact ⟨t, ht, _, hmem, rfl⟩
  . apply polled_of_quiet readsAre_tcpRead (by decide) hemits
  . intro hstalls
    exact absurd hstalls (not_stalls hready hgot hrun)

theorem endsRequest_of_coversFrames (hrtu : s.rtuTimeoutMs = some rtuTimeoutMs) (hidle : s.deadline = none)
    (hcovers : CoversFrames .client s) (hle : k ≤ rtuTimeoutMs.toNat) (hready : ReadyAfter k s.serial)
    : (Device.read (polled (k + 1) s.serial) 2).result.map Subtype.val = .ok [] := by
  apply Classical.byContradiction
  intro hmore
  obtain ⟨s₁, hwait, hwaited, hrun⟩ := receiveRequest_readyAfter hrtu hle hready
  rw [← hwaited.port_eq] at hmore
  have hrereads := ModbusRtu.listen_rereads (hwaited.idle hidle) hmore
  rw [← Exec.finalState_mapErr, ← hrun] at hrereads
  exact (next_rereads (hrereads.prepend hwait)).not_polled hcovers.serialPolled

end ClientSession

end Client

/--
The timeouts cover the frames of exactly those calls that get no further than their first read.
-/
theorem coversFrames_iff (mode : Mode) (rtuTimeoutMs tcpTimeoutMs : UInt32) (s : Session S TS D SE TE)
    (hrtu : s.rtuTimeoutMs = some rtuTimeoutMs) (htcp : s.tcpTimeoutMs = some tcpTimeoutMs)
    (hidle : s.deadline = none) : CoversFrames mode s ↔ EndsAtOnce mode rtuTimeoutMs tcpTimeoutMs s := by
  cases mode with
  | bridge =>
    constructor
    . intro hcovers k hle hready
      apply Connection.endsRequest_of_coversFrames htcp hidle hcovers hle hready
    . intro hend
      by_cases hready : ∃ k ≤ tcpTimeoutMs.toNat, ReadyAfter k s.stream
      . obtain ⟨k, hle, hready⟩ := hready
        apply Connection.coversFrames_of_ends htcp hidle hle hready (hend k hle hready)
      . apply Connection.coversFrames_of_not_ready htcp
        intro k hle hk
        exact hready ⟨k, hle, hk⟩
  | client =>
    constructor
    . intro hcovers k hle hready
      apply ClientSession.endsRequest_of_coversFrames hrtu hidle hcovers hle hready
    . intro hend
      by_cases hready : ∃ k ≤ rtuTimeoutMs.toNat, ReadyAfter k s.serial
      . obtain ⟨k, hle, hready⟩ := hready
        apply ClientSession.coversFrames_of_ends hrtu hidle hle hready (hend k hle hready)
      . apply ClientSession.coversFrames_of_not_ready hrtu
        intro k hle hk
        exact hready ⟨k, hle, hk⟩

theorem coversFrames_silent : CoversFrames .client (timedSession [] []) := by
  apply (coversFrames_iff .client 100 100 _ rfl rfl rfl).mpr
  intro k _ hready
  exact absurd hready ((MockStream.silent rfl).not_readyAfter k)

/--
The TCP client stops two bytes into the body of its request.
-/
def stalledSession : Session MockStream MockStream MockDelay Empty Empty :=
  timedSession [] ((tcpFrame 1 0 readRequest).take 8)

theorem stalledSession_stalls : PeerStalls .bridge stalledSession := by
  have hpart : ProperPrefix ((tcpFrame 1 0 readRequest).take 8) (tcpFrame 1 0 readRequest) :=
    ⟨List.take_prefix _ _, by decide⟩
  exact .tcpRequest ⟨1, 0, readRequest, by decide, by decide⟩ hpart (MockStream.stalls stalledSession.stream)

theorem coversFrames_fails : PeerStalls .bridge stalledSession ∧ ¬ CoversFrames .bridge stalledSession := by
  refine ⟨stalledSession_stalls, ?_⟩
  intro h
  have hpolled := h.tcpPolled
  revert hpolled
  decide +kernel

end ModbusBridge
