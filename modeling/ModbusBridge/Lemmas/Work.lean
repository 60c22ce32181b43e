import ModbusBridge.Effect.Cost
import ModbusBridge.Lemmas.ClientSession
import ModbusBridge.Lemmas.Connection
import ModbusBridge.Spec.Work

/-!
This module contains how much work the two transports do at most, on arbitrary devices. Every kind of event has a
weight of its own, so that one bound serves for all of them.
-/

namespace ModbusBridge

open Effect EmbeddedIo Session
open Exec (Costs)

variable {S TS D SE TE : Type} (w : Event.Kind → Nat)

def Session.work (s : Session S TS D SE TE) : Nat := Trace.work w s.trace

namespace Session

theorem work_eq {s s' : Session S TS D SE TE} (h : s'.trace = s.trace ++ t)
    : work w s' = work w s + Trace.work w t := by
  unfold work Trace.work
  rw [h, List.map_append, List.sum_append]

/--
A program that does one thing.
-/
theorem costs_single {x : Exec (Session S TS D SE TE) ε α}
    (h : ∀ s, ∃ e, (finalState (x s)).trace = s.trace ++ [e] ∧ e.kind = k) : Costs (work w) (w k) x := by
  intro s
  obtain ⟨e, htrace, hkind⟩ := h s
  rw [work_eq w htrace, ← hkind]
  apply Nat.le_refl

section Operations

theorem serialRead_costs [Device S SE] (n : Nat)
    : Costs (work w) (w .serialRead) (serialRead n : Exec (Session S TS D SE TE) SE _) :=
  costs_single w fun s => ⟨_, trace_serialRead n s, rfl⟩

theorem serialWrite_costs [Device S SE] (buf : List UInt8) (h : buf ≠ [])
    : Costs (work w) (w .serialWrite) (serialWrite buf h : Exec (Session S TS D SE TE) SE _) :=
  costs_single w fun s => ⟨_, trace_serialWrite buf h s, rfl⟩

theorem serialFlush_costs [Device S SE]
    : Costs (work w) (w .serialFlush) (serialFlush : Exec (Session S TS D SE TE) SE _) :=
  costs_single w fun s => ⟨_, trace_serialFlush s, rfl⟩

theorem tcpRead_costs [Device TS TE] (n : Nat)
    : Costs (work w) (w .tcpRead) (tcpRead n : Exec (Session S TS D SE TE) TE _) :=
  costs_single w fun s => ⟨_, trace_tcpRead n s, rfl⟩

theorem tcpWrite_costs [Device TS TE] (buf : List UInt8) (h : buf ≠ [])
    : Costs (work w) (w .tcpWrite) (tcpWrite buf h : Exec (Session S TS D SE TE) TE _) :=
  costs_single w fun s => ⟨_, trace_tcpWrite buf h s, rfl⟩

theorem note_costs (e : Event SE TE) : Costs (work w) (w e.kind) (note e : Exec (Session S TS D SE TE) ε Unit) :=
  costs_single w fun _ => ⟨e, rfl, rfl⟩

theorem setTxEn_costs (high : Bool)
    : Costs (work w) (w .txEn) (setTxEn high : Exec (Session S TS D SE TE) ε Unit) :=
  costs_single w fun _ => ⟨_, rfl, rfl⟩

theorem delayMs_costs [DelayNs D] (ms : UInt32)
    : Costs (work w) (w .delayMs) (delayMs ms : Exec (Session S TS D SE TE) ε Unit) :=
  costs_single w fun _ => ⟨_, rfl, rfl⟩

theorem serialReadReady_costs [ReadReady S SE]
    : Costs (work w) (w .serialReady) (serialReadReady : Exec (Session S TS D SE TE) SE Bool) :=
  costs_single w fun s => ⟨_, serialPort.trace_readReady s, rfl⟩

theorem tcpReadReady_costs [ReadReady TS TE]
    : Costs (work w) (w .tcpReady) (tcpReadReady : Exec (Session S TS D SE TE) TE Bool) :=
  costs_single w fun s => ⟨_, tcpPort.trace_readReady s, rfl⟩

end Operations

end Session

theorem pushBytes_costs {m : σ → Nat} {readByte : Exec σ (ModbusError SE TE) (Vector UInt8 1)}
    (h : Costs m c readByte) (n : Nat) (buf : Heapless.Vec UInt8 cap)
    : Costs m (min n (cap - buf.data.length + 1) * c) (pushBytes readByte n buf) := by
  induction n generalizing buf with
  | zero => apply Costs.pure
  | succ n ih =>
    unfold pushBytes
    apply h.step (by omega)
    intro byte
    cases hpush : buf.push (byte.get 0) with
    | none => exact Costs.fail (ModbusError.push : ModbusError SE TE)
    | some buf' =>
      have hfits := buf'.length_le
      have hlen := congrArg List.length (Heapless.Vec.extendFromSlice_eq_some hpush)
      rw [List.length_append, List.length_singleton] at hlen
      apply (ih buf').mono_mul
      omega

theorem writeAll_costs {m : σ → Nat}
    {write : (buf : List UInt8) → buf ≠ [] → Exec σ ε {n : Nat // 0 < n ∧ n ≤ buf.length}}
    (h : ∀ buf hbuf, Costs m c (write buf hbuf)) (data : List UInt8)
    : Costs m (data.length * c) (writeAll write data) := by
  unfold writeAll
  split
  . apply Costs.pure
  . next hne =>
    apply (h data hne).step (List.length_pos_iff.mpr hne)
    intro n
    have hn := n.property
    apply (writeAll_costs h (data.drop n.val)).mono_mul
    rw [List.length_drop]
    omega
termination_by data.length
decreasing_by
  have := n.property
  simp only [List.length_drop]
  omega

namespace ModbusTcp

variable [Device TS TE]

theorem readExact.go_costs (filled : List UInt8) (hfilled : filled.length ≤ len)
    : Costs (work w) ((len - filled.length) * w .tcpRead)
        (go len filled hfilled : Exec (Session S TS D SE TE) _ _) := by
  unfold go
  split
  . next hlt =>
    apply (tcpRead_costs w _).result.step (by omega)
    intro r
    split
    . apply Costs.fail
    . apply (go_costs _ _).mono_mul
      simp only [List.length_append, List.length_cons]
      omega
    . apply Costs.fail
  . apply Costs.pure
termination_by len - filled.length
decreasing_by
  simp only [List.length_append, List.length_cons]
  omega

theorem readExact_costs (len : Nat)
    : Costs (work w) (len * w .tcpRead)
        (readExact len : Exec (Session S TS D SE TE) (ModbusError Empty TE) (Vector UInt8 len)) :=
  readExact.go_costs w [] (Nat.zero_le len)

theorem readByte_costs
    : Costs (work w) (w .tcpRead)
        (readExact 1 : Exec (Session S TS D SE TE) (ModbusError Empty TE) (Vector UInt8 1)) :=
  (readExact_costs w 1).mono (by omega)

theorem listen_costs
    : Costs (work w) (262 * w .tcpRead)
        (listen : Exec (Session S TS D SE TE) (ModbusError Empty TE) TcpFrame) := by
  unfold listen
  rw [show 262 * w .tcpRead = 6 * w .tcpRead + 256 * w .tcpRead by omega]
  apply (readExact_costs w 6).bind
  intro mbap
  cases hreq : (Heapless.Vec.empty : TcpFrame).extendFromSlice mbap.toList with
  | none => exact Costs.fail (ModbusError.push : ModbusError Empty TE)
  | some req =>
    have hlen := congrArg List.length (Heapless.Vec.extendFromSlice_eq_some hreq)
    simp only [Heapless.Vec.data_empty, List.nil_append, Vector.length_toList] at hlen
    apply (pushBytes_costs (readByte_costs w) _ req).mono_mul
    simp only [tcpBuf]
    omega

theorem writeAll_costs (data : List UInt8)
    : Costs (work w) (data.length * w .tcpWrite) (writeAll data : Exec (Session S TS D SE TE) TE Unit) :=
  ModbusBridge.writeAll_costs (tcpWrite_costs w) data

theorem send_costs (data : List UInt8)
    : Costs (work w) (w .tcpSend + data.length * w .tcpWrite)
        (send data : Exec (Session S TS D SE TE) TE Unit) := by
  unfold send
  apply (note_costs w (.tcpSend data)).bind
  intro _
  apply writeAll_costs

end ModbusTcp

namespace ModbusRtu

variable [Device S SE]

theorem readExact.go_costs (filled : List UInt8) (hfilled : filled.length ≤ len) (attempt : Nat)
    : Costs (work w) ((len - filled.length + (11 - attempt)) * w .serialRead)
        (go len filled hfilled attempt : Exec (Session S TS D SE TE) _ _) := by
  unfold go
  split
  . next hlt =>
    apply (serialRead_costs w _).result.step (by omega)
    intro r
    split
    . apply Costs.fail
    . apply (go_costs _ _ attempt).mono_mul
      simp only [List.length_append, List.length_cons]
      omega
    . split
      . apply Costs.fail
      . apply (go_costs filled hfilled (attempt + 1)).mono_mul
        omega
  . apply Costs.pure
termination_by (len - filled.length) + (11 - attempt)
decreasing_by
  . simp only [List.length_append, List.length_cons]
    omega
  . omega

theorem readExact_costs (len : Nat)
    : Costs (work w) ((len + 10) * w .serialRead)
        (readExact len : Exec (Session S TS D SE TE) (ModbusError SE Empty) (Vector UInt8 len)) :=
  readExact.go_costs w [] (Nat.zero_le len) 1

theorem readByte_costs
    : Costs (work w) (11 * w .serialRead)
        (readExact 1 : Exec (Session S TS D SE TE) (ModbusError SE Empty) (Vector UInt8 1)) :=
  readExact_costs w 1

theorem listen.listenRest_costs (fc : UInt8) {req : RtuFrame} (hreq : req.data.length = 2)
    : Costs (work w) (2754 * w .serialRead)
        (listenRest fc req : Exec (Session S TS D SE TE) (ModbusError SE Empty) RtuFrame) := by
  unfold listenRest
  split
  . rw [show 2754 * w .serialRead = (5 + 10) * w .serialRead + 249 * (11 * w .serialRead) by omega]
    apply (readExact_costs w 5).bind
    intro fixed
    cases hext : req.extendFromSlice fixed.toList with
    | none => exact Costs.fail (ModbusError.push : ModbusError SE Empty)
    | some req' =>
      have hlen := congrArg List.length (Heapless.Vec.extendFromSlice_eq_some hext)
      rw [List.length_append, Vector.length_toList, hreq] at hlen
      apply (pushBytes_costs (readByte_costs w) _ req').mono_mul
      simp only [rtuBuf]
      omega
  . apply Costs.mono_mul (k := 6 + 10) _ (by decide)
    apply (readExact_costs w 6).bind_free
    intro rest
    apply Costs.ofOption

theorem listen_costs
    : Costs (work w) (2766 * w .serialRead)
        (listen : Exec (Session S TS D SE TE) (ModbusError SE Empty) RtuFrame) := by
  unfold listen
  rw [show 2766 * w .serialRead = (2 + 10) * w .serialRead + 2754 * w .serialRead by omega]
  apply (readExact_costs w 2).bind
  intro hdr
  cases hext : (Heapless.Vec.empty : RtuFrame).extendFromSlice hdr.toList with
  | none => exact Costs.fail (ModbusError.push : ModbusError SE Empty)
  | some req =>
    have hlen := congrArg List.length (Heapless.Vec.extendFromSlice_eq_some hext)
    simp only [Heapless.Vec.data_empty, List.nil_append, Vector.length_toList] at hlen
    apply (listen.listenRest_costs w _ hlen).bind_free
    intro req
    apply (Costs.ofExcept (checkCrc req.data)).mapErr.bind_free
    intro _
    apply Costs.pure

theorem receive_costs
    : Costs (work w) (2840 * w .serialRead)
        (receive : Exec (Session S TS D SE TE) (ModbusError SE Empty) RtuResponse) := by
  unfold receive
  rw [show 2840 * w .serialRead = (3 + 10) * w .serialRead + 257 * (11 * w .serialRead) by omega]
  apply (readExact_costs w 3).bind
  intro header
  apply Costs.free_bind
  . apply Costs.ofOption
  intro resp
  apply Costs.bind_free
  . apply (pushBytes_costs (readByte_costs w) _ resp).mono_mul
    have hbounds := rtuResponseRemaining_bounds header
    omega
  intro resp
  apply (Costs.ofExcept (checkCrc resp.data)).mapErr.bind_free
  intro _
  apply Costs.pure

theorem writeAll_costs (data : List UInt8)
    : Costs (work w) (data.length * w .serialWrite) (writeAll data : Exec (Session S TS D SE TE) SE Unit) :=
  ModbusBridge.writeAll_costs (serialWrite_costs w) data

theorem sendWork_mono (h : n ≤ k) : sendWork w n ≤ sendWork w k := by
  have := Nat.mul_le_mul_right (w .serialWrite) h
  unfold sendWork
  omega

theorem send_costs (payload : List UInt8)
    : Costs (work w) (sendWork w payload.length) (send payload : Exec (Session S TS D SE TE) SE Unit) := by
  have hsplit : sendWork w payload.length = w .rtuSend + (w .serialFlush + (w .txEn
      + (payload.length * w .serialWrite + (w .serialFlush + w .txEn)))) := by
    unfold sendWork
    omega
  unfold send flush
  rw [hsplit]
  apply (note_costs w (.rtuSend payload)).bind
  intro _
  apply (serialFlush_costs w).bind
  intro _
  apply (setTxEn_costs w true).bind
  intro _
  apply (writeAll_costs w payload).bind
  intro _
  apply (serialFlush_costs w).bind
  intro _
  apply setTxEn_costs w false

theorem sendAndReceive_costs (req : List UInt8)
    : Costs (work w) (sendWork w req.length + 2840 * w .serialRead)
        (sendAndReceive req : Exec (Session S TS D SE TE) (ModbusError SE Empty) RtuResponse) := by
  unfold sendAndReceive
  apply (send_costs w req).mapErr.bind
  intro _
  apply receive_costs

end ModbusRtu

section Guarded

variable [DelayNs D]

theorem waitReady.go_costs {readReady : Exec (Session S TS D SE TE) ε Bool}
    (hready : Costs (work w) (w ready) readReady) (ioError : ε → BridgeError SE TE) (timeoutMs elapsed : UInt32)
    : Costs (work w) ((timeoutMs.toNat - elapsed.toNat) * (w ready + w .delayMs) + w ready)
        (go readReady ioError timeoutMs elapsed) := by
  unfold go
  rw [Nat.add_comm]
  apply hready.result.bind
  intro r
  split
  . apply Costs.pure
  . split
    . apply Costs.fail
    . next hlt =>
      have hlt : elapsed < timeoutMs := UInt32.not_le.mp hlt
      have hnat : elapsed.toNat < timeoutMs.toNat := UInt32.lt_iff_toNat_lt.mp hlt
      obtain ⟨n, hn⟩ : ∃ n, timeoutMs.toNat - elapsed.toNat = n + 1 := ⟨_, (Nat.succ_pred (by omega)).symm⟩
      have hrest := go_costs hready ioError timeoutMs (saturatingAdd elapsed 1)
      rw [toNat_saturatingAdd_one hlt, show timeoutMs.toNat - (elapsed.toNat + 1) = n by omega] at hrest
      rw [hn, Nat.succ_mul]
      apply ((delayMs_costs w 1).bind fun _ => hrest).mono
      omega
  . apply Costs.fail
termination_by timeoutMs.toNat - elapsed.toNat
decreasing_by
  rw [toNat_saturatingAdd_one hlt]
  omega

theorem waitReadyFor_costs {readReady : Exec (Session S TS D SE TE) ε Bool}
    (hready : Costs (work w) (w ready) readReady) (ioError : ε → BridgeError SE TE) (timeoutMs : Option UInt32)
    : Costs (work w) (pollWork w ready timeoutMs) (waitReadyFor readReady ioError timeoutMs) := by
  unfold waitReadyFor pollWork
  split
  . next timeoutMs => exact waitReady.go_costs w hready ioError timeoutMs 0
  . apply Costs.pure

theorem select_costs {fut : Exec (Session S TS D SE TE) ε α} (hfut : Costs (work w) n fut) (ms : UInt32)
    : Costs (work w) n (select fut ms : Exec (Session S TS D SE TE) δ (Option (Except ε α))) := by
  intro s
  have hfut := hfut { s with delay := (DelayNs.delayMs s.delay ms).2, deadline := some (DelayNs.delayMs s.delay ms).1 }
  unfold select
  dsimp only
  split
  . next hrun =>
    rw [hrun] at hfut
    exact hfut
  . next hrun =>
    rw [hrun] at hfut
    exact hfut
  . next hrun =>
    rw [hrun] at hfut
    exact hfut

theorem selectFor_costs {fut : Exec (Session S TS D SE TE) ε α} (hfut : Costs (work w) n fut)
    (toError : ε → BridgeError SE TE) (timeoutMs : Option UInt32)
    : Costs (work w) n (selectFor fut toError timeoutMs) := by
  unfold selectFor
  split
  . apply (select_costs w hfut _).bind_free
    intro r
    split
    . apply Costs.ofExcept
    . apply Costs.fail
  . apply hfut.mapErr

theorem guarded_costs {readReady : Exec (Session S TS D SE TE) ε' Bool} (hready : Costs (work w) (w ready) readReady)
    (ioError : ε' → BridgeError SE TE) (timeoutMs : Session S TS D SE TE → Option UInt32)
    {fut : Exec (Session S TS D SE TE) ε α} (hfut : Costs (work w) n fut) (toError : Flavour → ε → BridgeError SE TE)
    (flavour : Flavour) (s : Session S TS D SE TE)
    : work w (finalState (guarded readReady ioError timeoutMs fut toError flavour s))
        ≤ work w s + (pollWork w ready (flavour.polls (timeoutMs s)) + n) := by
  cases flavour with
  | sync | async =>
    have := hfut s
    show work w (finalState (Exec.mapErr _ fut s)) ≤ _
    rw [Exec.finalState_mapErr]
    omega
  | syncTimed =>
    apply (waitReadyFor_costs w hready ioError (timeoutMs s)).bind
    intro _
    apply hfut.mapErr
  | asyncTimed =>
    have := selectFor_costs w hfut (toError .asyncTimed) (timeoutMs s) s
    show work w (finalState (selectFor fut (toError .asyncTimed) (timeoutMs s) s)) ≤ _
    omega

end Guarded

namespace Session

/--
Between `s` and `s'` at most `n` has been spent. The timeouts are those of the owner.
-/
structure Spends (n : Nat) (s s' : Session S TS D SE TE) : Prop where
  work_le : work w s' ≤ work w s + n
  rtuTimeoutMs_eq : s'.rtuTimeoutMs = s.rtuTimeoutMs
  tcpTimeoutMs_eq : s'.tcpTimeoutMs = s.tcpTimeoutMs

namespace Spends

variable {w} {s s₁ s' : Session S TS D SE TE}

theorem trans (h₁ : Spends w n s s₁) (h₂ : Spends w k s₁ s') : Spends w (n + k) s s' where
  work_le := by
    have := h₁.work_le
    have := h₂.work_le
    omega
  rtuTimeoutMs_eq := h₂.rtuTimeoutMs_eq.trans h₁.rtuTimeoutMs_eq
  tcpTimeoutMs_eq := h₂.tcpTimeoutMs_eq.trans h₁.tcpTimeoutMs_eq

theorem mono (h : Spends w n s s') (hle : n ≤ n') : Spends w n' s s' where
  work_le := by
    have := h.work_le
    omega
  rtuTimeoutMs_eq := h.rtuTimeoutMs_eq
  tcpTimeoutMs_eq := h.tcpTimeoutMs_eq

theorem of_onTcp (h : OnTcp kinds s s') (hwork : work w s' ≤ work w s + n) : Spends w n s s' :=
  ⟨hwork, h.rtuTimeoutMs_eq, h.tcpTimeoutMs_eq⟩

theorem of_onSerial (h : OnSerial kinds s s') (hwork : work w s' ≤ work w s + n) : Spends w n s s' :=
  ⟨hwork, h.rtuTimeoutMs_eq, h.tcpTimeoutMs_eq⟩

end Spends

section Transports

theorem tcpSend_spends [Device TS TE] (data : List UInt8) (s : Session S TS D SE TE)
    : Spends w (w .tcpSend + data.length * w .tcpWrite) s (finalState (ModbusTcp.send data s)) :=
  .of_onTcp (ModbusTcp.send_onTcp data s) (ModbusTcp.send_costs w data s)

theorem rtuSend_spends [Device S SE] (payload : List UInt8) (s : Session S TS D SE TE)
    : Spends w (ModbusRtu.sendWork w payload.length) s (finalState (ModbusRtu.send payload s)) :=
  .of_onSerial (ModbusRtu.send_onSerial (List.Subset.refl _) payload s) (ModbusRtu.send_costs w payload s)

end Transports

end Session

namespace Connection

variable [Device S SE] [Device TS TE] [ReadReady S SE] [ReadReady TS TE] [DelayNs D]

omit [Device S SE] [ReadReady S SE] in
theorem receiveRequest_spends (flavour : Flavour) (s : Session S TS D SE TE)
    : Spends w (pollWork w .tcpReady (flavour.polls s.tcpTimeoutMs) + 262 * w .tcpRead) s
        (finalState (receiveRequest flavour s)) :=
  .of_onTcp (receiveRequest_onTcp flavour s)
    (guarded_costs w (tcpReadReady_costs w) .tcpIo Session.tcpTimeoutMs (ModbusTcp.listen_costs w) listenError flavour
      s)

omit [Device TS TE] [ReadReady TS TE] in
theorem exchange_spends (rtuReq : List UInt8) (flavour : Flavour) (s : Session S TS D SE TE)
    : Spends w (pollWork w .serialReady (flavour.polls s.rtuTimeoutMs)
          + (ModbusRtu.sendWork w rtuReq.length + 2840 * w .serialRead)) s
        (finalState (exchange rtuReq flavour s : EStateM.Result (Stop (BridgeError SE TE)) _ _)) :=
  .of_onSerial (exchange_onSerial rtuReq flavour s)
    (guarded_costs w (serialReadReady_costs w) .rtuIo Session.rtuTimeoutMs (ModbusRtu.sendAndReceive_costs w rtuReq)
      exchangeError flavour s)

omit [Device S SE] [ReadReady S SE] [ReadReady TS TE] [DelayNs D] in
theorem reply_spends {s s' : Session S TS D SE TE} (hlen : rbody.length + 2 = responseLength (rtuFrame rbody))
    (hsend : finalState (ModbusTcp.send (tcpFrame tid 0 rbody) s) = s')
    : Spends w (w .tcpSend + 264 * w .tcpWrite) s s' := by
  have hbounds := responseLength_bounds (rtuFrame rbody)
  have hframe : (tcpFrame tid 0 rbody).length * w .tcpWrite ≤ 264 * w .tcpWrite := by
    apply Nat.mul_le_mul_right
    rw [length_tcpFrame]
    omega
  rw [← hsend]
  apply (tcpSend_spends w (tcpFrame tid 0 rbody) s).mono
  omega

/--
The exchange of a request that has been received, with the timeout that was set when the call began.
-/
theorem exchange_spends_after {s s₁ : Session S TS D SE TE} (hreq : receiveRequest flavour s = .ok tcpReq s₁)
    (hmax : body.length ≤ 255)
    : Spends w (pollWork w .tcpReady (flavour.polls s.tcpTimeoutMs) + 262 * w .tcpRead
          + (pollWork w .serialReady (flavour.polls s.rtuTimeoutMs)
            + (ModbusRtu.sendWork w 257 + 2840 * w .serialRead)))
        s (finalState (exchange (rtuFrame body) flavour s₁ : EStateM.Result (Stop (BridgeError SE TE)) _ _)) := by
  have hrequest := receiveRequest_spends w flavour s
  rw [hreq] at hrequest
  have hexchange := exchange_spends w (rtuFrame body) flavour s₁
  have hlen : (rtuFrame body).length ≤ 257 := by
    rw [length_rtuFrame]
    omega
  have hsend := ModbusRtu.sendWork_mono w hlen
  rw [show s₁.rtuTimeoutMs = _ from hrequest.rtuTimeoutMs_eq] at hexchange
  apply (hrequest.trans hexchange).mono
  omega

theorem next_spends (flavour : Flavour) (s : Session S TS D SE TE)
    : Spends w (Mode.bridge.work w flavour s.rtuTimeoutMs s.tcpTimeoutMs) s (finalState (next flavour s)) := by
  have hrequest := receiveRequest_spends w flavour s
  have hrun := next_run flavour s
  generalize next flavour s = r at hrun
  simp only [Mode.work]
  cases hrun with
  | requestFailed hreq =>
    rw [hreq] at hrequest
    apply hrequest.mono
    omega
  | rejected hreq _ =>
    rw [hreq] at hrequest
    apply hrequest.mono
    omega
  | exchangeFailed hreq _ _ hmax hexchange =>
    have hafter := exchange_spends_after w hreq hmax
    rw [hexchange] at hafter
    apply hafter.mono
    omega
  | replyFailed hreq _ _ hmax hexchange _ hlen hsend =>
    have hafter := exchange_spends_after w hreq hmax
    rw [hexchange] at hafter
    have hreply := reply_spends w hlen (congrArg finalState hsend)
    apply hafter.trans hreply
  | replied hreq _ _ hmax hexchange _ hlen hsend =>
    have hafter := exchange_spends_after w hreq hmax
    rw [hexchange] at hafter
    have hreply := reply_spends w hlen (congrArg finalState hsend)
    apply hafter.trans hreply

end Connection

namespace ClientSession

variable [Device S SE] [Device TS TE] [ReadReady S SE] [ReadReady TS TE] [DelayNs D]

omit [Device TS TE] [ReadReady TS TE] in
theorem receiveRequest_spends (flavour : Flavour) (s : Session S TS D SE TE)
    : Spends w (pollWork w .serialReady (flavour.polls s.rtuTimeoutMs) + 2766 * w .serialRead) s
        (finalState (receiveRequest flavour s : EStateM.Result (Stop (BridgeError SE TE)) _ _)) :=
  .of_onSerial (receiveRequest_onSerial flavour s)
    (guarded_costs w (serialReadReady_costs w) .rtuIo Session.rtuTimeoutMs (ModbusRtu.listen_costs w) requestError
      flavour s)

omit [Device S SE] [ReadReady S SE] in
theorem receiveResponse_spends (flavour : Flavour) (s : Session S TS D SE TE)
    : Spends w (pollWork w .tcpReady (flavour.polls s.tcpTimeoutMs) + 262 * w .tcpRead) s
        (finalState (receiveResponse flavour s : EStateM.Result (Stop (BridgeError SE TE)) _ _)) :=
  .of_onTcp (receiveResponse_onTcp flavour s)
    (guarded_costs w (tcpReadReady_costs w) .tcpIo Session.tcpTimeoutMs (ModbusTcp.listen_costs w) responseError flavour
      s)

omit [Device TS TE] [ReadReady S SE] [ReadReady TS TE] [DelayNs D] in
theorem reply_spends {s s' : Session S TS D SE TE} (hrmax : rbody.length ≤ 255)
    (hreply : finalState (ModbusRtu.send (rtuFrame rbody) s) = s') : Spends w (ModbusRtu.sendWork w 257) s s' := by
  rw [← hreply]
  apply (rtuSend_spends w (rtuFrame rbody) s).mono
  apply ModbusRtu.sendWork_mono
  rw [length_rtuFrame]
  omega

omit [ReadReady TS TE] in
/--
The request that has been received is sent to the server. Counting the transaction is free.
-/
theorem send_spends_after {s s₁ s₂ : Session S TS D SE TE} (hreq : receiveRequest flavour s = .ok rtuReq s₁)
    (hmax : body.length ≤ 253) (hsend : finalState (ModbusTcp.send (tcpFrame tid 0 body) (numbered s₁)) = s₂)
    : Spends w (pollWork w .serialReady (flavour.polls s.rtuTimeoutMs) + 2766 * w .serialRead
          + (w .tcpSend + 259 * w .tcpWrite)) s s₂ := by
  rw [← hsend]
  have hrequest := receiveRequest_spends w flavour s
  rw [hreq] at hrequest
  have hnumbered : Spends w 0 s₁ (numbered s₁) := ⟨Nat.le_refl _, rfl, rfl⟩
  have hsend := tcpSend_spends w (tcpFrame tid 0 body) (numbered s₁)
  apply ((hrequest.trans hnumbered).trans hsend).mono
  have hlen : (tcpFrame tid 0 body).length * w .tcpWrite ≤ 259 * w .tcpWrite := by
    apply Nat.mul_le_mul_right
    rw [length_tcpFrame]
    omega
  omega

theorem receiveResponse_spends_after {s s₁ s₂ : Session S TS D SE TE} (hreq : receiveRequest flavour s = .ok rtuReq s₁)
    (hmax : body.length ≤ 253) (hsend : ModbusTcp.send (tcpFrame tid 0 body) (numbered s₁) = .ok () s₂)
    : Spends w (pollWork w .serialReady (flavour.polls s.rtuTimeoutMs) + 2766 * w .serialRead
          + (w .tcpSend + 259 * w .tcpWrite)
          + (pollWork w .tcpReady (flavour.polls s.tcpTimeoutMs) + 262 * w .tcpRead))
        s (finalState (receiveResponse flavour s₂)) := by
  have hsent := send_spends_after w hreq hmax (congrArg finalState hsend)
  rw [finalState_ok] at hsent
  have hresponse := receiveResponse_spends w flavour s₂
  rw [show s₂.tcpTimeoutMs = _ from hsent.tcpTimeoutMs_eq] at hresponse
  apply hsent.trans hresponse

theorem next_spends (flavour : Flavour) (s : Session S TS D SE TE)
    : Spends w (Mode.client.work w flavour s.rtuTimeoutMs s.tcpTimeoutMs) s (finalState (next flavour s)) := by
  have hrun := next_run flavour s
  generalize next flavour s = r at hrun
  simp only [Mode.work]
  cases hrun with
  | requestFailed hreq =>
    have hrequest := receiveRequest_spends w flavour s
    rw [hreq] at hrequest
    apply hrequest.mono
    omega
  | sendFailed hreq _ _ hmax hsend =>
    have hsent := send_spends_after w hreq hmax (congrArg finalState hsend)
    apply hsent.mono
    omega
  | responseFailed hreq _ _ hmax hsend hresp =>
    have hresponse := receiveResponse_spends_after w hreq hmax hsend
    rw [hresp] at hresponse
    apply hresponse.mono
    omega
  | rejected hreq _ _ hmax hsend hresp _ =>
    have hresponse := receiveResponse_spends_after w hreq hmax hsend
    rw [hresp] at hresponse
    apply hresponse.mono
    omega
  | replyFailed hreq _ _ hmax hsend hresp _ _ hrmax hreply =>
    have hresponse := receiveResponse_spends_after w hreq hmax hsend
    rw [hresp] at hresponse
    apply hresponse.trans (reply_spends w hrmax (congrArg finalState hreply))
  | replied hreq _ _ hmax hsend hresp _ _ hrmax hreply =>
    have hresponse := receiveResponse_spends_after w hreq hmax hsend
    rw [hresp] at hresponse
    apply hresponse.trans (reply_spends w hrmax (congrArg finalState hreply))

end ClientSession

end ModbusBridge
