import ModbusBridge.Lemmas.ClientSession
import ModbusBridge.Lemmas.Connection
import ModbusBridge.Spec.Run

/-!
This module contains the place of `ModbusRtu::send` in a call of `next`: the call leaves the TX-enable
pin and the transmitter alone, except for at most one transmission, and if that one fails it is the last
thing that happens.
-/

namespace ModbusBridge

open Effect EmbeddedIo Session
open Exec (Within)
open ModbusRtu (SendRun sendKinds)

variable {S TS D SE TE : Type}

namespace Trace

theorem pinAfter_append (high : Bool) (t u : List (Event SE TE))
    : pinAfter high (t ++ u) = pinAfter (pinAfter high t) u := by
  unfold pinAfter
  rw [List.foldl_append]

theorem whileHigh_append (high : Bool) (t u : List (Event SE TE))
    : whileHigh high (t ++ u) = whileHigh high t ++ whileHigh (pinAfter high t) u := by
  induction t generalizing high with
  | nil => rfl
  | cons e t ih =>
    simp only [List.cons_append, whileHigh]
    rw [ih, List.append_assoc]
    rfl

section Quiet

variable {t : List (Event SE TE)}

theorem pin_of_kind {e : Event SE TE} (h : e.kind ∉ sendKinds) (high : Bool) : e.pin high = high := by
  unfold Event.pin
  split
  . simp [Event.kind, sendKinds] at h
  . rfl

theorem cutShort_cons {e : Event SE TE} (h : e.kind ∉ sendKinds) (t : List (Event SE TE))
    : cutShort (e :: t) = cutShort t := by
  cases e with
  | rtuSend _ | txEn _ => simp [Event.kind, sendKinds] at h
  | tcpSend _ | tcp _ | delayMs _ => simp [cutShort]
  | serial e =>
    cases e with
    | read _ _ | readReady _ => simp [cutShort]
    | write _ _ | flush _ => simp [Event.kind, sendKinds] at h

theorem pinAfter_quiet (h : ∀ e ∈ t, e.kind ∉ sendKinds) (high : Bool) : pinAfter high t = high := by
  induction t with
  | nil => rfl
  | cons e t ih =>
    rw [List.forall_mem_cons] at h
    show pinAfter (e.pin high) t = high
    rw [pin_of_kind h.1]
    apply ih h.2

theorem cutShort_quiet_append (h : ∀ e ∈ t, e.kind ∉ sendKinds) (u : List (Event SE TE))
    : cutShort (t ++ u) = cutShort u := by
  induction t with
  | nil => rfl
  | cons e t ih =>
    rw [List.forall_mem_cons] at h
    rw [List.cons_append, cutShort_cons h.1]
    apply ih h.2

theorem cutShort_quiet (h : ∀ e ∈ t, e.kind ∉ sendKinds) : cutShort t = false := by
  rw [← List.append_nil t, cutShort_quiet_append h]
  rfl

theorem whileHigh_quiet (h : ∀ e ∈ t, e.kind ∉ sendKinds) : whileHigh false t = [] := by
  induction t with
  | nil => rfl
  | cons e t ih =>
    rw [List.forall_mem_cons] at h
    unfold whileHigh
    rw [pin_of_kind h.1, ih h.2]
    rfl

end Quiet

section Send

variable {t : List (Event SE TE)}

theorem cutShort_writes_append {ws : List (IoEvent SE)} (hwrite : ∀ w ∈ ws, w.isWrite = true)
    (hok : ∀ w ∈ ws, w.isFault = false) (u : List (Event SE TE))
    : cutShort (ws.map .serial ++ u) = cutShort u := by
  induction ws with
  | nil => rfl
  | cons w ws ih =>
    rw [List.forall_mem_cons] at hwrite hok
    have hrest := ih hwrite.2 hok.2
    unfold IoEvent.isWrite IoEvent.isFault at *
    cases w with
    | write buf r =>
      cases r with
      | ok n => simpa [cutShort] using hrest
      | error e => simp at hok
    | read _ _ | flush _ | readReady _ => simp at hwrite

theorem cutShort_writes_fault {ws : List (IoEvent SE)} (hwrite : ∀ w ∈ ws, w.isWrite = true)
    (hfault : ∃ w ∈ ws, w.isFault = true) : cutShort (ws.map .serial : List (Event SE TE)) = true := by
  induction ws with
  | nil => simp at hfault
  | cons w ws ih =>
    rw [List.forall_mem_cons] at hwrite
    simp only [List.mem_cons, exists_eq_or_imp] at hfault
    unfold IoEvent.isWrite IoEvent.isFault at *
    cases w with
    | write buf r =>
      cases r with
      | ok n =>
        simp only [Bool.false_eq_true, false_or] at hfault
        simpa [cutShort] using ih hwrite.2 hfault
      | error e => simp [cutShort]
    | read _ _ | flush _ | readReady _ => simp at hwrite

theorem cutShort_raised (payload : List UInt8) (t : List (Event SE TE))
    : cutShort ([.rtuSend payload, .serial (.flush (.ok ())), .txEn true] ++ t) = cutShort t := by
  simp [cutShort]

theorem cutShort_send {r : Except (Stop SE) Unit} (h : SendRun payload r t)
    : cutShort t = pinAfter false t := by
  cases h with
  | flushFailed e => simp [cutShort, pinAfter, Event.pin]
  | writeFailed e hws =>
    rw [cutShort_raised, cutShort_writes_fault hws.isWrite hws.isFault_of_error]
    rw [pinAfter_append, ModbusRtu.pinAfter_writes]
    rfl
  | drainFailed e hws =>
    rw [List.append_assoc, cutShort_raised]
    rw [cutShort_writes_append hws.isWrite hws.accepted_of_ok.2]
    rw [pinAfter_append, pinAfter_append, ModbusRtu.pinAfter_writes]
    rfl
  | done hws =>
    rw [List.append_assoc, cutShort_raised]
    rw [cutShort_writes_append hws.isWrite hws.accepted_of_ok.2]
    rw [pinAfter_append, pinAfter_append, ModbusRtu.pinAfter_writes]
    rfl

theorem cutShort_sent_append (h : SendRun payload (.ok ()) t) (u : List (Event SE TE))
    : cutShort (t ++ u) = cutShort u := by
  cases h with
  | done hws =>
    rw [List.append_assoc, List.append_assoc, cutShort_raised]
    rw [cutShort_writes_append hws.isWrite hws.accepted_of_ok.2]
    simp [cutShort]

theorem isSerialRead_send {r : Except (Stop SE) Unit} (h : SendRun payload r t)
    : ∀ e ∈ t, e.isSerialRead = false := by
  have hwrites : ∀ ws : List (IoEvent SE), (∀ w ∈ ws, w.isWrite = true)
      → ∀ e ∈ (ws.map .serial : List (Event SE TE)), e.isSerialRead = false := by
    intro ws hws e he
    obtain ⟨w, hw, rfl⟩ := List.mem_map.mp he
    have := hws w hw
    cases w with
    | write _ _ => rfl
    | read _ _ | flush _ | readReady _ => simp [IoEvent.isWrite] at this
  cases h with
  | flushFailed e => simp [Event.isSerialRead, IoEvent.isRead]
  | writeFailed e hws | drainFailed e hws | done hws =>
    intro e he
    have := hwrites _ hws.isWrite e
    simp only [List.mem_append, List.mem_cons, List.not_mem_nil, or_false] at he
    grind [Event.isSerialRead, IoEvent.isRead]

theorem mem_of_mem_whileHigh {high : Bool} {e : Event SE TE} (h : e ∈ whileHigh high t) : e ∈ t := by
  induction t generalizing high with
  | nil => contradiction
  | cons e₁ t ih =>
    unfold whileHigh at h
    rw [List.mem_append] at h
    cases h with
    | inl h =>
      split at h
      . rw [List.mem_singleton] at h
        rw [h]
        apply List.mem_cons_self
      . contradiction
    | inr h =>
      apply List.mem_cons_of_mem
      apply ih h

end Send

end Trace

namespace Session

/--
A step that leaves the pin and the transmitter alone.
-/
structure Quiet (s s' : Session S TS D SE TE) : Prop where
  txEn_eq : s'.txEn = s.txEn
  emits : ∃ t, s'.trace = s.trace ++ t ∧ ∀ e ∈ t, e.kind ∉ sendKinds

namespace Quiet

variable {s s₁ s' : Session S TS D SE TE}

theorem refl (s : Session S TS D SE TE) : Quiet s s := ⟨rfl, [], by simp⟩

theorem trans (h₁ : Quiet s s₁) (h₂ : Quiet s₁ s') : Quiet s s' := by
  obtain ⟨hpin₁, t₁, ht₁, hk₁⟩ := h₁
  obtain ⟨hpin₂, t₂, ht₂, hk₂⟩ := h₂
  refine ⟨hpin₂.trans hpin₁, t₁ ++ t₂, ?_, ?_⟩
  . rw [ht₂, ht₁, List.append_assoc]
  . intro e he
    cases List.mem_append.mp he with
    | inl he => exact hk₁ e he
    | inr he => exact hk₂ e he

theorem of_onTcp (h : OnTcp kinds s s') (hkinds : ∀ k ∈ kinds, k ∉ sendKinds) : Quiet s s' := by
  obtain ⟨t, ht, hk⟩ := h.emits
  exact ⟨h.txEn_eq, t, ht, fun e he => hkinds _ (hk e he)⟩

theorem of_onSerial (h : OnSerial kinds s s') (hkinds : ∀ k ∈ kinds, k ∉ sendKinds) : Quiet s s' := by
  obtain ⟨t, ht, hk⟩ := h.emits
  have hpin : .txEn ∉ kinds := fun hmem => hkinds _ hmem (by decide)
  exact ⟨h.txEn_eq hpin, t, ht, fun e he => hkinds _ (hk e he)⟩

end Quiet

/--
Between `s` and `s'` there is one transmission, and it succeeds.
-/
inductive Transmitted (s s' : Session S TS D SE TE) : Prop where
  | mk (t : List (Event SE TE)) (hbefore : Quiet s s₁) (hsend : SendRun payload (.ok ()) t)
      (htrace : s₂.trace = s₁.trace ++ t) (hpin : s₂.txEn = Trace.pinAfter s₁.txEn t)
      (hafter : Quiet s₂ s')

/--
Between `s` and `s'` there is at most one transmission, and if it fails nothing comes after it.
-/
inductive Transmits (s s' : Session S TS D SE TE) : Prop where
  | nothing (h : Quiet s s')
  | failed (t : List (Event SE TE)) (hbefore : Quiet s s₁) (hsend : SendRun payload (.error e) t)
      (htrace : s'.trace = s₁.trace ++ t) (hpin : s'.txEn = Trace.pinAfter s₁.txEn t)
  | done (h : Transmitted s s')

namespace Transmitted

variable {s s₁ s' : Session S TS D SE TE}

theorem quiet_trans (h₁ : Quiet s s₁) (h₂ : Transmitted s₁ s') : Transmitted s s' := by
  obtain ⟨t, hbefore, hsend, htrace, hpin, hafter⟩ := h₂
  apply mk t (h₁.trans hbefore) hsend htrace hpin hafter

theorem trans_quiet (h₁ : Transmitted s s₁) (h₂ : Quiet s₁ s') : Transmitted s s' := by
  obtain ⟨t, hbefore, hsend, htrace, hpin, hafter⟩ := h₁
  apply mk t hbefore hsend htrace hpin (hafter.trans h₂)

end Transmitted

namespace Transmits

variable {s s₁ s' : Session S TS D SE TE}

theorem quiet_trans (h₁ : Quiet s s₁) (h₂ : Transmits s₁ s') : Transmits s s' := by
  cases h₂ with
  | nothing h => apply nothing (h₁.trans h)
  | failed t hbefore hsend htrace hpin => apply failed t (h₁.trans hbefore) hsend htrace hpin
  | done h => apply done (Transmitted.quiet_trans h₁ h)

theorem timers (h : Transmits s s') (deadline : Option Nat) : Transmits s { s' with deadline } := by
  have hquiet : Quiet s' { s' with deadline } := ⟨rfl, [], by simp⟩
  cases h with
  | nothing h => apply nothing (h.trans hquiet)
  | failed t hbefore hsend htrace hpin => exact failed t hbefore hsend htrace hpin
  | done h => apply done (h.trans_quiet hquiet)

theorem pin_low (h : Transmits s s') (hlow : s.txEn = false)
    : ∃ t, s'.trace = s.trace ++ t ∧ s'.txEn = Trace.cutShort t
        ∧ ∀ e ∈ Trace.whileHigh false t, e.isSerialRead = false := by
  cases h with
  | nothing h =>
    obtain ⟨hpin, t, ht, hk⟩ := h
    refine ⟨t, ht, ?_, ?_⟩
    . rw [hpin, hlow, Trace.cutShort_quiet hk]
    . rw [Trace.whileHigh_quiet hk]
      simp
  | failed t hbefore hsend htrace hpin =>
    obtain ⟨hpin₁, t₁, ht₁, hk₁⟩ := hbefore
    refine ⟨t₁ ++ t, ?_, ?_, ?_⟩
    . rw [htrace, ht₁, List.append_assoc]
    . rw [Trace.cutShort_quiet_append hk₁, Trace.cutShort_send hsend]
      rw [hpin, hpin₁, hlow]
    . rw [Trace.whileHigh_append, Trace.whileHigh_quiet hk₁, List.nil_append]
      intro e he
      apply Trace.isSerialRead_send hsend e
      apply Trace.mem_of_mem_whileHigh he
  | done h =>
    obtain ⟨t, hbefore, hsend, htrace, hpin, hafter⟩ := h
    obtain ⟨hpin₁, t₁, ht₁, hk₁⟩ := hbefore
    obtain ⟨hpin₂, t₂, ht₂, hk₂⟩ := hafter
    -- A successful transmission leaves the pin low, whatever comes before or after it.
    have hdone : Trace.pinAfter false t = false := by
      rw [← Trace.cutShort_send hsend, ← List.append_nil t, Trace.cutShort_sent_append hsend]
      rfl
    refine ⟨t₁ ++ (t ++ t₂), ?_, ?_, ?_⟩
    . rw [ht₂, htrace, ht₁]
      simp only [List.append_assoc]
    . rw [Trace.cutShort_quiet_append hk₁, Trace.cutShort_sent_append hsend, Trace.cutShort_quiet hk₂]
      rw [hpin₂, hpin, hpin₁, hlow, hdone]
    . rw [Trace.whileHigh_append, Trace.whileHigh_quiet hk₁, List.nil_append]
      rw [Trace.pinAfter_quiet hk₁, Trace.whileHigh_append, hdone, Trace.whileHigh_quiet hk₂]
      rw [List.append_nil]
      intro e he
      apply Trace.isSerialRead_send hsend e
      apply Trace.mem_of_mem_whileHigh he

end Transmits

end Session

section Send

variable [Device S SE] {s s' : Session S TS D SE TE}

theorem ModbusRtu.send_failed (h : send payload s = .error e s') : Transmits s s' := by
  obtain ⟨t, hrun, htrace, hpin⟩ := send_run payload s
  rw [h] at hrun htrace hpin
  apply Transmits.failed t (.refl s) hrun htrace hpin

theorem ModbusRtu.send_transmitted (h : send payload s = .ok () s') : Transmitted s s' := by
  obtain ⟨t, hrun, htrace, hpin⟩ := send_run payload s
  rw [h] at hrun htrace hpin
  apply Transmitted.mk t (.refl s) hrun htrace hpin (.refl s')

theorem ModbusRtu.sendAndReceive_transmits (h : sendAndReceive req s = r)
    : Transmits s (finalState r) := by
  rw [← h]
  unfold sendAndReceive
  cases hsend : send req s with
  | error e s₁ =>
    rw [Exec.bind_error (Exec.mapErr_error hsend)]
    apply send_failed hsend
  | ok _ s₁ =>
    rw [Exec.bind_ok (Exec.mapErr_ok hsend)]
    have hreceive := receive_onSerial (List.mem_singleton_self _) s₁
    apply Transmits.done
    apply (send_transmitted hsend).trans_quiet
    apply Quiet.of_onSerial hreceive
    decide

theorem ModbusRtu.sendAndReceive_transmitted (h : sendAndReceive req s = .ok r s') : Transmitted s s' := by
  unfold sendAndReceive at h
  rw [Exec.bind_eq_ok] at h
  obtain ⟨_, s₁, hsend, hreceive⟩ := h
  rw [Exec.mapErr_eq_ok] at hsend
  have hreads := (receive_onSerial (List.mem_singleton_self Event.Kind.serialRead)).of_ok hreceive
  apply (send_transmitted hsend).trans_quiet
  apply Quiet.of_onSerial hreads
  decide

end Send

namespace Connection

section Exchange

variable [Device S SE] [ReadReady S SE] [DelayNs D] {s s' : Session S TS D SE TE}

theorem exchange_transmits (h : exchange rtuReq flavour s = r) : Transmits s (finalState r) := by
  have hrun := exchange_run rtuReq flavour s
  rw [h] at hrun
  cases hrun with
  | notReady hwait _ =>
    apply Transmits.nothing
    apply Quiet.of_onSerial hwait
    decide
  | returned hwait hfut deadline | failed hwait hfut deadline | dropped hwait hfut deadline _ =>
    apply (Transmits.quiet_trans (Quiet.of_onSerial hwait (by decide)) _).timers
    apply ModbusRtu.sendAndReceive_transmits hfut

theorem exchange_transmitted (h : exchange rtuReq flavour s = .ok r s') : Transmitted s s' := by
  have hrun := exchange_run rtuReq flavour s
  rw [h] at hrun
  cases hrun with
  | returned hwait hfut deadline =>
    apply Transmitted.quiet_trans (Quiet.of_onSerial hwait (by decide))
    apply (ModbusRtu.sendAndReceive_transmitted hfut).trans_quiet
    exact ⟨rfl, [], by simp⟩

end Exchange

variable [Device S SE] [Device TS TE] [ReadReady S SE] [ReadReady TS TE] [DelayNs D]

theorem next_transmits (flavour : Flavour) (s : Session S TS D SE TE)
    : Transmits s (finalState (next flavour s)) := by
  have hrun := next_run flavour s
  generalize next flavour s = r at hrun
  cases hrun with
  | requestFailed hreq =>
    apply Transmits.nothing
    apply Quiet.of_onTcp ((receiveRequest_onTcp flavour).of_error hreq)
    decide
  | rejected hreq _ =>
    apply Transmits.nothing
    apply Quiet.of_onTcp ((receiveRequest_onTcp flavour).of_ok hreq)
    decide
  | exchangeFailed hreq _ _ _ hexchange =>
    have hquiet := Quiet.of_onTcp ((receiveRequest_onTcp flavour).of_ok hreq) (by decide)
    apply Transmits.quiet_trans hquiet
    apply exchange_transmits hexchange
  | replyFailed hreq _ _ _ hexchange _ _ hsend =>
    have hquiet := Quiet.of_onTcp ((receiveRequest_onTcp flavour).of_ok hreq) (by decide)
    have hreply := Quiet.of_onTcp ((ModbusTcp.send_onTcp _).of_error hsend) (by decide)
    apply Transmits.done
    apply Transmitted.quiet_trans hquiet
    apply (exchange_transmitted hexchange).trans_quiet hreply
  | replied hreq _ _ _ hexchange _ _ hsend =>
    have hquiet := Quiet.of_onTcp ((receiveRequest_onTcp flavour).of_ok hreq) (by decide)
    have hreply := Quiet.of_onTcp ((ModbusTcp.send_onTcp _).of_ok hsend) (by decide)
    apply Transmits.done
    apply Transmitted.quiet_trans hquiet
    apply (exchange_transmitted hexchange).trans_quiet hreply

end Connection

namespace ClientSession

variable [Device S SE] [Device TS TE] [ReadReady S SE] [ReadReady TS TE] [DelayNs D]

theorem next_transmits (flavour : Flavour) (s : Session S TS D SE TE)
    : Transmits s (finalState (next flavour s)) := by
  have hrequest {rtuReq s₁} (h : receiveRequest flavour s = .ok rtuReq s₁) : Quiet s s₁ :=
    Quiet.of_onSerial ((receiveRequest_onSerial flavour).of_ok h) (by decide)
  -- Counting the transaction up is not an operation on any device.
  have hnumbered (s₁ : Session S TS D SE TE) : Quiet s₁ (numbered s₁) := ⟨rfl, [], by simp [numbered]⟩
  have hsent {data} {s₁ s₂ : Session S TS D SE TE}
      (h : ModbusTcp.send data (numbered s₁) = .ok () s₂) : Quiet s₁ s₂ := by
    apply (hnumbered s₁).trans
    apply Quiet.of_onTcp ((ModbusTcp.send_onTcp _).of_ok h) (by decide)
  have hrun := next_run flavour s
  generalize next flavour s = r at hrun
  cases hrun with
  | requestFailed hreq =>
    apply Transmits.nothing
    apply Quiet.of_onSerial ((receiveRequest_onSerial flavour).of_error hreq)
    decide
  | sendFailed hreq _ _ _ hsend =>
    apply Transmits.nothing
    apply ((hrequest hreq).trans (hnumbered _)).trans
    apply Quiet.of_onTcp ((ModbusTcp.send_onTcp _).of_error hsend) (by decide)
  | responseFailed hreq _ _ _ hsend hresp =>
    apply Transmits.nothing
    apply ((hrequest hreq).trans (hsent hsend)).trans
    apply Quiet.of_onTcp ((receiveResponse_onTcp flavour).of_error hresp)
    decide
  | rejected hreq _ _ _ hsend hresp _ =>
    apply Transmits.nothing
    apply ((hrequest hreq).trans (hsent hsend)).trans
    apply Quiet.of_onTcp ((receiveResponse_onTcp flavour).of_ok hresp)
    decide
  | replyFailed hreq _ _ _ hsend hresp _ _ _ hreply =>
    have hreceived := Quiet.of_onTcp ((receiveResponse_onTcp flavour).of_ok hresp) (by decide)
    apply Transmits.quiet_trans (((hrequest hreq).trans (hsent hsend)).trans hreceived)
    apply ModbusRtu.send_failed hreply
  | replied hreq _ _ _ hsend hresp _ _ _ hreply =>
    have hreceived := Quiet.of_onTcp ((receiveResponse_onTcp flavour).of_ok hresp) (by decide)
    apply Transmits.quiet_trans (((hrequest hreq).trans (hsent hsend)).trans hreceived)
    apply Transmits.done (ModbusRtu.send_transmitted hreply)

end ClientSession

end ModbusBridge
