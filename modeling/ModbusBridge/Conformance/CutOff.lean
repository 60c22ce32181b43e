import ModbusBridge.Effect.Monotonic
import ModbusBridge.Lemmas.Machine
import ModbusBridge.Lemmas.Run
import ModbusBridge.Spec.Mock

/-!
This module contains what changes when a peer hangs up early: the run is cut off somewhere, but all that has been
written up to there is the same.
-/

namespace ModbusBridge

open Effect EmbeddedIo Session Framing
open Exec (Monotonic Implements)

namespace View

/--
In `v'` more is going to be received than in `v`.
-/
structure Longer (v v' : View) : Prop where
  serialRx : v.serialRx <+: v'.serialRx
  tcpRx : v.tcpRx <+: v'.tcpRx
  serialTx : v.serialTx = v'.serialTx
  tcpTx : v.tcpTx = v'.tcpTx
  transactionId : v.transactionId = v'.transactionId

/--
In `v'` more has been sent than in `v`.
-/
structure Further (v v' : View) : Prop where
  serialTx : v.serialTx <+: v'.serialTx
  tcpTx : v.tcpTx <+: v'.tcpTx

instance : IsPreorder View Further where
  refl v := ⟨List.prefix_refl v.serialTx, List.prefix_refl v.tcpTx⟩
  trans _ _ _ h h' := ⟨h.serialTx.trans h'.serialTx, h.tcpTx.trans h'.tcpTx⟩

theorem Longer.further {v v' : View} (h : Longer v v') : Further v v' where
  serialTx := by rw [h.serialTx]
  tcpTx := by rw [h.tcpTx]

section Programs

variable {SE TE : Type} {v : View}

theorem takeTcp_monotonic
    : Monotonic Longer Further (takeTcp : Exec View (BridgeError SE TE) (List UInt8)) where
  ok {v v' frame w} hmore h := by
    obtain ⟨hcut, rfl⟩ := takeTcp_eq_ok h
    obtain ⟨hcut', hrest⟩ := Layout.cut_longer hcut hmore.tcpRx
    exact ⟨_, takeTcp_whole hcut', { hmore with tcpRx := hrest }⟩
  error {v v' e w} hmore h := by
    have hstart := takeTcp_finalState SE TE v
    rw [h] at hstart
    rw [takeTcp_finalState SE TE, show w = _ from hstart]
    exact ⟨hmore.further.serialTx, hmore.further.tcpTx⟩
  grows v := by
    rw [takeTcp_finalState]
    exact ⟨List.prefix_refl v.serialTx, List.prefix_refl v.tcpTx⟩

theorem takeRtu_monotonic (L : Layout UInt8) (cap : Nat) (closed : BridgeError SE TE)
    : Monotonic Longer Further (takeRtu L cap closed) where
  ok {v v' frame w} hmore h := by
    obtain ⟨hcut, hcrc, rfl⟩ := takeRtu_eq_ok h
    obtain ⟨hcut', hrest⟩ := Layout.cut_longer hcut hmore.serialRx
    exact ⟨_, takeRtu_whole hcut' hcrc, { hmore with serialRx := hrest }⟩
  error {v v' e w} hmore h := by
    have hstart := takeRtu_finalState L cap closed v
    rw [h] at hstart
    rw [takeRtu_finalState, show w = _ from hstart]
    exact ⟨hmore.further.serialTx, hmore.further.tcpTx⟩
  grows v := by
    rw [takeRtu_finalState]
    exact ⟨List.prefix_refl v.serialTx, List.prefix_refl v.tcpTx⟩

theorem putTcp_monotonic (frame : List UInt8) : Monotonic Longer Further (putTcp frame : Exec View ε Unit) where
  ok {v v' _ w} hmore h := by
    injection h with _ hw
    rw [← hw]
    exact ⟨_, rfl, { hmore with tcpTx := by rw [hmore.tcpTx] }⟩
  error _ h := by contradiction
  grows v := ⟨List.prefix_refl v.serialTx, List.prefix_append v.tcpTx frame⟩

theorem putRtu_monotonic (frame : List UInt8) : Monotonic Longer Further (putRtu frame : Exec View ε Unit) where
  ok {v v' _ w} hmore h := by
    injection h with _ hw
    rw [← hw]
    exact ⟨_, rfl, { hmore with serialTx := by rw [hmore.serialTx] }⟩
  error _ h := by contradiction
  grows v := ⟨List.prefix_append v.serialTx frame, List.prefix_refl v.tcpTx⟩

theorem exchangeRtu_monotonic (request : List UInt8)
    : Monotonic Longer Further (exchangeRtu request : Exec View (BridgeError SE TE) _) := by
  apply (putRtu_monotonic request).bind
  intro _
  apply takeRtu_monotonic

theorem nextId_monotonic : Monotonic Longer Further (nextId : Exec View ε UInt16) where
  ok {v v' id w} hmore h := by
    injection h with hid hw
    rw [← hid, ← hw, hmore.transactionId]
    exact ⟨_, rfl, { hmore with transactionId := rfl }⟩
  error _ h := by contradiction
  grows v := ⟨List.prefix_refl v.serialTx, List.prefix_refl v.tcpTx⟩

end Programs

end View

open View

variable {SE TE : Type}

theorem bridgeStep_monotonic
    : Monotonic Longer Further (bridgeStep : Exec View (BridgeError SE TE) BridgeEvent) := by
  apply takeTcp_monotonic.bind
  intro request
  dsimp only
  split
  . apply Monotonic.fail fun v v' h => h.further
  . apply (exchangeRtu_monotonic _).bind
    intro response
    apply (putTcp_monotonic _).bind
    intro _
    apply Monotonic.pure

theorem clientStep_monotonic
    : Monotonic Longer Further (clientStep : Exec View (BridgeError SE TE) BridgeEvent) := by
  apply (takeRtu_monotonic _ _ _).bind
  intro request
  apply nextId_monotonic.bind
  intro id
  apply (putTcp_monotonic _).bind
  intro _
  apply takeTcp_monotonic.bind
  intro response
  dsimp only
  split
  . apply Monotonic.fail fun v v' h => h.further
  . apply (putRtu_monotonic _).bind
    intro _
    split
    . apply Monotonic.pure
    . apply Monotonic.pure

theorem Mode.step_monotonic (mode : Mode)
    : Monotonic Longer Further (mode.step : Exec View (BridgeError SE TE) BridgeEvent) := by
  cases mode with
  | bridge => apply bridgeStep_monotonic
  | client => apply clientStep_monotonic

theorem Mode.steps_monotonic (mode : Mode) (n : Nat)
    : Monotonic Longer Further (mode.steps n : Exec View (BridgeError SE TE) (List BridgeEvent)) := by
  induction n with
  | zero => apply Monotonic.pure
  | succ n ih =>
    apply mode.step_monotonic.bind
    intro event
    apply ih.bind
    intro events
    apply Monotonic.pure

/--
With more to receive, at least as many steps have sent at least as much.
-/
theorem Mode.steps_further (SE TE : Type) (mode : Mode) (hle : n ≤ m) {v v' : View} (hmore : Longer v v')
    : Further (finalState ((mode.steps n : Exec View (BridgeError SE TE) _) v))
        (finalState ((mode.steps m : Exec View (BridgeError SE TE) _) v')) := by
  induction n generalizing m v v' with
  | zero => exact trans_of Further hmore.further ((mode.steps_monotonic m).grows v')
  | succ n ih =>
    obtain ⟨m, rfl⟩ := Nat.exists_eq_succ_of_ne_zero (by omega : m ≠ 0)
    cases hstep : (mode.step : Exec View (BridgeError SE TE) BridgeEvent) v with
    | error e w =>
      have hfirst := mode.step_monotonic.error hmore hstep
      rw [steps_succ_error n hstep]
      apply trans_of Further hfirst
      rw [Mode.steps]
      apply Exec.Within.bind_rest
      intro event
      apply (mode.steps_monotonic m).grows.bind
      intro events
      apply Exec.Within.pure
    | ok event w =>
      obtain ⟨w', hstep', hmore'⟩ := mode.step_monotonic.ok hmore hstep
      rw [(steps_succ_ok n hstep).2, (steps_succ_ok m hstep').2]
      apply ih (by omega) hmore'

section Run

variable {S TS D S' TS' D' : Type} [Device S SE] [Device TS TE] [ReadReady S SE] [ReadReady TS TE] [DelayNs D]
  [Lossless S] [Lossless TS] [Device S' SE] [Device TS' TE] [ReadReady S' SE] [ReadReady TS' TE] [DelayNs D']
  [Lossless S'] [Lossless TS']

/--
Two runs, the second of which has at least as many calls and gets more bytes from the serial line and from the TCP
stream, after the same ones. All that the first run has sent is the start of what the second one has sent, and calls
that succeed in the first run return the same in the second one.
-/
theorem cut_off (mode : Mode) {flavours flavours' : List Flavour} (huntimed : ∀ flavour ∈ flavours, flavour.Untimed)
    (huntimed' : ∀ flavour ∈ flavours', flavour.Untimed) (hlen : flavours.length ≤ flavours'.length)
    {s : Session S TS D SE TE} {s' : Session S' TS' D' SE TE} (h : At v s) (h' : At v' s') (hmore : Longer v v')
    : Trace.serialTx (finalState (mode.run flavours s)).trace
          <+: Trace.serialTx (finalState (mode.run flavours' s')).trace
        ∧ Trace.tcpTx (finalState (mode.run flavours s)).trace
          <+: Trace.tcpTx (finalState (mode.run flavours' s')).trace
        ∧ ∀ events, outcome (mode.run flavours s) = .ok events
          → outcome (mode.run (flavours'.take flavours.length) s') = .ok events := by
  obtain ⟨houtcome, hend⟩ := (mode.run_implements huntimed).ends v s h
  obtain ⟨_, hend'⟩ := (mode.run_implements huntimed').ends v' s' h'
  have hfurther := mode.steps_further SE TE hlen hmore
  rw [hend.serialTx, hend.tcpTx, hend'.serialTx, hend'.tcpTx]
  refine ⟨hfurther.serialTx, hfurther.tcpTx, ?_⟩
  intro events hevents
  have htake : ∀ flavour ∈ flavours'.take flavours.length, flavour.Untimed := by
    intro flavour hflavour
    apply huntimed' _ (List.mem_of_mem_take hflavour)
  obtain ⟨houtcome', _⟩ := (mode.run_implements htake).ends v' s' h'
  rw [hevents] at houtcome
  obtain ⟨_, hsteps', _⟩ := (mode.steps_monotonic flavours.length).ok hmore (Exec.eq_ok_of_outcome houtcome.symm)
  rw [List.length_take_of_le hlen, hsteps'] at houtcome'
  exact houtcome'

end Run

/--
The client of the bridge hangs up within its second request, or does not.
-/
def hungUp : View where
  serialRx := rtuFrame [0x11, 0x83, 0x02]
  tcpRx := tcpFrame 1 0 readRequest ++ [0x00, 0x02]
  serialTx := []
  tcpTx := []
  transactionId := 0

def stayed : View := { hungUp with
  serialRx := rtuFrame [0x11, 0x83, 0x02] ++ rtuFrame [0x11, 0x83, 0x03]
  tcpRx := tcpFrame 1 0 readRequest ++ tcpFrame 2 0 readRequest
}

theorem cut_off_hungUp
    : Trace.tcpTx (finalState (Mode.bridge.run [.sync, .sync] (mockSession hungUp.serialRx hungUp.tcpRx))).trace
        <+: Trace.tcpTx
          (finalState (Mode.bridge.run [.async, .sync] (mockSession stayed.serialRx stayed.tcpRx))).trace :=
  (cut_off .bridge (by simp [Flavour.Untimed.sync]) (by simp [Flavour.Untimed.async, Flavour.Untimed.sync])
    (by decide) (mockSession_at hungUp.serialRx hungUp.tcpRx) (mockSession_at stayed.serialRx stayed.tcpRx)
    ⟨by decide +kernel, by decide +kernel, rfl, rfl, rfl⟩).2.1

end ModbusBridge
