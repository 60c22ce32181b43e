import ModbusBridge.EmbeddedIo.InOrder
import ModbusBridge.Effect.Exits
import ModbusBridge.Lemmas.Lossless
import ModbusBridge.Lemmas.Reads

/-!
This module contains what the receiving functions take from a port that delivers its bytes in order, and in
which state they leave it when they stop.
-/

namespace ModbusBridge

open Effect EmbeddedIo Session
open Exec (Exits)

variable {S TS D SE TE : Type}

namespace Session

def serialIn [Device S SE] [InOrder S] (s : Session S TS D SE TE) : List UInt8 := InOrder.rx s.serial

def tcpIn [Device TS TE] [InOrder TS] (s : Session S TS D SE TE) : List UInt8 := InOrder.rx s.stream

variable {rx : Session S TS D SE TE → List UInt8} {obs : Event SE TE → List UInt8}
  {s₀ s s' : Session S TS D SE TE}

/--
What there was to be read on a port in `s₀` has been delivered, or it is still there in `s`.
-/
def Taken (rx : Session S TS D SE TE → List UInt8) (obs : Event SE TE → List UInt8)
    (s₀ s : Session S TS D SE TE) : Prop :=
  ∃ seen, Yields obs seen s₀ s ∧ rx s₀ = seen ++ rx s

instance : IsPreorder (Session S TS D SE TE) (Taken rx obs) where
  refl s := ⟨[], .refl s, rfl⟩
  trans s s₁ s₂ := by
    rintro ⟨seen₁, hseen₁, hrx₁⟩ ⟨seen₂, hseen₂, hrx₂⟩
    refine ⟨seen₁ ++ seen₂, hseen₁.trans hseen₂, ?_⟩
    rw [hrx₁, hrx₂, List.append_assoc]

theorem Taken.refl (s : Session S TS D SE TE) : Taken rx obs s s := refl_of _ s

theorem Taken.trans (h₁ : Taken rx obs s₀ s) (h₂ : Taken rx obs s s') : Taken rx obs s₀ s' :=
  trans_of _ h₁ h₂

theorem Taken.rx_eq (h : Taken rx obs s₀ s) (hseen : Yields obs seen s₀ s) : rx s₀ = seen ++ rx s := by
  obtain ⟨seen', hseen', hrx⟩ := h
  rw [hseen.unique hseen']
  apply hrx

/--
A program that has started in `s₀` has come to `s`.
-/
def Reached (rx : Session S TS D SE TE → List UInt8) (obs : Event SE TE → List UInt8)
    (s₀ s : Session S TS D SE TE) : Prop :=
  Taken rx obs s₀ s ∧ (s₀.deadline = none → s.deadline = none)

theorem Reached.trans (h₁ : Reached rx obs s₀ s) (h₂ : Reached rx obs s s') : Reached rx obs s₀ s' :=
  ⟨h₁.1.trans h₂.1, h₂.2 ∘ h₁.2⟩

theorem Reached.refl (s : Session S TS D SE TE) : Reached rx obs s s := ⟨Taken.refl s, id⟩

/--
A program that has started in `s₀` stops in `s`: unless it has been dropped, nothing has been lost, and a frame
is only too short at the end of the stream.
-/
structure Stopped (rx : Session S TS D SE TE → List UInt8) (obs : Event SE TE → List UInt8)
    (s₀ : Session S TS D SE TE) (e : Stop (ModbusError SE' TE')) (s : Session S TS D SE TE) : Prop where
  dropped : e = .dropped → s₀.deadline ≠ none
  reached : e ≠ .dropped → Reached rx obs s₀ s
  drained : e = .failed .payloadTooShort → rx s = []

theorem Reached.stopped {e : ModbusError SE' TE'} (h : Reached rx obs s₀ s) (hne : e ≠ .payloadTooShort)
    : Stopped rx obs s₀ (.failed e) s where
  dropped := nofun
  reached _ := h
  drained heq := by
    injection heq with heq
    contradiction

theorem Reached.eof (h : Reached rx obs s₀ s) (hend : rx s = [])
    : Stopped rx obs s₀ (.failed .payloadTooShort : Stop (ModbusError SE' TE')) s where
  dropped := nofun
  reached _ := h
  drained _ := hend

theorem Reached.cancelled (h : Reached rx obs s₀ s) (hdeadline : s.deadline ≠ none)
    : Stopped rx obs s₀ (.dropped : Stop (ModbusError SE' TE')) s' where
  dropped _ := mt h.2 hdeadline
  reached hne := absurd rfl hne
  drained := nofun

theorem idle_of_map {deadline : Option Nat} {f : Nat → Nat} (h : deadline = none) : deadline.map f = none := by
  rw [h]
  rfl

/--
A read takes its bytes from the front of what there is to be read on the port.
-/
theorem Port.read_inOrder [Device σ ε] [InOrder σ] (p : Port S TS D SE TE σ ε)
    (hobs : ∀ e, obs (p.event e) = e.delivered) (s : Session S TS D SE TE) (hpos : 0 < n)
    : (∃ chunk s', p.read n s = .ok chunk s' ∧ Reached (InOrder.rx ∘ p.device) obs s s'
          ∧ (chunk.val = [] → InOrder.rx (p.device s') = []))
        ∨ (∃ e s', p.read n s = .error (.failed e) s' ∧ Reached (InOrder.rx ∘ p.device) obs s s')
        ∨ (s.deadline ≠ none ∧ ∃ s', p.read n s = .error .dropped s') := by
  unfold read
  obtain ⟨chunk, hresult, hread⟩ | ⟨e, hresult, hread⟩ | hread := p.perform_cases (fun d => Device.read d n) _ s
  . left
    have hrx := InOrder.read_ok hresult
    refine ⟨chunk, _, hread, ⟨⟨chunk.val, ⟨_, p.trace_withDevice _ _, ?_⟩, ?_⟩, ?_⟩, ?_⟩
    . rw [List.flatMap_singleton, hobs]
      rfl
    . simpa using hrx
    . rw [p.deadline_withDevice]
      apply idle_of_map
    . intro hnil
      rw [hnil, List.nil_append] at hrx
      rw [p.device_withDevice, ← hrx]
      apply Classical.byContradiction
      intro hne
      exact InOrder.read_ne_nil hresult hpos hne hnil
  . right
    left
    have hrx := InOrder.read_error hresult
    refine ⟨e, _, hread, ⟨[], ⟨_, p.trace_withDevice _ _, ?_⟩, ?_⟩, ?_⟩
    . rw [List.flatMap_singleton, hobs]
      rfl
    . simpa using hrx.symm
    . rw [p.deadline_withDevice]
      apply idle_of_map
  . right
    right
    exact hread

/--
The rule for a read of a loop, which fails at the end of the stream and goes on with what it has got otherwise.
-/
theorem Port.read_exits [Device σ ε] [InOrder σ] (p : Port S TS D SE TE σ ε)
    (hobs : ∀ e, obs (p.event e) = e.delivered) (hpos : 0 < n)
    {k : Except ε {bytes : List UInt8 // bytes.length ≤ n} → Exec (Session S TS D SE TE) (ModbusError SE' TE') α}
    (hend : ∀ h, k (.ok ⟨[], h⟩) = Exec.fail .payloadTooShort)
    (hbytes : ∀ byte bytes h s,
      Exits (Reached (InOrder.rx ∘ p.device) obs s₀) (Stopped (InOrder.rx ∘ p.device) obs s₀)
        (k (.ok ⟨byte :: bytes, h⟩)) s)
    (hfailed : ∀ e s,
      Exits (Reached (InOrder.rx ∘ p.device) obs s₀) (Stopped (InOrder.rx ∘ p.device) obs s₀) (k (.error e)) s)
    (s : Session S TS D SE TE)
    : Exits (Reached (InOrder.rx ∘ p.device) obs s₀) (Stopped (InOrder.rx ∘ p.device) obs s₀)
        (Exec.result (p.read n) >>= k) s := by
  obtain ⟨chunk, s₁, hread, hreached, hdrained⟩ | ⟨e, s₁, hread, hreached⟩ | ⟨hdeadline, s₁, hread⟩ :=
    p.read_inOrder hobs s hpos
  . apply Exits.step (Exec.bind_result_ok hread) (fun h => h.trans hreached)
    obtain ⟨bytes, hle⟩ := chunk
    cases bytes with
    | nil =>
      rw [hend]
      apply Exits.fail
      intro h
      apply h.eof (hdrained rfl)
    | cons byte bytes => apply hbytes
  . apply Exits.step (Exec.bind_result_failed hread) (fun h => h.trans hreached)
    apply hfailed
  . apply Exits.of_error (Exec.bind_result_dropped hread)
    intro h
    apply h.cancelled hdeadline

theorem fail_exits {e : ModbusError SE' TE'} (hne : e ≠ .payloadTooShort)
    : Exits (Reached rx obs s₀) (Stopped rx obs s₀) (Exec.fail e : Exec _ (ModbusError SE' TE') α) s := by
  apply Exits.fail
  intro h
  apply h.stopped hne

theorem room_exits (o : Option α)
    : Exits (Reached rx obs s₀) (Stopped rx obs s₀)
        (Exec.ofOption .push o : Exec _ (ModbusError SE' TE') α) s := by
  apply Exits.ofOption
  intro h
  apply h.stopped
  exact nofun

theorem pushBytes_exits {readByte : Exec (Session S TS D SE TE) (ModbusError SE' TE') (Vector UInt8 1)}
    (hread : ∀ s, Exits (Reached rx obs s₀) (Stopped rx obs s₀) readByte s) (n : Nat)
    (buf : Heapless.Vec UInt8 cap) (s : Session S TS D SE TE)
    : Exits (Reached rx obs s₀) (Stopped rx obs s₀) (pushBytes readByte n buf) s := by
  induction n generalizing buf s with
  | zero => apply Exits.pure
  | succ n ih =>
    unfold pushBytes
    apply Exits.bind (hread s)
    intro byte s₁ _
    apply Exits.bind (room_exits _)
    intro buf₁ s₂ _
    apply ih

theorem checkCrc_exits {frame : List UInt8} (hlen : 4 ≤ frame.length)
    : Exits (Reached rx obs s₀) (Stopped rx obs s₀)
        (Exec.mapErr FrameError.intoCombined (Exec.ofExcept (checkCrc frame))
          : Exec _ (ModbusError SE' TE') Unit) s := by
  obtain hcrc | hcrc := checkCrc_of_length hlen
  . rw [hcrc]
    apply Exits.pure
  . rw [hcrc]
    apply fail_exits
    exact nofun

end Session

namespace ModbusTcp

variable [Device TS TE] [InOrder TS] {s₀ : Session S TS D SE TE}

theorem readExact.go_exits {hfilled : filled.length ≤ len} (s : Session S TS D SE TE)
    : Exits (Reached tcpIn Event.tcpRx s₀) (Stopped tcpIn Event.tcpRx s₀) (go len filled hfilled) s := by
  unfold go
  split
  . next hlt =>
    apply tcpPort.read_exits (fun _ => rfl) (by omega : 0 < len - filled.length)
    . intro _
      rfl
    . intro byte bytes _ _
      apply go_exits
    . intro e _
      apply fail_exits
      intro he
      contradiction
  . apply Exits.pure
termination_by len - filled.length
decreasing_by
  simp only [List.length_append, List.length_cons]
  omega

theorem readExact_exits (len : Nat) (s : Session S TS D SE TE)
    : Exits (Reached tcpIn Event.tcpRx s₀) (Stopped tcpIn Event.tcpRx s₀) (readExact len) s := by
  apply readExact.go_exits

theorem listen_exits (s : Session S TS D SE TE)
    : Exits (Reached tcpIn Event.tcpRx s₀) (Stopped tcpIn Event.tcpRx s₀) listen s := by
  unfold listen
  apply Exits.bind (readExact_exits 6 s)
  intro mbap s₁ _
  apply Exits.bind (room_exits _)
  intro req s₂ _
  apply pushBytes_exits (readExact_exits 1)

end ModbusTcp

namespace ModbusRtu

variable [Device S SE] [InOrder S] {s₀ : Session S TS D SE TE}

theorem readExact.go_exits {hfilled : filled.length ≤ len} (s : Session S TS D SE TE)
    : Exits (Reached serialIn Event.serialRx s₀) (Stopped serialIn Event.serialRx s₀)
        (go len filled hfilled attempt) s := by
  unfold go
  split
  . next hlt =>
    apply serialPort.read_exits (fun _ => rfl) (by omega : 0 < len - filled.length)
    . intro _
      rfl
    . intro byte bytes _ _
      apply go_exits
    . intro e _
      dsimp only
      split
      . apply fail_exits
        intro he
        contradiction
      . apply go_exits
  . apply Exits.pure
termination_by (len - filled.length) + (11 - attempt)
decreasing_by
  . simp only [List.length_append, List.length_cons]
    omega
  . omega

theorem readExact_exits (len : Nat) (s : Session S TS D SE TE)
    : Exits (Reached serialIn Event.serialRx s₀) (Stopped serialIn Event.serialRx s₀) (readExact len) s := by
  apply readExact.go_exits

theorem listen.listenRest_exits (fc : UInt8) (req : RtuFrame) (s : Session S TS D SE TE)
    : Exits (Reached serialIn Event.serialRx s₀) (Stopped serialIn Event.serialRx s₀)
        (listenRest fc req) s := by
  unfold listenRest
  split
  . apply Exits.bind (readExact_exits 5 s)
    intro fixed s₁ _
    apply Exits.bind (room_exits _)
    intro req s₂ _
    apply pushBytes_exits (readExact_exits 1)
  . apply Exits.bind (readExact_exits 6 s)
    intro rest s₁ _
    apply room_exits

theorem listen_exits (s : Session S TS D SE TE)
    : Exits (Reached serialIn Event.serialRx s₀) (Stopped serialIn Event.serialRx s₀) listen s := by
  unfold listen
  apply Exits.bind (readExact_exits 2 s)
  intro hdr s₁ _
  apply Exits.bind (room_exits _)
  intro req₀ s₂ _
  apply Exits.bind (listen.listenRest_exits _ req₀ s₂)
  intro req s₃ hrest
  apply Exits.bind (checkCrc_exits (listen.length_ge_of_listenRest hrest))
  intro _ s₄ _
  apply Exits.pure

theorem receive_exits (s : Session S TS D SE TE)
    : Exits (Reached serialIn Event.serialRx s₀) (Stopped serialIn Event.serialRx s₀) receive s := by
  unfold receive
  apply Exits.bind (readExact_exits 3 s)
  intro header s₁ _
  apply Exits.bind (room_exits _)
  intro resp₀ s₂ hresp
  apply Exits.bind (pushBytes_exits (readExact_exits 1) _ resp₀ s₂)
  intro resp s₃ hrest
  apply Exits.bind (checkCrc_exits (receive.length_ge_of_pushBytes hresp hrest))
  intro _ s₄ _
  apply Exits.pure

end ModbusRtu

end ModbusBridge
