import ModbusBridge.Lemmas.Port

/-!
This module contains the footprints of the operations of a session: which fields they leave alone and
which kinds of events they add to the trace.
-/

namespace ModbusBridge

open Effect EmbeddedIo

namespace Event

inductive Kind where
  | rtuSend
  | tcpSend
  | serialRead
  | serialWrite
  | serialFlush
  | serialReady
  | tcpRead
  | tcpWrite
  | tcpFlush
  | tcpReady
  | txEn
  | delayMs
  deriving DecidableEq

def kind : Event SE TE → Kind
  | .rtuSend _ => .rtuSend
  | .tcpSend _ => .tcpSend
  | .serial (.read ..) => .serialRead
  | .serial (.write ..) => .serialWrite
  | .serial (.flush _) => .serialFlush
  | .serial (.readReady _) => .serialReady
  | .tcp (.read ..) => .tcpRead
  | .tcp (.write ..) => .tcpWrite
  | .tcp (.flush _) => .tcpFlush
  | .tcp (.readReady _) => .tcpReady
  | .txEn _ => .txEn
  | .delayMs _ => .delayMs

end Event

namespace Session

variable {S TS D SE TE : Type}

def Emits (kinds : List Event.Kind) (s s' : Session S TS D SE TE) : Prop :=
  ∃ t, s'.trace = s.trace ++ t ∧ ∀ e ∈ t, e.kind ∈ kinds

namespace Emits

variable {kinds : List Event.Kind} {s s₁ s' : Session S TS D SE TE}

theorem refl (s : Session S TS D SE TE) : Emits kinds s s := ⟨[], by simp⟩

theorem trans (h₁ : Emits kinds s s₁) (h₂ : Emits kinds s₁ s') : Emits kinds s s' := by
  obtain ⟨t₁, ht₁, hk₁⟩ := h₁
  obtain ⟨t₂, ht₂, hk₂⟩ := h₂
  refine ⟨t₁ ++ t₂, by rw [ht₂, ht₁, List.append_assoc], ?_⟩
  intro e he
  cases List.mem_append.mp he with
  | inl he => exact hk₁ e he
  | inr he => exact hk₂ e he

theorem single {e : Event SE TE} (h : s'.trace = s.trace ++ [e]) (hk : e.kind ∈ kinds)
    : Emits kinds s s' := ⟨[e], h, by simpa using hk⟩

theorem mono {kinds' : List Event.Kind} (h : Emits kinds s s') (hsub : kinds ⊆ kinds')
    : Emits kinds' s s' := by
  obtain ⟨t, ht, hk⟩ := h
  exact ⟨t, ht, fun e he => hsub (hk e he)⟩

end Emits

instance (kinds : List Event.Kind) : IsPreorder (Session S TS D SE TE) (Emits kinds) where
  refl := Emits.refl
  trans _ _ _ := Emits.trans

/--
A step that uses the TCP stream only.
-/
structure OnTcp (kinds : List Event.Kind) (s s' : Session S TS D SE TE) : Prop where
  serial_eq : s'.serial = s.serial
  txEn_eq : s'.txEn = s.txEn
  transactionId_eq : s'.transactionId = s.transactionId
  rtuTimeoutMs_eq : s'.rtuTimeoutMs = s.rtuTimeoutMs
  tcpTimeoutMs_eq : s'.tcpTimeoutMs = s.tcpTimeoutMs
  emits : Emits kinds s s'

/--
A step that uses the serial port only, and the TX-enable pin only if that is among the `kinds`.
-/
structure OnSerial (kinds : List Event.Kind) (s s' : Session S TS D SE TE) : Prop where
  stream_eq : s'.stream = s.stream
  txEn_eq : .txEn ∉ kinds → s'.txEn = s.txEn
  transactionId_eq : s'.transactionId = s.transactionId
  rtuTimeoutMs_eq : s'.rtuTimeoutMs = s.rtuTimeoutMs
  tcpTimeoutMs_eq : s'.tcpTimeoutMs = s.tcpTimeoutMs
  emits : Emits kinds s s'

instance (kinds : List Event.Kind) : IsPreorder (Session S TS D SE TE) (OnTcp kinds) where
  refl s := ⟨rfl, rfl, rfl, rfl, rfl, .refl s⟩
  trans _ _ _ h₁ h₂ := {
    serial_eq := h₂.serial_eq.trans h₁.serial_eq
    txEn_eq := h₂.txEn_eq.trans h₁.txEn_eq
    transactionId_eq := h₂.transactionId_eq.trans h₁.transactionId_eq
    rtuTimeoutMs_eq := h₂.rtuTimeoutMs_eq.trans h₁.rtuTimeoutMs_eq
    tcpTimeoutMs_eq := h₂.tcpTimeoutMs_eq.trans h₁.tcpTimeoutMs_eq
    emits := h₁.emits.trans h₂.emits
  }

instance (kinds : List Event.Kind) : IsPreorder (Session S TS D SE TE) (OnSerial kinds) where
  refl s := ⟨rfl, fun _ => rfl, rfl, rfl, rfl, .refl s⟩
  trans _ _ _ h₁ h₂ := {
    stream_eq := h₂.stream_eq.trans h₁.stream_eq
    txEn_eq := fun h => (h₂.txEn_eq h).trans (h₁.txEn_eq h)
    transactionId_eq := h₂.transactionId_eq.trans h₁.transactionId_eq
    rtuTimeoutMs_eq := h₂.rtuTimeoutMs_eq.trans h₁.rtuTimeoutMs_eq
    tcpTimeoutMs_eq := h₂.tcpTimeoutMs_eq.trans h₁.tcpTimeoutMs_eq
    emits := h₁.emits.trans h₂.emits
  }

theorem OnTcp.timers (kinds : List Event.Kind) (s : Session S TS D SE TE) (delay : D)
    (deadline : Option Nat) : OnTcp kinds s { s with delay, deadline } :=
  ⟨rfl, rfl, rfl, rfl, rfl, ⟨[], (List.append_nil _).symm, by simp⟩⟩

theorem OnSerial.timers (kinds : List Event.Kind) (s : Session S TS D SE TE) (delay : D)
    (deadline : Option Nat) : OnSerial kinds s { s with delay, deadline } :=
  ⟨rfl, fun _ => rfl, rfl, rfl, rfl, ⟨[], (List.append_nil _).symm, by simp⟩⟩

theorem OnTcp.mono {kinds kinds' : List Event.Kind} {s s' : Session S TS D SE TE}
    (h : OnTcp kinds s s') (hsub : kinds ⊆ kinds') : OnTcp kinds' s s' :=
  { h with emits := h.emits.mono hsub }

theorem OnSerial.mono {kinds kinds' : List Event.Kind} {s s' : Session S TS D SE TE}
    (h : OnSerial kinds s s') (hsub : kinds ⊆ kinds') : OnSerial kinds' s s' :=
  { h with txEn_eq := fun hpin => h.txEn_eq (fun hmem => hpin (hsub hmem)), emits := h.emits.mono hsub }

open Exec (Within)

section Operations

variable {kinds : List Event.Kind}

theorem perform_onSerial (op : S → Completion S SE α) {ev : Except (Stop SE) α → IoEvent SE}
    (h : ∀ r, (Event.serial (ev r) : Event SE TE).kind ∈ kinds)
    : Within (OnSerial kinds) (serialPort.perform op ev : Exec (Session S TS D SE TE) SE α) := by
  intro s
  rw [Port.finalState_perform]
  exact ⟨rfl, fun _ => rfl, rfl, rfl, rfl, .single rfl (h _)⟩

theorem perform_onTcp (op : TS → Completion TS TE α) {ev : Except (Stop TE) α → IoEvent TE}
    (h : ∀ r, (Event.tcp (ev r) : Event SE TE).kind ∈ kinds)
    : Within (OnTcp kinds) (tcpPort.perform op ev : Exec (Session S TS D SE TE) TE α) := by
  intro s
  rw [Port.finalState_perform]
  exact ⟨rfl, rfl, rfl, rfl, rfl, .single rfl (h _)⟩

section Serial

variable [Device S SE]

theorem trace_serialRead (n : Nat) (s : Session S TS D SE TE)
    : (finalState (serialRead n s)).trace
        =
      s.trace ++ [.serial (.read n ((outcome (serialRead n s)).map Subtype.val))] :=
  serialPort.trace_read n s

theorem trace_serialWrite (buf : List UInt8) (h : buf ≠ []) (s : Session S TS D SE TE)
    : (finalState (serialWrite buf h s)).trace
        =
      s.trace ++ [.serial (.write buf ((outcome (serialWrite buf h s)).map Subtype.val))] :=
  serialPort.trace_write buf h s

theorem trace_serialFlush (s : Session S TS D SE TE)
    : (finalState (serialFlush s)).trace
        =
      s.trace ++ [.serial (.flush (outcome (serialFlush s)))] :=
  serialPort.trace_flush s

theorem serialRead_onSerial (h : .serialRead ∈ kinds) (n : Nat)
    : Within (OnSerial kinds) (serialRead n : Exec (Session S TS D SE TE) SE _) := by
  show Within _ (serialPort.read n)
  apply perform_onSerial
  intro r
  exact h

theorem serialWrite_onSerial (h : .serialWrite ∈ kinds) (buf : List UInt8) (hbuf : buf ≠ [])
    : Within (OnSerial kinds) (serialWrite buf hbuf : Exec (Session S TS D SE TE) SE _) := by
  show Within _ (serialPort.write buf hbuf)
  apply perform_onSerial
  intro r
  exact h

theorem serialFlush_onSerial (h : .serialFlush ∈ kinds)
    : Within (OnSerial kinds) (serialFlush : Exec (Session S TS D SE TE) SE _) := by
  show Within _ serialPort.flush
  apply perform_onSerial
  intro r
  exact h

end Serial

section Stream

variable [Device TS TE]

theorem trace_tcpRead (n : Nat) (s : Session S TS D SE TE)
    : (finalState (tcpRead n s)).trace
        =
      s.trace ++ [.tcp (.read n ((outcome (tcpRead n s)).map Subtype.val))] :=
  tcpPort.trace_read n s

theorem trace_tcpWrite (buf : List UInt8) (h : buf ≠ []) (s : Session S TS D SE TE)
    : (finalState (tcpWrite buf h s)).trace
        =
      s.trace ++ [.tcp (.write buf ((outcome (tcpWrite buf h s)).map Subtype.val))] :=
  tcpPort.trace_write buf h s

theorem tcpRead_onTcp (h : .tcpRead ∈ kinds) (n : Nat)
    : Within (OnTcp kinds) (tcpRead n : Exec (Session S TS D SE TE) TE _) := by
  show Within _ (tcpPort.read n)
  apply perform_onTcp
  intro r
  exact h

theorem tcpWrite_onTcp (h : .tcpWrite ∈ kinds) (buf : List UInt8) (hbuf : buf ≠ [])
    : Within (OnTcp kinds) (tcpWrite buf hbuf : Exec (Session S TS D SE TE) TE _) := by
  show Within _ (tcpPort.write buf hbuf)
  apply perform_onTcp
  intro r
  exact h

end Stream

theorem note_onTcp (e : Event SE TE) (h : e.kind ∈ kinds)
    : Within (OnTcp kinds) (note e : Exec (Session S TS D SE TE) ε Unit) :=
  fun _ => ⟨rfl, rfl, rfl, rfl, rfl, .single rfl h⟩

theorem note_onSerial (e : Event SE TE) (h : e.kind ∈ kinds)
    : Within (OnSerial kinds) (note e : Exec (Session S TS D SE TE) ε Unit) :=
  fun _ => ⟨rfl, fun _ => rfl, rfl, rfl, rfl, .single rfl h⟩

theorem setTxEn_onSerial (h : .txEn ∈ kinds) (high : Bool)
    : Within (OnSerial kinds) (setTxEn high : Exec (Session S TS D SE TE) ε Unit) :=
  fun _ => ⟨rfl, fun hpin => absurd h hpin, rfl, rfl, rfl, .single rfl h⟩

theorem serialReadReady_onSerial [ReadReady S SE] (h : .serialReady ∈ kinds)
    : Within (OnSerial kinds) (serialReadReady : Exec (Session S TS D SE TE) SE Bool) := by
  intro s
  unfold serialReadReady
  rw [Port.finalState_readReady]
  exact ⟨rfl, fun _ => rfl, rfl, rfl, rfl, .single rfl h⟩

theorem tcpReadReady_onTcp [ReadReady TS TE] (h : .tcpReady ∈ kinds)
    : Within (OnTcp kinds) (tcpReadReady : Exec (Session S TS D SE TE) TE Bool) := by
  intro s
  unfold tcpReadReady
  rw [Port.finalState_readReady]
  exact ⟨rfl, rfl, rfl, rfl, rfl, .single rfl h⟩

theorem delayMs_onSerial [DelayNs D] (h : .delayMs ∈ kinds) (ms : UInt32)
    : Within (OnSerial kinds) (delayMs ms : Exec (Session S TS D SE TE) ε Unit) :=
  fun _ => ⟨rfl, fun _ => rfl, rfl, rfl, rfl, .single rfl h⟩

theorem delayMs_onTcp [DelayNs D] (h : .delayMs ∈ kinds) (ms : UInt32)
    : Within (OnTcp kinds) (delayMs ms : Exec (Session S TS D SE TE) ε Unit) :=
  fun _ => ⟨rfl, rfl, rfl, rfl, rfl, .single rfl h⟩

end Operations

end Session

theorem pushBytes_within {R : σ → σ → Prop} [IsPreorder σ R]
    {readByte : Exec σ (ModbusError SE TE) (Vector UInt8 1)} (h : Exec.Within R readByte) (n : Nat)
    (buf : Heapless.Vec UInt8 cap) : Exec.Within R (pushBytes readByte n buf) := by
  induction n generalizing buf with
  | zero => exact Exec.Within.pure buf
  | succ n ih =>
    unfold pushBytes
    refine Exec.Within.bind h fun byte => ?_
    refine Exec.Within.bind (Exec.Within.ofOption _ _) fun buf => ?_
    exact ih buf

theorem writeAll_within {R : σ → σ → Prop} [IsPreorder σ R]
    {write : (buf : List UInt8) → buf ≠ [] → Exec σ ε {n : Nat // 0 < n ∧ n ≤ buf.length}}
    (h : ∀ buf hbuf, Exec.Within R (write buf hbuf)) (data : List UInt8) : Exec.Within R (writeAll write data) := by
  unfold writeAll
  split
  . apply Exec.Within.pure
  . next hne =>
    apply Exec.Within.bind (h data hne)
    intro n
    apply writeAll_within h
termination_by data.length
decreasing_by
  have := n.property
  simp only [List.length_drop]
  omega

end ModbusBridge
