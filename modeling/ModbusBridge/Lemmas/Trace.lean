import ModbusBridge.Lemmas.Session
import ModbusBridge.Spec.Trace

/-!
This module contains the lemmas about traces: which kinds of events an observation depends on, and
what the events between two states amount to.
-/

namespace ModbusBridge

open Effect EmbeddedIo

variable {S TS D SE TE : Type}

namespace Event

/--
Only events of one kind contribute to the observation.
-/
def OnlyOf (k : Kind) (obs : Event SE TE → List α) : Prop :=
  ∀ e : Event SE TE, e.kind ≠ k → obs e = []

theorem onlyOf_serialRx : OnlyOf .serialRead (serialRx : Event SE TE → List UInt8) := by
  intro e h
  unfold serialRx IoEvent.delivered
  split
  . split
    . contradiction
    . rfl
  . rfl

theorem onlyOf_serialTx : OnlyOf .serialWrite (serialTx : Event SE TE → List UInt8) := by
  intro e h
  unfold serialTx IoEvent.accepted
  split
  . split
    . contradiction
    . rfl
  . rfl

theorem onlyOf_tcpRx : OnlyOf .tcpRead (tcpRx : Event SE TE → List UInt8) := by
  intro e h
  unfold tcpRx IoEvent.delivered
  split
  . split
    . contradiction
    . rfl
  . rfl

theorem onlyOf_tcpTx : OnlyOf .tcpWrite (tcpTx : Event SE TE → List UInt8) := by
  intro e h
  unfold tcpTx IoEvent.accepted
  split
  . split
    . contradiction
    . rfl
  . rfl

theorem onlyOf_rtuFrames : OnlyOf .rtuSend (rtuFrames : Event SE TE → List (List UInt8)) := by
  intro e h
  unfold rtuFrames
  split
  . contradiction
  . rfl

theorem onlyOf_tcpFrames : OnlyOf .tcpSend (tcpFrames : Event SE TE → List (List UInt8)) := by
  intro e h
  unfold tcpFrames
  split
  . contradiction
  . rfl

theorem OnlyOf.flatMap_eq_nil {obs : Event SE TE → List α} {t : List (Event SE TE)}
    {kinds : List Kind} (hobs : OnlyOf k obs) (h : ∀ e ∈ t, e.kind ∈ kinds) (hk : k ∉ kinds)
    : t.flatMap obs = [] := by
  rw [List.flatMap_eq_nil_iff]
  intro e he
  apply hobs
  intro heq
  apply hk
  rw [← heq]
  apply h e he

end Event

namespace Session

/--
What the observation shows of the events between `s` and `s'` is `seen`.
-/
def Yields (obs : Event SE TE → List α) (seen : List α) (s s' : Session S TS D SE TE) : Prop :=
  ∃ t, s'.trace = s.trace ++ t ∧ t.flatMap obs = seen

namespace Yields

variable {obs : Event SE TE → List α} {s s₁ s' : Session S TS D SE TE}

theorem refl (s : Session S TS D SE TE) : Yields obs [] s s := ⟨[], by simp⟩

theorem trans (h₁ : Yields obs seen₁ s s₁) (h₂ : Yields obs seen₂ s₁ s')
    : Yields obs (seen₁ ++ seen₂) s s' := by
  obtain ⟨t₁, ht₁, hobs₁⟩ := h₁
  obtain ⟨t₂, ht₂, hobs₂⟩ := h₂
  refine ⟨t₁ ++ t₂, ?_, ?_⟩
  . rw [ht₂, ht₁, List.append_assoc]
  . rw [List.flatMap_append, hobs₁, hobs₂]

theorem of_emits (hobs : Event.OnlyOf k obs) (h : Emits kinds s s') (hk : k ∉ kinds)
    : Yields obs [] s s' := by
  obtain ⟨t, ht, hkinds⟩ := h
  exact ⟨t, ht, hobs.flatMap_eq_nil hkinds hk⟩

theorem append_quiet (h₁ : Yields obs seen s s₁) (h₂ : Yields obs [] s₁ s') : Yields obs seen s s' := by
  have := h₁.trans h₂
  rwa [List.append_nil] at this

theorem quiet_append (h₁ : Yields obs [] s s₁) (h₂ : Yields obs seen s₁ s') : Yields obs seen s s' :=
  h₁.trans h₂

theorem unique (h₁ : Yields obs seen₁ s s') (h₂ : Yields obs seen₂ s s') : seen₁ = seen₂ := by
  obtain ⟨t₁, ht₁, rfl⟩ := h₁
  obtain ⟨t₂, ht₂, rfl⟩ := h₂
  rw [ht₁] at ht₂
  rw [List.append_cancel_left ht₂]

end Yields

theorem Emits.kind_mem {s s' : Session S TS D SE TE} (h : Emits kinds s s') (ht : s'.trace = s.trace ++ t)
    : ∀ e ∈ t, e.kind ∈ kinds := by
  obtain ⟨t', ht', hkinds⟩ := h
  rw [ht] at ht'
  rw [List.append_cancel_left ht']
  apply hkinds

theorem Yields.flatMap_of_trace {obs : Event SE TE → List α} {s s' : Session S TS D SE TE}
    (h : Yields obs seen s s') (ht : s'.trace = s.trace ++ t) : t.flatMap obs = seen := by
  obtain ⟨t', ht', hobs⟩ := h
  rw [ht] at ht'
  rw [List.append_cancel_left ht', hobs]

theorem during_eq {x : Exec (Session S TS D SE TE) ε α} {s : Session S TS D SE TE}
    (h : (finalState (x s)).trace = s.trace ++ t) : during x s = t := by
  unfold during
  rw [h]
  simp

theorem Yields.flatMap_during {x : Exec (Session S TS D SE TE) ε α} {s : Session S TS D SE TE}
    {obs : Event SE TE → List β} (h : Yields obs seen s (finalState (x s)))
    : (during x s).flatMap obs = seen := by
  obtain ⟨t, ht, hobs⟩ := h
  rw [during_eq ht, hobs]

theorem Yields.of_during {x : Exec (Session S TS D SE TE) ε α} {s : Session S TS D SE TE}
    {any : Event SE TE → List β} (h : Yields any seen s (finalState (x s))) (obs : Event SE TE → List γ)
    : Yields obs ((during x s).flatMap obs) s (finalState (x s)) := by
  obtain ⟨t, ht, _⟩ := h
  rw [during_eq ht]
  exact ⟨t, ht, rfl⟩

end Session

end ModbusBridge
