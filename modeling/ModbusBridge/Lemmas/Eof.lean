import ModbusBridge.Lemmas.Reads

/-!
This module contains what `PayloadTooShort` stands for while the RTU transport reads: the serial port has
reported the end of its input, and it was the last read.
-/

namespace ModbusBridge

open Effect EmbeddedIo Session

variable {S TS D SE TE : Type}

namespace Event

/--
One `()` for each serial read that returned no bytes.
-/
def serialEof : Event SE TE → List Unit
  | .serial (.read _ (.ok [])) => [()]
  | _ => []

theorem onlyOf_serialEof : OnlyOf .serialRead (serialEof : Event SE TE → List Unit) := by
  intro e h
  unfold serialEof
  split
  . contradiction
  . rfl

theorem flatMap_serialEof_ne_nil {t : List (Event SE TE)}
    : t.flatMap serialEof ≠ [] ↔ ∃ n, .serial (.read n (.ok [])) ∈ t := by
  rw [ne_eq, List.flatMap_eq_nil_iff]
  constructor
  . intro h
    apply Classical.byContradiction
    intro hnone
    apply h
    intro e he
    unfold serialEof
    split
    . next n => exact absurd ⟨n, he⟩ hnone
    . rfl
  . rintro ⟨n, he⟩ h
    exact absurd (h _ he) (by simp [serialEof])

end Event

namespace Session

def eofs : Except (Stop (ModbusError SE TE)) α → List Unit
  | .error (.failed .payloadTooShort) => [()]
  | _ => []

theorem eofs_map (f : α → β) (r : Except (Stop (ModbusError SE TE)) α) : eofs (r.map f) = eofs r := by
  cases r with
  | ok a => rfl
  | error e => cases e with
    | failed e => cases e <;> rfl
    | dropped => rfl

/--
Started in `s`, the program ends with `PayloadTooShort` if one of its serial reads returns no bytes, and
only then.
-/
def EofAt (x : Exec (Session S TS D SE TE) (ModbusError SE' TE') α) (s : Session S TS D SE TE) : Prop :=
  Yields Event.serialEof (eofs (outcome (x s))) s (finalState (x s))

namespace EofAt

variable {s : Session S TS D SE TE} {x : Exec (Session S TS D SE TE) (ModbusError SE' TE') α}
  {f : α → Exec (Session S TS D SE TE) (ModbusError SE' TE') β}

theorem pure (a : α) : EofAt (Pure.pure a : Exec _ (ModbusError SE' TE') α) s := .refl s

theorem fail {e : ModbusError SE' TE'} (h : e ≠ .payloadTooShort) : EofAt (Exec.fail e : Exec _ _ α) s := by
  have hnone : eofs (.error (.failed e) : Except (Stop (ModbusError SE' TE')) α) = [] := by
    cases e <;> first | rfl | contradiction
  show Yields _ (eofs (.error (.failed e) : Except (Stop (ModbusError SE' TE')) α)) s s
  rw [hnone]
  apply Yields.refl

theorem ofOption {e : ModbusError SE' TE'} (h : e ≠ .payloadTooShort) (o : Option α)
    : EofAt (Exec.ofOption e o) s := by
  cases o with
  | some a => apply pure
  | none => apply fail h

theorem bind (hx : EofAt x s) (hf : ∀ a s₁, x s = .ok a s₁ → EofAt (f a) s₁) : EofAt (x >>= f) s := by
  unfold EofAt at hx ⊢
  cases h : x s with
  | ok a s₁ =>
    rw [h] at hx
    rw [Exec.bind_ok h]
    apply Yields.quiet_append hx (hf a s₁ h)
  | error e s₁ =>
    rw [h] at hx
    rw [Exec.bind_error h]
    cases e with
    | dropped => apply hx
    | failed e => cases e <;> apply hx

theorem of_ok (h : EofAt x s) (hx : x s = .ok a s') : Yields Event.serialEof [] s s' := by
  unfold EofAt at h
  rwa [hx] at h

theorem of_error (h : EofAt x s) (hx : x s = .error e s')
    : Yields Event.serialEof (eofs (.error e : Except _ α)) s s' := by
  unfold EofAt at h
  rwa [hx] at h

end EofAt

theorem pushBytes_eofAt {readByte : Exec (Session S TS D SE TE) (ModbusError SE' TE') (Vector UInt8 1)}
    (hread : ∀ s, EofAt readByte s) (n : Nat) (buf : Heapless.Vec UInt8 cap) (s : Session S TS D SE TE)
    : EofAt (pushBytes readByte n buf) s := by
  induction n generalizing buf s with
  | zero => apply EofAt.pure
  | succ n ih =>
    unfold pushBytes
    apply EofAt.bind (hread s)
    intro byte s₁ _
    apply EofAt.bind (EofAt.ofOption (by simp) _)
    intro buf₁ s₂ _
    apply ih

theorem checkCrc_eofAt {frame : List UInt8} (hlen : 4 ≤ frame.length) (s : Session S TS D SE TE)
    : EofAt (Exec.mapErr FrameError.intoCombined (Exec.ofExcept (checkCrc frame))
        : Exec _ (ModbusError SE' TE') Unit) s := by
  obtain hcrc | hcrc := checkCrc_of_length hlen
  . rw [hcrc]
    apply EofAt.pure
  . rw [hcrc]
    apply EofAt.fail
    exact nofun

end Session

namespace ModbusRtu

variable [Device S SE]

def emptyAnswer : Except (Stop SE) (List UInt8) → List Unit
  | .ok [] => [()]
  | _ => []

theorem serialRead_shows_empty (n : Nat) (s : Session S TS D SE TE)
    : Yields Event.serialEof (emptyAnswer ((outcome (serialRead n s)).map Subtype.val)) s
        (finalState (serialRead n s)) := by
  refine ⟨_, trace_serialRead n s, ?_⟩
  rw [List.flatMap_singleton]
  rcases (outcome (serialRead n s)).map Subtype.val with e | (_ | ⟨byte, bytes⟩)
  . rfl
  . rfl
  . rfl

theorem flatMap_emptyAnswer_of_not_eof {rs : List (Except (Stop SE) (List UInt8))} (h : .ok [] ∉ rs)
    : rs.flatMap emptyAnswer = [] := by
  rw [List.flatMap_eq_nil_iff]
  intro answer hanswer
  unfold emptyAnswer
  split
  . exact absurd hanswer h
  . rfl

theorem flatMap_emptyAnswer_of_ends {rs : List (Except (Stop SE) (List UInt8))}
    {r : ReadEnd SE UInt8} (h : Ends retries len rs r)
    : rs.flatMap emptyAnswer = eofs (reported (.serial : SE → ModbusError SE TE) r) := by
  cases h with
  | full h hlen => apply flatMap_emptyAnswer_of_not_eof h.not_eof
  | stopped h hend =>
    rw [List.flatMap_append, flatMap_emptyAnswer_of_not_eof h.not_eof, List.flatMap_singleton, List.nil_append]
    cases r with
    | full bytes => exact (endOf_ne_full _ hend).elim
    | eof =>
      rw [endOf_eq_eof.mp hend]
      rfl
    | failed e =>
      rw [(endOf_eq_failed.mp hend).2]
      rfl
    | dropped =>
      rw [endOf_eq_dropped.mp hend]
      rfl

theorem readExact_eofAt (len : Nat) (s : Session S TS D SE TE) : EofAt (readExact len) s := by
  obtain ⟨n, r, hends, houtcome, hfinal⟩ := readExact_reads len s
  unfold EofAt
  rw [hfinal, ← eofs_map Vector.toList, houtcome, ← flatMap_emptyAnswer_of_ends hends]
  apply stateAfter_yields serialRead_shows_empty

theorem listen.listenRest_eofAt (fc : UInt8) (req : RtuFrame) (s : Session S TS D SE TE)
    : EofAt (listenRest fc req) s := by
  unfold listenRest
  split
  . apply EofAt.bind (readExact_eofAt 5 s)
    intro fixed s₁ _
    apply EofAt.bind (EofAt.ofOption (by simp) _)
    intro req s₂ _
    apply pushBytes_eofAt (readExact_eofAt 1)
  . apply EofAt.bind (readExact_eofAt 6 s)
    intro rest s₁ _
    apply EofAt.ofOption
    simp

theorem listen_eofAt (s : Session S TS D SE TE) : EofAt listen s := by
  unfold listen
  apply EofAt.bind (readExact_eofAt 2 s)
  intro hdr s₁ _
  apply EofAt.bind (EofAt.ofOption (by simp) _)
  intro req₀ s₂ _
  apply EofAt.bind (listen.listenRest_eofAt _ req₀ s₂)
  intro req s₃ hrest
  apply EofAt.bind (checkCrc_eofAt (listen.length_ge_of_listenRest hrest) s₃)
  intro _ s₄ _
  apply EofAt.pure

theorem receive_eofAt (s : Session S TS D SE TE) : EofAt receive s := by
  unfold receive
  apply EofAt.bind (readExact_eofAt 3 s)
  intro header s₁ _
  apply EofAt.bind (EofAt.ofOption (by simp) _)
  intro resp₀ s₂ hresp
  apply EofAt.bind (pushBytes_eofAt (readExact_eofAt 1) _ resp₀ s₂)
  intro resp s₃ hrest
  apply EofAt.bind (checkCrc_eofAt (receive.length_ge_of_pushBytes hresp hrest) s₃)
  intro _ s₄ _
  apply EofAt.pure

end ModbusRtu

end ModbusBridge
