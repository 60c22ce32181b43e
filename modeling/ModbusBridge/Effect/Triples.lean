import ModbusBridge.Effect.Lemmas

/-!
This module contains total correctness triples, and the rules to compose them along a program. A triple
says how a program ends, not only what holds if it returns.
-/

namespace Effect
namespace Exec

variable {σ ε δ α β : Type} {P Q R : σ → Prop}

/--
Started in a state with `P`, the program ends with `r` in a state with `Q`.
-/
def Ends (P : σ → Prop) (x : Exec σ ε α) (r : Except (Stop ε) α) (Q : σ → Prop) : Prop :=
  ∀ s, P s → outcome (x s) = r ∧ Q (finalState (x s))

namespace Ends

theorem of_eq_ok {x : Exec σ ε α} (h : ∀ s, P s → ∃ s', x s = .ok a s' ∧ Q s')
    : Ends P x (.ok a) Q := by
  intro s hs
  obtain ⟨s', hx, hs'⟩ := h s hs
  rw [hx]
  exact ⟨rfl, hs'⟩

theorem of_eq_error {x : Exec σ ε α} (h : ∀ s, P s → ∃ s', x s = .error e s' ∧ Q s')
    : Ends P x (.error e) Q := by
  intro s hs
  obtain ⟨s', hx, hs'⟩ := h s hs
  rw [hx]
  exact ⟨rfl, hs'⟩

theorem eq_ok {x : Exec σ ε α} (h : Ends P x (.ok a) Q) (hs : P s) : ∃ s', x s = .ok a s' ∧ Q s' := by
  obtain ⟨hx, hs'⟩ := h s hs
  exact ⟨_, eq_ok_of_outcome hx, hs'⟩

theorem eq_error {x : Exec σ ε α} (h : Ends P x (.error e) Q) (hs : P s)
    : ∃ s', x s = .error e s' ∧ Q s' := by
  obtain ⟨hx, hs'⟩ := h s hs
  exact ⟨_, eq_error_of_outcome hx, hs'⟩

theorem pure (a : α) : Ends P (Pure.pure a : Exec σ ε α) (.ok a) P := by
  intro s hs
  exact ⟨rfl, hs⟩

theorem fail (e : ε) : Ends P (Exec.fail e : Exec σ ε α) (.error (.failed e)) P := by
  intro s hs
  exact ⟨rfl, hs⟩

theorem bind {x : Exec σ ε α} {f : α → Exec σ ε β} (hx : Ends P x (.ok a) Q) (hf : Ends Q (f a) r R)
    : Ends P (x >>= f) r R := by
  intro s hs
  obtain ⟨s₁, hok, hs₁⟩ := hx.eq_ok hs
  rw [bind_ok hok]
  apply hf s₁ hs₁

theorem bind_error {x : Exec σ ε α} {f : α → Exec σ ε β} (hx : Ends P x (.error e) Q)
    : Ends P (x >>= f) (.error e) Q := by
  intro s hs
  obtain ⟨s₁, herror, hs₁⟩ := hx.eq_error hs
  rw [Exec.bind_error herror]
  exact ⟨rfl, hs₁⟩

theorem mapErr_ok {x : Exec σ ε α} {f : ε → δ} (hx : Ends P x (.ok a) Q)
    : Ends P (mapErr f x) (.ok a) Q := by
  intro s hs
  obtain ⟨s₁, hok, hs₁⟩ := hx.eq_ok hs
  rw [Exec.mapErr_ok hok]
  exact ⟨rfl, hs₁⟩

theorem mapErr_error {x : Exec σ ε α} {f : ε → δ} (hx : Ends P x (.error e) Q)
    : Ends P (mapErr f x) (.error (e.map f)) Q := by
  intro s hs
  obtain ⟨s₁, herror, hs₁⟩ := hx.eq_error hs
  rw [Exec.mapErr_error herror]
  exact ⟨rfl, hs₁⟩

theorem ofOption (e : ε) (h : o = some a) : Ends P (Exec.ofOption e o) (.ok a) P := by
  rw [h]
  apply pure

theorem ofOption_none (e : ε) (h : (o : Option α) = none)
    : Ends P (Exec.ofOption e o) (.error (.failed e)) P := by
  rw [h]
  apply fail

theorem ofExcept {r : Except ε α} (h : r = .ok a) : Ends P (Exec.ofExcept r) (.ok a) P := by
  rw [h]
  apply pure

end Ends

/--
`n` calls of a program, one after the other, each in the state that the one before has left. A call that
fails is followed by the next one all the same.
-/
def repeated (x : Exec σ ε α) : Nat → σ → List (Except (Stop ε) α) × σ
  | 0, s => ([], s)
  | n + 1, s =>
    let (rs, s') := repeated x n (finalState (x s))
    (outcome (x s) :: rs, s')

/--
The rule for repeated calls: the invariant says what has been done and what remains, and every call does
one piece of what remains.
-/
theorem repeated_ends (inv : List β → List β → σ → Prop) {x : Exec σ ε α}
    {r : β → Except (Stop ε) α}
    (hstep : ∀ done b rest, Ends (inv done (b :: rest)) x (r b) (inv (done ++ [b]) rest))
    (done rest : List β) (s : σ) (hs : inv done rest s)
    : (repeated x rest.length s).1 = rest.map r
        ∧ inv (done ++ rest) [] (repeated x rest.length s).2 := by
  -- One piece moves from `rest` to the end of `done` in every call.
  induction rest generalizing done s with
  | nil =>
    rw [List.append_nil]
    exact ⟨rfl, hs⟩
  | cons b rest ih =>
    obtain ⟨hr, hnext⟩ := hstep done b rest s hs
    obtain ⟨hrs, hend⟩ := ih (done ++ [b]) _ hnext
    rw [List.append_assoc, List.singleton_append] at hend
    refine ⟨?_, hend⟩
    show outcome (x s) :: (repeated x rest.length _).1 = _
    rw [hr, hrs, List.map_cons]

/--
The same for calls that may go wrong in a way that is left out of account: as long as none of them does, the
invariant about what remains is kept.
-/
theorem repeated_unless (bad : Except (Stop ε) α → Prop) (view : Except (Stop ε) α → γ)
    (inv : List β → σ → Prop) {x : Exec σ ε α} {r : β → γ}
    (hstep : ∀ b rest s, inv (b :: rest) s → ¬ bad (outcome (x s))
      → view (outcome (x s)) = r b ∧ inv rest (finalState (x s)))
    (rest : List β) (s : σ) (hs : inv rest s) (hgood : ∀ o ∈ (repeated x rest.length s).1, ¬ bad o)
    : (repeated x rest.length s).1.map view = rest.map r ∧ inv [] (repeated x rest.length s).2 := by
  induction rest generalizing s with
  | nil => exact ⟨rfl, hs⟩
  | cons b rest ih =>
    have hgood : ∀ o ∈ outcome (x s) :: (repeated x rest.length (finalState (x s))).1, ¬ bad o := hgood
    rw [List.forall_mem_cons] at hgood
    obtain ⟨hview, hnext⟩ := hstep b rest s hs hgood.1
    obtain ⟨hviews, hend⟩ := ih _ hnext hgood.2
    refine ⟨?_, hend⟩
    show view (outcome (x s)) :: (repeated x rest.length _).1.map view = _
    rw [hview, hviews, List.map_cons]

end Exec
end Effect
