import ModbusBridge.Effect.Lemmas

/-!
This module contains what it takes to read an exact number of bytes with reads that return some of them, find
the stream at its end or fail, when only so many failures are put up with.
-/

namespace EmbeddedIo

open Effect

variable {σ ε α : Type}

section Answers

def brought : Except (Stop ε) (List α) → List α
  | .ok bytes => bytes
  | .error _ => []

def arrived (rs : List (Except (Stop ε) (List α))) : List α := rs.flatMap brought

def failures (rs : List (Except (Stop ε) (List α))) : Nat :=
  rs.countP fun
    | .ok _ => false
    | .error _ => true

/--
Neither the end of the stream nor a drop is among the answers, nor more than `retries` failures.
-/
structure Undisturbed (retries : Nat) (rs : List (Except (Stop ε) (List α))) : Prop where
  not_eof : .ok [] ∉ rs
  not_dropped : .error .dropped ∉ rs
  failures_le : failures rs ≤ retries

/--
After these answers there is reason to read on: some of the `len` bytes are missing.
-/
structure Unsettled (retries len : Nat) (rs : List (Except (Stop ε) (List α))) : Prop
    extends Undisturbed retries rs where
  missing : (arrived rs).length < len

variable {rs rs' : List (Except (Stop ε) (List α))} {retries len : Nat}

@[simp]
theorem arrived_append (rs rs' : List (Except (Stop ε) (List α)))
    : arrived (rs ++ rs') = arrived rs ++ arrived rs' := by
  simp [arrived]

@[simp]
theorem failures_append (rs rs' : List (Except (Stop ε) (List α)))
    : failures (rs ++ rs') = failures rs + failures rs' := by
  simp [failures]

@[simp]
theorem arrived_ok (bytes : List α) : arrived [(.ok bytes : Except (Stop ε) (List α))] = bytes := by
  simp [arrived, brought]

@[simp]
theorem arrived_error (e : Stop ε) : arrived [(.error e : Except (Stop ε) (List α))] = [] := rfl

@[simp]
theorem failures_ok (bytes : List α) : failures [(.ok bytes : Except (Stop ε) (List α))] = 0 := rfl

@[simp]
theorem failures_error (e : Stop ε) : failures [(.error e : Except (Stop ε) (List α))] = 1 := rfl

theorem Undisturbed.of_append (h : Undisturbed retries (rs ++ rs')) : Undisturbed retries rs where
  not_eof hmem := h.not_eof (List.mem_append_left _ hmem)
  not_dropped hmem := h.not_dropped (List.mem_append_left _ hmem)
  failures_le := by
    have := h.failures_le
    rw [failures_append] at this
    omega

theorem Unsettled.of_append (h : Unsettled retries len (rs ++ rs')) : Unsettled retries len rs where
  toUndisturbed := h.toUndisturbed.of_append
  missing := by
    have := h.missing
    rw [arrived_append, List.length_append] at this
    omega

theorem Undisturbed.append_bytes (h : Undisturbed retries rs) {bytes : List α} (hne : bytes ≠ [])
    : Undisturbed retries (rs ++ [.ok bytes]) where
  not_eof := by simpa using ⟨h.not_eof, hne⟩
  not_dropped := by simpa using h.not_dropped
  failures_le := by simpa using h.failures_le

theorem Undisturbed.append_failure (h : Undisturbed retries rs) (hlt : failures rs < retries) (e : ε)
    : Undisturbed retries (rs ++ [.error (.failed e)]) where
  not_eof := by simpa using h.not_eof
  not_dropped := by simpa using h.not_dropped
  failures_le := by simpa using Nat.succ_le_of_lt hlt

/--
Every answer brings at least one byte or counts as a failure.
-/
theorem length_le_of_not_eof (h : .ok [] ∉ rs) : rs.length ≤ (arrived rs).length + failures rs := by
  induction rs with
  | nil => simp
  | cons r rs ih =>
    rw [List.mem_cons, not_or] at h
    have hrest := ih h.2
    have hsplit : r :: rs = [r] ++ rs := rfl
    rw [hsplit, arrived_append, failures_append, List.length_append, List.length_append]
    cases r with
    | ok bytes =>
      have hpos : 0 < bytes.length := by
        apply List.length_pos_iff.mpr
        rintro rfl
        exact h.1 rfl
      simp only [arrived_ok, failures_ok, List.length_singleton]
      omega
    | error e =>
      simp only [arrived_error, failures_error, List.length_singleton, List.length_nil]
      omega

end Answers

section Ends

inductive ReadEnd (ε α : Type) where
  | full (bytes : List α)
  | eof
  | failed (e : ε)
  | dropped

/--
How an answer ends the reading at once, after `failed` failures.
-/
def endOf (retries failed : Nat) : Except (Stop ε) (List α) → Option (ReadEnd ε α)
  | .ok [] => some .eof
  | .ok (_ :: _) => none
  | .error (.failed e) => if failed < retries then none else some (.failed e)
  | .error .dropped => some .dropped

/--
`Ends retries len rs r`: with the answers `rs`, reading `len` bytes ends with `r`.
-/
inductive Ends (retries len : Nat) : List (Except (Stop ε) (List α)) → ReadEnd ε α → Prop where
  | full (h : Undisturbed retries rs) (hlen : (arrived rs).length = len) : Ends retries len rs (.full (arrived rs))
  | stopped (h : Unsettled retries len rs) (hend : endOf retries (failures rs) last = some r)
      : Ends retries len (rs ++ [last]) r

theorem endOf_ne_full {failed : Nat} {bytes : List α} (last : Except (Stop ε) (List α))
    : endOf retries failed last ≠ some (.full bytes) := by
  fun_cases endOf
  all_goals simp

theorem endOf_eq_eof {failed : Nat} {last : Except (Stop ε) (List α)}
    : endOf retries failed last = some .eof ↔ last = .ok [] := by
  fun_cases endOf
  all_goals simp

theorem endOf_eq_failed {failed : Nat} {last : Except (Stop ε) (List α)} {e : ε}
    : endOf retries failed last = some (.failed e) ↔ retries ≤ failed ∧ last = .error (.failed e) := by
  fun_cases endOf
  all_goals simp
  all_goals omega

theorem endOf_eq_dropped {failed : Nat} {last : Except (Stop ε) (List α)}
    : endOf retries failed last = some .dropped ↔ last = .error .dropped := by
  fun_cases endOf
  all_goals simp

variable {retries len : Nat} {rs rs' : List (Except (Stop ε) (List α))} {r r' : ReadEnd ε α}

theorem not_undisturbed_of_endOf {last : Except (Stop ε) (List α)}
    (h : endOf retries (failures rs) last = some r) : ¬ Undisturbed retries (rs ++ [last]) := by
  intro hundisturbed
  have hlast : last ∈ rs ++ [last] := List.mem_append_right _ (List.mem_singleton_self last)
  unfold endOf at h
  split at h
  . exact hundisturbed.not_eof hlast
  . contradiction
  . split at h
    . contradiction
    . next hlt =>
      have hfailures := hundisturbed.failures_le
      rw [failures_append, failures_error] at hfailures
      omega
  . exact hundisturbed.not_dropped hlast

theorem Unsettled.length_lt (h : Unsettled retries len rs) : rs.length < len + retries := by
  have hlen := length_le_of_not_eof h.not_eof
  have hmissing := h.missing
  have hfailures := h.failures_le
  omega

theorem Ends.length_le (h : Ends retries len rs r) : rs.length ≤ len + retries + 1 := by
  cases h with
  | full h hlen =>
    have hbytes := length_le_of_not_eof h.not_eof
    have hfailures := h.failures_le
    omega
  | stopped h hend =>
    have hlt := h.length_lt
    rw [List.length_append, List.length_singleton]
    omega

theorem Ends.arrived_eq {bytes : List α} (h : Ends retries len rs (.full bytes)) : arrived rs = bytes := by
  cases h with
  | full h hlen => rfl
  | stopped h hend => exact (endOf_ne_full _ hend).elim

theorem arrived_of_endOf {failed : Nat} {last : Except (Stop ε) (List α)} (h : endOf retries failed last = some r)
    : arrived [last] = [] := by
  unfold endOf at h
  split at h
  . rfl
  . contradiction
  . rfl
  . rfl

theorem Ends.length_arrived_lt (h : Ends retries len rs r) (hr : ∀ bytes, r ≠ .full bytes)
    : (arrived rs).length < len := by
  cases h with
  | full h hlen => exact absurd rfl (hr _)
  | stopped h hend =>
    rw [arrived_append, arrived_of_endOf hend, List.append_nil]
    apply h.missing

theorem Ends.not_unsettled (h : Ends retries len rs r) (rest : List (Except (Stop ε) (List α)))
    : ¬ Unsettled retries len (rs ++ rest) := by
  intro hunsettled
  have hunsettled := hunsettled.of_append
  cases h with
  | full h hlen =>
    have hmissing := hunsettled.missing
    omega
  | stopped h hend => exact not_undisturbed_of_endOf hend hunsettled.toUndisturbed

theorem Ends.unique_append {rest : List (Except (Stop ε) (List α))} (h : Ends retries len rs r)
    (h' : Ends retries len (rs ++ rest) r') : r = r' := by
  generalize hall : rs ++ rest = all at h'
  cases h' with
  | full h' hlen' =>
    subst hall
    cases h with
    | full h hlen =>
      rw [arrived_append, List.length_append] at hlen'
      have hnone : arrived rest = [] := List.eq_nil_of_length_eq_zero (by omega)
      rw [arrived_append, hnone, List.append_nil]
    | stopped h hend => exact absurd h'.of_append (not_undisturbed_of_endOf hend)
  | @stopped all₀ last _ h' hend' =>
    rcases List.eq_nil_or_concat rest with rfl | ⟨rest, x, rfl⟩
    . rw [List.append_nil] at hall
      cases h with
      | full h hlen =>
        rw [hall] at h
        exact absurd h (not_undisturbed_of_endOf hend')
      | stopped h hend =>
        obtain ⟨hrs, hlast⟩ := List.append_inj' hall rfl
        injection hlast with hlast
        rw [hrs, hlast, hend'] at hend
        injection hend with hend
        exact hend.symm
    . rw [List.concat_eq_append, ← List.append_assoc] at hall
      obtain ⟨hrs, _⟩ := List.append_inj' hall rfl
      rw [← hrs] at h'
      exact absurd h' (h.not_unsettled rest)

end Ends

section Sequence

variable (read : (n : Nat) → Exec σ ε {bytes : List α // bytes.length ≤ n}) (len : Nat) (s : σ)

/--
The first `k` answers to reads that ask, one after the other, for what is still missing of `len` bytes,
and the state that they leave.
-/
def reading : Nat → List (Except (Stop ε) (List α)) × σ
  | 0 => ([], s)
  | k + 1 =>
    let (rs, s) := reading k
    let r := read (len - (arrived rs).length) s
    (rs ++ [(outcome r).map Subtype.val], finalState r)

def answers (k : Nat) : List (Except (Stop ε) (List α)) := (reading read len s k).1

def stateAfter (k : Nat) : σ := (reading read len s k).2

def missing (k : Nat) : Nat := len - (arrived (answers read len s k)).length

def answer (k : Nat) : Except (Stop ε) (List α) :=
  (outcome (read (missing read len s k) (stateAfter read len s k))).map Subtype.val

theorem answers_succ (k : Nat)
    : answers read len s (k + 1) = answers read len s k ++ [answer read len s k] := rfl

theorem stateAfter_succ (k : Nat)
    : stateAfter read len s (k + 1)
        = finalState (read (missing read len s k) (stateAfter read len s k)) := rfl

theorem length_answers (k : Nat) : (answers read len s k).length = k := by
  induction k with
  | zero => rfl
  | succ k ih => rw [answers_succ, List.length_append, ih, List.length_singleton]

theorem answers_add (k n : Nat) : ∃ rest, answers read len s (k + n) = answers read len s k ++ rest := by
  induction n with
  | zero => exact ⟨[], (List.append_nil _).symm⟩
  | succ n ih =>
    obtain ⟨rest, hrest⟩ := ih
    refine ⟨rest ++ [answer read len s (k + n)], ?_⟩
    rw [← Nat.add_assoc, answers_succ, hrest, List.append_assoc]

theorem answers_of_le {k n : Nat} (h : k ≤ n)
    : ∃ rest, answers read len s n = answers read len s k ++ rest := by
  rw [← Nat.add_sub_cancel' h]
  apply answers_add

variable {read len s} {retries : Nat} {r r' : ReadEnd ε α}

theorem Ends.unique (h : Ends retries len (answers read len s j) r) (h' : Ends retries len (answers read len s k) r')
    : r = r' := by
  cases Nat.le_total j k with
  | inl hle =>
    obtain ⟨rest, hrest⟩ := answers_of_le read len s hle
    rw [hrest] at h'
    apply h.unique_append h'
  | inr hle =>
    obtain ⟨rest, hrest⟩ := answers_of_le read len s hle
    rw [hrest] at h
    exact (h'.unique_append h).symm

theorem Ends.eq_iff (h : Ends retries len (answers read len s j) r)
    : r = r' ↔ ∃ k, Ends retries len (answers read len s k) r' := by
  constructor
  . rintro rfl
    exact ⟨j, h⟩
  . rintro ⟨k, h'⟩
    apply h.unique h'

theorem exists_ends_iff
    : (∃ k, Ends retries len (answers read len s k) r)
        ↔ (∃ k, Undisturbed retries (answers read len s k) ∧ (arrived (answers read len s k)).length = len
            ∧ r = .full (arrived (answers read len s k)))
          ∨ ∃ k, Unsettled retries len (answers read len s k)
            ∧ endOf retries (failures (answers read len s k)) (answer read len s k) = some r := by
  constructor
  . rintro ⟨k, h⟩
    generalize hrs : answers read len s k = rs at h
    cases h with
    | full h hlen =>
      rw [← hrs] at h hlen ⊢
      exact .inl ⟨k, h, hlen, rfl⟩
    | stopped h hend =>
      cases k with
      | zero =>
        have hlen := congrArg List.length hrs
        rw [length_answers, List.length_append, List.length_singleton] at hlen
        omega
      | succ k =>
        obtain ⟨hrs, hlast⟩ := List.append_inj' hrs rfl
        injection hlast with hlast
        rw [← hrs] at h hend
        rw [← hlast] at hend
        exact .inr ⟨k, h, hend⟩
  . rintro (⟨k, h, hlen, rfl⟩ | ⟨k, h, hend⟩)
    . exact ⟨k, .full h hlen⟩
    . exact ⟨k + 1, .stopped h hend⟩

theorem exists_ends_full_iff {bytes : List α}
    : (∃ k, Ends retries len (answers read len s k) (.full bytes))
        ↔ bytes.length = len
          ∧ ∃ k, Undisturbed retries (answers read len s k) ∧ arrived (answers read len s k) = bytes := by
  rw [exists_ends_iff]
  constructor
  . rintro (⟨k, h, hlen, heq⟩ | ⟨k, h, hend⟩)
    . injection heq with heq
      rw [heq]
      exact ⟨hlen, k, h, rfl⟩
    . exact (endOf_ne_full _ hend).elim
  . rintro ⟨hlen, k, h, rfl⟩
    exact .inl ⟨k, h, hlen, rfl⟩

theorem exists_ends_eof_iff
    : (∃ k, Ends retries len (answers read len s k) .eof)
        ↔ ∃ k, Unsettled retries len (answers read len s k) ∧ answer read len s k = .ok [] := by
  rw [exists_ends_iff]
  simp [endOf_eq_eof]

theorem exists_ends_failed_iff {e : ε}
    : (∃ k, Ends retries len (answers read len s k) (.failed e))
        ↔ ∃ k, Unsettled retries len (answers read len s k) ∧ failures (answers read len s k) = retries
          ∧ answer read len s k = .error (.failed e) := by
  rw [exists_ends_iff]
  constructor
  . rintro (⟨_, _, _, heq⟩ | ⟨k, h, hend⟩)
    . contradiction
    . obtain ⟨hle, hlast⟩ := endOf_eq_failed.mp hend
      exact ⟨k, h, Nat.le_antisymm h.failures_le hle, hlast⟩
  . rintro ⟨k, h, heq, hlast⟩
    exact .inr ⟨k, h, endOf_eq_failed.mpr ⟨Nat.le_of_eq heq.symm, hlast⟩⟩

theorem exists_ends_dropped_iff
    : (∃ k, Ends retries len (answers read len s k) .dropped)
        ↔ ∃ k, Unsettled retries len (answers read len s k) ∧ answer read len s k = .error .dropped := by
  rw [exists_ends_iff]
  simp [endOf_eq_dropped]

end Sequence

section Progress

variable {read : (n : Nat) → Exec σ ε {bytes : List α // bytes.length ≤ n}} {len : Nat} {s : σ} {retries k : Nat}
  {filled : List α} {failed : Nat}

/--
The first `k` answers have brought `filled` and `failed` failures, and none that ends the reading at once.
-/
structure Progress (read : (n : Nat) → Exec σ ε {bytes : List α // bytes.length ≤ n}) (len : Nat) (s : σ)
    (retries k : Nat) (filled : List α) (failed : Nat) : Prop where
  undisturbed : Undisturbed retries (answers read len s k)
  arrived_eq : arrived (answers read len s k) = filled
  failures_eq : failures (answers read len s k) = failed

namespace Progress

theorem start : Progress read len s retries 0 [] 0 := ⟨⟨nofun, nofun, Nat.zero_le retries⟩, rfl, rfl⟩

theorem answer_eq (h : Progress read len s retries k filled failed)
    (hread : read (len - filled.length) (stateAfter read len s k) = x)
    : answer read len s k = (outcome x).map Subtype.val := by
  unfold answer missing
  rw [h.arrived_eq, hread]

theorem next_eq (h : Progress read len s retries k filled failed)
    (hread : read (len - filled.length) (stateAfter read len s k) = x)
    : stateAfter read len s (k + 1) = finalState x := by
  rw [stateAfter_succ, missing, h.arrived_eq, hread]

theorem bytes {bytes : {bytes : List α // bytes.length ≤ len - filled.length}}
    (h : Progress read len s retries k filled failed)
    (hread : read (len - filled.length) (stateAfter read len s k) = .ok bytes s₁) (hne : bytes.val ≠ [])
    : Progress read len s retries (k + 1) (filled ++ bytes.val) failed := by
  have hanswer : answer read len s k = .ok bytes.val := h.answer_eq hread
  constructor
  . rw [answers_succ, hanswer]
    exact h.undisturbed.append_bytes hne
  . rw [answers_succ, hanswer, arrived_append, h.arrived_eq, arrived_ok]
  . rw [answers_succ, hanswer, failures_append, h.failures_eq, failures_ok]
    rfl

theorem failure (h : Progress read len s retries k filled failed)
    (hread : read (len - filled.length) (stateAfter read len s k) = .error (.failed e) s₁) (hlt : failed < retries)
    : Progress read len s retries (k + 1) filled (failed + 1) := by
  have hanswer : answer read len s k = .error (.failed e) := h.answer_eq hread
  constructor
  . rw [answers_succ, hanswer]
    rw [← h.failures_eq] at hlt
    exact h.undisturbed.append_failure hlt e
  . rw [answers_succ, hanswer, arrived_append, h.arrived_eq, arrived_error, List.append_nil]
  . rw [answers_succ, hanswer, failures_append, h.failures_eq, failures_error]

theorem stopped (h : Progress read len s retries k filled failed)
    (hread : read (len - filled.length) (stateAfter read len s k) = x) (hlt : filled.length < len)
    (hend : endOf retries failed ((outcome x).map Subtype.val) = some r)
    : Ends retries len (answers read len s (k + 1)) r := by
  rw [answers_succ]
  rw [← h.answer_eq hread, ← h.failures_eq] at hend
  apply Ends.stopped _ hend
  exact ⟨h.undisturbed, by rw [h.arrived_eq]; apply hlt⟩

theorem full (h : Progress read len s retries k filled failed) (hlen : filled.length = len)
    : Ends retries len (answers read len s k) (.full filled) := by
  rw [← h.arrived_eq] at hlen ⊢
  exact .full h.undisturbed hlen

end Progress

end Progress

end EmbeddedIo
