import ModbusBridge.EmbeddedIo.Device

/-!
This module contains which answer ends a bounded number of polls of a port, and how many of them come
before it.
-/

namespace EmbeddedIo
namespace ReadReady

variable {σ ε : Type} [ReadReady σ ε]

def poll (d : σ) (i : Nat) : Except ε Bool := (readReady (polled i d)).1

def Quiet (d : σ) (k : Nat) : Prop := ∀ i < k, poll d i = .ok false

/--
The first poll that is not answered with `Ok(false)` is the one with index `k`.
-/
def FirstAnswer (d : σ) (k : Nat) : Prop := Quiet d k ∧ poll d k ≠ .ok false

/--
How many of the first `n` polls come before the first one that is not answered with `Ok(false)`.
-/
def quietPolls : Nat → σ → Nat
  | 0, _ => 0
  | n + 1, d =>
    match readReady d with
    | (.ok false, d) => quietPolls n d + 1
    | _ => 0

theorem poll_succ (d : σ) (i : Nat) : poll d (i + 1) = poll (readReady d).2 i := rfl

theorem quiet_zero (d : σ) : Quiet d 0 := by
  intro i hi
  contradiction

theorem quiet_succ (d : σ) (k : Nat) : Quiet d (k + 1) ↔ (readReady d).1 = .ok false ∧ Quiet (readReady d).2 k := by
  constructor
  . intro h
    refine ⟨h 0 (Nat.zero_lt_succ k), ?_⟩
    intro i hi
    apply h (i + 1) (Nat.succ_lt_succ hi)
  . rintro ⟨hfirst, hrest⟩ i hi
    cases i with
    | zero => apply hfirst
    | succ i => apply hrest i (Nat.lt_of_succ_lt_succ hi)

theorem quietPolls_succ {d : σ} (h : (readReady d).1 = .ok false)
    : quietPolls (n + 1) d = quietPolls n (readReady d).2 + 1 := by
  rw [quietPolls, show readReady d = (.ok false, (readReady d).2) by rw [← h]]

theorem quietPolls_of_answer {d : σ} (h : (readReady d).1 ≠ .ok false) (n : Nat) : quietPolls n d = 0 := by
  cases n with
  | zero => rfl
  | succ n =>
    unfold quietPolls
    split
    . next heq =>
      rw [heq] at h
      contradiction
    . rfl

theorem quietPolls_of_quiet {d : σ} (h : Quiet d n) : quietPolls n d = n := by
  induction n generalizing d with
  | zero => rfl
  | succ n ih =>
    rw [quiet_succ] at h
    rw [quietPolls_succ h.1, ih h.2]

theorem quietPolls_of_first {d : σ} (h : FirstAnswer d k) (n : Nat) : quietPolls n d = min k n := by
  induction n generalizing d k with
  | zero => rw [quietPolls, Nat.min_zero]
  | succ n ih =>
    obtain ⟨hquiet, hanswer⟩ := h
    cases k with
    | zero =>
      rw [Nat.zero_min]
      apply quietPolls_of_answer hanswer
    | succ k =>
      rw [quiet_succ] at hquiet
      rw [quietPolls_succ hquiet.1, ih ⟨hquiet.2, hanswer⟩]
      omega

theorem exists_answer_of_not_quiet {d : σ} (h : (readReady d).1 ≠ .ok false) (n : Nat) (answer : Except ε Bool)
    : (∃ k ≤ n, Quiet d k ∧ poll d k = answer) ↔ (readReady d).1 = answer := by
  constructor
  . rintro ⟨k, _, hquiet, hanswer⟩
    cases k with
    | zero => apply hanswer
    | succ k =>
      rw [quiet_succ] at hquiet
      exact absurd hquiet.1 h
  . intro hanswer
    exact ⟨0, Nat.zero_le n, quiet_zero d, hanswer⟩

theorem exists_answer_of_quiet {d : σ} (h : (readReady d).1 = .ok false) (n : Nat) {answer : Except ε Bool}
    (hanswer : answer ≠ .ok false)
    : (∃ k ≤ n + 1, Quiet d k ∧ poll d k = answer)
        ↔ ∃ k ≤ n, Quiet (readReady d).2 k ∧ poll (readReady d).2 k = answer := by
  constructor
  . rintro ⟨k, hk, hquiet, heq⟩
    cases k with
    | zero =>
      rw [← heq] at hanswer
      exact absurd h hanswer
    | succ k =>
      rw [quiet_succ] at hquiet
      exact ⟨k, Nat.le_of_succ_le_succ hk, hquiet.2, heq⟩
  . rintro ⟨k, hk, hquiet, heq⟩
    exact ⟨k + 1, Nat.succ_le_succ hk, (quiet_succ d k).mpr ⟨h, hquiet⟩, heq⟩

/--
The polling ends with `r` if some poll is answered with it and all polls before with `Ok(false)`.
-/
theorem pollReady_eq_some (n : Nat) (d : σ) (r : Except ε Unit)
    : pollReady n d = some r ↔ ∃ k ≤ n, Quiet d k ∧ poll d k = r.map fun _ => true := by
  have hanswer : (r.map fun _ => true) ≠ .ok false := by
    cases r with
    | ok _ => simp [Except.map]
    | error e => simp [Except.map]
  induction n generalizing d with
  | zero =>
    have hzero : (∃ k ≤ 0, Quiet d k ∧ poll d k = r.map fun _ => true)
        ↔ (readReady d).1 = r.map fun _ => true := by
      simp only [Nat.le_zero, exists_eq_left, quiet_zero, true_and]
      rfl
    unfold pollReady
    rw [hzero]
    split
    . next h => cases r <;> simp [h, Except.map]
    . next h => cases r <;> simp [h, Except.map]
    . next h => cases r <;> simp [h, Except.map]
  | succ n ih =>
    unfold pollReady
    split
    . next h =>
      rw [exists_answer_of_not_quiet (by simp [h]), h]
      cases r <;> simp [Except.map]
    . next h =>
      rw [exists_answer_of_not_quiet (by simp [h]), h]
      cases r <;> simp [Except.map]
    . next h =>
      rw [exists_answer_of_quiet (by simp [h]) n hanswer, h]
      apply ih

theorem pollReady_eq_none (n : Nat) (d : σ) : pollReady n d = none ↔ Quiet d (n + 1) := by
  induction n generalizing d with
  | zero =>
    unfold pollReady
    rw [quiet_succ]
    split
    . next h => simp [h]
    . next h => simp [h]
    . next h => simp [h, quiet_zero]
  | succ n ih =>
    unfold pollReady
    rw [quiet_succ]
    split
    . next h => simp [h]
    . next h => simp [h]
    . next h => simp [h, ih]

theorem readyAfter_iff (k : Nat) (d : σ) : ReadyAfter k d ↔ Quiet d k ∧ poll d k = .ok true := by
  induction k generalizing d with
  | zero =>
    have hquiet := quiet_zero d
    simp only [hquiet, true_and]
    rfl
  | succ k ih =>
    unfold ReadyAfter
    rw [ih, quiet_succ, poll_succ, and_assoc]

theorem pollReady_eq_ok (n : Nat) (d : σ) : pollReady n d = some (.ok ()) ↔ ∃ k ≤ n, ReadyAfter k d := by
  simp only [readyAfter_iff]
  apply pollReady_eq_some

theorem Silent.pollReady_eq {d : σ} (h : Silent d) (n : Nat) : pollReady n d = none := by
  rw [pollReady_eq_none]
  intro i _
  apply h i

theorem Silent.not_readyAfter {d : σ} (h : Silent d) (k : Nat) : ¬ ReadyAfter k d := by
  rw [readyAfter_iff]
  rintro ⟨_, hready⟩
  rw [show poll d k = .ok false from h k] at hready
  injection hready with hready
  contradiction

end ReadReady
end EmbeddedIo
