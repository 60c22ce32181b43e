/-!
This module contains runs: sequences of calls that are made one after the other, each in the state that
the one before has left.
-/

namespace Effect

def callsOf (perform : γ → σ → σ) : List γ → σ → List (σ × γ)
  | [], _ => []
  | c :: cs, s => (s, c) :: callsOf perform cs (perform c s)

def afterCalls (perform : γ → σ → σ) (cs : List γ) (s : σ) : σ := cs.foldl (fun s c => perform c s) s

@[simp]
theorem afterCalls_nil (perform : γ → σ → σ) (s : σ) : afterCalls perform [] s = s := rfl

@[simp]
theorem afterCalls_cons (perform : γ → σ → σ) (c : γ) (cs : List γ) (s : σ)
    : afterCalls perform (c :: cs) s = afterCalls perform cs (perform c s) := rfl

@[simp]
theorem afterCalls_append (perform : γ → σ → σ) (cs cs' : List γ) (s : σ)
    : afterCalls perform (cs ++ cs') s = afterCalls perform cs' (afterCalls perform cs s) :=
  List.foldl_append

theorem callsOf_append (perform : γ → σ → σ) (cs cs' : List γ) (s : σ)
    : callsOf perform (cs ++ cs') s = callsOf perform cs s ++ callsOf perform cs' (afterCalls perform cs s) := by
  induction cs generalizing s with
  | nil => rfl
  | cons c cs ih =>
    rw [List.cons_append, callsOf, ih]
    rfl

theorem mem_of_mem_callsOf {perform : γ → σ → σ} {cs : List γ} (h : x ∈ callsOf perform cs s) : x.2 ∈ cs := by
  induction cs generalizing s with
  | nil => contradiction
  | cons c cs ih =>
    rw [callsOf, List.mem_cons] at h
    obtain rfl | h := h
    . exact List.mem_cons_self
    . exact List.mem_cons_of_mem c (ih h)

/--
Two properties of calls agree on a run if they agree on every call that is made in a state with the
invariant, and one of them makes the call keep the invariant.
-/
theorem forall_callsOf_iff {perform : γ → σ → σ} (inv : σ → Prop) {P Q : σ × γ → Prop}
    (hiff : ∀ s c, inv s → (P (s, c) ↔ Q (s, c))) (hkeep : ∀ s c, inv s → Q (s, c) → inv (perform c s))
    (cs : List γ) (s : σ) (hinv : inv s)
    : (∀ x ∈ callsOf perform cs s, P x) ↔ (∀ x ∈ callsOf perform cs s, Q x) := by
  induction cs generalizing s with
  | nil => simp [callsOf]
  | cons c cs ih =>
    unfold callsOf
    rw [List.forall_mem_cons, List.forall_mem_cons]
    rw [hiff s c hinv]
    constructor
    . rintro ⟨hc, hcs⟩
      exact ⟨hc, (ih _ (hkeep s c hinv hc)).mp hcs⟩
    . rintro ⟨hc, hcs⟩
      exact ⟨hc, (ih _ (hkeep s c hinv hc)).mpr hcs⟩

end Effect
