import ModbusBridge.Effect.Runs
import ModbusBridge.Effect.Triples

/-!
This module contains data refinement: a program implements another one that runs on a more abstract state, with
the same results and the same errors, and so does a run of such programs.
-/

namespace Effect
namespace Exec

variable {σ τ ε α β γ δ : Type}

theorem mapErr_bind (f : ε → δ) (x : Exec σ ε α) (g : α → Exec σ ε β)
    : mapErr f (x >>= g) = mapErr f x >>= fun a => mapErr f (g a) := by
  funext s
  cases h : x s with
  | ok a s₁ => rw [bind_ok (mapErr_ok h), mapErr, bind_ok h, mapErr]
  | error e s₁ => rw [bind_error (mapErr_error h), mapErr_error (bind_error h)]

theorem ofExcept_ok_bind (a : α) (f : α → Exec σ ε β) : (ofExcept (.ok a) >>= f) = f a := rfl

theorem ofExcept_error_bind (e : ε) (f : α → Exec σ ε β) : (ofExcept (.error e) >>= f) = fail e := rfl

/--
Started in a state that represents `t`, the program `x` ends as `y` does in `t`, in a state that represents the one
that `y` ends in. What it returns is seen through `view`.
-/
def Implements (R : τ → σ → Prop) (view : α → β) (x : Exec σ ε α) (y : Exec τ ε β) : Prop :=
  ∀ t s, R t s → (outcome (x s)).map view = outcome (y t) ∧ R (finalState (y t)) (finalState (x s))

namespace Implements

variable {R : τ → σ → Prop} {view : α → β}

theorem of_ends {x : Exec σ ε α} {y : Exec τ ε β}
    (h : ∀ t, ∃ r, Ends (R t) x r (R (finalState (y t))) ∧ r.map view = outcome (y t)) : Implements R view x y := by
  intro t s hR
  obtain ⟨r, hends, hr⟩ := h t
  obtain ⟨houtcome, hR'⟩ := hends s hR
  rw [houtcome]
  exact ⟨hr, hR'⟩

theorem ends {x : Exec σ ε α} {y : Exec τ ε α} (h : Implements R id x y) (t : τ)
    : Ends (R t) x (outcome (y t)) (R (finalState (y t))) := by
  intro s hR
  obtain ⟨houtcome, hR'⟩ := h t s hR
  rw [← houtcome]
  exact ⟨(id_map (outcome (x s))).symm, hR'⟩

theorem pure {a : α} {b : β} (h : view a = b)
    : Implements R view (Pure.pure a : Exec σ ε α) (Pure.pure b : Exec τ ε β) := by
  intro t s hR
  rw [← h]
  exact ⟨rfl, hR⟩

theorem fail (e : ε) : Implements R view (Exec.fail e : Exec σ ε α) (Exec.fail e : Exec τ ε β) := by
  intro t s hR
  exact ⟨rfl, hR⟩

theorem mapErr {x : Exec σ ε α} {y : Exec τ ε β} (h : Implements R view x y) (f : ε → δ)
    : Implements R view (Exec.mapErr f x) (Exec.mapErr f y) := by
  intro t s hR
  obtain ⟨houtcome, hR₁⟩ := h t s hR
  rw [finalState_mapErr, finalState_mapErr]
  refine ⟨?_, hR₁⟩
  cases hx : x s with
  | ok a s₁ =>
    rw [hx] at houtcome
    rw [mapErr_ok hx, mapErr_ok (eq_ok_of_outcome houtcome.symm)]
    rfl
  | error e s₁ =>
    rw [hx] at houtcome
    rw [mapErr_error hx, mapErr_error (eq_error_of_outcome houtcome.symm)]
    rfl

/--
The rule for one program after the other. What follows has to fit for those results only that the abstract program
can return.
-/
theorem bind {view' : γ → δ} {x : Exec σ ε α} {y : Exec τ ε β} {f : α → Exec σ ε γ} {g : β → Exec τ ε δ}
    (hx : Implements R view x y)
    (hf : ∀ a t t', y t = .ok (view a) t' → Implements R view' (f a) (g (view a)))
    : Implements R view' (x >>= f) (y >>= g) := by
  intro t s hR
  obtain ⟨houtcome, hR₁⟩ := hx t s hR
  cases h : x s with
  | ok a s₁ =>
    rw [h] at houtcome hR₁
    have hy := eq_ok_of_outcome houtcome.symm
    rw [bind_ok h, bind_ok hy]
    apply hf a t _ hy _ _ hR₁
  | error e s₁ =>
    rw [h] at houtcome hR₁
    have hy := eq_error_of_outcome houtcome.symm
    rw [bind_error h, bind_error hy]
    exact ⟨rfl, hR₁⟩

end Implements

end Exec

/--
What the calls of a run answer.
-/
def answersOf (perform : γ → σ → σ) (answer : γ → σ → β) (cs : List γ) (s : σ) : List β :=
  (callsOf perform cs s).map fun x => answer x.2 x.1

section Answers

variable {perform : γ → σ → σ} {answer : γ → σ → β} {perform' : γ → τ → τ} {answer' : γ → τ → β}

@[simp]
theorem answersOf_nil (s : σ) : answersOf perform answer [] s = [] := rfl

@[simp]
theorem answersOf_cons (c : γ) (cs : List γ) (s : σ)
    : answersOf perform answer (c :: cs) s = answer c s :: answersOf perform answer cs (perform c s) := rfl

/--
If every call answers what the abstract machine answers, and leaves a state that represents the one of the abstract
machine, then a run does both. The calls of the run have `P`.
-/
theorem answersOf_simulates_of {R : τ → σ → Prop} {P : γ → σ → Prop} {cs : List γ}
    (hstep : ∀ c ∈ cs, ∀ t s, R t s → P c s → answer c s = answer' c t ∧ R (perform' c t) (perform c s))
    {t : τ} {s : σ} (hP : ∀ x ∈ callsOf perform cs s, P x.2 x.1) (hR : R t s)
    : answersOf perform answer cs s = answersOf perform' answer' cs t
        ∧ R (afterCalls perform' cs t) (afterCalls perform cs s) := by
  induction cs generalizing t s with
  | nil => exact ⟨rfl, hR⟩
  | cons c cs ih =>
    rw [List.forall_mem_cons] at hstep
    rw [callsOf, List.forall_mem_cons] at hP
    obtain ⟨hanswer, hR₁⟩ := hstep.1 t s hR hP.1
    obtain ⟨hrest, hend⟩ := ih hstep.2 hP.2 hR₁
    refine ⟨?_, hend⟩
    rw [answersOf_cons, answersOf_cons, hanswer, hrest]

theorem answersOf_simulates {R : τ → σ → Prop} {cs : List γ}
    (hstep : ∀ c ∈ cs, ∀ t s, R t s → answer c s = answer' c t ∧ R (perform' c t) (perform c s)) {t : τ} {s : σ}
    (hR : R t s)
    : answersOf perform answer cs s = answersOf perform' answer' cs t
        ∧ R (afterCalls perform' cs t) (afterCalls perform cs s) :=
  answersOf_simulates_of (P := fun _ _ => True) (fun c hc t s hR _ => hstep c hc t s hR) (fun _ _ => trivial) hR

end Answers

end Effect
