/-!
This module contains the monad in which effectful programs are written: a program runs on a state
and either returns a value, fails with an error, or is dropped before it is finished.
-/

namespace Effect

inductive Stop (ε : Type) where
  | failed (e : ε)
  /-- The future running the program was dropped while one of its operations was pending. -/
  | dropped
  deriving DecidableEq, Repr

namespace Stop

def map (f : ε → δ) : Stop ε → Stop δ
  | .failed e => .failed (f e)
  | .dropped => .dropped

@[simp]
theorem map_failed (f : ε → δ) (e : ε) : (Stop.failed e).map f = .failed (f e) := rfl

@[simp]
theorem map_dropped (f : ε → δ) : (Stop.dropped : Stop ε).map f = .dropped := rfl

theorem map_ne_failed {f : ε → δ} {d : δ} (h : ∀ e, f e ≠ d) (stop : Stop ε)
    : stop.map f ≠ .failed d := by
  cases stop with
  | failed e => simpa using h e
  | dropped => simp

end Stop

instance decidableEqExcept [DecidableEq ε] [DecidableEq α] : DecidableEq (Except ε α)
  | .ok a, .ok b => decidable_of_iff (a = b) ⟨congrArg _, Except.ok.inj⟩
  | .error e, .error e' => decidable_of_iff (e = e') ⟨congrArg _, Except.error.inj⟩
  | .ok _, .error _ | .error _, .ok _ => isFalse nofun

/--
Programs on a state `σ` that fail with an `ε`. Both kinds of `Stop` keep the state reached so far.
-/
abbrev Exec (σ ε α : Type) : Type := EStateM (Stop ε) σ α

def finalState : EStateM.Result ε σ α → σ
  | .ok _ s => s
  | .error _ s => s

@[simp]
theorem finalState_ok (a : α) (s : σ) : finalState (.ok a s : EStateM.Result ε σ α) = s := rfl

@[simp]
theorem finalState_error (e : ε) (s : σ) : finalState (.error e s : EStateM.Result ε σ α) = s := rfl

def outcome : EStateM.Result ε σ α → Except ε α
  | .ok a _ => .ok a
  | .error e _ => .error e

@[simp]
theorem outcome_ok (a : α) (s : σ) : outcome (.ok a s : EStateM.Result ε σ α) = .ok a := rfl

@[simp]
theorem outcome_error (e : ε) (s : σ) : outcome (.error e s : EStateM.Result ε σ α) = .error e := rfl

namespace Exec

def fail (e : ε) : Exec σ ε α := throw (.failed e)

def ofExcept : Except ε α → Exec σ ε α
  | .ok a => pure a
  | .error e => fail e

def ofOption (e : ε) : Option α → Exec σ ε α
  | some a => pure a
  | none => fail e

def mapErr (f : ε → δ) (x : Exec σ ε α) : Exec σ δ α := fun s =>
  match x s with
  | .ok a s => .ok a s
  | .error e s => .error (e.map f) s

def result (x : Exec σ ε α) : Exec σ δ (Except ε α) := fun s =>
  match x s with
  | .ok a s => .ok (.ok a) s
  | .error (.failed e) s => .ok (.error e) s
  | .error .dropped s => .error .dropped s

end Exec

end Effect
