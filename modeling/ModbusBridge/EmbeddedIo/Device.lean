import ModbusBridge.Effect.Basic

/-!
This module contains byte-oriented I/O devices as seen through the blocking and asynchronous
`embedded-io` traits, and the delay providers of `embedded-hal`.
-/

namespace EmbeddedIo

open Effect

/--
What becomes of one operation on a device `σ`. A blocking caller waits for the result; a future that
is being polled sees `polls` times `Pending` first and may be dropped before the result is there.
-/
structure Completion (σ ε α : Type) where
  polls : Nat
  result : Except ε α
  next : σ
  dropped : σ

/--
`Read + Write` with the contract of the two traits: a read of `n` bytes returns at most `n` of them
and `Ok(0)` stands for the end of the stream; a write accepts at least one and at most all bytes of a
non-empty buffer.
-/
class Device (σ : Type) (ε : outParam Type) where
  read : σ → (n : Nat) → Completion σ ε {bytes : List UInt8 // bytes.length ≤ n}
  write : σ → (buf : List UInt8) → buf ≠ [] →
    Completion σ ε {n : Nat // 0 < n ∧ n ≤ buf.length}
  flush : σ → Completion σ ε Unit

/--
The bytes that a read returns. A read that fails returns none.
-/
def answered (r : Except ε {bytes : List UInt8 // bytes.length ≤ n}) : List UInt8 :=
  match r with
  | .ok bytes => bytes.val
  | .error _ => []

class ReadReady (σ : Type) (ε : outParam Type) where
  readReady : σ → Except ε Bool × σ

namespace ReadReady

variable {σ ε : Type} [ReadReady σ ε]

def polled : Nat → σ → σ
  | 0, d => d
  | n + 1, d => polled n (readReady d).2

def Silent (d : σ) : Prop := ∀ n, (readReady (polled n d)).1 = .ok false

/--
The first answer other than `Ok(false)` among `n + 1` calls of `read_ready`, if there is one.
-/
def pollReady : Nat → σ → Option (Except ε Unit)
  | n, d =>
    match readReady d with
    | (.ok true, _) => some (.ok ())
    | (.error e, _) => some (.error e)
    | (.ok false, d) =>
      match n with
      | 0 => none
      | n + 1 => pollReady n d

/--
`read_ready` answers `Ok(false)` `n` times, and then `Ok(true)`.
-/
def ReadyAfter : Nat → σ → Prop
  | 0, d => (readReady d).1 = .ok true
  | n + 1, d => (readReady d).1 = .ok false ∧ ReadyAfter n (readReady d).2

end ReadReady

/--
A delay provider: the number of times the future of a delay is `Pending` before it completes, and
the provider afterwards.
-/
class DelayNs (δ : Type) where
  delayMs : δ → (ms : UInt32) → Nat × δ

inductive IoEvent (ε : Type) where
  | read (n : Nat) (r : Except (Stop ε) (List UInt8))
  | write (buf : List UInt8) (r : Except (Stop ε) Nat)
  | flush (r : Except (Stop ε) Unit)
  | readReady (r : Except ε Bool)

namespace IoEvent

def delivered : IoEvent ε → List UInt8
  | .read _ (.ok bytes) => bytes
  | _ => []

def accepted : IoEvent ε → List UInt8
  | .write buf (.ok n) => buf.take n
  | _ => []

def isRead : IoEvent ε → Bool
  | .read .. => true
  | _ => false

def isWrite : IoEvent ε → Bool
  | .write .. => true
  | _ => false

def isFault : IoEvent ε → Bool
  | .read _ (.error _) => true
  | .write _ (.error _) => true
  | .flush (.error _) => true
  | .readReady (.error _) => true
  | _ => false

end IoEvent

namespace Completion

/--
The answer to an operation that may be `Pending` for as many polls as the deadline has left, where
`none` stands for no deadline.
-/
def answer (c : Completion σ ε α) (deadline : Option Nat) : Except (Stop ε) α × σ :=
  if deadline.any (· < c.polls) then
    (.error .dropped, c.dropped)
  else
    (c.result.mapError .failed, c.next)

@[simp]
theorem answer_none (c : Completion σ ε α) : c.answer none = (c.result.mapError .failed, c.next) :=
  rfl

theorem answer_cases (c : Completion σ ε α) (deadline : Option Nat)
    : (deadline ≠ none ∧ c.answer deadline = (.error .dropped, c.dropped))
        ∨ c.answer deadline = (c.result.mapError .failed, c.next) := by
  unfold answer
  split
  . next hany =>
    refine .inl ⟨?_, rfl⟩
    rintro rfl
    contradiction
  . exact .inr rfl

end Completion

/--
How many of `n` bytes an operation transfers that transfers at most `limit` of them, but at least one.
-/
def grant (limit : Option Nat) (n : Nat) : Nat :=
  match limit with
  | some limit => min n (max 1 limit)
  | none => n

theorem grant_le (limit : Option Nat) (n : Nat) : grant limit n ≤ n := by
  unfold grant
  split <;> omega

theorem grant_pos (limit : Option Nat) (h : 0 < n) : 0 < grant limit n := by
  unfold grant
  split <;> omega

end EmbeddedIo
