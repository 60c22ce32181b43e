import ModbusBridge.Impl.Event
import ModbusBridge.Impl.Session

/-!
This module contains what the copies of `next` share: the loop that polls `read_ready` in the
blocking timed ones, and the names of the four copies.
-/

namespace ModbusBridge

open Effect EmbeddedIo Session

/--
The four copies of `next`: blocking or asynchronous, and without or with timeouts.
-/
inductive Flavour where
  | sync
  | syncTimed
  | async
  | asyncTimed
  deriving DecidableEq, Repr

/--
`u32::saturating_add`
-/
def saturatingAdd (a b : UInt32) : UInt32 :=
  if a.toNat + b.toNat < UInt32.size then
    a + b
  else
    0xFFFFFFFF

theorem toNat_saturatingAdd_one {elapsed timeoutMs : UInt32} (h : elapsed < timeoutMs)
    : (saturatingAdd elapsed 1).toNat = elapsed.toNat + 1 := by
  have hlt : elapsed.toNat < timeoutMs.toNat := UInt32.lt_iff_toNat_lt.mp h
  have hsize : timeoutMs.toNat < UInt32.size := timeoutMs.toNat_lt_size
  have hone : (1 : UInt32).toNat = 1 := rfl
  unfold saturatingAdd
  rw [if_pos (by omega), UInt32.toNat_add, hone]
  exact Nat.mod_eq_of_lt (by simp only [UInt32.size] at hsize; omega)

variable {S TS D SE TE : Type} [DelayNs D]

/--
Poll `read_ready` once a millisecond until it answers `true` or `timeoutMs` have elapsed.
-/
def waitReady (readReady : Exec (Session S TS D SE TE) ε Bool) (ioError : ε → BridgeError SE TE)
    (timeoutMs : UInt32) : Exec (Session S TS D SE TE) (BridgeError SE TE) Unit :=
  go 0
where
  go (elapsed : UInt32) : Exec (Session S TS D SE TE) (BridgeError SE TE) Unit := do
    match ← Exec.result readReady with
    | .ok true => pure ()
    | .ok false =>
      if _h : elapsed ≥ timeoutMs then
        Exec.fail .timeout
      else
        delayMs 1
        go (saturatingAdd elapsed 1)
    | .error e => Exec.fail (ioError e)
  termination_by timeoutMs.toNat - elapsed.toNat
  decreasing_by
    have hlt : elapsed < timeoutMs := UInt32.not_le.mp _h
    have := UInt32.lt_iff_toNat_lt.mp hlt
    rw [toNat_saturatingAdd_one hlt]
    omega

def waitReadyFor (readReady : Exec (Session S TS D SE TE) ε Bool)
    (ioError : ε → BridgeError SE TE) (timeoutMs : Option UInt32)
    : Exec (Session S TS D SE TE) (BridgeError SE TE) Unit :=
  match timeoutMs with
  | some timeoutMs => waitReady readReady ioError timeoutMs
  | none => pure ()

def selectFor (fut : Exec (Session S TS D SE TE) ε α) (toError : ε → BridgeError SE TE)
    (timeoutMs : Option UInt32) : Exec (Session S TS D SE TE) (BridgeError SE TE) α :=
  match timeoutMs with
  | some ms => do
    match ← select fut ms with
    | some r => Exec.ofExcept (r.mapError toError)
    | none => Exec.fail .timeout
  | none => Exec.mapErr toError fut

/--
How the four copies of `next` run an operation that may take long. The untimed ones just run it, the
blocking timed one waits for the port first, the asynchronous timed one runs it under a deadline.
-/
def guarded (readReady : Exec (Session S TS D SE TE) ε' Bool) (ioError : ε' → BridgeError SE TE)
    (timeoutMs : Session S TS D SE TE → Option UInt32) (fut : Exec (Session S TS D SE TE) ε α)
    (toError : Flavour → ε → BridgeError SE TE)
    : Flavour → Exec (Session S TS D SE TE) (BridgeError SE TE) α
  | .sync => Exec.mapErr (toError .sync) fut
  | .syncTimed => do
    waitReadyFor readReady ioError (timeoutMs (← get))
    Exec.mapErr (toError .syncTimed) fut
  | .async => Exec.mapErr (toError .async) fut
  | .asyncTimed => do
    selectFor fut (toError .asyncTimed) (timeoutMs (← get))

end ModbusBridge
