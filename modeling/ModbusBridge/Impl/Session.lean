import ModbusBridge.EmbeddedIo.Device
import ModbusBridge.Heapless.Vec
import ModbusBridge.Impl.Error

/-!
This module contains the state that a `Connection` or a `ClientSession` works on and the operations
on its ports, its TX-enable pin and its timers. A `Connection` borrows a `Bridge` and a
`ClientSession` a `Client`; these two own the same fields, so one record serves both.
-/

namespace ModbusBridge

open Effect EmbeddedIo

/--
What a session does to the outside, in order. `rtuSend` and `tcpSend` mark the calls of
`ModbusRtu::send` and `ModbusTcp::send` with their arguments.
-/
inductive Event (SE TE : Type) where
  | rtuSend (payload : List UInt8)
  | tcpSend (data : List UInt8)
  | serial (e : IoEvent SE)
  | tcp (e : IoEvent TE)
  | txEn (high : Bool)
  | delayMs (ms : UInt32)

structure Session (S TS D SE TE : Type) where
  /-- `ModbusRtu::serial` -/
  serial : S
  /-- The level of the pin `ModbusRtu::tx_en`. The code ignores whether a pin operation fails. -/
  txEn : Bool
  /-- `ModbusTcp::stream` -/
  stream : TS
  /-- `ModbusTcp::transaction_id` -/
  transactionId : UInt16
  rtuTimeoutMs : Option UInt32
  tcpTimeoutMs : Option UInt32
  delay : D
  /-- While a `select` is running, how often its delay future is still going to be `Pending`. -/
  deadline : Option Nat
  trace : List (Event SE TE)

namespace Session

variable {S TS D SE TE : Type}

def note (e : Event SE TE) : Exec (Session S TS D SE TE) ε Unit := fun s =>
  .ok () { s with trace := s.trace ++ [e] }

/--
A port of a session: its device, and the events of what happens there.
-/
structure Port (S TS D SE TE σ ε : Type) where
  device : Session S TS D SE TE → σ
  withDevice : σ → Session S TS D SE TE → Session S TS D SE TE
  event : IoEvent ε → Event SE TE
  device_withDevice (d : σ) (s : Session S TS D SE TE) : device (withDevice d s) = d
  withDevice_device (s : Session S TS D SE TE) : withDevice (device s) s = s
  trace_withDevice (d : σ) (s : Session S TS D SE TE) : (withDevice d s).trace = s.trace
  deadline_withDevice (d : σ) (s : Session S TS D SE TE) : (withDevice d s).deadline = s.deadline

def serialPort : Port S TS D SE TE S SE where
  device := serial
  withDevice serial s := { s with serial }
  event := .serial
  device_withDevice _ _ := rfl
  withDevice_device _ := rfl
  trace_withDevice _ _ := rfl
  deadline_withDevice _ _ := rfl

def tcpPort : Port S TS D SE TE TS TE where
  device := stream
  withDevice stream s := { s with stream }
  event := .tcp
  device_withDevice _ _ := rfl
  withDevice_device _ := rfl
  trace_withDevice _ _ := rfl
  deadline_withDevice _ _ := rfl

namespace Port

variable (p : Port S TS D SE TE σ ε)

/--
An operation that may be dropped, if a deadline is running.
-/
def perform (op : σ → Completion σ ε α) (ev : Except (Stop ε) α → IoEvent ε)
    : Exec (Session S TS D SE TE) ε α := fun s =>
  let c := op (p.device s)
  let (r, device) := c.answer s.deadline
  let deadline := s.deadline.map (· - c.polls)
  let s := p.withDevice device { s with deadline, trace := s.trace ++ [p.event (ev r)] }
  match r with
  | .ok a => .ok a s
  | .error e => .error e s

section Operations

variable [Device σ ε]

def read (n : Nat) : Exec (Session S TS D SE TE) ε {bytes : List UInt8 // bytes.length ≤ n} :=
  p.perform (fun d => Device.read d n) fun r => .read n (r.map Subtype.val)

def write (buf : List UInt8) (h : buf ≠ [])
    : Exec (Session S TS D SE TE) ε {n : Nat // 0 < n ∧ n ≤ buf.length} :=
  p.perform (fun d => Device.write d buf h) fun r => .write buf (r.map Subtype.val)

def flush : Exec (Session S TS D SE TE) ε Unit := p.perform Device.flush .flush

end Operations

def readReady [ReadReady σ ε] : Exec (Session S TS D SE TE) ε Bool := fun s =>
  let (r, device) := ReadReady.readReady (p.device s)
  let s := p.withDevice device { s with trace := s.trace ++ [p.event (.readReady r)] }
  match r with
  | .ok ready => .ok ready s
  | .error e => .error (.failed e) s

end Port

section Ports

variable [Device S SE] [Device TS TE]

def serialRead (n : Nat)
    : Exec (Session S TS D SE TE) SE {bytes : List UInt8 // bytes.length ≤ n} :=
  serialPort.read n

def serialWrite (buf : List UInt8) (h : buf ≠ [])
    : Exec (Session S TS D SE TE) SE {n : Nat // 0 < n ∧ n ≤ buf.length} :=
  serialPort.write buf h

def serialFlush : Exec (Session S TS D SE TE) SE Unit := serialPort.flush

def tcpRead (n : Nat)
    : Exec (Session S TS D SE TE) TE {bytes : List UInt8 // bytes.length ≤ n} :=
  tcpPort.read n

def tcpWrite (buf : List UInt8) (h : buf ≠ [])
    : Exec (Session S TS D SE TE) TE {n : Nat // 0 < n ∧ n ≤ buf.length} :=
  tcpPort.write buf h

end Ports

def setTxEn (high : Bool) : Exec (Session S TS D SE TE) ε Unit := fun s =>
  .ok () { s with txEn := high, trace := s.trace ++ [.txEn high] }

section Timers

variable [ReadReady S SE] [ReadReady TS TE] [DelayNs D]

def serialReadReady : Exec (Session S TS D SE TE) SE Bool := serialPort.readReady

def tcpReadReady : Exec (Session S TS D SE TE) TE Bool := tcpPort.readReady

def delayMs (ms : UInt32) : Exec (Session S TS D SE TE) ε Unit := fun s =>
  let (_, delay) := DelayNs.delayMs s.delay ms
  .ok () { s with delay, trace := s.trace ++ [.delayMs ms] }

/--
`select(fut, delay.delay_ms(ms))`: the I/O future is polled first, so it wins whenever it completes
no later than the delay. Otherwise it is dropped and the result is `none`.
-/
def select (fut : Exec (Session S TS D SE TE) ε α) (ms : UInt32)
    : Exec (Session S TS D SE TE) δ (Option (Except ε α)) := fun s =>
  let (polls, delay) := DelayNs.delayMs s.delay ms
  match fut { s with delay, deadline := some polls } with
  | .ok a s => .ok (some (.ok a)) { s with deadline := none }
  | .error (.failed e) s => .ok (some (.error e)) { s with deadline := none }
  | .error .dropped s => .ok none { s with deadline := none }

end Timers

end Session

/--
`for _ in 0..n`: read one byte and push it. The framing functions of both transports have this loop.
-/
def pushBytes (readByte : Exec σ (ModbusError SE TE) (Vector UInt8 1)) (n : Nat)
    (buf : Heapless.Vec UInt8 cap) : Exec σ (ModbusError SE TE) (Heapless.Vec UInt8 cap) :=
  match n with
  | 0 => pure buf
  | n + 1 => do
    let byte ← readByte
    let buf ← Exec.ofOption .push (buf.push (byte.get 0))
    pushBytes readByte n buf

/--
Write until nothing is left. Both transports have this loop.
-/
def writeAll (write : (buf : List UInt8) → buf ≠ [] → Exec σ ε {n : Nat // 0 < n ∧ n ≤ buf.length})
    (data : List UInt8) : Exec σ ε Unit := do
  if h : data = [] then
    pure ()
  else
    let n ← write data h
    writeAll write (data.drop n.val)
termination_by data.length
decreasing_by
  have := n.property
  simp only [List.length_drop]
  omega

end ModbusBridge
