import ModbusBridge.Lemmas.Agreement
import ModbusBridge.Lemmas.Cycle
import ModbusBridge.Spec.Mock
import ModbusBridge.Spec.Run

/-!
This module contains the fact that an untimed call cannot tell how its streams are cut into pieces: two
sessions whose devices hold the same bytes do the same, whatever their devices are.
-/

namespace ModbusBridge

open Effect EmbeddedIo Session
open Exec (Agrees droppedIf Ends)

variable {S TS D S' TS' D' SE TE : Type} [Device S SE] [Device TS TE] [Device S' SE] [Device TS' TE]
  [Lossless S] [Lossless TS] [Lossless S'] [Lossless TS'] {srx trx : List UInt8} {tid : UInt16}

/--
The two sessions have the same bytes left to read, and since the one had written `stx` and `ttx` and the
other `stx'` and `ttx'`, they have written the same.
-/
def Alike (stx ttx stx' ttx' : List UInt8) (s : Session S TS D SE TE) (s' : Session S' TS' D' SE TE) : Prop :=
  ∃ srx trx sent replied tid, At ⟨srx, trx, stx ++ sent, ttx ++ replied, tid⟩ s
    ∧ At ⟨srx, trx, stx' ++ sent, ttx' ++ replied, tid⟩ s'

variable {stx ttx stx' ttx' : List UInt8}

theorem agrees_of_ends {x : Exec (Session S TS D SE TE) ε α} {x' : Exec (Session S' TS' D' SE TE) ε α}
    (h : ∀ srx trx tid, ∃ r srx' trx' sent replied tid',
      (∀ stx ttx, Ends (At ⟨srx, trx, stx, ttx, tid⟩) x r
        (At ⟨srx', trx', stx ++ sent, ttx ++ replied, tid'⟩))
      ∧ (∀ stx ttx, Ends (At ⟨srx, trx, stx, ttx, tid⟩) x' r
        (At ⟨srx', trx', stx ++ sent, ttx ++ replied, tid'⟩)))
    : Agrees (droppedIf False) (Alike stx ttx stx' ttx') x x' := by
  rintro s s' ⟨srx, trx, sent₀, replied₀, tid, hs, hs'⟩
  obtain ⟨r, srx', trx', sent, replied, tid', hx, hx'⟩ := h srx trx tid
  obtain ⟨hr, hend⟩ := hx _ _ s hs
  obtain ⟨hr', hend'⟩ := hx' _ _ s' hs'
  rw [List.append_assoc, List.append_assoc] at hend hend'
  exact .inr ⟨hr.trans hr'.symm, srx', trx', _, _, tid', hend, hend'⟩

section Operations

theorem ModbusTcp.readExact_alike (len : Nat)
    : Agrees (droppedIf False)
        (Alike stx ttx stx' ttx' : Session S TS D SE TE → Session S' TS' D' SE TE → Prop)
        (ModbusTcp.readExact len) (ModbusTcp.readExact len) := by
  apply agrees_of_ends
  intro srx trx tid
  by_cases hlen : len ≤ trx.length
  . obtain ⟨v, rest, rfl⟩ := exists_vector_append hlen
    refine ⟨.ok v, srx, rest, [], [], tid, ?_, ?_⟩
    all_goals
      intro stx ttx
      rw [List.append_nil, List.append_nil]
      apply ModbusTcp.readExact_ends
  . refine ⟨.error (.failed .payloadTooShort), srx, [], [], [], tid, ?_, ?_⟩
    all_goals
      intro stx ttx
      rw [List.append_nil, List.append_nil]
      apply ModbusTcp.readExact_short
      omega

theorem ModbusRtu.readExact_alike (len : Nat)
    : Agrees (droppedIf False)
        (Alike stx ttx stx' ttx' : Session S TS D SE TE → Session S' TS' D' SE TE → Prop)
        (ModbusRtu.readExact len) (ModbusRtu.readExact len) := by
  apply agrees_of_ends
  intro srx trx tid
  by_cases hlen : len ≤ srx.length
  . obtain ⟨v, rest, rfl⟩ := exists_vector_append hlen
    refine ⟨.ok v, rest, trx, [], [], tid, ?_, ?_⟩
    all_goals
      intro stx ttx
      rw [List.append_nil, List.append_nil]
      apply ModbusRtu.readExact_ends
  . refine ⟨.error (.failed .payloadTooShort), [], trx, [], [], tid, ?_, ?_⟩
    all_goals
      intro stx ttx
      rw [List.append_nil, List.append_nil]
      apply ModbusRtu.readExact_short
      omega

theorem ModbusTcp.send_alike (data : List UInt8)
    : Agrees (droppedIf False)
        (Alike stx ttx stx' ttx' : Session S TS D SE TE → Session S' TS' D' SE TE → Prop)
        (ModbusTcp.send data) (ModbusTcp.send data) := by
  apply agrees_of_ends
  intro srx trx tid
  refine ⟨.ok (), srx, trx, [], data, tid, ?_, ?_⟩
  all_goals
    intro stx ttx
    rw [List.append_nil]
    apply ModbusTcp.send_ends

theorem ModbusRtu.send_alike (payload : List UInt8)
    : Agrees (droppedIf False)
        (Alike stx ttx stx' ttx' : Session S TS D SE TE → Session S' TS' D' SE TE → Prop)
        (ModbusRtu.send payload) (ModbusRtu.send payload) := by
  apply agrees_of_ends
  intro srx trx tid
  refine ⟨.ok (), srx, trx, payload, [], tid, ?_, ?_⟩
  all_goals
    intro stx ttx
    rw [List.append_nil]
    apply ModbusRtu.send_ends

theorem ModbusTcp.nextTransactionId_alike
    : Agrees (droppedIf False)
        (Alike stx ttx stx' ttx' : Session S TS D SE TE → Session S' TS' D' SE TE → Prop)
        (ModbusTcp.nextTransactionId : Exec _ (BridgeError SE TE) UInt16) ModbusTcp.nextTransactionId := by
  apply agrees_of_ends
  intro srx trx tid
  refine ⟨.ok (tid + 1), srx, trx, [], [], tid + 1, ?_, ?_⟩
  all_goals
    intro stx ttx
    rw [List.append_nil, List.append_nil]
    apply ClientSession.nextTransactionId_ends

end Operations

section Modes

variable [DelayNs D] [DelayNs D']

theorem guarded_alike {readReady : Exec (Session S TS D SE TE) ε' Bool}
    {readReady' : Exec (Session S' TS' D' SE TE) ε' Bool} {ioError : ε' → BridgeError SE TE}
    {timeoutMs : Session S TS D SE TE → Option UInt32} {timeoutMs' : Session S' TS' D' SE TE → Option UInt32}
    {fut : Exec (Session S TS D SE TE) ε α} {fut' : Exec (Session S' TS' D' SE TE) ε α}
    {toError : Flavour → ε → BridgeError SE TE}
    (hfut : Agrees (droppedIf False) (Alike stx ttx stx' ttx') fut fut')
    (htoError : ∀ e, toError flavour e = toError flavour' e) (hflavour : Flavour.Untimed flavour)
    (hflavour' : Flavour.Untimed flavour')
    : Agrees (droppedIf False) (Alike stx ttx stx' ttx')
        (guarded readReady ioError timeoutMs fut toError flavour)
        (guarded readReady' ioError timeoutMs' fut' toError flavour') := by
  rw [guarded_untimed hflavour, guarded_untimed hflavour']
  apply hfut.mapErr htoError
  rintro e s ⟨hfalse, _⟩
  contradiction

variable [ReadReady S SE] [ReadReady TS TE] [ReadReady S' SE] [ReadReady TS' TE]

theorem Connection.next_alike (hflavour : Flavour.Untimed flavour) (hflavour' : Flavour.Untimed flavour')
    : Agrees (droppedIf False)
        (Alike stx ttx stx' ttx' : Session S TS D SE TE → Session S' TS' D' SE TE → Prop)
        (Connection.next flavour) (Connection.next flavour') := by
  unfold Connection.next
  apply Connection.cycle_agrees
  . apply guarded_alike _ (listenError_eq flavour flavour') hflavour hflavour'
    apply ModbusTcp.listen_agrees ModbusTcp.readExact_alike
  . intro rtuReq
    apply guarded_alike _ (exchangeError_eq flavour flavour') hflavour hflavour'
    apply ModbusRtu.sendAndReceive_agrees ModbusRtu.readExact_alike
    apply ModbusRtu.send_alike
  . apply ModbusTcp.send_alike

theorem ClientSession.next_alike (hflavour : Flavour.Untimed flavour) (hflavour' : Flavour.Untimed flavour')
    : Agrees (droppedIf False)
        (Alike stx ttx stx' ttx' : Session S TS D SE TE → Session S' TS' D' SE TE → Prop)
        (ClientSession.next flavour) (ClientSession.next flavour') := by
  unfold ClientSession.next
  apply ClientSession.cycle_agrees
  . apply guarded_alike _ (requestError_eq flavour flavour') hflavour hflavour'
    apply ModbusRtu.listen_agrees ModbusRtu.readExact_alike
  . apply ModbusTcp.nextTransactionId_alike
  . apply ModbusTcp.send_alike
  . apply guarded_alike _ (responseError_eq flavour flavour') hflavour hflavour'
    apply ModbusTcp.listen_agrees ModbusTcp.readExact_alike
  . apply ModbusRtu.send_alike

theorem Mode.next_alike (mode : Mode) (hflavour : Flavour.Untimed flavour)
    (hflavour' : Flavour.Untimed flavour')
    : Agrees (droppedIf False)
        (Alike stx ttx stx' ttx' : Session S TS D SE TE → Session S' TS' D' SE TE → Prop)
        (mode.next flavour) (mode.next flavour') := by
  cases mode with
  | bridge => apply Connection.next_alike hflavour hflavour'
  | client => apply ClientSession.next_alike hflavour hflavour'

omit [Lossless S] [Lossless TS] in
theorem Mode.next_yields (mode : Mode) (obs : Event SE TE → List α) (flavour : Flavour)
    (s : Session S TS D SE TE)
    : Yields obs ((during (mode.next flavour) s).flatMap obs) s (finalState (mode.next flavour s)) := by
  cases mode with
  | bridge => apply Connection.next_yields
  | client => apply ClientSession.next_yields

end Modes

/--
The ports of a session are good enough for an untimed call: ten serial reads may fail, and nothing else.
-/
structure Reliable (s : Session S TS D SE TE) : Prop where
  faults : Lossless.faults s.serial ≤ 10
  steady : Lossless.faults s.stream = 0
  deadline : s.deadline = none

/--
The call `x` in `s` and the call `x'` in `s'` cannot be told apart on either line.
-/
structure SameTraffic (x : Exec (Session S TS D SE TE) ε α) (s : Session S TS D SE TE)
    (x' : Exec (Session S' TS' D' SE TE) ε α) (s' : Session S' TS' D' SE TE) : Prop where
  result : outcome (x s) = outcome (x' s')
  serialTx : Trace.serialTx (during x s) = Trace.serialTx (during x' s')
  tcpTx : Trace.tcpTx (during x s) = Trace.tcpTx (during x' s')
  serialRx : Lossless.rx (finalState (x s)).serial = Lossless.rx (finalState (x' s')).serial
  tcpRx : Lossless.rx (finalState (x s)).stream = Lossless.rx (finalState (x' s')).stream

variable [ReadReady S SE] [ReadReady TS TE] [DelayNs D] [ReadReady S' SE] [ReadReady TS' TE] [DelayNs D']

theorem same_traffic (mode : Mode) (flavour flavour' : Flavour) (s : Session S TS D SE TE)
    (s' : Session S' TS' D' SE TE) (hflavour : flavour.Untimed) (hflavour' : flavour'.Untimed)
    (hports : Reliable s) (hports' : Reliable s') (hserial : Lossless.rx s.serial = Lossless.rx s'.serial)
    (htcp : Lossless.rx s.stream = Lossless.rx s'.stream) (hid : s.transactionId = s'.transactionId)
    : SameTraffic (mode.next flavour) s (mode.next flavour') s' := by
  have hat : At ⟨Lossless.rx s.serial, Lossless.rx s.stream, Trace.serialTx s.trace, Trace.tcpTx s.trace,
      s.transactionId⟩ s := ⟨rfl, rfl, rfl, rfl, rfl, hports.faults, hports.steady, hports.deadline⟩
  have hat' : At ⟨Lossless.rx s.serial, Lossless.rx s.stream, Trace.serialTx s'.trace,
      Trace.tcpTx s'.trace, s.transactionId⟩ s' :=
    ⟨hserial.symm, htcp.symm, rfl, rfl, hid.symm, hports'.faults, hports'.steady, hports'.deadline⟩
  have halike : Alike (Trace.serialTx s.trace) (Trace.tcpTx s.trace) (Trace.serialTx s'.trace)
      (Trace.tcpTx s'.trace) s s' := by
    refine ⟨Lossless.rx s.serial, Lossless.rx s.stream, [], [], s.transactionId, ?_, ?_⟩
    . rw [List.append_nil, List.append_nil]
      apply hat
    . rw [List.append_nil, List.append_nil]
      apply hat'
  obtain ⟨_, _, _, hfalse, _⟩ | ⟨hresult, srx, trx, sent, replied, tid, hend, hend'⟩ :=
    mode.next_alike hflavour hflavour' s s' halike
  . contradiction
  have hgrows := mode.next_yields Event.serialTx flavour s
  have hgrows' := mode.next_yields Event.serialTx flavour' s'
  constructor
  . apply hresult
  . rw [← List.append_cancel_left (hat.serialTx_during hend hgrows)]
    apply List.append_cancel_left (hat'.serialTx_during hend' hgrows')
  . rw [← List.append_cancel_left (hat.tcpTx_during hend hgrows)]
    apply List.append_cancel_left (hat'.tcpTx_during hend' hgrows')
  . rw [hend.serialRx, hend'.serialRx]
  . rw [hend.tcpRx, hend'.tcpRx]

/--
The same bytes in pieces of one to four bytes on one device, and as they are asked for on the other.
-/
def choppedSession (serialRx tcpRx : List UInt8) : Session MockStream MockStream MockDelay Empty Empty :=
  Bridge.accept
    { serial := ⟨serialRx, [1, 2, 1, 4]⟩, txEn := false, rtuTimeoutMs := none, tcpTimeoutMs := none,
      delay := ⟨0⟩ }
    (⟨tcpRx, [3, 1, 2, 1]⟩ : MockStream)

theorem same_traffic_chopped
    : SameTraffic (Mode.bridge.next .sync)
        (choppedSession (rtuFrame [0x11, 0x03, 0x02, 0xAA, 0xBB]) (tcpFrame 1 0 readRequest))
        (Mode.bridge.next .async)
        (mockSession (rtuFrame [0x11, 0x03, 0x02, 0xAA, 0xBB]) (tcpFrame 1 0 readRequest)) :=
  same_traffic .bridge .sync .async _ _ .sync .async ⟨by decide, rfl, rfl⟩ ⟨by decide, rfl, rfl⟩ rfl rfl rfl

end ModbusBridge
