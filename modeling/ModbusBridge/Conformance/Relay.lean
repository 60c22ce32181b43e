import ModbusBridge.Lemmas.Cycle
import ModbusBridge.Spec.Mock

/-!
This module contains what a run on lossless devices does, however the streams are cut into pieces: every
request is relayed to the other side and every response is relayed back, in order and without loss.
-/

namespace ModbusBridge

open Effect EmbeddedIo Session
open Exec (Ends repeated repeated_ends)

variable {S TS D SE TE : Type}

section Bridge

structure BridgeExchange where
  request : TcpMessage
  response : RtuAnswer

structure BridgeRelays [Device S SE] [Device TS TE] [ReadReady S SE] [ReadReady TS TE] [DelayNs D]
    [Lossless S] [Lossless TS] (flavour : Flavour) (xs : List BridgeExchange)
    (results : List (Except (Stop (BridgeError SE TE)) BridgeEvent)) (s : Session S TS D SE TE)
    : Prop where
  transactions : results = xs.map fun x =>
    .ok (.transaction (.ofRequest (parseTcpRequest x.request.frame)))
  serialTx : Trace.serialTx s.trace = xs.flatMap fun x => rtuFrame x.request.body
  tcpTx : Trace.tcpTx s.trace
    = xs.flatMap fun x => tcpFrame x.request.transactionId 0 x.response.body
  serialRx : Lossless.rx s.serial = []
  tcpRx : Lossless.rx s.stream = []
  closed : outcome (Connection.next flavour s) = .error (.failed .tcpClosed)
  closed_serialTx : Trace.serialTx (during (Connection.next flavour) s) = []
  closed_tcpTx : Trace.tcpTx (during (Connection.next flavour) s) = []

def bridgeView (done rest : List BridgeExchange) : View where
  serialRx := rest.flatMap fun x => x.response.frame
  tcpRx := rest.flatMap fun x => x.request.frame
  serialTx := done.flatMap fun x => rtuFrame x.request.body
  tcpTx := done.flatMap fun x => tcpFrame x.request.transactionId 0 x.response.body
  transactionId := 0

variable [Device S SE] [Device TS TE] [ReadReady S SE] [ReadReady TS TE] [DelayNs D] [Lossless S]
  [Lossless TS]

theorem Connection.next_exchange (hflavour : Flavour.Untimed flavour) (done : List BridgeExchange)
    (x : BridgeExchange) (rest : List BridgeExchange)
    : Ends (At (bridgeView done (x :: rest)))
        (Connection.next flavour : Exec (Session S TS D SE TE) (BridgeError SE TE) BridgeEvent)
        (.ok (.transaction (.ofRequest (parseTcpRequest x.request.frame))))
        (At (bridgeView (done ++ [x]) rest)) := by
  unfold bridgeView
  simp only [List.flatMap_cons, List.flatMap_append, List.flatMap_nil, List.append_nil]
  apply Connection.next_ends hflavour
  apply x.response.layout.length_eq

/--
A bridge relays any list of requests and responses that lie ready on lossless devices, one with each
call, and then finds the end of the TCP stream.
-/
theorem bridge_relays (flavour : Flavour) (b : Bridge S D) (stream : TS) (xs : List BridgeExchange)
    (hflavour : flavour.Untimed)
    (hserial : Lossless.rx b.serial = xs.flatMap fun x => x.response.frame)
    (htcp : Lossless.rx stream = xs.flatMap fun x => x.request.frame)
    (hfaults : Lossless.faults b.serial ≤ 10) (hsteady : Lossless.faults stream = 0)
    : BridgeRelays flavour xs
        (repeated (Connection.next flavour) xs.length (b.accept stream : Session S TS D SE TE)).1
        (repeated (Connection.next flavour) xs.length (b.accept stream)).2 := by
  have hstart : At (bridgeView [] xs) (b.accept stream : Session S TS D SE TE) :=
    ⟨hserial, htcp, rfl, rfl, rfl, hfaults, hsteady, rfl⟩
  obtain ⟨hresults, hend⟩ := repeated_ends (fun done rest => At (bridgeView done rest))
    (Connection.next_exchange hflavour) [] xs _ hstart
  generalize (repeated (Connection.next flavour) xs.length (b.accept stream)) = run at *
  obtain ⟨hclosed, hafter⟩ := Connection.next_eof hflavour run.2 hend
  have hgrows := Connection.next_yields Event.serialTx flavour run.2
  refine ⟨hresults, hend.serialTx, hend.tcpTx, hend.serialRx, hend.tcpRx, hclosed, ?_, ?_⟩
  -- The last call ends in a state with the same view, so that it has written nothing.
  . apply List.append_right_eq_self.mp (hend.serialTx_during hafter hgrows).symm
  . apply List.append_right_eq_self.mp (hend.tcpTx_during hafter hgrows).symm

def twoExchanges : List BridgeExchange := [
  { request := ⟨7, 0, readRequest, by decide, by decide⟩
    response := ⟨_, .read 0x11 (by decide : (0x03 : UInt8) ∈ readCodes)
      (by decide : (List.replicate 20 (0xAB : UInt8)).length ≤ 255)⟩ },
  { request := ⟨8, 0, [0x11, 0x05, 0x00, 0xAC, 0xFF, 0x00], by decide, by decide⟩
    response := ⟨_, .exception 0x11 (by decide : (0x80 : UInt8) ≤ 0x85) 0x02⟩ }]

def twoExchangesBridge : Bridge MockStream MockDelay where
  serial := ⟨twoExchanges.flatMap fun x => x.response.frame, [1, 5, 2, 1, 3]⟩
  txEn := false
  rtuTimeoutMs := none
  tcpTimeoutMs := none
  delay := ⟨0⟩

def twoExchangesStream : MockStream where
  rx := twoExchanges.flatMap fun x => x.request.frame
  limits := [4, 1, 1, 1, 7]

theorem bridge_relays_two
    : BridgeRelays .sync twoExchanges
        (repeated (Connection.next .sync) twoExchanges.length
          (twoExchangesBridge.accept twoExchangesStream : Session _ _ _ Empty Empty)).1
        (repeated (Connection.next .sync) twoExchanges.length
          (twoExchangesBridge.accept twoExchangesStream)).2 :=
  bridge_relays .sync twoExchangesBridge twoExchangesStream twoExchanges .sync (by rfl) (by rfl)
    (by decide) (by rfl)

end Bridge

section Client

/--
A request of the RTU master, and the response of the TCP server to it. The id of the response is the one
that the request was sent under.
-/
structure ClientExchange where
  query : RtuQuery
  protocolId : UInt16
  body : List UInt8
  pos : 1 ≤ body.length
  max : body.length ≤ 255

/--
The frames of the exchanges on the TCP stream, numbered from `i` modulo 65536.
-/
def numberedFrames (frame : UInt16 → ClientExchange → List UInt8)
    : Nat → List ClientExchange → List UInt8
  | _, [] => []
  | i, x :: xs => frame (UInt16.ofNat i) x ++ numberedFrames frame (i + 1) xs

def ClientExchange.response (id : UInt16) (x : ClientExchange) : List UInt8 :=
  tcpFrame id x.protocolId x.body

def ClientExchange.request (id : UInt16) (x : ClientExchange) : List UInt8 :=
  tcpFrame id 0 x.query.body

theorem numberedFrames_append (frame : UInt16 → ClientExchange → List UInt8) (i : Nat)
    (xs : List ClientExchange) (x : ClientExchange)
    : numberedFrames frame i (xs ++ [x])
        = numberedFrames frame i xs ++ frame (UInt16.ofNat (i + xs.length)) x := by
  induction xs generalizing i with
  | nil => simp [numberedFrames]
  | cons y ys ih =>
    rw [List.cons_append, numberedFrames, numberedFrames, ih, List.append_assoc, List.length_cons]
    rw [show i + 1 + ys.length = i + (ys.length + 1) by omega]

structure ClientRelays [Device S SE] [Device TS TE] [ReadReady S SE] [ReadReady TS TE] [DelayNs D]
    [Lossless S] [Lossless TS] (flavour : Flavour) (xs : List ClientExchange)
    (results : List (Except (Stop (BridgeError SE TE)) BridgeEvent)) (s : Session S TS D SE TE)
    : Prop where
  transactions : results = xs.map fun x => .ok (.transaction (.ofBytes x.query.frame))
  tcpTx : Trace.tcpTx s.trace = numberedFrames ClientExchange.request 1 xs
  serialTx : Trace.serialTx s.trace = xs.flatMap fun x => rtuFrame x.body
  serialRx : Lossless.rx s.serial = []
  tcpRx : Lossless.rx s.stream = []
  closed : outcome (ClientSession.next flavour s) = .error (.failed .rtuClosed)
  closed_serialTx : Trace.serialTx (during (ClientSession.next flavour) s) = []
  closed_tcpTx : Trace.tcpTx (during (ClientSession.next flavour) s) = []

def clientView (done rest : List ClientExchange) : View where
  serialRx := rest.flatMap fun x => x.query.frame
  tcpRx := numberedFrames ClientExchange.response (1 + done.length) rest
  serialTx := done.flatMap fun x => rtuFrame x.body
  tcpTx := numberedFrames ClientExchange.request 1 done
  transactionId := UInt16.ofNat done.length

variable [Device S SE] [Device TS TE] [ReadReady S SE] [ReadReady TS TE] [DelayNs D] [Lossless S]
  [Lossless TS]

theorem ClientSession.next_exchange (hflavour : Flavour.Untimed flavour) (done : List ClientExchange)
    (x : ClientExchange) (rest : List ClientExchange)
    : Ends (At (clientView done (x :: rest)))
        (ClientSession.next flavour : Exec (Session S TS D SE TE) (BridgeError SE TE) BridgeEvent)
        (.ok (.transaction (.ofBytes x.query.frame)))
        (At (clientView (done ++ [x]) rest)) := by
  -- Ids are numbers modulo 65536, and so is the count of what has been done.
  have hid : UInt16.ofNat (1 + done.length) = UInt16.ofNat done.length + 1 := by
    rw [Nat.add_comm, UInt16.ofNat_add]
    rfl
  unfold clientView
  rw [numberedFrames_append, numberedFrames, List.length_append, List.length_singleton]
  simp only [List.flatMap_cons, List.flatMap_append, List.flatMap_nil, List.append_nil]
  rw [hid, Nat.add_assoc, UInt16.ofNat_add, ← Transaction.ofRequest_parseRtuRequest x.query.length_ge]
  apply ClientSession.next_ends hflavour x.query.layout.length_eq x.query.layout.length_le
    ⟨UInt16.ofNat done.length + 1, x.protocolId, x.body, x.pos, x.max⟩ rfl

theorem client_relays (flavour : Flavour) (b : Bridge S D) (stream : TS) (xs : List ClientExchange)
    (hflavour : flavour.Untimed)
    (hserial : Lossless.rx b.serial = xs.flatMap fun x => x.query.frame)
    (htcp : Lossless.rx stream = numberedFrames ClientExchange.response 1 xs)
    (hfaults : Lossless.faults b.serial ≤ 10) (hsteady : Lossless.faults stream = 0)
    : ClientRelays flavour xs
        (repeated (ClientSession.next flavour) xs.length (b.accept stream : Session S TS D SE TE)).1
        (repeated (ClientSession.next flavour) xs.length (b.accept stream)).2 := by
  have hstart : At (clientView [] xs) (b.accept stream : Session S TS D SE TE) :=
    ⟨hserial, htcp, rfl, rfl, rfl, hfaults, hsteady, rfl⟩
  obtain ⟨hresults, hend⟩ := repeated_ends (fun done rest => At (clientView done rest))
    (ClientSession.next_exchange hflavour) [] xs _ hstart
  generalize (repeated (ClientSession.next flavour) xs.length (b.accept stream)) = run at *
  obtain ⟨hclosed, hafter⟩ := ClientSession.next_eof hflavour run.2 hend
  have hgrows := ClientSession.next_yields Event.serialTx flavour run.2
  refine ⟨hresults, hend.tcpTx, hend.serialTx, hend.serialRx, hend.tcpRx, hclosed, ?_, ?_⟩
  . apply List.append_right_eq_self.mp (hend.serialTx_during hafter hgrows).symm
  . apply List.append_right_eq_self.mp (hend.tcpTx_during hafter hgrows).symm

def twoQueries : List ClientExchange := [
  { query := ⟨readRequest, .fixed 0x11 (by decide) 0x00 0x00 0x00 0x0A⟩
    protocolId := 0
    body := 0x11 :: 0x03 :: 0x14 :: List.replicate 20 0xAB
    pos := by decide
    max := by decide },
  { query := ⟨_, .counted 0x11 (by decide : (0x10 : UInt8) = 0x0F ∨ (0x10 : UInt8) = 0x10) 0x00 0x05 0x00 0x01
      (by decide : [(0xCD : UInt8), 0xEF].length ≤ 246)⟩
    protocolId := 3
    body := [0x11, 0x10, 0x00, 0x05, 0x00, 0x01]
    pos := by decide
    max := by decide }]

def twoQueriesClient : Bridge MockStream MockDelay where
  serial := ⟨twoQueries.flatMap fun x => x.query.frame, [1, 5, 2, 1, 3]⟩
  txEn := false
  rtuTimeoutMs := none
  tcpTimeoutMs := none
  delay := ⟨0⟩

def twoQueriesStream : MockStream where
  rx := numberedFrames ClientExchange.response 1 twoQueries
  limits := [4, 1, 1, 1, 7]

theorem client_relays_two
    : ClientRelays .async twoQueries
        (repeated (ClientSession.next .async) twoQueries.length
          (twoQueriesClient.accept twoQueriesStream : Session _ _ _ Empty Empty)).1
        (repeated (ClientSession.next .async) twoQueries.length
          (twoQueriesClient.accept twoQueriesStream)).2 :=
  client_relays .async twoQueriesClient twoQueriesStream twoQueries .async (by rfl) (by rfl)
    (by decide) (by rfl)

end Client

end ModbusBridge
