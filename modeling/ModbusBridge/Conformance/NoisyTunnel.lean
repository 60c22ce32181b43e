import ModbusBridge.Conformance.Noise
import ModbusBridge.Conformance.Tunnel

/-!
This module contains a tunnel whose master is on a noisy line: a client and a bridge, each of which gets on its TCP
stream what the other one sends.
-/

namespace ModbusBridge

open Effect EmbeddedIo Session Framing View

/--
A request of the master as it arrives at the client, and the response of the device at the other end.
-/
structure TunnelExchange where
  near : Flavour
  nearUntimed : near.Untimed
  far : Flavour
  farUntimed : far.Untimed
  request : Reception requestLayout rtuBuf
  response : List UInt8
  whole : responseLayout.Whole (rtuFrame response)
  min_le : 4 ≤ (rtuFrame response).length
  /-- The length field of a TCP frame has room for 255 bytes. -/
  le_max : (rtuFrame response).length ≤ 257

namespace TunnelExchange

theorem le_body (x : TunnelExchange) : 6 ≤ x.request.body.length := by
  have hwhole : (rtuFrame x.request.body).length = requestLength (rtuFrame x.request.body) := x.request.whole
  have hmin := requestLength_ge (rtuFrame x.request.body)
  rw [length_rtuFrame] at hwhole
  omega

theorem body_le (x : TunnelExchange) : x.request.body.length ≤ 253 := by
  have hmax := x.request.le_max
  rw [length_rtuFrame] at hmax
  unfold rtuBuf at hmax
  omega

/--
The request as the bridge gets it.
-/
def message (x : TunnelExchange) (tid : UInt16) : TcpMessage where
  transactionId := tid
  protocolId := 0
  body := x.request.body
  pos := by
    have := x.le_body
    omega
  max := by
    have := x.body_le
    omega

/--
The response as the client gets it.
-/
def reply (x : TunnelExchange) (tid : UInt16) : TcpMessage where
  transactionId := tid
  protocolId := 0
  body := x.response
  pos := by
    have := x.min_le
    rw [length_rtuFrame] at this
    omega
  max := by
    have := x.le_max
    rw [length_rtuFrame] at this
    omega

def query (x : TunnelExchange) (tid : UInt16) : NoisyQuery where
  flavour := x.near
  untimed := x.nearUntimed
  request := x.request
  response := x.reply (tid + 1)

def exchange (x : TunnelExchange) (tid : UInt16) : NoisyExchange where
  flavour := x.far
  untimed := x.farUntimed
  request := x.message (tid + 1)
  response := {
    body := x.response
    whole := x.whole
    min_le := x.min_le
    le_max := Nat.le_trans x.le_max (by decide)
    received := rtuFrame x.response
    noise := .none
    whole_received := x.whole
  }

def count (x : TunnelExchange) (tid : UInt16) : UInt16 := if x.request.Intact then tid + 1 else tid

def queries : List TunnelExchange → UInt16 → List NoisyQuery
  | [], _ => []
  | x :: xs, tid => x.query tid :: queries xs (x.count tid)

/--
The bridge only sees the requests that arrive intact at the client.
-/
def exchanges : List TunnelExchange → UInt16 → List NoisyExchange
  | [], _ => []
  | x :: xs, tid => if x.request.Intact then x.exchange tid :: exchanges xs (tid + 1) else exchanges xs tid

def intact (xs : List TunnelExchange) : List TunnelExchange := xs.filter fun x => x.request.Intact

def transaction (x : TunnelExchange) : BridgeEvent :=
  .transaction (.ofRequest (parseRtuRequest (rtuFrame x.request.body)))

/--
What either end reports of the exchange, if it sees it at all.
-/
def answer (x : TunnelExchange) : Option (Except (Stop (BridgeError SE TE)) BridgeEvent) :=
  if x.request.Intact then some (.ok x.transaction) else some (.error (.failed .rtuCrcMismatch))

def nearCall (x : TunnelExchange) : Call TS := .client x.near

def farCall (x : TunnelExchange) : Call TS := .bridge x.far

section Lists

variable (x : TunnelExchange) (tid : UInt16)

theorem query_reply : (x.query tid).reply = if x.request.Intact then rtuFrame x.response else [] := rfl

theorem query_count : (x.query tid).count tid = if x.request.Intact then tid + 1 else tid := rfl

theorem query_asked : (x.query tid).asked tid = if x.request.Intact then (x.exchange tid).request.frame else [] := rfl

theorem query_answered
    : (x.query tid).answered = if x.request.Intact then (x.exchange tid).reply else [] := by
  rw [show (x.exchange tid).reply = (x.query tid).response.frame from if_pos rfl]
  rfl

theorem query_answer
    : (x.query tid).answer tid = (x.answer : Option (Except (Stop (BridgeError SE TE)) BridgeEvent)) := by
  have hreport : ClientSession.report (rtuFrame x.request.body) (tid + 1) (tid + 1) = x.transaction := if_pos rfl
  unfold answer
  rw [← hreport]
  rfl

theorem exchange_answer
    : (x.exchange tid).answer
        = (some (.ok x.transaction) : Option (Except (Stop (BridgeError SE TE)) BridgeEvent)) := by
  have hparse := parseTcpRequest_tcpFrame x.le_body (tid + 1) 0
  unfold transaction
  rw [← hparse]
  apply if_pos
  rfl

theorem intact_cons (xs : List TunnelExchange)
    : intact (x :: xs) = if x.request.Intact then x :: intact xs else intact xs := by
  unfold intact
  rw [List.filter_cons]
  simp only [decide_eq_true_eq]

variable (xs : List TunnelExchange)

theorem queries_call : (queries xs tid).map (NoisyQuery.call : _ → Call TS) = xs.map nearCall := by
  induction xs generalizing tid with
  | nil => rfl
  | cons x xs ih =>
    rw [queries, List.map_cons, List.map_cons, ih]
    rfl

theorem queries_received
    : (queries xs tid).flatMap (fun x => x.request.received) = xs.flatMap fun x => x.request.received := by
  induction xs generalizing tid with
  | nil => rfl
  | cons x xs ih =>
    rw [queries, List.flatMap_cons, List.flatMap_cons, ih]
    rfl

theorem queries_answer
    : answersOf NoisyQuery.count NoisyQuery.answer (queries xs tid) tid
        = xs.map (answer : _ → Option (Except (Stop (BridgeError SE TE)) BridgeEvent)) := by
  induction xs generalizing tid with
  | nil => rfl
  | cons x xs ih =>
    rw [queries, answersOf_cons, List.map_cons, query_answer, query_count, ← count, ih]

theorem queries_reply
    : (queries xs tid).flatMap NoisyQuery.reply = (intact xs).flatMap fun x => rtuFrame x.response := by
  induction xs generalizing tid with
  | nil => rfl
  | cons x xs ih =>
    rw [queries, List.flatMap_cons, ih, intact_cons, query_reply]
    split
    . rw [List.flatMap_cons]
    . rw [List.nil_append]

theorem queries_count : afterCalls NoisyQuery.count (queries xs tid) tid = tid + .ofNat (intact xs).length := by
  induction xs generalizing tid with
  | nil => simp [queries, intact]
  | cons x xs ih =>
    rw [queries, afterCalls_cons, query_count, ← count, ih, intact_cons, count]
    split
    . rw [List.length_cons, UInt16.ofNat_add, UInt16.add_assoc, UInt16.add_comm 1]
      rfl
    . rfl

/--
What the client asks is what the bridge is asked.
-/
theorem queries_asked
    : (answersOf NoisyQuery.count NoisyQuery.asked (queries xs tid) tid).flatten
        = (exchanges xs tid).flatMap fun x => x.request.frame := by
  induction xs generalizing tid with
  | nil => rfl
  | cons x xs ih =>
    rw [queries, answersOf_cons, List.flatten_cons, query_asked, query_count, ← count, ih, exchanges, count]
    split
    . rw [List.flatMap_cons]
    . rw [List.nil_append]

/--
What the bridge replies is what the client is answered.
-/
theorem queries_answered
    : (queries xs tid).flatMap NoisyQuery.answered = (exchanges xs tid).flatMap NoisyExchange.reply := by
  induction xs generalizing tid with
  | nil => rfl
  | cons x xs ih =>
    rw [queries, List.flatMap_cons, ih, exchanges, query_answered, count]
    split
    . rw [List.flatMap_cons]
    . rw [List.nil_append]

/--
An exchange of the bridge is one of the intact exchanges.
-/
theorem map_exchanges {f : NoisyExchange → β} {g : TunnelExchange → β} (h : ∀ x tid, f (exchange x tid) = g x)
    : (exchanges xs tid).map f = (intact xs).map g := by
  induction xs generalizing tid with
  | nil => rfl
  | cons x xs ih =>
    rw [exchanges, intact_cons]
    split
    . rw [List.map_cons, List.map_cons, h, ih]
    . rw [ih]

theorem flatMap_exchanges {f : NoisyExchange → List β} {g : TunnelExchange → List β}
    (h : ∀ x tid, f (exchange x tid) = g x) : (exchanges xs tid).flatMap f = (intact xs).flatMap g := by
  rw [List.flatMap_def, List.flatMap_def, map_exchanges tid xs h]

theorem exchanges_call : (exchanges xs tid).map (NoisyExchange.call : _ → Call TS) = (intact xs).map farCall :=
  map_exchanges tid xs fun _ _ => rfl

theorem exchanges_received
    : (exchanges xs tid).flatMap (fun x => x.response.received) = (intact xs).flatMap fun x => rtuFrame x.response :=
  flatMap_exchanges tid xs fun _ _ => rfl

theorem exchanges_sent
    : (exchanges xs tid).flatMap (fun x => rtuFrame x.request.body)
        = (intact xs).flatMap fun x => rtuFrame x.request.body :=
  flatMap_exchanges tid xs fun _ _ => rfl

theorem exchanges_answer
    : (exchanges xs tid).map (NoisyExchange.answer : _ → Option (Except (Stop (BridgeError SE TE)) BridgeEvent))
        = (intact xs).map fun x => some (.ok x.transaction) :=
  map_exchanges tid xs fun x tid => x.exchange_answer tid

end Lists

end TunnelExchange

/--
Whatever the client is answered, it has asked for the intact request and goes on to the next one.
-/
theorem NoisyQuery.clientStep_asks (SE TE : Type) (x : NoisyQuery) (srx trx stx ttx : List UInt8) (tid : UInt16)
    : ∃ trx' stx', finalState ((clientStep : Exec View (BridgeError SE TE) BridgeEvent)
        ⟨x.request.received ++ srx, trx, stx, ttx, tid⟩) = ⟨srx, trx', stx', ttx ++ x.asked tid, x.count tid⟩ := by
  have htake := x.request.takeRtu_received (by decide) (Nat.le_refl rtuBuf) (.rtuClosed : BridgeError SE TE) srx
    trx stx ttx tid
  unfold clientStep asked count
  by_cases hintact : x.request.Intact
  . rw [if_pos hintact] at htake ⊢
    rw [clientProgram_taken htake, nextId_bind, putTcp_bind, if_pos hintact]
    have hrest := takeTcp_finalState SE TE ⟨srx, trx, stx, ttx ++ tcpFrame (tid + 1) 0 x.request.body, tid + 1⟩
    cases hresponse : (takeTcp ⟨srx, trx, stx, ttx ++ tcpFrame (tid + 1) 0 x.request.body, tid + 1⟩ :
      EStateM.Result (Stop (BridgeError SE TE)) _ _) with
    | error e v =>
      rw [hresponse] at hrest
      rw [Exec.bind_error hresponse]
      exact ⟨_, _, hrest⟩
    | ok response v =>
      rw [hresponse] at hrest
      rw [Exec.bind_ok hresponse, show v = _ from hrest]
      split
      . exact ⟨_, _, rfl⟩
      . exact ⟨_, _, rfl⟩
  . rw [if_neg hintact] at htake ⊢
    unfold clientProgram
    rw [Exec.bind_error htake, if_neg hintact, List.append_nil]
    exact ⟨_, _, rfl⟩

section Run

open TunnelExchange (intact nearCall farCall)

variable {S TS D SE TE : Type} [Device S SE] [Device TS TE] [ReadReady S SE] [ReadReady TS TE] [DelayNs D]
  [Lossless S] [Lossless TS]

theorem NoisyQuery.asks (xs : List NoisyQuery) {s : Session S TS D SE TE}
    (h : At ⟨xs.flatMap (fun x => x.request.received) ++ srx, trx, stx, ttx, tid⟩ s)
    : Trace.tcpTx (afterCalls Call.perform (xs.map NoisyQuery.call) s).trace
        = ttx ++ (answersOf NoisyQuery.count NoisyQuery.asked xs tid).flatten := by
  induction xs generalizing s trx stx ttx tid with
  | nil =>
    rw [answersOf_nil, List.flatten_nil, List.append_nil]
    apply h.tcpTx
  | cons x xs ih =>
    rw [List.flatMap_cons, List.append_assoc] at h
    have hafter := (Call.steady_step (.client x.untimed) h).2
    obtain ⟨trx', stx', hnext⟩ := x.clientStep_asks SE TE
      (xs.flatMap (fun x => x.request.received) ++ srx) trx stx ttx tid
    rw [show (Call.client x.flavour : Call TS).advance SE _ = _ from hnext] at hafter
    rw [List.map_cons, afterCalls_cons, answersOf_cons, List.flatten_cons, ← List.append_assoc]
    apply ih hafter

variable {S' TS' D' SE' TE' : Type} [Device S' SE'] [Device TS' TE'] [ReadReady S' SE'] [ReadReady TS' TE']
  [DelayNs D'] [Lossless S'] [Lossless TS']

/--
A client whose master is on a noisy line, and a bridge, each of which gets on its TCP stream what the other one
sends. All requests that arrive intact reach the device, in their order and as they were, each of them gets its own
response, and both ends report the same of it. The other requests leave no trace but an error at the client.
-/
theorem tunnel_survives_noise (xs : List TunnelExchange) {c : Session S TS D SE TE} {b : Session S' TS' D' SE' TE'}
    (hc : At ⟨xs.flatMap (fun x => x.request.received) ++ srx, up, stx, ttx, tid⟩ c)
    (hb : At ⟨(intact xs).flatMap (fun x => rtuFrame x.response) ++ srx', down, stx', ttx', tid'⟩ b)
    (hdown : Trace.tcpTx (afterCalls Call.perform (xs.map nearCall) c).trace = ttx ++ down)
    (hup : Trace.tcpTx (afterCalls Call.perform ((intact xs).map farCall) b).trace
      = ttx' ++ up)
    : answersOf Call.perform Call.answer (xs.map nearCall) c = xs.map TunnelExchange.answer
        ∧ answersOf Call.perform Call.answer ((intact xs).map farCall) b
            = (intact xs).map (fun x => some (.ok x.transaction))
        ∧ At ⟨srx, [], stx ++ (intact xs).flatMap (fun x => rtuFrame x.response), ttx ++ down,
              tid + .ofNat (intact xs).length⟩
            (afterCalls Call.perform (xs.map nearCall) c)
        ∧ At ⟨srx', [], stx' ++ (intact xs).flatMap (fun x => rtuFrame x.request.body), ttx' ++ up, tid'⟩
            (afterCalls Call.perform ((intact xs).map farCall) b) := by
  rw [← TunnelExchange.queries_received tid xs] at hc
  rw [← TunnelExchange.queries_call tid xs] at hdown ⊢
  rw [← TunnelExchange.exchanges_received tid xs] at hb
  rw [← TunnelExchange.exchanges_call tid xs] at hup ⊢
  -- What the client asks does not depend on what it is answered, so the bridge is asked the intact requests.
  have hasked := NoisyQuery.asks _ hc
  rw [hdown, List.append_right_inj, TunnelExchange.queries_asked] at hasked
  rw [← List.append_nil down, hasked] at hb
  obtain ⟨hanswers', hend'⟩ := Call.steady_calls (NoisyExchange.steady _)
    (NoisyExchange.machine_relays_all SE' _ _ _ _ _ _) hb
  -- In turn, the client is answered what the bridge has replied to them.
  have hreplied := hend'.tcpTx
  rw [hup, List.append_right_inj, ← TunnelExchange.queries_answered] at hreplied
  rw [← List.append_nil up, hreplied] at hc
  obtain ⟨hanswers, hend⟩ := Call.steady_calls (NoisyQuery.steady _) (NoisyQuery.machine_relays_all SE _ _ _ _ _ _) hc
  rw [hanswers, hanswers', TunnelExchange.queries_answer, TunnelExchange.exchanges_answer]
  rw [TunnelExchange.queries_reply, TunnelExchange.queries_count, TunnelExchange.queries_asked, ← hasked] at hend
  rw [TunnelExchange.exchanges_sent, ← TunnelExchange.queries_answered, ← hreplied] at hend'
  exact ⟨rfl, rfl, hend, hend'⟩

end Run

/--
The second of three requests is hit.
-/
def threeRequests : List TunnelExchange :=
  let exchange (request : Reception requestLayout rtuBuf) : TunnelExchange := {
    near := .sync
    nearUntimed := .sync
    far := .async
    farUntimed := .async
    request
    response := exception
    whole := intactResponse.whole
    min_le := intactResponse.min_le
    le_max := Nat.le_of_ble_eq_true rfl
  }
  [exchange intactRequest, exchange hitRequest, exchange intactRequest]

def noisyEnd : Session MockStream MockStream MockDelay Empty Empty :=
  mockSession (threeRequests.flatMap (fun x => x.request.received) ++ [])
    (tcpFrame 1 0 exception ++ tcpFrame 2 0 exception)

def quietEnd : Session MockStream MockStream MockDelay Empty Empty :=
  mockSession ((TunnelExchange.intact threeRequests).flatMap (fun x => rtuFrame x.response) ++ [])
    (tcpFrame 1 0 readRequest ++ tcpFrame 2 0 readRequest)

theorem tunnel_survives_noise_three
    : answersOf Call.perform Call.answer (threeRequests.map TunnelExchange.nearCall) noisyEnd
        =
      [
        some (.ok (.transaction (.ofBytes readRequest))),
        some (.error (.failed .rtuCrcMismatch)),
        some (.ok (.transaction (.ofBytes readRequest)))
      ] := by
  have htunnel := tunnel_survives_noise threeRequests (mockSession_at _ _) (mockSession_at _ _)
    (by decide +kernel : Trace.tcpTx
        (afterCalls Call.perform (threeRequests.map TunnelExchange.nearCall) noisyEnd).trace
      = [] ++ (tcpFrame 1 0 readRequest ++ tcpFrame 2 0 readRequest))
    (by decide +kernel : Trace.tcpTx (afterCalls Call.perform
      ((TunnelExchange.intact threeRequests).map TunnelExchange.farCall) quietEnd).trace
        = [] ++ (tcpFrame 1 0 exception ++ tcpFrame 2 0 exception))
  unfold noisyEnd
  rw [htunnel.1]
  decide +kernel

end ModbusBridge
