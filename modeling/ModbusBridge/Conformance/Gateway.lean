import ModbusBridge.Conformance.Tunnel
import ModbusBridge.Lemmas.Run

/-!
This module contains what a gateway does with the bytes of its two lines at every moment of a run, on arbitrary
devices, and what a client and a bridge that run at the same time do together.
-/

namespace ModbusBridge

open Dataflow Effect EmbeddedIo Session

variable {S TS D SE TE S' TS' D' SE' TE' : Type}
  [Device S SE] [Device TS TE] [ReadReady S SE] [ReadReady TS TE] [DelayNs D]
  [Device S' SE'] [Device TS' TE'] [ReadReady S' SE'] [ReadReady TS' TE'] [DelayNs D']

/--
In either mode, whatever the devices and the timers do: at every moment of a run the serial bytes written are the
start of the translation of the TCP bytes read, and the translation of the TCP bytes written is the start of the
serial bytes read. When all calls have returned an event, everything read from TCP has been written.
-/
theorem run_in_step (mode : Mode) (flavours : List Flavour) (s : Session S TS D SE TE)
    : Always InStep (during (mode.run flavours) s)
        ∧ ∀ events, outcome (mode.run flavours s) = .ok events
          → Trace.serialTx (during (mode.run flavours) s)
            = unwrapped (Trace.tcpRx (during (mode.run flavours) s)) := by
  refine ⟨mode.run_always flavours s, ?_⟩
  intro events h
  have haligned := (Mode.run_aligned (Exec.eq_ok_of_outcome h)).down []
  rw [List.append_nil, unwrapped_nil, List.append_nil] at haligned
  exact haligned.symm

section Tunnel

/--
The serial lines at the two ends of a tunnel, as far as they have come: what one end has written is the start of
what the other one has read.
-/
structure Faithful (client : List (Event SE TE)) (bridge : List (Event SE' TE')) : Prop where
  requests : Trace.serialTx bridge <+: Trace.serialRx client
  responses : Trace.serialTx client <+: Trace.serialRx bridge

theorem Faithful.of_inStep {client : List (Event SE TE)} {bridge : List (Event SE' TE')} (hclient : InStep client)
    (hbridge : InStep bridge) (hrequests : Trace.tcpRx bridge <+: Trace.tcpTx client)
    (hresponses : Trace.tcpRx client <+: Trace.tcpTx bridge) : Faithful client bridge := by
  constructor
  . apply hbridge.down.trans
    apply (unwrapped_mono hrequests).trans
    apply hclient.up
  . apply hclient.down.trans
    apply (unwrapped_mono hresponses).trans
    apply hbridge.up

/--
A client and a bridge run at the same time, interleaved in any way, each of them possibly still in the middle of
its run, and the TCP stream between them delivers in order what has been written to it. At every moment the tunnel
is as good as a wire.
-/
theorem tunnel_transparent (flavours flavours' : List Flavour) (c : Session S TS D SE TE)
    (b : Session S' TS' D' SE' TE') {t p : List (Event SE TE ⊕ Event SE' TE')}
    (hclient : lefts t <+: during (Mode.client.run flavours) c)
    (hbridge : rights t <+: during (Mode.bridge.run flavours') b)
    (hrequests : Link Trace.tcpTx Trace.tcpRx lefts rights t)
    (hresponses : Link Trace.tcpTx Trace.tcpRx rights lefts t) (hp : p <+: t)
    : Faithful (lefts p) (rights p) := by
  have hclients := Mode.client.run_always flavours c _ ((lefts_mono hp).trans hclient)
  have hbridges := Mode.bridge.run_always flavours' b _ ((rights_mono hp).trans hbridge)
  apply Faithful.of_inStep hclients hbridges
  . apply hrequests p hp
  . apply hresponses p hp

def refusal : List UInt8 := [0x11, 0x83, 0x02]

def nearEnd : Session MockStream MockStream MockDelay Empty Empty :=
  mockSession (rtuFrame readRequest) (tcpFrame 1 0 refusal)

def farEnd : Session MockStream MockStream MockDelay Empty Empty :=
  mockSession (rtuFrame refusal) (tcpFrame 1 0 readRequest)

/--
The bridge works on the request while the client waits for the response.
-/
def oneExchange : List (Event Empty Empty ⊕ Event Empty Empty) :=
  let client := during (Mode.client.run [.sync]) nearEnd
  (client.take 4).map .inl ++ (during (Mode.bridge.run [.async]) farEnd).map .inr ++ (client.drop 4).map .inl

theorem parts_oneExchange
    : lefts oneExchange = during (Mode.client.run [.sync]) nearEnd
        ∧ rights oneExchange = during (Mode.bridge.run [.async]) farEnd := by
  unfold oneExchange
  simp [-List.map_take, -List.map_drop]

theorem link_oneExchange
    : Link Trace.tcpTx Trace.tcpRx lefts rights oneExchange
        ∧ Link Trace.tcpTx Trace.tcpRx rights lefts oneExchange := by
  have h : ∀ p ∈ oneExchange.inits, Trace.tcpRx (rights p) <+: Trace.tcpTx (lefts p)
      ∧ Trace.tcpRx (lefts p) <+: Trace.tcpTx (rights p) := by
    decide +kernel
  constructor
  . intro p hp
    apply (h p ((List.mem_inits _ _).mpr hp)).1
  . intro p hp
    apply (h p ((List.mem_inits _ _).mpr hp)).2

theorem tunnel_transparent_oneExchange
    : Faithful (lefts (oneExchange.take 25)) (rights (oneExchange.take 25)) :=
  tunnel_transparent [.sync] [.async] nearEnd farEnd (by rw [parts_oneExchange.1]) (by rw [parts_oneExchange.2])
    link_oneExchange.1 link_oneExchange.2 (List.take_prefix 25 oneExchange)

/--
A client and a bridge have come to rest: all their calls have returned an event, and nothing is left on the TCP
stream between them.
-/
structure AtRest (c : Session S TS D SE TE) (b : Session S' TS' D' SE' TE') (flavours flavours' : List Flavour)
    (events events' : List BridgeEvent) : Prop where
  client : outcome (Mode.client.run flavours c) = .ok events
  bridge : outcome (Mode.bridge.run flavours' b) = .ok events'
  requests : Trace.tcpRx (during (Mode.bridge.run flavours') b) = Trace.tcpTx (during (Mode.client.run flavours) c)
  responses : Trace.tcpRx (during (Mode.client.run flavours) c) = Trace.tcpTx (during (Mode.bridge.run flavours') b)

/--
The two ends of a tunnel have seen the same, and no reply was a foreign one.
-/
structure SameExchanges (client : List (Event SE TE)) (bridge : List (Event SE' TE'))
    (events events' : List BridgeEvent) : Prop where
  requests : Trace.serialTx bridge = Trace.serialRx client
  responses : Trace.serialTx client = Trace.serialRx bridge
  events_eq : events = events'
  transactions : ∀ event ∈ events, ∃ transaction, event = .transaction transaction

theorem SameExchanges.of_pieces {ct : List (Event SE TE)} {bt : List (Event SE' TE')}
    (hclient : Pieces (fun event t => ∃ tid rtid pid body rbody,
      ClientSession.Relayed tid rtid pid body rbody event t) events ct)
    (hbridge : Pieces (fun event t => ∃ tid pid body rbody, Connection.Relayed tid pid body rbody event t) events' bt)
    (hrequests : Trace.tcpRx bt = Trace.tcpTx ct) (hresponses : Trace.tcpRx ct = Trace.tcpTx bt)
    : SameExchanges ct bt events events' := by
  -- The frames of the two runs are matched one by one: each of them tells where it ends.
  induction hclient generalizing events' bt with
  | nil =>
    cases hbridge with
    | nil => exact ⟨rfl, rfl, rfl, by simp⟩
    | cons hb _ =>
      obtain ⟨_, _, _, _, hb⟩ := hb
      rw [Trace.tcpRx_append, hb.tcpRx] at hrequests
      have := congrArg List.length hrequests
      rw [List.length_append, length_tcpFrame] at this
      simp [Trace.tcpTx] at this
  | cons hc _ ih =>
    obtain ⟨tid, rtid, pid, body, rbody, hc⟩ := hc
    cases hbridge with
    | nil =>
      rw [Trace.tcpTx_append, hc.tcpTx] at hrequests
      have := congrArg List.length hrequests
      rw [List.length_append, length_tcpFrame] at this
      simp [Trace.tcpRx] at this
      omega
    | cons hb hbs =>
      obtain ⟨tid', pid', body', rbody', hb⟩ := hb
      have hmax := hb.max
      have hmaxc := hc.max
      have hresponse := hc.max_response
      have hbounds := responseLength_bounds (rtuFrame rbody')
      have hlen := hb.length
      have hge := requestLength_ge (rtuFrame body)
      have hlenc := hc.length
      rw [Trace.tcpRx_append, hb.tcpRx, Trace.tcpTx_append, hc.tcpTx] at hrequests
      rw [Trace.tcpRx_append, hc.tcpRx, Trace.tcpTx_append, hb.tcpTx] at hresponses
      obtain ⟨rfl, rfl, hreqs⟩ := tcpFrame_append_inj (by omega) (by omega) hrequests
      obtain ⟨rfl, rfl, hresps⟩ := tcpFrame_append_inj (by omega) (by omega) hresponses
      have hrest := ih hbs hreqs hresps
      have hevent := parseTcpRequest_tcpFrame (show 6 ≤ body'.length by omega) rtid pid'
      have hreport : ClientSession.report (rtuFrame body') rtid rtid
          = .transaction (.ofRequest (parseTcpRequest (tcpFrame rtid pid' body'))) := by
        rw [ClientSession.report, if_pos rfl, hevent]
      rw [hc.event_eq, hb.event_eq, hreport]
      constructor
      . rw [Trace.serialTx_append, Trace.serialRx_append, hb.serialTx, hc.serialRx, hrest.requests]
      . rw [Trace.serialTx_append, Trace.serialRx_append, hc.serialTx, hb.serialRx, hrest.responses]
      . rw [hrest.events_eq]
      . rw [List.forall_mem_cons]
        exact ⟨⟨_, rfl⟩, hrest.transactions⟩

theorem tunnel_at_rest {c : Session S TS D SE TE} {b : Session S' TS' D' SE' TE'} {flavours flavours' : List Flavour}
    (h : AtRest c b flavours flavours' events events')
    : SameExchanges (during (Mode.client.run flavours) c) (during (Mode.bridge.run flavours') b) events events' := by
  apply SameExchanges.of_pieces
  . apply Mode.client_pieces (Exec.eq_ok_of_outcome h.client)
  . apply Mode.bridge_pieces (Exec.eq_ok_of_outcome h.bridge)
  . apply h.requests
  . apply h.responses

theorem tunnel_at_rest_one
    : SameExchanges (during (Mode.client.run [.sync]) nearEnd) (during (Mode.bridge.run [.async]) farEnd)
        [.transaction (.ofBytes readRequest)] [.transaction (.ofBytes readRequest)] :=
  tunnel_at_rest ⟨by decide +kernel, by decide +kernel, by decide +kernel, by decide +kernel⟩

end Tunnel

end ModbusBridge
