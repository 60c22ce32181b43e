import ModbusBridge.Lemmas.Connection
import ModbusBridge.Spec.Mock

/-!
This module contains what a `Transaction` says about the request it stands for. A frame of less than
twelve bytes is not parsed at all, so its transaction consists of zeros.
-/

namespace ModbusBridge

open Effect EmbeddedIo Session

structure Describes (t : Transaction) (tcp : List UInt8) : Prop where
  unitId : t.unitId = tcp.getD 6 0
  functionCode : t.functionCode = .ofByte (tcp.getD 7 0)
  startAddress : 10 ≤ tcp.length → t.startAddress = fromBeBytes (tcp.getD 8 0) (tcp.getD 9 0)
  registerCount : 12 ≤ tcp.length → t.registerCount = fromBeBytes (tcp.getD 10 0) (tcp.getD 11 0)

/--
All that a transaction describes of the frame is zero.
-/
structure AllZero (tcp : List UInt8) : Prop where
  unitId : tcp.getD 6 0 = 0
  functionCode : tcp.getD 7 0 = 0
  startAddress : 10 ≤ tcp.length → fromBeBytes (tcp.getD 8 0) (tcp.getD 9 0) = 0

theorem eq_of_ite_eq [Decidable p] {a b c : α} (h : (if p then a else b) = c) (ha : a ≠ c) : b = c := by
  split at h
  . contradiction
  . exact h

theorem FunctionCode.ofByte_eq_zero {v : UInt8} (h : FunctionCode.ofByte v = .ofByte 0) : v = 0 := by
  rw [show FunctionCode.ofByte 0 = .other 0 from rfl] at h
  unfold ofByte at h
  -- None of the eight named codes is the one of an unnamed byte.
  iterate 8 replace h := eq_of_ite_eq h nofun
  injection h

theorem parseTcpRequest_of_le {tcp : List UInt8} (h : 12 ≤ tcp.length)
    : parseTcpRequest tcp
        = some (tcp.getD 6 0, tcp.getD 7 0, fromBeBytes (tcp.getD 8 0) (tcp.getD 9 0),
            fromBeBytes (tcp.getD 10 0) (tcp.getD 11 0)) := by
  have hget (i : Nat) (hi : i < tcp.length) : tcp.getD i 0 = tcp[i] := by
    rw [List.getD_eq_getElem?_getD, List.getElem?_eq_getElem hi, Option.getD_some]
  unfold parseTcpRequest
  rw [dif_neg (by omega)]
  rw [hget 6 (by omega), hget 7 (by omega), hget 8 (by omega), hget 9 (by omega), hget 10 (by omega),
    hget 11 (by omega)]

theorem describes_ofRequest_iff (tcp : List UInt8)
    : Describes (.ofRequest (parseTcpRequest tcp)) tcp ↔ 12 ≤ tcp.length ∨ AllZero tcp := by
  by_cases hlen : 12 ≤ tcp.length
  . rw [parseTcpRequest_of_le hlen]
    constructor
    . intro _
      exact .inl hlen
    . intro _
      exact ⟨rfl, rfl, fun _ => rfl, fun _ => rfl⟩
  . have hnone : parseTcpRequest tcp = none := by
      unfold parseTcpRequest
      rw [dif_pos (by omega)]
    rw [hnone]
    constructor
    . intro h
      right
      exact ⟨h.unitId.symm, FunctionCode.ofByte_eq_zero h.functionCode.symm,
        fun hlen => (h.startAddress hlen).symm⟩
    . intro h
      have h := h.resolve_left hlen
      refine ⟨h.unitId.symm, ?_, fun hlen => (h.startAddress hlen).symm, fun h => absurd h hlen⟩
      rw [h.functionCode]
      rfl

variable {S TS D SE TE : Type} [Device S SE] [Device TS TE] [ReadReady S SE] [ReadReady TS TE]
  [DelayNs D]

theorem Connection.next_transaction {s s' : Session S TS D SE TE}
    (h : Connection.next flavour s = .ok (.transaction t) s')
    : ∃ tcp, TcpReads tcp s s' ∧ t = .ofRequest (parseTcpRequest tcp) := by
  have hrun := Connection.next_run flavour s
  rw [h] at hrun
  cases hrun with
  | replied hreq hdata hpos hmax hexchange hresp hlen hsend =>
    refine ⟨_, ?_, rfl⟩
    rw [hdata]
    apply Connection.request_reads hreq hdata
    . apply ((Connection.exchange_onSerial _ flavour).of_ok hexchange).emits
    . apply ((ModbusTcp.send_onTcp _).of_ok hsend).emits

/--
The transaction of a request describes it if and only if the frame has at least twelve bytes, or nothing
but zeros where it is described.
-/
theorem metadata_iff (flavour : Flavour) (s : Session S TS D SE TE) (t : Transaction)
    (h : outcome (Connection.next flavour s) = .ok (.transaction t))
    : Describes t (Trace.tcpRx (during (Connection.next flavour) s))
        ↔
      12 ≤ (Trace.tcpRx (during (Connection.next flavour) s)).length
        ∨ AllZero (Trace.tcpRx (during (Connection.next flavour) s)) := by
  obtain ⟨tcp, hreads, rfl⟩ := Connection.next_transaction (Exec.eq_ok_of_outcome h)
  have hrx : Trace.tcpRx (during (Connection.next flavour) s) = tcp := hreads.flatMap_during
  rw [hrx]
  apply describes_ofRequest_iff

theorem metadata_iff_read
    : Describes ⟨0x11, .readHoldingRegisters, 0, 10⟩
          (Trace.tcpRx (during (Connection.next .sync)
            (mockSession (rtuFrame [0x11, 0x03, 0x02, 0xAA, 0xBB]) (tcpFrame 1 0 readRequest))))
        ↔
      12 ≤ (Trace.tcpRx (during (Connection.next .sync)
            (mockSession (rtuFrame [0x11, 0x03, 0x02, 0xAA, 0xBB]) (tcpFrame 1 0 readRequest)))).length
        ∨ AllZero (Trace.tcpRx (during (Connection.next .sync)
            (mockSession (rtuFrame [0x11, 0x03, 0x02, 0xAA, 0xBB]) (tcpFrame 1 0 readRequest)))) :=
  metadata_iff .sync _ ⟨0x11, .readHoldingRegisters, 0, 10⟩ (by decide +kernel)

theorem metadata_fails
    : ∃ t, outcome (Connection.next .sync
          (mockSession (rtuFrame [0x11, 0x07, 0x00]) (tcpFrame 1 0 [0x11, 0x07]))) = .ok (.transaction t)
        ∧ Trace.tcpRx (during (Connection.next .sync)
            (mockSession (rtuFrame [0x11, 0x07, 0x00]) (tcpFrame 1 0 [0x11, 0x07])))
          = tcpFrame 1 0 [0x11, 0x07]
        ∧ ¬ Describes t (tcpFrame 1 0 [0x11, 0x07]) := by
  refine ⟨⟨0, .other 0, 0, 0⟩, by decide +kernel, by decide +kernel, ?_⟩
  intro h
  exact absurd h.unitId (by decide)

end ModbusBridge
