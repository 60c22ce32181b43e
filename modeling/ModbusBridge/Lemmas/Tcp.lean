import ModbusBridge.Impl.Tcp
import ModbusBridge.Lemmas.Session

/-!
This module contains the footprints of the TCP transport on an arbitrary device. They are stated for
any preorder that the operations on the stream keep to.
-/

namespace ModbusBridge

open Effect EmbeddedIo Session
open Exec (Within)

namespace ModbusTcp

variable {S TS D SE TE : Type} [Device TS TE] {kinds : List Event.Kind}

section Within

variable {R : Session S TS D SE TE → Session S TS D SE TE → Prop}
  [IsPreorder (Session S TS D SE TE) R]

theorem readExact.go_within (hread : ∀ n, Within R (tcpRead n)) (filled : List UInt8)
    (hfilled : filled.length ≤ len) : Within R (go len filled hfilled) := by
  unfold go
  split
  . next hlt =>
    apply Within.bind
    . apply (hread _).result
    . intro r
      split
      . apply Within.fail
      . apply go_within hread
      . apply Within.fail
  . apply Within.pure
termination_by len - filled.length
decreasing_by
  simp only [List.length_append, List.length_cons]
  omega

theorem readExact_within (hread : ∀ n, Within R (tcpRead n)) (len : Nat)
    : Within R (readExact len) := by
  apply readExact.go_within hread

theorem listen_within (hread : ∀ n, Within R (tcpRead n)) : Within R listen := by
  unfold listen
  apply Within.bind (readExact_within hread 6)
  intro mbap
  apply Within.bind
  . apply Within.ofOption
  intro req
  apply pushBytes_within (readExact_within hread 1)

theorem writeAll_within (hwrite : ∀ buf hbuf, Within R (tcpWrite buf hbuf)) (data : List UInt8)
    : Within R (writeAll data) :=
  ModbusBridge.writeAll_within hwrite data

end Within

section OnTcp

theorem listen_onTcp (h : .tcpRead ∈ kinds)
    : Within (OnTcp kinds)
        (listen : Exec (Session S TS D SE TE) (ModbusError Empty TE) TcpFrame) := by
  apply listen_within
  apply tcpRead_onTcp h

theorem writeAll_onTcp (h : .tcpWrite ∈ kinds) (data : List UInt8)
    : Within (OnTcp kinds) (writeAll data : Exec (Session S TS D SE TE) TE Unit) := by
  apply writeAll_within
  apply tcpWrite_onTcp h

def sendKinds : List Event.Kind := [.tcpSend, .tcpWrite]

theorem send_onTcp (data : List UInt8)
    : Within (OnTcp sendKinds) (send data : Exec (Session S TS D SE TE) TE Unit) := by
  unfold send
  apply Within.bind
  . apply note_onTcp
    apply List.mem_cons_self
  . intro _
    apply writeAll_onTcp
    decide

end OnTcp

end ModbusTcp

end ModbusBridge
