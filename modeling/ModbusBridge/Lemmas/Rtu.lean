import ModbusBridge.Impl.Rtu
import ModbusBridge.Lemmas.Session

/-!
This module contains the footprints of the RTU transport on an arbitrary device. They are stated for
any preorder that the operations on the serial port keep to.
-/

namespace ModbusBridge

open Effect EmbeddedIo Session
open Exec (Within)

namespace ModbusRtu

variable {S TS D SE TE : Type} [Device S SE] {kinds : List Event.Kind}

section Within

variable {R : Session S TS D SE TE → Session S TS D SE TE → Prop}
  [IsPreorder (Session S TS D SE TE) R]

theorem readExact.go_within (hread : ∀ n, Within R (serialRead n)) (filled : List UInt8)
    (hfilled : filled.length ≤ len) (attempt : Nat)
    : Within R (go len filled hfilled attempt) := by
  unfold go
  split
  . next hlt =>
    apply Within.bind
    . apply (hread _).result
    . intro r
      split
      . apply Within.fail
      . apply go_within hread
      . split
        . apply Within.fail
        . apply go_within hread
  . apply Within.pure
termination_by (len - filled.length) + (11 - attempt)
decreasing_by
  . simp only [List.length_append, List.length_cons]
    omega
  . omega

theorem readExact_within (hread : ∀ n, Within R (serialRead n)) (len : Nat)
    : Within R (readExact len) := by
  apply readExact.go_within hread

theorem listen.listenRest_within (hread : ∀ n, Within R (serialRead n)) (fc : UInt8) (req : RtuFrame)
    : Within R (listenRest fc req) := by
  unfold listenRest
  split
  . apply Within.bind (readExact_within hread 5)
    intro fixed
    apply Within.bind
    . apply Within.ofOption
    intro req
    apply pushBytes_within (readExact_within hread 1)
  . apply Within.bind (readExact_within hread 6)
    intro rest
    apply Within.ofOption

theorem listen_within (hread : ∀ n, Within R (serialRead n)) : Within R listen := by
  unfold listen
  apply Within.bind (readExact_within hread 2)
  intro hdr
  apply Within.bind
  . apply Within.ofOption
  intro req
  apply Within.bind (listen.listenRest_within hread _ req)
  intro req
  apply Within.bind
  . apply Within.mapErr
    apply Within.ofExcept
  intro _
  apply Within.pure

theorem receive_within (hread : ∀ n, Within R (serialRead n)) : Within R receive := by
  unfold receive
  apply Within.bind (readExact_within hread 3)
  intro header
  apply Within.bind
  . apply Within.ofOption
  intro resp
  apply Within.bind (pushBytes_within (readExact_within hread 1) _ resp)
  intro resp
  apply Within.bind
  . apply Within.mapErr
    apply Within.ofExcept
  intro _
  apply Within.pure

theorem writeAll_within (hwrite : ∀ buf hbuf, Within R (serialWrite buf hbuf)) (data : List UInt8)
    : Within R (writeAll data) :=
  ModbusBridge.writeAll_within hwrite data

theorem send_within (hnote : ∀ payload, Within R (note (.rtuSend payload) : Exec _ SE _))
    (hflush : Within R serialFlush) (hpin : ∀ high, Within R (setTxEn high : Exec _ SE _))
    (hwrite : ∀ buf hbuf, Within R (serialWrite buf hbuf)) (payload : List UInt8)
    : Within R (send payload) := by
  unfold send flush
  apply Within.bind (hnote payload)
  intro _
  apply Within.bind hflush
  intro _
  apply Within.bind (hpin true)
  intro _
  apply Within.bind (writeAll_within hwrite payload)
  intro _
  apply Within.bind hflush
  intro _
  apply hpin

theorem sendAndReceive_within (hread : ∀ n, Within R (serialRead n)) (hsend : Within R (send req))
    : Within R (sendAndReceive req) := by
  unfold sendAndReceive
  apply Within.bind hsend.mapErr
  intro _
  apply receive_within hread

end Within

section OnSerial

theorem listen_onSerial (h : .serialRead ∈ kinds)
    : Within (OnSerial kinds)
        (listen : Exec (Session S TS D SE TE) (ModbusError SE Empty) RtuFrame) := by
  apply listen_within
  apply serialRead_onSerial h

theorem receive_onSerial (h : .serialRead ∈ kinds)
    : Within (OnSerial kinds)
        (receive : Exec (Session S TS D SE TE) (ModbusError SE Empty) RtuResponse) := by
  apply receive_within
  apply serialRead_onSerial h

theorem writeAll_onSerial (h : .serialWrite ∈ kinds) (data : List UInt8)
    : Within (OnSerial kinds) (writeAll data : Exec (Session S TS D SE TE) SE Unit) := by
  apply writeAll_within
  apply serialWrite_onSerial h

def sendKinds : List Event.Kind := [.rtuSend, .serialFlush, .txEn, .serialWrite]

theorem send_onSerial (hsub : sendKinds ⊆ kinds) (payload : List UInt8)
    : Within (OnSerial kinds) (send payload : Exec (Session S TS D SE TE) SE Unit) := by
  apply send_within
  . intro payload
    apply note_onSerial _ (hsub List.mem_cons_self)
  . apply serialFlush_onSerial (hsub (by decide))
  . apply setTxEn_onSerial (hsub (by decide))
  . apply serialWrite_onSerial (hsub (by decide))

theorem sendAndReceive_onSerial (hsub : sendKinds ⊆ kinds) (hread : .serialRead ∈ kinds)
    (req : List UInt8)
    : Within (OnSerial kinds)
        (sendAndReceive req : Exec (Session S TS D SE TE) (ModbusError SE Empty) RtuResponse) := by
  apply sendAndReceive_within
  . apply serialRead_onSerial hread
  . apply send_onSerial hsub

end OnSerial

end ModbusRtu

end ModbusBridge
