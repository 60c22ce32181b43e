import ModbusBridge.Effect.Relational
import ModbusBridge.Impl.ClientSession

/-!
This module contains how the agreement of two sessions on single operations carries over to the two
transports and to the four copies of `next`. The two sessions may be on different devices.
-/

namespace ModbusBridge

open Effect EmbeddedIo Session
open Exec (Agrees droppedIf)

variable {S TS D S' TS' D' SE TE : Type} {lax : Prop}
  {R : Session S TS D SE TE → Session S' TS' D' SE TE → Prop}

theorem pushBytes_agrees {R : σ → τ → Prop} {readByte : Exec σ (ModbusError SE TE) (Vector UInt8 1)}
    {readByte' : Exec τ (ModbusError SE TE) (Vector UInt8 1)}
    (hread : Agrees (droppedIf lax) R readByte readByte') (n : Nat) (buf : Heapless.Vec UInt8 cap)
    : Agrees (droppedIf lax) R (pushBytes readByte n buf) (pushBytes readByte' n buf) := by
  induction n generalizing buf with
  | zero => apply Agrees.pure
  | succ n ih =>
    unfold pushBytes
    apply Agrees.bind hread
    intro byte
    apply Agrees.bind
    . apply Agrees.ofOption
    intro buf
    apply ih

theorem writeAll_agrees {R : σ → τ → Prop}
    {write : (buf : List UInt8) → buf ≠ [] → Exec σ ε {n : Nat // 0 < n ∧ n ≤ buf.length}}
    {write' : (buf : List UInt8) → buf ≠ [] → Exec τ ε {n : Nat // 0 < n ∧ n ≤ buf.length}}
    (hwrite : ∀ buf hbuf, Agrees (droppedIf lax) R (write buf hbuf) (write' buf hbuf)) (data : List UInt8)
    : Agrees (droppedIf lax) R (writeAll write data) (writeAll write' data) := by
  unfold writeAll
  split
  . apply Agrees.pure
  . apply Agrees.bind (hwrite _ _)
    intro n
    apply writeAll_agrees hwrite
termination_by data.length
decreasing_by
  have := n.property
  simp only [List.length_drop]
  omega

namespace ModbusTcp

variable [Device TS TE] [Device TS' TE]

theorem readExact.go_agrees (hread : ∀ n, Agrees (droppedIf lax) R (tcpRead n) (tcpRead n)) (len : Nat)
    (filled : List UInt8) (hfilled : filled.length ≤ len)
    : Agrees (droppedIf lax) R (go len filled hfilled) (go len filled hfilled) := by
  unfold go
  split
  . apply Agrees.bind (hread _).result_droppedIf
    intro r
    split
    . apply Agrees.fail
    . apply go_agrees hread
    . apply Agrees.fail
  . apply Agrees.pure
termination_by len - filled.length
decreasing_by
  simp only [List.length_append, List.length_cons]
  omega

theorem readExact_agrees (hread : ∀ n, Agrees (droppedIf lax) R (tcpRead n) (tcpRead n)) (len : Nat)
    : Agrees (droppedIf lax) R (readExact len) (readExact len) := by
  apply readExact.go_agrees hread

theorem listen_agrees (hread : ∀ len, Agrees (droppedIf lax) R (readExact len) (readExact len))
    : Agrees (droppedIf lax) R listen listen := by
  unfold listen
  apply Agrees.bind (hread 6)
  intro mbap
  apply Agrees.bind
  . apply Agrees.ofOption
  intro req
  apply pushBytes_agrees (hread 1)

theorem writeAll_agrees (hwrite : ∀ buf hbuf, Agrees (droppedIf lax) R (tcpWrite buf hbuf) (tcpWrite buf hbuf))
    (data : List UInt8) : Agrees (droppedIf lax) R (writeAll data) (writeAll data) :=
  ModbusBridge.writeAll_agrees hwrite data

theorem send_agrees
    (hnote : ∀ data, Agrees (droppedIf lax) R (note (.tcpSend data) : Exec _ TE _) (note (.tcpSend data)))
    (hwrite : ∀ data, Agrees (droppedIf lax) R (writeAll data) (writeAll data)) (data : List UInt8)
    : Agrees (droppedIf lax) R (send data) (send data) := by
  unfold send
  apply Agrees.bind (hnote _)
  intro _
  apply hwrite

end ModbusTcp

namespace ModbusRtu

variable [Device S SE] [Device S' SE]

theorem readExact.go_agrees (hread : ∀ n, Agrees (droppedIf lax) R (serialRead n) (serialRead n)) (len : Nat)
    (filled : List UInt8) (hfilled : filled.length ≤ len) (attempt : Nat)
    : Agrees (droppedIf lax) R (go len filled hfilled attempt) (go len filled hfilled attempt) := by
  unfold go
  split
  . apply Agrees.bind (hread _).result_droppedIf
    intro r
    split
    . apply Agrees.fail
    . apply go_agrees hread
    . split
      . apply Agrees.fail
      . apply go_agrees hread
  . apply Agrees.pure
termination_by (len - filled.length) + (11 - attempt)
decreasing_by
  . simp only [List.length_append, List.length_cons]
    omega
  . omega

theorem readExact_agrees (hread : ∀ n, Agrees (droppedIf lax) R (serialRead n) (serialRead n)) (len : Nat)
    : Agrees (droppedIf lax) R (readExact len) (readExact len) := by
  apply readExact.go_agrees hread

theorem listen_agrees (hread : ∀ len, Agrees (droppedIf lax) R (readExact len) (readExact len))
    : Agrees (droppedIf lax) R listen listen := by
  unfold listen
  apply Agrees.bind (hread 2)
  intro hdr
  apply Agrees.bind
  . apply Agrees.ofOption
  intro req
  apply Agrees.bind
  . unfold listen.listenRest
    split
    . apply Agrees.bind (hread 5)
      intro fixed
      apply Agrees.bind
      . apply Agrees.ofOption
      intro req
      apply pushBytes_agrees (hread 1)
    . apply Agrees.bind (hread 6)
      intro rest
      apply Agrees.ofOption
  intro req
  apply Agrees.bind
  . apply Agrees.mapErr_droppedIf
    apply Agrees.ofExcept
  intro _
  apply Agrees.pure

theorem receive_agrees (hread : ∀ len, Agrees (droppedIf lax) R (readExact len) (readExact len))
    : Agrees (droppedIf lax) R receive receive := by
  unfold receive
  apply Agrees.bind (hread 3)
  intro header
  apply Agrees.bind
  . apply Agrees.ofOption
  intro resp
  apply Agrees.bind (pushBytes_agrees (hread 1) _ resp)
  intro resp
  apply Agrees.bind
  . apply Agrees.mapErr_droppedIf
    apply Agrees.ofExcept
  intro _
  apply Agrees.pure

theorem writeAll_agrees
    (hwrite : ∀ buf hbuf, Agrees (droppedIf lax) R (serialWrite buf hbuf) (serialWrite buf hbuf))
    (data : List UInt8) : Agrees (droppedIf lax) R (writeAll data) (writeAll data) :=
  ModbusBridge.writeAll_agrees hwrite data

theorem send_agrees
    (hnote : ∀ payload,
      Agrees (droppedIf lax) R (note (.rtuSend payload) : Exec _ SE _) (note (.rtuSend payload)))
    (hflush : Agrees (droppedIf lax) R serialFlush serialFlush)
    (hpin : ∀ high, Agrees (droppedIf lax) R (setTxEn high : Exec _ SE _) (setTxEn high))
    (hwrite : ∀ data, Agrees (droppedIf lax) R (writeAll data) (writeAll data)) (payload : List UInt8)
    : Agrees (droppedIf lax) R (send payload) (send payload) := by
  unfold send flush
  apply Agrees.bind (hnote _)
  intro _
  apply Agrees.bind hflush
  intro _
  apply Agrees.bind (hpin true)
  intro _
  apply Agrees.bind (hwrite payload)
  intro _
  apply Agrees.bind hflush
  intro _
  apply hpin

theorem sendAndReceive_agrees (hread : ∀ len, Agrees (droppedIf lax) R (readExact len) (readExact len))
    (hsend : Agrees (droppedIf lax) R (send req) (send req))
    : Agrees (droppedIf lax) R (sendAndReceive req) (sendAndReceive req) := by
  unfold sendAndReceive
  apply Agrees.bind (hsend.mapErr_droppedIf _)
  intro _
  apply receive_agrees hread

end ModbusRtu

section Errors

/-!
The copies have different arms for the same errors, but they report every error in the same way.
-/

theorem Connection.listenError_eq (flavour flavour' : Flavour) (e : ModbusError Empty TE)
    : (Connection.listenError flavour e : BridgeError SE TE) = Connection.listenError flavour' e := by
  cases flavour <;> cases flavour' <;> cases e <;> rfl

theorem Connection.exchangeError_eq (flavour flavour' : Flavour) (e : ModbusError SE Empty)
    : (Connection.exchangeError flavour e : BridgeError SE TE) = Connection.exchangeError flavour' e := by
  cases e <;> rfl

theorem ClientSession.requestError_eq (flavour flavour' : Flavour) (e : ModbusError SE Empty)
    : (ClientSession.requestError flavour e : BridgeError SE TE) = ClientSession.requestError flavour' e := by
  cases e <;> rfl

theorem ClientSession.responseError_eq (flavour flavour' : Flavour) (e : ModbusError Empty TE)
    : (ClientSession.responseError flavour e : BridgeError SE TE)
        = ClientSession.responseError flavour' e := by
  cases flavour <;> cases flavour' <;> cases e <;> rfl

end Errors

section Cycle

variable [Device TS TE] [Device TS' TE] {excused : Stop (BridgeError SE TE) → Session S TS D SE TE → Prop}

theorem Connection.rxTidSync_eq_rxTidAsync (rtuResp : List UInt8)
    : Connection.rxTidSync rtuResp = Connection.rxTidAsync rtuResp := by
  unfold rxTidSync rxTidAsync
  split
  . next h =>
    obtain ⟨b₀, b₁, rest, rfl⟩ : ∃ b₀ b₁ rest, rtuResp = b₀ :: b₁ :: rest := by
      cases rtuResp with
      | nil => contradiction
      | cons b₀ rest =>
        cases rest with
        | nil => contradiction
        | cons b₁ rest => exact ⟨b₀, b₁, rest, rfl⟩
    rfl
  . next h =>
    split
    . next b₀ b₁ rest => exact absurd (Nat.le_add_left 2 rest.length) h
    . rfl

theorem Connection.rxTid_eq (flavour flavour' : Flavour) (rtuResp : List UInt8)
    : Connection.rxTid flavour rtuResp = Connection.rxTid flavour' rtuResp := by
  have hsync := rxTidSync_eq_rxTidAsync rtuResp
  cases flavour <;> cases flavour' <;> first | rfl | apply hsync | apply hsync.symm

theorem Connection.cycle_agrees
    {receiveRequest : Exec (Session S TS D SE TE) (BridgeError SE TE) TcpFrame}
    {receiveRequest' : Exec (Session S' TS' D' SE TE) (BridgeError SE TE) TcpFrame}
    {exchange : List UInt8 → Exec (Session S TS D SE TE) (BridgeError SE TE) RtuResponse}
    {exchange' : List UInt8 → Exec (Session S' TS' D' SE TE) (BridgeError SE TE) RtuResponse}
    (hrequest : Agrees excused R receiveRequest receiveRequest')
    (hexchange : ∀ rtuReq, Agrees excused R (exchange rtuReq) (exchange' rtuReq))
    (hsend : ∀ data, Agrees (droppedIf False) R (ModbusTcp.send data) (ModbusTcp.send data))
    (flavour flavour' : Flavour)
    : Agrees excused R (Connection.cycle receiveRequest exchange (Connection.rxTid flavour))
        (Connection.cycle receiveRequest' exchange' (Connection.rxTid flavour')) := by
  rw [show Connection.rxTid flavour = Connection.rxTid flavour' from funext (rxTid_eq flavour flavour')]
  unfold cycle
  apply Agrees.bind hrequest
  intro tcpReq
  apply Agrees.bind
  . apply Agrees.ofExcept
  intro (rtuReq, tid)
  apply Agrees.bind (hexchange _)
  intro rtuResp
  apply Agrees.bind
  . apply Agrees.ofExcept
  intro (tcpResp, tidWarning)
  apply Agrees.bind
  . apply (hsend _).mapErr (fun _ => rfl)
    rintro e s ⟨hfalse, _⟩
    contradiction
  intro _
  cases tidWarning with
  | some w => apply Agrees.pure
  | none => apply Agrees.pure

theorem ClientSession.cycle_agrees [Device S SE] [Device S' SE]
    {receiveRequest : Exec (Session S TS D SE TE) (BridgeError SE TE) RtuFrame}
    {receiveRequest' : Exec (Session S' TS' D' SE TE) (BridgeError SE TE) RtuFrame}
    {receiveResponse : Exec (Session S TS D SE TE) (BridgeError SE TE) TcpFrame}
    {receiveResponse' : Exec (Session S' TS' D' SE TE) (BridgeError SE TE) TcpFrame}
    (hrequest : Agrees excused R receiveRequest receiveRequest')
    (hid : Agrees excused R ModbusTcp.nextTransactionId ModbusTcp.nextTransactionId)
    (hsend : ∀ data, Agrees (droppedIf False) R (ModbusTcp.send data) (ModbusTcp.send data))
    (hresponse : Agrees excused R receiveResponse receiveResponse')
    (hreply : ∀ payload, Agrees (droppedIf False) R (ModbusRtu.send payload) (ModbusRtu.send payload))
    (flavour flavour' : Flavour)
    : Agrees excused R (ClientSession.cycle receiveRequest receiveResponse (Connection.rxTid flavour))
        (ClientSession.cycle receiveRequest' receiveResponse' (Connection.rxTid flavour')) := by
  rw [show Connection.rxTid flavour = Connection.rxTid flavour'
    from funext (Connection.rxTid_eq flavour flavour')]
  unfold cycle
  apply Agrees.bind hrequest
  intro rtuReq
  apply Agrees.bind hid
  intro nextTid
  apply Agrees.bind
  . apply Agrees.ofExcept
  intro tcpReq
  apply Agrees.bind
  . apply (hsend _).mapErr (fun _ => rfl)
    rintro e s ⟨hfalse, _⟩
    contradiction
  intro _
  apply Agrees.bind hresponse
  intro tcpResp
  apply Agrees.bind
  . apply Agrees.ofExcept
  intro (rtuResp, tidWarning)
  apply Agrees.bind
  . apply (hreply _).mapErr (fun _ => rfl)
    rintro e s ⟨hfalse, _⟩
    contradiction
  intro _
  cases tidWarning with
  | some w => apply Agrees.pure
  | none => apply Agrees.pure

end Cycle

end ModbusBridge
