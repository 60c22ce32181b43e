import Mathlib.Data.List.GetD
import ModbusBridge.Impl.CheckedSession
import ModbusBridge.Lemmas.CheckedTransport
import ModbusBridge.Lemmas.Frame
import ModbusBridge.Lemmas.Wait

/-!
This module contains the lemmas that the checks of the two versions of `next` never fail: each call of them is
what it is without the checks.
-/

namespace ModbusBridge

open Effect EmbeddedIo Session

variable {S TS D SE TE : Type}

section Guarded

variable [DelayNs D]

theorem select_map (g : α → β) (fut : Exec (Session S TS D SE TE) ε α) (ms : UInt32)
    : (select (g <$> fut) ms : Exec (Session S TS D SE TE) δ _) = Option.map (Except.map g) <$> select fut ms := by
  funext s
  cases h : fut (armed s ms) with
  | ok a s' => rw [select_ok (Exec.map_ok g h), Exec.map_ok _ (select_ok h), Option.map_some, Except.map]
  | error e s' =>
    cases e with
    | failed e => rw [select_failed (Exec.map_error g h), Exec.map_ok _ (select_failed h), Option.map_some, Except.map]
    | dropped => rw [select_dropped (Exec.map_error g h), Exec.map_ok _ (select_dropped h), Option.map_none]

theorem selectFor_map (g : α → β) (fut : Exec (Session S TS D SE TE) ε α) (toError : ε → BridgeError SE TE)
    (timeoutMs : Option UInt32) : selectFor (g <$> fut) toError timeoutMs = g <$> selectFor fut toError timeoutMs := by
  unfold selectFor
  cases timeoutMs with
  | none => apply Exec.mapErr_map
  | some ms =>
    dsimp only
    rw [select_map, bind_map_left, map_bind]
    apply bind_congr
    intro r
    cases r with
    | none => rfl
    | some r =>
      cases r with
      | ok a => rfl
      | error e => rfl

theorem guarded_map (g : α → β) (readReady : Exec (Session S TS D SE TE) ε' Bool) (ioError : ε' → BridgeError SE TE)
    (timeoutMs : Session S TS D SE TE → Option UInt32) (fut : Exec (Session S TS D SE TE) ε α)
    (toError : Flavour → ε → BridgeError SE TE) (flavour : Flavour)
    : guarded readReady ioError timeoutMs (g <$> fut) toError flavour
        = g <$> guarded readReady ioError timeoutMs fut toError flavour := by
  cases flavour with
  | sync => apply Exec.mapErr_map
  | syncTimed =>
    unfold guarded
    simp only [map_bind, Exec.mapErr_map]
  | async => apply Exec.mapErr_map
  | asyncTimed =>
    unfold guarded
    simp only [map_bind, selectFor_map]

end Guarded

namespace Checked

open Rust

theorem guarded_eq [DelayNs D] {checked : MayPanic (Session S TS D SE TE) ε α} {fut : Exec (Session S TS D SE TE) ε α}
    (h : checked = OptionT.lift fut) (readReady : Exec (Session S TS D SE TE) ε' Bool)
    (ioError : ε' → BridgeError SE TE) (timeoutMs : Session S TS D SE TE → Option UInt32)
    (toError : Flavour → ε → BridgeError SE TE) (flavour : Flavour)
    : OptionT.mk (guarded readReady ioError timeoutMs checked.run toError flavour)
        = OptionT.lift (guarded readReady ioError timeoutMs fut toError flavour) := by
  apply OptionT.ext
  rw [h]
  apply guarded_map some

namespace Connection

theorem rxTidAsync_eq (rtuResp : List UInt8)
    : rxTidAsync rtuResp = some (ModbusBridge.Connection.rxTidAsync rtuResp) := by
  match rtuResp with
  | [] => rfl
  | [_] => rfl
  | _ :: _ :: _ =>
    unfold rxTidAsync Slice.getTo
    rw [if_pos (by simp)]
    rfl

theorem rxTidSync_eq (rtuResp : List UInt8)
    : rxTidSync rtuResp = some (ModbusBridge.Connection.rxTidSync rtuResp) := by
  unfold rxTidSync ModbusBridge.Connection.rxTidSync
  split
  . rw [Slice.index_of_lt (by omega), Slice.index_of_lt (by omega)]
    rfl
  . rfl

theorem rxTid_eq (flavour : Flavour) (rtuResp : List UInt8)
    : rxTid flavour rtuResp = some (ModbusBridge.Connection.rxTid flavour rtuResp) := by
  cases flavour with
  | sync => apply rxTidSync_eq
  | syncTimed => apply rxTidSync_eq
  | async => apply rxTidAsync_eq
  | asyncTimed => apply rxTidAsync_eq

theorem frameReply_eq {rxTid : List UInt8 → Option UInt16} {rxTid' : List UInt8 → UInt16}
    (hrxTid : ∀ resp, rxTid resp = some (rxTid' resp)) (rtuResp : List UInt8) (tid : UInt16)
    : (frameReply rxTid rtuResp tid : Option (Except (BridgeError SE TE) _))
        = some (ModbusBridge.Connection.frameReply rxTid' rtuResp tid) := by
  unfold frameReply ModbusBridge.Connection.frameReply rtuRespToTcp ModbusBridge.rtuRespToTcp
  simp only [wrapMbap_eq, hrxTid, Option.bind_eq_bind, Option.bind_some]
  cases ModbusBridge.wrapMbap rtuResp tid with
  | ok r => rfl
  | error e =>
    cases e with
    | invalidTransactionId =>
      cases ModbusBridge.wrapMbap rtuResp 0 with
      | ok fallback => rfl
      | error e => rfl
    | _ => rfl

theorem cycle_eq [Device TS TE] {receiveRequest : MayPanic (Session S TS D SE TE) (BridgeError SE TE) TcpFrame}
    {receiveRequest' : Exec (Session S TS D SE TE) (BridgeError SE TE) TcpFrame}
    (hrequest : receiveRequest = OptionT.lift receiveRequest')
    {exchange : List UInt8 → MayPanic (Session S TS D SE TE) (BridgeError SE TE) RtuResponse}
    {exchange' : List UInt8 → Exec (Session S TS D SE TE) (BridgeError SE TE) RtuResponse}
    (hexchange : ∀ rtuReq, exchange rtuReq = OptionT.lift (exchange' rtuReq))
    {rxTid : List UInt8 → Option UInt16} {rxTid' : List UInt8 → UInt16}
    (hrxTid : ∀ resp, rxTid resp = some (rxTid' resp))
    : cycle receiveRequest exchange rxTid
        = OptionT.lift (ModbusBridge.Connection.cycle receiveRequest' exchange' rxTid') := by
  unfold cycle ModbusBridge.Connection.cycle
  rw [hrequest]
  apply MayPanic.lift_bind_eq
  intro tcpReq
  rw [parseTcpRequest_eq, MayPanic.orPanic_some, pure_bind]
  dsimp only
  rw [tcpToRtu_eq, MayPanic.orPanic_some, pure_bind]
  apply MayPanic.lift_bind_eq
  rintro ⟨rtuReq, tid⟩
  dsimp only
  rw [hexchange]
  apply MayPanic.lift_bind_eq
  intro rtuResp
  rw [frameReply_eq hrxTid, MayPanic.orPanic_some, pure_bind]
  apply MayPanic.lift_bind_eq
  rintro ⟨tcpResp, tidWarning⟩
  dsimp only
  rw [ModbusTcp.send_eq, MayPanic.mapErr_lift]
  apply MayPanic.lift_bind_eq
  intro _
  cases tidWarning with
  | some w => rfl
  | none => rfl

variable [Device S SE] [Device TS TE] [ReadReady S SE] [ReadReady TS TE] [DelayNs D]

theorem next_eq (flavour : Flavour)
    : (next flavour : MayPanic (Session S TS D SE TE) _ _) = OptionT.lift (ModbusBridge.Connection.next flavour) := by
  apply cycle_eq _ _ (rxTid_eq flavour)
  . apply guarded_eq ModbusTcp.listen_eq
  . intro rtuReq
    apply guarded_eq (ModbusRtu.sendAndReceive_eq rtuReq)

end Connection

namespace ClientSession

theorem frameReply_eq {rxTid : List UInt8 → Option UInt16} {rxTid' : List UInt8 → UInt16}
    (hrxTid : ∀ resp, rxTid resp = some (rxTid' resp)) (tcpResp : List UInt8) (tid : UInt16)
    : (frameReply rxTid tcpResp tid : Option (Except (BridgeError SE TE) _))
        = some (ModbusBridge.ClientSession.frameReply rxTid' tcpResp tid) := by
  unfold frameReply ModbusBridge.ClientSession.frameReply
  simp only [tcpRespToRtu_eq, hrxTid, Option.bind_eq_bind, Option.bind_some]
  cases ModbusBridge.tcpRespToRtu tcpResp tid with
  | ok r => rfl
  | error e =>
    cases e with
    | invalidTransactionId =>
      cases ModbusBridge.tcpRespToRtu tcpResp (rxTid' tcpResp) with
      | ok fallback => rfl
      | error e => rfl
    | _ => rfl

/--
A converted frame starts with a header.
-/
theorem index_rtuToTcp_eq {rtu : List UInt8} {tid : UInt16} {tcpReq : TcpResponse}
    (h : ModbusBridge.rtuToTcp rtu tid = .ok tcpReq) (hi : i < 2)
    : Slice.index tcpReq.data i = some (tcpReq.data.getD i 0) := by
  obtain ⟨body, _, _, _, _, _, hdata⟩ := wrapMbap_eq_ok h
  have hlt : i < tcpReq.data.length := by
    rw [hdata, length_tcpFrame]
    omega
  rw [Slice.index_of_lt hlt, List.getD_eq_getElem _ _ hlt]

theorem cycle_eq [Device S SE] [Device TS TE]
    {receiveRequest : MayPanic (Session S TS D SE TE) (BridgeError SE TE) RtuFrame}
    {receiveRequest' : Exec (Session S TS D SE TE) (BridgeError SE TE) RtuFrame}
    (hrequest : receiveRequest = OptionT.lift receiveRequest')
    {receiveResponse : MayPanic (Session S TS D SE TE) (BridgeError SE TE) TcpFrame}
    {receiveResponse' : Exec (Session S TS D SE TE) (BridgeError SE TE) TcpFrame}
    (hresponse : receiveResponse = OptionT.lift receiveResponse')
    {rxTid : List UInt8 → Option UInt16} {rxTid' : List UInt8 → UInt16}
    (hrxTid : ∀ resp, rxTid resp = some (rxTid' resp))
    : cycle receiveRequest receiveResponse rxTid
        = OptionT.lift (ModbusBridge.ClientSession.cycle receiveRequest' receiveResponse' rxTid') := by
  unfold cycle ModbusBridge.ClientSession.cycle
  rw [hrequest]
  apply MayPanic.lift_bind_eq
  intro rtuReq
  rw [parseRtuRequest_eq, MayPanic.orPanic_some, pure_bind]
  apply MayPanic.lift_bind_eq
  intro nextTid
  dsimp only
  have htcpReq : rtuToTcp rtuReq.data nextTid = some (ModbusBridge.rtuToTcp rtuReq.data nextTid) := wrapMbap_eq _ _
  rw [htcpReq, MayPanic.orPanic_some, pure_bind]
  apply MayPanic.lift_ofExcept_bind_eq
  intro tcpReq hok
  rw [index_rtuToTcp_eq hok (by decide), index_rtuToTcp_eq hok (by decide)]
  simp only [MayPanic.orPanic_some, pure_bind]
  rw [ModbusTcp.send_eq, MayPanic.mapErr_lift]
  apply MayPanic.lift_bind_eq
  intro _
  rw [hresponse]
  apply MayPanic.lift_bind_eq
  intro tcpResp
  rw [frameReply_eq hrxTid, MayPanic.orPanic_some, pure_bind]
  apply MayPanic.lift_bind_eq
  rintro ⟨rtuResp, tidWarning⟩
  dsimp only
  rw [ModbusRtu.send_eq, MayPanic.mapErr_lift]
  apply MayPanic.lift_bind_eq
  intro _
  cases tidWarning with
  | some w => rfl
  | none => rfl

variable [Device S SE] [Device TS TE] [ReadReady S SE] [ReadReady TS TE] [DelayNs D]

theorem next_eq (flavour : Flavour)
    : (next flavour : MayPanic (Session S TS D SE TE) _ _)
        = OptionT.lift (ModbusBridge.ClientSession.next flavour) := by
  apply cycle_eq _ _ (Connection.rxTid_eq flavour)
  . apply guarded_eq ModbusRtu.listen_eq
  . apply guarded_eq ModbusTcp.listen_eq

end ClientSession

end Checked

end ModbusBridge
