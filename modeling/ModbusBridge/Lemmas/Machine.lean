import ModbusBridge.Effect.Refinement
import ModbusBridge.Lemmas.Cycle
import ModbusBridge.Spec.Machine
import ModbusBridge.Spec.Mock

/-!
This module contains the proof that the untimed copies of `next` implement the programs on streams of bytes.
-/

namespace ModbusBridge

open Effect EmbeddedIo Session Framing View
open Exec (Ends Implements)

variable {S TS D SE TE : Type} [Device S SE] [Device TS TE] [Lossless S] [Lossless TS]

namespace TcpMessage

theorem drop_frame (m : TcpMessage) : m.frame.drop 6 = m.body := by
  unfold frame
  rw [drop_tcpFrame]

theorem idField_frame (m : TcpMessage) : idField m.frame = m.transactionId := by
  unfold frame
  rw [idField_tcpFrame]

end TcpMessage

section Frames

omit [Device S SE] [Device TS TE] [Lossless S] [Lossless TS]

variable {L : Layout UInt8} {cap : Nat} {v v' : View}

theorem verified_ok {frame : List UInt8} (hcrc : checkCrc frame = .ok ())
    : (verified frame : Except (ModbusError SE TE) _) = .ok frame := if_pos hcrc

theorem verified_error {frame : List UInt8} (hcrc : checkCrc frame ≠ .ok ())
    : (verified frame : Except (ModbusError SE TE) _) = .error .crc := if_neg hcrc

theorem frameOf_error {piece : Piece UInt8} {e : ModbusError SE TE} (h : frameOf piece = .error e)
    : e = .push ∨ e = .payloadTooShort := by
  cases piece with
  | whole frame => contradiction
  | oversized =>
    injection h with h
    exact .inl h.symm
  | short =>
    injection h with h
    exact .inr h.symm

theorem cutTcp_of (h : (tcpLayout.cut tcpBuf v.tcpRx).1 = piece)
    : (cutTcp v : EStateM.Result (Stop (ModbusError Empty TE)) _ _)
        = Exec.ofExcept (frameOf piece) { v with tcpRx := (tcpLayout.cut tcpBuf v.tcpRx).2 } := by
  rw [← h]
  rfl

theorem cutRtu_of (h : (L.cut cap v.serialRx).1 = piece)
    : (cutRtu L cap v : EStateM.Result (Stop (ModbusError SE Empty)) _ _)
        = Exec.ofExcept (frameOf piece >>= verified) { v with serialRx := (L.cut cap v.serialRx).2 } := by
  rw [← h]
  rfl

theorem cutTcp_error (h : (cutTcp v : EStateM.Result (Stop (ModbusError Empty TE)) _ _) = .error (.failed e) v')
    : e = .push ∨ e = .payloadTooShort := by
  rw [cutTcp_of rfl, Exec.ofExcept_eq_failed] at h
  apply frameOf_error h.1

theorem cutRtu_error
    (h : (cutRtu L cap v : EStateM.Result (Stop (ModbusError SE Empty)) _ _) = .error (.failed e) v')
    : e = .push ∨ e = .payloadTooShort ∨ e = .crc := by
  rw [cutRtu_of rfl, Exec.ofExcept_eq_failed] at h
  cases hpiece : (frameOf (L.cut cap v.serialRx).1 : Except (ModbusError SE Empty) _) with
  | ok frame =>
    rw [hpiece] at h
    by_cases hcrc : checkCrc frame = .ok ()
    . rw [show (Except.ok frame >>= verified : Except (ModbusError SE Empty) _) = _ from verified_ok hcrc] at h
      exact absurd h.1 nofun
    . rw [show (Except.ok frame >>= verified : Except (ModbusError SE Empty) _) = _ from verified_error hcrc] at h
      injection h.1 with h
      exact .inr (.inr h.symm)
  | error e' =>
    rw [hpiece] at h
    injection h.1 with h
    rw [← h]
    obtain h | h := frameOf_error hpiece
    . exact .inl h
    . exact .inr (.inl h)

theorem cutTcp_ne_dropped (v : View)
    : outcome (cutTcp v : EStateM.Result (Stop (ModbusError Empty TE)) _ _) ≠ .error .dropped := by
  apply Exec.ofExcept_ne_dropped

theorem cutRtu_ne_dropped (L : Layout UInt8) (cap : Nat) (v : View)
    : outcome (cutRtu L cap v : EStateM.Result (Stop (ModbusError SE Empty)) _ _) ≠ .error .dropped := by
  apply Exec.ofExcept_ne_dropped

theorem takeTcp_whole (h : (tcpLayout.cut tcpBuf v.tcpRx).1 = .whole frame)
    : (takeTcp v : EStateM.Result (Stop (BridgeError SE TE)) _ _)
        = .ok frame { v with tcpRx := (tcpLayout.cut tcpBuf v.tcpRx).2 } :=
  Exec.mapErr_ok (cutTcp_of h)

theorem takeTcp_oversized (h : (tcpLayout.cut tcpBuf v.tcpRx).1 = .oversized)
    : (takeTcp v : EStateM.Result (Stop (BridgeError SE TE)) _ _)
        = .error (.failed .bufferOverflow) { v with tcpRx := (tcpLayout.cut tcpBuf v.tcpRx).2 } :=
  Exec.mapErr_error (cutTcp_of h)

theorem takeTcp_short (h : (tcpLayout.cut tcpBuf v.tcpRx).1 = .short)
    : (takeTcp v : EStateM.Result (Stop (BridgeError SE TE)) _ _)
        = .error (.failed .tcpClosed) { v with tcpRx := (tcpLayout.cut tcpBuf v.tcpRx).2 } :=
  Exec.mapErr_error (cutTcp_of h)

theorem takeRtu_whole {closed : BridgeError SE TE} (h : (L.cut cap v.serialRx).1 = .whole frame)
    (hcrc : checkCrc frame = .ok ())
    : takeRtu L cap closed v = .ok frame { v with serialRx := (L.cut cap v.serialRx).2 } := by
  have hverified : (frameOf (.whole frame) >>= verified : Except (ModbusError SE Empty) _) = .ok frame :=
    verified_ok hcrc
  apply Exec.mapErr_ok
  rw [cutRtu_of h, hverified, Exec.ofExcept_ok]

theorem takeRtu_refused {closed : BridgeError SE TE} (h : (L.cut cap v.serialRx).1 = .whole frame)
    (hcrc : checkCrc frame ≠ .ok ())
    : takeRtu L cap closed v
        = .error (.failed .rtuCrcMismatch) { v with serialRx := (L.cut cap v.serialRx).2 } := by
  have hverified : (frameOf (.whole frame) >>= verified : Except (ModbusError SE Empty) _) = .error .crc :=
    verified_error hcrc
  have hcut : (cutRtu L cap v : EStateM.Result (Stop (ModbusError SE Empty)) _ _) = _ := cutRtu_of h
  rw [hverified] at hcut
  exact Exec.mapErr_error hcut

theorem takeRtu_oversized {closed : BridgeError SE TE} (h : (L.cut cap v.serialRx).1 = .oversized)
    : takeRtu L cap closed v
        = .error (.failed .bufferOverflow) { v with serialRx := (L.cut cap v.serialRx).2 } :=
  Exec.mapErr_error (cutRtu_of h)

theorem takeRtu_short {closed : BridgeError SE TE} (h : (L.cut cap v.serialRx).1 = .short)
    : takeRtu L cap closed v = .error (.failed closed) { v with serialRx := (L.cut cap v.serialRx).2 } :=
  Exec.mapErr_error (cutRtu_of h)

theorem takeTcp_eq_ok (h : (takeTcp v : EStateM.Result (Stop (BridgeError SE TE)) _ _) = .ok frame v')
    : (tcpLayout.cut tcpBuf v.tcpRx).1 = .whole frame
        ∧ v' = { v with tcpRx := (tcpLayout.cut tcpBuf v.tcpRx).2 } := by
  cases hcut : (tcpLayout.cut tcpBuf v.tcpRx).1 with
  | whole frame' =>
    rw [takeTcp_whole hcut] at h
    injection h with hframe hv
    exact ⟨by rw [hframe], hv.symm⟩
  | oversized =>
    rw [takeTcp_oversized hcut] at h
    contradiction
  | short =>
    rw [takeTcp_short hcut] at h
    contradiction

theorem takeTcp_ne_dropped (v : View)
    : outcome (takeTcp v : EStateM.Result (Stop (BridgeError SE TE)) _ _) ≠ .error .dropped := by
  apply Exec.mapErr_ne_dropped
  apply cutTcp_ne_dropped

variable (SE TE) in
theorem takeTcp_finalState (v : View)
    : finalState (takeTcp v : EStateM.Result (Stop (BridgeError SE TE)) _ _)
        = { v with tcpRx := (tcpLayout.cut tcpBuf v.tcpRx).2 } := by
  unfold takeTcp
  rw [Exec.finalState_mapErr, cutTcp_of rfl, Exec.finalState_ofExcept]

/--
A frame that has been taken from the TCP stream is one.
-/
theorem exists_of_takeTcp (h : (takeTcp v : EStateM.Result (Stop (BridgeError SE TE)) _ _) = .ok frame v')
    : ∃ tid pid body, frame = tcpFrame tid pid body ∧ body.length ≤ 255 := by
  obtain ⟨hwhole, hroom, _⟩ := Layout.cut_eq_whole.mp (takeTcp_eq_ok h).1
  have hlen : frame.length = 6 + lengthField frame := hwhole
  have hbuf : tcpBuf = 261 := rfl
  obtain ⟨tid, pid, body, rfl⟩ := exists_tcpFrame hlen
  rw [length_tcpFrame] at hroom
  exact ⟨tid, pid, body, rfl, by omega⟩

theorem takeRtu_eq_ok {closed : BridgeError SE TE} (h : takeRtu L cap closed v = .ok frame v')
    : (L.cut cap v.serialRx).1 = .whole frame ∧ checkCrc frame = .ok ()
        ∧ v' = { v with serialRx := (L.cut cap v.serialRx).2 } := by
  cases hcut : (L.cut cap v.serialRx).1 with
  | whole frame' =>
    by_cases hcrc : checkCrc frame' = .ok ()
    . rw [takeRtu_whole hcut hcrc] at h
      injection h with hframe hv
      rw [← hframe]
      exact ⟨rfl, hcrc, hv.symm⟩
    . rw [takeRtu_refused hcut hcrc] at h
      contradiction
  | oversized =>
    rw [takeRtu_oversized hcut] at h
    contradiction
  | short =>
    rw [takeRtu_short hcut] at h
    contradiction

theorem takeRtu_ne_dropped (L : Layout UInt8) (cap : Nat) (closed : BridgeError SE TE) (v : View)
    : outcome (takeRtu L cap closed v) ≠ .error .dropped := by
  apply Exec.mapErr_ne_dropped
  apply cutRtu_ne_dropped

theorem takeRtu_finalState (L : Layout UInt8) (cap : Nat) (closed : BridgeError SE TE) (v : View)
    : finalState (takeRtu L cap closed v) = { v with serialRx := (L.cut cap v.serialRx).2 } := by
  unfold takeRtu
  rw [Exec.finalState_mapErr, cutRtu_of rfl, Exec.finalState_ofExcept]

theorem exists_of_takeRtu {closed : BridgeError SE TE} (h : takeRtu L cap closed v = .ok frame v')
    : ∃ body, frame = rtuFrame body ∧ 2 ≤ body.length ∧ body.length + 2 = L.need (rtuFrame body)
        ∧ body.length + 2 ≤ cap := by
  obtain ⟨hcut, hcrc, _⟩ := takeRtu_eq_ok h
  obtain ⟨hwhole, hroom, _⟩ := Layout.cut_eq_whole.mp hcut
  obtain ⟨body, hmin, rfl⟩ := checkCrc_eq_ok.mp hcrc
  have hlen : (rtuFrame body).length = L.need (rtuFrame body) := hwhole
  rw [length_rtuFrame] at hlen hroom
  exact ⟨body, rfl, hmin, hlen, hroom⟩

theorem cutTcp_append (m : TcpMessage) (srx trx stx ttx : List UInt8) (tid : UInt16)
    : (cutTcp ⟨srx, m.frame ++ trx, stx, ttx, tid⟩ : EStateM.Result (Stop (ModbusError Empty TE)) _ _)
        = .ok m.frame ⟨srx, trx, stx, ttx, tid⟩ := by
  have hwhole : tcpLayout.Whole m.frame := m.received_length
  have hcut := Layout.cut_whole hwhole m.length_frame_le trx
  rw [cutTcp_of (v := ⟨srx, m.frame ++ trx, stx, ttx, tid⟩) (congrArg Prod.fst hcut)]
  dsimp only
  rw [congrArg Prod.snd hcut]
  rfl

theorem takeTcp_append (m : TcpMessage) (srx trx stx ttx : List UInt8) (tid : UInt16)
    : (takeTcp ⟨srx, m.frame ++ trx, stx, ttx, tid⟩ : EStateM.Result (Stop (BridgeError SE TE)) _ _)
        = .ok m.frame ⟨srx, trx, stx, ttx, tid⟩ :=
  Exec.mapErr_ok (cutTcp_append m srx trx stx ttx tid)

theorem cutRtu_append (hwhole : L.Whole frame) (hroom : frame.length ≤ cap) (srx trx stx ttx : List UInt8)
    (tid : UInt16)
    : (cutRtu L cap ⟨frame ++ srx, trx, stx, ttx, tid⟩ : EStateM.Result (Stop (ModbusError SE Empty)) _ _)
        = Exec.ofExcept (verified frame) ⟨srx, trx, stx, ttx, tid⟩ := by
  have hcut := L.cut_whole hwhole hroom srx
  rw [cutRtu_of (v := ⟨frame ++ srx, trx, stx, ttx, tid⟩) (congrArg Prod.fst hcut)]
  dsimp only
  rw [congrArg Prod.snd hcut]
  rfl

section Put

variable {k : Unit → Exec View ε α}

theorem putTcp_bind (frame srx trx stx ttx : List UInt8) (tid : UInt16)
    : (putTcp frame >>= k) ⟨srx, trx, stx, ttx, tid⟩ = k () ⟨srx, trx, stx, ttx ++ frame, tid⟩ := rfl

theorem putRtu_bind (frame srx trx stx ttx : List UInt8) (tid : UInt16)
    : (putRtu frame >>= k) ⟨srx, trx, stx, ttx, tid⟩ = k () ⟨srx, trx, stx ++ frame, ttx, tid⟩ := rfl

theorem nextId_bind {k : UInt16 → Exec View ε α} (srx trx stx ttx : List UInt8) (tid : UInt16)
    : (nextId >>= k) ⟨srx, trx, stx, ttx, tid⟩ = k (tid + 1) ⟨srx, trx, stx, ttx, tid + 1⟩ := rfl

end Put

section Programs

variable {takeRequest takeResponse : Exec τ (BridgeError SE TE) (List UInt8)}
  {exchange : List UInt8 → Exec τ (BridgeError SE TE) (List UInt8)} {nextId : Exec τ (BridgeError SE TE) UInt16}
  {putRequest putAnswer : List UInt8 → Exec τ (BridgeError SE TE) Unit} {t t₁ t₂ : τ}

/--
A bridge that has taken the request `m` exchanges it for a response.
-/
theorem bridgeProgram_taken {m : TcpMessage} (hrequest : takeRequest t = .ok m.frame t₁)
    : bridgeProgram takeRequest exchange putAnswer t
        = (do
            let response ← exchange (rtuFrame m.body)
            putAnswer (tcpFrame m.transactionId 0 (withoutCrc response))
            pure (.transaction (.ofRequest (parseTcpRequest m.frame))) : Exec τ (BridgeError SE TE) _) t₁ := by
  have hbody : m.body ≠ [] := List.ne_nil_of_length_pos m.pos
  unfold bridgeProgram
  rw [Exec.bind_ok hrequest, m.drop_frame, if_neg hbody, m.idField_frame]

theorem bridgeProgram_relays {m : TcpMessage} (hrequest : takeRequest t = .ok m.frame t₁)
    (hexchange : exchange (rtuFrame m.body) t₁ = .ok (rtuFrame body) t₂)
    : bridgeProgram takeRequest exchange putAnswer t
        = (do
            putAnswer (tcpFrame m.transactionId 0 body)
            pure (.transaction (.ofRequest (parseTcpRequest m.frame))) : Exec τ (BridgeError SE TE) _) t₂ := by
  rw [bridgeProgram_taken hrequest, Exec.bind_ok hexchange, withoutCrc, take_rtuFrame]

theorem bridgeProgram_fails {m : TcpMessage} (hrequest : takeRequest t = .ok m.frame t₁)
    (hexchange : exchange (rtuFrame m.body) t₁ = .error e t₂)
    : bridgeProgram takeRequest exchange putAnswer t = .error e t₂ := by
  rw [bridgeProgram_taken hrequest, Exec.bind_error hexchange]

/--
A client that has taken a request asks for it under the next id and answers with the response.
-/
theorem clientProgram_taken (hrequest : takeRequest t = .ok (rtuFrame body) t₁)
    : clientProgram takeRequest nextId putRequest takeResponse putAnswer t
        = (do
            let id ← nextId
            putRequest (tcpFrame id 0 body)
            let response ← takeResponse
            if response.drop 6 = [] then
              Exec.fail .bufferOverflow
            else
              putAnswer (rtuFrame (response.drop 6))
              pure (ClientSession.report (rtuFrame body) id (idField response)) : Exec τ (BridgeError SE TE) _)
            t₁ := by
  unfold clientProgram
  rw [Exec.bind_ok hrequest, withoutCrc, take_rtuFrame]
  unfold ClientSession.report
  simp only [apply_ite Pure.pure]

end Programs

theorem Mode.steps_succ_ok {mode : Mode} (n : Nat)
    (h : (mode.step v : EStateM.Result (Stop (BridgeError SE TE)) _ _) = .ok event v')
    : outcome ((mode.steps (n + 1) : Exec View (BridgeError SE TE) _) v)
          = (outcome (mode.steps n v')).map (event :: ·)
        ∧ finalState ((mode.steps (n + 1) : Exec View (BridgeError SE TE) _) v)
            = finalState ((mode.steps n : Exec View (BridgeError SE TE) _) v') := by
  rw [Mode.steps]
  apply Exec.bind_cons_ok h

theorem Mode.steps_succ_error {mode : Mode} (n : Nat)
    (h : (mode.step v : EStateM.Result (Stop (BridgeError SE TE)) _ _) = .error e v')
    : (mode.steps (n + 1) : Exec View (BridgeError SE TE) _) v = .error e v' := by
  rw [Mode.steps, Exec.bind_error h]

end Frames

section Ports

omit [Device S SE] [Device TS TE] [Lossless S] [Lossless TS] in
theorem mapErr_cutTcp {toError : ModbusError Empty TE → BridgeError SE TE} (hpush : toError .push = .bufferOverflow)
    (hshort : toError .payloadTooShort = .tcpClosed) : Exec.mapErr toError cutTcp = takeTcp := by
  apply Exec.mapErr_congr
  intro v e v' h
  obtain rfl | rfl := cutTcp_error h
  . apply hpush
  . apply hshort

omit [Device S SE] [Device TS TE] [Lossless S] [Lossless TS] in
theorem mapErr_cutRtu {toError : ModbusError SE Empty → BridgeError SE TE} {closed : BridgeError SE TE}
    (hpush : toError .push = .bufferOverflow) (hshort : toError .payloadTooShort = closed)
    (hcrc : toError .crc = .rtuCrcMismatch) (L : Layout UInt8) (cap : Nat)
    : Exec.mapErr toError (cutRtu L cap) = takeRtu L cap closed := by
  apply Exec.mapErr_congr
  intro v e v' h
  obtain rfl | rfl | rfl := cutRtu_error h
  . apply hpush
  . apply hshort
  . apply hcrc

theorem ModbusTcp.listen_implements
    : Implements At Heapless.Vec.data
        (listen : Exec (Session S TS D SE TE) (ModbusError Empty TE) TcpFrame) cutTcp := by
  apply Implements.of_ends
  rintro ⟨srx, trx, stx, ttx, tid⟩
  rw [cutTcp_of rfl, Exec.finalState_ofExcept, Exec.outcome_ofExcept]
  dsimp only
  cases h : (tcpLayout.cut tcpBuf trx).1 with
  | whole frame =>
    obtain ⟨hwhole, hroom, _⟩ := Layout.cut_eq_whole.mp h
    have hrest := Layout.cut_rest h
    refine ⟨.ok ⟨frame, hroom⟩, ?_, rfl⟩
    generalize (tcpLayout.cut tcpBuf trx).2 = rest at hrest
    rw [hrest]
    apply listen_ends ⟨frame, hroom⟩ hwhole
  | oversized =>
    obtain ⟨start, hrest, hlen, hneed⟩ := Layout.exists_oversized h (by decide)
    have hover : 255 < lengthField start := Nat.lt_of_add_lt_add_left hneed
    refine ⟨.error (.failed .push), ?_, rfl⟩
    generalize (tcpLayout.cut tcpBuf trx).2 = rest at hrest
    rw [hrest]
    apply listen_overflow hlen hover
  | short =>
    obtain ⟨hneed, hroom⟩ := Layout.cut_eq_short.mp h
    refine ⟨.error (.failed .payloadTooShort), ?_, rfl⟩
    rw [Layout.cut_rest_short h]
    apply listen_short hneed hroom

/--
A frame that is whole is returned or refused, as its CRC says.
-/
theorem checked_implements (frame : Heapless.Vec UInt8 cap) {v v' : View}
    {x : Exec (Session S TS D SE TE) (ModbusError SE Empty) (Heapless.Vec UInt8 cap)} (hmin : 4 ≤ frame.data.length)
    (hends : Ends (At v) x (checked frame) (At v'))
    : ∃ r, Ends (At v) x r (At v')
        ∧ r.map Heapless.Vec.data = (frameOf (.whole frame.data) >>= verified).mapError .failed := by
  refine ⟨_, hends, ?_⟩
  obtain hcheck | hcheck := checkCrc_of_length hmin
  . rw [checked_ok hcheck]
    show _ = (verified frame.data).mapError _
    rw [verified_ok hcheck]
    rfl
  . unfold checked
    rw [hcheck]
    show _ = (verified frame.data).mapError _
    rw [verified_error (by rw [hcheck]; exact nofun)]
    rfl

theorem ModbusRtu.listen_implements
    : Implements At Heapless.Vec.data
        (listen : Exec (Session S TS D SE TE) (ModbusError SE Empty) RtuFrame) (cutRtu requestLayout rtuBuf) := by
  apply Implements.of_ends
  rintro ⟨srx, trx, stx, ttx, tid⟩
  rw [cutRtu_of rfl, Exec.finalState_ofExcept, Exec.outcome_ofExcept]
  dsimp only
  cases h : (requestLayout.cut rtuBuf srx).1 with
  | whole frame =>
    obtain ⟨hwhole, hroom, _⟩ := Layout.cut_eq_whole.mp h
    have hlen : frame.length = requestLength frame := hwhole
    have hge := requestLength_ge frame
    have hrest := Layout.cut_rest h
    apply checked_implements ⟨frame, hroom⟩ (by dsimp only; omega)
    generalize (requestLayout.cut rtuBuf srx).2 = rest at hrest
    rw [hrest]
    apply listen_checked ⟨frame, hroom⟩ hlen
  | oversized =>
    obtain ⟨start, hrest, hlen, hneed⟩ := Layout.exists_oversized h (by decide)
    refine ⟨.error (.failed .push), ?_, rfl⟩
    generalize (requestLayout.cut rtuBuf srx).2 = rest at hrest
    rw [hrest]
    apply listen_overflow hlen hneed
  | short =>
    obtain ⟨hneed, hroom⟩ := Layout.cut_eq_short.mp h
    refine ⟨.error (.failed .payloadTooShort), ?_, rfl⟩
    rw [Layout.cut_rest_short h]
    apply listen_short hneed hroom

theorem ModbusRtu.receive_implements
    : Implements At Heapless.Vec.data
        (receive : Exec (Session S TS D SE TE) (ModbusError SE Empty) RtuResponse) (cutRtu responseLayout 512) := by
  apply Implements.of_ends
  rintro ⟨srx, trx, stx, ttx, tid⟩
  rw [cutRtu_of rfl, Exec.finalState_ofExcept, Exec.outcome_ofExcept]
  dsimp only
  cases h : (responseLayout.cut 512 srx).1 with
  | whole frame =>
    obtain ⟨hwhole, hroom, _⟩ := Layout.cut_eq_whole.mp h
    have hlen : frame.length = responseLength frame := hwhole
    have hbounds := responseLength_bounds frame
    have hrest := Layout.cut_rest h
    apply checked_implements ⟨frame, hroom⟩ (by dsimp only; omega)
    generalize (responseLayout.cut 512 srx).2 = rest at hrest
    rw [hrest]
    apply receive_checked ⟨frame, hroom⟩ hlen
  | oversized =>
    -- No response is longer than 260 bytes.
    obtain ⟨hneed, _⟩ := Layout.cut_eq_oversized.mp h
    have hneed : 512 < responseLength srx := hneed
    have hbounds := responseLength_bounds srx
    omega
  | short =>
    obtain ⟨hneed, hroom⟩ := Layout.cut_eq_short.mp h
    refine ⟨.error (.failed .payloadTooShort), ?_, rfl⟩
    rw [Layout.cut_rest_short h]
    apply receive_short hneed

theorem sendTcp_implements (data : List UInt8)
    : Implements At id
        (Exec.mapErr .tcpIo (ModbusTcp.send data) : Exec (Session S TS D SE TE) (BridgeError SE TE) Unit)
        (putTcp data) := by
  apply Implements.of_ends
  rintro ⟨srx, trx, stx, ttx, tid⟩
  exact ⟨.ok (), Ends.mapErr_ok (ModbusTcp.send_ends data), rfl⟩

theorem sendRtu_implements {toError : SE → ε} (payload : List UInt8)
    : Implements At id (Exec.mapErr toError (ModbusRtu.send payload) : Exec (Session S TS D SE TE) ε Unit)
        (putRtu payload) := by
  apply Implements.of_ends
  rintro ⟨srx, trx, stx, ttx, tid⟩
  exact ⟨.ok (), Ends.mapErr_ok (ModbusRtu.send_ends payload), rfl⟩

theorem ModbusRtu.sendAndReceive_implements (rtuReq : List UInt8)
    : Implements At Heapless.Vec.data
        (sendAndReceive rtuReq : Exec (Session S TS D SE TE) (ModbusError SE Empty) RtuResponse)
        (putRtu rtuReq >>= fun _ => cutRtu responseLayout 512) := by
  unfold sendAndReceive
  apply Implements.bind (sendRtu_implements rtuReq)
  intro _ _ _ _
  apply receive_implements

end Ports

section Cycle

omit [Device S SE] [Lossless S] [Lossless TS] in
/--
Whatever the states have to do with each other, a cycle of a bridge does what the program does if its three steps do.
-/
theorem Connection.cycle_implements_program {R : τ → Session S TS D SE TE → Prop}
    {receiveRequest : Exec (Session S TS D SE TE) (BridgeError SE TE) TcpFrame}
    {exchange : List UInt8 → Exec (Session S TS D SE TE) (BridgeError SE TE) RtuResponse}
    {takeRequest : Exec τ (BridgeError SE TE) (List UInt8)}
    {takeResponse : List UInt8 → Exec τ (BridgeError SE TE) (List UInt8)}
    {putAnswer : List UInt8 → Exec τ (BridgeError SE TE) Unit} {rxTid : List UInt8 → UInt16}
    (hrequest : ∀ t frame t', takeRequest t = .ok frame t' →
      ∃ tid pid body, frame = tcpFrame tid pid body ∧ body.length ≤ 255)
    (hresponse : ∀ rtuReq t frame t', takeResponse rtuReq t = .ok frame t' →
      ∃ body, frame = rtuFrame body ∧ 2 ≤ body.length ∧ body.length ≤ 506)
    (hreceive : Implements R Heapless.Vec.data receiveRequest takeRequest)
    (hexchange : ∀ rtuReq, Implements R Heapless.Vec.data (exchange rtuReq) (takeResponse rtuReq))
    (hsend : ∀ data, Implements R id
      (Exec.mapErr .tcpIo (ModbusTcp.send data) : Exec (Session S TS D SE TE) (BridgeError SE TE) Unit)
      (putAnswer data))
    : Implements R id (cycle receiveRequest exchange rxTid) (bridgeProgram takeRequest takeResponse putAnswer) := by
  unfold cycle bridgeProgram
  apply Implements.bind hreceive
  intro tcpReq t t' htake
  obtain ⟨tid, pid, body, hdata, hmax⟩ := hrequest t _ t' htake
  rw [hdata, drop_tcpFrame, idField_tcpFrame]
  by_cases hbody : body = []
  . rw [hbody, tcpFrame, List.append_nil, tcpToRtu_mbap_nil, if_pos rfl]
    apply Implements.fail
  . obtain ⟨rtuReq, hconv, hrtu⟩ := tcpToRtu_tcpFrame (List.length_pos_iff.mpr hbody) (by omega) tid pid
    rw [hconv, if_neg hbody]
    dsimp only [Except.mapError]
    rw [Exec.ofExcept_ok_bind, hrtu]
    apply Implements.bind (hexchange (rtuFrame body))
    intro resp t t' htake
    obtain ⟨rbody, hresp, hmin, hlen⟩ := hresponse _ t _ t' htake
    obtain ⟨out, hreply, hout⟩
        : ∃ out, (frameReply rxTid (rtuFrame rbody) tid : Except (BridgeError SE TE) _) = .ok (out, none)
            ∧ out.data = tcpFrame tid 0 rbody :=
      frameReply_rtuFrame hmin hlen rxTid tid
    rw [hresp, hreply, Exec.ofExcept_ok_bind, hout, withoutCrc, take_rtuFrame]
    apply Implements.bind (hsend (tcpFrame tid 0 rbody))
    intro _ _ _ _
    apply Implements.pure rfl

omit [Lossless S] [Lossless TS] in
/--
The same for a cycle of a client, which has five steps.
-/
theorem ClientSession.cycle_implements_program {R : τ → Session S TS D SE TE → Prop}
    {receiveRequest : Exec (Session S TS D SE TE) (BridgeError SE TE) RtuFrame}
    {receiveResponse : Exec (Session S TS D SE TE) (BridgeError SE TE) TcpFrame}
    {takeRequest takeResponse : Exec τ (BridgeError SE TE) (List UInt8)} {nextId : Exec τ (BridgeError SE TE) UInt16}
    {putRequest putAnswer : List UInt8 → Exec τ (BridgeError SE TE) Unit} {flavour : Flavour}
    (hrequest : ∀ t frame t', takeRequest t = .ok frame t' →
      ∃ body, frame = rtuFrame body ∧ 2 ≤ body.length ∧ body.length ≤ 253)
    (hresponse : ∀ t frame t', takeResponse t = .ok frame t' →
      ∃ tid pid body, frame = tcpFrame tid pid body ∧ body.length ≤ 255)
    (hreceive : Implements R Heapless.Vec.data receiveRequest takeRequest)
    (hid : Implements R id
      (ModbusTcp.nextTransactionId : Exec (Session S TS D SE TE) (BridgeError SE TE) UInt16) nextId)
    (hsend : ∀ data, Implements R id
      (Exec.mapErr .tcpIo (ModbusTcp.send data) : Exec (Session S TS D SE TE) (BridgeError SE TE) Unit)
      (putRequest data))
    (hanswer : Implements R Heapless.Vec.data receiveResponse takeResponse)
    (hreply : ∀ payload, Implements R id
      (Exec.mapErr .rtuIo (ModbusRtu.send payload) : Exec (Session S TS D SE TE) (BridgeError SE TE) Unit)
      (putAnswer payload))
    : Implements R id (cycle receiveRequest receiveResponse (Connection.rxTid flavour))
        (clientProgram takeRequest nextId putRequest takeResponse putAnswer) := by
  unfold cycle clientProgram
  apply Implements.bind hreceive
  intro rtuReq t t' htake
  obtain ⟨body, hdata, hmin, hmax⟩ := hrequest t _ t' htake
  rw [hdata, withoutCrc, take_rtuFrame]
  apply Implements.bind hid
  intro tid _ _ _
  rw [id_eq]
  obtain ⟨tcpReq, hconv, htcp⟩ := wrapMbap_rtuFrame hmin (by omega) tid
  unfold rtuToTcp
  rw [hconv]
  dsimp only [Except.mapError]
  rw [Exec.ofExcept_ok_bind, htcp, tid_tcpFrame]
  apply Implements.bind (hsend (tcpFrame tid 0 body))
  intro _ _ _ _
  apply Implements.bind hanswer
  intro tcpResp t t' htake
  obtain ⟨rtid, pid, rbody, hresp, hmax⟩ := hresponse t _ t' htake
  rw [hresp, drop_tcpFrame, idField_tcpFrame]
  by_cases hbody : rbody = []
  . rw [hbody, if_pos rfl, frameReply_nil, Exec.ofExcept_error_bind]
    apply Implements.fail
  . obtain ⟨out, hframed, hout⟩
        : ∃ out, (frameReply (Connection.rxTid flavour) (tcpFrame rtid pid rbody) tid
              : Except (BridgeError SE TE) _)
              = .ok (out, if rtid = tid then none else some (.transactionIdMismatch tid rtid))
            ∧ out.data = rtuFrame rbody :=
      frameReply_tcpFrame (List.length_pos_iff.mpr hbody) hmax flavour rtid pid tid
    rw [if_neg hbody, hframed, Exec.ofExcept_ok_bind, hout]
    apply Implements.bind (hreply (rtuFrame rbody))
    intro _ _ _ _
    by_cases htid : rtid = tid
    . rw [if_pos htid, if_pos htid]
      apply Implements.pure
      rfl
    . rw [if_neg htid, if_neg htid]
      apply Implements.pure
      rfl

variable {R : View → Session S TS D SE TE → Prop} {tcpWait rtuWait : Exec View (BridgeError SE TE) Unit}

omit [Device S SE] [Lossless S] [Lossless TS] in
theorem Connection.cycle_implements {receiveRequest : Exec (Session S TS D SE TE) (BridgeError SE TE) TcpFrame}
    {exchange : List UInt8 → Exec (Session S TS D SE TE) (BridgeError SE TE) RtuResponse}
    {rxTid : List UInt8 → UInt16}
    (hreceive : Implements R Heapless.Vec.data receiveRequest (tcpWait >>= fun _ => takeTcp))
    (hexchange : ∀ rtuReq, Implements R Heapless.Vec.data (exchange rtuReq) (rtuWait >>= fun _ => exchangeRtu rtuReq))
    (hsend : ∀ data, Implements R id
      (Exec.mapErr .tcpIo (ModbusTcp.send data) : Exec (Session S TS D SE TE) (BridgeError SE TE) Unit) (putTcp data))
    : Implements R id (cycle receiveRequest exchange rxTid) (bridgeStepAfter tcpWait rtuWait) := by
  apply cycle_implements_program _ _ hreceive hexchange hsend
  . intro v frame v' htake
    obtain ⟨_, v₁, _, htake⟩ := Exec.bind_eq_ok.mp htake
    apply exists_of_takeTcp htake
  . intro rtuReq v frame v' htake
    obtain ⟨_, v₁, _, htake⟩ := Exec.bind_eq_ok.mp htake
    obtain ⟨_, v₂, _, htake⟩ := Exec.bind_eq_ok.mp htake
    obtain ⟨body, hframe, hmin, hlen, _⟩ := exists_of_takeRtu htake
    have hlen : body.length + 2 = responseLength (rtuFrame body) := hlen
    have hbounds := responseLength_bounds (rtuFrame body)
    exact ⟨body, hframe, hmin, by omega⟩

omit [Lossless S] [Lossless TS] in
theorem ClientSession.cycle_implements {receiveRequest : Exec (Session S TS D SE TE) (BridgeError SE TE) RtuFrame}
    {receiveResponse : Exec (Session S TS D SE TE) (BridgeError SE TE) TcpFrame} {flavour : Flavour}
    (hreceive : Implements R Heapless.Vec.data receiveRequest
      (rtuWait >>= fun _ => takeRtu requestLayout rtuBuf .rtuClosed))
    (hid : Implements R id
      (ModbusTcp.nextTransactionId : Exec (Session S TS D SE TE) (BridgeError SE TE) UInt16) nextId)
    (hsend : ∀ data, Implements R id
      (Exec.mapErr .tcpIo (ModbusTcp.send data) : Exec (Session S TS D SE TE) (BridgeError SE TE) Unit) (putTcp data))
    (hresponse : Implements R Heapless.Vec.data receiveResponse (tcpWait >>= fun _ => takeTcp))
    (hreply : ∀ payload, Implements R id
      (Exec.mapErr .rtuIo (ModbusRtu.send payload) : Exec (Session S TS D SE TE) (BridgeError SE TE) Unit)
      (putRtu payload))
    : Implements R id (cycle receiveRequest receiveResponse (Connection.rxTid flavour))
        (clientStepAfter rtuWait tcpWait) := by
  apply cycle_implements_program _ _ hreceive hid hsend hresponse hreply
  . intro v frame v' htake
    obtain ⟨_, v₁, _, htake⟩ := Exec.bind_eq_ok.mp htake
    obtain ⟨body, hframe, hmin, _, hcap⟩ := exists_of_takeRtu htake
    exact ⟨body, hframe, hmin, by simp only [rtuBuf] at hcap; omega⟩
  . intro v frame v' htake
    obtain ⟨_, v₁, _, htake⟩ := Exec.bind_eq_ok.mp htake
    apply exists_of_takeTcp htake

end Cycle

section Errors

theorem listenTcp_implements {toError : ModbusError Empty TE → BridgeError SE TE}
    (hpush : toError .push = .bufferOverflow) (hshort : toError .payloadTooShort = .tcpClosed)
    : Implements At Heapless.Vec.data
        (Exec.mapErr toError ModbusTcp.listen : Exec (Session S TS D SE TE) (BridgeError SE TE) TcpFrame)
        takeTcp := by
  rw [← mapErr_cutTcp hpush hshort]
  apply ModbusTcp.listen_implements.mapErr

theorem Connection.listen_implements (flavour : Flavour)
    : Implements At Heapless.Vec.data
        (Exec.mapErr (listenError flavour) ModbusTcp.listen
          : Exec (Session S TS D SE TE) (BridgeError SE TE) TcpFrame)
        takeTcp := by
  apply listenTcp_implements
  . cases flavour <;> rfl
  . cases flavour <;> rfl

theorem Connection.sendAndReceive_implements (flavour : Flavour) (rtuReq : List UInt8)
    : Implements At Heapless.Vec.data
        (Exec.mapErr (exchangeError flavour) (ModbusRtu.sendAndReceive rtuReq)
          : Exec (Session S TS D SE TE) (BridgeError SE TE) RtuResponse)
        (exchangeRtu rtuReq) := by
  have hcut : (Exec.mapErr (exchangeError flavour) (putRtu rtuReq >>= fun _ => cutRtu responseLayout 512)
        : Exec View (BridgeError SE TE) _)
      = exchangeRtu rtuReq := by
    rw [Exec.mapErr_bind, mapErr_cutRtu rfl rfl rfl]
    rfl
  rw [← hcut]
  apply (ModbusRtu.sendAndReceive_implements rtuReq).mapErr

theorem ClientSession.listen_implements (flavour : Flavour)
    : Implements At Heapless.Vec.data
        (Exec.mapErr (requestError flavour) ModbusRtu.listen
          : Exec (Session S TS D SE TE) (BridgeError SE TE) RtuFrame)
        (takeRtu requestLayout rtuBuf .rtuClosed) := by
  have hcut : (Exec.mapErr (requestError flavour) (cutRtu requestLayout rtuBuf) : Exec View (BridgeError SE TE) _)
      = takeRtu requestLayout rtuBuf .rtuClosed := by
    apply mapErr_cutRtu rfl rfl rfl
  rw [← hcut]
  apply ModbusRtu.listen_implements.mapErr

theorem ClientSession.listenResponse_implements (flavour : Flavour)
    : Implements At Heapless.Vec.data
        (Exec.mapErr (responseError flavour) ModbusTcp.listen
          : Exec (Session S TS D SE TE) (BridgeError SE TE) TcpFrame)
        takeTcp := by
  apply listenTcp_implements
  . cases flavour <;> rfl
  . cases flavour <;> rfl

end Errors

section Next

variable [ReadReady S SE] [ReadReady TS TE] [DelayNs D]

namespace Connection

omit [ReadReady S SE] in
theorem receiveRequest_implements (hflavour : Flavour.Untimed flavour)
    : Implements At Heapless.Vec.data
        (receiveRequest flavour : Exec (Session S TS D SE TE) (BridgeError SE TE) TcpFrame) takeTcp := by
  unfold receiveRequest
  rw [guarded_untimed hflavour]
  apply listen_implements

omit [ReadReady TS TE] in
theorem exchange_implements (hflavour : Flavour.Untimed flavour) (rtuReq : List UInt8)
    : Implements At Heapless.Vec.data
        (exchange rtuReq flavour : Exec (Session S TS D SE TE) (BridgeError SE TE) RtuResponse)
        (exchangeRtu rtuReq) := by
  unfold exchange
  rw [guarded_untimed hflavour]
  apply sendAndReceive_implements

theorem next_implements (hflavour : Flavour.Untimed flavour)
    : Implements At id
        (next flavour : Exec (Session S TS D SE TE) (BridgeError SE TE) BridgeEvent) bridgeStep := by
  show Implements At id _ (bridgeStepAfter (pure ()) (pure ()))
  apply cycle_implements
  . apply receiveRequest_implements hflavour
  . apply exchange_implements hflavour
  . apply sendTcp_implements

end Connection

namespace ClientSession

omit [ReadReady TS TE] in
theorem receiveRequest_implements (hflavour : Flavour.Untimed flavour)
    : Implements At Heapless.Vec.data
        (receiveRequest flavour : Exec (Session S TS D SE TE) (BridgeError SE TE) RtuFrame)
        (takeRtu requestLayout rtuBuf .rtuClosed) := by
  unfold receiveRequest
  rw [guarded_untimed hflavour]
  apply listen_implements

omit [ReadReady S SE] in
theorem receiveResponse_implements (hflavour : Flavour.Untimed flavour)
    : Implements At Heapless.Vec.data
        (receiveResponse flavour : Exec (Session S TS D SE TE) (BridgeError SE TE) TcpFrame) takeTcp := by
  unfold receiveResponse
  rw [guarded_untimed hflavour]
  apply listenResponse_implements

omit [ReadReady S SE] [ReadReady TS TE] [DelayNs D] in
theorem nextTransactionId_implements
    : Implements At id
        (ModbusTcp.nextTransactionId : Exec (Session S TS D SE TE) (BridgeError SE TE) UInt16) nextId := by
  apply Implements.of_ends
  rintro ⟨srx, trx, stx, ttx, tid⟩
  exact ⟨.ok (tid + 1), nextTransactionId_ends, rfl⟩

theorem next_implements (hflavour : Flavour.Untimed flavour)
    : Implements At id
        (next flavour : Exec (Session S TS D SE TE) (BridgeError SE TE) BridgeEvent) clientStep := by
  show Implements At id _ (clientStepAfter (pure ()) (pure ()))
  apply cycle_implements
  . apply receiveRequest_implements hflavour
  . apply nextTransactionId_implements
  . apply sendTcp_implements
  . apply receiveResponse_implements hflavour
  . apply sendRtu_implements

end ClientSession

theorem Mode.next_implements (mode : Mode) (hflavour : Flavour.Untimed flavour)
    : Implements At id
        (mode.next flavour : Exec (Session S TS D SE TE) (BridgeError SE TE) BridgeEvent) mode.step := by
  cases mode with
  | bridge => apply Connection.next_implements hflavour
  | client => apply ClientSession.next_implements hflavour

theorem Mode.run_implements (mode : Mode) {flavours : List Flavour} (huntimed : ∀ flavour ∈ flavours, flavour.Untimed)
    : Implements At id (mode.run flavours : Exec (Session S TS D SE TE) (BridgeError SE TE) (List BridgeEvent))
        (mode.steps flavours.length) := by
  induction flavours with
  | nil => apply Implements.pure rfl
  | cons flavour flavours ih =>
    rw [List.forall_mem_cons] at huntimed
    apply Implements.bind (mode.next_implements huntimed.1)
    intro event _ _ _
    apply Implements.bind (ih huntimed.2)
    intro events _ _ _
    apply Implements.pure rfl

omit [ReadReady S SE] [ReadReady TS TE] [DelayNs D] in
theorem Session.At.accept {stream : TS} {v : View} {s : Session S TS D SE TE} (h : At v s)
    (hstream : Lossless.faults stream = 0)
    : At ⟨v.serialRx, Lossless.rx stream, [], [], 0⟩ (s.owner.accept stream : Session S TS D SE TE) where
  serialRx := h.serialRx
  tcpRx := rfl
  serialTx := rfl
  tcpTx := rfl
  transactionId := rfl
  faults := h.faults
  steady := hstream
  deadline := rfl

theorem Call.steady_step {c : Call TS} (hsteady : c.Steady) {v : View} {s : Session S TS D SE TE} (h : At v s)
    : c.answer s = c.expected v ∧ At (c.advance SE v) (c.perform s) := by
  cases hsteady with
  | accept hstream => exact ⟨rfl, h.accept hstream⟩
  | bridge hflavour =>
    obtain ⟨hresult, hafter⟩ := (Mode.bridge.next_implements hflavour).ends v s h
    exact ⟨congrArg some hresult, hafter⟩
  | client hflavour =>
    obtain ⟨hresult, hafter⟩ := (Mode.client.next_implements hflavour).ends v s h
    exact ⟨congrArg some hresult, hafter⟩

/--
What the machine does when calls are made of it, a session does.
-/
theorem Call.steady_calls {cs : List (Call TS)} (hsteady : ∀ c ∈ cs, c.Steady) {v v' : View}
    {answers : List (Option (Except (Stop (BridgeError SE TE)) BridgeEvent))}
    (hrun : answersOf (Call.advance SE) Call.expected cs v = answers ∧ afterCalls (Call.advance SE) cs v = v')
    {s : Session S TS D SE TE} (h : At v s)
    : answersOf Call.perform Call.answer cs s = answers ∧ At v' (afterCalls Call.perform cs s) := by
  obtain ⟨hanswers, hend⟩ := answersOf_simulates (R := At)
    (fun c hc v s (hv : At v s) => Call.steady_step (hsteady c hc) hv) h
  rw [hanswers, ← hrun.2]
  exact ⟨hrun.1, hend⟩

end Next

theorem mockSession_at (srx trx : List UInt8) : At ⟨srx, trx, [], [], 0⟩ (mockSession srx trx) where
  serialRx := rfl
  tcpRx := rfl
  serialTx := rfl
  tcpTx := rfl
  transactionId := rfl
  faults := Nat.zero_le 10
  steady := rfl
  deadline := rfl

end ModbusBridge
