import ModbusBridge.Conformance.ErrorDetection
import ModbusBridge.Lemmas.Machine

/-!
This module contains what noise on the serial line does to a run: an exchange that it hits fails with an error, and
no other exchange is disturbed.
-/

namespace ModbusBridge

open Effect EmbeddedIo Session Framing View

/--
What noise may make of a frame: errors that the CRC is sure to detect.
-/
inductive Noise (sent : List UInt8) : List UInt8 → Prop where
  | none : Noise sent sent
  | burst (hlen : received.length = sent.length) (hne : received ≠ sent) (start : Nat)
      (hwithin : ∀ i, bitAt sent i ≠ bitAt received i → start ≤ i ∧ i < start + 16) : Noise sent received
  | odd (hlen : received.length = sent.length) (hodd : Odd (bitErrors sent received)) : Noise sent received
  | two (hlen : received.length = sent.length) (htwo : bitErrors sent received = 2) : Noise sent received

theorem checkCrc_burst {a b : List UInt8} (ha : checkCrc a = .ok ()) (hlen : b.length = a.length) (hne : b ≠ a)
    (start : Nat) (hwithin : ∀ i, bitAt a i ≠ bitAt b i → start ≤ i ∧ i < start + 16)
    : checkCrc b = .error .crc := by
  apply checkCrc_of_run_errors ha hlen
  intro hzero
  have herrors (i : Nat) (hi : (errors a b).getD i false = true) : start ≤ i ∧ i < start + 16 := by
    rw [getD_errors hlen, bne_iff_ne] at hi
    apply hwithin i hi
  have hquiet := Crc.no_burst highest_crcPoly start herrors hzero
  apply hne
  apply eq_of_bitAt hlen
  intro i
  rw [← bne_eq_false_iff_eq, ← hquiet i, getD_errors hlen]

theorem Noise.length_eq {sent received : List UInt8} (h : Noise sent received) : received.length = sent.length := by
  cases h with
  | none => rfl
  | burst hlen _ _ _ | odd hlen _ | two hlen _ => exact hlen

theorem Noise.checkCrc_eq {sent received : List UInt8} (h : Noise sent received) (hsent : checkCrc sent = .ok ())
    (hmax : sent.length ≤ maxFrame) (hne : received ≠ sent) : checkCrc received = .error .crc := by
  cases h with
  | none => contradiction
  | burst hlen hne start hwithin => apply checkCrc_burst hsent hlen hne start hwithin
  | odd hlen hodd => apply odd_detected hsent hlen hodd
  | two hlen htwo => apply two_detected hsent hlen hmax htwo

/--
A frame that is sent with its CRC, and what is received for it. The noise does not change the bytes that tell how
long the frame is.
-/
structure Reception (L : Layout UInt8) (max : Nat) where
  body : List UInt8
  whole : L.Whole (rtuFrame body)
  min_le : 4 ≤ (rtuFrame body).length
  le_max : (rtuFrame body).length ≤ max
  received : List UInt8
  noise : Noise (rtuFrame body) received
  whole_received : L.Whole received

namespace Reception

variable {L : Layout UInt8} {max cap : Nat}

def Intact (r : Reception L max) : Prop := r.received = rtuFrame r.body

instance (r : Reception L max) : Decidable r.Intact := inferInstanceAs (Decidable (r.received = rtuFrame r.body))

theorem checkCrc_sent (r : Reception L max) : checkCrc (rtuFrame r.body) = .ok () := by
  have hmin := r.min_le
  rw [length_rtuFrame] at hmin
  apply checkCrc_rtuFrame
  omega

theorem verified_received (r : Reception L max) (hmax : max ≤ maxFrame)
    : (verified r.received : Except (ModbusError SE TE) _)
        = if r.Intact then .ok (rtuFrame r.body) else .error .crc := by
  have hroom := r.le_max
  split
  . next hintact =>
    rw [show r.received = _ from hintact]
    apply verified_ok r.checkCrc_sent
  . next hbroken =>
    have hcrc := r.noise.checkCrc_eq r.checkCrc_sent (by omega) hbroken
    apply verified_error
    rw [hcrc]
    exact nofun

theorem cutRtu_received (r : Reception L max) (hmax : max ≤ maxFrame) (hcap : max ≤ cap)
    (srx trx stx ttx : List UInt8) (tid : UInt16)
    : (cutRtu L cap ⟨r.received ++ srx, trx, stx, ttx, tid⟩ : EStateM.Result (Stop (ModbusError SE Empty)) _ _)
        = if r.Intact then .ok (rtuFrame r.body) ⟨srx, trx, stx, ttx, tid⟩
          else .error (.failed .crc) ⟨srx, trx, stx, ttx, tid⟩ := by
  have hroom := r.le_max
  have hlen := r.noise.length_eq
  rw [cutRtu_append r.whole_received (by omega), r.verified_received hmax]
  split
  . rfl
  . rfl

theorem takeRtu_received (r : Reception L max) (hmax : max ≤ maxFrame) (hcap : max ≤ cap) (closed : BridgeError SE TE)
    (srx trx stx ttx : List UInt8) (tid : UInt16)
    : takeRtu L cap closed ⟨r.received ++ srx, trx, stx, ttx, tid⟩
        = if r.Intact then .ok (rtuFrame r.body) ⟨srx, trx, stx, ttx, tid⟩
          else .error (.failed .rtuCrcMismatch) ⟨srx, trx, stx, ttx, tid⟩ := by
  have hcut : (cutRtu L cap _ : EStateM.Result (Stop (ModbusError SE Empty)) _ _) = _ :=
    r.cutRtu_received hmax hcap srx trx stx ttx tid
  split
  . next hintact =>
    rw [if_pos hintact] at hcut
    exact Exec.mapErr_ok hcut
  . next hbroken =>
    rw [if_neg hbroken] at hcut
    exact Exec.mapErr_error hcut

end Reception

section Bridge

structure NoisyExchange where
  flavour : Flavour
  untimed : flavour.Untimed
  request : TcpMessage
  response : Reception responseLayout maxFrame

namespace NoisyExchange

def call (x : NoisyExchange) : Call TS := .bridge x.flavour

def answer (x : NoisyExchange) : Option (Except (Stop (BridgeError SE TE)) BridgeEvent) :=
  if x.response.Intact then
    some (.ok (.transaction (.ofRequest (parseTcpRequest x.request.frame))))
  else
    some (.error (.failed .rtuCrcMismatch))

def reply (x : NoisyExchange) : List UInt8 :=
  if x.response.Intact then tcpFrame x.request.transactionId 0 x.response.body else []

theorem bridgeStep_eq (x : NoisyExchange) (srx trx stx ttx : List UInt8) (tid : UInt16)
    : (bridgeStep : Exec View (BridgeError SE TE) BridgeEvent)
          ⟨x.response.received ++ srx, x.request.frame ++ trx, stx, ttx, tid⟩
        = if x.response.Intact then
            .ok (.transaction (.ofRequest (parseTcpRequest x.request.frame)))
              ⟨srx, trx, stx ++ rtuFrame x.request.body,
                ttx ++ tcpFrame x.request.transactionId 0 x.response.body, tid⟩
          else
            .error (.failed .rtuCrcMismatch) ⟨srx, trx, stx ++ rtuFrame x.request.body, ttx, tid⟩ := by
  have hroom : maxFrame ≤ 512 := by decide
  have htake : (exchangeRtu (rtuFrame x.request.body) : Exec View (BridgeError SE TE) _)
        ⟨x.response.received ++ srx, trx, stx, ttx, tid⟩ = _ :=
    x.response.takeRtu_received (by decide) hroom .rtuCrcMismatch srx trx (stx ++ rtuFrame x.request.body) ttx tid
  unfold bridgeStep
  by_cases hintact : x.response.Intact
  . rw [if_pos hintact] at htake ⊢
    rw [bridgeProgram_relays (takeTcp_append x.request _ trx stx ttx tid) htake]
    rfl
  . rw [if_neg hintact] at htake ⊢
    rw [bridgeProgram_fails (takeTcp_append x.request _ trx stx ttx tid) htake]

theorem machine_relays (SE TS : Type) [Device TS TE] [Lossless TS] (x : NoisyExchange) (srx trx stx ttx : List UInt8)
    (tid : UInt16)
    : (x.call : Call TS).expected ⟨x.response.received ++ srx, x.request.frame ++ trx, stx, ttx, tid⟩
          = (x.answer : Option (Except (Stop (BridgeError SE TE)) BridgeEvent))
        ∧ (x.call : Call TS).advance SE ⟨x.response.received ++ srx, x.request.frame ++ trx, stx, ttx, tid⟩
            = ⟨srx, trx, stx ++ rtuFrame x.request.body, ttx ++ x.reply, tid⟩ := by
  simp only [call, answer, reply, Call.expected, Call.advance, Mode.step, bridgeStep_eq]
  by_cases hintact : x.response.Intact
  . simp only [if_pos hintact]
    exact ⟨rfl, rfl⟩
  . simp only [if_neg hintact, List.append_nil]
    exact ⟨rfl, rfl⟩

theorem machine_relays_all (SE : Type) [Device TS TE] [Lossless TS] (xs : List NoisyExchange)
    (srx trx stx ttx : List UInt8) (tid : UInt16)
    : answersOf (Call.advance SE) Call.expected (xs.map NoisyExchange.call : List (Call TS))
            ⟨xs.flatMap (fun x => x.response.received) ++ srx, xs.flatMap (fun x => x.request.frame) ++ trx, stx, ttx,
              tid⟩
          = (xs.map NoisyExchange.answer : List (Option (Except (Stop (BridgeError SE TE)) BridgeEvent)))
        ∧ afterCalls (Call.advance SE) (xs.map NoisyExchange.call : List (Call TS))
            ⟨xs.flatMap (fun x => x.response.received) ++ srx, xs.flatMap (fun x => x.request.frame) ++ trx, stx, ttx,
              tid⟩
          = ⟨srx, trx, stx ++ xs.flatMap (fun x => rtuFrame x.request.body), ttx ++ xs.flatMap NoisyExchange.reply,
              tid⟩ := by
  induction xs generalizing stx ttx with
  | nil =>
    simp only [List.flatMap_nil, List.nil_append, List.append_nil]
    exact ⟨rfl, rfl⟩
  | cons x xs ih =>
    obtain ⟨hanswer, hafter⟩ := x.machine_relays SE TS
      (xs.flatMap (fun x => x.response.received) ++ srx) (xs.flatMap (fun x => x.request.frame) ++ trx) stx ttx tid
    obtain ⟨hanswers, hend⟩ := ih (stx ++ rtuFrame x.request.body) (ttx ++ x.reply)
    simp only [List.map_cons, answersOf_cons, afterCalls_cons, List.flatMap_cons, List.append_assoc]
    rw [hanswer, hafter, hanswers, hend, List.append_assoc, List.append_assoc]
    exact ⟨rfl, rfl⟩

theorem steady (xs : List NoisyExchange) [Device TS TE] [Lossless TS]
    : ∀ c ∈ xs.map (NoisyExchange.call : _ → Call TS), c.Steady := by
  rintro _ hmem
  obtain ⟨x, _, rfl⟩ := List.mem_map.mp hmem
  apply Call.Steady.bridge x.untimed

end NoisyExchange

/--
A bridge on a noisy line: whatever the noise hits, every request is sent, every response that arrives intact is
relayed under the id of its request, and every other one is reported as a failure and not relayed.
-/
theorem bridge_survives_noise [Device S SE] [Device TS TE] [ReadReady S SE] [ReadReady TS TE] [DelayNs D] [Lossless S]
    [Lossless TS] (xs : List NoisyExchange) {s : Session S TS D SE TE}
    (h : At ⟨xs.flatMap (fun x => x.response.received) ++ srx, xs.flatMap (fun x => x.request.frame) ++ trx, stx, ttx,
      tid⟩ s)
    : answersOf Call.perform Call.answer (xs.map NoisyExchange.call) s = xs.map NoisyExchange.answer
        ∧ At ⟨srx, trx, stx ++ xs.flatMap (fun x => rtuFrame x.request.body),
              ttx ++ xs.flatMap NoisyExchange.reply, tid⟩
            (afterCalls Call.perform (xs.map NoisyExchange.call) s) := by
  apply Call.steady_calls (NoisyExchange.steady xs) (NoisyExchange.machine_relays_all SE xs srx trx stx ttx tid) h

def readOne : List UInt8 := [0x11, 0x03, 0x00, 0x6B, 0x00, 0x01]

def exception : List UInt8 := [0x11, 0x83, 0x02]

def intactResponse : Reception responseLayout maxFrame where
  body := exception
  whole := by show _ = _; decide +kernel
  min_le := by decide +kernel
  le_max := by decide +kernel
  received := rtuFrame exception
  noise := .none
  whole_received := by show _ = _; decide +kernel

/--
One bit of the exception code is flipped.
-/
def hitResponse : Reception responseLayout maxFrame := { intactResponse with
  received := (rtuFrame exception).set 2 0x03
  noise := .odd (by decide +kernel) (by decide +kernel)
  whole_received := by show _ = _; decide +kernel
}

def oneFlipped : List NoisyExchange := [
  ⟨.sync, .sync, ⟨7, 0, readOne, by decide, by decide⟩, hitResponse⟩,
  ⟨.async, .async, ⟨8, 0, readOne, by decide, by decide⟩, intactResponse⟩]

def readOneMessage (transactionId : UInt16) : TcpMessage := ⟨transactionId, 0, readOne, by decide, by decide⟩

def oneFlippedSession : Session MockStream MockStream MockDelay Empty Empty :=
  mockSession (oneFlipped.flatMap (fun x => x.response.received) ++ [])
    (oneFlipped.flatMap (fun x => x.request.frame) ++ [])

theorem bridge_survives_noise_flip
    : answersOf Call.perform Call.answer (oneFlipped.map NoisyExchange.call) oneFlippedSession
        = [some (.error (.failed .rtuCrcMismatch)), some (.ok (.transaction (.ofBytes readOne)))] := by
  unfold oneFlippedSession
  rw [(bridge_survives_noise oneFlipped (mockSession_at _ _)).1]
  decide +kernel

end Bridge

section Client

/--
A request of the RTU master, and the response that the server is going to give if it is asked.
-/
structure NoisyQuery where
  flavour : Flavour
  untimed : flavour.Untimed
  request : Reception requestLayout rtuBuf
  response : TcpMessage

namespace NoisyQuery

def call (x : NoisyQuery) : Call TS := .client x.flavour

def answered (x : NoisyQuery) : List UInt8 := if x.request.Intact then x.response.frame else []

def reply (x : NoisyQuery) : List UInt8 := if x.request.Intact then rtuFrame x.response.body else []

/--
The transaction id after the query, as it was before it or one more.
-/
def count (x : NoisyQuery) (tid : UInt16) : UInt16 := if x.request.Intact then tid + 1 else tid

def asked (x : NoisyQuery) (tid : UInt16) : List UInt8 :=
  if x.request.Intact then tcpFrame (tid + 1) 0 x.request.body else []

def answer (x : NoisyQuery) (tid : UInt16) : Option (Except (Stop (BridgeError SE TE)) BridgeEvent) :=
  if x.request.Intact then
    some (.ok (ClientSession.report (rtuFrame x.request.body) (tid + 1) x.response.transactionId))
  else
    some (.error (.failed .rtuCrcMismatch))

theorem clientStep_eq (x : NoisyQuery) (srx trx stx ttx : List UInt8) (tid : UInt16)
    : (clientStep : Exec View (BridgeError SE TE) BridgeEvent)
          ⟨x.request.received ++ srx, x.answered ++ trx, stx, ttx, tid⟩
        = if x.request.Intact then
            .ok (ClientSession.report (rtuFrame x.request.body) (tid + 1) x.response.transactionId)
              ⟨srx, trx, stx ++ rtuFrame x.response.body, ttx ++ tcpFrame (tid + 1) 0 x.request.body, tid + 1⟩
          else
            .error (.failed .rtuCrcMismatch) ⟨srx, trx, stx, ttx, tid⟩ := by
  have hbody : x.response.body ≠ [] := List.ne_nil_of_length_pos x.response.pos
  have htake := x.request.takeRtu_received (by decide) (Nat.le_refl rtuBuf) (.rtuClosed : BridgeError SE TE) srx
    (x.answered ++ trx) stx ttx tid
  unfold clientStep
  by_cases hintact : x.request.Intact
  . rw [if_pos hintact] at htake ⊢
    rw [clientProgram_taken htake, nextId_bind, putTcp_bind, answered, if_pos hintact]
    rw [Exec.bind_ok (takeTcp_append x.response srx trx stx _ _)]
    rw [x.response.drop_frame, if_neg hbody, putRtu_bind, x.response.idField_frame]
    rfl
  . rw [if_neg hintact] at htake ⊢
    unfold clientProgram
    rw [Exec.bind_error htake, answered, if_neg hintact]
    rfl

theorem machine_relays (SE TS : Type) [Device TS TE] [Lossless TS] (x : NoisyQuery) (srx trx stx ttx : List UInt8)
    (tid : UInt16)
    : (x.call : Call TS).expected ⟨x.request.received ++ srx, x.answered ++ trx, stx, ttx, tid⟩
          = (x.answer tid : Option (Except (Stop (BridgeError SE TE)) BridgeEvent))
        ∧ (x.call : Call TS).advance SE ⟨x.request.received ++ srx, x.answered ++ trx, stx, ttx, tid⟩
            = ⟨srx, trx, stx ++ x.reply, ttx ++ x.asked tid, x.count tid⟩ := by
  simp only [call, answer, reply, asked, count, Call.expected, Call.advance, Mode.step, clientStep_eq]
  by_cases hintact : x.request.Intact
  . simp only [if_pos hintact]
    exact ⟨rfl, rfl⟩
  . simp only [if_neg hintact, List.append_nil]
    exact ⟨rfl, rfl⟩

theorem machine_relays_all (SE : Type) [Device TS TE] [Lossless TS] (xs : List NoisyQuery)
    (srx trx stx ttx : List UInt8) (tid : UInt16)
    : answersOf (Call.advance SE) Call.expected (xs.map NoisyQuery.call : List (Call TS))
            ⟨xs.flatMap (fun x => x.request.received) ++ srx, xs.flatMap NoisyQuery.answered ++ trx, stx, ttx, tid⟩
          = (answersOf NoisyQuery.count NoisyQuery.answer xs tid
            : List (Option (Except (Stop (BridgeError SE TE)) BridgeEvent)))
        ∧ afterCalls (Call.advance SE) (xs.map NoisyQuery.call : List (Call TS))
            ⟨xs.flatMap (fun x => x.request.received) ++ srx, xs.flatMap NoisyQuery.answered ++ trx, stx, ttx, tid⟩
          = ⟨srx, trx, stx ++ xs.flatMap NoisyQuery.reply,
              ttx ++ (answersOf NoisyQuery.count NoisyQuery.asked xs tid).flatten,
              afterCalls NoisyQuery.count xs tid⟩ := by
  induction xs generalizing stx ttx tid with
  | nil =>
    simp only [List.flatMap_nil, List.nil_append, answersOf_nil, List.flatten_nil, List.append_nil]
    exact ⟨rfl, rfl⟩
  | cons x xs ih =>
    obtain ⟨hanswer, hafter⟩ := x.machine_relays SE TS
      (xs.flatMap (fun x => x.request.received) ++ srx) (xs.flatMap NoisyQuery.answered ++ trx) stx ttx tid
    obtain ⟨hanswers, hend⟩ := ih (stx ++ x.reply) (ttx ++ x.asked tid) (x.count tid)
    simp only [List.map_cons, answersOf_cons, afterCalls_cons, List.flatMap_cons, List.flatten_cons,
      List.append_assoc]
    rw [hanswer, hafter, hanswers, hend, List.append_assoc, List.append_assoc]
    exact ⟨rfl, rfl⟩

theorem steady (xs : List NoisyQuery) [Device TS TE] [Lossless TS]
    : ∀ c ∈ xs.map (NoisyQuery.call : _ → Call TS), c.Steady := by
  rintro _ hmem
  obtain ⟨x, _, rfl⟩ := List.mem_map.mp hmem
  apply Call.Steady.client x.untimed

end NoisyQuery

/--
A client on a noisy line: the requests that arrive intact are sent to the server under the next ids and answered
with what the server says, and every other one is reported as a failure and neither sent nor answered.
-/
theorem client_survives_noise [Device S SE] [Device TS TE] [ReadReady S SE] [ReadReady TS TE] [DelayNs D] [Lossless S]
    [Lossless TS] (xs : List NoisyQuery) {s : Session S TS D SE TE}
    (h : At ⟨xs.flatMap (fun x => x.request.received) ++ srx, xs.flatMap NoisyQuery.answered ++ trx, stx, ttx, tid⟩ s)
    : answersOf Call.perform Call.answer (xs.map NoisyQuery.call) s
          = answersOf NoisyQuery.count NoisyQuery.answer xs tid
        ∧ At ⟨srx, trx, stx ++ xs.flatMap NoisyQuery.reply,
              ttx ++ (answersOf NoisyQuery.count NoisyQuery.asked xs tid).flatten, afterCalls NoisyQuery.count xs tid⟩
            (afterCalls Call.perform (xs.map NoisyQuery.call) s) := by
  apply Call.steady_calls (NoisyQuery.steady xs) (NoisyQuery.machine_relays_all SE xs srx trx stx ttx tid) h

def intactRequest : Reception requestLayout rtuBuf where
  body := readRequest
  whole := by show _ = _; decide +kernel
  min_le := by decide +kernel
  le_max := by decide +kernel
  received := rtuFrame readRequest
  noise := .none
  whole_received := by show _ = _; decide +kernel

/--
Two bits of the address are flipped.
-/
def hitRequest : Reception requestLayout rtuBuf := { intactRequest with
  received := (rtuFrame readRequest).set 3 0x81
  noise := .two (by decide +kernel) (by decide +kernel)
  whole_received := by show _ = _; decide +kernel
}

def twoFlipped : List NoisyQuery := [
  ⟨.sync, .sync, intactRequest, ⟨1, 0, exception, by decide, by decide⟩⟩,
  ⟨.async, .async, hitRequest, ⟨0, 0, exception, by decide, by decide⟩⟩,
  ⟨.async, .async, intactRequest, ⟨2, 0, exception, by decide, by decide⟩⟩]

def exceptionMessage (transactionId : UInt16) : TcpMessage := ⟨transactionId, 0, exception, by decide, by decide⟩

def twoFlippedSession : Session MockStream MockStream MockDelay Empty Empty :=
  mockSession (twoFlipped.flatMap (fun x => x.request.received) ++ []) (twoFlipped.flatMap NoisyQuery.answered ++ [])

theorem client_survives_noise_flips
    : answersOf Call.perform Call.answer (twoFlipped.map NoisyQuery.call) twoFlippedSession
        =
      [
        some (.ok (.transaction (.ofBytes readRequest))),
        some (.error (.failed .rtuCrcMismatch)),
        some (.ok (.transaction (.ofBytes readRequest)))
      ] := by
  unfold twoFlippedSession
  rw [(client_survives_noise twoFlipped (mockSession_at _ _)).1]
  decide +kernel

end Client

end ModbusBridge
