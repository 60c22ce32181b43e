import ModbusBridge.Lemmas.Frame
import ModbusBridge.Lemmas.Reads
import ModbusBridge.Spec.Mock

/-!
This module contains how the conversions between the two frame formats fit together: what comes back when
a frame is converted there and back, and where the two decoders of TCP frames agree.
-/

namespace ModbusBridge

open Effect EmbeddedIo Session

section Requests

/--
A request that has been converted can be converted back. Only its CRC is computed anew, so the result is
the request itself if and only if its CRC was right.
-/
theorem request_roundTrip (f : List UInt8) (tid : UInt16) (g : TcpResponse) (h : rtuToTcp f tid = .ok g)
    : ∃ r, tcpToRtu g.data = .ok (r, tid)
        ∧ r.data = rtuFrame (f.take (f.length - 2))
        ∧ (r.data = f ↔ checkCrc f = .ok ())
        ∧ rtuToTcp r.data tid = .ok g := by
  obtain ⟨body, suffix, rfl, hsuffix, hmin, hmax, hg⟩ := wrapMbap_eq_ok h
  obtain ⟨r, hr, hdata⟩ := tcpToRtu_tcpFrame (by omega : 1 ≤ body.length) (by omega) tid 0
  obtain ⟨g', hg', hdata'⟩ := wrapMbap_rtuFrame hmin hmax tid
  have hbody : (body ++ suffix).take ((body ++ suffix).length - 2) = body := by
    rw [List.length_append, hsuffix, Nat.add_sub_cancel]
    apply List.take_left
  have hback : g' = g := by
    apply Heapless.Vec.ext
    rw [hdata', hg]
  rw [hg]
  refine ⟨r, hr, ?_, ?_, ?_⟩
  . rw [hbody, hdata]
  . rw [hdata, checkCrc_eq_ok]
    constructor
    . intro hframe
      exact ⟨body, hmin, hframe.symm⟩
    . rintro ⟨body', _, hframe⟩
      have hsame : body = body' := List.append_inj_left' hframe hsuffix
      rw [hframe, hsame]
  . rw [hdata, ← hback]
    apply hg'

theorem request_roundTrip_read
    : ∃ r, tcpToRtu (tcpFrame 0x0042 0 readRequest) = .ok (r, 0x0042)
        ∧ r.data = rtuFrame ((rtuFrame readRequest).take ((rtuFrame readRequest).length - 2))
        ∧ (r.data = rtuFrame readRequest ↔ checkCrc (rtuFrame readRequest) = .ok ())
        ∧ rtuToTcp r.data 0x0042 = .ok ⟨tcpFrame 0x0042 0 readRequest, by decide⟩ :=
  request_roundTrip (rtuFrame readRequest) 0x0042 ⟨tcpFrame 0x0042 0 readRequest, by decide⟩
    (by decide +kernel)

end Requests

section Responses

/--
A response comes back as it was if and only if it has at most 257 bytes: a longer one has a length field
whose high byte is not zero.
-/
theorem response_roundTrip_iff (f : List UInt8) (tid : UInt16) (g : TcpResponse)
    (h : rtuRespToTcp f tid = .ok g) (hcrc : checkCrc f = .ok ())
    : (tcpRespToRtu g.data tid).map Heapless.Vec.data = .ok f ↔ f.length ≤ 257 := by
  obtain ⟨body, hmin, rfl⟩ := checkCrc_eq_ok.mp hcrc
  obtain ⟨body', suffix, hframe, hsuffix, _, hmax, hg⟩ := wrapMbap_eq_ok h
  obtain rfl : body = body' := List.append_inj_left' hframe hsuffix.symm
  obtain ⟨r, hr, hdata⟩ := tcpRespToRtu_low (by omega : 1 ≤ body.length) (by omega) tid 0
  rw [hg, hr, Except.map, Except.ok.injEq, hdata, length_rtuFrame]
  constructor
  . intro hback
    have hlen := congrArg List.length hback
    rw [length_rtuFrame, length_rtuFrame, List.length_take] at hlen
    omega
  . intro hle
    rw [Nat.mod_eq_of_lt (by omega), List.take_length]

theorem response_roundTrip_iff_read
    : (tcpRespToRtu (tcpFrame 7 0 [0x01, 0x03, 0x02, 0x00, 0x01]) 7).map Heapless.Vec.data
          = .ok (rtuFrame [0x01, 0x03, 0x02, 0x00, 0x01])
        ↔
      (rtuFrame [0x01, 0x03, 0x02, 0x00, 0x01]).length ≤ 257 :=
  response_roundTrip_iff (rtuFrame [0x01, 0x03, 0x02, 0x00, 0x01]) 7
    ⟨tcpFrame 7 0 [0x01, 0x03, 0x02, 0x00, 0x01], by decide⟩ (by decide +kernel) (by decide +kernel)

/--
The longest response to a read: 255 bytes of data.
-/
def longResponse : List UInt8 := 0x11 :: 0x03 :: 0xFF :: List.replicate 255 0xAB

theorem response_roundTrip_fails
    : checkCrc (rtuFrame longResponse) = .ok ()
        ∧ ∃ g, rtuRespToTcp (rtuFrame longResponse) 7 = .ok g
            ∧ (tcpRespToRtu g.data 7).map Heapless.Vec.data ≠ .ok (rtuFrame longResponse) := by
  have hlen : longResponse.length = 258 := by
    simp only [longResponse, List.length_cons, List.length_replicate]
  obtain ⟨g, hg, hgdata⟩ := wrapMbap_rtuFrame (by omega : 2 ≤ longResponse.length) (by omega) 7
  obtain ⟨r, hr, hrdata⟩ := tcpRespToRtu_low (by omega : 1 ≤ longResponse.length) (by omega) 7 0
  refine ⟨checkCrc_rtuFrame (by omega), g, hg, ?_⟩
  rw [hgdata, hr, Except.map, ne_eq, Except.ok.injEq, hrdata]
  -- 258 is two more than 256, so the decoder keeps two bytes.
  intro hback
  have hcut := congrArg List.length hback
  rw [length_rtuFrame, length_rtuFrame, List.length_take, hlen] at hcut
  omega

end Responses

section Decoders

variable {S TS D SE TE : Type} [Device TS TE]

/--
The two decoders do the same to `tcp` under its own id, which is to keep all that follows the MBAP header, and the one
that looks at the low byte of the length field only does not go wrong.
-/
structure DecodersAgree (tcp : List UInt8) : Prop where
  agree : ∃ r, tcpRespToRtu tcp (idField tcp) = .ok r ∧ tcpToRtu tcp = .ok (r, idField tcp)
    ∧ r.data = rtuFrame (tcp.drop 6)
  notTruncated : 6 + (tcp.getD 5 0).toNat = tcp.length
  notShort : ∀ expectedTid, tcpRespToRtu tcp expectedTid ≠ .error .payloadTooShort

theorem decodersAgree_tcpFrame {body : List UInt8} (hmin : 1 ≤ body.length) (hmax : body.length ≤ 255)
    (tid pid : UInt16) : DecodersAgree (tcpFrame tid pid body) := by
  obtain ⟨r, hr, hdata⟩ := tcpRespToRtu_tcpFrame hmin hmax tid pid
  obtain ⟨r', hr', hdata'⟩ := tcpToRtu_tcpFrame hmin (by omega) tid pid
  have hsame : r' = r := by
    apply Heapless.Vec.ext
    rw [hdata', hdata]
  constructor
  . rw [idField_tcpFrame, drop_tcpFrame]
    rw [hsame] at hr'
    exact ⟨r, hr, hr', hdata⟩
  . obtain ⟨t₀, t₁, p₀, p₁, n₀, n₁, hmbap, _, hlen⟩ :=
      mbap_cases (n := body.length) tid pid (by omega)
    have hlow : n₁.toNat = body.length := by
      rw [toNat_fromBeBytes] at hlen
      omega
    rw [length_tcpFrame, ← hlow]
    unfold tcpFrame
    rw [hmbap]
    rfl
  . intro expectedTid
    by_cases htid : tid = expectedTid
    . rw [← htid, hr]
      simp
    . rw [tcpRespToRtu_of_ne hmin hmax pid htid]
      simp

theorem decoders_agree (s s' : Session S TS D SE TE) (f : TcpFrame) (h : ModbusTcp.listen s = .ok f s')
    (hlen : 7 ≤ f.data.length) : DecodersAgree f.data := by
  obtain ⟨_, tid, pid, body, hdata, hmax⟩ := ModbusTcp.listen_ok h
  rw [hdata, length_tcpFrame] at hlen
  rw [hdata]
  apply decodersAgree_tcpFrame
  . omega
  . apply hmax

theorem decoders_agree_read : DecodersAgree (tcpFrame 7 0 readRequest) :=
  decoders_agree (mockSession [] (tcpFrame 7 0 readRequest)) _ ⟨tcpFrame 7 0 readRequest, by decide⟩
    (Exec.eq_ok_of_outcome (by decide +kernel)) (by decide)

end Decoders

end ModbusBridge
