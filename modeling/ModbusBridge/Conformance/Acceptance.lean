import Mathlib.Data.List.GetD
import ModbusBridge.Lemmas.Checked
import ModbusBridge.Lemmas.Frame

/-!
This module contains exactly which slices the framing functions accept, and that they index none of them out
of range.
-/

namespace ModbusBridge

/--
What makes the result `x` for a slice of length `len` depend on the length only.
-/
structure AcceptsLength (lo hi len : Nat) (x : Except FrameError α) : Prop where
  ok : (∃ out, x = .ok out) ↔ lo ≤ len ∧ len ≤ hi
  tooShort : x = .error .payloadTooShort ↔ len < lo
  tooLong : x = .error .conversionSlice ↔ hi < len

structure AcceptsResponse (tcp : List UInt8) (expectedTid : UInt16) : Prop where
  ok : (∃ out, tcpRespToRtu tcp expectedTid = .ok out)
        ↔ 7 ≤ tcp.length ∧ idField tcp = expectedTid ∧ 6 + (tcp.getD 5 0).toNat ≤ tcp.length
  mismatch : tcpRespToRtu tcp expectedTid = .error .invalidTransactionId
        ↔ 7 ≤ tcp.length ∧ idField tcp ≠ expectedTid
  tooShort : tcpRespToRtu tcp expectedTid = .error .payloadTooShort
        ↔ tcp.length < 7 ∨ (idField tcp = expectedTid ∧ tcp.length < 6 + (tcp.getD 5 0).toNat)
  fits : tcpRespToRtu tcp expectedTid ≠ .error .conversionSlice

/--
None of the framing functions panics on the slice.
-/
structure NoPanic (slice : List UInt8) (tid : UInt16) : Prop where
  crc : Checked.crc slice = some (crc slice)
  checkCrc : Checked.checkCrc slice = some (checkCrc slice)
  rtuToTcp : Checked.rtuToTcp slice tid = some (rtuToTcp slice tid)
  tcpToRtu : Checked.tcpToRtu slice = some (tcpToRtu slice)
  tcpRespToRtu : Checked.tcpRespToRtu slice tid = some (tcpRespToRtu slice tid)
  rtuRespToTcp : Checked.rtuRespToTcp slice tid = some (rtuRespToTcp slice tid)

/--
`requestToTcp` and the other three are about the four conversions, in their order in the code.
-/
structure FramesExactly (slice : List UInt8) (tid : UInt16) : Prop where
  noPanic : NoPanic slice tid
  requestToTcp : AcceptsLength 4 508 slice.length (rtuToTcp slice tid)
  requestToRtu : AcceptsLength 7 516 slice.length (tcpToRtu slice)
  responseToRtu : AcceptsResponse slice tid
  responseToTcp : AcceptsLength 4 508 slice.length (rtuRespToTcp slice tid)
  header : ∀ out : TcpResponse, rtuToTcp slice tid = .ok out ∨ rtuRespToTcp slice tid = .ok out
    → out.data.length = 6 + lengthField out.data

theorem noPanic (slice : List UInt8) (tid : UInt16) : NoPanic slice tid where
  crc := Checked.crc_eq slice
  checkCrc := Checked.checkCrc_eq slice
  rtuToTcp := Checked.wrapMbap_eq slice tid
  tcpToRtu := Checked.tcpToRtu_eq slice
  tcpRespToRtu := Checked.tcpRespToRtu_eq slice tid
  rtuRespToTcp := Checked.wrapMbap_eq slice tid

theorem acceptsLength {x : Except FrameError α} (hle : lo ≤ hi)
    (hshort : len < lo → x = .error .payloadTooShort) (hok : lo ≤ len → len ≤ hi → ∃ out, x = .ok out)
    (hlong : hi < len → x = .error .conversionSlice) : AcceptsLength lo hi len x := by
  obtain hlt | ⟨hmin, hmax⟩ | hgt : len < lo ∨ (lo ≤ len ∧ len ≤ hi) ∨ hi < len := by omega
  . rw [hshort hlt]
    constructor
    . simp
      omega
    . simp [hlt]
    . simp
      omega
  . obtain ⟨out, hout⟩ := hok hmin hmax
    rw [hout]
    constructor
    . simp [hmin, hmax]
    . simp [hmin]
    . simp [hmax]
  . rw [hlong hgt]
    constructor
    . simp
      omega
    . simp
      omega
    . simp [hgt]

theorem acceptsLength_wrapMbap (rtu : List UInt8) (tid : UInt16)
    : AcceptsLength 4 508 rtu.length (wrapMbap rtu tid) := by
  apply acceptsLength (by decide)
  . intro hlt
    unfold wrapMbap
    rw [if_pos hlt]
  . intro hmin hmax
    obtain ⟨body, suffix, rfl, hsuffix, hbody⟩ := exists_append_of_le_length (by omega : 2 ≤ rtu.length)
    have htwo : 2 ≤ body.length := by omega
    have hroom : body.length ≤ 506 := by omega
    obtain ⟨out, hout, _⟩ := wrapMbap_append hsuffix htwo hroom tid
    exact ⟨out, hout⟩
  . intro hgt
    obtain ⟨body, suffix, rfl, hsuffix, hbody⟩ := exists_append_of_le_length (by omega : 2 ≤ rtu.length)
    have hfull : 512 < [toBeBytes tid, modbusProto, toBeBytes (UInt16.ofNat body.length),
        body].flatten.length := by
      simp [modbusProto]
      omega
    unfold wrapMbap
    rw [if_neg (by omega), splitAt_append body suffix hsuffix]
    apply collect_of_lt hfull

theorem acceptsLength_tcpToRtu (tcp : List UInt8) : AcceptsLength 7 516 tcp.length (tcpToRtu tcp) := by
  apply acceptsLength (by decide)
  . intro hlt
    unfold tcpToRtu
    rw [dif_pos hlt]
  . intro hmin hmax
    have hfit : [tcp.drop 6, crc (tcp.drop 6)].flatten.length ≤ 512 := by
      simp
      omega
    obtain ⟨out, hout, _⟩ := collect_of_le hfit
    unfold tcpToRtu
    rw [dif_neg (by omega)]
    dsimp only
    rw [hout]
    exact ⟨_, rfl⟩
  . intro hgt
    have hfull : 512 < [tcp.drop 6, crc (tcp.drop 6)].flatten.length := by
      simp
      omega
    unfold tcpToRtu
    rw [dif_neg (by omega)]
    dsimp only
    rw [collect_of_lt hfull]

theorem tcpRespToRtu_cases (tcp : List UInt8) (expectedTid : UInt16)
    : (tcp.length < 7 ∧ tcpRespToRtu tcp expectedTid = .error .payloadTooShort)
        ∨ (7 ≤ tcp.length ∧ idField tcp ≠ expectedTid
            ∧ tcpRespToRtu tcp expectedTid = .error .invalidTransactionId)
        ∨ (7 ≤ tcp.length ∧ idField tcp = expectedTid ∧ tcp.length < 6 + (tcp.getD 5 0).toNat
            ∧ tcpRespToRtu tcp expectedTid = .error .payloadTooShort)
        ∨ (7 ≤ tcp.length ∧ idField tcp = expectedTid ∧ 6 + (tcp.getD 5 0).toNat ≤ tcp.length
            ∧ ∃ out, tcpRespToRtu tcp expectedTid = .ok out) := by
  unfold tcpRespToRtu
  split
  . next hlt => exact .inl ⟨hlt, rfl⟩
  . next hge =>
    have hid : fromBeBytes tcp[0] tcp[1] = idField tcp := by
      unfold idField
      rw [List.getD_eq_getElem _ _ (by omega), List.getD_eq_getElem _ _ (by omega)]
    have hlen : tcp[5] = tcp.getD 5 0 := (List.getD_eq_getElem _ _ (by omega)).symm
    rw [hid, hlen]
    dsimp only
    split
    . next hne => exact .inr (.inl ⟨by omega, hne, rfl⟩)
    . next heq =>
      have heq : idField tcp = expectedTid := by simpa using heq
      split
      . next hlt => exact .inr (.inr (.inl ⟨by omega, heq, hlt, rfl⟩))
      . next hle =>
        have hbyte : (tcp.getD 5 0).toNat < 256 := (tcp.getD 5 0).toNat_lt
        have hpdu : ((tcp.drop 6).take (tcp.getD 5 0).toNat).length ≤ 255 := by
          rw [List.length_take]
          omega
        have hfit : [(tcp.drop 6).take (tcp.getD 5 0).toNat,
            crc ((tcp.drop 6).take (tcp.getD 5 0).toNat)].flatten.length ≤ 512 := by
          simp only [List.flatten_cons, List.flatten_nil, List.length_append, length_crc, List.length_nil]
          omega
        obtain ⟨out, hout, _⟩ := collect_of_le hfit
        exact .inr (.inr (.inr ⟨by omega, heq, by omega, out, hout⟩))

theorem acceptsResponse (tcp : List UInt8) (expectedTid : UInt16) : AcceptsResponse tcp expectedTid := by
  obtain ⟨hlt, h⟩ | ⟨hge, hne, h⟩ | ⟨hge, heq, hlt, h⟩ | ⟨hge, heq, hle, out, h⟩ :=
    tcpRespToRtu_cases tcp expectedTid
  . constructor
    . rw [h]
      simp
      omega
    . rw [h]
      simp
      omega
    . rw [h]
      simp [hlt]
    . rw [h]
      simp
  . constructor
    . rw [h]
      simp [hne]
    . rw [h]
      simp [hge, hne]
    . rw [h]
      simp [hne]
      omega
    . rw [h]
      simp
  . constructor
    . rw [h]
      simp [-List.getD_eq_getElem?_getD]
      omega
    . rw [h]
      simp [heq]
    . rw [h]
      simp [-List.getD_eq_getElem?_getD, heq, hlt]
    . rw [h]
      simp
  . constructor
    . rw [h]
      simp [-List.getD_eq_getElem?_getD, hge, heq, hle]
    . rw [h]
      simp [heq]
    . rw [h]
      simp [-List.getD_eq_getElem?_getD, heq]
      omega
    . rw [h]
      simp

/--
For every slice, the framing functions do not panic, accept it exactly if its length is in their bounds, and
write the right length field.
-/
theorem framesExactly (slice : List UInt8) (tid : UInt16) : FramesExactly slice tid where
  noPanic := noPanic slice tid
  requestToTcp := acceptsLength_wrapMbap slice tid
  requestToRtu := acceptsLength_tcpToRtu slice
  responseToRtu := acceptsResponse slice tid
  responseToTcp := acceptsLength_wrapMbap slice tid
  header out hout := by
    have hwrap : wrapMbap slice tid = .ok out := hout.elim id id
    obtain ⟨body, _, _, _, _, hmax, hdata⟩ := wrapMbap_eq_ok hwrap
    rw [hdata, length_tcpFrame, lengthField_tcpFrame (by omega)]

end ModbusBridge
