import ModbusBridge.Spec.Layout

/-!
This module contains the lemmas about the pure framing functions: for which slices they succeed and
what they produce, in terms of the two frame formats.
-/

namespace ModbusBridge

section Bytes

@[simp]
theorem length_toBeBytes (v : UInt16) : (toBeBytes v).length = 2 := rfl

theorem toNat_fromBeBytes (hi lo : UInt8)
    : (fromBeBytes hi lo).toNat = 256 * hi.toNat + lo.toNat := by
  have hhi : hi.toNat < 256 := hi.toNat_lt
  have hlo : lo.toNat < 2 ^ 8 := lo.toNat_lt
  unfold fromBeBytes
  rw [UInt16.toNat_or]
  rw [UInt16.toNat_shiftLeft]
  rw [UInt8.toNat_toUInt16, UInt8.toNat_toUInt16]
  rw [show (8 : UInt16).toNat % 16 = 8 by decide, Nat.shiftLeft_eq]
  rw [Nat.mod_eq_of_lt (by omega)]
  rw [Nat.mul_comm]
  rw [← Nat.two_pow_add_eq_or_of_lt hlo]

theorem toBeBytes_eq (v : UInt16)
    : toBeBytes v = [UInt8.ofNat (v.toNat / 256), UInt8.ofNat v.toNat] := by
  unfold toBeBytes
  congr 1
  apply UInt8.toNat_inj.mp
  rw [UInt16.toNat_toUInt8, UInt16.toNat_shiftRight]
  simp [Nat.shiftRight_eq_div_pow]

theorem toBeBytes_fromBeBytes (hi lo : UInt8) : toBeBytes (fromBeBytes hi lo) = [hi, lo] := by
  have hlo : lo.toNat < 256 := lo.toNat_lt
  rw [toBeBytes_eq]
  rw [toNat_fromBeBytes]
  congr 1
  . rw [show (256 * hi.toNat + lo.toNat) / 256 = hi.toNat by omega]
    simp
  . congr 1
    apply UInt8.toNat_inj.mp
    rw [UInt8.toNat_ofNat']
    omega

theorem fromBeBytes_of_toBeBytes {v : UInt16} (h : toBeBytes v = [hi, lo])
    : fromBeBytes hi lo = v := by
  have hv : v.toNat < 65536 := v.toNat_lt
  rw [toBeBytes_eq] at h
  injection h with hhi h
  injection h with hlo
  apply UInt16.toNat_inj.mp
  rw [toNat_fromBeBytes]
  rw [← hhi, ← hlo]
  rw [UInt8.toNat_ofNat', UInt8.toNat_ofNat']
  omega

theorem getD_toList_append (v : Vector UInt8 n) (rest : List UInt8) (h : i < n)
    : (v.toList ++ rest).getD i 0 = v[i] := by
  rw [List.getD_eq_getElem?_getD]
  rw [List.getElem?_append_left (by simpa using h)]
  simp [h]

theorem getD_toList_append_right (v : Vector UInt8 n) (rest : List UInt8) (i : Nat)
    : (v.toList ++ rest).getD (n + i) 0 = rest.getD i 0 := by
  rw [List.getD_eq_getElem?_getD, List.getD_eq_getElem?_getD]
  rw [List.getElem?_append_right (by simp), Vector.length_toList, Nat.add_sub_cancel_left]

theorem exists_vector_append {l : List α} (h : n ≤ l.length)
    : ∃ (v : Vector α n) (rest : List α), l = v.toList ++ rest := by
  refine ⟨⟨(l.take n).toArray, by simp [h]⟩, l.drop n, ?_⟩
  simp

theorem toList_eq_singleton (v : Vector UInt8 1) : v.toList = [v.get 0] := by
  apply List.ext_getElem
  . simp
  . intro i h _
    have : i = 0 := by
      simp at h
      omega
    subst this
    rfl

end Bytes

section Mbap

@[simp]
theorem length_mbap (tid pid : UInt16) (n : Nat) : (mbap tid pid n).length = 6 := rfl

@[simp]
theorem length_tcpFrame (tid pid : UInt16) (body : List UInt8)
    : (tcpFrame tid pid body).length = 6 + body.length := by
  unfold tcpFrame
  simp

theorem drop_mbap_append (tid pid : UInt16) (n : Nat) (body : List UInt8)
    : (mbap tid pid n ++ body).drop 6 = body := by
  apply List.drop_left'
  simp

theorem drop_tcpFrame (tid pid : UInt16) (body : List UInt8) : (tcpFrame tid pid body).drop 6 = body :=
  drop_mbap_append tid pid body.length body

theorem exists_mbap (tid pid : UInt16) (n : Nat)
    : ∃ t₀ t₁ p₀ p₁ n₀ n₁, mbap tid pid n = [t₀, t₁, p₀, p₁, n₀, n₁]
        ∧ fromBeBytes t₀ t₁ = tid ∧ fromBeBytes n₀ n₁ = UInt16.ofNat n :=
  ⟨_, _, _, _, _, _, rfl, fromBeBytes_of_toBeBytes rfl, fromBeBytes_of_toBeBytes rfl⟩

theorem mbap_cases (tid pid : UInt16) (hn : n < 65536)
    : ∃ t₀ t₁ p₀ p₁ n₀ n₁, mbap tid pid n = [t₀, t₁, p₀, p₁, n₀, n₁]
        ∧ fromBeBytes t₀ t₁ = tid ∧ (fromBeBytes n₀ n₁).toNat = n := by
  obtain ⟨t₀, t₁, p₀, p₁, n₀, n₁, hmbap, htid, hlen⟩ := exists_mbap tid pid n
  refine ⟨t₀, t₁, p₀, p₁, n₀, n₁, hmbap, htid, ?_⟩
  rw [hlen]
  rw [UInt16.toNat_ofNat']
  omega

theorem lengthField_mbap_append (tid pid : UInt16) (hn : n < 65536) (body : List UInt8)
    : lengthField (mbap tid pid n ++ body) = n := by
  obtain ⟨t₀, t₁, p₀, p₁, n₀, n₁, hmbap, _, hlen⟩ := mbap_cases tid pid hn
  unfold lengthField
  rw [hmbap]
  simpa using hlen

theorem exists_tcpFrame {tcp : List UInt8} (hlen : tcp.length = 6 + lengthField tcp)
    : ∃ tid pid body, tcp = tcpFrame tid pid body := by
  match tcp, hlen with
  | t₀ :: t₁ :: p₀ :: p₁ :: n₀ :: n₁ :: body, hlen =>
    refine ⟨fromBeBytes t₀ t₁, fromBeBytes p₀ p₁, body, ?_⟩
    have hbody : body.length = (fromBeBytes n₀ n₁).toNat := by
      simp [lengthField] at hlen
      omega
    unfold tcpFrame mbap
    rw [hbody, UInt16.ofNat_toNat]
    rw [toBeBytes_fromBeBytes, toBeBytes_fromBeBytes, toBeBytes_fromBeBytes]
    simp
  | [], hlen | [_], hlen | [_, _], hlen | [_, _, _], hlen | [_, _, _, _], hlen
  | [_, _, _, _, _], hlen =>
    simp at hlen
    omega

theorem lengthField_tcpFrame {body : List UInt8} (h : body.length < 65536) (tid pid : UInt16)
    : lengthField (tcpFrame tid pid body) = body.length :=
  lengthField_mbap_append tid pid h body

theorem lengthField_nil : lengthField [] = 0 := rfl

theorem idField_tcpFrame (tid pid : UInt16) (body : List UInt8)
    : idField (tcpFrame tid pid body) = tid := by
  obtain ⟨t₀, t₁, p₀, p₁, n₀, n₁, hmbap, htid, _⟩ := exists_mbap tid pid body.length
  unfold idField tcpFrame
  rw [hmbap]
  apply htid

/--
A TCP frame tells where it ends, so that frames that lie one after the other can be told apart.
-/
theorem tcpFrame_append_inj {body body' x y : List UInt8} (hmax : body.length < 65536) (hmax' : body'.length < 65536)
    (h : tcpFrame tid pid body ++ x = tcpFrame tid' pid' body' ++ y) : tid = tid' ∧ body = body' ∧ x = y := by
  have hlength {tid pid body} (hmax : body.length < 65536) (rest : List UInt8)
      : lengthField (tcpFrame tid pid body ++ rest) = body.length := by
    unfold tcpFrame
    rw [List.append_assoc, lengthField_mbap_append tid pid hmax]
  have hlen : body.length = body'.length := by
    rw [← hlength hmax x, h, hlength hmax' y]
  obtain ⟨hframe, hxy⟩ := List.append_inj h (by simp [hlen])
  refine ⟨?_, ?_, hxy⟩
  . rw [← idField_tcpFrame tid pid body, hframe, idField_tcpFrame]
  . rw [← drop_tcpFrame tid pid body, hframe, drop_tcpFrame]

theorem not_tcpComplete_nil : ¬ TcpComplete [] := by
  unfold TcpComplete
  rw [lengthField_nil]
  decide

end Mbap

section Crc

@[simp]
theorem length_crc (data : List UInt8) : (crc data).length = 2 := rfl

@[simp]
theorem length_rtuFrame (body : List UInt8) : (rtuFrame body).length = body.length + 2 := by
  unfold rtuFrame
  simp

theorem take_rtuFrame (body : List UInt8)
    : (rtuFrame body).take ((rtuFrame body).length - 2) = body := by
  rw [length_rtuFrame, Nat.add_sub_cancel]
  apply List.take_left

theorem rtuFrame_inj (h : rtuFrame body = rtuFrame body') : body = body' := by
  rw [← take_rtuFrame body, h, take_rtuFrame]

theorem splitAt_append (body suffix : List UInt8) (h : suffix.length = 2)
    : (body ++ suffix).splitAt ((body ++ suffix).length - 2) = (body, suffix) := by
  rw [List.splitAt_eq]
  rw [List.length_append, h]
  simp

theorem exists_append_of_le_length {frame : List UInt8} (h : 2 ≤ frame.length)
    : ∃ body suffix, frame = body ++ suffix ∧ suffix.length = 2 ∧ body.length = frame.length - 2 := by
  refine ⟨frame.take (frame.length - 2), frame.drop (frame.length - 2), ?_, ?_, ?_⟩
  . simp
  . rw [List.length_drop]
    omega
  . rw [List.length_take]
    omega

theorem checkCrc_append {body suffix : List UInt8} (h : suffix.length = 2)
    : checkCrc (body ++ suffix)
        =
      if body.length < 2 then .error .payloadTooShort
      else if crc body = suffix then .ok () else .error .crc := by
  unfold checkCrc
  rw [splitAt_append body suffix h]
  have : (body ++ suffix).length < 4 ↔ body.length < 2 := by
    rw [List.length_append, h]
    omega
  simp only [this]

theorem checkCrc_rtuFrame {body : List UInt8} (h : 2 ≤ body.length)
    : checkCrc (rtuFrame body) = .ok () := by
  unfold rtuFrame
  rw [checkCrc_append (length_crc body)]
  rw [if_neg (by omega), if_pos rfl]

theorem checkCrc_eq_ite {frame : List UInt8} (h : 4 ≤ frame.length)
    : checkCrc frame =
        if crc (frame.take (frame.length - 2)) = frame.drop (frame.length - 2) then
          .ok ()
        else
          .error .crc := by
  unfold checkCrc
  rw [if_neg (by omega), List.splitAt_eq]

theorem checkCrc_of_length {frame : List UInt8} (h : 4 ≤ frame.length)
    : checkCrc frame = .ok () ∨ checkCrc frame = .error .crc := by
  rw [checkCrc_eq_ite h]
  split
  . exact .inl rfl
  . exact .inr rfl

theorem length_ge_of_checkCrc {frame : List UInt8} (h : checkCrc frame = .ok ()) : 4 ≤ frame.length := by
  unfold checkCrc at h
  split at h
  . contradiction
  . omega

theorem checkCrc_eq_ok {frame : List UInt8}
    : checkCrc frame = .ok () ↔ ∃ body, 2 ≤ body.length ∧ frame = rtuFrame body := by
  constructor
  . intro h
    by_cases hlen : frame.length < 4
    . unfold checkCrc at h
      rw [if_pos hlen] at h
      contradiction
    . obtain ⟨body, suffix, rfl, hsuffix, hbody⟩ := exists_append_of_le_length (by omega : 2 ≤ frame.length)
      rw [checkCrc_append hsuffix] at h
      split at h
      . contradiction
      . split at h
        . next hge hcrc =>
          refine ⟨body, by omega, ?_⟩
          unfold rtuFrame
          rw [hcrc]
        . contradiction
  . rintro ⟨body, hbody, rfl⟩
    apply checkCrc_rtuFrame hbody

end Crc

section Lengths

theorem requestLength_ge (rtu : List UInt8) : 8 ≤ requestLength rtu := by
  unfold requestLength
  split <;> omega

theorem rtuResponseRemaining_bounds (header : Vector UInt8 3)
    : 2 ≤ rtuResponseRemaining header ∧ rtuResponseRemaining header ≤ 257 := by
  have : header[2].toNat < 256 := header[2].toNat_lt
  unfold rtuResponseRemaining
  split
  . omega
  . split <;> omega

/--
The length of the part of a request that follows its first two bytes.
-/
def restLength (fc : UInt8) (rest : List UInt8) : Nat :=
  if fc = 0x0F ∨ fc = 0x10 then
    7 + (rest.getD 4 0).toNat
  else
    6

theorem requestLength_append {hdr : Vector UInt8 2} (hfc : hdr.get 1 = fc) (rest : List UInt8)
    : requestLength (hdr.toList ++ rest) = 2 + restLength fc rest := by
  unfold requestLength restLength
  rw [show (hdr.toList ++ rest).getD 1 0 = hdr.get 1 from getD_toList_append hdr rest (by omega), hfc]
  rw [show (hdr.toList ++ rest).getD 6 0 = _ from getD_toList_append_right hdr rest 4]
  split
  . omega
  . rfl

theorem responseLength_bounds (rtu : List UInt8)
    : 5 ≤ responseLength rtu ∧ responseLength rtu ≤ 260 := by
  have := rtuResponseRemaining_bounds #v[rtu.getD 0 0, rtu.getD 1 0, rtu.getD 2 0]
  unfold responseLength
  omega

theorem responseLength_eq (rtu : List UInt8)
    : responseLength rtu =
        if rtu.getD 1 0 ≥ 0x80 then 5
        else if rtu.getD 1 0 = 0x05 ∨ rtu.getD 1 0 = 0x06 ∨ rtu.getD 1 0 = 0x0F ∨ rtu.getD 1 0 = 0x10 then 8
        else 5 + (rtu.getD 2 0).toNat := by
  have hremaining : responseLength rtu
      = 3 + if rtu.getD 1 0 ≥ 0x80 then 2
        else if rtu.getD 1 0 = 0x05 ∨ rtu.getD 1 0 = 0x06 ∨ rtu.getD 1 0 = 0x0F ∨ rtu.getD 1 0 = 0x10 then 5
        else (rtu.getD 2 0).toNat + 2 := rfl
  rw [hremaining]
  split
  . rfl
  . split
    . rfl
    . omega

theorem responseLength_append (header : Vector UInt8 3) (rest : List UInt8)
    : responseLength (header.toList ++ rest) = 3 + rtuResponseRemaining header := by
  unfold responseLength
  rw [getD_toList_append header rest (by omega)]
  rw [getD_toList_append header rest (by omega)]
  rw [getD_toList_append header rest (by omega)]
  congr 2
  apply Vector.ext
  intro i h
  obtain rfl | rfl | rfl : i = 0 ∨ i = 1 ∨ i = 2 := by omega
  . rfl
  . rfl
  . rfl

theorem not_rtuComplete_nil : ¬ RtuComplete [] := by
  rintro ⟨hlen, _⟩
  have := responseLength_bounds []
  rw [List.length_nil] at hlen
  omega

end Lengths

section Layouts

theorem ResponseLayout.length_eq {body : List UInt8} (h : ResponseLayout body)
    : body.length + 2 = responseLength (rtuFrame body) := by
  cases h with
  | @read fc data unitId hcode hlen =>
    have hbyte : (UInt8.ofNat data.length).toNat = data.length := by
      rw [UInt8.toNat_ofNat']
      omega
    obtain ⟨hsmall, hecho⟩
        : ¬ fc ≥ 0x80 ∧ ¬ (fc = 0x05 ∨ fc = 0x06 ∨ fc = 0x0F ∨ fc = 0x10) := by
      simp only [readCodes, List.mem_cons, List.not_mem_nil, or_false] at hcode
      obtain rfl | rfl | rfl | rfl := hcode
      all_goals decide
    have hfc : (rtuFrame (unitId :: fc :: UInt8.ofNat data.length :: data)).getD 1 0 = fc := rfl
    have hcount : (rtuFrame (unitId :: fc :: UInt8.ofNat data.length :: data)).getD 2 0
        = UInt8.ofNat data.length := rfl
    rw [responseLength_eq, hfc, hcount, if_neg hsmall, if_neg hecho, hbyte]
    simp only [List.length_cons]
    omega
  | @echo fc unitId hcode b₂ b₃ b₄ b₅ =>
    obtain ⟨hsmall, hecho⟩
        : ¬ fc ≥ 0x80 ∧ (fc = 0x05 ∨ fc = 0x06 ∨ fc = 0x0F ∨ fc = 0x10) := by
      simp only [writeCodes, List.mem_cons, List.not_mem_nil, or_false] at hcode
      obtain rfl | rfl | rfl | rfl := hcode
      all_goals decide
    have hfc : (rtuFrame [unitId, fc, b₂, b₃, b₄, b₅]).getD 1 0 = fc := rfl
    rw [responseLength_eq, hfc, if_neg hsmall, if_pos hecho]
    rfl
  | @exception fc unitId hcode exceptionCode =>
    have hfc : (rtuFrame [unitId, fc, exceptionCode]).getD 1 0 = fc := rfl
    rw [responseLength_eq, hfc, if_pos hcode]
    rfl

theorem RequestLayout.length_eq {body : List UInt8} (h : RequestLayout body)
    : body.length + 2 = requestLength (rtuFrame body) := by
  unfold requestLength
  cases h with
  | @fixed fc unitId hcode b₂ b₃ b₄ b₅ =>
    have hfc : (rtuFrame [unitId, fc, b₂, b₃, b₄, b₅]).getD 1 0 = fc := rfl
    rw [hfc, if_neg (not_or.mpr hcode)]
    rfl
  | @counted fc data unitId hcode b₂ b₃ b₄ b₅ hlen =>
    have hbyte : (UInt8.ofNat data.length).toNat = data.length := by
      rw [UInt8.toNat_ofNat']
      omega
    let body := unitId :: fc :: b₂ :: b₃ :: b₄ :: b₅ :: UInt8.ofNat data.length :: data
    have hfc : (rtuFrame body).getD 1 0 = fc := rfl
    have hcount : (rtuFrame body).getD 6 0 = UInt8.ofNat data.length := rfl
    rw [hfc, hcount, if_pos hcode, hbyte]
    simp only [List.length_cons]
    omega

theorem RequestLayout.length_le {body : List UInt8} (h : RequestLayout body) : body.length ≤ 253 := by
  cases h with
  | fixed unitId hcode b₂ b₃ b₄ b₅ => simp
  | counted unitId hcode b₂ b₃ b₄ b₅ hlen =>
    simp only [List.length_cons]
    omega

theorem Transaction.ofRequest_parseRtuRequest {rtu : List UInt8} (h : 8 ≤ rtu.length)
    : Transaction.ofRequest (parseRtuRequest rtu) = Transaction.ofBytes rtu := by
  match rtu, h with
  | _ :: _ :: _ :: _ :: _ :: _ :: _ :: _ :: _, h =>
    unfold parseRtuRequest
    rw [dif_neg (by omega)]
    rfl

end Layouts

section Conversions

theorem collect_of_le {parts : List (List UInt8)} (h : parts.flatten.length ≤ 512)
    : ∃ out, collect parts = .ok out ∧ out.data = parts.flatten := by
  have hfit : (Heapless.Vec.empty : Heapless.Vec UInt8 512).data.length + parts.flatten.length ≤ 512 := by
    simpa using h
  obtain ⟨hok, hdata⟩ := Heapless.Vec.extendAll_of_le hfit
  unfold collect
  dsimp only
  rw [if_pos hok]
  exact ⟨_, rfl, by simpa using hdata⟩

theorem collect_eq_ok {parts : List (List UInt8)} (h : collect parts = .ok out)
    : parts.flatten.length ≤ 512 ∧ out.data = parts.flatten := by
  have hfit : parts.flatten.length ≤ 512 := by
    unfold collect at h
    dsimp only at h
    split at h
    . next hok => simpa using Heapless.Vec.length_le_of_extendAll hok
    . contradiction
  obtain ⟨out', hout, hdata⟩ := collect_of_le hfit
  rw [h] at hout
  injection hout with hout
  rw [hout]
  exact ⟨hfit, hdata⟩

theorem collect_of_lt {parts : List (List UInt8)} (h : 512 < parts.flatten.length)
    : collect parts = .error .conversionSlice := by
  unfold collect
  dsimp only
  rw [if_neg]
  intro hok
  have hfit := Heapless.Vec.length_le_of_extendAll hok
  rw [Heapless.Vec.data_empty, List.length_nil] at hfit
  omega

theorem wrapMbap_append {body suffix : List UInt8} (hsuffix : suffix.length = 2)
    (hmin : 2 ≤ body.length) (hmax : body.length ≤ 506) (tid : UInt16)
    : ∃ out, wrapMbap (body ++ suffix) tid = .ok out ∧ out.data = tcpFrame tid 0 body := by
  have hlen : ¬ (body ++ suffix).length < 4 := by
    rw [List.length_append]
    omega
  unfold wrapMbap
  rw [if_neg hlen]
  rw [splitAt_append body suffix hsuffix]
  have hfit : [toBeBytes tid, modbusProto, toBeBytes (UInt16.ofNat body.length), body].flatten.length
      ≤ 512 := by
    simp [modbusProto]
    omega
  obtain ⟨out, hout, hdata⟩ := collect_of_le hfit
  refine ⟨out, hout, ?_⟩
  rw [hdata]
  simp [tcpFrame, mbap, modbusProto, toBeBytes_eq]

theorem wrapMbap_rtuFrame {body : List UInt8} (hmin : 2 ≤ body.length) (hmax : body.length ≤ 506)
    (tid : UInt16)
    : ∃ out, wrapMbap (rtuFrame body) tid = .ok out ∧ out.data = tcpFrame tid 0 body :=
  wrapMbap_append (length_crc body) hmin hmax tid

/--
Only the last two bytes of a frame that is converted are dropped, whether or not they are its CRC.
-/
theorem wrapMbap_eq_ok {rtu : List UInt8} {out : TcpResponse} (h : wrapMbap rtu tid = .ok out)
    : ∃ body suffix, rtu = body ++ suffix ∧ suffix.length = 2 ∧ 2 ≤ body.length ∧ body.length ≤ 506
        ∧ out.data = tcpFrame tid 0 body := by
  unfold wrapMbap at h
  split at h
  . contradiction
  . next hlen =>
    obtain ⟨body, suffix, rfl, hsuffix, hbody⟩ :=
      exists_append_of_le_length (by omega : 2 ≤ rtu.length)
    rw [splitAt_append body suffix hsuffix] at h
    obtain ⟨hfit, hdata⟩ := collect_eq_ok h
    refine ⟨body, suffix, rfl, hsuffix, by omega, ?_, ?_⟩
    . simp [modbusProto] at hfit
      omega
    . rw [hdata]
      simp [tcpFrame, mbap, modbusProto, toBeBytes_eq]

theorem tcpToRtu_mbap_append {body : List UInt8} (hmin : 1 ≤ body.length)
    (hmax : body.length ≤ 510) (tid pid : UInt16) (hn : n < 65536)
    : ∃ out, tcpToRtu (mbap tid pid n ++ body) = .ok (out, tid) ∧ out.data = rtuFrame body := by
  obtain ⟨t₀, t₁, p₀, p₁, n₀, n₁, hmbap, htid, _⟩ := mbap_cases tid pid hn
  have hfit : [body, crc body].flatten.length ≤ 512 := by
    simp
    omega
  obtain ⟨out, hout, hdata⟩ := collect_of_le hfit
  unfold tcpToRtu
  rw [dif_neg (by rw [List.length_append, length_mbap]; omega)]
  refine ⟨out, ?_, by simpa [rtuFrame] using hdata⟩
  simp [hmbap, hout, htid]

theorem tcpToRtu_tcpFrame {body : List UInt8} (hmin : 1 ≤ body.length) (hmax : body.length ≤ 510)
    (tid pid : UInt16)
    : ∃ out, tcpToRtu (tcpFrame tid pid body) = .ok (out, tid) ∧ out.data = rtuFrame body :=
  tcpToRtu_mbap_append hmin hmax tid pid (by omega)

theorem tcpToRtu_mbap_nil (tid pid : UInt16) (n : Nat)
    : tcpToRtu (mbap tid pid n) = .error .payloadTooShort := by
  unfold tcpToRtu
  rw [dif_pos (by simp)]

theorem tcpRespToRtu_of_ne {body : List UInt8} (hmin : 1 ≤ body.length) (hmax : body.length ≤ 255)
    (pid : UInt16) (hne : tid ≠ expectedTid)
    : tcpRespToRtu (tcpFrame tid pid body) expectedTid = .error .invalidTransactionId := by
  obtain ⟨t₀, t₁, p₀, p₁, n₀, n₁, hmbap, htid, _⟩ :=
    mbap_cases (n := body.length) tid pid (by omega)
  unfold tcpRespToRtu
  rw [dif_neg (by rw [length_tcpFrame]; omega)]
  simp [tcpFrame, hmbap, htid, hne]

/--
Only the low byte of the length field is looked at, so a longer body is cut.
-/
theorem tcpRespToRtu_low {body : List UInt8} (hmin : 1 ≤ body.length) (hmax : body.length < 65536)
    (tid pid : UInt16)
    : ∃ out, tcpRespToRtu (tcpFrame tid pid body) tid = .ok out
        ∧ out.data = rtuFrame (body.take (body.length % 256)) := by
  obtain ⟨t₀, t₁, p₀, p₁, n₀, n₁, hmbap, htid, hlen⟩ := mbap_cases tid pid hmax
  have hlow : n₁.toNat = body.length % 256 := by
    have := n₁.toNat_lt
    rw [toNat_fromBeBytes] at hlen
    omega
  have hfit : [body.take (body.length % 256), crc (body.take (body.length % 256))].flatten.length
      ≤ 512 := by
    simp
    omega
  obtain ⟨out, hout, hdata⟩ := collect_of_le hfit
  unfold tcpRespToRtu
  rw [dif_neg (by rw [length_tcpFrame]; omega)]
  refine ⟨out, ?_, by simpa [rtuFrame] using hdata⟩
  simp [tcpFrame, hmbap, htid, hlow, hout]
  omega

theorem tcpRespToRtu_tcpFrame {body : List UInt8} (hmin : 1 ≤ body.length)
    (hmax : body.length ≤ 255) (tid pid : UInt16)
    : ∃ out, tcpRespToRtu (tcpFrame tid pid body) tid = .ok out ∧ out.data = rtuFrame body := by
  obtain ⟨out, hout, hdata⟩ := tcpRespToRtu_low hmin (by omega) tid pid
  rw [Nat.mod_eq_of_lt (by omega), List.take_length] at hdata
  exact ⟨out, hout, hdata⟩

end Conversions

end ModbusBridge
