import ModbusBridge.Lemmas.Frame
import ModbusBridge.Lemmas.ReadExact
import ModbusBridge.Lemmas.Rtu
import ModbusBridge.Lemmas.Tcp
import ModbusBridge.Lemmas.Trace

/-!
This module contains what is known about a frame that one of the receiving functions has returned, on
an arbitrary device: the frame is what the device delivered, and it has the layout it was read by.
-/

namespace ModbusBridge

open Effect EmbeddedIo Session

variable {S TS D SE TE : Type}

namespace Session

abbrev TcpReads (bytes : List UInt8) (s s' : Session S TS D SE TE) : Prop :=
  Yields Event.tcpRx bytes s s'

abbrev SerialReads (bytes : List UInt8) (s s' : Session S TS D SE TE) : Prop :=
  Yields Event.serialRx bytes s s'

/--
A run stopped because a read failed, hit the end of the stream or was dropped.
-/
def ReadStop : Stop (ModbusError SE TE) → Prop
  | .failed (.serial _) => True
  | .failed (.tcp _) => True
  | .failed .payloadTooShort => True
  | .failed _ => False
  | .dropped => True

theorem Port.read_brings [Device σ ε] (p : Port S TS D SE TE σ ε) {obs : Event SE TE → List UInt8}
    (hobs : ∀ e, obs (p.event e) = e.delivered) (n : Nat) (s : Session S TS D SE TE)
    : Yields obs (brought ((outcome (p.read n s)).map Subtype.val)) s (finalState (p.read n s)) := by
  refine ⟨_, p.trace_read n s, ?_⟩
  rw [List.flatMap_singleton, hobs]
  cases outcome (p.read n s) with
  | ok bytes => rfl
  | error e => rfl

theorem tcpRead_brings [Device TS TE] (n : Nat) (s : Session S TS D SE TE)
    : TcpReads (brought ((outcome (tcpRead n s)).map Subtype.val)) s (finalState (tcpRead n s)) :=
  tcpPort.read_brings (fun _ => rfl) n s

theorem serialRead_brings [Device S SE] (n : Nat) (s : Session S TS D SE TE)
    : SerialReads (brought ((outcome (serialRead n s)).map Subtype.val)) s (finalState (serialRead n s)) :=
  serialPort.read_brings (fun _ => rfl) n s

section PushBytes

variable {obs : Event SE TE → List UInt8} {readByte : Exec (Session S TS D SE TE) (ModbusError SE' TE') _}
  {s s' : Session S TS D SE TE} {buf : Heapless.Vec UInt8 cap}

theorem pushBytes_ok (hok : ∀ {s v s'}, readByte s = .ok v s' → Yields obs v.toList s s')
    (h : pushBytes readByte n buf s = .ok f s')
    : ∃ bytes, bytes.length = n ∧ f.data = buf.data ++ bytes ∧ Yields obs bytes s s' := by
  induction n generalizing buf s with
  | zero =>
    injection h with hf hs
    subst hf hs
    exact ⟨[], rfl, by simp, .refl s⟩
  | succ n ih =>
    unfold pushBytes at h
    simp only [Exec.bind_eq_ok, Exec.ofOption_eq_ok] at h
    obtain ⟨byte, s₁, hread, buf₁, s₂, ⟨hpush, rfl⟩, h⟩ := h
    obtain ⟨bytes, hlen, hdata, hreads⟩ := ih h
    refine ⟨byte.get 0 :: bytes, by simp [hlen], ?_, ?_⟩
    . rw [hdata, Heapless.Vec.extendFromSlice_eq_some hpush, List.append_assoc]
      rfl
    . have := (hok hread).trans hreads
      rwa [toList_eq_singleton byte] at this

theorem pushBytes_error (hok : ∀ {s v s'}, readByte s = .ok v s' → Yields obs v.toList s s')
    (herror : ∀ {s e s'}, readByte s = .error e s' → ReadStop e ∧ Yields obs [] s s')
    (h : pushBytes readByte n buf s = .error e s')
    : ∃ bytes, Yields obs bytes s s'
        ∧ ((e = .failed .push ∧ buf.data.length + bytes.length = cap + 1 ∧ bytes.length ≤ n)
          ∨ (ReadStop e ∧ buf.data.length + bytes.length ≤ cap ∧ bytes.length < n)) := by
  induction n generalizing buf s with
  | zero => contradiction
  | succ n ih =>
    unfold pushBytes at h
    rw [Exec.bind_eq_error] at h
    cases h with
    | inl hread =>
      obtain ⟨hstop, hreads⟩ := herror hread
      have := buf.length_le
      exact ⟨[], hreads, .inr ⟨hstop, by simpa using this, by simp⟩⟩
    | inr h =>
      obtain ⟨byte, s₁, hread, h⟩ := h
      have hbyte := hok hread
      rw [toList_eq_singleton byte] at hbyte
      cases hpush : buf.push (byte.get 0) with
      | none =>
        rw [hpush] at h
        injection h with he hs
        subst he hs
        -- The byte that does not fit has been read.
        have := Heapless.Vec.push_eq_none hpush
        exact ⟨_, hbyte, .inl ⟨rfl, by simp; omega, by simp⟩⟩
      | some buf₁ =>
        rw [hpush, Exec.bind_ok (Exec.ofOption_some _ _ _)] at h
        obtain ⟨bytes, hreads, hcases⟩ := ih h
        refine ⟨_, hbyte.trans hreads, ?_⟩
        rw [Heapless.Vec.extendFromSlice_eq_some hpush] at hcases
        simp only [List.length_append, List.length_singleton] at hcases ⊢
        cases hcases with
        | inl hcases => exact .inl ⟨hcases.1, by omega, by omega⟩
        | inr hcases => exact .inr ⟨hcases.1, by omega, by omega⟩

end PushBytes

end Session

section ReadsExactly

variable {read : (n : Nat) → Exec (Session S TS D SE TE) ε {bytes : List UInt8 // bytes.length ≤ n}}
  {s s' : Session S TS D SE TE}

/--
What one read shows of its answer, the reads that ask for what is missing show of all their answers.
-/
theorem stateAfter_yields {obs : Event SE TE → List β} {seen : Except (Stop ε) (List UInt8) → List β}
    (hread : ∀ n s, Yields obs (seen ((outcome (read n s)).map Subtype.val)) s (finalState (read n s)))
    (len : Nat) (s : Session S TS D SE TE) (k : Nat)
    : Yields obs ((answers read len s k).flatMap seen) s (stateAfter read len s k) := by
  induction k with
  | zero => apply Yields.refl
  | succ k ih =>
    rw [answers_succ, stateAfter_succ, List.flatMap_append]
    apply ih.trans
    rw [List.flatMap_singleton]
    apply hread

variable {obs : Event SE TE → List UInt8} {ioError : ε → ModbusError SE' TE'}

theorem ReadsExactly.of_ok {v : Vector UInt8 len} (h : ReadsExactly retries read ioError s (.ok v s'))
    (hread : ∀ n s, Yields obs (brought ((outcome (read n s)).map Subtype.val)) s (finalState (read n s)))
    : Yields obs v.toList s s' := by
  obtain ⟨n, r, hends, houtcome, hfinal⟩ := h
  rw [reported_eq_ok.mp houtcome.symm] at hends
  rw [finalState_ok] at hfinal
  rw [hfinal, ← hends.arrived_eq]
  apply stateAfter_yields hread

theorem ReadsExactly.of_error {x : EStateM.Result (Stop (ModbusError SE' TE')) _ (Vector UInt8 len)}
    (h : ReadsExactly retries read ioError s x) (hx : x = .error e s')
    (hio : ∀ e, ReadStop (.failed (ioError e)))
    (hread : ∀ n s, Yields obs (brought ((outcome (read n s)).map Subtype.val)) s (finalState (read n s)))
    : ReadStop e ∧ ∃ bytes, bytes.length < len ∧ Yields obs bytes s s' := by
  obtain ⟨n, r, hends, houtcome, hfinal⟩ := h
  rw [hx] at houtcome hfinal
  rw [finalState_error] at hfinal
  constructor
  . cases r with
    | full bytes => contradiction
    | eof =>
      injection houtcome with he
      rw [he]
      trivial
    | failed e' =>
      injection houtcome with he
      rw [he]
      apply hio
    | dropped =>
      injection houtcome with he
      rw [he]
      trivial
  . refine ⟨arrived (answers read len s n), ?_, ?_⟩
    . apply hends.length_arrived_lt
      rintro bytes rfl
      contradiction
    . rw [hfinal]
      apply stateAfter_yields hread

end ReadsExactly

namespace ModbusTcp

variable [Device TS TE]

variable {s s' : Session S TS D SE TE}

theorem readExact_ok (h : readExact len s = .ok v s') : TcpReads v.toList s s' := by
  have hreads := readExact_reads len s
  rw [h] at hreads
  apply hreads.of_ok tcpRead_brings

theorem readExact_error (h : readExact len s = .error e s')
    : ReadStop e ∧ ∃ bytes, bytes.length < len ∧ TcpReads bytes s s' := by
  apply (readExact_reads len s).of_error h _ tcpRead_brings
  intro e
  trivial

theorem readByte_error (h : readExact 1 s = .error e s') : ReadStop e ∧ TcpReads [] s s' := by
  obtain ⟨hstop, bytes, hlen, hreads⟩ := readExact_error h
  rw [List.eq_nil_of_length_eq_zero (by omega : bytes.length = 0)] at hreads
  exact ⟨hstop, hreads⟩

theorem listen_ok (h : listen s = .ok f s')
    : TcpReads f.data s s'
        ∧ ∃ tid pid body, f.data = tcpFrame tid pid body ∧ body.length ≤ 255 := by
  unfold listen at h
  simp only [Exec.bind_eq_ok, Exec.ofOption_eq_ok] at h
  obtain ⟨hdr, s₁, hread, req, s₂, ⟨hreq, rfl⟩, h⟩ := h
  obtain ⟨bytes, hlen, hdata, hreads⟩ := pushBytes_ok readExact_ok h
  have hdata : f.data = hdr.toList ++ bytes := by
    rw [hdata, Heapless.Vec.extendFromSlice_eq_some hreq]
    simp
  refine ⟨by rw [hdata]; exact (readExact_ok hread).trans hreads, ?_⟩
  have hfield : f.data.length = 6 + lengthField f.data := by
    unfold lengthField
    rw [hdata, getD_toList_append hdr bytes (by omega), getD_toList_append hdr bytes (by omega)]
    simp [hlen]
  obtain ⟨tid, pid, body, hf⟩ := exists_tcpFrame hfield
  have hcap := f.length_le
  rw [hf, length_tcpFrame] at hcap
  exact ⟨tid, pid, body, hf, by simp only [tcpBuf] at hcap; omega⟩

theorem listen_error (h : listen s = .error e s')
    : ∃ bytes, TcpReads bytes s s'
        ∧ ((e = .failed .push ∧ bytes.length = tcpBuf + 1 ∧ bytes.length ≤ 6 + lengthField bytes)
          ∨ (ReadStop e ∧ bytes.length ≤ tcpBuf ∧ bytes.length < 6 + lengthField bytes)) := by
  unfold listen at h
  rw [Exec.bind_eq_error] at h
  cases h with
  | inl hread =>
    obtain ⟨hstop, bytes, hlen, hreads⟩ := readExact_error hread
    have hbuf : tcpBuf = 261 := rfl
    exact ⟨bytes, hreads, .inr ⟨hstop, by omega, by omega⟩⟩
  | inr h =>
    obtain ⟨hdr, s₁, hread, h⟩ := h
    have hfit : hdr.toList.length ≤ tcpBuf := by simp [tcpBuf]
    obtain ⟨req, hreq, hdata⟩ := Heapless.Vec.extendFromSlice_empty hfit
    rw [hreq, Exec.bind_ok (Exec.ofOption_some _ _ _)] at h
    obtain ⟨bytes, hreads, hcases⟩ := pushBytes_error readExact_ok readByte_error h
    refine ⟨hdr.toList ++ bytes, (readExact_ok hread).trans hreads, ?_⟩
    have hfield : lengthField (hdr.toList ++ bytes) = (fromBeBytes hdr[4] hdr[5]).toNat := by
      unfold lengthField
      rw [getD_toList_append hdr bytes (by omega), getD_toList_append hdr bytes (by omega)]
    rw [hdata] at hcases
    rw [hfield, List.length_append, Vector.length_toList]
    rw [Vector.length_toList] at hcases
    cases hcases with
    | inl hcases => exact .inl ⟨hcases.1, by omega, by omega⟩
    | inr hcases => exact .inr ⟨hcases.1, by omega, by omega⟩

end ModbusTcp

namespace ModbusRtu

variable [Device S SE]

variable {s s' : Session S TS D SE TE}

theorem readExact_error (h : readExact len s = .error e s')
    : ReadStop e ∧ ∃ bytes, bytes.length < len ∧ SerialReads bytes s s' := by
  apply (readExact_reads len s).of_error h _ serialRead_brings
  intro e
  trivial

theorem readByte_error (h : readExact 1 s = .error e s') : ReadStop e ∧ SerialReads [] s s' := by
  obtain ⟨hstop, bytes, hlen, hreads⟩ := readExact_error h
  rw [List.eq_nil_of_length_eq_zero (by omega : bytes.length = 0)] at hreads
  exact ⟨hstop, hreads⟩

theorem readExact_ok (h : readExact len s = .ok v s') : SerialReads v.toList s s' := by
  have hreads := readExact_reads len s
  rw [h] at hreads
  apply hreads.of_ok serialRead_brings

theorem receive_ok (h : receive s = .ok r s')
    : SerialReads r.data s s' ∧ r.data.length = responseLength r.data
        ∧ ∃ body, 2 ≤ body.length ∧ r.data = rtuFrame body := by
  unfold receive at h
  simp only [Exec.bind_eq_ok, Exec.ofOption_eq_ok, Exec.mapErr_eq_ok, Exec.ofExcept_eq_ok] at h
  obtain ⟨header, s₁, hread, resp₀, s₂, ⟨hresp, rfl⟩, resp, s₃, hrest, _, s₄, ⟨hcrc, rfl⟩, h⟩ := h
  injection h with hr hs
  subst hr hs
  obtain ⟨bytes, hlen, hdata, hreads⟩ := pushBytes_ok readExact_ok hrest
  have hdata : resp.data = header.toList ++ bytes := by
    rw [hdata, Heapless.Vec.extendFromSlice_eq_some hresp]
    simp
  refine ⟨?_, ?_, checkCrc_eq_ok.mp hcrc⟩
  . rw [hdata]
    exact (readExact_ok hread).trans hreads
  . rw [hdata, responseLength_append]
    simp [hlen]

theorem receive.length_ge_of_pushBytes {header : Vector UInt8 3} {resp₀ resp : RtuResponse}
    (hresp : (Exec.ofOption .push ((Heapless.Vec.empty : RtuResponse).extendFromSlice header.toList)
      : Exec (Session S TS D SE TE) (ModbusError SE Empty) _) s = .ok resp₀ s₁)
    (hrest : pushBytes (readExact 1) (rtuResponseRemaining header) resp₀ s₁ = .ok resp s')
    : 4 ≤ resp.data.length := by
  obtain ⟨bytes, hlen, hdata, _⟩ := pushBytes_ok readExact_ok hrest
  rw [Exec.ofOption_eq_ok] at hresp
  rw [hdata, Heapless.Vec.extendFromSlice_eq_some hresp.1]
  have := rtuResponseRemaining_bounds header
  simp only [List.length_append, Vector.length_toList]
  omega

theorem receive_error (h : receive s = .error e s')
    : ∃ bytes, SerialReads bytes s s'
        ∧ ((e = .failed .crc ∧ bytes.length = responseLength bytes ∧ checkCrc bytes = .error .crc)
          ∨ (ReadStop e ∧ bytes.length < responseLength bytes)) := by
  unfold receive at h
  rw [Exec.bind_eq_error] at h
  cases h with
  | inl hread =>
    obtain ⟨hstop, bytes, hlen, hreads⟩ := readExact_error hread
    have := responseLength_bounds bytes
    exact ⟨bytes, hreads, .inr ⟨hstop, by omega⟩⟩
  | inr h =>
    obtain ⟨header, s₁, hread, h⟩ := h
    have hfit : header.toList.length ≤ 512 := by simp
    obtain ⟨resp₀, hresp, hdata₀⟩ := Heapless.Vec.extendFromSlice_empty hfit
    have hbounds := rtuResponseRemaining_bounds header
    have hlen₀ : resp₀.data.length = 3 := by
      rw [hdata₀]
      simp
    rw [hresp, Exec.bind_ok (Exec.ofOption_some _ _ _), Exec.bind_eq_error] at h
    cases h with
    | inl hrest =>
      obtain ⟨bytes, hreads, hcases⟩ := pushBytes_error readExact_ok readByte_error hrest
      refine ⟨header.toList ++ bytes, (readExact_ok hread).trans hreads, ?_⟩
      rw [responseLength_append, List.length_append, Vector.length_toList]
      cases hcases with
      | inl hcases => omega
      | inr hcases => exact .inr ⟨hcases.1, by omega⟩
    | inr h =>
      obtain ⟨resp, s₂, hrest, h⟩ := h
      obtain ⟨bytes, hlen, hdata, hreads⟩ := pushBytes_ok readExact_ok hrest
      rw [hdata₀] at hdata
      have hcomplete : resp.data.length = responseLength resp.data := by
        rw [hdata, responseLength_append]
        simp [hlen]
      have hbounds := responseLength_bounds resp.data
      have hreads : SerialReads resp.data s s₂ := by
        rw [hdata]
        apply (readExact_ok hread).trans hreads
      cases checkCrc_of_length (by omega : 4 ≤ resp.data.length) with
      | inl hcrc =>
        rw [hcrc] at h
        contradiction
      | inr hcrc =>
        rw [hcrc] at h
        injection h with he hs
        subst he hs
        exact ⟨resp.data, hreads, .inl ⟨rfl, hcomplete, hcrc⟩⟩

theorem listen.listenRest_ok (h : listenRest fc req s = .ok f s')
    : ∃ bytes, f.data = req.data ++ bytes ∧ SerialReads bytes s s'
        ∧ bytes.length = restLength fc bytes := by
  unfold listenRest at h
  unfold restLength
  split at h
  . next hfc =>
    simp only [Exec.bind_eq_ok, Exec.ofOption_eq_ok] at h
    obtain ⟨fixed, s₁, hread, req₁, s₂, ⟨hreq, rfl⟩, h⟩ := h
    obtain ⟨bytes, hlen, hdata, hreads⟩ := pushBytes_ok readExact_ok h
    refine ⟨fixed.toList ++ bytes, ?_, (readExact_ok hread).trans hreads, ?_⟩
    . rw [hdata, Heapless.Vec.extendFromSlice_eq_some hreq, List.append_assoc]
    . rw [if_pos hfc, getD_toList_append fixed bytes (by omega)]
      simp [hlen]
      omega
  . next hfc =>
    simp only [Exec.bind_eq_ok, Exec.ofOption_eq_ok] at h
    obtain ⟨rest, s₁, hread, hreq, rfl⟩ := h
    refine ⟨rest.toList, Heapless.Vec.extendFromSlice_eq_some hreq, readExact_ok hread, ?_⟩
    rw [if_neg hfc]
    simp

theorem listen.length_ge_of_listenRest (h : listenRest fc req s = .ok f s') : 4 ≤ f.data.length := by
  obtain ⟨bytes, hdata, _, hlen⟩ := listen.listenRest_ok h
  rw [hdata, List.length_append, hlen]
  unfold restLength
  split
  . omega
  . omega

theorem listen_ok (h : listen s = .ok f s')
    : SerialReads f.data s s' ∧ f.data.length = requestLength f.data
        ∧ ∃ body, 2 ≤ body.length ∧ f.data = rtuFrame body := by
  unfold listen at h
  simp only [Exec.bind_eq_ok, Exec.ofOption_eq_ok, Exec.mapErr_eq_ok, Exec.ofExcept_eq_ok] at h
  obtain ⟨hdr, s₁, hread, req₀, s₂, ⟨hreq, rfl⟩, req, s₃, hrest, _, s₄, ⟨hcrc, rfl⟩, h⟩ := h
  injection h with hf hs
  subst hf hs
  obtain ⟨bytes, hdata, hreads, hlen⟩ := listen.listenRest_ok hrest
  have hdata : req.data = hdr.toList ++ bytes := by
    rw [hdata, Heapless.Vec.extendFromSlice_eq_some hreq]
    simp
  refine ⟨?_, ?_, checkCrc_eq_ok.mp hcrc⟩
  . rw [hdata]
    exact (readExact_ok hread).trans hreads
  . rw [hdata, requestLength_append (show hdr.get 1 = hdr[1] from rfl), List.length_append, hlen, Vector.length_toList]

theorem listen.listenRest_error (hreq : req.data.length = 2) (h : listenRest fc req s = .error e s')
    : ∃ bytes, SerialReads bytes s s'
        ∧ ((e = .failed .push ∧ 2 + bytes.length = rtuBuf + 1 ∧ bytes.length ≤ restLength fc bytes)
          ∨ (ReadStop e ∧ bytes.length < restLength fc bytes ∧ 2 + bytes.length ≤ rtuBuf)) := by
  have hbuf : rtuBuf = 255 := rfl
  unfold listenRest at h
  unfold restLength
  split at h
  . next hfc =>
    rw [Exec.bind_eq_error] at h
    simp only [if_pos hfc]
    cases h with
    | inl hread =>
      obtain ⟨hstop, bytes, hlen, hreads⟩ := readExact_error hread
      exact ⟨bytes, hreads, .inr ⟨hstop, by omega, by omega⟩⟩
    | inr h =>
      obtain ⟨fixed, s₁, hread, h⟩ := h
      have hfit : req.data.length + fixed.toList.length ≤ rtuBuf := by
        rw [hreq, Vector.length_toList]
        decide
      obtain ⟨req₁, hreq₁, hdata⟩ := Heapless.Vec.extendFromSlice_of_le hfit
      rw [hreq₁, Exec.bind_ok (Exec.ofOption_some _ _ _)] at h
      obtain ⟨bytes, hreads, hcases⟩ := pushBytes_error readExact_ok readByte_error h
      refine ⟨fixed.toList ++ bytes, (readExact_ok hread).trans hreads, ?_⟩
      rw [hdata, List.length_append, hreq, Vector.length_toList] at hcases
      rw [getD_toList_append fixed bytes (by omega), List.length_append, Vector.length_toList]
      cases hcases with
      | inl hcases => exact .inl ⟨hcases.1, by omega, by omega⟩
      | inr hcases => exact .inr ⟨hcases.1, by omega, by omega⟩
  . next hfc =>
    rw [Exec.bind_eq_error] at h
    simp only [if_neg hfc]
    cases h with
    | inl hread =>
      obtain ⟨hstop, bytes, hlen, hreads⟩ := readExact_error hread
      exact ⟨bytes, hreads, .inr ⟨hstop, hlen, by omega⟩⟩
    | inr h =>
      obtain ⟨rest, s₁, hread, h⟩ := h
      have hfit : req.data.length + rest.toList.length ≤ rtuBuf := by
        rw [hreq, Vector.length_toList]
        decide
      obtain ⟨req₁, hreq₁, _⟩ := Heapless.Vec.extendFromSlice_of_le hfit
      rw [hreq₁] at h
      contradiction

/--
A request is refused because its CRC does not match, because it does not fit into the buffer, or because
it has not arrived as a whole.
-/
theorem listen_error (h : listen s = .error e s')
    : ∃ bytes, SerialReads bytes s s'
        ∧ ((e = .failed .crc ∧ bytes.length = requestLength bytes ∧ bytes.length ≤ rtuBuf
            ∧ checkCrc bytes = .error .crc)
          ∨ (e = .failed .push ∧ bytes.length = rtuBuf + 1 ∧ bytes.length ≤ requestLength bytes)
          ∨ (ReadStop e ∧ bytes.length < requestLength bytes ∧ bytes.length ≤ rtuBuf)) := by
  have hbuf : rtuBuf = 255 := rfl
  unfold listen at h
  rw [Exec.bind_eq_error] at h
  cases h with
  | inl hread =>
    obtain ⟨hstop, bytes, hlen, hreads⟩ := readExact_error hread
    have := requestLength_ge bytes
    exact ⟨bytes, hreads, .inr (.inr ⟨hstop, by omega, by omega⟩)⟩
  | inr h =>
    obtain ⟨hdr, s₁, hread, h⟩ := h
    have hfit : hdr.toList.length ≤ rtuBuf := by simp [rtuBuf]
    obtain ⟨req₀, hreq₀, hdata₀⟩ := Heapless.Vec.extendFromSlice_empty hfit
    have hlen₀ : req₀.data.length = 2 := by
      rw [hdata₀]
      simp
    rw [hreq₀, Exec.bind_ok (Exec.ofOption_some _ _ _), Exec.bind_eq_error] at h
    cases h with
    | inl hrest =>
      obtain ⟨bytes, hreads, hcases⟩ := listen.listenRest_error hlen₀ hrest
      refine ⟨hdr.toList ++ bytes, (readExact_ok hread).trans hreads, .inr ?_⟩
      rw [requestLength_append (show hdr.get 1 = hdr[1] from rfl), List.length_append, Vector.length_toList]
      cases hcases with
      | inl hcases => exact .inl ⟨hcases.1, hcases.2.1, by omega⟩
      | inr hcases => exact .inr ⟨hcases.1, by omega, by omega⟩
    | inr h =>
      obtain ⟨req, s₂, hrest, h⟩ := h
      obtain ⟨bytes, hdata, hreads, hlen⟩ := listen.listenRest_ok hrest
      rw [hdata₀] at hdata
      have hcomplete : req.data.length = requestLength req.data := by
        rw [hdata, requestLength_append (show hdr.get 1 = hdr[1] from rfl), List.length_append, hlen,
          Vector.length_toList]
      have hge := requestLength_ge req.data
      have hreads : SerialReads req.data s s₂ := by
        rw [hdata]
        apply (readExact_ok hread).trans hreads
      cases checkCrc_of_length (by omega : 4 ≤ req.data.length) with
      | inl hcrc =>
        rw [hcrc] at h
        contradiction
      | inr hcrc =>
        rw [hcrc] at h
        injection h with he hs
        subst he hs
        exact ⟨req.data, hreads, .inl ⟨rfl, hcomplete, req.length_le, hcrc⟩⟩

end ModbusRtu

end ModbusBridge
