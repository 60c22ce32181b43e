import ModbusBridge.Effect.Triples
import ModbusBridge.Lemmas.Frame
import ModbusBridge.Lemmas.Rtu
import ModbusBridge.Lemmas.Tcp
import ModbusBridge.Lemmas.Trace
import ModbusBridge.Spec.View

/-!
This module contains the triples of the two transports on lossless devices: how a frame that lies ready
on one of the inputs is received, and how a frame is sent.
-/

namespace ModbusBridge

open Effect EmbeddedIo Session
open Exec (Ends)

variable {S TS D SE TE : Type}

theorem pushBytes_ends (inv : List UInt8 → σ → Prop)
    {readByte : Exec σ (ModbusError SE TE) (Vector UInt8 1)}
    (hread : ∀ byte rest, Ends (inv (byte :: rest)) readByte (.ok #v[byte]) (inv rest))
    {bytes : List UInt8} (rest : List UInt8) {buf f : Heapless.Vec UInt8 cap}
    (hf : f.data = buf.data ++ bytes)
    : Ends (inv (bytes ++ rest)) (pushBytes readByte bytes.length buf) (.ok f) (inv rest) := by
  induction bytes generalizing buf with
  | nil =>
    rw [List.append_nil] at hf
    rw [← Heapless.Vec.ext hf]
    apply Ends.pure
  | cons byte bytes ih =>
    have hcap := f.length_le
    rw [hf, List.length_append, List.length_cons] at hcap
    obtain ⟨buf₁, hpush, hdata⟩ := Heapless.Vec.push_of_lt (by omega : buf.data.length < cap) byte
    unfold pushBytes
    apply Ends.bind (hread byte (bytes ++ rest))
    apply Ends.bind (Ends.ofOption _ hpush)
    apply ih
    rw [hf, hdata, List.append_assoc]
    rfl

theorem pushBytes_overflow (inv : List UInt8 → σ → Prop)
    {readByte : Exec σ (ModbusError SE TE) (Vector UInt8 1)}
    (hread : ∀ byte rest, Ends (inv (byte :: rest)) readByte (.ok #v[byte]) (inv rest))
    {bytes : List UInt8} (rest : List UInt8) {buf : Heapless.Vec UInt8 cap} (hle : bytes.length ≤ n)
    (hover : buf.data.length + bytes.length = cap + 1)
    : Ends (inv (bytes ++ rest)) (pushBytes readByte n buf) (.error (.failed .push)) (inv rest) := by
  induction bytes generalizing n buf with
  | nil =>
    have := buf.length_le
    rw [List.length_nil] at hover
    omega
  | cons byte bytes ih =>
    rw [List.length_cons] at hle hover
    obtain ⟨n, rfl⟩ := Nat.exists_eq_succ_of_ne_zero (by omega : n ≠ 0)
    unfold pushBytes
    apply Ends.bind (hread byte (bytes ++ rest))
    cases bytes with
    | nil =>
      -- The last byte is still read, and then there is no room for it.
      apply Ends.bind_error
      apply Ends.ofOption_none
      apply Heapless.Vec.push_full
      rw [List.length_nil] at hover
      omega
    | cons byte' bytes =>
      rw [List.length_cons] at hle hover ih
      obtain ⟨buf₁, hpush, hdata⟩ := Heapless.Vec.push_of_lt (by omega : buf.data.length < cap) byte
      apply Ends.bind (Ends.ofOption _ hpush)
      apply ih (by omega)
      rw [hdata, List.length_append, List.length_singleton]
      omega

theorem pushBytes_short (inv : List UInt8 → σ → Prop)
    {readByte : Exec σ (ModbusError SE TE) (Vector UInt8 1)}
    (hread : ∀ byte rest, Ends (inv (byte :: rest)) readByte (.ok #v[byte]) (inv rest))
    (hend : Ends (inv []) readByte (.error (.failed .payloadTooShort)) (inv []))
    {bytes : List UInt8} {buf : Heapless.Vec UInt8 cap} (hlt : bytes.length < n)
    (hfit : buf.data.length + bytes.length ≤ cap)
    : Ends (inv bytes) (pushBytes readByte n buf) (.error (.failed .payloadTooShort)) (inv []) := by
  induction bytes generalizing n buf with
  | nil =>
    obtain ⟨n, rfl⟩ := Nat.exists_eq_succ_of_ne_zero (by omega : n ≠ 0)
    unfold pushBytes
    apply Ends.bind_error hend
  | cons byte bytes ih =>
    rw [List.length_cons] at hlt hfit
    obtain ⟨n, rfl⟩ := Nat.exists_eq_succ_of_ne_zero (by omega : n ≠ 0)
    obtain ⟨buf₁, hpush, hdata⟩ := Heapless.Vec.push_of_lt (by omega : buf.data.length < cap) byte
    unfold pushBytes
    apply Ends.bind (hread byte bytes)
    apply Ends.bind (Ends.ofOption _ hpush)
    apply ih (by omega)
    rw [hdata, List.length_append, List.length_singleton]
    omega

/--
If each write adds what it has taken to what has been sent, everything has been sent in the end.
-/
theorem writeAll_sends (sent : List UInt8 → σ → Prop)
    {write : (buf : List UInt8) → buf ≠ [] → Exec σ ε {n : Nat // 0 < n ∧ n ≤ buf.length}}
    (hwrite : ∀ out s buf hbuf, sent out s → ∃ n s', write buf hbuf s = .ok n s' ∧ sent (out ++ buf.take n.val) s')
    (data out : List UInt8) (h : sent out s)
    : ∃ s', writeAll write data s = .ok () s' ∧ sent (out ++ data) s' := by
  unfold writeAll
  split
  . next hnil =>
    rw [hnil, List.append_nil]
    exact ⟨s, rfl, h⟩
  . next hne =>
    obtain ⟨n, s₁, hn, h₁⟩ := hwrite out s data hne h
    obtain ⟨s₂, hrest, h₂⟩ := writeAll_sends sent hwrite (data.drop n.val) _ h₁
    rw [Exec.bind_ok hn]
    rw [List.append_assoc, List.take_append_drop] at h₂
    exact ⟨s₂, hrest, h₂⟩
termination_by data.length
decreasing_by
  have := n.property
  simp only [List.length_drop]
  omega

/--
What the CRC check of a frame makes of it.
-/
def checked (f : Heapless.Vec UInt8 cap) : Except (Stop (ModbusError SE TE)) (Heapless.Vec UInt8 cap) :=
  match checkCrc f.data with
  | .ok () => .ok f
  | .error e => .error (.failed e.intoCombined)

theorem checked_ok {f : Heapless.Vec UInt8 cap} (hcrc : checkCrc f.data = .ok ())
    : (checked f : Except (Stop (ModbusError SE TE)) _) = .ok f := by
  rw [checked, hcrc]

theorem check_ends (P : σ → Prop) (f : Heapless.Vec UInt8 cap)
    : Ends P
        (do
          Exec.mapErr FrameError.intoCombined (Exec.ofExcept (checkCrc f.data))
          pure f : Exec σ (ModbusError SE TE) (Heapless.Vec UInt8 cap))
        (checked f) P := by
  unfold checked
  cases hcrc : checkCrc f.data with
  | ok _ =>
    apply Ends.bind
    . apply Ends.mapErr_ok
      apply Ends.ofExcept rfl
    apply Ends.pure
  | error e =>
    apply Ends.bind_error
    apply Ends.mapErr_error (e := .failed e)
    apply Ends.fail

namespace Session

section Operations

variable [Device S SE] [Device TS TE] [Lossless S] [Lossless TS] {srx trx stx ttx : List UInt8}
  {tid : UInt16} {s : Session S TS D SE TE}

theorem At.serialStep (h : At ⟨srx, trx, stx, ttx, tid⟩ s) {p : S} {e : IoEvent SE}
    (hrx : Lossless.rx p = srx') (hfaults : Lossless.faults p ≤ Lossless.faults s.serial)
    (htx : stx ++ e.accepted = stx')
    : At ⟨srx', trx, stx', ttx, tid⟩ { s with serial := p, trace := s.trace ++ [.serial e] } where
  serialRx := hrx
  tcpRx := h.tcpRx
  serialTx := by
    unfold Trace.serialTx
    rw [List.flatMap_append, List.flatMap_singleton, show s.trace.flatMap _ = _ from h.serialTx]
    apply htx
  tcpTx := by
    unfold Trace.tcpTx
    rw [List.flatMap_append, List.flatMap_singleton, show s.trace.flatMap _ = _ from h.tcpTx]
    apply List.append_nil
  transactionId := h.transactionId
  faults := Nat.le_trans hfaults h.faults
  steady := h.steady
  deadline := h.deadline

theorem At.tcpStep (h : At ⟨srx, trx, stx, ttx, tid⟩ s) {p : TS} {e : IoEvent TE}
    (hrx : Lossless.rx p = trx') (hfaults : Lossless.faults p ≤ Lossless.faults s.stream)
    (htx : ttx ++ e.accepted = ttx')
    : At ⟨srx, trx', stx, ttx', tid⟩ { s with stream := p, trace := s.trace ++ [.tcp e] } where
  serialRx := h.serialRx
  tcpRx := hrx
  serialTx := by
    unfold Trace.serialTx
    rw [List.flatMap_append, List.flatMap_singleton, show s.trace.flatMap _ = _ from h.serialTx]
    apply List.append_nil
  tcpTx := by
    unfold Trace.tcpTx
    rw [List.flatMap_append, List.flatMap_singleton, show s.trace.flatMap _ = _ from h.tcpTx]
    apply htx
  transactionId := h.transactionId
  faults := h.faults
  steady := Nat.eq_zero_of_le_zero (Nat.le_trans hfaults (Nat.le_of_eq h.steady))
  deadline := h.deadline

theorem tcpRead_lossless (h : At ⟨srx, trx, stx, ttx, tid⟩ s) (hpos : 0 < n)
    : ∃ chunk s' rest, tcpRead n s = .ok chunk s' ∧ trx = chunk.val ++ rest
        ∧ (trx ≠ [] → chunk.val ≠ []) ∧ At ⟨srx, rest, stx, ttx, tid⟩ s' := by
  have htrx : Lossless.rx s.stream = trx := h.tcpRx
  unfold tcpRead Port.read
  cases hresult : (Device.read s.stream n).result with
  | ok chunk =>
    obtain ⟨hrx, hle⟩ := Lossless.read_ok hresult
    rw [htrx] at hrx
    refine ⟨chunk, _, _, tcpPort.perform_ok h.deadline hresult _, hrx, ?_, ?_⟩
    . rw [← htrx]
      apply Lossless.read_ne_nil hresult hpos
    . apply h.tcpStep rfl hle
      apply List.append_nil
  | error e =>
    have hlt := (Lossless.read_error hresult).2
    rw [h.steady] at hlt
    contradiction

theorem serialRead_lossless (h : At ⟨srx, trx, stx, ttx, tid⟩ s) (hpos : 0 < n)
    : (∃ chunk s' rest, serialRead n s = .ok chunk s' ∧ srx = chunk.val ++ rest
          ∧ (srx ≠ [] → chunk.val ≠ []) ∧ At ⟨rest, trx, stx, ttx, tid⟩ s'
          ∧ Lossless.faults s'.serial ≤ Lossless.faults s.serial)
        ∨ (∃ e s', serialRead n s = .error (.failed e) s' ∧ At ⟨srx, trx, stx, ttx, tid⟩ s'
          ∧ Lossless.faults s'.serial < Lossless.faults s.serial) := by
  have hsrx : Lossless.rx s.serial = srx := h.serialRx
  unfold serialRead Port.read
  cases hresult : (Device.read s.serial n).result with
  | ok chunk =>
    left
    obtain ⟨hrx, hle⟩ := Lossless.read_ok hresult
    rw [hsrx] at hrx
    refine ⟨chunk, _, _, serialPort.perform_ok h.deadline hresult _, hrx, ?_, ?_, hle⟩
    . rw [← hsrx]
      apply Lossless.read_ne_nil hresult hpos
    . apply h.serialStep rfl hle
      apply List.append_nil
  | error e =>
    right
    obtain ⟨hrx, hlt⟩ := Lossless.read_error hresult
    rw [hsrx] at hrx
    refine ⟨e, _, serialPort.perform_failed h.deadline hresult _, ?_, hlt⟩
    apply h.serialStep hrx (Nat.le_of_lt hlt)
    apply List.append_nil

theorem tcpWrite_lossless (h : At ⟨srx, trx, stx, ttx, tid⟩ s) (buf : List UInt8) (hbuf : buf ≠ [])
    : ∃ n s', tcpWrite buf hbuf s = .ok n s' ∧ At ⟨srx, trx, stx, ttx ++ buf.take n.val, tid⟩ s' := by
  obtain ⟨⟨n, hresult⟩, hrx, hle⟩ := Lossless.write_ok s.stream buf hbuf
  unfold tcpWrite Port.write
  refine ⟨n, _, tcpPort.perform_ok h.deadline hresult _, ?_⟩
  apply h.tcpStep (hrx.trans h.tcpRx) hle
  rfl

theorem serialWrite_lossless (h : At ⟨srx, trx, stx, ttx, tid⟩ s) (buf : List UInt8) (hbuf : buf ≠ [])
    : ∃ n s', serialWrite buf hbuf s = .ok n s' ∧ At ⟨srx, trx, stx ++ buf.take n.val, ttx, tid⟩ s' := by
  obtain ⟨⟨n, hresult⟩, hrx, hle⟩ := Lossless.write_ok s.serial buf hbuf
  unfold serialWrite Port.write
  refine ⟨n, _, serialPort.perform_ok h.deadline hresult _, ?_⟩
  apply h.serialStep (hrx.trans h.serialRx) hle
  rfl

theorem serialFlush_ends
    : Ends (At ⟨srx, trx, stx, ttx, tid⟩)
        (serialFlush : Exec (Session S TS D SE TE) SE Unit) (.ok ()) (At ⟨srx, trx, stx, ttx, tid⟩) := by
  apply Ends.of_eq_ok
  intro s h
  obtain ⟨hresult, hrx, hle⟩ := Lossless.flush_ok s.serial
  unfold serialFlush Port.flush
  refine ⟨_, serialPort.perform_ok h.deadline hresult _, ?_⟩
  apply h.serialStep (hrx.trans h.serialRx) hle
  apply List.append_nil

theorem At.mark (h : At v s) {e : Event SE TE} (hserial : e.serialTx = []) (htcp : e.tcpTx = [])
    (high : Bool) : At v { s with txEn := high, trace := s.trace ++ [e] } where
  serialRx := h.serialRx
  tcpRx := h.tcpRx
  serialTx := by
    unfold Trace.serialTx
    rw [List.flatMap_append, List.flatMap_singleton, hserial, List.append_nil]
    apply h.serialTx
  tcpTx := by
    unfold Trace.tcpTx
    rw [List.flatMap_append, List.flatMap_singleton, htcp, List.append_nil]
    apply h.tcpTx
  transactionId := h.transactionId
  faults := h.faults
  steady := h.steady
  deadline := h.deadline

theorem setTxEn_ends (high : Bool)
    : Ends (At v) (setTxEn high : Exec (Session S TS D SE TE) ε Unit) (.ok ()) (At v) := by
  intro s h
  exact ⟨rfl, h.mark rfl rfl high⟩

theorem note_ends {e : Event SE TE} (hserial : e.serialTx = []) (htcp : e.tcpTx = [])
    : Ends (At v) (note e : Exec (Session S TS D SE TE) ε Unit) (.ok ()) (At v) := by
  intro s h
  exact ⟨rfl, h.mark hserial htcp s.txEn⟩

end Operations

section Conserves

variable [Device S SE] [Lossless S]

/--
Nothing gets lost on its way in: what there was to be read on the serial port has been delivered, or it is
still there.
-/
def Conserves (s s' : Session S TS D SE TE) : Prop :=
  s.deadline = none → s'.deadline = none
    ∧ ∃ seen, Yields Event.serialRx seen s s' ∧ Lossless.rx s.serial = seen ++ Lossless.rx s'.serial

instance : IsPreorder (Session S TS D SE TE) Conserves where
  refl s hidle := ⟨hidle, [], .refl s, rfl⟩
  trans s s₁ s₂ h₁ h₂ hidle := by
    obtain ⟨hidle₁, seen₁, hreads₁, hrx₁⟩ := h₁ hidle
    obtain ⟨hidle₂, seen₂, hreads₂, hrx₂⟩ := h₂ hidle₁
    refine ⟨hidle₂, seen₁ ++ seen₂, hreads₁.trans hreads₂, ?_⟩
    rw [hrx₁, hrx₂, List.append_assoc]

theorem serialRead_conserves (n : Nat)
    : Exec.Within Conserves (serialRead n : Exec (Session S TS D SE TE) SE _) := by
  intro s hidle
  unfold serialRead Port.read
  cases hresult : (Device.read (serialPort.device s) n).result with
  | ok chunk =>
    rw [serialPort.perform_ok hidle hresult]
    refine ⟨hidle, chunk.val, ⟨_, rfl, ?_⟩, (Lossless.read_ok hresult).1⟩
    apply List.append_nil
  | error e =>
    rw [serialPort.perform_failed hidle hresult]
    refine ⟨hidle, [], ⟨_, rfl, ?_⟩, (Lossless.read_error hresult).1.symm⟩
    rfl

end Conserves

end Session

theorem exists_of_append_eq {chunk rest bytes more : List α} (h : bytes ++ more = chunk ++ rest)
    (hle : chunk.length ≤ bytes.length) : ∃ bytes', bytes = chunk ++ bytes' ∧ rest = bytes' ++ more := by
  obtain ⟨bytes', rfl⟩ := List.prefix_of_prefix_length_le (List.prefix_append chunk rest)
    (h ▸ List.prefix_append bytes more) hle
  rw [List.append_assoc] at h
  exact ⟨bytes', rfl, (List.append_cancel_left h).symm⟩

theorem vector_of_toList {v : Vector α n} {filled : List α} (h : v.toList = filled)
    (hsize : filled.toArray.size = n) : ⟨filled.toArray, hsize⟩ = v := by
  apply Vector.toList_inj.mp
  rw [h]
  rfl

namespace ModbusTcp

variable [Device S SE] [Device TS TE] [Lossless S] [Lossless TS] {srx trx stx ttx : List UInt8}
  {tid : UInt16}

theorem readExact.go_lossless {filled : List UInt8} {hfilled : filled.length ≤ len}
    (v : Vector UInt8 len) (bytes : List UInt8) (hv : v.toList = filled ++ bytes)
    (s : Session S TS D SE TE) (h : At ⟨srx, bytes ++ trx, stx, ttx, tid⟩ s)
    : ∃ s', go len filled hfilled s = .ok v s' ∧ At ⟨srx, trx, stx, ttx, tid⟩ s' := by
  have hlen : len = filled.length + bytes.length := by
    rw [← List.length_append, ← hv, Vector.length_toList]
  unfold go
  split
  . next hlt =>
    have hwanted : 0 < len - filled.length := by omega
    obtain ⟨⟨chunk, hle⟩, s₁, rest, hread, hrest, hne, h₁⟩ := tcpRead_lossless h hwanted
    rw [Exec.bind_result_ok hread]
    have hbytes : bytes ≠ [] := List.ne_nil_of_length_pos (by omega)
    cases chunk with
    -- An empty piece would be the end of the stream, but the stream is not empty.
    | nil => exact absurd rfl (hne (List.append_ne_nil_of_left_ne_nil hbytes _))
    | cons byte chunk =>
      dsimp only at hrest hle ⊢
      obtain ⟨bytes', rfl, rfl⟩ := exists_of_append_eq hrest (by omega)
      apply readExact.go_lossless v bytes' _ s₁ h₁
      rw [hv, List.append_assoc]
  . have hnil : bytes = [] := List.eq_nil_of_length_eq_zero (by omega)
    subst hnil
    rw [List.append_nil] at hv
    rw [← vector_of_toList hv (by simpa using hlen.symm)]
    exact ⟨s, rfl, h⟩
termination_by len - filled.length
decreasing_by
  simp only [List.length_append, List.length_cons]
  omega

theorem readExact_ends (v : Vector UInt8 len)
    : Ends (At ⟨srx, v.toList ++ trx, stx, ttx, tid⟩)
        (readExact len : Exec (Session S TS D SE TE) (ModbusError Empty TE) _) (.ok v)
        (At ⟨srx, trx, stx, ttx, tid⟩) := by
  apply Ends.of_eq_ok
  intro s h
  apply readExact.go_lossless v v.toList rfl s h

/--
A read that asks for more than there is takes all that is there and fails.
-/
theorem readExact.go_short {filled : List UInt8} {hfilled : filled.length ≤ len} (bytes : List UInt8)
    (hlt : filled.length + bytes.length < len) (s : Session S TS D SE TE)
    (h : At ⟨srx, bytes, stx, ttx, tid⟩ s)
    : ∃ s', go len filled hfilled s = .error (.failed .payloadTooShort) s'
        ∧ At ⟨srx, [], stx, ttx, tid⟩ s' := by
  obtain ⟨⟨chunk, hle⟩, s₁, rest, hread, hrest, hne, h₁⟩ :=
    tcpRead_lossless h (by omega : 0 < len - filled.length)
  unfold go
  rw [dif_pos (by omega), Exec.bind_result_ok hread]
  dsimp only at hrest hne
  subst hrest
  cases chunk with
  | nil =>
    -- The read succeeds and delivers nothing, which is how a device tells the end.
    have hend : rest = [] := by
      apply Classical.byContradiction
      intro hrest
      exact hne hrest rfl
    rw [hend] at h₁
    exact ⟨s₁, rfl, h₁⟩
  | cons byte chunk =>
    rw [List.length_append] at hlt
    dsimp only
    apply readExact.go_short rest _ s₁ h₁
    rw [List.length_append]
    omega
termination_by len - filled.length
decreasing_by
  simp only [List.length_append, List.length_cons]
  omega

theorem readExact_short {bytes : List UInt8} (hlt : bytes.length < len)
    : Ends (At ⟨srx, bytes, stx, ttx, tid⟩)
        (readExact len : Exec (Session S TS D SE TE) (ModbusError Empty TE) _)
        (.error (.failed .payloadTooShort)) (At ⟨srx, [], stx, ttx, tid⟩) := by
  apply Ends.of_eq_error
  intro s h
  apply readExact.go_short bytes _ s h
  simpa using hlt

theorem readByte_ends (byte : UInt8) (rest : List UInt8)
    : Ends (At ⟨srx, byte :: rest, stx, ttx, tid⟩)
        (readExact 1 : Exec (Session S TS D SE TE) (ModbusError Empty TE) _) (.ok #v[byte])
        (At ⟨srx, rest, stx, ttx, tid⟩) :=
  readExact_ends #v[byte]

theorem listen_ends (f : TcpFrame) (hlen : f.data.length = 6 + lengthField f.data)
    : Ends (At ⟨srx, f.data ++ trx, stx, ttx, tid⟩)
        (listen : Exec (Session S TS D SE TE) (ModbusError Empty TE) TcpFrame) (.ok f)
        (At ⟨srx, trx, stx, ttx, tid⟩) := by
  obtain ⟨hdr, body, hf⟩ := exists_vector_append (by omega : 6 ≤ f.data.length)
  have hfit : hdr.toList.length ≤ tcpBuf := by simp [tcpBuf]
  obtain ⟨req, hreq, hdata⟩ := Heapless.Vec.extendFromSlice_empty hfit
  have hpdu : (fromBeBytes hdr[4] hdr[5]).toNat = body.length := by
    unfold lengthField at hlen
    rw [hf, getD_toList_append hdr body (by omega), getD_toList_append hdr body (by omega)] at hlen
    rw [List.length_append, Vector.length_toList] at hlen
    omega
  rw [hf, List.append_assoc]
  unfold listen
  apply Ends.bind (readExact_ends hdr)
  apply Ends.bind (Ends.ofOption _ hreq)
  rw [hpdu]
  apply pushBytes_ends (fun bytes => At ⟨srx, bytes, stx, ttx, tid⟩) readByte_ends
  rw [hdata, hf]

theorem listen_overflow {bytes : List UInt8} (hlen : bytes.length = tcpBuf + 1)
    (hover : 255 < lengthField bytes)
    : Ends (At ⟨srx, bytes ++ trx, stx, ttx, tid⟩)
        (listen : Exec (Session S TS D SE TE) (ModbusError Empty TE) TcpFrame) (.error (.failed .push))
        (At ⟨srx, trx, stx, ttx, tid⟩) := by
  have hbuf : tcpBuf = 261 := rfl
  obtain ⟨hdr, body, rfl⟩ := exists_vector_append (by omega : 6 ≤ bytes.length)
  have hfit : hdr.toList.length ≤ tcpBuf := by simp [tcpBuf]
  obtain ⟨req, hreq, hdata⟩ := Heapless.Vec.extendFromSlice_empty hfit
  have hpdu : 255 < (fromBeBytes hdr[4] hdr[5]).toNat := by
    unfold lengthField at hover
    rwa [getD_toList_append hdr body (by omega), getD_toList_append hdr body (by omega)] at hover
  rw [List.length_append, Vector.length_toList] at hlen
  rw [List.append_assoc]
  unfold listen
  apply Ends.bind (readExact_ends hdr)
  apply Ends.bind (Ends.ofOption _ hreq)
  -- Six bytes of the buffer are taken by the header, so byte 256 of the body is the one too many.
  apply pushBytes_overflow (fun bytes => At ⟨srx, bytes, stx, ttx, tid⟩) readByte_ends
  . omega
  . rw [hdata, Vector.length_toList]
    omega

theorem readByte_eof
    : Ends (At ⟨srx, [], stx, ttx, tid⟩)
        (readExact 1 : Exec (Session S TS D SE TE) (ModbusError Empty TE) _) (.error (.failed .payloadTooShort))
        (At ⟨srx, [], stx, ttx, tid⟩) := by
  apply readExact_short
  decide

theorem listen_short {bytes : List UInt8} (hneed : bytes.length < 6 + lengthField bytes)
    (hroom : bytes.length ≤ tcpBuf)
    : Ends (At ⟨srx, bytes, stx, ttx, tid⟩)
        (listen : Exec (Session S TS D SE TE) (ModbusError Empty TE) TcpFrame)
        (.error (.failed .payloadTooShort)) (At ⟨srx, [], stx, ttx, tid⟩) := by
  unfold listen
  by_cases hheader : bytes.length < 6
  . apply Ends.bind_error
    apply readExact_short hheader
  . obtain ⟨hdr, body, rfl⟩ := exists_vector_append (by omega : 6 ≤ bytes.length)
    have hfit : hdr.toList.length ≤ tcpBuf := by simp [tcpBuf]
    obtain ⟨req, hreq, hdata⟩ := Heapless.Vec.extendFromSlice_empty hfit
    unfold lengthField at hneed
    rw [getD_toList_append hdr body (by omega), getD_toList_append hdr body (by omega)] at hneed
    rw [List.length_append, Vector.length_toList] at hneed hroom
    apply Ends.bind (readExact_ends hdr)
    apply Ends.bind (Ends.ofOption _ hreq)
    apply pushBytes_short (fun bytes => At ⟨srx, bytes, stx, ttx, tid⟩) readByte_ends readByte_eof
    . omega
    . rw [hdata, Vector.length_toList]
      apply hroom

theorem listen_eof
    : Ends (At ⟨srx, [], stx, ttx, tid⟩)
        (listen : Exec (Session S TS D SE TE) (ModbusError Empty TE) TcpFrame)
        (.error (.failed .payloadTooShort)) (At ⟨srx, [], stx, ttx, tid⟩) := by
  unfold listen
  apply Ends.bind_error
  apply readExact_short
  decide

theorem writeAll_lossless (data : List UInt8) (s : Session S TS D SE TE) (h : At ⟨srx, trx, stx, ttx, tid⟩ s)
    : ∃ s', writeAll data s = .ok () s' ∧ At ⟨srx, trx, stx, ttx ++ data, tid⟩ s' := by
  apply writeAll_sends (fun out => At ⟨srx, trx, stx, out, tid⟩) _ data ttx h
  intro out s buf hbuf h
  apply tcpWrite_lossless h

theorem send_ends (data : List UInt8)
    : Ends (At ⟨srx, trx, stx, ttx, tid⟩) (send data : Exec (Session S TS D SE TE) TE Unit) (.ok ())
        (At ⟨srx, trx, stx, ttx ++ data, tid⟩) := by
  unfold send
  apply Ends.bind (note_ends rfl rfl)
  apply Ends.of_eq_ok
  intro s h
  apply writeAll_lossless data s h

end ModbusTcp

namespace ModbusRtu

variable [Device S SE] [Device TS TE] [Lossless S] [Lossless TS] {srx trx stx ttx : List UInt8}
  {tid : UInt16}

theorem readExact.go_lossless {filled : List UInt8} {hfilled : filled.length ≤ len}
    (v : Vector UInt8 len) (bytes : List UInt8) (hv : v.toList = filled ++ bytes)
    (attempt : Nat) (s : Session S TS D SE TE) (h : At ⟨bytes ++ srx, trx, stx, ttx, tid⟩ s)
    (hattempt : Lossless.faults s.serial + attempt ≤ 11)
    : ∃ s', go len filled hfilled attempt s = .ok v s' ∧ At ⟨srx, trx, stx, ttx, tid⟩ s' := by
  have hlen : len = filled.length + bytes.length := by
    rw [← List.length_append, ← hv, Vector.length_toList]
  unfold go
  split
  . next hlt =>
    have hwanted : 0 < len - filled.length := by omega
    obtain ⟨⟨chunk, hle⟩, s₁, rest, hread, hrest, hne, h₁, hfaults⟩ | ⟨e, s₁, hread, h₁, hfaults⟩ :=
      serialRead_lossless h hwanted
    . rw [Exec.bind_result_ok hread]
      have hbytes : bytes ≠ [] := List.ne_nil_of_length_pos (by omega)
      cases chunk with
      -- As for TCP: an empty piece would be the end of the stream.
      | nil => exact absurd rfl (hne (List.append_ne_nil_of_left_ne_nil hbytes _))
      | cons byte chunk =>
        dsimp only at hrest hle ⊢
        obtain ⟨bytes', rfl, rfl⟩ := exists_of_append_eq hrest (by omega)
        apply readExact.go_lossless v bytes' _ attempt s₁ h₁ (by omega)
        rw [hv, List.append_assoc]
    . rw [Exec.bind_result_failed hread]
      dsimp only
      rw [if_neg (by omega)]
      -- A failed read leaves the input alone and uses one fault and one attempt, so that the sum stays.
      apply readExact.go_lossless v bytes hv (attempt + 1) s₁ h₁ (by omega)
  . have hnil : bytes = [] := List.eq_nil_of_length_eq_zero (by omega)
    subst hnil
    rw [List.append_nil] at hv
    rw [← vector_of_toList hv (by simpa using hlen.symm)]
    exact ⟨s, rfl, h⟩
termination_by (len - filled.length) + (11 - attempt)
decreasing_by
  . simp only [List.length_append, List.length_cons]
    omega
  . omega

theorem readExact_ends (v : Vector UInt8 len)
    : Ends (At ⟨v.toList ++ srx, trx, stx, ttx, tid⟩)
        (readExact len : Exec (Session S TS D SE TE) (ModbusError SE Empty) _) (.ok v)
        (At ⟨srx, trx, stx, ttx, tid⟩) := by
  apply Ends.of_eq_ok
  intro s h
  have := h.faults
  apply readExact.go_lossless v v.toList rfl 1 s h
  omega

theorem readExact.go_short {filled : List UInt8} {hfilled : filled.length ≤ len} (bytes : List UInt8)
    (hlt : filled.length + bytes.length < len) (attempt : Nat) (s : Session S TS D SE TE)
    (h : At ⟨bytes, trx, stx, ttx, tid⟩ s) (hattempt : Lossless.faults s.serial + attempt ≤ 11)
    : ∃ s', go len filled hfilled attempt s = .error (.failed .payloadTooShort) s'
        ∧ At ⟨[], trx, stx, ttx, tid⟩ s' := by
  unfold go
  rw [dif_pos (by omega)]
  obtain ⟨⟨chunk, hle⟩, s₁, rest, hread, hrest, hne, h₁, hfaults⟩ | ⟨e, s₁, hread, h₁, hfaults⟩ :=
    serialRead_lossless h (by omega : 0 < len - filled.length)
  . rw [Exec.bind_result_ok hread]
    dsimp only at hrest hne
    subst hrest
    cases chunk with
    | nil =>
      have hend : rest = [] := by
        apply Classical.byContradiction
        intro hrest
        exact hne hrest rfl
      rw [hend] at h₁
      exact ⟨s₁, rfl, h₁⟩
    | cons byte chunk =>
      rw [List.length_append] at hlt
      dsimp only
      apply readExact.go_short rest _ attempt s₁ h₁ (by omega)
      rw [List.length_append]
      omega
  . rw [Exec.bind_result_failed hread]
    dsimp only
    rw [if_neg (by omega)]
    apply readExact.go_short bytes hlt (attempt + 1) s₁ h₁ (by omega)
termination_by (len - filled.length) + (11 - attempt)
decreasing_by
  . simp only [List.length_append, List.length_cons]
    omega
  . omega

theorem readExact_short {bytes : List UInt8} (hlt : bytes.length < len)
    : Ends (At ⟨bytes, trx, stx, ttx, tid⟩)
        (readExact len : Exec (Session S TS D SE TE) (ModbusError SE Empty) _)
        (.error (.failed .payloadTooShort)) (At ⟨[], trx, stx, ttx, tid⟩) := by
  apply Ends.of_eq_error
  intro s h
  have := h.faults
  apply readExact.go_short bytes _ 1 s h
  . omega
  . simpa using hlt

theorem readByte_ends (byte : UInt8) (rest : List UInt8)
    : Ends (At ⟨byte :: rest, trx, stx, ttx, tid⟩)
        (readExact 1 : Exec (Session S TS D SE TE) (ModbusError SE Empty) _) (.ok #v[byte])
        (At ⟨rest, trx, stx, ttx, tid⟩) :=
  readExact_ends #v[byte]

theorem readByte_eof
    : Ends (At ⟨[], trx, stx, ttx, tid⟩)
        (readExact 1 : Exec (Session S TS D SE TE) (ModbusError SE Empty) _) (.error (.failed .payloadTooShort))
        (At ⟨[], trx, stx, ttx, tid⟩) := by
  apply readExact_short
  decide

theorem receive_short {bytes : List UInt8} (hneed : bytes.length < responseLength bytes)
    : Ends (At ⟨bytes, trx, stx, ttx, tid⟩)
        (receive : Exec (Session S TS D SE TE) (ModbusError SE Empty) RtuResponse)
        (.error (.failed .payloadTooShort)) (At ⟨[], trx, stx, ttx, tid⟩) := by
  have hbounds := responseLength_bounds bytes
  unfold receive
  by_cases hheader : bytes.length < 3
  . apply Ends.bind_error
    apply readExact_short hheader
  . obtain ⟨header, rest, rfl⟩ := exists_vector_append (by omega : 3 ≤ bytes.length)
    have hfit : header.toList.length ≤ 512 := by simp
    obtain ⟨resp, hresp, hdata⟩ := Heapless.Vec.extendFromSlice_empty hfit
    rw [responseLength_append, List.length_append, Vector.length_toList] at hneed
    rw [responseLength_append] at hbounds
    apply Ends.bind (readExact_ends header)
    apply Ends.bind (Ends.ofOption _ hresp)
    apply Ends.bind_error
    apply pushBytes_short (fun bytes => At ⟨bytes, trx, stx, ttx, tid⟩) readByte_ends readByte_eof
    . omega
    . rw [hdata, Vector.length_toList]
      omega

theorem receive_checked (r : RtuResponse) (hlen : r.data.length = responseLength r.data)
    : Ends (At ⟨r.data ++ srx, trx, stx, ttx, tid⟩)
        (receive : Exec (Session S TS D SE TE) (ModbusError SE Empty) RtuResponse) (checked r)
        (At ⟨srx, trx, stx, ttx, tid⟩) := by
  have hbounds := responseLength_bounds r.data
  obtain ⟨header, rest, hr⟩ := exists_vector_append (by omega : 3 ≤ r.data.length)
  have hfit : header.toList.length ≤ 512 := by simp
  obtain ⟨resp, hresp, hdata⟩ := Heapless.Vec.extendFromSlice_empty hfit
  have hremaining : rtuResponseRemaining header = rest.length := by
    rw [hr, responseLength_append, List.length_append, Vector.length_toList] at hlen
    omega
  rw [hr, List.append_assoc]
  unfold receive
  apply Ends.bind (readExact_ends header)
  apply Ends.bind (Ends.ofOption _ hresp)
  rw [hremaining]
  apply Ends.bind (a := r)
  . apply pushBytes_ends (fun bytes => At ⟨bytes, trx, stx, ttx, tid⟩) readByte_ends
    rw [hdata, hr]
  apply check_ends

theorem receive_ends (r : RtuResponse) (hlen : r.data.length = responseLength r.data)
    (hcrc : checkCrc r.data = .ok ())
    : Ends (At ⟨r.data ++ srx, trx, stx, ttx, tid⟩)
        (receive : Exec (Session S TS D SE TE) (ModbusError SE Empty) RtuResponse) (.ok r)
        (At ⟨srx, trx, stx, ttx, tid⟩) := by
  rw [← checked_ok hcrc]
  apply receive_checked r hlen

theorem listenRest_counted (req f : RtuFrame) (hcode : fc = 0x0F ∨ fc = 0x10) (fixed : Vector UInt8 5)
    (rest : List UInt8) (hrest : rest.length = (fixed.get 4).toNat + 2)
    (hf : f.data = req.data ++ fixed.toList ++ rest)
    : Ends (At ⟨fixed.toList ++ rest ++ srx, trx, stx, ttx, tid⟩)
        (listen.listenRest fc req : Exec (Session S TS D SE TE) (ModbusError SE Empty) RtuFrame) (.ok f)
        (At ⟨srx, trx, stx, ttx, tid⟩) := by
  have hcap := f.length_le
  rw [hf, List.length_append, List.length_append] at hcap
  obtain ⟨req₁, hreq, hdata⟩ := Heapless.Vec.extendFromSlice_of_le
    (by omega : req.data.length + fixed.toList.length ≤ rtuBuf)
  unfold listen.listenRest
  rw [if_pos hcode, List.append_assoc]
  apply Ends.bind (readExact_ends fixed)
  apply Ends.bind (Ends.ofOption _ hreq)
  dsimp only
  rw [show fixed[4].toNat + 2 = rest.length from hrest.symm]
  apply pushBytes_ends (fun bytes => At ⟨bytes, trx, stx, ttx, tid⟩) readByte_ends
  rw [hdata, hf]

theorem listenRest_fixed (req f : RtuFrame) (hcode : ¬ (fc = 0x0F ∨ fc = 0x10)) (rest : Vector UInt8 6)
    (hf : f.data = req.data ++ rest.toList)
    : Ends (At ⟨rest.toList ++ srx, trx, stx, ttx, tid⟩)
        (listen.listenRest fc req : Exec (Session S TS D SE TE) (ModbusError SE Empty) RtuFrame) (.ok f)
        (At ⟨srx, trx, stx, ttx, tid⟩) := by
  have hcap := f.length_le
  rw [hf, List.length_append] at hcap
  obtain ⟨req₁, hreq, hdata⟩ := Heapless.Vec.extendFromSlice_of_le hcap
  have heq : req₁ = f := by
    apply Heapless.Vec.ext
    rw [hdata, hf]
  unfold listen.listenRest
  rw [if_neg hcode]
  apply Ends.bind (readExact_ends rest)
  apply Ends.ofOption
  rw [hreq, heq]

theorem listen_checked (f : RtuFrame) (hlen : f.data.length = requestLength f.data)
    : Ends (At ⟨f.data ++ srx, trx, stx, ttx, tid⟩)
        (listen : Exec (Session S TS D SE TE) (ModbusError SE Empty) RtuFrame) (checked f)
        (At ⟨srx, trx, stx, ttx, tid⟩) := by
  have hge := requestLength_ge f.data
  obtain ⟨hdr, rest, hf⟩ := exists_vector_append (by omega : 2 ≤ f.data.length)
  have hfit : hdr.toList.length ≤ rtuBuf := by simp [rtuBuf]
  obtain ⟨req, hreq, hdata⟩ := Heapless.Vec.extendFromSlice_empty hfit
  have hcode : f.data.getD 1 0 = hdr[1] := by
    rw [hf]
    apply getD_toList_append
  have hrest : rest.length + 2 = requestLength f.data := by
    rw [← hlen, hf, List.length_append, Vector.length_toList]
    omega
  unfold listen
  rw [hf, List.append_assoc]
  apply Ends.bind (readExact_ends hdr)
  apply Ends.bind (Ends.ofOption _ hreq)
  apply Ends.bind (a := f)
  . by_cases hcounted : hdr[1] = 0x0F ∨ hdr[1] = 0x10
    . obtain ⟨fixed, rest', rfl⟩ := exists_vector_append (by omega : 5 ≤ rest.length)
      apply listenRest_counted req f hcounted
      -- The byte count is the last of the five bytes behind the header.
      . have hcount : f.data.getD 6 0 = fixed.get 4 := by
          rw [hf, getD_toList_append_right hdr (fixed.toList ++ rest') 4]
          apply getD_toList_append
        unfold requestLength at hrest
        rw [hcode, if_pos hcounted, hcount, List.length_append, Vector.length_toList] at hrest
        omega
      . rw [hf, hdata, List.append_assoc]
    . unfold requestLength at hrest
      rw [hcode, if_neg hcounted] at hrest
      obtain ⟨fixed, rest', rfl⟩ := exists_vector_append (by omega : 6 ≤ rest.length)
      rw [List.length_append, Vector.length_toList] at hrest
      -- All other requests have eight bytes, so that nothing is left behind the six.
      have hnil : rest' = [] := List.eq_nil_of_length_eq_zero (by omega)
      rw [hnil, List.append_nil] at hf ⊢
      apply listenRest_fixed req f hcounted
      rw [hf, hdata]
  apply check_ends

theorem listen_ends (f : RtuFrame) (hlen : f.data.length = requestLength f.data)
    (hcrc : checkCrc f.data = .ok ())
    : Ends (At ⟨f.data ++ srx, trx, stx, ttx, tid⟩)
        (listen : Exec (Session S TS D SE TE) (ModbusError SE Empty) RtuFrame) (.ok f)
        (At ⟨srx, trx, stx, ttx, tid⟩) := by
  rw [← checked_ok hcrc]
  apply listen_checked f hlen

theorem listen_overflow {bytes : List UInt8} (hlen : bytes.length = rtuBuf + 1)
    (hover : rtuBuf < requestLength bytes)
    : Ends (At ⟨bytes ++ srx, trx, stx, ttx, tid⟩)
        (listen : Exec (Session S TS D SE TE) (ModbusError SE Empty) RtuFrame) (.error (.failed .push))
        (At ⟨srx, trx, stx, ttx, tid⟩) := by
  have hbuf : rtuBuf = 255 := rfl
  obtain ⟨hdr, rest, rfl⟩ := exists_vector_append (by omega : 2 ≤ bytes.length)
  have hfit : hdr.toList.length ≤ rtuBuf := by simp [rtuBuf]
  obtain ⟨req, hreq, hdata⟩ := Heapless.Vec.extendFromSlice_empty hfit
  rw [requestLength_append (show hdr.get 1 = hdr[1] from rfl)] at hover
  rw [List.length_append, Vector.length_toList] at hlen
  unfold restLength at hover
  split at hover
  . next hcounted =>
    obtain ⟨fixed, more, rfl⟩ := exists_vector_append (by omega : 5 ≤ rest.length)
    have hfit : req.data.length + fixed.toList.length ≤ rtuBuf := by
      rw [hdata, Vector.length_toList, Vector.length_toList]
      decide
    obtain ⟨req₁, hreq₁, hdata₁⟩ := Heapless.Vec.extendFromSlice_of_le hfit
    rw [getD_toList_append fixed more (by omega)] at hover
    rw [List.length_append, Vector.length_toList] at hlen
    unfold listen
    rw [List.append_assoc]
    apply Ends.bind (readExact_ends hdr)
    apply Ends.bind (Ends.ofOption _ hreq)
    apply Ends.bind_error
    unfold listen.listenRest
    rw [if_pos hcounted, List.append_assoc]
    apply Ends.bind (readExact_ends fixed)
    apply Ends.bind (Ends.ofOption _ hreq₁)
    apply pushBytes_overflow (fun bytes => At ⟨bytes, trx, stx, ttx, tid⟩) readByte_ends
    . omega
    . rw [hdata₁, hdata, List.length_append, Vector.length_toList, Vector.length_toList]
      omega
  . omega

theorem listenRest_short {hdr : Vector UInt8 2} {fn : UInt8} {req : RtuFrame} (hreq : req.data = hdr.toList)
    {rest : List UInt8} (hneed : rest.length < restLength fn rest) (hroom : rest.length ≤ 253)
    : Ends (At ⟨rest, trx, stx, ttx, tid⟩)
        (listen.listenRest fn req : Exec (Session S TS D SE TE) (ModbusError SE Empty) RtuFrame)
        (.error (.failed .payloadTooShort)) (At ⟨[], trx, stx, ttx, tid⟩) := by
  have hbuf : rtuBuf = 255 := rfl
  unfold restLength at hneed
  unfold listen.listenRest
  split at hneed
  . next hcounted =>
    rw [if_pos hcounted]
    by_cases hfixed : rest.length < 5
    . apply Ends.bind_error
      apply readExact_short hfixed
    . obtain ⟨fixed, more, rfl⟩ := exists_vector_append (by omega : 5 ≤ rest.length)
      have hfit : req.data.length + fixed.toList.length ≤ rtuBuf := by
        rw [hreq, Vector.length_toList, Vector.length_toList]
        decide
      obtain ⟨req₁, hreq₁, hdata₁⟩ := Heapless.Vec.extendFromSlice_of_le hfit
      rw [getD_toList_append fixed more (by omega)] at hneed
      rw [List.length_append, Vector.length_toList] at hneed hroom
      apply Ends.bind (readExact_ends fixed)
      apply Ends.bind (Ends.ofOption _ hreq₁)
      apply pushBytes_short (fun bytes => At ⟨bytes, trx, stx, ttx, tid⟩) readByte_ends readByte_eof
      . omega
      . rw [hdata₁, hreq, List.length_append, Vector.length_toList, Vector.length_toList]
        omega
  . next hcounted =>
    rw [if_neg hcounted]
    apply Ends.bind_error
    apply readExact_short hneed

theorem listen_short {bytes : List UInt8} (hneed : bytes.length < requestLength bytes)
    (hroom : bytes.length ≤ rtuBuf)
    : Ends (At ⟨bytes, trx, stx, ttx, tid⟩)
        (listen : Exec (Session S TS D SE TE) (ModbusError SE Empty) RtuFrame)
        (.error (.failed .payloadTooShort)) (At ⟨[], trx, stx, ttx, tid⟩) := by
  have hbuf : rtuBuf = 255 := rfl
  unfold listen
  by_cases hheader : bytes.length < 2
  . apply Ends.bind_error
    apply readExact_short hheader
  . obtain ⟨hdr, rest, rfl⟩ := exists_vector_append (by omega : 2 ≤ bytes.length)
    have hfit : hdr.toList.length ≤ rtuBuf := by simp [rtuBuf]
    obtain ⟨req, hreq, hdata⟩ := Heapless.Vec.extendFromSlice_empty hfit
    rw [requestLength_append (show hdr.get 1 = hdr[1] from rfl)] at hneed
    rw [List.length_append, Vector.length_toList] at hneed hroom
    apply Ends.bind (readExact_ends hdr)
    apply Ends.bind (Ends.ofOption _ hreq)
    apply Ends.bind_error
    apply listenRest_short hdata
    . omega
    . omega

theorem listen_eof
    : Ends (At ⟨[], trx, stx, ttx, tid⟩)
        (listen : Exec (Session S TS D SE TE) (ModbusError SE Empty) RtuFrame)
        (.error (.failed .payloadTooShort)) (At ⟨[], trx, stx, ttx, tid⟩) := by
  unfold listen
  apply Ends.bind_error
  apply readExact_short
  decide

theorem writeAll_lossless (data : List UInt8) (s : Session S TS D SE TE) (h : At ⟨srx, trx, stx, ttx, tid⟩ s)
    : ∃ s', writeAll data s = .ok () s' ∧ At ⟨srx, trx, stx ++ data, ttx, tid⟩ s' := by
  apply writeAll_sends (fun out => At ⟨srx, trx, out, ttx, tid⟩) _ data stx h
  intro out s buf hbuf h
  apply serialWrite_lossless h

theorem send_ends (payload : List UInt8)
    : Ends (At ⟨srx, trx, stx, ttx, tid⟩) (send payload : Exec (Session S TS D SE TE) SE Unit) (.ok ())
        (At ⟨srx, trx, stx ++ payload, ttx, tid⟩) := by
  unfold send
  apply Ends.bind (note_ends rfl rfl)
  apply Ends.bind serialFlush_ends
  apply Ends.bind (setTxEn_ends true)
  apply Ends.bind
  . apply Ends.of_eq_ok
    intro s h
    apply writeAll_lossless payload s h
  apply Ends.bind serialFlush_ends
  apply setTxEn_ends false

theorem sendAndReceive_ends (req : List UInt8) (r : RtuResponse)
    (hlen : r.data.length = responseLength r.data) (hcrc : checkCrc r.data = .ok ())
    : Ends (At ⟨r.data ++ srx, trx, stx, ttx, tid⟩)
        (sendAndReceive req : Exec (Session S TS D SE TE) (ModbusError SE Empty) RtuResponse) (.ok r)
        (At ⟨srx, trx, stx ++ req, ttx, tid⟩) := by
  unfold sendAndReceive
  apply Ends.bind
  . apply Ends.mapErr_ok
    apply send_ends
  apply receive_ends r hlen hcrc

end ModbusRtu

end ModbusBridge
