import ModbusBridge.Lemmas.Cycle
import ModbusBridge.Spec.Mock

/-!
This module contains what becomes of a response to a function code that the crate has no name for. Its
length is taken from its third byte, whatever that byte means.
-/

namespace ModbusBridge

open Effect EmbeddedIo Session

variable {S TS D SE TE : Type}

/--
A cycle that has started with `srx` behind the response `r` on the serial input, and with `stx` and `ttx`
written, forwards the request `q` as it is and relays `r` as it is.
-/
structure Transparent [Device S SE] [Lossless S] (q : TcpMessage) (r srx stx ttx : List UInt8)
    (result : Except (Stop (BridgeError SE TE)) BridgeEvent) (s' : Session S TS D SE TE) : Prop where
  transaction : ∃ t, result = .ok (.transaction t)
  forwarded : Trace.serialTx s'.trace = stx ++ rtuFrame q.body
  relayed : Trace.tcpTx s'.trace = ttx ++ tcpFrame q.transactionId 0 (r.take (r.length - 2))
  consumed : Lossless.rx s'.serial = srx

def guessedLength (r : List UInt8) : Nat :=
  if 0x80 ≤ r.getD 1 0 then
    5
  else
    5 + (r.getD 2 0).toNat

theorem responseLength_of_other {r : List UInt8} {v : UInt8}
    (h : FunctionCode.ofByte (r.getD 1 0) = .other v) : responseLength r = guessedLength r := by
  have hecho : ¬ (r.getD 1 0 = 0x05 ∨ r.getD 1 0 = 0x06 ∨ r.getD 1 0 = 0x0F ∨ r.getD 1 0 = 0x10) := by
    rintro (hcode | hcode | hcode | hcode)
    all_goals
      rw [hcode] at h
      contradiction
  unfold guessedLength
  rw [responseLength_eq, if_neg hecho]

/--
A response to an unnamed function code is relayed transparently if and only if its length is the one that
its third byte suggests, or five bytes if the code has its high bit set.
-/
theorem transparent_iff [Device S SE] [Device TS TE] [ReadReady S SE] [ReadReady TS TE] [DelayNs D]
    [Lossless S] [Lossless TS] (flavour : Flavour) (q : TcpMessage) (r srx trx stx ttx : List UInt8)
    (tid : UInt16) (v : UInt8) (s : Session S TS D SE TE) (hflavour : flavour.Untimed)
    (hother : FunctionCode.ofByte (q.body.getD 1 0) = .other v) (hcode : r.getD 1 0 = q.body.getD 1 0)
    (hcrc : checkCrc r = .ok ()) (hs : At ⟨r ++ srx, q.frame ++ trx, stx, ttx, tid⟩ s)
    : Transparent q r srx stx ttx (outcome (Connection.next flavour s))
          (finalState (Connection.next flavour s))
        ↔
      r.length = guessedLength r := by
  rw [← hcode] at hother
  rw [← responseLength_of_other hother]
  obtain ⟨body, hmin, rfl⟩ := checkCrc_eq_ok.mp hcrc
  constructor
  -- A reply that equals the whole response was cut from a frame of the length that `receive` assumes.
  . rintro ⟨⟨t, ht⟩, _, hrelayed, _⟩
    obtain ⟨rid, rbody, hlen, u, htrace, htx⟩ := Connection.next_ok (Exec.eq_ok_of_outcome ht)
    have hreply : tcpFrame rid 0 rbody = tcpFrame q.transactionId 0 body := by
      rw [take_rtuFrame, htrace] at hrelayed
      unfold Trace.tcpTx at hrelayed
      rw [List.flatMap_append, show s.trace.flatMap _ = _ from hs.tcpTx, htx] at hrelayed
      apply List.append_cancel_left hrelayed
    have hbody := congrArg (List.drop 6) hreply
    rw [drop_tcpFrame, drop_tcpFrame] at hbody
    rw [← hbody, length_rtuFrame, hlen]
  . intro hlen
    rw [length_rtuFrame] at hlen
    obtain ⟨hok, hend⟩ := Connection.next_ends hflavour q body hlen s hs
    rw [hok]
    refine ⟨⟨_, rfl⟩, hend.serialTx, ?_, hend.serialRx⟩
    rw [take_rtuFrame]
    apply hend.tcpTx

theorem transparent_iff_fileRecord
    : Transparent ⟨1, 0, [0x11, 0x14, 0x00], by decide, by decide⟩ (rtuFrame [0x11, 0x14, 0x02, 0xAA, 0xBB])
          [] [] []
          (outcome (Connection.next .sync
            (mockSession (rtuFrame [0x11, 0x14, 0x02, 0xAA, 0xBB]) (tcpFrame 1 0 [0x11, 0x14, 0x00]))))
          (finalState (Connection.next .sync
            (mockSession (rtuFrame [0x11, 0x14, 0x02, 0xAA, 0xBB]) (tcpFrame 1 0 [0x11, 0x14, 0x00]))))
        ↔
      (rtuFrame [0x11, 0x14, 0x02, 0xAA, 0xBB]).length
        = guessedLength (rtuFrame [0x11, 0x14, 0x02, 0xAA, 0xBB]) :=
  transparent_iff .sync ⟨1, 0, [0x11, 0x14, 0x00], by decide, by decide⟩ _ [] [] [] [] 0 0x14 _ .sync
    (by rfl) (by rfl) (by decide +kernel) ⟨rfl, rfl, rfl, rfl, rfl, by decide, rfl, rfl⟩

theorem transparent_fails
    : ¬ Transparent ⟨1, 0, [0x11, 0x07], by decide, by decide⟩ (rtuFrame [0x11, 0x07, 0x6D]) [] [] []
        (outcome (Connection.next .sync
          (mockSession (rtuFrame [0x11, 0x07, 0x6D]) (tcpFrame 1 0 [0x11, 0x07]))))
        (finalState (Connection.next .sync
          (mockSession (rtuFrame [0x11, 0x07, 0x6D]) (tcpFrame 1 0 [0x11, 0x07])))) := by
  intro h
  obtain ⟨t, ht⟩ := h.transaction
  have hcrc : outcome (Connection.next .sync
      (mockSession (rtuFrame [0x11, 0x07, 0x6D]) (tcpFrame 1 0 [0x11, 0x07])))
        = .error (.failed .rtuCrcMismatch) := by
    decide +kernel
  rw [hcrc] at ht
  contradiction

end ModbusBridge
