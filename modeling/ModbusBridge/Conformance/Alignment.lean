import ModbusBridge.Conformance.Parsers
import ModbusBridge.Lemmas.ClientSession

/-!
This module contains where the next RTU request starts after one that has been rejected: right behind it if
its CRC is wrong, but not if there is no room for it.
-/

namespace ModbusBridge

open Effect EmbeddedIo Session Framing

variable {S TS D SE TE : Type}

section Crc

/--
What becomes of a request that is as long as it should be.
-/
def requestVerdict (frame : List UInt8) : Except (Stop (ModbusError SE Empty)) (List UInt8) :=
  if crc (frame.take (frame.length - 2)) = frame.drop (frame.length - 2) then
    .ok frame
  else
    .error (.failed .crc)

theorem RequestShape.verdict_eq {frame : List UInt8} (h : RequestShape frame)
    : (verdict checkCrc (.whole frame) : Except (Stop (ModbusError SE Empty)) _) = requestVerdict frame := by
  have hcheck := checkCrc_eq_ite h.length_ge
  unfold requestVerdict
  split
  . next hcrc =>
    rw [if_pos hcrc] at hcheck
    rw [verdict_ok hcheck]
  . next hcrc =>
    rw [if_neg hcrc] at hcheck
    rw [verdict_error hcheck]
    rfl

/--
Requests that lie one after the other are read one after the other, however many of them are rejected because
of their CRC.
-/
theorem requests_aligned [Device S SE] [InOrder S] (s : Session S TS D SE TE) (frames : List (List UInt8))
    (rest : List UInt8) (hframes : ∀ frame ∈ frames, RequestShape frame)
    (hrx : serialIn s = frames.flatten ++ rest) (hidle : s.deadline = none)
    (hport : ∀ r ∈ (Exec.repeated ModbusRtu.listen frames.length s).1, ¬ GivesUp r)
    : (Exec.repeated ModbusRtu.listen frames.length s).1.map (Except.map Heapless.Vec.data)
          = frames.map requestVerdict
        ∧ serialIn (Exec.repeated ModbusRtu.listen frames.length s).2 = rest := by
  have hwhole : ∀ frame ∈ frames, requestLayout.Whole frame ∧ frame.length ≤ rtuBuf :=
    fun frame hmem => requestShape_iff.mp (hframes frame hmem)
  have hlisten (s : Session S TS D SE TE) (hidle : s.deadline = none)
      (hport : ¬ GivesUp (outcome (ModbusRtu.listen s))) := ModbusRtu.listen_cuts_idle hidle hport
  obtain ⟨hresults, hrest⟩ := Cuts.repeated hlisten hwhole rest hrx hidle hport
  refine ⟨?_, hrest⟩
  rw [hresults]
  apply List.map_congr_left
  intro frame hmem
  apply (hframes frame hmem).verdict_eq

theorem requests_aligned_broken
    : (Exec.repeated ModbusRtu.listen 2
          (mockSession ((readRequest ++ [0, 0]) ++ rtuFrame readRequest) [])).1.map
            (Except.map Heapless.Vec.data)
          = [readRequest ++ [0, 0], rtuFrame readRequest].map requestVerdict
        ∧ serialIn (Exec.repeated ModbusRtu.listen 2
          (mockSession ((readRequest ++ [0, 0]) ++ rtuFrame readRequest) [])).2 = [] := by
  apply requests_aligned (mockSession ((readRequest ++ [0, 0]) ++ rtuFrame readRequest) [])
    [readRequest ++ [0, 0], rtuFrame readRequest] []
  . intro frame hmem
    simp only [List.mem_cons, List.not_mem_nil, or_false] at hmem
    obtain rfl | rfl := hmem
    . exact .fixed (by decide) (by decide)
    . exact .fixed (by decide) (length_rtuFrame readRequest)
  . show (readRequest ++ [0, 0]) ++ rtuFrame readRequest = _
    simp only [List.flatten_cons, List.flatten_nil, List.append_nil]
  . rfl
  . intro r _
    apply not_givesUp

end Crc

section Oversized

/--
A request of function code 0x0F or 0x10 whose byte count is more than there is room for.
-/
structure LongRequest (frame : List UInt8) : Prop where
  code : frame.getD 1 0 = 0x0F ∨ frame.getD 1 0 = 0x10
  count : 246 < (frame.getD 6 0).toNat
  len : frame.length = 9 + (frame.getD 6 0).toNat

theorem LongRequest.cut_eq {frame : List UInt8} (h : LongRequest frame) (rest : List UInt8)
    : requestLayout.cut rtuBuf (frame ++ rest) = (.oversized, (frame ++ rest).drop 256) := by
  have hover : OversizedRequest (frame ++ rest) := by
    have hlen := h.len
    have hcount := h.count
    unfold OversizedRequest
    rw [getD_append rest (by omega), getD_append rest (by omega)]
    exact ⟨h.code, h.count⟩
  have hoversized : (requestLayout.cut rtuBuf (frame ++ rest)).1 = .oversized := by
    have hbuf : rtuBuf = 255 := rfl
    have hlen := h.len
    have hcount := h.count
    refine Layout.cut_eq_oversized.mpr ⟨oversizedRequest_iff.mp hover, ?_⟩
    rw [List.length_append]
    omega
  rw [← hoversized, ← show rtuBuf + 1 = 256 from rfl, ← Layout.cut_rest_oversized hoversized]

theorem LongRequest.drop_eq_iff {frame : List UInt8} (h : LongRequest frame) (rest : List UInt8)
    : (frame ++ rest).drop 256 = rest ↔ (frame.getD 6 0).toNat = 247 := by
  have hlen := h.len
  have hcount := h.count
  constructor
  . intro heq
    have hlength := congrArg List.length heq
    rw [List.length_drop, List.length_append] at hlength
    omega
  . intro hexact
    apply List.drop_left'
    omega

variable [Device S SE] [InOrder S] {s : Session S TS D SE TE}

/--
A long request is never returned, and once it is rejected what has been taken of it are its first 256 bytes.
-/
theorem LongRequest.listen_cuts {frame rest : List UInt8} (h : LongRequest frame)
    (hrx : serialIn s = frame ++ rest) (hport : ¬ GivesUp (outcome (ModbusRtu.listen s)))
    (hdropped : outcome (ModbusRtu.listen s) ≠ .error .dropped)
    : outcome (ModbusRtu.listen s) = .error (.failed .push)
        ∧ serialIn (finalState (ModbusRtu.listen s)) = (frame ++ rest).drop 256 := by
  have hcuts := ModbusRtu.listen_cuts hport hdropped
  have hcut := h.cut_eq rest
  rw [← hrx] at hcut ⊢
  constructor
  . apply (hcuts.error_iff .push).mpr
    rw [hcut]
    exact .inr (.inl ⟨rfl, rfl⟩)
  . rw [hcuts.rest, hcut]

theorem LongRequest.listen_eq {frame rest : List UInt8} (h : LongRequest frame)
    (hrx : serialIn s = frame ++ rest) (hidle : s.deadline = none)
    (hport : ¬ GivesUp (outcome (ModbusRtu.listen s))) : outcome (ModbusRtu.listen s) = .error (.failed .push) :=
  (h.listen_cuts hrx hport (Session.not_dropped (ModbusRtu.listen_exits s) hidle).1).1

theorem LongRequest.listen_ne_ok {frame rest : List UInt8} (h : LongRequest frame)
    (hrx : serialIn s = frame ++ rest) : ModbusRtu.listen s ≠ .ok f s' := by
  intro hlisten
  have hport : ¬ GivesUp (outcome (ModbusRtu.listen s)) := by
    rw [hlisten]
    exact id
  have hdropped : outcome (ModbusRtu.listen s) ≠ .error .dropped := by
    rw [hlisten]
    exact nofun
  have hpush := (h.listen_cuts hrx hport hdropped).1
  rw [hlisten] at hpush
  contradiction

theorem LongRequest.rest_of_error {frame rest : List UInt8} {s' : Session S TS D SE TE}
    (h : LongRequest frame) (hrx : serialIn s = frame ++ rest)
    (hlisten : ModbusRtu.listen s = .error (.failed e) s')
    (hport : ¬ GivesUp (.error (.failed e) : Except _ RtuFrame)) : serialIn s' = (frame ++ rest).drop 256 := by
  have hport : ¬ GivesUp (outcome (ModbusRtu.listen s)) := by
    rw [hlisten]
    apply hport
  have hdropped : outcome (ModbusRtu.listen s) ≠ .error .dropped := by
    rw [hlisten]
    exact nofun
  have hrest := (h.listen_cuts hrx hport hdropped).2
  rwa [hlisten] at hrest

def Untouched (s s' : Session S TS D SE TE) : Prop := serialIn s' = serialIn s

instance : IsPreorder (Session S TS D SE TE) Untouched where
  refl _ := rfl
  trans _ _ _ h₁ h₂ := Eq.trans h₂ h₁

theorem serialReadReady_untouched [ReadReady S SE] [ReadyInOrder S]
    : Exec.Within Untouched (serialReadReady : Exec (Session S TS D SE TE) SE Bool) := by
  intro s
  show InOrder.rx (serialPort.device (finalState (serialPort.readReady s))) = _
  rw [serialPort.device_readReady]
  apply ReadyInOrder.readReady

omit [Device S SE] [InOrder S] in
theorem not_givesUp_of_requestError {e : ModbusError SE Empty}
    (h : (ClientSession.requestError flavour e : BridgeError SE TE) = .bufferOverflow)
    : ¬ GivesUp (.error (.failed e) : Except _ α) := by
  intro hport
  cases e with
  | serial e => contradiction
  | tcp e => cases e
  | crc | push | payloadTooShort | invalidTransactionId | conversionSlice | rtuIllegal => exact hport

variable [ReadReady S SE] [ReadyInOrder S] [DelayNs D]

theorem LongRequest.receiveRequest_cuts {frame rest : List UInt8} (h : LongRequest frame)
    (hrx : serialIn s = frame ++ rest) (flavour : Flavour)
    : (∀ f s', ClientSession.receiveRequest flavour s ≠ .ok f s')
        ∧ (∀ s', ClientSession.receiveRequest flavour s = .error (.failed .bufferOverflow) s'
          → serialIn s' = (frame ++ rest).drop 256) := by
  have hrun : GuardedRun Untouched serialReadReady .rtuIo s.rtuTimeoutMs ModbusRtu.listen
      (ClientSession.requestError flavour) s (ClientSession.receiveRequest flavour s) := by
    apply guarded_run
    . apply serialReadReady_untouched
    . intro _
      rfl
    . intro _ _ _
      rfl
  constructor
  . intro f s' hreq
    rw [hreq] at hrun
    cases hrun with
    | returned hwait hlisten _ =>
      -- Waiting for the port takes nothing from it, so `listen` finds the same frame.
      apply h.listen_ne_ok (Eq.trans hwait hrx) hlisten
  . intro s' hreq
    rw [hreq] at hrun
    generalize hstop : (.failed .bufferOverflow : Stop (BridgeError SE TE)) = stop at hrun
    cases hrun with
    | notReady _ hwait =>
      obtain rfl | ⟨e, rfl⟩ | rfl := waitReadyFor_error hwait
      all_goals cases hstop
    | failed hwait hlisten _ =>
      injection hstop with he
      apply h.rest_of_error (Eq.trans hwait hrx) hlisten
      apply not_givesUp_of_requestError he.symm
    | dropped _ _ _ hcancelled =>
      rw [← hstop] at hcancelled
      obtain hcancelled | hcancelled := hcancelled
      all_goals cases hcancelled

/--
The reader stops with the first byte for which there is no room, so the next request starts behind a rejected
one only if that byte is the last one of it.
-/
theorem overflow_aligned_iff [Device TS TE] [ReadReady TS TE] (flavour : Flavour) (s : Session S TS D SE TE)
    (frame rest : List UInt8) (hframe : LongRequest frame) (hrx : serialIn s = frame ++ rest)
    : (outcome (ModbusRtu.listen s) = .error (.failed .push)
          → (serialIn (finalState (ModbusRtu.listen s)) = rest ↔ (frame.getD 6 0).toNat = 247))
        ∧ (outcome (ClientSession.next flavour s) = .error (.failed .bufferOverflow)
          → (serialIn (finalState (ClientSession.next flavour s)) = rest ↔ (frame.getD 6 0).toNat = 247)) := by
  rw [← hframe.drop_eq_iff rest]
  constructor
  . intro hpush
    rw [hframe.rest_of_error hrx (Exec.eq_error_of_outcome hpush) id]
  . intro hoverflow
    obtain ⟨hnever, hrest⟩ := hframe.receiveRequest_cuts hrx flavour
    cases hreq : ClientSession.receiveRequest flavour s with
    | ok f s₁ => exact absurd hreq (hnever f s₁)
    | error e s₁ =>
      have hnext : ClientSession.next flavour s = .error e s₁ := Exec.bind_error hreq
      rw [hnext, outcome_error] at hoverflow
      injection hoverflow with he
      rw [he] at hreq
      rw [hnext, finalState_error, hrest s₁ hreq]

def writeCoilsRequest : List UInt8 :=
  rtuFrame ([0x11, 0x0F, 0x00, 0x00, 0x07, 0xF8, 0xFF] ++ List.replicate 255 0)

theorem getD_writeCoilsRequest {i : Nat} (hi : i < 7)
    : writeCoilsRequest.getD i 0 = ([0x11, 0x0F, 0x00, 0x00, 0x07, 0xF8, 0xFF] : List UInt8).getD i 0 := by
  unfold writeCoilsRequest rtuFrame
  rw [getD_append _ _, getD_append _ hi]
  rw [List.length_append, List.length_replicate]
  omega

theorem count_writeCoilsRequest : writeCoilsRequest.getD 6 0 = 0xFF := getD_writeCoilsRequest (by decide)

theorem longRequest_writeCoils : LongRequest writeCoilsRequest := by
  constructor
  . exact .inl (getD_writeCoilsRequest (by decide))
  . rw [count_writeCoilsRequest]
    decide
  . rw [count_writeCoilsRequest]
    unfold writeCoilsRequest
    rw [length_rtuFrame, List.length_append, List.length_replicate]
    rfl

theorem overflow_aligned_iff_writeCoils
    : (outcome (ModbusRtu.listen (mockSession (writeCoilsRequest ++ rtuFrame readRequest) []))
            = .error (.failed .push)
          → (serialIn (finalState
              (ModbusRtu.listen (mockSession (writeCoilsRequest ++ rtuFrame readRequest) [])))
                = rtuFrame readRequest ↔ (writeCoilsRequest.getD 6 0).toNat = 247))
        ∧ (outcome (ClientSession.next .syncTimed (mockSession (writeCoilsRequest ++ rtuFrame readRequest) []))
            = .error (.failed .bufferOverflow)
          → (serialIn (finalState
              (ClientSession.next .syncTimed (mockSession (writeCoilsRequest ++ rtuFrame readRequest) [])))
                = rtuFrame readRequest ↔ (writeCoilsRequest.getD 6 0).toNat = 247)) :=
  overflow_aligned_iff .syncTimed (mockSession (writeCoilsRequest ++ rtuFrame readRequest) []) writeCoilsRequest
    (rtuFrame readRequest) longRequest_writeCoils rfl

theorem overflow_misaligned
    : outcome (ModbusRtu.listen (mockSession (writeCoilsRequest ++ rtuFrame readRequest) []))
          = .error (.failed .push)
        ∧ serialIn (finalState
            (ModbusRtu.listen (mockSession (writeCoilsRequest ++ rtuFrame readRequest) [])))
          ≠ rtuFrame readRequest
        ∧ outcome (ClientSession.next .sync (mockSession (writeCoilsRequest ++ rtuFrame readRequest) []))
          = .error (.failed .bufferOverflow)
        ∧ serialIn (finalState
            (ClientSession.next .sync (mockSession (writeCoilsRequest ++ rtuFrame readRequest) [])))
          ≠ rtuFrame readRequest := by
  generalize hs : mockSession (writeCoilsRequest ++ rtuFrame readRequest) [] = s
  have hrx : serialIn s = writeCoilsRequest ++ rtuFrame readRequest := by
    rw [← hs]
    rfl
  have hidle : s.deadline = none := by
    rw [← hs]
    rfl
  have hpush := longRequest_writeCoils.listen_eq hrx hidle (not_givesUp _)
  have hlisten := Exec.eq_error_of_outcome hpush
  have hrest := longRequest_writeCoils.rest_of_error hrx hlisten id
  have hne : (writeCoilsRequest ++ rtuFrame readRequest).drop 256 ≠ rtuFrame readRequest := by
    rw [ne_eq, longRequest_writeCoils.drop_eq_iff, count_writeCoilsRequest]
    decide
  have hreq : ClientSession.receiveRequest .sync s
      = .error (.failed .bufferOverflow) (finalState (ModbusRtu.listen s)) := Exec.mapErr_error hlisten
  have hnext : ClientSession.next .sync s
      = .error (.failed .bufferOverflow) (finalState (ModbusRtu.listen s)) := Exec.bind_error hreq
  rw [← hrest] at hne
  refine ⟨hpush, hne, ?_, ?_⟩
  . rw [hnext, outcome_error]
  . rw [hnext, finalState_error]
    apply hne

end Oversized

end ModbusBridge
