import ModbusBridge.Framing.Cut
import ModbusBridge.Lemmas.InOrder

/-!
This module contains the three layouts by which the transports read, and that each of the receiving functions
cuts the stream on its port by its layout: what it returns and what it leaves there.
-/

namespace ModbusBridge

open Effect EmbeddedIo Session Framing

variable {S TS D SE TE : Type}

/--
The port has failed once more than the code is ready to read it again.
-/
def GivesUp : Except (Stop (ModbusError SE TE)) α → Prop
  | .error (.failed (.serial _)) => True
  | .error (.failed (.tcp _)) => True
  | _ => False

theorem not_givesUp (r : Except (Stop (ModbusError Empty Empty)) α) : ¬ GivesUp r := by
  unfold GivesUp
  split
  . next e => cases e
  . next e => cases e
  . exact id

theorem Session.not_dropped {rx : Session S TS D SE TE → List UInt8} {obs : Event SE TE → List UInt8}
    {s : Session S TS D SE TE} {x : Exec (Session S TS D SE TE) (ModbusError SE' TE') α}
    (hx : Exec.Exits (Reached rx obs s) (Stopped rx obs s) x s) (hidle : s.deadline = none)
    : outcome (x s) ≠ .error .dropped ∧ (finalState (x s)).deadline = none := by
  obtain ⟨hok, herror⟩ := hx (.refl s)
  cases h : x s with
  | ok a s' =>
    have hreached := hok a s' h
    exact ⟨nofun, hreached.2 hidle⟩
  | error e s' =>
    have hstopped := herror e s' h
    have hne : e ≠ .dropped := fun heq => hstopped.dropped heq hidle
    refine ⟨?_, (hstopped.reached hne).2 hidle⟩
    rw [outcome_error]
    simpa using hne

section Layouts

theorem getD_append {l : List UInt8} (rest : List UInt8) (h : i < l.length) : (l ++ rest).getD i 0 = l.getD i 0 := by
  rw [List.getD_eq_getElem?_getD, List.getD_eq_getElem?_getD, List.getElem?_append_left h]

def requestLayout : Layout UInt8 where
  header := 7
  need := requestLength
  header_le rtu := by
    have := requestLength_ge rtu
    omega
  need_append rest h := by
    unfold requestLength
    rw [getD_append rest (by omega), getD_append rest (by omega)]

def responseLayout : Layout UInt8 where
  header := 3
  need := responseLength
  header_le rtu := by
    have := responseLength_bounds rtu
    omega
  need_append rest h := by
    unfold responseLength
    rw [getD_append rest (by omega), getD_append rest (by omega), getD_append rest (by omega)]

def tcpLayout : Layout UInt8 where
  header := 6
  need tcp := 6 + lengthField tcp
  header_le tcp := by omega
  need_append rest h := by
    unfold lengthField
    rw [getD_append rest (by omega), getD_append rest (by omega)]

end Layouts

def verdict (check : List UInt8 → Except FrameError Unit)
    : Piece UInt8 → Except (Stop (ModbusError SE TE)) (List UInt8)
  | .whole frame =>
    match check frame with
    | .ok () => .ok frame
    | .error e => .error (.failed e.intoCombined)
  | .oversized => .error (.failed .push)
  | .short => .error (.failed .payloadTooShort)

theorem FrameError.intoCombined_inj {e e' : FrameError}
    : (e.intoCombined : ModbusError SE TE) = e'.intoCombined ↔ e = e' := by
  cases e with
  | serial e => cases e
  | tcp e => cases e
  | crc | push | payloadTooShort | invalidTransactionId | conversionSlice | rtuIllegal =>
    cases e' with
    | serial e => cases e
    | tcp e => cases e
    | crc | push | payloadTooShort | invalidTransactionId | conversionSlice | rtuIllegal =>
      simp [intoCombined]

theorem verdict_ok {check : List UInt8 → Except FrameError Unit} (h : check frame = .ok ())
    : (verdict check (.whole frame) : Except (Stop (ModbusError SE TE)) _) = .ok frame := by
  rw [verdict, h]

theorem verdict_error {check : List UInt8 → Except FrameError Unit} (h : check frame = .error e)
    : (verdict check (.whole frame) : Except (Stop (ModbusError SE TE)) _)
        = .error (.failed e.intoCombined) := by
  rw [verdict, h]

/--
The program, started in `s`, takes the first piece from the stream `rx` of its port and leaves what comes after.
-/
structure Cuts (L : Layout UInt8) (check : List UInt8 → Except FrameError Unit)
    (rx : Session S TS D SE TE → List UInt8)
    (x : Exec (Session S TS D SE TE) (ModbusError SE' TE') (Heapless.Vec UInt8 cap))
    (s : Session S TS D SE TE) : Prop where
  result : (outcome (x s)).map Heapless.Vec.data = verdict check (L.cut cap (rx s)).1
  rest : rx (finalState (x s)) = (L.cut cap (rx s)).2

namespace Cuts

variable {L : Layout UInt8} {check : List UInt8 → Except FrameError Unit}
  {rx : Session S TS D SE TE → List UInt8}
  {x : Exec (Session S TS D SE TE) (ModbusError SE' TE') (Heapless.Vec UInt8 cap)} {s s' : Session S TS D SE TE}

theorem of_ok (hx : x s = .ok f s') (hwhole : L.Whole f.data)
    (hcheck : check f.data = .ok ()) (hrx : rx s = f.data ++ rx s') : Cuts L check rx x s := by
  have hcut := Layout.cut_whole hwhole f.length_le (rx s')
  rw [← hrx] at hcut
  constructor
  . rw [hx, hcut, verdict, hcheck]
    rfl
  . rw [hx, hcut]
    rfl

theorem of_refused {e : FrameError} {e' : ModbusError SE' TE'} (hx : x s = .error (.failed e') s')
    (hwhole : L.Whole frame) (hroom : frame.length ≤ cap)
    (hcheck : check frame = .error e) (he : e.intoCombined = e') (hrx : rx s = frame ++ rx s')
    : Cuts L check rx x s := by
  have hcut := Layout.cut_whole hwhole hroom (rx s')
  rw [← hrx] at hcut
  constructor
  . rw [hx, hcut, verdict, hcheck, ← he]
    rfl
  . rw [hx, hcut]
    rfl

theorem of_oversized (hx : x s = .error (.failed .push) s')
    (hlen : frame.length = cap + 1) (hneed : cap < L.need frame) (hheader : L.header ≤ cap + 1)
    (hrx : rx s = frame ++ rx s') : Cuts L check rx x s := by
  have hcut := Layout.cut_oversized hlen hneed hheader (rx s')
  rw [← hrx] at hcut
  constructor
  . rw [hx, hcut]
    rfl
  . rw [hx, hcut]
    rfl

theorem of_short (hx : x s = .error (.failed .payloadTooShort) s')
    (hneed : (rx s).length < L.need (rx s)) (hroom : (rx s).length ≤ cap) (hend : rx s' = [])
    : Cuts L check rx x s := by
  have hcut := Layout.cut_short hneed hroom
  constructor
  . rw [hx, hcut]
    rfl
  . rw [hx, hcut]
    apply hend

theorem ok_iff (h : Cuts L check rx x s) (f : Heapless.Vec UInt8 cap)
    : outcome (x s) = .ok f ↔ (L.cut cap (rx s)).1 = .whole f.data ∧ check f.data = .ok () := by
  have hmap : outcome (x s) = .ok f ↔ (outcome (x s)).map Heapless.Vec.data = .ok f.data := by
    cases outcome (x s) with
    | ok g => simp [Except.map, Heapless.Vec.ext_iff]
    | error e => simp [Except.map]
  rw [hmap, h.result]
  cases (L.cut cap (rx s)).1 with
  | whole frame =>
    cases hcheck : check frame with
    | ok _ =>
      rw [verdict_ok hcheck]
      simp only [Except.ok.injEq, Piece.whole.injEq, iff_self_and]
      rintro rfl
      exact hcheck
    | error e =>
      rw [verdict_error hcheck]
      simp only [reduceCtorEq, Piece.whole.injEq, false_iff, not_and]
      rintro rfl hok
      rw [hcheck] at hok
      contradiction
  | oversized => simp [verdict]
  | short => simp [verdict]

theorem error_iff (h : Cuts L check rx x s) (e : FrameError)
    : outcome (x s) = .error (.failed e.intoCombined)
        ↔
      (∃ frame, (L.cut cap (rx s)).1 = .whole frame ∧ check frame = .error e)
        ∨ ((L.cut cap (rx s)).1 = .oversized ∧ e = .push)
        ∨ ((L.cut cap (rx s)).1 = .short ∧ e = .payloadTooShort) := by
  have hmap (stop : Stop (ModbusError SE' TE'))
      : outcome (x s) = .error stop ↔ (outcome (x s)).map Heapless.Vec.data = .error stop := by
    cases outcome (x s) with
    | ok g => simp [Except.map]
    | error e => simp [Except.map]
  have hstop (e' : FrameError)
      : (.error (.failed e'.intoCombined) : Except (Stop (ModbusError SE' TE')) (List UInt8))
          = .error (.failed e.intoCombined) ↔ e = e' := by
    simp only [Except.error.injEq, Stop.failed.injEq, FrameError.intoCombined_inj]
    exact eq_comm
  rw [hmap, h.result]
  cases (L.cut cap (rx s)).1 with
  | whole frame =>
    cases hcheck : check frame with
    | ok _ =>
      rw [verdict_ok hcheck]
      simp [hcheck]
    | error e' =>
      rw [verdict_error hcheck, hstop]
      simp [hcheck, eq_comm]
  | oversized =>
    refine (hstop .push).trans ?_
    simp
  | short =>
    refine (hstop .payloadTooShort).trans ?_
    simp

theorem push_iff (h : Cuts L check rx x s) (hcheck : ∀ frame, check frame ≠ .error .push)
    : outcome (x s) = .error (.failed .push) ↔ cap < L.need (rx s) ∧ cap < (rx s).length := by
  rw [← Layout.cut_eq_oversized]
  refine (h.error_iff .push).trans ?_
  simp [hcheck]

theorem tooShort_iff (h : Cuts L check rx x s)
    (hcheck : ∀ frame, L.Whole frame → check frame ≠ .error .payloadTooShort)
    : outcome (x s) = .error (.failed .payloadTooShort)
        ↔
      (rx s).length < L.need (rx s) ∧ (rx s).length ≤ cap := by
  rw [← Layout.cut_eq_short]
  refine (h.error_iff .payloadTooShort).trans ?_
  constructor
  . rintro (⟨frame, hcut, hbad⟩ | ⟨_, hbad⟩ | ⟨hcut, _⟩)
    . exact absurd hbad (hcheck frame (Layout.cut_eq_whole.mp hcut).1)
    . contradiction
    . apply hcut
  . intro hcut
    exact .inr (.inr ⟨hcut, rfl⟩)

theorem refused_iff (h : Cuts L check rx x s)
    : outcome (x s) = .error (.failed .crc)
        ↔
      ∃ frame, (L.Whole frame ∧ frame.length ≤ cap ∧ frame <+: rx s) ∧ check frame = .error .crc := by
  refine (h.error_iff .crc).trans ?_
  simp [Layout.cut_eq_whole]

theorem rest_of_ok (h : Cuts L check rx x s) (hx : outcome (x s) = .ok f)
    : rx s = f.data ++ rx (finalState (x s)) := by
  rw [h.rest]
  apply Layout.cut_rest ((h.ok_iff f).mp hx).1

/--
Frames that lie one after the other on a port are read one after the other, with the verdict on each of them,
as long as the port does not give up.
-/
theorem repeated {idle : Session S TS D SE TE → Prop}
    (hx : ∀ s, idle s → ¬ GivesUp (outcome (x s)) → Cuts L check rx x s ∧ idle (finalState (x s)))
    {frames : List (List UInt8)} (hframes : ∀ frame ∈ frames, L.Whole frame ∧ frame.length ≤ cap)
    (rest : List UInt8) (hrx : rx s = frames.flatten ++ rest) (hidle : idle s)
    (hport : ∀ r ∈ (Exec.repeated x frames.length s).1, ¬ GivesUp r)
    : (Exec.repeated x frames.length s).1.map (Except.map Heapless.Vec.data)
          = frames.map (verdict check ∘ .whole)
        ∧ rx (Exec.repeated x frames.length s).2 = rest := by
  let inv (frames : List (List UInt8)) (s : Session S TS D SE TE) : Prop :=
    (∀ frame ∈ frames, L.Whole frame ∧ frame.length ≤ cap) ∧ rx s = frames.flatten ++ rest ∧ idle s
  have hstep : ∀ frame frames s, inv (frame :: frames) s → ¬ GivesUp (outcome (x s))
      → (outcome (x s)).map Heapless.Vec.data = verdict check (.whole frame)
        ∧ inv frames (finalState (x s)) := by
    rintro frame frames s ⟨hframes, hrx, hidle⟩ hport
    rw [List.forall_mem_cons] at hframes
    obtain ⟨⟨hwhole, hroom⟩, hframes⟩ := hframes
    obtain ⟨hcuts, hidle⟩ := hx s hidle hport
    have hcut := Layout.cut_whole hwhole hroom (frames.flatten ++ rest)
    rw [← List.append_assoc, ← List.flatten_cons, ← hrx] at hcut
    refine ⟨?_, hframes, ?_, hidle⟩
    . rw [hcuts.result, hcut]
    . rw [hcuts.rest, hcut]
  obtain ⟨hresults, _, hend, _⟩ :=
    Exec.repeated_unless GivesUp (Except.map Heapless.Vec.data) inv hstep frames s ⟨hframes, hrx, hidle⟩ hport
  exact ⟨hresults, hend⟩

end Cuts

/--
A read that stops without the port giving up or the program being dropped has come to the end of the stream.
-/
theorem Session.Stopped.of_readStop {rx : Session S TS D SE TE → List UInt8}
    {obs : Event SE TE → List UInt8} {s₀ s : Session S TS D SE TE} {e : Stop (ModbusError SE' TE')}
    (h : Stopped rx obs s₀ e s) (hstop : ReadStop e) (hport : ¬ GivesUp (.error e : Except _ α))
    (hdropped : e ≠ .dropped) : e = .failed .payloadTooShort ∧ rx s = [] := by
  cases e with
  | dropped => contradiction
  | failed e =>
    cases e with
    | payloadTooShort => exact ⟨rfl, h.drained rfl⟩
    | serial e => exact absurd trivial hport
    | tcp e => exact absurd trivial hport
    | crc => cases hstop
    | push => cases hstop
    | invalidTransactionId => cases hstop
    | conversionSlice => cases hstop
    | rtuIllegal => cases hstop

/--
Why the bytes that a read has taken before it ends with `e` are no frame.
-/
inductive Unframed (L : Layout UInt8) (check : List UInt8 → Except FrameError Unit) (cap : Nat)
    : Stop (ModbusError SE' TE') → List UInt8 → Prop where
  | refused {e : FrameError} (hwhole : L.Whole bytes) (hroom : bytes.length ≤ cap)
      (hcheck : check bytes = .error e) (he : e.intoCombined = e') : Unframed L check cap (.failed e') bytes
  | oversized (hlen : bytes.length = cap + 1) (hneed : cap < L.need bytes)
      : Unframed L check cap (.failed .push) bytes
  | stopped (hstop : ReadStop e) (hneed : bytes.length < L.need bytes) (hroom : bytes.length ≤ cap)
      : Unframed L check cap e bytes

/--
What a program has read when it ends and what it leaves when it ends make up what it takes from the stream.
-/
theorem Cuts.of_exits {L : Layout UInt8} {check : List UInt8 → Except FrameError Unit}
    {rx : Session S TS D SE TE → List UInt8} {obs : Event SE TE → List UInt8} {s : Session S TS D SE TE}
    {x : Exec (Session S TS D SE TE) (ModbusError SE' TE') (Heapless.Vec UInt8 cap)}
    (hexits : Exec.Exits (Reached rx obs s) (Stopped rx obs s) x s) (hheader : L.header ≤ cap + 1)
    (hok : ∀ f s', x s = .ok f s' → Yields obs f.data s s' ∧ L.Whole f.data ∧ check f.data = .ok ())
    (herror : ∀ e s', x s = .error e s' → ∃ bytes, Yields obs bytes s s' ∧ Unframed L check cap e bytes)
    (hport : ¬ GivesUp (outcome (x s))) (hdropped : outcome (x s) ≠ .error .dropped) : Cuts L check rx x s := by
  obtain ⟨hreturned, hfailed⟩ := hexits (.refl s)
  cases h : x s with
  | ok f s' =>
    have htaken := (hreturned f s' h).1
    obtain ⟨hreads, hwhole, hcheck⟩ := hok f s' h
    exact Cuts.of_ok h hwhole hcheck (htaken.rx_eq hreads)
  | error e s' =>
    have hstopped := hfailed e s' h
    rw [h, outcome_error] at hport
    rw [h, outcome_error, ne_eq, Except.error.injEq] at hdropped
    have htaken := (hstopped.reached hdropped).1
    obtain ⟨bytes, hreads, hunframed⟩ := herror e s' h
    have hrx := htaken.rx_eq hreads
    cases hunframed with
    | refused hwhole hroom hcheck he => exact Cuts.of_refused h hwhole hroom hcheck he hrx
    | oversized hlen hneed => exact Cuts.of_oversized h hlen hneed hheader hrx
    | stopped hstop hneed hroom =>
      obtain ⟨rfl, hend⟩ := hstopped.of_readStop hstop hport hdropped
      rw [hend, List.append_nil] at hrx
      rw [← hrx] at hneed hroom
      exact Cuts.of_short h hneed hroom hend

namespace ModbusTcp

variable [Device TS TE] [InOrder TS] {s : Session S TS D SE TE}

theorem listen_cuts (hport : ¬ GivesUp (outcome (listen s))) (hdropped : outcome (listen s) ≠ .error .dropped)
    : Cuts tcpLayout (fun _ => .ok ()) tcpIn listen s := by
  apply Cuts.of_exits (listen_exits s) (by decide) _ _ hport hdropped
  . intro f s' h
    obtain ⟨hreads, tid, pid, body, hf, hbody⟩ := listen_ok h
    refine ⟨hreads, ?_, rfl⟩
    show f.data.length = 6 + lengthField f.data
    rw [hf, length_tcpFrame, lengthField_tcpFrame (by omega)]
  . intro e s' h
    obtain ⟨bytes, hreads, hcases⟩ := listen_error h
    refine ⟨bytes, hreads, ?_⟩
    obtain ⟨rfl, hlen, hneed⟩ | ⟨hstop, hroom, hneed⟩ := hcases
    . rw [hlen] at hneed
      exact .oversized hlen hneed
    . exact .stopped hstop hneed hroom

theorem listen_cuts_idle (hidle : s.deadline = none) (hport : ¬ GivesUp (outcome (listen s)))
    : Cuts tcpLayout (fun _ => .ok ()) tcpIn listen s ∧ (finalState (listen s)).deadline = none := by
  obtain ⟨hdropped, hend⟩ := not_dropped (listen_exits s) hidle
  exact ⟨listen_cuts hport hdropped, hend⟩

end ModbusTcp

namespace ModbusRtu

variable [Device S SE] [InOrder S] {s : Session S TS D SE TE}

theorem listen_cuts (hport : ¬ GivesUp (outcome (listen s))) (hdropped : outcome (listen s) ≠ .error .dropped)
    : Cuts requestLayout checkCrc serialIn listen s := by
  apply Cuts.of_exits (listen_exits s) (by decide) _ _ hport hdropped
  . intro f s' h
    obtain ⟨hreads, hwhole, hbody⟩ := listen_ok h
    exact ⟨hreads, hwhole, checkCrc_eq_ok.mpr hbody⟩
  . intro e s' h
    obtain ⟨bytes, hreads, hcases⟩ := listen_error h
    refine ⟨bytes, hreads, ?_⟩
    obtain ⟨rfl, hwhole, hroom, hcrc⟩ | ⟨rfl, hlen, hneed⟩ | ⟨hstop, hneed, hroom⟩ := hcases
    . exact .refused hwhole hroom hcrc rfl
    . rw [hlen] at hneed
      exact .oversized hlen hneed
    . exact .stopped hstop hneed hroom

theorem listen_cuts_idle (hidle : s.deadline = none) (hport : ¬ GivesUp (outcome (listen s)))
    : Cuts requestLayout checkCrc serialIn listen s ∧ (finalState (listen s)).deadline = none := by
  obtain ⟨hdropped, hend⟩ := not_dropped (listen_exits s) hidle
  exact ⟨listen_cuts hport hdropped, hend⟩

theorem receive_cuts (hport : ¬ GivesUp (outcome (receive s))) (hdropped : outcome (receive s) ≠ .error .dropped)
    : Cuts responseLayout checkCrc serialIn receive s := by
  apply Cuts.of_exits (receive_exits s) (by decide) _ _ hport hdropped
  . intro r s' h
    obtain ⟨hreads, hwhole, hbody⟩ := receive_ok h
    exact ⟨hreads, hwhole, checkCrc_eq_ok.mpr hbody⟩
  . intro e s' h
    obtain ⟨bytes, hreads, hcases⟩ := receive_error h
    refine ⟨bytes, hreads, ?_⟩
    have hbounds := responseLength_bounds bytes
    obtain ⟨rfl, hwhole, hcrc⟩ | ⟨hstop, hneed⟩ := hcases
    . exact .refused hwhole (by omega) hcrc rfl
    . exact .stopped hstop hneed (by omega)

theorem receive_cuts_idle (hidle : s.deadline = none) (hport : ¬ GivesUp (outcome (receive s)))
    : Cuts responseLayout checkCrc serialIn receive s ∧ (finalState (receive s)).deadline = none := by
  obtain ⟨hdropped, hend⟩ := not_dropped (receive_exits s) hidle
  exact ⟨receive_cuts hport hdropped, hend⟩

end ModbusRtu

end ModbusBridge
