import ModbusBridge.Conformance.Copies
import ModbusBridge.Lemmas.Machine
import ModbusBridge.Lemmas.Run

/-!
This module contains the refinement for all four copies of `next` on ports of any speed: as long as no call gives up,
a run is that of the program on four streams of bytes.
-/

namespace ModbusBridge

open Effect EmbeddedIo Session

variable {S TS D SE TE : Type} [Device S SE] [Device TS TE] [ReadReady S SE] [ReadReady TS TE] [DelayNs D]
  [Passive S] [Passive TS] [Lossless S] [Lossless TS]

/--
A session that has never asked in vain whether a port is ready, and a session with the view `v` that has done the
same without asking.
-/
def Tracks (v : View) (s : Session S TS D SE TE) : Prop :=
  ∃ p s', Mirrors False p s s' ∧ At v s' ∧ ¬ PollFailed p s

/--
The call does not report a timeout, and no port fails to tell whether it is ready.
-/
def Call.Smooth (c : Call TS) (s : Session S TS D SE TE) : Prop :=
  c.answer s ≠ some (.error (.failed .timeout)) ∧ ∀ e ∈ c.events s, e.isFailedPoll = false

instance [DecidableEq SE] [DecidableEq TE] (c : Call TS) (s : Session S TS D SE TE) : Decidable (c.Smooth s) :=
  inferInstanceAs (Decidable (_ ∧ _))

omit [DelayNs D] in
theorem tracks_self {s : Session S TS D SE TE} (h : At v s) : Tracks v s := by
  refine ⟨s.trace, s, ?_, h, ?_⟩
  . exact ⟨Passive.refl _, Passive.refl _, rfl, rfl, ⟨[], [], by simp, by simp, rfl⟩, fun _ => h.deadline, h.deadline⟩
  . rintro ⟨t, ht, e, he, _⟩
    rw [List.self_eq_append_right.mp ht] at he
    contradiction

omit [Device S SE] [Device TS TE] [ReadReady S SE] [ReadReady TS TE] [DelayNs D] [Passive S] [Passive TS] [Lossless S]
  [Lossless TS] in
theorem PollFailed.before {p : List (Event SE TE)} {s s₁ : Session S TS D SE TE} (htrace : s₁.trace = s.trace ++ u)
    (hp : p <+: s.trace) (hu : ∀ e ∈ u, e.isFailedPoll = false) (h : PollFailed p s₁) : PollFailed p s := by
  obtain ⟨t, ht⟩ := hp
  obtain ⟨t₁, ht₁, e, he, hfailed⟩ := h
  rw [htrace, ← ht, List.append_assoc, List.append_right_inj] at ht₁
  rw [← ht₁, List.mem_append] at he
  obtain he | he := he
  . exact ⟨t, ht.symm, e, he, hfailed⟩
  . rw [hu e he] at hfailed
    contradiction

theorem Mode.next_tracks (mode : Mode) {flavour : Flavour} {v : View} {s : Session S TS D SE TE} (h : Tracks v s)
    (hintime : outcome (mode.next flavour s) ≠ .error (.failed .timeout))
    (hpolls : ∀ e ∈ during (mode.next flavour) s, e.isFailedPoll = false)
    : outcome (mode.next flavour s) = outcome (mode.step v)
        ∧ Tracks (finalState (mode.step v : EStateM.Result (Stop (BridgeError SE TE)) _ _))
            (finalState (mode.next flavour s)) := by
  obtain ⟨p, s', hmirrors, hat, hasked⟩ := h
  obtain ⟨t, _, ht, _⟩ := hmirrors.trace
  have hasked' : ¬ PollFailed p (finalState (mode.next flavour s)) := by
    intro hfailed
    apply hasked
    apply hfailed.before (mode.trace_next flavour s) ⟨t, ht.symm⟩ hpolls
  obtain ⟨e, s₁, herror, _, hgave⟩ | ⟨houtcome, hend⟩ := mode.next_mirrors flavour s s' hmirrors
  . rw [herror] at hintime hasked'
    obtain rfl | hfailed := hgave
    . exact absurd rfl hintime
    . exact absurd hfailed hasked'
  . obtain ⟨houtcome', hat'⟩ := (mode.next_implements .sync).ends v s' hat
    exact ⟨houtcome.trans houtcome', p, _, hend, hat', hasked'⟩

theorem Call.step_tracks {c : Call TS} (hsteady : ∀ stream, c = .accept stream → Lossless.faults stream = 0)
    {v : View} {s : Session S TS D SE TE} (h : Tracks v s) (hsmooth : c.Smooth s)
    : c.answer s = c.expected v ∧ Tracks (c.advance SE v) (c.perform s) := by
  obtain ⟨hintime, hpolls⟩ := hsmooth
  cases c with
  | accept stream =>
    obtain ⟨p, s', hmirrors, hat, _⟩ := h
    refine ⟨rfl, [], s'.owner.accept stream, ?_, hat.accept (hsteady stream rfl), ?_⟩
    . exact { hmirrors with
        stream := Passive.refl _
        transactionId := rfl
        trace := ⟨[], [], rfl, rfl, rfl⟩
        deadline := fun _ => rfl
        idle := rfl }
    . rintro ⟨t, ht, e, he, _⟩
      rw [List.nil_append] at ht
      rw [← ht] at he
      contradiction
  | bridge flavour =>
    obtain ⟨hanswer, hend⟩ := Mode.bridge.next_tracks h (fun htimeout => hintime (congrArg some htimeout)) hpolls
    exact ⟨congrArg some hanswer, hend⟩
  | client flavour =>
    obtain ⟨hanswer, hend⟩ := Mode.client.next_tracks h (fun htimeout => hintime (congrArg some htimeout)) hpolls
    exact ⟨congrArg some hanswer, hend⟩

theorem Event.silent_of_isPoll {e : Event SE TE} (h : e.isPoll = true) : e.serialTx = [] ∧ e.tcpTx = [] := by
  unfold Event.isPoll at h
  split at h
  . exact ⟨rfl, rfl⟩
  . exact ⟨rfl, rfl⟩
  . exact ⟨rfl, rfl⟩
  . contradiction

omit [DelayNs D] in
theorem Tracks.sent {v : View} {s : Session S TS D SE TE} (h : Tracks v s)
    : Trace.serialTx s.trace = v.serialTx ∧ Trace.tcpTx s.trace = v.tcpTx ∧ s.transactionId = v.transactionId := by
  obtain ⟨p, s', hmirrors, hat, _⟩ := h
  obtain ⟨t, t', ht, ht', hsame⟩ := hmirrors.trace
  have hobs {obs : Event SE TE → List UInt8} (hpoll : ∀ e, e.isPoll = true → obs e = [])
      : s.trace.flatMap obs = s'.trace.flatMap obs := by
    rw [ht, ht', List.flatMap_append, List.flatMap_append, ← Trace.flatMap_operations hpoll t, hsame,
      Trace.flatMap_operations hpoll t']
  rw [← hat.serialTx, ← hat.tcpTx, ← hat.transactionId, hmirrors.transactionId]
  exact ⟨hobs fun _ he => (Event.silent_of_isPoll he).1, hobs fun _ he => (Event.silent_of_isPoll he).2, rfl⟩

/--
However long the ports and the timers take: as long as no call gives up, a run of any copies answers and sends what
the program does.
-/
theorem timed_copies_refine (cs : List (Call TS))
    (hsteady : ∀ stream, .accept stream ∈ cs → Lossless.faults stream = 0) {v : View} {s : Session S TS D SE TE}
    (h : At v s) (hsmooth : ∀ x ∈ callsOf Call.perform cs s, x.2.Smooth x.1)
    : answersOf Call.perform Call.answer cs s = answersOf (Call.advance SE) Call.expected cs v
        ∧ Trace.serialTx (afterCalls Call.perform cs s).trace = (afterCalls (Call.advance SE) cs v).serialTx
        ∧ Trace.tcpTx (afterCalls Call.perform cs s).trace = (afterCalls (Call.advance SE) cs v).tcpTx
        ∧ (afterCalls Call.perform cs s).transactionId = (afterCalls (Call.advance SE) cs v).transactionId := by
  have hstep : ∀ c ∈ cs, ∀ (v : View) (s : Session S TS D SE TE), Tracks v s → c.Smooth s →
      c.answer s = c.expected v ∧ Tracks (c.advance SE v) (c.perform s) := by
    intro c hc v s
    apply Call.step_tracks
    rintro stream rfl
    apply hsteady stream hc
  obtain ⟨hanswers, hend⟩ := answersOf_simulates_of hstep hsmooth (tracks_self h)
  exact ⟨hanswers, hend.sent⟩

/--
All copies in turn, on two streams.
-/
def allCopies : List (Call MockStream) :=
  [
    .bridge .syncTimed,
    .bridge .asyncTimed,
    .accept (MockStream.withRx (tcpFrame 9 0 readRequest ++ tcpFrame 10 0 readRequest)),
    .bridge .async,
    .bridge .sync
  ]

theorem timed_copies_refine_all
    : answersOf Call.perform Call.answer allCopies
          (timedSession ((List.replicate 4 (rtuFrame [0x11, 0x83, 0x02])).flatten)
            (tcpFrame 1 0 readRequest ++ tcpFrame 2 0 readRequest))
        =
      [
        some (.ok (.transaction (.ofBytes readRequest))),
        some (.ok (.transaction (.ofBytes readRequest))),
        none,
        some (.ok (.transaction (.ofBytes readRequest))),
        some (.ok (.transaction (.ofBytes readRequest)))
      ] := by
  have hstart : At ⟨(List.replicate 4 (rtuFrame [0x11, 0x83, 0x02])).flatten,
      tcpFrame 1 0 readRequest ++ tcpFrame 2 0 readRequest, [], [], 0⟩
      (timedSession ((List.replicate 4 (rtuFrame [0x11, 0x83, 0x02])).flatten)
        (tcpFrame 1 0 readRequest ++ tcpFrame 2 0 readRequest)) := { mockSession_at _ _ with }
  rw [(timed_copies_refine allCopies (by simp [allCopies, Lossless.faults]) hstart (by decide +kernel)).1]
  decide +kernel

end ModbusBridge
