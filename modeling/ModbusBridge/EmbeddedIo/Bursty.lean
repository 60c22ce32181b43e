import ModbusBridge.EmbeddedIo.Lossless

/-!
This module contains lines on which the bytes come in bursts, with a silence after each of them. A silence is a wait
that is long enough for a read to be dropped, and once that has happened the next burst has begun.
-/

namespace EmbeddedIo

open Effect

structure Bursts where
  /-- What can still be read before the next silence. -/
  now : List UInt8
  later : List (List UInt8)
  deriving DecidableEq, Repr

/--
The bursts after a silence. A silence that outlasts several operations is a number of empty bursts.
-/
def Bursts.pass (b : Bursts) : Bursts := ⟨b.later.headD [], b.later.tail⟩

/--
The same bursts, if `bytes` come before them without a silence.
-/
def Bursts.before (b : Bursts) (bytes : List UInt8) : Bursts := ⟨bytes ++ b.now, b.later⟩

/--
The same bursts, if `bytes` and then a silence come before them.
-/
def Bursts.interrupted (b : Bursts) (bytes : List UInt8) : Bursts := ⟨bytes, b.now :: b.later⟩

/--
Within a burst nothing is ever pending. Writing is possible at any time.
-/
class Bursty (σ : Type) {ε : outParam Type} [Device σ ε] where
  rx : σ → Bursts
  /-- How long a read is pending at least if it has to wait for the end of a silence. -/
  silence : Nat
  read_burst {d : σ} (n : Nat) : (rx d).now ≠ [] →
    (Device.read d n).polls = 0
      ∧ ∃ bytes, (Device.read d n).result = .ok bytes ∧ (0 < n → bytes.val ≠ [])
          ∧ (rx d).now = bytes.val ++ (rx (Device.read d n).next).now
          ∧ (rx (Device.read d n).next).later = (rx d).later
  read_silence {d : σ} (n : Nat) : (rx d).now = [] →
    silence ≤ (Device.read d n).polls ∧ rx (Device.read d n).dropped = (rx d).pass
  write_ok (d : σ) (buf : List UInt8) (h : buf ≠ []) :
    (Device.write d buf h).polls = 0 ∧ (∃ n, (Device.write d buf h).result = .ok n)
      ∧ rx (Device.write d buf h).next = rx d
  flush_ok (d : σ) :
    (Device.flush d).polls = 0 ∧ (Device.flush d).result = .ok () ∧ rx (Device.flush d).next = rx d

structure MockBursts where
  bursts : Bursts
  deriving DecidableEq, Repr

namespace MockBursts

def started (b : Bursts) (n polls : Nat) (dropped : MockBursts)
    : Completion MockBursts ε {bytes : List UInt8 // bytes.length ≤ n} where
  polls := polls
  result := .ok ⟨b.now.take n, List.length_take_le _ _⟩
  next := ⟨⟨b.now.drop n, b.later⟩⟩
  dropped := dropped

theorem length_valid {buf : List UInt8} (h : buf ≠ []) : 0 < buf.length ∧ buf.length ≤ buf.length :=
  ⟨List.length_pos_iff.mpr h, Nat.le_refl _⟩

instance : Device MockBursts Empty where
  read d n :=
    if d.bursts.now = [] then
      started d.bursts.pass n 1000 ⟨d.bursts.pass⟩
    else
      started d.bursts n 0 d
  write d buf hbuf := { polls := 0, result := .ok ⟨buf.length, length_valid hbuf⟩, next := d, dropped := d }
  flush d := { polls := 0, result := .ok (), next := d, dropped := d }

instance : ReadReady MockBursts Empty where
  readReady d := (.ok !d.bursts.now.isEmpty, d)

theorem read_of_nil {d : MockBursts} (h : d.bursts.now = []) (n : Nat)
    : Device.read d n = started d.bursts.pass n 1000 ⟨d.bursts.pass⟩ := if_pos h

theorem read_of_ne_nil {d : MockBursts} (h : d.bursts.now ≠ []) (n : Nat)
    : Device.read d n = started d.bursts n 0 d := if_neg h

instance : Bursty MockBursts where
  rx := bursts
  silence := 1000
  read_burst := by
    intro d n hnow
    rw [read_of_ne_nil hnow]
    refine ⟨rfl, _, rfl, ?_, (List.take_append_drop n d.bursts.now).symm, rfl⟩
    intro hpos hnil
    obtain hzero | hnil := List.take_eq_nil_iff.mp hnil
    . omega
    . exact hnow hnil
  read_silence := by
    intro d n hnow
    rw [read_of_nil hnow]
    exact ⟨Nat.le_refl 1000, rfl⟩
  write_ok d buf hbuf := ⟨rfl, ⟨_, rfl⟩, rfl⟩
  flush_ok d := ⟨rfl, rfl, rfl⟩

end MockBursts

/--
The line as it would be if it were closed at the end of the burst instead of falling silent.
-/
structure Closing (σ : Type) where
  port : σ

namespace Closing

variable {σ ε : Type}

def wrap (c : Completion σ ε α) : Completion (Closing σ) ε α where
  polls := c.polls
  result := c.result
  next := ⟨c.next⟩
  dropped := ⟨c.dropped⟩

variable [Device σ ε] [Bursty σ]

instance : Device (Closing σ) ε where
  read d n :=
    if (Bursty.rx d.port).now = [] then
      { polls := 0, result := .ok ⟨[], Nat.zero_le n⟩, next := d, dropped := d }
    else
      wrap (Device.read d.port n)
  write d buf hbuf := wrap (Device.write d.port buf hbuf)
  flush d := wrap (Device.flush d.port)

theorem read_of_nil {d : Closing σ} (h : (Bursty.rx d.port).now = []) (n : Nat)
    : Device.read d n = { polls := 0, result := .ok ⟨[], Nat.zero_le n⟩, next := d, dropped := d } := if_pos h

theorem read_of_ne_nil {d : Closing σ} (h : (Bursty.rx d.port).now ≠ []) (n : Nat)
    : Device.read d n = wrap (Device.read d.port n) := if_neg h

instance : Lossless (Closing σ) where
  rx d := (Bursty.rx d.port).now
  faults _ := 0
  read_ok := by
    intro d n bytes h
    refine ⟨?_, Nat.le_refl 0⟩
    by_cases hnow : (Bursty.rx d.port).now = []
    . rw [read_of_nil hnow] at h ⊢
      injection h with h
      rw [← h, List.nil_append]
    . obtain ⟨_, bytes', hresult, _, hsplit, _⟩ := Bursty.read_burst n hnow
      rw [read_of_ne_nil hnow] at h ⊢
      injection hresult.symm.trans h with h
      rw [← h]
      exact hsplit
  read_ne_nil := by
    intro d n bytes h hpos hne
    obtain ⟨_, bytes', hresult, hbytes, _⟩ := Bursty.read_burst n hne
    rw [read_of_ne_nil hne] at h
    injection hresult.symm.trans h with h
    rw [← h]
    apply hbytes hpos
  read_error := by
    intro d n e h
    by_cases hnow : (Bursty.rx d.port).now = []
    . rw [read_of_nil hnow] at h
      contradiction
    . obtain ⟨_, bytes', hresult, _⟩ := Bursty.read_burst n hnow
      rw [read_of_ne_nil hnow] at h
      exact absurd (hresult.symm.trans h) nofun
  write_ok d buf h := by
    obtain ⟨_, hresult, hrx⟩ := Bursty.write_ok d.port buf h
    exact ⟨hresult, congrArg Bursts.now hrx, Nat.le_refl 0⟩
  flush_ok d := by
    obtain ⟨_, hresult, hrx⟩ := Bursty.flush_ok d.port
    exact ⟨hresult, congrArg Bursts.now hrx, Nat.le_refl 0⟩

end Closing

/--
Whatever the provider has been used for before, a delay of `ms` is over after less than `n` polls.
-/
def Expires [DelayNs δ] (n : Nat) (ms : UInt32) (d : δ) : Prop :=
  ∀ used : List UInt32, (DelayNs.delayMs (used.foldl (fun d ms => (DelayNs.delayMs d ms).2) d) ms).1 < n

namespace Expires

variable {δ : Type} [DelayNs δ] {n : Nat} {ms : UInt32} {d : δ}

theorem polls_lt (h : Expires n ms d) : (DelayNs.delayMs d ms).1 < n := h []

theorem next (h : Expires n ms d) (ms' : UInt32) : Expires n ms (DelayNs.delayMs d ms').2 := by
  intro used
  apply h (ms' :: used)

theorem mock {d : MockDelay} (h : d.polls < n) (ms : UInt32) : Expires n ms d := by
  intro used
  have hused : used.foldl (fun d ms => (DelayNs.delayMs d ms).2) d = d := by
    induction used with
    | nil => rfl
    | cons ms used ih => apply ih
  rw [hused]
  exact h

end Expires

end EmbeddedIo
