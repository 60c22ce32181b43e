import Mathlib.Data.List.Infix

/-!
This module contains streams of frames that tell their own length in a header, and how a reader that has room
for so many elements cuts such a stream.
-/

namespace Framing

structure Layout (α : Type) where
  /-- How many elements at the start of a frame determine its length. -/
  header : Nat
  need : List α → Nat
  header_le (stream : List α) : header ≤ need stream
  need_append {stream : List α} (rest : List α) : header ≤ stream.length → need (stream ++ rest) = need stream

inductive Piece (α : Type) where
  | whole (frame : List α)
  | oversized
  | short
  deriving DecidableEq

namespace Layout

variable {α : Type} {L : Layout α} {stream frame rest : List α} {cap : Nat}

def Whole (L : Layout α) (frame : List α) : Prop := frame.length = L.need frame

/--
The first piece of a stream and what comes after it. A frame is too long as soon as there is one element of
it more than there is room for, and what remains of it then stays in the stream.
-/
def cut (L : Layout α) (cap : Nat) (stream : List α) : Piece α × List α :=
  if min (L.need stream) (cap + 1) ≤ stream.length then
    if L.need stream ≤ cap then
      (.whole (stream.take (L.need stream)), stream.drop (L.need stream))
    else
      (.oversized, stream.drop (cap + 1))
  else
    (.short, [])

theorem need_of_start (hframe : L.header ≤ frame.length) (hstart : frame <+: stream)
    : L.need stream = L.need frame := by
  obtain ⟨rest, rfl⟩ := hstart
  apply L.need_append rest hframe

theorem Whole.need_eq (h : L.Whole frame) (hstart : frame <+: stream) : L.need stream = frame.length := by
  have hheader : L.header ≤ frame.length := by
    rw [show frame.length = L.need frame from h]
    apply L.header_le
  rw [need_of_start hheader hstart]
  exact h.symm

theorem whole_take (hlen : L.need stream ≤ stream.length) : L.Whole (stream.take (L.need stream)) := by
  have htake : (stream.take (L.need stream)).length = L.need stream := List.length_take_of_le hlen
  have hheader : L.header ≤ (stream.take (L.need stream)).length := by
    rw [htake]
    apply L.header_le
  exact htake.trans (need_of_start hheader (List.take_prefix _ stream))

theorem exists_whole_iff
    : (∃ frame, L.Whole frame ∧ frame.length ≤ cap ∧ frame <+: stream)
        ↔
      L.need stream ≤ stream.length ∧ L.need stream ≤ cap := by
  constructor
  . rintro ⟨frame, hwhole, hroom, hstart⟩
    rw [hwhole.need_eq hstart]
    exact ⟨hstart.length_le, hroom⟩
  . rintro ⟨hlen, hroom⟩
    refine ⟨_, whole_take hlen, ?_, List.take_prefix _ stream⟩
    rw [List.length_take_of_le hlen]
    apply hroom

theorem cut_whole (h : L.Whole frame) (hroom : frame.length ≤ cap) (rest : List α)
    : L.cut cap (frame ++ rest) = (.whole frame, rest) := by
  have hneed := h.need_eq (List.prefix_append frame rest)
  unfold cut
  rw [hneed, if_pos, if_pos hroom, List.take_left, List.drop_left]
  rw [List.length_append]
  omega

theorem cut_oversized (hlen : frame.length = cap + 1) (hneed : cap < L.need frame)
    (hheader : L.header ≤ cap + 1) (rest : List α) : L.cut cap (frame ++ rest) = (.oversized, rest) := by
  rw [← hlen] at hheader
  unfold cut
  rw [L.need_append rest hheader, if_pos, if_neg (by omega), ← hlen, List.drop_left]
  rw [List.length_append]
  omega

theorem cut_short (hneed : stream.length < L.need stream) (hroom : stream.length ≤ cap)
    : L.cut cap stream = (.short, []) := by
  unfold cut
  rw [if_neg]
  omega

theorem cut_eq_whole
    : (L.cut cap stream).1 = .whole frame ↔ L.Whole frame ∧ frame.length ≤ cap ∧ frame <+: stream := by
  constructor
  . unfold cut
    split
    . next hlen =>
      split
      . next hroom =>
        have hlen : L.need stream ≤ stream.length := by omega
        intro h
        injection h with h
        rw [← h, List.length_take_of_le hlen]
        exact ⟨whole_take hlen, hroom, List.take_prefix _ stream⟩
      . exact nofun
    . exact nofun
  . rintro ⟨hwhole, hroom, rest, rfl⟩
    rw [cut_whole hwhole hroom]

theorem cut_eq_oversized : (L.cut cap stream).1 = .oversized ↔ cap < L.need stream ∧ cap < stream.length := by
  unfold cut
  split
  . split
    . simp
      omega
    . simp
      omega
  . simp
    omega

theorem cut_eq_short
    : (L.cut cap stream).1 = .short ↔ stream.length < L.need stream ∧ stream.length ≤ cap := by
  unfold cut
  split
  . split
    . simp
      omega
    . simp
      omega
  . simp
    omega

theorem cut_rest (h : (L.cut cap stream).1 = .whole frame) : stream = frame ++ (L.cut cap stream).2 := by
  obtain ⟨hwhole, hroom, rest, rfl⟩ := cut_eq_whole.mp h
  rw [cut_whole hwhole hroom]

/--
A whole frame is not affected by what comes after it.
-/
theorem cut_longer (h : (L.cut cap stream).1 = .whole frame) (hle : stream <+: longer)
    : (L.cut cap longer).1 = .whole frame ∧ (L.cut cap stream).2 <+: (L.cut cap longer).2 := by
  obtain ⟨hwhole, hroom, rest, rfl⟩ := cut_eq_whole.mp h
  obtain ⟨more, rfl⟩ := hle
  rw [List.append_assoc, cut_whole hwhole hroom, cut_whole hwhole hroom]
  exact ⟨rfl, List.prefix_append rest more⟩

theorem cut_rest_oversized (h : (L.cut cap stream).1 = .oversized)
    : (L.cut cap stream).2 = stream.drop (cap + 1) := by
  obtain ⟨hneed, hlen⟩ := cut_eq_oversized.mp h
  unfold cut
  rw [if_pos (by omega), if_neg (by omega)]

/--
What is taken of a frame that is too long still shows that it is.
-/
theorem exists_oversized (h : (L.cut cap stream).1 = .oversized) (hheader : L.header ≤ cap + 1)
    : ∃ start, stream = start ++ (L.cut cap stream).2 ∧ start.length = cap + 1 ∧ cap < L.need start := by
  obtain ⟨hneed, hlen⟩ := cut_eq_oversized.mp h
  have htake : (stream.take (cap + 1)).length = cap + 1 := List.length_take_of_le hlen
  refine ⟨stream.take (cap + 1), ?_, htake, ?_⟩
  . rw [cut_rest_oversized h, List.take_append_drop]
  . rwa [← need_of_start (by rwa [htake]) (List.take_prefix _ stream)]

theorem cut_rest_short (h : (L.cut cap stream).1 = .short) : (L.cut cap stream).2 = [] := by
  obtain ⟨hneed, hroom⟩ := cut_eq_short.mp h
  rw [cut_short hneed hroom]

end Layout

end Framing
