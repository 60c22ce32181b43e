import ModbusBridge.Framing.Cut

/-!
This module contains all the frames that a reader cuts off a stream, one after the other, until something is left
that is not a whole frame or does not fit.
-/

namespace Framing
namespace Layout

variable {α : Type} {L : Layout α} {cap : Nat} {stream stream' frame : List α}

def frames (L : Layout α) (cap : Nat) (stream : List α) : List (List α) :=
  match (L.cut cap stream).1 with
  | .whole frame =>
    if _h : (L.cut cap stream).2.length < stream.length then
      frame :: frames L cap (L.cut cap stream).2
    else
      []
  | .oversized => []
  | .short => []
termination_by stream.length

theorem frames_cons (h : L.Whole frame) (hroom : frame.length ≤ cap) (hne : frame ≠ []) (rest : List α)
    : L.frames cap (frame ++ rest) = frame :: L.frames cap rest := by
  have hpos := List.length_pos_iff.mpr hne
  rw [frames, cut_whole h hroom]
  dsimp only
  rw [dif_pos (by rw [List.length_append]; omega)]

theorem frames_eq_nil (h : ∀ frame, (L.cut cap stream).1 ≠ .whole frame) : L.frames cap stream = [] := by
  rw [frames]
  split
  . next heq => exact absurd heq (h _)
  . rfl
  . rfl

theorem frames_nil (hneed : 0 < L.need []) : L.frames cap [] = [] := by
  apply frames_eq_nil
  intro frame h
  obtain ⟨hwhole, _, hstart⟩ := cut_eq_whole.mp h
  have hlen := hwhole.need_eq hstart
  rw [List.prefix_nil.mp hstart, List.length_nil] at hlen
  omega

/--
More input does not change the frames that there are already.
-/
theorem frames_mono (h : stream <+: stream') : L.frames cap stream <+: L.frames cap stream' := by
  fun_induction frames L cap stream generalizing stream' with
  | case1 stream frame hcut hlt ih =>
    obtain ⟨more, rfl⟩ := h
    obtain ⟨hwhole, hroom, _⟩ := cut_eq_whole.mp hcut
    have hrest := cut_rest hcut
    have hne : frame ≠ [] := by
      rintro rfl
      rw [List.nil_append] at hrest
      rw [← hrest] at hlt
      omega
    generalize (L.cut cap stream).2 = rest at hrest ih
    rw [hrest, List.append_assoc, frames_cons hwhole hroom hne, List.prefix_cons_inj]
    apply ih
    apply List.prefix_append
  | case2 | case3 | case4 => apply List.nil_prefix

end Layout
end Framing
