/-!
This module contains the operations on slices and lengths that panic outside their range. A panic is
`none`, so that a function built from them has a value if and only if it does not panic.
-/

namespace Rust

namespace Usize

def sub (a b : Nat) : Option Nat :=
  if b ≤ a then
    some (a - b)
  else
    none

@[simp]
theorem sub_of_le (h : b ≤ a) : sub a b = some (a - b) := if_pos h

/--
A `usize` has at least 16 bits.
-/
def add (a b : Nat) : Option Nat :=
  if a + b < 65536 then
    some (a + b)
  else
    none

@[simp]
theorem add_of_lt (h : a + b < 65536) : add a b = some (a + b) := if_pos h

theorem add_eq_some (h : add a b = some c) : c = a + b := by
  unfold add at h
  split at h
  . injection h with h
    exact h.symm
  . contradiction

end Usize

namespace I32

/--
The sum of two numbers that are not negative.
-/
def add (a b : Nat) : Option Nat :=
  if a + b < 2147483648 then
    some (a + b)
  else
    none

@[simp]
theorem add_of_lt (h : a + b < 2147483648) : add a b = some (a + b) := if_pos h

theorem add_eq_some (h : add a b = some c) : c = a + b := by
  unfold add at h
  split at h
  . injection h with h
    exact h.symm
  . contradiction

end I32

namespace Slice

variable {α : Type}

/--
`s[i]`
-/
def index (s : List α) (i : Nat) : Option α := s[i]?

/--
`&s[a..]`
-/
def sliceFrom (s : List α) (a : Nat) : Option (List α) :=
  if a ≤ s.length then
    some (s.drop a)
  else
    none

/--
`&s[a..b]`
-/
def slice (s : List α) (a b : Nat) : Option (List α) :=
  if a ≤ b ∧ b ≤ s.length then
    some ((s.drop a).take (b - a))
  else
    none

def splitAt (s : List α) (mid : Nat) : Option (List α × List α) :=
  if mid ≤ s.length then
    some (s.splitAt mid)
  else
    none

/--
`s.get(..n)`
-/
def getTo (s : List α) (n : Nat) : Option (List α) :=
  if n ≤ s.length then
    some (s.take n)
  else
    none

/--
What becomes of `s` when the first elements of `&mut s[a..]` are replaced.
-/
def overwrite (s : List α) (a : Nat) (new : List α) : List α := s.take a ++ new ++ s.drop (a + new.length)

@[simp]
theorem index_of_lt {s : List α} (h : i < s.length) : index s i = some s[i] := List.getElem?_eq_getElem h

@[simp]
theorem sliceFrom_of_le {s : List α} (h : a ≤ s.length) : sliceFrom s a = some (s.drop a) := if_pos h

@[simp]
theorem slice_of_le {s : List α} (h : a ≤ b) (h' : b ≤ s.length)
    : slice s a b = some ((s.drop a).take (b - a)) := if_pos ⟨h, h'⟩

@[simp]
theorem splitAt_of_le {s : List α} (h : mid ≤ s.length) : splitAt s mid = some (s.splitAt mid) := if_pos h

theorem sliceFrom_eq_some {s : List α} (h : sliceFrom s a = some rest) : rest = s.drop a := by
  unfold sliceFrom at h
  split at h
  . injection h with h
    exact h.symm
  . contradiction

theorem length_overwrite {s new : List α} (h : a + new.length ≤ s.length) : (overwrite s a new).length = s.length := by
  unfold overwrite
  simp only [List.length_append, List.length_take, List.length_drop]
  omega

theorem sliceFrom_append (front old : List α) : sliceFrom (front ++ old) front.length = some old := by
  rw [sliceFrom_of_le (by simp), List.drop_left]

theorem overwrite_append (front old new : List α)
    : overwrite (front ++ old) front.length new = front ++ new ++ old.drop new.length := by
  unfold overwrite
  rw [List.take_left, List.drop_length_add_append]

end Slice

end Rust
