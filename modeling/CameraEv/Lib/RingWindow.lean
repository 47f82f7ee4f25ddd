import CameraEv.Lib.Exec

/-!
# Windows of a circular buffer

The `n` cells of a circular buffer that start at cell `h` and run on from its
first cell past its end. The start may be the buffer's length, which names the
same window as `0`: a cursor that stops at the end of the buffer without being
reset is then no special case. `window_read_*` and `window_write` are what a
reader and a writer of at most two contiguous pieces see.
-/

namespace RingWindow
open Exec

variable {α : Type}

/-- The `n` cells from cell `h` on, in circular order. -/
def window (buf : List α) (h n : Nat) : List α := ((buf ++ buf).drop h).take n

@[simp] theorem window_zero (buf : List α) (h : Nat) : window buf h 0 = [] := List.take_zero

theorem length_window {buf : List α} {h n : Nat} (hh : h ≤ buf.length) (hn : n ≤ buf.length) :
    (window buf h n).length = n := by
  simp only [window, List.length_take, List.length_drop, List.length_append]
  omega

/-- The cell at distance `i` from the start of a window. -/
theorem getElem?_window {buf : List α} {h n i : Nat} (hi : i < n) :
    (window buf h n)[i]? = if h + i < buf.length then buf[h + i]? else buf[h + i - buf.length]? := by
  simp only [window, List.getElem?_take, hi, if_true, List.getElem?_drop]
  split
  · rename_i inside
    exact List.getElem?_append_left inside
  · rename_i outside
    exact List.getElem?_append_right (by omega)

/-- A window is its first `m` cells and the window that starts after them. -/
theorem window_take {buf : List α} {h n m : Nat} (hm : m ≤ n) : (window buf h n).take m = window buf h m := by
  simp only [window, List.take_take, Nat.min_eq_left hm]

theorem window_drop {buf : List α} {h n m : Nat} : (window buf h n).drop m = window buf (h + m) (n - m) := by
  simp only [window, List.drop_take, List.drop_drop]

/-- Starting past the end is starting at the beginning. -/
theorem window_wrap {buf : List α} {h n : Nat} (h1 : buf.length ≤ h) (h2 : h + n ≤ 2 * buf.length) :
    window buf h n = window buf (h - buf.length) n := by
  simp only [window]
  rw [List.drop_append_of_le_length (show h - buf.length ≤ buf.length by omega)]
  have past : (buf ++ buf).drop h = buf.drop (h - buf.length) := by
    simp only [List.drop_append, List.drop_of_length_le h1, List.nil_append]
  rw [past, List.take_append_of_le_length (by simp only [List.length_drop]; omega)]

/-- A window that does not reach the end of the buffer is one contiguous piece. -/
theorem window_read_direct {buf : List α} {h n : Nat} (hn : h + n ≤ buf.length) :
    window buf h n = (buf.drop h).take n := by
  simp only [window]
  rw [List.drop_append_of_le_length (by omega), List.take_append_of_le_length]
  simp only [List.length_drop]
  omega

/-- A window that passes the end is the rest of the buffer and a piece of its beginning. -/
theorem window_read_split {buf : List α} {h n : Nat} (hh : h ≤ buf.length) (hn : buf.length ≤ h + n) :
    window buf h n = (buf.drop h).take (buf.length - h) ++ (buf.drop 0).take (n - (buf.length - h)) := by
  have rest : n = (buf.length - h) + (n - (buf.length - h)) := by omega
  conv_lhs => rw [rest]
  simp only [window, List.take_add]
  rw [List.drop_append_of_le_length hh]
  congr 1
  · rw [List.take_append_of_le_length (by simp)]
  · rw [List.drop_append_of_le_length (by simp), List.drop_drop,
      show h + (buf.length - h) = buf.length by omega, List.drop_length, List.nil_append, List.drop_zero]

/-- Cells written outside a window leave it as it was. -/
theorem window_overwrite {buf cells : List α} {h n pos : Nat} (hh : h ≤ buf.length) (hn : n ≤ buf.length)
    (fits : pos + cells.length ≤ buf.length)
    (apart : ∀ i < n, ∀ j < cells.length, h + i ≠ pos + j ∧ h + i ≠ pos + j + buf.length) :
    window (overwrite buf pos cells) h n = window buf h n := by
  have len := length_overwrite fits
  apply List.ext_getElem?
  intro i
  by_cases hi : i < n
  · rw [getElem?_window hi, getElem?_window hi, len]
    simp only [getElem?_overwrite fits]
    split
    · rw [if_neg]
      rintro ⟨lo, up⟩
      exact (apart i hi (h + i - pos) (by omega)).1 (by omega)
    · rw [if_neg]
      rintro ⟨lo, up⟩
      exact (apart i hi (h + i - buf.length - pos) (by omega)).2 (by omega)
  · rw [List.getElem?_eq_none (by rw [length_window] <;> omega),
      List.getElem?_eq_none (by rw [length_window] <;> omega)]

/-- The cells just written are a window of the new buffer. -/
theorem window_overwrite_self {buf cells : List α} {pos : Nat} (fits : pos + cells.length ≤ buf.length) :
    window (overwrite buf pos cells) pos cells.length = cells := by
  rw [window_read_direct (by rw [length_overwrite fits]; omega)]
  simp only [overwrite, List.append_assoc]
  rw [List.drop_append_of_le_length (by simp; omega)]
  simp

/-- Two adjacent windows are one. -/
theorem window_add {buf : List α} {h m n : Nat} : window buf h (m + n) = window buf h m ++ window buf (h + m) n := by
  simp only [window, List.take_add, List.drop_drop]

end RingWindow
