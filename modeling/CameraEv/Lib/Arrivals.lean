import Mathlib.Tactic

/-!
# Data that arrives in pieces

A stream as it is read: the pieces that have arrived when it is read, one after the
other. An empty piece is a read that finds nothing. How a stream is cut into pieces
is left open; what is read and what is left are together what has arrived.
-/

namespace Arrivals

variable {α : Type}

/-- One read of at most `n`. -/
def read (n : Nat) : List (List α) → List α × List (List α)
  | [] => ([], [])
  | piece :: later => if n < piece.length then (piece.take n, piece.drop n :: later) else (piece, later)

/-- Reads until `n` have been read or a read finds nothing. -/
def readUpTo (n : Nat) : List (List α) → List α × List (List α)
  | [] => ([], [])
  | piece :: later =>
    if piece = [] then ([], later)
    else if n ≤ piece.length then read n (piece :: later)
    else
      let (more, rest) := readUpTo (n - piece.length) later
      (piece ++ more, rest)

/-- What is still to be read, every read counted. -/
def pending (s : List (List α)) : Nat := s.flatten.length + s.length

variable {n : Nat} {s : List (List α)}

theorem read_append : (read n s).1 ++ (read n s).2.flatten = s.flatten := by
  cases s with
  | nil => rfl
  | cons piece later =>
    rw [read]
    split
    · simp only [List.flatten_cons, ← List.append_assoc, List.take_append_drop]
    · rfl

theorem length_read_le : (read n s).1.length ≤ n := by
  cases s with
  | nil => exact Nat.zero_le n
  | cons piece later =>
    rw [read]
    split
    · exact List.length_take_le n piece
    · exact Nat.not_lt.1 ‹_›

theorem pending_read (some : 0 < n) (left : s ≠ []) : pending (read n s).2 < pending s := by
  cases s with
  | nil => exact absurd rfl left
  | cons piece later =>
    rw [read]
    split <;> simp [pending] <;> omega

theorem readUpTo_append : (readUpTo n s).1 ++ (readUpTo n s).2.flatten = s.flatten := by
  induction s generalizing n with
  | nil => rfl
  | cons piece later ih =>
    rw [readUpTo]
    split
    · rename_i empty
      simp [empty]
    · split
      · exact read_append
      · rw [List.flatten_cons, ← ih (n := n - piece.length), ← List.append_assoc]

theorem length_readUpTo_le : (readUpTo n s).1.length ≤ n := by
  induction s generalizing n with
  | nil => exact Nat.zero_le n
  | cons piece later ih =>
    rw [readUpTo]
    split
    · exact Nat.zero_le n
    · split
      · exact length_read_le
      · have := ih (n := n - piece.length)
        simp only [List.length_append]
        omega

theorem pending_readUpTo (some : 0 < n) (left : s ≠ []) : pending (readUpTo n s).2 < pending s := by
  induction s generalizing n with
  | nil => exact absurd rfl left
  | cons piece later ih =>
    rw [readUpTo]
    split
    · simp only [pending, List.flatten_cons, List.length_append, List.length_cons]
      omega
    · split
      · exact pending_read some left
      · rename_i more
        by_cases last : later = []
        · subst last
          simp [pending, readUpTo]
        · have := ih (n := n - piece.length) (by omega) last
          simp only [pending, List.flatten_cons, List.length_append, List.length_cons] at this ⊢
          omega

theorem pending_readUpTo_le (some : 0 < n) : pending (readUpTo n s).2 ≤ pending s := by
  by_cases left : s = []
  · subst left
    exact Nat.le_refl _
  · exact Nat.le_of_lt (pending_readUpTo some left)

theorem eq_nil_of_pending (none : pending s ≤ 0) : s = [] := by
  cases s with
  | nil => rfl
  | cons piece later =>
    simp only [pending, List.length_cons] at none
    omega

/-- A read of one: it finds nothing, or the next. -/
theorem read_one (s : List (List α)) :
    ∃ found rest, read 1 s = (found, rest) ∧ pending rest ≤ pending s ∧ (s = [] ∨ pending rest < pending s) ∧
      (found = [] ∧ s.flatten = rest.flatten ∨ ∃ a, found = [a] ∧ s.flatten = a :: rest.flatten) := by
  have all := read_append (n := 1) (s := s)
  have short := length_read_le (n := 1) (s := s)
  have less : pending (read 1 s).2 ≤ pending s ∧ (s = [] ∨ pending (read 1 s).2 < pending s) := by
    by_cases left : s = []
    · subst left
      exact ⟨Nat.le_refl _, .inl rfl⟩
    · exact ⟨Nat.le_of_lt (pending_read Nat.one_pos left), .inr (pending_read Nat.one_pos left)⟩
  generalize read 1 s = result at *
  obtain ⟨found, rest⟩ := result
  refine ⟨found, rest, rfl, less.1, less.2, ?_⟩
  match found with
  | [] => exact .inl ⟨rfl, all.symm⟩
  | [a] => exact .inr ⟨a, rfl, all.symm⟩
  | _ :: _ :: _ => simp at short

end Arrivals
