import Mathlib.Data.List.Basic
import Mathlib.Tactic

/-!
# The occurrences of a pattern in a text

`Leftmost p s pos is` says that `is` are the positions where `p` is met when `s`
is searched from `pos` on and each search starts where the last match ended.
`pieces` is what lies between them. Searching the text behind a prefix is
searching the text, moved by the length of the prefix (`occursAt_append`), which
relates a loop over the text itself to one over a text that it rewrites.
-/

namespace Occurrences

variable {α : Type} {p s t a : List α} {i pos : Nat} {is : List Nat}

/-- `p` stands in `s` at position `i`. -/
def OccursAt (p s : List α) (i : Nat) : Prop := ∃ before behind, s = before ++ p ++ behind ∧ before.length = i

theorem occursAt_iff : OccursAt p s i ↔ i ≤ s.length ∧ p <+: s.drop i := by
  constructor
  · rintro ⟨before, behind, rfl, rfl⟩
    constructor
    · simp only [List.length_append]
      omega
    · rw [List.append_assoc, List.drop_left]
      exact List.prefix_append p behind
  · rintro ⟨le, behind, rest⟩
    refine ⟨s.take i, behind, ?_, ?_⟩
    · rw [List.append_assoc, rest, List.take_append_drop]
    · rw [List.length_take]
      omega

/-- The empty pattern stands everywhere, the end included. -/
theorem occursAt_nil : OccursAt [] s i ↔ i ≤ s.length := by
  rw [occursAt_iff]
  exact ⟨fun h => h.1, fun le => ⟨le, List.nil_prefix⟩⟩

theorem OccursAt.le (h : OccursAt p s i) : i + p.length ≤ s.length := by
  obtain ⟨before, behind, rfl, rfl⟩ := h
  simp only [List.length_append]
  omega

/-- The text from an occurrence on. -/
theorem OccursAt.drop_eq (h : OccursAt p s i) : s.drop i = p ++ s.drop (i + p.length) := by
  obtain ⟨before, behind, rfl, rfl⟩ := h
  rw [← List.length_append, List.drop_left, List.append_assoc, List.drop_left]

/-- A prefix moves the occurrences behind it. -/
theorem occursAt_append : OccursAt p (a ++ t) (a.length + i) ↔ OccursAt p t i := by
  rw [occursAt_iff, occursAt_iff, List.length_append, Nat.add_le_add_iff_left, List.drop_length_add_append]

theorem occursAt_drop (le : pos ≤ s.length) : OccursAt p (s.drop pos) i ↔ OccursAt p s (pos + i) := by
  have len : (s.take pos).length = pos := by
    rw [List.length_take]
    omega
  have moved := occursAt_append (p := p) (t := s.drop pos) (a := s.take pos) (i := i)
  rw [List.take_append_drop, len] at moved
  exact moved.symm

/-- An occurrence in a beginning of the text is one in the text. -/
theorem OccursAt.of_take {n : Nat} (h : OccursAt p (s.take n) i) : OccursAt p s i := by
  obtain ⟨before, behind, eq, rfl⟩ := h
  refine ⟨before, behind ++ s.drop n, ?_, rfl⟩
  rw [← List.append_assoc, ← eq, List.take_append_drop]

/-- The leftmost occurrences of `p` in `s` from `pos` on that do not overlap. -/
inductive Leftmost (p s : List α) : Nat → List Nat → Prop where
  | done {pos : Nat} (none : ∀ i, pos ≤ i → ¬ OccursAt p s i) : Leftmost p s pos []
  | next {pos i : Nat} {is : List Nat} (le : pos ≤ i) (here : OccursAt p s i)
      (first : ∀ j, pos ≤ j → j < i → ¬ OccursAt p s j) (rest : Leftmost p s (i + p.length) is) :
      Leftmost p s pos (i :: is)

/-- What lies between the matches from `pos` on, and behind the last of them. -/
def pieces (p s : List α) : Nat → List Nat → List (List α)
  | pos, [] => [s.drop pos]
  | pos, i :: is => (s.drop pos).take (i - pos) :: pieces p s (i + p.length) is

theorem length_pieces : (pieces p s pos is).length = is.length + 1 := by
  induction is generalizing pos with
  | nil => rfl
  | cons i is ih => simp only [pieces, List.length_cons, ih]

theorem pieces_ne_nil : pieces p s pos is ≠ [] := by
  cases is with
  | nil => exact List.cons_ne_nil _ _
  | cons i is => exact List.cons_ne_nil _ _

/-- A pattern that is not empty is found finitely often. -/
theorem exists_leftmost (nonempty : p ≠ []) (s : List α) (pos : Nat) : ∃ is, Leftmost p s pos is := by
  by_cases found : ∃ i, pos ≤ i ∧ OccursAt p s i
  · classical
    have le := (Nat.find_spec found).1
    have here := (Nat.find_spec found).2
    have inside := here.le
    have room := List.length_pos_iff.2 nonempty
    obtain ⟨is, rest⟩ := exists_leftmost nonempty s (Nat.find found + p.length)
    refine ⟨Nat.find found :: is, .next le here (fun j after before occurs => ?_) rest⟩
    exact Nat.find_min found before ⟨after, occurs⟩
  · push Not at found
    exact ⟨[], .done found⟩
  termination_by s.length - pos
  decreasing_by omega

/-- Each match takes at least one position. -/
theorem Leftmost.length_le (h : Leftmost p s pos is) (nonempty : p ≠ []) (le : pos ≤ s.length) :
    pos + is.length ≤ s.length := by
  have room := List.length_pos_iff.2 nonempty
  induction h with
  | done none => simpa using le
  | next le' here first rest ih =>
    have := ih here.le
    simp only [List.length_cons]
    omega

/-- The pieces joined with the pattern are the text. -/
theorem Leftmost.intercalate_pieces (h : Leftmost p s pos is) : p.intercalate (pieces p s pos is) = s.drop pos := by
  induction h with
  | done none => exact List.intercalate_singleton
  | @next pos i is le here first rest ih =>
    have cut : s.drop i = (s.drop pos).drop (i - pos) := by
      rw [List.drop_drop]
      congr 1
      omega
    rw [pieces, List.intercalate_cons_of_ne_nil pieces_ne_nil, ih, List.append_assoc, ← here.drop_eq, cut,
      List.take_append_drop]

/-- No piece contains the pattern. -/
theorem Leftmost.not_occursAt (h : Leftmost p s pos is) (nonempty : p ≠ []) (le : pos ≤ s.length) {piece : List α}
    (mem : piece ∈ pieces p s pos is) (i : Nat) : ¬ OccursAt p piece i := by
  induction h with
  | @done pos none =>
    obtain rfl := List.mem_singleton.1 mem
    rw [occursAt_drop le]
    exact none _ (Nat.le_add_right _ _)
  | @next pos j is le' here first rest ih =>
    rcases List.mem_cons.1 mem with rfl | mem
    · intro occurs
      have room := List.length_pos_iff.2 nonempty
      have inside := occurs.le
      rw [List.length_take] at inside
      exact first (pos + i) (Nat.le_add_right _ _) (by omega) ((occursAt_drop le).1 occurs.of_take)
    · exact ih here.le mem

end Occurrences
