import CameraEv.Lib.Exec
import CameraEv.Lib.Occurrences

/-!
# `split_string` and `replace_all`

Both search a string for a pattern and go on behind the match: `split_string` in
the string it was given, `replace_all` in the one it is rewriting. The narrow and
the wide overload are one text at two character types, so the type is a
parameter. A position is `none` where the code has `npos`; only the last piece of
a split computes with `npos`, and a string it is given is shorter than that. The
loops take fuel, one unit for each search; running out of memory is left out.
-/

namespace CameraEv

open Exec Occurrences

namespace StringUtil

variable {α : Type}

/-! ## What the loops use of `std::basic_string` -/

/-- `std::basic_string::npos`. -/
def npos : Nat := 2 ^ 64 - 1

/-- A string argument: its length is a position other than `npos`. -/
abbrev Text (α : Type) := {s : List α // s.length < npos}

/-- `str.substr(pos, n)`: a position behind the end is `std::out_of_range`, a length behind it means up to the end. -/
def substr (str : List α) (pos n : Nat) : Exec (List α) :=
  if pos ≤ str.length then pure ((str.drop pos).take n) else throw .thrown

/-- `str.replace(str.begin() + first, str.begin() + last, text)`. -/
def replaceRange (str : List α) (first last : Nat) (text : List α) : Exec (List α) :=
  if first ≤ last ∧ last ≤ str.length then pure (str.take first ++ text ++ str.drop last) else throw .fault

variable [DecidableEq α]

/-- `str.find(pattern, pos)`. -/
def find (str pattern : List α) (pos : Nat) : Option Nat :=
  (List.range' pos (str.length + 1 - pos)).find? fun i => pattern.isPrefixOf (str.drop i)

/-! ## The loops -/

/-- The loop of `split_string` and its last word. -/
def splitLoop (str seperator : List α) : Nat → (pos prevPos : Nat) → (outSplit : List (List α)) → Exec (List (List α))
  | 0, _, _, _ => throw .fuel
  | fuel + 1, pos, prevPos, outSplit =>
    match find str seperator pos with
    | some pos => do
      let substring ← substr str prevPos (pos - prevPos)
      let pos := pos + seperator.length
      splitLoop str seperator fuel pos pos (outSplit ++ [substring])
    | none => do
      let substring ← substr str prevPos (npos - prevPos)
      return outSplit ++ [substring]

/-- The code and `out_split` after the call. -/
def splitString (fuel : Nat) (str seperator : List α) (outSplit : List (List α)) : Exec (Nat × List (List α)) := do
  let outSplit ← splitLoop str seperator fuel 0 0 outSplit
  return (0, outSplit)

/-- The loop of `replace_all`. -/
def replaceLoop (pattern replace : List α) : Nat → (result : List α) → (offset : Nat) → Exec (List α)
  | 0, _, _ => throw .fuel
  | fuel + 1, result, offset =>
    match find result pattern offset with
    | some pos => do
      let result ← replaceRange result pos (pos + pattern.length) replace
      replaceLoop pattern replace fuel result (pos + replace.length)
    | none => return result

def replaceAll (fuel : Nat) (message pattern replace : List α) : Exec (List α) :=
  replaceLoop pattern replace fuel message 0

/-! ## One search -/

variable {s p r : List α} {pos i : Nat} {is : List Nat}

theorem isPrefixOf_drop (le : i ≤ s.length) : p.isPrefixOf (s.drop i) = true ↔ OccursAt p s i := by
  rw [List.isPrefixOf_iff_prefix, occursAt_iff]
  exact ⟨fun h => ⟨le, h⟩, fun h => h.2⟩

theorem find_eq_some : find s p pos = some i ↔
    pos ≤ i ∧ OccursAt p s i ∧ ∀ j, pos ≤ j → j < i → ¬ OccursAt p s j := by
  simp only [find, List.find?_range'_eq_some, List.mem_range'_1]
  constructor
  · rintro ⟨matched, ⟨le, below⟩, first⟩
    refine ⟨le, (isPrefixOf_drop (by omega)).1 matched, fun j after before occurs => ?_⟩
    have missed := first j after before
    rw [(isPrefixOf_drop (by omega)).2 occurs] at missed
    cases missed
  · rintro ⟨le, here, first⟩
    have inside := here.le
    refine ⟨(isPrefixOf_drop (by omega)).2 here, ⟨le, by omega⟩, fun j after before => ?_⟩
    rw [Bool.not_eq_true', Bool.eq_false_iff]
    intro matched
    exact first j after before ((isPrefixOf_drop (by omega)).1 matched)

theorem find_eq_none : find s p pos = none ↔ ∀ i, pos ≤ i → ¬ OccursAt p s i := by
  simp only [find, List.find?_range'_eq_none]
  constructor
  · intro missed i le occurs
    have inside := occurs.le
    have missed := missed i le (by omega)
    rw [(isPrefixOf_drop (by omega)).2 occurs] at missed
    cases missed
  · intro absent i le below
    rw [Bool.not_eq_true', Bool.eq_false_iff]
    intro matched
    exact absent i le ((isPrefixOf_drop (by omega)).1 matched)

/-- The search of a text behind a prefix that is left out. -/
theorem find_append {a : List α} : find (a ++ s) p (a.length + pos) = (find s p pos).map (a.length + ·) := by
  cases found : find s p pos with
  | none =>
    rw [find_eq_none] at found
    refine find_eq_none.2 fun i le occurs => ?_
    obtain ⟨j, rfl⟩ := Nat.exists_eq_add_of_le (show a.length ≤ i by omega)
    exact found j (by omega) (occursAt_append.1 occurs)
  | some i =>
    obtain ⟨le, here, first⟩ := find_eq_some.1 found
    rw [Option.map_some]
    refine find_eq_some.2 ⟨by omega, occursAt_append.2 here, fun j after before occurs => ?_⟩
    obtain ⟨k, rfl⟩ := Nat.exists_eq_add_of_le (show a.length ≤ j by omega)
    exact first k (by omega) (by omega) (occursAt_append.1 occurs)

/-- The rest of a text behind another text is searched as it is searched in place. -/
theorem find_behind (le : pos ≤ s.length) (done : List α) :
    find (done ++ s.drop pos) p done.length = (find s p pos).map fun i => done.length + (i - pos) := by
  have len : (s.take pos).length = pos := by
    rw [List.length_take]
    omega
  have moved : find (done ++ s.drop pos) p (done.length + 0) = _ := find_append
  have inPlace : find (s.take pos ++ s.drop pos) p ((s.take pos).length + 0) = _ := find_append
  rw [List.take_append_drop, len] at inPlace
  rw [Nat.add_zero] at moved inPlace
  rw [moved, inPlace, Option.map_map]
  congr 1
  funext i
  simp only [Function.comp, Nat.add_sub_cancel_left]

/-! ## The two loops over the same matches -/

/-- The loop of `split_string` appends the pieces from its cursor on. -/
theorem splitLoop_eq (h : Leftmost p s pos is) (short : s.length < npos) (le : pos ≤ s.length) {fuel : Nat}
    (enough : is.length < fuel) (out : List (List α)) :
    splitLoop s p fuel pos pos out = .ok (out ++ pieces p s pos is) := by
  induction h generalizing fuel out with
  | @done pos none =>
    obtain ⟨fuel, rfl⟩ := Nat.exists_eq_succ_of_ne_zero (Nat.ne_of_gt enough)
    have whole : (s.drop pos).take (npos - pos) = s.drop pos := by
      apply List.take_of_length_le
      rw [List.length_drop]
      omega
    simp only [splitLoop, find_eq_none.2 none, substr, if_pos le, whole, pieces, pure_eq_ok, ok_bind]
  | @next pos i is le' here first rest ih =>
    obtain ⟨fuel, rfl⟩ := Nat.exists_eq_succ_of_ne_zero (Nat.ne_of_gt (Nat.zero_lt_of_lt enough))
    rw [List.length_cons] at enough
    simp only [splitLoop, find_eq_some.2 ⟨le', here, first⟩, substr, if_pos le, pure_eq_ok, ok_bind]
    rw [ih here.le (by omega), pieces, List.append_assoc]
    rfl

/-- The loop of `replace_all` has `done` before its cursor and the rest of the message behind it: the next search never
meets what has been put in. -/
theorem replaceLoop_eq (h : Leftmost p s pos is) (le : pos ≤ s.length) {fuel : Nat} (enough : is.length < fuel)
    (done : List α) :
    replaceLoop p r fuel (done ++ s.drop pos) done.length = .ok (done ++ r.intercalate (pieces p s pos is)) := by
  induction h generalizing fuel done with
  | @done pos none =>
    obtain ⟨fuel, rfl⟩ := Nat.exists_eq_succ_of_ne_zero (Nat.ne_of_gt enough)
    simp only [replaceLoop, find_behind le, find_eq_none.2 none, Option.map_none, pieces, List.intercalate_singleton,
      pure_eq_ok]
  | @next pos i is le' here first rest ih =>
    obtain ⟨fuel, rfl⟩ := Nat.exists_eq_succ_of_ne_zero (Nat.ne_of_gt (Nat.zero_lt_of_lt enough))
    rw [List.length_cons] at enough
    have inside := here.le
    have kept : (done ++ s.drop pos).take (done.length + (i - pos)) = done ++ (s.drop pos).take (i - pos) :=
      List.take_length_add_append _
    have left : (done ++ s.drop pos).drop (done.length + (i - pos) + p.length) = s.drop (i + p.length) := by
      rw [Nat.add_assoc, List.drop_length_add_append, List.drop_drop]
      congr 1
      omega
    have cursor : done.length + (i - pos) + r.length = (done ++ (s.drop pos).take (i - pos) ++ r).length := by
      simp only [List.length_append, List.length_take, List.length_drop]
      omega
    have room : done.length + (i - pos) + p.length ≤ (done ++ s.drop pos).length := by
      simp only [List.length_append, List.length_drop]
      omega
    simp only [replaceLoop, find_behind le, find_eq_some.2 ⟨le', here, first⟩, Option.map_some, replaceRange]
    rw [if_pos ⟨Nat.le_add_right _ _, room⟩, pure_eq_ok, ok_bind, kept, left, cursor, ih here.le (by omega), pieces,
      List.intercalate_cons_of_ne_nil pieces_ne_nil]
    simp only [List.append_assoc]

/-- **Splitting, joining and replacing agree.** The pieces between the leftmost matches are what `split_string` appends,
contain no match, are the string again when joined with the separator and what `replace_all` makes of it when joined
with the replacement, whatever that contains. -/
theorem split_join_replace (str : Text α) (p : List α) (nonempty : p ≠ []) :
    ∃ is, Leftmost p str.1 0 is ∧ (pieces p str.1 0 is).length = is.length + 1 ∧
      (∀ piece ∈ pieces p str.1 0 is, find piece p 0 = none) ∧ p.intercalate (pieces p str.1 0 is) = str.1 ∧
      ∀ fuel, str.1.length < fuel →
        (∀ outSplit, splitString fuel str.1 p outSplit = .ok (0, outSplit ++ pieces p str.1 0 is)) ∧
        ∀ replace, replaceAll fuel str.1 p replace = .ok (replace.intercalate (pieces p str.1 0 is)) := by
  obtain ⟨is, leftmost⟩ := exists_leftmost nonempty str.1 0
  have few := leftmost.length_le nonempty (Nat.zero_le _)
  refine ⟨is, leftmost, length_pieces, ?_, leftmost.intercalate_pieces, ?_⟩
  · intro piece mem
    apply find_eq_none.2
    exact fun i _ => leftmost.not_occursAt nonempty (Nat.zero_le _) mem i
  · intro fuel enough
    constructor
    · intro outSplit
      rw [splitString, splitLoop_eq leftmost str.2 (Nat.zero_le _) (by omega)]
      rfl
    · intro replace
      exact replaceLoop_eq leftmost (Nat.zero_le _) (by omega) []

/-- A pattern that overlaps itself and a replacement that contains it. -/
theorem split_join_replace_overlap :
    (∃ is, Leftmost ['a', 'a'] ['a', 'a', 'a', 'b', 'a', 'a'] 0 is ∧
      (pieces ['a', 'a'] ['a', 'a', 'a', 'b', 'a', 'a'] 0 is).length = is.length + 1) ∧
    splitString 7 ['a', 'a', 'a', 'b', 'a', 'a'] ['a', 'a'] [] = .ok (0, [[], ['a', 'b'], []]) ∧
    replaceAll 7 ['a', 'a', 'a', 'b', 'a', 'a'] ['a', 'a'] ['a', 'a', 'a'] =
      .ok ['a', 'a', 'a', 'a', 'b', 'a', 'a', 'a'] := by
  obtain ⟨is, leftmost, count, -⟩ :=
    split_join_replace ⟨['a', 'a', 'a', 'b', 'a', 'a'], by decide⟩ ['a', 'a'] (by decide)
  exact ⟨⟨is, leftmost, count⟩, rfl, rfl⟩

/-! ## The empty pattern -/

theorem find_nil (le : pos ≤ s.length) : find s [] pos = some pos :=
  find_eq_some.2 ⟨le_refl pos, occursAt_nil.2 le, fun _ after before => absurd before (Nat.not_lt.2 after)⟩

/-- The cursor stays where it is and another empty piece is appended. -/
theorem splitLoop_nil (le : pos ≤ s.length) (fuel : Nat) (out : List (List α)) :
    splitLoop s [] fuel pos pos out = .error .fuel := by
  induction fuel generalizing out with
  | zero => rfl
  | succ fuel ih =>
    simp only [splitLoop, find_nil le, substr, if_pos le, pure_eq_ok, ok_bind, List.length_nil, Nat.add_zero]
    exact ih _

/-- The cursor moves with what is put in before it, and the end moves as far. -/
theorem replaceLoop_nil (le : pos ≤ s.length) (fuel : Nat) : replaceLoop [] r fuel s pos = .error .fuel := by
  induction fuel generalizing s pos with
  | zero => rfl
  | succ fuel ih =>
    simp only [replaceLoop, find_nil le, replaceRange, List.length_nil, Nat.add_zero]
    rw [if_pos ⟨le_refl pos, le⟩, pure_eq_ok, ok_bind]
    apply ih
    simp only [List.length_append, List.length_take, List.length_drop]
    omega

/-- **The loops end exactly when what they search for is not empty.** -/
theorem searches_end_iff (str : Text α) (seperator : List α) (outSplit : List (List α))
    (message pattern replace : List α) :
    ((∃ fuel result, splitString fuel str.1 seperator outSplit = .ok result) ↔ seperator ≠ []) ∧
    ((∃ fuel result, replaceAll fuel message pattern replace = .ok result) ↔ pattern ≠ []) := by
  constructor
  · constructor
    · rintro ⟨fuel, result, ran⟩ rfl
      rw [splitString, splitLoop_nil (Nat.zero_le _)] at ran
      cases ran
    · intro nonempty
      obtain ⟨is, leftmost⟩ := exists_leftmost nonempty str.1 0
      refine ⟨is.length + 1, (0, outSplit ++ pieces seperator str.1 0 is), ?_⟩
      rw [splitString, splitLoop_eq leftmost str.2 (Nat.zero_le _) (Nat.lt_succ_self _)]
      rfl
  · constructor
    · rintro ⟨fuel, result, ran⟩ rfl
      rw [replaceAll, replaceLoop_nil (Nat.zero_le _)] at ran
      cases ran
    · intro nonempty
      obtain ⟨is, leftmost⟩ := exists_leftmost nonempty message 0
      exact ⟨is.length + 1, _, replaceLoop_eq leftmost (Nat.zero_le _) (Nat.lt_succ_self _) []⟩

/-- An empty separator, and an empty pattern with a replacement that is empty or not. -/
theorem searches_endless :
    (¬ ∃ fuel result, splitString fuel ['a', 'b'] [] [] = .ok result) ∧
    (¬ ∃ fuel result, replaceAll fuel ['a', 'b'] [] [] = .ok result) ∧
    ¬ ∃ fuel result, replaceAll fuel ['a', 'b'] [] ['c'] = .ok result := by
  refine ⟨?_, ?_, ?_⟩
  · rintro ⟨fuel, result, ran⟩
    rw [splitString, splitLoop_nil (Nat.zero_le _)] at ran
    cases ran
  · rintro ⟨fuel, result, ran⟩
    rw [replaceAll, replaceLoop_nil (Nat.zero_le _)] at ran
    cases ran
  · rintro ⟨fuel, result, ran⟩
    rw [replaceAll, replaceLoop_nil (Nat.zero_le _)] at ran
    cases ran

end StringUtil

end CameraEv
