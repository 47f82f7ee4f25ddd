import Mathlib.Tactic

/-!
# Words that commute

Two lists that can be appended in either order are repetitions of one list
(`append_comm_iff`).
-/

namespace Words

variable {α : Type}

/-- `w` repeated `n` times. -/
def repeated (n : Nat) (w : List α) : List α := (List.replicate n w).flatten

/-- Both are repetitions of one list. -/
def Repeat (u v : List α) : Prop := ∃ w i j, u = repeated i w ∧ v = repeated j w

theorem repeated_add (i j : Nat) (w : List α) : repeated (i + j) w = repeated i w ++ repeated j w := by
  rw [repeated, List.replicate_add, List.flatten_append, repeated, repeated]

theorem repeat_nil_left (v : List α) : Repeat [] v := ⟨v, 0, 1, rfl, (List.append_nil v).symm⟩

theorem Repeat.symm {u v : List α} (h : Repeat u v) : Repeat v u := by
  obtain ⟨w, i, j, hu, hv⟩ := h
  exact ⟨w, j, i, hv, hu⟩

theorem repeat_nil_right (u : List α) : Repeat u [] := (repeat_nil_left u).symm

theorem Repeat.append {u v : List α} (h : Repeat u v) : Repeat u (u ++ v) := by
  obtain ⟨w, i, j, rfl, rfl⟩ := h
  exact ⟨w, i, i + j, rfl, (repeated_add i j w).symm⟩

theorem Repeat.append_comm {u v : List α} (h : Repeat u v) : u ++ v = v ++ u := by
  obtain ⟨w, i, j, rfl, rfl⟩ := h
  rw [← repeated_add, ← repeated_add, Nat.add_comm]

/-- The longer one starts and ends with the shorter one, and what is left commutes with it. -/
theorem repeat_of_append_comm {u v : List α} (comm : u ++ v = v ++ u) : Repeat u v := by
  induction len : u.length + v.length using Nat.strong_induction_on generalizing u v with
  | _ n ih =>
    by_cases hu : u = []
    · exact hu ▸ repeat_nil_left v
    by_cases hv : v = []
    · exact hv ▸ repeat_nil_right u
    have u_pos := List.length_pos_of_ne_nil hu
    have v_pos := List.length_pos_of_ne_nil hv
    rcases List.append_eq_append_iff.1 comm with ⟨t, front, back⟩ | ⟨t, front, back⟩
    · have shorter : u.length + t.length < n := by
        have := congrArg List.length front
        rw [List.length_append] at this
        omega
      have rest := ih _ shorter (front.symm.trans back) rfl
      exact front ▸ rest.append
    · have shorter : v.length + t.length < n := by
        have := congrArg List.length front
        rw [List.length_append] at this
        omega
      have rest := ih _ shorter (front.symm.trans back) rfl
      exact (front ▸ rest.append).symm

theorem append_comm_iff {u v : List α} : u ++ v = v ++ u ↔ Repeat u v :=
  ⟨repeat_of_append_comm, Repeat.append_comm⟩

end Words
