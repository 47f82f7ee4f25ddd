import Mathlib.Algebra.BigOperators.Group.Finset.Basic
import Mathlib.Tactic
/-!
# Counting the members of a finite family

`census f p` is how many members of the family `f` satisfy `p`. When one member
changes, the count changes by what that member counted before and counts now
(`census_update`); both sides of that equation are sums, so that `omega` closes
the accounting of a step.
-/

namespace Census

variable {ι α : Type} [Fintype ι]

def census (f : ι → α) (p : α → Bool) : Nat := (Finset.univ.filter fun i => p (f i) = true).card

variable {f : ι → α} {p : α → Bool}

theorem census_eq_zero : census f p = 0 ↔ ∀ i, p (f i) = false := by
  simp [census, Finset.filter_eq_empty_iff]

theorem census_pos {i : ι} (h : p (f i) = true) : 0 < census f p :=
  Finset.card_pos.2 ⟨i, Finset.mem_filter.2 ⟨Finset.mem_univ i, h⟩⟩

/-- One member changes. -/
theorem census_update [DecidableEq ι] (f : ι → α) (p : α → Bool) (i : ι) (a : α) :
    census (Function.update f i a) p + (if p (f i) then 1 else 0) = census f p + (if p a then 1 else 0) := by
  have moved : (fun j => if p (Function.update f i a j) then 1 else 0) =
      Function.update (fun j => if p (f j) then (1 : Nat) else 0) i (if p a then 1 else 0) := by
    funext j
    by_cases h : j = i
    · subst h
      simp only [Function.update_self]
    · simp only [Function.update_of_ne h]
  have split := Finset.sum_update_of_mem (Finset.mem_univ i) (fun j => if p (f j) then (1 : Nat) else 0)
    (if p a then 1 else 0)
  have whole := Finset.sum_sdiff (Finset.subset_univ {i}) (f := fun j => if p (f j) then (1 : Nat) else 0)
  rw [Finset.sum_singleton] at whole
  simp only [census, Finset.card_filter, moved, split, ← whole]
  omega

end Census
