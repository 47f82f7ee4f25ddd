import Mathlib.Tactic

/-!
# Serial numbers

Code that counts in a few bits compares two numbers by their difference: up to
half a turn ahead is later. The comparison is that of the counters themselves as
long as these are less than half a turn apart (`halfTurn_mod`). `Counters` is
what such code does with its numbers, so that code written once over it runs on
the numbers of a few bits and on natural numbers, and `Represents` says that the
first are images of the second.
-/

namespace SerialNumber

/-- The comparison of two numbers below `2 * half` by their difference. -/
def halfTurn (half a b : Nat) : Bool :=
  if a < b then b - a < half else if b < a then half < a - b else false

/-- Counters that are less than half a turn apart. -/
structure Near (half i j : Nat) : Prop where
  left : i < j + half
  right : j < i + half

instance (half i j : Nat) : Decidable (Near half i j) :=
  decidable_of_iff (i < j + half ∧ j < i + half) ⟨fun h => ⟨h.1, h.2⟩, fun h => ⟨h.left, h.right⟩⟩

theorem Near.symm {half i j : Nat} (near : Near half i j) : Near half j i := ⟨near.right, near.left⟩

/-- Two counters that are ahead of a third one by less than half a turn. -/
theorem near_of_ahead {half e i j : Nat} (hi : e ≤ i) (hi' : i < e + half) (hj : e ≤ j) (hj' : j < e + half) :
    Near half i j := ⟨by omega, by omega⟩

/-- The counter `d` further on, in the same turn or in the next. -/
theorem mod_add_cases {m d : Nat} (small : d < m) (i : Nat) :
    (i % m + d < m ∧ (i + d) % m = i % m + d) ∨ (m ≤ i % m + d ∧ (i + d) % m + m = i % m + d) := by
  have turn := Nat.add_mod_eq_ite (m := i) (n := d) (k := m)
  rw [Nat.mod_eq_of_lt small] at turn
  by_cases same : m ≤ i % m + d
  · rw [if_pos same] at turn
    exact .inr ⟨same, by omega⟩
  · rw [if_neg same] at turn
    exact .inl ⟨by omega, turn⟩

theorem halfTurn_mod {half i j : Nat} (near : Near half i j) :
    halfTurn half (i % (2 * half)) (j % (2 * half)) = decide (i < j) := by
  obtain ⟨left, right⟩ := near
  rcases Nat.lt_or_ge i j with lt | ge
  · obtain ⟨d, rfl⟩ := Nat.exists_eq_add_of_lt lt
    have small : i % (2 * half) < 2 * half := Nat.mod_lt _ (by omega)
    rw [Nat.add_assoc]
    rcases mod_add_cases (m := 2 * half) (d := d + 1) (by omega) i with ⟨_, eq⟩ | ⟨_, eq⟩
    · simp only [halfTurn, eq]
      rw [if_pos (by omega)]
      simp only [decide_eq_decide]
      omega
    · simp only [halfTurn]
      rw [if_neg (by omega), if_pos (by omega)]
      simp only [decide_eq_decide]
      omega
  · obtain ⟨d, rfl⟩ := Nat.exists_eq_add_of_le ge
    have small : j % (2 * half) < 2 * half := Nat.mod_lt _ (by omega)
    have later : decide (j + d < j) = false := by simp
    rw [later]
    rcases mod_add_cases (m := 2 * half) (d := d) (by omega) j with ⟨_, eq⟩ | ⟨_, eq⟩
    · simp only [halfTurn, eq]
      rw [if_neg (by omega)]
      split
      · simp only [decide_eq_false_iff_not]
        omega
      · rfl
    · simp only [halfTurn]
      rw [if_pos (by omega)]
      simp only [decide_eq_false_iff_not]
      omega

theorem eq_of_mod_eq {half i j : Nat} (near : Near half i j) (same : i % (2 * half) = j % (2 * half)) : i = j := by
  have before := halfTurn_mod near
  have behind := halfTurn_mod near.symm
  have none : halfTurn half (j % (2 * half)) (j % (2 * half)) = false := by simp [halfTurn]
  rw [same, none] at before
  rw [same, none] at behind
  have notBefore := of_decide_eq_false before.symm
  have notBehind := of_decide_eq_false behind.symm
  omega

/-- What code does with sequence numbers, besides testing whether two are equal. -/
structure Counters (σ : Type) where
  lt : σ → σ → Bool
  next : σ → σ

/-- Numbers that never come again. -/
def unbounded : Counters Nat where
  lt i j := decide (i < j)
  next i := i + 1

@[simp] theorem unbounded_lt (i j : Nat) : unbounded.lt i j = decide (i < j) := rfl

@[simp] theorem unbounded_next (i : Nat) : unbounded.next i = i + 1 := rfl

variable {σ : Type}

/-- The numbers of `N` stand for counters, and counters less than half a turn apart are told apart. -/
structure Represents (N : Counters σ) (half : Nat) (number : Nat → σ) : Prop where
  lt : ∀ {i j}, Near half i j → N.lt (number i) (number j) = decide (i < j)
  inj : ∀ {i j}, Near half i j → number i = number j → i = j
  next : ∀ i, number (i + 1) = N.next (number i)

/-- Counting may start at any number. -/
theorem Represents.shift {N : Counters σ} {half : Nat} {number : Nat → σ} (rep : Represents N half number)
    (first : Nat) :
    Represents N half fun i => number (first + i) where
  lt near := by
    rw [rep.lt ⟨by have := near.left; omega, by have := near.right; omega⟩]
    simp only [Nat.add_lt_add_iff_left]
  inj near same := by
    have eq := rep.inj ⟨by have := near.left; omega, by have := near.right; omega⟩ same
    omega
  next i := rep.next (first + i)

end SerialNumber
