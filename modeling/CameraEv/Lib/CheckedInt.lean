import CameraEv.Lib.Exec

/-!
# `int` arithmetic that stops at an overflow

Each operation returns exactly when its result as an integer is a value of
`Int32`, and then returns that (`add_eq_ok`, `mul_eq_ok`, `div_eq_ok`); the
machine's operation returns the same. Division truncates; its divisor is a
constant of the code and not zero.
-/

namespace CheckedInt

open Exec

/-- The exact result, when `int` has it. -/
def ofExact (x : Int) : Exec Int32 := if -2 ^ 31 ≤ x ∧ x < 2 ^ 31 then .ok (Int32.ofInt x) else .error .wrapped

def add (a b : Int32) : Exec Int32 := ofExact (a.toInt + b.toInt)

def mul (a b : Int32) : Exec Int32 := ofExact (a.toInt * b.toInt)

def div (a b : Int32) : Exec Int32 := ofExact (a.toInt.tdiv b.toInt)

theorem toInt_bounds (n : Int32) : -2 ^ 31 ≤ n.toInt ∧ n.toInt < 2 ^ 31 := ⟨Int32.le_toInt n, Int32.toInt_lt n⟩

theorem ofExact_eq_ok {x : Int} {n : Int32} : ofExact x = .ok n ↔ n.toInt = x := by
  unfold ofExact
  constructor
  · intro returns
    split at returns
    · rename_i fits
      cases returns
      apply Int32.toInt_ofInt_of_le
      · exact fits.1
      · exact fits.2
    · cases returns
  · rintro rfl
    rw [if_pos (toInt_bounds n), Int32.ofInt_toInt]

variable {a b n : Int32}

theorem add_eq_ok : add a b = .ok n ↔ n.toInt = a.toInt + b.toInt := ofExact_eq_ok

theorem mul_eq_ok : mul a b = .ok n ↔ n.toInt = a.toInt * b.toInt := ofExact_eq_ok

theorem div_eq_ok : div a b = .ok n ↔ n.toInt = a.toInt.tdiv b.toInt := ofExact_eq_ok

/-- An integer in range is the value of an `int`. -/
theorem exists_toInt {x : Int} (lo : -2 ^ 31 ≤ x) (hi : x < 2 ^ 31) : ∃ n : Int32, n.toInt = x :=
  ⟨Int32.ofInt x, Int32.toInt_ofInt_of_le lo hi⟩

/-- Where the sum does not overflow, the machine has it. -/
theorem eq_add (sum : add a b = .ok n) : n = a + b := by
  have value := add_eq_ok.1 sum
  apply Int32.toInt_inj.1
  rw [Int32.toInt_add, ← value, Int.bmod_eq_of_le]
  · exact Int32.le_toInt n
  · exact Int32.toInt_lt n

theorem eq_mul (product : mul a b = .ok n) : n = a * b := by
  have value := mul_eq_ok.1 product
  apply Int32.toInt_inj.1
  rw [Int32.toInt_mul, ← value, Int.bmod_eq_of_le]
  · exact Int32.le_toInt n
  · exact Int32.toInt_lt n

theorem eq_div (quotient : div a b = .ok n) : n = a / b := by
  have value := div_eq_ok.1 quotient
  apply Int32.toInt_inj.1
  rw [Int32.toInt_div, ← value, Int.bmod_eq_of_le]
  · exact Int32.le_toInt n
  · exact Int32.toInt_lt n

end CheckedInt
