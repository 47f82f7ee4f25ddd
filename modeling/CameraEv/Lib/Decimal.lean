import Mathlib.Data.List.TakeWhile
import Mathlib.Data.Nat.Digits.Defs
import Mathlib.Data.Nat.Digits.Lemmas
import Mathlib.Tactic

/-!
# Decimal text

`text n` is the decimal text of a natural number as ASCII bytes, without leading
zeros; `value` reads decimal digits. Reading the text of a number gives the number.
`intText` is the text that C++'s `std::to_string` gives a 32-bit integer, `stoi` reads
an integer as `std::stoi` does.
-/

namespace Decimal

/-- An ASCII digit. -/
def isDigit (b : UInt8) : Bool := 48 ≤ b && b ≤ 57

/-- The digit character of `d < 10`. -/
def digit (d : Nat) : UInt8 := UInt8.ofNat (48 + d)

def text (n : Nat) : List UInt8 :=
  if n = 0 then [48] else (Nat.digits 10 n).reverse.map digit

def value (bs : List UInt8) : Nat := Nat.ofDigits 10 (bs.reverse.map fun b => b.toNat - 48)

theorem toNat_digit {d : Nat} (h : d < 10) : (digit d).toNat = 48 + d := by
  rw [digit, UInt8.toNat_ofNat']
  omega

theorem isDigit_digit {d : Nat} (h : d < 10) : isDigit (digit d) = true := by
  simp only [isDigit, Bool.and_eq_true, decide_eq_true_eq, UInt8.le_iff_toNat_le, toNat_digit h]
  exact ⟨Nat.le_add_right 48 d, show 48 + d ≤ 57 by omega⟩

theorem text_ne_nil (n : Nat) : text n ≠ [] := by
  unfold text
  split
  · simp
  · rename_i h
    simp [Nat.digits_ne_nil_iff_ne_zero, h]

theorem isDigit_of_mem_text {n : Nat} {b : UInt8} (h : b ∈ text n) : isDigit b = true := by
  unfold text at h
  split at h
  · simp only [List.mem_singleton] at h
    subst h
    decide
  · obtain ⟨d, hd, rfl⟩ := List.mem_map.1 h
    exact isDigit_digit (Nat.digits_lt_base (by decide) (List.mem_reverse.1 hd))

theorem value_text (n : Nat) : value (text n) = n := by
  unfold text
  split
  · rename_i h
    subst h
    decide
  · have back : (Nat.digits 10 n).map (fun d => (digit d).toNat - 48) = Nat.digits 10 n := by
      conv_rhs => rw [← List.map_id (Nat.digits 10 n)]
      apply List.map_congr_left
      intro d hd
      rw [toNat_digit (Nat.digits_lt_base (by decide) hd)]
      simp
    simp only [value, List.map_reverse, List.reverse_reverse, List.map_map, Function.comp_def, back]
    exact Nat.ofDigits_digits 10 n

/-- The white space of the "C" locale. -/
def isSpace (b : UInt8) : Bool := b = 32 || (9 ≤ b && b ≤ 13)

/-- `std::to_string` of an integer. -/
def intText (x : Int) : List UInt8 := if x < 0 then 45 :: text x.natAbs else text x.natAbs

/-- `std::stoi`: white space, a sign, then at least one digit; what follows the digits is
ignored. Nothing is returned where `stoi` throws. -/
def stoi (bs : List UInt8) : Option Int :=
  let bs := bs.dropWhile isSpace
  let negative := bs.head? = some 45
  let digits := (if negative ∨ bs.head? = some 43 then bs.tail else bs).takeWhile isDigit
  let x : Int := if negative then -(value digits) else value digits
  if digits = [] then none
  else if -2 ^ 31 ≤ x ∧ x < 2 ^ 31 then some x
  else none

theorem length_text_le {n k : Nat} (pos : 0 < k) (small : n < 10 ^ k) : (text n).length ≤ k := by
  unfold text
  split
  · exact pos
  · simpa using (Nat.digits_length_le_iff (by decide) n).2 small

/-- A 32-bit integer has at most ten digits. -/
theorem length_intText_le {x : Int} (lo : -2 ^ 31 ≤ x) (hi : x < 2 ^ 31) : (intText x).length ≤ 11 := by
  have digits := length_text_le (show 0 < 10 by decide) (show x.natAbs < 10 ^ 10 by omega)
  unfold intText
  split
  · simp only [List.length_cons]
    omega
  · omega

/-- The first digit of a number is no white space and no sign. -/
theorem head_text (n : Nat) : ∃ b bs, text n = b :: bs ∧ isSpace b = false ∧ b ≠ 45 ∧ b ≠ 43 := by
  obtain ⟨b, bs, text_eq⟩ := List.exists_cons_of_ne_nil (text_ne_nil n)
  have digit : isDigit b = true := isDigit_of_mem_text (text_eq ▸ List.mem_cons_self)
  simp only [isDigit, Bool.and_eq_true, decide_eq_true_eq, UInt8.le_iff_toNat_le] at digit
  have lo : 48 ≤ b.toNat := digit.1
  refine ⟨b, bs, text_eq, ?_, ?_, ?_⟩
  · simp only [isSpace, Bool.or_eq_false_iff, decide_eq_false_iff_not, Bool.and_eq_false_iff,
      UInt8.le_iff_toNat_le, ← UInt8.toNat_inj]
    refine ⟨?_, .inr ?_⟩
    · show b.toNat ≠ 32
      omega
    · show ¬ b.toNat ≤ 13
      omega
  · rintro rfl
    exact absurd lo (by decide)
  · rintro rfl
    exact absurd lo (by decide)

theorem takeWhile_text (n : Nat) : (text n).takeWhile isDigit = text n :=
  List.takeWhile_eq_self_iff.2 fun _ h => isDigit_of_mem_text h

/-- `stoi` reads the text of a number back if the number fits an `int`, and throws otherwise. -/
theorem stoi_intText_eq (x : Int) : stoi (intText x) = if -2 ^ 31 ≤ x ∧ x < 2 ^ 31 then some x else none := by
  obtain ⟨b, bs, text_eq, space, minus, plus⟩ := head_text x.natAbs
  have digits := takeWhile_text x.natAbs
  have back := value_text x.natAbs
  have some_digit := text_ne_nil x.natAbs
  by_cases neg : x < 0
  · have minus_space : isSpace 45 = false := by decide
    have signed : -(x.natAbs : Int) = x := by omega
    simp only [stoi, intText, if_pos neg, List.dropWhile_cons, minus_space, List.head?_cons, Bool.false_eq_true,
      if_false, true_or, if_true, List.tail_cons, digits, some_digit, back, signed]
  · have no_space : (text x.natAbs).dropWhile isSpace = text x.natAbs := by
      simp only [text_eq, List.dropWhile_cons, space, Bool.false_eq_true, if_false]
    have head : (text x.natAbs).head? = some b := by simp only [text_eq, List.head?_cons]
    have signed : (x.natAbs : Int) = x := by omega
    simp only [stoi, intText, if_neg neg, no_space, head, Option.some.injEq, minus, plus, or_self, if_false, digits,
      some_digit, back, signed]

theorem stoi_intText {x : Int} (lo : -2 ^ 31 ≤ x) (hi : x < 2 ^ 31) : stoi (intText x) = some x := by
  rw [stoi_intText_eq, if_pos ⟨lo, hi⟩]

end Decimal
