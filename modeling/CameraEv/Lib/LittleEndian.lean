import Mathlib.Tactic

/-!
# Little-endian byte strings

`encode k n` is the `k` low bytes of `n`, least significant first; `decode` is
the number that a byte string denotes. They are inverse up to the width.
-/

namespace LittleEndian

/-- The `k` low bytes of `n`. -/
def encode : Nat → Nat → List UInt8
  | 0, _ => []
  | k + 1, n => UInt8.ofNat (n % 256) :: encode k (n / 256)

/-- The number a byte string denotes. -/
def decode : List UInt8 → Nat
  | [] => 0
  | b :: bs => b.toNat + 256 * decode bs

@[simp] theorem length_encode (k n : Nat) : (encode k n).length = k := by
  induction k generalizing n with
  | zero => rfl
  | succ k ih => simp only [encode, List.length_cons, ih]

theorem decode_encode (k n : Nat) : decode (encode k n) = n % 256 ^ k := by
  induction k generalizing n with
  | zero => simp [encode, decode, Nat.mod_one]
  | succ k ih =>
    have low : (UInt8.ofNat (n % 256)).toNat = n % 256 := by
      rw [UInt8.toNat_ofNat']
      exact Nat.mod_eq_of_lt (Nat.mod_lt n (by decide))
    simp only [encode, decode, ih, low]
    rw [pow_succ, Nat.mul_comm (256 ^ k) 256, Nat.mod_mul]

/-- Only the value modulo `256 ^ k` is encoded. -/
theorem encode_mod (k n : Nat) : encode k (n % 256 ^ k) = encode k n := by
  induction k generalizing n with
  | zero => rfl
  | succ k ih =>
    have low : n % 256 ^ (k + 1) % 256 = n % 256 := Nat.mod_mod_of_dvd n (Dvd.intro_left (256 ^ k) (pow_succ 256 k).symm)
    have high : n % 256 ^ (k + 1) / 256 = n / 256 % 256 ^ k := by
      rw [pow_succ, Nat.mul_comm, Nat.mod_mul_right_div_self]
    simp only [encode, low, high, ih]

theorem encode_decode (bs : List UInt8) : encode bs.length (decode bs) = bs := by
  induction bs with
  | nil => rfl
  | cons b bs ih =>
    have lt := b.toNat_lt
    have rem : (b.toNat + 256 * decode bs) % 256 = b.toNat := by omega
    have quo : (b.toNat + 256 * decode bs) / 256 = decode bs := by omega
    simp only [List.length_cons, decode, encode, rem, quo, ih, UInt8.ofNat_toNat]

theorem decode_lt (bs : List UInt8) : decode bs < 256 ^ bs.length := by
  induction bs with
  | nil => simp [decode]
  | cons b bs ih =>
    have lt := b.toNat_lt
    simp only [decode, List.length_cons, pow_succ]
    omega

end LittleEndian
