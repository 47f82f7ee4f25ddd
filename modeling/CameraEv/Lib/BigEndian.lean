import Mathlib.Tactic

/-!
# Big-endian byte strings

`encode k n` is the `k` low bytes of `n`, most significant first; `decode` is the
number that a byte string denotes. They are inverse up to the width.
-/

namespace BigEndian

/-- The `k` low bytes of `n`. -/
def encode : Nat → Nat → List UInt8
  | 0, _ => []
  | k + 1, n => encode k (n / 256) ++ [UInt8.ofNat (n % 256)]

/-- The number a byte string denotes. -/
def decode (bs : List UInt8) : Nat := bs.foldl (fun n byte => n * 256 + byte.toNat) 0

@[simp] theorem length_encode (k n : Nat) : (encode k n).length = k := by
  induction k generalizing n with
  | zero => rfl
  | succ k ih => simp only [encode, List.length_append, ih, List.length_singleton]

theorem decode_concat (bs : List UInt8) (b : UInt8) : decode (bs ++ [b]) = decode bs * 256 + b.toNat := by
  simp only [decode, List.foldl_append, List.foldl_cons, List.foldl_nil]

theorem decode_encode (k n : Nat) : decode (encode k n) = n % 256 ^ k := by
  induction k generalizing n with
  | zero => simp [encode, decode, Nat.mod_one]
  | succ k ih =>
    have low : (UInt8.ofNat (n % 256)).toNat = n % 256 := by
      rw [UInt8.toNat_ofNat']
      exact Nat.mod_eq_of_lt (Nat.mod_lt n (by decide))
    rw [encode, decode_concat, ih, low, pow_succ, Nat.mul_comm (256 ^ k) 256, Nat.mod_mul]
    omega

theorem decode_encode_of_lt {k n : Nat} (lt : n < 256 ^ k) : decode (encode k n) = n := by
  rw [decode_encode, Nat.mod_eq_of_lt lt]

theorem encode_decode (bs : List UInt8) : encode bs.length (decode bs) = bs := by
  induction bs using List.reverseRecOn with
  | nil => rfl
  | append_singleton bs b ih =>
    have lt := b.toNat_lt
    have quo : (decode bs * 256 + b.toNat) / 256 = decode bs := by omega
    have rem : (decode bs * 256 + b.toNat) % 256 = b.toNat := by omega
    rw [List.length_append, List.length_singleton, encode, decode_concat, quo, rem, ih, UInt8.ofNat_toNat]

theorem decode_lt (bs : List UInt8) : decode bs < 256 ^ bs.length := by
  induction bs using List.reverseRecOn with
  | nil => exact Nat.one_pos
  | append_singleton bs b ih =>
    have lt := b.toNat_lt
    rw [decode_concat, List.length_append, List.length_singleton, pow_succ]
    omega

end BigEndian
