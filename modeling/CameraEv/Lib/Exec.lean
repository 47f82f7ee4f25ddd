import Mathlib.Data.List.Basic
import Mathlib.Tactic

/-!
# Running C++ code on byte memory

The result of running a piece of C++ code is a value or the reason it stopped.
Memory blocks are lists; a read or a write that leaves its block stops the run
(`Stop.fault`), so a theorem that a run returns a value also says that it
touched no byte outside its blocks. Unsigned 32-bit arithmetic is a parameter
(`U32`): `wrapping` is what the machine computes, `checked` stops at the first
computation whose exact result does not fit. Code written once over a `U32`
has both meanings, and what is proved of it from `U32.Exact` alone holds of both.
-/

namespace Exec

/-- Why a run stopped without a value. -/
inductive Stop where
  /-- An access outside the memory block it is made in. -/
  | fault
  /-- A 32-bit computation whose exact result does not fit (checked arithmetic only). -/
  | wrapped
  /-- An exception left the code. -/
  | thrown
  /-- The loop fuel ran out. -/
  | fuel
  deriving DecidableEq, Repr

end Exec

/-- A run: a value, or the reason it stopped. -/
abbrev Exec (α : Type) := Except Exec.Stop α

namespace Exec

section Monad

variable {α β : Type}

@[simp] theorem ok_bind (a : α) (f : α → Exec β) : ((Except.ok a : Exec α) >>= f) = f a := rfl

@[simp] theorem error_bind (e : Stop) (f : α → Exec β) :
    ((Except.error e : Exec α) >>= f) = Except.error e := rfl

@[simp] theorem pure_eq_ok (a : α) : (pure a : Exec α) = Except.ok a := rfl

@[simp] theorem throw_eq_error (e : Stop) : (throw e : Exec α) = Except.error e := rfl

/-- A sequence returns when its first part does and the rest returns from there. -/
theorem bind_eq_ok {x : Exec α} {f : α → Exec β} {b : β} :
    (x >>= f) = Except.ok b ↔ ∃ a, x = Except.ok a ∧ f a = Except.ok b := by
  cases x with
  | ok a => simp
  | error e => simp

/-- `x` returns exactly when `fits` holds, and then returns a value that satisfies `post`. -/
structure Runs (x : Exec α) (fits : Prop) (post : α → Prop) : Prop where
  returns : fits → ∃ a, x = .ok a
  sound : ∀ {a}, x = .ok a → fits ∧ post a

namespace Runs

variable {x : Exec α} {f : α → Exec β} {fits : Prop} {post : α → Prop}

theorem of_ok {a : α} (h : post a) : Runs (.ok a) True post where
  returns _ := ⟨a, rfl⟩
  sound ran := by
    cases ran
    exact ⟨trivial, h⟩

/-- The two parts of a sequence return one after the other. -/
theorem bind {fits' : Prop} {post' : β → Prop} (hx : Runs x fits post) (hf : ∀ a, post a → Runs (f a) fits' post') :
    Runs (x >>= f) (fits ∧ fits') post' where
  returns h := by
    obtain ⟨a, ha⟩ := hx.returns h.1
    obtain ⟨b, hb⟩ := (hf a (hx.sound ha).2).returns h.2
    exact ⟨b, bind_eq_ok.2 ⟨a, ha, hb⟩⟩
  sound ran := by
    obtain ⟨a, ha, hb⟩ := bind_eq_ok.1 ran
    obtain ⟨h, pa⟩ := hx.sound ha
    obtain ⟨h', pb⟩ := (hf a pa).sound hb
    exact ⟨⟨h, h'⟩, pb⟩

/-- An equivalent condition and a weaker postcondition. -/
theorem weaken {fits' : Prop} {post' : α → Prop} (hx : Runs x fits post) (iff : fits' ↔ fits)
    (imp : ∀ a, post a → post' a) : Runs x fits' post' where
  returns h := hx.returns (iff.1 h)
  sound ran := ⟨iff.2 (hx.sound ran).1, imp _ (hx.sound ran).2⟩

end Runs

end Monad

/-! ## Unsigned 32-bit arithmetic -/

/-- How `uint32_t` sums and differences are computed. -/
structure U32 where
  add : Nat → Nat → Exec Nat
  sub : Nat → Nat → Exec Nat

/-- The machine's arithmetic: results are taken modulo `2 ^ 32`. -/
def wrapping : U32 where
  add a b := pure ((a + b) % 2 ^ 32)
  sub a b := pure ((a + (2 ^ 32 - b % 2 ^ 32)) % 2 ^ 32)

/-- Arithmetic that stops where the machine's would wrap. -/
def checked : U32 where
  add a b := if a + b < 2 ^ 32 then pure (a + b) else throw .wrapped
  sub a b := if b ≤ a then pure (a - b) else throw .wrapped

theorem checked_add {a b : Nat} (h : a + b < 2 ^ 32) : checked.add a b = .ok (a + b) := if_pos h

theorem checked_sub {a b : Nat} (h : b ≤ a) : checked.sub a b = .ok (a - b) := if_pos h

theorem wrapping_add {a b : Nat} (h : a + b < 2 ^ 32) : wrapping.add a b = .ok (a + b) := by
  simp only [wrapping, Nat.mod_eq_of_lt h, pure_eq_ok]

theorem wrapping_sub {a b : Nat} (h : b ≤ a) (ha : a < 2 ^ 32) : wrapping.sub a b = .ok (a - b) := by
  have hb : b % 2 ^ 32 = b := Nat.mod_eq_of_lt (by omega)
  have split : a + (2 ^ 32 - b) = (a - b) + 2 ^ 32 := by omega
  simp only [wrapping, hb, split, Nat.add_mod_right, pure_eq_ok, Nat.mod_eq_of_lt (show a - b < 2 ^ 32 by omega)]

/-- `A` computes exactly on every operation whose operands and exact result fit. -/
structure U32.Exact (A : U32) : Prop where
  add : ∀ {a b}, a + b < 2 ^ 32 → A.add a b = .ok (a + b)
  sub : ∀ {a b}, b ≤ a → a < 2 ^ 32 → A.sub a b = .ok (a - b)

theorem wrapping_exact : wrapping.Exact := ⟨wrapping_add, wrapping_sub⟩

theorem checked_exact : checked.Exact := ⟨checked_add, fun h _ => checked_sub h⟩

/-! ## Memory blocks -/

section Memory

variable {α : Type}

/-- `memcpy` out of a block: the `n` cells from `pos` on. -/
def load (mem : List α) (pos n : Nat) : Exec (List α) :=
  if pos + n ≤ mem.length then pure ((mem.drop pos).take n) else throw .fault

/-- The block with `cells` in place of the cells from `pos` on. -/
def overwrite (mem : List α) (pos : Nat) (cells : List α) : List α :=
  mem.take pos ++ cells ++ mem.drop (pos + cells.length)

/-- `memcpy` into a block. -/
def store (mem : List α) (pos : Nat) (cells : List α) : Exec (List α) :=
  if pos + cells.length ≤ mem.length then pure (overwrite mem pos cells) else throw .fault

theorem load_eq {mem : List α} {pos n : Nat} (h : pos + n ≤ mem.length) :
    load mem pos n = .ok ((mem.drop pos).take n) := if_pos h

theorem store_eq {mem : List α} {pos : Nat} {cells : List α} (h : pos + cells.length ≤ mem.length) :
    store mem pos cells = .ok (overwrite mem pos cells) := if_pos h

theorem store_eq_ok {mem out : List α} {pos : Nat} {cells : List α} :
    store mem pos cells = .ok out ↔ pos + cells.length ≤ mem.length ∧ out = overwrite mem pos cells := by
  unfold store
  split
  · rename_i h
    simp [h, eq_comm]
  · rename_i h
    simp [h]

/-- A copy of no cell to the end of a block. -/
theorem store_nil {mem : List α} : store mem mem.length [] = .ok mem := by
  rw [store_eq (by simp)]
  simp [overwrite]

theorem length_overwrite {mem : List α} {pos : Nat} {cells : List α} (h : pos + cells.length ≤ mem.length) :
    (overwrite mem pos cells).length = mem.length := by
  simp only [overwrite, List.length_append, List.length_take, List.length_drop]
  omega

/-- A cell of an overwritten block is one of the new cells or an untouched old one. -/
theorem getElem?_overwrite {mem : List α} {pos : Nat} {cells : List α} (h : pos + cells.length ≤ mem.length)
    (i : Nat) :
    (overwrite mem pos cells)[i]? =
      if pos ≤ i ∧ i < pos + cells.length then cells[i - pos]? else mem[i]? := by
  have len : (mem.take pos).length = pos := by simp; omega
  simp only [overwrite, List.append_assoc]
  by_cases before : i < pos
  · rw [List.getElem?_append_left (by omega), if_neg (by omega)]
    simp [before]
  · rw [List.getElem?_append_right (by omega), len]
    by_cases inside : i < pos + cells.length
    · rw [List.getElem?_append_left (by omega), if_pos (by omega)]
    · rw [List.getElem?_append_right (by omega), if_neg (by omega), List.getElem?_drop]
      congr 1
      omega

/-- What was copied into a block can be copied out of it again. -/
theorem load_overwrite {mem : List α} {pos : Nat} {cells : List α} (h : pos + cells.length ≤ mem.length) :
    load (overwrite mem pos cells) pos cells.length = .ok cells := by
  have len : (mem.take pos).length = pos := by
    simp only [List.length_take]
    omega
  rw [load_eq (by rw [length_overwrite h]; exact h)]
  simp only [overwrite, List.append_assoc]
  rw [List.drop_left' len, List.take_left' rfl]

end Memory

end Exec
