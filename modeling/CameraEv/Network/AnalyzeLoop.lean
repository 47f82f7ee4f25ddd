import CameraEv.Network.PacketRoundTrip

/-!
# The rounds of `DoAnalyze`

The packet comes from another process, and the loop over its blocks takes every
step from a length field of the packet. `round` is one round of the loop and
`walk` where some rounds lead. The loop advances in each round and ends exactly
when every length field it meets is positive and keeps the position an `int`
(`analyze_progresses_iff`); a block of length zero keeps it in place for ever
(`doAnalyze_stuck`).
-/

namespace CameraEv

open Exec CPacketDefine

/-! ## Runs that stop at a read only -/

/-- The run stops at a read outside its memory or not at all. -/
def OnlyFaults {α : Type} (x : Exec α) : Prop := ∀ e, x = .error e → e = .fault

section OnlyFaults

variable {α β : Type}

theorem onlyFaults_ok (a : α) : OnlyFaults (.ok a : Exec α) := nofun

theorem onlyFaults_fault : OnlyFaults (.error .fault : Exec α) := by
  intro e h
  cases h
  rfl

theorem OnlyFaults.bind {x : Exec α} {f : α → Exec β} (hx : OnlyFaults x) (hf : ∀ a, OnlyFaults (f a)) :
    OnlyFaults (x >>= f) := by
  cases x with
  | ok a => exact hf a
  | error e =>
    intro e' h
    cases h
    exact hx _ rfl

theorem onlyFaults_pointer (mem : List UInt8) (pos : Int) : OnlyFaults (pointer mem pos) := by
  unfold pointer
  split
  · exact onlyFaults_ok _
  · exact onlyFaults_fault

theorem onlyFaults_load (mem : List UInt8) (pos n : Nat) : OnlyFaults (load mem pos n) := by
  unfold load
  split
  · exact onlyFaults_ok _
  · exact onlyFaults_fault

theorem onlyFaults_sameBytes (mem bytes : List UInt8) : OnlyFaults (sameBytes mem bytes) := by
  induction mem generalizing bytes with
  | nil =>
    cases bytes with
    | nil => exact onlyFaults_ok _
    | cons c cs => exact onlyFaults_fault
  | cons b mem ih =>
    cases bytes with
    | nil => exact onlyFaults_ok _
    | cons c cs =>
      unfold sameBytes
      split
      · exact onlyFaults_ok _
      · exact ih cs

theorem onlyFaults_takeName (stop : UInt8) (mem : List UInt8) : OnlyFaults (takeName stop mem) := by
  induction mem with
  | nil => exact onlyFaults_fault
  | cons b mem ih =>
    cases mem with
    | nil => exact onlyFaults_fault
    | cons c mem =>
      unfold takeName
      split
      · exact ih.bind fun _ => onlyFaults_ok _
      · exact onlyFaults_ok _

theorem onlyFaults_hasSTX (packet : List UInt8) : OnlyFaults (hasSTX packet) := onlyFaults_sameBytes packet stx

theorem onlyFaults_hasETX (packet : List UInt8) (len : Int) : OnlyFaults (hasETX packet len) :=
  (onlyFaults_pointer _ _).bind fun _ => onlyFaults_sameBytes _ _

theorem onlyFaults_getMainLength (packet : List UInt8) : OnlyFaults (getMainLength packet) :=
  (onlyFaults_load _ _ _).bind fun _ => onlyFaults_ok _

theorem onlyFaults_getMainName (packet : List UInt8) : OnlyFaults (getMainName packet) :=
  (onlyFaults_pointer _ _).bind fun _ => onlyFaults_takeName _ _

theorem onlyFaults_getBlockLength (block : List UInt8) : OnlyFaults (getBlockLength block) :=
  (onlyFaults_load _ _ _).bind fun _ => onlyFaults_ok _

theorem onlyFaults_getBlock (block : List UInt8) : OnlyFaults (getBlock block) :=
  (onlyFaults_getBlockLength block).bind fun _ => (onlyFaults_pointer _ _).bind fun _ =>
    (onlyFaults_takeName _ _).bind fun _ => (onlyFaults_pointer _ _).bind fun _ => onlyFaults_ok _

end OnlyFaults

/-! ## The loop -/

namespace CPacketReader

/-- One round of the loop: the next position and the recorded item. -/
def round (packet : List UInt8) (nPos : Int) : Exec (Int × BlockItem) := do
  let block ← pointer packet nPos
  let nLen ← getBlockLength block
  let item ← getBlock block
  return (toInt32 (nPos + nLen), item)

/-- The position after `n` rounds from `nPos`, when there are so many. -/
def walk (packet : List UInt8) (nEndPos : Int) : Nat → Int → Option Int
  | 0, nPos => some nPos
  | n + 1, nPos =>
    if nPos < nEndPos then
      match round packet nPos with
      | .ok (next, _) => walk packet nEndPos n next
      | .error _ => none
    else none

/-- `DoAnalyze` up to its loop: an error code, or the main name with the loop's first position and its end. -/
def analyzeHead (packet : List UInt8) (len : Int) : Exec (Except Nat (List UInt8 × Int × Int)) := do
  if !(← hasSTX packet) then
    return .error 1
  if !(← hasETX packet len) then
    return .error 2
  let name ← getMainName packet
  if name.isEmpty then
    return .error 3
  let nLen ← getMainLength packet
  return .ok (name, toInt32 (getPosMainName + name.length + 1), toInt32 (getPosSTX + nLen - getSizeETX))

/-- `DoAnalyze` gets to its loop, with this name and these positions. -/
def LoopAt (packet : List UInt8) (len : Int) (name : List UInt8) (nPos nEndPos : Int) : Prop :=
  analyzeHead packet len = .ok (.ok (name, nPos, nEndPos))

section Loop

variable {packet name : List UInt8} {len nPos nEndPos next : Int} {item : BlockItem} {items : List BlockItem} {n fuel : Nat}

theorem analyzeBlocks_succ : analyzeBlocks packet nEndPos (fuel + 1) nPos items =
    if nPos < nEndPos then do
      let (next, item) ← round packet nPos
      analyzeBlocks packet nEndPos fuel next (items ++ [item])
    else .ok items := by
  simp only [analyzeBlocks, round]
  split
  · cases pointer packet nPos with
    | error e => rfl
    | ok block =>
      simp only [ok_bind]
      cases getBlockLength block with
      | error e => rfl
      | ok nLen =>
        simp only [ok_bind]
        cases getBlock block with
        | error e => rfl
        | ok item => rfl
  · rfl

theorem onlyFaults_round (packet : List UInt8) (nPos : Int) : OnlyFaults (round packet nPos) :=
  (onlyFaults_pointer _ _).bind fun _ => (onlyFaults_getBlockLength _).bind fun _ =>
    (onlyFaults_getBlock _).bind fun _ => onlyFaults_ok _

theorem walk_succ (more : nPos < nEndPos) (ran : round packet nPos = .ok (next, item)) :
    walk packet nEndPos (n + 1) nPos = walk packet nEndPos n next := by
  simp only [walk, if_pos more, ran]

theorem walk_done (done : nEndPos ≤ nPos) : walk packet nEndPos (n + 1) nPos = none := by
  simp only [walk, if_neg (not_lt.2 done)]

theorem walk_fault {e : Stop} (ran : round packet nPos = .error e) : walk packet nEndPos (n + 1) nPos = none := by
  simp only [walk, ran, ite_self]

/-- The loop runs out of fuel while there are so many rounds. -/
theorem analyzeBlocks_fuel_iff : analyzeBlocks packet nEndPos fuel nPos items = .error .fuel ↔
    (walk packet nEndPos fuel nPos).isSome = true := by
  induction fuel generalizing nPos items with
  | zero => simp [analyzeBlocks, walk]
  | succ fuel ih =>
    rw [analyzeBlocks_succ]
    by_cases more : nPos < nEndPos
    · rw [if_pos more]
      cases ran : round packet nPos with
      | ok r =>
        obtain ⟨next, item⟩ := r
        rw [walk_succ more ran]
        exact ih
      | error e =>
        rw [walk_fault ran, onlyFaults_round packet nPos e ran]
        simp
    · rw [if_neg more, walk_done (not_lt.1 more)]
      simp

theorem onlyFaults_analyzeHead (packet : List UInt8) (len : Int) : OnlyFaults (analyzeHead packet len) := by
  refine (onlyFaults_hasSTX packet).bind fun stx => ?_
  cases stx with
  | false => exact onlyFaults_ok _
  | true =>
    refine (onlyFaults_hasETX packet len).bind fun etx => ?_
    cases etx with
    | false => exact onlyFaults_ok _
    | true =>
      refine (onlyFaults_getMainName packet).bind fun name => ?_
      split
      · exact onlyFaults_ok _
      · exact (onlyFaults_getMainLength packet).bind fun _ => onlyFaults_ok _

/-- `DoAnalyze` is its head and its loop. -/
theorem doAnalyze_eq (fuel : Nat) (r : CPacketReader) (packet : List UInt8) (len : Int) :
    r.doAnalyze fuel packet len = do
      match ← analyzeHead packet len with
      | .error code => return (code, {})
      | .ok (name, nPos, nEndPos) =>
        return (0, { mainName := name, blockItems := ← analyzeBlocks packet nEndPos fuel nPos [] }) := by
  simp only [doAnalyze, analyzeHead, clear]
  cases hasSTX packet with
  | error e => rfl
  | ok stx =>
  cases stx with
  | false => rfl
  | true =>
  simp only [ok_bind, Bool.not_true, Bool.false_eq_true, if_false]
  cases hasETX packet len with
  | error e => rfl
  | ok etx =>
  cases etx with
  | false => rfl
  | true =>
  simp only [ok_bind, Bool.not_true, Bool.false_eq_true, if_false]
  cases getMainName packet with
  | error e => rfl
  | ok name =>
  cases name with
  | nil => rfl
  | cons b name =>
  simp only [ok_bind, List.isEmpty_cons, Bool.false_eq_true, if_false]
  cases getMainLength packet with
  | error e => rfl
  | ok nLen => rfl

/-! ## Progress -/

/-- The loop ends, and each of its rounds leads further. -/
structure Progresses (packet : List UInt8) (len : Int) : Prop where
  finite : ∃ fuel, ∀ r : CPacketReader, r.doAnalyze fuel packet len ≠ .error .fuel
  increases : ∀ {name nPos nEndPos}, LoopAt packet len name nPos nEndPos → ∀ {n p q},
    walk packet nEndPos n nPos = some p → walk packet nEndPos (n + 1) nPos = some q → p < q

/-- The length fields that the loop meets from `nPos` on are positive and keep the position below `2 ^ 31`, up to the
end position or a block that cannot be read. -/
inductive Advances (packet : List UInt8) (nEndPos : Int) : Int → Prop where
  | finish {nPos : Int} (done : nEndPos ≤ nPos) : Advances packet nEndPos nPos
  | unreadable {nPos : Int} {e : Stop} (read : (pointer packet nPos >>= getBlock) = .error e) :
    Advances packet nEndPos nPos
  | block {nPos : Int} {nLen : Nat} (length : (pointer packet nPos >>= getBlockLength) = .ok nLen)
      (positive : 0 < nLen) (small : nPos + nLen < 2 ^ 31) (rest : Advances packet nEndPos (nPos + nLen)) :
    Advances packet nEndPos nPos

/-- A round reads the block and goes on by its length field. -/
theorem round_eq_ok : round packet nPos = .ok (next, item) ↔ (pointer packet nPos >>= getBlock) = .ok item ∧
    ∃ nLen : Nat, (pointer packet nPos >>= getBlockLength) = .ok nLen ∧ next = toInt32 (nPos + nLen) := by
  simp only [round, bind_eq_ok, pure_eq_ok, Except.ok.injEq, Prod.mk.injEq]
  constructor
  · rintro ⟨block, at', nLen, length, item', got, rfl, rfl⟩
    exact ⟨⟨block, at', got⟩, nLen, ⟨block, at', length⟩, rfl⟩
  · rintro ⟨⟨block, at', got⟩, nLen, ⟨block', at'', length⟩, rfl⟩
    rw [at'] at at''
    cases at''
    exact ⟨block, at', nLen, length, item, got, rfl, rfl⟩

theorem round_eq_error {e : Stop} : round packet nPos = .error e ↔ (pointer packet nPos >>= getBlock) = .error e := by
  unfold round
  cases pointer packet nPos with
  | error e' => simp only [error_bind, Except.error.injEq]
  | ok block =>
    simp only [ok_bind]
    cases length : getBlockLength block with
    | error e' => simp only [getBlock, length, error_bind, Except.error.injEq]
    | ok nLen =>
      simp only [ok_bind]
      cases getBlock block with
      | error e' => simp only [error_bind, Except.error.injEq]
      | ok item => simp only [ok_bind, pure_eq_ok, reduceCtorEq]

theorem pointer_nonneg {block : List UInt8} (at' : pointer packet nPos = .ok block) : 0 ≤ nPos := by
  unfold pointer at at'
  split at at'
  · rename_i inside
    exact inside.1
  · cases at'

theorem getBlockLength_lt {block : List UInt8} {nLen : Nat} (length : getBlockLength block = .ok nLen) : nLen < 2 ^ 32 := by
  simp only [getBlockLength, bind_eq_ok, pure_eq_ok, Except.ok.injEq] at length
  obtain ⟨field, read, rfl⟩ := length
  have width : field.length ≤ 4 := by
    unfold load at read
    split at read
    · cases read
      exact List.length_take_le _ _
    · cases read
  exact lt_of_lt_of_le (LittleEndian.decode_lt field) (Nat.pow_le_pow_right (by decide) width)

/-- The sum with an `int` stays ahead exactly when it is a larger `int`. -/
theorem lt_toInt32_add_iff {p : Int} {nLen : Nat} (lo : 0 ≤ p) (hi : p < 2 ^ 31) (small : nLen < 2 ^ 32) :
    p < toInt32 (p + nLen) ↔ 0 < nLen ∧ p + nLen < 2 ^ 31 := by
  constructor
  · intro ahead
    by_cases fits : p + nLen < 2 ^ 31
    · rw [toInt32_eq (by omega) fits] at ahead
      exact ⟨by omega, fits⟩
    · have wrapped : toInt32 (p + nLen) = p + nLen - 2 ^ 32 := by
        unfold toInt32
        rw [← Int.sub_mul_bmod_self_right (p + nLen) 1 (2 ^ 32), one_mul]
        exact Int.bmod_eq_of_le (by omega) (by omega)
      omega
  · rintro ⟨positive, fits⟩
    rw [toInt32_eq (by omega) fits]
    omega

theorem Advances.ends (advances : Advances packet nEndPos nPos) : ∃ n, walk packet nEndPos n nPos = none := by
  induction advances with
  | finish done => exact ⟨1, walk_done done⟩
  | unreadable read => exact ⟨1, walk_fault (round_eq_error.2 read)⟩
  | @block nPos nLen length positive small rest ih =>
    obtain ⟨n, none⟩ := ih
    by_cases more : nPos < nEndPos
    · cases ran : round packet nPos with
      | error e => exact ⟨1, walk_fault ran⟩
      | ok r =>
        obtain ⟨next, item⟩ := r
        obtain ⟨-, nLen', length', rfl⟩ := round_eq_ok.1 ran
        rw [length] at length'
        cases length'
        obtain ⟨block, at', -⟩ := bind_eq_ok.1 length
        have lo := pointer_nonneg at'
        refine ⟨n + 1, ?_⟩
        rw [walk_succ more ran, toInt32_eq (by omega) small]
        exact none
    · exact ⟨1, walk_done (not_lt.1 more)⟩

theorem Advances.increases (advances : Advances packet nEndPos nPos) (hi : nPos < 2 ^ 31) {p q : Int}
    (here : walk packet nEndPos n nPos = some p) (next : walk packet nEndPos (n + 1) nPos = some q) : p < q := by
  induction advances generalizing n with
  | finish done =>
    rw [walk_done done] at next
    cases next
  | unreadable read =>
    rw [walk_fault (round_eq_error.2 read)] at next
    cases next
  | @block nPos nLen length positive small rest ih =>
    by_cases more : nPos < nEndPos
    · cases ran : round packet nPos with
      | error e =>
        rw [walk_fault ran] at next
        cases next
      | ok r =>
        obtain ⟨after, item⟩ := r
        obtain ⟨-, nLen', length', rfl⟩ := round_eq_ok.1 ran
        rw [length] at length'
        cases length'
        obtain ⟨block, at', -⟩ := bind_eq_ok.1 length
        have lo := pointer_nonneg at'
        rw [walk_succ more ran, toInt32_eq (by omega) small] at next
        cases n with
        | zero =>
          cases here
          cases next
          omega
        | succ n =>
          rw [walk_succ more ran, toInt32_eq (by omega) small] at here
          exact ih small here next
    · rw [walk_done (not_lt.1 more)] at next
      cases next

/-- A loop that ends and advances in every round meets only length fields that let it. -/
theorem advances_of_increases (hi : nPos < 2 ^ 31) (ends : walk packet nEndPos n nPos = none)
    (increases : ∀ {n p q}, walk packet nEndPos n nPos = some p → walk packet nEndPos (n + 1) nPos = some q → p < q) :
    Advances packet nEndPos nPos := by
  induction n generalizing nPos with
  | zero => cases ends
  | succ n ih =>
    by_cases more : nPos < nEndPos
    · cases ran : round packet nPos with
      | error e => exact .unreadable (round_eq_error.1 ran)
      | ok r =>
        obtain ⟨next, item⟩ := r
        have ahead : nPos < next := @increases 0 nPos next rfl (by rw [walk_succ more ran]; rfl)
        obtain ⟨-, nLen, length, rfl⟩ := round_eq_ok.1 ran
        obtain ⟨block, at', field⟩ := bind_eq_ok.1 length
        have lo := pointer_nonneg at'
        obtain ⟨positive, small⟩ := (lt_toInt32_add_iff lo hi (getBlockLength_lt field)).1 ahead
        have next_eq : toInt32 (nPos + nLen) = nPos + nLen := toInt32_eq (by omega) small
        rw [walk_succ more ran, next_eq] at ends
        refine .block length positive small (ih small ends ?_)
        intro m p q here there
        refine @increases (m + 1) p q ?_ ?_
        · rw [walk_succ more ran, next_eq]
          exact here
        · rw [walk_succ more ran, next_eq]
          exact there
    · exact .finish (not_lt.1 more)

theorem doAnalyze_fuel_iff {name : List UInt8} (loop : LoopAt packet len name nPos nEndPos) (r : CPacketReader) :
    r.doAnalyze fuel packet len = .error .fuel ↔ (walk packet nEndPos fuel nPos).isSome = true := by
  have empty := @analyzeBlocks_fuel_iff packet nPos nEndPos [] fuel
  rw [doAnalyze_eq, show analyzeHead packet len = _ from loop, ← empty]
  simp only [ok_bind]
  cases analyzeBlocks packet nEndPos fuel nPos [] with
  | error e => simp only [error_bind, Except.error.injEq]
  | ok items => simp only [ok_bind, pure_eq_ok, reduceCtorEq]

theorem loopAt_lt {name : List UInt8} (loop : LoopAt packet len name nPos nEndPos) : nPos < 2 ^ 31 := by
  unfold LoopAt analyzeHead at loop
  simp only [bind_eq_ok] at loop
  obtain ⟨stx, -, loop⟩ := loop
  split at loop
  · cases loop
  obtain ⟨etx, -, loop⟩ := bind_eq_ok.1 loop
  split at loop
  · cases loop
  obtain ⟨name', -, loop⟩ := bind_eq_ok.1 loop
  split at loop
  · cases loop
  obtain ⟨nLen, -, loop⟩ := bind_eq_ok.1 loop
  simp only [pure_eq_ok, Except.ok.injEq, Prod.mk.injEq] at loop
  rw [← loop.2.1]
  exact toInt32_lt _

/-- **The loop advances exactly while the length fields let it.** For any bytes in memory, the loop of `DoAnalyze`
ends with a larger position after each round if and only if every length field that it meets is positive and keeps the
position an `int`. -/
theorem analyze_progresses_iff (packet : List UInt8) (len : Int) :
    Progresses packet len ↔ ∀ name nPos nEndPos, LoopAt packet len name nPos nEndPos → Advances packet nEndPos nPos := by
  constructor
  · intro progresses name nPos nEndPos loop
    obtain ⟨fuel, ends⟩ := progresses.finite
    have none : walk packet nEndPos fuel nPos = none := by
      rw [← Option.not_isSome_iff_eq_none, ← doAnalyze_fuel_iff loop {}]
      exact ends {}
    exact advances_of_increases (loopAt_lt loop) none fun here next => progresses.increases loop here next
  · intro advances
    constructor
    · cases head : analyzeHead packet len with
      | error e =>
        refine ⟨0, fun r => ?_⟩
        rw [doAnalyze_eq, head, error_bind, onlyFaults_analyzeHead packet len e head]
        nofun
      | ok found =>
        cases found with
        | error code =>
          refine ⟨0, fun r => ?_⟩
          rw [doAnalyze_eq, head]
          nofun
        | ok found =>
          obtain ⟨name, nPos, nEndPos⟩ := found
          obtain ⟨n, none⟩ := (advances name nPos nEndPos head).ends
          refine ⟨n, fun r => ?_⟩
          rw [ne_eq, doAnalyze_fuel_iff head, Option.not_isSome_iff_eq_none]
          exact none
    · intro name nPos nEndPos loop n p q here next
      exact (advances name nPos nEndPos loop).increases (loopAt_lt loop) here next

/-- A block of length zero keeps the loop in place for ever. -/
theorem walk_stuck (more : nPos < nEndPos) (ran : round packet nPos = .ok (nPos, item)) (n : Nat) :
    walk packet nEndPos n nPos = some nPos := by
  induction n with
  | zero => rfl
  | succ n ih => rw [walk_succ more ran, ih]

theorem doAnalyze_stuck {name : List UInt8} (loop : LoopAt packet len name nPos nEndPos) (more : nPos < nEndPos)
    (ran : round packet nPos = .ok (nPos, item)) (fuel : Nat) (r : CPacketReader) :
    r.doAnalyze fuel packet len = .error .fuel := by
  rw [doAnalyze_fuel_iff loop, walk_stuck more ran]
  rfl

end Loop

/-- A packet with one block, of length zero: the marks, the length and the main name are in order. -/
def zeroBlock : List UInt8 := stx ++ [20, 0, 0, 0] ++ [65, 0] ++ [0, 0, 0, 0, 107, 58] ++ etx

/-- On it `DoAnalyze` does not end, whatever is behind it in the buffer. -/
theorem zeroBlock_endless : hasSTX zeroBlock = .ok true ∧ getMainLength zeroBlock = .ok zeroBlock.length ∧
    hasETX zeroBlock zeroBlock.length = .ok true ∧ ¬ Progresses zeroBlock zeroBlock.length ∧
    ¬ ∃ fuel, ({} : CPacketReader).doAnalyze fuel zeroBlock zeroBlock.length ≠ .error .fuel := by
  have loop : LoopAt zeroBlock zeroBlock.length [65] 10 16 := by
    unfold LoopAt
    decide
  have ran : round zeroBlock 10 = .ok (10, ⟨[107], etx, -6⟩) := by decide +kernel
  have endless (fuel : Nat) := doAnalyze_stuck loop (by decide) ran fuel
  refine ⟨rfl, rfl, rfl, ?_, ?_⟩
  · rintro ⟨⟨fuel, ends⟩, -⟩
    exact ends {} (endless fuel {})
  · rintro ⟨fuel, ends⟩
    exact ends (endless fuel {})

end CPacketReader

end CameraEv
