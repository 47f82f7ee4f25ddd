import CameraEv.Network.PacketRoundTrip

/-!
# Packets that are too long for the reader

`DoAnalyze` takes the packet's length as an `int` and computes the positions and
the lengths of the blocks as `int`s. These are the facts that keep a packet of
`2 ^ 31` bytes or more from being read back.
-/

namespace CameraEv

open Exec CPacketDefine

namespace CPacketReader

variable {r r' : CPacketReader} {packet : List UInt8} {len : Int} {fuel code : Nat}

/-- The items of a successful analysis come out of the block loop. -/
theorem doAnalyze_blockItems (ran : r.doAnalyze fuel packet len = .ok (code, r')) :
    r'.blockItems = [] ∨ ∃ name nLen, getMainName packet = .ok name ∧ getMainLength packet = .ok nLen ∧
      analyzeBlocks packet (toInt32 (getPosSTX + nLen - getSizeETX)) fuel
        (toInt32 (getPosMainName + name.length + 1)) [] = .ok r'.blockItems := by
  simp only [doAnalyze, bind_eq_ok] at ran
  obtain ⟨hasStx, -, ran⟩ := ran
  cases hasStx with
  | false =>
    cases ran
    exact .inl rfl
  | true =>
    simp only [Bool.not_true, Bool.false_eq_true, if_false, bind_eq_ok] at ran
    obtain ⟨hasEtx, -, ran⟩ := ran
    cases hasEtx with
    | false =>
      cases ran
      exact .inl rfl
    | true =>
      simp only [Bool.not_true, Bool.false_eq_true, if_false, bind_eq_ok] at ran
      obtain ⟨name, named, ran⟩ := ran
      split at ran
      · cases ran
        exact .inl rfl
      · simp only [bind_eq_ok, pure_eq_ok, Except.ok.injEq, Prod.mk.injEq] at ran
        obtain ⟨nLen, length, items, loop, -, rfl⟩ := ran
        exact .inr ⟨name, nLen, named, length, loop⟩

theorem getBlock_length_lt {block : List UInt8} {item : BlockItem} (ran : getBlock block = .ok item) :
    item.length < 2 ^ 31 := by
  simp only [getBlock, bind_eq_ok, pure_eq_ok, Except.ok.injEq] at ran
  obtain ⟨nLen, -, _, -, name, -, _, -, data, -, rfl⟩ := ran
  exact toInt32_lt _

theorem analyzeBlocks_length_lt {nEndPos nPos : Int} {items found : List BlockItem}
    (short : ∀ item ∈ items, item.length < 2 ^ 31) (ran : analyzeBlocks packet nEndPos fuel nPos items = .ok found) :
    ∀ item ∈ found, item.length < 2 ^ 31 := by
  induction fuel generalizing nPos items with
  | zero => cases ran
  | succ fuel ih =>
    simp only [analyzeBlocks] at ran
    split at ran
    · simp only [bind_eq_ok] at ran
      obtain ⟨block, -, nLen, -, item, got, ran⟩ := ran
      refine ih ?_ ran
      intro other member
      rcases List.mem_append.1 member with old | new
      · exact short other old
      · rw [List.mem_singleton.1 new]
        exact getBlock_length_lt got
    · cases ran
      exact short

/-- No item of an analysed packet is longer than an `int` can say. -/
theorem doAnalyze_length_lt (ran : r.doAnalyze fuel packet len = .ok (code, r')) :
    ∀ item ∈ r'.blockItems, item.length < 2 ^ 31 := by
  rcases doAnalyze_blockItems ran with none | ⟨name, nLen, -, -, loop⟩
  · simp [none]
  · exact analyzeBlocks_length_lt (by simp) loop

theorem readString_length_lt (short : ∀ item ∈ r.blockItems, item.length < 2 ^ 31) {key data : List UInt8}
    (ran : r.readString key [] = .ok (code, data)) : data.length < 2 ^ 31 := by
  simp only [readString, readItem] at ran
  cases found : r.blockItems.find? fun item => decide (key = item.name) with
  | none =>
    simp only [found] at ran
    cases ran
    simp
  | some item =>
    have bound := short item (List.mem_of_find?_eq_some found)
    simp only [found] at ran
    split at ran
    · cases ran
    · simp only [bind_eq_ok, pure_eq_ok, Except.ok.injEq, Prod.mk.injEq, List.append_nil] at ran
      obtain ⟨bytes, loaded, -, rfl⟩ := ran
      unfold load at loaded
      split at loaded
      · cases loaded
        simp only [List.length_take]
        omega
      · cases loaded

/-- A key that no item has. -/
theorem find_missing {first key : List UInt8} (only : ∀ item ∈ r.blockItems, item.name = first) (other : key ≠ first) :
    (r.blockItems.find? fun item => key = item.name) = none := by
  rw [List.find?_eq_none]
  intro item member
  simpa [only item member] using other

/-- A length that does not reach the end mark makes the reader look before the packet. -/
theorem doAnalyze_negative {name rest : List UInt8} {blocks : List Block} (negative : len < 4) :
    r.doAnalyze fuel (encodePacket name blocks ++ rest) len = .error .fault := by
  have before : ¬ (0 ≤ getPosETX len ∧ getPosETX len ≤ (encodePacket name blocks ++ rest).length) := by
    simp only [getPosETX, getSizeETX, etx, List.length_cons, List.length_nil]
    omega
  simp only [doAnalyze, hasSTX_encodePacket, ok_bind, Bool.not_true, Bool.false_eq_true, if_false, hasETX, pointer,
    if_neg before, throw_eq_error, error_bind]

/-- Where the packet's length does not fit 32 bits and its first block nearly fills an `int`,
at most that block is found. -/
theorem doAnalyze_overflow {name : List UInt8} {b : Block} {all blocks : List Block} (first : all = b :: blocks)
    (nonempty : name ≠ []) (delimited : getStartBlockDelimiter ∉ name) (short : name.length < 2 ^ 10)
    (named : WellNamed b) (lo : 2 ^ 32 ≤ packetLength name all) (hi : packetLength name all < 2 ^ 32 + 2 ^ 20)
    (first_lo : 2 ^ 30 ≤ b.2.length) (first_hi : b.2.length < 2 ^ 31) (key_short : b.1.length < 2 ^ 10)
    (ran : r.doAnalyze fuel (encodePacket name all) len = .ok (code, r')) :
    ∀ item ∈ r'.blockItems, item.name = b.1 := by
  subst first
  rw [← List.append_nil (encodePacket _ _)] at ran
  have block_length : blockLength b = 5 + b.1.length + b.2.length := rfl
  rcases doAnalyze_blockItems ran with none | ⟨name', nLen, gotName, gotLength, loop⟩
  · simp [none]
  -- the length field keeps the total modulo 2 ^ 32, so the loop ends right after the main name
  · rw [getMainName_encodePacket _ _ _ nonempty delimited] at gotName
    cases gotName
    rw [getMainLength_encodePacket] at gotLength
    cases gotLength
    have finish : toInt32 (getPosSTX + (packetLength name (b :: blocks) % 2 ^ 32 : Nat) - getSizeETX) =
        packetLength name (b :: blocks) - 2 ^ 32 - 4 := by
      simp only [getPosSTX, getSizeETX, etx, List.length_cons, List.length_nil]
      rw [toInt32_eq (by omega) (by omega)]
      omega
    have head : (stx ++ LittleEndian.encode 4 (packetLength name (b :: blocks)) ++ name ++
        [getStartBlockDelimiter]).length = 9 + name.length := by
      simp only [List.length_append, LittleEndian.length_encode, stx, List.length_cons, List.length_nil]
      omega
    have start : toInt32 (getPosMainName + name.length + 1) = (9 + name.length : Nat) := by
      simp only [getPosMainName, getPosMainLength, getPosSTX, getSizeSTX, stx, getSizeMainLength, List.length_cons,
        List.length_nil]
      rw [toInt32_eq (by omega) (by omega)]
      omega
    have atBlock : pointer (encodePacket name (b :: blocks) ++ []) (9 + name.length : Nat) =
        .ok (encodeBlock b ++ (blocks.flatMap encodeBlock ++ (etx ++ []))) := by
      rw [encodePacket_blocks, pointer_append (by rw [head]), List.flatMap_cons, List.append_assoc]
    rw [finish, start] at loop
    cases fuel with
    | zero => cases loop
    | succ fuel =>
      simp only [analyzeBlocks] at loop
      split at loop
      · simp only [atBlock, ok_bind, getBlockLength_encodeBlock (show blockLength b < 2 ^ 32 by omega),
          getBlock_encodeBlock named (show blockLength b < 2 ^ 32 by omega), List.nil_append] at loop
        cases fuel with
        | zero => cases loop
        | succ fuel =>
          -- behind the first block the position is past the end, or negative
          by_cases low : 9 + name.length + blockLength b < 2 ^ 31
          · rw [toInt32_eq (by omega) (by omega), analyzeBlocks, if_neg (by omega)] at loop
            rw [← Except.ok.inj loop]
            intro item member
            rw [List.mem_singleton.1 member]
          · have wrapped := @toInt32_wrap ((9 + name.length : Nat) + blockLength b : Int) (by omega) (by omega)
            rw [wrapped, analyzeBlocks, if_pos (by omega), pointer, if_neg (by omega)] at loop
            cases loop
      · rw [← Except.ok.inj loop]
        simp

end CPacketReader

end CameraEv
