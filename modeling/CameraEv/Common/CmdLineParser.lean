import Mathlib.Data.List.Basic
import Mathlib.Tactic

/-!
# The command line

An argument is a key, with a `-` or a `/` in front or none, and behind a colon its
value, which may have colons again (`Setting`). Every argument is one setting, and
what is read under a key is the last setting of that key, upper and lower case
being one. The overloads that read numbers are left out.
-/

namespace CameraEv

namespace CmdLineParser

/-- `string_p`. -/
abbrev Text := List UInt8

/-- `::toupper` in the C locale. -/
def toupper (c : UInt8) : UInt8 := if 97 ≤ c ∧ c ≤ 122 then c - 32 else c

def paramDivision (param : Text) : Text × Text :=
  match param.idxOf? 58 with
  | none => (param, [])
  | some pos => (param.take pos, (param.drop (pos + 1)).take (param.length - (pos + 1)))

/-- The flag specifier is a `-` or a `/`. -/
def isFlag (c : UInt8) : Bool := c = 45 ∨ c = 47

def removeFlag : Text → Text
  | [] => []
  | c :: param => if isFlag c then param else c :: param

/-- One round of the loop. -/
def parseParam (mapItem : Std.TreeMap Text Text) (pszParam : Text) : Std.TreeMap Text Text :=
  let (key, data) := paramDivision (removeFlag pszParam)
  mapItem.insert (key.map toupper) data

/-- `m_mapItem` after the call; `argv` is none where it is a null pointer. -/
def parseCommandLine (mapItem : Std.TreeMap Text Text) : Option (List Text) → Std.TreeMap Text Text
  | none => mapItem
  | some argv => (argv.drop 1).foldl parseParam mapItem

def findItem (mapItem : Std.TreeMap Text Text) (key : Text) : Option Text := mapItem[key]?

def hasKey (mapItem : Std.TreeMap Text Text) (key : Text) : Bool := (findItem mapItem key).isSome

/-- The value that is read, if there is one. -/
def readCmdLineValue (mapItem : Std.TreeMap Text Text) (key : Text) : Option Text := findItem mapItem key

/-! ## What an argument says -/

structure Setting where
  flag : Option UInt8
  key : Text
  value : Option Text
  flag_isFlag : ∀ c ∈ flag, isFlag c = true
  key_plain : 58 ∉ key
  key_unflagged : flag = none → ∀ c ∈ key.head?, isFlag c = false

namespace Setting

def text (s : Setting) : Text := s.flag.toList ++ s.key ++ (s.value.map (58 :: ·)).getD []

variable (s : Setting)

theorem removeFlag_text : removeFlag s.text = s.key ++ (s.value.map (58 :: ·)).getD [] := by
  obtain ⟨flag, key, value, isFlag, plain, unflagged⟩ := s
  cases flag with
  | some c => simp [text, removeFlag, isFlag c rfl]
  | none =>
    cases key with
    | nil =>
      cases value with
      | none => rfl
      | some value => rfl
    | cons c key => simp [text, removeFlag, unflagged rfl c rfl]

/-- The first colon is the one behind the key. -/
theorem paramDivision_text : paramDivision (s.key ++ (s.value.map (58 :: ·)).getD []) = (s.key, s.value.getD []) := by
  unfold paramDivision
  cases s.value with
  | none =>
    have none : List.idxOf? 58 s.key = none := List.idxOf?_eq_none_iff.2 s.key_plain
    simp [none]
  | some value =>
    have first : (s.key ++ 58 :: value).idxOf? 58 = some s.key.length := by
      refine List.idxOf?_eq_some_iff.2 ⟨by simp, by simp, fun j lt => ?_⟩
      rw [List.getElem_append_left lt]
      exact fun same => s.key_plain (same ▸ List.getElem_mem lt)
    have rest : (s.key ++ 58 :: value).length - (s.key.length + 1) = value.length := by
      rw [List.length_append, List.length_cons]
      omega
    have behind : (s.key ++ 58 :: value).drop (s.key.length + 1) = value := by
      rw [← List.drop_drop, List.drop_left, List.drop_one, List.tail_cons]
    simp only [Option.map_some, Option.getD_some, first, List.take_left, rest, behind, List.take_length]

theorem parseParam_text (mapItem : Std.TreeMap Text Text) :
    parseParam mapItem s.text = mapItem.insert (s.key.map toupper) (s.value.getD []) := by
  rw [parseParam, removeFlag_text, paramDivision_text]

/-- Every argument is a setting. -/
theorem exists_text (arg : Text) : ∃ s : Setting, s.text = arg := by
  obtain ⟨flag, rest, rfl, isFlag, unflagged⟩ : ∃ (flag : Option UInt8) (rest : Text), flag.toList ++ rest = arg ∧
      (∀ c ∈ flag, isFlag c = true) ∧ (flag = none → ∀ c ∈ rest.head?, CmdLineParser.isFlag c = false) := by
    cases arg with
    | nil => exact ⟨none, [], rfl, fun c mem => (nomatch mem), fun _ c mem => nomatch mem⟩
    | cons c arg =>
      cases first : CmdLineParser.isFlag c with
      | true => exact ⟨some c, arg, rfl, fun c' mem => (Option.some.inj mem) ▸ first, fun none => nomatch none⟩
      | false => exact ⟨none, c :: arg, rfl, fun c mem => (nomatch mem), fun _ c' mem => (Option.some.inj mem) ▸ first⟩
  cases colon : rest.idxOf? 58 with
  | none =>
    refine ⟨⟨flag, rest, none, isFlag, List.idxOf?_eq_none_iff.1 colon, unflagged⟩, ?_⟩
    simp [text]
  | some pos =>
    obtain ⟨lt, here, before⟩ := List.idxOf?_eq_some_iff.1 colon
    have plain : 58 ∉ rest.take pos := fun mem => by
      obtain ⟨j, lt', same⟩ := List.mem_iff_getElem.1 mem
      rw [List.length_take] at lt'
      rw [List.getElem_take] at same
      exact before j (by omega) same
    refine ⟨⟨flag, rest.take pos, some (rest.drop (pos + 1)), isFlag, plain, fun none c mem => ?_⟩, ?_⟩
    · refine unflagged none c ?_
      rw [List.head?_take] at mem
      split at mem
      · cases mem
      · exact mem
    · have split : rest = rest.take pos ++ 58 :: rest.drop (pos + 1) := by
        rw [← here, List.getElem_cons_drop, List.take_append_drop]
      simp only [text, Option.map_some, Option.getD_some, List.append_assoc]
      rw [← split]

/-- An argument is one setting only. -/
theorem text_injective {s t : Setting} (same : s.text = t.text) : s = t := by
  have flag (s : Setting) : s.flag = s.text.head?.filter isFlag := by
    obtain ⟨flag, key, value, isFlag, plain, unflagged⟩ := s
    cases flag with
    | some c => simp [text, Option.filter, isFlag c rfl]
    | none =>
      cases key with
      | nil => cases value <;> simp [text, Option.filter, CmdLineParser.isFlag]
      | cons c key => simp [text, Option.filter, unflagged rfl c rfl]
  have rest : s.key ++ (s.value.map (58 :: ·)).getD [] = t.key ++ (t.value.map (58 :: ·)).getD [] := by
    rw [← s.removeFlag_text, ← t.removeFlag_text, same]
  have keys : s.key = t.key := by
    have divided := congrArg paramDivision rest
    rw [s.paramDivision_text, t.paramDivision_text] at divided
    exact congrArg Prod.fst divided
  have flags : s.flag = t.flag := by rw [flag s, flag t, same]
  rw [keys, List.append_cancel_left_eq] at rest
  have values : s.value = t.value := by
    cases hs : s.value <;> cases ht : t.value <;> simp_all
  cases s
  cases t
  simp_all

end Setting

/-- What the last of the settings with that key says. -/
def lastValue (settings : List Setting) (key : Text) : Option Text :=
  (settings.reverse.find? fun s => s.key.map toupper = key).map fun s => s.value.getD []

theorem findItem_insert (mapItem : Std.TreeMap Text Text) (key key' data : Text) :
    findItem (mapItem.insert key data) key' = if key = key' then some data else findItem mapItem key' := by
  rw [findItem, findItem, Std.TreeMap.getElem?_insert]
  simp only [Std.compare_eq_iff_eq]

theorem findItem_foldl (settings : List Setting) (mapItem : Std.TreeMap Text Text) (key : Text) :
    findItem ((settings.map Setting.text).foldl parseParam mapItem) key =
      (lastValue settings key).or (findItem mapItem key) := by
  induction settings using List.reverseRecOn with
  | nil => rfl
  | append_singleton settings s ih =>
    rw [List.map_append, List.foldl_append, List.map_singleton, List.foldl_cons, List.foldl_nil, Setting.parseParam_text,
      findItem_insert, ih, lastValue, lastValue, List.reverse_append, List.reverse_singleton, List.singleton_append,
      List.find?_cons]
    by_cases same : s.key.map toupper = key
    · simp [same]
    · simp [same]

theorem exists_texts (argv : List Text) : ∃ settings : List Setting, settings.map Setting.text = argv := by
  induction argv with
  | nil => exact ⟨[], rfl⟩
  | cons arg argv ih =>
    obtain ⟨s, first⟩ := Setting.exists_text arg
    obtain ⟨settings, rest⟩ := ih
    exact ⟨s :: settings, by rw [List.map_cons, first, rest]⟩

theorem toupper_toupper (c : UInt8) : toupper (toupper c) = toupper c := by
  have each : ∀ n : Fin 256, toupper (toupper (UInt8.ofNat n)) = toupper (UInt8.ofNat n) := by decide +kernel
  simpa using each ⟨c.toNat, c.toNat_lt⟩

/-- Nothing is found under a key with lower-case letters. -/
theorem upper_of_lastValue {settings : List Setting} {key : Text} (found : lastValue settings key ≠ none) :
    key.map toupper = key := by
  rw [lastValue, Ne, Option.map_eq_none_iff, ← Ne, Option.ne_none_iff_exists'] at found
  obtain ⟨s, found⟩ := found
  have same : s.key.map toupper = key := by simpa using List.find?_some found
  rw [← same, List.map_map]
  exact List.map_congr_left fun c _ => toupper_toupper c

/-- **What is read from a command line**: behind the name of the program every argument is one setting, in one way only,
and under a key stands what the last of the settings with that key says. Such a key has no lower-case letters. -/
theorem last_setting_read (argv : List Text) : ∃! settings : List Setting, settings.map Setting.text = argv.drop 1 ∧
    ∀ key, readCmdLineValue (parseCommandLine ∅ (some argv)) key = lastValue settings key ∧
      (hasKey (parseCommandLine ∅ (some argv)) key = true → key.map toupper = key) := by
  obtain ⟨settings, texts⟩ := exists_texts (argv.drop 1)
  have read (key : Text) : findItem (parseCommandLine ∅ (some argv)) key = lastValue settings key := by
    rw [parseCommandLine, ← texts, findItem_foldl]
    exact Option.or_none
  refine ⟨settings, ⟨texts, fun key => ⟨read key, fun has => @upper_of_lastValue settings key ?_⟩⟩, ?_⟩
  · rw [← read]
    intro none
    rw [hasKey, none] at has
    cases has
  · rintro others ⟨same, -⟩
    exact List.map_injective_iff.2 (fun _ _ => Setting.text_injective) (same.trans texts.symm)

end CmdLineParser

end CameraEv
