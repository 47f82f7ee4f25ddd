import Mathlib.Tactic

/-!
# Maps as lists in the order of their keys

An ordered map is the list of its keys with their values, the keys ascending
(`Sorted`). `find` looks a key up, `insert` puts a new key in its place and
`modify` changes the value under a key. Under `Sorted` each key is there once,
so that `modify` is a `map` (`modify_eq_map`) and a membership says what `find`
returns (`find_eq_some`).
-/

namespace KeyedList

variable {K V : Type} [LinearOrder K]

/-- The keys ascend. -/
def Sorted (m : List (K × V)) : Prop := (m.map Prod.fst).Pairwise (· < ·)

def find (k : K) (m : List (K × V)) : Option V := (m.find? fun x => x.1 = k).map Prod.snd

/-- A new key with its value. -/
def insert (k : K) (v : V) : List (K × V) → List (K × V)
  | [] => [(k, v)]
  | x :: m => if k < x.1 then (k, v) :: x :: m else x :: insert k v m

/-- Another value under a key. -/
def modify (k : K) (f : V → V) : List (K × V) → List (K × V)
  | [] => []
  | x :: m => if x.1 = k then (x.1, f x.2) :: m else x :: modify k f m

/-- A value under a key that may be new. -/
def assign (k : K) (v : V) (m : List (K × V)) : List (K × V) :=
  if (find k m).isSome then modify k (fun _ => v) m else insert k v m

def erase (k : K) (m : List (K × V)) : List (K × V) := m.filter fun x => x.1 ≠ k

variable {m : List (K × V)} {k : K} {v : V}

theorem sorted_nil : Sorted ([] : List (K × V)) := List.Pairwise.nil

theorem sorted_cons {x : K × V} : Sorted (x :: m) ↔ (∀ y ∈ m, x.1 < y.1) ∧ Sorted m := by
  simp only [Sorted, List.map_cons, List.pairwise_cons, List.forall_mem_map]

/-- A key has one value. -/
theorem Sorted.eq_of_key (sorted : Sorted m) {x y : K × V} (hx : x ∈ m) (hy : y ∈ m) (same : x.1 = y.1) : x = y :=
  List.inj_on_of_nodup_map (sorted.imp fun h => h.ne) hx hy same

theorem find_eq_none : find k m = none ↔ ∀ x ∈ m, x.1 ≠ k := by
  simp [find, List.find?_eq_none]

theorem mem_of_find (h : find k m = some v) : (k, v) ∈ m := by
  obtain ⟨⟨k', v'⟩, found, rfl⟩ := Option.map_eq_some_iff.1 h
  have here : k' = k := by simpa using List.find?_some found
  rw [← here]
  exact List.mem_of_find?_eq_some found

theorem find_eq_some (sorted : Sorted m) : find k m = some v ↔ (k, v) ∈ m := by
  refine ⟨mem_of_find, fun mem => ?_⟩
  cases found : find k m with
  | none => exact absurd rfl (find_eq_none.1 found _ mem)
  | some v' => exact congrArg some (Prod.ext_iff.1 (sorted.eq_of_key (mem_of_find found) mem rfl)).2

theorem insert_perm (k : K) (v : V) (m : List (K × V)) : (insert k v m).Perm ((k, v) :: m) := by
  induction m with
  | nil => exact List.Perm.refl _
  | cons y m ih =>
    simp only [insert]
    split
    · exact List.Perm.refl _
    · exact (ih.cons y).trans (List.Perm.swap _ _ _)

theorem mem_insert {x : K × V} : x ∈ insert k v m ↔ x = (k, v) ∨ x ∈ m :=
  (insert_perm k v m).mem_iff.trans List.mem_cons

theorem sorted_insert (sorted : Sorted m) (new : ∀ x ∈ m, x.1 ≠ k) : Sorted (insert k v m) := by
  induction m with
  | nil => exact List.pairwise_singleton _ _
  | cons y m ih =>
    obtain ⟨above, rest⟩ := sorted_cons.1 sorted
    simp only [insert]
    split
    · rename_i below
      refine sorted_cons.2 ⟨fun x mem => ?_, sorted⟩
      rcases List.mem_cons.1 mem with rfl | mem
      · exact below
      · exact lt_trans below (above x mem)
    · rename_i notBelow
      have after : y.1 < k := lt_of_le_of_ne (not_lt.1 notBelow) (new y List.mem_cons_self)
      refine sorted_cons.2 ⟨fun x mem => ?_, ih rest fun x mem => new x (List.mem_cons_of_mem y mem)⟩
      rcases mem_insert.1 mem with rfl | mem
      · exact after
      · exact above x mem

theorem assign_of_new (new : ∀ x ∈ m, x.1 ≠ k) : assign k v m = insert k v m := by
  rw [assign, find_eq_none.2 new]
  rfl

theorem mem_erase {x : K × V} : x ∈ erase k m ↔ x ∈ m ∧ x.1 ≠ k := by
  simp [erase]

theorem mem_keys {k : K} : k ∈ m.map Prod.fst ↔ find k m ≠ none := by
  rw [Ne, find_eq_none]
  simp

theorem keys_modify (f : V → V) : (modify k f m).map Prod.fst = m.map Prod.fst := by
  induction m with
  | nil => rfl
  | cons y m ih =>
    simp only [modify]
    split
    · rfl
    · rw [List.map_cons, List.map_cons, ih]

theorem sorted_modify (sorted : Sorted m) (f : V → V) : Sorted (modify k f m) := by
  rw [Sorted, keys_modify]
  exact sorted

/-- What does not touch the other keys is a `map`. -/
theorem modify_eq_map (sorted : Sorted m) (f : V → V) :
    modify k f m = m.map fun x => if x.1 = k then (x.1, f x.2) else x := by
  induction m with
  | nil => rfl
  | cons y m ih =>
    obtain ⟨above, rest⟩ := sorted_cons.1 sorted
    simp only [modify, List.map_cons]
    split
    · rename_i here
      have others : ∀ x ∈ m, (if x.1 = k then (x.1, f x.2) else x) = x := fun x mem =>
        if_neg fun same => (above x mem).ne (here.trans same.symm)
      rw [List.map_congr_left others, List.map_id']
    · rw [ih rest]

/-- A value that is there is changed where it stands. -/
theorem modify_split (sorted : Sorted m) (mem : (k, v) ∈ m) :
    ∃ before after, m = before ++ (k, v) :: after ∧ ∀ f, modify k f m = before ++ (k, f v) :: after := by
  obtain ⟨before, after, rfl⟩ := List.append_of_mem mem
  refine ⟨before, after, rfl, fun f => ?_⟩
  have only : ∀ x ∈ before ++ (k, v) :: after, x.1 = k → x = (k, v) := fun x mem' same =>
    sorted.eq_of_key mem' mem same
  have distinct : (before ++ (k, v) :: after).Nodup := List.Nodup.of_map Prod.fst (sorted.imp fun h => h.ne)
  obtain ⟨-, tail, apart⟩ := List.nodup_append.1 distinct
  have notBefore : ∀ x ∈ before, x.1 ≠ k := fun x mem' same =>
    apart x mem' (k, v) List.mem_cons_self (only x (List.mem_append_left _ mem') same)
  have notAfter : ∀ x ∈ after, x.1 ≠ k := fun x mem' same =>
    (List.nodup_cons.1 tail).1 (only x (List.mem_append_right _ (List.mem_cons_of_mem _ mem')) same ▸ mem')
  rw [modify_eq_map sorted, List.map_append, List.map_cons, if_pos rfl,
    List.map_congr_left fun x mem' => if_neg (notBefore x mem'),
    List.map_congr_left fun x mem' => if_neg (notAfter x mem'), List.map_id', List.map_id']

/-- A new value that is changed at once. -/
theorem modify_insert (new : ∀ x ∈ m, x.1 ≠ k) (f : V → V) : modify k f (insert k v m) = insert k (f v) m := by
  induction m with
  | nil => simp [insert, modify]
  | cons y m ih =>
    simp only [insert]
    split
    · simp [modify]
    · rw [modify, if_neg (new y List.mem_cons_self), ih fun x mem => new x (List.mem_cons_of_mem y mem)]

theorem find_modify_eq_none {k' : K} (f : V → V) : find k' (modify k f m) = none ↔ find k' m = none := by
  have keys := keys_modify (k := k) (m := m) f
  rw [← not_iff_not, ← Ne, ← mem_keys, keys, mem_keys]

theorem find_assign_eq_none {k' : K} : find k' (assign k v m) = none ↔ k' ≠ k ∧ find k' m = none := by
  unfold assign
  split
  · rename_i here
    rw [find_modify_eq_none]
    refine ⟨fun absent => ⟨?_, absent⟩, And.right⟩
    rintro rfl
    rw [absent] at here
    cases here
  · simp only [find_eq_none, mem_insert, forall_eq_or_imp]
    exact and_congr_left' ne_comm

theorem find_erase_eq_none {k' : K} : find k' (erase k m) = none ↔ k' = k ∨ find k' m = none := by
  simp only [find_eq_none, mem_erase]
  constructor
  · intro absent
    by_cases here : k' = k
    · exact .inl here
    · exact .inr fun x mem same => absent x ⟨mem, same ▸ here⟩ same
  · rintro (rfl | absent) x ⟨mem, other⟩
    · exact other
    · exact absent x mem

theorem mem_modify (sorted : Sorted m) {f : V → V} {x : K × V} :
    x ∈ modify k f m ↔ ∃ y ∈ m, (if y.1 = k then (y.1, f y.2) else y) = x := by
  rw [modify_eq_map sorted, List.mem_map]

end KeyedList
