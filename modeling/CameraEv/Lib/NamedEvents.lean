import Mathlib.Tactic

/-!
# Named events

Manual-reset events that processes share by name. An event is there while a
process has it open (`Sound`); who creates one under a name that is taken opens
the one that is there. A process opens an event once.
-/

namespace NamedEvents

structure NamedEvent (ι : Type) where
  openers : List ι
  signaled : Bool

abbrev Events (ν ι : Type) := ν → Option (NamedEvent ι)

section Open

variable {ν ι : Type}

def openers (k : Events ν ι) (name : ν) : List ι := ((k name).map NamedEvent.openers).getD []

def signaled (k : Events ν ι) (name : ν) : Bool := ((k name).map NamedEvent.signaled).getD false

/-- An event is there while a process has it open. -/
def Sound (k : Events ν ι) : Prop := ∀ name e, k name = some e → e.openers ≠ []

theorem isSome_of_mem {k : Events ν ι} {name : ν} {i : ι} (mem : i ∈ openers k name) : (k name).isSome = true := by
  unfold openers at mem
  cases h : k name with
  | none => simp [h] at mem
  | some e => rfl

theorem sound_none : Sound (fun _ => none : Events ν ι) := fun _ _ h => nomatch h

end Open

section Create

variable {ν ι : Type} [DecidableEq ν]

/-- `CreateEvent`: whether the name was taken (`ERROR_ALREADY_EXISTS`), and the events after it. -/
def create (k : Events ν ι) (name : ν) (i : ι) : Bool × Events ν ι :=
  match k name with
  | some e => (true, Function.update k name (some { e with openers := i :: e.openers }))
  | none => (false, Function.update k name (some { openers := [i], signaled := false }))

/-- `SetEvent`. -/
def set (k : Events ν ι) (name : ν) : Events ν ι :=
  Function.update k name ((k name).map fun e => { e with signaled := true })

variable {k : Events ν ι} {name name' : ν} {i : ι}

theorem openers_create : openers (create k name i).2 name' =
    if name' = name then i :: openers k name else openers k name' := by
  unfold create openers
  by_cases same : name' = name
  · subst same
    cases k name' <;> simp
  · cases k name <;> simp [same]

/-- The name is taken while a process has the event open. -/
theorem create_existed (sound : Sound k) : (create k name i).1 = true ↔ openers k name ≠ [] := by
  unfold create openers
  cases h : k name with
  | none => simp
  | some e => simpa using sound name e h

@[simp] theorem signaled_create : signaled (create k name i).2 name' = signaled k name' := by
  unfold create signaled
  by_cases same : name' = name
  · subst same
    cases k name' <;> simp
  · cases k name <;> simp [same]

/-- Who finds no event creates one that is not signaled. -/
theorem signaled_of_new (new : (create k name i).1 = false) : signaled k name = false := by
  unfold create at new
  unfold signaled
  cases h : k name with
  | none => rfl
  | some e => simp [h] at new

@[simp] theorem openers_set : openers (set k name) name' = openers k name' := by
  unfold set openers
  by_cases same : name' = name
  · subst same
    cases k name' <;> simp
  · simp [same]

theorem signaled_set : signaled (set k name) name' = true ↔
    signaled k name' = true ∨ name' = name ∧ (k name).isSome = true := by
  unfold set signaled
  by_cases same : name' = name
  · subst same
    cases k name' <;> simp
  · simp [same]

theorem Sound.create (sound : Sound k) : Sound (create k name i).2 := by
  intro name' e h
  unfold NamedEvents.create at h
  by_cases same : name' = name
  · subst same
    cases here : k name' <;> simp [here] at h <;> simp [← h]
  · cases here : k name <;> simp [here, same] at h <;> exact sound name' e h

theorem Sound.set (sound : Sound k) : Sound (set k name) := by
  intro name' e h
  unfold NamedEvents.set at h
  by_cases same : name' = name
  · subst same
    simp only [Function.update_self, Option.map_eq_some_iff] at h
    obtain ⟨e', here, rfl⟩ := h
    exact sound name' e' here
  · rw [Function.update_of_ne same] at h
    exact sound name' e h

end Create

section Close

variable {ν ι : Type} [DecidableEq ν] [DecidableEq ι]

/-- `CloseHandle`, or the end of the process. -/
def close (k : Events ν ι) (name : ν) (i : ι) : Events ν ι :=
  Function.update k name ((k name).bind fun e =>
    if e.openers.erase i = [] then none else some { e with openers := e.openers.erase i })

variable {k : Events ν ι} {name name' : ν} {i : ι}

theorem close_of_ne (other : name' ≠ name) : close k name i name' = k name' := Function.update_of_ne other _ _

theorem openers_close : openers (close k name i) name' =
    if name' = name then (openers k name).erase i else openers k name' := by
  unfold openers
  by_cases same : name' = name
  · subst same
    rw [if_pos rfl, close, Function.update_self]
    cases k name' with
    | none => rfl
    | some e =>
      rw [Option.bind_some]
      split
      · rename_i last
        exact last.symm
      · rfl
  · rw [if_neg same, close_of_ne same]

/-- As long as another process has it open, an event stays as it is. -/
theorem signaled_close (still : name' = name → (openers k name).erase i ≠ []) :
    signaled (close k name i) name' = signaled k name' := by
  unfold signaled
  by_cases same : name' = name
  · subst same
    specialize still rfl
    unfold openers at still
    rw [close, Function.update_self]
    cases h : k name' with
    | none => rfl
    | some e =>
      rw [h] at still
      rw [Option.bind_some, if_neg (show ¬ e.openers.erase i = [] from still)]
      rfl
  · rw [close_of_ne same]

theorem Sound.close (sound : Sound k) : Sound (close k name i) := by
  intro name' e h
  by_cases same : name' = name
  · subst same
    rw [NamedEvents.close, Function.update_self, Option.bind_eq_some_iff] at h
    obtain ⟨e', -, h⟩ := h
    split at h
    · cases h
    · rename_i left
      cases h
      exact left
  · rw [close_of_ne same] at h
    exact sound name' e h

end Close

end NamedEvents
