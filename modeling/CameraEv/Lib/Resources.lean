import Mathlib.Tactic

/-!
# Resources behind handles

A log of what is done with handles: a resource is created behind one, a handle,
which may be null, is used as if a certain resource were behind it, and what is
behind a handle is destroyed. `heapOf` says what is behind each handle after a
log. In a `Sound` log a handle is given out while nothing is behind it, every use
finds the resource it is for, and only what is there is destroyed. A handle may
be given out again, and stands for another resource then.
-/

namespace Resources

variable {H R : Type} [DecidableEq H]

inductive Event (H R : Type) where
  | create (h : H) (r : R)
  | use (h : Option H) (r : R)
  | destroy (h : H)
  deriving DecidableEq

/-- What is behind the handles after one event more. -/
def after (heap : H → Option R) : Event H R → H → Option R
  | .create h r => Function.update heap h (some r)
  | .use _ _ => heap
  | .destroy h => Function.update heap h none

def heapOf (log : List (Event H R)) : H → Option R := log.foldl after fun _ => none

def Allowed (heap : H → Option R) : Event H R → Prop
  | .create h _ => heap h = none
  | .use h r => h.bind heap = some r
  | .destroy h => heap h ≠ none

def Sound (log : List (Event H R)) : Prop :=
  ∀ before event rest, log = before ++ event :: rest → Allowed (heapOf before) event

variable {log : List (Event H R)} {event : Event H R} {h : H} {r : R}

theorem heapOf_concat (log : List (Event H R)) (event : Event H R) :
    heapOf (log ++ [event]) = after (heapOf log) event := by
  simp only [heapOf, List.foldl_append, List.foldl_cons, List.foldl_nil]

theorem sound_nil : Sound ([] : List (Event H R)) := by
  intro before event rest empty
  simp at empty

theorem Sound.concat (sound : Sound log) (allowed : Allowed (heapOf log) event) : Sound (log ++ [event]) := by
  intro before e rest split
  rcases List.eq_nil_or_concat rest with rfl | ⟨rest, last, rfl⟩
  · obtain ⟨rfl, rfl⟩ : log = before ∧ event = e := by simpa using split
    exact allowed
  · have inside : log = before ++ e :: rest := by
      rw [List.concat_eq_append, ← List.cons_append, ← List.append_assoc] at split
      exact (List.append_inj' split rfl).1
    exact sound before e rest inside

/-- What is behind a handle was created behind it, and nothing happened to it since. -/
theorem created_of_heapOf (there : heapOf log h = some r) :
    ∃ made since, log = made ++ .create h r :: since ∧ .destroy h ∉ since ∧ ∀ r', .create h r' ∉ since := by
  induction log using List.reverseRecOn with
  | nil => cases there
  | append_singleton log event ih =>
    have kept (same : heapOf log h = some r) (other : event ≠ .destroy h ∧ ∀ r', event ≠ .create h r') :
        ∃ made since, log ++ [event] = made ++ .create h r :: since ∧ .destroy h ∉ since ∧ ∀ r', .create h r' ∉ since := by
      obtain ⟨made, since, rfl, quiet, alone⟩ := ih same
      refine ⟨made, since ++ [event], by simp, ?_, fun r' => ?_⟩
      · simpa [quiet] using Ne.symm other.1
      · simpa [alone r'] using Ne.symm (other.2 r')
    rw [heapOf_concat] at there
    cases event with
    | create h' r' =>
      by_cases same : h = h'
      · subst same
        simp only [after, Function.update_self, Option.some.injEq] at there
        subst there
        exact ⟨log, [], rfl, List.not_mem_nil, fun _ => List.not_mem_nil⟩
      · simp only [after, Function.update_of_ne same] at there
        exact kept there ⟨by simp, fun _ => by simp [Ne.symm same]⟩
    | use h' r' => exact kept there ⟨by simp, fun _ => by simp⟩
    | destroy h' =>
      by_cases same : h = h'
      · subst same
        simp only [after, Function.update_self, reduceCtorEq] at there
      · simp only [after, Function.update_of_ne same] at there
        exact kept there ⟨by simp [Ne.symm same], fun _ => by simp⟩

/-- A use finds the resource that was created for it. -/
theorem Sound.created (sound : Sound log) {before rest : List (Event H R)} {h : Option H}
    (used : log = before ++ .use h r :: rest) :
    ∃ h' made since, h = some h' ∧ before = made ++ .create h' r :: since ∧ .destroy h' ∉ since ∧
      ∀ r', .create h' r' ∉ since := by
  have allowed := sound before _ rest used
  obtain ⟨h', rfl, there⟩ := Option.bind_eq_some_iff.1 allowed
  obtain ⟨made, since, split, quiet, alone⟩ := created_of_heapOf there
  exact ⟨h', made, since, rfl, split, quiet, alone⟩

/-- What was destroyed is not used: the handle was given out again since. -/
theorem Sound.recreated (sound : Sound log) {before between rest : List (Event H R)}
    (used : log = before ++ .destroy h :: between ++ .use (some h) r :: rest) : .create h r ∈ between := by
  obtain ⟨h', made, since, same, split, quiet, -⟩ := sound.created used
  cases same
  rcases List.append_eq_append_iff.1 split with ⟨a, rfl, rest⟩ | ⟨a, rfl, rest⟩
  · cases a with
    | nil => cases rest
    | cons e a =>
      simp only [List.cons_append, List.cons.injEq] at rest
      rw [rest.2]
      simp
  · cases a with
    | nil => cases rest
    | cons e a =>
      simp only [List.cons_append, List.cons.injEq] at rest
      rw [rest.2] at quiet
      simp at quiet

end Resources
