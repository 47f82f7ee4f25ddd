import Mathlib.Tactic

/-!
# Runs of a labelled step function

A system is a partial step function: `step s l` is the state after the step
labelled `l`, or nothing when that step is not possible in `s`. `run` takes a
list of labels. `Along` says that a condition holds of every step of a run, in
the state the step starts from, and `Throughout` that a property holds in every
state a run passes through. An invariant is proved once for one step
(`preserved`) and then holds of runs by `run_invariant` and `throughout`.
-/

namespace Trace

variable {S L : Type}

/-- The state after a list of steps, when all of them are possible. -/
def run (step : S → L → Option S) : S → List L → Option S
  | s, [] => some s
  | s, l :: ls => match step s l with
    | some t => run step t ls
    | none => none

/-- `ok` holds of every step of the run, in the state the step starts from. -/
def Along (step : S → L → Option S) (ok : S → L → Prop) : S → List L → Prop
  | _, [] => True
  | s, l :: ls => ok s l ∧ match step s l with
    | some t => Along step ok t ls
    | none => True

/-- `P` holds in every state of the run, the first and the last included. -/
def Throughout (step : S → L → Option S) (P : S → Prop) : S → List L → Prop
  | s, [] => P s
  | s, l :: ls => P s ∧ match step s l with
    | some t => Throughout step P t ls
    | none => True

variable {step : S → L → Option S} {ok : S → L → Prop} {P I : S → Prop}

instance Along.decidable [∀ s l, Decidable (ok s l)] : ∀ s ls, Decidable (Along step ok s ls)
  | _, [] => .isTrue trivial
  | s, l :: ls => by
    unfold Along
    cases step s l with
    | none => exact instDecidableAnd
    | some t => exact @instDecidableAnd _ _ _ (Along.decidable t ls)

instance Throughout.decidable [∀ s, Decidable (P s)] : ∀ s ls, Decidable (Throughout step P s ls)
  | s, [] => inferInstanceAs (Decidable (P s))
  | s, l :: ls => by
    unfold Throughout
    cases step s l with
    | none => exact instDecidableAnd
    | some t => exact @instDecidableAnd _ _ _ (Throughout.decidable t ls)

theorem run_cons {s t : S} {l : L} {ls : List L} :
    run step s (l :: ls) = some t ↔ ∃ u, step s l = some u ∧ run step u ls = some t := by
  simp only [run]
  cases step s l <;> simp

/-- The invariant rule: what every allowed step preserves, every allowed run preserves. -/
theorem run_invariant (preserved : ∀ {s t l}, I s → ok s l → step s l = some t → I t) {s t : S} {ls : List L}
    (start : I s) (allowed : Along step ok s ls) (ran : run step s ls = some t) : I t := by
  induction ls generalizing s with
  | nil =>
    cases ran
    exact start
  | cons l ls ih =>
    obtain ⟨u, hu, ran⟩ := run_cons.1 ran
    simp only [Along, hu] at allowed
    exact ih (preserved start allowed.1 hu) allowed.2 ran

/-- The same for every state on the way. -/
theorem throughout (preserved : ∀ {s t l}, I s → ok s l → step s l = some t → I t) (implies : ∀ {s}, I s → P s)
    {s : S} {ls : List L} (start : I s) (allowed : Along step ok s ls) : Throughout step P s ls := by
  induction ls generalizing s with
  | nil => exact implies start
  | cons l ls ih =>
    refine ⟨implies start, ?_⟩
    cases hu : step s l with
    | none => trivial
    | some u =>
      simp only [Along, hu] at allowed
      exact ih (preserved start allowed.1 hu) allowed.2

/-- What the invariant and the condition on a step say of it holds of every step of an allowed run. -/
theorem along_of {ok' : S → L → Prop} (preserved : ∀ {s t l}, I s → ok s l → step s l = some t → I t)
    (implies : ∀ {s l}, I s → ok s l → ok' s l) {s : S} {ls : List L} (start : I s) (allowed : Along step ok s ls) :
    Along step ok' s ls := by
  induction ls generalizing s with
  | nil => trivial
  | cons l ls ih =>
    refine ⟨implies start allowed.1, ?_⟩
    have allowed' := allowed.2
    cases hu : step s l with
    | none => trivial
    | some u =>
      simp only [hu] at allowed'
      exact ih (preserved start allowed.1 hu) allowed'

/-- The condition on the step behind a run. -/
theorem Along.last {s t : S} {ls : List L} {l : L} (allowed : Along step ok s (ls ++ [l]))
    (ran : run step s ls = some t) : ok t l := by
  induction ls generalizing s with
  | nil =>
    cases ran
    exact allowed.1
  | cons l' ls ih =>
    obtain ⟨u, hu, ran⟩ := run_cons.1 ran
    have allowed' := allowed.2
    simp only [hu] at allowed'
    exact ih allowed' ran

theorem Throughout.head {s : S} {ls : List L} (h : Throughout step P s ls) : P s := by
  cases ls with
  | nil => exact h
  | cons l ls => exact h.1

theorem Throughout.last {s t : S} {ls : List L} (h : Throughout step P s ls) (ran : run step s ls = some t) : P t := by
  induction ls generalizing s with
  | nil =>
    cases ran
    exact h
  | cons l ls ih =>
    obtain ⟨u, hu, ran⟩ := run_cons.1 ran
    have stays := h.2
    simp only [hu] at stays
    exact ih stays ran

/-- A property of every state is one of every step, in the state that it starts from. -/
theorem Throughout.along {s : S} {ls : List L} (h : Throughout step P s ls) : Along step (fun s _ => P s) s ls := by
  induction ls generalizing s with
  | nil => trivial
  | cons l ls ih =>
    refine ⟨h.head, ?_⟩
    have rest := h.2
    cases hu : step s l with
    | none => trivial
    | some u =>
      simp only [hu] at rest
      exact ih rest

/-- Where every step that is not allowed leads out of `P`, staying in `P` is taking allowed steps only; `doc` is what the
steps of the run are known to meet. -/
theorem throughout_iff_along_of {doc : S → L → Prop} (preserved : ∀ {s t l}, I s → doc s l → ok s l → step s l = some t → I t)
    (implies : ∀ {s}, I s → P s) (breaks : ∀ {s l}, I s → doc s l → ¬ ok s l → ∃ t, step s l = some t ∧ ¬ P t) {s : S}
    {ls : List L} (start : I s) (documented : Along step doc s ls) : Throughout step P s ls ↔ Along step ok s ls := by
  induction ls generalizing s with
  | nil => exact ⟨fun _ => trivial, fun _ => implies start⟩
  | cons l ls ih =>
    obtain ⟨doc', rest⟩ := documented
    have allowed : Throughout step P s (l :: ls) → ok s l := by
      intro stays
      by_contra bad
      obtain ⟨t, ht, out⟩ := breaks start doc' bad
      have stays := stays.2
      simp only [ht] at stays
      exact out stays.head
    cases ht : step s l with
    | none =>
      refine ⟨fun stays => ⟨allowed stays, ?_⟩, fun along => ⟨implies start, ?_⟩⟩
      · rw [ht]
        trivial
      · rw [ht]
        trivial
    | some t =>
      simp only [ht] at rest
      refine ⟨fun stays => ⟨allowed stays, ?_⟩, fun along => ⟨implies start, ?_⟩⟩
      · have ok' := allowed stays
        have stays := stays.2
        simp only [ht] at stays ⊢
        exact (ih (preserved start doc' ok' ht) rest).1 stays
      · obtain ⟨ok', along⟩ := along
        simp only [ht] at along ⊢
        exact (ih (preserved start doc' ok' ht) rest).2 along

theorem Along.and {ok' : S → L → Prop} {s : S} {ls : List L} (h : Along step ok s ls) (h' : Along step ok' s ls) :
    Along step (fun s l => ok s l ∧ ok' s l) s ls := by
  induction ls generalizing s with
  | nil => trivial
  | cons l ls ih =>
    refine ⟨⟨h.1, h'.1⟩, ?_⟩
    have rest := h.2
    have rest' := h'.2
    cases hu : step s l with
    | none => trivial
    | some u =>
      simp only [hu] at rest rest'
      exact ih rest rest'

/-- Conditions that agree on the steps that an invariant and `doc` describe hold along the same runs. -/
theorem along_congr {doc ok' : S → L → Prop} (preserved : ∀ {s t l}, I s → doc s l → step s l = some t → I t)
    (same : ∀ {s l}, I s → doc s l → (ok s l ↔ ok' s l)) {s : S} {ls : List L} (start : I s)
    (documented : Along step doc s ls) : Along step ok s ls ↔ Along step ok' s ls := by
  constructor
  · intro along
    exact along_of (fun inv both h => preserved inv both.1 h) (fun inv both => (same inv both.1).1 both.2) start
      (documented.and along)
  · intro along
    exact along_of (fun inv both h => preserved inv both.1 h) (fun inv both => (same inv both.1).2 both.2) start
      (documented.and along)

/-- Conditions that agree where an invariant holds hold along the same runs, when the steps that meet them keep it. -/
theorem along_iff {ok' : S → L → Prop} (preserved : ∀ {s t l}, I s → ok s l → step s l = some t → I t)
    (same : ∀ {s l}, I s → (ok' s l ↔ ok s l)) {s : S} {ls : List L} (start : I s) :
    Along step ok' s ls ↔ Along step ok s ls := by
  constructor
  · intro along
    exact along_of (fun inv meets h => preserved inv ((same inv).1 meets) h) (fun inv meets => (same inv).1 meets) start along
  · intro along
    exact along_of (fun inv meets h => preserved inv meets h) (fun inv meets => (same inv).2 meets) start along

/-- A condition on the labels alone is one on the list. -/
theorem along_of_mem {ok : L → Prop} {s : S} {ls : List L} (each : ∀ l ∈ ls, ok l) :
    Along step (fun _ l => ok l) s ls := by
  induction ls generalizing s with
  | nil => trivial
  | cons l ls ih =>
    refine ⟨each l List.mem_cons_self, ?_⟩
    cases step s l with
    | none => trivial
    | some u => exact ih fun l' mem => each l' (List.mem_cons_of_mem l mem)

/-- Without a condition on steps, every step is allowed. -/
theorem along_true {s : S} {ls : List L} : Along step (fun _ _ => True) s ls := by
  induction ls generalizing s with
  | nil => trivial
  | cons l ls ih =>
    refine ⟨trivial, ?_⟩
    cases step s l with
    | none => trivial
    | some u => exact ih

theorem throughout_iff_along (preserved : ∀ {s t l}, I s → ok s l → step s l = some t → I t)
    (implies : ∀ {s}, I s → P s) (breaks : ∀ {s l}, I s → ¬ ok s l → ∃ t, step s l = some t ∧ ¬ P t) {s : S}
    {ls : List L} (start : I s) : Throughout step P s ls ↔ Along step ok s ls :=
  throughout_iff_along_of (fun inv _ ok h => preserved inv ok h) implies
    (fun inv _ bad => breaks inv bad) start along_true

end Trace
