import Mathlib.Tactic

/-!
# What an object answers

An object with a state answers a call and changes its state, or stops. Two
objects whose states are related answer every list of calls in the same way, if
the relation is kept by each call that both answer alike (`answers_eq`). The
objects may be of different kinds: one of them can be the other's specification.
-/

namespace Answers

variable {S T L A E : Type}

/-- The answers to a list of calls, or what stopped the object. -/
def answers (call : S → L → Except E (A × S)) : S → List L → Except E (List A)
  | _, [] => .ok []
  | s, l :: ls => match call s l with
    | .ok (a, s) => (answers call s ls).map fun as => a :: as
    | .error e => .error e

variable {f : S → L → Except E (A × S)} {g : T → L → Except E (A × T)}

/-- Two objects do the same at a call: they stop for one reason, or answer alike and stay related. -/
def Agree (R : S → T → Prop) (x : Except E (A × S)) (y : Except E (A × T)) : Prop :=
  (∃ e, x = .error e ∧ y = .error e) ∨ ∃ a s t, x = .ok (a, s) ∧ y = .ok (a, t) ∧ R s t

theorem Agree.refl (x : Except E (A × S)) : Agree Eq x x := by
  rcases x with e | ⟨a, s⟩
  · exact .inl ⟨e, rfl, rfl⟩
  · exact .inr ⟨a, s, s, rfl, rfl, rfl⟩

theorem Agree.weaken {P R : S → T → Prop} {x : Except E (A × S)} {y : Except E (A × T)} (agree : Agree P x y)
    (implies : ∀ s t, P s t → R s t) : Agree R x y := by
  rcases agree with stopped | ⟨a, s, t, left, right, related⟩
  · exact .inl stopped
  · exact .inr ⟨a, s, t, left, right, implies s t related⟩

/-- The simulation rule. -/
theorem answers_eq {R : S → T → Prop} (step : ∀ {s t l}, R s t → Agree R (f s l) (g t l)) {s : S} {t : T}
    (related : R s t) (ls : List L) : answers f s ls = answers g t ls := by
  induction ls generalizing s t with
  | nil => rfl
  | cons l ls ih =>
    rcases step (l := l) related with ⟨e, left, right⟩ | ⟨a, s', t', left, right, related⟩
    · simp only [answers, left, right]
    · simp only [answers, left, right, ih related]

/-- An object that never stops answers every list. -/
theorem answers_ok {abs : T → L → A × T} (t : T) (ls : List L) :
    ∃ as, answers (fun t l => (.ok (abs t l) : Except E (A × T))) t ls = .ok as := by
  induction ls generalizing t with
  | nil => exact ⟨[], rfl⟩
  | cons l ls ih =>
    obtain ⟨as, rest⟩ := ih (abs t l).2
    exact ⟨(abs t l).1 :: as, by simp only [answers, rest]; rfl⟩

/-- Different answers to the first call. -/
theorem answers_ne {s : S} {t : T} {l : L} {a b : A} {s' : S} {t' : T} (left : f s l = .ok (a, s'))
    (right : g t l = .ok (b, t')) (ne : a ≠ b) : answers f s [l] ≠ answers g t [l] := by
  simp only [answers, left, right]
  rintro ⟨⟩
  exact ne rfl

end Answers
