import Mathlib.Tactic

/-!
# Handles that are given out and taken back

A log of calls that give a handle out (`acquire`) and take one back (`release`).
A handle that is not in use may be given out again, so that the same handle can
stand for one thing after another. `Proper` says that no handle is given out
while it is in use and none is taken back while it is not; then each one that was
given out is taken back at most once before it is given out again
(`Proper.released_once`).
-/

namespace Handles

variable {H : Type} [DecidableEq H]

inductive Call (H : Type) where
  | acquire (h : H)
  | release (h : H)
  deriving DecidableEq

/-- The handles in use after one call more. -/
def after (used : List H) : Call H → List H
  | .acquire h => h :: used
  | .release h => used.erase h

/-- The handles in use after a log. -/
def live (calls : List (Call H)) : List H := calls.foldl after []

/-- Whether a call fits the handles in use. -/
def Allowed (used : List H) : Call H → Prop
  | .acquire h => h ∉ used
  | .release h => h ∈ used

def Proper (used : List H) : List (Call H) → Prop
  | [] => True
  | c :: calls => Allowed used c ∧ Proper (after used c) calls

/-- How often a handle that was given out before these calls is taken back in them. -/
def releases (h : H) : List (Call H) → Nat
  | [] => 0
  | .acquire h' :: calls => if h' = h then 0 else releases h calls
  | .release h' :: calls => (if h' = h then 1 else 0) + releases h calls

/-- Only handles in use are taken back. -/
def Clean (calls : List (Call H)) : Prop :=
  ∀ before h rest, calls = before ++ .release h :: rest → h ∈ live before

variable {used : List H} {calls calls' : List (Call H)} {h : H}

theorem live_append (calls calls' : List (Call H)) : live (calls ++ calls') = calls'.foldl after (live calls) :=
  List.foldl_append

theorem proper_append : Proper used (calls ++ calls') ↔ Proper used calls ∧ Proper (calls.foldl after used) calls' := by
  induction calls generalizing used with
  | nil => simp [Proper]
  | cons c calls ih => rw [List.cons_append, Proper, ih, Proper, and_assoc, List.foldl_cons]

theorem nodup_after (nodup : used.Nodup) {c : Call H} (allowed : Allowed used c) : (after used c).Nodup := by
  cases c with
  | acquire h => exact List.nodup_cons.2 ⟨allowed, nodup⟩
  | release h => exact nodup.erase h

theorem Proper.nodup (proper : Proper used calls) (nodup : used.Nodup) : (calls.foldl after used).Nodup := by
  induction calls generalizing used with
  | nil => exact nodup
  | cons c calls ih => exact ih proper.2 (nodup_after nodup proper.1)

theorem Proper.live_nodup (proper : Proper [] calls) : (live calls).Nodup := proper.nodup List.nodup_nil

theorem Proper.clean (proper : Proper [] calls) : Clean calls := by
  rintro before h rest rfl
  exact (proper_append.1 proper).2.1

/-- A log that is not clean stays so. -/
theorem not_clean_append (bad : ¬ Clean calls) (calls' : List (Call H)) : ¬ Clean (calls ++ calls') := by
  intro clean
  apply bad
  rintro before h rest rfl
  exact clean before h (rest ++ calls') (by rw [List.append_assoc, List.cons_append])

/-- A handle is taken back a second time. -/
theorem not_clean_twice (proper : Proper [] calls) (h : H) : ¬ Clean (calls ++ [.release h, .release h]) := by
  intro clean
  have mem := clean (calls ++ [.release h]) h [] (by rw [List.append_assoc, List.cons_append, List.nil_append])
  rw [live_append] at mem
  exact (proper.live_nodup.not_mem_erase mem).elim

theorem not_clean_of_not_live (absent : h ∉ live calls) : ¬ Clean (calls ++ [.release h]) :=
  fun clean => absent (clean calls h [] rfl)

/-- A handle that is not in use is not taken back before it is given out again. -/
theorem releases_eq_zero (proper : Proper used calls) (nodup : used.Nodup) (absent : h ∉ used) : releases h calls = 0 := by
  induction calls generalizing used with
  | nil => rfl
  | cons c calls ih =>
    obtain ⟨allowed, proper⟩ := proper
    cases c with
    | acquire h' =>
      simp only [releases]
      split
      · rfl
      · rename_i ne
        exact ih proper (nodup_after nodup allowed) fun mem =>
          (List.mem_cons.1 mem).elim (fun same => ne same.symm) absent
    | release h' =>
      have ne : h' ≠ h := by
        rintro rfl
        exact absent allowed
      simp only [releases, if_neg ne, Nat.zero_add]
      exact ih proper (nodup.erase h') fun mem => absent (List.mem_of_mem_erase mem)

/-- A handle in use is taken back at most once, and if it is not, it stays in use. -/
theorem releases_le_one (proper : Proper used calls) (nodup : used.Nodup) (mem : h ∈ used) :
    releases h calls ≤ 1 ∧ (releases h calls = 0 → h ∈ calls.foldl after used) := by
  induction calls generalizing used with
  | nil => exact ⟨Nat.zero_le _, fun _ => mem⟩
  | cons c calls ih =>
    obtain ⟨allowed, proper⟩ := proper
    cases c with
    | acquire h' =>
      have ne : h' ≠ h := by
        rintro rfl
        exact allowed mem
      simp only [releases, if_neg ne]
      exact ih proper (nodup_after nodup allowed) (List.mem_cons_of_mem _ mem)
    | release h' =>
      simp only [releases]
      by_cases same : h' = h
      · subst same
        rw [if_pos rfl, releases_eq_zero proper (nodup.erase h') nodup.not_mem_erase]
        exact ⟨le_rfl, fun zero => by cases zero⟩
      · rw [if_neg same, Nat.zero_add]
        exact ih proper (nodup.erase h') ((List.mem_erase_of_ne (Ne.symm same)).2 mem)

/-- What was given out is taken back at most once, and exactly once if it is not in use any more. -/
theorem Proper.released_once (proper : Proper [] calls) {before rest : List (Call H)}
    (log : calls = before ++ .acquire h :: rest) : releases h rest ≤ 1 ∧ (h ∉ live calls → releases h rest = 1) := by
  subst log
  obtain ⟨front, allowed, back⟩ := proper_append.1 proper
  obtain ⟨once, kept⟩ := releases_le_one back (nodup_after (front.nodup List.nodup_nil) allowed) List.mem_cons_self
  refine ⟨once, fun gone => ?_⟩
  by_contra never
  apply gone
  rw [live_append, List.foldl_cons]
  exact kept (by omega)

end Handles
