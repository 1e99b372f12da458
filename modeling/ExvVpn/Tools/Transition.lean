import Mathlib.Data.List.Basic

/-! # Runs of a state machine

A machine is a step function over labels; a label that is not enabled leaves the state as it is. A run takes labels from
left to right. A guard restricts which labels a run takes in which states. -/

namespace Transition

open List

variable {σ ℓ : Type*} (step : σ → ℓ → σ)

/-- The state at the end of a run. -/
def run (s : σ) (labels : List ℓ) : σ := labels.foldl step s

/-- Every label of the run meets the guard in the state in which it is taken. -/
def Along (G : σ → ℓ → Prop) : σ → List ℓ → Prop
  | _, [] => True
  | s, l :: rest => G s l ∧ Along G (step s l) rest

instance Along.decidable (G : σ → ℓ → Prop) [∀ s l, Decidable (G s l)] : ∀ s labels, Decidable (Along step G s labels)
  | _, [] => .isTrue trivial
  | s, l :: rest =>
    haveI := Along.decidable G (step s l) rest
    inferInstanceAs (Decidable (G s l ∧ Along step G (step s l) rest))

/-- No label, no step. -/
@[simp] theorem run_nil (s : σ) : run step s [] = s := rfl

/-- The first label is taken first. -/
@[simp] theorem run_cons (s : σ) (l : ℓ) (rest : List ℓ) : run step s (l :: rest) = run step (step s l) rest := rfl

/-- A run goes on where another has ended. -/
theorem run_append (s : σ) (before after : List ℓ) :
    run step s (before ++ after) = run step (run step s before) after := foldl_append

/-- A run in two parts meets the guard when both do. -/
theorem along_append (G : σ → ℓ → Prop) (s : σ) (before after : List ℓ) :
    Along step G s (before ++ after) ↔ Along step G s before ∧ Along step G (run step s before) after := by
  induction before generalizing s with
  | nil => exact (and_iff_right trivial).symm
  | cons l before ih => rw [cons_append, Along, Along, ih, run_cons, and_assoc]

variable {step}

variable {G : σ → ℓ → Prop} {I : σ → Prop} {s : σ} {labels : List ℓ}

/-- What holds at the start and is kept by every guarded step holds at the end of every guarded run. -/
theorem invariant_of_along (hstep : ∀ s l, I s → G s l → I (step s l))
    (hs : I s) (h : Along step G s labels) : I (run step s labels) := by
  induction labels generalizing s with
  | nil => exact hs
  | cons l rest ih => exact ih (hstep s l hs h.1) h.2

/-- A guard and a property of the labels make one guard. -/
theorem Along.and_forall {Q : ℓ → Prop} (h : Along step G s labels)
    (hQ : ∀ l ∈ labels, Q l) : Along step (fun s l => G s l ∧ Q l) s labels := by
  induction labels generalizing s with
  | nil => trivial
  | cons l rest ih =>
    obtain ⟨hl, hrest⟩ := forall_mem_cons.mp hQ
    exact ⟨⟨h.1, hl⟩, ih h.2 hrest⟩

/-- What holds at the start and is kept by every step holds at the end of every run. -/
theorem invariant_of_run (hstep : ∀ s l, I s → I (step s l)) (hs : I s) (labels : List ℓ) : I (run step s labels) := by
  induction labels generalizing s with
  | nil => exact hs
  | cons l rest ih => exact ih (hstep s l hs)

/-- What holds at the start of a loop and is kept by each of its steps holds at the end, if no step fails. -/
theorem invariant_of_foldlM {ε : Type*} {f : σ → ℓ → Except ε σ} (hstep : ∀ s l t, f s l = .ok t → I s → I t) {t : σ}
    (h : labels.foldlM f s = .ok t) (hs : I s) : I t := by
  induction labels generalizing s with
  | nil =>
    cases h
    exact hs
  | cons l rest ih =>
    rw [foldlM_cons] at h
    rcases hl : f s l with e | next
    · rw [hl] at h
      cases h
    · rw [hl] at h
      exact ih h (hstep s l next hl hs)

/-- If each step from a state that meets the invariant keeps the property exactly when it meets the guard, then the
property holds at the end of a run exactly when the run is guarded. -/
theorem iff_along_of_invariant {J : σ → Prop} (hinv : ∀ s l, J s → J (step s l))
    (hstep : ∀ s l, J s → (I (step s l) ↔ I s ∧ G s l)) (hs : J s) (labels : List ℓ) :
    I (run step s labels) ↔ I s ∧ Along step G s labels := by
  induction labels generalizing s with
  | nil => exact ⟨fun h => ⟨h, trivial⟩, And.left⟩
  | cons l rest ih => rw [run_cons, ih (hinv s l hs), hstep s l hs, Along, and_assoc]

/-- The same for a machine that needs no invariant. -/
theorem iff_along (hstep : ∀ s l, I (step s l) ↔ I s ∧ G s l) (s : σ)
    (labels : List ℓ) : I (run step s labels) ↔ I s ∧ Along step G s labels :=
  iff_along_of_invariant (J := fun _ => True) (fun _ _ _ => trivial) (fun s l _ => hstep s l) trivial labels

/-- What holds at the start of a run and not at its end is lost in one of its steps. -/
theorem exists_exit {P : σ → Prop} (hs : P s) (hend : ¬ P (run step s labels)) :
    ∃ before l after, labels = before ++ l :: after ∧ P (run step s before) ∧ ¬ P (step (run step s before) l) := by
  induction labels generalizing s with
  | nil => exact absurd hs hend
  | cons l rest ih =>
    by_cases hl : P (step s l)
    · obtain ⟨before, m, after, rfl, hbefore, hexit⟩ := ih hl hend
      exact ⟨l :: before, m, after, rfl, hbefore, hexit⟩
    · exact ⟨[], l, rest, rfl, hs, hl⟩

/-- A preorder holds from each state of a run to each later one exactly when every step goes up. -/
theorem along_iff_forall_later {R : σ → σ → Prop} (hrefl : ∀ s, R s s) (htrans : ∀ s t u, R s t → R t u → R s u) (s : σ)
    (labels : List ℓ) :
    Along step (fun s l => R s (step s l)) s labels ↔
      ∀ before middle after, labels = before ++ middle ++ after →
        R (run step s before) (run step s (before ++ middle)) := by
  constructor
  · intro h before middle after hlabels
    subst hlabels
    induction before generalizing s with
    | cons l before ih => exact ih (step s l) h.2
    | nil =>
      induction middle generalizing s with
      | nil => exact hrefl s
      | cons l middle ih => exact htrans _ _ _ h.1 (ih (step s l) h.2)
  · intro h
    induction labels generalizing s with
    | nil => trivial
    | cons l rest ih =>
      refine ⟨h [] [l] rest rfl, ih (step s l) ?_⟩
      intro before middle after hrest
      exact h (l :: before) middle after (by rw [hrest]; rfl)

/-- If each step from a good state leads to a good state exactly when it meets the guard, then every state of a run is good
exactly when the run is guarded. -/
theorem forall_reached_iff_along {P J : σ → Prop} (hinv : ∀ s l, J s → J (step s l))
    (hstep : ∀ s l, J s → P s → (P (step s l) ↔ G s l)) (hs : J s) (hP : P s) (labels : List ℓ) :
    (∀ before after, labels = before ++ after → P (run step s before)) ↔ Along step G s labels := by
  induction labels generalizing s with
  | nil =>
    refine iff_of_true ?_ trivial
    intro before after hnil
    obtain ⟨rfl, -⟩ := append_eq_nil_iff.mp hnil.symm
    exact hP
  | cons l rest ih =>
    constructor
    · intro h
      have hl : P (step s l) := h [l] rest rfl
      refine ⟨(hstep s l hs hP).mp hl, (ih (hinv s l hs) hl).mp ?_⟩
      intro before after hrest
      exact h (l :: before) after (by rw [hrest]; rfl)
    · intro h before after hlabels
      have hl : P (step s l) := (hstep s l hs hP).mpr h.1
      cases before with
      | nil => exact hP
      | cons m before =>
        obtain ⟨rfl, hrest⟩ := cons.inj hlabels
        exact (ih (hinv s l hs) hl).mpr h.2 before after hrest

/-- Guards that agree in every state that meets the invariant agree along every run, if the first keeps the invariant. -/
theorem along_iff_of_invariant {H : σ → ℓ → Prop} (hkeep : ∀ s l, I s → G s l → I (step s l))
    (hiff : ∀ s l, I s → (G s l ↔ H s l)) (hs : I s) (labels : List ℓ) :
    Along step G s labels ↔ Along step H s labels := by
  induction labels generalizing s with
  | nil => exact Iff.rfl
  | cons l rest ih =>
    constructor
    · intro ⟨hl, hrest⟩
      exact ⟨(hiff s l hs).mp hl, (ih (hkeep s l hs hl)).mp hrest⟩
    · intro ⟨hl, hrest⟩
      have hfirst := (hiff s l hs).mpr hl
      exact ⟨hfirst, (ih (hkeep s l hs hfirst)).mpr hrest⟩

/-- Guards that agree in every state agree along every run. -/
theorem along_congr {H : σ → ℓ → Prop} (h : ∀ s l, G s l ↔ H s l) (s : σ) (labels : List ℓ) :
    Along step G s labels ↔ Along step H s labels :=
  along_iff_of_invariant (I := fun _ => True) (fun _ _ _ _ => trivial) (fun s l _ => h s l) trivial labels

end Transition
