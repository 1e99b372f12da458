import Mathlib.Data.List.Basic

/-! # Undoing by compare and restore

A log of changes, newest first. Each entry has the state before a change and the state the change was meant to lead to.
Undoing an entry puts its earlier state back, but only when the current state is the one the change wrote. When every change
starts from a state the log accounts for, undoing the whole log leads from any such state to the one in front of its first
entry, whichever changes took effect or were undone before. -/

namespace UndoLog

variable {σ : Type*}

/-- A change: the state before it and the state it writes. -/
structure Entry (σ : Type*) where
  pre : σ
  post : σ

/-- The log accounts for a state: it is the first state or one of an entry's two states. -/
def Covered (base : σ) (log : List (Entry σ)) (c : σ) : Prop := c = base ∨ ∃ e ∈ log, c = e.pre ∨ c = e.post

/-- Every change starts from a state that the older changes account for. -/
def Chained (base : σ) : List (Entry σ) → Prop
  | [] => True
  | e :: older => Covered base older e.pre ∧ Chained base older

/-- An empty log accounts for the start only. -/
theorem covered_nil {base c : σ} : Covered base [] c ↔ c = base := by
  simp [Covered]

/-- What holds of the first state and of the states of all entries holds of every state the log accounts for. -/
theorem Covered.induct {base c : σ} {log : List (Entry σ)} {P : σ → Prop} (h : Covered base log c) (hbase : P base)
    (hlog : ∀ e ∈ log, P e.pre ∧ P e.post) : P c := by
  rcases h with rfl | ⟨e, he, rfl | rfl⟩
  · exact hbase
  · exact (hlog e he).1
  · exact (hlog e he).2

/-- A state of the log that the newest change did not write is accounted for by the older entries. -/
theorem Covered.older {base c : σ} {e : Entry σ} {older : List (Entry σ)} (hc : Covered base (e :: older) c)
    (hchain : Chained base (e :: older)) (hne : c ≠ e.post) : Covered base older c := by
  rcases hc with h | ⟨e', he, h⟩
  · exact .inl h
  rcases List.mem_cons.mp he with rfl | he
  · rcases h with rfl | h
    · exact hchain.1
    · exact absurd h hne
  · exact .inr ⟨e', he, h⟩

/-- More entries account for more states. -/
theorem Covered.append {base c : σ} {log : List (Entry σ)} (h : Covered base log c) (newer : List (Entry σ)) :
    Covered base (newer ++ log) c := by
  exact h.imp_right fun ⟨e, he, h⟩ => ⟨e, List.mem_append_right _ he, h⟩

/-- The older part of a log. -/
theorem Chained.of_append {base : σ} {newer log : List (Entry σ)} (h : Chained base (newer ++ log)) : Chained base log := by
  induction newer with
  | nil => exact h
  | cons e newer ih => exact ih h.2

end UndoLog
