import Mathlib.Logic.Function.Basic

/-! # Writes to a keyed store

A store is a function of its keys. A list of writes, each a key and a value, is applied from left to right. -/

namespace Writes

open List Function

variable {κ ν : Type*} [DecidableEq κ]

/-- The store after the writes. -/
def apply (f : κ → ν) (writes : List (κ × ν)) : κ → ν :=
  writes.foldl (fun f w => update f w.1 w.2) f

@[simp] theorem apply_nil (f : κ → ν) : apply f [] = f := rfl

/-- The first write comes first. -/
@[simp] theorem apply_cons (f : κ → ν) (w : κ × ν) (writes : List (κ × ν)) :
    apply f (w :: writes) = apply (update f w.1 w.2) writes := rfl

/-- A key has its old value if nothing was written there, and otherwise a value that was written there. -/
theorem apply_eq_or (f : κ → ν) (writes : List (κ × ν)) (k : κ) :
    apply f writes k = f k ∧ (∀ w ∈ writes, w.1 ≠ k) ∨ (k, apply f writes k) ∈ writes := by
  induction writes generalizing f with
  | nil => simp
  | cons w rest ih =>
    rcases ih (update f w.1 w.2) with ⟨hsame, hrest⟩ | hmem
    · by_cases hk : w.1 = k
      · subst hk
        rw [apply_cons, hsame, update_self]
        exact .inr mem_cons_self
      · rw [apply_cons, hsame, update_of_ne (Ne.symm hk)]
        exact .inl ⟨rfl, forall_mem_cons.mpr ⟨hk, hrest⟩⟩
    · exact .inr (mem_cons_of_mem _ hmem)

/-- A key that is not written keeps its value. -/
theorem apply_of_forall_ne {f : κ → ν} {writes : List (κ × ν)} {k : κ} (h : ∀ w ∈ writes, w.1 ≠ k) :
    apply f writes k = f k := by
  rcases apply_eq_or f writes k with ⟨hsame, _⟩ | hmem
  · exact hsame
  · exact absurd rfl (h _ hmem)

end Writes
