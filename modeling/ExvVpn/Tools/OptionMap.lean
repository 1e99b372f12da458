import Mathlib.Logic.Function.Basic

/-! # Partial maps

A partial map is a function into `Option`, changed at one key at a time. -/

namespace OptionMap

open Function

variable {κ α : Type*} [DecidableEq κ] {f : κ → Option α} {k : κ} {new : Option α}

/-- What holds of the new value and of every other one holds of the changed map. -/
theorem forall_update {P : κ → α → Prop} (hold : ∀ m x, f m = some x → m ≠ k → P m x)
    (hnew : ∀ x, new = some x → P k x) : ∀ m x, update f k new m = some x → P m x := by
  intro m x hm
  by_cases hmk : m = k
  · subst hmk
    exact hnew x (by simpa using hm)
  · exact hold m x (by simpa [update_of_ne hmk] using hm) hmk

/-- The same for a value that is put in. -/
theorem forall_update_some {P : κ → α → Prop} {a : α} (hold : ∀ m x, f m = some x → P m x) (hnew : P k a) :
    ∀ m x, update f k (some a) m = some x → P m x := by
  refine forall_update (fun m x hm _ => hold m x hm) ?_
  rintro x ⟨⟩
  exact hnew

end OptionMap
