import Mathlib.Data.List.Basic

/-! # Histories

A history is a list with its newest entry first. `Each P` says that every entry stands in the relation `P` to what had
happened before it. -/

namespace History

variable {ε : Type*}

/-- Every entry of the history fits what was before it. -/
def Each (P : List ε → ε → Prop) : List ε → Prop
  | [] => True
  | e :: before => P before e ∧ Each P before

variable {P : List ε → ε → Prop}

/-- An entry fits what was before it, wherever it stands. -/
theorem Each.at_split {later before : List ε} {e : ε} (h : Each P (later ++ e :: before)) : P before e := by
  induction later with
  | nil => exact h.1
  | cons _ later ih => exact ih h.2

end History
