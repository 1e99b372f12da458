/-! # Bytes and texts -/

namespace ExvVpn

/-- A byte string. -/
abbrev Bytes := List UInt8

/-- A Rust string, as the list of its characters. -/
abbrev Text := List Char

/-- A computation succeeds exactly when its first part does and then the rest. -/
theorem bind_ok_iff {ε α β : Type} {x : Except ε α} {f : α → Except ε β} {b : β} :
    (x >>= f) = .ok b ↔ ∃ a, x = .ok a ∧ f a = .ok b := by
  cases x <;> simp [bind, Except.bind]

end ExvVpn
