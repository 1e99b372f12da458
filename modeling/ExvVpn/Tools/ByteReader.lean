import ExvVpn.Tools.LittleEndian

/-! # Reading a byte string from left to right

A reader consumes bytes from the front and may fail. `Reads r b x` says that `r` takes the bytes `b`, whatever is behind
them, to the value `x`; `Inverts r write fits` that `r` takes what `write` has written, and nothing else, back. -/

/-- A reader of bytes that may fail with an error. -/
abbrev ByteReader (ε : Type) := StateT (List UInt8) (Except ε)

namespace ByteReader

open LittleEndian

variable {ε α β : Type}

/-- The next `n` bytes, or `eof` when fewer are left. -/
def take (eof : ε) (n : Nat) : ByteReader ε (List UInt8) := fun rest =>
  if n ≤ rest.length then .ok (rest.take n, rest.drop n) else .error eof

/-- The next byte. -/
def u8 (eof : ε) : ByteReader ε UInt8 := fun rest =>
  match rest with
  | [] => .error eof
  | b :: rest => .ok (b, rest)

/-- A little-endian number of four bytes. -/
def u32 (eof : ε) : ByteReader ε Nat := do
  let bytes ← take eof 4
  return ofBytes bytes

/-- Bytes behind their length. -/
def lenBytes (eof : ε) : ByteReader ε (List UInt8) := do
  let n ← u32 eof
  take eof n

/-- A number of values behind each other. -/
def many (r : ByteReader ε α) : Nat → ByteReader ε (List α)
  | 0 => return []
  | n + 1 => return (← r) :: (← many r n)

/-- The reader takes these bytes, whatever follows them, to the value. -/
def Reads (r : ByteReader ε α) (bytes : List UInt8) (x : α) : Prop := ∀ rest, r (bytes ++ rest) = .ok (x, rest)

/-- The reader inverts a writer: it takes what is written for a value that fits, and nothing else, to that value. -/
abbrev Inverts (r : ByteReader ε α) (write : α → List UInt8) (fits : α → Prop) : Prop :=
  ∀ input x rest, r input = .ok (x, rest) ↔ fits x ∧ input = write x ++ rest

section

variable {r : ByteReader ε α} {input rest : List UInt8}

/-- What is written is read back. -/
theorem Inverts.reads {write : α → List UInt8} {fits : α → Prop} (h : Inverts r write fits) {x : α} (hx : fits x) :
    Reads r (write x) x :=
  fun rest => (h _ x rest).mpr ⟨hx, rfl⟩

/-- Of two texts that start alike, both are written for one value. -/
theorem Inverts.injective {write : α → List UInt8} {fits : α → Prop} (h : Inverts r write fits) {x y : α} (hx : fits x)
    (hy : fits y) (heq : write x ++ input = write y ++ rest) : x = y ∧ input = rest := by
  have hread := h.reads hy rest
  rw [← heq, h.reads hx] at hread
  simpa using hread

/-- Two readers one behind the other. -/
@[simp] theorem run_bind_eq_ok {f : α → ByteReader ε β} {y : β} :
    (r >>= f) input = .ok (y, rest) ↔ ∃ x mid, f x mid = .ok (y, rest) ∧ r input = .ok (x, mid) := by
  rw [show (r >>= f) input = (r input).bind fun p => f p.1 p.2 from rfl]
  cases r input <;> simp [Except.bind, Prod.ext_iff]

/-- A value is read from no bytes. -/
@[simp] theorem pure_eq_ok {x y : α} : (pure x : ByteReader ε α) input = .ok (y, rest) ↔ x = y ∧ input = rest := by
  rw [show (pure x : ByteReader ε α) input = .ok (x, input) from rfl]
  simp

/-- A function of what is read. -/
@[simp] theorem run_map_eq_ok {f : α → β} {y : β} :
    (f <$> r) input = .ok (y, rest) ↔ ∃ x, f x = y ∧ r input = .ok (x, rest) := by
  rw [← bind_pure_comp, run_bind_eq_ok]
  simp

/-- An error is no result. -/
@[simp] theorem throw_ne_ok {e : ε} {p : α × List UInt8} : (throw e : ByteReader ε α) input ≠ .ok p := nofun

/-- A check that has to hold. -/
@[simp] theorem guard_eq_ok {c : Prop} [Decidable c] {e : ε} {p : α × List UInt8} :
    (if c then r else throw e) input = .ok p ↔ c ∧ r input = .ok p := by
  split <;> simp [*]

/-- A check that must not hold. -/
@[simp] theorem guard_not_eq_ok {c : Prop} [Decidable c] {e : ε} {p : α × List UInt8} :
    (if c then throw e else r) input = .ok p ↔ ¬c ∧ r input = .ok p := by
  split <;> simp [*]

/-- A computation that reads nothing. -/
@[simp] theorem liftM_eq_ok {x : Except ε α} {y : α} :
    (liftM x : ByteReader ε α) input = .ok (y, rest) ↔ x = .ok y ∧ input = rest := by
  cases x with
  | error e => exact iff_of_false nofun nofun
  | ok x =>
    rw [Except.ok.injEq]
    exact pure_eq_ok (ε := ε)

end

/-- Taking `n` bytes reads back any `n` bytes. -/
@[simp] theorem inverts_take (eof : ε) (n : Nat) : Inverts (take eof n) id (·.length = n) := by
  intro input bytes rest
  unfold take
  split
  · rename_i hle
    constructor
    · rintro ⟨rfl, rfl⟩
      exact ⟨List.length_take_of_le hle, (List.take_append_drop n input).symm⟩
    · rintro ⟨rfl, rfl⟩
      simp
  · rename_i hnot
    refine iff_of_false nofun ?_
    rintro ⟨rfl, rfl⟩
    simp at hnot

/-- A byte is read back. -/
@[simp] theorem inverts_u8 (eof : ε) : Inverts (u8 eof) (fun b => [b]) fun _ => True := by
  intro input b rest
  cases input <;> simp [u8, eq_comm]

/-- A number of four bytes is read back. -/
@[simp] theorem inverts_u32 (eof : ε) : Inverts (u32 eof) (toBytes 4) (· < 256 ^ 4) := by
  intro input n rest
  simp only [u32, run_bind_eq_ok, inverts_take, pure_eq_ok, id]
  constructor
  · rintro ⟨bytes, _, ⟨rfl, rfl⟩, hlen, rfl⟩
    have hbytes := toBytes_ofBytes bytes
    have hlt := ofBytes_lt bytes
    rw [hlen] at hbytes hlt
    exact ⟨hlt, by rw [hbytes]⟩
  · rintro ⟨hlt, rfl⟩
    exact ⟨_, rest, ⟨ofBytes_toBytes_of_lt hlt, rfl⟩, toBytes_length 4 n, rfl⟩

/-- Bytes behind their length are read back. -/
@[simp] theorem inverts_lenBytes (eof : ε) :
    Inverts (lenBytes eof) (fun bytes => toBytes 4 bytes.length ++ bytes) (·.length < 256 ^ 4) := by
  intro input bytes rest
  simp [lenBytes]

/-- Values one behind the other are read back. -/
theorem inverts_many {r : ByteReader ε α} {write : α → List UInt8} {fits : α → Prop} (h : Inverts r write fits) (n : Nat) :
    Inverts (many r n) (·.flatMap write) fun xs => xs.length = n ∧ ∀ x ∈ xs, fits x := by
  induction n with
  | zero =>
    intro input xs rest
    cases xs <;> simp [many]
  | succ n ih =>
    intro input xs rest
    cases xs with
    | nil => simp [many]
    | cons x xs =>
      simp [many, ih, h]
      tauto

end ByteReader
