import ExvVpn.Tools.BigEndian

/-! # Little-endian numbers of a fixed width -/

namespace LittleEndian

open List

/-- The `w` little-endian bytes of a number; higher bytes are cut off. -/
def toBytes (w n : Nat) : List UInt8 := (BigEndian.toBytes w n).reverse

/-- The number little-endian bytes stand for. -/
def ofBytes (b : List UInt8) : Nat := BigEndian.ofBytes b.reverse

/-- A field is as wide as it was asked to be. -/
@[simp] theorem toBytes_length (w n : Nat) : (toBytes w n).length = w := by
  simp [toBytes]

/-- Reading the bytes of a number back gives the number modulo the width. -/
theorem ofBytes_toBytes (w n : Nat) : ofBytes (toBytes w n) = n % 256 ^ w := by
  rw [ofBytes, toBytes, reverse_reverse, BigEndian.ofBytes_toBytes]

/-- A number that fits is read back. -/
theorem ofBytes_toBytes_of_lt {w n : Nat} (h : n < 256 ^ w) : ofBytes (toBytes w n) = n := by
  rw [ofBytes_toBytes, Nat.mod_eq_of_lt h]

/-- The bytes of the number that bytes stand for are those bytes. -/
theorem toBytes_ofBytes (b : List UInt8) : toBytes b.length (ofBytes b) = b := by
  have h := BigEndian.toBytes_ofBytes b.reverse
  rw [length_reverse] at h
  rw [toBytes, ofBytes, h, reverse_reverse]

/-- What is read fits into as many bytes. -/
theorem ofBytes_lt (b : List UInt8) : ofBytes b < 256 ^ b.length := by
  have h := BigEndian.ofBytes_lt b.reverse
  rwa [length_reverse] at h

/-- Numbers below the width's bound are told apart by their bytes. -/
theorem toBytes_inj {w m n : Nat} (hm : m < 256 ^ w) (hn : n < 256 ^ w) (h : toBytes w m = toBytes w n) : m = n := by
  rw [← ofBytes_toBytes_of_lt hm, h, ofBytes_toBytes_of_lt hn]

/-! ## Sixteen-bit units -/

/-- Units as bytes, each unit's low byte first. -/
def ofUnits (units : List UInt16) : List UInt8 := units.flatMap fun u => toBytes 2 u.toNat

/-- The units of some bytes; an odd byte at the end is dropped. -/
def toUnits : List UInt8 → List UInt16
  | a :: b :: rest => UInt16.ofNat (ofBytes [a, b]) :: toUnits rest
  | _ => []

/-- A unit takes two bytes. -/
theorem ofUnits_cons (u : UInt16) (units : List UInt16) : ofUnits (u :: units) = toBytes 2 u.toNat ++ ofUnits units := by
  simp [ofUnits]

/-- Each unit takes two bytes. -/
@[simp] theorem ofUnits_length (units : List UInt16) : (ofUnits units).length = 2 * units.length := by
  induction units with
  | nil => rfl
  | cons u units ih =>
    rw [ofUnits_cons, length_append, toBytes_length, ih, length_cons]
    omega

/-- The first unit is read back. -/
theorem toUnits_toBytes_append (u : UInt16) (rest : List UInt8) :
    toUnits (toBytes 2 u.toNat ++ rest) = u :: toUnits rest := by
  have hlen := toBytes_length 2 u.toNat
  have hu : ofBytes (toBytes 2 u.toNat) = u.toNat := ofBytes_toBytes_of_lt u.toNat_lt
  generalize toBytes 2 u.toNat = b at hlen hu
  obtain ⟨x, y, rfl⟩ := length_eq_two.mp hlen
  rw [cons_append, cons_append, nil_append, toUnits, hu, UInt16.ofNat_toNat]

/-- The units of the bytes of some units are those units. -/
theorem toUnits_ofUnits (units : List UInt16) : toUnits (ofUnits units) = units := by
  induction units with
  | nil => rfl
  | cons u units ih => rw [ofUnits_cons, toUnits_toBytes_append, ih]

/-- The bytes of the units of an even number of bytes are those bytes. -/
theorem ofUnits_toUnits : ∀ {bytes : List UInt8}, bytes.length % 2 = 0 → ofUnits (toUnits bytes) = bytes
  | [], _ => rfl
  | [_], h => by cases h
  | a :: b :: rest, h => by
    have hlt : ofBytes [a, b] < UInt16.size := by simpa using ofBytes_lt [a, b]
    have hpair : toBytes 2 (ofBytes [a, b]) = [a, b] := toBytes_ofBytes [a, b]
    have heven : rest.length % 2 = 0 := by simpa [Nat.add_assoc] using h
    rw [toUnits, ofUnits_cons, ofUnits_toUnits heven, UInt16.toNat_ofNat_of_lt' hlt, hpair]
    rfl

/-- Two texts have different bytes. -/
theorem ofUnits_injective : Function.Injective ofUnits := by
  intro a b h
  rw [← toUnits_ofUnits a, h, toUnits_ofUnits]

end LittleEndian
