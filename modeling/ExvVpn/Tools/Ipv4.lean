import ExvVpn.Tools.RustStr

/-!
# IPv4 addresses

`Ipv4Addr` of Rust's standard library: its text, which is unique for each address, its number, and the network an address is in
for a prefix length.
-/

namespace Ipv4

open RustStr List Option

/-- An address by its octets. -/
structure Addr where
  a : UInt8
  b : UInt8
  c : UInt8
  d : UInt8
deriving DecidableEq, Repr

/-- `u32::from`. -/
def Addr.toNat (x : Addr) : Nat := ((x.a.toNat * 256 + x.b.toNat) * 256 + x.c.toNat) * 256 + x.d.toNat

/-- `Ipv4Addr::from` of a number. -/
def Addr.ofNat (n : Nat) : Addr :=
  ⟨UInt8.ofNat (n / 16777216), UInt8.ofNat (n / 65536), UInt8.ofNat (n / 256), UInt8.ofNat n⟩

/-- `Ipv4Addr::UNSPECIFIED`. -/
def Addr.unspecified : Addr := ⟨0, 0, 0, 0⟩

/-- `Display`. -/
def Addr.format (x : Addr) : List Char :=
  join ['.'] [decimal x.a.toNat, decimal x.b.toNat, decimal x.c.toNat, decimal x.d.toNat]

/-- An octet of `FromStr`: the digits of a number up to 255, without a leading zero. -/
def parseOctet (part : List Char) : Option UInt8 :=
  match parseDigits 255 part with
  | some n => if decimal n = part then some (UInt8.ofNat n) else none
  | none => none

/-- `FromStr`: four octets between dots. -/
def Addr.parse (text : List Char) : Option Addr :=
  match split '.' text with
  | [a, b, c, d] => do
    let a ← parseOctet a
    let b ← parseOctet b
    let c ← parseOctet c
    let d ← parseOctet d
    return ⟨a, b, c, d⟩
  | _ => none

/-- A prefix length from 1 to 32 in its shortest decimal form. -/
def parsePrefix (text : List Char) : Option Nat :=
  match parseUnsigned 255 text with
  | some n => if (1 ≤ n ∧ n ≤ 32) ∧ decimal n = text then some n else none
  | none => none

/-- The number of the network that an address is in: its bits beyond the prefix are cleared. -/
def network (n prefixLen : Nat) : Nat := n / 2 ^ (32 - prefixLen) * 2 ^ (32 - prefixLen)

example : Addr.parse "192.168.0.10".toList = some ⟨192, 168, 0, 10⟩ := by decide +kernel

example : Addr.parse "192.168.00.10".toList = none := by decide +kernel

/-! ## Digits -/

/-- The value of digits as Mathlib computes it. -/
theorem foldl_digitsValue (digits : List Char) (v : Nat) :
    digits.foldl (fun v d => v * 10 + (d.toNat - '0'.toNat)) v = Nat.ofDigitChars 10 digits v := by
  induction digits generalizing v with
  | nil => rfl
  | cons c digits ih =>
    rw [foldl_cons, ih, Nat.ofDigitChars_cons, Nat.mul_comm]

/-- The digits of a number have its value. -/
theorem digitsValue_decimal (n : Nat) : digitsValue (decimal n) = n := by
  rw [digitsValue, foldl_digitsValue]
  exact Nat.ofDigitChars_ten_toDigits

section Digits

variable {c : Char} {digits : List Char}

/-- What a digit stands for. -/
theorem digit_lt (h : c.isDigit = true) : 48 ≤ c.toNat ∧ c.toNat - '0'.toNat < 10 := by
  simp only [Char.isDigit, Bool.and_eq_true, decide_eq_true_eq, UInt32.le_iff_toNat_le] at h
  have hlow : 48 ≤ c.toNat := h.1
  have hhigh : c.toNat ≤ 57 := h.2
  exact ⟨hlow, show c.toNat - 48 < 10 by omega⟩

/-- A digit is its own number. -/
theorem decimal_digit (h : c.isDigit = true) : decimal (c.toNat - '0'.toNat) = [c] := by
  obtain ⟨hlow, hlt⟩ := digit_lt h
  rw [decimal, Nat.toDigits_of_lt_base hlt, cons.injEq]
  refine ⟨Char.toNat_inj.mp ?_, rfl⟩
  rw [Nat.toNat_digitChar_of_lt_ten hlt]
  exact Nat.add_sub_cancel' hlow

/-- Digits behind the text of a number continue it. -/
theorem decimal_append (h : ∀ d ∈ digits, d.isDigit = true) {v : Nat} (hv : 0 < v) :
    decimal v ++ digits = decimal (Nat.ofDigitChars 10 digits v) := by
  induction digits generalizing v with
  | nil => simp
  | cons c digits ih =>
    obtain ⟨hc, hrest⟩ := forall_mem_cons.mp h
    have hnext : decimal (10 * v + (c.toNat - '0'.toNat)) = decimal v ++ [c] := by
      rw [← decimal_digit hc]
      exact (Nat.toDigits_append_toDigits (by decide) hv (digit_lt hc).2).symm
    rw [Nat.ofDigitChars_cons, ← ih hrest (by omega), hnext, append_assoc]
    rfl

/-- Digits without a leading zero are the text of their number. -/
theorem decimal_digitsValue (h : ∀ d ∈ c :: digits, d.isDigit = true) (hzero : digits = [] ∨ c ≠ '0') :
    decimal (digitsValue (c :: digits)) = c :: digits := by
  obtain ⟨hc, hrest⟩ := forall_mem_cons.mp h
  have hvalue : digitsValue (c :: digits) = Nat.ofDigitChars 10 digits (c.toNat - '0'.toNat) := by
    rw [digitsValue, foldl_cons, foldl_digitsValue, Nat.zero_mul, Nat.zero_add]
  rw [hvalue]
  rcases hzero with rfl | hzero
  · exact decimal_digit hc
  have hpos : 0 < c.toNat - '0'.toNat := by
    refine Nat.sub_pos_of_lt (Nat.lt_of_le_of_ne (digit_lt hc).1 fun heq => hzero (Char.toNat_inj.mp heq.symm))
  rw [← decimal_append hrest hpos, decimal_digit hc]
  rfl

end Digits

/-- The text of a number parses as that number. -/
theorem parseDigits_decimal {n max : Nat} (h : n ≤ max) : parseDigits max (decimal n) = some n :=
  parseDigits_eq_some.mpr ⟨⟨Nat.toDigits_ne_nil, fun _ => isDigit_of_mem_decimal⟩, digitsValue_decimal n, h⟩

/-- A printed number is parsed again. -/
theorem parseUnsigned_decimal {n max : Nat} (h : n ≤ max) : parseUnsigned max (decimal n) = some n := by
  unfold parseUnsigned
  split
  · rename_i digits hdigits
    exact absurd (hdigits ▸ mem_cons_self) (notMem_decimal rfl)
  · exact parseDigits_decimal h

/-- Only the shortest text of a prefix length parses as it. -/
theorem parsePrefix_eq_some {text : List Char} {n : Nat} :
    parsePrefix text = some n ↔ text = decimal n ∧ 1 ≤ n ∧ n ≤ 32 := by
  constructor
  · intro h
    unfold parsePrefix at h
    split at h
    · split_ifs at h with hn
      cases h
      exact ⟨hn.2.symm, hn.1⟩
    · cases h
  · rintro ⟨rfl, hn⟩
    rw [parsePrefix, parseUnsigned_decimal (by omega)]
    exact if_pos ⟨hn, rfl⟩

/-- An octet is parsed from its shortest form only. -/
theorem parseOctet_eq_some {part : List Char} {n : UInt8} : parseOctet part = some n ↔ part = decimal n.toNat := by
  constructor
  · intro h
    unfold parseOctet at h
    split at h
    · rename_i m hm
      split at h
      · rename_i hdecimal
        cases h
        rw [UInt8.toNat_ofNat_of_lt' (Nat.lt_succ_of_le (parseDigits_eq_some.mp hm).2.2)]
        exact hdecimal.symm
      · cases h
    · cases h
  · rintro rfl
    have hle : n.toNat ≤ 255 := Nat.le_of_lt_succ n.toNat_lt
    simp [parseOctet, parseDigits_decimal hle, UInt8.ofNat_toNat]

/-! ## Texts of addresses -/

/-- The parts of a printed address. -/
theorem split_format (x : Addr) :
    split '.' x.format = [decimal x.a.toNat, decimal x.b.toNat, decimal x.c.toNat, decimal x.d.toNat] := by
  refine splitOn_intercalate '.' (fun part hpart => ?_) (cons_ne_nil _ _)
  simp only [mem_cons, not_mem_nil, or_false] at hpart
  rcases hpart with rfl | rfl | rfl | rfl <;> exact notMem_decimal rfl

/-- An address has one text, and that text parses as it. -/
theorem parse_eq_some {text : List Char} {x : Addr} : Addr.parse text = some x ↔ text = x.format := by
  constructor
  · intro h
    unfold Addr.parse at h
    split at h
    · rename_i a b c d hsplit
      simp only [Option.bind_eq_bind, Option.bind_eq_some_iff, Option.pure_def, Option.some.injEq] at h
      obtain ⟨a', ha, b', hb, c', hc, d', hd, rfl⟩ := h
      rw [parseOctet_eq_some] at ha hb hc hd
      have hjoin : ['.'].intercalate (text.splitOn '.') = text := List.intercalate_splitOn '.'
      rw [← hjoin, show text.splitOn '.' = [a, b, c, d] from hsplit, ha, hb, hc, hd]
      rfl
    · cases h
  · rintro rfl
    simp only [Addr.parse, split_format]
    simp [parseOctet_eq_some.mpr rfl]

/-- A printed address is parsed again. -/
@[simp] theorem parse_format (x : Addr) : Addr.parse x.format = some x := parse_eq_some.mpr rfl

/-- Two addresses are printed differently. -/
theorem format_injective : Function.Injective Addr.format := by
  intro x y h
  have hparse := parse_format x
  rw [h, parse_format] at hparse
  exact (some.inj hparse).symm

/-- Digits and dots are all there is. -/
theorem notMem_format {c : Char} (hdigit : c.isDigit = false) (hdot : c ≠ '.') (x : Addr) : c ∉ x.format := by
  intro h
  rcases mem_join.mp h with ⟨part, hpart, hmem⟩ | ⟨-, hsep⟩
  · simp only [mem_cons, not_mem_nil, or_false] at hpart
    rcases hpart with rfl | rfl | rfl | rfl <;> exact notMem_decimal hdigit hmem
  · exact hdot (mem_singleton.mp hsep)

/-- No slash is in a printed address. -/
theorem slash_notMem_format (x : Addr) : '/' ∉ x.format := notMem_format rfl (by decide) x

/-! ## Numbers of addresses -/

/-- An address has 32 bits. -/
theorem toNat_lt (x : Addr) : x.toNat < 2 ^ 32 := by
  have ha := x.a.toNat_lt
  have hb := x.b.toNat_lt
  have hc := x.c.toNat_lt
  have hd := x.d.toNat_lt
  simp only [Addr.toNat]
  omega

/-- The address of a number has that number. -/
theorem toNat_ofNat {n : Nat} (h : n < 2 ^ 32) : (Addr.ofNat n).toNat = n := by
  simp only [Addr.ofNat, Addr.toNat, UInt8.toNat_ofNat']
  omega

/-- The number of an address gives it back. -/
theorem ofNat_toNat (x : Addr) : Addr.ofNat x.toNat = x := by
  obtain ⟨a, b, c, d⟩ := x
  have ha := a.toNat_lt
  have hb := b.toNat_lt
  have hc := c.toNat_lt
  have hd := d.toNat_lt
  simp only [Addr.ofNat, Addr.toNat, Addr.mk.injEq]
  refine ⟨?_, ?_, ?_, ?_⟩ <;> apply UInt8.toNat_inj.mp <;> rw [UInt8.toNat_ofNat'] <;> omega

/-- A network address is its own. -/
theorem network_network (n prefixLen : Nat) : network (network n prefixLen) prefixLen = network n prefixLen := by
  rw [network, network, Nat.mul_div_cancel _ (Nat.two_pow_pos _)]

/-- The address of the network that an address is in. -/
def Addr.masked (x : Addr) (prefixLen : Nat) : Addr := Addr.ofNat (network x.toNat prefixLen)

/-- The masked address is that of the network. -/
theorem toNat_masked (x : Addr) (prefixLen : Nat) : (x.masked prefixLen).toNat = network x.toNat prefixLen :=
  toNat_ofNat (Nat.lt_of_le_of_lt (Nat.div_mul_le_self _ _) (toNat_lt x))

end Ipv4
