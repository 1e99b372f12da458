import ExvVpn.DarwinEngine.WantedRoutes
import ExvVpn.Win32Engine.TunnelRuntime

/-!
# Netmasks and network addresses

The prefix length that `netmask_to_prefix` reads from a mask, and the address that each engine's `network_base` makes of it as the
default target of its probes.
-/

namespace ExvVpn.Cstp

open Ipv4 List

namespace NetworkPrefixAux

/-- The number that bits stand for, the highest first. -/
def bitsValue : List Bool → Nat
  | [] => 0
  | bit :: rest => bit.toNat * 2 ^ rest.length + bitsValue rest

theorem bitsValue_lt (bits : List Bool) : bitsValue bits < 2 ^ bits.length := by
  induction bits with
  | nil => decide
  | cons bit rest ih =>
    rw [bitsValue, length_cons, Nat.pow_succ]
    cases bit <;> simp only [Bool.toNat_true, Bool.toNat_false] <;> omega

theorem bitsValue_append (front rest : List Bool) :
    bitsValue (front ++ rest) = bitsValue front * 2 ^ rest.length + bitsValue rest := by
  induction front with
  | nil => simp [bitsValue]
  | cons bit front ih =>
    rw [cons_append, bitsValue, bitsValue, ih, length_append, Nat.pow_add, Nat.add_mul, Nat.mul_assoc, Nat.add_assoc]

theorem bitsValue_octetBits (octet : UInt8) : bitsValue (octetBits octet) = octet.toNat :=
  (by decide +kernel : ∀ n < 256, bitsValue ([7, 6, 5, 4, 3, 2, 1, 0].map fun bit => n.testBit bit) = n) _ octet.toNat_lt

theorem bitsValue_mask (mask : Addr) : bitsValue ([mask.a, mask.b, mask.c, mask.d].flatMap octetBits) = mask.toNat := by
  have hlength (octet : UInt8) : (octetBits octet).length = 8 := rfl
  simp only [flatMap_cons, flatMap_nil, append_nil, bitsValue_append, bitsValue_octetBits, length_append, hlength, Addr.toNat]
  omega

/-- Behind a zero there are only zeros. -/
theorem countOnes_seenZero {ones p : Nat} (bits : List Bool) :
    countOnes ones true bits = some p ↔ ones = p ∧ bitsValue bits = 0 := by
  induction bits with
  | nil => simp [countOnes, bitsValue]
  | cons bit rest ih => cases bit <;> simp [countOnes, bitsValue, ih]

/-- The loop counts the ones in front of zeros. -/
theorem countOnes_eq_some {ones p : Nat} (bits : List Bool) :
    countOnes ones false bits = some p ↔
      ∃ k ≤ bits.length, p = ones + k ∧ bitsValue bits + 2 ^ (bits.length - k) = 2 ^ bits.length := by
  induction bits generalizing ones with
  | nil => simp [countOnes, bitsValue, eq_comm]
  | cons bit rest ih =>
    have hpow : 2 ^ (rest.length + 1) = 2 ^ rest.length + 2 ^ rest.length := by rw [Nat.pow_succ, Nat.mul_two]
    have hlt := bitsValue_lt rest
    cases bit with
    | false =>
      simp only [countOnes, countOnes_seenZero, bitsValue, length_cons, hpow, Bool.toNat_false]
      constructor
      · rintro ⟨rfl, hzero⟩
        exact ⟨0, Nat.zero_le _, rfl, by rw [hzero, Nat.sub_zero, hpow]; omega⟩
      · rintro ⟨k, hk, rfl, hvalue⟩
        obtain rfl : k = 0 := by
          by_contra hne
          have hle : 2 ^ (rest.length + 1 - k) ≤ 2 ^ rest.length := Nat.pow_le_pow_right (by decide) (by omega)
          omega
        rw [Nat.sub_zero, hpow] at hvalue
        exact ⟨rfl, by omega⟩
    | true =>
      simp only [countOnes, ih, bitsValue, length_cons, hpow, Bool.toNat_true, Bool.false_eq_true, if_false]
      constructor
      · rintro ⟨k, hk, rfl, hvalue⟩
        exact ⟨k + 1, by omega, by omega, by rw [Nat.add_sub_add_right]; omega⟩
      · rintro ⟨k, hk, rfl, hvalue⟩
        rcases k with _ | k
        · rw [Nat.sub_zero, hpow] at hvalue
          omega
        · rw [Nat.add_sub_add_right] at hvalue
          exact ⟨k, by omega, by omega, by omega⟩

end NetworkPrefixAux

open NetworkPrefixAux

/-- A mask has a prefix length exactly when it is that many ones followed by zeros, whatever text it was read from. -/
theorem netmask_prefix_iff (mask : Addr) (prefixLen : Nat) :
    netmaskToPrefix mask = some prefixLen ↔ prefixLen ≤ 32 ∧ mask.toNat = 2 ^ 32 - 2 ^ (32 - prefixLen) := by
  rw [netmaskToPrefix, countOnes_eq_some, bitsValue_mask]
  have hlength : ([mask.a, mask.b, mask.c, mask.d].flatMap octetBits).length = 32 := rfl
  have hle : 2 ^ (32 - prefixLen) ≤ 2 ^ 32 := Nat.pow_le_pow_right (by decide) (Nat.sub_le _ _)
  rw [hlength]
  constructor
  · rintro ⟨k, hk, rfl, hvalue⟩
    rw [Nat.zero_add] at hle ⊢
    exact ⟨hk, by omega⟩
  · rintro ⟨hk, hvalue⟩
    exact ⟨prefixLen, hk, (Nat.zero_add _).symm, by omega⟩

end ExvVpn.Cstp

namespace ExvVpn

open Ipv4

theorem toNat_and_mask (addr : Addr) (k : Nat) : addr.toNat &&& (2 ^ 32 - 1) <<< k % 2 ^ 32 = addr.toNat / 2 ^ k * 2 ^ k := by
  refine Nat.eq_of_testBit_eq fun i => ?_
  rw [← Nat.shiftRight_eq_div_pow, ← Nat.shiftLeft_eq, Nat.testBit_and, Nat.testBit_mod_two_pow]
  simp only [Nat.testBit_shiftLeft, Nat.testBit_shiftRight, Nat.testBit_two_pow_sub_one]
  by_cases hk : k ≤ i
  · by_cases hi : i < 32
    · simp [hk, hi]
      omega
    · have hlarge : addr.toNat.testBit i = false :=
        Nat.testBit_lt_two_pow (Nat.lt_of_lt_of_le (toNat_lt addr) (Nat.pow_le_pow_right (by decide) (by omega)))
      simp [hk, hi, hlarge]
  · simp [hk]

/-- The two engines agree, on the address with the bits beyond the prefix cleared and with no overflow in any build, exactly for
the prefixes other than 0. -/
theorem network_base_iff {prefixLen : Nat} (h : prefixLen ≤ 32) (addr : Addr) :
    (∀ overflowChecks, TunnelRuntime.networkBase overflowChecks addr prefixLen = some (addr.masked prefixLen) ∧
        DarwinEngine.networkBase addr prefixLen = addr.masked prefixLen) ↔ prefixLen ≠ 0 := by
  constructor
  · rintro hbase rfl
    exact absurd (hbase true).1 (by simp [TunnelRuntime.networkBase, maxShl])
  · intro hne overflowChecks
    have hmask := toNat_and_mask addr (32 - prefixLen)
    by_cases hfull : prefixLen = 32
    · subst hfull
      have hall : addr.toNat &&& 4294967295 = addr.toNat := hmask.trans (by simp)
      simp [TunnelRuntime.networkBase, DarwinEngine.networkBase, Addr.masked, network, hall]
    · have hshift : 32 - prefixLen < 32 := by omega
      have hle : prefixLen ≤ 31 := by omega
      simp only [TunnelRuntime.networkBase, DarwinEngine.networkBase, maxShl, if_neg (by omega : ¬32 ≤ prefixLen), if_pos hshift,
        if_neg hne, if_pos hle, Addr.masked, network, ← hmask]
      exact ⟨rfl, trivial⟩

/-- The network of an address with a prefix of 24. -/
theorem network_base_24 : TunnelRuntime.networkBase true ⟨10, 88, 88, 7⟩ 24 = some ⟨10, 88, 88, 0⟩ :=
  ((network_base_iff (by decide) ⟨10, 88, 88, 7⟩).mpr (by decide) true).1.trans (by decide)

/-- An offer with the mask 0.0.0.0 has the prefix 0: the shift overflows, and without overflow checks nothing is cleared. -/
theorem network_base_0 :
    Cstp.netmaskToPrefix ⟨0, 0, 0, 0⟩ = some 0 ∧ TunnelRuntime.networkBase true ⟨10, 88, 88, 7⟩ 0 = none ∧
      TunnelRuntime.networkBase false ⟨10, 88, 88, 7⟩ 0 = some ⟨10, 88, 88, 7⟩ ∧
      DarwinEngine.networkBase ⟨10, 88, 88, 7⟩ 0 = ⟨0, 0, 0, 0⟩ := by
  decide

end ExvVpn
