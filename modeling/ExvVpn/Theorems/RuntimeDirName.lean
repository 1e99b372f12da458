import ExvVpn.DarwinIpc.RuntimeDirName
import Mathlib.Data.Vector.Defs

/-!
# The names of runtime directories agree

What one crate writes, the two others read: they take the same names for those of runtime directories, and find in such a name
the process that made it.
-/

namespace ExvVpn.DarwinIpc

open RustStr
open List hiding Vector

namespace RuntimeDirAux

theorem isAsciiHexdigit_lower (b : UInt8) : (isAsciiHexdigit b && !isAsciiUppercase b) = isLowerHex b := by
  rw [Bool.eq_iff_iff]
  simp [isAsciiHexdigit, isAsciiUppercase, isLowerHex, isAsciiDigit, UInt8.le_iff_toNat_le]
  omega

/-- A text of lower-case hexadecimal digits. -/
def Lower (text : Text) : Prop := ∀ c ∈ text, ∃ d < 16, c = d.digitChar

theorem lower_hexadecimal (n : Nat) : Lower (hexadecimal n) := fun _ => mem_hexadecimal

theorem lower_suffix (bytes : Bytes) : Lower (bytes.flatMap hex02) := by
  intro c hc
  obtain ⟨byte, -, hbyte⟩ := mem_flatMap.mp hc
  rcases mem_append.mp hbyte with hzero | hdigit
  · exact ⟨0, by decide, (mem_replicate.mp hzero).2⟩
  · exact mem_hexadecimal hdigit

theorem length_suffix (bytes : Bytes) : (bytes.flatMap hex02).length = 2 * bytes.length := by
  have htwo (byte : UInt8) : (hex02 byte).length = 2 := by
    have hle := (Nat.length_toDigits_le_iff (b := 16) (k := 2) (by decide) (by decide)).mpr byte.toNat_lt
    rw [hex02, length_append, length_replicate, hexadecimal]
    omega
  simp [length_flatMap, htwo, Nat.mul_comm]

section

variable {text : Text} (h : Lower text)
include h

theorem Lower.length_asBytes : (asBytes text).length = text.length := by
  refine RustStr.length_asBytes fun c hc => ?_
  obtain ⟨d, hd, rfl⟩ := h c hc
  exact (by decide : ∀ d < 16, d.digitChar.toNat < 128) d hd

theorem Lower.all_isLowerHex : (asBytes text).all isLowerHex = true := by
  rw [asBytes, all_flatMap, all_eq_true]
  intro c hc
  obtain ⟨d, hd, rfl⟩ := h c hc
  exact (by decide : ∀ d < 16, (String.utf8EncodeChar d.digitChar).all isLowerHex = true) d hd

theorem Lower.notMem {c : Char} (hc : ∀ d < 16, c ≠ d.digitChar) : c ∉ text := by
  intro hmem
  obtain ⟨d, hd, heq⟩ := h c hmem
  exact hc d hd heq

end

theorem stripPlus_hexadecimal (n : Nat) : stripPlus (hexadecimal n) = hexadecimal n := by
  unfold stripPlus
  split
  · rename_i heq
    exact absurd (heq ▸ mem_cons_self) ((lower_hexadecimal n).notMem (by decide : ∀ d < 16, '+' ≠ d.digitChar))
  · rfl

theorem i32FromHex_hexadecimal {n : Nat} (h : n < 2 ^ 31) : i32FromHex (hexadecimal n) = some (n : Int) := by
  unfold i32FromHex
  split
  · rename_i heq
    exact absurd (heq ▸ mem_cons_self) ((lower_hexadecimal n).notMem (by decide : ∀ d < 16, '-' ≠ d.digitChar))
  · simpa [stripPlus_hexadecimal, fromHex_hexadecimal] using h

/-- A name that is made is read as the process id and the random bytes. -/
theorem splitName_created (pid : UInt32) (random : Vector UInt8 8) :
    ∃ name, createRuntimeDirName pid (some random) = some name ∧
      splitName name = some (hexadecimal pid.toNat, random.toList.flatMap hex02) := by
  have hlower := lower_hexadecimal pid.toNat
  have hsuffix := lower_suffix random.toList
  refine ⟨_, if_neg ?_, ?_⟩
  · simp only [mem_append, mem_cons, not_or]
    exact ⟨by decide, hlower.notMem (by decide), by decide, hsuffix.notMem (by decide)⟩
  · simp only [splitName, stripPrefix, isPrefixOf_iff_prefix.mpr (prefix_append _ _), if_true, drop_left, Option.bind_some]
    exact splitOnce_append (hlower.notMem (by decide)) _

theorem matches_of_split {name suffix : Text} {n : Nat} (hname : splitName name = some (hexadecimal n, suffix))
    (hn : n < 2 ^ 32) (hsuffix : Lower suffix) (hlength : suffix.length = 16) : runtimeResidueNameMatches name = true := by
  have hle := (Nat.length_toDigits_le_iff (b := 16) (k := 8) (by decide) (by decide)).mpr hn
  have hpos := Nat.length_toDigits_pos (b := 16) (n := n)
  have hlower := lower_hexadecimal n
  have hne : suffix ≠ [] := by
    rintro rfl
    cases hlength
  rw [runtimeResidueNameMatches, nameMatches, hname]
  simp only [hlower.length_asBytes, hsuffix.length_asBytes, hlower.all_isLowerHex, hsuffix.all_isLowerHex, hlength]
  simp [hexadecimal, runtimeResiduePidHexMax, hle, hne, Nat.toDigits_ne_nil]
  exact decide_eq_true hpos

end RuntimeDirAux

open RuntimeDirAux

/-- The two checks of a name agree, and they accept every name that is made; the process id is read back from it, and both
tests ask about that process if the id can be that of one. -/
theorem runtime_dir_names_agree :
    (∀ leaf, isRuntimeDirName leaf = runtimeResidueNameMatches leaf) ∧
      ∀ (pid : UInt32) (random : Vector UInt8 8), pid ≠ 0 →
        ∃ name, createRuntimeDirName pid (some random) = some name ∧ isRuntimeDirName name ∧
          runtimeResidueNameMatches name ∧ runtimeResiduePid name = some pid.toNat ∧
          (pid.toNat < 2 ^ 31 → ∀ kill, runtimeDirOwnerAlive kill name = kill pid.toNat ∧
            residueOwnerAlive kill name = kill pid.toNat) := by
  have hagree (leaf : Text) : isRuntimeDirName leaf = runtimeResidueNameMatches leaf := by
    rw [isRuntimeDirName, funext isAsciiHexdigit_lower]
    rfl
  refine ⟨hagree, fun pid random hpid => ?_⟩
  obtain ⟨name, hcreated, hname⟩ := splitName_created pid random
  have hpos : 0 < pid.toNat := UInt32.pos_iff_ne_zero.mpr hpid
  have hmatches := matches_of_split hname pid.toNat_lt (lower_suffix _) (by rw [length_suffix, Vector.length_toList])
  have hread : runtimeResiduePid name = some pid.toNat := by
    have hfits := pid.toNat_lt
    simpa [runtimeResiduePid, hmatches, hname, u32FromHex, stripPlus_hexadecimal, fromHex_hexadecimal, hpos] using hfits
  refine ⟨name, hcreated, (hagree name).trans hmatches, hmatches, hread, fun hfits kill => ⟨?_, ?_⟩⟩
  · simp [runtimeDirOwnerAlive, hname, i32FromHex_hexadecimal hfits]
    omega
  · simp [residueOwnerAlive, hread, processAlive]
    omega

end ExvVpn.DarwinIpc
