import ExvVpn.Lemmas.SystemProxy
import Mathlib.Data.List.Infix

/-! # Which addresses a wildcard entry covers

A whole /8, /16 or /24 network is written as its octets and a star. The dot behind each octet keeps the entry from covering
more than the network. -/

namespace ExvVpn.SystemProxy

open RustStr Ipv4 List Addr

/-- A text matches a pattern in which a star stands for any text. -/
def globMatches : Text → Text → Bool
  | [], text => text.isEmpty
  | c :: pattern, text =>
    if c = '*' then text.tails.any (globMatches pattern)
    else
      match text with
      | [] => false
      | d :: rest => c = d && globMatches pattern rest

/-- The address is in the network of the text: one with the same first bits as the address in front of the slash. -/
def InCidr (cidr : Text) (x : Addr) : Prop :=
  ∃ addrPart lengthPart base length, splitOnce '/' cidr = some (addrPart, lengthPart) ∧
    parse addrPart = some base ∧ parseUnsigned 255 lengthPart = some length ∧
    network x.toNat length = network base.toNat length

theorem globMatches_star {start : Text} (hstart : '*' ∉ start) (text : Text) :
    globMatches (start ++ ['*']) text = true ↔ start <+: text := by
  induction start generalizing text with
  | nil => simp [globMatches]
  | cons c start ih =>
    rw [mem_cons, not_or] at hstart
    cases text with
    | nil => simp [globMatches, Ne.symm hstart.1]
    | cons d text => simp [globMatches, Ne.symm hstart.1, ih hstart.2, cons_prefix_cons]

theorem globMatches_wild {start text : Text} (hstart : '*' ∉ start) :
    globMatches (start ++ ".*".toList) text = true ↔ start ++ ['.'] <+: text := by
  rw [← globMatches_star (by simp [hstart]), append_assoc]
  rfl

theorem prefix_part {u v p rest : Text} (hu : '.' ∉ u) (hv : '.' ∉ v) :
    u ++ '.' :: p <+: v ++ '.' :: rest ↔ u = v ∧ p <+: rest := by
  induction u generalizing v with
  | nil =>
    cases v with
    | nil => simp
    | cons d v =>
      rw [mem_cons, not_or] at hv
      simp [cons_prefix_cons, hv.1]
  | cons c u ih =>
    rw [mem_cons, not_or] at hu
    cases v with
    | nil => simp [cons_prefix_cons, Ne.symm hu.1]
    | cons d v =>
      rw [mem_cons, not_or] at hv
      simp [cons_prefix_cons, ih hu.2 hv.2, and_assoc]

/-- The octets in front of the star are compared one by one. -/
theorem prefix_octet {m n : Nat} {p rest : Text} :
    decimal m ++ '.' :: p <+: decimal n ++ '.' :: rest ↔ m = n ∧ p <+: rest := by
  rw [prefix_part (notMem_decimal rfl) (notMem_decimal rfl)]
  refine and_congr_left fun _ => ⟨fun h => ?_, fun h => by rw [h]⟩
  rw [← digitsValue_decimal m, h, digitsValue_decimal]

/-- A wildcard entry matches the text of an address exactly when the address is in the network. -/
theorem wildcard_matches_iff {cidr wildcard : Text} (h : cidrToWildcardOpt cidr = some (.wildcard wildcard)) (x : Addr) :
    globMatches wildcard x.format = true ↔ InCidr cidr x := by
  simp only [cidrToWildcardOpt, Option.bind_eq_bind, Option.bind_eq_some_iff, Option.ite_none_left_eq_some] at h
  obtain ⟨⟨addrPart, lengthPart⟩, hcut, length, hlength, -, ⟨a, b, c, d⟩, hoctets, h⟩ := h
  obtain ⟨base, hparse, hbase⟩ := parseIpv4Octets_eq_some hoctets
  cases hbase
  have hin : InCidr cidr x ↔ network x.toNat length = network base.toNat length := by
    simp [InCidr, hcut, hparse, hlength]
  have hformat : x.format = decimal x.a.toNat ++ '.' :: (decimal x.b.toNat ++ '.' ::
      (decimal x.c.toNat ++ '.' :: decimal x.d.toNat)) := by simp [Addr.format, join]
  have hb := x.b.toNat_lt
  have hc := x.c.toNat_lt
  have hd := x.d.toNat_lt
  have hb' := base.b.toNat_lt
  have hc' := base.c.toNat_lt
  have hd' := base.d.toNat_lt
  rw [hin, hformat]
  split_ifs at h with _ h8 h16 h24
  · cases h
  · subst h8
    cases h
    rw [globMatches_wild (notMem_decimal rfl)]
    simp [prefix_octet, network, Addr.toNat]
    omega
  · subst h16
    cases h
    rw [globMatches_wild (by simp [notMem_decimal])]
    simp [prefix_octet, network, Addr.toNat]
    omega
  · subst h24
    cases h
    rw [globMatches_wild (by simp [notMem_decimal])]
    simp [prefix_octet, network, Addr.toNat]
    omega
  · cases h

/-- The entry of 10.1.0.0/16 covers 10.1.2.3. -/
theorem wildcard_matches_campus : globMatches "10.1.*".toList (format ⟨10, 1, 2, 3⟩) = true ∧
    InCidr "10.1.0.0/16".toList ⟨10, 1, 2, 3⟩ := by
  have hin : globMatches "10.1.*".toList (format ⟨10, 1, 2, 3⟩) = true := by decide +kernel
  have hwild : cidrToWildcardOpt "10.1.0.0/16".toList = some (.wildcard "10.1.*".toList) := by decide +kernel
  exact ⟨hin, (wildcard_matches_iff hwild _).mp hin⟩

end ExvVpn.SystemProxy
