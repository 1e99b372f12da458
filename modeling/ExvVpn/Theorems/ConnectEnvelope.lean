import ExvVpn.DarwinIpc.ConnectEnvelope

/-!
# The bytes of a connect envelope

An envelope that passes the checks is read back from its bytes, bytes that are accepted are those of the envelope they were
read as, and two profiles feed the same bytes to the digest only if they agree.
-/

namespace ExvVpn.DarwinIpc

open RustStr BigEndian ByteReader Ipv4 DarwinEngineConnectV1

/-- The envelope came out of `new`. -/
def DarwinEngineConnectV1.Accepted (sha256 : Bytes → Bytes) (v : DarwinEngineConnectV1) : Prop :=
  new sha256 v.server v.username v.password v.campusRoutes v.mtuOverride v.userAgent = .ok v

/-- The lengths of an envelope can be written, and its MTU is not the number that stands for none. -/
@[mk_iff]
structure DarwinEngineConnectV1.Fits (v : DarwinEngineConnectV1) : Prop where
  server : (asBytes v.server).length < 256 ^ 2
  username : (asBytes v.username).length < 256 ^ 2
  password : (asBytes v.password).length < 256 ^ 2
  count : v.campusRoutes.length ≤ maxRouteCount
  routes : ∀ route ∈ v.campusRoutes, (asBytes route).length < 256 ^ 2
  mtu : v.mtuOverride ≠ some 0
  userAgent : (asBytes v.userAgent).length < 256 ^ 2
  digest : v.profileDigest.length = digestLen

@[simp] theorem inverts_readU16 : Inverts readU16 (toBytes 2) (· < 256 ^ 2) := by
  intro input n rest
  simp only [readU16, takeExact, run_map_eq_ok, inverts_take, id]
  constructor
  · rintro ⟨bytes, rfl, hlen, rfl⟩
    have hbytes := toBytes_ofBytes bytes
    have hlt := ofBytes_lt bytes
    rw [hlen] at hbytes hlt
    exact ⟨hlt, by rw [hbytes]⟩
  · rintro ⟨hlt, rfl⟩
    exact ⟨_, by rw [ofBytes_toBytes, Nat.mod_eq_of_lt hlt], toBytes_length 2 n, rfl⟩

@[simp] theorem fromUtf8OrError_eq_ok {bytes : Bytes} {text : Text} :
    fromUtf8OrError bytes = .ok text ↔ bytes = asBytes text := by
  rw [← fromUtf8_eq_some, fromUtf8OrError]
  cases fromUtf8 bytes <;> simp

@[simp] theorem inverts_readString : Inverts readString digestString fun text => (asBytes text).length < 256 ^ 2 := by
  intro input text rest
  simp [readString, takeExact, digestString]

@[simp] theorem inverts_readHeader : Inverts readHeader (fun _ => magic ++ toBytes 2 version) fun _ => True := by
  intro input _ rest
  simp [readHeader, takeExact]
  exact fun _ => by decide

@[simp] theorem inverts_readRoutes :
    Inverts readRoutes (fun routes => toBytes 2 routes.length ++ routes.flatMap digestString) fun routes =>
      routes.length ≤ maxRouteCount ∧ ∀ route ∈ routes, (asBytes route).length < 256 ^ 2 := by
  intro input routes rest
  simp [readRoutes, inverts_many inverts_readString]
  exact fun hcount _ _ => Nat.lt_of_le_of_lt hcount (by decide)

@[simp] theorem inverts_readMtu : Inverts readMtu (fun mtu => toBytes 2 (mtu.getD 0).toNat) (· ≠ some 0) := by
  intro input mtu rest
  simp only [readMtu, bind_pure_comp, run_map_eq_ok, inverts_readU16]
  constructor
  · rintro ⟨n, rfl, hlt, rfl⟩
    split
    · simp [*]
    · have hn : (UInt16.ofNat n).toNat = n := UInt16.toNat_ofNat_of_lt' hlt
      simp [← UInt16.toNat_inj, *]
  · rintro ⟨hne, rfl⟩
    cases mtu with
    | none => exact ⟨0, rfl, by decide, rfl⟩
    | some mtu => exact ⟨mtu.toNat, by simpa [← UInt16.toNat_inj] using hne, mtu.toNat_lt, rfl⟩

/-- An envelope that fits is read back. -/
theorem inverts_readEnvelope : Inverts readEnvelope encode Fits := by
  rintro input ⟨server, username, password, routes, mtu, userAgent, digest⟩ rest
  simp [readEnvelope, fits_iff, encode, takeExact]
  tauto

/-- What is accepted is a valid envelope and its own bytes. -/
theorem decode_eq_ok {sha256 : Bytes → Bytes} {payload : Bytes} {v : DarwinEngineConnectV1} :
    decode sha256 payload = .ok v ↔ (v.Fits ∧ payload = v.encode) ∧ v.Accepted sha256 := by
  have hread := inverts_readEnvelope payload v []
  rw [List.append_nil] at hread
  rw [← hread, decode, bind_ok_iff]
  constructor
  · rintro ⟨⟨read, rest⟩, hrest, h⟩
    dsimp only at h
    split at h
    · cases h
    rename_i hnil
    obtain ⟨value, hnew, h⟩ := bind_ok_iff.mp h
    split at h
    · cases h
    rename_i hdigest
    obtain rfl := Except.ok.inj h
    obtain ⟨-, hvalue⟩ := new_eq_ok.mp hnew
    obtain rfl : read = value := by
      rw [hvalue] at hdigest ⊢
      exact congrArg (DarwinEngineConnectV1.mk _ _ _ _ _ _) (not_not.mp hdigest).symm
    obtain rfl : rest = [] := not_not.mp hnil
    exact ⟨hrest, hnew⟩
  · rintro ⟨hv, hnew⟩
    exact ⟨_, hv, (if_neg (not_not.mpr rfl)).trans (bind_ok_iff.mpr ⟨v, hnew, if_neg (not_not.mpr rfl)⟩)⟩

theorem length_asBytes_le (text : Text) : (asBytes text).length ≤ 4 * text.length := by
  induction text with
  | nil => exact le_rfl
  | cons c text ih =>
    rw [asBytes_cons, List.length_append, String.length_utf8EncodeChar, List.length_cons]
    have := c.utf8Size_le_four
    omega

theorem length_of_canonical {route : Text} (h : isCanonicalRoute route = true) :
    (asBytes route).length < 256 ^ 2 := by
  unfold isCanonicalRoute at h
  split at h
  · cases h
  rename_i addressText prefixText hsplit
  split at h
  · cases h
  split at h
  · rename_i n x hprefix haddress
    obtain ⟨rfl, -, hn⟩ := parsePrefix_eq_some.mp hprefix
    rw [splitOnce_eq_some hsplit, parse_eq_some.mp haddress]
    have hoctet : ∀ n < 256, (decimal n).length ≤ 3 := by decide +kernel
    have ha := hoctet _ x.a.toNat_lt
    have hb := hoctet _ x.b.toNat_lt
    have hc := hoctet _ x.c.toNat_lt
    have hd := hoctet _ x.d.toNat_lt
    have hlast := hoctet n (by omega)
    refine Nat.lt_of_le_of_lt (length_asBytes_le _) ?_
    simp [Addr.format, join]
    omega
  · cases h

/-- What passes the checks can be written. -/
theorem fits_of_accepted {sha256 : Bytes → Bytes} (hlen : ∀ bytes, (sha256 bytes).length = digestLen)
    {v : DarwinEngineConnectV1} (h : v.Accepted sha256) : v.Fits := by
  obtain ⟨⟨hserver, husername, hpassword, hroutes, hmtu, hagent⟩, hv⟩ := new_eq_ok.mp h
  have htext : ∀ {maxLen error value}, maxLen < 256 ^ 2 → validateText maxLen error value = .ok () →
      (asBytes value).length < 256 ^ 2 := by
    intro maxLen error value hmax hvalue
    simp [validateText] at hvalue
    omega
  simp [validateServer] at hserver
  simp [validateRoutes] at hroutes
  split at hroutes
  · cases hroutes
  rename_i hcanonical
  simp at hcanonical
  refine ⟨Nat.lt_of_le_of_lt hserver.1.1.1.2 (by decide), htext (by decide) husername, htext (by decide) hpassword, hcanonical.1,
    fun route hmem => length_of_canonical (hcanonical.2 route hmem), ?_, htext (by decide) hagent, ?_⟩
  · intro hzero
    rw [hzero] at hmtu
    cases hmtu
  · rw [hv]
    exact hlen _

/-- Profiles that can be written and feed the digest the same bytes agree. -/
theorem digestProfile_injective {v w : DarwinEngineConnectV1} (hv : v.Fits) (hw : w.Fits)
    (hsame : digestProfile id v.server v.username v.campusRoutes v.mtuOverride v.userAgent =
      digestProfile id w.server w.username w.campusRoutes w.mtuOverride w.userAgent) :
    v.server = w.server ∧ v.username = w.username ∧ v.campusRoutes = w.campusRoutes ∧ v.mtuOverride = w.mtuOverride ∧
      v.userAgent = w.userAgent := by
  simp only [digestProfile, id, List.append_assoc, List.append_cancel_left_eq] at hsame
  obtain ⟨hserver, hsame⟩ := inverts_readString.injective hv.server hw.server hsame
  obtain ⟨husername, hsame⟩ := inverts_readString.injective hv.username hw.username hsame
  simp only [← List.append_assoc (toBytes 2 (List.length _))] at hsame
  obtain ⟨hroutes, hsame⟩ := inverts_readRoutes.injective ⟨hv.count, hv.routes⟩ ⟨hw.count, hw.routes⟩ hsame
  obtain ⟨hmtu, hsame⟩ := inverts_readMtu.injective hv.mtu hw.mtu hsame
  rw [← List.append_nil (digestString _), ← List.append_nil (digestString w.userAgent)] at hsame
  exact ⟨hserver, husername, hroutes, hmtu, (inverts_readString.injective hv.userAgent hw.userAgent hsame).1⟩

/-- The connect envelope is a canonical encoding. -/
theorem envelope_canonical (sha256 : Bytes → Bytes) (hlen : ∀ bytes, (sha256 bytes).length = digestLen) :
    (∀ server username password routes mtu userAgent v,
      new sha256 server username password routes mtu userAgent = .ok v → decode sha256 v.encode = .ok v) ∧
    (∀ payload v, decode sha256 payload = .ok v → payload = v.encode) ∧
    ∀ v w : DarwinEngineConnectV1, v.Accepted sha256 → w.Accepted sha256 →
      digestProfile id v.server v.username v.campusRoutes v.mtuOverride v.userAgent =
        digestProfile id w.server w.username w.campusRoutes w.mtuOverride w.userAgent →
      v.server = w.server ∧ v.username = w.username ∧ v.campusRoutes = w.campusRoutes ∧ v.mtuOverride = w.mtuOverride ∧
        v.userAgent = w.userAgent := by
  refine ⟨?_, ?_, ?_⟩
  · intro server username password routes mtu userAgent v hnew
    have haccepted : v.Accepted sha256 := by
      obtain ⟨-, rfl⟩ := new_eq_ok.mp hnew
      exact hnew
    exact decode_eq_ok.mpr ⟨⟨fits_of_accepted hlen haccepted, rfl⟩, haccepted⟩
  · intro payload v hdecode
    exact (decode_eq_ok.mp hdecode).1.2
  · intro v w hv hw
    exact digestProfile_injective (fits_of_accepted hlen hv) (fits_of_accepted hlen hw)

/-- An envelope with a campus network. -/
theorem envelope_canonical_campus :
    decode (fun _ => .replicate digestLen 0)
        (encode ⟨"a.cn".toList, "u".toList, "p".toList, ["10.0.0.0/8".toList], none, "x".toList, .replicate digestLen 0⟩) =
      .ok ⟨"a.cn".toList, "u".toList, "p".toList, ["10.0.0.0/8".toList], none, "x".toList, .replicate digestLen 0⟩ :=
  (envelope_canonical _ fun _ => List.length_replicate).1 "a.cn".toList "u".toList "p".toList ["10.0.0.0/8".toList] none
    "x".toList _ (by decide +kernel)

end ExvVpn.DarwinIpc
