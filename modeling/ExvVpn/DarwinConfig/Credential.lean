import ExvVpn.DarwinConfig.Config
import ExvVpn.DarwinIpc.ConnectEnvelope

/-!
# From the settings to the envelope

`build_connect_envelope` of `exv-vpn-darwin-core`, with the normal form it brings the configured routes to.
-/

namespace ExvVpn.DarwinConfig

open RustStr Ipv4 List Option DarwinIpc

/-- `split_normalized_route`: the network with its host bits cleared, and the prefix length. -/
def splitNormalizedRoute (value : Text) : Option (Nat × Nat) :=
  let parts : Option (Text × Nat) :=
    match splitOnce '/' value with
    | some (addressText, prefixText) =>
      if prefixText.contains '/' || !prefixText.all Char.isDigit then none
      else (parsePrefix prefixText).map fun prefixLen => (addressText, prefixLen)
    | none => some (value, 32)
  match parts with
  | none => none
  | some (addressText, prefixLen) =>
    match Addr.parse addressText with
    | some address => if address.format = addressText then some (network address.toNat prefixLen, prefixLen) else none
    | none => none

/-- A network in the form the envelope takes. -/
def formatRoute (route : Nat × Nat) : Text := (Addr.ofNat route.1).format ++ '/' :: decimal route.2

/-- The loop of `normalized_connect_routes`, with the networks it has seen. -/
def normalizeRoutes (seen : List (Nat × Nat)) : List Text → List Text
  | [] => []
  | route :: rest =>
    match splitNormalizedRoute route with
    | none => normalizeRoutes seen rest
    | some network =>
      if network ∈ seen then normalizeRoutes seen rest else formatRoute network :: normalizeRoutes (network :: seen) rest

def normalizedConnectRoutes (routes : List Text) : List Text := normalizeRoutes [] routes

/-- `u16::try_from(mtu).ok()`. -/
def mtuOverride (mtu : UInt32) : Option UInt16 := if mtu.toNat < 2 ^ 16 then some (UInt16.ofNat mtu.toNat) else none

def buildConnectEnvelope (sha256 : Bytes → Bytes) (config : DarwinStoredConfig) (password : Text) :
    Except DarwinIpc.ConnectEnvelopeError DarwinIpc.DarwinEngineConnectV1 :=
  DarwinIpc.DarwinEngineConnectV1.new sha256 config.server config.username password (normalizedConnectRoutes config.routes)
    (mtuOverride config.mtu) config.userAgent

/-! ## What is normalized -/

/-- A text that is an address, or an address and a prefix length, each in its shortest decimal form. -/
def Plain (value : Text) (address : Addr) (prefixLen : Nat) : Prop :=
  (value = address.format ++ '/' :: decimal prefixLen ∧ 1 ≤ prefixLen ∧ prefixLen ≤ 32) ∨
    (value = address.format ∧ prefixLen = 32)

/-- The digits of a prefix length pass the check of what is behind the slash. -/
theorem decimal_digits (n : Nat) : ¬(((decimal n).contains '/' || !(decimal n).all Char.isDigit) = true) := by
  have hall : (decimal n).all Char.isDigit = true := all_eq_true.mpr fun _ hc => isDigit_of_mem_decimal hc
  have hslash : '/' ∉ decimal n := notMem_decimal rfl
  simp [hall, hslash]

/-- Exactly the plain texts are normalized, to the network they denote. -/
theorem splitNormalizedRoute_eq_some {value : Text} {route : Nat × Nat} :
    splitNormalizedRoute value = some route ↔
      ∃ address, Plain value address route.2 ∧ network address.toNat route.2 = route.1 := by
  constructor
  · intro h
    unfold splitNormalizedRoute at h
    rcases hsplit : splitOnce '/' value with _ | ⟨addressText, prefixText⟩
    · rw [hsplit] at h
      dsimp only at h
      split at h
      · rename_i address haddress
        obtain rfl := parse_eq_some.mp haddress
        rw [if_pos rfl] at h
        cases h
        exact ⟨address, .inr ⟨rfl, rfl⟩, rfl⟩
      · cases h
    · rw [hsplit] at h
      dsimp only at h
      split_ifs at h with hdigits
      rcases hparsed : parsePrefix prefixText with _ | prefixLen
      · rw [hparsed] at h
        cases h
      rw [hparsed] at h
      dsimp only [map_some] at h
      obtain ⟨rfl, hn⟩ := parsePrefix_eq_some.mp hparsed
      split at h
      · rename_i address haddress
        obtain rfl := parse_eq_some.mp haddress
        rw [if_pos rfl] at h
        cases h
        exact ⟨address, .inl ⟨splitOnce_eq_some hsplit, hn⟩, rfl⟩
      · cases h
  · rintro ⟨address, hplain, hnetwork⟩
    obtain ⟨n, prefixLen⟩ := route
    dsimp only at hplain hnetwork
    subst hnetwork
    rcases hplain with ⟨rfl, hn⟩ | ⟨rfl, rfl⟩
    · unfold splitNormalizedRoute
      rw [splitOnce_append (slash_notMem_format address)]
      dsimp only
      rw [if_neg (decimal_digits prefixLen), parsePrefix_eq_some.mpr ⟨rfl, hn⟩]
      dsimp only [map_some]
      rw [parse_format]
      exact if_pos rfl
    · unfold splitNormalizedRoute
      rw [splitOnce_eq_none.mpr (slash_notMem_format address)]
      dsimp only
      rw [parse_format]
      exact if_pos rfl

variable {routes : List Text} {text : Text}

/-- The loop leaves the networks that it has not seen. -/
theorem mem_normalizeRoutes {seen : List (Nat × Nat)} :
    text ∈ normalizeRoutes seen routes ↔
      ∃ network ∉ seen, (∃ route ∈ routes, splitNormalizedRoute route = some network) ∧ formatRoute network = text := by
  induction routes generalizing seen with
  | nil => simp [normalizeRoutes]
  | cons route rest ih =>
    rw [normalizeRoutes]
    rcases hroute : splitNormalizedRoute route with _ | network
    · simp [ih, hroute]
    by_cases hseen : network ∈ seen
    · simp only [hseen, if_true, ih]
      constructor
      · rintro ⟨other, hother, ⟨r, hr, hsplit⟩, hformat⟩
        exact ⟨other, hother, ⟨r, mem_cons_of_mem _ hr, hsplit⟩, hformat⟩
      · rintro ⟨other, hother, ⟨r, hr, hsplit⟩, hformat⟩
        rcases mem_cons.mp hr with rfl | hr
        · rw [hroute] at hsplit
          cases hsplit
          exact absurd hseen hother
        · exact ⟨other, hother, ⟨r, hr, hsplit⟩, hformat⟩
    · simp only [hseen, if_false, mem_cons, ih]
      constructor
      · rintro (rfl | ⟨other, hother, ⟨r, hr, hsplit⟩, hformat⟩)
        · exact ⟨network, hseen, ⟨route, .inl rfl, hroute⟩, rfl⟩
        · exact ⟨other, fun h => hother (.inr h), ⟨r, .inr hr, hsplit⟩, hformat⟩
      · rintro ⟨other, hother, ⟨r, hr, hsplit⟩, hformat⟩
        by_cases hsame : other = network
        · subst hsame
          exact .inl hformat.symm
        refine .inr ⟨other, fun h => h.elim hsame hother, ⟨r, ?_, hsplit⟩, hformat⟩
        rcases hr with rfl | hr
        · exact absurd (some.inj (hsplit.symm.trans hroute)) hsame
        · exact hr

theorem mem_normalizedConnectRoutes :
    text ∈ normalizedConnectRoutes routes ↔
      ∃ network, (∃ route ∈ routes, splitNormalizedRoute route = some network) ∧ formatRoute network = text := by
  rw [normalizedConnectRoutes, mem_normalizeRoutes]
  simp

/-- The normal form of a network says which network it is of. -/
theorem formatRoute_injective {x y : Addr} {m n : Nat} (hm : 1 ≤ m ∧ m ≤ 32) (hn : 1 ≤ n ∧ n ≤ 32)
    (h : formatRoute (network x.toNat m, m) = formatRoute (network y.toNat n, n)) :
    (network x.toNat m, m) = (network y.toNat n, n) := by
  have hx := splitOnce_append (slash_notMem_format (x.masked m)) (decimal m)
  have hy := splitOnce_append (slash_notMem_format (y.masked n)) (decimal n)
  change (x.masked m).format ++ '/' :: decimal m = (y.masked n).format ++ '/' :: decimal n at h
  rw [h, hy] at hx
  obtain ⟨hformat, hdecimal⟩ := Prod.mk.inj (some.inj hx)
  have hparsed := parsePrefix_eq_some.mpr ⟨rfl, hn⟩
  rw [hdecimal, parsePrefix_eq_some.mpr ⟨rfl, hm⟩] at hparsed
  cases hparsed
  have hmasked := congrArg Addr.toNat (format_injective hformat)
  rw [toNat_masked, toNat_masked] at hmasked
  rw [hmasked]

theorem plain_prefixLen {value : Text} {address : Addr} {prefixLen : Nat} (h : Plain value address prefixLen) :
    1 ≤ prefixLen ∧ prefixLen ≤ 32 := by
  rcases h with ⟨-, hn⟩ | ⟨-, rfl⟩
  · exact hn
  · decide

/-- Every text the loop leaves is canonical. -/
theorem isCanonicalRoute_of_mem (h : text ∈ normalizedConnectRoutes routes) :
    isCanonicalRoute text = true := by
  obtain ⟨⟨n, prefixLen⟩, ⟨value, -, hnormal⟩, rfl⟩ := mem_normalizedConnectRoutes.mp h
  obtain ⟨address, hplain, hnetwork⟩ := splitNormalizedRoute_eq_some.mp hnormal
  dsimp only at hplain hnetwork
  subst hnetwork
  have hn := plain_prefixLen hplain
  change isCanonicalRoute ((address.masked prefixLen).format ++ '/' :: decimal prefixLen) = true
  rw [isCanonicalRoute, splitOnce_append (slash_notMem_format _)]
  dsimp only
  rw [if_neg (decimal_digits prefixLen), parsePrefix_eq_some.mpr ⟨rfl, hn⟩, parse_format]
  simp [toNat_masked, network_network]

/-- No text is left twice. -/
theorem nodup_normalizeRoutes (seen : List (Nat × Nat)) (routes : List Text) : (normalizeRoutes seen routes).Nodup := by
  induction routes generalizing seen with
  | nil => exact nodup_nil
  | cons route rest ih =>
    rw [normalizeRoutes]
    rcases hroute : splitNormalizedRoute route with _ | network
    · exact ih seen
    dsimp only
    split_ifs with hseen
    · exact ih seen
    refine nodup_cons.mpr ⟨fun hmem => ?_, ih _⟩
    obtain ⟨other, hother, ⟨value, -, hnormal⟩, hformat⟩ := mem_normalizeRoutes.mp hmem
    obtain ⟨n, prefixLen⟩ := network
    obtain ⟨m, otherLen⟩ := other
    obtain ⟨x, hx, hnx⟩ := splitNormalizedRoute_eq_some.mp hnormal
    obtain ⟨y, hy, hny⟩ := splitNormalizedRoute_eq_some.mp hroute
    dsimp only at hx hnx hy hny
    subst hnx hny
    rw [formatRoute_injective (plain_prefixLen hx) (plain_prefixLen hy) hformat] at hother
    exact hother mem_cons_self

/-- The routes of the settings pass the check of the envelope unless there are too many. -/
theorem validateRoutes_normalized (routes : List Text) :
    validateRoutes (normalizedConnectRoutes routes) = .ok () ↔ (normalizedConnectRoutes routes).length ≤ maxRouteCount := by
  have hall : (normalizedConnectRoutes routes).all isCanonicalRoute = true :=
    all_eq_true.mpr fun _ => isCanonicalRoute_of_mem
  have hnodup : (normalizedConnectRoutes routes).Nodup := nodup_normalizeRoutes [] routes
  rw [validateRoutes, hall, if_neg (not_not.mpr hnodup)]
  simp

end ExvVpn.DarwinConfig
