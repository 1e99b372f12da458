import ExvVpn.Config.PrettyJson
import ExvVpn.DarwinConfig.Credential
import ExvVpn.DarwinEngine.WantedRoutes
import ExvVpn.Lemmas.DarwinUpdate

/-!
# The destinations of a tunnel

A route text passes the parser of the offer or that of the settings, the normal form of the envelope and the parser of the
engine. What the engine asks for are DNS servers and networks of accepted routes; a configured route gets there exactly when its
numbers are in their shortest decimal form and its network is not at `0.0.0.0`.
-/

namespace ExvVpn.DarwinEngine

open RustStr Ipv4 Cstp DarwinConfig List Option DarwinStoredConfig Addr

/-- The address of four octets. -/
def ofOctets : List Nat → Addr
  | [a, b, c, d] => ⟨UInt8.ofNat a, UInt8.ofNat b, UInt8.ofNat c, UInt8.ofNat d⟩
  | _ => unspecified

/-- The address and the prefix length that the settings accept a text as; an address alone stands for itself. -/
def readConfigured (value : Text) : Option (Addr × Nat) :=
  match parseWindowsIpv4 value with
  | some octets => some (ofOctets octets, 32)
  | none =>
    match splitOnce '/' value with
    | none => none
    | some (address, prefixText) =>
      match parseWindowsIpv4 address, parseUnsigned (2 ^ 32 - 1) prefixText with
      | some octets, some prefixLen => if prefixLen ≤ 32 then some (ofOctets octets, prefixLen) else none
      | _, _ => none

variable (offer : TunnelOffer)

/-- A destination is one of the offered DNS servers. -/
def IsDns (d : Addr × Nat) : Prop := ∃ server ∈ offer.dnsServers, d = (server, 32)

/-- A destination is the network of an offered route with a prefix length of at least 1. -/
def IsOffered (d : Addr × Nat) : Prop :=
  ∃ token ∈ offer.routes, ∃ address, splitIncludeItem token = some (address, d.2) ∧ 1 ≤ d.2 ∧ d.1 = address.masked d.2

/-- A destination is the network of a configured route with a prefix length of at least 1. -/
def IsConfigured (routes : List Text) (d : Addr × Nat) : Prop :=
  ∃ value ∈ routes, ∃ address, readConfigured value = some (address, d.2) ∧ 1 ≤ d.2 ∧ d.1 = address.masked d.2

/-- The destinations are exactly the union of what was offered and what was configured. -/
def IsUnion (routes : List Text) (wanted : List (Addr × Nat)) : Prop :=
  ∀ d, d ∈ wanted ↔ IsDns offer d ∨ IsOffered offer d ∨ IsConfigured routes d

/-- What becomes of the routes of a tunnel. -/
structure RouteFidelity (routes : List Text) (wanted : List (Addr × Nat)) : Prop where
  sound : ∀ d ∈ wanted, IsDns offer d ∨ d.1 ≠ unspecified ∧ (IsOffered offer d ∨
    ∃ value ∈ routes, ∃ address, Plain value address d.2 ∧ d.1 = address.masked d.2)
  dns : ∀ server ∈ offer.dnsServers, (server, 32) ∈ wanted
  offered : ∀ token ∈ offer.routes, ∃ address prefixLen, splitIncludeItem token = some (address, prefixLen) ∧
    (token = address.format ++ '/' :: decimal prefixLen → 1 ≤ prefixLen → address.masked prefixLen = address →
      address ≠ unspecified → (address, prefixLen) ∈ wanted)
  configured : ∀ value ∈ routes, ∃ address prefixLen, readConfigured value = some (address, prefixLen) ∧
    (Plain value address prefixLen → address.masked prefixLen ≠ unspecified →
      (address.masked prefixLen, prefixLen) ∈ wanted)

namespace TunnelRoutesAux

/-- The settings accept exactly the texts they read as an address and a prefix length. -/
theorem isSome_readConfigured (value : Text) : (readConfigured value).isSome = isWindowsCompatibleRoute value := by
  unfold readConfigured isWindowsCompatibleRoute
  rcases parseWindowsIpv4 value with _ | octets
  · rcases splitOnce '/' value with _ | ⟨address, prefixText⟩
    · rfl
    · dsimp only
      rcases parseWindowsIpv4 address with _ | octets
      · rfl
      rcases parseUnsigned (2 ^ 32 - 1) prefixText with _ | prefixLen
      · rfl
      · by_cases hle : prefixLen ≤ 32
        · simp [hle]
        · simp [hle]
  · rfl

/-- A route the engine takes is one the offer parser accepts as the same network. -/
theorem splitIncludeItem_of_parseCidr {text : Text} {address : Addr} {prefixLen : Nat}
    (h : parseCidr text = some (address, prefixLen)) : splitIncludeItem text = some (address, prefixLen) := by
  obtain ⟨rfl, hn, -, -⟩ := parseCidr_eq_some.mp h
  rw [splitIncludeItem, splitOnce_append (slash_notMem_format address)]
  simp [parse_format, parseUnsigned_decimal (show prefixLen ≤ 255 by omega), if_pos hn.2]

/-- The normal form of a network is taken for it, unless it is at `0.0.0.0`. -/
theorem parseCidr_formatRoute {address : Addr} {prefixLen : Nat} (hn : 1 ≤ prefixLen ∧ prefixLen ≤ 32) :
    parseCidr (formatRoute (network address.toNat prefixLen, prefixLen)) =
      if address.masked prefixLen = unspecified then none else some (address.masked prefixLen, prefixLen) := by
  change parseCidr ((address.masked prefixLen).format ++ '/' :: decimal prefixLen) = _
  have hnetwork : network (address.masked prefixLen).toNat prefixLen = (address.masked prefixLen).toNat := by
    rw [toNat_masked, network_network]
  by_cases hzero : address.masked prefixLen = unspecified
  · rw [if_pos hzero]
    rcases htext : parseCidr ((address.masked prefixLen).format ++ '/' :: decimal prefixLen) with _ | ⟨x, n⟩
    · rfl
    obtain ⟨htext, -, hx, -⟩ := parseCidr_eq_some.mp htext
    have hsplit := splitOnce_append (slash_notMem_format (address.masked prefixLen)) (decimal prefixLen)
    rw [htext, splitOnce_append (slash_notMem_format x)] at hsplit
    have hformat : x.format = (address.masked prefixLen).format := congrArg Prod.fst (some.inj hsplit)
    exact absurd ((format_injective hformat).trans hzero) hx
  · rw [if_neg hzero]
    exact parseCidr_eq_some.mpr ⟨rfl, hn, hzero, hnetwork⟩

/-- What the engine takes of the envelope's routes: the networks of the plain configured routes that are not at `0.0.0.0`. -/
theorem mem_campus {routes : List Text} {d : Addr × Nat} :
    (∃ text ∈ normalizedConnectRoutes routes, parseCidr text = some d) ↔
      ∃ value ∈ routes, ∃ address, Plain value address d.2 ∧ d.1 = address.masked d.2 ∧ d.1 ≠ unspecified := by
  constructor
  · rintro ⟨text, htext, hcidr⟩
    obtain ⟨route, ⟨value, hvalue, hnormal⟩, rfl⟩ := mem_normalizedConnectRoutes.mp htext
    obtain ⟨address, hplain, hnetwork⟩ := splitNormalizedRoute_eq_some.mp hnormal
    obtain ⟨n, prefixLen⟩ := route
    dsimp only at hplain hnetwork
    subst hnetwork
    rw [parseCidr_formatRoute (plain_prefixLen hplain)] at hcidr
    split_ifs at hcidr with hzero
    cases hcidr
    exact ⟨value, hvalue, address, hplain, rfl, hzero⟩
  · rintro ⟨value, hvalue, address, hplain, hmasked, hzero⟩
    obtain ⟨x, prefixLen⟩ := d
    dsimp only at hplain hmasked hzero
    subst hmasked
    refine ⟨formatRoute (network address.toNat prefixLen, prefixLen), ?_, ?_⟩
    · exact mem_normalizedConnectRoutes.mpr
        ⟨_, ⟨value, hvalue, splitNormalizedRoute_eq_some.mpr ⟨address, hplain, rfl⟩⟩, rfl⟩
    · rw [parseCidr_formatRoute (plain_prefixLen hplain), if_neg hzero]

/-- What the engine makes of the routes. -/
theorem routeFidelity {offer : TunnelOffer} {routes : List Text}
    (hoffered : ∀ token ∈ offer.routes, (splitIncludeItem token).isSome)
    (hconfigured : ∀ value ∈ routes, isWindowsCompatibleRoute value = true) :
    RouteFidelity offer routes (wantedRoutes offer (normalizedConnectRoutes routes)) where
  sound := by
    intro d hd
    rcases mem_wantedRoutes.mp hd with ⟨token, htoken, hcidr⟩ | hcampus | ⟨server, hserver, rfl⟩
    · obtain ⟨address, prefixLen⟩ := d
      obtain ⟨-, hn, hzero, hnetwork⟩ := parseCidr_eq_some.mp hcidr
      exact .inr ⟨hzero, .inl ⟨token, htoken, address, splitIncludeItem_of_parseCidr hcidr, hn.1,
        by rw [Addr.masked, hnetwork, ofNat_toNat]⟩⟩
    · obtain ⟨value, hvalue, address, hplain, hmasked, hzero⟩ := mem_campus.mp hcampus
      exact .inr ⟨hzero, .inr ⟨value, hvalue, address, hplain, hmasked⟩⟩
    · exact .inl ⟨server, hserver, rfl⟩
  dns := by
    intro server hserver
    exact mem_wantedRoutes.mpr (.inr (.inr ⟨server, hserver, rfl⟩))
  offered := by
    intro token htoken
    obtain ⟨⟨address, prefixLen⟩, haccepted⟩ := isSome_iff_exists.mp (hoffered token htoken)
    refine ⟨address, prefixLen, haccepted, fun htext hpos hmasked hzero => ?_⟩
    have hle : prefixLen ≤ 32 := by
      unfold splitIncludeItem at haccepted
      split at haccepted
      · cases haccepted
      split at haccepted
      · split_ifs at haccepted with hle
        cases haccepted
        exact hle
      · cases haccepted
    have hnetwork : network address.toNat prefixLen = address.toNat := by rw [← toNat_masked, hmasked]
    exact mem_wantedRoutes.mpr (.inl ⟨token, htoken, parseCidr_eq_some.mpr ⟨htext, ⟨hpos, hle⟩, hzero, hnetwork⟩⟩)
  configured := by
    intro value hvalue
    have haccepted := hconfigured value hvalue
    rw [← isSome_readConfigured] at haccepted
    obtain ⟨⟨address, prefixLen⟩, hread⟩ := isSome_iff_exists.mp haccepted
    refine ⟨address, prefixLen, hread, fun hplain hzero => ?_⟩
    exact mem_wantedRoutes.mpr (.inr (.inl (mem_campus.mpr ⟨value, hvalue, address, hplain, rfl, hzero⟩)))

end TunnelRoutesAux

open TunnelRoutesAux Config

/-- For every accepted offer and every accepted routes value, the destinations are DNS servers and networks of accepted routes;
every DNS server is one, so is every offered route in the engine's own form and every configured route that is plain, and no
other configured route is. -/
theorem tunnel_destinations {head : Text} {offer : TunnelOffer} (hoffer : parseOffer head = some offer) {sealing : Sealing}
    {json : SerdeJson} {pid : UInt32} {random : Key} {nonce : Option Nonce} {inner c : DarwinStoredConfig}
    {items : List (Text × Text)} {d : Disk} {script : List Syscall.Outcome}
    (hsaved : (applyAndSave sealing json pid random nonce inner items d script).1 = .ok c) {value : Text}
    (hvalue : ("routes".toList, value) ∈ items) :
    parseRoutes value = .ok c.routes ∧
      RouteFidelity offer c.routes (wantedRoutes offer (normalizedConnectRoutes c.routes)) := by
  obtain ⟨update, hvalidate, hc⟩ := applyAndSave_eq_ok hsaved
  obtain ⟨routes, hparse, hupdate⟩ := validate_routes hvalidate hvalue
  have hroutes : c.routes = routes := by
    rw [hc, ConfigUpdate.applyFields, hupdate]
    rcases update.username with _ | username <;> rfl
  rw [hroutes]
  refine ⟨hparse, routeFidelity (parseOffer_routes hoffer) ?_⟩
  unfold parseRoutes at hparse
  split_ifs at hparse with hall
  cases hparse
  exact all_eq_true.mp hall

namespace TunnelRoutesAux

/-- The settings of a new user with these routes. -/
def withRoutes (value : String) : Except DarwinConfigError DarwinStoredConfig :=
  (applyAndSave carriedKey prettyJson 7 sampleKey none .default [("routes".toList, value.toList)] Disk.empty []).1

/-- An offer without routes and without DNS servers. -/
def bareOffer : Text :=
  "HTTP/1.1 200 OK\r\nX-CSTP-MTU: 1406\r\nX-CSTP-Address: 10.88.88.1\r\nX-CSTP-Netmask: 255.255.255.0\r\n\r\n".toList

/-- The settings of a new user with a network and an address. -/
def campusConfig : DarwinStoredConfig :=
  { default with routes := ["59.78.199.0/21".toList, "219.228.60.69".toList] }

theorem withRoutes_campus : withRoutes "59.78.199.0/21, 219.228.60.69" = .ok campusConfig := by decide +kernel

end TunnelRoutesAux

/-- The gateway's routes, a configured network with its host bits cleared, a configured address and the DNS server. -/
theorem tunnel_destinations_campus :
    parseOffer sampleOffer = some ⟨⟨10, 88, 88, 1⟩, 24, 1406, [⟨10, 88, 88, 2⟩], ["10.0.0.0/8".toList, "192.168.0.0/16".toList]⟩ ∧
      RouteFidelity ⟨⟨10, 88, 88, 1⟩, 24, 1406, [⟨10, 88, 88, 2⟩], ["10.0.0.0/8".toList, "192.168.0.0/16".toList]⟩
        campusConfig.routes
        [(⟨10, 0, 0, 0⟩, 8), (⟨192, 168, 0, 0⟩, 16), (⟨59, 78, 192, 0⟩, 21), (⟨219, 228, 60, 69⟩, 32), (⟨10, 88, 88, 2⟩, 32)] := by
  have hoffer : parseOffer sampleOffer =
      some ⟨⟨10, 88, 88, 1⟩, 24, 1406, [⟨10, 88, 88, 2⟩], ["10.0.0.0/8".toList, "192.168.0.0/16".toList]⟩ := by
    decide +kernel
  have h := (tunnel_destinations hoffer withRoutes_campus mem_cons_self).2
  exact ⟨hoffer, h⟩

/-- A configured route with a leading zero is accepted and saved, and is not among the destinations. -/
theorem leading_zero_skipped :
    parseOffer bareOffer = some ⟨⟨10, 88, 88, 1⟩, 24, 1406, [], []⟩ ∧
      withRoutes "010.0.0.0/8" = .ok { default with routes := ["010.0.0.0/8".toList] } ∧
      ¬IsUnion ⟨⟨10, 88, 88, 1⟩, 24, 1406, [], []⟩ ["010.0.0.0/8".toList]
        (wantedRoutes ⟨⟨10, 88, 88, 1⟩, 24, 1406, [], []⟩ (normalizedConnectRoutes ["010.0.0.0/8".toList])) := by
  refine ⟨by decide +kernel, by decide +kernel, fun h => ?_⟩
  have hconfigured : IsConfigured ["010.0.0.0/8".toList] (⟨10, 0, 0, 0⟩, 8) :=
    ⟨_, mem_singleton_self _, ⟨10, 0, 0, 0⟩, by decide +kernel, by decide, by decide +kernel⟩
  have hmem := (h (⟨10, 0, 0, 0⟩, 8)).mpr (.inr (.inr hconfigured))
  exact absurd hmem not_mem_nil

end ExvVpn.DarwinEngine
