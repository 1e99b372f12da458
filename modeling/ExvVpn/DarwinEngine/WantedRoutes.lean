import ExvVpn.Cstp.Offer

/-!
# The routes of a tunnel

The destinations that `bootstrap_runtime.rs` of `exv-vpn-darwin-engine` asks the system to route into the tunnel: what the
gateway offered, what the envelope carries, and the offered DNS servers.
-/

namespace ExvVpn.DarwinEngine

open RustStr Ipv4 List

def parseCidr (text : Text) : Option (Addr × Nat) :=
  match splitOnce '/' text with
  | none => none
  | some (addressText, prefixText) =>
    match parsePrefix prefixText, Addr.parse addressText with
    | some prefixLen, some address =>
      if address.format ≠ addressText ∨ address = Addr.unspecified then none
      else if network address.toNat prefixLen = address.toNat then some (address, prefixLen) else none
    | _, _ => none

/-- A destination behind the wanted ones, if it is not one of them. -/
def pushNew (wanted : List (Addr × Nat)) (destination : Addr × Nat) : List (Addr × Nat) :=
  if destination ∈ wanted then wanted else wanted ++ [destination]

/-- The wanted routes of a connection. -/
def wantedRoutes (offer : Cstp.TunnelOffer) (campusRoutes : List Text) : List (Addr × Nat) :=
  let fromTexts := ((offer.routes ++ campusRoutes).filterMap parseCidr).foldl pushNew []
  (offer.dnsServers.map fun server => (server, 32)).foldl pushNew fromTexts

/-- `network_base`: the address that the probes of a connection go to. -/
def networkBase (addr : Addr) (prefixLen : Nat) : Addr :=
  let mask := if prefixLen = 0 then 0 else if prefixLen ≤ 31 then (2 ^ 32 - 1) <<< (32 - prefixLen) % 2 ^ 32 else 2 ^ 32 - 1
  .ofNat (addr.toNat &&& mask)

/-- A text is taken for a route exactly when it is the shortest text of a network, and the network is not at `0.0.0.0`. -/
theorem parseCidr_eq_some {text : Text} {address : Addr} {prefixLen : Nat} :
    parseCidr text = some (address, prefixLen) ↔ text = address.format ++ '/' :: decimal prefixLen ∧
      (1 ≤ prefixLen ∧ prefixLen ≤ 32) ∧ address ≠ Addr.unspecified ∧ network address.toNat prefixLen = address.toNat := by
  constructor
  · intro h
    unfold parseCidr at h
    split at h
    · cases h
    rename_i addressText prefixText hsplit
    split at h
    · rename_i n x hparsed haddress
      obtain ⟨rfl, hn⟩ := parsePrefix_eq_some.mp hparsed
      have hformat := parse_eq_some.mp haddress
      subst hformat
      split_ifs at h with hguard hnetwork
      cases h
      exact ⟨splitOnce_eq_some hsplit, hn, fun hx => hguard (.inr hx), hnetwork⟩
    · cases h
  · rintro ⟨rfl, hn, haddress, hnetwork⟩
    rw [parseCidr, splitOnce_append (slash_notMem_format address)]
    simp only [parsePrefix_eq_some.mpr ⟨rfl, hn⟩, parse_format]
    rw [if_neg (not_or.mpr ⟨fun h => h rfl, haddress⟩), if_pos hnetwork]

theorem mem_foldl_pushNew {destinations wanted : List (Addr × Nat)} {d : Addr × Nat} :
    d ∈ destinations.foldl pushNew wanted ↔ d ∈ wanted ∨ d ∈ destinations := by
  induction destinations generalizing wanted with
  | nil => simp
  | cons x rest ih =>
    rw [foldl_cons, ih, mem_cons]
    have hpush : d ∈ pushNew wanted x ↔ d ∈ wanted ∨ d = x := by
      unfold pushNew
      split_ifs with hx
      · refine ⟨.inl, fun h => ?_⟩
        rcases h with h | rfl
        · exact h
        · exact hx
      · rw [mem_append, mem_singleton]
    rw [hpush, or_assoc]

/-- The destinations of the texts that are taken for routes, and those of the DNS servers. -/
theorem mem_wantedRoutes {offer : Cstp.TunnelOffer} {campusRoutes : List Text} {d : Addr × Nat} :
    d ∈ wantedRoutes offer campusRoutes ↔
      (∃ text ∈ offer.routes, parseCidr text = some d) ∨ (∃ text ∈ campusRoutes, parseCidr text = some d) ∨
        ∃ server ∈ offer.dnsServers, (server, 32) = d := by
  rw [wantedRoutes, mem_foldl_pushNew, mem_foldl_pushNew, mem_filterMap, mem_map]
  simp [not_mem_nil, false_or, mem_append, or_and_right, exists_or, or_assoc]

end ExvVpn.DarwinEngine
