import ExvVpn.Tools.Ipv4
import ExvVpn.Wire.Key

/-!
# Tunnel plans on the wire

The plan of an ApplyTunnel request and its conversion in `convert.rs` of `exv-vpn-wire`. The range checks of the
conversion are fields of the converted plan.
-/

namespace ExvVpn.Wire

open Domain List
open Ipv4 (Addr)

/-- `generated::TunnelPlan`. -/
structure WirePlan where
  ipv4Address : Bytes
  ipv4PrefixLen : Nat
  mtu : Nat
  ipv4Routes : List (Bytes × Nat)
  dnsServers : List Bytes
  controlBypass : List Bytes
  opaqueIntent : Option Bytes
  deriving DecidableEq, Repr

structure Ipv4Route where
  network : Addr
  prefixLen : Nat
  le_32 : prefixLen ≤ 32
  deriving DecidableEq

/-- `TunnelPlan` of the domain. -/
structure TunnelPlan where
  ipv4Address : Addr
  ipv4PrefixLen : Nat
  len_le : ipv4PrefixLen ≤ 32
  mtu : Nat
  le_mtu : 576 ≤ mtu
  ipv4Routes : List Ipv4Route
  dnsServers : List Addr
  controlBypass : List Addr
  opaqueIntent : {d : Digest // d.1 ≠ replicate 32 0}
  deriving DecidableEq

def ipv4FromWireBytes : Bytes → Except String Addr
  | [a, b, c, d] => .ok ⟨a, b, c, d⟩
  | _ => .error "wire: expected 4-byte IPv4 address"

def ipv4RouteFromWire (route : Bytes × Nat) : Except String Ipv4Route := do
  let network ← ipv4FromWireBytes route.1
  if UInt8.size ≤ route.2 then .error "route: prefix out of range"
  else if h : route.2 ≤ 32 then return { network, prefixLen := route.2, le_32 := h }
  else .error "route: prefix over 32"

def tunnelIntentFromWire (bytes : Bytes) : Except String {d : Digest // d.1 ≠ replicate 32 0} :=
  match Digest.tryFrom bytes with
  | none => .error "wire: expected 32-byte digest"
  | some digest =>
    if h : digest.1 ≠ replicate 32 0 then .ok ⟨digest, h⟩ else .error "wire: invalid tunnel intent ref"

def tunnelPlanFromWire (plan : WirePlan) : Except String TunnelPlan := do
  let ipv4Address ← ipv4FromWireBytes plan.ipv4Address
  if UInt8.size ≤ plan.ipv4PrefixLen then .error "tunnel plan: ipv4 prefix out of range"
  else if UInt16.size ≤ plan.mtu then .error "tunnel plan: mtu out of range"
  else if hlen : plan.ipv4PrefixLen ≤ 32 then
    if hmtu : 576 ≤ plan.mtu then
      let ipv4Routes ← plan.ipv4Routes.mapM ipv4RouteFromWire
      let dnsServers ← plan.dnsServers.mapM ipv4FromWireBytes
      let controlBypass ← plan.controlBypass.mapM ipv4FromWireBytes
      match plan.opaqueIntent with
      | none => .error "tunnel plan: missing opaque intent"
      | some intent =>
        let opaqueIntent ← tunnelIntentFromWire intent
        return { ipv4Address, ipv4PrefixLen := plan.ipv4PrefixLen, len_le := hlen, mtu := plan.mtu, le_mtu := hmtu,
                 ipv4Routes, dnsServers, controlBypass, opaqueIntent }
    else .error "tunnel plan: mtu below minimum"
  else .error "tunnel plan: ipv4 prefix over 32"

end ExvVpn.Wire
