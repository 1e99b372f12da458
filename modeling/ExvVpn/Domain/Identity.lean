import ExvVpn.Basic
import ExvVpn.Tools.LittleEndian

/-!
# Identities of operations

`identity.rs` of `exv-vpn-domain`: identifiers that are never nil, digests of 32 bytes, and the key under which a mutation is
submitted. The canonical digest of a key is computed from its principal, method and runtime epoch, not from the operation id.
The hasher is a parameter of which nothing is assumed.
-/

namespace ExvVpn.Domain

open List LittleEndian

abbrev Digest := {d : Bytes // d.length = 32}

/-- A digest from bytes, if there are 32 of them. -/
def Digest.tryFrom (bytes : Bytes) : Option Digest :=
  if h : bytes.length = 32 then some ⟨bytes, h⟩ else none

theorem Digest.length_filled (byte : UInt8) : (replicate 32 byte).length = 32 := length_replicate

/-- The digest of 32 equal bytes. -/
def Digest.filled (byte : UInt8) : Digest := ⟨replicate 32 byte, length_filled byte⟩

def nilUuid : Bytes := replicate 16 0

/-- An identifier: a UUID that is not nil. -/
abbrev Id := {u : Bytes // u.length = 16 ∧ u ≠ nilUuid}

/-- `uuid_try_from!`: an identifier from the 16 bytes of a UUID. -/
def Id.tryFrom (bytes : Bytes) : Option Id :=
  if h : bytes.length = 16 ∧ bytes ≠ nilUuid then some ⟨bytes, h⟩ else none

/-- The identifier of 15 ones and a last byte. -/
def Id.ending (byte : UInt8) : Id := ⟨replicate 15 1 ++ [byte], by simp, by simp [nilUuid, replicate]⟩

abbrev RuntimeEpoch := Id
abbrev OperationId := Id
abbrev EffectId := Id
abbrev RetirementOperationId := Id
abbrev PlatformAuthorityInstanceId := Id

abbrev PrincipalDigest := Digest
abbrev RequestDigest := Digest
abbrev OperationLookupKeyDigest := Digest
abbrev ConnectionBinding := Digest
abbrev TokenDigest := Digest
abbrev CanonicalInputDigest := Digest
abbrev ResourceIdentityDigest := Digest

inductive OperationMethod where
  | connect
  | respondInteraction
  | stop
  | reconcile
  | acquireLease
  | applyTunnel
  | stopTunnel
  | releaseLease
  deriving DecidableEq, Repr

structure OperationLookupKey where
  principalDigest : PrincipalDigest
  method : OperationMethod
  runtimeEpoch : RuntimeEpoch
  operationId : OperationId
  deriving DecidableEq

def methodByte : OperationMethod → UInt8
  | .connect => 0
  | .respondInteraction => 1
  | .stop => 2
  | .reconcile => 3
  | .acquireLease => 4
  | .applyTunnel => 5
  | .stopTunnel => 6
  | .releaseLease => 7

/-- What a `DefaultHasher` returns that was fed the number of a chunk and some bytes. -/
abbrev Hasher := UInt64 → Bytes → UInt64

/-- The bytes `canonical_lookup_digest` hashes. -/
def OperationLookupKey.hashed (key : OperationLookupKey) : Bytes :=
  key.principalDigest.1 ++ (methodByte key.method :: key.runtimeEpoch.1)

/-- `canonical_lookup_digest`: four chunks of eight bytes, each the hash of its number and the same bytes. -/
def canonicalLookupDigest (hasher : Hasher) (key : OperationLookupKey) : OperationLookupKeyDigest :=
  ⟨toBytes 8 (hasher 0 key.hashed).toNat ++ (toBytes 8 (hasher 1 key.hashed).toNat ++
    (toBytes 8 (hasher 2 key.hashed).toNat ++ toBytes 8 (hasher 3 key.hashed).toNat)), by simp⟩

structure AuthorityFence where
  authorityEpoch : UInt64
  platformAuthorityInstanceId : PlatformAuthorityInstanceId
  admissionWatermark : UInt64
  journalRevision : UInt64
  deriving DecidableEq

/-- `PeerContext`: the authenticated principal and the connection it came on. -/
structure PeerContext where
  principal : PrincipalDigest
  connection : ConnectionBinding
  deriving DecidableEq

end ExvVpn.Domain
