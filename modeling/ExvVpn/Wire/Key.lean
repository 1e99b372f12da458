import ExvVpn.Domain.Identity

/-!
# Operation keys on the wire

`convert.rs` of `exv-vpn-wire`, as far as it concerns operation keys, and the binding of a request to an operation in
`kernel.rs` of `exv-vpn-local-rpc`. The principal a client states about itself is checked for its length and not used.
-/

namespace ExvVpn.Wire

open Domain

/-- `generated::OperationLookupKey`. -/
structure WireKey where
  principalDigest : Bytes
  method : Int
  runtimeEpoch : Bytes
  operationId : Bytes
  deriving DecidableEq, Repr

def operationMethodFromWire : Int → Except String OperationMethod
  | 1 => .ok .connect
  | 2 => .ok .respondInteraction
  | 3 => .ok .stop
  | 4 => .ok .reconcile
  | 5 => .ok .acquireLease
  | 6 => .ok .applyTunnel
  | 7 => .ok .stopTunnel
  | 8 => .ok .releaseLease
  | _ => .error "operation method: UNSPECIFIED or unknown"

def principalDigestFromWire (bytes : Bytes) : Except String PrincipalDigest :=
  match Digest.tryFrom bytes with
  | some digest => .ok digest
  | none => .error "wire: expected 32-byte digest"

/-- `uuid16` and the `try_from` of one identifier, whose own text is `nil`. -/
def idFromWire (nil : String) (bytes : Bytes) : Except String Id :=
  if bytes.length ≠ 16 then .error "wire: expected 16-byte uuid"
  else
    match Id.tryFrom bytes with
    | some id => .ok id
    | none => .error nil

def runtimeEpochFromWire : Bytes → Except String RuntimeEpoch := idFromWire "wire: nil runtime epoch"

def operationIdFromWire : Bytes → Except String OperationId := idFromWire "wire: nil operation id"

def lookupKeyFromWire (wire : WireKey) (authenticatedPrincipal : PrincipalDigest) :
    Except String OperationLookupKey := do
  let _ ← principalDigestFromWire wire.principalDigest
  let method ← operationMethodFromWire wire.method
  let runtimeEpoch ← runtimeEpochFromWire wire.runtimeEpoch
  let operationId ← operationIdFromWire wire.operationId
  return { principalDigest := authenticatedPrincipal, method, runtimeEpoch, operationId }

/-- `kernel_request_to_operation`. The capability was issued a moment before for the same peer, method and epoch, so it
authorizes unless it has `expired` by now. -/
def kernelRequestToOperation (wire : WireKey) (requestDigest : Bytes) (expectedMethod : OperationMethod)
    (peer : PeerContext) (expired : Bool) : Except String (OperationLookupKey × RequestDigest) :=
  match Digest.tryFrom requestDigest with
  | none => .error "kernel: request digest: expected 32 bytes"
  | some digest =>
    match operationMethodFromWire wire.method with
    | .error _ => .error "kernel: operation method: invalid"
    | .ok method =>
      match lookupKeyFromWire wire peer.principal with
      | .error _ => .error "kernel: lookup key: invalid"
      | .ok key =>
        if method ≠ expectedMethod then .error "kernel: operation: out of scope"
        else if expired then .error "kernel: not authorized by peer capability"
        else .ok (key, digest)

theorem idFromWire_val {nil : String} {bytes : Bytes} {id : Id} (h : idFromWire nil bytes = .ok id) : id.1 = bytes := by
  unfold idFromWire Id.tryFrom at h
  split at h
  · simp at h
  split at h
  case h_1 hid =>
    split at hid
    · cases hid
      cases h
      rfl
    · simp at hid
  case h_2 => simp at h

variable {wire : WireKey} {key : OperationLookupKey}

/-- What a converted key consists of. -/
theorem lookupKeyFromWire_ok {principal : PrincipalDigest} (h : lookupKeyFromWire wire principal = .ok key) :
    key.principalDigest = principal ∧ operationMethodFromWire wire.method = .ok key.method ∧
      key.runtimeEpoch.1 = wire.runtimeEpoch ∧ key.operationId.1 = wire.operationId := by
  simp only [lookupKeyFromWire, bind_ok_iff] at h
  obtain ⟨_, -, method, hmethod, epoch, hepoch, operationId, hoperation, h⟩ := h
  cases h
  exact ⟨rfl, hmethod, idFromWire_val hepoch, idFromWire_val hoperation⟩

/-- A bound request has the key of its wire form under the authenticated principal, and the method that was expected. -/
theorem kernelRequestToOperation_ok {requestDigest : Bytes} {expectedMethod : OperationMethod}
    {peer : PeerContext} {expired : Bool} {digest : RequestDigest}
    (h : kernelRequestToOperation wire requestDigest expectedMethod peer expired = .ok (key, digest)) :
    lookupKeyFromWire wire peer.principal = .ok key ∧ key.method = expectedMethod ∧ digest.1 = requestDigest := by
  unfold kernelRequestToOperation at h
  split at h
  · simp at h
  case h_2 _ bound hbound =>
    split at h
    · simp at h
    case h_2 _ method hmethod =>
      split at h
      · simp at h
      case h_2 _ converted hconverted =>
        split at h
        · simp at h
        case isFalse hexpected =>
          split at h
          · simp at h
          cases h
          obtain ⟨-, hkey, -, -⟩ := lookupKeyFromWire_ok hconverted
          rw [hmethod] at hkey
          cases hkey
          refine ⟨hconverted, not_not.mp hexpected, ?_⟩
          unfold Digest.tryFrom at hbound
          split at hbound
          · cases hbound
            rfl
          · simp at hbound

/-- A request whose key converts to a key of the expected method is bound, unless its digest or its capability is not good. -/
theorem kernelRequestToOperation_error {requestDigest : Bytes} {expectedMethod : OperationMethod}
    {peer : PeerContext} {expired : Bool} {e : String}
    (hkey : lookupKeyFromWire wire peer.principal = .ok key) (hmethod : key.method = expectedMethod)
    (h : kernelRequestToOperation wire requestDigest expectedMethod peer expired = .error e) :
    e = "kernel: request digest: expected 32 bytes" ∨ e = "kernel: not authorized by peer capability" := by
  obtain ⟨-, hwire, -, -⟩ := lookupKeyFromWire_ok hkey
  unfold kernelRequestToOperation at h
  rw [hwire, hkey] at h
  dsimp only at h
  split at h
  · cases h
    exact .inl rfl
  split at h
  case isTrue hne => exact absurd hmethod hne
  case isFalse =>
    split at h
    · cases h
      exact .inr rfl
    · simp at h

end ExvVpn.Wire
