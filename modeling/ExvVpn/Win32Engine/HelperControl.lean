import ExvVpn.Win32Engine.OwnerLease
import ExvVpn.Wire.Plan

/-!
# The control core of the Windows helper

`HelperControlCore` of `grpc_server.rs` and what its handlers do with it while they hold its lock: binding a request to an
operation, admitting it through the index and the gate, building receipts, recording terminals and answering GetOperation.

Every UUID a handler draws is data of the request, and so is whether the capability, which lasts thirty seconds, has expired
at the end of the binding. SHA-256 and the protobuf encoding of a key are parameters. The plan of the tunnel last applied,
which is never read, is left out.
-/

namespace ExvVpn.HelperControl

open Domain Resource Wire Function

/-! ## Values -/

/-- The codes of `tonic::Status` that occur here. -/
inductive Code where
  | unauthenticated
  | failedPrecondition
  | invalidArgument
  | internal
  deriving DecidableEq, Repr

/-- `tonic::Status`. -/
structure Status where
  code : Code
  message : String
  deriving DecidableEq, Repr

inductive ConnectionMode where
  | oneshot
  | service
  deriving DecidableEq, Repr

/-- What does not change while a helper runs. -/
structure Helper where
  hasher : Hasher
  digest32 : Bytes → Digest
  encodeToVec : WireKey → Bytes
  connectionMode : ConnectionMode
  runtimeEpoch : RuntimeEpoch
  authorityInstance : PlatformAuthorityInstanceId

structure OwnerSession where
  peer : PeerContext
  connection : ConnectionBinding
  deriving DecidableEq

/-- `generated::MutationReceipt` of an external operation. -/
structure MutationReceipt where
  journalOperationIdentity : WireKey
  canonicalInputDigest : Digest
  effectId : EffectId
  authorityFence : AuthorityFence
  ownershipVersion : OwnershipVersion
  certainty : EffectCertainty
  deriving DecidableEq

/-- `generated::OperationTerminal`. -/
inductive OperationTerminal where
  | succeeded (receipt : MutationReceipt)
  | failed (receipt : MutationReceipt) (error : VpnError)
  deriving DecidableEq

def OperationTerminal.receipt : OperationTerminal → MutationReceipt
  | .succeeded receipt => receipt
  | .failed receipt _ => receipt

/-- Whether a terminal says that the operation succeeded. -/
def OperationTerminal.isSucceeded : OperationTerminal → Bool
  | .succeeded _ => true
  | .failed _ _ => false

structure PendingApply where
  key : OperationLookupKey
  wireKey : WireKey
  canonicalInputDigest : Digest
  effectId : EffectId
  deriving DecidableEq

/-- What happened so far, newest first and read by no step: a mutation that was bound to its key, one that passed the gate
with the fence right after it, a `start_apply`, and an operation whose end was reported. -/
inductive Entry where
  | submitted (key : OperationLookupKey) (wireKey : WireKey) (requestDigest : RequestDigest) (effectId : EffectId)
  | admitted (key : OperationLookupKey) (requestDigest : RequestDigest) (effectId : EffectId) (fence : AuthorityFence)
  | started (key : OperationLookupKey)
  | ended (key : OperationLookupKey) (succeeded : Bool)
  deriving DecidableEq

structure HelperControlCore where
  leases : OwnerLeaseManager
  ingress : MutationIngress
  admissions : AdmissionIndex
  authorityEpoch : UInt64
  authorityInstance : PlatformAuthorityInstanceId
  watermark : UInt64
  journalRevision : UInt64
  ownershipVersion : OwnershipVersion
  owner : Option OwnerSession
  pendingApply : Bytes → Option PendingApply
  terminals : OperationLookupKeyDigest → Option OperationTerminal
  trace : List Entry

variable (helper : Helper) (core : HelperControlCore)

def HelperControlCore.new : HelperControlCore :=
  { leases := .new, ingress := fun _ => none,
    admissions := .new { authorityEpoch := 1, platformAuthorityInstanceId := helper.authorityInstance,
                         admissionWatermark := 0, journalRevision := 0 },
    authorityEpoch := 1, authorityInstance := helper.authorityInstance, watermark := 0, journalRevision := 0,
    ownershipVersion := ⟨1, by decide⟩, owner := none, pendingApply := fun _ => none, terminals := fun _ => none,
    trace := [] }

/-- One more entry of the history. -/
def HelperControlCore.note (entry : Entry) : HelperControlCore :=
  { core with trace := entry :: core.trace }

/-- `saturating_add(1)` on a `u64`. -/
def saturatingSucc (n : UInt64) : UInt64 := if n.toNat + 1 < UInt64.size then n + 1 else n

theorem saturatingSucc_toNat (n : UInt64) : (saturatingSucc n).toNat = min (n.toNat + 1) (UInt64.size - 1) := by
  have hlt : n.toNat < UInt64.size := n.toNat_lt_size
  unfold saturatingSucc
  split
  case isTrue h =>
    rw [UInt64.toNat_add, UInt64.toNat_one, Nat.mod_eq_of_lt h]
    omega
  case isFalse h => omega

/-- The next ownership version, which is not zero either. -/
def OwnershipVersion.next (version : OwnershipVersion) : OwnershipVersion :=
  ⟨saturatingSucc version.1, by
    intro h
    have hn := congrArg UInt64.toNat h
    rw [saturatingSucc_toNat, UInt64.toNat_zero] at hn
    have : UInt64.size = 18446744073709551616 := rfl
    omega⟩

def wireFence : AuthorityFence :=
  { authorityEpoch := core.authorityEpoch, platformAuthorityInstanceId := core.authorityInstance,
    admissionWatermark := core.watermark, journalRevision := core.journalRevision }

/-- `wire_error`, with the code every caller here gives it. Its subject, the key of the operation, is left out: the receipt beside
it carries that key. -/
def wireError : VpnError :=
  { code := .unauthorized, stage := .ingress, certainty := .unspecified, retry := .doNotRetry }

def buildWireReceipt (wireKey : WireKey) (canonicalInputDigest : Digest) (effectId : EffectId) : MutationReceipt :=
  { journalOperationIdentity := wireKey, canonicalInputDigest, effectId, authorityFence := wireFence core,
    ownershipVersion := core.ownershipVersion, certainty := .applied }

def recordTerminal (key : OperationLookupKey) (terminal : OperationTerminal) : HelperControlCore :=
  { core with terminals := update core.terminals (canonicalLookupDigest helper.hasher key) (some terminal) }

/-! ## Binding -/

/-- A mutation request, with what the transport says about its sender and what the handler draws for it. -/
structure MutationRequest where
  peer : Option PeerContext
  lookupKey : Option WireKey
  requestDigest : Bytes
  expired : Bool
  effectId : EffectId

def transportPeer : Option PeerContext → Except Status PeerContext
  | some peer => .ok peer
  | none => .error ⟨.unauthenticated, "transport peer not verified"⟩

/-- `bind_mutation`, with the connection of the owner it was checked against. -/
def bindMutation (request : MutationRequest) (wireKey : WireKey) (method : OperationMethod) :
    Except Status (PeerContext × ConnectionBinding × OperationLookupKey × RequestDigest) :=
  match transportPeer request.peer with
  | .error status => .error status
  | .ok peer =>
    match core.owner with
    | none => .error ⟨.failedPrecondition, "no owner lease established"⟩
    | some owner =>
      if owner.peer ≠ peer then .error ⟨.unauthenticated, "owner peer mismatch"⟩
      else
        match kernelRequestToOperation wireKey request.requestDigest method peer request.expired with
        | .error e => .error ⟨.invalidArgument, "operation binding: " ++ e⟩
        | .ok (key, digest) => .ok (peer, owner.connection, key, digest)

def ownedTokenSubject (fallbackRaw : Bytes) : AuthorizationSubject :=
  match core.owner.bind fun owner => core.leases.lease owner.connection with
  | some lease => .liveOwnershipTokenDigest lease.tokenDigest
  | none => .liveOwnershipTokenDigest (helper.digest32 fallbackRaw)

/-! ## Admission -/

def tagged (tag : String) (body : Bytes) : Bytes := tag.toUTF8.toList ++ body

/-- What `admit_and_gate` submits to the index. -/
def admissionInput (peer : PeerContext) (wireKeyBytes requestDigestRaw : Bytes)
    (key : OperationLookupKey) (requestDigest : RequestDigest) (method : OperationMethod) (subject : AuthorizationSubject)
    (effectId : EffectId) : MutationAdmissionInput :=
  { key, requestDigest, effectId, initiatorIdentityDigest := peer.principal,
    canonicalInputDigest := helper.digest32 requestDigestRaw, mutationKind := .external method,
    ownershipVersion := core.ownershipVersion, authorizationSubject := subject,
    resourceIdentity := helper.digest32 (tagged "resource" wireKeyBytes),
    preconditionFingerprint := helper.digest32 (tagged "pre" wireKeyBytes),
    desiredAppliedFingerprint := helper.digest32 (tagged "post" wireKeyBytes),
    canonicalObligationSeed := helper.digest32 (tagged "obligation" wireKeyBytes) }

/-- The second half of `admit_and_gate`: the record is made durable, and the operation passes if its owner holds a lease and
a durable record is registered under its key. -/
def passGate (input : MutationAdmissionInput) (record : MutationAdmitted) :
    HelperControlCore × Except Status MutationAdmitted :=
  match core.ingress.durableBeforeReply record with
  | (ingress, false) => ({ core with ingress }, .error ⟨.internal, "mutation admission not durable"⟩)
  | (ingress, true) =>
    match core.owner.bind fun owner => core.leases.lease owner.connection with
    | none => ({ core with ingress }, .error ⟨.failedPrecondition, "no owner lease for gate"⟩)
    | some _ =>
      match MutationIngress.admitDurable ingress input.key with
      | .error e => ({ core with ingress }, .error ⟨.internal, "mutation ingress: " ++ e⟩)
      | .ok _ =>
        let core := { core with ingress, watermark := saturatingSucc core.watermark }
        (core.note (.admitted input.key input.requestDigest input.effectId (wireFence core)), .ok record)

def admitAndGate (input : MutationAdmissionInput) : HelperControlCore × Except Status MutationAdmitted :=
  match core.admissions.admitMutation helper.hasher input with
  | (admissions, .admitted record) => passGate { core with admissions } input record
  | (admissions, .rejectedNoEffect _) =>
    ({ core with admissions }, .error ⟨.failedPrecondition, "mutation previously rejected"⟩)
  | (admissions, .closedByAbsenceProof) =>
    ({ core with admissions }, .error ⟨.failedPrecondition, "mutation closed by absence proof"⟩)
  | (admissions, .idempotencyConflict) => ({ core with admissions }, .error ⟨.failedPrecondition, "idempotency conflict"⟩)

/-! ## Handlers -/

/-- The parse of the secret payload of an ApplyTunnel request. -/
inductive SecretPayload where
  | empty
  | package
  | unsupportedVersion (version : Nat)
  | decode (text : String)
  deriving DecidableEq

def parseSecretPayload : SecretPayload → Except Status Unit
  | .empty => .ok ()
  | .package => .ok ()
  | .unsupportedVersion version =>
    .error ⟨.invalidArgument, "secret payload unsupported version " ++ toString version ++ " (expected 1)"⟩
  | .decode text => .error ⟨.invalidArgument, "secret payload decode failed: " ++ text⟩

def windowsConnectionModeFromWire (value : Int) : Except Status Unit :=
  if value = 0 ∨ value = 1 ∨ value = 2 then .ok ()
  else .error ⟨.invalidArgument, "apply: unsupported Windows connection mode"⟩

/-- What an ApplyTunnel request carries besides its key and digest. -/
structure ApplyInput where
  plan : Option WirePlan
  secretPayload : SecretPayload
  windowsConnectionMode : Int

/-- The checks `apply_tunnel` makes between the binding and the admission. -/
def checkApply (plan : WirePlan) (input : ApplyInput) : Except Status Unit :=
  match tunnelPlanFromWire plan with
  | .error e => .error ⟨.invalidArgument, "apply: " ++ e⟩
  | .ok _ =>
    match parseSecretPayload input.secretPayload with
    | .error status => .error status
    | .ok _ => windowsConnectionModeFromWire input.windowsConnectionMode

/-- What a handler of a mutation leads to in its first region: a reply, or a call that goes on to the runtime. -/
inductive Submitted where
  | acquired (receipt : MutationReceipt)
  | acquireFailed (receipt : MutationReceipt) (error : VpnError)
  | released (receipt : MutationReceipt)
  | applying (key : OperationLookupKey) (wireKey : WireKey)
  | stopping (key : OperationLookupKey) (wireKey : WireKey) (requestDigest : Bytes) (effectId : EffectId)
  deriving DecidableEq

section

variable (request : MutationRequest)

/-- `acquire_lease`: the token slot first, then the admission. -/
def acquireLease : HelperControlCore × Except Status Submitted :=
  match request.lookupKey with
  | none => (core, .error ⟨.invalidArgument, "acquire: missing lookup key"⟩)
  | some wireKey =>
    match bindMutation core request wireKey .acquireLease with
    | .error status => (core, .error status)
    | .ok (peer, connection, key, digest) =>
      let core := core.note (.submitted key wireKey digest request.effectId)
      let candidate := helper.digest32 request.requestDigest
      let canonicalInputDigest := helper.digest32 request.requestDigest
      match core.leases.issue connection key digest core.ownershipVersion candidate with
      | (leases, .refused) =>
        let core := { core with leases }
        let receipt := buildWireReceipt core wireKey canonicalInputDigest request.effectId
        ((recordTerminal helper core key (.failed receipt wireError)).note (.ended key false),
          .ok (.acquireFailed receipt wireError))
      | (leases, _) =>
        let core := { core with leases }
        let input := admissionInput helper core peer (helper.encodeToVec wireKey) request.requestDigest key digest
          .acquireLease (.liveOwnershipTokenDigest candidate) request.effectId
        match admitAndGate helper core input with
        | (core, .error status) => (core, .error status)
        | (core, .ok _) =>
          let receipt := buildWireReceipt core wireKey canonicalInputDigest request.effectId
          ((recordTerminal helper core key (.succeeded receipt)).note (.ended key true), .ok (.acquired receipt))

/-- The first region of `apply_tunnel`: the admission, and the registration under the operation id. -/
def applyTunnel (input : ApplyInput) : HelperControlCore × Except Status Submitted :=
  match request.lookupKey with
  | none => (core, .error ⟨.invalidArgument, "apply: missing lookup key"⟩)
  | some wireKey =>
    match input.plan with
    | none => (core, .error ⟨.invalidArgument, "apply: missing tunnel plan"⟩)
    | some plan =>
      match bindMutation core request wireKey .applyTunnel with
      | .error status => (core, .error status)
      | .ok (peer, _, key, digest) =>
        let core := core.note (.submitted key wireKey digest request.effectId)
        match checkApply plan input with
        | .error status => (core, .error status)
        | .ok _ =>
          let admission := admissionInput helper core peer (helper.encodeToVec wireKey) request.requestDigest key digest
            .applyTunnel (ownedTokenSubject helper core request.requestDigest) request.effectId
          match admitAndGate helper core admission with
          | (core, .error status) => (core, .error status)
          | (core, .ok _) =>
            let pending : PendingApply :=
              { key, wireKey, canonicalInputDigest := helper.digest32 request.requestDigest, effectId := request.effectId }
            ({ core with pendingApply := update core.pendingApply wireKey.operationId (some pending) },
              .ok (.applying key wireKey))

/-- The first region of `stop_tunnel`. -/
def stopTunnel : HelperControlCore × Except Status Submitted :=
  match request.lookupKey with
  | none => (core, .error ⟨.invalidArgument, "stop: missing lookup key"⟩)
  | some wireKey =>
    match bindMutation core request wireKey .stopTunnel with
    | .error status => (core, .error status)
    | .ok (peer, _, key, digest) =>
      let core := core.note (.submitted key wireKey digest request.effectId)
      let admission := admissionInput helper core peer (helper.encodeToVec wireKey) request.requestDigest key digest
        .stopTunnel (ownedTokenSubject helper core request.requestDigest) request.effectId
      match admitAndGate helper core admission with
      | (core, .error status) => (core, .error status)
      | (core, .ok _) => (core, .ok (.stopping key wireKey request.requestDigest request.effectId))

def releaseLease : HelperControlCore × Except Status Submitted :=
  match request.lookupKey with
  | none => (core, .error ⟨.invalidArgument, "release: missing lookup key"⟩)
  | some wireKey =>
    match bindMutation core request wireKey .releaseLease with
    | .error status => (core, .error status)
    | .ok (peer, connection, key, digest) =>
      let core := core.note (.submitted key wireKey digest request.effectId)
      let admission := admissionInput helper core peer (helper.encodeToVec wireKey) request.requestDigest key digest
        .releaseLease (ownedTokenSubject helper core request.requestDigest) request.effectId
      match admitAndGate helper core admission with
      | (core, .error status) => (core, .error status)
      | (core, .ok _) =>
        let core := { core with
          leases := core.leases.terminateConnection connection, pendingApply := fun _ => none, owner := none,
          ownershipVersion := OwnershipVersion.next core.ownershipVersion }
        let receipt := buildWireReceipt core wireKey (helper.digest32 request.requestDigest) request.effectId
        ((recordTerminal helper core key (.succeeded receipt)).note (.ended key true), .ok (.released receipt))

/-- The last region of `stop_tunnel`, after the runtime was torn down. -/
def finishStop (key : OperationLookupKey) (wireKey : WireKey) (requestDigest : Bytes) (effectId : EffectId) :
    HelperControlCore :=
  let core := { core with pendingApply := fun _ => none }
  let receipt := buildWireReceipt core wireKey (helper.digest32 requestDigest) effectId
  (recordTerminal helper core key (.succeeded receipt)).note (.ended key true)

end

/-! ## Status events -/

inductive StatsPhase where
  | idle
  | connecting
  | connected
  | failed
  deriving DecidableEq, Repr

/-- `StatusEvent`, without the phase and the time that only a display reads. -/
structure StatusEvent where
  operationId : Bytes
  coarsePhase : StatsPhase
  error : Option VpnError
  deriving DecidableEq

/-- What the terminal observer makes of an event that ends an operation. -/
def observeEnd (operationId : Bytes) (terminal : MutationReceipt → OperationTerminal) : HelperControlCore :=
  match core.pendingApply operationId with
  | none => core
  | some pending =>
    let core := { core with pendingApply := update core.pendingApply operationId none }
    let receipt := buildWireReceipt core pending.wireKey pending.canonicalInputDigest pending.effectId
    recordTerminal helper core pending.key (terminal receipt)

def terminalObserver (event : StatusEvent) : HelperControlCore :=
  match event.coarsePhase with
  | .connected => observeEnd helper core event.operationId .succeeded
  | .failed => observeEnd helper core event.operationId fun receipt => .failed receipt (event.error.getD wireError)
  | .idle => core
  | .connecting => core

/-! ## GetOperation -/

/-- `generated::OperationState`. -/
inductive OperationState where
  | pending
  | terminal (terminal : OperationTerminal)
  | rejected (error : VpnError) (authorityFence : AuthorityFence)
  | absent (lookupKeyDigest : Digest) (authorityEpoch admissionWatermark : UInt64)
  | unknown
  deriving DecidableEq

/-- What GetOperation finds for a key. -/
def operationState (wireKey : WireKey) (key : OperationLookupKey) : OperationState :=
  match core.terminals (canonicalLookupDigest helper.hasher key) with
  | some terminal => .terminal terminal
  | none =>
    match core.admissions.getOperation helper.hasher key with
    | .pending => .pending
    | .unknown => .unknown
    | .absentNoEffect _ _ _ => .absent (helper.digest32 wireKey.operationId) core.authorityEpoch core.watermark
    | .rejectedNoEffect _ => .rejected wireError (wireFence core)

def getOperation (peer : Option PeerContext) (lookupKey : Option WireKey) : Except Status OperationState :=
  match transportPeer peer with
  | .error status => .error status
  | .ok peer =>
    match lookupKey with
    | none => .error ⟨.invalidArgument, "get_operation: missing lookup key"⟩
    | some wireKey =>
      match lookupKeyFromWire wireKey peer.principal with
      | .error e => .error ⟨.invalidArgument, "get_operation: " ++ e⟩
      | .ok key => .ok (operationState helper core wireKey key)

end ExvVpn.HelperControl
