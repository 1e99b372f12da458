import ExvVpn.Resource.Operation
import ExvVpn.Runtime.Model

/-!
# Every kind of admission record

`decode_record` of `admission.rs` for all three kinds of record, over the bytes of a journal payload. The JSON parser is a
parameter, of which nothing is assumed. A rejection is here as it is journalled, with the whole of its error.
-/

namespace ExvVpn.Resource.Durable

open Domain

inductive ResourceKind where
  | runtime
  | protocolSession
  | platformOwnership
  | packetDevice
  | networkAddress
  | mtu
  | routeSet
  | dns
  | controlBypass
  | networkSettings
  | packetLease
  | journal
  | cleanupProof
  deriving DecidableEq, Repr

/-- `OpaqueResourceRef`: its identity is not nil. -/
structure OpaqueResourceRef where
  kind : ResourceKind
  identityDigest : Runtime.ResourceRef
  deriving DecidableEq

inductive NativeErrorCategory where
  | permission
  | transport
  | protocol
  | resource
  | storage
  | observation
  | unsupported
  | unknown
  deriving DecidableEq, Repr

inductive NativeErrorNamespace where
  | win32
  | hResult
  | ntStatus
  | posixErrno
  | appleOsStatus
  | appleMach
  | appleNetworkExtension
  | unknown
  deriving DecidableEq, Repr

/-- `RedactedNativeError`, with `NativeErrorCode` as its number. -/
structure RedactedNativeError where
  category : NativeErrorCategory
  nameSpace : NativeErrorNamespace
  code : Int64
  deriving DecidableEq

/-- `VpnError` with its resource and its native detail. -/
structure VpnError extends Runtime.VpnError where
  resource : Option OpaqueResourceRef
  native : Option RedactedNativeError
  deriving DecidableEq

structure RejectionReason where
  error : VpnError
  authorityFence : AuthorityFence
  deriving DecidableEq

structure OperationRejected where
  lookupKey : OperationLookupKey
  requestDigest : RequestDigest
  authorityEpoch : UInt64
  rejectionReason : RejectionReason
  admissionWatermark : UInt64
  deriving DecidableEq

inductive AdmissionRecord where
  | admitted (record : MutationAdmitted)
  | rejected (record : OperationRejected)
  | absentFence (record : OperationAbsentFence)
  deriving DecidableEq

inductive AdmissionCodecError where
  | unsupportedVersion
  | corrupt
  deriving DecidableEq, Repr

/-! ## Reading -/

/-- `v_opt`: a member that is absent or null is no value. -/
def opt? (v : Value) (name : String) : Option Value :=
  match v.get? name with
  | some .null => none
  | other => other

/-- The derived reading of `NativeErrorCode`: a number that fits a signed 64-bit one. -/
def readI64 : Value → Option Int64
  | .number n => if n < 2 ^ 63 then some (Int64.ofNat n) else none
  | .negative n => if n < 2 ^ 63 then some (Int64.ofInt (-(n + 1 : Int))) else none
  | _ => none

def readErrorCode : Value → Option Runtime.ErrorCode :=
  readVariant [("InvalidInput", .invalidInput), ("IdempotencyConflict", .idempotencyConflict),
    ("ConnectInProgress", .connectInProgress), ("SessionBusy", .sessionBusy),
    ("ReconnectAlreadyQueued", .reconnectAlreadyQueued), ("CancelledBeforeStart", .cancelledBeforeStart),
    ("AuthorityAlreadyHeld", .authorityAlreadyHeld), ("OwnershipAcquisitionPending", .ownershipAcquisitionPending),
    ("ObservedConflict", .observedConflict), ("JournalCorrupt", .journalCorrupt),
    ("DataPlaneBackpressure", .dataPlaneBackpressure), ("PacketLeaseAlreadyAttached", .packetLeaseAlreadyAttached),
    ("EffectUnknown", .effectUnknown), ("ObservationFailed", .observationFailed), ("Unauthorized", .unauthorized),
    ("DeadlineExceeded", .deadlineExceeded), ("ActiveAttemptCannotReconcile", .activeAttemptCannotReconcile),
    ("ActiveSessionCannotReconcile", .activeSessionCannotReconcile),
    ("PlatformDependencyUnavailable", .platformDependencyUnavailable)]

def readErrorStage : Value → Option Runtime.ErrorStage :=
  readVariant [("Ingress", .ingress), ("Admission", .admission), ("ObservingOwnedState", .observingOwnedState),
    ("AcquiringPlatformLease", .acquiringPlatformLease), ("ConnectingControl", .connectingControl),
    ("AwaitingInteraction", .awaitingInteraction), ("NegotiatingTunnel", .negotiatingTunnel),
    ("ApplyingPlatformTunnel", .applyingPlatformTunnel), ("AttachingPacketBoundary", .attachingPacketBoundary),
    ("StartingDataPlane", .startingDataPlane), ("ProtocolSession", .protocolSession), ("DataPlane", .dataPlane),
    ("Teardown", .teardown), ("Recovery", .recovery), ("Journal", .journal)]

def readCertainty : Value → Option Runtime.EffectCertainty :=
  readVariant [("NoEffect", .noEffect), ("Applied", .applied), ("Partial", .partially), ("Unknown", .unknown)]

def readRetry : Value → Option Runtime.RetryAdvice :=
  readVariant [("DoNotRetry", .doNotRetry), ("RetrySameOperation", .retrySameOperation),
    ("UseNewOperation", .useNewOperation), ("Reconcile", .reconcile), ("RestartProcess", .restartProcess)]

def readResourceKind : Value → Option ResourceKind :=
  readVariant [("Runtime", .runtime), ("ProtocolSession", .protocolSession), ("PlatformOwnership", .platformOwnership),
    ("PacketDevice", .packetDevice), ("NetworkAddress", .networkAddress), ("Mtu", .mtu), ("RouteSet", .routeSet),
    ("Dns", .dns), ("ControlBypass", .controlBypass), ("NetworkSettings", .networkSettings), ("PacketLease", .packetLease),
    ("Journal", .journal), ("CleanupProof", .cleanupProof)]

def readCategory : Value → Option NativeErrorCategory :=
  readVariant [("Permission", .permission), ("Transport", .transport), ("Protocol", .protocol), ("Resource", .resource),
    ("Storage", .storage), ("Observation", .observation), ("Unsupported", .unsupported), ("Unknown", .unknown)]

def readNamespace : Value → Option NativeErrorNamespace :=
  readVariant [("Win32", .win32), ("HResult", .hResult), ("NtStatus", .ntStatus), ("PosixErrno", .posixErrno),
    ("AppleOsStatus", .appleOsStatus), ("AppleMach", .appleMach), ("AppleNetworkExtension", .appleNetworkExtension),
    ("Unknown", .unknown)]

/-- `re_opaque_resource_ref`. -/
def readResourceRef (v : Value) : Option OpaqueResourceRef := do
  let kind ← readResourceKind (← v.get? "kind")
  let digest ← readDigest (← v.get? "identity_digest")
  if h : digest.1 ≠ List.replicate 32 0 then some ⟨kind, ⟨digest, h⟩⟩ else none

/-- `re_redacted_native_error`. -/
def readNativeError (v : Value) : Option RedactedNativeError := do
  let category ← readCategory (← v.get? "category")
  let nameSpace ← readNamespace (← v.get? "namespace")
  let code ← readI64 (← v.get? "code")
  return { category, nameSpace, code }

/-- `re_error_subject`: the first of its names that the object has. -/
def readErrorSubject (v : Value) : Option Runtime.ErrorSubject :=
  match v.get? "External", v.get? "Attempt", v.get? "Effect", v.get? "Retirement", v.get? "Recovery", v.get? "Runtime" with
  | some key, _, _, _, _, _ => (readKey key).map .external
  | none, some attempt, _, _, _, _ => do
    let runtimeEpoch ← readId (← attempt.get? "runtime_epoch")
    let attemptId ← readId (← attempt.get? "attempt_id")
    return .attempt runtimeEpoch attemptId
  | none, none, some effect, _, _, _ => do
    let runtimeEpoch ← readId (← effect.get? "runtime_epoch")
    let attemptId ← readId (← effect.get? "attempt_id")
    let effectId ← readId (← effect.get? "effect_id")
    return .effect runtimeEpoch attemptId effectId
  | none, none, none, some retirement, _, _ => (readId retirement).map .retirement
  | none, none, none, none, some recovery, _ => (readId recovery).map .recovery
  | none, none, none, none, none, some runtime => (readId runtime).map .runtime
  | none, none, none, none, none, none => none

/-- A member that may be absent, read if it is there. -/
def readOptional {α : Type} (v : Value) (name : String) (read : Value → Option α) : Option (Option α) :=
  match opt? v name with
  | none => some none
  | some member => (read member).map some

/-- `re_vpn_error`. -/
def readVpnError (v : Value) : Option VpnError := do
  let code ← readErrorCode (← v.get? "code")
  let stage ← readErrorStage (← v.get? "stage")
  let certainty ← readCertainty (← v.get? "certainty")
  let retry ← readRetry (← v.get? "retry")
  let subject ← readErrorSubject (← v.get? "subject")
  let resource ← readOptional v "resource" readResourceRef
  let native ← readOptional v "native" readNativeError
  return { code, stage, certainty, retry, subject, resource, native }

/-- `re_authority_fence`. -/
def readFence (v : Value) : Option AuthorityFence := do
  let authorityEpoch ← readU64 (← v.get? "authority_epoch")
  let platformAuthorityInstanceId ← readId (← v.get? "platform_authority_instance_id")
  let admissionWatermark ← readU64 (← v.get? "admission_watermark")
  let journalRevision ← readU64 (← v.get? "journal_revision")
  return { authorityEpoch, platformAuthorityInstanceId, admissionWatermark, journalRevision }

/-- `re_rejection_reason`. -/
def readRejectionReason (v : Value) : Option RejectionReason := do
  let error ← readVpnError (← v.get? "error")
  let authorityFence ← readFence (← v.get? "authority_fence")
  return { error, authorityFence }

/-- `re_operation_rejected`. -/
def readRejected (v : Value) : Option OperationRejected := do
  let lookupKey ← readKey (← v.get? "lookup_key")
  let requestDigest ← readDigest (← v.get? "request_digest")
  let authorityEpoch ← readU64 (← v.get? "authority_epoch")
  let rejectionReason ← readRejectionReason (← v.get? "rejection_reason")
  let admissionWatermark ← readU64 (← v.get? "admission_watermark")
  return { lookupKey, requestDigest, authorityEpoch, rejectionReason, admissionWatermark }

/-- `re_operation_absent_fence`. -/
def readAbsentFence (v : Value) : Option OperationAbsentFence := do
  let lookupKey ← readKey (← v.get? "lookup_key")
  let requestDigest ← readDigest (← v.get? "request_digest")
  let authorityEpoch ← readU64 (← v.get? "authority_epoch")
  let admissionWatermark ← readU64 (← v.get? "admission_watermark")
  return { lookupKey, requestDigest, authorityEpoch, admissionWatermark }

/-- The record in the object of a payload: the first of the three names it has decides the kind. -/
def readRecord (v : Value) : Option AdmissionRecord :=
  match v.get? "Admitted", v.get? "Rejected", v.get? "AbsentFence" with
  | some record, _, _ => (readAdmitted record).map .admitted
  | none, some record, _ => (readRejected record).map .rejected
  | none, none, some record => (readAbsentFence record).map .absentFence
  | none, none, none => none

/-- `decode_record`, with the JSON parser as a parameter. -/
def decodeRecord (fromSlice : Bytes → Option Value) : Bytes → Except AdmissionCodecError AdmissionRecord
  | [] => .error .corrupt
  | version :: rest =>
    if version ≠ admissionRecordVersion then .error .unsupportedVersion
    else
      match (fromSlice rest).bind readRecord with
      | some record => .ok record
      | none => .error .corrupt

end ExvVpn.Resource.Durable
