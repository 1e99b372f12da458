import ExvVpn.Domain.Identity
import ExvVpn.Host.Composition

/-!
# The state of the portable runtime

`model.rs` of `exv-vpn-domain` with the errors of `error.rs`: intents, attempts, sessions, what recovery has to do, and the
states of the runtime. The resource and the native detail of an error, which no function here makes or reads, are left out.
-/

namespace ExvVpn.Runtime

open Domain

/-! ## Identifiers -/

abbrev AttemptId := Domain.Id
abbrev InteractionId := Domain.Id
abbrev RecoveryId := Domain.Id
abbrev OwnerLeaseId := Domain.Id
abbrev InventoryDigest := Digest
abbrev EvidenceDigest := Digest

/-! ## Errors -/

inductive ErrorCode where
  | invalidInput
  | idempotencyConflict
  | connectInProgress
  | sessionBusy
  | reconnectAlreadyQueued
  | cancelledBeforeStart
  | authorityAlreadyHeld
  | ownershipAcquisitionPending
  | observedConflict
  | journalCorrupt
  | dataPlaneBackpressure
  | packetLeaseAlreadyAttached
  | effectUnknown
  | observationFailed
  | unauthorized
  | deadlineExceeded
  | activeAttemptCannotReconcile
  | activeSessionCannotReconcile
  | platformDependencyUnavailable
  deriving DecidableEq, Repr

inductive ErrorStage where
  | ingress
  | admission
  | observingOwnedState
  | acquiringPlatformLease
  | connectingControl
  | awaitingInteraction
  | negotiatingTunnel
  | applyingPlatformTunnel
  | attachingPacketBoundary
  | startingDataPlane
  | protocolSession
  | dataPlane
  | teardown
  | recovery
  | journal
  deriving DecidableEq, Repr

inductive EffectCertainty where
  | noEffect
  | applied
  | partially
  | unknown
  deriving DecidableEq, Repr

inductive RetryAdvice where
  | doNotRetry
  | retrySameOperation
  | useNewOperation
  | reconcile
  | restartProcess
  deriving DecidableEq, Repr

inductive ErrorSubject where
  | external (lookupKey : OperationLookupKey)
  | attempt (runtimeEpoch : RuntimeEpoch) (attemptId : AttemptId)
  | effect (runtimeEpoch : RuntimeEpoch) (attemptId : AttemptId) (effectId : EffectId)
  | retirement (retirementOperationId : RetirementOperationId)
  | recovery (recoveryId : RecoveryId)
  | runtime (runtimeEpoch : RuntimeEpoch)
  deriving DecidableEq

structure VpnError where
  code : ErrorCode
  stage : ErrorStage
  certainty : EffectCertainty
  retry : RetryAdvice
  subject : ErrorSubject
  deriving DecidableEq

/-! ## Intents and attempts -/

/-- A reference to a resource by its digest, which is not nil. -/
abbrev ResourceRef := {digest : ResourceIdentityDigest // digest.1 ≠ List.replicate 32 0}

abbrev ConnectionProfileRef := ResourceRef
abbrev ProtocolSessionRef := ResourceRef
abbrev PacketLeaseRef := ResourceRef

structure ConnectIntent where
  lookupKey : OperationLookupKey
  requestDigest : RequestDigest
  profile : ConnectionProfileRef
  deriving DecidableEq

/-- `ConnectIntent::runtime_epoch`: that of its key. -/
def ConnectIntent.runtimeEpoch (intent : ConnectIntent) : RuntimeEpoch := intent.lookupKey.runtimeEpoch

structure Attempt where
  runtimeEpoch : RuntimeEpoch
  attemptId : AttemptId
  intent : ConnectIntent
  deriving DecidableEq

structure StopIntent where
  lookupKey : OperationLookupKey
  requestDigest : RequestDigest
  deriving DecidableEq

/-- `InteractionPrompt`, with `PromptDeadline` by its number. -/
structure InteractionPrompt where
  interactionId : InteractionId
  runtimeEpoch : RuntimeEpoch
  attemptId : AttemptId
  deadline : UInt64
  deriving DecidableEq

structure PlatformOwnershipRef where
  identityDigest : ResourceRef
  ownershipVersion : {version : UInt64 // version ≠ 0}
  tokenDigest : TokenDigest
  deriving DecidableEq

structure CleanupProofRef where
  canonicalInventoryDigest : {digest : InventoryDigest // digest.1 ≠ List.replicate 32 0}
  platformEvidenceDigest : EvidenceDigest
  deriving DecidableEq

structure ConnectedSession where
  attempt : Attempt
  protocolSession : ProtocolSessionRef
  platformOwnership : PlatformOwnershipRef
  packetLease : PacketLeaseRef
  deriving DecidableEq

/-! ## Recovery -/

inductive RecoveryContext where
  | startup (runtimeEpoch : RuntimeEpoch) (recoveryId : RecoveryId)
  | attemptTeardown (attempt : Attempt)
  | ownerLost (ownerLeaseId : OwnerLeaseId) (attempt : Attempt)
  | packetBoundaryLost (attempt : Attempt) (packetLease : PacketLeaseRef)
  deriving DecidableEq

structure RecoveryObligation where
  ownerRuntimeEpoch : RuntimeEpoch
  retirementOperationId : Option RetirementOperationId
  blockingError : VpnError
  platformOwnership : Option PlatformOwnershipRef
  packetLease : Option PacketLeaseRef
  canonicalInventoryDigest : InventoryDigest
  deriving DecidableEq

/-! ## States -/

inductive RuntimeState where
  | idle (lastCleanup : Option CleanupProofRef)
  | connecting (attempt : Attempt) (phase : Host.ConnectPhase)
  | awaitingInteraction (attempt : Attempt) (prompt : InteractionPrompt)
  | connected (session : ConnectedSession)
  | stopping (attempt : Attempt) (stop : StopIntent) (queuedConnect : Option ConnectIntent)
  | reconciling (context : RecoveryContext) (obligation : RecoveryObligation)
  | failedClean (lastError : VpnError) (proof : CleanupProofRef)
  | failedDirty (lastError : VpnError) (context : RecoveryContext) (obligation : RecoveryObligation)
  deriving DecidableEq

end ExvVpn.Runtime
