import ExvVpn.Runtime.Model

/-!
# The reducer of the portable runtime

`reducer.rs` of `exv-vpn-domain`: commands, fences, effects and the pure transition from a state and a command to a decision.
Only Connect and Stop are handled; what other commands carry is left out, and so are the requests of effects no decision has
and what of the inputs none uses.
-/

namespace ExvVpn.Runtime

open Domain

/-! ## Fences -/

structure AttemptEffectFence where
  runtimeEpoch : RuntimeEpoch
  attemptId : AttemptId
  effectId : EffectId
  deriving DecidableEq

structure OwnedAttemptEffectFence where
  attemptEffect : AttemptEffectFence
  platformOwnership : PlatformOwnershipRef
  deriving DecidableEq

structure InteractionEffectFence where
  attemptEffect : AttemptEffectFence
  interactionId : InteractionId
  deadline : UInt64
  deriving DecidableEq

structure ExternalEffectFence where
  runtimeEpoch : RuntimeEpoch
  effectId : EffectId
  lookupKey : OperationLookupKey
  requestDigest : RequestDigest
  deriving DecidableEq

inductive RecoveryEffectFence where
  | observe (runtimeEpoch : RuntimeEpoch) (recoveryId : RecoveryId) (effectId : EffectId)
  | owned (runtimeEpoch : RuntimeEpoch) (recoveryId : RecoveryId) (effectId : EffectId)
      (platformOwnership : PlatformOwnershipRef)
  | retirement (runtimeEpoch : RuntimeEpoch) (recoveryId : RecoveryId) (effectId : EffectId)
      (retirementOperationId : RetirementOperationId) (platformOwnership : PlatformOwnershipRef)
  deriving DecidableEq

inductive CompletionFence where
  | external (fence : ExternalEffectFence)
  | attempt (fence : AttemptEffectFence)
  | owned (fence : OwnedAttemptEffectFence)
  | interaction (fence : InteractionEffectFence)
  | recovery (fence : RecoveryEffectFence)
  deriving DecidableEq

/-- `fence_epoch`. -/
def CompletionFence.epoch : CompletionFence → RuntimeEpoch
  | .external fence => fence.runtimeEpoch
  | .attempt fence => fence.runtimeEpoch
  | .owned fence => fence.attemptEffect.runtimeEpoch
  | .interaction fence => fence.attemptEffect.runtimeEpoch
  | .recovery (.observe runtimeEpoch _ _) => runtimeEpoch
  | .recovery (.owned runtimeEpoch _ _ _) => runtimeEpoch
  | .recovery (.retirement runtimeEpoch _ _ _ _) => runtimeEpoch

/-! ## Effects -/

/-- `BeginStopRequest`, whose trigger is the external stop of an operation. -/
structure BeginStopRequest where
  triggerKey : OperationLookupKey
  triggerDigest : RequestDigest
  originSubject : ErrorSubject
  runtimeEpoch : RuntimeEpoch
  platformOwnership : PlatformOwnershipRef
  deriving DecidableEq

inductive EffectRequest where
  | connectProtocol (intent : ConnectIntent)
  | stopProtocol (protocolSession : ProtocolSessionRef)
  | stopPacket (fence : OwnedAttemptEffectFence) (packetLease : PacketLeaseRef)
  | beginPlatformStop (request : BeginStopRequest)
  | revokeInteraction
  | revokeQueuedConnect (intent : ConnectIntent)
  deriving DecidableEq

structure RuntimeEffect where
  fence : CompletionFence
  request : EffectRequest
  deriving DecidableEq

inductive EphemeralResourceKind where
  | platformOwnershipToken
  | protocolLateHandle
  | packetLateHandle
  | dataPlaneTask
  deriving DecidableEq, Repr

structure EphemeralCleanupRef where
  effectId : EffectId
  kind : EphemeralResourceKind
  deriving DecidableEq

/-- `StaleDisposition`; which operation was journaled is not read. -/
inductive StaleDisposition where
  | provenNoEffect
  | acquiredEphemeralResource (cleanup : EphemeralCleanupRef)
  | journaledExternalEffect
  | unknownResourceAcquisition (obligation : RecoveryObligation)
  deriving DecidableEq

/-- `EffectCompletion`; its outcome is not read. -/
structure EffectCompletion where
  fence : CompletionFence
  staleDisposition : StaleDisposition
  deriving DecidableEq

/-! ## Commands and decisions -/

inductive RuntimeCommand where
  | connect (intent : ConnectIntent)
  | respondInteraction
  | stop (stop : StopIntent)
  | reconcile
  | hostLost (runtimeEpoch : RuntimeEpoch)
  | platformOwnerLost
  | packetRelayLost
  | effectCompleted (completion : EffectCompletion)
  deriving DecidableEq

def maxEffectsPerDecision : Nat := 3

instance : NeZero maxEffectsPerDecision := ⟨by decide⟩

structure ReducerInputs where
  nextAttemptId : AttemptId
  nextEffectIds : Fin maxEffectsPerDecision → EffectId

inductive OperationDisposition where
  | accepted
  | acceptedQueued
  | succeeded
  | alreadyCurrent
  | alreadyStopped (proof : Option CleanupProofRef)
  | alreadyClean (proof : Option CleanupProofRef)
  | cancelledBeforeStart
  | failed (error : VpnError)
  | requiresReconcile (obligation : RecoveryObligation)
  deriving DecidableEq

structure OperationOutcome where
  lookupKey : OperationLookupKey
  requestDigest : RequestDigest
  disposition : OperationDisposition
  deriving DecidableEq

/-- `RuntimeEvent`, as far as decisions have it. -/
inductive RuntimeEvent where
  | interactionRevoked (interactionId : InteractionId) (subject : ErrorSubject)
  | errorObserved (error : VpnError)
  deriving DecidableEq

structure ReducerDecision where
  nextState : RuntimeState
  effects : List RuntimeEffect
  operationOutcomes : List OperationOutcome
  events : List RuntimeEvent

namespace Reducer

def opError (code : ErrorCode) (lookupKey : OperationLookupKey) : VpnError :=
  ⟨code, .admission, .noEffect, .doNotRetry, .external lookupKey⟩

/-- The disposition of a connect beside an attempt, with the code for one of another operation. -/
def dispositionBeside (busy : ErrorCode) (current intent : ConnectIntent) : OperationDisposition :=
  if current = intent then .alreadyCurrent
  else if current.lookupKey = intent.lookupKey then .failed (opError .idempotencyConflict intent.lookupKey)
  else .failed (opError busy intent.lookupKey)

def connectDisposition : ConnectIntent → ConnectIntent → OperationDisposition := dispositionBeside .connectInProgress

def leafDecision (nextState : RuntimeState) (key : OperationLookupKey) (digest : RequestDigest)
    (disposition : OperationDisposition) : ReducerDecision :=
  ⟨nextState, [], [⟨key, digest, disposition⟩], []⟩

/-- A decision that keeps the state and says nothing. -/
def keep (state : RuntimeState) : ReducerDecision := ⟨state, [], [], []⟩

def startConnect (intent : ConnectIntent) (inputs : ReducerInputs) (events : List RuntimeEvent) : ReducerDecision where
  nextState := .connecting ⟨intent.runtimeEpoch, inputs.nextAttemptId, intent⟩ .connectingControl
  effects :=
    [⟨.attempt ⟨intent.runtimeEpoch, inputs.nextAttemptId, inputs.nextEffectIds 0⟩, .connectProtocol intent⟩]
  operationOutcomes := [⟨intent.lookupKey, intent.requestDigest, .accepted⟩]
  events := events

def reduceConnect (state : RuntimeState) (intent : ConnectIntent) (inputs : ReducerInputs) : ReducerDecision :=
  let leaf := leafDecision state intent.lookupKey intent.requestDigest
  match state with
  | .idle _ => startConnect intent inputs []
  | .failedClean lastError _ => startConnect intent inputs [.errorObserved lastError]
  | .connecting attempt _ => leaf (connectDisposition attempt.intent intent)
  | .awaitingInteraction attempt _ => leaf (connectDisposition attempt.intent intent)
  | .connected session => leaf (dispositionBeside .sessionBusy session.attempt.intent intent)
  | .stopping attempt stop none =>
    leafDecision (.stopping attempt stop (some intent)) intent.lookupKey intent.requestDigest .acceptedQueued
  | .stopping _ _ (some existing) =>
    if existing.lookupKey = intent.lookupKey ∧ existing.requestDigest = intent.requestDigest then leaf .alreadyCurrent
    else leaf (.failed (opError .reconnectAlreadyQueued intent.lookupKey))
  | .reconciling _ obligation => leaf (.requiresReconcile obligation)
  | .failedDirty _ _ obligation => leaf (.requiresReconcile obligation)

/-- The three effects that end a session. -/
def stopEffects (session : ConnectedSession) (inputs : ReducerInputs) : List RuntimeEffect :=
  let attempt := session.attempt
  let attemptFence := fun effectId => (⟨attempt.runtimeEpoch, attempt.attemptId, effectId⟩ : AttemptEffectFence)
  let ownedFence : OwnedAttemptEffectFence := ⟨attemptFence (inputs.nextEffectIds 1), session.platformOwnership⟩
  [⟨.attempt (attemptFence (inputs.nextEffectIds 0)), .stopProtocol session.protocolSession⟩,
    ⟨.owned ownedFence, .stopPacket ownedFence session.packetLease⟩,
    ⟨.external ⟨attempt.runtimeEpoch, inputs.nextEffectIds 2, attempt.intent.lookupKey, attempt.intent.requestDigest⟩,
      .beginPlatformStop ⟨attempt.intent.lookupKey, attempt.intent.requestDigest,
        .attempt attempt.runtimeEpoch attempt.attemptId, attempt.runtimeEpoch, session.platformOwnership⟩⟩]

def reduceStop (state : RuntimeState) (stop : StopIntent) (inputs : ReducerInputs) : ReducerDecision :=
  match state with
  | .idle _ => leafDecision state stop.lookupKey stop.requestDigest (.alreadyStopped none)
  | .connecting attempt _ => keep (.stopping attempt stop none)
  | .awaitingInteraction attempt prompt =>
    { nextState := .stopping attempt stop none
      effects :=
        [⟨.interaction ⟨⟨prompt.runtimeEpoch, prompt.attemptId, inputs.nextEffectIds 0⟩, prompt.interactionId,
          prompt.deadline⟩, .revokeInteraction⟩]
      operationOutcomes := []
      events := [.interactionRevoked prompt.interactionId (.attempt prompt.runtimeEpoch prompt.attemptId)] }
  | .connected session => ⟨.stopping session.attempt stop none, stopEffects session inputs, [], []⟩
  | .stopping _ _ none => keep state
  | .stopping attempt current (some queued) =>
    { nextState := .stopping attempt current none
      -- The effect belongs to the epoch of the queued connect, not to that of the attempt.
      effects :=
        [⟨.external ⟨queued.runtimeEpoch, inputs.nextEffectIds 0, queued.lookupKey, queued.requestDigest⟩,
          .revokeQueuedConnect queued⟩]
      operationOutcomes := [⟨queued.lookupKey, queued.requestDigest, .cancelledBeforeStart⟩]
      events := [] }
  | .reconciling _ _ => keep state
  | .failedClean _ _ => keep state
  | .failedDirty _ _ _ => keep state

def reduce (state : RuntimeState) (command : RuntimeCommand) (inputs : ReducerInputs) : ReducerDecision :=
  match command with
  | .connect intent => reduceConnect state intent inputs
  | .stop stop => reduceStop state stop inputs
  | _ => keep state

end Reducer

end ExvVpn.Runtime
