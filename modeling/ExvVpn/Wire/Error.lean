import ExvVpn.Host.Composition

/-! # Errors on the wire

The structured error that engine and host exchange, and the two places of the engine that make one: the assembly of a tunnel
that fails, and the data plane of an established tunnel that drops. Subject, resource and native detail, which decide nothing
in the host, are left out. A number without a name is `unrecognized`. -/

namespace ExvVpn.Wire

inductive ErrorCode
  | unspecified
  | invalidInput
  | idempotencyConflict
  | connectInProgress
  | sessionBusy
  | reconnectAlreadyQueued
  | cancelledBeforeStart
  | authorityAlreadyHeld
  | ownershipAcquisitionPending
  | observedConflict
  | journalCorrupt
  | dataPlaneBackpressure
  | packetLeaseAlreadyAttached
  | effectUnknown
  | observationFailed
  | unauthorized
  | deadlineExceeded
  | activeAttemptCannotReconcile
  | activeSessionCannotReconcile
  | platformDependencyUnavailable
  | unrecognized (value : Int)
deriving DecidableEq, Repr

/-- The stage in which an error arose. -/
inductive ErrorStage
  | unspecified
  | ingress
  | admission
  | observingOwnedState
  | acquiringPlatformLease
  | connectingControl
  | awaitingInteraction
  | negotiatingTunnel
  | applyingPlatformTunnel
  | attachingPacketBoundary
  | startingDataPlane
  | protocolSession
  | dataPlane
  | teardown
  | recovery
  | journal
  | unrecognized (value : Int)
deriving DecidableEq, Repr

/-- What is known about the effect of the failed operation. -/
inductive EffectCertainty
  | unspecified
  | noEffect
  | applied
  | partially
  | unknown
  | unrecognized (value : Int)
deriving DecidableEq, Repr

/-- What the sender of an error advises. -/
inductive RetryAdvice
  | unspecified
  | doNotRetry
  | retrySameOperation
  | useNewOperation
  | reconcile
  | restartProcess
  | unrecognized (value : Int)
deriving DecidableEq, Repr

structure VpnError where
  code : ErrorCode
  stage : ErrorStage
  certainty : EffectCertainty
  retry : RetryAdvice
deriving DecidableEq, Repr

/-- Whether an error is the drop of an established data plane, which the host answers with a reconnect. -/
def isRetryableDisconnect (error : VpnError) : Bool :=
  error.stage = .dataPlane && error.retry = .retrySameOperation

/-! ## Errors the engine reports -/

/-- Why an assembly of a tunnel failed. -/
inductive TunnelErrorKind
  | duplicateConnect
  | missingCredentials
  | loginRejected
  | loginSaml
  | transport
  | platform
  | platformDependency
deriving DecidableEq, Repr

/-- The failure of an assembly: its kind, the phase it arose in, and the gateway's result code of a login. -/
structure TunnelError where
  kind : TunnelErrorKind
  connectPhase : Host.ConnectPhase
  a0 : Nat
deriving DecidableEq, Repr

/-- The wire code of an assembly failure. -/
def tunnelErrorCode (err : TunnelError) : ErrorCode :=
  match err.kind with
  | .duplicateConnect => .connectInProgress
  | .missingCredentials => .invalidInput
  | .loginRejected => if err.a0 ≠ 0 then .unauthorized else .effectUnknown
  | .loginSaml => .invalidInput
  | .transport => .deadlineExceeded
  | .platform => .effectUnknown
  | .platformDependency => .platformDependencyUnavailable

/-- The error that a failed assembly reports. -/
def tunnelErrorToWire (err : TunnelError) : VpnError where
  code := tunnelErrorCode err
  stage :=
    if err.kind = .platformDependency ∨ err.kind = .platform then
      if err.connectPhase = .observingOwnedState then .observingOwnedState
      else if err.connectPhase = .startingDataPlane then .startingDataPlane
      else .applyingPlatformTunnel
    else .ingress
  certainty :=
    if err.kind = .platformDependency then
      if err.connectPhase = .observingOwnedState then .noEffect else .unknown
    else .unspecified
  retry := .doNotRetry

/-- The error that the data plane reports when it drops after the tunnel was established. -/
def dataPlaneDropError : VpnError := ⟨.effectUnknown, .dataPlane, .unspecified, .retrySameOperation⟩

end ExvVpn.Wire
