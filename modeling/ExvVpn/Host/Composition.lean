import ExvVpn.Basic

/-! # The portable host composition

The phase machine of the host with its admission gate and the two-sided teardown barrier. It is pure: an event gives a new
composition and an effect. The error a failure carries is kept as the wire form, `ε`, that the callers hand over. -/

namespace ExvVpn.Host

/-- A side of the teardown barrier. -/
inductive TeardownSide
  | protocolControl
  | packetData
deriving DecidableEq, Repr

/-- What a join of the barrier comes to. -/
inductive JoinOutcome
  | pending
  | released
  | rejected
deriving DecidableEq, Repr

/-- The barrier that is released once both sides have joined. -/
structure TeardownBarrier where
  joinedControl : Bool
  joinedData : Bool
  released : Bool
deriving DecidableEq, Repr

namespace TeardownBarrier

/-- The fresh barrier, which neither side has joined. -/
def new : TeardownBarrier := ⟨false, false, false⟩

def joined (b : TeardownBarrier) : TeardownSide → Bool
  | .protocolControl => b.joinedControl
  | .packetData => b.joinedData

/-- The barrier with one more side joined. -/
def setJoined (b : TeardownBarrier) : TeardownSide → TeardownBarrier
  | .protocolControl => { b with joinedControl := true }
  | .packetData => { b with joinedData := true }

/-- One side joins. A released barrier and a side that has already joined are rejected. -/
def join (b : TeardownBarrier) (side : TeardownSide) : TeardownBarrier × JoinOutcome :=
  if b.released then (b, .rejected)
  else if b.joined side then (b, .rejected)
  else if (b.setJoined side).joinedControl && (b.setJoined side).joinedData then
    ({ b.setJoined side with released := true }, .released)
  else (b.setJoined side, .pending)

end TeardownBarrier

inductive HostPhase
  | idle
  | connecting
  | connected
  | reconciling
  | stopping
  | stopped
  | failed
deriving DecidableEq, Repr

/-- The fine phase of a connect attempt. -/
inductive ConnectPhase
  | observingOwnedState
  | acquiringPlatformLease
  | connectingControl
  | awaitingInteraction
  | negotiatingTunnel
  | applyingPlatformTunnel
  | attachingPacketBoundary
  | startingDataPlane
deriving DecidableEq, Repr

inductive HostEvent (ε : Type)
  | connect
  | protocolEstablished
  | disconnect
  | helperLinkLost
  | stopNewAdmission
  | teardownSideJoined (side : TeardownSide)
  | connectFailed (error : ε)
  | connectionLost (error : ε)
  | connectPhaseProgress (phase : ConnectPhase)
  | reopenAdmission

inductive ConnectRefusal
  | admissionClosed
  | noPeerCapability
  | teardownInProgress
deriving DecidableEq, Repr

/-- What an event comes to. -/
inductive HostEffect
  | connectAdmitted
  | connectRefused (refusal : ConnectRefusal)
  | connected
  | reconcilingEntered
  | admissionStopped
  | teardownInitiated
  | teardownPending
  | stopped
  | connectFailed
  | phaseProgressed
  | admissionReopened
  | admissionReopenIgnored
deriving DecidableEq, Repr

/-- The composition; of the bound peer and its capability only the binding matters. -/
structure HostComposition (ε : Type) where
  phase : HostPhase
  admissionOpen : Bool
  teardown : TeardownBarrier
  capabilityBound : Bool
  connectPhase : Option ConnectPhase
  lastError : Option ε

namespace HostComposition

variable {ε : Type}

def new : HostComposition ε := ⟨.idle, true, TeardownBarrier.new, false, none, none⟩

/-- Binds the authenticated peer and its capability. -/
def bindPeer (c : HostComposition ε) : HostComposition ε := { c with capabilityBound := true }

/-- The refusal with which a connect is answered, if it is. -/
def connectRefusal (c : HostComposition ε) : Option ConnectRefusal :=
  if c.admissionOpen = false then some .admissionClosed
  else if c.capabilityBound = false then some .noPeerCapability
  else if c.phase = .stopping ∨ c.phase = .reconciling then some .teardownInProgress
  else none

def apply (c : HostComposition ε) : HostEvent ε → HostComposition ε × HostEffect
  | .connect =>
    match c.connectRefusal with
    | some refusal => (c, .connectRefused refusal)
    | none =>
      ({ c with phase := .connecting, connectPhase := some .observingOwnedState, lastError := none }, .connectAdmitted)
  | .protocolEstablished =>
    -- whatever the phase was
    ({ c with phase := .connected, connectPhase := some .startingDataPlane, lastError := none }, .connected)
  | .connectPhaseProgress phase => ({ c with connectPhase := some phase }, .phaseProgressed)
  | .connectFailed error =>
    ({ c with lastError := some error, phase := if c.phase = .connecting then .failed else c.phase }, .connectFailed)
  | .connectionLost error =>
    if c.phase = .connected ∨ c.phase = .connecting then
      ({ c with lastError := some error, phase := .failed, connectPhase := none }, .connectFailed)
    else ({ c with lastError := some error }, .connectFailed)
  | .disconnect =>
    ({ c with admissionOpen := false, phase := .stopping, teardown := TeardownBarrier.new }, .teardownInitiated)
  | .helperLinkLost =>
    if c.phase = .connecting ∨ c.phase = .connected then
      ({ c with admissionOpen := false, phase := .reconciling }, .reconcilingEntered)
    else (c, .admissionStopped)
  | .stopNewAdmission => ({ c with admissionOpen := false }, .admissionStopped)
  | .teardownSideJoined side =>
    match c.teardown.join side with
    | (teardown, .released) => ({ c with teardown, phase := .stopped }, .stopped)
    | (teardown, _) => ({ c with teardown }, .teardownPending)
  | .reopenAdmission =>
    -- the only way out of `stopped` that opens admission
    if c.phase = .stopped then
      ({ c with admissionOpen := true, phase := .idle, connectPhase := none }, .admissionReopened)
    else (c, .admissionReopenIgnored)

end HostComposition

end ExvVpn.Host
