import ExvVpn.Win32Host.Composition

/-! # Snapshots of the Windows host

What `GetSnapshot` answers: the state that the engine reports, or the one of the composition where the host knows better. Left
out are the stand-ins for attempts, leases and proofs, the same in every snapshot of a composition, and what is attached
beside the state: statistics, proxies, the service, reconnects and self-healing. -/

namespace ExvVpn.Win32Host

open Host Wire

/-- The state of a snapshot; the fine phase of a connect is a number on the wire. -/
inductive SnapshotState
  | idle
  | connecting (phase : Int)
  | awaitingInteraction
  | connected (sessionEstablishedAtMs : Int)
  | stopping
  | reconciling
  | failedClean (lastError : Option VpnError)
  | failedDirty (lastError : Option VpnError)
deriving DecidableEq, Repr

namespace SnapshotState

/-- A connection that is there or is being made. -/
def isLive : SnapshotState → Bool
  | .connected _ => true
  | .connecting _ => true
  | _ => false

def isConnected : SnapshotState → Bool
  | .connected _ => true
  | _ => false

/-- A connection that has failed or is being stopped. -/
def isEnding : SnapshotState → Bool
  | .failedDirty _ => true
  | .failedClean _ => true
  | .stopping => true
  | _ => false

end SnapshotState

/-- A snapshot; without an operation its identifier is empty. -/
structure RuntimeSnapshot where
  state : Option SnapshotState
  operationId : Bytes
deriving DecidableEq, Repr

/-! ## Snapshots of the composition -/

/-- The number of a fine phase on the wire. -/
def wireConnectPhaseFromDomain : ConnectPhase → Int
  | .observingOwnedState => 1
  | .acquiringPlatformLease => 2
  | .connectingControl => 3
  | .awaitingInteraction => 4
  | .negotiatingTunnel => 5
  | .applyingPlatformTunnel => 6
  | .attachingPacketBoundary => 7
  | .startingDataPlane => 8

/-- The error of a local check before the login, which leaves nothing to clean up. -/
def beforeLogin (error : VpnError) : Bool :=
  error.code = .platformDependencyUnavailable && error.stage = .observingOwnedState && error.certainty = .noEffect

variable (c : HostComposition)

namespace HostComposition

/-- The identifier of the registered operation as a snapshot carries it. -/
def operationBytes : Bytes := (c.operationId.map Subtype.val).getD []

/-- The fine phase that a snapshot shows while the host is connecting. -/
def shownConnectPhase : Int :=
  (c.actor.connectPhase.map wireConnectPhaseFromDomain).getD (wireConnectPhaseFromDomain .observingOwnedState)

end HostComposition

/-- The snapshot of a composition in a phase. -/
def snapshotForPhase (phase : HostPhase) (c : HostComposition) : RuntimeSnapshot where
  state := match phase with
    | .idle => some .idle
    | .connecting => some (.connecting c.shownConnectPhase)
    | .connected => some (.connected (c.sessionEstablishedAtMs.getD 0))
    | .reconciling => some .reconciling
    | .stopping => some .stopping
    | .stopped => some .idle
    | .failed =>
      if c.lastWireError.any beforeLogin then some (.failedClean c.lastWireError) else some (.failedDirty c.lastWireError)
  operationId := c.operationBytes

/-- The snapshot of a host whose engine cannot be asked: what has ended stays, the rest is to be recovered. -/
def disconnectedSnapshot : RuntimeSnapshot :=
  match c.phase with
  | .idle => snapshotForPhase .idle c
  | .stopped => snapshotForPhase .stopped c
  | .failed => snapshotForPhase .failed c
  | _ => ⟨some .reconciling, c.operationBytes⟩

/-- The choice between the snapshot of the engine and the one of the composition. -/
def preferSnapshot (engine : Option RuntimeSnapshot) (composition : RuntimeSnapshot) : RuntimeSnapshot :=
  match engine with
  | none => composition
  | some engine =>
    if composition.operationId ≠ [] ∧ engine.operationId ≠ [] ∧ composition.operationId ≠ engine.operationId then composition
    else if composition.state.any SnapshotState.isEnding ∧ engine.state.any SnapshotState.isLive then composition
    else if engine.state = some .idle ∧ engine.operationId = [] ∧ composition.state ≠ some .idle then
      if composition.state.any SnapshotState.isConnected then { composition with state := some .reconciling }
      else composition
    else engine

/-- A confirmed session start replaces one that is missing. -/
def snapshotWithConfirmedSessionStart (snapshot : RuntimeSnapshot) (confirmed : Option Int) : RuntimeSnapshot :=
  match confirmed.filter (0 < ·), snapshot.state with
  | some start, some (.connected ms) => if ms ≤ 0 then { snapshot with state := some (.connected start) } else snapshot
  | _, _ => snapshot

/-! ## Queries -/

/-- What a query has read of the composition before it asks the engine. -/
structure QueryBasis where
  phase : HostPhase
  operationId : Option OperationId
deriving DecidableEq

/-- What a query reads of the composition. -/
def queryBasis : QueryBasis := ⟨c.phase, c.operationId⟩

/-- The engine answers that it has no session, while the host shows the one the query started from. -/
def sessionMissing (basis : QueryBasis) (engine : Option RuntimeSnapshot) : Bool :=
  basis.phase = .connected && c.phase = .connected && basis.operationId = c.operationId &&
    engine.any fun snapshot => snapshot.operationId = [] && snapshot.state = some .idle

/-- The composition after a session was found missing, which is handled as a failure of its operation. -/
def failMissingSession (basis : QueryBasis) (engine : Option RuntimeSnapshot) :
    Option HostComposition :=
  -- the clock is read for a `Connected` event only
  if sessionMissing c basis engine then runtimeEventFromStatus c (.failed c.operationBytes unexpectedStopError) 0 else none

/-- The snapshot that is selected once the engine has answered; `none` is a query that has failed. -/
def selectedSnapshot (engine : Option RuntimeSnapshot) : RuntimeSnapshot :=
  snapshotWithConfirmedSessionStart
    (preferSnapshot engine (if engine.isNone then disconnectedSnapshot c else snapshotForPhase c.phase c))
    c.sessionEstablishedAtMs

/-- The answer of `GetSnapshot` to a query. -/
def getSnapshot (basis : QueryBasis) (engine : Option RuntimeSnapshot) : RuntimeSnapshot :=
  selectedSnapshot ((failMissingSession c basis engine).getD c) engine

end ExvVpn.Win32Host
