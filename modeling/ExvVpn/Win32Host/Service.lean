import ExvVpn.Tools.Transition
import ExvVpn.Win32Host.Reconnect
import ExvVpn.Win32Host.Snapshot

/-! # The kernel control service of the Windows host

One state for all tasks of the service: connect attempts, stop calls, snapshot calls, the status forwarder and the reconnect
worker. A step is one lock region of one task, or an event from outside that the task answers. The mutexes of the route and of
the engine, which only take interleavings away, are left out. A future that is dropped at a wait is a step too. -/

namespace ExvVpn.Win32Host

open Host Wire Function HostComposition

/-- What has happened so far, as far as statements about runs speak of it; no step reads it. -/
structure History where
  /-- The attempts whose cancellation a stop has recorded. -/
  cancelRecorded : List Nat
  /-- An attempt has passed the point before `ApplyTunnel`, and no stop has been confirmed since. -/
  applied : Bool
  /-- An established tunnel has dropped for a retryable reason; neither success nor stop nor manual connect since. -/
  dropped : Bool
  /-- The reconnect attempts that were started since their number was last reset, the last first. -/
  started : List StartedAttempt

structure ServiceState where
  composition : HostComposition
  dispatch : Option ConnectDispatch
  attempts : Nat → Option ConnectPc
  stops : Nat → Option StopCall
  /-- The snapshot calls that wait for the engine. -/
  queries : Nat → Option QueryBasis
  /-- Fresh identifiers stand for random ones. -/
  nextId : Nat
  /-- The generation of the engine slot. -/
  generation : Nat
  attachment : StatusAttachment
  forwarder : Forwarder
  policy : Option ReconnectSessionPolicy
  reconnectAttempts : Nat
  reconnectActive : Bool
  /-- Signals to the reconnect worker that it has not taken. -/
  signals : Nat
  worker : WorkerPc
  backoffBase : Nat
  backoffCap : Nat
  history : History

/-- The service before anything has happened, with the backoff it was built with. -/
def ServiceState.initial (backoffBase backoffCap : Nat) : ServiceState where
  composition := compose.bindController
  dispatch := none
  attempts := fun _ => none
  stops := fun _ => none
  queries := fun _ => none
  nextId := 0
  generation := 0
  attachment := ⟨0, false⟩
  forwarder := ⟨.looping, 0⟩
  policy := none
  reconnectAttempts := 0
  reconnectActive := false
  signals := 0
  worker := .idle
  backoffBase := backoffBase
  backoffCap := backoffCap
  history := ⟨[], false, false, []⟩

/-! ## Connect attempts -/

/-- What the admission of a connect comes to. -/
inductive Admission
  | admitted (id : Nat)
  | superseded
  | refused (refusal : ConnectRefusal)

variable (s : ServiceState)

/-- A session policy starts the count of reconnect attempts again. -/
def adoptPolicy : Option ReconnectSessionPolicy → ServiceState
  | some policy =>
    { s with
      policy := some policy, reconnectAttempts := 0, reconnectActive := false
      history := { s.history with dropped := false, started := [] } }
  | none => s

/-- The admission of a connect: the attempt it expects is still current, the composition admits it, the record is replaced. -/
def admitConnect (key : Bytes) (policy : Option ReconnectSessionPolicy) (expected : Option Nat) :
    ServiceState × Admission :=
  if expected.any (fun id => !isCurrent s.dispatch id) then (s, .superseded)
  else match s.composition.actor.connectRefusal with
    | some refusal => (s, .refused refusal)
    | none =>
      let s' := { s with
        composition := (s.composition.after .connect).registerOperation (operationIdOf key)
        dispatch := some ⟨s.nextId, false, none, false, stopOwed s.dispatch⟩
        attempts := update s.attempts s.nextId (some .awaitingRoute)
        nextId := s.nextId + 1 }
      (adoptPolicy s' policy, .admitted s.nextId)

def ServiceState.setAttempt (id : Nat) (pc : ConnectPc) : ServiceState :=
  { s with attempts := update s.attempts id (some pc) }

def ServiceState.setComposition (c : HostComposition) : ServiceState := { s with composition := c }

/-- The record of the current attempt gets the generation it is routed to. -/
def ServiceState.setTarget (target : Nat) : ServiceState :=
  { s with dispatch := s.dispatch.map fun state => { state with targetGeneration := some target } }

/-- The attempt returns; the worker gets the result of its own. -/
def ServiceState.endAttempt (id : Nat) (result : ConnectResult) : ServiceState :=
  { s with
    attempts := update s.attempts id none
    worker := if s.worker = .connecting id then .returned result else s.worker }

/-- The error of a connect that fails in the host. -/
def routeFailureWireError : VpnError := ⟨.sessionBusy, .admission, .noEffect, .useNewOperation⟩

/-- The failure of an attempt, unless it was superseded or cancelled. -/
def applyConnectFailedForRoute (id : Nat) : ServiceState :=
  if isCurrent s.dispatch id then
    s.setComposition
      ((s.composition.setLastWireError routeFailureWireError).after (.connectFailed routeFailureWireError))
  else s

/-- The point before `ApplyTunnel`: the attempt is current, and the engine and its status stream are the ones it was routed to. -/
def mayApply (id target : Nat) : Bool :=
  isCurrent s.dispatch id && s.generation = target && s.attachment.readyFor target

/-- The record after the attempt has passed that point. -/
def markApplied : ServiceState :=
  { s with
    dispatch := s.dispatch.map fun state => { state with attemptApplied := true, stopRequired := true }
    history := { s.history with applied := true } }

/-- The steps of an attempt that was admitted. -/
inductive AttemptLabel
  | routeLock
  | provisionCapture
  /-- The composition is rebuilt for the new engine; `authorized` is whether the gate takes the controller again. -/
  | provisionRebind (authorized : Bool)
  | provisionRestore
  | routeReturn (ok : Bool)
  | routeCheck
  | routeTarget
  | statusReady
  | statusNotReady
  | engineLock
  | prepareError
  | beforeApply
  | applyReply (ok : Bool)
  | fail
  /-- The call was dropped by its client. -/
  | abandon

/-- The connect in flight that the provisioner will restore. -/
def inflightConnect (c : HostComposition) : Option (Option OperationId) :=
  if c.phase = .connecting then some c.operationId else none

/-- A connect in flight is registered again in the rebuilt composition. -/
def restoreInflight (c : HostComposition) : Option (Option OperationId) → HostComposition
  | some operation => (c.after .connect).registerOperation operation
  | none => c

def attemptStep (id : Nat) (label : AttemptLabel) : ServiceState :=
  match label, s.attempts id with
  | .routeLock, some .awaitingRoute =>
    if isCurrent s.dispatch id then s.setAttempt id .routing else s.endAttempt id .error
  | .provisionCapture, some .routing => s.setAttempt id (.provisionCaptured (inflightConnect s.composition))
  | .provisionRebind authorized, some (.provisionCaptured inflight) =>
    -- the old composition is gone even when the gate refuses the controller
    if authorized then
      (s.setComposition compose.bindController).setAttempt id (.provisionRebound inflight)
    else (s.setComposition compose).setAttempt id (.routeDone false)
  | .provisionRestore, some (.provisionRebound inflight) =>
    (s.setComposition (restoreInflight s.composition inflight)).setAttempt id .routing
  | .routeReturn ok, some .routing => s.setAttempt id (.routeDone ok)
  | .routeCheck, some (.routeDone ok) =>
    if isCurrent s.dispatch id = false then s.endAttempt id .error
    else if ok then s.setAttempt id (.routed s.generation)
    else s.setAttempt id .failing
  | .routeTarget, some (.routed target) =>
    if s.generation ≠ target then s.setAttempt id .failing
    else if isCurrent s.dispatch id then (s.setTarget target).setAttempt id (.awaitingStatus target)
    else s.endAttempt id .error
  | .statusReady, some (.awaitingStatus target) =>
    if isCurrent s.dispatch id = false then s.endAttempt id .error
    else if s.attachment.readyFor target then s.setAttempt id (.awaitingEngine target)
    else s
  | .statusNotReady, some (.awaitingStatus _) =>
    if isCurrent s.dispatch id then s.setAttempt id .failing else s.endAttempt id .error
  | .engineLock, some (.awaitingEngine target) =>
    if isCurrent s.dispatch id then s.setAttempt id (.preparing target) else s.endAttempt id .error
  | .prepareError, some (.preparing _) => s.setAttempt id .failing
  | .beforeApply, some (.preparing target) =>
    if mayApply s id target then (markApplied s).setAttempt id .applying else s.setAttempt id .failing
  | .applyReply ok, some .applying => if ok then s.endAttempt id .ok else s.setAttempt id .failing
  | .fail, some .failing => (applyConnectFailedForRoute s id).endAttempt id .error
  | .abandon, some _ =>
    -- the attempt of the worker is nobody's call
    if s.worker = .connecting id then s else { s with attempts := update s.attempts id none }
  | _, _ => s

/-! ## Stop calls -/

/-- A stop is accepted: the current attempt is cancelled, the session ends, the host starts to stop. -/
def acceptStop (key : Bytes) : ServiceState :=
  let attempt := s.dispatch.map ConnectDispatch.id
  -- without a record there may be a tunnel of an earlier process
  let stopRequired := s.dispatch.all ConnectDispatch.stopRequired
  { s with
    dispatch := s.dispatch.map fun state => { state with cancelled := true }
    policy := none
    reconnectActive := false
    composition := ((s.composition.after .disconnect).after (.teardownSideJoined .protocolControl)).registerOperation
      (operationIdOf key)
    stops := update s.stops s.nextId
      (some ⟨attempt, stopRequired, if stopRequired then .leasing else .finishing, false⟩)
    nextId := s.nextId + 1
    history := { s.history with cancelRecorded := attempt.toList ++ s.history.cancelRecorded, dropped := false } }

/-- The end of a stop, confirmed or without an engine to ask; a stop of an attempt that is no longer the last does nothing. -/
def finishLocalStop (call : StopCall) : ServiceState :=
  if s.dispatch.map ConnectDispatch.id ≠ call.attempt then s
  else
    { s with
      dispatch := s.dispatch.map fun state => { state with stopRequired := false }
      composition := s.composition.synthesizeDataPlaneJoin.reopenIfStopped
      history := { s.history with applied := if call.stopTunnelSent then false else s.history.applied } }

/-- What the engine answers to `StopTunnel`. -/
inductive StopReply
  | stopped
  | other
  | error
deriving DecidableEq, Repr

/-- The steps of a stop call that was accepted. -/
inductive StopLabel
  | lease (ok : Bool)
  | reply (reply : StopReply)
  | finish
  /-- The call was dropped by its client. -/
  | abandon

/-- The stop call moves on, or returns. -/
def ServiceState.setStop (key : Nat) (call : Option StopCall) : ServiceState :=
  { s with stops := update s.stops key call }

def stopStep (key : Nat) (label : StopLabel) : ServiceState :=
  match s.stops key with
  | none => s
  | some call =>
    match label, call.pc with
    | .lease ok, .leasing =>
      if ok then s.setStop key (some { call with pc := .sending, stopTunnelSent := true }) else s.setStop key none
    | .reply .stopped, .sending => s.setStop key (some { call with pc := .finishing })
    | .reply _, .sending => s.setStop key none
    | .finish, .finishing => (finishLocalStop s call).setStop key none
    | .abandon, _ => s.setStop key none
    | _, _ => s

/-! ## Snapshot calls -/

/-- The steps of a snapshot call: it asks the engine, and the engine answers or fails to. -/
inductive SnapshotLabel
  | query
  | reply (engine : Option RuntimeSnapshot)

/-- A step of a snapshot call. A session that the engine does not know is failed, and the reconnect worker is told. -/
def snapshotStep (call : Nat) (label : SnapshotLabel) : ServiceState :=
  match label, s.queries call with
  | .query, none => { s with queries := update s.queries call (some (queryBasis s.composition)) }
  | .reply engine, some basis =>
    let s' := { s with queries := update s.queries call none }
    match failMissingSession s.composition basis engine with
    | none => s'
    | some c =>
      { s' with composition := c, signals := s.signals + 1, history := { s.history with dropped := true } }
  | _, _ => s

/-! ## The status forwarder -/

/-- What the reconnect state makes of an event that was not dropped. -/
def noteStatus (wasConnected : Bool) : EngineStatusEvent → ServiceState
  | .progress _ _ => s
  | .connected _ _ =>
    { s with
      reconnectAttempts := 0, reconnectActive := false
      history := { s.history with dropped := false, started := [] } }
  | .failed _ error =>
    if isRetryableDisconnect error then
      { s with
        reconnectActive := false, signals := s.signals + 1
        history := { s.history with dropped := s.history.dropped || wasConnected } }
    else { s with reconnectActive := false }
  | .stopped _ => { s with reconnectActive := false }

/-- An event of the status stream; one of an older generation of the engine is dropped. -/
def handleStatus (event : EngineStatusEvent) (nowMs : Int) : ServiceState :=
  if s.generation ≠ s.forwarder.generation then s
  else
    let event := normalizeUnexpectedStop event s.composition
    match runtimeEventFromStatus s.composition event nowMs with
    | none => s
    | some c => noteStatus (s.setComposition c) (s.composition.phase = .connected) event

/-- The stream has ended or could not be opened: the data plane is taken to have joined a teardown that waits for it. -/
def convergeDisconnected : ServiceState :=
  if s.generation = s.forwarder.generation then s.setComposition s.composition.synthesizeDataPlaneJoin else s

inductive ForwarderLabel
  | read
  | attachOk
  | attachFailed
  | slotSwapped
  | status (event : EngineStatusEvent) (nowMs : Int)
  | streamEof
  | converge
  | retry
  | exit

/-- The forwarder goes on elsewhere. -/
def ServiceState.setForwarder (pc : ForwarderPc) : ServiceState :=
  { s with forwarder := { s.forwarder with pc } }

/-- The attachment of the forwarder's generation is revoked. -/
def ServiceState.revokeAttachment : ServiceState :=
  { s with attachment := s.attachment.revoke s.forwarder.generation }

/-- The forwarder has seen that the slot was swapped. -/
def followSwap : ServiceState :=
  { s with
    attachment := (s.attachment.revoke s.forwarder.generation).advance s.generation
    forwarder := { s.forwarder with pc := .looping } }

def forwarderStep (label : ForwarderLabel) : ServiceState :=
  match label, s.forwarder.pc with
  | .read, .looping =>
    { s with forwarder := ⟨.subscribing, s.generation⟩, attachment := s.attachment.advance s.generation }
  | .attachOk, .subscribing =>
    if s.generation = s.forwarder.generation ∧ s.attachment.generation ≤ s.forwarder.generation then
      { s with attachment := ⟨s.forwarder.generation, true⟩, forwarder := { s.forwarder with pc := .streaming } }
    else followSwap s
  | .attachFailed, .subscribing => s.revokeAttachment.setForwarder .disconnecting
  | .slotSwapped, .subscribing => if s.generation = s.forwarder.generation then s else followSwap s
  | .slotSwapped, .streaming => if s.generation = s.forwarder.generation then s else followSwap s
  | .slotSwapped, .backoff => if s.generation = s.forwarder.generation then s else followSwap s
  | .status event nowMs, .streaming => handleStatus s event nowMs
  | .streamEof, .streaming => s.revokeAttachment.setForwarder .disconnecting
  | .converge, .disconnecting => (convergeDisconnected s).setForwarder .backoff
  | .retry, .backoff => s.setForwarder .looping
  | .exit, _ => s.revokeAttachment.setForwarder .ended
  | _, _ => s

/-! ## The reconnect worker -/

/-- The steps of the worker; the key is the operation of the new attempt. -/
inductive WorkerLabel
  | take
  | start
  | wake (key : Bytes)
  | finish

/-- The worker goes on elsewhere. -/
def ServiceState.setWorker (pc : WorkerPc) : ServiceState := { s with worker := pc }

/-- The worker has taken a signal: no attempt in flight, and the policy of the session allows one more. -/
def driveReconnect : ServiceState :=
  if s.reconnectActive then s
  else match s.policy with
    | none => s
    | some policy =>
      if policy.autoReconnect = false then s
      else if policy.exhausted s.reconnectAttempts then s
      else s.setWorker (.loaded policy s.reconnectAttempts)

/-- The attempt is counted and marked as in flight; then the worker sleeps. -/
def startReconnect (policy : ReconnectSessionPolicy) (attempts origin : Nat) : ServiceState :=
  let number := attempts + 1
  let delay := if policy.backoff then reconnectBackoffDelay s.backoffBase s.backoffCap number else 0
  { s with
    reconnectActive := true
    reconnectAttempts := s.reconnectAttempts + 1
    worker := .sleeping origin
    history := { s.history with started := ⟨number, delay⟩ :: s.history.started } }

def workerStep (label : WorkerLabel) : ServiceState :=
  match label, s.worker with
  | .take, .idle => if s.signals = 0 then s else driveReconnect { s with signals := s.signals - 1 }
  | .start, .loaded policy attempts =>
    match currentReconnectDispatchId s.dispatch with
    | none => s.setWorker .idle
    | some origin => startReconnect s policy attempts origin
  | .wake key, .sleeping origin =>
    match admitConnect s key none (some origin) with
    | (s', .admitted id) => s'.setWorker (.connecting id)
    | (s', .superseded) => s'.setWorker (.returned .superseded)
    | (s', .refused _) => s'.setWorker (.returned .error)
  | .finish, .returned result =>
    match result with
    | .error => { s with reconnectActive := false, worker := .idle }
    | _ => s.setWorker .idle
  | _, _ => s

/-! ## The service -/

inductive ServiceLabel
  /-- The user connects. -/
  | connect (key : Bytes) (policy : ReconnectSessionPolicy)
  | attempt (id : Nat) (label : AttemptLabel)
  /-- The user stops. -/
  | stop (key : Bytes)
  | stopCall (key : Nat) (label : StopLabel)
  | snapshot (call : Nat) (label : SnapshotLabel)
  | forwarder (label : ForwarderLabel)
  | worker (label : WorkerLabel)
  /-- Another engine takes the slot. -/
  | slotSwap
  /-- A route publishes the generation it has swapped to. -/
  | advanceAttachment
  /-- The process of the engine has died. -/
  | helperLinkTerminal
  /-- The composition is rebuilt for the engine that was started in place of the dead one. -/
  | respawnRebind (authorized : Bool)
  /-- A change of the service finds nothing to stop. -/
  | transitionIdle
  /-- A change of the service has stopped the engine. -/
  | transitionStop

/-- The teardown of a change of the service. -/
def transitionStop (c : HostComposition) : HostComposition :=
  (((c.after .disconnect).after (.teardownSideJoined .protocolControl)).after (.teardownSideJoined .packetData)).after
    .reopenAdmission

def serviceStep : ServiceLabel → ServiceState
  | .connect key policy => (admitConnect s key (some policy) none).1
  | .attempt id label => attemptStep s id label
  | .stop key => acceptStop s key
  | .stopCall key label => stopStep s key label
  | .snapshot call label => snapshotStep s call label
  | .forwarder label => forwarderStep s label
  | .worker label => workerStep s label
  | .slotSwap => { s with generation := s.generation + 1 }
  | .advanceAttachment => { s with attachment := s.attachment.advance s.generation }
  | .helperLinkTerminal => s.setComposition s.composition.onHelperLinkTerminal
  | .respawnRebind authorized =>
    s.setComposition (if authorized then compose.bindController else compose)
  | .transitionIdle => s.setComposition s.composition.reopenIfStopped
  | .transitionStop => s.setComposition (transitionStop s.composition)

end ExvVpn.Win32Host
