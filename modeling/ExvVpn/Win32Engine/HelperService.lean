import ExvVpn.Win32Engine.HelperControl
import ExvVpn.Tools.Transition

/-!
# The control service of the Windows helper

`HelperControlService` of `grpc_server.rs` with any number of lease streams and calls in progress. Each region under the core
lock is one step, and so is each publication of a status event, whose order lock and observer make it one. An `apply_tunnel`
or `stop_tunnel` that passed the gate is a call with a number and stays after its reply, since the runtime publishes events
for it later. What the runtime answers and publishes is data of the labels.
-/

namespace ExvVpn.HelperControl

open Domain Resource Wire Function

/-! ## The state -/

/-- A `maintain_owner_lease` task. -/
structure LeaseStream where
  peer : PeerContext
  leaseEstablished : Bool
  ended : Bool
  deriving DecidableEq

/-- Where a call is: an apply before, in and after `start_apply`, with the error of a refused one, a stop before and after
the teardown, and any call that has nothing left to do but reply. -/
inductive CallPc where
  | starting
  | assembling
  | refused (error : VpnError)
  | stopping (requestDigest : Bytes) (effectId : EffectId)
  | stopped
  | replied
  deriving DecidableEq

/-- A call that passed the gate. -/
structure Call where
  key : OperationLookupKey
  wireKey : WireKey
  pc : CallPc
  deriving DecidableEq

/-- The state of the service: the core, the status event last published, the lease streams and the calls. -/
structure ServiceState where
  core : HelperControlCore
  latest : Option StatusEvent
  streams : Nat → Option LeaseStream
  nextStream : Nat
  calls : Nat → Option Call
  nextCall : Nat

variable (helper : Helper) (core : HelperControlCore) (s : ServiceState)

def ServiceState.initial : ServiceState :=
  { core := .new helper, latest := none, streams := fun _ => none, nextStream := 0, calls := fun _ => none, nextCall := 0 }

/-! ## Labels -/

/-- `host_lease_message::Message`. -/
inductive HostLeaseMessage where
  | handshake (principalDigest capabilityDigest channelIdentityDigest : Bytes)
  | keepalive
  | ownershipTokenReceived (tokenDigest : Bytes)
  | empty

inductive Mutation where
  | acquireLease (request : MutationRequest)
  | applyTunnel (request : MutationRequest) (input : ApplyInput)
  | stopTunnel (request : MutationRequest)
  | releaseLease (request : MutationRequest)

def Mutation.request : Mutation → MutationRequest
  | .acquireLease request => request
  | .applyTunnel request _ => request
  | .stopTunnel request => request
  | .releaseLease request => request

def Mutation.method : Mutation → OperationMethod
  | .acquireLease _ => .acquireLease
  | .applyTunnel _ _ => .applyTunnel
  | .stopTunnel _ => .stopTunnel
  | .releaseLease _ => .releaseLease

/-- The steps of the service and of its surroundings. -/
inductive Label where
  | openLease (peer : Option PeerContext)
  | leaseMessage (stream : Nat) (runtimeEpoch : Bytes) (message : HostLeaseMessage)
  | leaseEnd (stream : Nat)
  | submit (mutation : Mutation)
  | startApply (call : Nat)
  | startReturned (call : Nat) (refusal : Option VpnError)
  | refusedPublish (call : Nat)
  | runtimeStatus (call : Nat) (phase : StatsPhase) (error : Option VpnError)
  | disconnected (call : Nat) (joined : Bool)
  | idlePublish (call : Nat)

/-! ## Lease streams -/

/-- What a task does when its stream ends: in service mode the owner of its connection is released. -/
def releaseOnEof (connection : ConnectionBinding) : HelperControlCore :=
  match helper.connectionMode with
  | .oneshot => core
  | .service =>
    match core.owner with
    | none => core
    | some owner =>
      if owner.connection = connection then
        { core with
          leases := core.leases.terminateConnection connection, owner := none,
          ownershipVersion := OwnershipVersion.next core.ownershipVersion }
      else core

/-- Whether a handshake states the authenticated principal and digests of the right length. -/
def handshakeOk (peer : PeerContext) (principalDigest capabilityDigest channelIdentityDigest : Bytes) : Bool :=
  principalDigest = peer.principal.1 ∧ capabilityDigest.length = 32 ∧ channelIdentityDigest.length = 32

/-- Whether the peer may become the owner: nobody else is. -/
def mayOwn (peer : PeerContext) : Bool :=
  match core.owner with
  | none => true
  | some existing => existing.peer = peer

/-- The acknowledgement of the token of the current owner. -/
def ackToken (tokenDigest : Bytes) : HelperControlCore :=
  match core.owner, Digest.tryFrom tokenDigest with
  | some owner, some token =>
    match core.leases.lease owner.connection with
    | some lease =>
      { core with
        leases := core.leases.ack owner.connection lease.key lease.requestDigest lease.ownershipVersion token }
    | none => core
  | _, _ => core

/-- One message of a lease stream; `none` ends the task. -/
def onLeaseMessage (stream : LeaseStream) (runtimeEpoch : Bytes) :
    HostLeaseMessage → Option (HelperControlCore × LeaseStream)
  | .handshake principalDigest capabilityDigest channelIdentityDigest =>
    if handshakeOk stream.peer principalDigest capabilityDigest channelIdentityDigest ∧ mayOwn core stream.peer then
      some ({ core with owner := some { peer := stream.peer, connection := stream.peer.connection } },
        { stream with leaseEstablished := true })
    else none
  | .keepalive =>
    if stream.leaseEstablished ∧ Id.tryFrom runtimeEpoch = some helper.runtimeEpoch then some (core, stream) else none
  | .ownershipTokenReceived tokenDigest =>
    if stream.leaseEstablished ∧ Id.tryFrom runtimeEpoch = some helper.runtimeEpoch then
      some (ackToken core tokenDigest, stream)
    else none
  | .empty =>
    if stream.leaseEstablished ∧ Id.tryFrom runtimeEpoch = some helper.runtimeEpoch then some (core, stream) else none

def endStream (number : Nat) (stream : LeaseStream) : ServiceState :=
  { s with
    core := releaseOnEof helper s.core stream.peer.connection,
    streams := update s.streams number (some { stream with ended := true }) }

/-! ## Calls -/

/-- The first region of a mutation's handler. -/
def handle : Mutation → HelperControlCore × Except Status Submitted
  | .acquireLease request => acquireLease helper core request
  | .applyTunnel request input => applyTunnel helper core request input
  | .stopTunnel request => stopTunnel helper core request
  | .releaseLease request => releaseLease helper core request

/-- The call a handler goes on with, if its first region does not reply. -/
def Submitted.call : Submitted → Option Call
  | .applying key wireKey => some { key, wireKey, pc := .starting }
  | .stopping key wireKey requestDigest effectId => some { key, wireKey, pc := .stopping requestDigest effectId }
  | .acquired _ => none
  | .acquireFailed _ _ => none
  | .released _ => none

/-- The call that goes on after the first region. -/
def nextCallOf : Except Status Submitted → Option Call
  | .ok submitted => submitted.call
  | .error _ => none

def submit (mutation : Mutation) : ServiceState × Except Status Submitted :=
  let (core, outcome) := handle helper s.core mutation
  match nextCallOf outcome with
  | some call =>
    ({ s with core, calls := update s.calls s.nextCall (some call), nextCall := s.nextCall + 1 }, outcome)
  | none => ({ s with core }, outcome)

/-- `StatusPublisher::publish`: after its end an operation does not come back, and the observer sees everything else. -/
def publish (key : OperationLookupKey) (event : StatusEvent) : ServiceState :=
  let stale : Bool := s.latest.any fun latest =>
    latest.operationId = event.operationId ∧ (latest.coarsePhase = .failed ∨ latest.coarsePhase = .idle) ∧
      (event.coarsePhase = .connecting ∨ event.coarsePhase = .connected)
  if stale then s
  else
    let core :=
      match event.coarsePhase with
      | .connected => s.core.note (.ended key true)
      | .failed => s.core.note (.ended key false)
      | .idle => s.core
      | .connecting => s.core
    { s with core := terminalObserver helper core event, latest := some event }

def ServiceState.setPc (number : Nat) (call : Call) (pc : CallPc) : ServiceState :=
  { s with calls := update s.calls number (some { call with pc }) }

/-- A step of a call, by the place it is at. -/
def callStep (number : Nat) (call : Call) : Label → ServiceState
  | .startApply _ =>
    match call.pc with
    | .starting => { s.setPc number call .assembling with core := s.core.note (.started call.key) }
    | _ => s
  | .startReturned _ refusal =>
    match call.pc, refusal with
    | .assembling, some error => s.setPc number call (.refused error)
    | .assembling, none => s.setPc number call .replied
    | _, _ => s
  | .refusedPublish _ =>
    match call.pc with
    | .refused error =>
      publish helper (s.setPc number call .replied) call.key
        { operationId := call.wireKey.operationId, coarsePhase := .failed, error := some error }
    | _ => s
  | .runtimeStatus _ phase error =>
    -- the runtime knows the operations it was started with, in `start_apply` and after it
    if call.key.method = .applyTunnel ∧ call.pc ≠ .starting then
      publish helper s call.key { operationId := call.wireKey.operationId, coarsePhase := phase, error }
    else s
  | .disconnected _ joined =>
    match call.pc with
    | .stopping requestDigest effectId =>
      if joined then
        { s.setPc number call .stopped with
          core := finishStop helper s.core call.key call.wireKey requestDigest effectId }
      else s.setPc number call .replied
    | _ => s
  | .idlePublish _ =>
    match call.pc with
    | .stopped =>
      publish helper (s.setPc number call .replied) call.key
        { operationId := call.wireKey.operationId, coarsePhase := .idle, error := none }
    | _ => s
  | _ => s

def Label.call : Label → Option Nat
  | .startApply call => some call
  | .startReturned call _ => some call
  | .refusedPublish call => some call
  | .runtimeStatus call _ _ => some call
  | .disconnected call _ => some call
  | .idlePublish call => some call
  | _ => none

/-- One step of the service. A label that is not enabled changes nothing. -/
def serviceStep (label : Label) : ServiceState :=
  match label with
  | .openLease none => s
  | .openLease (some peer) =>
    { s with
      streams := update s.streams s.nextStream (some { peer, leaseEstablished := false, ended := false }),
      nextStream := s.nextStream + 1 }
  | .leaseMessage number runtimeEpoch message =>
    match s.streams number with
    | none => s
    | some stream =>
      if stream.ended then s
      else
        match onLeaseMessage helper s.core stream runtimeEpoch message with
        | none => endStream helper s number stream
        | some (core, stream) => { s with core, streams := update s.streams number (some stream) }
  | .leaseEnd number =>
    match s.streams number with
    | none => s
    | some stream => if stream.ended then s else endStream helper s number stream
  | .submit mutation => (submit helper s mutation).1
  | label =>
    match label.call with
    | none => s
    | some number =>
      match s.calls number with
      | none => s
      | some call => callStep helper s number call label

/-- The state after a run from boot. -/
def serviceRun (labels : List Label) : ServiceState :=
  Transition.run (serviceStep helper) (.initial helper) labels

end ExvVpn.HelperControl
