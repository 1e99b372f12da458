import ExvVpn.Wire.Error

/-! # The composition of the Windows host

One portable composition, the runtime actor, with the packet relay and the registers of the operation in flight. What the
status stream of the engine does to it is here as well: which terminal events are stale, and how an unexpected stop becomes a
failure. -/

namespace ExvVpn.Win32Host

open Host Wire

/-! ## The packet relay -/

inductive RelayLegState
  | attached
  | running
  | terminal
deriving DecidableEq, Repr

/-- The two legs of the relay. -/
structure Relay where
  receiveLeg : RelayLegState
  sendLeg : RelayLegState
deriving DecidableEq, Repr

/-- A leg starts from `attached` only. -/
def startLeg (leg : RelayLegState) : RelayLegState := if leg = .attached then .running else leg

/-- A leg that was stopped is armed again. -/
def resetLeg (leg : RelayLegState) : RelayLegState := if leg = .terminal then .attached else leg

namespace Relay

/-- Starts both legs after arming them again. -/
def restart (r : Relay) : Relay := ⟨startLeg (resetLeg r.receiveLeg), startLeg (resetLeg r.sendLeg)⟩

/-- Stops both legs. -/
def stop (_ : Relay) : Relay := ⟨.terminal, .terminal⟩

end Relay

/-! ## The composition -/

/-- The identifier of an operation: sixteen bytes. -/
def OperationId := { bytes : Bytes // bytes.length = 16 }
deriving DecidableEq

/-- The identifier in a lookup key, if it has the right length. -/
def operationIdOf (bytes : Bytes) : Option OperationId :=
  if h : bytes.length = 16 then some ⟨bytes, h⟩ else none

/-- The host composition: the runtime actor, the relay, and the registers of the operation in flight. -/
structure HostComposition where
  actor : Host.HostComposition VpnError
  relay : Relay
  teardownStarted : Bool
  stopRequests : Nat
  operationId : Option OperationId
  lastWireError : Option VpnError
  sessionEstablishedAtMs : Option Int

variable (c : HostComposition)

namespace HostComposition

def compose : HostComposition :=
  ⟨Host.HostComposition.new, ⟨.attached, .attached⟩, false, 0, none, none, none⟩

/-- Binds the authorized controller to the actor. -/
def bindController : HostComposition := { c with actor := c.actor.bindPeer }

def phase : HostPhase := c.actor.phase

/-- Whether the actor admits connections. -/
def admissionOpen : Bool := c.actor.admissionOpen

/-- Applies an event to the actor; the relay follows its lifecycle. -/
def apply (event : HostEvent VpnError) : HostComposition × HostEffect :=
  let (actor, effect) := c.actor.apply event
  match event with
  | .connectionLost _ => ({ c with actor, relay := c.relay.stop, sessionEstablishedAtMs := none }, effect)
  | .protocolEstablished => ({ c with actor, relay := c.relay.restart }, effect)
  | .disconnect =>
    ({ c with actor, relay := c.relay.stop, stopRequests := c.stopRequests + 1, teardownStarted := true }, effect)
  | _ => ({ c with actor }, effect)

def after (event : HostEvent VpnError) : HostComposition := (c.apply event).1

@[simp] theorem after_actor (event : HostEvent VpnError) :
    (c.after event).actor = (c.actor.apply event).1 := by
  cases event <;> rfl

/-- Registers the operation that was dispatched; the error and the session start of the one before are dropped. -/
def setOperationId (id : OperationId) : HostComposition :=
  { c with operationId := some id, lastWireError := none, sessionEstablishedAtMs := none }

/-- Registers an operation if there is one to register. -/
def registerOperation : Option OperationId → HostComposition
  | some id => c.setOperationId id
  | none => c

/-- Records the session start, if it is positive. -/
def setSessionEstablishedAtMs : Option Int → HostComposition
  | some ms => if 0 < ms then { c with sessionEstablishedAtMs := some ms } else c
  | none => c

/-- Records the error of a failure. -/
def setLastWireError (error : VpnError) : HostComposition := { c with lastWireError := some error }

/-- The data plane joins the barrier in the engine's place, but only while the host is stopping. -/
def synthesizeDataPlaneJoin : HostComposition :=
  if c.phase = .stopping then c.after (.teardownSideJoined .packetData) else c

/-- Admission is opened again once the teardown is complete. -/
def reopenIfStopped : HostComposition :=
  if c.phase = .stopped then c.after .reopenAdmission else c

def onHelperLinkTerminal : HostComposition :=
  let c := { c with sessionEstablishedAtMs := none, teardownStarted := true, relay := c.relay.stop }
  let (actor, effect) := c.actor.apply .helperLinkLost
  if effect = .admissionStopped then { c with actor := (actor.apply .stopNewAdmission).1 } else { c with actor }

end HostComposition

/-! ## Status events of the engine -/

/-- An event of the engine's status stream; the identifiers are bytes as they come. -/
inductive EngineStatusEvent
  | progress (operationId : Bytes) (connectPhase : ConnectPhase)
  | connected (operationId : Bytes) (sessionEstablishedAtMs : Option Int)
  | failed (operationId : Bytes) (error : VpnError)
  | stopped (operationId : Bytes)
deriving DecidableEq

def EngineStatusEvent.terminalOperation : EngineStatusEvent → Option Bytes
  | .progress _ _ => none
  | .connected id _ => some id
  | .failed id _ => some id
  | .stopped id => some id

/-- A terminal event of an operation other than the registered one is stale. -/
def staleTerminalOperation (event : EngineStatusEvent) : Bool :=
  match c.operationId, event.terminalOperation with
  | some current, some id => current.val ≠ id
  | _, _ => false

/-- The failure that stands for a stop nobody asked for. -/
def unexpectedStopError : VpnError := ⟨.effectUnknown, .dataPlane, .noEffect, .retrySameOperation⟩

/-- A stop of the current session that nobody asked for is a failure. -/
def normalizeUnexpectedStop (event : EngineStatusEvent) (c : HostComposition) : EngineStatusEvent :=
  match event with
  | .stopped id =>
    if c.phase = .connected ∧ staleTerminalOperation c event = false then .failed id unexpectedStopError else event
  | _ => event

/-- The session start a `Connected` event leaves: the engine's if it is positive, else the local clock, unless one is known. -/
def adoptSessionStart (reported : Option Int) (nowMs : Int) : HostComposition :=
  if (reported.filter (0 < ·)).isSome then c.setSessionEstablishedAtMs reported
  else if (c.sessionEstablishedAtMs.filter (0 < ·)).isNone then c.setSessionEstablishedAtMs (some nowMs)
  else c

/-- Drives the composition by a status event; `none` is an event that is dropped and not published. -/
def runtimeEventFromStatus (event : EngineStatusEvent) (nowMs : Int) : Option HostComposition :=
  if staleTerminalOperation c event then none
  else match event with
    | .progress _ connectPhase => some (c.after (.connectPhaseProgress connectPhase))
    | .connected _ reported =>
      -- a success that comes after the failure of the same operation is late
      if c.phase = .failed then none else some (adoptSessionStart (c.after .protocolEstablished) reported nowMs)
    | .failed _ error =>
      let c' := c.setLastWireError error
      some (if c.phase = .connected then c'.after (.connectionLost error) else c'.after (.connectFailed error))
    | .stopped _ => some (c.after (.teardownSideJoined .packetData)).reopenIfStopped

end ExvVpn.Win32Host
