import ExvVpn.Wire.Error
import Mathlib.Logic.Function.Basic

/-!
# The status hub of the Windows engine

`StatusPublisher` of `status.rs`: the event last published, the one stream attached to it and the channels of all streams
opened so far. Publications are one after the other because of the order lock. A stream opened between the two regions of one
sees what it would have seen before it, so a publication is one step. The terminal observer, which sends nothing to a stream,
is left out.
-/

namespace ExvVpn.EngineStatus

open Function

/-! ## Events -/

inductive StatsPhase where
  | unspecified
  | idle
  | connecting
  | connected
  | stopping
  | failed
  deriving DecidableEq, Repr

/-- `StatusEvent`; an unspecified connect phase is `none`. -/
structure StatusEvent where
  operationId : Bytes
  connectPhase : Option Host.ConnectPhase
  coarsePhase : StatsPhase
  error : Option Wire.VpnError
  sessionEstablishedAtMs : Int
  deriving DecidableEq, Repr

namespace StatusEvent

def connecting (operationId : Bytes) (connectPhase : Host.ConnectPhase) : StatusEvent :=
  ⟨operationId, some connectPhase, .connecting, none, 0⟩

/-- `StatusEvent::connected`, with the time of the clock. -/
def connected (operationId : Bytes) (wallClockMs : Int) : StatusEvent :=
  ⟨operationId, some .startingDataPlane, .connected, none, wallClockMs⟩

def failed (operationId : Bytes) (connectPhase : Option Host.ConnectPhase) (error : Wire.VpnError) : StatusEvent :=
  ⟨operationId, connectPhase, .failed, some error, 0⟩

/-- The event ends its operation. -/
def isEnd (event : StatusEvent) : Bool := event.coarsePhase = .failed || event.coarsePhase = .idle

/-- The event says that its operation is on its way or connected. -/
def isLive (event : StatusEvent) : Bool := event.coarsePhase = .connecting || event.coarsePhase = .connected

end StatusEvent

/-! ## The hub -/

def streamCapacity : Nat := 32

/-- What happened at the hub: an event was published, or it went into the channel of a stream. -/
inductive HubEntry where
  | published (event : StatusEvent)
  | delivered (stream : Nat) (event : StatusEvent)
  deriving DecidableEq, Repr

/-- `StatusPublisher` with the channels of its streams, `none` for a receiver that is gone, and what happened so far,
newest first. -/
structure StatusPublisher where
  latest : Option StatusEvent
  push : Option Nat
  channels : Nat → Option (List StatusEvent)
  nextStream : Nat
  history : List HubEntry

def StatusPublisher.new : StatusPublisher := ⟨none, none, fun _ => none, 0, []⟩

variable (hub : StatusPublisher)

namespace StatusPublisher

/-- `try_send` into the channel of a stream: `none` when it is full or closed. -/
def trySend (stream : Nat) (event : StatusEvent) : Option StatusPublisher :=
  match hub.channels stream with
  | none => none
  | some queued =>
    if queued.length < streamCapacity then
      some
        { hub with
          channels := update hub.channels stream (some (queued ++ [event]))
          history := .delivered stream event :: hub.history }
    else none

/-- `open_stream`: the new stream gets the latest event and takes the place of the one attached before. -/
def openStream : StatusPublisher :=
  let stream := hub.nextStream
  let opened := { hub with channels := update hub.channels stream (some []), nextStream := stream + 1 }
  let sent := match hub.latest with
    | some latest => (opened.trySend stream latest).getD opened
    | none => opened
  { sent with push := some stream }

/-- Whether an event comes after the end of its operation, as far as the latest event tells. -/
def stale (event : StatusEvent) : Bool :=
  hub.latest.any fun latest => latest.operationId = event.operationId && latest.isEnd && event.isLive

/-- The accepting part of `publish`: a stream that cannot take the event is given up. -/
def accept (event : StatusEvent) : StatusPublisher :=
  let hub := { hub with latest := some event }
  match hub.push with
  | none => hub
  | some stream => (hub.trySend stream event).getD { hub with push := none }

def publish (event : StatusEvent) : StatusPublisher :=
  let noted := { hub with history := .published event :: hub.history }
  if hub.stale event then noted else noted.accept event

end StatusPublisher

/-- What can happen to the hub and its streams: a receiver takes an event or goes away. -/
inductive HubLabel where
  | publish (event : StatusEvent)
  | openStream
  | receive (stream : Nat)
  | close (stream : Nat)

def hubStep : HubLabel → StatusPublisher
  | .publish event => hub.publish event
  | .openStream => hub.openStream
  | .receive stream =>
    { hub with channels := update hub.channels stream ((hub.channels stream).map List.tail) }
  | .close stream => { hub with channels := update hub.channels stream none }

end ExvVpn.EngineStatus
