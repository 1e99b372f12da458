import Mathlib.Logic.Function.Basic
import ExvVpn.Win32Host.Composition

/-! # Records of the kernel control service

The dispatch record that connect and stop meet at, the attachment of the status stream, the reconnect policy of a session with
its backoff, and the places at which the tasks of the service stand between two lock regions. -/

namespace ExvVpn.Win32Host

open Host Wire

/-! ## The dispatch record -/

/-- The record of the connect attempt that was admitted last. -/
structure ConnectDispatch where
  id : Nat
  cancelled : Bool
  targetGeneration : Option Nat
  /-- The attempt itself has passed the point before `ApplyTunnel`. -/
  attemptApplied : Bool
  /-- A real stop is still owed, by this attempt or by one before it. -/
  stopRequired : Bool
deriving DecidableEq, Repr

/-- The attempt is the one that was admitted last, and no stop has cancelled it. -/
def isCurrent (dispatch : Option ConnectDispatch) (id : Nat) : Bool :=
  match dispatch with
  | some state => state.id = id && !state.cancelled
  | none => false

/-- The attempt that a reconnect starts from. -/
def currentReconnectDispatchId (dispatch : Option ConnectDispatch) : Option Nat :=
  match dispatch with
  | some state => if state.cancelled then none else some state.id
  | none => none

/-- A stop is owed according to the record. -/
def stopOwed (dispatch : Option ConnectDispatch) : Bool :=
  match dispatch with
  | some state => state.stopRequired
  | none => false

/-! ## The status attachment -/

/-- For which generation of the engine the status stream is attached. -/
structure StatusAttachment where
  generation : Nat
  attached : Bool
deriving DecidableEq, Repr

namespace StatusAttachment

/-- The stream of a generation has ended; a newer generation is left alone. -/
def revoke (a : StatusAttachment) (generation : Nat) : StatusAttachment :=
  if a.generation = generation then { a with attached := false } else a

/-- A newer generation is the target; the same generation keeps its attachment. -/
def advance (a : StatusAttachment) (generation : Nat) : StatusAttachment :=
  if a.generation < generation then ⟨generation, false⟩ else a

/-- The stream is attached for the generation. -/
def readyFor (a : StatusAttachment) (generation : Nat) : Bool := a.generation = generation && a.attached

end StatusAttachment

/-! ## Reconnect policy and backoff -/

/-- The reconnect settings that are frozen when the user connects. -/
structure ReconnectSessionPolicy where
  autoReconnect : Bool
  /-- `0` is no limit. -/
  maxAttempts : Nat
  backoff : Bool
deriving DecidableEq, Repr

/-- The budget of the policy is used up. -/
def ReconnectSessionPolicy.exhausted (policy : ReconnectSessionPolicy) (attempts : Nat) : Bool :=
  policy.maxAttempts ≠ 0 && policy.maxAttempts ≤ attempts

/-- The loop of `reconnectBackoffDelay`: how often the base is doubled until it reaches the cap. -/
def doublings (cap : Nat) : Nat → Nat → Nat
  | 0, _ => 0
  | fuel + 1, growth => if growth < cap then doublings cap fuel (growth <<< 1) + 1 else 0

/-- The delay before an attempt, in nanoseconds. -/
def reconnectBackoffDelay (base cap attempt : Nat) : Nat :=
  let shift := min (attempt - 1) (doublings cap 63 base)
  let delay := min (base <<< shift) cap
  if delay < 1 <<< 64 then delay else 1 <<< 64 - 1

/-! ## Where the tasks stand -/

/-- Where a connect attempt stands after it was admitted. -/
inductive ConnectPc
  | awaitingRoute
  | routing
  /-- The provisioner has looked for a connect in flight, and for its operation. -/
  | provisionCaptured (inflight : Option (Option OperationId))
  /-- The composition is bound to the new engine. -/
  | provisionRebound (inflight : Option (Option OperationId))
  | routeDone (ok : Bool)
  | routed (target : Nat)
  | awaitingStatus (target : Nat)
  | awaitingEngine (target : Nat)
  | preparing (target : Nat)
  | applying
  | failing
deriving DecidableEq

/-- Where a stop call stands. -/
inductive StopPc
  | leasing
  | sending
  | finishing
deriving DecidableEq, Repr

/-- A stop call in progress: what it read when it was accepted, where it stands, and whether it has sent `StopTunnel`. -/
structure StopCall where
  attempt : Option Nat
  stopRequired : Bool
  pc : StopPc
  stopTunnelSent : Bool
deriving DecidableEq, Repr

/-- Where the status forwarder stands. -/
inductive ForwarderPc
  | looping
  | subscribing
  | streaming
  /-- The stream has ended or could not be opened, and the composition has not been told. -/
  | disconnecting
  | backoff
  | ended
deriving DecidableEq, Repr

/-- The status forwarder and the generation it works for. -/
structure Forwarder where
  pc : ForwarderPc
  generation : Nat
deriving DecidableEq, Repr

/-- What `run_connect` gives back to the reconnect worker. -/
inductive ConnectResult
  | ok
  | superseded
  | error
deriving DecidableEq, Repr

/-- Where the reconnect worker stands. -/
inductive WorkerPc
  | idle
  /-- It has read the policy and the number of attempts made. -/
  | loaded (policy : ReconnectSessionPolicy) (attempts : Nat)
  | sleeping (origin : Nat)
  | connecting (id : Nat)
  | returned (result : ConnectResult)
deriving DecidableEq, Repr

/-- A reconnect attempt that was started: its number, and the delay slept before it. -/
structure StartedAttempt where
  number : Nat
  delay : Nat
deriving DecidableEq, Repr

end ExvVpn.Win32Host
