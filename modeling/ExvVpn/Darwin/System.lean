import ExvVpn.DarwinCore.Tasks
import ExvVpn.DarwinEngine.Attempt

/-!
# The macOS core together with its engine

The core talks to the engine by `ApplyTunnel` and `StopTunnel`, which it sends under the session lock, and hears from it by
the answers and by the status streams, which are channels of their own. A session that is set up anew belongs to an engine
that has just started.

`inbox i` holds the events of operation `i` that its projection has not read. Those of other operations, which it skips, are
left out.
-/

namespace ExvVpn.Darwin

open Function DarwinEngine

open DarwinCore (CoreState CoreLabel StatusEvent coreStep)
open DarwinEngine (EngineState AttemptPc AttemptLabel)

/-! ## The state -/

/-- Who in the core has sent a `StopTunnel`. -/
inductive StopCaller where
  | call (k : Nat)
  | projection (i : Nat)
  deriving DecidableEq, Repr

/-- The call of the core that is with the engine, or its answer on the way back. -/
inductive Rpc where
  | apply (c : Nat)
  | applied (c : Nat) (pending : Bool)
  /-- The engine runs its stop `k` for the caller. -/
  | stop (caller : StopCaller) (k : Nat)
  | stopped (caller : StopCaller) (confirmed : Bool)
  deriving DecidableEq, Repr

/-- The core, the engine and what is between them; `operationOf` tells the operation of an attempt of the engine. -/
structure SystemState where
  core : CoreState
  engine : EngineState
  rpc : Option Rpc
  operationOf : Nat → Nat
  inbox : Nat → List StatusEvent

/-- Core and engine have just started. -/
def SystemState.initial : SystemState where
  core := .initial
  engine := .initial
  rpc := none
  operationOf := fun _ => 0
  inbox := fun _ => []

/-- The label by which the caller sends `StopTunnel`. -/
def StopCaller.send : StopCaller → CoreLabel
  | .call k => .stopCall k .send
  | .projection i => .projection i .send

/-- The label by which the caller gets its answer. -/
def StopCaller.reply (caller : StopCaller) (confirmed : Bool) : CoreLabel :=
  match caller with
  | .call k => .stopCall k (.reply confirmed)
  | .projection i => .projection i (.reply confirmed)

/-- The caller is about to send `StopTunnel`. -/
def StopCaller.isReady (caller : StopCaller) (core : CoreState) : Bool :=
  match caller with
  | .call k => (core.stops k).any (·.pc = .ready)
  | .projection i => (core.projections i).any (·.pc = .ready)

/-! ## What the engine tells -/

/-- The events the task of an attempt sends at a place: phases while it logs in and assembles the tunnel, `Connected`
without another look at its cancel flag, an error before it clears the slot, and a lost session after it. -/
def emits : AttemptPc → StatusEvent → Bool
  | .resolving _, .phase => true
  | .login _, .phase => true
  | .acquiring _, .phase => true
  | .applying _ _, .phase => true
  | .starting _ _, .phase => true
  | .starting _ _, .connected => true
  | .clearing, .error false => true
  | .clearingAgain, .error true => true
  | _, _ => false

/-! ## Steps -/

/-- The step sends a call to the engine, gets its answer or reads an event. -/
def talks : CoreLabel → Bool
  | .connectCall _ .apply => true
  | .connectCall _ (.reply _) => true
  | .stopCall _ .send => true
  | .stopCall _ (.reply _) => true
  | .projection _ (.message _ _) => true
  | .projection _ .send => true
  | .projection _ (.reply _) => true
  | _ => false

/-- A step of core and engine. -/
inductive SystemLabel where
  /-- The core does something on its own. -/
  | core (label : CoreLabel)
  | sendApply (c : Nat)
  | handleApply
  | replyApply
  | sendStop (caller : StopCaller)
  /-- The stop that the engine runs goes on. -/
  | engineStop (label : DarwinEngine.StopLabel)
  | replyStop
  | attempt (n : Nat) (label : AttemptLabel)
  | emit (n : Nat) (event : StatusEvent)
  | deliver (i : Nat)

variable (s : SystemState)

namespace SystemState

/-- The core does something on its own. With a new session there is a new engine. -/
def coreOnly (label : CoreLabel) : SystemState :=
  if talks label then s
  else
    let core := coreStep s.core label
    { s with core, engine := if core.nextSession = s.core.nextSession then s.engine else .initial }

/-- A Connect call sends `ApplyTunnel`. -/
def sendApply (c : Nat) : SystemState :=
  match s.core.connects c with
  | some ⟨_, _, _, .checked _⟩ => { s with core := coreStep s.core (.connectCall c .apply), rpc := some (.apply c) }
  | _ => s

/-- The engine takes an `ApplyTunnel` or refuses it. -/
def handleApply : SystemState :=
  match s.rpc with
  | some (.apply c) =>
    if s.engine.slot.isNone then
      { s with engine := s.engine.applyTunnel, rpc := some (.applied c true),
               operationOf := update s.operationOf s.engine.accepted c }
    else { s with rpc := some (.applied c false) }
  | _ => s

/-- The Connect call gets its answer. -/
def replyApply : SystemState :=
  match s.rpc with
  | some (.applied c pending) => { s with core := coreStep s.core (.connectCall c (.reply pending)), rpc := none }
  | _ => s

/-- A Stop call or a projection sends `StopTunnel`, and the engine starts a stop. -/
def sendStop (caller : StopCaller) : SystemState :=
  if caller.isReady s.core then
    { s with core := coreStep s.core caller.send, engine := engineStep s.engine .stopTunnel,
             rpc := some (.stop caller s.engine.nextStop) }
  else s

/-- The stop of the engine goes on; when it is gone, it has replied `Stopped` or failed. -/
def engineStop (label : DarwinEngine.StopLabel) : SystemState :=
  match s.rpc with
  | some (.stop caller k) =>
    let engine := stopStep s.engine k label
    if (engine.stops k).isSome then { s with engine }
    else { s with engine, rpc := some (.stopped caller (s.engine.stops k = some .stopped)) }
  | _ => s

/-- The caller gets the answer to its `StopTunnel`. -/
def replyStop : SystemState :=
  match s.rpc with
  | some (.stopped caller confirmed) => { s with core := coreStep s.core (caller.reply confirmed), rpc := none }
  | _ => s

/-- The task of an attempt sends an event. -/
def emit (n : Nat) (event : StatusEvent) : SystemState :=
  match s.engine.attempts n with
  | some pc =>
    if emits pc event then
      { s with inbox := update s.inbox (s.operationOf n) (s.inbox (s.operationOf n) ++ [event]) }
    else s
  | none => s

/-- A projection that waits reads the next event of its operation. -/
def deliver (i : Nat) : SystemState :=
  match s.core.projections i, s.inbox i with
  | some ⟨_, _, .waiting⟩, event :: rest =>
    { s with core := coreStep s.core (.projection i (.message i event)), inbox := update s.inbox i rest }
  | _, _ => s

end SystemState

/-- Core and engine take one step; a label that is not enabled changes nothing. -/
def systemStep : SystemLabel → SystemState
  | .core label => s.coreOnly label
  | .sendApply c => s.sendApply c
  | .handleApply => s.handleApply
  | .replyApply => s.replyApply
  | .sendStop caller => s.sendStop caller
  | .engineStop label => s.engineStop label
  | .replyStop => s.replyStop
  | .attempt n label => { s with engine := attemptStep s.engine n label }
  | .emit n event => s.emit n event
  | .deliver i => s.deliver i

end ExvVpn.Darwin
