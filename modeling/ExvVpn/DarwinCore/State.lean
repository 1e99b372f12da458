import Mathlib.Logic.Function.Basic

/-!
# The state of the macOS core

`LiveConnectionProjection` of `kernel_control_service.rs` with the tasks and calls that share it. An operation is named by the
number of its Connect or Stop call, a session by a number that no step reads. The core keeps one `LiveStatsState` for all
operations: a new operation overwrites it in place.

`trace`, which no step reads, is what was sent, published and decided, the newest first.
-/

namespace ExvVpn.DarwinCore

open Function

/-! ## What the core publishes -/

inductive OperationId where
  | connect (c : Nat)
  | stop (k : Nat)
  deriving DecidableEq, Repr

/-- The states of a published snapshot. -/
inductive SnapshotState where
  | idle
  | connecting
  | connected
  | stopping
  | failedClean
  deriving DecidableEq, Repr

/-- A published snapshot; the one of `Idle` has an empty operation id. -/
structure RuntimeSnapshot where
  state : SnapshotState
  operation : Option OperationId
  deriving DecidableEq, Repr

/-! ## The statistics of the current operation -/

/-- `LiveStatsState` without its samples: whether an operation is connected, whether it is still alive, and which. -/
structure LiveStatsState where
  connected : Bool
  live : Bool
  operation : Option Nat
  deriving DecidableEq, Repr

namespace LiveStatsState

def new : LiveStatsState := ⟨false, true, none⟩

def beginOperation (t : LiveStatsState) (c : Nat) : LiveStatsState := { t with operation := some c }

def markConnected (t : LiveStatsState) : LiveStatsState := { t with connected := true }

def markFinished (_ : LiveStatsState) : LiveStatsState := ⟨false, false, none⟩

end LiveStatsState

/-! ## Sessions with the engine -/

/-- The two forms of an engine session: an engine launched for it, with its process id, or the resident service. -/
inductive SessionKind where
  | session (pid : Nat)
  | service
  deriving DecidableEq, Repr

structure EngineSession where
  id : Nat
  kind : SessionKind
  deriving DecidableEq, Repr

/-- `engine_pid`: nobody knows the process id of the resident engine, so it is 0. -/
def EngineSession.enginePid (session : EngineSession) : Nat :=
  match session.kind with
  | .session pid => pid
  | .service => 0

/-- `mode` is `oneshot`. -/
def EngineSession.isOneshot (session : EngineSession) : Bool :=
  match session.kind with
  | .session _ => true
  | .service => false

/-- The reconnect settings a connection was accepted with. -/
structure SessionReconnectPolicy where
  enabled : Bool
  maxAttempts : Nat
  deriving DecidableEq, Repr

/-- The user has switched reconnects off. -/
def SessionReconnectPolicy.disable (policy : SessionReconnectPolicy) : SessionReconnectPolicy :=
  { policy with enabled := false }

/-! ## Calls and tasks -/

/-- Where a Connect call is. From `locked` to `applying` it holds the session lock. -/
inductive ConnectPc where
  | requested
  | locked
  | admitted
  | launching
  | attaching (session : EngineSession)
  | attached (session : EngineSession)
  /-- The generation was read a second time and is still that of the call. -/
  | checked (session : EngineSession)
  | applying (session : EngineSession)
  | returned (accepted : Bool)
  deriving DecidableEq, Repr

/-- A `connect_in_generation`. `newSession` tells a Connect of the user from a reconnect; `trigger` is the operation
whose event set off the reconnect, which no step reads. -/
structure ConnectCall where
  generation : Nat
  newSession : Bool
  trigger : Option Nat
  pc : ConnectPc
  deriving DecidableEq, Repr

/-- How a Stop call ended. -/
inductive StopResult where
  | failed
  /-- There was no live session; `FailedClean` was published. -/
  | lost
  /-- The engine replied `Stopped`; `Idle` was published. -/
  | idle
  deriving DecidableEq, Repr

/-- Where a Stop call is. From `locked` to `idle` it holds the session lock. -/
inductive StopPc where
  | requested
  | locked
  | stopping
  | ready
  | sent
  | stopped
  /-- `Idle` is published, the operation is not yet marked finished. -/
  | idle
  | returned (result : StopResult)
  deriving DecidableEq, Repr

/-- A `stop_in_generation`; `preserve` keeps the reconnect policy. -/
structure StopCall where
  generation : Nat
  preserve : Bool
  pc : StopPc
  deriving DecidableEq, Repr

/-- Where the status projection of an operation is. It holds the session lock in `ready` and `sent`. -/
inductive ProjectionPc where
  | waiting
  | connected
  | phase
  /-- An error was read while an operation was live. -/
  | failed (retryable : Bool)
  | finished (retryable : Bool)
  | signalling
  | cleaning
  | ready
  | sent
  | stopped
  /-- The status stream has ended. -/
  | closed
  | lost
  | lostFinished
  | clearing
  | aborting
  deriving DecidableEq, Repr

/-- The task that projects the status stream of an operation. -/
structure Projection where
  generation : Nat
  session : EngineSession
  pc : ProjectionPc
  deriving DecidableEq, Repr

/-- A signal to the reconnect worker. `trigger` is the operation whose event it comes from, which no step reads. -/
structure Signal where
  generation : Nat
  trigger : Option Nat
  deriving DecidableEq, Repr

inductive WorkerPc where
  | idle
  | received (signal : Signal)
  /-- The generation of the signal was the current one; `drive_reconnect` starts. -/
  | checked (signal : Signal)
  | loaded (generation : Nat) (trigger : Option Nat)
  | looking (generation : Nat) (trigger : Option Nat) (maxAttempts : Nat) (oneshot : Bool)
  | budget (generation : Nat) (trigger : Option Nat) (maxAttempts : Nat)
  | sleeping (generation : Nat) (trigger : Option Nat)
  | dispatching (generation : Nat) (c : Nat)
  | failing (c : Nat)
  | finishing (f : Nat)
  deriving DecidableEq, Repr

/-- Where a `finish_reconnect_and_cleanup` is. -/
inductive FinishPc where
  | starting (generation : Nat)
  | stopping (generation : Nat) (operation : Option OperationId) (k : Nat)
  | clean (operation : Option OperationId)
  deriving DecidableEq, Repr

/-- The connection that was in use when the machine went to sleep. -/
structure SleepConnection where
  generation : Nat
  operation : Option OperationId
  deriving DecidableEq, Repr

inductive WakePc where
  | idle
  | waiting (connection : SleepConnection)
  | looking (connection : SleepConnection)
  | advancing (connection : SleepConnection)
  | stopping (connection : SleepConnection) (k : Nat)
  | recovering
  deriving DecidableEq, Repr

/-! ## The history -/

/-- Who acts. -/
inductive Actor where
  | connect (c : Nat)
  | stop (k : Nat)
  | projection (i : Nat)
  /-- A projection after the end of its stream. -/
  | streamEnd (i : Nat)
  | worker
  | finish (f : Nat)
  | wake
  | stats
  deriving DecidableEq, Repr

inductive Entry where
  | lockTaken (actor : Actor) (generation : Nat)
  | applyTunnel (c : Nat) (generation : Nat) (trigger : Option Nat)
  | accepted (c : Nat)
  | stopTunnel (actor : Actor)
  /-- A Stop call returned after it had published `Idle`. -/
  | stopReturned (k : Nat)
  | published (actor : Actor) (snapshot : RuntimeSnapshot)
  | finished (actor : Actor)
  | signalled (actor : Actor)
  /-- The end of a status stream of session `owner` emptied the slot of session `was`. -/
  | slotCleared (owner was : EngineSession)
  /-- The end of a status stream of session `owner` aborted the ticker of session `was`. -/
  | tickerAborted (owner : EngineSession) (was : Nat)
  deriving DecidableEq, Repr

/-! ## The state -/

/-- The state of the core, its calls and its tasks. -/
structure CoreState where
  generation : Nat
  policy : Option SessionReconnectPolicy
  attempts : Nat
  active : Bool
  everConnected : Bool
  stats : LiveStatsState
  session : Option EngineSession
  nextSession : Nat
  oneshot : Bool
  /-- The session whose keepalive ticker runs. -/
  ticker : Option Nat
  lock : Option Actor
  snapshot : Option RuntimeSnapshot
  connects : Nat → Option ConnectCall
  nextConnect : Nat
  stops : Nat → Option StopCall
  nextStop : Nat
  projections : Nat → Option Projection
  signals : List Signal
  worker : WorkerPc
  finishes : Nat → Option FinishPc
  nextFinish : Nat
  /-- The settings calls that have seen a waiting reconnect. -/
  cancels : Nat
  asleep : Option SleepConnection
  woken : List SleepConnection
  wake : WakePc
  trace : List Entry

namespace CoreState

/-- A core that has just started. -/
def initial : CoreState where
  generation := 0
  policy := none
  attempts := 0
  active := false
  everConnected := false
  stats := .new
  session := none
  nextSession := 0
  oneshot := false
  ticker := none
  lock := none
  snapshot := none
  connects := fun _ => none
  nextConnect := 0
  stops := fun _ => none
  nextStop := 0
  projections := fun _ => none
  signals := []
  worker := .idle
  finishes := fun _ => none
  nextFinish := 0
  cancels := 0
  asleep := none
  woken := []
  wake := .idle
  trace := []

variable (s : CoreState)

/-- Adds an entry to the history. -/
def record (entry : Entry) : CoreState :=
  { s with trace := entry :: s.trace }

/-- `publish`: the snapshot becomes the current one. -/
def publish (actor : Actor) (snapshot : RuntimeSnapshot) : CoreState :=
  { s with snapshot := some snapshot, trace := .published actor snapshot :: s.trace }

/-- `mark_finished` on the shared statistics. -/
def finishOperation (actor : Actor) : CoreState :=
  { s with stats := s.stats.markFinished, trace := .finished actor :: s.trace }

/-- The session lock is taken by a call of a generation. -/
def takeLock (actor : Actor) (generation : Nat) : CoreState :=
  { s with lock := some actor, trace := .lockTaken actor generation :: s.trace }

/-- The session lock is released. -/
def unlock : CoreState := { s with lock := none }

def setConnect (c : Nat) (call : ConnectCall) : CoreState :=
  { s with connects := update s.connects c (some call) }

def setStop (k : Nat) (call : StopCall) : CoreState :=
  { s with stops := update s.stops k (some call) }

/-- Moves a projection; `none` ends it. -/
def setProjection (i : Nat) (p : Option Projection) : CoreState :=
  { s with projections := update s.projections i p }

/-- Moves a cleanup; `none` ends it. -/
def setFinish (f : Nat) (pc : Option FinishPc) : CoreState :=
  { s with finishes := update s.finishes f pc }

def addConnect (generation : Nat) (newSession : Bool) (trigger : Option Nat) : CoreState :=
  { s.setConnect s.nextConnect ⟨generation, newSession, trigger, .requested⟩ with nextConnect := s.nextConnect + 1 }

/-- A new Stop call. -/
def addStop (generation : Nat) (preserve : Bool) : CoreState :=
  { s.setStop s.nextStop ⟨generation, preserve, .requested⟩ with nextStop := s.nextStop + 1 }

/-- A new `finish_reconnect_and_cleanup`. -/
def addFinish (generation : Nat) : CoreState :=
  { s.setFinish s.nextFinish (some (.starting generation)) with nextFinish := s.nextFinish + 1 }

/-- A signal is put into the channel of the reconnect worker, with the generation of the moment. -/
def signalReconnect (actor : Actor) (trigger : Option Nat) : CoreState :=
  { s with signals := s.signals ++ [⟨s.generation, trigger⟩], trace := .signalled actor :: s.trace }

/-- What a Connect call has returned. -/
def connectResult (c : Nat) : Option Bool :=
  match s.connects c with
  | some ⟨_, _, _, .returned accepted⟩ => some accepted
  | _ => none

/-- What a Stop call has returned. -/
def stopResult (k : Nat) : Option StopResult :=
  match s.stops k with
  | some ⟨_, _, .returned result⟩ => some result
  | _ => none

/-- `session_reconnect_enabled`. -/
def reconnectEnabled : Bool := s.policy.any (·.enabled)

end CoreState

end ExvVpn.DarwinCore
