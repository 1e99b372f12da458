import ExvVpn.DarwinEngine.Ledger
import Mathlib.Logic.Function.Basic

/-!
# Attempts and stops of the macOS engine

`apply_tunnel`, the task it spawns with its tunnel pipeline, and `stop_tunnel` of `bootstrap_runtime.rs`. Each region under
the lock of the attempt slot, of the live marker or of the resource ledger is one step, and so is each read of a cancel flag.
A slot is named by the attempt that claimed it, whose cancel flag it holds; the task reads its flag back from the slot, so a
place in the code carries the flag it got.
-/

namespace ExvVpn.DarwinEngine

open Function

/-! ## Places in the code -/

/-- The cancel flag a task has in its hands: that of an attempt, or a new one nobody else knows. -/
abbrev CancelFlag := Option Nat

/-- Where the task of an attempt is. The pipeline runs from `acquiring` to `returning`; `lost` says that it ended with
the session and not by a cancel. -/
inductive AttemptPc where
  | claimed
  | resolving (flag : CancelFlag)
  | login (flag : CancelFlag)
  | established (flag : CancelFlag)
  /-- The cleanup of the ledger after a failure or a cancel, the slot still to be cleared. -/
  | failing
  | acquiring (flag : CancelFlag)
  | applying (flag : CancelFlag) (routes : List AppliedRoute)
  | undoing (routes : List AppliedRoute)
  | starting (flag : CancelFlag) (routes : List AppliedRoute)
  | holding (flag : CancelFlag) (routes : List AppliedRoute)
  | tearing (flag : CancelFlag) (lost complete : Bool) (routes : List AppliedRoute)
  | retaining (flag : CancelFlag)
  | dropping (flag : CancelFlag) (lost : Bool)
  | quitting (flag : CancelFlag) (lost : Bool)
  | releasing (flag : CancelFlag) (lost : Bool)
  /-- The pipeline has cleared the slot and is about to return. -/
  | returning (flag : CancelFlag) (lost : Bool)
  /-- The task clears the slot of an attempt that has ended without clearing it. -/
  | clearing
  /-- The task clears the slot although the pipeline has already done so. -/
  | clearingAgain
  deriving DecidableEq, Repr

/-- Where a `stop_tunnel` is. -/
inductive StopPc where
  | requested
  | polling
  /-- The attempt slot was seen empty; the live marker is read next. -/
  | slotEmpty
  | cleaning
  /-- The cleanup succeeded, and `Stopped` is the reply. -/
  | stopped
  deriving DecidableEq, Repr

/-! ## The state -/

/-- The state of the engine and of its tasks and calls. `foreignClear` records that a task has cleared a slot that
another attempt had claimed; no step reads it. -/
structure EngineState where
  slot : Option Nat
  cancelled : Nat → Bool
  live : Bool
  ledger : ResourceLedger
  attempts : Nat → Option AttemptPc
  accepted : Nat
  stops : Nat → Option StopPc
  nextStop : Nat
  foreignClear : Bool

variable (s : EngineState)

namespace EngineState

/-- An engine that has just started. -/
def initial : EngineState where
  slot := none
  cancelled := fun _ => false
  live := false
  ledger := .empty
  attempts := fun _ => none
  accepted := 0
  stops := fun _ => none
  nextStop := 0
  foreignClear := false

/-- Moves the task of an attempt. -/
def setAttempt (n : Nat) (pc : Option AttemptPc) : EngineState :=
  { s with attempts := update s.attempts n pc }

def setStop (k : Nat) (pc : Option StopPc) : EngineState :=
  { s with stops := update s.stops k pc }

/-- `is_cancelled` of a task. -/
def isCancelled (flag : CancelFlag) : Bool :=
  flag.any s.cancelled

/-- The region of the attempt lock in `apply_tunnel`: the slot is claimed if it is empty, and the task is spawned. -/
def applyTunnel : EngineState :=
  match s.slot with
  | some _ => s
  | none => { s with slot := some s.accepted, accepted := s.accepted + 1 }.setAttempt s.accepted (some .claimed)

/-- A task sets the slot to `None`, whoever has claimed it. -/
def clearSlot (n : Nat) : EngineState :=
  { s with slot := none, foreignClear := s.foreignClear || s.slot.any (· ≠ n) }

end EngineState

/-! ## The task of an attempt -/

/-- A step of the task of an attempt, with what the outside answered. -/
inductive AttemptLabel where
  | fetchFlag
  | resolve (found : Bool)
  | controlRoute (desired : AppliedRoute) (io : ResourceLedger.ControlRouteIo)
  | establish (succeeded : Bool)
  | startPipeline
  | cleanup (deleted : AppliedRoute → Bool)
  | acquire (created : Bool)
  | address (applied : Bool)
  | addRoute (route : AppliedRoute) (added : Bool)
  | deleteRoute (deleted : Bool)
  | startPumps
  | hold
  | stopHolding (lost : Bool)
  | keepDevice (addressCleared : Bool)
  | retain
  | clearLive
  | clearSlot
  | finish

/-- The task up to its pipeline: it finds its flag in the slot, sets up the control route and logs in. -/
def connectStep (n : Nat) (pc : AttemptPc) (label : AttemptLabel) : EngineState :=
  match pc, label with
  | .claimed, .fetchFlag => s.setAttempt n (some (.resolving s.slot))
  | .resolving _, .resolve false => s.setAttempt n (some .failing)
  | .resolving flag, .controlRoute desired io =>
    let (ledger, ready) := s.ledger.ensureControlRoute desired.host io
    { s with ledger }.setAttempt n (some (if ready then .login flag else .failing))
  | .login flag, .establish succeeded => s.setAttempt n (some (if succeeded then .established flag else .failing))
  | .established flag, .startPipeline =>
    s.setAttempt n (some (if s.isCancelled flag then .failing else .acquiring flag))
  | .failing, .cleanup deleted =>
    { s with ledger := (s.ledger.completeResourceCleanup deleted).1 }.setAttempt n (some .clearing)
  | .clearing, .clearSlot => (s.clearSlot n).setAttempt n none
  | .clearingAgain, .clearSlot => (s.clearSlot n).setAttempt n none
  | _, _ => s

/-- `run_tunnel_pipeline` up to the held tunnel; a failure is undone and leaves the slot to the task. -/
def assembleStep (n : Nat) (pc : AttemptPc) (label : AttemptLabel) : EngineState :=
  match pc, label with
  | .acquiring flag, .acquire created =>
    if s.ledger.retainedDevice then
      { s with ledger := { s.ledger with retainedDevice := false } }.setAttempt n (some (.applying flag []))
    else s.setAttempt n (some (if created then .applying flag [] else .failing))
  | .applying flag [], .address applied => s.setAttempt n (some (if applied then .applying flag [] else .failing))
  | .applying flag routes, .addRoute route added =>
    s.setAttempt n (some (if added then .applying flag (routes ++ [route]) else .undoing routes.reverse))
  | .undoing [], .deleteRoute _ => s.setAttempt n (some .failing)
  | .undoing (route :: routes), .deleteRoute deleted =>
    let ledger := if deleted then s.ledger else s.ledger.rememberRouteCleanupFailure route
    { s with ledger }.setAttempt n (some (.undoing routes))
  | .applying flag routes, .startPumps => s.setAttempt n (some (.starting flag routes))
  | .starting flag routes, .hold => { s with live := true }.setAttempt n (some (.holding flag routes))
  | .holding flag routes, .stopHolding lost => s.setAttempt n (some (.tearing flag lost true routes))
  | _, _ => s

/-- The teardown of `run_tunnel_pipeline`: the routes, the device, the live marker and the slot, in this order. -/
def teardownStep (n : Nat) (pc : AttemptPc) (label : AttemptLabel) : EngineState :=
  match pc, label with
  | .tearing flag lost complete (route :: routes), .deleteRoute deleted =>
    let ledger := if deleted then s.ledger else s.ledger.rememberRouteCleanupFailure route
    { s with ledger }.setAttempt n (some (.tearing flag lost (complete && deleted) routes))
  | .tearing flag lost complete [], .keepDevice addressCleared =>
    -- The device is kept for a reconnect only if no route is left on it and its address is gone.
    if lost && !s.isCancelled flag && complete && addressCleared then s.setAttempt n (some (.retaining flag))
    else s.setAttempt n (some (.dropping flag lost))
  | .retaining flag, .retain =>
    { s with ledger := { s.ledger with retainedDevice := true } }.setAttempt n (some (.quitting flag true))
  | .dropping flag lost, .cleanup deleted =>
    { s with ledger := (s.ledger.completeResourceCleanup deleted).1 }.setAttempt n (some (.quitting flag lost))
  | .quitting flag lost, .clearLive => { s with live := false }.setAttempt n (some (.releasing flag lost))
  | .releasing flag lost, .clearSlot => (s.clearSlot n).setAttempt n (some (.returning flag lost))
  -- `SessionLost` sends the task to its own clearing of the slot; `Cancelled` ends it.
  | .returning flag lost, .finish =>
    s.setAttempt n (if lost && !s.isCancelled flag then some .clearingAgain else none)
  | _, _ => s

/-- Which part of the code a place belongs to. -/
inductive AttemptPart where
  | connect
  | assemble
  | teardown

/-- The part of the code the task is in. -/
def AttemptPc.part : AttemptPc → AttemptPart
  | .acquiring _ => .assemble
  | .applying _ _ => .assemble
  | .undoing _ => .assemble
  | .starting _ _ => .assemble
  | .holding _ _ => .assemble
  | .tearing _ _ _ _ => .teardown
  | .retaining _ => .teardown
  | .dropping _ _ => .teardown
  | .quitting _ _ => .teardown
  | .releasing _ _ => .teardown
  | .returning _ _ => .teardown
  | _ => .connect

/-- One step of the task of an attempt. -/
def attemptStep (n : Nat) (label : AttemptLabel) : EngineState :=
  match s.attempts n with
  | none => s
  | some pc =>
    match pc.part with
    | .connect => connectStep s n pc label
    | .assemble => assembleStep s n pc label
    | .teardown => teardownStep s n pc label

/-! ## Stops -/

/-- A step of a `stop_tunnel`. -/
inductive StopLabel where
  | cancel
  | readSlot
  | readLive
  | timeOut
  | clean (deleted : AppliedRoute → Bool)
  | reply

/-- `stop_and_wait_for_cleanup` and the reply of `stop_tunnel`; a stop that fails or has replied is gone. -/
def stopStep (k : Nat) (label : StopLabel) : EngineState :=
  match s.stops k, label with
  | some .requested, .cancel =>
    match s.slot with
    | some n => { s with cancelled := update s.cancelled n true }.setStop k (some .polling)
    | none => s.setStop k (some .polling)
  | some .polling, .readSlot => if s.slot.isSome then s else s.setStop k (some .slotEmpty)
  | some .slotEmpty, .readLive => s.setStop k (some (if s.live then .polling else .cleaning))
  | some .polling, .timeOut => s.setStop k none
  | some .cleaning, .clean deleted =>
    let (ledger, cleaned) := s.ledger.completeResourceCleanup deleted
    { s with ledger }.setStop k (if cleaned then some .stopped else none)
  | some .stopped, .reply => s.setStop k none
  | _, _ => s

/-! ## The engine -/

/-- One step of the engine: a call arrives, or a task or a call goes on. -/
inductive EngineLabel where
  | applyTunnel
  | attempt (n : Nat) (label : AttemptLabel)
  | stopTunnel
  | stop (k : Nat) (label : StopLabel)

/-- The engine takes one step; a label that is not enabled changes nothing. -/
def engineStep : EngineLabel → EngineState
  | .applyTunnel => s.applyTunnel
  | .attempt n label => attemptStep s n label
  | .stopTunnel => { s.setStop s.nextStop (some .requested) with nextStop := s.nextStop + 1 }
  | .stop k label => stopStep s k label

/-! ## Route calls -/

/-- The successful route calls of a step of the task of an attempt. -/
def AttemptPc.routeCalls (ledger : ResourceLedger) (pc : AttemptPc) (label : AttemptLabel) : List RouteCall :=
  match pc, label with
  | .resolving _, .controlRoute desired io => ledger.controlRouteCalls desired.host io
  | .applying _ _, .addRoute route added => if added then [.put route] else []
  | .undoing (route :: _), .deleteRoute deleted => if deleted then [.delete route] else []
  | .tearing _ _ _ (route :: _), .deleteRoute deleted => if deleted then [.delete route] else []
  | .failing, .cleanup deleted => ledger.cleanupCalls deleted
  | .dropping _ _, .cleanup deleted => ledger.cleanupCalls deleted
  | _, _ => []

/-- The successful route calls of a step of the engine. -/
def EngineState.routeCalls : EngineLabel → List RouteCall
  | .attempt n label =>
    match s.attempts n with
    | some pc => pc.routeCalls s.ledger label
    | none => []
  | .stop k (.clean deleted) => if s.stops k = some .cleaning then s.ledger.cleanupCalls deleted else []
  | _ => []

end ExvVpn.DarwinEngine
