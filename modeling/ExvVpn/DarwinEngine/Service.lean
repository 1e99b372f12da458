import ExvVpn.DarwinEngine.Attempt
import ExvVpn.Tools.Writes

/-!
# Sessions of the macOS engine

`run_one_service_session` with `converge_and_await_teardown`. The resident engine serves one session after the other, each
with a new `EngineRuntime`; at its end its resources are cleaned up within a bound, and whether that succeeded is only logged.
The tasks of an earlier session go on, its calls end with its connection.

`rows`, which no step reads, are the rows that the engine has put into the route table, `table`, and not taken away.
-/

namespace ExvVpn.DarwinEngine

open Function

/-! ## The state -/

/-- Where the end of a session is. -/
inductive ExitPc where
  | polling
  | slotEmpty
  | cleaning
  | ended
  deriving DecidableEq, Repr

/-- The process of the engine. `teardownDone` is `TERMINATION_TEARDOWN_DONE`. -/
structure ServiceState where
  current : Nat
  runtimes : Nat → EngineState
  exit : Option ExitPc
  teardownDone : Bool
  rows : Row → Bool
  table : Row → Option Hop

namespace ServiceState

/-- A process that has just started, with the route table it finds. -/
def initial (table : Row → Option Hop) : ServiceState where
  current := 0
  runtimes := fun _ => .initial
  exit := none
  teardownDone := false
  rows := fun _ => false
  table := table

/-- The engine of the current session. -/
def runtime (s : ServiceState) : EngineState := s.runtimes s.current

/-- Replaces the engine of a session. -/
def setRuntime (s : ServiceState) (m : Nat) (runtime : EngineState) : ServiceState :=
  { s with runtimes := update s.runtimes m runtime }

/-- What a successful route call writes to the rows that are put and not taken away. -/
def rowWrite : RouteCall → Row × Bool
  | .put route => (route.row, true)
  | .delete route => (route.row, false)

/-- What a successful route call writes to the route table. -/
def tableWrite : RouteCall → Row × Option Hop
  | .put route => (route.row, some route.hop)
  | .delete route => (route.row, none)

/-- Successful route calls take effect. -/
def perform (s : ServiceState) (calls : List RouteCall) : ServiceState :=
  { s with rows := Writes.apply s.rows (calls.map rowWrite), table := Writes.apply s.table (calls.map tableWrite) }

end ServiceState

/-! ## Steps -/

/-- A step of the end of a session. -/
inductive ExitLabel where
  | begin
  | readDone
  | readSlot
  | readLive
  | timeOut
  | clean (deleted : AppliedRoute → Bool)

/-- A step of the process. -/
inductive ServiceLabel where
  /-- The engine of the current session takes a step. -/
  | engine (label : EngineLabel)
  /-- A task of an earlier session goes on. -/
  | earlier (m n : Nat) (label : AttemptLabel)
  | exit (label : ExitLabel)
  | nextSession

/-- The task is about to end its teardown. -/
def AttemptPc.isQuitting : AttemptPc → Bool
  | .quitting _ _ => true
  | _ => false

/-- How a step of an engine changes `TERMINATION_TEARDOWN_DONE`: an accepted apply takes it back, the end of a teardown
sets it. -/
def marksDone (s : EngineState) (done : Bool) : EngineLabel → Bool
  | .applyTunnel => done && s.slot.isSome
  | .attempt n .clearLive => done || (s.attempts n).any AttemptPc.isQuitting
  | _ => done

def runtimeStep (s : ServiceState) (m : Nat) (label : EngineLabel) : ServiceState :=
  let runtime := s.runtimes m
  { (s.setRuntime m (engineStep runtime label)).perform (runtime.routeCalls label) with
    teardownDone := marksDone runtime s.teardownDone label }

/-- `converge_and_await_teardown` of the current session. -/
def exitStep (s : ServiceState) (label : ExitLabel) : ServiceState :=
  match s.exit, label with
  | none, .begin =>
    match s.runtime.slot with
    | some n =>
      { s.setRuntime s.current { s.runtime with cancelled := update s.runtime.cancelled n true } with
        exit := some .polling }
    | none => { s with exit := some .polling }
  | some .polling, .readDone => if s.teardownDone then { s with exit := some .cleaning } else s
  | some .polling, .readSlot => if s.runtime.slot.isSome then s else { s with exit := some .slotEmpty }
  | some .slotEmpty, .readLive => { s with exit := some (if s.runtime.live then .polling else .cleaning) }
  | some .polling, .timeOut => { s with exit := some .ended }
  | some .cleaning, .clean deleted =>
    let runtime := { s.runtime with ledger := (s.runtime.ledger.completeResourceCleanup deleted).1 }
    { (s.setRuntime s.current runtime).perform (s.runtime.ledger.cleanupCalls deleted) with exit := some .ended }
  | _, _ => s

/-- The process takes one step; a label that is not enabled changes nothing. -/
def serviceStep (s : ServiceState) : ServiceLabel → ServiceState
  | .engine label => runtimeStep s s.current label
  | .earlier m n label => if m < s.current then runtimeStep s m (.attempt n label) else s
  | .exit label => exitStep s label
  | .nextSession => if s.exit = some .ended then { s with current := s.current + 1, exit := none } else s

end ExvVpn.DarwinEngine
