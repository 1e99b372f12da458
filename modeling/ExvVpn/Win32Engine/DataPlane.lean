import ExvVpn.Win32Engine.Status

/-!
# The worker threads of the data plane

`EngineDataPlaneThreads` and `DataPlaneWorkerGuard` of `data_plane.rs`: the reader and the writer thread of one data plane,
what they share, and the calls `activate`, `stop_and_join` and `rebind_operation_with` on them. Every access to shared memory
is a step of its own; the mutex around the operation is a value that says who is inside.

Whether a running worker reports a failure, panics or looks at its stop flag is data of the label, since it depends on packets
and on Windows. `install_live` publishes Connected before it activates the threads, the one caller of `rebind_operation_with`
inside the mutex.
-/

namespace ExvVpn.EngineDataPlane

open EngineStatus Function

/-! ## Places in the code -/

/-- The two worker threads. -/
inductive Worker where
  | reader
  | writer
  deriving DecidableEq, Repr

/-- Where a `report` is; `publish` has the operation that was cloned inside the mutex. -/
inductive ReportPc where
  | lock
  | loadStop
  | swap
  | clone
  | publish (operationId : Bytes)
  deriving DecidableEq, Repr

/-- Where a worker thread is: in the two loads of `wait_for_data_plane_activation`, at the load behind it, in its loop, in
a `report`, which the drop of the guard may have called, or at its end. -/
inductive WorkerPc where
  | loadActivated
  | waiting
  | woken
  | running
  | reporting (dropping : Bool) (pc : ReportPc)
  | ended
  deriving DecidableEq, Repr

/-- The loads of `is_alive`. -/
inductive AliveLoad where
  | failureReported
  | stop (worker : Worker)
  | finished (worker : Worker)
  deriving DecidableEq, Repr

/-- The loads of `is_alive` in the order of the code. -/
def aliveLoads : List AliveLoad :=
  [.failureReported, .stop .reader, .stop .writer, .finished .reader, .finished .writer]

/-- Where a `rebind_operation_with` is; `check` has the loads of `is_alive` still to come. -/
inductive RebindPc where
  | lock (operationId : Bytes)
  | check (operationId : Bytes) (loads : List AliveLoad)
  | publish (operationId : Bytes)
  | unlock
  | returned (rebound : Bool)
  deriving DecidableEq, Repr

/-- Who is inside the mutex. -/
inductive Holder where
  | worker (worker : Worker)
  | rebind (call : Nat)
  deriving DecidableEq, Repr

/-! ## The state -/

/-- What happened: an event was published, or the threads were handed over to an operation. -/
inductive PlaneEntry where
  | published (event : StatusEvent)
  | rebound (operationId : Bytes)
  deriving DecidableEq, Repr

/-- The worker threads of one data plane and the calls on them. `operation` is the one they were spawned for, and the
history has the newest entry first. -/
structure DataPlane where
  operation : Bytes
  connected : Bool
  activated : Bool
  failureReported : Bool
  stop : Worker → Bool
  activeOperationId : Bytes
  lock : Option Holder
  workers : Worker → WorkerPc
  rebinds : Nat → Option RebindPc
  history : List PlaneEntry

/-- `spawn_data_plane`: both threads wait to be activated. -/
def DataPlane.spawned (operation : Bytes) : DataPlane where
  operation := operation
  connected := false
  activated := false
  failureReported := false
  stop := fun _ => false
  activeOperationId := operation
  lock := none
  workers := fun _ => .loadActivated
  rebinds := fun _ => none
  history := []

/-- The Failed event of a data plane that is lost. -/
def lostEvent (operationId : Bytes) : StatusEvent :=
  .failed operationId (some .startingDataPlane) Wire.dataPlaneDropError

namespace DataPlane

/-- Moves a worker thread. -/
def setWorker (s : DataPlane) (worker : Worker) (pc : WorkerPc) : DataPlane :=
  { s with workers := update s.workers worker pc }

def setRebind (s : DataPlane) (call : Nat) (pc : RebindPc) : DataPlane :=
  { s with rebinds := update s.rebinds call (some pc) }

def note (s : DataPlane) (entry : PlaneEntry) : DataPlane := { s with history := entry :: s.history }

/-- What a load of `is_alive` says. -/
def loadsAlive (s : DataPlane) : AliveLoad → Bool
  | .failureReported => !s.failureReported
  | .stop worker => !s.stop worker
  | .finished worker => s.workers worker ≠ .ended

end DataPlane

/-! ## Steps -/

/-- The closure of a thread is left: its guard is dropped, which reports. -/
def WorkerPc.leave : WorkerPc := .reporting true .lock

/-- Where a thread goes on after a `report`. -/
def WorkerPc.afterReport (dropping : Bool) : WorkerPc := if dropping then .ended else .leave

/-- What a running worker does next. -/
inductive WorkerEvent where
  | loop
  | report
  | panic
  deriving DecidableEq, Repr

def reportStep (s : DataPlane) (worker : Worker) (dropping : Bool) : ReportPc → DataPlane
  | .lock =>
    match s.lock with
    | some _ => s
    | none => { s with lock := some (.worker worker) }.setWorker worker (.reporting dropping .loadStop)
  | .loadStop =>
    if s.stop worker then { s with lock := none }.setWorker worker (.afterReport dropping)
    else s.setWorker worker (.reporting dropping .swap)
  | .swap =>
    if s.failureReported then { s with lock := none }.setWorker worker (.afterReport dropping)
    else { s with failureReported := true }.setWorker worker (.reporting dropping .clone)
  | .clone => { s with lock := none }.setWorker worker (.reporting dropping (.publish s.activeOperationId))
  | .publish operationId =>
    (s.note (.published (lostEvent operationId))).setWorker worker (.afterReport dropping)

def workerStep (s : DataPlane) (worker : Worker) (event : WorkerEvent) : DataPlane :=
  match s.workers worker with
  | .loadActivated => s.setWorker worker (if s.activated then .woken else .waiting)
  | .waiting => s.setWorker worker (if s.stop worker then .leave else .loadActivated)
  | .woken => s.setWorker worker (if s.stop worker then .leave else .running)
  | .running =>
    match event with
    | .loop => if s.stop worker then s.setWorker worker .leave else s
    | .report => s.setWorker worker (.reporting false .lock)
    | .panic => s.setWorker worker .leave
  | .reporting dropping pc => reportStep s worker dropping pc
  | .ended => s

/-- One step of a `rebind_operation_with`, with the time of the clock. -/
def rebindStep (s : DataPlane) (call : Nat) (wallClockMs : Int) : DataPlane :=
  match s.rebinds call with
  | none => s
  | some (.lock operationId) =>
    match s.lock with
    | some _ => s
    | none => { s with lock := some (.rebind call) }.setRebind call (.check operationId aliveLoads)
  | some (.check operationId (load :: loads)) =>
    if s.loadsAlive load then s.setRebind call (.check operationId loads)
    else { s with lock := none }.setRebind call (.returned false)
  | some (.check operationId []) =>
    ({ s with activeOperationId := operationId }.note (.rebound operationId)).setRebind call (.publish operationId)
  | some (.publish operationId) =>
    (s.note (.published (.connected operationId wallClockMs))).setRebind call .unlock
  | some .unlock => { s with lock := none }.setRebind call (.returned true)
  | some (.returned _) => s

/-- A step of the threads, of the runtime that owns them and of the calls that hand them over. -/
inductive PlaneLabel where
  | connect (wallClockMs : Int)
  | activate
  | stop (worker : Worker)
  | worker (worker : Worker) (event : WorkerEvent)
  | rebind (call : Nat) (operationId : Bytes)
  | rebindStep (call : Nat) (wallClockMs : Int)

/-- One step; a label that is not enabled changes nothing. -/
def planeStep (s : DataPlane) : PlaneLabel → DataPlane
  | .connect wallClockMs =>
    if s.connected then s
    else { s.note (.published (.connected s.operation wallClockMs)) with connected := true }
  | .activate => if s.connected then { s with activated := true } else s
  | .stop worker => { s with stop := update s.stop worker true }
  | .worker worker event => workerStep s worker event
  | .rebind call operationId =>
    match s.rebinds call with
    | none => s.setRebind call (.lock operationId)
    | some _ => s
  | .rebindStep call wallClockMs => rebindStep s call wallClockMs

end ExvVpn.EngineDataPlane
