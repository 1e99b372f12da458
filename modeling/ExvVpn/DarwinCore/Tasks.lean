import ExvVpn.DarwinCore.Calls

/-!
# Tasks of the macOS core

The status projection of an operation (`spawn_status_projection`), the reconnect worker (`drive_reconnect`), the cleanup it
ends with (`finish_reconnect_and_cleanup`), the recovery after sleep (`resume_after_sleep`), and the core as a whole. A
projection skips events of other operations; it lives until its stream ends or its own operation fails.
-/

namespace ExvVpn.DarwinCore

/-! ## The status projection of an operation -/

/-- What an event of the status stream says: a phase of connecting, that the tunnel is up, or an error, which may ask
for a reconnect. -/
inductive StatusEvent where
  | phase
  | connected
  | error (retryable : Bool)
  deriving DecidableEq, Repr

inductive ProjectionLabel where
  | message (operation : Nat) (event : StatusEvent)
  | publish
  | finish
  | signal
  | takeLock (alive : Bool)
  | send
  | reply (stopped : Bool)
  | close
  | look
  | clearSlot
  | abortTicker

variable (s : CoreState)

/-- The projection reads an event of its own operation. Only for an error it asks whether an operation is live. -/
def CoreState.readEvent (i : Nat) (p : Projection) : StatusEvent → CoreState
  | .phase => s.setProjection i (some { p with pc := .phase })
  | .connected =>
    { s with attempts := 0, active := false, everConnected := true }.setProjection i (some { p with pc := .connected })
  | .error retryable => if s.stats.live then s.setProjection i (some { p with pc := .failed retryable }) else s

/-- The end of the stream empties the session slot if the process id there is its own. -/
def CoreState.clearOwnSlot (p : Projection) : CoreState :=
  match s.session with
  | some session =>
    if session.enginePid = p.session.enginePid then
      { s with session := none }.record (.slotCleared p.session session)
    else s
  | none => s

/-- The end of the stream aborts the keepalive ticker, whichever session it belongs to. -/
def CoreState.abortTicker (p : Projection) : CoreState :=
  match s.ticker with
  | some ticker => { s with ticker := none }.record (.tickerAborted p.session ticker)
  | none => s

/-- The projection while its stream is open. -/
def eventStep (i : Nat) (p : Projection) (label : ProjectionLabel) : CoreState :=
  match p.pc, label with
  | .waiting, .message operation event => if operation = i then s.readEvent i p event else s
  | .phase, .publish =>
    (s.publish (.projection i) ⟨.connecting, some (.connect i)⟩).setProjection i (some { p with pc := .waiting })
  | .connected, .publish =>
    ({ s with stats := s.stats.markConnected }.publish (.projection i) ⟨.connected, some (.connect i)⟩).setProjection i
      (some { p with pc := .waiting })
  | .failed retryable, .finish =>
    ({ s with active := false }.finishOperation (.projection i)).setProjection i
      (some { p with pc := .finished retryable })
  | .finished retryable, .publish =>
    (s.publish (.projection i) ⟨.stopping, some (.connect i)⟩).setProjection i
      (some { p with pc := if retryable && s.everConnected then .signalling else .cleaning })
  | .signalling, .signal => (s.signalReconnect (.projection i) (some i)).setProjection i none
  | .cleaning, .takeLock alive =>
    if s.lock.isSome then s
    else if s.session.isSome && p.generation = s.generation && alive then
      { s with lock := some (.projection i) }.setProjection i (some { p with pc := .ready })
    else s.setProjection i none
  | .ready, .send => (s.record (.stopTunnel (.projection i))).setProjection i (some { p with pc := .sent })
  | .sent, .reply stopped => s.unlock.setProjection i (if stopped then some { p with pc := .stopped } else none)
  | .stopped, .publish =>
    if p.generation = s.generation then
      (s.publish (.projection i) ⟨.failedClean, some (.connect i)⟩).setProjection i none
    else s.setProjection i none
  | _, _ => s

/-- The projection after the end of its stream. -/
def closeStep (i : Nat) (p : Projection) (label : ProjectionLabel) : CoreState :=
  match p.pc, label with
  | .waiting, .close => s.setProjection i (some { p with pc := .closed })
  | .closed, .look => s.setProjection i (some { p with pc := if s.stats.live then .lost else .clearing })
  | .lost, .finish =>
    ({ s with active := false }.finishOperation (.streamEnd i)).setProjection i (some { p with pc := .lostFinished })
  | .lostFinished, .publish =>
    (s.publish (.streamEnd i) ⟨.failedClean, some (.connect i)⟩).setProjection i (some { p with pc := .clearing })
  | .clearing, .clearSlot =>
    if s.lock.isSome then s else (s.clearOwnSlot p).setProjection i (some { p with pc := .aborting })
  | .aborting, .abortTicker => (s.abortTicker p).setProjection i none
  | _, _ => s

/-- The places a projection is at after its stream has ended, and the one from which it ends. -/
def ProjectionLabel.closes : ProjectionPc → ProjectionLabel → Bool
  | .waiting, .close => true
  | .closed, _ => true
  | .lost, _ => true
  | .lostFinished, _ => true
  | .clearing, _ => true
  | .aborting, _ => true
  | _, _ => false

def projectionStep (i : Nat) (p : Projection) (label : ProjectionLabel) : CoreState :=
  if label.closes p.pc then closeStep s i p label else eventStep s i p label

/-! ## The reconnect worker -/

/-- A step of the reconnect worker. -/
inductive WorkerLabel where
  | receive
  | check
  | load
  | readPolicy
  | look (alive oneshotTransport : Bool)
  | spend
  | dispatch
  | conclude
  | publish
  | join

/-- The worker starts the final cleanup and waits for it. -/
def CoreState.finishReconnect (generation : Nat) : CoreState :=
  { s.addFinish generation with worker := .finishing s.nextFinish }

/-- One step of the worker: it takes a signal and runs `drive_reconnect`. -/
def workerStep (label : WorkerLabel) : CoreState :=
  match s.worker, label with
  | .idle, .receive =>
    match s.signals with
    | [] => s
    | signal :: rest => { s with signals := rest, worker := .received signal }
  | .received signal, .check =>
    { s with worker := if signal.generation = s.generation then .checked signal else .idle }
  -- `drive_reconnect` reads the generation again instead of taking it from the signal.
  | .checked signal, .load => { s with worker := .loaded s.generation signal.trigger }
  | .loaded generation trigger, .readPolicy =>
    if s.active then { s with worker := .idle }
    else
      match s.policy with
      | none => { s with worker := .idle }
      | some policy =>
        if policy.enabled then { s with worker := .looking generation trigger policy.maxAttempts s.oneshot }
        else s.finishReconnect generation
  | .looking generation trigger maxAttempts oneshot, .look alive oneshotTransport =>
    if s.lock.isSome then s
    else if generation ≠ s.generation then { s with worker := .idle }
    else if oneshot && !(s.session.isSome && alive) && oneshotTransport then s.finishReconnect generation
    else { s with worker := .budget generation trigger maxAttempts }
  | .budget generation trigger maxAttempts, .spend =>
    if maxAttempts ≠ 0 && maxAttempts ≤ s.attempts then s.finishReconnect generation
    else { s with active := true, attempts := s.attempts + 1, worker := .sleeping generation trigger }
  | .sleeping generation trigger, .dispatch =>
    if generation ≠ s.generation then { s with worker := .idle }
    else { s.addConnect generation false trigger with worker := .dispatching generation s.nextConnect }
  | .dispatching generation c, .conclude =>
    match s.connectResult c with
    | some accepted =>
      if generation ≠ s.generation || accepted then { s with worker := .idle }
      else { s with active := false, worker := .failing c }
    | _ => s
  | .failing c, .publish =>
    { s.publish .worker ⟨.failedClean, some (.connect c)⟩ with worker := .idle }
  | .finishing f, .join => if (s.finishes f).isNone then { s with worker := .idle } else s
  | _, _ => s

/-! ## The end of a reconnect -/

/-- A step of a final cleanup. -/
inductive FinishLabel where
  | begin
  | settle
  | publish

/-- One step of `finish_reconnect_and_cleanup`. -/
def finishStep (f : Nat) (pc : FinishPc) (label : FinishLabel) : CoreState :=
  match pc, label with
  | .starting generation, .begin =>
    if generation ≠ s.generation then s.setFinish f none
    else
      (s.addStop generation false).setFinish f
        (some (.stopping generation (s.snapshot.bind (·.operation)) s.nextStop))
  | .stopping generation operation k, .settle =>
    match s.stopResult k with
    | some result =>
      if result ≠ .failed && generation = s.generation then s.setFinish f (some (.clean operation))
      else s.setFinish f none
    | _ => s
  | .clean operation, .publish => (s.publish (.finish f) ⟨.failedClean, operation⟩).setFinish f none
  | _, _ => s

/-! ## Sleep and wake -/

/-- A step of the wake recovery. -/
inductive WakeLabel where
  | next
  | resume
  | look
  | advance
  | settle
  | signal

/-- `sleep_connection`: the connection in use, if it may be restored. -/
def CoreState.sleepConnection : Option SleepConnection :=
  match s.snapshot with
  | some ⟨.connected, operation⟩ => if s.reconnectEnabled then some ⟨s.generation, operation⟩ else none
  | _ => none

/-- What the recovery does next, from the current snapshot. -/
def CoreState.wakeBranch (connection : SleepConnection) : WakePc :=
  match s.snapshot with
  | some ⟨state, operation⟩ =>
    if operation ≠ connection.operation then .idle
    else
      match state with
      | .connected => .advancing connection
      | .failedClean => .recovering
      | _ => .idle
  | none => .idle

/-- One step of `resume_after_sleep` and the loop around it. -/
def wakeStep (label : WakeLabel) : CoreState :=
  match s.wake, label with
  | .idle, .next =>
    match s.woken with
    | [] => s
    | connection :: rest => { s with woken := rest, wake := .waiting connection }
  | .waiting connection, .resume =>
    { s with wake := if connection.generation = s.generation && s.reconnectEnabled && !s.active
                     then .looking connection else .idle }
  | .looking connection, .look => { s with wake := s.wakeBranch connection }
  | .advancing connection, .advance =>
    if connection.generation = s.generation then
      { { s with generation := s.generation + 1 }.addStop (s.generation + 1) true with
        wake := .stopping connection s.nextStop }
    else { s with wake := .idle }
  | .stopping connection k, .settle =>
    match s.stopResult k with
    | some result =>
      { s with wake := if result ≠ .failed && s.generation = connection.generation + 1 then .recovering else .idle }
    | _ => s
  | .recovering, .signal => { { s with everConnected := true }.signalReconnect .wake none with wake := .idle }
  | _, _ => s

/-! ## The core -/

/-- One step of the core: a request of the user or the system arrives, or a call or a task goes on. -/
inductive CoreLabel where
  | connect
  | connectCall (c : Nat) (label : ConnectLabel)
  | stop
  | stopCall (k : Nat) (label : StopLabel)
  | projection (i : Nat) (label : ProjectionLabel)
  | statsSample
  | worker (label : WorkerLabel)
  | finish (f : Nat) (label : FinishLabel)
  | readWaiting
  | cancelWaiting
  | sleep
  | didWake
  | wake (label : WakeLabel)

/-- `connect`: the generation is advanced before anything else. -/
def CoreState.connect : CoreState :=
  { s with generation := s.generation + 1, active := false }.addConnect (s.generation + 1) true none

/-- `stop`: the generation is advanced before anything else. -/
def CoreState.stop : CoreState :=
  { s with generation := s.generation + 1, active := false }.addStop (s.generation + 1) false

/-- A sample of the statistics stream: the bus publishes the current snapshot again if it is `Connected`. -/
def CoreState.statsSample : CoreState :=
  match s.snapshot with
  | some ⟨.connected, operation⟩ =>
    if s.stats.live && s.stats.connected then s.publish .stats ⟨.connected, operation⟩ else s
  | _ => s

/-- `cancel_waiting_reconnect_after_setting_disabled` up to its decision. -/
def CoreState.readWaiting : CoreState :=
  if s.active || (s.everConnected && !s.stats.live) then { s with cancels := s.cancels + 1 } else s

/-- `cancel_waiting_reconnect_after_setting_disabled` from there on. -/
def CoreState.cancelWaiting : CoreState :=
  if s.cancels = 0 then s
  else
    { s with cancels := s.cancels - 1, generation := s.generation + 1, active := false,
             policy := s.policy.map .disable }.addFinish (s.generation + 1)

/-- The core takes one step; a label that is not enabled changes nothing. -/
def coreStep : CoreLabel → CoreState
  | .connect => s.connect
  | .connectCall c label =>
    match s.connects c with
    | some call => connectStep s c call label
    | none => s
  | .stop => s.stop
  | .stopCall k label =>
    match s.stops k with
    | some call => stopStep s k call label
    | none => s
  | .projection i label =>
    match s.projections i with
    | some p => projectionStep s i p label
    | none => s
  | .statsSample => s.statsSample
  | .worker label => workerStep s label
  | .finish f label =>
    match s.finishes f with
    | some pc => finishStep s f pc label
    | none => s
  | .readWaiting => s.readWaiting
  | .cancelWaiting => s.cancelWaiting
  | .sleep => { s with asleep := s.sleepConnection }
  | .didWake => { s with asleep := none, woken := s.woken ++ s.asleep.toList }
  | .wake label => wakeStep s label

end ExvVpn.DarwinCore
