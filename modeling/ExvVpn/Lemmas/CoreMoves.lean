import ExvVpn.DarwinCore.Tasks

/-!
# What a step of the macOS core can do

The transitions of a Connect call, a Stop call and a status projection, each with the place it starts from, the label and
what the code has checked. Every invariant of the core is a case analysis over them.
-/

namespace ExvVpn.DarwinCore

open CoreState

/-- The Connect call is inside the section of the session lock. -/
def ConnectPc.holds : ConnectPc → Bool
  | .requested => false
  | .returned _ => false
  | _ => true

/-- The Stop call is inside the section of the session lock. -/
def StopPc.holds : StopPc → Bool
  | .requested => false
  | .returned _ => false
  | _ => true

/-- The projection is inside the section of the session lock. -/
def ProjectionPc.holds : ProjectionPc → Bool
  | .ready => true
  | .sent => true
  | _ => false

/-- The generation and the operation of the reconnect that the worker drives, before it dispatches it. -/
def WorkerPc.driving : WorkerPc → Option (Nat × Option Nat)
  | .loaded generation trigger => some (generation, trigger)
  | .looking generation trigger _ _ => some (generation, trigger)
  | .budget generation trigger _ => some (generation, trigger)
  | .sleeping generation trigger => some (generation, trigger)
  | _ => none

/-- The worker is about to publish `FailedClean`. -/
def WorkerPc.announces : WorkerPc → Bool
  | .failing _ => true
  | _ => false

variable (s : CoreState)

/-! ## Calls -/

section

variable (c : Nat) (call : ConnectCall)

/-- The moves of the Connect call `c`. -/
inductive ConnectMove : ConnectPc → ConnectLabel → CoreState → Prop
  | same {pc label} : ConnectMove pc label s
  | refuse : ConnectMove .requested .refuse (s.setConnect c { call with pc := .returned false })
  | lock (hfree : s.lock = none) : ConnectMove .requested .takeLock
      ((s.takeLock (.connect c) call.generation).setConnect c { call with pc := .locked })
  | fail {pc label} (hpc : pc.holds = true) : ConnectMove pc label (s.failConnect c call)
  | admitted {config policy attempts active} (hsame : call.generation = s.generation) : ConnectMove .locked (.checkGeneration config)
      ({ s with policy, attempts, active }.setConnect c { call with pc := .admitted })
  | reuse {session} (hsession : s.session = some session) :
      ConnectMove .admitted (.reuse true) (s.setConnect c { call with pc := .attaching session })
  | discard (hsession : s.session.isSome = true) : ConnectMove .admitted (.reuse false)
      ({ s with session := none, ticker := none }.setConnect c { call with pc := .launching })
  | launch {alive} : ConnectMove .admitted (.reuse alive) (s.setConnect c { call with pc := .launching })
  | launched {session kind nextSession oneshot} : ConnectMove .launching (.launch (some kind))
      ({ s with session := some session, nextSession, oneshot, ticker := some session.id }.setConnect c
        { call with pc := .attaching session })
  | attach {session} : ConnectMove (.attaching session) (.attach true)
      (s.setConnect c { call with pc := .attached session })
  | recheck {session} (hsame : call.generation = s.generation) :
      ConnectMove (.attached session) .recheck (s.setConnect c { call with pc := .checked session })
  | apply {session} : ConnectMove (.checked session) .apply
      ((s.record (.applyTunnel c call.generation call.trigger)).setConnect c { call with pc := .applying session })
  | accept {session} : ConnectMove (.applying session) (.reply true) (s.accept c call session)

variable (k : Nat) (call : StopCall)

/-- The moves of the Stop call `k`. -/
inductive StopMove : StopPc → StopLabel → CoreState → Prop
  | same {pc label} : StopMove pc label s
  | refuse : StopMove .requested .refuse (s.setStop k { call with pc := .returned .failed })
  | lock (hfree : s.lock = none) : StopMove .requested .takeLock
      ((s.takeLock (.stop k) call.generation).setStop k { call with pc := .locked })
  | fail {pc label} (hpc : pc.holds = true) : StopMove pc label (s.endStop k call .failed)
  | stopping {alive policy} : StopMove .locked (.checkGeneration alive)
      (({ s with policy }.publish (.stop k) ⟨.stopping, some (.stop k)⟩).setStop k { call with pc := .stopping })
  | lost {alive policy} (hlost : ¬(s.session.isSome && alive) = true) :
      StopMove .locked (.checkGeneration alive) ({ s with policy }.stopLost k call)
  | attach : StopMove .stopping (.attach true) (s.setStop k { call with pc := .ready })
  | send : StopMove .ready .send ((s.record (.stopTunnel (.stop k))).setStop k { call with pc := .sent })
  | stopped : StopMove .sent (.reply true) (s.setStop k { call with pc := .stopped })
  | publishIdle : StopMove .stopped .publishIdle
      (({ s with active := false, everConnected := false }.publish (.stop k) ⟨.idle, none⟩).setStop k
        { call with pc := .idle })
  | finish : StopMove .idle .finish
      (((s.finishOperation (.stop k)).record (.stopReturned k)).endStop k call .idle)

end

/-! ## Projections -/

variable (i : Nat) (p : Projection)

/-- The moves of the status projection `i`, from the first event to the end of its stream. -/
inductive ProjectionMove : ProjectionPc → ProjectionLabel → CoreState → Prop
  | same {pc label} : ProjectionMove pc label s
  | phase : ProjectionMove .waiting (.message i .phase) (s.setProjection i (some { p with pc := .phase }))
  | connected : ProjectionMove .waiting (.message i .connected)
      ({ s with attempts := 0, active := false, everConnected := true }.setProjection i
        (some { p with pc := .connected }))
  | error {retryable} (hlive : s.stats.live = true) : ProjectionMove .waiting (.message i (.error retryable))
      (s.setProjection i (some { p with pc := .failed retryable }))
  | showPhase : ProjectionMove .phase .publish
      ((s.publish (.projection i) ⟨.connecting, some (.connect i)⟩).setProjection i (some { p with pc := .waiting }))
  | showConnected : ProjectionMove .connected .publish
      (({ s with stats := s.stats.markConnected }.publish (.projection i) ⟨.connected, some (.connect i)⟩).setProjection i
        (some { p with pc := .waiting }))
  | finish {retryable} : ProjectionMove (.failed retryable) .finish
      (({ s with active := false }.finishOperation (.projection i)).setProjection i
        (some { p with pc := .finished retryable }))
  | stopping {retryable pc} (hpc : pc = .signalling ∨ pc = .cleaning) (hretry : pc = .signalling → retryable = true) :
      ProjectionMove (.finished retryable) .publish
      ((s.publish (.projection i) ⟨.stopping, some (.connect i)⟩).setProjection i (some { p with pc }))
  | signal : ProjectionMove .signalling .signal
      ((s.signalReconnect (.projection i) (some i)).setProjection i none)
  | lock {alive} (hfree : s.lock = none) (hsame : p.generation = s.generation) :
      ProjectionMove .cleaning (.takeLock alive)
        ({ s with lock := some (.projection i) }.setProjection i (some { p with pc := .ready }))
  | giveUp {pc label} : ProjectionMove pc label (s.setProjection i none)
  | send : ProjectionMove .ready .send
      ((s.record (.stopTunnel (.projection i))).setProjection i (some { p with pc := .sent }))
  | stopped : ProjectionMove .sent (.reply true) (s.unlock.setProjection i (some { p with pc := .stopped }))
  | failed : ProjectionMove .sent (.reply false) (s.unlock.setProjection i none)
  | publishClean (hsame : p.generation = s.generation) : ProjectionMove .stopped .publish
      ((s.publish (.projection i) ⟨.failedClean, some (.connect i)⟩).setProjection i none)
  | close : ProjectionMove .waiting .close (s.setProjection i (some { p with pc := .closed }))
  | look {pc} (hpc : pc = .lost ∨ pc = .clearing) :
      ProjectionMove .closed .look (s.setProjection i (some { p with pc }))
  | finishLost : ProjectionMove .lost .finish
      (({ s with active := false }.finishOperation (.streamEnd i)).setProjection i (some { p with pc := .lostFinished }))
  | publishLost : ProjectionMove .lostFinished .publish
      ((s.publish (.streamEnd i) ⟨.failedClean, some (.connect i)⟩).setProjection i (some { p with pc := .clearing }))
  | clearSlot {session} (hsession : s.session = some session) : ProjectionMove .clearing .clearSlot
      (({ s with session := none }.record (.slotCleared p.session session)).setProjection i
        (some { p with pc := .aborting }))
  | keepSlot : ProjectionMove .clearing .clearSlot (s.setProjection i (some { p with pc := .aborting }))
  | abortTicker {ticker} (hticker : s.ticker = some ticker) : ProjectionMove .aborting .abortTicker
      (({ s with ticker := none }.record (.tickerAborted p.session ticker)).setProjection i none)

/-! ## Tasks and requests -/

/-- The moves of the reconnect worker, the final cleanups and the wake recovery, and what a request does. -/
inductive TaskMove : CoreLabel → CoreState → Prop
  /-- A task goes on by itself: the worker drives what it drove before or nothing, and has nothing new to publish. -/
  | goOn {label policy attempts active everConnected signals worker cancels asleep woken wake}
      (hdriving : worker.driving = none ∨ worker.driving = s.worker.driving)
      (hannounces : worker.announces = true → s.worker.announces = true) :
      TaskMove label
        { s with policy, attempts, active, everConnected, signals, worker, cancels, asleep, woken, wake }
  | load {signal} (hworker : s.worker = .checked signal) :
      TaskMove (.worker .load) { s with worker := .loaded s.generation signal.trigger }
  | finishReconnect {label generation} : TaskMove label (s.finishReconnect generation)
  | dispatch {label trigger worker} (hdriving : s.worker.driving = some (s.generation, trigger))
      (hworker : worker.driving = none ∧ worker.announces = false) :
      TaskMove label { s.addConnect s.generation false trigger with worker }
  | reconnectFailed {c} (hworker : s.worker = .dispatching s.generation c) (hresult : s.connectResult c = some false) :
      TaskMove (.worker .conclude) { s with active := false, worker := .failing c }
  | publishFailed {label c} (hworker : s.worker = .failing c) :
      TaskMove label { s.publish .worker ⟨.failedClean, some (.connect c)⟩ with worker := .idle }
  | endFinish {label f} : TaskMove label (s.setFinish f none)
  | beginStop {label f operation} (hf : s.finishes f = some (.starting s.generation)) :
      TaskMove label
        ((s.addStop s.generation false).setFinish f (some (.stopping s.generation operation s.nextStop)))
  | settle {label f operation k result} (hf : s.finishes f = some (.stopping s.generation operation k))
      (hresult : s.stopResult k = some result) (hstopped : result ≠ .failed) :
      TaskMove label (s.setFinish f (some (.clean operation)))
  | publishFinished {label f operation} (hf : s.finishes f = some (.clean operation)) :
      TaskMove label ((s.publish (.finish f) ⟨.failedClean, operation⟩).setFinish f none)
  | connect : TaskMove .connect s.connect
  | stop : TaskMove .stop s.stop
  | cancel {label cancels policy} :
      TaskMove label
        ({ s with cancels, generation := s.generation + 1, active := false, policy }.addFinish (s.generation + 1))
  | stopAsleep {label wake} :
      TaskMove label { { s with generation := s.generation + 1 }.addStop (s.generation + 1) true with wake }
  | signalAwake {label} :
      TaskMove label { { s with everConnected := true }.signalReconnect .wake none with wake := .idle }

variable {s}

theorem connectMove_connectStep (c : Nat) (call : ConnectCall) (label : ConnectLabel) :
    ConnectMove s c call call.pc label (connectStep s c call label) := by
  obtain ⟨generation, newSession, trigger, pc⟩ := call
  unfold connectStep
  dsimp only
  split
  case h_1 => exact .refuse
  case h_2 =>
    split
    · exact .same
    · exact .lock (Option.not_isSome_iff_eq_none.mp ‹_›)
  case h_3 =>
    split
    · exact .fail rfl
    · rename_i hsame
      split
      · exact .admitted (Decidable.not_not.mp hsame)
      · exact .admitted (Decidable.not_not.mp hsame)
  case h_4 alive =>
    split
    · rename_i session hsession
      cases alive with
      | true => exact .reuse hsession
      | false => exact .discard (by rw [hsession]; rfl)
    · exact .launch
  case h_5 => exact .fail rfl
  case h_6 => exact .launched
  case h_7 attached =>
    cases attached with
    | true => exact .attach
    | false => exact .fail rfl
  case h_8 =>
    split
    · exact .fail rfl
    · exact .recheck (Decidable.not_not.mp ‹_›)
  case h_9 => exact .apply
  case h_10 pending =>
    cases pending with
    | true => exact .accept
    | false => exact .fail rfl
  case h_11 => exact .same

theorem stopMove_stopStep (k : Nat) (call : StopCall) (label : StopLabel) :
    StopMove s k call call.pc label (stopStep s k call label) := by
  obtain ⟨generation, preserve, pc⟩ := call
  unfold stopStep
  dsimp only
  split
  case h_1 => exact .refuse
  case h_2 =>
    split
    · exact .same
    · exact .lock (Option.not_isSome_iff_eq_none.mp ‹_›)
  case h_3 =>
    split
    · exact .fail rfl
    split
    · exact .stopping
    · exact .lost ‹_›
  case h_4 attached =>
    cases attached with
    | true => exact .attach
    | false => exact .fail rfl
  case h_5 => exact .send
  case h_6 stopped =>
    cases stopped with
    | true => exact .stopped
    | false => exact .fail rfl
  case h_7 => exact .publishIdle
  case h_8 => exact .finish
  case h_9 => exact .same

theorem projectionMove_closeStep (label : ProjectionLabel) :
    ProjectionMove s i p p.pc label (closeStep s i p label) := by
  obtain ⟨generation, session, pc⟩ := p
  unfold closeStep
  dsimp only
  split
  case h_1 => exact .close
  case h_2 =>
    refine .look ?_
    split
    · exact .inl rfl
    · exact .inr rfl
  case h_3 => exact .finishLost
  case h_4 => exact .publishLost
  case h_5 =>
    unfold clearOwnSlot
    split
    · exact .same
    split
    · rename_i hsession
      split
      · exact .clearSlot hsession
      · exact .keepSlot
    · exact .keepSlot
  case h_6 =>
    unfold CoreState.abortTicker
    split
    · rename_i hticker
      exact .abortTicker hticker
    · exact .giveUp
  case h_7 => exact .same

theorem projectionMove_eventStep (label : ProjectionLabel) :
    ProjectionMove s i p p.pc label (eventStep s i p label) := by
  obtain ⟨generation, session, pc⟩ := p
  unfold eventStep
  dsimp only
  split
  case h_1 operation event =>
    split
    · rename_i hop
      subst hop
      cases event with
      | phase => exact .phase
      | connected => exact .connected
      | error retryable =>
        simp only [readEvent]
        split
        · exact .error ‹_›
        · exact .same
    · exact .same
  case h_2 => exact .showPhase
  case h_3 => exact .showConnected
  case h_4 => exact .finish
  case h_5 =>
    split
    · exact .stopping (.inl rfl) fun _ => (Bool.and_eq_true_iff.mp ‹_›).1
    · exact .stopping (.inr rfl) nofun
  case h_6 => exact .signal
  case h_7 =>
    split
    · exact .same
    split
    · rename_i hfree hcond
      simp only [Bool.and_eq_true, decide_eq_true_eq] at hcond
      exact .lock (Option.not_isSome_iff_eq_none.mp hfree) hcond.1.2
    · exact .giveUp
  case h_8 => exact .send
  case h_9 stopped =>
    cases stopped with
    | true => exact .stopped
    | false => exact .failed
  case h_10 =>
    split
    · exact .publishClean ‹_›
    · exact .giveUp
  case h_11 => exact .same

theorem projectionMove_projectionStep (label : ProjectionLabel) :
    ProjectionMove s i p p.pc label (projectionStep s i p label) := by
  unfold projectionStep
  split
  · exact projectionMove_closeStep i p label
  · exact projectionMove_eventStep i p label

namespace TaskMove

/-- Nothing changes but the worker, which goes on to rest. -/
theorem rest {label : CoreLabel} {w : WorkerPc} (hdriving : w.driving = none) (hannounces : w.announces = false) :
    TaskMove s label { s with worker := w } :=
  .goOn (.inl hdriving) fun h => by rw [hannounces] at h; cases h

theorem same {label : CoreLabel} : TaskMove s label s := .goOn (.inr rfl) id

/-- The worker goes on with the reconnect it drives. -/
theorem drive {label : CoreLabel} {w : WorkerPc} (hdriving : w.driving = s.worker.driving) (hannounces : w.announces = false)
    (attempts : Nat) (active : Bool) : TaskMove s label { s with attempts, active, worker := w } :=
  .goOn (.inr hdriving) fun h => by rw [hannounces] at h; cases h

end TaskMove

theorem taskMove_workerStep (label : WorkerLabel) : TaskMove s (.worker label) (workerStep s label) := by
  unfold workerStep
  split
  case h_1 =>
    split
    · exact .same
    · exact .goOn (.inl rfl) nofun
  case h_2 =>
    split
    · exact .rest rfl rfl
    · exact .rest rfl rfl
  case h_3 hworker => exact .load hworker
  case h_4 hworker =>
    split
    · exact .rest rfl rfl
    split
    · exact .rest rfl rfl
    · split
      · exact .drive (by rw [hworker]; rfl) rfl s.attempts s.active
      · exact .finishReconnect
  case h_5 hworker =>
    split
    · exact .same
    split
    · exact .rest rfl rfl
    · split
      · exact .finishReconnect
      · exact .drive (by rw [hworker]; rfl) rfl s.attempts s.active
  case h_6 hworker =>
    split
    · exact .finishReconnect
    · exact .drive (by rw [hworker]; rfl) rfl (s.attempts + 1) true
  case h_7 generation trigger hworker =>
    split
    · exact .rest rfl rfl
    · rename_i hsame
      obtain rfl := Decidable.not_not.mp hsame
      exact .dispatch (by rw [hworker]; rfl) ⟨rfl, rfl⟩
  case h_8 generation c hworker =>
    split
    · rename_i accepted hresult
      split
      · exact .rest rfl rfl
      -- The reconnect has failed in its generation.
      rename_i hfailed
      simp only [ne_eq, decide_not, Bool.or_eq_true, Bool.not_eq_true', decide_eq_false_iff_not, not_or,
        Decidable.not_not, Bool.not_eq_true] at hfailed
      obtain ⟨rfl, rfl⟩ := hfailed
      exact .reconnectFailed hworker hresult
    · exact .same
  case h_9 hworker => exact .publishFailed hworker
  case h_10 =>
    split
    · exact .rest rfl rfl
    · exact .same
  case h_11 => exact .same

theorem taskMove_finishStep {f : Nat} {pc : FinishPc} (hf : s.finishes f = some pc) (label : FinishLabel) :
    TaskMove s (.finish f label) (finishStep s f pc label) := by
  unfold finishStep
  split
  case h_1 generation =>
    split
    · exact .endFinish
    · rename_i hsame
      obtain rfl := Decidable.not_not.mp hsame
      exact .beginStop hf
  case h_2 generation operation k =>
    split
    · rename_i result hresult
      split
      · rename_i hsettled
        simp only [ne_eq, decide_not, Bool.and_eq_true, Bool.not_eq_true', decide_eq_false_iff_not,
          decide_eq_true_eq] at hsettled
        obtain ⟨hstopped, rfl⟩ := hsettled
        exact .settle hf hresult hstopped
      · exact .endFinish
    · exact .same
  case h_3 => exact .publishFinished hf
  case h_4 => exact .same

theorem taskMove_wakeStep (label : WakeLabel) : TaskMove s (.wake label) (wakeStep s label) := by
  have hrest : ∀ woken wake, TaskMove s (.wake label) { s with woken, wake } := fun _ _ => .goOn (.inr rfl) id
  unfold wakeStep
  split
  case h_1 =>
    split
    · exact .same
    · exact hrest _ _
  case h_2 | h_3 => exact hrest s.woken _
  case h_4 =>
    split
    · exact .stopAsleep
    · exact hrest s.woken _
  case h_5 =>
    split
    · exact hrest s.woken _
    · exact .same
  case h_6 => exact .signalAwake
  case h_7 => exact .same

end ExvVpn.DarwinCore
