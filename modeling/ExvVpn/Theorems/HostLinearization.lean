import ExvVpn.Lemmas.HostDispatch

/-! # Connect and stop meet at the dispatch record

In every interleaving an attempt whose cancellation was recorded does not send `ApplyTunnel`; an attempt that does has left
the mark by which every stop goes to the helper, until one has been confirmed; and an attempt that was replaced leaves
composition and record alone when it fails. -/

namespace ExvVpn.Win32Host

open Host Wire Transition List Function ServiceState ConnectDispatch

/-- By the step the attempt passes the point before `ApplyTunnel`. -/
def Passes (s : ServiceState) (label : ServiceLabel) (id : Nat) : Prop :=
  s.attempts id ≠ some .applying ∧ (serviceStep s label).attempts id = some .applying

/-- A newer attempt has been admitted. -/
def Superseded (s : ServiceState) (id : Nat) : Prop := ∃ state, s.dispatch = some state ∧ state.id ≠ id

/-- A step by which an attempt brings up an engine; the others are the way of an attempt to its end. -/
def AttemptLabel.provisions : AttemptLabel → Bool
  | .provisionCapture | .provisionRebind _ | .provisionRestore => true
  | _ => false

/-- The step leaves composition and record as they are. -/
def LeavesAlone (s : ServiceState) (label : ServiceLabel) : Prop :=
  (serviceStep s label).composition = s.composition ∧ (serviceStep s label).dispatch = s.dispatch

variable {s : ServiceState} {id : Nat}

namespace HostLinearizationAux

theorem setAttempt_attempts (s : ServiceState) (id : Nat) (pc : ConnectPc) (id' : Nat) :
    (s.setAttempt id pc).attempts id' = if id' = id then some pc else s.attempts id' := by
  simp [setAttempt, update_apply]

/-- An attempt gets to `applying` only by its own `beforeApply`. -/
theorem attemptStep_applying {id' : Nat} {label : AttemptLabel} (hne : s.attempts id' ≠ some .applying)
    (h : (attemptStep s id label).attempts id' = some .applying) :
    id' = id ∧ label = .beforeApply ∧ ∃ target, s.attempts id = some (.preparing target) ∧ mayApply s id target = true := by
  unfold attemptStep at h
  split at h
  case h_12 target hpc =>
    split at h
    · rename_i hmay
      rw [setAttempt_attempts] at h
      split at h
      · rename_i hid
        exact ⟨hid, rfl, target, hpc, hmay⟩
      · exact absurd h hne
    · rw [setAttempt_attempts] at h
      split at h
      · cases h
      · exact absurd h hne
  case h_14 =>
    have hattempts : (applyConnectFailedForRoute s id).attempts = s.attempts := by
      unfold applyConnectFailedForRoute
      split <;> rfl
    simp only [ServiceState.endAttempt, update_apply, hattempts] at h
    split at h
    · cases h
    · exact absurd h hne
  case h_15 =>
    split at h
    · exact absurd h hne
    simp only [update_apply] at h
    split at h
    · cases h
    · exact absurd h hne
  all_goals repeat' split at h
  all_goals first
    | exact absurd h hne
    | rw [setAttempt_attempts] at h
      split at h
      · cases h
      · exact absurd h hne
    | simp only [ServiceState.endAttempt, update_apply] at h
      split at h
      · cases h
      · exact absurd h hne

variable (s)

/-- The admission of an attempt lets none get to `applying`, and leaves the mark. -/
theorem admitConnect_frame (key : Bytes) (policy : Option ReconnectSessionPolicy) (expected : Option Nat) :
    (∀ id, (admitConnect s key policy expected).1.attempts id = some .applying → s.attempts id = some .applying) ∧
      (admitConnect s key policy expected).1.history.applied = s.history.applied := by
  unfold admitConnect
  split
  · exact ⟨fun _ h => h, rfl⟩
  split
  · exact ⟨fun _ h => h, rfl⟩
  refine ⟨fun id h => ?_, by cases policy <;> rfl⟩
  have hattempts : update s.attempts s.nextId (some .awaitingRoute) id = some .applying := by
    cases policy <;> exact h
  rw [update_apply] at hattempts
  split at hattempts
  · cases hattempts
  · exact hattempts

theorem stopStep_attempts (key : Nat) (label : StopLabel) :
    (stopStep s key label).attempts = s.attempts := by
  unfold stopStep
  split
  · rfl
  split
  case h_4 =>
    unfold finishLocalStop
    split <;> rfl
  all_goals repeat' split
  all_goals rfl

theorem handleStatus_attempts (event : EngineStatusEvent) (nowMs : Int) :
    (handleStatus s event nowMs).attempts = s.attempts := by
  have hnote : ∀ (t : ServiceState) w e, (noteStatus t w e).attempts = t.attempts := by
    intro t w e
    cases e <;> simp only [noteStatus]
    split <;> rfl
  unfold handleStatus
  split
  · rfl
  simp only
  split
  · rfl
  · rw [hnote]
    rfl

theorem forwarderStep_frame (label : ForwarderLabel) :
    (forwarderStep s label).attempts = s.attempts ∧ (forwarderStep s label).history.applied = s.history.applied := by
  unfold forwarderStep
  split
  case h_7 =>
    exact ⟨handleStatus_attempts s _ _, congrArg DispatchView.applied (HostDispatchAux.handleStatus_dispatchView s _ _)⟩
  case h_9 =>
    unfold convergeDisconnected
    split <;> exact ⟨rfl, rfl⟩
  all_goals repeat' split
  all_goals exact ⟨rfl, rfl⟩

theorem workerStep_frame (label : WorkerLabel) :
    (∀ id, (workerStep s label).attempts id = some .applying → s.attempts id = some .applying) ∧
      (workerStep s label).history.applied = s.history.applied := by
  unfold workerStep
  split
  case h_1 =>
    unfold driveReconnect
    repeat' split
    all_goals exact ⟨fun _ h => h, rfl⟩
  case h_3 key origin _ =>
    have hadmit := admitConnect_frame s key none (some origin)
    split <;> rename_i heq <;> rw [heq] at hadmit <;> exact hadmit
  all_goals repeat' split
  all_goals exact ⟨fun _ h => h, rfl⟩

variable {s}

/-- Who passes has just been current. -/
theorem passes_cases {label : ServiceLabel} (h : Passes s label id) :
    label = .attempt id .beforeApply ∧ ∃ target, s.attempts id = some (.preparing target) ∧ mayApply s id target = true := by
  obtain ⟨hne, hstep⟩ := h
  cases label with
  | connect key policy => exact absurd ((admitConnect_frame ..).1 id hstep) hne
  | attempt id' label =>
    obtain ⟨rfl, rfl, hmay⟩ := attemptStep_applying hne hstep
    exact ⟨rfl, hmay⟩
  | stop | slotSwap | transitionStop => exact absurd hstep hne
  | stopCall key label => exact absurd ((stopStep_attempts s key label) ▸ hstep) hne
  | snapshot call label =>
    have hq := queried_snapshotStep s call label
    simp only [serviceStep] at hstep
    generalize snapshotStep s call label = s' at hq hstep
    cases hq <;> exact absurd hstep hne
  | forwarder label => exact absurd ((forwarderStep_frame s label).1 ▸ hstep) hne
  | worker label => exact absurd ((workerStep_frame s label).1 id hstep) hne
  | advanceAttachment | helperLinkTerminal => exact absurd hstep hne
  | respawnRebind | transitionIdle => exact absurd hstep hne

/-! ## Who clears the mark -/

theorem attemptStep_applied (s : ServiceState) (id : Nat) (label : AttemptLabel) :
    (attemptStep s id label).history.applied = (s.history.applied || (attemptStep s id label).history.applied) := by
  unfold attemptStep
  split
  case h_12 =>
    split
    · exact (Bool.or_true _).symm
    · exact (Bool.or_self _).symm
  case h_14 =>
    unfold applyConnectFailedForRoute
    split <;> exact (Bool.or_self _).symm
  all_goals repeat' split
  all_goals exact (Bool.or_self _).symm

/-- Among the steps of stop calls only the end of one that has sent `StopTunnel` clears the mark. -/
theorem stopStep_cleared {key : Nat} {label : StopLabel} (happ : s.history.applied = true)
    (h : (stopStep s key label).history.applied = false) :
    ∃ call, label = .finish ∧ s.stops key = some call ∧ call.pc = .finishing ∧ call.stopTunnelSent = true := by
  have hno : s.history.applied ≠ false := by simp [happ]
  unfold stopStep at h
  split at h
  · exact absurd h hno
  rename_i call hcall
  split at h
  case h_4 hpc =>
    refine ⟨call, rfl, hcall, hpc, ?_⟩
    unfold finishLocalStop at h
    split at h
    · exact absurd h hno
    · by_contra hsent
      simp only [hsent, setStop, if_false] at h
      exact absurd h hno
  all_goals repeat' split at h
  all_goals exact absurd h hno

theorem applied_cleared {label : ServiceLabel} (happ : s.history.applied = true)
    (h : (serviceStep s label).history.applied = false) :
    ∃ key call, label = .stopCall key .finish ∧ s.stops key = some call ∧ call.pc = .finishing ∧
      call.stopTunnelSent = true := by
  have hno : s.history.applied ≠ false := by simp [happ]
  cases label with
  | connect key policy => exact absurd ((admitConnect_frame s key (some policy) none).2 ▸ h) hno
  | attempt id label =>
    have hor := attemptStep_applied s id label
    rw [happ, Bool.true_or] at hor
    cases hor.symm.trans h
  | stop | slotSwap | transitionStop => exact absurd h hno
  | stopCall key label =>
    obtain ⟨call, rfl, hcall⟩ := stopStep_cleared happ h
    exact ⟨key, call, rfl, hcall⟩
  | snapshot call label =>
    have hq := queried_snapshotStep s call label
    simp only [serviceStep] at h
    generalize snapshotStep s call label = s' at hq h
    cases hq <;> exact absurd h hno
  | forwarder label => exact absurd ((forwarderStep_frame s label).2 ▸ h) hno
  | worker label => exact absurd ((workerStep_frame s label).2 ▸ h) hno
  | advanceAttachment | helperLinkTerminal => exact absurd h hno
  | respawnRebind | transitionIdle => exact absurd h hno

/-! ## Attempts that were replaced -/

theorem not_isCurrent_of_superseded (h : Superseded s id) : isCurrent s.dispatch id = false := by
  obtain ⟨state, hstate, hid⟩ := h
  simp [hstate, isCurrent, hid]

/-- Every step of an attempt that was replaced, the bringing up of an engine apart, is a step of its own only. -/
theorem leavesAlone_of_superseded (h : Superseded s id) {label : AttemptLabel}
    (hlabel : label.provisions = false) : LeavesAlone s (.attempt id label) := by
  have hcur : isCurrent s.dispatch id = false := not_isCurrent_of_superseded h
  have hno : ¬ isCurrent s.dispatch id = true := by simp [hcur]
  unfold LeavesAlone
  simp only [serviceStep]
  unfold attemptStep
  split
  case h_2 | h_3 | h_4 => cases hlabel
  case h_7 =>
    split <;> exact ⟨rfl, rfl⟩
  case h_12 =>
    rw [if_neg (by simp [mayApply, hcur])]
    exact ⟨rfl, rfl⟩
  case h_14 =>
    rw [applyConnectFailedForRoute, if_neg hno]
    exact ⟨rfl, rfl⟩
  all_goals repeat' split
  all_goals exact ⟨rfl, rfl⟩

theorem leavesAlone_workerFinish (s : ServiceState) : LeavesAlone s (.worker .finish) := by
  unfold LeavesAlone
  cases hw : s.worker with
  | returned result => cases result <;> simp [serviceStep, workerStep, hw, setWorker]
  | _ => simp [serviceStep, workerStep, hw]

end HostLinearizationAux

open HostLinearizationAux

/-- In every state of every run: an attempt that passes the point before `ApplyTunnel` was not cancelled before, and leaves the
mark that a stop is owed; while no stop has been confirmed since, a stop that is accepted goes on to the helper, and gets to
its end only after `StopTunnel`; an attempt that was replaced, the reconnect worker at its end, and a stop call of an attempt
that was replaced change neither composition nor record. -/
theorem connect_stop_linearized (base cap : Nat) (labels : List ServiceLabel) :
    let s := run serviceStep (ServiceState.initial base cap) labels
    (∀ label id, Passes s label id → id ∉ s.history.cancelRecorded ∧
      stopOwed (serviceStep s label).dispatch = true ∧ (serviceStep s label).history.applied = true) ∧
    (∀ label, s.history.applied = true → (serviceStep s label).history.applied = false →
      ∃ key call, label = .stopCall key .finish ∧ s.stops key = some call ∧ call.pc = .finishing ∧
        call.stopTunnelSent = true) ∧
    (s.history.applied = true → ∀ key,
      (serviceStep s (.stop key)).stops s.nextId = some ⟨s.dispatch.map ConnectDispatch.id, true, .leasing, false⟩) ∧
    (∀ key call, s.stops key = some call → call.stopRequired = true → call.pc ≠ .leasing → call.stopTunnelSent = true) ∧
    (∀ id, Superseded s id → ∀ label, label.provisions = false → LeavesAlone s (.attempt id label)) ∧
    LeavesAlone s (.worker .finish) ∧
    (∀ key call, s.stops key = some call → s.dispatch.map ConnectDispatch.id ≠ call.attempt →
      LeavesAlone s (.stopCall key .finish)) := by
  intro s
  have hs : s.dispatchView.Sound := dispatchSound_run base cap labels
  refine ⟨?_, fun _ => applied_cleared, ?_, ?_, ?_, leavesAlone_workerFinish s, ?_⟩
  · intro label id hpass
    obtain ⟨rfl, target, hpc, hmay⟩ := passes_cases hpass
    have hcur : isCurrent s.dispatch id = true := by
      simp only [mayApply, Bool.and_eq_true] at hmay
      exact hmay.1.1
    refine ⟨?_, ?_⟩
    · intro hrec
      have hnot : isCurrent s.dispatch id = false := hs.recorded_cancelled id hrec
      rw [hcur] at hnot
      cases hnot
    · have hstep : serviceStep s (.attempt id .beforeApply) = (markApplied s).setAttempt id .applying := by
        simp [serviceStep, attemptStep, hpc, hmay]
      have hsound := dispatchSound_serviceStep s (.attempt id .beforeApply) hs
      have happ : (serviceStep s (.attempt id .beforeApply)).history.applied = true := by
        rw [hstep]
        rfl
      exact ⟨hsound.applied_owed happ, happ⟩
  · intro happ key
    have howed : stopOwed s.dispatch = true := hs.applied_owed happ
    have hall : s.dispatch.all ConnectDispatch.stopRequired = true := by
      cases hd : s.dispatch with
      | none => rfl
      | some state =>
        rw [hd] at howed
        exact howed
    simp [serviceStep, acceptStop, hall]
  · intro key call hcall hreq hpc
    exact (hs.stop_sound key call hcall).sent hreq hpc
  · intro id hsup label hlabel
    exact leavesAlone_of_superseded hsup hlabel
  · intro key call hcall hreplaced
    unfold LeavesAlone
    simp only [serviceStep, stopStep, hcall]
    split
    case h_4 =>
      rw [finishLocalStop, if_pos hreplaced]
      exact ⟨rfl, rfl⟩
    all_goals repeat' split
    all_goals exact ⟨rfl, rfl⟩

namespace HostLinearizationAux

/-- A session without reconnects. -/
def sessionPolicy : ReconnectSessionPolicy := ⟨false, 0, false⟩

/-- The user connects, and the attempt is about to send `ApplyTunnel`. -/
def readyToApply : List ServiceLabel :=
  [.forwarder .read, .forwarder .attachOk, .connect (replicate 16 1) sessionPolicy, .attempt 0 .routeLock,
    .attempt 0 (.routeReturn true), .attempt 0 .routeCheck, .attempt 0 .routeTarget, .attempt 0 .statusReady,
    .attempt 0 .engineLock]

/-- The attempt is applied, the user stops, and the helper confirms. -/
def appliedThenStopped : List ServiceLabel :=
  readyToApply ++ [.attempt 0 .beforeApply, .attempt 0 (.applyReply true), .stop (replicate 16 2),
    .stopCall 1 (.lease true), .stopCall 1 (.reply .stopped), .stopCall 1 .finish]

end HostLinearizationAux

/-- The attempt of a session passes; a stop right after it goes on to the helper. -/
theorem connect_stop_linearized_session :
    let s := run serviceStep (initial 2000000000 30000000000) readyToApply
    let s' := run serviceStep (initial 2000000000 30000000000) (readyToApply ++ [.attempt 0 .beforeApply])
    Passes s (.attempt 0 .beforeApply) 0 ∧ 0 ∉ s.history.cancelRecorded ∧
      (serviceStep s' (.stop (replicate 16 2))).stops 1 = some ⟨some 0, true, .leasing, false⟩ := by
  intro s s'
  have hpass : Passes s (.attempt 0 .beforeApply) 0 := by
    refine ⟨?_, rfl⟩
    rw [show s.attempts 0 = some (.preparing 0) from rfl]
    simp
  have h := connect_stop_linearized 2000000000 30000000000 readyToApply
  have h' := connect_stop_linearized 2000000000 30000000000 (readyToApply ++ [.attempt 0 .beforeApply])
  exact ⟨hpass, (h.1 _ _ hpass).1, h'.2.2.1 rfl (replicate 16 2)⟩

/-- Once the helper has confirmed a stop, a later stop of the same record sends nothing: it goes straight to its end. -/
theorem stop_after_confirmed_stop_is_local :
    let s := run serviceStep (initial 2000000000 30000000000) appliedThenStopped
    Passes (run serviceStep (initial 2000000000 30000000000) readyToApply) (.attempt 0 .beforeApply) 0 ∧
      (serviceStep s (.stop (replicate 16 3))).stops 2 = some ⟨some 0, false, .finishing, false⟩ := by
  refine ⟨⟨?_, rfl⟩, rfl⟩
  rw [show (run serviceStep (initial 2000000000 30000000000) readyToApply).attempts 0
    = some (.preparing 0) from rfl]
  simp

end ExvVpn.Win32Host
