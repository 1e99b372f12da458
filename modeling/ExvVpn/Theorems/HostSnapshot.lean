import ExvVpn.Lemmas.HostSnapshot

/-! # What late status events show

A status event of an operation that is no longer the registered one is to leave no trace in the answers of `GetSnapshot`.
Terminal events of such operations are dropped. Progress is not: while the host is connecting, the progress of an old attempt
is shown as the one of the new. -/

namespace ExvVpn.Win32Host

open Host Wire Transition EngineStatusEvent ServiceState SnapshotState

def EngineStatusEvent.operationId : EngineStatusEvent → Bytes
  | .progress id _ => id
  | .connected id _ => id
  | .failed id _ => id
  | .stopped id => id

/-- What `GetSnapshot` reports in a state: its answers, wherever the query may have started and whatever the engine says. -/
def ServiceState.reports (s : ServiceState) (basis : QueryBasis) (engine : Option RuntimeSnapshot) : RuntimeSnapshot :=
  getSnapshot s.composition basis engine

/-- The event shows no progress: it is not Progress, or the forwarder does not take it, or the host is not connecting, or the
phase is the one that is shown already. -/
def Unshown (s : ServiceState) : EngineStatusEvent → Prop
  | .progress _ fine =>
    s.forwarder.pc = .streaming → s.generation = s.forwarder.generation → s.composition.phase = .connecting →
      s.composition.shownConnectPhase = wireConnectPhaseFromDomain fine
  | _ => True

variable {event : EngineStatusEvent}

namespace HostSnapshotAux

variable {s : ServiceState}

/-- A terminal event of another operation is dropped. -/
theorem handleStatus_stale (hstale : staleTerminalOperation s.composition event = true)
    (nowMs : Int) : handleStatus s event nowMs = s := by
  have hnormalize : normalizeUnexpectedStop event s.composition = event := by
    cases event with
    | stopped id => simp only [normalizeUnexpectedStop, hstale, Bool.true_eq_false, and_false, if_false]
    | _ => rfl
  have hdropped : runtimeEventFromStatus s.composition event nowMs = none := if_pos hstale
  unfold handleStatus
  split
  · rfl
  · simp [hnormalize, hdropped]

/-- So the forwarder does nothing. -/
theorem status_stale (hstale : staleTerminalOperation s.composition event = true) (nowMs : Int) :
    serviceStep s (.forwarder (.status event nowMs)) = s := by
  simp only [serviceStep]
  unfold forwarderStep
  split
  case h_7 heq _ =>
    cases heq
    exact handleStatus_stale hstale nowMs
  all_goals simp_all

theorem status_progress_taken (hpc : s.forwarder.pc = .streaming) (hgeneration : s.generation = s.forwarder.generation)
    (id : Bytes) (fine : ConnectPhase) (nowMs : Int) :
    serviceStep s (.forwarder (.status (.progress id fine) nowMs))
      = s.setComposition (s.composition.withConnectPhase (some fine)) := by
  -- the filter lets Progress of any operation pass
  have hfresh : staleTerminalOperation s.composition (.progress id fine) = false := by
    unfold staleTerminalOperation
    cases s.composition.operationId <;> rfl
  have hruntime : runtimeEventFromStatus s.composition (.progress id fine) nowMs
      = some (s.composition.withConnectPhase (some fine)) := by
    rw [runtimeEventFromStatus, hfresh]
    rfl
  have hhandle : handleStatus s (.progress id fine) nowMs
      = s.setComposition (s.composition.withConnectPhase (some fine)) := by
    rw [handleStatus, if_neg (not_not.mpr hgeneration)]
    simp [normalizeUnexpectedStop, hruntime, noteStatus]
  simp [serviceStep, forwarderStep, hpc, hhandle]

theorem status_progress_untaken (h : ¬ (s.forwarder.pc = .streaming ∧ s.generation = s.forwarder.generation))
    (id : Bytes) (fine : ConnectPhase) (nowMs : Int) :
    serviceStep s (.forwarder (.status (.progress id fine) nowMs)) = s := by
  by_cases hpc : s.forwarder.pc = .streaming
  · have hhandle : handleStatus s (.progress id fine) nowMs = s := if_pos fun hgeneration => h ⟨hpc, hgeneration⟩
    simp [serviceStep, forwarderStep, hpc, hhandle]
  · simp only [serviceStep, forwarderStep]
    split <;> simp_all

/-- While the host is connecting and the engine knows of no session, the progress is reported. -/
theorem getSnapshot_connecting {c : HostComposition} (hphase : c.phase = .connecting) :
    getSnapshot c ⟨.idle, none⟩ (some ⟨some .idle, []⟩) = ⟨some (.connecting c.shownConnectPhase), c.operationBytes⟩ := by
  have hselected : selectedSnapshot c (some ⟨some .idle, []⟩)
      = ⟨some (.connecting c.shownConnectPhase), c.operationBytes⟩ := by
    simp [selectedSnapshot, preferSnapshot, snapshotForPhase, hphase, isEnding, isConnected,
      snapshotWithConfirmedSessionStart]
  exact hselected

/-- An event that shows no progress leaves a state that looks alike. -/
theorem alike_status (hshown : Unshown s event)
    (hstale : event.terminalOperation.isSome = true → staleTerminalOperation s.composition event = true) (nowMs : Int) :
    s.Alike (serviceStep s (.forwarder (.status event nowMs))) := by
  have hsame : s.Alike s := .intro (.refl s.composition)
  cases event with
  | progress id fine =>
    by_cases htaken : s.forwarder.pc = .streaming ∧ s.generation = s.forwarder.generation
    · rw [status_progress_taken htaken.1 htaken.2]
      exact .intro (.intro _ fun hphase => (hshown htaken.1 htaken.2 hphase).symm)
    · rw [status_progress_untaken htaken]
      exact hsame
  | _ =>
    rw [status_stale (hstale rfl)]
    exact hsame

end HostSnapshotAux

open HostSnapshotAux

/-- In every run of the host, an event of an operation other than the registered one changes nothing that `GetSnapshot`
reports, then or later, exactly if it shows no progress. -/
theorem stale_status_unreported_iff (base cap : Nat) (labels : List ServiceLabel) (event : EngineStatusEvent) (nowMs : Int)
    (current : OperationId)
    (hcurrent : (run serviceStep (initial base cap) labels).composition.operationId = some current)
    (hstale : event.operationId ≠ current.val) :
    let s := run serviceStep (initial base cap) labels
    (∀ later basis engine, (run serviceStep s (.forwarder (.status event nowMs) :: later)).reports basis engine
      = (run serviceStep s later).reports basis engine) ↔ Unshown s event := by
  intro s
  constructor
  · intro hreports
    cases event with
    | progress id fine =>
      intro hpc hgeneration hphase
      have hnow := hreports [] ⟨.idle, none⟩ (some ⟨some .idle, []⟩)
      rw [run_cons, run_nil, run_nil, status_progress_taken hpc hgeneration] at hnow
      have hphase' : (s.composition.withConnectPhase (some fine)).phase = .connecting := hphase
      have hafter := getSnapshot_connecting hphase'
      have hbefore := getSnapshot_connecting hphase
      have hstate := congrArg RuntimeSnapshot.state (hafter.symm.trans (hnow.trans hbefore))
      exact (connecting.inj (Option.some.inj hstate)).symm
    | _ => trivial
  · intro hshown later basis engine
    have hterminal : event.terminalOperation.isSome = true → staleTerminalOperation s.composition event = true := by
      intro hsome
      have hoperation : s.composition.operationId = some current := hcurrent
      cases event with
      | progress id fine => cases hsome
      | _ =>
        simp only [staleTerminalOperation, hoperation, terminalOperation]
        exact decide_eq_true hstale.symm
    exact ((alike_status hshown hterminal nowMs).run later).composition.getSnapshot basis engine

namespace HostSnapshotAux

/-- The operation that is connected first. -/
def firstKey : Bytes := List.replicate 16 1

/-- The operation that takes its place. -/
def secondKey : Bytes := List.replicate 16 2

/-- A session without reconnects. -/
def noReconnects : ReconnectSessionPolicy := ⟨false, 0, false⟩

/-- The status stream is open, and the user connects twice. -/
def connectTwice : List ServiceLabel :=
  [.forwarder .read, .forwarder .attachOk, .connect firstKey noReconnects, .connect secondKey noReconnects]

end HostSnapshotAux

/-- The failure of the first operation comes after the second was registered, and nothing is seen of it. -/
theorem stale_status_unreported_failure :
    let s := run serviceStep (initial 2000000000 30000000000) connectTwice
    let late := failed firstKey dataPlaneDropError
    s.composition.operationId = some ⟨secondKey, rfl⟩ ∧ Unshown s late ∧ ∀ later basis engine,
      (run serviceStep s (.forwarder (.status late 1) :: later)).reports basis engine
        = (run serviceStep s later).reports basis engine := by
  intro s late
  have hcurrent : s.composition.operationId = some ⟨secondKey, rfl⟩ := rfl
  have hiff := stale_status_unreported_iff 2000000000 30000000000 connectTwice late 1 ⟨secondKey, rfl⟩ hcurrent (by decide)
  exact ⟨hcurrent, trivial, hiff.mpr trivial⟩

/-- The progress of the first operation comes after the second was registered, and is reported as the progress of the
second. -/
theorem late_progress_reported :
    let s := run serviceStep (initial 2000000000 30000000000) connectTwice
    let late := progress firstKey .startingDataPlane
    let engine : Option RuntimeSnapshot := some ⟨some (.connecting 8), firstKey⟩
    s.composition.operationId = some ⟨secondKey, rfl⟩ ∧ late.operationId ≠ secondKey ∧
      s.reports (queryBasis s.composition) engine = ⟨some (.connecting 1), secondKey⟩ ∧
      (serviceStep s (.forwarder (.status late 1))).reports (queryBasis s.composition) engine
        = ⟨some (.connecting 8), secondKey⟩ := by
  refine ⟨rfl, by decide, ?_, ?_⟩ <;> decide +kernel

end ExvVpn.Win32Host
