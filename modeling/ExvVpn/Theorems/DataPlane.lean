import ExvVpn.Lemmas.DataPlane

/-!
# How the loss of a data plane is reported

The worker threads of one data plane publish at most one Failed event. It comes after the Connected event of its
operation, and its operation is the one that the threads were handed over to last. A worker that ends without having
been told to stop does not end in silence.
-/

namespace ExvVpn.EngineDataPlane

open EngineStatus History Transition List PlaneEntry

/-- How the threads have reported so far. -/
structure DataPlane.ReportsOnce (s : DataPlane) : Prop where
  once : s.history.countP isFailed ≤ 1
  connectedBefore : ∀ later event before, s.history = later ++ .published event :: before → event.coarsePhase = .failed →
    before.any (connects event.operationId) = true
  ofLastRebind : ∀ later event middle operationId before,
    s.history = later ++ .published event :: (middle ++ .rebound operationId :: before) → event.coarsePhase = .failed →
      (∀ other, rebound other ∉ middle) → event.operationId = operationId
  notSilent : ∀ worker, s.workers worker = .ended → s.stop worker = false →
    s.history.any isFailed = true ∨ ∃ other, (s.workers other).claims = true

namespace DataPlaneAux

theorem sound_spawned (operation : Bytes) : (DataPlane.spawned operation).Sound where
  worker _ := trivial
  rebind _ _ h := nomatch h
  connected h := nomatch h
  activated h := nomatch h
  current := rfl
  introduced := .inr (.inl rfl)
  unreported _ := rfl
  told h := nomatch h
  attributed := trivial

/-- A Failed event is the only one. -/
theorem countP_of_attributed {operation : Bytes} {history : List PlaneEntry} (h : Each (Attributed operation) history) :
    history.countP isFailed ≤ 1 := by
  induction history with
  | nil => exact Nat.zero_le 1
  | cons entry before ih =>
    obtain ⟨hentry, hbefore⟩ := h
    cases hfailed : entry.isFailed with
    | false =>
      rw [countP_cons_of_neg (by simp [hfailed])]
      exact ih hbefore
    | true =>
      cases entry with
      | rebound operationId => cases hfailed
      | published event =>
        have hnone := (hentry (by simpa [isFailed] using hfailed)).2.2
        have hzero : before.countP isFailed = 0 := by
          simpa using hnone
        exact Nat.le_of_eq (by rw [countP_cons_of_pos hfailed, hzero])

/-- The current operation is the one of the last hand-over. -/
theorem currentOperation_append (operation operationId : Bytes) (before : List PlaneEntry) {middle : List PlaneEntry}
    (hmiddle : ∀ other, rebound other ∉ middle) :
    currentOperation operation (middle ++ .rebound operationId :: before) = operationId := by
  induction middle with
  | nil => rfl
  | cons entry middle ih =>
    cases entry with
    | rebound other => exact absurd mem_cons_self (hmiddle other)
    | published event => exact ih fun other hin => hmiddle other (mem_cons_of_mem _ hin)

end DataPlaneAux

open DataPlaneAux

/-- In every interleaving of the worker threads with activation, stops and hand-overs the loss of the data plane is
reported once, after Connected, and under the operation of the last hand-over. -/
theorem data_plane_loss_reported_once (operation : Bytes) (labels : List PlaneLabel) :
    (run planeStep (.spawned operation) labels).ReportsOnce := by
  have hsound : (run planeStep (.spawned operation) labels).Sound :=
    invariant_of_run sound_planeStep (sound_spawned operation) labels
  generalize run planeStep (.spawned operation) labels = s at hsound ⊢
  refine ⟨countP_of_attributed hsound.attributed, ?_, ?_, ?_⟩
  · intro later event before hhistory hfailed
    have heach := hsound.attributed
    rw [hhistory] at heach
    exact (heach.at_split hfailed).2.1
  · intro later event middle operationId before hhistory hfailed hmiddle
    have heach := hsound.attributed
    rw [hhistory] at heach
    exact (heach.at_split hfailed).1.trans (currentOperation_append _ _ _ hmiddle)
  · intro worker hended hrunning
    have hat := hsound.worker worker
    rw [hended] at hat
    have hreported : s.failureReported = true := hat.resolve_left (by simp [hrunning])
    exact hsound.told hreported

/-- The threads of an operation are handed over to another one, and then the writer meets the end of its session. -/
def lostAfterRebind : List PlaneLabel :=
  [.connect 5, .activate, .worker .writer .loop, .worker .writer .loop, .rebind 0 [2]] ++
    replicate 9 (.rebindStep 0 7) ++ replicate 6 (.worker .writer .report)

example :
    (run planeStep (.spawned [1]) lostAfterRebind).history =
      [.published (lostEvent [2]), .published (.connected [2] 7), .rebound [2], .published (.connected [1] 5)] := by
  decide +kernel

end ExvVpn.EngineDataPlane
