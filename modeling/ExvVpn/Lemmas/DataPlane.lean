import ExvVpn.Win32Engine.DataPlane
import ExvVpn.Tools.History
import ExvVpn.Tools.OptionMap
import ExvVpn.Tools.Transition

/-!
# What the worker threads agree on

A report that gets past the swap has the claim to publish the failure, of which there is one at most. While a worker has it
nobody can rebind the threads, since `is_alive` looks at the flag inside the mutex, so the operation that was cloned is still
current when the failure is published.
-/

namespace ExvVpn.EngineDataPlane

open EngineStatus History Function PlaneEntry

/-! ## The history -/

def PlaneEntry.isFailed : PlaneEntry → Bool
  | .published event => event.coarsePhase = .failed
  | .rebound _ => false

/-- The entry is a Connected event of the operation. -/
def PlaneEntry.connects (operationId : Bytes) : PlaneEntry → Bool
  | .published event => event.operationId = operationId && event.coarsePhase = .connected
  | .rebound _ => false

/-- The operation that the threads were handed over to last. -/
def currentOperation (operation : Bytes) : List PlaneEntry → Bytes
  | [] => operation
  | .rebound operationId :: _ => operationId
  | .published _ :: before => currentOperation operation before

/-- A Failed event is the first one, and it is of the current operation, which was said to be connected. -/
def Attributed (operation : Bytes) (before : List PlaneEntry) : PlaneEntry → Prop
  | .rebound _ => True
  | .published event =>
    event.coarsePhase = .failed →
      event.operationId = currentOperation operation before ∧ before.any (connects event.operationId) = true ∧
        before.any isFailed = false

/-! ## The invariant -/

/-- The worker got past the swap and has not published yet. -/
def WorkerPc.claims : WorkerPc → Bool
  | .reporting _ .clone => true
  | .reporting _ (.publish _) => true
  | _ => false

variable (s : DataPlane)

/-- A worker has the claim to the one failure: nobody else has it, and no failure was published. -/
structure DataPlane.Claimed (worker : Worker) : Prop where
  activated : s.activated = true
  reported : s.failureReported = true
  others : ∀ other, other ≠ worker → (s.workers other).claims = false
  unpublished : s.history.any isFailed = false

/-- What holds when a worker is at a place. Before the activation it only reports when it was told to stop. -/
def DataPlane.WorkerAt (worker : Worker) : WorkerPc → Prop
  | .loadActivated => True
  | .waiting => True
  | .woken => s.activated = true
  | .running => s.activated = true
  | .reporting _ .lock => s.activated = true ∨ s.stop worker = true
  | .reporting _ .loadStop => s.lock = some (.worker worker) ∧ (s.activated = true ∨ s.stop worker = true)
  | .reporting _ .swap => s.lock = some (.worker worker) ∧ s.activated = true
  | .reporting _ .clone => s.lock = some (.worker worker) ∧ s.Claimed worker
  | .reporting _ (.publish operationId) =>
    operationId = s.activeOperationId ∧ s.history.any (connects operationId) = true ∧ s.Claimed worker
  | .ended => s.stop worker = true ∨ s.failureReported = true

/-- What holds when a call is at a place. Past the first load of `is_alive` no failure was reported. -/
def DataPlane.RebindAt (call : Nat) : RebindPc → Prop
  | .lock _ => True
  | .check _ loads => s.lock = some (.rebind call) ∧ (.failureReported ∉ loads → s.failureReported = false)
  | .publish operationId =>
    s.lock = some (.rebind call) ∧ s.failureReported = false ∧ s.activeOperationId = operationId
  | .unlock => s.lock = some (.rebind call)
  | .returned _ => True

/-- The operation was said to be connected, or a call is about to say so, or it is the one the threads were spawned for. -/
def DataPlane.Introduced : Prop :=
  s.history.any (connects s.activeOperationId) = true ∨ s.activeOperationId = s.operation ∨
    ∃ call, s.rebinds call = some (.publish s.activeOperationId)

/-- The invariant of the threads. -/
structure DataPlane.Sound : Prop where
  worker : ∀ worker, s.WorkerAt worker (s.workers worker)
  rebind : ∀ call pc, s.rebinds call = some pc → s.RebindAt call pc
  connected : s.connected = true → s.history.any (connects s.operation) = true
  activated : s.activated = true → s.connected = true
  current : s.activeOperationId = currentOperation s.operation s.history
  introduced : s.Introduced
  unreported : s.failureReported = false → s.history.any isFailed = false
  told : s.failureReported = true →
    s.history.any isFailed = true ∨ ∃ worker, (s.workers worker).claims = true
  attributed : Each (Attributed s.operation) s.history

variable {pc : WorkerPc} {call : Nat} {dropping : Bool}

namespace DataPlaneAux

variable {s} {t : DataPlane} {worker : Worker}

/-! ## Frames -/

/-- What a worker relies on stays when flags only rise, the mutex stays with it, and its claim is not touched. -/
theorem workerAt_of (h : s.WorkerAt worker pc) (hlock : s.lock = some (.worker worker) → t.lock = some (.worker worker))
    (hactivated : s.activated = true → t.activated = true) (hstop : s.stop worker = true → t.stop worker = true)
    (hreported : s.failureReported = true → t.failureReported = true)
    (hconnects : ∀ operationId, s.history.any (connects operationId) = true →
      t.history.any (connects operationId) = true)
    (hclaim : s.Claimed worker → pc.claims = true → t.activeOperationId = s.activeOperationId ∧ t.Claimed worker) :
    t.WorkerAt worker pc := by
  cases pc with
  | loadActivated | waiting => trivial
  | woken | running => exact hactivated h
  | ended => exact h.imp hstop hreported
  | reporting dropping report =>
    cases report with
    | lock => exact h.imp hactivated hstop
    | loadStop => exact ⟨hlock h.1, h.2.imp hactivated hstop⟩
    | swap => exact ⟨hlock h.1, hactivated h.2⟩
    | clone => exact ⟨hlock h.1, (hclaim h.2 rfl).2⟩
    | publish operationId =>
      obtain ⟨hoperation, hsaid, hclaimed⟩ := h
      obtain ⟨hactive, hclaimed⟩ := hclaim hclaimed rfl
      exact ⟨hoperation.trans hactive.symm, hconnects operationId hsaid, hclaimed⟩

/-- What a call relies on stays when the mutex stays with it and nothing under the mutex changes. -/
theorem rebindAt_of {pc : RebindPc} (h : s.RebindAt call pc)
    (hlock : s.lock = some (.rebind call) → t.lock = some (.rebind call))
    (hreported : s.lock = some (.rebind call) → t.failureReported = s.failureReported)
    (hactive : s.lock = some (.rebind call) → t.activeOperationId = s.activeOperationId) : t.RebindAt call pc := by
  cases pc with
  | lock | returned => trivial
  | check operationId loads =>
    refine ⟨hlock h.1, ?_⟩
    rw [hreported h.1]
    exact h.2
  | publish operationId =>
    refine ⟨hlock h.1, ?_, ?_⟩
    · rw [hreported h.1]
      exact h.2.1
    · rw [hactive h.1]
      exact h.2.2
  | unlock => exact hlock h

/-! ## Steps of a worker -/

theorem workers_setWorker_of_ne {other : Worker} (pc : WorkerPc) (hne : other ≠ worker) :
    (s.setWorker worker pc).workers other = s.workers other := update_of_ne hne ..

theorem claims_setWorker (hpc : pc.claims = true) : ((s.setWorker worker pc).workers worker).claims = true := by
  rw [show (s.setWorker worker pc).workers worker = pc from update_self ..]
  exact hpc

/-- All workers are where they should be, if the one that moves and the others are. -/
theorem workerAt_setWorker (hself : t.WorkerAt worker pc)
    (hothers : ∀ other, other ≠ worker → t.WorkerAt other (s.workers other)) :
    ∀ other, t.WorkerAt other ((s.setWorker worker pc).workers other) :=
  (forall_update_iff s.workers fun other => t.WorkerAt other).mpr ⟨hself, hothers⟩

/-- A claim outlasts the move of a worker that has none. -/
theorem claimed_setWorker {other : Worker} (h : s.Claimed other) (hpc : pc.claims = false) :
    (s.setWorker worker pc).Claimed other where
  __ := h
  others :=
    (forall_update_iff s.workers fun third pc => third ≠ other → pc.claims = false).mpr
      ⟨fun _ => hpc, fun third _ => h.others third⟩

/-- Who comes to a free mutex or leaves it takes it from nobody. -/
theorem others_keep {holder : Holder} (h : s.lock = none ∨ s.lock = some holder) (lock : Option Holder) :
    ∀ other, other ≠ holder → s.lock = some other → lock = some other := by
  intro other hne hother
  rcases h with hfree | hheld
  · cases hfree.symm.trans hother
  · cases hheld.symm.trans hother
    exact absurd rfl hne

/-- A worker without a claim moves, with the mutex or not. -/
theorem sound_move (h : s.Sound) {lock : Option Holder} (hold : (s.workers worker).claims = false)
    (hnew : pc.claims = false) (hlock : ∀ holder, holder ≠ .worker worker → s.lock = some holder → lock = some holder)
    (hpc : DataPlane.WorkerAt { s with lock } worker pc) : DataPlane.Sound ({ s with lock }.setWorker worker pc) where
  __ := h
  worker := by
    refine workerAt_setWorker (workerAt_of hpc id id id id (fun _ => id) fun _ hclaims => ?_) fun other hne => ?_
    · cases hnew.symm.trans hclaims
    · refine workerAt_of (h.worker other) (hlock _ ?_) id id id (fun _ => id) fun hclaimed _ => ?_
      · rintro ⟨⟩
        exact hne rfl
      · exact ⟨rfl, claimed_setWorker ⟨hclaimed.activated, hclaimed.reported, hclaimed.others, hclaimed.unpublished⟩ hnew⟩
  rebind call place hplace :=
    rebindAt_of (h.rebind call place hplace) (hlock _ (by simp)) (fun _ => rfl) (fun _ => rfl)
  told := by
    intro hreported
    refine (h.told hreported).imp id ?_
    intro ⟨other, hclaims⟩
    refine ⟨other, ?_⟩
    have hne : other ≠ worker := by
      rintro rfl
      cases hold.symm.trans hclaims
    rw [workers_setWorker_of_ne pc hne]
    exact hclaims

/-- A worker without a claim moves and leaves the mutex alone. -/
theorem sound_walk (h : s.Sound) {old : WorkerPc} (hworker : s.workers worker = old) (hold : old.claims = false)
    (hnew : pc.claims = false) (hpc : s.WorkerAt worker pc) : (s.setWorker worker pc).Sound :=
  sound_move h (hworker ▸ hold) hnew (fun _ _ hholder => hholder) hpc

/-- A worker without a claim leaves the mutex. -/
theorem sound_giveUp (h : s.Sound) (hheld : s.lock = some (.worker worker))
    (hold : (s.workers worker).claims = false) (hnew : pc.claims = false)
    (hpc : DataPlane.WorkerAt { s with lock := none } worker pc) :
    DataPlane.Sound ({ s with lock := none }.setWorker worker pc) :=
  sound_move h hold hnew (others_keep (.inr hheld) none) hpc

theorem claims_afterReport (dropping : Bool) : (WorkerPc.afterReport dropping).claims = false := by
  cases dropping <;> rfl

/-- The place after a report: the thread was told to stop, or the failure is reported. -/
theorem workerAt_afterReport (dropping : Bool) (hactivated : s.activated = true ∨ s.stop worker = true)
    (hended : s.stop worker = true ∨ s.failureReported = true) : s.WorkerAt worker (.afterReport dropping) := by
  cases dropping with
  | true => exact hended
  | false => exact hactivated

theorem claimed_of_claims (h : s.WorkerAt worker pc) (hclaims : pc.claims = true) : s.Claimed worker := by
  cases pc with
  | reporting dropping report =>
    cases report with
    | clone => exact h.2
    | publish operationId => exact h.2.2
    | _ => cases hclaims
  | _ => cases hclaims

section

variable (h : s.Sound)
include h

/-- Nobody has the claim before the swap. -/
theorem unclaimed_of_unreported (hreported : s.failureReported = false) (other : Worker) :
    (s.workers other).claims = false := by
  cases hclaims : (s.workers other).claims with
  | false => rfl
  | true => cases hreported.symm.trans (claimed_of_claims (h.worker other) hclaims).reported

section

variable (hheld : s.lock = some (.worker worker))
include hheld

/-- The worker inside the mutex has the claim, or gets it, and may leave the mutex with it. -/
theorem sound_claim {lock : Option Holder} {reported : Bool}
    (hothers : ∀ other, other ≠ worker → (s.workers other).claims = false) (hreported : reported = true)
    (hpc : pc.claims = true)
    (hat : DataPlane.WorkerAt ({ s with lock, failureReported := reported }.setWorker worker pc) worker pc) :
    DataPlane.Sound ({ s with lock, failureReported := reported }.setWorker worker pc) := by
  refine { h with
    worker := workerAt_setWorker hat fun other hne => ?_
    rebind := fun call place hcall => ?_
    unreported := fun hfalse => ?_
    told := fun _ => .inr ⟨worker, claims_setWorker hpc⟩ }
  · refine workerAt_of (h.worker other) (fun hlock => ?_) id id (fun _ => hreported) (fun _ => id) fun _ hclaims => ?_
    · cases hheld.symm.trans hlock
      exact absurd rfl hne
    · cases (hothers other hne).symm.trans hclaims
  · have hnot : s.lock ≠ some (.rebind call) := by simp [hheld]
    exact rebindAt_of (h.rebind call place hcall) (fun hlock => absurd hlock hnot) (fun hlock => absurd hlock hnot)
      (fun _ => rfl)
  · cases hreported.symm.trans hfalse

/-- The first swap gives the claim. -/
theorem sound_swap (hactivated : s.activated = true) (hfirst : s.failureReported = false) :
    DataPlane.Sound ({ s with failureReported := true }.setWorker worker (.reporting dropping .clone)) := by
  have hothers : ∀ other, other ≠ worker → (s.workers other).claims = false :=
    fun other _ => unclaimed_of_unreported h hfirst other
  refine sound_claim h hheld hothers rfl rfl ⟨hheld, hactivated, rfl, fun other hne => ?_, h.unreported hfirst⟩
  rw [workers_setWorker_of_ne _ hne]
  exact hothers other hne

/-- The operation that is current inside the mutex was said to be connected. -/
theorem connects_of_held (hactivated : s.activated = true) :
    s.history.any (connects s.activeOperationId) = true := by
  rcases h.introduced with hsaid | hspawned | ⟨call, hcall⟩
  · exact hsaid
  · rw [hspawned]
    exact h.connected (h.activated hactivated)
  · have hlock := (h.rebind call _ hcall).1
    rw [hheld] at hlock
    cases hlock

/-- The operation is cloned. -/
theorem sound_clone
    (hclaimed : s.Claimed worker) :
    DataPlane.Sound
      ({ s with lock := none }.setWorker worker (.reporting dropping (.publish s.activeOperationId))) := by
  have hsaid := connects_of_held h hheld hclaimed.activated
  refine sound_claim h hheld hclaimed.others hclaimed.reported rfl
    ⟨rfl, hsaid, hclaimed.activated, hclaimed.reported, fun other hne => ?_, hclaimed.unpublished⟩
  rw [workers_setWorker_of_ne _ hne]
  exact hclaimed.others other hne

end

/-- The failure is published. -/
theorem sound_publishLost {operationId : Bytes} (hpc : s.workers worker = .reporting dropping (.publish operationId)) :
    ((s.note (.published (lostEvent operationId))).setWorker worker (.afterReport dropping)).Sound := by
  have hat := h.worker worker
  rw [hpc] at hat
  obtain ⟨hcurrent, hsaid, hclaimed⟩ := hat
  have hconnects : ∀ operationId', s.history.any (connects operationId') = true →
      (s.note (.published (lostEvent operationId))).history.any (connects operationId') = true := by
    intro operationId' hin
    simp [DataPlane.note, hin]
  refine ⟨workerAt_setWorker ?_ fun other hne => ?_, ?_, fun hconnected => hconnects _ (h.connected hconnected),
    h.activated, h.current, h.introduced.imp (hconnects _) id, fun hreported => ?_, fun _ => .inl ?_, ?_⟩
  · exact workerAt_afterReport dropping (.inl hclaimed.activated) (.inr hclaimed.reported)
  · refine workerAt_of (h.worker other) id id id id hconnects fun _ hclaims => ?_
    cases (hclaimed.others other hne).symm.trans hclaims
  · exact fun call pc hcall => rebindAt_of (h.rebind call pc hcall) id (fun _ => rfl) (fun _ => rfl)
  · cases hreported.symm.trans hclaimed.reported
  · simp [DataPlane.setWorker, DataPlane.note, isFailed, lostEvent, StatusEvent.failed]
  · exact ⟨fun _ => ⟨hcurrent.trans h.current, hsaid, hclaimed.unpublished⟩, h.attributed⟩

theorem sound_reportStep {pc : ReportPc} (hpc : s.workers worker = .reporting dropping pc) :
    (reportStep s worker dropping pc).Sound := by
  have hat := h.worker worker
  rw [hpc] at hat
  cases pc with
  | lock =>
    simp only [reportStep]
    split
    · exact h
    rename_i hfree
    exact sound_move h (by rw [hpc]; rfl) rfl (others_keep (.inl hfree) _) ⟨rfl, hat⟩
  | loadStop =>
    simp only [reportStep]
    split
    · rename_i hstop
      exact sound_giveUp h hat.1 (by rw [hpc]; rfl) (claims_afterReport dropping)
        (workerAt_afterReport dropping (.inr hstop) (.inl hstop))
    · rename_i hstop
      exact sound_walk h hpc rfl rfl ⟨hat.1, hat.2.resolve_right hstop⟩
  | swap =>
    simp only [reportStep]
    split
    · rename_i hreported
      exact sound_giveUp h hat.1 (by rw [hpc]; rfl) (claims_afterReport dropping)
        (workerAt_afterReport dropping (.inl hat.2) (.inr hreported))
    · rename_i hfirst
      exact sound_swap h hat.1 hat.2 (eq_false_of_ne_true hfirst)
  | clone => exact sound_clone h hat.1 hat.2
  | publish operationId => exact sound_publishLost h hpc

theorem sound_workerStep (event : WorkerEvent) : (workerStep s worker event).Sound := by
  have hat := h.worker worker
  unfold workerStep
  cases hpc : s.workers worker with
  | loadActivated =>
    dsimp only
    split
    · rename_i hactivated
      exact sound_walk h hpc rfl rfl hactivated
    · exact sound_walk h hpc rfl rfl trivial
  | waiting =>
    dsimp only
    split
    · rename_i hstop
      exact sound_walk h hpc rfl rfl (.inr hstop)
    · exact sound_walk h hpc rfl rfl trivial
  | woken =>
    rw [hpc] at hat
    dsimp only
    split
    · exact sound_walk h hpc rfl rfl (.inl hat)
    · exact sound_walk h hpc rfl rfl hat
  | running =>
    rw [hpc] at hat
    cases event with
    | loop =>
      dsimp only
      split
      · exact sound_walk h hpc rfl rfl (.inl hat)
      · exact h
    | report | panic => exact sound_walk h hpc rfl rfl (.inl hat)
  | reporting dropping pc => exact sound_reportStep h hpc
  | ended => exact h

end

/-! ## Steps of a call and of the runtime -/

theorem rebinds_setRebind_self (pc : RebindPc) : (s.setRebind call pc).rebinds call = some pc :=
  update_self ..

/-- A call moves, with the mutex or not. One that was about to publish has done so. -/
theorem sound_call (h : s.Sound) {lock : Option Holder} {pc : RebindPc}
    (hold : (∀ operationId, s.rebinds call ≠ some (.publish operationId)) ∨
      s.history.any (connects s.activeOperationId) = true)
    (hlock : ∀ holder, holder ≠ .rebind call → s.lock = some holder → lock = some holder)
    (hpc : DataPlane.RebindAt { s with lock } call pc) : DataPlane.Sound ({ s with lock }.setRebind call pc) where
  __ := h
  worker other :=
    workerAt_of (h.worker other) (hlock _ (by simp)) id id id (fun _ => id)
      (fun hclaimed _ => ⟨rfl, hclaimed.activated, hclaimed.reported, hclaimed.others, hclaimed.unpublished⟩)
  rebind := by
    refine OptionMap.forall_update (fun other place hplace hne => ?_) ?_
    · refine rebindAt_of (h.rebind other place hplace) (hlock _ ?_) (fun _ => rfl) (fun _ => rfl)
      rintro ⟨⟩
      exact hne rfl
    · rintro _ ⟨⟩
      exact rebindAt_of hpc id (fun _ => rfl) (fun _ => rfl)
  introduced := by
    rcases h.introduced with hsaid | hspawned | ⟨other, hother⟩
    · exact .inl hsaid
    · exact .inr (.inl hspawned)
    rcases hold with hold | hsaid
    · have hne : other ≠ call := by
        intro heq
        exact hold _ (heq ▸ hother)
      exact .inr (.inr ⟨other, (update_of_ne hne ..).trans hother⟩)
    · exact .inl hsaid

/-- A call leaves the mutex. -/
theorem sound_callReturn (h : s.Sound) (hheld : s.lock = some (.rebind call))
    (hold : ∀ operationId, s.rebinds call ≠ some (.publish operationId)) (rebound : Bool) :
    DataPlane.Sound ({ s with lock := none }.setRebind call (.returned rebound)) :=
  sound_call h (.inl hold) (others_keep (.inr hheld) none) trivial

/-- Connected is published. -/
theorem sound_noteConnected (h : s.Sound) (operationId : Bytes) (wallClockMs : Int) :
    (s.note (.published (.connected operationId wallClockMs))).Sound := by
  have hconnects : ∀ operationId', s.history.any (connects operationId') = true →
      (s.note (.published (.connected operationId wallClockMs))).history.any (connects operationId') = true := by
    intro operationId' hin
    simp [DataPlane.note, hin]
  have hfailed : (s.note (.published (.connected operationId wallClockMs))).history.any isFailed =
      s.history.any isFailed := rfl
  refine ⟨?_, ?_, fun hconnected => hconnects _ (h.connected hconnected), h.activated, h.current,
    h.introduced.imp (hconnects _) id, h.unreported, h.told, ⟨(fun hcoarse => nomatch hcoarse), h.attributed⟩⟩
  · intro other
    refine workerAt_of (h.worker other) id id id id hconnects ?_
    intro hclaimed _
    exact ⟨rfl, hclaimed.activated, hclaimed.reported, hclaimed.others, hfailed.trans hclaimed.unpublished⟩
  · exact fun call pc hcall => rebindAt_of (h.rebind call pc hcall) id (fun _ => rfl) (fun _ => rfl)

/-- The threads are handed over. -/
theorem sound_bind (h : s.Sound) {operationId : Bytes} (hpc : s.rebinds call = some (.check operationId [])) :
    DataPlane.Sound
      (({ s with activeOperationId := operationId }.note (.rebound operationId)).setRebind call (.publish operationId)) := by
  obtain ⟨hheld, hloaded⟩ := h.rebind call _ hpc
  have hunreported : s.failureReported = false := hloaded (by simp)
  refine ⟨?_, ?_, h.connected, h.activated, rfl, .inr (.inr ⟨call, rebinds_setRebind_self _⟩), h.unreported, h.told,
    ⟨trivial, h.attributed⟩⟩
  · intro other
    refine workerAt_of (h.worker other) id id id id (fun _ => id) ?_
    intro hclaimed _
    exact absurd (hunreported.symm.trans hclaimed.reported) (by decide)
  · refine OptionMap.forall_update (fun other pc hother hne => ?_) ?_
    · refine rebindAt_of (h.rebind other pc hother) id (fun _ => rfl) fun hlock => ?_
      cases hheld.symm.trans hlock
      exact absurd rfl hne
    · rintro _ ⟨⟩
      exact ⟨hheld, hunreported, rfl⟩

theorem sound_rebindStep (h : s.Sound) (call : Nat) (wallClockMs : Int) : (rebindStep s call wallClockMs).Sound := by
  unfold rebindStep
  cases hpc : s.rebinds call with
  | none => exact h
  | some pc =>
    have hat := h.rebind call pc hpc
    cases pc with
    | lock operationId =>
      dsimp only
      split
      · exact h
      rename_i hfree
      exact sound_call h (.inl (by simp [hpc])) (others_keep (.inl hfree) _) ⟨rfl, fun hnotin => absurd (by decide) hnotin⟩
    | check operationId loads =>
      cases loads with
      | nil => exact sound_bind h hpc
      | cons load loads =>
        dsimp only
        split
        · rename_i halive
          refine sound_call h (.inl (by simp [hpc])) (fun _ _ hholder => hholder) ⟨hat.1, ?_⟩
          intro hrest
          by_cases hload : load = .failureReported
          · subst hload
            simpa [DataPlane.loadsAlive] using halive
          · exact hat.2 (by simpa [hrest] using Ne.symm hload)
        · exact sound_callReturn h hat.1 (by simp [hpc]) false
    | publish operationId =>
      have hnoted := sound_noteConnected h operationId wallClockMs
      refine sound_call hnoted (.inr ?_) (fun _ _ hholder => hholder) hat.1
      simp [DataPlane.note, connects, StatusEvent.connected, hat.2.2]
    | unlock => exact sound_callReturn h hat (by simp [hpc]) true
    | returned rebound => exact h

/-- Flags of the runtime go up. -/
theorem sound_raise (h : s.Sound) {connected activated : Bool} {stop : Worker → Bool}
    (hactivated : s.activated = true → activated = true) (hstop : ∀ worker, s.stop worker = true → stop worker = true)
    (hconnected : connected = true → s.history.any (connects s.operation) = true)
    (horder : activated = true → connected = true) : DataPlane.Sound { s with connected, activated, stop } where
  __ := h
  worker other :=
    workerAt_of (h.worker other) id hactivated (hstop other) id (fun _ => id)
      (fun hclaimed _ =>
        ⟨rfl, hactivated hclaimed.activated, hclaimed.reported, hclaimed.others, hclaimed.unpublished⟩)
  rebind call pc hcall := rebindAt_of (h.rebind call pc hcall) id (fun _ => rfl) (fun _ => rfl)
  connected := hconnected
  activated := horder

/-- Every step keeps the invariant. -/
theorem sound_planeStep (s : DataPlane) (label : PlaneLabel) (h : s.Sound) : (planeStep s label).Sound := by
  cases label with
  | connect wallClockMs =>
    simp only [planeStep]
    split
    · exact h
    · refine sound_raise (sound_noteConnected h s.operation wallClockMs) id (fun _ => id) ?_ (fun _ => rfl)
      intro _
      simp [DataPlane.note, connects, StatusEvent.connected]
  | activate =>
    simp only [planeStep]
    split
    · rename_i hconnected
      exact sound_raise h (fun _ => rfl) (fun _ => id) h.connected (fun _ => hconnected)
    · exact h
  | stop worker =>
    refine sound_raise h id ?_ h.connected h.activated
    exact (forall_update_iff s.stop fun other stop => s.stop other = true → stop = true).mpr ⟨fun _ => rfl, fun _ _ => id⟩
  | worker worker event => exact sound_workerStep h event
  | rebind call operationId =>
    simp only [planeStep]
    split
    · rename_i hnone
      exact sound_call h (.inl (by simp [hnone])) (fun _ _ hholder => hholder) trivial
    · exact h
  | rebindStep call wallClockMs => exact sound_rebindStep h call wallClockMs

end DataPlaneAux

end ExvVpn.EngineDataPlane
