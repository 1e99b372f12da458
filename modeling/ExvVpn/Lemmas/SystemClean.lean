import ExvVpn.Lemmas.CoreClean
import ExvVpn.Lemmas.SystemLink

/-!
# `FailedClean` of the macOS system

What the core has heard when it is going to publish `FailedClean` is true of the engine: no attempt is active and the
ledger is empty. This stays true as long as the engine accepts no apply before the publication.
-/

namespace ExvVpn.Darwin

open SystemState DarwinEngine DarwinCore.CoreCleanAux

open DarwinCore (CoreState CoreLabel StatusEvent coreStep keepsPromise NothingAnnounced)
open DarwinEngine (EngineState)

/-- No attempt of the engine is active and its ledger is empty. -/
def HoldsNothing (engine : EngineState) : Prop :=
  (∀ n < engine.accepted, ∀ pc ∈ engine.attempts n, pc.active = false) ∧ engine.ledger = .empty

instance (engine : EngineState) : Decidable (HoldsNothing engine) := by
  unfold HoldsNothing
  infer_instance

/-- The engine lives: a session that is there is alive and no status stream ends. The worker concludes a reconnect that
has failed in its generation only when the engine holds nothing, and an apply reaches an empty slot only when nobody is
going to publish `FailedClean` and no task is going to clear the slot a second time. -/
def keepsClean (s : SystemState) : SystemLabel → Prop
  | .core (.connectCall _ (.reuse alive)) => s.core.session.isSome = true → alive = true
  | .core (.stopCall _ (.checkGeneration alive)) => s.core.session.isSome = true → alive = true
  | .core (.projection _ .close) => False
  | .core (.worker .conclude) => s.core.reconnectFailed = true → HoldsNothing s.engine
  | .handleApply => keepsEngine s .handleApply ∧ (s.engine.slot = none → NothingAnnounced s.core)
  | _ => True

instance (s : SystemState) (label : SystemLabel) : Decidable (keepsClean s label) := by
  unfold keepsClean
  split <;> infer_instance

/-- Whoever in the core is going to publish `FailedClean` is right about the engine. -/
structure CleanSystem (s : SystemState) : Prop where
  linked : Linked s
  clean : s.core.cleanView.Sound s.engine.Settled

namespace SystemCleanAux

open SystemLinkAux

variable {s : SystemState}

/-- What the core does on its own makes no wrong promise. -/
theorem keepsPromise_core (h : Linked s) {label : CoreLabel} (hguard : keepsClean s (.core label))
    (htalk : talks label = false) : keepsPromise s.engine.Settled s.core label := by
  cases label with
  | connectCall c label => cases label <;> exact hguard
  | stopCall k label => cases label <;> exact hguard
  | projection i label => cases label <;> first | exact hguard | cases htalk
  | worker label =>
    cases label with
    | conclude =>
      intro hfailed
      obtain ⟨hidle, hclean⟩ := hguard hfailed
      exact ⟨fun n pc hn => hidle n (h.numbered n pc hn) pc hn, hclean⟩
    | _ => trivial
  | _ => trivial

/-- A step other than an apply: the core takes at most one step, which makes no wrong promise, and a settled engine stays
settled. -/
structure Move (s t : SystemState) : Prop where
  core : t.core = s.core ∨ ∃ label, t.core = coreStep s.core label ∧ keepsPromise s.engine.Settled s.core label
  engine : s.engine.Settled → t.engine.Settled

theorem move_refl (s : SystemState) : Move s s := ⟨.inl rfl, id⟩

theorem move_coreOnly (h : Linked s) {label : CoreLabel} (hguard : keepsClean s (.core label)) :
    Move s (s.coreOnly label) := by
  unfold coreOnly
  split
  · exact move_refl s
  rename_i htalk
  refine ⟨.inr ⟨label, rfl, keepsPromise_core h hguard (by simpa using htalk)⟩, fun hsettled => ?_⟩
  dsimp only
  split
  · exact hsettled
  · exact settled_initial

theorem move_sendStop (s : SystemState) (caller : StopCaller) : Move s (s.sendStop caller) := by
  unfold sendStop
  split
  · refine ⟨.inr ⟨caller.send, rfl, ?_⟩, fun hsettled => ⟨hsettled.idle, hsettled.clean⟩⟩
    cases caller <;> trivial
  · exact move_refl s

theorem move_engineStop (s : SystemState) (label : DarwinEngine.StopLabel) : Move s (s.engineStop label) := by
  unfold engineStop
  split
  case h_1 caller k hrpc =>
    have hsettled := fun hsettled => settled_stopStep (s := s.engine) hsettled k label
    dsimp only
    split <;> exact ⟨.inl rfl, hsettled⟩
  case h_2 => exact move_refl s

/-- The answer `Stopped` is true. -/
theorem move_replyStop (h : Linked s) : Move s s.replyStop := by
  unfold replyStop
  split
  case h_1 caller confirmed hrpc =>
    refine ⟨.inr ⟨caller.reply confirmed, rfl, ?_⟩, id⟩
    cases caller with
    | call k => trivial
    | projection i =>
      rintro rfl
      exact h.answered _ hrpc
  case h_2 => exact move_refl s

theorem move_systemStep (h : Linked s) {label : SystemLabel} (hguard : keepsClean s label)
    (hlabel : label ≠ .handleApply) : Move s (systemStep s label) := by
  cases label with
  | core label => exact move_coreOnly h hguard
  | sendApply c =>
    simp only [systemStep, sendApply]
    split
    · exact ⟨.inr ⟨.connectCall c .apply, rfl, trivial⟩, id⟩
    · exact move_refl s
  | handleApply => exact absurd rfl hlabel
  | replyApply =>
    simp only [systemStep, replyApply]
    split
    case h_1 c pending _ => exact ⟨.inr ⟨.connectCall c (.reply pending), rfl, trivial⟩, id⟩
    case h_2 => exact move_refl s
  | sendStop caller => exact move_sendStop s caller
  | engineStop label => exact move_engineStop s label
  | replyStop => exact move_replyStop h
  | attempt n label => exact ⟨.inl rfl, fun hsettled => settled_attemptStep hsettled n label⟩
  | emit n event =>
    simp only [systemStep, emit]
    split
    · split
      · exact ⟨.inl rfl, id⟩
      · exact move_refl s
    · exact move_refl s
  | deliver i =>
    simp only [systemStep, deliver]
    split
    case h_1 event rest _ _ => exact ⟨.inr ⟨.projection i (.message i event), rfl, trivial⟩, id⟩
    case h_2 => exact move_refl s

/-- Nobody is going to publish `FailedClean` when the engine accepts an apply. -/
theorem clean_handleApply (h : CleanSystem s) (hguard : keepsClean s .handleApply) :
    s.handleApply.core.cleanView.Sound s.handleApply.engine.Settled := by
  unfold handleApply
  split
  case h_1 c hrpc =>
    split
    · rename_i hempty
      have hslot : s.engine.slot = none := Option.isNone_iff_eq_none.mp hempty
      obtain ⟨call, session, hcall, hpc⟩ : IsApplying s.core c := h.linked.held _ hrpc
      have hsession := h.clean.seated c call hcall (by rw [hpc]; rfl)
      exact h.clean.of_nothingAnnounced h.linked.lock hsession (hguard.2 hslot)
    · exact h.clean
  case h_2 => exact h.clean

theorem clean_move (h : CleanSystem s) {t : SystemState} (hmove : Move s t) :
    t.core.cleanView.Sound t.engine.Settled := by
  rcases hmove.core with hcore | ⟨label, hcore, hpromise⟩
  · rw [hcore]
    exact h.clean.mono hmove.engine
  · rw [hcore]
    exact (DarwinCore.cleanSound_coreStep s.core label h.clean hpromise h.linked.confirmed).mono hmove.engine

end SystemCleanAux

open SystemCleanAux

/-- One step keeps the core right about the engine. -/
theorem cleanSystem_systemStep (s : SystemState) (label : SystemLabel) (h : CleanSystem s)
    (hguard : keepsClean s label) : CleanSystem (systemStep s label) := by
  have hengine : keepsEngine s label := by
    cases label with
    | handleApply => exact hguard.1
    | _ => trivial
  refine ⟨linked_systemStep s label h.linked hengine, ?_⟩
  by_cases hlabel : label = .handleApply
  · subst hlabel
    exact clean_handleApply h hguard
  · exact clean_move h (move_systemStep h.linked hguard hlabel)

/-- When a step publishes `FailedClean`, the engine is settled. -/
theorem promised_systemStep {s : SystemState} {label : SystemLabel} (h : CleanSystem s) (hguard : keepsClean s label) :
    DarwinCore.Promised (systemStep s label).engine.Settled s.core.trace (systemStep s label).core.trace := by
  by_cases hlabel : label = .handleApply
  · subst hlabel
    have hcore : s.handleApply.core = s.core := by
      unfold handleApply
      split
      · split <;> rfl
      · rfl
    rw [show (systemStep s .handleApply).core = s.core from hcore]
    exact promised_same _
  · have hmove := move_systemStep h.linked hguard hlabel
    rcases hmove.core with hcore | ⟨clabel, hcore, hpromise⟩
    · rw [hcore]
      exact promised_same _
    · rw [hcore]
      intro fresh hfresh e he hclean
      exact hmove.engine (DarwinCore.promised_coreStep s.core clabel h.clean hpromise fresh hfresh e he hclean)

end ExvVpn.Darwin
