import ExvVpn.DarwinEngine.Attempt
import ExvVpn.Tools.OptionMap
import ExvVpn.Tools.Transition

/-!
# The attempt slot over a run

The slot names the one attempt that is active, as long as no apply is accepted at two moments: while the task of an
earlier attempt is going to clear the slot a second time, and while a stop has found the slot empty and has not
replied.
-/

namespace ExvVpn.DarwinEngine

open Function Option EngineState AttemptPc

open OptionMap (forall_update forall_update_some)

/-! ## The invariant -/

/-- The attempt has not given its slot back: it connects, its pipeline runs, or it is about to clear the slot. -/
def AttemptPc.active : AttemptPc → Bool
  | .returning _ _ => false
  | .clearingAgain => false
  | _ => true

/-- The task is going to clear the slot although its pipeline has done so. -/
def AttemptPc.clearsAgain (cancelled : Nat → Bool) : AttemptPc → Bool
  | .returning flag lost => lost && !flag.any cancelled
  | .clearingAgain => true
  | _ => false

/-- The stop has found the slot empty and has not replied. -/
def StopPc.decided : StopPc → Bool
  | .slotEmpty => true
  | .cleaning => true
  | .stopped => true
  | _ => false

/-- An apply is accepted only when no task is going to clear the slot a second time and no stop is between its look at
the slot and its reply. -/
def keepsSlot (s : EngineState) : EngineLabel → Prop
  | .applyTunnel => s.slot = none →
      (∀ n pc, s.attempts n = some pc → pc.clearsAgain s.cancelled = false) ∧
        ∀ k pc, s.stops k = some pc → pc.decided = false
  | _ => True

/-- The part of the state in which attempts and stops meet. -/
structure SlotView where
  slot : Option Nat
  cancelled : Nat → Bool
  ledger : ResourceLedger
  attempts : Nat → Option AttemptPc
  stops : Nat → Option StopPc
  foreignClear : Bool

def EngineState.slotView (s : EngineState) : SlotView :=
  ⟨s.slot, s.cancelled, s.ledger, s.attempts, s.stops, s.foreignClear⟩

/-- The slot, the tasks and the stops agree. -/
structure SlotView.Sound (v : SlotView) : Prop where
  owner : ∀ n pc, v.attempts n = some pc → pc.active = true → v.slot = some n
  once : v.slot ≠ none → ∀ n pc, v.attempts n = some pc → pc.clearsAgain v.cancelled = false
  quiet : ∀ k pc, v.stops k = some pc → pc.decided = true → v.slot = none
  clean : ∀ k, v.stops k = some .stopped → v.ledger = .empty
  own : v.foreignClear = false

variable {pc : AttemptPc}

namespace DarwinStopAux

variable {v : SlotView} {n k : Nat}

/-! ## Changes that keep it -/

section

variable (h : v.Sound)
include h

section

variable (hn : v.attempts n = some pc)
include hn

/-- The owner of the slot moves and may use the ledger: no stop has found the slot empty. -/
theorem sound_work {next : AttemptPc} (hpc : pc.active = true) (hnext : next.active = true) (ledger : ResourceLedger) :
    SlotView.Sound { v with ledger, attempts := update v.attempts n (some next) } := by
  have hslot : v.slot = some n := h.owner n pc hn hpc
  refine ⟨forall_update_some h.owner fun _ => hslot, ?_, h.quiet, ?_, h.own⟩
  · intro hfull
    refine forall_update_some (h.once hfull) ?_
    cases next <;> first | rfl | cases hnext
  · intro k hk
    cases hslot.symm.trans (h.quiet k .stopped hk rfl)

/-- The owner of the slot clears it. -/
theorem sound_clear (hpc : pc.active = true)
    (next : Option AttemptPc) (hnext : ∀ pc', next = some pc' → pc'.active = false) :
    SlotView.Sound { v with
      slot := none
      foreignClear := v.foreignClear || v.slot.any (· ≠ n)
      attempts := update v.attempts n next } := by
  have hslot : v.slot = some n := h.owner n pc hn hpc
  refine ⟨forall_update ?_ ?_, by simp, fun _ _ _ _ => rfl, h.clean, ?_⟩
  · intro m pc' hm hmn hactive
    exact absurd (some.inj ((h.owner m pc' hm hactive).symm.trans hslot)) hmn
  · intro pc' hpc' hactive
    cases (hnext pc' hpc').symm.trans hactive
  · simp [h.own, hslot]

/-- A task that is no longer the owner moves on without touching anything else. -/
theorem sound_retire (next : Option AttemptPc)
    (hnext : ∀ pc', next = some pc' →
      pc'.active = false ∧ (pc.clearsAgain v.cancelled = false → pc'.clearsAgain v.cancelled = false)) :
    SlotView.Sound { v with attempts := update v.attempts n next } := by
  refine ⟨forall_update (fun m pc' hm _ => h.owner m pc' hm) ?_, ?_, h.quiet, h.clean, h.own⟩
  · intro pc' hpc' hactive
    cases (hnext pc' hpc').1.symm.trans hactive
  · intro hfull
    refine forall_update (fun m pc' hm _ => h.once hfull m pc' hm) ?_
    intro pc' hpc'
    exact (hnext pc' hpc').2 (h.once hfull n pc hn)

/-- A second clearing of the slot finds it empty. -/
theorem slot_none_of_clearsAgain
    (hpc : pc.clearsAgain v.cancelled = true) : v.slot = none := by
  by_contra hfull
  cases hpc.symm.trans (h.once hfull n pc hn)

end

/-- A cancel flag is set: no task gains a second clearing by it. -/
theorem sound_cancel (m : Nat) : SlotView.Sound { v with cancelled := update v.cancelled m true } := by
  refine { h with once := ?_ }
  intro hfull n pc hn
  have hbefore := h.once hfull n pc hn
  cases pc with
  | returning flag lost =>
    cases flag with
    | none => exact hbefore
    | some i =>
      by_cases hi : i = m
      · simp [clearsAgain, hi]
      · simpa [clearsAgain, update_of_ne hi] using hbefore
  | clearingAgain => exact hbefore
  | _ => rfl

/-- A stop moves to a place that fits the slot and the ledger. -/
theorem sound_stop (pc : Option StopPc) (hquiet : ∀ pc', pc = some pc' → pc'.decided = true → v.slot = none)
    (hclean : pc = some .stopped → v.ledger = .empty) :
    SlotView.Sound { v with stops := update v.stops k pc } := by
  refine ⟨h.owner, h.once, forall_update (fun j pc' hj _ => h.quiet j pc' hj) hquiet, ?_, h.own⟩
  · intro j hj
    by_cases hjk : j = k
    · exact hclean (by simpa [hjk] using hj)
    · exact h.clean j (by simpa [update_of_ne hjk] using hj)

/-- A cleanup keeps an empty ledger empty. -/
theorem sound_cleanup (deleted : AppliedRoute → Bool) :
    SlotView.Sound { v with ledger := (v.ledger.completeResourceCleanup deleted).1 } := by
  refine { h with clean := ?_ }
  intro j hj
  rw [h.clean j hj]
  rfl

/-- An apply is accepted under the guard. -/
theorem sound_claim (hempty : v.slot = none)
    (honce : ∀ m pc, v.attempts m = some pc → pc.clearsAgain v.cancelled = false)
    (hquiet : ∀ j pc, v.stops j = some pc → pc.decided = false) :
    SlotView.Sound { v with slot := some n, attempts := update v.attempts n (some .claimed) } := by
  refine ⟨forall_update ?_ fun _ _ _ => rfl, fun _ => forall_update_some honce rfl, ?_, h.clean, h.own⟩
  · intro m pc hm _ hactive
    cases hempty.symm.trans (h.owner m pc hm hactive)
  · intro j pc hj hdecided
    cases (hquiet j pc hj).symm.trans hdecided

end

/-! ## Steps -/

variable {s : EngineState}

variable (h : s.slotView.Sound)
include h

theorem sound_connectStep (hn : s.attempts n = some pc)
    (label : AttemptLabel) : (connectStep s n pc label).slotView.Sound := by
  unfold connectStep
  split
  case h_1 | h_2 => exact sound_work h hn rfl rfl s.ledger
  case h_3 flag desired io =>
    simp only
    split <;> exact sound_work h hn rfl rfl _
  case h_4 flag succeeded =>
    cases succeeded with
    | true | false => exact sound_work h hn rfl rfl s.ledger
  case h_5 flag =>
    split <;> exact sound_work h hn rfl rfl s.ledger
  case h_6 deleted => exact sound_work h hn rfl rfl _
  case h_7 => exact sound_clear h hn rfl none nofun
  case h_8 =>
    -- The pipeline has cleared the slot, and nobody has claimed it since.
    have hslot : s.slot = none := slot_none_of_clearsAgain h hn rfl
    have hsame : s.clearSlot n = s := by
      simp only [clearSlot, hslot, any_none, Bool.or_false]
      rw [← hslot]
    rw [hsame]
    exact sound_retire h hn none nofun
  case h_9 => exact h

theorem sound_assembleStep (hn : s.attempts n = some pc)
    (label : AttemptLabel) : (assembleStep s n pc label).slotView.Sound := by
  unfold assembleStep
  split
  case h_1 flag created =>
    split
    · exact sound_work h hn rfl rfl _
    · cases created with
      | true | false => exact sound_work h hn rfl rfl s.ledger
  case h_2 flag applied =>
    cases applied with
    | true | false => exact sound_work h hn rfl rfl s.ledger
  case h_3 flag routes route added =>
    cases added with
    | true | false => exact sound_work h hn rfl rfl s.ledger
  case h_4 | h_6 => exact sound_work h hn rfl rfl s.ledger
  case h_5 route routes deleted => exact sound_work h hn rfl rfl _
  case h_7 | h_8 => exact sound_work h hn rfl rfl s.ledger
  case h_9 => exact h

theorem sound_teardownStep (hn : s.attempts n = some pc)
    (label : AttemptLabel) : (teardownStep s n pc label).slotView.Sound := by
  unfold teardownStep
  split
  case h_1 | h_3 | h_4 => exact sound_work h hn rfl rfl _
  case h_2 =>
    split <;> exact sound_work h hn rfl rfl s.ledger
  case h_5 => exact sound_work h hn rfl rfl s.ledger
  case h_6 flag lost =>
    refine sound_clear h hn rfl (some (.returning flag lost)) ?_
    rintro _ ⟨⟩
    rfl
  case h_7 flag lost =>
    refine sound_retire h hn _ ?_
    intro pc' hpc'
    split at hpc'
    · rename_i hlost
      obtain rfl := some.inj hpc'
      refine ⟨rfl, fun hnot => ?_⟩
      have hagain : clearsAgain s.cancelled (.returning flag lost) = true := hlost
      cases hagain.symm.trans hnot
    · cases hpc'
  case h_8 => exact h

theorem sound_attemptStep (n : Nat) (label : AttemptLabel) : (attemptStep s n label).slotView.Sound := by
  unfold attemptStep
  split
  · exact h
  rename_i hn
  split
  · exact sound_connectStep h hn label
  · exact sound_assembleStep h hn label
  · exact sound_teardownStep h hn label

theorem sound_stopStep (k : Nat) (label : StopLabel) : (stopStep s k label).slotView.Sound := by
  unfold stopStep
  split
  case h_1 =>
    split
    · rename_i m _
      exact sound_stop (sound_cancel h m) (some .polling) (by rintro _ ⟨⟩ ⟨⟩) nofun
    · exact sound_stop h (some .polling) (by rintro _ ⟨⟩ ⟨⟩) nofun
  case h_2 =>
    split
    · exact h
    · rename_i hempty
      refine sound_stop h (some .slotEmpty) (fun _ _ _ => ?_) nofun
      exact not_isSome_iff_eq_none.mp hempty
  case h_3 hk =>
    have hslot : s.slot = none := h.quiet k _ hk rfl
    refine sound_stop h _ (fun _ _ _ => hslot) ?_
    split <;> rintro ⟨⟩
  case h_4 | h_6 => exact sound_stop h none nofun nofun
  case h_5 deleted hk =>
    have hslot : s.slot = none := h.quiet k _ hk rfl
    refine sound_stop (sound_cleanup h deleted) _ (fun _ _ _ => hslot) ?_
    intro hstopped
    split at hstopped
    · rename_i hcleaned
      exact ResourceLedger.completeResourceCleanup_succeeded hcleaned
    · cases hstopped
  case h_7 => exact h

theorem sound_applyTunnel (hguard : keepsSlot s .applyTunnel) : s.applyTunnel.slotView.Sound := by
  unfold applyTunnel
  split
  · exact h
  · rename_i hempty
    obtain ⟨honce, hquiet⟩ := hguard hempty
    exact sound_claim h hempty honce hquiet

end DarwinStopAux

open DarwinStopAux

variable (s : EngineState)

/-- One guarded step of the engine keeps the slot with its owner. -/
theorem slotSound_engineStep (label : EngineLabel) (h : s.slotView.Sound)
    (hguard : keepsSlot s label) : (engineStep s label).slotView.Sound := by
  cases label with
  | applyTunnel => exact sound_applyTunnel h hguard
  | attempt n label => exact sound_attemptStep h n label
  | stopTunnel => exact sound_stop h (some .requested) (by rintro _ ⟨⟩ ⟨⟩) nofun
  | stop k label => exact sound_stopStep h k label

theorem slotSound_initial : initial.slotView.Sound :=
  ⟨nofun, fun hfull => absurd rfl hfull, nofun, nofun, rfl⟩

/-! ## Nothing runs and nothing is held -/

/-- No attempt is active and the ledger is empty. -/
structure EngineState.Settled : Prop where
  idle : ∀ n pc, s.attempts n = some pc → pc.active = false
  clean : s.ledger = .empty

theorem settled_initial : initial.Settled := ⟨nofun, rfl⟩

/-- A stop that replies `Stopped` has found the engine settled. -/
theorem settled_of_stopped {s : EngineState} (h : s.slotView.Sound) {k : Nat} (hk : s.stops k = some .stopped) :
    s.Settled := by
  refine ⟨fun n pc hn => ?_, h.clean k hk⟩
  by_contra hactive
  have hslot : s.slot = some n := h.owner n pc hn (by simpa using hactive)
  cases hslot.symm.trans (h.quiet k _ hk rfl)

/-- A task that has given its slot back only returns: it does not become active again and leaves the ledger alone. -/
theorem inactive_attemptStep {s : EngineState} {n : Nat} (hn : s.attempts n = some pc)
    (hpc : pc.active = false) (label : AttemptLabel) :
    (attemptStep s n label).ledger = s.ledger ∧
      ∀ next, (attemptStep s n label).attempts n = some next → next.active = false := by
  have hself : s.ledger = s.ledger ∧ ∀ next, s.attempts n = some next → next.active = false := by
    refine ⟨rfl, fun next hnext => ?_⟩
    obtain rfl := some.inj (hn.symm.trans hnext)
    exact hpc
  unfold attemptStep
  rw [hn]
  cases pc with
  | returning flag lost =>
    simp only [part, teardownStep]
    split
    case h_7 =>
      refine ⟨rfl, fun next hnext => ?_⟩
      simp only [setAttempt, update_self] at hnext
      split at hnext
      · obtain rfl := some.inj hnext
        rfl
      · cases hnext
    case h_8 => exact hself
    all_goals contradiction
  | clearingAgain =>
    simp only [part, connectStep]
    split
    case h_8 =>
      refine ⟨rfl, fun next hnext => ?_⟩
      simp only [setAttempt, update_self] at hnext
      cases hnext
    case h_9 => exact hself
    all_goals contradiction
  | _ => cases hpc

/-- A stop leaves the attempts alone and only empties the ledger. -/
theorem settled_stopStep {s : EngineState} (h : s.Settled) (k : Nat) (label : StopLabel) :
    (stopStep s k label).Settled := by
  unfold stopStep
  split
  case h_1 | h_2 => split <;> exact ⟨h.idle, h.clean⟩
  case h_5 deleted _ =>
    refine ⟨h.idle, ?_⟩
    rw [h.clean]
    rfl
  all_goals exact ⟨h.idle, h.clean⟩

/-! ## Tasks and stops of others -/

/-- The task of an attempt moves itself only, and touches no stop. -/
theorem attemptStep_others (n : Nat) (label : AttemptLabel) :
    (attemptStep s n label).stops = s.stops ∧ (attemptStep s n label).accepted = s.accepted ∧
      ∀ m, m ≠ n → (attemptStep s n label).attempts m = s.attempts m := by
  have hset : ∀ (t : EngineState) pc, t.stops = s.stops → t.accepted = s.accepted → t.attempts = s.attempts →
      (t.setAttempt n pc).stops = s.stops ∧ (t.setAttempt n pc).accepted = s.accepted ∧
        ∀ m, m ≠ n → (t.setAttempt n pc).attempts m = s.attempts m := by
    intro t pc hstops haccepted hattempts
    exact ⟨hstops, haccepted, fun m hm => by simp only [setAttempt, update_of_ne hm, hattempts]⟩
  have hself : s.stops = s.stops ∧ s.accepted = s.accepted ∧ ∀ m, m ≠ n → s.attempts m = s.attempts m :=
    ⟨rfl, rfl, fun _ _ => rfl⟩
  unfold attemptStep
  split
  · exact hself
  split
  · unfold connectStep
    split
    case h_9 => exact hself
    all_goals exact hset _ _ rfl rfl rfl
  · unfold assembleStep
    split
    case h_1 => split <;> exact hset _ _ rfl rfl rfl
    case h_9 => exact hself
    all_goals exact hset _ _ rfl rfl rfl
  · unfold teardownStep
    split
    case h_2 => split <;> exact hset _ _ rfl rfl rfl
    case h_8 => exact hself
    all_goals exact hset _ _ rfl rfl rfl

/-- Attempts are numbered below the next one. -/
def EngineState.Numbered : Prop := ∀ n pc, s.attempts n = some pc → n < s.accepted

theorem numbered_initial : initial.Numbered := nofun

theorem numbered_attemptStep {s : EngineState} (h : s.Numbered) (n : Nat) (label : AttemptLabel) :
    (attemptStep s n label).Numbered := by
  obtain ⟨_, haccepted, hothers⟩ := attemptStep_others s n label
  intro m pc hm
  rw [haccepted]
  by_cases hmn : m = n
  · subst hmn
    cases hbefore : s.attempts m with
    | none =>
      rw [attemptStep, hbefore] at hm
      cases hbefore.symm.trans hm
    | some before => exact h m before hbefore
  · exact h m pc ((hothers m hmn).symm.trans hm)

/-- An attempt that is active after a step of a task was active before. -/
theorem active_attemptStep {s : EngineState} {n m : Nat} {label : AttemptLabel} {next : AttemptPc}
    (hm : (attemptStep s n label).attempts m = some next) (hnext : next.active = true) :
    ∃ pc, s.attempts m = some pc ∧ pc.active = true := by
  by_cases hmn : m = n
  · subst hmn
    cases hbefore : s.attempts m with
    | none =>
      rw [attemptStep, hbefore] at hm
      cases hbefore.symm.trans hm
    | some pc =>
      refine ⟨pc, rfl, ?_⟩
      by_contra hpc
      cases ((inactive_attemptStep hbefore (by simpa using hpc) label).2 next hm).symm.trans hnext
  · exact ⟨next, ((attemptStep_others s n label).2.2 m hmn).symm.trans hm, hnext⟩

/-- A settled engine stays so whatever the tasks do: the ones that are left only return. -/
theorem settled_attemptStep {s : EngineState} (h : s.Settled) (n : Nat) (label : AttemptLabel) :
    (attemptStep s n label).Settled := by
  refine ⟨fun m next hm => ?_, ?_⟩
  · by_contra hnext
    obtain ⟨pc, hpc, hactive⟩ := active_attemptStep hm (by simpa using hnext)
    cases (h.idle m pc hpc).symm.trans hactive
  · cases hn : s.attempts n with
    | none =>
      rw [attemptStep, hn]
      exact h.clean
    | some pc => exact (inactive_attemptStep hn (h.idle n pc hn) label).1.trans h.clean

/-- A stop moves itself only, and touches no task. -/
theorem stopStep_others (k : Nat) (label : StopLabel) :
    (stopStep s k label).attempts = s.attempts ∧ (stopStep s k label).accepted = s.accepted ∧
      ∀ j, j ≠ k → (stopStep s k label).stops j = s.stops j := by
  have hset : ∀ (t : EngineState) pc, t.attempts = s.attempts → t.accepted = s.accepted → t.stops = s.stops →
      (t.setStop k pc).attempts = s.attempts ∧ (t.setStop k pc).accepted = s.accepted ∧
        ∀ j, j ≠ k → (t.setStop k pc).stops j = s.stops j := by
    intro t pc hattempts haccepted hstops
    exact ⟨hattempts, haccepted, fun j hj => by simp only [setStop, update_of_ne hj, hstops]⟩
  have hself : s.attempts = s.attempts ∧ s.accepted = s.accepted ∧ ∀ j, j ≠ k → s.stops j = s.stops j :=
    ⟨rfl, rfl, fun _ _ => rfl⟩
  unfold stopStep
  split
  case h_1 => split <;> exact hset _ _ rfl rfl rfl
  case h_2 =>
    split
    · exact hself
    · exact hset _ _ rfl rfl rfl
  case h_7 => exact hself
  all_goals exact hset _ _ rfl rfl rfl

theorem numbered_applyTunnel {s : EngineState} (h : s.Numbered) : s.applyTunnel.Numbered := by
  unfold applyTunnel
  split
  · exact h
  · exact forall_update (fun n pc hn _ => Nat.lt_succ_of_lt (h n pc hn)) fun _ _ => Nat.lt_succ_self _

theorem numbered_engineStep {s : EngineState} (h : s.Numbered) (label : EngineLabel) : (engineStep s label).Numbered := by
  cases label with
  | applyTunnel => exact numbered_applyTunnel h
  | attempt n label => exact numbered_attemptStep h n label
  | stopTunnel => exact h
  | stop k label =>
    obtain ⟨hattempts, haccepted, _⟩ := stopStep_others s k label
    intro n pc hn
    simp only [engineStep, hattempts] at hn
    simp only [engineStep, haccepted]
    exact h n pc hn

end ExvVpn.DarwinEngine
