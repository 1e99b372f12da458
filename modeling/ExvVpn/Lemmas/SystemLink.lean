import ExvVpn.Darwin.System
import ExvVpn.Lemmas.CoreLock
import ExvVpn.Lemmas.DarwinStop

/-!
# What core and engine know of each other

Whoever has a call with the engine holds the session lock, so there is one such call at a time. When the answer
`Stopped` is on its way, and until the Stop call that gets it has returned, the engine runs no attempt and its ledger is
empty, as long as no apply is accepted while a task is going to clear the slot a second time.
-/

namespace ExvVpn.Darwin

open Function Option DarwinEngine DarwinCore SystemState StopCaller CoreLabel CoreState

open DarwinCore (CoreState CoreLabel Actor StatusEvent coreStep)
open DarwinEngine (EngineState)

/-! ## The invariant -/

/-- Who has sent the `StopTunnel`, as a holder of the session lock. -/
def StopCaller.actor : StopCaller → Actor
  | .call k => .stop k
  | .projection i => .projection i

/-- Who has sent the call. -/
def Rpc.actor : Rpc → Actor
  | .apply c => .connect c
  | .applied c _ => .connect c
  | .stop caller _ => caller.actor
  | .stopped caller _ => caller.actor

/-- The Connect call waits for the answer to its `ApplyTunnel`. -/
def IsApplying (core : CoreState) (c : Nat) : Prop :=
  ∃ call session, core.connects c = some call ∧ call.pc = .applying session

/-- The caller waits for the answer to its `StopTunnel`. -/
def StopCaller.IsSent (core : CoreState) : StopCaller → Prop
  | .call k => ∃ call, core.stops k = some call ∧ call.pc = .sent
  | .projection i => ∃ p, core.projections i = some p ∧ p.pc = .sent

/-- Who has sent the call waits for its answer. -/
def Rpc.Held (core : CoreState) : Rpc → Prop
  | .apply c => IsApplying core c
  | .applied c _ => IsApplying core c
  | .stop caller _ => caller.IsSent core
  | .stopped caller _ => caller.IsSent core

/-- An apply reaches an empty slot only when no task is going to clear it a second time. -/
def keepsEngine (s : SystemState) : SystemLabel → Prop
  | .handleApply => s.engine.slot = none →
      ∀ n < s.engine.accepted, ∀ pc ∈ s.engine.attempts n, pc.clearsAgain s.engine.cancelled = false
  | _ => True

instance (s : SystemState) (label : SystemLabel) : Decidable (keepsEngine s label) := by
  unfold keepsEngine
  split <;> infer_instance

/-- Core and engine agree on what is between them. -/
structure Linked (s : SystemState) : Prop where
  lock : s.core.lockView.Sound
  slot : s.engine.slotView.Sound
  numbered : s.engine.Numbered
  held : ∀ r, s.rpc = some r → r.Held s.core
  stopping : ∀ k pc, s.engine.stops k = some pc → ∃ caller, s.rpc = some (.stop caller k)
  answered : ∀ caller, s.rpc = some (.stopped caller true) → s.engine.Settled
  confirmed : ∀ k call, s.core.stops k = some call → call.pc.confirmed = true → s.engine.Settled

variable {c : Nat} {caller : StopCaller} {r : Rpc}

namespace SystemLinkAux

/-! ## The one who waits -/

section Held

variable {core : CoreState} {label : CoreLabel}

section

variable (h : core.lockView.Sound)
include h

/-- Whoever waits for an answer holds the session lock. -/
theorem lock_of_held (hr : r.Held core) : core.lock = some r.actor := by
  cases r with
  | apply | applied =>
    obtain ⟨call, session, hcall, hpc⟩ := hr
    exact h.connect _ call hcall (by rw [hpc]; rfl)
  | stop caller | stopped caller =>
    cases caller with
    | call k =>
      obtain ⟨call, hcall, hpc⟩ := hr
      exact h.stop k call hcall (by rw [hpc]; rfl)
    | projection i =>
      obtain ⟨p, hp, hpc⟩ := hr
      exact h.projection i p hp (by rw [hpc]; rfl)

/-- Who waits goes on waiting while others act. -/
theorem held_other (hr : r.Held core) (hother : label.actor ≠ some r.actor) : r.Held (coreStep core label) := by
  cases r with
  | apply | applied =>
    obtain ⟨call, session, hcall, hpc⟩ := hr
    exact ⟨call, session, connects_coreStep h hcall hother, hpc⟩
  | stop caller | stopped caller =>
    cases caller with
    | call k =>
      obtain ⟨call, hcall, hpc⟩ := hr
      exact ⟨call, stops_coreStep h hcall hother, hpc⟩
    | projection i =>
      obtain ⟨p, hp, hpc⟩ := hr
      exact ⟨p, projections_coreStep h hp hother, hpc⟩

end

/-- A Connect call that waits does nothing before its answer. -/
theorem isApplying_self (hc : IsApplying core c) (hactor : label.actor = some (.connect c))
    (htalk : talks label = false) : coreStep core label = core := by
  obtain ⟨⟨generation, newSession, trigger, pc⟩, session, hcall, rfl⟩ := hc
  cases label with
  | connectCall d label =>
    obtain rfl : d = c := by simpa [CoreLabel.actor] using hactor
    simp only [coreStep, hcall]
    cases label <;> first | rfl | cases htalk
  | _ => simp [CoreLabel.actor] at hactor

/-- Who waits for the answer to a `StopTunnel` does nothing before it. -/
theorem isSent_self (hcaller : caller.IsSent core) (hactor : label.actor = some caller.actor)
    (htalk : talks label = false) : coreStep core label = core := by
  cases caller with
  | call k =>
    obtain ⟨⟨generation, preserve, pc⟩, hcall, rfl⟩ := hcaller
    cases label with
    | stopCall j label =>
      obtain rfl : j = k := by simpa [CoreLabel.actor, StopCaller.actor] using hactor
      simp only [coreStep, hcall]
      cases label <;> first | rfl | cases htalk
    | _ => simp [CoreLabel.actor, StopCaller.actor] at hactor
  | projection i =>
    obtain ⟨⟨generation, session, pc⟩, hp, rfl⟩ := hcaller
    cases label with
    | projection j label =>
      obtain rfl : j = i := by simpa [CoreLabel.actor, StopCaller.actor] using hactor
      simp only [coreStep, hp]
      cases label <;> first | rfl | cases htalk
    | _ => simp [CoreLabel.actor, StopCaller.actor] at hactor

/-- Who waits goes on waiting while the core acts on its own. -/
theorem held_core (h : core.lockView.Sound) (hr : r.Held core) (htalk : talks label = false) :
    r.Held (coreStep core label) := by
  by_cases hactor : label.actor = some r.actor
  · have hsame : coreStep core label = core := by
      cases r with
      | apply | applied => exact isApplying_self hr hactor htalk
      | stop | stopped => exact isSent_self hr hactor htalk
    rw [hsame]
    exact hr
  · exact held_other h hr hactor

end Held

/-! ## Steps -/

variable {s : SystemState}

section

variable (h : Linked s)
include h

theorem confirmed_core {label : CoreLabel} (hreply : ∀ k, label ≠ .stopCall k (.reply true)) (k : Nat)
    (call : DarwinCore.StopCall) (hk : (coreStep s.core label).stops k = some call)
    (hcall : call.pc.confirmed = true) : s.engine.Settled := by
  obtain ⟨before, hbefore, hpc⟩ := confirmed_coreStep hk hcall (hreply k)
  exact h.confirmed k before hbefore hpc

/-- The engine runs no stop unless one is asked of it. -/
theorem not_stopping (hrpc : ∀ caller k, s.rpc ≠ some (.stop caller k)) (k : Nat)
    (pc : DarwinEngine.StopPc) (hk : s.engine.stops k = some pc) : False := by
  obtain ⟨caller, hcaller⟩ := h.stopping k pc hk
  exact hrpc caller k hcaller

/-- While somebody else holds the session lock, no Stop call is confirmed. -/
theorem not_confirmed (hrpc : s.rpc = some r) (hr : ∀ k, r.actor ≠ .stop k) (k : Nat)
    (call : DarwinCore.StopCall) (hk : s.core.stops k = some call) : call.pc.confirmed = false := by
  by_contra hcall
  have hholds : call.pc.holds = true := by
    obtain ⟨generation, preserve, pc⟩ := call
    cases pc <;> first | rfl | exact absurd rfl hcall
  have hlock := (h.lock.stop k call hk hholds).symm.trans (lock_of_held h.lock (h.held r hrpc))
  exact hr k (some.inj hlock).symm

theorem linked_coreOnly (label : CoreLabel) : Linked (s.coreOnly label) := by
  unfold coreOnly
  split
  · exact h
  rename_i htalk
  have htalk' : talks label = false := by simpa using htalk
  have hreply : ∀ k, label ≠ .stopCall k (.reply true) := by
    rintro k rfl
    cases htalk'
  have hlock := lockSound_coreStep s.core label h.lock
  have hheld : ∀ r, s.rpc = some r → r.Held (coreStep s.core label) :=
    fun r hr => held_core h.lock (h.held r hr) htalk'
  dsimp only
  split
  · exact ⟨hlock, h.slot, h.numbered, hheld, h.stopping, h.answered, confirmed_core h hreply⟩
  · exact ⟨hlock, slotSound_initial, numbered_initial, hheld, nofun,
      fun _ _ => settled_initial, fun _ _ _ _ => settled_initial⟩

theorem linked_sendApply (c : Nat) : Linked (s.sendApply c) := by
  unfold SystemState.sendApply
  split
  case h_1 generation newSession trigger session hc =>
    have hlock : s.core.lock = some (.connect c) := h.lock.connect c _ hc rfl
    have hnone : ∀ caller k, s.rpc ≠ some (.stop caller k) := by
      intro caller k hrpc
      have hsame := hlock.symm.trans (lock_of_held h.lock (h.held _ hrpc))
      cases caller <;> cases hsame
    have happlying : IsApplying (coreStep s.core (.connectCall c .apply)) c := by
      refine ⟨⟨generation, newSession, trigger, .applying session⟩, session, ?_, rfl⟩
      simp [coreStep, hc, DarwinCore.connectStep, setConnect]
    refine ⟨DarwinCore.lockSound_coreStep _ _ h.lock, h.slot, h.numbered, ?_, ?_, ?_, ?_⟩
    · rintro r ⟨⟩
      exact happlying
    · exact fun k pc hk => (not_stopping h hnone k pc hk).elim
    · rintro _ ⟨⟩
    · exact confirmed_core h (by rintro k ⟨⟩)
  case h_2 => exact h

theorem linked_handleApply (hguard : keepsEngine s .handleApply) : Linked s.handleApply := by
  unfold handleApply
  split
  case h_1 c hrpc =>
    have hheld : IsApplying s.core c := h.held _ hrpc
    have hstops := not_stopping h fun caller k hstop => by cases hrpc.symm.trans hstop
    have hconfirmed := not_confirmed h hrpc (by rintro k ⟨⟩)
    split
    · rename_i hempty
      have hslot : s.engine.slot = none := isNone_iff_eq_none.mp hempty
      have hkeeps : keepsSlot s.engine .applyTunnel := by
        intro _
        refine ⟨fun n pc hn => hguard hslot n (h.numbered n pc hn) pc hn, fun k pc hk => ?_⟩
        exact (hstops k pc hk).elim
      refine ⟨h.lock, slotSound_engineStep s.engine .applyTunnel h.slot hkeeps,
        numbered_applyTunnel h.numbered, ?_, ?_, ?_, ?_⟩
      · rintro r ⟨⟩
        exact hheld
      · intro k pc hk
        simp only [EngineState.applyTunnel, hslot] at hk
        exact (hstops k pc hk).elim
      · rintro _ ⟨⟩
      · intro k call hk hcall
        cases (hconfirmed k call hk).symm.trans hcall
    · refine ⟨h.lock, h.slot, h.numbered, ?_, fun k pc hk => (hstops k pc hk).elim, nofun, h.confirmed⟩
      rintro r ⟨⟩
      exact hheld
  case h_2 => exact h

theorem linked_replyApply : Linked s.replyApply := by
  unfold replyApply
  split
  case h_1 c pending hrpc =>
    have hstops := not_stopping h fun caller k hstop => by cases hrpc.symm.trans hstop
    exact ⟨lockSound_coreStep _ _ h.lock, h.slot, h.numbered, by rintro r ⟨⟩,
      fun k pc hk => (hstops k pc hk).elim, nofun, confirmed_core h (by rintro k ⟨⟩)⟩
  case h_2 => exact h

end

/-- A caller that is ready holds the session lock and then waits for its answer. -/
theorem isSent_send (h : s.core.lockView.Sound) (hready : caller.isReady s.core = true) :
    s.core.lock = some caller.actor ∧ ¬caller.IsSent s.core ∧ caller.IsSent (coreStep s.core caller.send) := by
  cases caller with
  | call k =>
    simp only [isReady, any_eq_true, decide_eq_true_eq] at hready
    obtain ⟨⟨generation, preserve, pc⟩, hcall, rfl⟩ := hready
    refine ⟨h.stop k _ hcall rfl, ?_, ⟨generation, preserve, .sent⟩, ?_, rfl⟩
    · rintro ⟨call, hcall', hpc⟩
      obtain rfl := some.inj (hcall.symm.trans hcall')
      cases hpc
    · simp [send, coreStep, hcall, DarwinCore.stopStep, setStop]
  | projection i =>
    simp only [isReady, any_eq_true, decide_eq_true_eq] at hready
    obtain ⟨⟨generation, session, pc⟩, hp, rfl⟩ := hready
    refine ⟨h.projection i _ hp rfl, ?_, ⟨generation, session, .sent⟩, ?_, rfl⟩
    · rintro ⟨p, hp', hpc⟩
      obtain rfl := some.inj (hp.symm.trans hp')
      cases hpc
    · simp [send, coreStep, hp, DarwinCore.projectionStep, DarwinCore.ProjectionLabel.closes,
        DarwinCore.eventStep, setProjection]

variable (h : Linked s)
include h

theorem linked_sendStop (caller : StopCaller) : Linked (s.sendStop caller) := by
  unfold sendStop
  split
  case isTrue hready =>
    obtain ⟨hlock, hnot, hsent⟩ := isSent_send h.lock hready
    -- The call before would be with the same caller, which has not sent one.
    have hnone : ∀ other k, s.rpc ≠ some (.stop other k) := by
      intro other k hrpc
      have hother : other.IsSent s.core := h.held _ hrpc
      have hsame := some.inj (hlock.symm.trans (lock_of_held h.lock (h.held _ hrpc)))
      have hcaller : caller = other := by
        cases caller <;> cases other <;> cases hsame <;> rfl
      exact hnot (hcaller ▸ hother)
    refine ⟨lockSound_coreStep _ _ h.lock,
      slotSound_engineStep s.engine .stopTunnel h.slot trivial, h.numbered, ?_, ?_, ?_, ?_⟩
    · rintro r ⟨⟩
      exact hsent
    · refine OptionMap.forall_update (fun k pc hk _ => (not_stopping h hnone k pc hk).elim) ?_
      exact fun _ _ => ⟨caller, rfl⟩
    · rintro _ ⟨⟩
    · intro k call hk hcall
      have hsettled := confirmed_core h (by cases caller <;> rintro k ⟨⟩) k call hk hcall
      exact ⟨hsettled.idle, hsettled.clean⟩
  case isFalse => exact h

theorem linked_engineStop (label : DarwinEngine.StopLabel) : Linked (s.engineStop label) := by
  unfold engineStop
  split
  case h_1 caller k hrpc =>
    have hslot := slotSound_engineStep s.engine (.stop k label) h.slot trivial
    have hnumbered := numbered_engineStep h.numbered (.stop k label)
    obtain ⟨-, -, hothers⟩ := stopStep_others s.engine k label
    have hconfirmed := fun j call hj hcall =>
      settled_stopStep (h.confirmed j call hj hcall) k label
    -- Other stops would belong to the same call.
    have honly : ∀ j pc, (stopStep s.engine k label).stops j = some pc → j = k := by
      intro j pc hj
      by_contra hjk
      rw [hothers j hjk] at hj
      obtain ⟨other, hother⟩ := h.stopping j pc hj
      cases hrpc.symm.trans hother
      exact hjk rfl
    dsimp only
    split
    · refine ⟨h.lock, hslot, hnumbered, h.held, ?_, ?_, hconfirmed⟩
      · intro j pc hj
        obtain rfl := honly j pc hj
        exact ⟨caller, hrpc⟩
      · intro other hother
        cases hrpc.symm.trans hother
    · rename_i hgone
      have hsent : caller.IsSent s.core := h.held _ hrpc
      refine ⟨h.lock, hslot, hnumbered, ?_, ?_, ?_, hconfirmed⟩
      · rintro r ⟨⟩
        exact hsent
      · intro j pc hj
        obtain rfl := honly j pc hj
        exact absurd (by rw [hj]; rfl) hgone
      · intro other hother
        simp only [some.injEq, Rpc.stopped.injEq, decide_eq_true_eq] at hother
        exact settled_stopStep (settled_of_stopped h.slot hother.2) k label
  case h_2 => exact h

theorem linked_replyStop : Linked s.replyStop := by
  unfold replyStop
  split
  case h_1 caller confirmed hrpc =>
    have hstops := not_stopping h fun other k hstop => by cases hrpc.symm.trans hstop
    refine ⟨lockSound_coreStep _ _ h.lock, h.slot, h.numbered, by rintro r ⟨⟩,
      fun k pc hk => (hstops k pc hk).elim, nofun, ?_⟩
    cases confirmed with
    | true => exact fun _ _ _ _ => h.answered caller hrpc
    | false => exact confirmed_core h (by cases caller <;> rintro k ⟨⟩)
  case h_2 => exact h

theorem linked_attempt (n : Nat) (label : DarwinEngine.AttemptLabel) :
    Linked { s with engine := attemptStep s.engine n label } := by
  refine ⟨h.lock, slotSound_engineStep s.engine (.attempt n label) h.slot trivial,
    numbered_attemptStep h.numbered n label, h.held, ?_,
    fun caller hrpc => settled_attemptStep (h.answered caller hrpc) n label,
    fun k call hk hcall => settled_attemptStep (h.confirmed k call hk hcall) n label⟩
  rw [(attemptStep_others s.engine n label).1]
  exact h.stopping

theorem linked_emit (n : Nat) (event : StatusEvent) : Linked (s.emit n event) := by
  unfold emit
  split
  · split
    · exact ⟨h.lock, h.slot, h.numbered, h.held, h.stopping, h.answered, h.confirmed⟩
    · exact h
  · exact h

theorem linked_deliver (i : Nat) : Linked (s.deliver i) := by
  unfold SystemState.deliver
  split
  case h_1 generation session event rest hp hinbox =>
    refine ⟨DarwinCore.lockSound_coreStep _ _ h.lock, h.slot, h.numbered, ?_, h.stopping, h.answered,
      confirmed_core h (by rintro k ⟨⟩)⟩
    intro r hr
    by_cases hactor : r.actor = .projection i
    · -- The projection reads an event, so it does not wait for an answer.
      have hheld := h.held r hr
      have hsent : (StopCaller.projection i).IsSent s.core := by
        cases r with
        | apply | applied => cases hactor
        | stop caller k => cases caller <;> cases hactor; exact hheld
        | stopped caller confirmed => cases caller <;> cases hactor; exact hheld
      obtain ⟨p, hp', hpc⟩ := hsent
      obtain rfl := some.inj (hp.symm.trans hp')
      cases hpc
    · exact held_other h.lock (h.held r hr) fun hsame => hactor (some.inj hsame).symm
  case h_2 => exact h

end SystemLinkAux

open SystemLinkAux

/-- One step keeps core and engine in agreement. -/
theorem linked_systemStep (s : SystemState) (label : SystemLabel) (h : Linked s) (hguard : keepsEngine s label) :
    Linked (systemStep s label) := by
  cases label with
  | core label => exact linked_coreOnly h label
  | sendApply c => exact linked_sendApply h c
  | handleApply => exact linked_handleApply h hguard
  | replyApply => exact linked_replyApply h
  | sendStop caller => exact linked_sendStop h caller
  | engineStop label => exact linked_engineStop h label
  | replyStop => exact linked_replyStop h
  | attempt n label => exact linked_attempt h n label
  | emit n event => exact linked_emit h n event
  | deliver i => exact linked_deliver h i

theorem linked_initial : Linked initial :=
  ⟨lockSound_initial, slotSound_initial, numbered_initial, nofun,
    nofun, nofun, nofun⟩

end ExvVpn.Darwin
