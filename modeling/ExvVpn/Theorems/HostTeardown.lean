import ExvVpn.Tools.Transition
import ExvVpn.Win32Host.Composition
import Mathlib.Data.List.Induction

/-! # The teardown barrier of the host

What holds of the phase between a Disconnect and the joins of both sides, and after them, over every sequence of calls. The
composition sets `connected` in whatever phase it is, and a second Disconnect makes a new barrier; both disturb a teardown. -/

namespace ExvVpn.Host

open Transition HostComposition List TeardownBarrier

/-! ## Calls -/

/-- A call of the composition from outside. -/
inductive HostCall (ε : Type)
  | bindPeer
  | apply (event : HostEvent ε)

variable {ε : Type}

variable (c : HostComposition ε) (calls : List (HostCall ε))

def callStep : HostCall ε → HostComposition ε
  | .bindPeer => c.bindPeer
  | .apply event => (c.apply event).1

/-- Both sides have joined in these calls. -/
def BothJoined : Prop :=
  ∀ side, .apply (.teardownSideJoined side) ∈ calls

/-- A Disconnect finds an attempt or a connection to end. -/
def HostPhase.live (phase : HostPhase) : Prop :=
  phase = .connected ∨ phase = .connecting

/-- The host is stopping from a Disconnect to the second join after it, is stopped then, and stays so until admission is
reopened. -/
structure TeardownHeld : Prop where
  stopping : ∀ before after rest, calls = before ++ .apply .disconnect :: (after ++ rest) →
    (run callStep c before).phase.live → ¬ BothJoined after →
    (run callStep c (before ++ .apply .disconnect :: after)).phase = .stopping
  stopped : ∀ before after last rest, calls = before ++ .apply .disconnect :: (after ++ last :: rest) →
    (run callStep c before).phase.live → ¬ BothJoined after → BothJoined (after ++ [last]) →
    (run callStep c (before ++ .apply .disconnect :: (after ++ [last]))).phase = .stopped
  pinned : ∀ before call rest, calls = before ++ call :: rest → (run callStep c before).phase = .stopped →
    call ≠ .apply .reopenAdmission → (callStep (run callStep c before) call).phase = .stopped

/-- Nothing comes in between: no establishment before both sides have joined, no further Disconnect between the two joins, and
in `stopped` no establishment, no Disconnect and no Connect that is admitted. -/
structure TeardownUndisturbed : Prop where
  established : ∀ before after rest,
    calls = before ++ .apply .disconnect :: (after ++ .apply .protocolEstablished :: rest) →
    (run callStep c before).phase.live → BothJoined after
  once : ∀ before after last rest, calls = before ++ .apply .disconnect :: (after ++ last :: rest) →
    (run callStep c before).phase.live → ¬ BothJoined after → BothJoined (after ++ [last]) →
    ∃ first between side, after = first ++ .apply (.teardownSideJoined side) :: between ∧
      last ≠ .apply (.teardownSideJoined side) ∧ .apply .disconnect ∉ between
  pinned : ∀ before call rest, calls = before ++ call :: rest → (run callStep c before).phase = .stopped →
    call ≠ .apply .protocolEstablished ∧ call ≠ .apply .disconnect ∧
      (call = .apply .connect → (run callStep c before).connectRefusal ≠ none)

variable {side : TeardownSide} {c calls} {after : List (HostCall ε)}

namespace HostTeardownAux

/-! ## Joins that count -/

def other : TeardownSide → TeardownSide
  | .protocolControl => .packetData
  | .packetData => .protocolControl

/-- The side has joined, and no Disconnect has made a new barrier since. -/
def Counted (calls : List (HostCall ε)) (side : TeardownSide) : Prop :=
  ∃ first between, calls = first ++ .apply (.teardownSideJoined side) :: between ∧ .apply .disconnect ∉ between

/-- A join that counts was made. -/
theorem Counted.mem (h : Counted calls side) : .apply (.teardownSideJoined side) ∈ calls := by
  obtain ⟨first, between, rfl, -⟩ := h
  simp

/-- Which joins count after one more call. -/
theorem counted_snoc {call : HostCall ε} : Counted (calls ++ [call]) side ↔
      call = .apply (.teardownSideJoined side) ∨ (Counted calls side ∧ call ≠ .apply .disconnect) := by
  constructor
  · intro h
    obtain ⟨first, between, hsplit, hbetween⟩ := h
    -- The join is the last call, or the last call comes after it.
    rcases eq_nil_or_concat between with rfl | ⟨between, last, rfl⟩
    · have hlast := append_inj_right' hsplit rfl
      simp only [cons.injEq, and_true] at hlast
      exact .inl hlast
    rw [concat_eq_append] at hsplit hbetween
    have hsplit' : calls ++ [call] = (first ++ .apply (.teardownSideJoined side) :: between) ++ [last] := by
      simpa using hsplit
    obtain ⟨hcalls, hlast⟩ := append_inj' hsplit' rfl
    simp only [cons.injEq, and_true] at hlast
    simp only [mem_append, not_or, mem_singleton] at hbetween
    refine .inr ⟨⟨first, between, hcalls, hbetween.1⟩, ?_⟩
    rw [hlast]
    exact fun heq => hbetween.2 heq.symm
  · intro h
    rcases h with rfl | ⟨⟨first, between, rfl, hbetween⟩, hcall⟩
    · exact ⟨calls, [], rfl, by simp⟩
    · refine ⟨first, between ++ [call], by simp, ?_⟩
      simp only [mem_append, mem_singleton, not_or]
      exact ⟨hbetween, fun heq => hcall heq.symm⟩

/-! ## The barrier -/

@[simp] theorem joined_setJoined (b : TeardownBarrier) (side side' : TeardownSide) :
    (b.setJoined side).joined side' = (b.joined side' || side = side') := by
  cases side <;> cases side' <;> simp [setJoined, joined]

/-- What a join of a barrier that is not released comes to. -/
theorem join_of_fenced {b : TeardownBarrier} (h : b.released = false) (side : TeardownSide) :
    b.join side = if b.joined side then (b, .rejected)
      else if b.joined (other side) then ({ b.setJoined side with released := true }, .released)
      else (b.setJoined side, .pending) := by
  cases side <;> simp [join, setJoined, joined, other, h]

theorem bothJoined_iff (calls : List (HostCall ε)) (side : TeardownSide) :
    BothJoined calls ↔
      .apply (.teardownSideJoined side) ∈ calls ∧ .apply (.teardownSideJoined (other side)) ∈ calls := by
  constructor
  · exact fun h => ⟨h side, h (other side)⟩
  · intro h side'
    cases side <;> cases side'
    · exact h.1
    · exact h.2
    · exact h.2
    · exact h.1

/-! ## A teardown in progress -/

/-- The host is stopping and the barrier holds the joins that count. -/
structure Awaiting (c : HostComposition ε) (after : List (HostCall ε)) : Prop where
  phase : c.phase = .stopping
  fenced : c.teardown.released = false
  joined : ∀ side, c.teardown.joined side = true ↔ Counted after side

theorem joined_disconnect (c : HostComposition ε) (side : TeardownSide) :
    (callStep c (.apply .disconnect)).teardown.joined side = false := by
  cases side <;> rfl

theorem awaiting_disconnect (c : HostComposition ε) : Awaiting (callStep c (.apply .disconnect)) [] := by
  refine ⟨rfl, rfl, fun side => ?_⟩
  simp [joined_disconnect, Counted]

/-- A join that is not the second that counts is recorded. -/
theorem awaiting_join (h : Awaiting c after) (hother : ¬ Counted after (other side)) :
    Awaiting (callStep c (.apply (.teardownSideJoined side))) (after ++ [.apply (.teardownSideJoined side)]) := by
  have hnot : c.teardown.joined (other side) = false := by
    rw [← h.joined] at hother
    exact Bool.eq_false_iff.mpr hother
  have hsnoc : ∀ side', Counted (after ++ [.apply (.teardownSideJoined side)]) side' ↔
      side = side' ∨ Counted after side' := by
    intro side'
    simp [counted_snoc]
  simp only [callStep, apply, join_of_fenced h.fenced, hnot]
  by_cases hjoined : c.teardown.joined side = true
  · simp only [hjoined, if_true]
    refine ⟨h.phase, h.fenced, ?_⟩
    intro side'
    rw [hsnoc, h.joined, or_iff_right_of_imp]
    rintro rfl
    exact (h.joined side).mp hjoined
  · simp only [hjoined, Bool.false_eq_true, if_false]
    refine ⟨h.phase, ?_, ?_⟩
    · cases side <;> exact h.fenced
    · intro side'
      rw [hsnoc, joined_setJoined, Bool.or_eq_true, h.joined, decide_eq_true_eq, or_comm]

/-- No call but an establishment and the second join that counts ends a teardown. -/
theorem awaiting_step (h : Awaiting c after) {call : HostCall ε} (hestablished : call ≠ .apply .protocolEstablished)
    (hsecond : ∀ side, call = .apply (.teardownSideJoined side) → ¬ Counted after (other side)) :
    Awaiting (callStep c call) (after ++ [call]) := by
  -- Calls that change neither the phase nor the barrier.
  have hkept : ∀ c' : HostComposition ε, c'.phase = c.phase → c'.teardown = c.teardown →
      call ≠ .apply .disconnect → (∀ side, call ≠ .apply (.teardownSideJoined side)) → Awaiting c' (after ++ [call]) := by
    intro c' hphase hteardown hdisconnect hjoin
    refine ⟨hphase.trans h.phase, by rw [hteardown]; exact h.fenced, ?_⟩
    intro side
    simp [hteardown, h.joined, counted_snoc, hdisconnect, hjoin side]
  cases call with
  | bindPeer => exact hkept _ rfl rfl (by simp) (by simp)
  | apply event =>
    cases event with
    | connect =>
      have hrefused : c.connectRefusal ≠ none := by
        simp only [connectRefusal, h.phase]
        split
        · simp
        · split <;> simp
      obtain ⟨refusal, hrefusal⟩ := Option.ne_none_iff_exists'.mp hrefused
      refine hkept _ ?_ ?_ (by simp) (by simp)
      · simp [callStep, apply, hrefusal]
      · simp [callStep, apply, hrefusal]
    | protocolEstablished => exact absurd rfl hestablished
    | disconnect =>
      refine ⟨rfl, rfl, ?_⟩
      intro side
      simp [joined_disconnect, counted_snoc]
    | helperLinkLost | connectionLost | reopenAdmission =>
      refine hkept _ ?_ ?_ (by simp) (by simp)
      · simp [callStep, apply, h.phase]
      · simp [callStep, apply, h.phase]
    | stopNewAdmission | connectPhaseProgress => exact hkept _ rfl rfl (by simp) (by simp)
    | teardownSideJoined side => exact awaiting_join h (hsecond side rfl)
    | connectFailed error =>
      refine hkept _ ?_ rfl (by simp) (by simp)
      simp [callStep, apply, h.phase]

/-- The teardown is in progress from a Disconnect on, until both sides have joined. -/
theorem awaiting_run (c : HostComposition ε) (after : List (HostCall ε)) (hjoined : ¬ BothJoined after)
    (hestablished : .apply .protocolEstablished ∉ after) :
    Awaiting (run callStep c (.apply .disconnect :: after)) after := by
  induction after using reverseRecOn with
  | nil => exact awaiting_disconnect c
  | append_singleton after call ih =>
    have hbefore : ¬ BothJoined after := by
      intro hboth
      exact hjoined fun side => mem_append_left _ (hboth side)
    simp only [mem_append, mem_singleton, not_or] at hestablished
    have hawaiting := ih hbefore hestablished.1
    rw [← cons_append, run_append]
    refine awaiting_step hawaiting (fun heq => hestablished.2 heq.symm) ?_
    intro side heq hcounted
    refine hjoined ((bothJoined_iff _ side).mpr ⟨?_, ?_⟩)
    · simp [heq]
    · exact mem_append_left _ hcounted.mem

/-! ## The end of a teardown -/

/-- The call that makes both sides joined is the first join of its side. -/
theorem last_join {last : HostCall ε} (hbefore : ¬ BothJoined after) (hjoined : BothJoined (after ++ [last])) :
    ∃ side, last = .apply (.teardownSideJoined side) ∧ .apply (.teardownSideJoined side) ∉ after := by
  obtain ⟨side, hside⟩ := not_forall.mp hbefore
  have hmem := hjoined side
  rw [mem_append, mem_singleton] at hmem
  exact ⟨side, (hmem.resolve_left hside).symm, hside⟩

theorem ne_iff_eq_other {side' : TeardownSide} : side ≠ side' ↔ side' = other side := by
  cases side <;> cases side' <;> simp [other]

/-- The host is stopped by the join of a side exactly when the join of the other still counts. -/
theorem stopped_iff_counted (h : Awaiting c after) (hfirst : .apply (.teardownSideJoined side) ∉ after) :
    (callStep c (.apply (.teardownSideJoined side))).phase = .stopped ↔ Counted after (other side) := by
  have hnot : c.teardown.joined side = false := by
    rw [Bool.eq_false_iff, ne_eq, h.joined]
    exact fun hcounted => hfirst hcounted.mem
  simp only [callStep, apply, join_of_fenced h.fenced, hnot, Bool.false_eq_true, if_false, ← h.joined]
  by_cases hother : c.teardown.joined (other side) = true
  · simp [hother]
  · simp [hother, h.phase]

/-- Outside a reopening the phase `stopped` is left by an establishment, a Disconnect and an admitted Connect only. -/
theorem stopped_step_iff (h : c.phase = .stopped) (call : HostCall ε) (hreopen : call ≠ .apply .reopenAdmission) :
    (callStep c call).phase = .stopped ↔ call ≠ .apply .protocolEstablished ∧ call ≠ .apply .disconnect ∧
      (call = .apply .connect → c.connectRefusal ≠ none) := by
  cases call with
  | bindPeer => simpa [callStep, bindPeer] using h
  | apply event =>
    cases event with
    | connect =>
      cases hrefusal : c.connectRefusal with
      | none => simp [callStep, apply, hrefusal]
      | some refusal => simp [callStep, apply, hrefusal, h]
    | protocolEstablished | disconnect => simp [callStep, apply]
    | teardownSideJoined side =>
      have hstopped : (callStep c (.apply (.teardownSideJoined side))).phase = .stopped := by
        simp only [callStep, apply]
        split
        · rfl
        · exact h
      simp [hstopped]
    | reopenAdmission => exact absurd rfl hreopen
    | helperLinkLost | stopNewAdmission | connectPhaseProgress => simp [callStep, apply, h]
    | connectFailed | connectionLost => simp [callStep, apply, h]

/-- While every establishment waits for both sides, the teardown after a Disconnect is in progress. -/
theorem awaiting_of_established {calls before rest : List (HostCall ε)}
    (hestablished : ∀ before after rest,
      calls = before ++ .apply .disconnect :: (after ++ .apply .protocolEstablished :: rest) →
      (run callStep c before).phase.live → BothJoined after)
    (hcalls : calls = before ++ .apply .disconnect :: (after ++ rest)) (hlive : (run callStep c before).phase.live)
    (hjoined : ¬ BothJoined after) : Awaiting (run callStep c (before ++ .apply .disconnect :: after)) after := by
  rw [run_append]
  refine awaiting_run _ after hjoined ?_
  intro hmem
  obtain ⟨first, between, rfl⟩ := append_of_mem hmem
  refine hjoined fun side => mem_append_left _ ?_
  exact hestablished before first (between ++ rest) (by simpa using hcalls) hlive side

end HostTeardownAux

open HostTeardownAux

/-- Over every sequence of calls from every composition, the teardown is as promised exactly when it is undisturbed. -/
theorem teardown_held_iff (c : HostComposition ε) (calls : List (HostCall ε)) :
    TeardownHeld c calls ↔ TeardownUndisturbed c calls := by
  constructor
  · intro h
    have hestablished : ∀ before after rest,
        calls = before ++ .apply .disconnect :: (after ++ .apply .protocolEstablished :: rest) →
        (run callStep c before).phase.live → BothJoined after := by
      intro before after rest hcalls hlive
      by_contra hjoined
      -- The establishment sets the phase while a side is still to join.
      have hstopping := h.stopping before (after ++ [.apply .protocolEstablished]) rest (by simpa using hcalls) hlive
        fun hboth => hjoined fun side => by simpa using hboth side
      rw [← cons_append, ← append_assoc, run_append] at hstopping
      cases hstopping
    refine ⟨hestablished, ?_, ?_⟩
    · intro before after last rest hcalls hlive hbefore hjoined
      obtain ⟨side, rfl, hfirst⟩ := last_join hbefore hjoined
      have hawaiting := awaiting_of_established hestablished hcalls hlive hbefore
      have hstopped := h.stopped before after _ rest hcalls hlive hbefore hjoined
      rw [← cons_append, ← append_assoc, run_append] at hstopped
      obtain ⟨first, between, hsplit, hbetween⟩ := (stopped_iff_counted hawaiting hfirst).mp hstopped
      refine ⟨first, between, other side, hsplit, ?_, hbetween⟩
      intro heq
      injection heq with heq
      injection heq with heq
      exact ne_iff_eq_other.mpr rfl heq
    · intro before call rest hcalls hstopped
      by_cases hreopen : call = .apply .reopenAdmission
      · subst hreopen
        simp
      · exact (stopped_step_iff hstopped call hreopen).mp (h.pinned before call rest hcalls hstopped hreopen)
  · intro h
    refine ⟨?_, ?_, ?_⟩
    · intro before after rest hcalls hlive hjoined
      exact (awaiting_of_established h.established hcalls hlive hjoined).phase
    · intro before after last rest hcalls hlive hbefore hjoined
      obtain ⟨first, between, side', hsplit, hside, hbetween⟩ := h.once before after last rest hcalls hlive hbefore hjoined
      obtain ⟨side, rfl, hfirst⟩ := last_join hbefore hjoined
      have hawaiting := awaiting_of_established h.established hcalls hlive hbefore
      have hother : side' = other side := ne_iff_eq_other.mp fun heq => hside (by rw [heq])
      rw [← cons_append, ← append_assoc, run_append]
      refine (stopped_iff_counted hawaiting hfirst).mpr ?_
      rw [← hother]
      exact ⟨first, between, hsplit, hbetween⟩
    · intro before call rest hcalls hstopped hreopen
      exact (stopped_step_iff hstopped call hreopen).mpr (h.pinned before call rest hcalls hstopped)

/-- The calls of an attempt that is given up. -/
def abandonedAttempt : List (HostCall Wire.VpnError) := [.bindPeer, .apply .connect, .apply .disconnect]

/-- The establishment of an abandoned attempt comes late: the host is connected, in the middle of the teardown as well as
after it. -/
theorem late_establishment_connects :
    ¬ TeardownHeld .new (abandonedAttempt ++ [.apply .protocolEstablished]) ∧
    ¬ TeardownHeld .new (abandonedAttempt ++ [.apply (.teardownSideJoined .protocolControl),
      .apply (.teardownSideJoined .packetData), .apply .protocolEstablished]) := by
  constructor
  · intro h
    have hstopping := h.stopping [.bindPeer, .apply .connect] [.apply .protocolEstablished] [] rfl (.inr (by decide))
      fun hboth => by simpa using hboth .packetData
    cases hstopping
  · intro h
    have hstopped := h.pinned (abandonedAttempt ++ [.apply (.teardownSideJoined .protocolControl),
      .apply (.teardownSideJoined .packetData)]) (.apply .protocolEstablished) [] rfl (by decide) (by simp)
    cases hstopped

end ExvVpn.Host
