import ExvVpn.Lemmas.HostReconnect
import Mathlib.Algebra.Group.Nat.Defs

/-! # The reconnect budget

After the drop of an established tunnel the host is to try again until the budget of the session is used up, with growing
delays. It does so as long as every attempt that fails is reported as a dropped data plane, which only established tunnels
are; an attempt that fails before that, in the host or in the engine, ends the loop. -/

namespace ExvVpn.Win32Host

open Host Wire Transition List Option ServiceState

/-- A further attempt is signalled, is being started, or is in flight. -/
def Pursued (s : ServiceState) : Prop := s.signals ≠ 0 ∨ s.reconnectActive = true ∨ s.worker ≠ .idle

/-- The session wants another attempt: its tunnel has dropped, reconnects are on, and the budget is not used up. -/
def WantsAttempt (s : ServiceState) (policy : ReconnectSessionPolicy) : Prop :=
  s.history.dropped = true ∧ s.policy = some policy ∧ policy.autoReconnect = true ∧
    policy.exhausted s.reconnectAttempts = false

/-- The attempt that comes next: its number is one more than the attempts made, and its delay is the one of that number. -/
def nextAttempt (s : ServiceState) (policy : ReconnectSessionPolicy) : StartedAttempt :=
  ⟨s.reconnectAttempts + 1,
    if policy.backoff then reconnectBackoffDelay s.backoffBase s.backoffCap (s.reconnectAttempts + 1) else 0⟩

namespace HostReconnectAux

variable {s : ServiceState} {policy : ReconnectSessionPolicy}

theorem pursued_of_wants (h : s.reconnectView.Sound) (hw : WantsAttempt s policy) : Pursued s := by
  obtain ⟨hdropped, hpolicy, hauto, hbudget⟩ := hw
  by_cases h0 : s.signals = 0
  · have hlive := h.live ⟨hdropped, policy, hpolicy, hauto, hbudget⟩ h0
    cases hworker : s.worker with
    | idle =>
      simp only [reconnectView, hworker] at hlive
      exact .inr (.inl hlive)
    | _ => exact .inr (.inr (by simp [hworker]))
  · exact .inl h0

/-- A worker that is idle with nothing in flight starts the next attempt. -/
theorem starts_next (h : s.reconnectView.Sound) (hw : WantsAttempt s policy) (hidle : s.worker = .idle)
    (hactive : s.reconnectActive = false) :
    (run serviceStep s [.worker .take, .worker .start]).history.started = nextAttempt s policy :: s.history.started := by
  have hpursued := pursued_of_wants h hw
  obtain ⟨hdropped, hpolicy, hauto, hbudget⟩ := hw
  have h0 : s.signals ≠ 0 := by
    rcases hpursued with hs | ha | hn
    · exact hs
    · rw [hactive] at ha
      cases ha
    · exact absurd hidle hn
  have htake : serviceStep s (.worker .take)
      = { s with signals := s.signals - 1, worker := .loaded policy s.reconnectAttempts } := by
    simp [serviceStep, workerStep, hidle, h0, driveReconnect, hactive, hpolicy, hauto, hbudget, setWorker]
  have hcur : (currentReconnectDispatchId s.dispatch).isSome = true := by
    have hpc : s.policy.isSome = (currentReconnectDispatchId s.dispatch).isSome := h.policy_current
    rw [← hpc, hpolicy]
    rfl
  obtain ⟨origin, horigin⟩ := isSome_iff_exists.mp hcur
  rw [run_cons, htake, run_cons, run_nil]
  simp only [serviceStep, workerStep, horigin]
  rfl

/-- A failure that is handled goes on exactly if it asks for a retry. -/
theorem pursued_after_failure {event : EngineStatusEvent} {nowMs : Int} {id : Bytes} {error : VpnError}
    (hev : handledStatus s event nowMs = some (.failed id error)) (h0 : s.signals = 0) (hidle : s.worker = .idle) :
    Pursued (serviceStep s (.forwarder (.status event nowMs))) ↔ isRetryableDisconnect error = true := by
  unfold handledStatus at hev
  split at hev
  · rename_i hpc
    simp only at hev
    split at hev
    · rename_i hsome
      have hev' : normalizeUnexpectedStop event s.composition = .failed id error := some.inj hev
      rw [hev'] at hsome
      obtain ⟨c, hc⟩ := isSome_iff_exists.mp hsome
      have hstep : serviceStep s (.forwarder (.status event nowMs))
          = noteStatus (s.setComposition c) (s.composition.phase = .connected) (.failed id error) := by
        simp [serviceStep, forwarderStep, hpc.1, handleStatus, hpc.2, hev', hc]
      rw [hstep]
      simp only [noteStatus]
      split
      · rename_i herror
        simp [Pursued, herror]
      · rename_i herror
        simp [Pursued, herror, setComposition, h0, hidle]
    · cases hev
  · cases hev

end HostReconnectAux

open HostReconnectAux

/-- In a run in which every attempt that fails after the drop is reported as a drop of the data plane, a session that wants
another attempt has one signalled, being started or in flight; when the worker is free it starts the next, and the attempts
that were started are numbered from one on with the delays of their numbers. Each single failure goes on exactly if its error
asks for a retry, and none that the engine reports for an assembly does. -/
theorem reconnect_uses_budget (base cap : Nat) (labels : List ServiceLabel)
    (h : Along serviceStep keepsReconnecting (initial base cap) labels) :
    let s := run serviceStep (initial base cap) labels
    (∀ policy, WantsAttempt s policy → Pursued s ∧ (s.worker = .idle → s.reconnectActive = false →
      (run serviceStep s [.worker .take, .worker .start]).history.started = nextAttempt s policy :: s.history.started)) ∧
    (∀ policy, s.policy = some policy →
      Numbered policy s.backoffBase s.backoffCap s.reconnectAttempts s.history.started) ∧
    (∀ event nowMs id error, handledStatus s event nowMs = some (.failed id error) → s.signals = 0 → s.worker = .idle →
      (Pursued (serviceStep s (.forwarder (.status event nowMs))) ↔ isRetryableDisconnect error = true)) ∧
    ∀ err, isRetryableDisconnect (tunnelErrorToWire err) = false := by
  intro s
  have hs : s.reconnectView.Sound := by
    refine invariant_of_along (I := fun s : ServiceState => s.reconnectView.Sound) reconnectSound_serviceStep ?_ h
    refine ⟨rfl, live_of_not_dropped rfl, ?_, ?_⟩
    · rintro p n ⟨⟩
    · rintro p ⟨⟩
  refine ⟨?_, hs.numbered, ?_, fun err => by simp [isRetryableDisconnect, tunnelErrorToWire]⟩
  · intro policy hw
    exact ⟨pursued_of_wants hs hw, starts_next hs hw⟩
  · intro event nowMs id error hev h0 hidle
    exact pursued_after_failure hev h0 hidle

namespace HostReconnectAux

/-- Reconnects are on, three attempts at most, with backoff. -/
def threeAttempts : ReconnectSessionPolicy := ⟨true, 3, true⟩

/-- The way of an attempt to the engine. -/
def dispatched (id : Nat) : List ServiceLabel :=
  [.attempt id .routeLock, .attempt id (.routeReturn true), .attempt id .routeCheck, .attempt id .routeTarget,
    .attempt id .statusReady, .attempt id .engineLock, .attempt id .beforeApply, .attempt id (.applyReply true)]

/-- The user connects, the tunnel is established and drops, and the worker starts the first attempt. -/
def firstAttempt : List ServiceLabel :=
  [.forwarder .read, .forwarder .attachOk, .connect (replicate 16 1) threeAttempts] ++ dispatched 0 ++
    [.forwarder (.status (.connected (replicate 16 1) (some 1)) 1),
      .forwarder (.status (.failed (replicate 16 1) dataPlaneDropError) 2),
      .worker .take, .worker .start, .worker (.wake (replicate 16 2))]

/-- The first attempt gets to the engine, and the engine reports that it has failed. -/
def firstAttemptFails (error : VpnError) : List ServiceLabel :=
  firstAttempt ++ dispatched 1 ++ [.worker .finish, .forwarder (.status (.failed (replicate 16 2) error) 3)]

/-- The first attempt fails in the host, before it gets to the engine. -/
def firstAttemptNotRouted : List ServiceLabel :=
  firstAttempt ++ [.attempt 1 .routeLock, .attempt 1 (.routeReturn false), .attempt 1 .routeCheck, .attempt 1 .fail,
    .worker .finish]

end HostReconnectAux

/-- The first attempt is reported as a drop: a second one, with twice the delay, is started. -/
theorem reconnect_uses_budget_second_attempt :
    let s := run serviceStep (initial 2000000000 30000000000) (firstAttemptFails dataPlaneDropError)
    WantsAttempt s threeAttempts ∧
      (run serviceStep s [.worker .take, .worker .start]).history.started = [⟨2, 4000000000⟩, ⟨1, 2000000000⟩] := by
  intro s
  have hw : WantsAttempt s threeAttempts := ⟨rfl, rfl, rfl, rfl⟩
  have h := reconnect_uses_budget 2000000000 30000000000 (firstAttemptFails dataPlaneDropError) (by decide +kernel)
  exact ⟨hw, (h.1 threeAttempts hw).2 rfl rfl⟩

/-- The first of three attempts fails with a transport error of the engine, or is not routed: the session wants another attempt
and nobody is going to make it. -/
theorem reconnect_stops_after_first_failure :
    let s := run serviceStep (initial 2000000000 30000000000)
      (firstAttemptFails (tunnelErrorToWire ⟨.transport, .connectingControl, 0⟩))
    let s' := run serviceStep (initial 2000000000 30000000000) firstAttemptNotRouted
    (WantsAttempt s threeAttempts ∧ s.reconnectAttempts = 1 ∧ ¬ Pursued s) ∧
      WantsAttempt s' threeAttempts ∧ s'.reconnectAttempts = 1 ∧ ¬ Pursued s' := by
  refine ⟨⟨⟨rfl, rfl, rfl, rfl⟩, rfl, ?_⟩, ⟨rfl, rfl, rfl, rfl⟩, rfl, ?_⟩
  · rintro (h | h | h)
    · exact h rfl
    · cases h
    · exact h rfl
  · rintro (h | h | h)
    · exact h rfl
    · cases h
    · exact h rfl

/-! ## The delay -/

/-- The loop doubles while it is below the cap, and stops below the cap only for want of fuel. -/
theorem doublings_spec (cap fuel growth : Nat) :
    (∀ k < doublings cap fuel growth, growth * 2 ^ k < cap) ∧
      (doublings cap fuel growth = fuel ∨ cap ≤ growth * 2 ^ doublings cap fuel growth) := by
  induction fuel generalizing growth with
  | zero => exact ⟨fun _ h => absurd h (Nat.not_lt_zero _), .inl rfl⟩
  | succ fuel ih =>
    rw [doublings]
    split
    · rename_i hlt
      obtain ⟨hbelow, hstop⟩ := ih (growth <<< 1)
      have hdouble (k : Nat) : growth <<< 1 * 2 ^ k = growth * 2 ^ (k + 1) := by
        rw [Nat.shiftLeft_eq, Nat.pow_one, Nat.mul_assoc, Nat.pow_succ, Nat.mul_comm 2]
      rw [hdouble] at hstop
      refine ⟨fun k hk => ?_, hstop.imp_left (congrArg (· + 1))⟩
      cases k with
      | zero => simpa using hlt
      | succ k => exact hdouble k ▸ hbelow k (Nat.lt_of_succ_lt_succ hk)
    · exact ⟨fun _ h => absurd h (Nat.not_lt_zero _), .inr (by simpa using ‹¬growth < cap›)⟩

/-- The delay is the base doubled for each attempt but the first, up to the cap; nothing that is computed on the way exceeds the
128 bits of the code's numbers. -/
theorem backoff_exact {base cap attempt : Nat} (hbase : 1 ≤ base) (hwide : base < 2 ^ 128) (hcap : cap < 2 ^ 63) :
    reconnectBackoffDelay base cap attempt = min (base * 2 ^ (attempt - 1)) cap ∧
      ∀ k ≤ doublings cap 63 base, base <<< k < 2 ^ 128 := by
  obtain ⟨hbelow, hstop⟩ := doublings_spec cap 63 base
  have hreached : cap ≤ base * 2 ^ doublings cap 63 base := by
    rcases hstop with hfuel | hreached
    · rw [hfuel]
      omega
    · exact hreached
  constructor
  · have hmin : min (base <<< min (attempt - 1) (doublings cap 63 base)) cap = min (base * 2 ^ (attempt - 1)) cap := by
      rw [Nat.shiftLeft_eq]
      rcases Nat.le_total (attempt - 1) (doublings cap 63 base) with hle | hle
      · rw [Nat.min_eq_left hle]
      · have hmono := Nat.mul_le_mul_left base (Nat.pow_le_pow_right (by decide : 0 < 2) hle)
        rw [Nat.min_eq_right hle, Nat.min_eq_right hreached, Nat.min_eq_right (Nat.le_trans hreached hmono)]
    have hfits : min (base * 2 ^ (attempt - 1)) cap < 1 <<< 64 :=
      Nat.lt_of_le_of_lt (Nat.min_le_right _ _) (Nat.lt_trans hcap (by decide))
    simp only [reconnectBackoffDelay, hmin, if_pos hfits]
  · intro k hk
    rw [Nat.shiftLeft_eq]
    cases k with
    | zero => simpa using hwide
    | succ k =>
      have hlt := hbelow k (Nat.lt_of_succ_le hk)
      rw [Nat.pow_succ, ← Nat.mul_assoc]
      omega

/-- The fifth attempt of the product waits for the cap of 30 seconds. -/
theorem backoff_exact_fifth : reconnectBackoffDelay 2000000000 30000000000 5 = 30000000000 :=
  (backoff_exact (by decide) (by decide) (by decide)).1

end ExvVpn.Win32Host
