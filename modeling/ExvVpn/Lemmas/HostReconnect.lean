import ExvVpn.Lemmas.HostSnapshot

/-! # The reconnect loop over a run

After an established tunnel has dropped, a session with budget left always has somebody working on the next attempt: a signal
that waits, the worker, or an attempt in flight. The invariant is stated on the loop's part of the state. -/

namespace ExvVpn.Win32Host

open Host Wire Transition Function Option ServiceState

/-- The part of the state that the reconnect loop consists of. -/
structure ReconnectView where
  /-- The attempt that was admitted last, unless it is cancelled. -/
  current : Option Nat
  policy : Option ReconnectSessionPolicy
  attempts : Nat → Option ConnectPc
  count : Nat
  active : Bool
  signals : Nat
  worker : WorkerPc
  dropped : Bool
  started : List StartedAttempt
  base : Nat
  cap : Nat

def ServiceState.reconnectView (s : ServiceState) : ReconnectView :=
  ⟨currentReconnectDispatchId s.dispatch, s.policy, s.attempts, s.reconnectAttempts, s.reconnectActive, s.signals, s.worker,
    s.history.dropped, s.history.started, s.backoffBase, s.backoffCap⟩

/-- The attempts that were started have the numbers from one on, and their delays are the ones of their numbers. -/
def Numbered (policy : ReconnectSessionPolicy) (base cap : Nat) : Nat → List StartedAttempt → Prop
  | 0, [] => True
  | n + 1, attempt :: rest =>
    attempt = ⟨n + 1, if policy.backoff then reconnectBackoffDelay base cap (n + 1) else 0⟩ ∧
      Numbered policy base cap n rest
  | _, _ => False

/-- The attempt has not failed where it stands. -/
def ConnectPc.onTrack : ConnectPc → Bool
  | .failing => false
  | .routeDone ok => ok
  | _ => true

variable (v : ReconnectView)

/-- The worker is at an attempt that can still succeed, or the last one is in flight. -/
def ReconnectView.WorkerLive : Prop :=
  match v.worker with
  | .idle => v.active = true
  | .loaded _ _ => True
  | .sleeping origin => v.active = true ∧ v.current = some origin
  | .connecting id => v.active = true ∧ v.current = some id ∧ ∃ pc, v.attempts id = some pc ∧ pc.onTrack = true
  | .returned result => v.active = true ∧ result = .ok

/-- The session wants another attempt: its tunnel has dropped, and its policy has budget left. -/
def ReconnectView.Wants : Prop :=
  v.dropped = true ∧ ∃ policy, v.policy = some policy ∧ policy.autoReconnect = true ∧ policy.exhausted v.count = false

/-- What the reconnect loop keeps. -/
structure ReconnectView.Sound : Prop where
  policy_current : v.policy.isSome = v.current.isSome
  live : v.Wants → v.signals = 0 → v.WorkerLive
  loaded : ∀ policy n, v.worker = .loaded policy n → n = v.count ∧ ∀ p, v.policy = some p → p = policy
  numbered : ∀ policy, v.policy = some policy → Numbered policy v.base v.cap v.count v.started

/-- The event that the forwarder handles, if it is not dropped. -/
def handledStatus (s : ServiceState) (event : EngineStatusEvent) (nowMs : Int) : Option EngineStatusEvent :=
  if s.forwarder.pc = .streaming ∧ s.generation = s.forwarder.generation then
    let event := normalizeUnexpectedStop event s.composition
    if (runtimeEventFromStatus s.composition event nowMs).isSome then some event else none
  else none

/-- By the step the attempt fails in the host. -/
def failsAttempt (s : ServiceState) (id : Nat) : AttemptLabel → Bool
  | .provisionRebind authorized => !authorized
  | .routeReturn ok => !ok
  | .routeTarget => match s.attempts id with
    | some (.routed target) => s.generation ≠ target
    | _ => false
  | .statusNotReady => true
  | .prepareError => true
  | .beforeApply => match s.attempts id with
    | some (.preparing target) => !(s.generation = target && s.attachment.readyFor target)
    | _ => false
  | .applyReply ok => !ok
  | .fail => true
  | _ => false

/-- The worker is between its reading of the number of attempts and its increment. -/
def WorkerPc.isLoaded : WorkerPc → Bool
  | .loaded _ _ => true
  | _ => false

/-- A step after which the loop goes on: once the tunnel has dropped, an attempt fails only by a report that asks for a retry,
and the number of attempts is not reset between the worker's reading and its increment. -/
def keepsReconnecting (s : ServiceState) : ServiceLabel → Prop
  | .connect _ _ => s.worker.isLoaded = false
  | .attempt id label =>
    s.history.dropped = true → s.worker = .connecting id → isCurrent s.dispatch id = true → failsAttempt s id label = false
  | .forwarder (.status event nowMs) => match handledStatus s event nowMs with
    | some (.connected _ _) => s.worker.isLoaded = false
    | some (.failed _ error) => s.history.dropped = true → isRetryableDisconnect error = true
    | some (.stopped _) => s.history.dropped = false
    | _ => True
  | .worker (.wake _) => match s.worker with
    | .sleeping origin =>
      s.history.dropped = true → isCurrent s.dispatch origin = true → s.composition.actor.connectRefusal = none
    | _ => True
  | _ => True

instance (s : ServiceState) (label : ServiceLabel) : Decidable (keepsReconnecting s label) := by
  unfold keepsReconnecting
  repeat' split
  all_goals infer_instance

namespace HostReconnectAux

variable {v} {s : ServiceState}

/-! ## The current attempt -/

theorem isCurrent_iff_current {dispatch : Option ConnectDispatch} {id : Nat} :
    isCurrent dispatch id = true ↔ currentReconnectDispatchId dispatch = some id := by
  cases dispatch with
  | none => simp [isCurrent, currentReconnectDispatchId]
  | some state => cases hc : state.cancelled <;> simp [isCurrent, currentReconnectDispatchId, hc]

/-- A change of the record that keeps identity and cancellation is not seen. -/
theorem view_map (s : ServiceState) {f : ConnectDispatch → ConnectDispatch} (hid : ∀ state, (f state).id = state.id)
    (hc : ∀ state, (f state).cancelled = state.cancelled) :
    ({ s with dispatch := s.dispatch.map f } : ServiceState).reconnectView = s.reconnectView := by
  have hcur : currentReconnectDispatchId (s.dispatch.map f) = currentReconnectDispatchId s.dispatch := by
    cases s.dispatch <;> simp [currentReconnectDispatchId, hid, hc]
  simp only [reconnectView, hcur]

/-- Without a dropped tunnel nothing has to go on. -/
theorem live_of_not_dropped (h : v.dropped = false) : v.Wants → v.signals = 0 → v.WorkerLive := by
  intro hw
  rw [hw.1] at h
  cases h

/-- A signal that waits is enough. -/
theorem live_of_signals {n : Nat} (h : v.signals = n + 1) : v.Wants → v.signals = 0 → v.WorkerLive := by
  intro _ h0
  rw [h0] at h
  cases h

/-! ## Steps of attempts -/

/-- An attempt moves on; the one of the worker, if it was on its track, stays there. -/
theorem sound_setAttempt (h : v.Sound) {id : Nat} {pc : ConnectPc}
    (hpc : v.dropped = true → v.worker = .connecting id → v.current = some id →
      (∀ old, v.attempts id = some old → old.onTrack = true) → pc.onTrack = true) :
    ReconnectView.Sound { v with attempts := update v.attempts id (some pc) } where
  __ := h
  live := by
    intro hw h0
    have hlive : v.WorkerLive := h.live hw h0
    unfold ReconnectView.WorkerLive at hlive ⊢
    cases hworker : v.worker with
    | connecting id' =>
      rw [hworker] at hlive
      obtain ⟨hactive, hcur, pc', hpc', htrack⟩ := hlive
      refine ⟨hactive, hcur, ?_⟩
      by_cases hid : id' = id
      · subst hid
        refine ⟨pc, update_self .., hpc hw.1 hworker hcur ?_⟩
        intro old hold
        rw [hold] at hpc'
        exact some.inj hpc' ▸ htrack
      · exact ⟨pc', by rw [← hpc']; exact update_of_ne hid .., htrack⟩
    | _ =>
      rw [hworker] at hlive
      exact hlive

/-- An attempt returns; the one of the worker returns with success. -/
theorem sound_endAttempt (h : v.Sound) {id : Nat} {result : ConnectResult}
    (hres : v.dropped = true → v.worker = .connecting id → v.current = some id → result = .ok) :
    ReconnectView.Sound { v with
      attempts := update v.attempts id none
      worker := if v.worker = .connecting id then .returned result else v.worker } := by
  refine { h with live := fun hw h0 => ?_, loaded := fun policy n hloaded => ?_ }
  · have hlive : v.WorkerLive := h.live hw h0
    unfold ReconnectView.WorkerLive at hlive ⊢
    by_cases hworker : v.worker = .connecting id
    · rw [hworker] at hlive
      simp only [if_pos hworker]
      exact ⟨hlive.1, hres hw.1 hworker hlive.2.1⟩
    simp only [if_neg hworker]
    cases hworker' : v.worker with
    | connecting id' =>
      rw [hworker'] at hlive hworker
      obtain ⟨hactive, hcur, pc, hpc, htrack⟩ := hlive
      have hne : id' ≠ id := fun hid => hworker (by rw [hid])
      exact ⟨hactive, hcur, pc, by rw [← hpc]; exact update_of_ne hne .., htrack⟩
    | _ =>
      rw [hworker'] at hlive
      exact hlive
  · by_cases hworker : v.worker = .connecting id
    · simp only [if_pos hworker] at hloaded
      cases hloaded
    · simp only [if_neg hworker] at hloaded
      exact h.loaded policy n hloaded

/-- A manual attempt is given up. -/
theorem sound_abandon (h : v.Sound) {id : Nat} (hworker : v.worker ≠ .connecting id) :
    ReconnectView.Sound { v with attempts := update v.attempts id none } := by
  have hend := @sound_endAttempt v h id .error (fun _ hw => absurd hw hworker)
  rwa [if_neg hworker] at hend

theorem applyConnectFailedForRoute_view (s : ServiceState) (id : Nat) :
    (applyConnectFailedForRoute s id).reconnectView = s.reconnectView := by
  unfold applyConnectFailedForRoute
  split <;> rfl

theorem stopStep_view (s : ServiceState) (key : Nat) (label : StopLabel) :
    (stopStep s key label).reconnectView = s.reconnectView := by
  have hfinish : ∀ call, (finishLocalStop s call).reconnectView = s.reconnectView := by
    intro call
    unfold finishLocalStop
    split
    · rfl
    · exact view_map s (fun _ => rfl) fun _ => rfl
  unfold stopStep
  split
  · rfl
  split
  case h_4 => exact hfinish _
  all_goals repeat' split
  all_goals rfl

variable (h : s.reconnectView.Sound)
include h

/-- What a step of an attempt makes of the loop, when the attempt of the worker does not fail by it. -/
theorem sound_attemptStep {id : Nat} {label : AttemptLabel}
    (hg : keepsReconnecting s (.attempt id label)) : (attemptStep s id label).reconnectView.Sound := by
  -- on the attempt of the worker the guard speaks, and the attempt is still on its track
  have hcurrent : s.reconnectView.current = some id → isCurrent s.dispatch id = true := isCurrent_iff_current.mpr
  have hguard : s.history.dropped = true → s.worker = .connecting id → s.reconnectView.current = some id →
      failsAttempt s id label = false := fun hd hw hc => hg hd hw (hcurrent hc)
  have hmove {pc : ConnectPc} (hpc : pc.onTrack = true) := @sound_setAttempt _ h id pc fun _ _ _ _ => hpc
  have hfail {pc : ConnectPc} (hfails : failsAttempt s id label = true) :=
    @sound_setAttempt _ h id pc fun hd hw hc _ => absurd hfails (by simp [hguard hd hw hc])
  have hgone {result : ConnectResult} (hcur : isCurrent s.dispatch id ≠ true) :=
    @sound_endAttempt _ h id result fun _ _ hc => absurd (hcurrent hc) hcur
  unfold attemptStep
  split
  case h_1 | h_10 =>
    split
    · exact hmove rfl
    · exact hgone ‹_›
  case h_3 authorized _ _ =>
    split
    · exact hmove rfl
    · exact hfail (by simp [failsAttempt, *])
  case h_5 ok _ =>
    refine sound_setAttempt h (fun hd hw hc _ => ?_)
    have hf := hguard hd hw hc
    simp only [failsAttempt, Bool.not_eq_false'] at hf
    exact hf
  case h_6 ok hpc =>
    split
    · rename_i hcur
      exact hgone (Bool.eq_false_iff.mp hcur)
    split
    · exact hmove rfl
    · rename_i hok
      exact sound_setAttempt h (fun _ _ _ hold => absurd (hold _ hpc) hok)
  case h_7 target hpc =>
    split
    · exact hfail (by simp [failsAttempt, *])
    split
    · have hview : (s.setTarget target).reconnectView = s.reconnectView := view_map s (fun _ => rfl) fun _ => rfl
      have h' : (s.setTarget target).reconnectView.Sound := hview ▸ h
      exact sound_setAttempt h' (fun _ _ _ _ => rfl)
    · exact hgone ‹_›
  case h_8 =>
    split
    · rename_i hcur
      exact hgone (Bool.eq_false_iff.mp hcur)
    split
    · exact hmove rfl
    · exact h
  case h_9 =>
    split
    · exact hfail rfl
    · exact hgone ‹_›
  case h_11 => exact hfail rfl
  case h_12 target hpc =>
    split
    · have hview : (markApplied s).reconnectView = s.reconnectView := view_map s (fun _ => rfl) fun _ => rfl
      have h' : (markApplied s).reconnectView.Sound := hview ▸ h
      exact sound_setAttempt h' (fun _ _ _ _ => rfl)
    rename_i hmay
    refine sound_setAttempt h (fun hd hw hc _ => ?_)
    have hf := hguard hd hw hc
    simp only [failsAttempt, hpc, Bool.not_eq_false', Bool.and_eq_true, decide_eq_true_eq] at hf
    refine absurd ?_ hmay
    simp [mayApply, hcurrent hc, hf.1, hf.2]
  case h_13 ok _ =>
    split
    · exact sound_endAttempt h (fun _ _ _ => rfl)
    · exact hfail (by simp [failsAttempt, *])
  case h_14 =>
    have h' : (applyConnectFailedForRoute s id).reconnectView.Sound := by
      rw [applyConnectFailedForRoute_view]
      exact h
    refine sound_endAttempt h' ?_
    rw [applyConnectFailedForRoute_view]
    intro hd hw hc
    exact absurd (hguard hd hw hc) (by simp [failsAttempt])
  case h_15 =>
    split
    · exact h
    · exact sound_abandon h ‹_›
  case h_16 => exact h
  all_goals exact hmove rfl

/-! ## Admission, stop and status -/

/-- The user connects: a new session, whose tunnel has not dropped. -/
theorem sound_connect {key : Bytes} {policy : ReconnectSessionPolicy}
    (hg : s.worker.isLoaded = false) : (admitConnect s key (some policy) none).1.reconnectView.Sound := by
  unfold admitConnect
  simp only [any_none, Bool.false_eq_true, if_false]
  split
  · exact h
  constructor
  case policy_current => rfl
  case live => exact live_of_not_dropped rfl
  case loaded =>
    intro p n hloaded
    have hw : s.worker = .loaded p n := hloaded
    rw [hw] at hg
    cases hg
  case numbered =>
    intro p _
    exact trivial

/-- The user stops: the session is over. -/
theorem sound_stop (key : Bytes) : (acceptStop s key).reconnectView.Sound where
  policy_current := by
    show isSome none = (currentReconnectDispatchId (s.dispatch.map _)).isSome
    cases s.dispatch <;> rfl
  live := live_of_not_dropped rfl
  loaded := by
    intro p n hloaded
    refine ⟨(h.loaded p n hloaded).1, ?_⟩
    intro q hq
    cases hq
  numbered := by
    intro p hp
    cases hp

/-- The loop takes note of an event that is handled. -/
theorem sound_noteStatus {wasConnected : Bool} {event : EngineStatusEvent}
    (hg : match event with
      | .connected _ _ => s.worker.isLoaded = false
      | .failed _ error => s.history.dropped = true → isRetryableDisconnect error = true
      | .stopped _ => s.history.dropped = false
      | .progress _ _ => True) : (noteStatus s wasConnected event).reconnectView.Sound := by
  cases event with
  | progress _ _ => exact h
  | connected _ _ =>
    constructor
    case policy_current => exact h.policy_current
    case live => exact live_of_not_dropped rfl
    case loaded =>
      intro p n hloaded
      have hw : s.worker = .loaded p n := hloaded
      simp only [hw] at hg
      cases hg
    case numbered =>
      intro p _
      exact trivial
  | failed _ error =>
    simp only [noteStatus]
    split
    · exact { h with live := live_of_signals rfl }
    rename_i herror
    have hd : s.history.dropped = false := by
      by_contra hd
      exact herror (hg (by simpa using hd))
    exact { h with live := live_of_not_dropped hd }
  | stopped _ => exact { h with live := live_of_not_dropped hg }

theorem sound_forwarderStep {label : ForwarderLabel}
    (hg : keepsReconnecting s (.forwarder label)) : (forwarderStep s label).reconnectView.Sound := by
  unfold forwarderStep
  split
  case h_7 event nowMs hpc =>
    unfold handleStatus
    split
    · exact h
    rename_i hgen
    simp only
    split
    · exact h
    rename_i c hc
    have hhandled : handledStatus s event nowMs = some (normalizeUnexpectedStop event s.composition) := by
      simp [handledStatus, hpc, not_not.mp hgen, hc]
    simp only [keepsReconnecting, hhandled] at hg
    have hs : (s.setComposition c).reconnectView.Sound := h
    refine sound_noteStatus hs ?_
    generalize normalizeUnexpectedStop event s.composition = ev at hg
    cases ev <;> exact hg
  case h_9 =>
    unfold convergeDisconnected
    split <;> exact h
  all_goals repeat' split
  all_goals exact h

/-! ## Steps of the worker -/

/-- The worker takes a signal. -/
theorem sound_take (hidle : s.worker = .idle) :
    (driveReconnect { s with signals := s.signals - 1 }).reconnectView.Sound := by
  unfold driveReconnect
  split
  · rename_i hactive
    refine { h with live := fun _ _ => ?_ }
    -- an attempt is in flight
    simp only [reconnectView, hidle]
    exact hactive
  split
  · rename_i hnone
    refine { h with live := fun hw _ => ?_ }
    obtain ⟨_, p, hp, _⟩ := hw
    cases hp.symm.trans hnone
  rename_i policy hpolicy
  split
  · rename_i hauto
    refine { h with live := fun hw _ => ?_ }
    obtain ⟨_, p, hp, hauto', _⟩ := hw
    obtain rfl : p = policy := some.inj (hp.symm.trans hpolicy)
    cases hauto.symm.trans hauto'
  split
  · rename_i hexhausted
    refine { h with live := fun hw _ => ?_ }
    obtain ⟨_, p, hp, _, hleft⟩ := hw
    obtain rfl : p = policy := some.inj (hp.symm.trans hpolicy)
    cases hexhausted.symm.trans hleft
  · refine ⟨h.policy_current, fun _ _ => trivial, ?_, h.numbered⟩
    intro p n hloaded
    obtain ⟨rfl, rfl⟩ : policy = p ∧ s.reconnectAttempts = n := WorkerPc.loaded.inj hloaded
    exact ⟨rfl, fun q hq => some.inj (hq.symm.trans hpolicy)⟩

/-- The worker starts an attempt. -/
theorem sound_start {policy : ReconnectSessionPolicy} {n origin : Nat}
    (hloaded : s.worker = .loaded policy n) (hcur : currentReconnectDispatchId s.dispatch = some origin) :
    (startReconnect s policy n origin).reconnectView.Sound := by
  obtain ⟨hn, hpolicy⟩ := h.loaded policy n hloaded
  refine ⟨h.policy_current, fun _ _ => ⟨rfl, hcur⟩, ?_, ?_⟩
  · intro p m hworker
    cases hworker
  · intro p hp
    obtain rfl : p = policy := hpolicy p hp
    subst hn
    exact ⟨rfl, h.numbered p hp⟩

/-- Without a current attempt there is no session that wants one. -/
theorem sound_start_none (hcur : currentReconnectDispatchId s.dispatch = none) :
    (s.setWorker .idle).reconnectView.Sound := by
  refine ⟨h.policy_current, fun hw _ => ?_, ?_, h.numbered⟩
  · obtain ⟨_, p, hp, _⟩ := hw
    have hsome : s.policy.isSome = (currentReconnectDispatchId s.dispatch).isSome := h.policy_current
    have hp' : s.policy = some p := hp
    rw [hp', hcur] at hsome
    cases hsome
  · intro p m hworker
    cases hworker

/-- The worker wakes, and its attempt is admitted, superseded or refused. -/
theorem sound_wake {origin : Nat} (hsleep : s.worker = .sleeping origin) {key : Bytes}
    (hg : keepsReconnecting s (.worker (.wake key))) : (workerStep s (.wake key)).reconnectView.Sound := by
  simp only [keepsReconnecting, hsleep] at hg
  -- while the session wants an attempt and no signal waits, the origin of the worker is current
  have hcur : s.reconnectView.Wants → s.reconnectView.signals = 0 →
      s.reconnectActive = true ∧ isCurrent s.dispatch origin = true := by
    intro hw h0
    have hlive := h.live hw h0
    simp only [reconnectView, hsleep] at hlive
    exact ⟨hlive.1, isCurrent_iff_current.mpr hlive.2⟩
  have hidle : ∀ result, (s.reconnectView.Wants → s.reconnectView.signals = 0 → False) →
      (s.setWorker (.returned result)).reconnectView.Sound := by
    intro result hno
    refine ⟨h.policy_current, fun hw h0 => (hno hw h0).elim, ?_, h.numbered⟩
    intro p m hworker
    cases hworker
  simp only [workerStep, hsleep]
  unfold admitConnect
  by_cases hexp : isCurrent s.dispatch origin = true
  · simp only [any_some, hexp, Bool.not_true, Bool.false_eq_true, if_false]
    cases href : s.composition.actor.connectRefusal with
    | some refusal =>
      refine hidle .error (fun hw _ => ?_)
      rw [hg hw.1 hexp] at href
      cases href
    | none =>
      have hsome : s.policy.isSome = true := by
        rw [show s.policy.isSome = (currentReconnectDispatchId s.dispatch).isSome from h.policy_current,
          isCurrent_iff_current.mp hexp]
        rfl
      refine ⟨hsome, fun hw h0 => ⟨(hcur hw h0).1, rfl, .awaitingRoute, update_self .., rfl⟩, ?_, h.numbered⟩
      intro p m hworker
      cases hworker
  · simp only [any_some, hexp, Bool.not_false, if_true]
    exact hidle .superseded (fun hw h0 => hexp (hcur hw h0).2)

/-- The worker is done with an attempt. -/
theorem sound_finish {result : ConnectResult} (hret : s.worker = .returned result) :
    (workerStep s .finish).reconnectView.Sound := by
  have hlive : s.reconnectView.Wants → s.reconnectView.signals = 0 → s.reconnectActive = true ∧ result = .ok := by
    intro hw h0
    have hlive := h.live hw h0
    simp only [reconnectView, hret] at hlive
    exact hlive
  simp only [workerStep, hret]
  cases result with
  | ok => exact ⟨h.policy_current, fun hw h0 => (hlive hw h0).1, fun _ _ hworker => (by cases hworker), h.numbered⟩
  | superseded | error =>
    exact ⟨h.policy_current, fun hw h0 => absurd (hlive hw h0).2 (by simp), fun _ _ hworker => (by cases hworker),
      h.numbered⟩

theorem sound_workerStep {label : WorkerLabel} (hg : keepsReconnecting s (.worker label)) :
    (workerStep s label).reconnectView.Sound := by
  cases label with
  | take =>
    cases hw : s.worker with
    | idle =>
      simp only [workerStep, hw]
      split
      · exact h
      · have htake := sound_take h hw
        simp only [hw] at htake
        exact htake
    | _ => simpa only [workerStep, hw] using h
  | start =>
    cases hw : s.worker with
    | loaded policy n =>
      simp only [workerStep, hw]
      split
      · rename_i hcur
        exact sound_start_none h hcur
      · rename_i origin hcur
        exact sound_start h hw hcur
    | _ => simpa only [workerStep, hw] using h
  | wake key =>
    cases hw : s.worker with
    | sleeping origin => exact sound_wake h hw hg
    | _ => simpa only [workerStep, hw] using h
  | finish =>
    cases hw : s.worker with
    | returned result => exact sound_finish h hw
    | _ => simpa only [workerStep, hw] using h

end HostReconnectAux

open HostReconnectAux

/-- Every step after which the loop goes on keeps it going. -/
theorem reconnectSound_serviceStep (s : ServiceState) (label : ServiceLabel) (h : s.reconnectView.Sound)
    (hg : keepsReconnecting s label) : (serviceStep s label).reconnectView.Sound := by
  cases label with
  | connect key policy => exact sound_connect h hg
  | attempt id label => exact sound_attemptStep h hg
  | stop key => exact sound_stop h key
  | stopCall key label =>
    simp only [serviceStep, stopStep_view]
    exact h
  | snapshot call label =>
    have hq := queried_snapshotStep s call label
    simp only [serviceStep]
    generalize snapshotStep s call label = s' at hq
    cases hq with
    | asked queries => exact h
    | failed queries _ => exact { h with live := live_of_signals rfl }
  | forwarder label => exact sound_forwarderStep h hg
  | worker label => exact sound_workerStep h hg
  | slotSwap | advanceAttachment => exact h
  | helperLinkTerminal | respawnRebind => exact h
  | transitionIdle | transitionStop => exact h

end ExvVpn.Win32Host
