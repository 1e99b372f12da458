import ExvVpn.Lemmas.HostSnapshot
import ExvVpn.Tools.OptionMap

/-! # The dispatch record over a run

What holds of the record at which connect attempts and stop calls meet: a cancelled attempt never becomes current again, and
the stop that an applied attempt owes stays on the record until a stop has been confirmed. -/

namespace ExvVpn.Win32Host

open Host Wire Transition Function Option ConnectDispatch ServiceState OptionMap

/-- A stop call in progress: one that owes nothing goes straight to its end, any other gets there only by `StopTunnel`. -/
structure StopCall.Sound (call : StopCall) : Prop where
  local_finishing : call.stopRequired = false → call.pc = .finishing ∧ call.stopTunnelSent = false
  sent : call.stopRequired = true → call.pc ≠ .leasing → call.stopTunnelSent = true

/-- The part of the state that connect attempts and stop calls share. -/
structure DispatchView where
  dispatch : Option ConnectDispatch
  nextId : Nat
  stops : Nat → Option StopCall
  cancelRecorded : List Nat
  applied : Bool

/-- The shared part of a state. -/
def ServiceState.dispatchView (s : ServiceState) : DispatchView :=
  ⟨s.dispatch, s.nextId, s.stops, s.history.cancelRecorded, s.history.applied⟩

/-- The record, the stop calls and the history agree. -/
structure DispatchView.Sound (v : DispatchView) : Prop where
  dispatch_lt : ∀ state, v.dispatch = some state → state.id < v.nextId
  recorded_lt : ∀ id ∈ v.cancelRecorded, id < v.nextId
  attempt_lt : ∀ key call, v.stops key = some call → ∀ id, call.attempt = some id → id < v.nextId
  recorded_cancelled : ∀ id ∈ v.cancelRecorded, isCurrent v.dispatch id = false
  applied_owed : v.applied = true → stopOwed v.dispatch = true
  stop_sound : ∀ key call, v.stops key = some call → call.Sound
  /-- The attempt of a stop that owes nothing is cancelled, so it never comes to owe a stop. -/
  local_stop : ∀ key call, v.stops key = some call → call.stopRequired = false →
    ∀ state, v.dispatch = some state → call.attempt = some state.id → state.cancelled = true ∧ state.stopRequired = false
  local_attempt : ∀ key call, v.stops key = some call → call.stopRequired = false → call.attempt ≠ none

namespace HostDispatchAux

variable {v : DispatchView} {s : ServiceState}

/-! ## The record changes -/

/-- A new record: the attempt is fresh, and inherits what is owed. -/
theorem sound_admit (h : v.Sound) :
    DispatchView.Sound { v with
      dispatch := some ⟨v.nextId, false, none, false, stopOwed v.dispatch⟩, nextId := v.nextId + 1 } where
  __ := h
  dispatch_lt := by
    intro state hstate
    obtain rfl := some.inj hstate
    exact Nat.lt_succ_self _
  recorded_lt := by
    intro id hid
    exact Nat.lt_succ_of_lt (h.recorded_lt id hid)
  attempt_lt := by
    intro key call hcall id hid
    exact Nat.lt_succ_of_lt (h.attempt_lt key call hcall id hid)
  recorded_cancelled := by
    intro id hid
    have hlt := h.recorded_lt id hid
    have hne : v.nextId ≠ id := by omega
    simp [isCurrent, hne]
  local_stop := by
    intro key call hcall hreq state hstate hatt
    obtain rfl := some.inj hstate
    exact absurd (h.attempt_lt key call hcall _ hatt) (Nat.lt_irrefl _)

/-- A change of the record that keeps identity and cancellation: what is applied is owed, and a cancelled attempt that owes
nothing comes to owe nothing. -/
theorem sound_map (h : v.Sound) {f : ConnectDispatch → ConnectDispatch} {applied : Bool}
    (hid : ∀ state, (f state).id = state.id) (hc : ∀ state, (f state).cancelled = state.cancelled)
    (happlied : applied = true → stopOwed (v.dispatch.map f) = true)
    (hlocal : ∀ state, v.dispatch = some state → state.cancelled = true → state.stopRequired = false →
      (f state).stopRequired = false) :
    DispatchView.Sound { v with dispatch := v.dispatch.map f, applied } where
  __ := h
  dispatch_lt := by
    intro state hstate
    obtain ⟨old, hold, rfl⟩ := map_eq_some_iff.mp hstate
    rw [hid]
    exact h.dispatch_lt old hold
  recorded_cancelled := by
    intro id hmem
    have hold := h.recorded_cancelled id hmem
    cases hd : v.dispatch with
    | none => rfl
    | some state =>
      rw [hd] at hold
      simpa [isCurrent, hid, hc] using hold
  applied_owed := happlied
  local_stop := by
    intro key call hcall hreq state hstate hatt
    obtain ⟨old, hold, rfl⟩ := map_eq_some_iff.mp hstate
    rw [hid] at hatt
    obtain ⟨hcancelled, howed⟩ := h.local_stop key call hcall hreq old hold hatt
    exact ⟨(hc old).trans hcancelled, hlocal old hold hcancelled howed⟩

/-- A change that leaves what is owed. -/
theorem sound_keep (h : v.Sound) {f : ConnectDispatch → ConnectDispatch} (hid : ∀ state, (f state).id = state.id)
    (hc : ∀ state, (f state).cancelled = state.cancelled)
    (hs : ∀ state, v.dispatch = some state → (f state).stopRequired = state.stopRequired) :
    DispatchView.Sound { v with dispatch := v.dispatch.map f } := by
  refine sound_map h hid hc (fun ha => ?_) fun state hstate _ howed => (hs state hstate).trans howed
  have hold := h.applied_owed ha
  cases hd : v.dispatch with
  | none => rwa [hd] at hold
  | some state =>
    rw [hd] at hold
    exact (hs state hd).trans hold

/-- The current attempt passes the point before `ApplyTunnel`; no stop call without an obligation is about it. -/
theorem sound_markApplied (h : v.Sound) {id : Nat} (hcur : isCurrent v.dispatch id = true) :
    DispatchView.Sound { v with
      dispatch := v.dispatch.map fun state => { state with attemptApplied := true, stopRequired := true }
      applied := true } := by
  obtain ⟨state, hstate, hlive⟩ : ∃ state, v.dispatch = some state ∧ state.cancelled = false := by
    rcases hdispatch : v.dispatch with _ | state <;> simp_all [isCurrent]
  refine sound_map h (fun _ => rfl) (fun _ => rfl) (fun _ => ?_) fun old hold hcancelled _ => ?_
  · rw [hstate]
    rfl
  · obtain rfl : state = old := some.inj (hstate.symm.trans hold)
    rw [hlive] at hcancelled
    cases hcancelled

/-- A stop has been confirmed: nothing is owed any more. -/
theorem sound_confirmed (h : v.Sound) :
    DispatchView.Sound { v with
      dispatch := v.dispatch.map fun state => { state with stopRequired := false }, applied := false } :=
  sound_map h (fun _ => rfl) (fun _ => rfl) nofun fun _ _ _ _ => rfl

/-! ## The stop calls change -/

/-- A stop call moves on without a change of what it read when it was accepted, or returns. -/
theorem sound_setStop (h : v.Sound) {key : Nat} {call : StopCall} (hcall : v.stops key = some call) {next : Option StopCall}
    (hnext : ∀ call', next = some call' →
      call'.Sound ∧ call'.attempt = call.attempt ∧ call'.stopRequired = call.stopRequired) :
    DispatchView.Sound { v with stops := update v.stops key next } := by
  have hfrom : ∀ k c, update v.stops key next k = some c →
      c.Sound ∧ ∃ k' c', v.stops k' = some c' ∧ c.attempt = c'.attempt ∧ c.stopRequired = c'.stopRequired := by
    refine forall_update (fun k c hk _ => ⟨h.stop_sound k c hk, k, c, hk, rfl, rfl⟩) fun c hc => ?_
    obtain ⟨hs, ha, hr⟩ := hnext c hc
    exact ⟨hs, key, call, hcall, ha, hr⟩
  refine { h with
    attempt_lt := fun k c hk id hid => ?_
    stop_sound := fun k c hk => (hfrom k c hk).1
    local_stop := fun k c hk hreq state hstate hatt => ?_
    local_attempt := fun k c hk hreq => ?_ }
  · obtain ⟨_, k', c', hc', ha, _⟩ := hfrom k c hk
    exact h.attempt_lt k' c' hc' id (ha ▸ hid)
  · obtain ⟨_, k', c', hc', ha, hr⟩ := hfrom k c hk
    exact h.local_stop k' c' hc' (hr ▸ hreq) state hstate (ha ▸ hatt)
  · obtain ⟨_, k', c', hc', ha, hr⟩ := hfrom k c hk
    rw [ha]
    exact h.local_attempt k' c' hc' (hr ▸ hreq)

theorem noteStatus_dispatchView (s : ServiceState) (wasConnected : Bool) (event : EngineStatusEvent) :
    (noteStatus s wasConnected event).dispatchView = s.dispatchView := by
  cases event <;> simp only [noteStatus]
  case failed => split <;> rfl
  all_goals rfl

theorem handleStatus_dispatchView (s : ServiceState) (event : EngineStatusEvent) (nowMs : Int) :
    (handleStatus s event nowMs).dispatchView = s.dispatchView := by
  unfold handleStatus
  split
  · rfl
  simp only
  split
  · rfl
  · rw [noteStatus_dispatchView]
    rfl

variable (h : s.dispatchView.Sound)
include h

/-- The end of a stop call that may end. -/
theorem sound_finishLocalStop {key : Nat} {call : StopCall} (hcall : s.stops key = some call)
    (hpc : call.pc = .finishing) : (finishLocalStop s call).dispatchView.Sound := by
  have hsound := h.stop_sound key call hcall
  unfold finishLocalStop
  split
  · exact h
  rename_i hid
  cases hreq : call.stopRequired with
  | true =>
    have hsent : call.stopTunnelSent = true := hsound.sent hreq (by simp [hpc])
    simp only [hsent, if_true]
    exact sound_confirmed h
  | false =>
    have hsent : call.stopTunnelSent = false := (hsound.local_finishing hreq).2
    simp only [hsent, Bool.false_eq_true, if_false]
    -- the record owed nothing already
    refine sound_keep h (fun _ => rfl) (fun _ => rfl) ?_
    intro state hstate
    have hstate' : s.dispatch = some state := hstate
    have hatt : call.attempt = some state.id := by
      rw [← not_not.mp hid, hstate', map_some]
    exact (h.local_stop key call hcall hreq state hstate hatt).2.symm

/-- A stop is accepted. -/
theorem sound_acceptStop (key : Bytes) : (acceptStop s key).dispatchView.Sound := by
  have hlt : ∀ id, s.dispatch.map ConnectDispatch.id = some id → id < s.nextId + 1 := by
    intro id hid
    obtain ⟨state, hstate, rfl⟩ := map_eq_some_iff.mp hid
    exact Nat.lt_succ_of_lt (h.dispatch_lt state hstate)
  constructor
  case dispatch_lt =>
    intro state hstate
    obtain ⟨old, hold, rfl⟩ := map_eq_some_iff.mp hstate
    exact Nat.lt_succ_of_lt (h.dispatch_lt old hold)
  case recorded_lt =>
    intro id hid
    rcases List.mem_append.mp hid with hid | hid
    · exact hlt id (mem_toList.mp hid)
    · exact Nat.lt_succ_of_lt (h.recorded_lt id hid)
  case attempt_lt =>
    exact forall_update_some (fun k c hc id hid => Nat.lt_succ_of_lt (h.attempt_lt k c hc id hid)) hlt
  case recorded_cancelled =>
    intro id _
    -- every attempt is cancelled now
    show isCurrent (s.dispatch.map _) id = false
    cases s.dispatch <;> simp [isCurrent]
  case applied_owed =>
    intro ha
    have hold : stopOwed s.dispatch = true := h.applied_owed ha
    show stopOwed (s.dispatch.map _) = true
    cases hd : s.dispatch <;> rw [hd] at hold <;> exact hold
  case stop_sound =>
    refine forall_update_some h.stop_sound ⟨fun hreq => ?_, fun hreq hpc => absurd (if_pos hreq) hpc⟩
    exact ⟨if_neg (by simpa using hreq), rfl⟩
  case local_stop =>
    refine forall_update_some (fun k c hc hreq state hstate hatt => ?_) fun hreq state hstate _ => ?_
    · obtain ⟨old, hold, rfl⟩ := map_eq_some_iff.mp hstate
      exact ⟨rfl, (h.local_stop k c hc hreq old hold hatt).2⟩
    · obtain ⟨old, hold, rfl⟩ := map_eq_some_iff.mp hstate
      have hold' : s.dispatch = some old := hold
      exact ⟨rfl, by simpa [hold'] using hreq⟩
  case local_attempt =>
    refine forall_update_some h.local_attempt fun hreq => ?_
    cases hd : s.dispatch <;> simp_all

/-! ## The steps of the tasks -/

theorem sound_admitConnect (key : Bytes) (policy : Option ReconnectSessionPolicy)
    (expected : Option Nat) : (admitConnect s key policy expected).1.dispatchView.Sound := by
  unfold admitConnect
  split
  · exact h
  · split
    · exact h
    · cases policy <;> exact sound_admit h

theorem sound_attemptStep (id : Nat) (label : AttemptLabel) : (attemptStep s id label).dispatchView.Sound := by
  unfold attemptStep
  split
  case h_7 =>
    split
    · exact h
    · split
      · exact sound_keep h (fun _ => rfl) (fun _ => rfl) (fun _ _ => rfl)
      · exact h
  case h_12 =>
    split
    · rename_i hmay
      refine @sound_markApplied _ h id ?_
      simp only [mayApply, Bool.and_eq_true] at hmay
      exact hmay.1.1
    · exact h
  case h_14 =>
    unfold applyConnectFailedForRoute
    split <;> exact h
  all_goals repeat' split
  all_goals exact h

theorem sound_stopStep (key : Nat) (label : StopLabel) : (stopStep s key label).dispatchView.Sound := by
  unfold stopStep
  split
  · exact h
  rename_i call hcall
  have hsound := h.stop_sound key call hcall
  split
  · rename_i hpc
    split
    · refine sound_setStop h hcall ?_
      intro call' hcall'
      obtain rfl := some.inj hcall'
      refine ⟨⟨?_, fun _ _ => rfl⟩, rfl, rfl⟩
      intro hreq
      rw [(hsound.local_finishing hreq).1] at hpc
      cases hpc
    · exact sound_setStop h hcall (by simp)
  · rename_i hpc
    refine sound_setStop h hcall ?_
    intro call' hcall'
    obtain rfl := some.inj hcall'
    refine ⟨⟨fun hreq => ⟨rfl, (hsound.local_finishing hreq).2⟩, fun hreq _ => hsound.sent hreq (by simp [hpc])⟩, rfl, rfl⟩
  · exact sound_setStop h hcall (by simp)
  · rename_i hpc
    have hstops : (finishLocalStop s call).stops = s.stops := by
      unfold finishLocalStop
      split <;> rfl
    exact sound_setStop (sound_finishLocalStop h hcall hpc) (show (finishLocalStop s call).stops key = _ by
      rw [hstops, hcall]) (by simp)
  · exact sound_setStop h hcall (by simp)
  · exact h

theorem sound_forwarderStep (label : ForwarderLabel) :
    (forwarderStep s label).dispatchView.Sound := by
  unfold forwarderStep
  split
  case h_7 =>
    rw [handleStatus_dispatchView]
    exact h
  case h_9 =>
    unfold convergeDisconnected
    split <;> exact h
  all_goals repeat' split
  all_goals exact h

theorem sound_workerStep (label : WorkerLabel) :
    (workerStep s label).dispatchView.Sound := by
  unfold workerStep
  split
  case h_1 =>
    unfold driveReconnect
    repeat' split
    all_goals exact h
  case h_3 key origin _ =>
    have hadmit := sound_admitConnect h key none (some origin)
    split <;> rename_i heq <;> rw [heq] at hadmit <;> exact hadmit
  all_goals repeat' split
  all_goals exact h

end HostDispatchAux

open HostDispatchAux

/-- Every step of the service keeps record, stop calls and history in agreement. -/
theorem dispatchSound_serviceStep (s : ServiceState) (label : ServiceLabel) (h : s.dispatchView.Sound) :
    (serviceStep s label).dispatchView.Sound := by
  cases label with
  | connect key policy => exact sound_admitConnect h key (some policy) none
  | attempt id label => exact sound_attemptStep h id label
  | stop key => exact sound_acceptStop h key
  | stopCall key label => exact sound_stopStep h key label
  | snapshot call label =>
    have hq := queried_snapshotStep s call label
    simp only [serviceStep]
    generalize snapshotStep s call label = s' at hq
    cases hq <;> exact h
  | forwarder label => exact sound_forwarderStep h label
  | worker label => exact sound_workerStep h label
  | slotSwap | advanceAttachment => exact h
  | helperLinkTerminal | respawnRebind => exact h
  | transitionIdle | transitionStop => exact h

/-- They agree in every state of every run. -/
theorem dispatchSound_run (base cap : Nat) (labels : List ServiceLabel) :
    (run serviceStep (initial base cap) labels).dispatchView.Sound := by
  refine invariant_of_run (I := fun s : ServiceState => s.dispatchView.Sound) dispatchSound_serviceStep ?_ labels
  constructor <;> intros <;> simp_all [dispatchView, initial]

end ExvVpn.Win32Host
