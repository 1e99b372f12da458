import ExvVpn.Lemmas.HostSnapshot

/-! # How the composition of the host moves

What one step of the service can do to the composition, and what those moves keep: a host that is stopping waits for the data
side of a fresh barrier, and a barrier that was released has opened admission again. -/

namespace ExvVpn.Win32Host

open Host Wire Transition Option Host.HostComposition ServiceState

/-- A step after which admission is not lost: the end of a status stream is not handled while the host is stopping, and the
process of the engine does not die. -/
def keepsAdmission (s : ServiceState) : ServiceLabel → Prop
  | .forwarder .converge =>
    s.forwarder.pc = .disconnecting → s.generation = s.forwarder.generation → s.composition.phase ≠ .stopping
  | .helperLinkTerminal => False
  | _ => True

instance (s : ServiceState) (label : ServiceLabel) : Decidable (keepsAdmission s label) := by
  unfold keepsAdmission
  split <;> infer_instance

/-- What a step of the service that keeps admission does to the composition. -/
inductive Move (c : HostComposition) : HostComposition → Prop
  | refl : Move c c
  | connect (operation : Option OperationId) : Move c ((c.after .connect).registerOperation operation)
  | stop (operation : Option OperationId) :
    Move c (((c.after .disconnect).after (.teardownSideJoined .protocolControl)).registerOperation operation)
  | failed (error : VpnError) : Move c ((c.setLastWireError error).after (.connectFailed error))
  | finish : Move c c.synthesizeDataPlaneJoin.reopenIfStopped
  | status {event : EngineStatusEvent} {nowMs : Int} {c' : HostComposition}
      (h : runtimeEventFromStatus c event nowMs = some c') : Move c c'
  | rebind : Move c HostComposition.compose.bindController
  | rebindRefused : Move c HostComposition.compose
  | transitionIdle : Move c c.reopenIfStopped
  | transitionStop : Move c (Win32Host.transitionStop c)

namespace HostAdmissionAux

/-! ## Moves of the tasks -/

variable (s : ServiceState)

theorem admitConnect_move (key : Bytes) (policy : Option ReconnectSessionPolicy) (expected : Option Nat) :
    Move s.composition (admitConnect s key policy expected).1.composition := by
  unfold admitConnect
  split
  · exact .refl
  · split
    · exact .refl
    · cases policy <;> exact .connect _

theorem attemptStep_move (id : Nat) (label : AttemptLabel) :
    Move s.composition (attemptStep s id label).composition := by
  unfold attemptStep
  split
  case h_3 =>
    split
    · exact .rebind
    · exact .rebindRefused
  case h_4 inflight _ =>
    cases inflight with
    | none => exact .refl
    | some operation => exact .connect operation
  case h_14 =>
    unfold applyConnectFailedForRoute
    split
    · exact .failed _
    · exact .refl
  all_goals repeat' split
  all_goals exact .refl

theorem stopStep_move (key : Nat) (label : StopLabel) : Move s.composition (stopStep s key label).composition := by
  unfold stopStep
  split
  · exact .refl
  split
  case h_4 =>
    unfold finishLocalStop
    split
    · exact .refl
    · exact .finish
  all_goals repeat' split
  all_goals exact .refl

theorem snapshotStep_move (call : Nat) (label : SnapshotLabel) :
    Move s.composition (snapshotStep s call label).composition := by
  have h := queried_snapshotStep s call label
  generalize snapshotStep s call label = s' at h
  cases h with
  | asked queries => exact .refl
  | failed queries h => exact .status h

theorem noteStatus_composition (wasConnected : Bool) (event : EngineStatusEvent) :
    (noteStatus s wasConnected event).composition = s.composition := by
  cases event <;> simp only [noteStatus]
  split <;> rfl

theorem handleStatus_move (event : EngineStatusEvent) (nowMs : Int) :
    Move s.composition (handleStatus s event nowMs).composition := by
  unfold handleStatus
  split
  · exact .refl
  simp only
  split
  · exact .refl
  · rename_i c h
    rw [noteStatus_composition]
    exact .status h

theorem forwarderStep_move (label : ForwarderLabel) (h : keepsAdmission s (.forwarder label)) :
    Move s.composition (forwarderStep s label).composition := by
  unfold forwarderStep
  split
  case h_7 => exact handleStatus_move s _ _
  case h_9 hpc =>
    -- away from `stopping` the end of the stream joins nothing
    have hc : (convergeDisconnected s).composition = s.composition := by
      unfold convergeDisconnected
      split
      · rename_i hg
        simp [setComposition, HostComposition.synthesizeDataPlaneJoin, if_neg (h hpc hg)]
      · rfl
    simp only [setForwarder, hc]
    exact .refl
  all_goals repeat' split
  all_goals exact .refl

theorem driveReconnect_composition : (driveReconnect s).composition = s.composition := by
  unfold driveReconnect
  repeat' split
  all_goals rfl

theorem workerStep_move (label : WorkerLabel) : Move s.composition (workerStep s label).composition := by
  unfold workerStep
  split
  case h_1 =>
    split
    · exact .refl
    · rw [driveReconnect_composition]
      exact .refl
  case h_3 key origin _ =>
    have h := admitConnect_move s key none (some origin)
    split <;> rename_i heq <;> rw [heq] at h <;> exact h
  all_goals repeat' split
  all_goals exact .refl

end HostAdmissionAux

open HostAdmissionAux

/-- Every step of the service that keeps admission is one of the moves. -/
theorem serviceStep_move (s : ServiceState) (label : ServiceLabel) (h : keepsAdmission s label) :
    Move s.composition (serviceStep s label).composition := by
  cases label with
  | connect key policy => exact admitConnect_move s key (some policy) none
  | attempt id label => exact attemptStep_move s id label
  | stop key => exact .stop _
  | stopCall key label => exact stopStep_move s key label
  | snapshot call label => exact snapshotStep_move s call label
  | forwarder label => exact forwarderStep_move s label h
  | worker label => exact workerStep_move s label
  | slotSwap | advanceAttachment => exact .refl
  | helperLinkTerminal => exact h.elim
  | respawnRebind authorized =>
    cases authorized with
    | true => exact .rebind
    | false => exact .rebindRefused
  | transitionIdle => exact .transitionIdle
  | transitionStop => exact .transitionStop

/-! ## What the moves keep -/

/-- The composition between two steps: not in `stopped`, open once the barrier was released, and while it is stopping only the
data side is missing. -/
structure AdmissionSound (c : Host.HostComposition VpnError) : Prop where
  not_stopped : c.phase ≠ .stopped
  open_of_released : c.teardown.released = true → c.admissionOpen = true
  stopping_barrier : c.phase = .stopping → c.teardown = ⟨true, false, false⟩ ∧ c.admissionOpen = false

namespace HostAdmissionAux

@[simp] theorem registerOperation_actor (c : HostComposition) (operation : Option OperationId) :
    (c.registerOperation operation).actor = c.actor := by
  cases operation <;> rfl

@[simp] theorem adoptSessionStart_actor (c : HostComposition) (reported : Option Int) (nowMs : Int) :
    (adoptSessionStart c reported nowMs).actor = c.actor := by
  have hset : ∀ ms, (c.setSessionEstablishedAtMs ms).actor = c.actor := by
    intro ms
    cases ms with
    | none => rfl
    | some ms =>
      simp only [HostComposition.setSessionEstablishedAtMs]
      split <;> rfl
  unfold adoptSessionStart
  split
  · exact hset _
  · split
    · exact hset _
    · rfl

theorem reopenIfStopped_of_ne {c : HostComposition} (h : c.actor.phase ≠ .stopped) : c.reopenIfStopped = c :=
  if_neg h

end HostAdmissionAux

/-- A fresh host is sound. -/
theorem AdmissionSound.compose : AdmissionSound HostComposition.compose.actor :=
  ⟨by decide, by decide, by decide⟩

/-- Whether a controller is bound does not matter. -/
theorem AdmissionSound.composeBound : AdmissionSound HostComposition.compose.bindController.actor :=
  ⟨by decide, by decide, by decide⟩

variable {c : Host.HostComposition VpnError}

theorem AdmissionSound.connect (h : AdmissionSound c) : AdmissionSound (c.apply .connect).1 := by
  simp only [apply]
  split
  · exact h
  · exact ⟨by simp, h.open_of_released, by simp⟩

theorem AdmissionSound.connectFailed (h : AdmissionSound c) (error : VpnError) :
    AdmissionSound (c.apply (.connectFailed error)).1 := by
  simp only [apply]
  by_cases hp : c.phase = .connecting
  · rw [if_pos hp]
    exact ⟨by simp, h.open_of_released, by simp⟩
  · rw [if_neg hp]
    exact ⟨h.not_stopped, h.open_of_released, h.stopping_barrier⟩

theorem AdmissionSound.connectionLost (h : AdmissionSound c) (error : VpnError) :
    AdmissionSound (c.apply (.connectionLost error)).1 := by
  simp only [apply]
  split
  · exact ⟨by simp, h.open_of_released, by simp⟩
  · exact ⟨h.not_stopped, h.open_of_released, h.stopping_barrier⟩

theorem AdmissionSound.stop (c : Host.HostComposition VpnError) :
    AdmissionSound ((c.apply .disconnect).1.apply (.teardownSideJoined .protocolControl)).1 :=
  ⟨nofun, nofun, fun _ => ⟨rfl, rfl⟩⟩

/-- A join of the data side that releases the barrier is followed by the reopening; any other join leaves the phase alone. -/
theorem AdmissionSound.joinData {c : HostComposition} (h : AdmissionSound c.actor) :
    AdmissionSound (c.after (.teardownSideJoined .packetData)).reopenIfStopped.actor := by
  obtain ⟨b, o, hb⟩ : ∃ b o, c.actor.teardown.join .packetData = (b, o) := ⟨_, _, rfl⟩
  by_cases ho : o = .released
  · subst ho
    have hactor : (c.after (.teardownSideJoined .packetData)).actor = { c.actor with teardown := b, phase := .stopped } := by
      simp [HostComposition.after_actor, apply, hb]
    have hreopen : (c.after (.teardownSideJoined .packetData)).reopenIfStopped.actor
        = { c.actor with teardown := b, phase := .idle, admissionOpen := true, connectPhase := none } := by
      simp only [HostComposition.reopenIfStopped, HostComposition.phase, hactor, if_true, HostComposition.after_actor,
        apply]
    rw [hreopen]
    exact ⟨by rintro ⟨⟩, fun _ => rfl, by rintro ⟨⟩⟩
  · have hactor : (c.after (.teardownSideJoined .packetData)).actor = { c.actor with teardown := b } := by
      cases o <;> simp_all [apply]
    have hphase : (c.after (.teardownSideJoined .packetData)).actor.phase ≠ .stopped := by
      rw [hactor]
      exact h.not_stopped
    rw [reopenIfStopped_of_ne hphase, hactor]
    have hrel : b.released = c.actor.teardown.released := by
      unfold TeardownBarrier.join at hb
      grind [TeardownBarrier.setJoined]
    refine ⟨h.not_stopped, fun hr => h.open_of_released (hrel ▸ hr), ?_⟩
    intro hp
    -- while the host is stopping the join of the data side releases
    have hbar := (h.stopping_barrier hp).1
    rw [hbar] at hb
    exact absurd (congrArg Prod.snd hb).symm ho

theorem AdmissionSound.transitionStop (c : HostComposition) : AdmissionSound (Win32Host.transitionStop c).actor :=
  ⟨nofun, fun _ => rfl, nofun⟩

theorem AdmissionSound.status {c c' : HostComposition} {event : EngineStatusEvent} {nowMs : Int} (h : AdmissionSound c.actor)
    (hev : runtimeEventFromStatus c event nowMs = some c') : AdmissionSound c'.actor := by
  unfold runtimeEventFromStatus at hev
  split at hev
  · cases hev
  cases event with
  | progress _ phase =>
    obtain rfl := some.inj hev
    exact ⟨h.not_stopped, h.open_of_released, h.stopping_barrier⟩
  | connected _ reported =>
    simp only at hev
    split at hev
    · cases hev
    · obtain rfl := some.inj hev
      rw [adoptSessionStart_actor]
      exact ⟨by simp [apply], h.open_of_released, by simp [apply]⟩
  | failed _ error =>
    obtain rfl := some.inj hev
    split
    · exact h.connectionLost error
    · exact h.connectFailed error
  | stopped _ =>
    obtain rfl := some.inj hev
    exact h.joinData

/-- Every move keeps the composition sound. -/
theorem AdmissionSound.move {c c' : HostComposition} (h : AdmissionSound c.actor) (hm : Move c c') :
    AdmissionSound c'.actor := by
  cases hm with
  | refl => exact h
  | connect operation =>
    rw [registerOperation_actor, HostComposition.after_actor]
    exact h.connect
  | stop operation =>
    rw [registerOperation_actor, HostComposition.after_actor, HostComposition.after_actor]
    exact AdmissionSound.stop c.actor
  | failed error =>
    exact h.connectFailed error
  | finish =>
    unfold HostComposition.synthesizeDataPlaneJoin
    split
    · exact h.joinData
    · rw [reopenIfStopped_of_ne h.not_stopped]
      exact h
  | status hev => exact h.status hev
  | rebind => exact AdmissionSound.composeBound
  | rebindRefused => exact AdmissionSound.compose
  | transitionIdle =>
    rw [reopenIfStopped_of_ne h.not_stopped]
    exact h
  | transitionStop => exact AdmissionSound.transitionStop c

end ExvVpn.Win32Host
