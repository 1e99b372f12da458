import ExvVpn.Lemmas.HostAdmission

/-! # Admission after a stop

Once the tunnel has ended and nothing is in progress, the next connect finds admission open. The exception is the end of a
status stream while the host is stopping: the forwarder joins the barrier in the engine's place and leaves the host in
`stopped`, where only the answer of the engine to `StopTunnel` would open admission again. -/

namespace ExvVpn.Win32Host

open Host Wire Transition ServiceState Host.HostComposition

/-- No connect attempt is in progress, and the forwarder holds no status stream and has none to account for. -/
def Quiescent (s : ServiceState) : Prop :=
  (∀ id, s.attempts id = none) ∧ s.forwarder.pc ≠ .streaming ∧ s.forwarder.pc ≠ .disconnecting

/-- A quiescent host that has stopped and stays closed. -/
def StuckStopped (s : ServiceState) : Prop :=
  Quiescent s ∧ s.composition.phase = .stopped ∧ s.composition.admissionOpen = false

/-- Both sides have joined the last teardown. -/
def tunnelEnded (s : ServiceState) : Prop := s.composition.actor.teardown.released = true

/-- In a run in which no end of a status stream is handled while the host is stopping, no state is stuck in `stopped`, and once
the tunnel has ended no connect is refused for closed admission. Where a run meets such an end, the host is left in `stopped`
and closed. -/
theorem admission_reopens (base cap : Nat) (labels : List ServiceLabel)
    (h : Along serviceStep keepsAdmission (initial base cap) labels) :
    let s := run serviceStep (initial base cap) labels
    ¬ StuckStopped s ∧
      (tunnelEnded s → ∀ key policy, (admitConnect s key (some policy) none).2 ≠ .refused .admissionClosed) ∧
      (¬ keepsAdmission s (.forwarder .converge) →
        (serviceStep s (.forwarder .converge)).composition.phase = .stopped ∧
          (serviceStep s (.forwarder .converge)).composition.admissionOpen = false) := by
  intro s
  have hs : AdmissionSound s.composition.actor :=
    invariant_of_along (I := fun s => AdmissionSound s.composition.actor)
      (fun s l hs hg => hs.move (serviceStep_move s l hg)) AdmissionSound.composeBound h
  refine ⟨?_, ?_, ?_⟩
  · intro hstuck
    exact hs.not_stopped hstuck.2.1
  · intro hended key policy hrefused
    have hopen : s.composition.actor.admissionOpen = true := hs.open_of_released hended
    unfold admitConnect at hrefused
    simp only [Option.any_none, Bool.false_eq_true, if_false] at hrefused
    split at hrefused
    · rename_i refusal href
      unfold connectRefusal at href
      grind
    · cases hrefused
  · intro hg
    simp only [keepsAdmission, Classical.not_imp, not_not] at hg
    obtain ⟨hpc, hgen, hphase⟩ := hg
    obtain ⟨hbar, hclosed⟩ := hs.stopping_barrier hphase
    have hstep : (serviceStep s (.forwarder .converge)).composition
        = s.composition.after (.teardownSideJoined .packetData) := by
      simp [serviceStep, forwarderStep, hpc, convergeDisconnected, hgen, setComposition, setForwarder,
        HostComposition.synthesizeDataPlaneJoin, hphase]
    have hactor : (s.composition.actor.apply (.teardownSideJoined .packetData)).1
        = { s.composition.actor with teardown := ⟨true, true, true⟩, phase := .stopped } := by
      simp only [apply, hbar]
      rfl
    rw [hstep]
    simp only [HostComposition.phase, HostComposition.admissionOpen, HostComposition.after_actor, hactor]
    exact ⟨trivial, hclosed⟩

namespace HostAdmissionAux

/-- The operation of the connect below. -/
def connectKey : Bytes := List.replicate 16 1

/-- The operation of the stop below. -/
def stopKey : Bytes := List.replicate 16 2

/-- A session without reconnects. -/
def plainPolicy : ReconnectSessionPolicy := ⟨false, 0, false⟩

/-- The user connects, the engine reports success, and the user stops. -/
def connectThenStop : List ServiceLabel :=
  [.forwarder .read, .forwarder .attachOk, .connect connectKey plainPolicy, .attempt 0 .routeLock,
    .attempt 0 (.routeReturn true), .attempt 0 .routeCheck, .attempt 0 .routeTarget, .attempt 0 .statusReady,
    .attempt 0 .engineLock, .attempt 0 .beforeApply, .attempt 0 (.applyReply true),
    .forwarder (.status (.connected connectKey (some 1)) 1), .stop stopKey]

/-- The engine confirms the stop, and its stream ends. -/
def confirmedStop : List ServiceLabel :=
  connectThenStop ++ [.stopCall 1 (.lease true), .stopCall 1 (.reply .stopped), .stopCall 1 .finish, .forwarder .streamEof,
    .forwarder .converge]

/-- The stream ends first, and the engine cannot be asked any more. -/
def streamEndsFirst : List ServiceLabel :=
  connectThenStop ++ [.forwarder .streamEof, .forwarder .converge, .stopCall 1 (.lease false)]

end HostAdmissionAux

open HostAdmissionAux

/-- After a stop that the engine has confirmed the tunnel has ended and the next connect is admitted. -/
theorem admission_reopens_confirmedStop :
    let s := run serviceStep (initial 2000000000 30000000000) confirmedStop
    tunnelEnded s ∧ ¬ StuckStopped s ∧ (admitConnect s connectKey (some plainPolicy) none).2 ≠ .refused .admissionClosed := by
  intro s
  have hended : tunnelEnded s := rfl
  have h := admission_reopens 2000000000 30000000000 confirmedStop (by decide +kernel)
  exact ⟨hended, h.1, h.2.1 hended connectKey plainPolicy⟩

/-- The stream ends while the host is stopping and `StopTunnel` cannot be sent: nothing is in progress, the host has stopped,
and the next connect is refused. -/
theorem admission_stuck_streamEndsFirst :
    let s := run serviceStep (initial 2000000000 30000000000) streamEndsFirst
    StuckStopped s ∧ tunnelEnded s ∧ (∀ key, s.stops key = none) ∧
      (admitConnect s connectKey (some plainPolicy) none).2 = .refused .admissionClosed := by
  refine ⟨⟨⟨?_, by decide +kernel, by decide +kernel⟩, rfl, rfl⟩, rfl, ?_, rfl⟩
  · intro id
    cases id <;> rfl
  · intro key
    rcases key with _ | _ | key <;> rfl

end ExvVpn.Win32Host
