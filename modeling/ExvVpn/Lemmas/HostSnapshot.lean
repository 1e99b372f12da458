import ExvVpn.Win32Host.Service

/-! # Snapshot calls and the progress of a connect

What a snapshot call can do to the state, and what the fine phase of a connect does to the rest of the service: nothing reads
it but a snapshot, and a snapshot only while the host is connecting. -/

namespace ExvVpn.Win32Host

open Host Wire Transition Win32Host Host.HostComposition HostPhase

/-- What a step of a snapshot call does: it writes down or forgets its query, and it may fail the session. -/
inductive Queried (s : ServiceState) : ServiceState → Prop
  | asked (queries : Nat → Option QueryBasis) : Queried s { s with queries }
  | failed (queries : Nat → Option QueryBasis) {event : EngineStatusEvent} {nowMs : Int} {c : HostComposition}
      (h : runtimeEventFromStatus s.composition event nowMs = some c) :
    Queried s { s with
      queries, composition := c, signals := s.signals + 1, history := { s.history with dropped := true } }

theorem queried_snapshotStep (s : ServiceState) (call : Nat) (label : SnapshotLabel) :
    Queried s (snapshotStep s call label) := by
  unfold snapshotStep
  split
  · exact .asked _
  · split
    · exact .asked _
    · rename_i c h
      unfold failMissingSession at h
      split at h
      · exact .failed _ h
      · cases h
  · exact .asked s.queries

/-! ## Compositions that look alike -/

namespace HostSnapshotAux

/-- The actor with another fine phase. -/
def withConnectPhase (a : Host.HostComposition VpnError) (fine : Option ConnectPhase) : Host.HostComposition VpnError :=
  { a with connectPhase := fine }

/-- What an event makes of the fine phase: it is overwritten, or it is left as it was and no way leads to `connecting`. -/
theorem apply_withConnectPhase (a : Host.HostComposition VpnError) (fine : Option ConnectPhase) (event : HostEvent VpnError) :
    ((withConnectPhase a fine).apply event).1 = (a.apply event).1 ∨
      ((withConnectPhase a fine).apply event).1 = withConnectPhase (a.apply event).1 fine ∧
        ((a.apply event).1.phase = .connecting → a.phase = .connecting ∧ (a.apply event).1.connectPhase = a.connectPhase) := by
  have hphase : (withConnectPhase a fine).phase = a.phase := rfl
  cases event with
  | connect =>
    have href : (withConnectPhase a fine).connectRefusal = a.connectRefusal := rfl
    simp only [apply, href]
    cases a.connectRefusal with
    | some refusal => exact .inr ⟨rfl, fun h => ⟨h, rfl⟩⟩
    | none => exact .inl rfl
  | protocolEstablished | connectPhaseProgress => exact .inl rfl
  | disconnect => exact .inr ⟨rfl, noConfusion⟩
  | stopNewAdmission => exact .inr ⟨rfl, fun h => ⟨h, rfl⟩⟩
  | helperLinkLost =>
    simp only [apply, hphase]
    split
    · exact .inr ⟨rfl, noConfusion⟩
    · exact .inr ⟨rfl, fun h => ⟨h, rfl⟩⟩
  | connectFailed error =>
    simp only [apply, hphase]
    split
    · exact .inr ⟨rfl, noConfusion⟩
    · exact .inr ⟨rfl, fun h => ⟨h, trivial⟩⟩
  | connectionLost | reopenAdmission =>
    simp only [apply, hphase]
    split
    · exact .inl rfl
    · exact .inr ⟨rfl, fun h => ⟨h, rfl⟩⟩
  | teardownSideJoined side =>
    have hjoin : (withConnectPhase a fine).teardown.join side = a.teardown.join side := rfl
    simp only [apply, hjoin]
    split
    · exact .inr ⟨rfl, noConfusion⟩
    · exact .inr ⟨rfl, fun h => ⟨h, rfl⟩⟩

end HostSnapshotAux

open HostSnapshotAux

/-- The composition with another fine phase. -/
def HostComposition.withConnectPhase (c : HostComposition) (fine : Option ConnectPhase) : HostComposition :=
  { c with actor := HostSnapshotAux.withConnectPhase c.actor fine }

/-- The compositions differ in nothing but a fine phase that no snapshot shows. -/
inductive HostComposition.Alike (c : HostComposition) : HostComposition → Prop
  | intro (fine : Option ConnectPhase)
      (h : c.phase = .connecting → (c.withConnectPhase fine).shownConnectPhase = c.shownConnectPhase) :
    Alike c (c.withConnectPhase fine)

namespace HostComposition.Alike

variable {c c' : HostComposition}

protected theorem refl (c : HostComposition) : c.Alike c := .intro c.actor.connectPhase fun _ => rfl

variable (h : c.Alike c')
include h

theorem phase_eq : c'.phase = c.phase := by
  cases h
  rfl

/-- No event tells the two apart. -/
theorem after (event : HostEvent VpnError) : (c.after event).Alike (c'.after event) := by
  obtain ⟨fine, hshown⟩ := h
  have hactor := c.after_actor event
  have hafter : (c.withConnectPhase fine).after event
      = { c.after event with actor := ((HostSnapshotAux.withConnectPhase c.actor fine).apply event).1 } := by
    cases event <;> rfl
  rw [hafter]
  rcases apply_withConnectPhase c.actor fine event with hsame | ⟨hkept, hphase⟩
  · rw [hsame, ← hactor]
    exact .refl _
  rw [hkept, ← hactor]
  refine .intro fine fun hconnecting => ?_
  rw [← hactor] at hphase
  obtain ⟨hbefore, hfine⟩ := hphase hconnecting
  exact (hshown hbefore).trans (by rw [shownConnectPhase, shownConnectPhase, hfine])

/-- Registers beside the actor do not tell them apart either. -/
theorem registerOperation (operation : Option OperationId) :
    (c.registerOperation operation).Alike (c'.registerOperation operation) := by
  obtain ⟨fine, hshown⟩ := h
  cases operation <;> exact .intro fine hshown

theorem setLastWireError (error : VpnError) : (c.setLastWireError error).Alike (c'.setLastWireError error) := by
  obtain ⟨fine, hshown⟩ := h
  exact .intro fine hshown

theorem setSessionEstablishedAtMs (ms : Option Int) :
    (c.setSessionEstablishedAtMs ms).Alike (c'.setSessionEstablishedAtMs ms) := by
  obtain ⟨fine, hshown⟩ := h
  cases ms with
  | none => exact .intro fine hshown
  | some ms =>
    simp only [HostComposition.setSessionEstablishedAtMs]
    split <;> exact .intro fine hshown

theorem adoptSessionStart (reported : Option Int) (nowMs : Int) :
    (Win32Host.adoptSessionStart c reported nowMs).Alike (Win32Host.adoptSessionStart c' reported nowMs) := by
  have hknown : c'.sessionEstablishedAtMs = c.sessionEstablishedAtMs := by
    cases h
    rfl
  unfold Win32Host.adoptSessionStart
  rw [hknown]
  split
  · exact h.setSessionEstablishedAtMs reported
  · split
    · exact h.setSessionEstablishedAtMs (some nowMs)
    · exact h

theorem synthesizeDataPlaneJoin : c.synthesizeDataPlaneJoin.Alike c'.synthesizeDataPlaneJoin := by
  unfold HostComposition.synthesizeDataPlaneJoin
  rw [h.phase_eq]
  split
  · exact h.after _
  · exact h

theorem reopenIfStopped : c.reopenIfStopped.Alike c'.reopenIfStopped := by
  unfold HostComposition.reopenIfStopped
  rw [h.phase_eq]
  split
  · exact h.after _
  · exact h

theorem onHelperLinkTerminal : c.onHelperLinkTerminal.Alike c'.onHelperLinkTerminal := by
  let stopped (d : HostComposition) : HostComposition :=
    { d with sessionEstablishedAtMs := none, teardownStarted := true, relay := d.relay.stop }
  have hstopped : (stopped c).Alike (stopped c') := by
    obtain ⟨fine, hshown⟩ := h
    exact .intro fine hshown
  have heffect : (c'.actor.apply .helperLinkLost).2 = (c.actor.apply .helperLinkLost).2 := by
    have hphase : c'.actor.phase = c.actor.phase := h.phase_eq
    simp only [Host.HostComposition.apply, hphase]
    split <;> rfl
  have hlost := hstopped.after .helperLinkLost
  have hterminal : ∀ d : HostComposition, d.onHelperLinkTerminal
      = if (d.actor.apply .helperLinkLost).2 = .admissionStopped then
          ((stopped d).after .helperLinkLost).after .stopNewAdmission
        else (stopped d).after .helperLinkLost := fun _ => rfl
  rw [hterminal, hterminal, heffect]
  split
  · exact hlost.after .stopNewAdmission
  · exact hlost

/-- Either both drop an event, or both handle it. -/
theorem runtimeEventFromStatus (event : EngineStatusEvent) (nowMs : Int) :
    (Win32Host.runtimeEventFromStatus c event nowMs = none ∧ Win32Host.runtimeEventFromStatus c' event nowMs = none) ∨
      ∃ d d', Win32Host.runtimeEventFromStatus c event nowMs = some d ∧
        Win32Host.runtimeEventFromStatus c' event nowMs = some d' ∧ d.Alike d' := by
  have hstale : staleTerminalOperation c' event = staleTerminalOperation c event := by
    cases h
    rfl
  unfold Win32Host.runtimeEventFromStatus
  rw [hstale]
  split
  · exact .inl ⟨rfl, rfl⟩
  cases event with
  | progress _ fine => exact .inr ⟨_, _, rfl, rfl, h.after _⟩
  | connected _ reported =>
    simp only [h.phase_eq]
    split
    · exact .inl ⟨rfl, rfl⟩
    · exact .inr ⟨_, _, rfl, rfl, (h.after _).adoptSessionStart reported nowMs⟩
  | failed _ error =>
    simp only [h.phase_eq]
    refine .inr ⟨_, _, rfl, rfl, ?_⟩
    split <;> exact (h.setLastWireError error).after _
  | stopped _ => exact .inr ⟨_, _, rfl, rfl, (h.after _).reopenIfStopped⟩

theorem failMissingSession (basis : QueryBasis) (engine : Option RuntimeSnapshot) :
    (Win32Host.failMissingSession c basis engine = none ∧ Win32Host.failMissingSession c' basis engine = none) ∨
      ∃ d d', Win32Host.failMissingSession c basis engine = some d ∧
        Win32Host.failMissingSession c' basis engine = some d' ∧ d.Alike d' := by
  have hmissing : sessionMissing c' basis engine = sessionMissing c basis engine := by
    cases h
    rfl
  have hoperation : c'.operationBytes = c.operationBytes := by
    cases h
    rfl
  unfold Win32Host.failMissingSession
  rw [hmissing, hoperation]
  split
  · exact h.runtimeEventFromStatus _ _
  · exact .inl ⟨rfl, rfl⟩

end HostComposition.Alike

/-! ## States that look alike -/

/-- The states differ in compositions that look alike. -/
inductive ServiceState.Alike (s : ServiceState) : ServiceState → Prop
  | intro {c' : HostComposition} (h : s.composition.Alike c') : Alike s (s.setComposition c')

namespace ServiceState.Alike

variable {s s' : ServiceState} (h : s.Alike s')
include h

theorem composition : s.composition.Alike s'.composition := by
  obtain ⟨h⟩ := h
  exact h

theorem endAttempt (id : Nat) (result : ConnectResult) : (s.endAttempt id result).Alike (s'.endAttempt id result) := by
  obtain ⟨h⟩ := h
  exact .intro h

theorem setStop (key : Nat) (call : Option StopCall) : (s.setStop key call).Alike (s'.setStop key call) := by
  obtain ⟨h⟩ := h
  exact .intro h

theorem setForwarder (pc : ForwarderPc) : (s.setForwarder pc).Alike (s'.setForwarder pc) := by
  obtain ⟨h⟩ := h
  exact .intro h

end ServiceState.Alike

namespace HostSnapshotAux

variable {s : ServiceState} {c' : HostComposition}

theorem alike_admitConnect (h : s.composition.Alike c') (key : Bytes) (policy : Option ReconnectSessionPolicy)
    (expected : Option Nat) :
    (admitConnect s key policy expected).1.Alike (admitConnect (s.setComposition c') key policy expected).1 ∧
      (admitConnect (s.setComposition c') key policy expected).2 = (admitConnect s key policy expected).2 := by
  have hdispatch : (s.setComposition c').dispatch = s.dispatch := rfl
  have href : (s.setComposition c').composition.actor.connectRefusal = s.composition.actor.connectRefusal := by
    cases h
    rfl
  unfold admitConnect
  rw [hdispatch, href]
  split
  · exact ⟨.intro h, rfl⟩
  split
  · exact ⟨.intro h, rfl⟩
  · refine ⟨?_, rfl⟩
    cases policy <;> exact .intro ((h.after .connect).registerOperation (operationIdOf key))

/-- Both states take the same branch. -/
theorem alike_ite {p : Prop} {dec dec' : Decidable p} {a b a' b' : ServiceState} (ha : a.Alike a') (hb : b.Alike b') :
    (@ite _ p dec a b).Alike (@ite _ p dec' a' b') := by
  by_cases hp : p
  · rw [if_pos hp, if_pos hp]
    exact ha
  · rw [if_neg hp, if_neg hp]
    exact hb

variable (h : s.composition.Alike c')
include h

theorem alike_attemptStep (id : Nat) (label : AttemptLabel) :
    (attemptStep s id label).Alike (attemptStep (s.setComposition c') id label) := by
  have hattempts : (s.setComposition c').attempts id = s.attempts id := rfl
  unfold attemptStep
  rw [hattempts]
  split
  case h_2 =>
    have hinflight : inflightConnect c' = inflightConnect s.composition := by
      cases h
      rfl
    show ServiceState.Alike _ ((s.setComposition c').setAttempt id (.provisionCaptured (inflightConnect c')))
    rw [hinflight]
    exact .intro h
  case h_3 => exact alike_ite (.intro (.refl _)) (.intro (.refl _))
  case h_4 inflight _ =>
    cases inflight with
    | none => exact .intro h
    | some operation => exact .intro ((h.after .connect).registerOperation operation)
  case h_5 | h_11 | h_16 => exact .intro h
  case h_6 | h_7 | h_8 => exact alike_ite (.intro h) (alike_ite (.intro h) (.intro h))
  case h_1 | h_9 | h_10 | h_12 | h_13 | h_15 => exact alike_ite (.intro h) (.intro h)
  case h_14 =>
    have hfailed : (applyConnectFailedForRoute s id).Alike (applyConnectFailedForRoute (s.setComposition c') id) :=
      alike_ite (.intro ((h.setLastWireError routeFailureWireError).after _)) (.intro h)
    exact hfailed.endAttempt id .error

theorem alike_stopStep (key : Nat) (label : StopLabel) :
    (stopStep s key label).Alike (stopStep (s.setComposition c') key label) := by
  have hstops : (s.setComposition c').stops key = s.stops key := rfl
  unfold stopStep
  rw [hstops]
  split
  · exact .intro h
  rename_i call _
  split
  case h_1 => exact alike_ite (.intro h) (.intro h)
  case h_4 =>
    have hfinish : (finishLocalStop s call).Alike (finishLocalStop (s.setComposition c') call) :=
      alike_ite (.intro h) (.intro h.synthesizeDataPlaneJoin.reopenIfStopped)
    exact hfinish.setStop key none
  all_goals exact .intro h

theorem alike_snapshotStep (call : Nat) (label : SnapshotLabel) :
    (snapshotStep s call label).Alike (snapshotStep (s.setComposition c') call label) := by
  have hqueries : (s.setComposition c').queries call = s.queries call := rfl
  have hcomposition : (s.setComposition c').composition = c' := rfl
  have hbasis : queryBasis c' = queryBasis s.composition := by
    cases h
    rfl
  unfold snapshotStep
  rw [hqueries, hcomposition, hbasis]
  split
  case h_2 engine basis _ =>
    rcases h.failMissingSession basis engine with ⟨hnone, hnone'⟩ | ⟨d, d', hd, hd', hdd'⟩
    · rw [hnone, hnone']
      exact .intro h
    · rw [hd, hd']
      exact .intro hdd'
  all_goals exact .intro h

theorem alike_handleStatus (event : EngineStatusEvent) (nowMs : Int) :
    (handleStatus s event nowMs).Alike (handleStatus (s.setComposition c') event nowMs) := by
  have hnormalize : normalizeUnexpectedStop event c' = normalizeUnexpectedStop event s.composition := by
    cases h
    rfl
  have hcomposition : (s.setComposition c').composition = c' := rfl
  refine alike_ite (.intro h) ?_
  simp only [hcomposition, hnormalize, h.phase_eq]
  generalize normalizeUnexpectedStop event s.composition = event'
  rcases h.runtimeEventFromStatus event' nowMs with ⟨hnone, hnone'⟩ | ⟨d, d', hd, hd', hdd'⟩
  · rw [hnone, hnone']
    exact .intro h
  rw [hd, hd']
  cases event' with
  | failed _ error => exact alike_ite (.intro hdd') (.intro hdd')
  | _ => exact .intro hdd'

theorem alike_forwarderStep (label : ForwarderLabel) :
    (forwarderStep s label).Alike (forwarderStep (s.setComposition c') label) := by
  have hforwarder : (s.setComposition c').forwarder.pc = s.forwarder.pc := rfl
  unfold forwarderStep
  rw [hforwarder]
  split
  case h_2 | h_4 | h_5 | h_6 => exact alike_ite (.intro h) (.intro h)
  case h_7 event nowMs _ => exact alike_handleStatus h event nowMs
  case h_9 =>
    have hconverge : (convergeDisconnected s).Alike (convergeDisconnected (s.setComposition c')) :=
      alike_ite (.intro h.synthesizeDataPlaneJoin) (.intro h)
    exact hconverge.setForwarder .backoff
  all_goals exact .intro h

theorem alike_driveReconnect : (driveReconnect s).Alike (driveReconnect (s.setComposition c')) := by
  have hpolicy : (s.setComposition c').policy = s.policy := rfl
  refine alike_ite (.intro h) ?_
  rw [hpolicy]
  cases s.policy with
  | none => exact .intro h
  | some policy => exact alike_ite (.intro h) (alike_ite (.intro h) (.intro h))

theorem alike_workerStep (label : WorkerLabel) :
    (workerStep s label).Alike (workerStep (s.setComposition c') label) := by
  have hworker : (s.setComposition c').worker = s.worker := rfl
  have hdispatch : (s.setComposition c').dispatch = s.dispatch := rfl
  unfold workerStep
  rw [hworker, hdispatch]
  split
  case h_1 =>
    have hdrive := @alike_driveReconnect { s with signals := s.signals - 1 } c' h
    exact alike_ite (.intro h) hdrive
  case h_2 | h_4 => split <;> exact .intro h
  case h_3 key origin _ =>
    obtain ⟨halike, hsame⟩ := alike_admitConnect h key none (some origin)
    generalize admitConnect s key none (some origin) = admitted at halike hsame ⊢
    generalize admitConnect (s.setComposition c') key none (some origin) = admitted' at halike hsame ⊢
    obtain ⟨t, admission⟩ := admitted
    obtain ⟨t', admission'⟩ := admitted'
    obtain rfl : admission' = admission := hsame
    obtain ⟨halike⟩ := halike
    cases admission' with
    | admitted | superseded | refused => exact .intro halike
  case h_5 => exact .intro h

end HostSnapshotAux

/-- States that look alike go on looking alike. -/
theorem ServiceState.Alike.serviceStep {s s' : ServiceState} (h : s.Alike s') (label : ServiceLabel) :
    (serviceStep s label).Alike (serviceStep s' label) := by
  obtain ⟨h⟩ := h
  cases label with
  | connect key policy => exact (alike_admitConnect h key (some policy) none).1
  | attempt id label => exact alike_attemptStep h id label
  | stop key => exact .intro (((h.after .disconnect).after _).registerOperation _)
  | stopCall key label => exact alike_stopStep h key label
  | snapshot call label => exact alike_snapshotStep h call label
  | forwarder label => exact alike_forwarderStep h label
  | worker label => exact alike_workerStep h label
  | slotSwap | advanceAttachment => exact .intro h
  | helperLinkTerminal => exact .intro h.onHelperLinkTerminal
  | respawnRebind authorized => exact .intro (.refl _)
  | transitionIdle => exact .intro h.reopenIfStopped
  | transitionStop => exact .intro ((((h.after _).after _).after _).after _)

/-- So do the runs from them. -/
theorem ServiceState.Alike.run {s s' : ServiceState} (h : s.Alike s') (labels : List ServiceLabel) :
    (run Win32Host.serviceStep s labels).Alike (run Win32Host.serviceStep s' labels) := by
  induction labels generalizing s s' with
  | nil => exact h
  | cons label labels ih => exact ih (h.serviceStep label)

/-! ## Snapshots of compositions that look alike -/

namespace HostSnapshotAux

variable {c c' : HostComposition}

theorem snapshotForPhase_alike (h : c.Alike c') : snapshotForPhase c'.phase c' = snapshotForPhase c.phase c := by
  rw [h.phase_eq]
  obtain ⟨fine, hshown⟩ := h
  generalize c.phase = phase at hshown
  cases phase with
  | connecting =>
    simp only [snapshotForPhase, hshown rfl]
    rfl
  | _ => rfl

theorem disconnectedSnapshot_alike (h : c.Alike c') : disconnectedSnapshot c' = disconnectedSnapshot c := by
  unfold disconnectedSnapshot
  rw [h.phase_eq]
  obtain ⟨fine, hshown⟩ := h
  split <;> rfl

theorem selectedSnapshot_alike (h : c.Alike c') (engine : Option RuntimeSnapshot) :
    selectedSnapshot c' engine = selectedSnapshot c engine := by
  have hstart : c'.sessionEstablishedAtMs = c.sessionEstablishedAtMs := by
    cases h
    rfl
  simp [selectedSnapshot, snapshotForPhase_alike h, disconnectedSnapshot_alike h, hstart]

end HostSnapshotAux

/-- A snapshot does not tell compositions that look alike apart. -/
theorem HostComposition.Alike.getSnapshot {c c' : HostComposition} (h : c.Alike c') (basis : QueryBasis)
    (engine : Option RuntimeSnapshot) : getSnapshot c' basis engine = getSnapshot c basis engine := by
  unfold Win32Host.getSnapshot
  rcases h.failMissingSession basis engine with ⟨hnone, hnone'⟩ | ⟨d, d', hd, hd', hdd'⟩
  · rw [hnone, hnone']
    exact selectedSnapshot_alike h engine
  · rw [hd, hd']
    exact selectedSnapshot_alike hdd' engine

end ExvVpn.Win32Host
