import ExvVpn.Lemmas.CoreMoves

/-!
# What a step of the macOS core leaves alone

The requests of the user, the worker, the final cleanups and the wake recovery act on the rest of the core only through
the generation, through new calls and by what they publish and signal.
-/

namespace ExvVpn.DarwinCore

open Function CoreState

/-! ## Tasks -/

/-- What a task may have changed: the generation has grown, a call may have been made, and `FailedClean` may have been
published or a reconnect signalled. -/
structure TaskFrame (s t : CoreState) : Prop where
  generation : s.generation ≤ t.generation
  projections : t.projections = s.projections
  session : t.session = s.session
  ticker : t.ticker = s.ticker
  nextSession : t.nextSession = s.nextSession
  stats : t.stats = s.stats
  lock : t.lock = s.lock
  connects : t.connects = s.connects ∧ t.nextConnect = s.nextConnect ∨
    ∃ generation newSession trigger, generation ≤ t.generation ∧ t.nextConnect = s.nextConnect + 1 ∧
      t.connects = update s.connects s.nextConnect (some ⟨generation, newSession, trigger, .requested⟩)
  stops : t.stops = s.stops ∧ t.nextStop = s.nextStop ∨
    ∃ generation preserve, generation ≤ t.generation ∧ t.nextStop = s.nextStop + 1 ∧
      t.stops = update s.stops s.nextStop (some ⟨generation, preserve, .requested⟩)
  trace : t.trace = s.trace ∨ t.trace = .signalled .wake :: s.trace ∨
    ∃ actor operation, t.trace = .published actor ⟨.failedClean, operation⟩ :: s.trace

variable {s : CoreState}

/-- Nothing that the frame is about has changed. -/
theorem frame_same {t : CoreState}
    (h : (t.generation, t.projections, t.session, t.ticker, t.nextSession, t.stats, t.lock, t.trace, t.connects,
        t.nextConnect, t.stops, t.nextStop) =
      (s.generation, s.projections, s.session, s.ticker, s.nextSession, s.stats, s.lock, s.trace, s.connects,
        s.nextConnect, s.stops, s.nextStop)) : TaskFrame s t := by
  simp only [Prod.mk.injEq] at h
  obtain ⟨generation, projections, session, ticker, nextSession, stats, lock, trace, connects, nextConnect, stops,
    nextStop⟩ := h
  exact ⟨Nat.le_of_eq generation.symm, projections, session, ticker, nextSession, stats, lock,
    .inl ⟨connects, nextConnect⟩, .inl ⟨stops, nextStop⟩, .inl trace⟩

/-- The step is one of a task or a request, not one of a call, of a projection or of the statistics. -/
def CoreLabel.isTask : CoreLabel → Bool
  | .connectCall _ _ => false
  | .stopCall _ _ => false
  | .projection _ _ => false
  | .statsSample => false
  | _ => true

/-- What the moves of tasks and requests change. -/
theorem taskFrame_of_move {s t : CoreState} {label : CoreLabel} (hmove : TaskMove s label t) : TaskFrame s t := by
  have hsame : TaskFrame s s := frame_same rfl
  have hgrown : TaskFrame s { s with generation := s.generation + 1 } :=
    { hsame with generation := Nat.le_succ _, connects := .inl ⟨rfl, rfl⟩, stops := .inl ⟨rfl, rfl⟩ }
  cases hmove with
  | @dispatch _ trigger => exact { hsame with connects := .inr ⟨s.generation, false, trigger, Nat.le.refl, rfl, rfl⟩ }
  | @publishFailed _ c => exact { hsame with trace := .inr (.inr ⟨.worker, some (.connect c), rfl⟩) }
  | beginStop => exact { hsame with stops := .inr ⟨s.generation, false, Nat.le.refl, rfl, rfl⟩ }
  | @publishFinished _ f operation => exact { hsame with trace := .inr (.inr ⟨.finish f, operation, rfl⟩) }
  | connect => exact { hgrown with connects := .inr ⟨s.generation + 1, true, none, Nat.le.refl, rfl, rfl⟩ }
  | stop => exact { hgrown with stops := .inr ⟨s.generation + 1, false, Nat.le.refl, rfl, rfl⟩ }
  | cancel => exact { hgrown with }
  | stopAsleep => exact { hgrown with stops := .inr ⟨s.generation + 1, true, Nat.le.refl, rfl, rfl⟩ }
  | signalAwake => exact { hsame with trace := .inr (.inl rfl) }
  | _ => exact frame_same rfl

/-! ## Calls and projections -/

/-- A step of the Connect call `c` leaves the other calls and projections alone. -/
structure ConnectFrame (s t : CoreState) (c : Nat) : Prop where
  stops : t.stops = s.stops
  connects : ∀ d, d ≠ c → t.connects d = s.connects d
  projections : ∀ i, i ≠ c → t.projections i = s.projections i

/-- A step of the Stop call `k` leaves the other calls and the projections alone. -/
structure StopFrame (s t : CoreState) (k : Nat) : Prop where
  stops : ∀ j, j ≠ k → t.stops j = s.stops j
  connects : t.connects = s.connects
  projections : t.projections = s.projections

/-- A step of the projection `i` leaves the calls and the other projections alone. -/
structure ProjectionFrame (s t : CoreState) (i : Nat) : Prop where
  stops : t.stops = s.stops
  connects : t.connects = s.connects
  projections : ∀ j, j ≠ i → t.projections j = s.projections j

variable {s t : CoreState}

theorem connectFrame_move {c : Nat} {call : ConnectCall} {pc : ConnectPc} {label : ConnectLabel}
    (hmove : ConnectMove s c call pc label t) : ConnectFrame s t c := by
  cases hmove with
  | same => exact ⟨rfl, fun _ _ => rfl, fun _ _ => rfl⟩
  | accept =>
    refine ⟨rfl, fun d hd => ?_, fun i hi => ?_⟩
    · exact update_of_ne hd _ s.connects
    · exact update_of_ne hi _ s.projections
  | _ => exact ⟨rfl, fun _ hd => update_of_ne hd _ s.connects, fun _ _ => rfl⟩

theorem stopFrame_move {k : Nat} {call : StopCall} {pc : StopPc} {label : StopLabel}
    (hmove : StopMove s k call pc label t) : StopFrame s t k := by
  cases hmove with
  | same => exact ⟨fun _ _ => rfl, rfl, rfl⟩
  | _ => exact ⟨fun _ hj => update_of_ne hj _ s.stops, rfl, rfl⟩

theorem projectionFrame_move {i : Nat} {p : Projection} {pc : ProjectionPc} {label : ProjectionLabel}
    (hmove : ProjectionMove s i p pc label t) : ProjectionFrame s t i := by
  cases hmove with
  | same => exact ⟨rfl, rfl, fun _ _ => rfl⟩
  | _ => exact ⟨rfl, rfl, fun _ hj => update_of_ne hj _ s.projections⟩

/-- Who takes the step, if it is a call or a projection. -/
def CoreLabel.actor : CoreLabel → Option Actor
  | .connectCall c _ => some (.connect c)
  | .stopCall k _ => some (.stop k)
  | .projection i _ => some (.projection i)
  | _ => none

/-- Calls and projections are moved by their own steps. Otherwise a call appears as a new one, and a projection when its
Connect call is accepted. -/
structure OthersFrame (s t : CoreState) (actor : Option Actor) : Prop where
  connects : ∀ c, actor ≠ some (.connect c) → t.connects c = s.connects c ∨
    c = s.nextConnect ∧ ∃ call, t.connects c = some call ∧ call.pc = .requested
  stops : ∀ k, actor ≠ some (.stop k) → t.stops k = s.stops k ∨
    k = s.nextStop ∧ ∃ call, t.stops k = some call ∧ call.pc = .requested
  projections : ∀ i, actor ≠ some (.projection i) → actor ≠ some (.connect i) → t.projections i = s.projections i

variable {s t : CoreState}

theorem othersFrame_task (h : TaskFrame s t) : OthersFrame s t none := by
  refine ⟨fun c _ => ?_, fun k _ => ?_, fun i _ _ => by rw [h.projections]⟩
  · rcases h.connects with ⟨hsame, _⟩ | ⟨generation, newSession, trigger, _, _, hnew⟩
    · exact .inl (by rw [hsame])
    · by_cases hc : c = s.nextConnect
      · exact .inr ⟨hc, _, by rw [hnew, hc, update_self], rfl⟩
      · exact .inl (by rw [hnew, update_of_ne hc])
  · rcases h.stops with ⟨hsame, _⟩ | ⟨generation, preserve, _, _, hnew⟩
    · exact .inl (by rw [hsame])
    · by_cases hk : k = s.nextStop
      · exact .inr ⟨hk, _, by rw [hnew, hk, update_self], rfl⟩
      · exact .inl (by rw [hnew, update_of_ne hk])

/-- A step of the core is a step of a task, of a call or projection that is there, or a sample, or does nothing. -/
theorem coreStep_cases {motive : CoreState → Prop} (s : CoreState) (label : CoreLabel) (hsame : motive s)
    (htask : ∀ t, label.isTask = true → TaskMove s label t → motive t)
    (hconnect : ∀ c l call t, label = .connectCall c l → s.connects c = some call →
      ConnectMove s c call call.pc l t → motive t)
    (hstop : ∀ k l call t, label = .stopCall k l → s.stops k = some call → StopMove s k call call.pc l t → motive t)
    (hprojection : ∀ i l p t, label = .projection i l → s.projections i = some p →
      ProjectionMove s i p p.pc l t → motive t)
    (hsample : ∀ operation, s.stats.live = true → motive (s.publish .stats ⟨.connected, operation⟩)) :
    motive (coreStep s label) := by
  cases label with
  | connectCall c label =>
    simp only [coreStep]
    split
    · exact hconnect c label _ _ rfl (by assumption) (connectMove_connectStep ..)
    · exact hsame
  | stopCall k label =>
    simp only [coreStep]
    split
    · exact hstop k label _ _ rfl (by assumption) (stopMove_stopStep ..)
    · exact hsame
  | projection i label =>
    simp only [coreStep]
    split
    · exact hprojection i label _ _ rfl (by assumption) (projectionMove_projectionStep ..)
    · exact hsame
  | statsSample =>
    simp only [coreStep, statsSample]
    split
    · split
      · rename_i hlive
        exact hsample _ (Bool.and_eq_true_iff.mp hlive).1
      · exact hsame
    · exact hsame
  | connect => exact htask _ rfl .connect
  | stop => exact htask _ rfl .stop
  | worker label => exact htask _ rfl (taskMove_workerStep label)
  | finish f label =>
    simp only [coreStep]
    split
    · exact htask _ rfl (taskMove_finishStep (by assumption) label)
    · exact hsame
  | readWaiting =>
    simp only [coreStep, readWaiting]
    split
    · exact htask _ rfl (.goOn (.inr rfl) id)
    · exact hsame
  | cancelWaiting =>
    simp only [coreStep, cancelWaiting]
    split
    · exact hsame
    · exact htask _ rfl .cancel
  | sleep | didWake => exact htask _ rfl (.goOn (.inr rfl) id)
  | wake label => exact htask _ rfl (taskMove_wakeStep label)

theorem othersFrame_coreStep (s : CoreState) (label : CoreLabel) : OthersFrame s (coreStep s label) label.actor := by
  refine coreStep_cases (motive := fun t => OthersFrame s t label.actor) s label ?_ ?_ ?_ ?_ ?_ fun _ _ => ?_
  case refine_1 | refine_6 => exact ⟨fun _ _ => .inl rfl, fun _ _ => .inl rfl, fun _ _ _ => rfl⟩
  · intro t htask hmove
    have hframe := othersFrame_task (taskFrame_of_move hmove)
    cases label <;> first | exact hframe | cases htask
  · rintro c l call t rfl - hmove
    have h := connectFrame_move hmove
    exact ⟨fun d hd => .inl (h.connects d fun hdc => hd (by rw [hdc]; rfl)), fun _ _ => .inl (by rw [h.stops]),
      fun i _ hi => h.projections i fun hic => hi (by rw [hic]; rfl)⟩
  · rintro k l call t rfl - hmove
    have h := stopFrame_move hmove
    exact ⟨fun _ _ => .inl (by rw [h.connects]), fun j hj => .inl (h.stops j fun hjk => hj (by rw [hjk]; rfl)),
      fun _ _ _ => by rw [h.projections]⟩
  · rintro i l p t rfl - hmove
    have h := projectionFrame_move hmove
    exact ⟨fun _ _ => .inl (by rw [h.connects]), fun _ _ => .inl (by rw [h.stops]),
      fun j hj _ => h.projections j fun hji => hj (by rw [hji]; rfl)⟩

end ExvVpn.DarwinCore
