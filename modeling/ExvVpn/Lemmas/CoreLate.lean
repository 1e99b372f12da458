import ExvVpn.Lemmas.CoreLock
import ExvVpn.Tools.History

/-!
# Late events of the macOS core

What an event of an operation sets off belongs to the newest accepted operation, as long as the events of an operation are
read and dealt with before a newer operation is accepted. The code secures only a part of this: the final Stop of a failed
operation and a dispatched reconnect look at the generation again.
-/

namespace ExvVpn.DarwinCore

open History Function Option CoreState

/-! ## The property -/

/-- The operation accepted last. -/
def newest : List Entry → Option Nat
  | [] => none
  | .accepted c :: _ => some c
  | _ :: before => newest before

/-- The operation whose status event led to an entry: what a projection publishes, finishes, stops and signals, and the
`ApplyTunnel` of a reconnect. -/
def Entry.eventOf : Entry → Option Nat
  | .published (.projection i) _ => some i
  | .finished (.projection i) => some i
  | .stopTunnel (.projection i) => some i
  | .signalled (.projection i) => some i
  | .applyTunnel _ _ trigger => trigger
  | _ => none

/-- An entry that an event has led to is for the operation accepted last. -/
def Timely (before : List Entry) (e : Entry) : Prop :=
  ∀ i, e.eventOf = some i → newest before = some i

/-! ## The guard -/

/-- The projection has read an event of its operation and is not done with it. -/
def ProjectionPc.handling : ProjectionPc → Bool
  | .connected => true
  | .phase => true
  | .failed _ => true
  | .finished _ => true
  | .signalling => true
  | .cleaning => true
  | .ready => true
  | .sent => true
  | .stopped => true
  | _ => false

/-- The projection will look at the generation before it does anything else. -/
def ProjectionPc.cleans : ProjectionPc → Bool
  | .cleaning => true
  | .stopped => true
  | _ => false

/-- The Connect call has still to look at the generation before it sends `ApplyTunnel`. -/
def ConnectPc.pending : ConnectPc → Bool
  | .checked _ => false
  | .applying _ => false
  | .returned _ => false
  | _ => true

/-- The operation whose signal the worker is about to act on. -/
def WorkerPc.starting : WorkerPc → Option Nat
  | .checked signal => signal.trigger
  | _ => none

variable (s : CoreState)

/-- A projection that is at work on an event will find that its generation is over. -/
def ProjectionsSettled : Prop :=
  ∀ i < s.nextConnect, ∀ p ∈ s.projections i, p.pc.handling = true →
    p.pc.cleans = true ∧ p.generation ≠ s.generation

/-- Another Connect call that an event has set off will find that its generation is over. -/
def CallsSettled (c : Nat) : Prop :=
  ∀ d < s.nextConnect, d ≠ c → ∀ call ∈ s.connects d, call.trigger.isSome = true → call.pc.pending = true →
    call.generation ≠ s.generation

/-- Nothing that an event has set off is under way in the current generation, but the Connect call `c` itself. -/
def Settled (c : Nat) : Prop :=
  ProjectionsSettled s ∧ CallsSettled s c ∧ ∀ d ∈ s.worker.driving, d.2.isSome = true → d.1 ≠ s.generation

instance (s : CoreState) : Decidable (ProjectionsSettled s) := by
  unfold ProjectionsSettled
  infer_instance

instance (s : CoreState) (c : Nat) : Decidable (CallsSettled s c) := by
  unfold CallsSettled
  infer_instance

instance (s : CoreState) (c : Nat) : Decidable (Settled s c) := by
  unfold Settled
  infer_instance

/-- A projection reads an event of its operation only while no newer one was accepted, or the event is an error and no
operation is live; an operation is accepted only when everything before it is settled; and the worker starts on the
signal of an operation only while no newer one was accepted. -/
def keepsEvents : CoreLabel → Prop
  | .projection i (.message operation event) =>
    operation = i → newest s.trace = some i ∨ (∃ retryable, event = .error retryable) ∧ s.stats.live = false
  | .connectCall c (.reply true) => Settled s c
  | .worker .load => ∀ i ∈ s.worker.starting, newest s.trace = some i
  | _ => True

instance (s : CoreState) (label : CoreLabel) : Decidable (keepsEvents s label) := by
  unfold keepsEvents
  split <;> infer_instance

/-! ## The invariant -/

/-- The part of the state that late events meet in. -/
structure LateView where
  generation : Nat
  connects : Nat → Option ConnectCall
  projections : Nat → Option Projection
  worker : WorkerPc
  trace : List Entry

def CoreState.lateView : LateView := ⟨s.generation, s.connects, s.projections, s.worker, s.trace⟩

/-- Everything that an event has set off is for the newest operation or of a generation that is over. -/
structure LateView.Sound (v : LateView) : Prop where
  each : Each Timely v.trace
  bound : ∀ i p, v.projections i = some p → p.generation ≤ v.generation
  handled : ∀ i p, v.projections i = some p → p.pc.handling = true →
    newest v.trace = some i ∨ p.pc.cleans = true ∧ p.generation < v.generation
  calls : ∀ c call, v.connects c = some call → call.generation ≤ v.generation
  pending : ∀ c call, v.connects c = some call → call.pc.pending = true →
    ∀ i, call.trigger = some i → newest v.trace = some i ∨ call.generation < v.generation
  checked : ∀ c call, v.connects c = some call → ∀ session, call.pc = .checked session →
    ∀ i, call.trigger = some i → newest v.trace = some i
  driving : ∀ g t, v.worker.driving = some (g, t) →
    g ≤ v.generation ∧ ∀ i, t = some i → newest v.trace = some i ∨ g < v.generation

variable {i : Nat} {p : Projection} {c : Nat} {call : ConnectCall} {w : WorkerPc}

namespace CoreLateAux

open OptionMap (forall_update forall_update_some)

variable {v : LateView}

/-! ## Changes that keep it -/

/-- An entry that fits and accepts no operation. -/
theorem sound_record (h : v.Sound) {e : Entry} (he : Timely v.trace e) (hsame : newest (e :: v.trace) = newest v.trace) :
    LateView.Sound { v with trace := e :: v.trace } := by
  refine ⟨⟨he, h.each⟩, h.bound, ?_, h.calls, ?_, ?_, ?_⟩
  · simpa [hsame] using h.handled
  · simpa [hsame] using h.pending
  · simpa [hsame] using h.checked
  · simpa [hsame] using h.driving

/-- An entry that no event has led to. -/
theorem timely_of_none {before : List Entry} {e : Entry} (he : e.eventOf = none) : Timely before e := by
  intro i hi
  rw [he] at hi
  cases hi

theorem sound_projection (h : v.Sound) {p : Option Projection}
    (hp : ∀ q, p = some q → q.generation ≤ v.generation ∧ (q.pc.handling = true →
      newest v.trace = some i ∨ q.pc.cleans = true ∧ q.generation < v.generation)) :
    LateView.Sound { v with projections := update v.projections i p } :=
  { h with
    bound := forall_update (fun j q hj _ => h.bound j q hj) fun q hq => (hp q hq).1
    handled := forall_update (fun j q hj _ => h.handled j q hj) fun q hq => (hp q hq).2 }

theorem sound_connect (h : v.Sound) (hbound : call.generation ≤ v.generation)
    (hpending : call.pc.pending = true →
      ∀ i, call.trigger = some i → newest v.trace = some i ∨ call.generation < v.generation)
    (hchecked : ∀ session, call.pc = .checked session → ∀ i, call.trigger = some i → newest v.trace = some i) :
    LateView.Sound { v with connects := update v.connects c (some call) } :=
  ⟨h.each, h.bound, h.handled, forall_update_some h.calls hbound, forall_update_some h.pending hpending,
    forall_update_some h.checked hchecked, h.driving⟩

theorem sound_worker (h : v.Sound) (hw : ∀ g t, w.driving = some (g, t) →
      g ≤ v.generation ∧ ∀ i, t = some i → newest v.trace = some i ∨ g < v.generation) :
    LateView.Sound { v with worker := w } :=
  { h with driving := hw }

/-- The worker does not drive a reconnect. -/
theorem sound_rest (h : v.Sound) (hw : w.driving = none) : LateView.Sound { v with worker := w } := by
  refine sound_worker h ?_
  intro g t hdriving
  rw [hw] at hdriving
  cases hdriving

/-- The generation is advanced. -/
theorem sound_advance (h : v.Sound) : LateView.Sound { v with generation := v.generation + 1 } := by
  refine ⟨h.each, ?_, ?_, ?_, ?_, h.checked, ?_⟩
  · intro i p hi
    exact Nat.le_succ_of_le (h.bound i p hi)
  · intro i p hi hhandling
    exact (h.handled i p hi hhandling).imp_right fun ⟨hcleans, hlt⟩ => ⟨hcleans, Nat.lt_succ_of_lt hlt⟩
  · intro c call hc
    exact Nat.le_succ_of_le (h.calls c call hc)
  · intro c call hc hpending i hi
    exact (h.pending c call hc hpending i hi).imp_right Nat.lt_succ_of_lt
  · intro g t hdriving
    obtain ⟨hle, hnew⟩ := h.driving g t hdriving
    exact ⟨Nat.le_succ_of_le hle, fun i hi => (hnew i hi).imp_right Nat.lt_succ_of_lt⟩

variable {s} {t : CoreState}

variable (h : s.lateView.Sound)
include h

/-- A settled operation is accepted: whatever an earlier event has set off is of a generation that is over. -/
theorem sound_accept (hlock : s.lockView.Sound)
    {session : EngineSession} (hc : s.connects c = some call) (hpc : call.pc = .applying session) (hset : Settled s c) :
    LateView.Sound
      { s.lateView with
        connects := update s.connects c (some { call with pc := .returned true })
        projections := update s.projections c (some ⟨s.generation, session, .waiting⟩)
        trace := .published (.connect c) ⟨.connecting, some (.connect c)⟩ :: .accepted c :: s.trace } := by
  have hholds : call.pc.holds = true := by rw [hpc]; rfl
  have hover : ∀ {g : Nat}, g ≤ s.generation → g ≠ s.generation → g < s.generation := fun hle hne => by omega
  refine ⟨⟨timely_of_none rfl, timely_of_none rfl, h.each⟩, forall_update_some h.bound Nat.le.refl,
    forall_update ?_ ?_, forall_update_some h.calls (h.calls c call hc), forall_update ?_ ?_, forall_update ?_ ?_, ?_⟩
  · intro i p hi _ hhandling
    obtain ⟨hcleans, hne⟩ := hset.1 i (hlock.known i p hi) p hi hhandling
    exact .inr ⟨hcleans, hover (h.bound i p hi) hne⟩
  · intro p hp hhandling
    obtain rfl := some.inj hp
    cases hhandling
  · intro d x hd hdc hpending i hi
    have hsome : x.trigger.isSome = true := by rw [hi]; rfl
    exact .inr (hover (h.calls d x hd) (hset.2.1 d (hlock.issued d x hd) hdc x hd hsome hpending))
  · intro x hx hpending
    obtain rfl := some.inj hx
    cases hpending
  · intro d x hd hdc σ hσ
    have hactor := some.inj ((hlock.connect d x hd (by rw [hσ]; rfl)).symm.trans (hlock.connect c call hc hholds))
    exact absurd (Actor.connect.inj hactor) hdc
  · intro x hx σ hσ
    obtain rfl := some.inj hx
    cases hσ
  · intro g t hdriving
    refine ⟨(h.driving g t hdriving).1, ?_⟩
    intro i hi
    subst hi
    exact .inr (hover (h.driving g _ hdriving).1 (hset.2.2 (g, some i) hdriving rfl))

/-! ## Steps -/

theorem sound_connectMove (hlock : s.lockView.Sound) {pc : ConnectPc} {label : ConnectLabel}
    (hc : s.connects c = some call) (hpc : call.pc = pc) (hmove : ConnectMove s c call pc label t)
    (hguard : label = .reply true → Settled s c) : t.lateView.Sound := by
  have hbound : call.generation ≤ s.generation := h.calls c _ hc
  have hpending : pc.pending = true →
      ∀ i, call.trigger = some i → newest s.trace = some i ∨ call.generation < s.generation := hpc ▸ h.pending c _ hc
  cases hmove with
  | same => exact h
  | refuse | fail => exact sound_connect h hbound nofun nofun
  | lock => exact sound_connect (sound_record h (timely_of_none rfl) rfl) hbound (fun _ => hpending rfl) nofun
  | recheck hsame =>
    refine sound_connect h hbound nofun ?_
    intro _ _ i hi
    exact (hpending rfl i hi).resolve_right (by omega)
  | @apply session =>
    have htimely : Timely s.trace (.applyTunnel c call.generation call.trigger) := h.checked c _ hc session hpc
    exact sound_connect (sound_record h htimely rfl) hbound nofun nofun
  | accept => exact sound_accept h hlock hc hpc (hguard rfl)
  | _ =>
    -- The call stays in front of its second look at the generation.
    exact sound_connect h hbound (fun _ => hpending rfl) nofun

theorem sound_stopMove {k : Nat} {call : StopCall} {pc : StopPc} {label : StopLabel}
    (hmove : StopMove s k call pc label t) : t.lateView.Sound := by
  have hfinished : (s.finishOperation (.stop k)).lateView.Sound := sound_record h (timely_of_none rfl) rfl
  cases hmove with
  | same | refuse | fail | attach | stopped => exact h
  | lost | finish => exact sound_record hfinished (timely_of_none rfl) rfl
  | _ => exact sound_record h (timely_of_none rfl) rfl

/-- A projection moves, and is that of the newest operation if it is at work on an event. -/
theorem sound_move {pc' : ProjectionPc} (hi : s.projections i = some p)
    (hnew : pc'.handling = true → newest s.trace = some i) :
    (s.setProjection i (some { p with pc := pc' })).lateView.Sound := by
  refine sound_projection h ?_
  rintro q ⟨⟩
  exact ⟨h.bound i p hi, fun hhandling => .inl (hnew hhandling)⟩

theorem sound_projectionMove {pc : ProjectionPc} {label : ProjectionLabel} (hi : s.projections i = some p)
    (hpc : p.pc = pc) (hmove : ProjectionMove s i p pc label t) (hguard : keepsEvents s (.projection i label)) :
    t.lateView.Sound := by
  have hhandled : pc.handling = true →
      newest s.trace = some i ∨ pc.cleans = true ∧ p.generation < s.generation := hpc ▸ h.handled i _ hi
  -- Before its cleanup the projection is that of the newest operation.
  have hnewest : pc.handling = true → pc.cleans = false → newest s.trace = some i := by
    intro hhandling hcleans
    refine (hhandled hhandling).resolve_right fun hover => ?_
    cases hcleans.symm.trans hover.1
  have hcurrent : pc.handling = true → p.generation = s.generation → newest s.trace = some i := by
    intro hhandling hsame
    exact (hhandled hhandling).resolve_right fun hover => by omega
  have htimely : newest s.trace = some i → ∀ e : Entry, e.eventOf = some i → Timely s.trace e := by
    intro hnew e he j hj
    rw [← he.symm.trans hj]
    exact hnew
  have hrecord : ∀ e : Entry, Timely s.trace e → newest (e :: s.trace) = newest s.trace → (s.record e).lateView.Sound :=
    fun e he hsame => sound_record h he hsame
  cases hmove with
  | same => exact h
  | phase | connected =>
    rcases hguard rfl with hnew | ⟨⟨_, herror⟩, _⟩
    · exact sound_move h hi fun _ => hnew
    · cases herror
  | error hlive =>
    rcases hguard rfl with hnew | ⟨_, hdead⟩
    · exact sound_move h hi fun _ => hnew
    · cases hdead.symm.trans hlive
  | showPhase | showConnected | finish =>
    have hnew := hnewest rfl rfl
    exact sound_move (hrecord _ (htimely hnew _ rfl) rfl) hi fun _ => hnew
  | stopping | send =>
    have hnew := hnewest rfl rfl
    exact sound_move (hrecord _ (htimely hnew _ rfl) rfl) hi fun _ => hnew
  | signal => exact sound_projection (hrecord _ (htimely (hnewest rfl rfl) _ rfl) rfl) nofun
  | lock _ hsame => exact sound_move h hi fun _ => hcurrent rfl hsame
  | stopped => exact sound_move h hi fun _ => hnewest rfl rfl
  | giveUp | failed => exact sound_projection h nofun
  | publishClean hsame => exact sound_projection (hrecord _ (htimely (hcurrent rfl hsame) _ rfl) rfl) nofun
  | look hnext =>
    refine sound_move h hi fun hhandling => ?_
    rcases hnext with rfl | rfl <;> cases hhandling
  | close | keepSlot => exact sound_move h hi nofun
  | finishLost | publishLost | clearSlot => exact sound_move (hrecord _ (timely_of_none rfl) rfl) hi nofun
  | abortTicker => exact sound_projection (hrecord _ (timely_of_none rfl) rfl) nofun

theorem sound_taskMove {label : CoreLabel} (hmove : TaskMove s label t) (hguard : keepsEvents s label) :
    t.lateView.Sound := by
  cases hmove with
  | goOn hdriving =>
    refine sound_worker h fun g trigger hdrives => ?_
    rcases hdriving with hnone | hsame
    · cases hnone.symm.trans hdrives
    · exact h.driving g trigger (hsame.symm.trans hdrives)
  | load hworker =>
    refine sound_worker h ?_
    rintro g trigger ⟨⟩
    refine ⟨Nat.le.refl, fun i hi => .inl (hguard i ?_)⟩
    rw [hworker]
    exact hi
  | dispatch hdriving hworker =>
    have hnew := h.driving _ _ hdriving
    exact sound_rest (sound_connect h hnew.1 (fun _ => hnew.2) (by rintro _ ⟨⟩)) hworker.1
  | finishReconnect | reconnectFailed => exact sound_rest h rfl
  | publishFailed => exact sound_rest (sound_record h (timely_of_none rfl) rfl) rfl
  | publishFinished | signalAwake => exact sound_record h (timely_of_none rfl) rfl
  | endFinish | beginStop | settle => exact h
  | connect => exact sound_connect (sound_advance h) Nat.le.refl nofun nofun
  | stop | cancel | stopAsleep => exact sound_advance h

end CoreLateAux

open CoreLateAux

/-- One guarded step of the core keeps what late events have set off out of newer operations. -/
theorem lateSound_coreStep (s : CoreState) (label : CoreLabel) (h : s.lateView.Sound) (hlock : s.lockView.Sound)
    (hguard : keepsEvents s label) : (coreStep s label).lateView.Sound := by
  refine coreStep_cases (motive := fun t => t.lateView.Sound) s label h ?_ ?_ ?_ ?_ ?_
  · exact fun t _ hmove => sound_taskMove h hmove hguard
  · rintro c l call t rfl hc hmove
    refine sound_connectMove h hlock hc rfl hmove ?_
    rintro rfl
    exact hguard
  · exact fun k l call t _ _ hmove => sound_stopMove h hmove
  · rintro i l p t rfl hi hmove
    exact sound_projectionMove h hi rfl hmove hguard
  · exact fun _ _ => sound_record h (timely_of_none rfl) rfl

end ExvVpn.DarwinCore
