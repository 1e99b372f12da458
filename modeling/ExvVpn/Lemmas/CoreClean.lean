import ExvVpn.Lemmas.CoreLock

/-!
# `FailedClean` of the macOS core

Before the core publishes `FailedClean` something has told it that the engine holds nothing: a projection or a final cleanup
got `Stopped` in its generation, there is no session, or a reconnect failed. `P` is what was true then and has to be true
still at the publication.
-/

namespace ExvVpn.DarwinCore

open Function CoreState FinishPc

open OptionMap (forall_update forall_update_some)

/-! ## The invariant -/

/-- The Connect call has a session. -/
def ConnectPc.seated : ConnectPc → Bool
  | .attaching _ => true
  | .attached _ => true
  | .checked _ => true
  | .applying _ => true
  | _ => false

/-- The status stream of the projection has ended. -/
def ProjectionPc.ended : ProjectionPc → Bool
  | .closed => true
  | .lost => true
  | .lostFinished => true
  | .clearing => true
  | .aborting => true
  | _ => false

def returned (stops : Nat → Option StopCall) (k : Nat) : Option StopResult :=
  match stops k with
  | some ⟨_, _, .returned result⟩ => some result
  | _ => none

/-- The final cleanup is going to publish `FailedClean`, if the generation stays. -/
def FinishPc.announces (generation : Nat) (stops : Nat → Option StopCall) : FinishPc → Bool
  | .starting _ => false
  | .stopping g _ k => g = generation && (returned stops k).any (· ≠ .failed)
  | .clean _ => true

/-- The final cleanup belongs to a generation that has begun. -/
def FinishPc.begun (generation : Nat) : FinishPc → Prop
  | .stopping g _ _ => g ≤ generation
  | _ => True

/-- The projection is going to publish `FailedClean`, if the generation stays. -/
def Projection.announces (generation : Nat) (p : Projection) : Bool :=
  p.pc = .stopped && p.generation = generation

/-- A dispatched reconnect has failed in its generation. -/
def CoreState.reconnectFailed (s : CoreState) : Bool :=
  match s.worker with
  | .dispatching generation c => generation = s.generation && s.connectResult c = some false
  | _ => false

/-- The steps by which the core comes to think that the engine holds nothing. A session that is there is alive, and no
status stream ends. -/
def keepsPromise (P : Prop) (s : CoreState) : CoreLabel → Prop
  | .connectCall _ (.reuse alive) => s.session.isSome = true → alive = true
  | .stopCall _ (.checkGeneration alive) => s.session.isSome = true → alive = true
  | .projection _ .close => False
  | .projection _ (.reply stopped) => stopped = true → P
  | .worker .conclude => s.reconnectFailed = true → P
  | _ => True

/-- The part of the state from which `FailedClean` is published. -/
structure CleanView where
  generation : Nat
  session : Option EngineSession
  connects : Nat → Option ConnectCall
  stops : Nat → Option StopCall
  projections : Nat → Option Projection
  finishes : Nat → Option FinishPc
  nextFinish : Nat
  worker : WorkerPc

def CoreState.cleanView (s : CoreState) : CleanView :=
  ⟨s.generation, s.session, s.connects, s.stops, s.projections, s.finishes, s.nextFinish, s.worker⟩

/-- Whoever is going to publish `FailedClean` is right. -/
structure CleanView.Sound (P : Prop) (v : CleanView) : Prop where
  seated : ∀ c call, v.connects c = some call → call.pc.seated = true → v.session.isSome = true
  absent : v.session = none → P
  projection : ∀ i p, v.projections i = some p →
    p.pc.ended = false ∧ p.generation ≤ v.generation ∧ (p.announces v.generation = true → P)
  finish : ∀ f pc, v.finishes f = some pc →
    f < v.nextFinish ∧ pc.begun v.generation ∧ (pc.announces v.generation v.stops = true → P)
  worker : v.worker.announces = true → P

/-- Nobody is going to publish `FailedClean`. -/
structure NothingAnnounced (s : CoreState) : Prop where
  projections : ∀ i < s.nextConnect, ∀ p ∈ s.projections i, p.announces s.generation = false
  finishes : ∀ f < s.nextFinish, ∀ pc ∈ s.finishes f, pc.announces s.generation s.stops = false
  worker : s.worker.announces = false

instance (s : CoreState) : Decidable (NothingAnnounced s) :=
  decidable_of_iff
    ((∀ i < s.nextConnect, ∀ p ∈ s.projections i, p.announces s.generation = false) ∧
      (∀ f < s.nextFinish, ∀ pc ∈ s.finishes f, pc.announces s.generation s.stops = false) ∧
      s.worker.announces = false)
    ⟨fun h => ⟨h.1, h.2.1, h.2.2⟩, fun h => ⟨h.projections, h.finishes, h.worker⟩⟩

theorem CleanView.Sound.mono {P Q : Prop} {v : CleanView} (h : v.Sound P) (hPQ : P → Q) : v.Sound Q :=
  ⟨h.seated, fun hnone => hPQ (h.absent hnone),
    fun i p hi => ⟨(h.projection i p hi).1, (h.projection i p hi).2.1, fun ha => hPQ ((h.projection i p hi).2.2 ha)⟩,
    fun f pc hf => ⟨(h.finish f pc hf).1, (h.finish f pc hf).2.1, fun ha => hPQ ((h.finish f pc hf).2.2 ha)⟩,
    fun ha => hPQ (h.worker ha)⟩

/-- If there is a session and nobody is going to publish `FailedClean`, anything may become true. -/
theorem CleanView.Sound.of_nothingAnnounced {P Q : Prop} {s : CoreState} (h : s.cleanView.Sound P)
    (hlock : s.lockView.Sound) (hsession : s.session.isSome = true) (hnothing : NothingAnnounced s) :
    s.cleanView.Sound Q := by
  refine ⟨h.seated, fun hnone => ?_, fun i p hi => ?_, fun f pc hf => ?_, fun ha => ?_⟩
  · rw [show s.session = none from hnone] at hsession
    cases hsession
  · obtain ⟨hopen, hle, -⟩ := h.projection i p hi
    refine ⟨hopen, hle, fun ha => ?_⟩
    cases (hnothing.projections i (hlock.known i p hi) p hi).symm.trans ha
  · obtain ⟨hlt, hbegun, -⟩ := h.finish f pc hf
    refine ⟨hlt, hbegun, fun ha => ?_⟩
    cases (hnothing.finishes f hlt pc hf).symm.trans ha
  · cases hnothing.worker.symm.trans ha

variable {pc : FinishPc} {call : StopCall} {k i : Nat} {p : Projection} {f : Nat}

namespace CoreCleanAux

variable {P : Prop} {v : CleanView}

/-! ## Changes that keep it -/

theorem begun_mono {g g' : Nat} (h : pc.begun g) (hg : g ≤ g') : pc.begun g' := by
  cases pc with
  | stopping => exact Nat.le_trans h hg
  | _ => trivial

section

variable (h : v.Sound P)
include h

/-- In a new generation only a cleanup that has seen its Stop call return goes on to publish. -/
theorem sound_grow {g : Nat} (hg : v.generation < g) : CleanView.Sound P { v with generation := g } := by
  refine ⟨h.seated, h.absent, fun i p hi => ?_, fun f pc hf => ?_, h.worker⟩
  · obtain ⟨hopen, hle, _⟩ := h.projection i p hi
    refine ⟨hopen, Nat.le_trans hle (Nat.le_of_lt hg), fun hannounces => ?_⟩
    simp only [Projection.announces, Bool.and_eq_true, decide_eq_true_eq] at hannounces
    omega
  · obtain ⟨hlt, hbegun, hclean⟩ := h.finish f pc hf
    refine ⟨hlt, begun_mono hbegun (Nat.le_of_lt hg), fun hannounces => ?_⟩
    cases pc with
    | starting => cases hannounces
    | stopping g' operation k =>
      have hle : g' ≤ v.generation := hbegun
      simp only [announces, Bool.and_eq_true, decide_eq_true_eq] at hannounces
      omega
    | clean => exact hclean rfl

theorem sound_connect {c : Nat} {call : ConnectCall} (hcall : call.pc.seated = true → v.session.isSome = true) :
    CleanView.Sound P { v with connects := update v.connects c (some call) } :=
  { h with seated := forall_update_some h.seated hcall }

/-- A Stop call moves: if it returns what a cleanup waits for, that has to be right. -/
theorem sound_stop
    (hcall : ∀ result, call.pc = .returned result → result ≠ .failed → P) :
    CleanView.Sound P { v with stops := update v.stops k (some call) } := by
  refine { h with finish := fun f pc hf => ?_ }
  obtain ⟨hlt, hbegun, hclean⟩ := h.finish f pc hf
  refine ⟨hlt, hbegun, fun hannounces => ?_⟩
  cases pc with
  | starting => cases hannounces
  | stopping g operation j =>
    by_cases hjk : j = k
    · subst hjk
      obtain ⟨generation, preserve, pc⟩ := call
      simp only [announces, returned, update_self, Bool.and_eq_true] at hannounces
      cases pc with
      | returned result => exact hcall result rfl (by simpa using hannounces.2)
      | _ => simp at hannounces
    · exact hclean (by simpa only [announces, returned, update_of_ne hjk] using hannounces)
  | clean => exact hclean rfl

theorem sound_projection {p : Option Projection}
    (hp : ∀ q, p = some q → q.pc.ended = false ∧ q.generation ≤ v.generation ∧ (q.pc = .stopped → P)) :
    CleanView.Sound P { v with projections := update v.projections i p } := by
  refine { h with projection := forall_update (fun j q hj _ => h.projection j q hj) ?_ }
  intro q hq
  obtain ⟨hopen, hle, hstopped⟩ := hp q hq
  refine ⟨hopen, hle, fun hannounces => hstopped ?_⟩
  simp only [Projection.announces, Bool.and_eq_true, decide_eq_true_eq] at hannounces
  exact hannounces.1

/-- A projection ends. -/
theorem sound_gone (i : Nat) : CleanView.Sound P { v with projections := update v.projections i none } :=
  sound_projection h nofun

theorem sound_finish {pc : Option FinishPc}
    (hpc : ∀ q, pc = some q → f < v.nextFinish ∧ q.begun v.generation ∧
      (q.announces v.generation v.stops = true → P)) :
    CleanView.Sound P { v with finishes := update v.finishes f pc } :=
  { h with finish := forall_update (fun j q hj _ => h.finish j q hj) hpc }

/-- A new final cleanup. -/
theorem sound_addFinish (generation : Nat) :
    CleanView.Sound P { v with
      finishes := update v.finishes v.nextFinish (some (.starting generation))
      nextFinish := v.nextFinish + 1 } := by
  have hgrown : CleanView.Sound P { v with nextFinish := v.nextFinish + 1 } :=
    { h with finish := fun f pc hf => ⟨Nat.lt_succ_of_lt (h.finish f pc hf).1, (h.finish f pc hf).2⟩ }
  refine sound_finish hgrown ?_
  rintro q ⟨⟩
  exact ⟨Nat.lt_succ_self _, trivial, nofun⟩

theorem sound_worker {w : WorkerPc} (hw : w.announces = true → P) : CleanView.Sound P { v with worker := w } :=
  { h with worker := hw }

/-- A new session is there. -/
theorem sound_launch (session : EngineSession) : CleanView.Sound P { v with session := some session } :=
  ⟨fun _ _ _ _ => rfl, nofun, h.projection, h.finish, h.worker⟩

end

/-! ## Steps -/

variable {s t : CoreState}

/-- A session that is there is alive, so a Stop call that finds none alive finds none. -/
theorem session_none_of_lost {alive : Bool} (hguard : keepsPromise P s (.stopCall k (.checkGeneration alive)))
    (hlost : ¬(s.session.isSome && alive) = true) : s.session = none := by
  by_contra hsome
  have hisSome : s.session.isSome = true := Option.isSome_iff_ne_none.mpr hsome
  exact hlost (by rw [hguard hisSome, Bool.and_true]; exact hisSome)

variable (h : s.cleanView.Sound P)
include h

theorem sound_connectMove {c : Nat} {call : ConnectCall} {pc : ConnectPc} {label : ConnectLabel}
    (hc : s.connects c = some call) (hpc : call.pc = pc) (hmove : ConnectMove s c call pc label t)
    (hguard : keepsPromise P s (.connectCall c label)) : t.cleanView.Sound P := by
  have hseated : pc.seated = true → s.session.isSome = true := hpc ▸ h.seated c _ hc
  cases hmove with
  | same => exact h
  | reuse hsession => exact sound_connect h fun _ => by rw [show s.cleanView.session = _ from hsession]; rfl
  | discard hsession => cases hguard hsession
  | launched => exact sound_connect (sound_launch h _) fun _ => rfl
  | attach | recheck | apply => exact sound_connect h fun _ => hseated rfl
  | @accept session =>
    refine sound_connect (sound_projection h (i := c) (p := some ⟨s.generation, session, .waiting⟩) ?_) nofun
    rintro q ⟨⟩
    exact ⟨rfl, Nat.le.refl, nofun⟩
  | _ => exact sound_connect h nofun

theorem sound_stopMove {pc : StopPc} {label : StopLabel} (hmove : StopMove s k call pc label t)
    (hguard : keepsPromise P s (.stopCall k label)) (hconfirmed : pc.confirmed = true → P) : t.cleanView.Sound P := by
  cases hmove with
  | same => exact h
  | refuse | fail =>
    refine sound_stop h ?_
    rintro _ ⟨⟩ hresult
    exact absurd rfl hresult
  | lost hlost =>
    have hnone : s.session = none := session_none_of_lost hguard hlost
    have hP : P := h.absent hnone
    have hstop : (s.setStop k { call with pc := .returned .lost }).cleanView.Sound P :=
      sound_stop h fun _ _ _ => hP
    refine { hstop with seated := fun c x hc hx => ?_, absent := fun _ => hP }
    cases (congrArg Option.isSome hnone).symm.trans (h.seated c x hc hx)
  | finish => exact sound_stop h fun _ _ _ => hconfirmed rfl
  | _ => exact sound_stop h nofun

theorem sound_projectionMove {pc : ProjectionPc} {label : ProjectionLabel} (hi : s.projections i = some p)
    (hpc : p.pc = pc) (hmove : ProjectionMove s i p pc label t) (hguard : keepsPromise P s (.projection i label)) :
    t.cleanView.Sound P := by
  obtain ⟨hopen, hle, -⟩ := h.projection i _ hi
  rw [hpc] at hopen
  have hmoved : ∀ pc' : ProjectionPc, pc'.ended = false → pc' ≠ .stopped →
      (s.setProjection i (some { p with pc := pc' })).cleanView.Sound P := by
    intro pc' hended hpc
    refine sound_projection h ?_
    rintro q ⟨⟩
    exact ⟨hended, hle, fun hstopped => absurd hstopped hpc⟩
  cases hmove with
  | same => exact h
  | stopping hnext =>
    rcases hnext with rfl | rfl
    · exact hmoved _ rfl (by rintro ⟨⟩)
    · exact hmoved _ rfl (by rintro ⟨⟩)
  | signal | giveUp | failed | publishClean => exact sound_gone h i
  | stopped =>
    refine sound_projection h ?_
    rintro q ⟨⟩
    exact ⟨rfl, hle, fun _ => hguard rfl⟩
  -- No status stream ends.
  | close => exact hguard.elim
  | look | finishLost | publishLost => cases hopen
  | clearSlot | keepSlot | abortTicker => cases hopen
  | _ => exact hmoved _ rfl (by rintro ⟨⟩)

theorem sound_taskMove {label : CoreLabel} (hmove : TaskMove s label t) (hguard : keepsPromise P s label) :
    t.cleanView.Sound P := by
  have hgrown := sound_grow h (Nat.lt_succ_self _)
  cases hmove with
  | goOn _ hannounces => exact sound_worker h fun ha => h.worker (hannounces ha)
  | load | publishFailed => exact sound_worker h nofun
  | @finishReconnect _ generation => exact sound_worker (sound_addFinish h generation) nofun
  | dispatch _ hworker => exact sound_worker (sound_connect h (by rintro ⟨⟩)) fun ha => by cases hworker.2.symm.trans ha
  | reconnectFailed hworker hresult =>
    refine sound_worker h fun _ => hguard ?_
    simp [reconnectFailed, hworker, hresult]
  | endFinish | publishFinished => exact sound_finish h nofun
  | @beginStop _ f operation hf =>
    have hstop : (s.addStop s.generation false).cleanView.Sound P := sound_stop h nofun
    refine sound_finish hstop ?_
    rintro q ⟨⟩
    refine ⟨(h.finish f _ hf).1, Nat.le.refl, fun hannounces => ?_⟩
    simp [announces, returned, cleanView, addStop, setStop] at hannounces
  | @settle _ f operation k result hf hresult hstopped =>
    obtain ⟨hlt, -, hclean⟩ := h.finish f _ hf
    have hannounces : announces s.generation s.stops (.stopping s.generation operation k) = true := by
      have hreturned : returned s.stops k = some result := hresult
      simp [announces, hreturned, hstopped]
    refine sound_finish h ?_
    rintro q ⟨⟩
    exact ⟨hlt, trivial, fun _ => hclean hannounces⟩
  | connect => exact sound_connect hgrown nofun
  | stop | stopAsleep => exact sound_stop hgrown nofun
  | cancel => exact sound_addFinish hgrown _
  | signalAwake => exact h

end CoreCleanAux

open CoreCleanAux

/-- One step of the core promises nothing wrong. -/
theorem cleanSound_coreStep {P : Prop} (s : CoreState) (label : CoreLabel) (h : s.cleanView.Sound P)
    (hguard : keepsPromise P s label) (hconfirmed : ∀ k call, s.stops k = some call → call.pc.confirmed = true → P) :
    (coreStep s label).cleanView.Sound P := by
  refine coreStep_cases (motive := fun t => t.cleanView.Sound P) s label h ?_ ?_ ?_ ?_ fun _ _ => h
  · exact fun t _ hmove => sound_taskMove h hmove hguard
  · rintro c l call t rfl hc hmove
    exact sound_connectMove h hc rfl hmove hguard
  · rintro k l call t rfl hk hmove
    exact sound_stopMove h hmove hguard (hconfirmed k call hk)
  · rintro i l p t rfl hi hmove
    exact sound_projectionMove h hi rfl hmove hguard

/-! ## Publications -/

/-- The entry is a published `FailedClean`. -/
def Entry.isFailedClean : Entry → Bool
  | .published _ ⟨.failedClean, _⟩ => true
  | _ => false

/-- If the step from one history to the next has published `FailedClean`, then `P`. -/
def Promised (P : Prop) (before after : List Entry) : Prop :=
  ∀ fresh, after = fresh ++ before → ∀ e ∈ fresh, e.isFailedClean = true → P

namespace CoreCleanAux

variable {P : Prop} {s t : CoreState}

theorem promised_of {before after : List Entry} (entries : List Entry) (hafter : after = entries ++ before)
    (hentries : ∀ e ∈ entries, e.isFailedClean = false) : Promised P before after := by
  intro fresh hfresh e he hclean
  obtain rfl : entries = fresh := List.append_cancel_right (hafter.symm.trans hfresh)
  cases (hentries e he).symm.trans hclean

theorem promised_same (before : List Entry) : Promised P before before := promised_of [] rfl (by simp)

theorem promised_entry (before : List Entry) {e : Entry} (he : e.isFailedClean = false) :
    Promised P before (e :: before) := promised_of [e] rfl (by simpa using he)

theorem promised_right (hP : P) (before after : List Entry) : Promised P before after := fun _ _ _ _ _ => hP

theorem promised_connectMove {c : Nat} {call : ConnectCall} {pc : ConnectPc} {label : ConnectLabel}
    (hmove : ConnectMove s c call pc label t) : Promised P s.trace t.trace := by
  cases hmove with
  | lock | apply => exact promised_entry _ rfl
  | accept =>
    exact promised_of [.published (.connect c) ⟨.connecting, some (.connect c)⟩, .accepted c] rfl
      (by simp [Entry.isFailedClean])
  | _ => exact promised_same _

section

variable (h : s.cleanView.Sound P)
include h

theorem promised_stopMove {pc : StopPc} {label : StopLabel} (hmove : StopMove s k call pc label t)
    (hguard : keepsPromise P s (.stopCall k label)) : Promised P s.trace t.trace := by
  cases hmove with
  | same | refuse | fail | attach | stopped => exact promised_same _
  | lost hlost => exact promised_right (h.absent (session_none_of_lost hguard hlost)) _ _
  | finish => exact promised_of [.stopReturned k, .finished (.stop k)] rfl (by simp [Entry.isFailedClean])
  | _ => exact promised_entry _ rfl

theorem promised_projectionMove {pc : ProjectionPc} {label : ProjectionLabel} (hi : s.projections i = some p)
    (hpc : p.pc = pc) (hmove : ProjectionMove s i p pc label t) : Promised P s.trace t.trace := by
  obtain ⟨hopen, -, hannounces⟩ := h.projection i _ hi
  rw [hpc] at hopen
  cases hmove with
  | same | phase | connected | error | lock => exact promised_same _
  | giveUp | stopped | failed | close => exact promised_same _
  | publishClean hsame => exact promised_right (hannounces (by simp [Projection.announces, hpc, hsame, cleanView])) _ _
  | look | finishLost | publishLost => cases hopen
  | clearSlot | keepSlot | abortTicker => cases hopen
  | _ => exact promised_entry _ rfl

theorem promised_taskMove {label : CoreLabel} (hmove : TaskMove s label t) : Promised P s.trace t.trace := by
  cases hmove with
  | publishFailed hworker =>
    have hP : P := h.worker (by rw [show s.cleanView.worker = _ from hworker]; rfl)
    exact promised_right hP _ _
  | publishFinished hf => exact promised_right ((h.finish _ _ hf).2.2 rfl) _ _
  | signalAwake => exact promised_entry _ rfl
  | _ => exact promised_same _

end

end CoreCleanAux

/-- `FailedClean` is published only by those who are right. -/
theorem promised_coreStep {P : Prop} (s : CoreState) (label : CoreLabel) (h : s.cleanView.Sound P)
    (hguard : keepsPromise P s label) : Promised P s.trace (coreStep s label).trace := by
  refine coreStep_cases (motive := fun t => Promised P s.trace t.trace) s label (promised_same _) ?_ ?_ ?_ ?_
    fun _ _ => promised_entry _ rfl
  · exact fun t _ hmove => promised_taskMove h hmove
  · exact fun c l call t _ _ hmove => promised_connectMove hmove
  · rintro k l call t rfl - hmove
    exact promised_stopMove h hmove hguard
  · exact fun i l p t _ hi hmove => promised_projectionMove h hi rfl hmove

end ExvVpn.DarwinCore
