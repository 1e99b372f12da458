import ExvVpn.Lemmas.CoreLock

/-!
# Whose session the end of a status stream resets

The end of a status stream looks neither at the session in the slot, beyond its process id, nor at that of the ticker. If a
session is set up only when no earlier projection can still reset them, the slot, the ticker, the projections and the Connect
calls under way all belong to one session.
-/

namespace ExvVpn.DarwinCore

open Option CoreState OptionMap

/-- A reset is of the session whose stream has ended. -/
def Entry.ownReset : Entry → Prop
  | .slotCleared owner was => was = owner
  | .tickerAborted owner was => was = owner.id
  | _ => True

/-- The projection will empty the slot and take the ticker when its stream ends. Behind an error of its operation it ends
without a look at either. -/
def ProjectionPc.resets : ProjectionPc → Bool
  | .waiting => true
  | .connected => true
  | .phase => true
  | .closed => true
  | .lost => true
  | .lostFinished => true
  | .clearing => true
  | .aborting => true
  | _ => false

/-- A new session is set up only when no projection has a reset left to do. -/
def launchesAlone (s : CoreState) : CoreLabel → Prop
  | .connectCall c (.launch (some _)) =>
    ∀ call ∈ s.connects c, call.pc = .launching → ∀ i, ∀ p ∈ s.projections i, p.pc.resets = false
  | _ => True

/-- The session that a Connect call is setting up or using. -/
def ConnectPc.session : ConnectPc → Option EngineSession
  | .attaching session => some session
  | .attached session => some session
  | .checked session => some session
  | .applying session => some session
  | _ => none

/-- The slot and the ticker, as far as they are filled, are those of this session. -/
def CoreState.BelongsTo (s : CoreState) (session : EngineSession) : Prop :=
  (∀ x ∈ s.session, x = session) ∧ ∀ x ∈ s.ticker, x = session.id

/-- The slot and the ticker are those of every session that is known, and only such were reset. -/
structure CoreState.OneSession (s : CoreState) : Prop where
  slot : ∀ session ∈ s.session, s.BelongsTo session
  projections : ∀ i p, s.projections i = some p → p.pc.resets = true → s.BelongsTo p.session
  connects : ∀ c call, s.connects c = some call → ∀ session ∈ call.pc.session, s.BelongsTo session
  own : ∀ e ∈ s.trace, e.ownReset

namespace CoreSessionAux

variable {s t : CoreState}

/-- Nothing was put into the slot, and no ticker was started. -/
def Shrinks (s t : CoreState) : Prop := (∀ x ∈ t.session, x ∈ s.session) ∧ ∀ x ∈ t.ticker, x ∈ s.ticker

theorem shrinks_refl (s : CoreState) : Shrinks s s := ⟨fun _ h => h, fun _ h => h⟩

theorem belongsTo_of_shrinks (h : Shrinks s t) {session : EngineSession} (hs : s.BelongsTo session) :
    t.BelongsTo session :=
  ⟨fun x hx => hs.1 x (h.1 x hx), fun x hx => hs.2 x (h.2 x hx)⟩

/-- A step that sets up no session keeps the invariant, if what it adds belongs to the one session. -/
theorem oneSession_of_shrinks (hs : s.OneSession) (h : Shrinks s t)
    (hprojections : ∀ i p, t.projections i = some p → p.pc.resets = true → s.BelongsTo p.session)
    (hconnects : ∀ c call, t.connects c = some call → ∀ session ∈ call.pc.session, s.BelongsTo session)
    (hown : ∀ e ∈ t.trace, e.ownReset) : t.OneSession where
  slot session hsession := belongsTo_of_shrinks h (hs.slot session (h.1 session hsession))
  projections i p hi hpc := belongsTo_of_shrinks h (hprojections i p hi hpc)
  connects c call hc session hsession := belongsTo_of_shrinks h (hconnects c call hc session hsession)
  own := hown

variable (hs : s.OneSession)
include hs

/-- A new entry of the history that is no reset, or one of the own session. -/
theorem own_cons {e : Entry} (he : e.ownReset) : ∀ x ∈ e :: s.trace, x.ownReset := List.forall_mem_cons.mpr ⟨he, hs.own⟩

theorem oneSession_task (ht : TaskFrame s t) : t.OneSession := by
  have hshrinks : Shrinks s t := by
    rw [Shrinks, ht.session, ht.ticker]
    exact shrinks_refl s
  refine oneSession_of_shrinks hs hshrinks (ht.projections ▸ hs.projections) ?_ ?_
  · rcases ht.connects with ⟨hsame, -⟩ | ⟨generation, newSession, trigger, -, -, hnew⟩
    · exact hsame ▸ hs.connects
    · rw [hnew]
      exact forall_update_some hs.connects nofun
  · rcases ht.trace with hsame | hsignal | ⟨actor, operation, hclean⟩
    · exact hsame ▸ hs.own
    · exact hsignal ▸ own_cons hs trivial
    · exact hclean ▸ own_cons hs trivial

theorem oneSession_stopMove {k : Nat} {call : StopCall} {pc : StopPc} {label : StopLabel}
    (hmove : StopMove s k call pc label t) : t.OneSession := by
  have hentry : ∀ e : Entry, e.ownReset → ∀ x ∈ e :: s.trace, x.ownReset := fun e he => own_cons hs he
  cases hmove with
  | same => exact hs
  | refuse | fail | attach | stopped => exact ⟨hs.slot, hs.projections, hs.connects, hs.own⟩
  | lock | stopping | send | publishIdle => exact ⟨hs.slot, hs.projections, hs.connects, hentry _ trivial⟩
  | finish =>
    exact ⟨hs.slot, hs.projections, hs.connects, List.forall_mem_cons.mpr ⟨trivial, hentry _ trivial⟩⟩
  | lost =>
    exact oneSession_of_shrinks hs ⟨nofun, nofun⟩ hs.projections hs.connects
      (List.forall_mem_cons.mpr ⟨trivial, hentry _ trivial⟩)

theorem oneSession_projectionMove {i : Nat} {p : Projection} {pc : ProjectionPc} {label : ProjectionLabel}
    (hi : s.projections i = some p) (hpc : p.pc = pc) (hmove : ProjectionMove s i p pc label t) : t.OneSession := by
  -- The projection moves on and stays one that has resets to do, or it has none left.
  have hbelongs : pc.resets = true → s.BelongsTo p.session := fun h => hs.projections i p hi (hpc ▸ h)
  have hmoved : ∀ next : ProjectionPc, (next.resets = true → pc.resets = true) →
      ∀ j q, Function.update s.projections i (some { p with pc := next }) j = some q → q.pc.resets = true →
        s.BelongsTo q.session := fun next hnext =>
    forall_update_some hs.projections fun hresets => hbelongs (hnext hresets)
  have hgone : ∀ j q, Function.update s.projections i none j = some q → q.pc.resets = true → s.BelongsTo q.session :=
    forall_update (fun j q hj _ => hs.projections j q hj) nofun
  cases hmove with
  | same => exact hs
  | phase | connected | close => exact ⟨hs.slot, hmoved _ fun _ => rfl, hs.connects, hs.own⟩
  | error | lock | stopped => exact ⟨hs.slot, hmoved _ nofun, hs.connects, hs.own⟩
  | look hnext => exact ⟨hs.slot, hmoved _ fun _ => rfl, hs.connects, hs.own⟩
  | showPhase | showConnected | finishLost | publishLost =>
    exact ⟨hs.slot, hmoved _ fun _ => rfl, hs.connects, own_cons hs trivial⟩
  | finish | send => exact ⟨hs.slot, hmoved _ nofun, hs.connects, own_cons hs trivial⟩
  | stopping hnext =>
    refine ⟨hs.slot, hmoved _ fun h => ?_, hs.connects, own_cons hs trivial⟩
    rcases hnext with rfl | rfl <;> cases h
  | signal | publishClean => exact ⟨hs.slot, hgone, hs.connects, own_cons hs trivial⟩
  | giveUp | failed => exact ⟨hs.slot, hgone, hs.connects, hs.own⟩
  | keepSlot => exact ⟨hs.slot, hmoved _ fun _ => rfl, hs.connects, hs.own⟩
  | clearSlot hsession =>
    exact oneSession_of_shrinks hs ⟨nofun, fun _ h => h⟩ (hmoved _ fun _ => rfl) hs.connects
      (own_cons hs ((hbelongs rfl).1 _ hsession))
  | abortTicker hticker =>
    exact oneSession_of_shrinks hs ⟨fun _ h => h, nofun⟩ hgone hs.connects
      (own_cons hs ((hbelongs rfl).2 _ hticker))

/-- The launch of a session: nobody else knows a session. -/
theorem oneSession_launched {c : Nat} {call : ConnectCall} {session : EngineSession} {nextSession : Nat} {oneshot : Bool}
    (hlock : s.lockView.Sound) (hheld : s.lock = some (.connect c))
    (halone : ∀ i, ∀ p ∈ s.projections i, p.pc.resets = false) :
    CoreState.OneSession ({ s with session := some session, nextSession, oneshot, ticker := some session.id }.setConnect c
      { call with pc := .attaching session }) := by
  have hown : ∀ u : CoreState, u.session = some session → u.ticker = some session.id → u.BelongsTo session :=
    fun u hsession hticker => ⟨fun x hx => (some.inj (hsession.symm.trans hx)).symm,
      fun x hx => (some.inj (hticker.symm.trans hx)).symm⟩
  refine ⟨?_, fun i p hi hresets => ?_, forall_update (fun d other hd hdc x hx => ?_) ?_, hs.own⟩
  · rintro _ ⟨⟩
    exact hown _ rfl rfl
  · rw [halone i p hi] at hresets
    cases hresets
  · -- whoever else knows a session holds the lock
    have hholds : other.pc.holds = true := by
      generalize other.pc = pc at hx ⊢
      cases pc <;> first | rfl | cases hx
    have hother := (hlock.connect d other hd hholds).symm.trans hheld
    exact absurd (Actor.connect.inj (some.inj hother)) hdc
  · rintro _ ⟨⟩ x ⟨⟩
    exact hown _ rfl rfl

theorem oneSession_connectMove {c : Nat} {call : ConnectCall} {pc : ConnectPc} {label : ConnectLabel}
    (hlock : s.lockView.Sound) (hc : s.connects c = some call) (hpc : call.pc = pc)
    (hmove : ConnectMove s c call pc label t) (halone : launchesAlone s (.connectCall c label)) : t.OneSession := by
  have hbelongs : ∀ session ∈ pc.session, s.BelongsTo session := hpc ▸ hs.connects c call hc
  have hmoved : ∀ next : ConnectPc, (∀ session ∈ next.session, s.BelongsTo session) →
      ∀ d other, Function.update s.connects c (some { call with pc := next }) d = some other →
        ∀ session ∈ other.pc.session, s.BelongsTo session := fun next hnext => forall_update_some hs.connects hnext
  cases hmove with
  | same => exact hs
  | refuse | fail | admitted | launch => exact ⟨hs.slot, hs.projections, hmoved _ nofun, hs.own⟩
  | lock => exact ⟨hs.slot, hs.projections, hmoved _ nofun, own_cons hs trivial⟩
  | attach | recheck => exact ⟨hs.slot, hs.projections, hmoved _ hbelongs, hs.own⟩
  | apply => exact ⟨hs.slot, hs.projections, hmoved _ hbelongs, own_cons hs trivial⟩
  | reuse hsession =>
    refine ⟨hs.slot, hs.projections, hmoved _ ?_, hs.own⟩
    rintro _ ⟨⟩
    exact hs.slot _ hsession
  | discard => exact oneSession_of_shrinks hs ⟨nofun, nofun⟩ hs.projections (hmoved _ nofun) hs.own
  | launched =>
    exact oneSession_launched hs hlock (hlock.connect c call hc (by rw [hpc]; rfl)) (halone call hc hpc)
  | accept =>
    refine oneSession_of_shrinks hs (shrinks_refl s) (forall_update_some hs.projections fun _ => hbelongs _ rfl)
      (hmoved _ nofun) (List.forall_mem_cons.mpr ⟨trivial, own_cons hs trivial⟩)

end CoreSessionAux

open CoreSessionAux

/-- A step in which no session is set up beside an earlier projection keeps the one session. -/
theorem oneSession_coreStep (s : CoreState) (label : CoreLabel) (hlock : s.lockView.Sound) (hs : s.OneSession)
    (halone : launchesAlone s label) : (coreStep s label).OneSession := by
  refine coreStep_cases (motive := CoreState.OneSession) s label hs ?_ ?_ ?_ ?_ ?_
  · exact fun t _ hmove => oneSession_task hs (taskFrame_of_move hmove)
  · rintro c l call t rfl hc hmove
    exact oneSession_connectMove hs hlock hc rfl hmove halone
  · exact fun k l call t _ _ hmove => oneSession_stopMove hs hmove
  · exact fun i l p t _ hi hmove => oneSession_projectionMove hs hi rfl hmove
  · exact fun _ _ => ⟨hs.slot, hs.projections, hs.connects, own_cons hs trivial⟩

end ExvVpn.DarwinCore
