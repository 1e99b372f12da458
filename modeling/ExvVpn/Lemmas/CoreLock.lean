import ExvVpn.Lemmas.CoreFrame
import ExvVpn.Tools.OptionMap
import ExvVpn.Tools.Transition

/-!
# The session lock of the macOS core

Who is inside a section of the session lock holds it, in every state that the core reaches; and a projection belongs to
a Connect call that was made.
-/

namespace ExvVpn.DarwinCore

open Function Option CoreState CoreLabel

/-! ## The invariant -/

/-- The part of the state that the session lock is about. -/
structure LockView where
  lock : Option Actor
  connects : Nat → Option ConnectCall
  nextConnect : Nat
  stops : Nat → Option StopCall
  nextStop : Nat
  projections : Nat → Option Projection

def CoreState.lockView (s : CoreState) : LockView :=
  ⟨s.lock, s.connects, s.nextConnect, s.stops, s.nextStop, s.projections⟩

/-- Whoever is inside a section holds the lock, calls are numbered below the next one, and a projection belongs to a
Connect call that was accepted. -/
structure LockView.Sound (v : LockView) : Prop where
  issued : ∀ c call, v.connects c = some call → c < v.nextConnect
  made : ∀ k call, v.stops k = some call → k < v.nextStop
  born : ∀ i p, v.projections i = some p → ∃ call, v.connects i = some call ∧ call.pc = .returned true
  connect : ∀ c call, v.connects c = some call → call.pc.holds = true → v.lock = some (.connect c)
  stop : ∀ k call, v.stops k = some call → call.pc.holds = true → v.lock = some (.stop k)
  projection : ∀ i p, v.projections i = some p → p.pc.holds = true → v.lock = some (.projection i)

/-- Projections are numbered below the next Connect call. -/
theorem LockView.Sound.known {v : LockView} (h : v.Sound) (i : Nat) (p : Projection) (hi : v.projections i = some p) :
    i < v.nextConnect := by
  obtain ⟨call, hcall, _⟩ := h.born i p hi
  exact h.issued i call hcall

variable {c : Nat} {call : ConnectCall} {k i : Nat} {p : Projection}

namespace CoreLockAux

open OptionMap (forall_update forall_update_some)

variable {v : LockView}

/-! ## Changes that keep it -/

section

variable (h : v.Sound)
include h

/-- The calls of the projections stay accepted when another call moves. -/
theorem born_update (hc : v.projections c = none) (i : Nat) (p : Projection) (hi : v.projections i = some p) :
    ∃ x, update v.connects c (some call) i = some x ∧ x.pc = .returned true := by
  have hic : i ≠ c := by
    rintro rfl
    cases hc.symm.trans hi
  obtain ⟨x, hx, hpc⟩ := h.born i p hi
  exact ⟨x, (update_of_ne hic _ _).trans hx, hpc⟩

theorem sound_connect (hc : c < v.nextConnect)
    (hnone : v.projections c = none) (hcall : call.pc.holds = true → v.lock = some (.connect c)) :
    LockView.Sound { v with connects := update v.connects c (some call) } :=
  ⟨forall_update_some h.issued hc, h.made, born_update h hnone, forall_update_some h.connect hcall, h.stop, h.projection⟩

theorem sound_stop {call : StopCall} (hk : k < v.nextStop) (hcall : call.pc.holds = true → v.lock = some (.stop k)) :
    LockView.Sound { v with stops := update v.stops k (some call) } :=
  { h with made := forall_update_some h.made hk, stop := forall_update_some h.stop hcall }

theorem sound_projection {p : Option Projection}
    (hi : ∀ q, p = some q → ∃ call, v.connects i = some call ∧ call.pc = .returned true)
    (hp : ∀ q, p = some q → q.pc.holds = true → v.lock = some (.projection i)) :
    LockView.Sound { v with projections := update v.projections i p } :=
  ⟨h.issued, h.made, forall_update (fun d q hd _ => h.born d q hd) hi, h.connect, h.stop,
    forall_update (fun d q hd _ => h.projection d q hd) hp⟩

/-- Outside the section a projection may go anywhere outside. -/
theorem sound_moveProjection (hi : ∃ call, v.connects i = some call ∧ call.pc = .returned true)
    (hp : p.pc.holds = false) : LockView.Sound { v with projections := update v.projections i (some p) } := by
  refine sound_projection h (fun _ _ => hi) ?_
  rintro _ ⟨⟩ hholds
  cases hp.symm.trans hholds

/-- The lock is free, so nobody is inside, and it can be given to anybody. -/
theorem sound_take (hfree : v.lock = none) (actor : Actor) : LockView.Sound { v with lock := some actor } := by
  refine ⟨h.issued, h.made, h.born, ?_, ?_, ?_⟩
  · intro c call hc hholds
    exact absurd (hfree.symm.trans (h.connect c call hc hholds)) (by simp)
  · intro k call hk hholds
    exact absurd (hfree.symm.trans (h.stop k call hk hholds)) (by simp)
  · intro i p hi hholds
    exact absurd (hfree.symm.trans (h.projection i p hi hholds)) (by simp)

/-- The holder of the lock is the only one inside: once it has left, the lock can be released. -/
theorem sound_release {actor : Actor} (hlock : v.lock = some actor)
    (hconnect : ∀ c call, v.connects c = some call → actor = .connect c → call.pc.holds = false)
    (hstop : ∀ k call, v.stops k = some call → actor = .stop k → call.pc.holds = false)
    (hprojection : ∀ i p, v.projections i = some p → actor = .projection i → p.pc.holds = false) :
    LockView.Sound { v with lock := none } := by
  refine ⟨h.issued, h.made, h.born, ?_, ?_, ?_⟩
  · intro c call hc hholds
    have hactor := some.inj (hlock.symm.trans (h.connect c call hc hholds))
    cases (hconnect c call hc hactor).symm.trans hholds
  · intro k call hk hholds
    have hactor := some.inj (hlock.symm.trans (h.stop k call hk hholds))
    cases (hstop k call hk hactor).symm.trans hholds
  · intro i p hi hholds
    have hactor := some.inj (hlock.symm.trans (h.projection i p hi hholds))
    cases (hprojection i p hi hactor).symm.trans hholds

/-- A Connect call leaves and releases the lock. -/
theorem sound_leaveConnect (hc : c < v.nextConnect) (hnone : v.projections c = none)
    (hlock : v.lock = some (.connect c)) (hcall : call.pc.holds = false) :
    LockView.Sound { v with lock := none, connects := update v.connects c (some call) } := by
  refine sound_release (sound_connect h hc hnone fun _ => hlock) hlock (forall_update ?_ ?_) nofun nofun
  · exact fun d _ _ hdc hactor => absurd (Actor.connect.inj hactor).symm hdc
  · rintro _ ⟨⟩ _
    exact hcall

/-- A Stop call leaves and releases the lock. -/
theorem sound_leaveStop (hk : k < v.nextStop) (hlock : v.lock = some (.stop k))
    {call : StopCall} (hcall : call.pc.holds = false) :
    LockView.Sound { v with lock := none, stops := update v.stops k (some call) } := by
  refine sound_release (sound_stop h hk fun _ => hlock) hlock nofun (forall_update ?_ ?_) nofun
  · exact fun d _ _ hdk hactor => absurd (Actor.stop.inj hactor).symm hdk
  · rintro _ ⟨⟩ _
    exact hcall

/-- A projection leaves and releases the lock. -/
theorem sound_leaveProjection
    (hi : ∃ call, v.connects i = some call ∧ call.pc = .returned true)
    (hlock : v.lock = some (.projection i)) {p : Option Projection} (hp : ∀ q, p = some q → q.pc.holds = false) :
    LockView.Sound { v with lock := none, projections := update v.projections i p } := by
  refine sound_release (sound_projection h (fun _ _ => hi) fun _ _ _ => hlock) hlock nofun nofun (forall_update ?_ ?_)
  · exact fun d _ _ hdi hactor => absurd (Actor.projection.inj hactor).symm hdi
  · exact fun q hq _ => hp q hq

end

/-! ## Steps -/

variable {s t : CoreState}

variable (h : s.lockView.Sound)
include h

theorem sound_connectMove {pc : ConnectPc} {label : ConnectLabel} (hc : s.connects c = some call) (hpc : call.pc = pc)
    (hmove : ConnectMove s c call pc label t) : t.lockView.Sound := by
  have hlt : c < s.nextConnect := h.issued c _ hc
  have hheld : pc.holds = true → s.lock = some (.connect c) := hpc ▸ h.connect c _ hc
  -- A call that has not returned has no projection.
  have hnone : pc ≠ .returned true → s.projections c = none := by
    intro hpc'
    by_contra hsome
    obtain ⟨p, hp⟩ := ne_none_iff_exists'.mp hsome
    obtain ⟨x, hx, hreturned⟩ := h.born c p hp
    obtain rfl := some.inj (hc.symm.trans hx)
    exact hpc' (hpc.symm.trans hreturned)
  have hnot : pc.holds = true → pc ≠ .returned true := by
    rintro hpc rfl
    cases hpc
  -- Inside the section the call goes on with the lock it holds.
  have hinside : ∀ pc', pc.holds = true → (s.setConnect c { call with pc := pc' }).lockView.Sound :=
    fun _ hpc => sound_connect h hlt (hnone (hnot hpc)) fun _ => hheld hpc
  cases hmove with
  | same => exact h
  | refuse => exact sound_connect h hlt (hnone nofun) nofun
  | lock hfree => exact sound_connect (sound_take h hfree (.connect c)) hlt (hnone nofun) fun _ => rfl
  | fail hholds => exact sound_leaveConnect h hlt (hnone (hnot hholds)) (hheld hholds) rfl
  | accept =>
    -- The call returns first, then its projection may be there.
    have hreturned : (s.unlock.setConnect c { call with pc := .returned true }).lockView.Sound :=
      sound_leaveConnect h hlt (hnone (hnot rfl)) (hheld rfl) rfl
    refine sound_projection hreturned (fun _ _ => ⟨_, update_self .., rfl⟩) ?_
    rintro _ ⟨⟩ ⟨⟩
  | _ => exact hinside _ rfl

theorem sound_stopMove {call : StopCall} {pc : StopPc} {label : StopLabel} (hk : s.stops k = some call)
    (hpc : call.pc = pc) (hmove : StopMove s k call pc label t) : t.lockView.Sound := by
  have hlt : k < s.nextStop := h.made k _ hk
  have hheld : pc.holds = true → s.lock = some (.stop k) := hpc ▸ h.stop k _ hk
  have hend : ∀ result, pc.holds = true → (s.endStop k call result).lockView.Sound :=
    fun _ hpc => sound_leaveStop h hlt (hheld hpc) rfl
  cases hmove with
  | same => exact h
  | refuse => exact sound_stop h hlt nofun
  | lock hfree => exact sound_stop (sound_take h hfree (.stop k)) hlt fun _ => rfl
  | fail hholds => exact hend .failed hholds
  | lost => exact hend .lost rfl
  | finish => exact hend .idle rfl
  | _ => exact sound_stop h hlt fun _ => hheld rfl

theorem sound_projectionMove {pc : ProjectionPc} {label : ProjectionLabel} (hi : s.projections i = some p)
    (hpc : p.pc = pc) (hmove : ProjectionMove s i p pc label t) : t.lockView.Sound := by
  have hborn := h.born i _ hi
  have hheld : pc.holds = true → s.lock = some (.projection i) := hpc ▸ h.projection i _ hi
  cases hmove with
  | same => exact h
  | stopping hnext | look hnext =>
    refine sound_moveProjection h hborn ?_
    rcases hnext with rfl | rfl <;> rfl
  | lock hfree =>
    exact sound_projection (sound_take h hfree (.projection i)) (fun _ _ => hborn) fun _ _ _ => rfl
  | send => exact sound_projection h (fun _ _ => hborn) fun _ _ _ => hheld rfl
  | stopped =>
    refine sound_leaveProjection h hborn (hheld rfl) ?_
    rintro _ ⟨⟩
    rfl
  | failed => exact sound_leaveProjection h hborn (hheld rfl) nofun
  | signal | giveUp | publishClean | abortTicker => exact sound_projection h nofun nofun
  | _ => exact sound_moveProjection h hborn rfl

/-- A task makes calls, which begin outside the section. -/
theorem sound_task (ht : TaskFrame s t) : t.lockView.Sound := by
  have hstops : LockView.Sound { s.lockView with stops := t.stops, nextStop := t.nextStop } := by
    rcases ht.stops with ⟨hsame, hnext⟩ | ⟨generation, preserve, _, hnext, hnew⟩
    · rw [hsame, hnext]
      exact h
    · rw [hnew, hnext]
      exact { h with
        made := forall_update (fun d x hd _ => Nat.lt_succ_of_lt (h.made d x hd)) fun _ _ => Nat.lt_succ_self _
        stop := forall_update_some h.stop nofun }
  have hview : t.lockView = { s.lockView with
      stops := t.stops, nextStop := t.nextStop, connects := t.connects, nextConnect := t.nextConnect } := by
    simp [lockView, ht.lock, ht.projections]
  rw [hview]
  rcases ht.connects with ⟨hsame, hnext⟩ | ⟨generation, newSession, trigger, _, hnext, hnew⟩
  · rw [hsame, hnext]
    exact hstops
  have hnone : s.projections s.nextConnect = none := by
    by_contra hsome
    obtain ⟨p, hp⟩ := ne_none_iff_exists'.mp hsome
    exact Nat.lt_irrefl _ (h.known _ p hp)
  rw [hnew, hnext]
  exact ⟨forall_update (fun d x hd _ => Nat.lt_succ_of_lt (h.issued d x hd)) fun _ _ => Nat.lt_succ_self _,
    hstops.made, born_update h hnone, forall_update_some h.connect nofun,
    hstops.stop, h.projection⟩

end CoreLockAux

open CoreLockAux

/-- One step of the core keeps the session lock with whoever is inside its section. -/
theorem lockSound_coreStep (s : CoreState) (label : CoreLabel) (h : s.lockView.Sound) :
    (coreStep s label).lockView.Sound := by
  refine coreStep_cases (motive := fun t => t.lockView.Sound) s label h ?_ ?_ ?_ ?_ fun _ _ => h
  · exact fun t _ hmove => sound_task h (taskFrame_of_move hmove)
  · exact fun c l call t _ hc hmove => sound_connectMove h hc rfl hmove
  · exact fun k l call t _ hk hmove => sound_stopMove h hk rfl hmove
  · exact fun i l p t _ hi hmove => sound_projectionMove h hi rfl hmove

theorem lockSound_initial : initial.lockView.Sound :=
  ⟨nofun, nofun, nofun, nofun, nofun, nofun⟩

/-- The Stop call has got the answer `Stopped` and has not returned. -/
def StopPc.confirmed : StopPc → Bool
  | .stopped => true
  | .idle => true
  | _ => false

namespace CoreLockAux

theorem confirmed_stopMove {s t : CoreState} {call after : StopCall} {pc : StopPc} {label : StopLabel}
    (hcall : s.stops k = some call) (hpc : call.pc = pc) (hmove : StopMove s k call pc label t)
    (hk : t.stops k = some after) (hafter : after.pc.confirmed = true) (hreply : label ≠ .reply true) :
    pc.confirmed = true := by
  -- Where the step puts the call is read off the map it updates.
  have hput : ∀ {t : CoreState} {x : StopCall}, (t.setStop k x).stops k = some after → x.pc.confirmed = true := by
    intro t x hx
    have hself : (t.setStop k x).stops k = some x := update_self ..
    obtain rfl := some.inj (hself.symm.trans hx)
    exact hafter
  cases hmove with
  | same =>
    obtain rfl := some.inj (hcall.symm.trans hk)
    exact hpc ▸ hafter
  | stopped => exact absurd rfl hreply
  | publishIdle | finish => rfl
  | _ => cases hput hk

end CoreLockAux

/-! ## What others keep -/

section Others

variable {s : CoreState} {label : CoreLabel}

/-- A Connect call is moved by its own steps only. -/
theorem connects_coreStep (h : s.lockView.Sound) (hc : s.connects c = some call)
    (hother : label.actor ≠ some (.connect c)) : (coreStep s label).connects c = some call := by
  rcases (othersFrame_coreStep s label).connects c hother with hsame | ⟨hnew, _⟩
  · exact hsame.trans hc
  · exact absurd hnew (Nat.ne_of_lt (h.issued c call hc))

/-- A Stop call is moved by its own steps only. -/
theorem stops_coreStep (h : s.lockView.Sound) {call : StopCall} (hk : s.stops k = some call)
    (hother : label.actor ≠ some (.stop k)) : (coreStep s label).stops k = some call := by
  rcases (othersFrame_coreStep s label).stops k hother with hsame | ⟨hnew, _⟩
  · exact hsame.trans hk
  · exact absurd hnew (Nat.ne_of_lt (h.made k call hk))

/-- A projection is moved by its own steps only: its Connect call has returned. -/
theorem projections_coreStep (h : s.lockView.Sound) (hi : s.projections i = some p)
    (hother : label.actor ≠ some (.projection i)) : (coreStep s label).projections i = some p := by
  by_cases hcall : label.actor = some (.connect i)
  · obtain ⟨⟨generation, newSession, trigger, pc⟩, hcall', hpc⟩ := h.born i p hi
    cases label with
    | connectCall c label =>
      simp only [actor, some.injEq, Actor.connect.injEq] at hcall
      subst hcall
      obtain rfl : pc = .returned true := hpc
      have hsame : coreStep s (.connectCall c label) = s := by
        simp [coreStep, show s.connects c = _ from hcall', connectStep]
      rw [hsame]
      exact hi
    | _ => simp [actor] at hcall
  · exact ((othersFrame_coreStep s label).projections i hother hcall).trans hi

/-- A Stop call is confirmed by the answer to its `StopTunnel` only. -/
theorem confirmed_coreStep {call : StopCall} (hk : (coreStep s label).stops k = some call)
    (hcall : call.pc.confirmed = true) (hreply : label ≠ .stopCall k (.reply true)) :
    ∃ before, s.stops k = some before ∧ before.pc.confirmed = true := by
  by_cases hother : label.actor = some (.stop k)
  · cases label with
    | stopCall j label =>
      simp only [actor, some.injEq, Actor.stop.injEq] at hother
      subst hother
      simp only [coreStep] at hk
      split at hk
      · rename_i before hbefore
        exact ⟨before, hbefore, confirmed_stopMove hbefore rfl (stopMove_stopStep ..) hk hcall fun h => hreply (by rw [h])⟩
      · rename_i hnone
        cases hnone.symm.trans hk
    | _ => simp [actor] at hother
  · rcases (othersFrame_coreStep s label).stops k hother with hsame | ⟨_, new, hnew, hpc⟩
    · exact ⟨call, hsame.symm.trans hk, hcall⟩
    · obtain rfl := some.inj (hnew.symm.trans hk)
      rw [hpc] at hcall
      cases hcall

end Others

end ExvVpn.DarwinCore
