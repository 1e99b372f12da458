import ExvVpn.Lemmas.CoreLock
import ExvVpn.Tools.History

/-!
# The order of ApplyTunnel and StopTunnel in the macOS core

A Connect call sends `ApplyTunnel` under the session lock and right after it has found its generation unchanged, so a
call of a newer generation that has the lock comes after it or has made it give up.
-/

namespace ExvVpn.DarwinCore

open History List Function CoreState

/-! ## The property -/

/-- The entry is an `ApplyTunnel`. -/
def Entry.isApply : Entry → Bool
  | .applyTunnel _ _ _ => true
  | _ => false

/-- The Stop call `k` has taken the session lock, no `ApplyTunnel` was sent since, and if it is told so, the call has
sent `StopTunnel`. -/
def SinceLock (k : Nat) (told : Bool) (trace : List Entry) : Prop :=
  ∃ since old generation, trace = since ++ .lockTaken (.stop k) generation :: old ∧
    (told = true → .stopTunnel (.stop k) ∈ since) ∧ ∀ e ∈ since, e.isApply = false

/-- When `ApplyTunnel` is sent, nobody of a newer generation has had the lock; when a Stop call returns, it has sent
`StopTunnel` after every `ApplyTunnel`. -/
def Ordered (before : List Entry) : Entry → Prop
  | .applyTunnel _ generation _ => ∀ actor newer, .lockTaken actor newer ∈ before → newer ≤ generation
  | .stopReturned k => SinceLock k true before
  | _ => True

/-! ## The invariant -/

/-- The Stop call has sent `StopTunnel`. -/
def StopPc.told : StopPc → Bool
  | .sent => true
  | .stopped => true
  | .idle => true
  | _ => false

/-- The part of the state that the order is about. -/
structure OrderView where
  generation : Nat
  connects : Nat → Option ConnectCall
  stops : Nat → Option StopCall
  trace : List Entry

def CoreState.orderView (s : CoreState) : OrderView := ⟨s.generation, s.connects, s.stops, s.trace⟩

/-- The history is ordered, and every call that is going to add to it fits. -/
structure OrderView.Sound (v : OrderView) : Prop where
  each : Each Ordered v.trace
  calls : ∀ c call, v.connects c = some call → call.generation ≤ v.generation
  stopCalls : ∀ k call, v.stops k = some call → call.generation ≤ v.generation
  taken : ∀ actor generation, .lockTaken actor generation ∈ v.trace → generation ≤ v.generation
  checked : ∀ c call, v.connects c = some call → ∀ session, call.pc = .checked session →
    ∀ actor generation, .lockTaken actor generation ∈ v.trace → generation ≤ call.generation
  stopping : ∀ k call, v.stops k = some call → call.pc.holds = true → SinceLock k call.pc.told v.trace

variable {k : Nat} {e : Entry}

namespace CoreOrderAux

open OptionMap (forall_update_some)

variable {v : OrderView}

/-! ## Changes that keep it -/

/-- A history goes on with an entry that is no `ApplyTunnel`. -/
theorem sinceLock_cons {told : Bool} {trace : List Entry} (h : SinceLock k told trace)
    (he : e.isApply = false) : SinceLock k told (e :: trace) := by
  obtain ⟨since, old, generation, rfl, htold, hno⟩ := h
  refine ⟨e :: since, old, generation, rfl, fun ht => mem_cons_of_mem e (htold ht), ?_⟩
  exact forall_mem_cons.mpr ⟨he, hno⟩

/-- The entry takes no lock and sends no `ApplyTunnel`. -/
def plain : Entry → Bool
  | .lockTaken _ _ => false
  | .applyTunnel _ _ _ => false
  | _ => true

theorem isApply_of_plain (he : plain e = true) : e.isApply = false := by
  cases e <;> first | rfl | cases he

/-- A lock that the longer history tells of was taken before. -/
theorem taken_of_plain (he : plain e = true) {actor : Actor} {generation : Nat} {trace : List Entry}
    (h : .lockTaken actor generation ∈ e :: trace) : .lockTaken actor generation ∈ trace := by
  refine mem_of_ne_of_mem ?_ h
  rintro rfl
  cases he

theorem sound_record (h : v.Sound) (he : plain e = true) (hfit : Ordered v.trace e) :
    OrderView.Sound { v with trace := e :: v.trace } := by
  refine ⟨⟨hfit, h.each⟩, h.calls, h.stopCalls, ?_, ?_, ?_⟩
  · intro actor generation ht
    exact h.taken actor generation (taken_of_plain he ht)
  · intro c call hc session hpc actor generation ht
    exact h.checked c call hc session hpc actor generation (taken_of_plain he ht)
  · intro k call hk hholds
    exact sinceLock_cons (h.stopping k call hk hholds) (isApply_of_plain he)

theorem sound_connect (h : v.Sound) {c : Nat} {call : ConnectCall} (hbound : call.generation ≤ v.generation)
    (hchecked : ∀ session, call.pc = .checked session →
      ∀ actor generation, .lockTaken actor generation ∈ v.trace → generation ≤ call.generation) :
    OrderView.Sound { v with connects := update v.connects c (some call) } :=
  { h with calls := forall_update_some h.calls hbound, checked := forall_update_some h.checked hchecked }

theorem sound_stop (h : v.Sound) {call : StopCall} (hbound : call.generation ≤ v.generation)
    (hstopping : call.pc.holds = true → SinceLock k call.pc.told v.trace) :
    OrderView.Sound { v with stops := update v.stops k (some call) } :=
  ⟨h.each, h.calls, forall_update_some h.stopCalls hbound, h.taken, h.checked,
    forall_update_some h.stopping hstopping⟩

/-- The generation has grown. -/
theorem sound_grow (h : v.Sound) {n : Nat} (hn : v.generation ≤ n) : OrderView.Sound { v with generation := n } := by
  refine ⟨h.each, ?_, ?_, ?_, h.checked, h.stopping⟩
  · intro c call hc
    exact Nat.le_trans (h.calls c call hc) hn
  · intro k call hk
    exact Nat.le_trans (h.stopCalls k call hk) hn
  · intro actor generation ht
    exact Nat.le_trans (h.taken actor generation ht) hn

variable {s t : CoreState}

variable (h : s.orderView.Sound)
include h

/-- The lock is free and is taken: nobody is inside its section. -/
theorem sound_take (hlock : s.lockView.Sound) (hfree : s.lock = none) {actor : Actor}
    {generation : Nat} (hbound : generation ≤ s.generation) : (s.takeLock actor generation).orderView.Sound := by
  refine ⟨⟨trivial, h.each⟩, h.calls, h.stopCalls, ?_, ?_, ?_⟩
  · intro actor' generation' ht
    rcases mem_cons.mp ht with heq | ht
    · obtain ⟨rfl, rfl⟩ := Entry.lockTaken.inj heq
      exact hbound
    · exact h.taken actor' generation' ht
  · intro c call hc session hpc
    have hheld := hlock.connect c call hc (by rw [hpc]; rfl)
    cases hfree.symm.trans hheld
  · intro k call hk hholds
    have hheld := hlock.stop k call hk hholds
    cases hfree.symm.trans hheld

/-! ## Steps -/

theorem sound_connectMove (hlock : s.lockView.Sound) {c : Nat} {call : ConnectCall} {pc : ConnectPc}
    {label : ConnectLabel} (hc : s.connects c = some call) (hpc : call.pc = pc)
    (hmove : ConnectMove s c call pc label t) : t.orderView.Sound := by
  have hbound : call.generation ≤ s.generation := h.calls c _ hc
  cases hmove with
  | same => exact h
  | lock hfree => exact sound_connect (sound_take h hlock hfree hbound) hbound nofun
  | recheck hsame =>
    refine sound_connect h hbound ?_
    intro _ _ actor newer ht
    exact Nat.le_trans (h.taken actor newer ht) (Nat.le_of_eq hsame.symm)
  | @apply session =>
    -- The call holds the lock, so no Stop call is inside its section.
    have hheld : s.lock = some (.connect c) := hlock.connect c _ hc (by rw [hpc]; rfl)
    have hchecked := h.checked c _ hc session hpc
    have hsent : OrderView.Sound { s.orderView with trace := .applyTunnel c call.generation call.trigger :: s.trace } := by
      refine ⟨⟨hchecked, h.each⟩, h.calls, h.stopCalls, ?_, ?_, ?_⟩
      · intro actor newer ht
        exact h.taken actor newer (mem_of_ne_of_mem (by simp) ht)
      · intro d call' hd σ hpc actor newer ht
        exact h.checked d call' hd σ hpc actor newer (mem_of_ne_of_mem (by simp) ht)
      · intro k call' hk hholds
        cases hheld.symm.trans (hlock.stop k call' hk hholds)
    exact sound_connect hsent hbound nofun
  | accept =>
    refine sound_connect (sound_record (sound_record h (e := .accepted c) rfl trivial)
      (e := .published (.connect c) ⟨.connecting, some (.connect c)⟩) rfl trivial) hbound ?_
    rintro _ ⟨⟩
  | _ => exact sound_connect h hbound nofun

theorem sound_stopMove (hlock : s.lockView.Sound) {call : StopCall} {pc : StopPc} {label : StopLabel}
    (hk : s.stops k = some call) (hpc : call.pc = pc) (hmove : StopMove s k call pc label t) : t.orderView.Sound := by
  have hbound : call.generation ≤ s.generation := h.stopCalls k _ hk
  have hstopping : pc.holds = true → SinceLock k pc.told s.trace := hpc ▸ h.stopping k _ hk
  have hpublished : ∀ snapshot, (s.publish (.stop k) snapshot).orderView.Sound := fun _ => sound_record h rfl trivial
  cases hmove with
  | same => exact h
  | lock hfree =>
    refine sound_stop (sound_take h hlock hfree hbound) hbound fun _ => ?_
    exact ⟨[], s.trace, call.generation, rfl, nofun, forall_mem_nil _⟩
  | stopping | publishIdle =>
    exact sound_stop (hpublished _) hbound fun _ => sinceLock_cons (hstopping rfl) rfl
  | lost =>
    exact sound_stop (sound_record (sound_record h (e := .finished (.stop k)) rfl trivial)
      (e := .published (.stop k) ⟨.failedClean, some (.stop k)⟩) rfl trivial) hbound nofun
  | attach | stopped => exact sound_stop h hbound hstopping
  | send =>
    refine sound_stop (sound_record h (e := .stopTunnel (.stop k)) rfl trivial) hbound fun _ => ?_
    obtain ⟨since, old, taken, htrace, _, hno⟩ := hstopping rfl
    refine ⟨.stopTunnel (.stop k) :: since, old, taken, congrArg _ htrace, fun _ => mem_cons_self, ?_⟩
    exact forall_mem_cons.mpr ⟨rfl, hno⟩
  | finish =>
    have hfinished := sound_record h (e := .finished (.stop k)) rfl trivial
    exact sound_stop (sound_record hfinished (e := .stopReturned k) rfl (sinceLock_cons (hstopping rfl) rfl)) hbound
      nofun
  | refuse | fail => exact sound_stop h hbound nofun

/-- A projection adds entries that take no lock and send no `ApplyTunnel`, and no call moves. -/
theorem sound_projectionMove {i : Nat} {p : Projection} {pc : ProjectionPc} {label : ProjectionLabel}
    (hmove : ProjectionMove s i p pc label t) : t.orderView.Sound := by
  cases hmove with
  | same | phase | connected | error | lock => exact h
  | giveUp | stopped | failed | close | look | keepSlot => exact h
  | _ => exact sound_record h rfl trivial

/-- A task makes calls of generations that are not ahead, and sends nothing. -/
theorem sound_task (ht : TaskFrame s t) : t.orderView.Sound := by
  have hgrown : OrderView.Sound { s.orderView with generation := t.generation } := sound_grow h ht.generation
  have hconnects : OrderView.Sound { s.orderView with generation := t.generation, connects := t.connects } := by
    rcases ht.connects with ⟨hsame, _⟩ | ⟨generation, newSession, trigger, hle, _, hnew⟩
    · rw [hsame]
      exact hgrown
    · rw [hnew]
      exact sound_connect hgrown hle nofun
  have hstops : OrderView.Sound
      { s.orderView with generation := t.generation, connects := t.connects, stops := t.stops } := by
    rcases ht.stops with ⟨hsame, _⟩ | ⟨generation, preserve, hle, _, hnew⟩
    · rw [hsame]
      exact hconnects
    · rw [hnew]
      exact sound_stop hconnects hle nofun
  have hview : t.orderView = ⟨t.generation, t.connects, t.stops, t.trace⟩ := rfl
  rw [hview]
  rcases ht.trace with hsame | hsignal | ⟨actor, operation, hclean⟩
  · rw [hsame]
    exact hstops
  · rw [hsignal]
    exact sound_record hstops rfl trivial
  · rw [hclean]
    exact sound_record hstops rfl trivial

end CoreOrderAux

open CoreOrderAux

/-- One step of the core keeps the order of what it sends. -/
theorem orderSound_coreStep (s : CoreState) (label : CoreLabel) (h : s.orderView.Sound) (hlock : s.lockView.Sound) :
    (coreStep s label).orderView.Sound := by
  refine coreStep_cases (motive := fun t => t.orderView.Sound) s label h ?_ ?_ ?_ ?_ ?_
  · exact fun t _ hmove => sound_task h (taskFrame_of_move hmove)
  · exact fun c l call t _ hc hmove => sound_connectMove h hlock hc rfl hmove
  · exact fun k l call t _ hk hmove => sound_stopMove h hlock hk rfl hmove
  · exact fun i l p t _ _ hmove => sound_projectionMove h hmove
  · exact fun _ _ => sound_record h rfl trivial

/-- The order holds in every state that the core reaches. -/
theorem orderSound_of_run (labels : List CoreLabel) :
    (Transition.run coreStep initial labels).orderView.Sound := by
  have hboth := Transition.invariant_of_run (I := fun s : CoreState => s.lockView.Sound ∧ s.orderView.Sound)
    (fun s label hs => ⟨lockSound_coreStep s label hs.1, orderSound_coreStep s label hs.2 hs.1⟩)
    ⟨lockSound_initial, trivial, nofun, nofun, nofun, nofun,
      nofun⟩ labels
  exact hboth.2

end ExvVpn.DarwinCore
