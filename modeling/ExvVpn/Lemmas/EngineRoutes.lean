import ExvVpn.Lemmas.EngineLifecycle

/-!
# Who owns a created row over a run

Every row that was created and not removed is in the live slot, on the list of pending routes or in the hands of whoever is
inside the resources lock. A local variable could take rows with it where an assembly replaces an old tunnel, which is never
there, and in a panic between the apply and the data plane, which needs the NIC to be gone.
-/

namespace ExvVpn.Win32Engine

open List Function Option RuntimeState LifecycleAux LiveTunnel RouteOwner

/-! ## The owners of rows -/

/-- The rows of a tunnel, if there is one. -/
def tunnelRows : Option LiveTunnel → List OwnedRoute
  | some tunnel => tunnel.rows
  | none => []

/-- The rows on the list of pending routes. -/
def pendingRows (pendingRoutes : List RouteCleanupObligations) : List OwnedRoute :=
  pendingRoutes.flatMap (·.routes)

/-- The rows in the local variables of an assembly. -/
def AssembleStage.rows : AssembleStage → List OwnedRoute
  | .taken old => tunnelRows old
  | .applyFailed _ pendingRoutes => pendingRoutes.routes
  | .applied _ route => route.installedRoutes
  | .starting _ route => route.installedRoutes
  | .abandoned _ route => route.installedRoutes
  | .started route => route.installedRoutes
  | .numbered tunnel => tunnel.rows
  | .rejected tunnel => tunnel.rows
  | _ => []

/-- The tunnel that a taker holds. -/
def Critical.hand : Critical → Option LiveTunnel
  | .previous _ stage => stage.hand
  | .caller _ stage => stage.hand
  | .sweeper _ stage => stage.hand
  | .assemble _ _ _ => none

/-- The rows in the hands of whoever is inside the resources lock. -/
def Critical.rows : Critical → List OwnedRoute
  | .assemble _ _ stage => stage.rows
  | critical => tunnelRows critical.hand

/-- The rows in the hands of whoever is inside the resources lock, if anybody is. -/
def criticalRows : Option Critical → List OwnedRoute
  | some critical => critical.rows
  | none => []

/-- The rows that somebody will remove: the live tunnel's route owner, the pending list, or the thread at work. -/
def RuntimeState.heldRows (s : RuntimeState) : List OwnedRoute :=
  tunnelRows s.live ++ pendingRows s.pendingRoutes ++ criticalRows s.resources

/-! ## The invariant -/

/-- The assembly has cleared the previous connection and has not reached the resources lock again. -/
def AssemblyPc.past : AssemblyPc → Bool
  | .cleared => true
  | .preflight => true
  | .prepared _ => true
  | .connecting _ => true
  | .connected _ => true
  | .negotiated _ => true
  | _ => false

/-- What the assembly finds inside the lock: no old tunnel, and the NIC it has made sure of. -/
def AssembleStage.Ready (live : Option LiveTunnel) (nic : Bool) : AssembleStage → Prop
  | .locked => live = none
  | .granted => live = none
  | .taken old => old = none
  | .applied _ _ => nic = true
  | .starting _ _ => nic = true
  | _ => True

/-- What whoever is inside the resources lock finds. -/
def Critical.Ready (live : Option LiveTunnel) (nic : Bool) : Critical → Prop
  | .assemble _ _ stage => stage.Ready live nic
  | _ => True

/-- The part of the state that owns rows. -/
structure RoutesView where
  live : Option LiveTunnel
  pendingRoutes : List RouteCleanupObligations
  resources : Option Critical
  nic : Bool
  assemblies : Nat → Option AssemblyPc
  outstanding : List OwnedRoute

def RuntimeState.routesView (s : RuntimeState) : RoutesView :=
  ⟨s.live, s.pendingRoutes, s.resources, s.nic, s.assemblies, s.history.outstanding⟩

/-- Every row that was created and not removed has an owner, and no assembly meets a tunnel it would drop. -/
structure RoutesView.Sound (v : RoutesView) : Prop where
  owned : ∀ row ∈ v.outstanding,
    row ∈ tunnelRows v.live ∨ row ∈ pendingRows v.pendingRoutes ∨ row ∈ criticalRows v.resources
  past : ∀ n pc, v.assemblies n = some pc → pc.past = true →
    v.live = none ∧ ∀ critical, v.resources = some critical → critical.hand = none
  ready : ∀ critical, v.resources = some critical → critical.Ready v.live v.nic

/-- The step keeps rows with their owners: no removal is answered with code 87, and `teardown` does not close the NIC
between the apply of an assembly and the start of its data plane. -/
def keepsRoutes (s : RuntimeState) : RuntimeLabel → Prop
  | .call _ .closeNic => ∀ n prepared newNic route,
      s.resources ≠ some (.assemble n prepared (.applied newNic route)) ∧
        s.resources ≠ some (.assemble n prepared (.starting newNic route))
  | .critical (.clean io) => ∀ row, io.remove row ≠ .changed
  | .critical (.retry remove) => ∀ row, remove row ≠ .changed
  | .critical (.applyOffer io) => ∀ row, io.rollback row ≠ .changed
  | _ => True

namespace EngineRoutesAux

variable {s : RuntimeState} {n : Nat}

/-! ## What removals keep -/

/-- A row is forgotten exactly when its removal was tried and succeeded. -/
theorem mem_forget {tried : List OwnedRoute} {remove : OwnedRoute → RemoveResult} {row : OwnedRoute} :
    row ∈ (s.forget tried remove).history.outstanding ↔
      row ∈ s.history.outstanding ∧ ¬(row ∈ tried ∧ remove row = .removed) := by
  simp only [forget, mem_filter, Bool.not_eq_true', decide_eq_false_iff_not]

/-- A removal that neither succeeded nor met a changed row failed hard. -/
theorem failed_of_not {result : RemoveResult} (hremoved : result ≠ .removed) (hchanged : result ≠ .changed) :
    result = .failed := by
  cases result with
  | removed => exact absurd rfl hremoved
  | changed => exact absurd rfl hchanged
  | failed => rfl

/-- A row that `disconnect_for` did not remove is still with the tunnel, and the call reports an error. -/
theorem disconnectFor_keeps {tunnel : LiveTunnel} {io : ClearIo} (hio : ∀ row, io.remove row ≠ .changed)
    {row : OwnedRoute} (hrow : row ∈ tunnel.rows) (hkept : ¬(row ∈ tunnel.tried io ∧ io.remove row = .removed)) :
    (tunnel.disconnectFor io).2 = false ∧ row ∈ (tunnel.disconnectFor io).1.rows := by
  unfold disconnectFor
  unfold tried at hkept
  unfold rows at hrow
  cases hroute : tunnel.route with
  | none => simp [hroute] at hrow
  | some owner =>
    simp only [hroute] at hrow hkept
    have hfailed : row ∈ io.tried owner → io.remove row = .failed := by
      intro htried
      exact failed_of_not (fun hremoved => hkept ⟨htried, hremoved⟩) (hio row)
    have hleft : row ∈ (owner.clear io).1.installedRoutes := mem_clear.mpr ⟨hrow, hfailed⟩
    have hnot : (owner.clear io).2 = false := by
      by_contra hcleared
      rw [clear_succeeded (by simpa using hcleared)] at hleft
      cases hleft
    simp only [hnot]
    exact ⟨rfl, hleft⟩

/-- Every row that an apply created is with the owner it returns, or its removal in the rollback was tried. -/
theorem apply_owned (next : Nat) (io : ApplyIo) :
    (∀ owner, (apply next io).result = .applied owner →
      owner.installedRoutes = (apply next io).created) ∧
    (∀ pendingRoutes, (apply next io).result = .failed pendingRoutes →
      ∀ row ∈ (apply next io).created, io.rollback row = .failed → row ∈ pendingRoutes.routes) := by
  unfold apply
  split
  · simp only
    split
    · refine ⟨?_, nofun⟩
      rintro _ ⟨⟩
      rfl
    · refine ⟨nofun, ?_⟩
      rintro _ ⟨⟩ row hrow hfailed
      exact mem_retryOwnedRoutesWith.mpr ⟨hrow, hfailed⟩
  · refine ⟨nofun, ?_⟩
    rintro _ ⟨⟩ row hrow
    cases hrow

/-! ## Rows that no thread holds -/

/-- Every row that was created and not removed is in the live slot or on the pending list. -/
def Settled (s : RuntimeState) : Prop :=
  ∀ row ∈ s.history.outstanding, row ∈ tunnelRows s.live ∨ row ∈ pendingRows s.pendingRoutes

/-- Rows in the slot or on the list are in order whoever is inside. -/
theorem owned_of_settled (h : Settled s) (rows : List OwnedRoute) :
    ∀ row ∈ s.history.outstanding, row ∈ tunnelRows s.live ∨ row ∈ pendingRows s.pendingRoutes ∨ row ∈ rows :=
  fun row hrow => (h row hrow).imp_right .inl

/-- Whoever is inside holds no row. -/
theorem settled_of_empty (h : s.routesView.Sound) {resources : Option Critical} (hres : s.resources = resources)
    (hempty : criticalRows resources = []) : Settled s := by
  intro row hrow
  have howned := h.owned row hrow
  simp only [routesView, hres, hempty] at howned
  simpa using howned

/-- A cleaning leaves every row of the tunnel that it did not remove in the live slot. -/
theorem settled_cleanupOrRetain {tunnel : LiveTunnel} {io : ClearIo} (hio : ∀ row, io.remove row ≠ .changed)
    (howned : ∀ row ∈ s.history.outstanding, row ∈ tunnel.rows ∨ row ∈ pendingRows s.pendingRoutes) :
    Settled (s.cleanupOrRetain tunnel io).1 := by
  have hkeeps : ∀ row ∈ tunnel.rows, ¬(row ∈ tunnel.tried io ∧ io.remove row = .removed) →
      (tunnel.disconnectFor io).2 = false ∧ row ∈ (tunnel.disconnectFor io).1.rows :=
    fun row hrow => disconnectFor_keeps hio hrow
  unfold cleanupOrRetain
  generalize tunnel.disconnectFor io = result at hkeeps ⊢
  obtain ⟨left, cleared⟩ := result
  cases cleared with
  | true =>
    intro row hrow
    obtain ⟨hout, hkept⟩ := mem_forget.mp hrow
    exact (howned row hout).imp_left fun hrows => absurd (hkeeps row hrows hkept).1 (by simp)
  | false =>
    intro row hrow
    obtain ⟨hout, hkept⟩ := mem_forget.mp hrow
    exact (howned row hout).imp_left fun hrows => (hkeeps row hrows hkept).2

/-- Cleaning what was taken leaves every row that it did not remove in the live slot. -/
theorem settled_cleanTaken {taken : Option LiveTunnel} {io : ClearIo} (hio : ∀ row, io.remove row ≠ .changed)
    (howned : ∀ row ∈ s.history.outstanding, row ∈ tunnelRows taken ∨ row ∈ pendingRows s.pendingRoutes) :
    Settled (s.cleanTaken taken io).1 := by
  cases taken with
  | none =>
    exact fun row hrow => (howned row hrow).imp_left nofun
  | some tunnel => exact settled_cleanupOrRetain hio howned

/-- Retrying the pending list keeps every row that it did not remove. -/
theorem settled_retryPendingRoutes {remove : OwnedRoute → RemoveResult} (hremove : ∀ row, remove row ≠ .changed)
    (h : Settled s) : Settled (s.retryPendingRoutes remove).1 := by
  intro row hrow
  obtain ⟨hout, hkept⟩ := mem_forget.mp hrow
  refine (h row hout).imp_right fun hpending => ?_
  have hfailed : remove row = .failed := failed_of_not (fun hremoved => hkept ⟨hpending, hremoved⟩) (hremove row)
  obtain ⟨group, hgroup, hmem⟩ := mem_flatMap.mp hpending
  have hleft : row ∈ (group.retryClear remove).routes := mem_retryOwnedRoutesWith.mpr ⟨hmem, hfailed⟩
  refine mem_flatMap.mpr ⟨group.retryClear remove, mem_filter.mpr ⟨mem_map_of_mem hgroup, ?_⟩, hleft⟩
  simpa using ne_nil_of_mem hleft

/-! ## Assemblies -/

section

variable (hl : s.lifecycleView.Sound)
include hl

/-- The one assembly that runs is where it has moved. -/
theorem pc_of_moved {m : Nat} {pc pc' : AssemblyPc} (hn : s.assemblies n ≠ none)
    (hm : update s.assemblies n (some pc) m = some pc') : pc' = pc := by
  by_cases hmn : m = n
  · rw [hmn, update_self] at hm
    exact (some.inj hm).symm
  rw [update_of_ne hmn] at hm
  have hn' := (hl.running n hn).1
  have hm' := (hl.running m (by simp [lifecycleView, hm])).1
  exact absurd (hm'.trans hn'.symm) hmn

/-- The rows are in order after an assembly has given the lock back, if it left none in its hands. -/
theorem sound_returned (hn : s.assemblies n ≠ none) {t : RuntimeState} (h : Settled t)
    (hassemblies : t.assemblies = s.assemblies) (pc : AssemblyPc) (hpc : pc.past = true → t.live = none) :
    (t.leave.setAssembly n (some pc)).routesView.Sound where
  owned := owned_of_settled h _
  past := by
    intro m pc' hm hpast
    have hm' : update s.assemblies n (some pc) m = some pc' := by
      rw [← hassemblies]
      exact hm
    have heq := pc_of_moved hl hn hm'
    exact ⟨hpc (heq ▸ hpast), nofun⟩
  ready := nofun

/-- An assembly that leaves no rows in its hands can end. -/
theorem sound_ended (hn : s.assemblies n ≠ none) (t : RuntimeState) (h : Settled t)
    (hassemblies : t.assemblies = s.assemblies) : (t.endAssembly n).routesView.Sound :=
  sound_returned hl hn h hassemblies .ended nofun

/-- The rows are in order while an assembly goes on inside the lock. -/
theorem sound_within {pc : AssemblyPc} (hn : s.assemblies n = some pc)
    (hpc : pc.past = false) (t : RuntimeState) (critical : Critical) (hassemblies : t.assemblies = s.assemblies)
    (howned : ∀ row ∈ t.history.outstanding,
      row ∈ tunnelRows t.live ∨ row ∈ pendingRows t.pendingRoutes ∨ row ∈ critical.rows)
    (hready : critical.Ready t.live t.nic) : (t.inside critical).routesView.Sound where
  owned := howned
  past := by
    intro m pc' hm hpast
    have hm' : update s.assemblies n (some pc) m = some pc' := by
      rw [← hn, update_eq_self, ← hassemblies]
      exact hm
    rw [pc_of_moved hl (by simp [hn]) hm', hpc] at hpast
    cases hpast
  ready := by
    rintro _ ⟨⟩
    exact hready

end

/-- With the slot empty, a row is on the pending list or in hand. -/
theorem owned_of_emptied (h : s.routesView.Sound) {critical : Critical} (hres : s.resources = some critical)
    (hlive : s.live = none) :
    ∀ row ∈ s.history.outstanding, row ∈ critical.rows ∨ row ∈ pendingRows s.pendingRoutes := by
  intro row hrow
  have howned := h.owned row hrow
  simp only [routesView, hlive, hres] at howned
  exact (howned.resolve_left nofun).symm

/-! ## Steps inside the resources lock -/

/-- A taker that is no assembly takes the live tunnel. -/
theorem routes_taken (h : s.routesView.Sound) (hsettled : Settled s) {critical : Critical} (hhand : critical.hand = s.live)
    (hrows : critical.rows = tunnelRows s.live) (hready : critical.Ready none s.nic) :
    RoutesView.Sound { s.routesView with live := none, resources := some critical } where
  owned := by
    intro row hrow
    rw [show criticalRows (some critical) = _ from hrows]
    exact .inr (hsettled row hrow).symm
  past := by
    intro m pc hm hpast
    refine ⟨rfl, ?_⟩
    rintro _ ⟨⟩
    exact hhand.trans (h.past m pc hm hpast).1
  ready := by
    rintro _ ⟨⟩
    exact hready

/-- A taker that is no assembly gives the lock back, if it left no rows in its hands. -/
theorem routes_released {t : RuntimeState} (hsettled : Settled t) (hassemblies : t.assemblies = s.assemblies)
    (hlive : (∃ m pc, s.assemblies m = some pc ∧ pc.past = true) → t.live = none) (resources : Option Critical)
    (hhand : ∀ critical, resources = some critical → critical.hand = none ∧ critical.Ready t.live t.nic) :
    RoutesView.Sound { t.routesView with resources } where
  owned := owned_of_settled hsettled _
  past := by
    intro m pc hm hpast
    have hm' : s.assemblies m = some pc := by
      rw [← hassemblies]
      exact hm
    exact ⟨hlive ⟨m, pc, hm', hpast⟩, fun critical hc => (hhand critical hc).1⟩
  ready := fun critical hc => (hhand critical hc).2

theorem live_of_past (h : s.routesView.Sound) : (∃ m pc, s.assemblies m = some pc ∧ pc.past = true) → s.live = none :=
  fun ⟨m, pc, hm, hpast⟩ => (h.past m pc hm hpast).1

/-- While an assembly is past its first clearing, a taker has nothing in its hands to put back. -/
theorem cleanTaken_live_of_past (h : s.routesView.Sound) {critical : Critical} (hres : s.resources = some critical)
    {taken : Option LiveTunnel} (hhand : critical.hand = taken) (io : ClearIo)
    (hpast : ∃ m pc, s.assemblies m = some pc ∧ pc.past = true) : (s.cleanTaken taken io).1.live = none := by
  obtain ⟨m, pc, hm, hpc⟩ := hpast
  obtain ⟨hlive, hnone⟩ := h.past m pc hm hpc
  have htaken : taken = none := hhand.symm.trans (hnone critical hres)
  rw [htaken]
  exact hlive

section

variable (hl : s.lifecycleView.Sound) (h : s.routesView.Sound)
include hl h

/-- Rows in hand are in order while the assembly passes them from one stage to the next. -/
theorem sound_handed {prepared : Bool} {stage : AssembleStage}
    (hres : s.resources = some (.assemble n prepared stage)) {t : RuntimeState} (next : AssembleStage)
    (hrows : next.rows = stage.rows) (hready : next.Ready t.live t.nic)
    (hsame : (t.assemblies, t.live, t.pendingRoutes, t.history.outstanding) =
      (s.assemblies, s.live, s.pendingRoutes, s.history.outstanding)) :
    (t.inside (.assemble n prepared next)).routesView.Sound := by
  simp only [Prod.mk.injEq] at hsame
  obtain ⟨hassemblies, hlive, hpending, houtstanding⟩ := hsame
  refine sound_within hl (hl.placed _ hres) rfl t _ hassemblies ?_ hready
  intro row hrow
  rw [houtstanding] at hrow
  have howned := h.owned row hrow
  rw [show s.routesView.resources = _ from hres] at howned
  rw [hlive, hpending, show Critical.rows (.assemble n prepared next) = stage.rows from hrows]
  exact howned

variable {stage : CleanStage} {label : CriticalLabel} (hguard : keepsRoutes s (.critical label))
include hguard

theorem routes_previousStep (hres : s.resources = some (.previous n stage)) :
    (previousStep s n stage label).routesView.Sound := by
  have hplaced : s.assemblies n = some .clearing := hl.placed _ hres
  have hn : s.assemblies n ≠ none := by simp [hplaced]
  unfold previousStep
  split
  · refine sound_within hl hplaced rfl { s with live := none } (.previous n (.taken s.live)) rfl ?_ trivial
    exact fun row hrow => .inr (settled_of_empty h hres rfl row hrow).symm
  · rename_i taken io
    have hempty : s.live = none := hl.emptied _ hres rfl
    have hsettled := settled_cleanTaken hguard (owned_of_emptied h hres hempty)
    have hassemblies : (s.cleanTaken taken io).1.assemblies = s.assemblies :=
      cleanTaken_assemblies s taken io
    simp only
    split
    · exact sound_within hl hplaced rfl _ _ hassemblies (owned_of_settled hsettled _) trivial
    · exact sound_ended hl hn _ hsettled hassemblies
  · have hempty : s.live = none := hl.emptied _ hres rfl
    have hsettled := settled_retryPendingRoutes hguard (settled_of_empty h hres rfl)
    simp only
    split
    · exact sound_returned hl hn hsettled rfl .cleared fun _ => hempty
    · exact sound_ended hl hn _ hsettled rfl
  · exact h

theorem routes_callerStep {k : Nat} (hres : s.resources = some (.caller k stage)) :
    (callerStep s k stage label).routesView.Sound := by
  unfold callerStep
  split
  · exact routes_taken h (settled_of_empty h hres rfl) rfl rfl trivial
  · rename_i taken io
    have hempty : s.live = none := hl.emptied _ hres rfl
    have hsettled := settled_cleanTaken hguard (owned_of_emptied h hres hempty)
    have hreleased := routes_released hsettled (cleanTaken_assemblies s taken io)
      (cleanTaken_live_of_past h hres rfl io)
    simp only
    split
    · refine hreleased (some (.caller k .retrying)) ?_
      rintro _ ⟨⟩
      exact ⟨rfl, trivial⟩
    · exact hreleased none nofun
  · have hsettled := settled_retryPendingRoutes hguard (settled_of_empty h hres rfl)
    have hreleased := routes_released hsettled rfl (fun _ => hl.emptied _ hres rfl) none nofun
    simp only
    split <;> exact hreleased
  · exact h

theorem routes_sweeperStep {g : Nat} (hres : s.resources = some (.sweeper g stage)) :
    (sweeperStep s g stage label).routesView.Sound := by
  -- A sweeper without a tunnel in its hands leaves the rows where they are.
  have hleave (hsettled : Settled s) : s.leave.routesView.Sound :=
    routes_released hsettled rfl (live_of_past h) none nofun
  unfold sweeperStep
  split
  · split
    · exact routes_taken h (settled_of_empty h hres rfl) rfl rfl trivial
    · exact hleave (settled_of_empty h hres rfl)
  · exact hleave (settled_of_empty h hres rfl)
  · rename_i tunnel io
    have hempty : s.live = none := hl.emptied _ hres rfl
    have hsettled : Settled (s.cleanTaken (some tunnel) io).1 :=
      settled_cleanTaken hguard (owned_of_emptied h hres hempty)
    exact routes_released hsettled (cleanTaken_assemblies s (some tunnel) io)
      (cleanTaken_live_of_past h hres rfl io) none nofun
  · exact h

theorem routes_assembleStep {prepared : Bool} {stage : AssembleStage}
    (hres : s.resources = some (.assemble n prepared stage)) :
    (assembleStep s n prepared stage label).routesView.Sound := by
  have hplaced : s.assemblies n = some .applying := hl.placed _ hres
  have hn : s.assemblies n ≠ none := by simp [hplaced]
  have hready : stage.Ready s.live s.nic := h.ready _ hres
  -- An assembly without rows in its hands can end, and can go on to any stage that finds what it needs.
  have hsettled : stage.rows = [] → Settled s := settled_of_empty h hres
  have howned : stage.emptied = true → _ := fun hstage => owned_of_emptied h hres (hl.emptied _ hres hstage)
  have hend : Settled s → (s.endAssembly n).routesView.Sound := fun hs => sound_ended hl hn s hs rfl
  unfold assembleStep
  split
  case h_1 =>
    split
    · exact hend (hsettled rfl)
    · exact sound_handed hl h hres .granted rfl hready rfl
  case h_2 =>
    have hnone : s.live = none := hready
    refine sound_within hl hplaced rfl { s with live := none } _ rfl ?_ hnone
    exact owned_of_settled (s := { s with live := none }) (by rw [← hnone]; exact hsettled rfl) _
  case h_3 old io again =>
    have hnone : old = none := hready
    subst hnone
    exact sound_handed hl h hres .cleared rfl trivial rfl
  case h_4 =>
    split
    · exact sound_handed hl h hres (.nicReady false) rfl trivial rfl
    · split
      · exact sound_handed hl h hres (.nicReady true) rfl trivial rfl
      · exact hend (hsettled rfl)
  case h_5 newNic io =>
    obtain ⟨happlied, hfailed⟩ := apply_owned s.nextRow io
    split
    · rename_i hnic
      simp only
      split
      · rename_i owner hresult
        refine sound_within hl hplaced rfl _ _ rfl ?_ hnic
        intro row hrow
        rcases mem_append.mp hrow with hold | hcreated
        · exact owned_of_settled (hsettled rfl) _ row hold
        · rw [← happlied owner hresult] at hcreated
          exact .inr (.inr hcreated)
      · rename_i pendingRoutes hresult
        refine sound_within hl hplaced rfl _ _ rfl ?_ trivial
        intro row hrow
        obtain ⟨hout, hkept⟩ := mem_forget.mp hrow
        rcases mem_append.mp hout with hold | hcreated
        · exact owned_of_settled (hsettled rfl) _ row hold
        · have hrolled := failed_of_not (fun hremoved => hkept ⟨hcreated, hremoved⟩) (hguard row)
          exact .inr (.inr (hfailed pendingRoutes hresult row hcreated hrolled))
    · exact hend (hsettled rfl)
  case h_6 pendingRoutes => exact sound_handed hl h hres (.applyFailed false pendingRoutes) rfl trivial rfl
  case h_7 pendingRoutes =>
    split
    · rename_i hnone
      exact hend (hsettled (by simpa [AssembleStage.rows] using hnone))
    refine sound_ended hl hn { s with pendingRoutes := s.pendingRoutes ++ [pendingRoutes] } ?_ rfl
    intro row hrow
    right
    rw [pendingRows, flatMap_append, flatMap_singleton, mem_append]
    exact (howned rfl row hrow).symm
  case h_8 newNic route =>
    split
    · exact sound_handed hl h hres (.abandoned newNic route) rfl trivial rfl
    · exact sound_handed hl h hres (.starting newNic route) rfl hready rfl
  case h_9 newNic route started =>
    -- The adapter is still there, so the second `expect` holds.
    rw [if_pos (show s.nic = true from hready)]
    split
    · exact sound_handed hl h hres (.started route) rfl trivial rfl
    · exact sound_handed hl h hres (.abandoned newNic route) rfl trivial rfl
  case h_10 newNic route io =>
    have hcleaned : Settled (s.cleanupOrRetain (cleanupOnly n (s.modes n) route) io).1 :=
      settled_cleanupOrRetain hguard (howned rfl)
    have hassemblies := cleanupOrRetain_assemblies s (cleanupOnly n (s.modes n) route) io
    simp only
    split
    · exact sound_within hl hplaced rfl _ _ hassemblies (owned_of_settled hcleaned _) trivial
    · exact sound_ended hl hn _ hcleaned hassemblies
  case h_11 => exact sound_ended hl hn { s with nic := false } (hsettled rfl) rfl
  case h_12 route => exact sound_handed hl h hres (.numbered _) rfl trivial rfl
  case h_13 tunnel alive =>
    split
    · exact sound_handed hl h hres (.rejected tunnel) rfl trivial rfl
    · exact sound_ended hl hn _ (howned rfl) rfl
  case h_14 tunnel io =>
    have hcleaned := settled_cleanupOrRetain hguard (howned rfl)
    exact sound_ended hl hn _ hcleaned (cleanupOrRetain_assemblies s tunnel io)
  case h_15 => exact h

theorem routes_criticalStep : (criticalStep s label).routesView.Sound := by
  unfold criticalStep
  split
  · exact h
  · rename_i hres
    exact routes_previousStep hl h hguard hres
  · rename_i hres
    exact routes_callerStep hl h hguard hres
  · rename_i hres
    exact routes_sweeperStep hl h hguard hres
  · rename_i hres
    exact routes_assembleStep hl h hguard hres

end

/-! ## Steps outside the resources lock -/

variable (h : s.routesView.Sound)
include h

/-- An assembly moves; it gets past its first clearing only from a place that is. -/
theorem routes_walk (pc : Option AssemblyPc)
    (hpc : ∀ next, pc = some next → next.past = true → ∃ old, s.assemblies n = some old ∧ old.past = true) :
    (s.setAssembly n pc).routesView.Sound where
  __ := h
  past := by
    intro m next hm hpast
    have hmoved : update s.assemblies n pc m = some next := hm
    by_cases hmn : m = n
    · rw [hmn, update_self] at hmoved
      obtain ⟨old, hold, holdPast⟩ := hpc next hmoved hpast
      exact h.past n old hold holdPast
    · rw [update_of_ne hmn] at hmoved
      exact h.past m next hmoved hpast

/-- Somebody gets the resources lock with empty hands. -/
theorem routes_locked (hfree : s.resources = none) {critical : Critical}
    (hhand : critical.hand = none) (hready : critical.Ready s.live s.nic) : (s.inside critical).routesView.Sound := by
  refine routes_released (settled_of_empty h hfree rfl) rfl (live_of_past h) (some critical) ?_
  rintro _ ⟨⟩
  exact ⟨hhand, hready⟩

theorem routes_assemblyStep (n : Nat) (label : AssemblyLabel) : (assemblyStep s n label).routesView.Sound := by
  have hended : (s.setAssembly n (some .ended)).routesView.Sound :=
    routes_walk h (some .ended) (by rintro _ ⟨⟩ ⟨⟩)
  have hgone (hfree : s.resources = none) : (s.endAssembly n).routesView.Sound := by
    have hleft : s.leave = s := by rw [leave, ← hfree]
    rw [endAssembly, hleft]
    exact hended
  -- From one place past the clearing to another, or to the end.
  have hwalk : ∀ {pc : AssemblyPc}, s.assemblies n = some pc → pc.past = true → ∀ next : AssemblyPc,
      (s.setAssembly n (some next)).routesView.Sound :=
    fun hpc hpast next => routes_walk h (some next) fun _ _ _ => ⟨_, hpc, hpast⟩
  unfold assemblyStep
  split
  case h_1 hpc =>
    split
    · exact hended
    · exact routes_walk h (some .clearing) (by rintro _ ⟨⟩ ⟨⟩)
  case h_2 hpc =>
    split
    · exact h
    rename_i hfree
    split
    · exact hgone hfree
    · exact routes_locked h hfree rfl trivial
  case h_3 hpc | h_5 hpc => exact hwalk hpc rfl _
  case h_4 hpc =>
    split <;> exact hwalk hpc rfl _
  case h_6 hpc | h_7 hpc => exact hwalk hpc rfl _
  case h_8 prepared hpc =>
    split
    · exact h
    rename_i hfree
    split
    · exact hgone hfree
    · have hnone : s.live = none := (h.past n _ hpc rfl).1
      exact routes_locked (hwalk hpc rfl .applying) hfree rfl hnone
  case h_9 hpc => exact routes_walk h none nofun
  case h_10 => exact h

theorem routes_callStep (k : Nat) {label : CallLabel} (hguard : keepsRoutes s (.call k label)) :
    (callStep s k label).routesView.Sound := by
  unfold callStep
  split
  · split
    · exact h
    · rename_i hfree
      split
      · exact h
      · exact routes_locked h hfree rfl trivial
  · split
    · exact h
    · refine ⟨h.owned, h.past, ?_⟩
      intro critical hres
      have hready := h.ready critical hres
      -- Only the two stages that still need the adapter would notice.
      cases critical with
      | assemble n prepared stage =>
        cases stage with
        | applied newNic route => exact absurd hres (hguard n prepared newNic route).1
        | starting newNic route => exact absurd hres (hguard n prepared newNic route).2
        | _ => exact hready
      | _ => exact hready
  · exact h

theorem routes_sweepStep (g : Nat) : (sweepStep s g).routesView.Sound := by
  unfold sweepStep
  split
  · split
    · exact h
    · rename_i hfree
      simp only
      split
      · exact routes_locked (s := { s with lost := update s.lost g false }) h hfree rfl trivial
      · exact h
  · exact h

theorem routes_startApply (mode : ConnectionMode) (alive rebindable : Bool) :
    (s.startApply mode alive rebindable).routesView.Sound := by
  have haccept : (s.accept mode).routesView.Sound :=
    routes_walk (n := s.accepted + 1) h (some .entered) (by rintro _ ⟨⟩ ⟨⟩)
  unfold startApply
  split
  · exact h
  · simp only
    split
    · exact h
    · exact haccept
  · exact haccept

end EngineRoutesAux

open EngineRoutesAux

/-- One guarded step of the runtime leaves every row with an owner. -/
theorem routesSound_runtimeStep (s : RuntimeState) (label : RuntimeLabel) (hl : s.lifecycleView.Sound)
    (h : s.routesView.Sound) (hguard : keepsRoutes s label) : (runtimeStep s label).routesView.Sound := by
  cases label with
  | startApply mode alive rebindable => exact routes_startApply h mode alive rebindable
  | cancel | disconnect => exact h
  | assembly n label => exact routes_assemblyStep h n label
  | call k label => exact routes_callStep h k hguard
  | dataPlaneLost generation =>
    simp only [runtimeStep]
    split <;> exact h
  | sweep generation => exact routes_sweepStep h generation
  | critical label => exact routes_criticalStep hl h hguard

end ExvVpn.Win32Engine
