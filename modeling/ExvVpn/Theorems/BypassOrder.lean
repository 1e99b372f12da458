import ExvVpn.Lemmas.RouteApply
import ExvVpn.Tools.Transition

/-!
# When the gateway bypass row goes

The bypass row is installed before the rows of the tunnel and visited last by a cleanup. The cleanup goes on past a removal
that fails, and drops a row whose removal is answered with code 87 though it is still there. So the bypass row is taken out
under a row of the tunnel exactly when its removal goes through in a cleanup in which another does not, or in a table with a
row that an earlier cleanup has dropped.
-/

namespace ExvVpn.PlatformTunnel

open Win32Resource Transition List Option RouteOwner RouteState Holder

/-! ## The order of a cleanup -/

variable (base : RouteTable) (bypass : Option RouteIdentity)

/-- If it is the bypass row that was taken out, every other row in the table was there before the run. Nobody else works on
the table, so any other row would be one of the run. -/
def Attempt.Guards (removal : Attempt RouteTable) : Prop :=
  bypass = some removal.route.identity →
    ∀ name ∈ removal.before.identities, name ∈ base.identities ∨ name = removal.route.identity

instance (base : RouteTable) (bypass : Option RouteIdentity) (removal : Attempt RouteTable) :
    Decidable (removal.Guards base bypass) :=
  inferInstanceAs (Decidable (bypass = some removal.route.identity →
    ∀ name ∈ removal.before.identities, name ∈ base.identities ∨ name = removal.route.identity))

/-- If the removal of the bypass row goes through, then so does every other removal of the cleanup, and the table has no row
of the run beyond those of the cleanup. -/
def Ordered (table : RouteTable) (owned : List OwnedRoute) (io : OwnedRoute → RemoveIo) : Prop :=
  ∀ own ∈ owned, bypass = some own.identity → own.result (io own) = .removed →
    (∀ route ∈ owned, route.result (io route) = .removed) ∧
      ∀ name ∈ table.identities, name ∈ base.identities ∨ name ∈ owned.map OwnedRoute.identity

/-- The bypass row stands in front of the rows of the tunnel. -/
def BypassFirst (owned : List OwnedRoute) : Prop :=
  ∀ route ∈ owned.tail, bypass ≠ some route.identity

variable {base bypass} {table : RouteTable} {owned : List OwnedRoute}

/-- Behind the bypass row a cleanup takes out what it likes. -/
theorem guards_of_not_bypass {io : OwnedRoute → RemoveIo} (h : ∀ route ∈ owned, bypass ≠ some route.identity) :
    ∀ removal ∈ (retryOnTable table owned io).removals, removal.Guards base bypass :=
  fun _ hremoval hbypass => absurd hbypass (h _ (route_mem_of_removal hremoval))

/-- The last removal of a cleanup is guarded exactly when all the others have gone through and the table has no other row
of the run. -/
theorem guards_last (io : OwnedRoute → RemoveIo) {own : OwnedRoute} {rest : List OwnedRoute}
    (hpresent : Present table (own :: rest)) (hfresh : ∀ route ∈ rest, route.identity ∉ base.identities) :
    (∀ name ∈ (retryOnTable table rest io).state.identities, name ∈ base.identities ∨ name = own.identity) ↔
      (∀ route ∈ rest, route.result (io route) = .removed) ∧
        ∀ name ∈ table.identities, name ∈ base.identities ∨ name ∈ (own :: rest).map OwnedRoute.identity := by
  have hmem := fun row => mem_retryOnTable io row (present_tail hpresent)
  simp only [RouteTable.identities, List.forall_mem_map]
  constructor
  · intro h
    have hleft : ∀ row ∈ table.rows, (∀ route ∈ rest, route.result (io route) = .removed → row.identity ≠ route.identity) →
        row.identity ∈ base.identities ∨ row.identity = own.identity :=
      fun row hrow hothers => h row ((hmem row).mpr ⟨hrow, hothers⟩)
    refine ⟨fun route hroute => ?_, fun row hrow => ?_⟩
    · by_contra hstays
      obtain ⟨row, hrow, hnames⟩ := (present_tail hpresent).there route hroute
      have hothers : ∀ other ∈ rest, other.result (io other) = .removed → row.identity ≠ other.identity := by
        intro other hother hremoved hname
        have hsame := inj_on_of_nodup_map (present_tail hpresent).distinct hroute hother
          (hnames.identity_eq.symm.trans hname)
        exact hstays (hsame ▸ hremoved)
      rcases hleft row hrow hothers with hbase | hown
      · exact hfresh route hroute (hnames.identity_eq ▸ hbase)
      · exact (nodup_cons.mp hpresent.distinct).1 (mem_map.mpr ⟨route, hroute, hnames.identity_eq.symm.trans hown⟩)
    · by_cases hin : row.identity ∈ rest.map OwnedRoute.identity
      · exact .inr (mem_cons_of_mem _ hin)
      · refine (hleft row hrow fun route hroute _ hsame => ?_).imp_right fun hown => ?_
        · exact hin (mem_map.mpr ⟨route, hroute, hsame.symm⟩)
        · exact hown ▸ mem_cons_self
  · rintro ⟨hall, hnames⟩ row hrow
    obtain ⟨hbefore, hothers⟩ := (hmem row).mp hrow
    rcases hnames row hbefore with hbase | hin
    · exact .inl hbase
    rcases mem_cons.mp hin with hown | htail
    · exact .inr hown
    · obtain ⟨route, hroute, hsame⟩ := mem_map.mp htail
      exact absurd hsame.symm (hothers route hroute (hall route hroute))

/-- A cleanup guards its rows exactly when it is ordered. -/
theorem guards_retryOnTable {io : OwnedRoute → RemoveIo} (hpresent : Present table owned)
    (hfirst : BypassFirst bypass owned) (hfresh : ∀ route ∈ owned, route.identity ∉ base.identities) :
    (∀ removal ∈ (retryOnTable table owned io).removals, removal.Guards base bypass) ↔
      Ordered base bypass table owned io := by
  cases owned with
  | nil => simp [retryOnTable, retryOwnedRoutesWith, CleanupPass.removals, Ordered]
  | cons own rest =>
    have hrest := @guards_of_not_bypass base bypass table rest io hfirst
    obtain ⟨row, hrow, hnames⟩ := mem_retryOnTable_tail io hpresent
    have hvisit := visited io hrow hnames
    have hlast := guards_last io hpresent fun route hroute => hfresh route (mem_cons_of_mem _ hroute)
    have hordered : Ordered base bypass table (own :: rest) io ↔
        (bypass = some own.identity → own.result (io own) = .removed →
          ∀ name ∈ (retryOnTable table rest io).state.identities, name ∈ base.identities ∨ name = own.identity) := by
      rw [hlast, Ordered, forall_mem_cons]
      refine (and_iff_left fun route hroute hbypass => absurd hbypass (hfirst route hroute)).trans ?_
      refine imp_congr_right fun _ => imp_congr_right fun hremoved => ?_
      rw [forall_mem_cons, and_iff_right hremoved]
    rw [hordered, retryOnTable, retryOwnedRoutesWith_cons]
    rw [retryOnTable] at hrest hvisit
    generalize own.result (io own) = result at hvisit ⊢
    generalize (retryOwnedRoutesWith _ table rest).visit _ own = next at hvisit ⊢
    cases hvisit with
    | removed =>
      simp only [CleanupPass.removals, filter_cons_of_pos, forall_mem_cons, true_imp_iff]
      exact and_iff_left hrest
    | changed | failed =>
      refine iff_of_true hrest fun _ hremoved => ?_
      cases hremoved

/-- The bypass row stays in front when rows are dropped. -/
theorem bypassFirst_filter (h : BypassFirst bypass owned)
    (keep : OwnedRoute → Bool) : BypassFirst bypass (owned.filter keep) := by
  cases owned with
  | nil => exact h
  | cons own rest =>
    intro route hroute
    refine h route ?_
    rw [filter_cons] at hroute
    split at hroute
    · exact mem_of_mem_filter hroute
    · exact mem_of_mem_filter (mem_of_mem_tail hroute)

/-- What a cleanup keeps is in the table, with the bypass row in front. -/
theorem kept_retryOnTable
    (io : OwnedRoute → RemoveIo) (hpresent : Present table owned) (hfirst : BypassFirst bypass owned) :
    Present (retryOnTable table owned io).state (retryOnTable table owned io).failed ∧
      BypassFirst bypass (retryOnTable table owned io).failed := by
  rw [failed_retryOnTable io hpresent]
  refine ⟨⟨?_, hpresent.distinct.sublist (filter_sublist.map _)⟩, bypassFirst_filter hfirst _⟩
  intro route hroute
  obtain ⟨hin, hfailed⟩ := mem_filter.mp hroute
  obtain ⟨row, hrow, hnames⟩ := hpresent.there route hin
  refine ⟨row, (mem_retryOnTable io row hpresent).mpr ⟨hrow, ?_⟩, hnames⟩
  intro other hother hremoved hname
  have hsame := inj_on_of_nodup_map hpresent.distinct hin hother (hnames.identity_eq.symm.trans hname)
  subst hsame
  simp [hremoved] at hfailed

/-- A row is borrowed only when its name is in use. -/
theorem inUse_of_borrowed {io : InstallIo} {row : RouteRow} {inUse : Bool} (h : io.outcome row inUse = .borrowed) :
    inUse = true := by
  cases inUse with
  | true => rfl
  | false =>
    unfold InstallIo.outcome at h
    simp only [Bool.false_eq_true, if_false] at h
    split at h
    · cases h
    split at h
    · cases h
    · split at h
      · cases h
      · split at h <;> cases h

/-- None of the rows created behind the first row of a list has its name. -/
theorem tail_createdRows {io : Nat → InstallIo} {number : Nat} {inUse : List RouteIdentity} {own : RouteRow}
    {tunnel : List RouteRow}
    (hfresh : ∀ route ∈ (createdRows io number inUse (own :: tunnel)).1, route.identity ∉ inUse)
    (hdistinct : ((createdRows io number inUse (own :: tunnel)).1.map OwnedRoute.identity).Nodup) :
    ∀ route ∈ (createdRows io number inUse (own :: tunnel)).1.tail, own.identity ≠ route.identity := by
  intro route hroute hname
  rw [createdRows] at hfresh hdistinct hroute
  cases houtcome : (io number).outcome own (own.identity ∈ inUse) with
  | failed =>
    rw [houtcome] at hroute
    cases hroute
  | borrowed =>
    exact hfresh route (mem_of_mem_tail hroute) (hname ▸ of_decide_eq_true (inUse_of_borrowed houtcome))
  | created | createdPending =>
    rw [houtcome] at hdistinct hroute
    exact (nodup_cons.mp hdistinct).1 (mem_map.mpr ⟨route, hroute, hname.symm⟩)

/-- An apply creates the bypass row first or not at all. -/
theorem bypassFirst_created {base : RouteTable} {plan : TunnelPlan} {io : ApplyIo}
    (hadds : Adds base table (io.created base plan).1) :
    BypassFirst (plan.bypass.map RouteRow.identity) (io.created base plan).1 := by
  intro route hroute hbypass
  obtain ⟨own, hown, hname⟩ := map_eq_some_iff.mp hbypass
  unfold ApplyIo.created at hadds hroute
  split at hroute
  · cases hroute
  rename_i rows hrows
  obtain ⟨tunnel, rfl⟩ : ∃ tunnel, rows = own :: tunnel := by
    unfold TunnelPlan.rows at hrows
    split at hrows
    · cases hrows
    · obtain ⟨tunnel, _, rfl⟩ := map_eq_some_iff.mp hrows
      exact ⟨tunnel, by rw [hown]; rfl⟩
  rw [hrows] at hadds
  split at hroute
  · rename_i happlied
    simp only [happlied, if_true] at hadds
    exact tail_createdRows hadds.fresh hadds.present.distinct route hroute hname
  · cases hroute

/-! ## Runs -/

variable (base) (s : RouteState)

/-- Every removal so far was guarded, in a run that began with this table. -/
def RouteState.Guarded : Prop := ∀ entry ∈ s.removals, entry.2.Guards base entry.1

instance (base : RouteTable) (s : RouteState) : Decidable (s.Guarded base) :=
  inferInstanceAs (Decidable (∀ entry ∈ s.removals, entry.2.Guards base entry.1))

/-- The cleanup that a call leads to, if any, is ordered. -/
def Orderly (label : RouteLabel) : Prop :=
  match s.holder, label with
  | .nobody, .apply plan io =>
    (io.created s.table plan).2 = false →
      Ordered base (plan.bypass.map RouteRow.identity) s.table (io.created s.table plan).1 io.rollback
  | .live owner, .clear io =>
    io.dnsRestored = true → io.proxyRestored = true → Ordered base s.bypass s.table owner.installedRoutes io.remove
  | .pending obligations, .retry io => Ordered base s.bypass s.table obligations.routes io
  | _, _ => True

/-- The rows that somebody has to remove. -/
def Holder.rows : Holder → List OwnedRoute
  | .nobody => []
  | .live owner => owner.installedRoutes
  | .pending obligations => obligations.routes

/-- Rows to remove are in the table, with the bypass row in front, and none of them was there before the run. -/
structure Removable (table : RouteTable) (bypass : Option RouteIdentity) (owned : List OwnedRoute) : Prop where
  present : Present table owned
  first : BypassFirst bypass owned
  fresh : ∀ route ∈ owned, route.identity ∉ base.identities

/-- The rows from before the run are in the table, and the owned rows can be removed. -/
structure RouteState.Sound : Prop where
  kept : ∀ row ∈ base.rows, row ∈ s.table.rows
  removable : Removable base s.table s.bypass s.holder.rows

variable {base}

/-- Nothing to remove. -/
theorem removable_nil : Removable base table bypass [] := ⟨⟨by simp, nodup_nil⟩, by simp [BypassFirst], by simp⟩

/-- Pending obligations are the rows of their holder. -/
theorem rows_ofPending (obligations : RouteCleanupObligations) : (ofPending obligations).rows = obligations.routes := by
  unfold ofPending
  split
  · rename_i hempty
    exact (isEmpty_iff.mp hempty).symm
  · rfl

/-- A cleanup leaves the rows from before the run, and what it keeps can be removed later. -/
theorem sound_retryOnTable (io : OwnedRoute → RemoveIo) (hkept : ∀ row ∈ base.rows, row ∈ table.rows)
    (h : Removable base table bypass owned) :
    (∀ row ∈ base.rows, row ∈ (retryOnTable table owned io).state.rows) ∧
      Removable base (retryOnTable table owned io).state bypass (retryOnTable table owned io).failed := by
  obtain ⟨hpresent, hfirst⟩ := kept_retryOnTable io h.present h.first
  refine ⟨fun row hrow => ?_, hpresent, hfirst, fun route hroute => ?_⟩
  · refine mem_retryOnTable_of_ne (hkept row hrow) fun route hroute hname => ?_
    exact h.fresh route hroute (RouteTable.mem_identities.mpr ⟨row, hrow, hname⟩)
  · exact h.fresh route (failed_retryOwnedRoutesWith_subset hroute)

/-- The rows that an apply creates can be removed. -/
theorem removable_created {s : RouteState} {plan : TunnelPlan} {io : ApplyIo} (hs : s.Sound base)
    (hadds : Adds s.table table (io.created s.table plan).1) :
    (∀ row ∈ base.rows, row ∈ table.rows) ∧
      Removable base table (plan.bypass.map RouteRow.identity) (io.created s.table plan).1 := by
  refine ⟨fun row hrow => hadds.kept row (hs.kept row hrow), hadds.present, bypassFirst_created hadds, ?_⟩
  intro route hroute hname
  obtain ⟨row, hrow, hsame⟩ := RouteTable.mem_identities.mp hname
  exact hadds.fresh route hroute (RouteTable.mem_identities.mpr ⟨row, hs.kept row hrow, hsame⟩)

theorem guarded_noted {removals : List (Attempt RouteTable)} {before : List (Option RouteIdentity × Attempt RouteTable)} :
    (∀ entry ∈ noted bypass removals ++ before, entry.2.Guards base entry.1) ↔
      (∀ entry ∈ before, entry.2.Guards base entry.1) ∧ ∀ removal ∈ removals, removal.Guards base bypass := by
  rw [forall_mem_append, and_comm]
  simp [noted]

/-- What a holder has to remove can be removed. -/
theorem removable_rows {s : RouteState} {holder : Holder} (hs : s.Sound base) (hholder : s.holder = holder) :
    Removable base s.table s.bypass holder.rows := by
  subst hholder
  exact hs.removable

/-- Every call keeps the rows from before the run, and leaves rows that can be removed. -/
theorem sound_routeStep (label : RouteLabel) (hs : s.Sound base) : (routeStep s label).Sound base := by
  unfold routeStep
  split
  case h_1 plan io hholder =>
    have hleaves := applyLeaves s.table plan io
    generalize apply s.table plan io = applied at hleaves ⊢
    cases hleaves with
    | applied hadds hthrough facts =>
      obtain ⟨hkept, hrows⟩ := removable_created hs hadds
      exact ⟨hkept, hrows⟩
    | rolledBack hadds hthrough detail code =>
      obtain ⟨hkept, hrows⟩ := removable_created hs hadds
      obtain ⟨hkept, hrows⟩ := sound_retryOnTable io.rollback hkept hrows
      exact ⟨hkept, (rows_ofPending _).symm ▸ hrows⟩
  case h_2 owner io hholder =>
    have hrows := removable_rows hs hholder
    obtain ⟨hkept, hleft⟩ := sound_retryOnTable io.remove hs.kept hrows
    dsimp only [clear]
    split
    · split
      · exact ⟨hkept, removable_nil⟩
      · exact ⟨hkept, hleft⟩
    · exact ⟨hs.kept, hrows⟩
  case h_3 obligations io hholder =>
    obtain ⟨hkept, hleft⟩ := sound_retryOnTable io hs.kept (removable_rows hs hholder)
    exact ⟨hkept, (rows_ofPending _).symm ▸ hleft⟩
  case h_4 => exact hs

/-- A rollback may be judged by the table before the apply, since the rows in between are its own. -/
theorem ordered_created {before : RouteTable} {io : OwnedRoute → RemoveIo} (hadds : Adds before table owned) :
    Ordered base bypass table owned io ↔ Ordered base bypass before owned io := by
  have hnames : (∀ name ∈ table.identities, name ∈ base.identities ∨ name ∈ owned.map OwnedRoute.identity) ↔
      ∀ name ∈ before.identities, name ∈ base.identities ∨ name ∈ owned.map OwnedRoute.identity := by
    simp only [RouteTable.identities, List.forall_mem_map]
    constructor <;> intro h row hrow
    · exact h row (hadds.kept row hrow)
    · rcases hadds.named row hrow with hbefore | ⟨route, hroute, hnamed⟩
      · exact h row hbefore
      · exact .inr (mem_map.mpr ⟨route, hroute, hnamed.identity_eq.symm⟩)
  simp only [Ordered, hnames]

/-- A call guards the rows exactly when its cleanup is ordered. -/
theorem guarded_routeStep (label : RouteLabel) (hs : s.Sound base) :
    (routeStep s label).Guarded base ↔ s.Guarded base ∧ Orderly base s label := by
  unfold routeStep RouteState.Guarded
  split
  case h_1 plan io hholder =>
    simp only [Orderly, hholder]
    rw [guarded_noted]
    refine and_congr Iff.rfl ?_
    have hleaves := applyLeaves s.table plan io
    generalize apply s.table plan io = applied at hleaves ⊢
    cases hleaves with
    | applied hadds hthrough facts => simp [hthrough]
    | rolledBack hadds hthrough detail code =>
      obtain ⟨-, hrows⟩ := removable_created hs hadds
      rw [guards_retryOnTable hrows.present hrows.first hrows.fresh, ordered_created hadds]
      simp [hthrough]
  case h_2 owner io hholder =>
    have hrows := removable_rows hs hholder
    simp only [Orderly, hholder]
    rw [guarded_noted]
    refine and_congr Iff.rfl ?_
    unfold clear
    split
    · rename_i hrestored
      obtain ⟨hdns, hproxy⟩ := Bool.and_eq_true_iff.mp hrestored
      rw [hdns, hproxy, imp_iff_right rfl, imp_iff_right rfl]
      exact guards_retryOnTable hrows.present hrows.first hrows.fresh
    · rename_i hrestored
      refine iff_of_true (by simp) ?_
      intro hdns hproxy
      simp [hdns, hproxy] at hrestored
  case h_3 obligations io hholder =>
    have hrows := removable_rows hs hholder
    simp only [Orderly, hholder]
    rw [guarded_noted]
    exact and_congr Iff.rfl (guards_retryOnTable hrows.present hrows.first hrows.fresh)
  case h_4 happly hclear hretry =>
    refine (and_iff_left ?_).symm
    unfold Orderly
    split
    case h_1 plan io hholder => exact (happly plan io hholder rfl).elim
    case h_2 owner io hholder => exact (hclear owner io hholder rfl).elim
    case h_3 obligations io hholder => exact (hretry obligations io hholder rfl).elim
    case h_4 => trivial

/-- In a run of applies, clears and retries the bypass row is never taken out while another row of the run is in the table
exactly when each cleanup that removes the bypass row removes all its other rows and finds no further row of the run. -/
theorem bypass_removed_last_iff (table : RouteTable) (labels : List RouteLabel) :
    (run routeStep (.start table) labels).Guarded table ↔ Along routeStep (Orderly table) (.start table) labels := by
  have hstart : (start table).Sound table := ⟨fun _ hrow => hrow, removable_nil⟩
  rw [iff_along_of_invariant sound_routeStep guarded_routeStep hstart]
  exact and_iff_right (by simp [RouteState.Guarded, start])

/-- A plan with a bypass row and one route. -/
def bypassAndRoute : TunnelPlan where
  luid := 7
  prefixLen := 24
  routes := ["10.0.0.0/8".toList]
  campusRoutes := []
  bypass := some (.new ⟨10, 1, 1, 1⟩ 32 ⟨192, 168, 0, 1⟩ 5 1)
  bypassManual row hrow := by
    rw [← Option.some.inj hrow]
    rfl

/-- Every family and every install goes through. -/
def quietApply : ApplyIo where
  addressApplied := true
  mtuApplied := true
  install _ := ⟨none, 10, none, none, none⟩
  dnsApplied := true
  rollback _ := ⟨none, none, none⟩

/-- A clear in which the delete of the tunnel row is denied and everything else goes through. -/
def deniedClear : ClearIo where
  dnsRestored := true
  proxyRestored := true
  remove route := if route.identity.interfaceLuid = 7 then ⟨none, none, some ⟨5, by decide⟩⟩ else ⟨none, none, none⟩
  mtuRestored := true
  addressesRemoved := true

/-- The tunnel row stays and is still owned, and the bypass row is gone. -/
theorem bypass_removed_first :
    (run routeStep (.start .empty) [.apply bypassAndRoute quietApply, .clear deniedClear]).table.rows =
        [⟨⟨10, 0, 0, 0⟩, 8, .unspecified, 7, 10, 3⟩] ∧
      (run routeStep (.start .empty) [.apply bypassAndRoute quietApply, .clear deniedClear]).holder =
        .live ⟨[.effective ⟨⟨10, 0, 0, 0⟩, 8, .unspecified, 7, 10, 3⟩]⟩ ∧
      ¬(run routeStep (.start .empty) [.apply bypassAndRoute quietApply, .clear deniedClear]).Guarded .empty := by
  decide +kernel

end ExvVpn.PlatformTunnel
