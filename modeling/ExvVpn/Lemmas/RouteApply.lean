import ExvVpn.Lemmas.RouteCleanup

/-!
# What an apply does to the route table

The account of a route owner: the table is the one before the plan with exactly the owned rows added. The install loop keeps
it, and a cleanup keeps it for the rows it does not take out. Which rows an apply creates, and whether it gets through, is
read off the plan, the names in use and the answers of Windows.
-/

namespace ExvVpn.PlatformTunnel

open Win32Resource List Option RouteTable ApplyIo

/-! ## The account -/

/-- The table is the base with exactly the owned rows added. -/
structure Adds (base table : RouteTable) (owned : List OwnedRoute) : Prop where
  kept : ∀ row ∈ base.rows, row ∈ table.rows
  named : ∀ row ∈ table.rows, row ∈ base.rows ∨ ∃ route ∈ owned, route.Names row
  present : Present table owned
  fresh : ∀ route ∈ owned, route.identity ∉ base.identities

theorem adds_refl (table : RouteTable) : Adds table table [] where
  kept _ hrow := hrow
  named _ hrow := .inl hrow
  present := ⟨by simp, nodup_nil⟩
  fresh := by simp

variable {owned : List OwnedRoute}

/-- A created row joins the account. -/
theorem adds_insert {base table : RouteTable} {row : RouteRow} {route : OwnedRoute}
    (h : Adds base table owned) (hnames : route.Names row) (hluid : row.interfaceLuid ≠ 0)
    (hfree : row.identity ∉ table.identities) : Adds base (table.insert row) (owned ++ [route]) := by
  have hrows := rows_insert hluid hfree
  have hname := hnames.identity_eq
  refine ⟨?_, ?_, ⟨?_, ?_⟩, ?_⟩
  · intro other hother
    rw [hrows]
    exact mem_cons_of_mem _ (h.kept other hother)
  · rw [hrows, forall_mem_cons]
    refine ⟨.inr ⟨route, by simp, hnames⟩, fun other hother => ?_⟩
    rcases h.named other hother with hbase | ⟨owner, howner, hnamed⟩
    · exact .inl hbase
    · exact .inr ⟨owner, by simp [howner], hnamed⟩
  · rw [hrows, forall_mem_append, forall_mem_singleton]
    refine ⟨fun other hother => ?_, row, mem_cons_self, hnames⟩
    obtain ⟨actual, hactual, hnamed⟩ := h.present.there other hother
    exact ⟨actual, mem_cons_of_mem _ hactual, hnamed⟩
  · rw [map_append, map_singleton, nodup_append]
    refine ⟨h.present.distinct, nodup_singleton _, ?_⟩
    intro name hin name' hin' heq
    obtain ⟨other, hother, rfl⟩ := mem_map.mp hin
    obtain ⟨actual, hactual, hnamed⟩ := h.present.there other hother
    rw [mem_singleton.mp hin'] at heq
    exact hfree (mem_identities.mpr ⟨actual, hactual, hnamed.identity_eq.trans (heq.trans hname.symm)⟩)
  · rw [forall_mem_append, forall_mem_singleton, ← hname]
    refine ⟨h.fresh, fun hin => ?_⟩
    obtain ⟨actual, hactual, hsame⟩ := mem_identities.mp hin
    exact hfree (mem_identities.mpr ⟨actual, h.kept actual hactual, hsame⟩)

/-- After a cleanup the account holds for the rows that were not taken out. -/
theorem Adds.cleanup {base table : RouteTable} (h : Adds base table owned) (io : OwnedRoute → RemoveIo) :
    Adds base (retryOnTable table owned io).state
      (owned.filter fun route => route.result (io route) ≠ .removed) := by
  have hmem := fun row => mem_retryOnTable io row h.present
  refine ⟨?_, ?_, ⟨?_, h.present.distinct.sublist (filter_sublist.map _)⟩, ?_⟩
  · intro row hrow
    refine (hmem row).mpr ⟨h.kept row hrow, ?_⟩
    intro route hroute _ hname
    exact h.fresh route hroute (mem_identities.mpr ⟨row, hrow, hname⟩)
  · intro row hrow
    obtain ⟨hbefore, hothers⟩ := (hmem row).mp hrow
    rcases h.named row hbefore with hbase | ⟨route, hroute, hnames⟩
    · exact .inl hbase
    · refine .inr ⟨route, mem_filter.mpr ⟨hroute, ?_⟩, hnames⟩
      simpa using fun hremoved => hothers route hroute hremoved hnames.identity_eq
  · intro route hroute
    obtain ⟨hin, hleft⟩ := mem_filter.mp hroute
    obtain ⟨row, hrow, hnames⟩ := h.present.there route hin
    refine ⟨row, (hmem row).mpr ⟨hrow, ?_⟩, hnames⟩
    intro other hother hremoved hname
    have hsame := inj_on_of_nodup_map h.present.distinct hin hother (hnames.identity_eq.symm.trans hname)
    subst hsame
    simp [hremoved] at hleft
  · intro route hroute
    exact h.fresh route (mem_of_mem_filter hroute)

/-! ## The install loop -/

/-- The rows an install loop creates, and whether it gets to its end, from the names in use and the answers. -/
def createdRows (io : Nat → InstallIo) (number : Nat) (inUse : List RouteIdentity) :
    List RouteRow → List OwnedRoute × Bool
  | [] => ([], true)
  | row :: rest =>
    match (io number).outcome row (row.identity ∈ inUse) with
    | .failed => ([], false)
    | .borrowed => createdRows io (number + 1) inUse rest
    | .created =>
      let (rows, through) := createdRows io (number + 1) (row.identity :: inUse) rest
      (.effective (row.stored (io number).metric) :: rows, through)
    | .createdPending =>
      let (rows, through) := createdRows io (number + 1) (row.identity :: inUse) rest
      (.pending row :: rows, through)

/-- What an install loop leaves: the account holds, the created rows are recorded, and it is through if no install
failed. -/
structure LoopLeaves (base : RouteTable) (s : Installing) (created : List OwnedRoute × Bool)
    (after : Except SystemProxy.NativeError Unit × Installing) : Prop where
  adds : Adds base after.2.table after.2.installedRoutes
  recorded : after.2.installedRoutes = s.installedRoutes ++ created.1
  through : after.1 = .ok () ↔ created.2 = true

theorem LoopLeaves.cons {base : RouteTable} {s next : Installing} {created : List OwnedRoute × Bool}
    {after : Except SystemProxy.NativeError Unit × Installing} {route : OwnedRoute}
    (h : LoopLeaves base next created after) (hnext : next.installedRoutes = s.installedRoutes ++ [route]) :
    LoopLeaves base s (route :: created.1, created.2) after where
  __ := h
  recorded := by rw [h.recorded, hnext, append_assoc, singleton_append]

/-- The loop creates the rows that the answers say. -/
theorem loopLeaves {base : RouteTable} {io : Nat → InstallIo} {rows : List RouteRow} {number : Nat} {s : Installing}
    (hrows : ∀ row ∈ rows, row.protocol = protocolNetmgmt) (h : Adds base s.table s.installedRoutes) :
    LoopLeaves base s (createdRows io number s.table.identities rows) (installRoutes io number s rows) := by
  induction rows generalizing number s with
  | nil => exact ⟨h, (append_nil _).symm, by simp [installRoutes, createdRows]⟩
  | cons row rest ih =>
    obtain ⟨hrow, hrest⟩ := forall_mem_cons.mp hrows
    have hinstalled := installed s.table (io number) hrow
    rw [installRoutes, createdRows]
    generalize (io number).outcome row (row.identity ∈ s.table.identities) = outcome at hinstalled ⊢
    generalize installWithOutcome s.table row (io number) = after at hinstalled ⊢
    cases hinstalled with
    | failed error => exact ⟨h, (append_nil _).symm, by simp⟩
    | borrowed actual =>
      have hloop := @ih (number + 1) (recordOwnedRoute s (.borrowed actual)) hrest h
      exact ⟨hloop.adds, hloop.recorded, hloop.through⟩
    | created hluid hfree =>
      have hadds : Adds base (s.table.insert (row.stored (io number).metric))
          (s.installedRoutes ++ [.effective (row.stored (io number).metric)]) := adds_insert h rfl hluid hfree
      have hloop := @ih (number + 1) (recordOwnedRoute { s with table := s.table.insert (row.stored (io number).metric) }
        (.created (row.stored (io number).metric))) hrest hadds
      dsimp only [recordOwnedRoute] at hloop
      rw [identities_insert_stored _ hluid hfree] at hloop
      exact hloop.cons rfl
    | createdPending hluid hfree readbackError rollbackError =>
      have hadds : Adds base (s.table.insert (row.stored (io number).metric)) (s.installedRoutes ++ [.pending row]) :=
        adds_insert h ⟨rfl, hrow.symm⟩ hluid hfree
      have hloop := @ih (number + 1) (recordOwnedRoute { s with table := s.table.insert (row.stored (io number).metric) }
        (.createdPending row readbackError rollbackError)) hrest hadds
      dsimp only [recordOwnedRoute] at hloop
      rw [identities_insert_stored _ hluid hfree] at hloop
      exact hloop.cons rfl

/-! ## The apply -/

/-- The rows of a plan in the order of installation; `none` for a plan that is refused. -/
def TunnelPlan.rows (plan : TunnelPlan) : Option (List RouteRow) :=
  if 32 < plan.prefixLen then none else plan.tunnelRows.map (plan.bypass.toList ++ ·)

/-- The rows that an apply creates, and whether it gets through, from the plan, the names in use and the answers. -/
def ApplyIo.created (io : ApplyIo) (table : RouteTable) (plan : TunnelPlan) : List OwnedRoute × Bool :=
  match plan.rows with
  | none => ([], false)
  | some rows =>
    if io.addressApplied && io.mtuApplied then
      let (created, through) := createdRows io.install 0 table.identities rows
      (created, through && io.dnsApplied)
    else ([], false)

/-- What an apply leaves: the created rows with their owner, or the rest of a rollback of the created rows. -/
inductive ApplyLeaves (base : RouteTable) (created : List OwnedRoute × Bool) (rollback : OwnedRoute → RemoveIo) :
    Applied → Prop
  | applied {table : RouteTable} (hadds : Adds base table created.1) (hthrough : created.2 = true)
      (facts : RouteOwnershipFacts) : ApplyLeaves base created rollback ⟨.ok (⟨created.1⟩, facts), table, []⟩
  | rolledBack {table : RouteTable} (hadds : Adds base table created.1) (hthrough : created.2 = false)
      (detail : ApplyFailure) (code : Option UInt32) : ApplyLeaves base created rollback
        ⟨.error ⟨detail, ⟨(retryOnTable table created.1 rollback).failed⟩, code⟩,
          (retryOnTable table created.1 rollback).state, (retryOnTable table created.1 rollback).removals⟩

theorem installRoutes_append (io : Nat → InstallIo) (first second : List RouteRow) (number : Nat) (s : Installing) :
    installRoutes io number s (first ++ second) =
      match installRoutes io number s first with
      | (.error error, s) => (.error error, s)
      | (.ok (), s) => installRoutes io (number + first.length) s second := by
  induction first generalizing number s with
  | nil => rfl
  | cons row rest ih =>
    simp only [cons_append, installRoutes, length_cons]
    split
    · rfl
    · rw [ih, Nat.add_right_comm, Nat.add_assoc]

theorem forall_mem_of_mapM {α β : Type*} {f : α → Option β} {P : β → Prop} (h : ∀ x y, f x = some y → P y)
    {xs : List α} {ys : List β} (hmap : xs.mapM f = some ys) : ∀ y ∈ ys, P y := by
  induction xs generalizing ys with
  | nil =>
    cases hmap
    simp
  | cons x xs ih =>
    simp only [List.mapM_cons, Option.bind_eq_bind, Option.bind_eq_some_iff, Option.pure_def, Option.some.injEq] at hmap
    obtain ⟨y, hy, rest, hrest, rfl⟩ := hmap
    exact List.forall_mem_cons.mpr ⟨h x y hy, ih hrest⟩

/-- Every row of a plan is a manual one. -/
theorem protocol_of_mem_rows {plan : TunnelPlan} {rows : List RouteRow} (h : plan.rows = some rows) :
    ∀ row ∈ rows, row.protocol = protocolNetmgmt := by
  unfold TunnelPlan.rows at h
  split at h
  · cases h
  obtain ⟨tunnel, htunnel, rfl⟩ := map_eq_some_iff.mp h
  intro row hrow
  rcases mem_append.mp hrow with hbypass | hmem
  · exact plan.bypassManual row (mem_toList.mp hbypass)
  refine forall_mem_of_mapM (P := fun row => row.protocol = protocolNetmgmt) ?_ htunnel row hmem
  intro route parsed hparse
  obtain ⟨destination, _, rfl⟩ := map_eq_some_iff.mp hparse
  rfl

/-- An apply leaves what its plan and its answers say. -/
theorem applyLeaves (table : RouteTable) (plan : TunnelPlan) (io : ApplyIo) :
    ApplyLeaves table (io.created table plan) io.rollback (RouteOwner.apply table plan io) := by
  unfold RouteOwner.apply
  by_cases hlong : 32 < plan.prefixLen
  · have hrows : plan.rows = none := by simp [TunnelPlan.rows, hlong]
    simp only [hlong, if_true, created, hrows]
    exact .rolledBack (adds_refl table) rfl .invalidPrefix none
  simp only [hlong, if_false]
  cases htunnel : plan.tunnelRows with
  | none =>
    have hrows : plan.rows = none := by simp [TunnelPlan.rows, htunnel]
    simp only [created, hrows]
    exact .rolledBack (adds_refl table) rfl .routeShape none
  | some rows =>
    have hrows : plan.rows = some (plan.bypass.toList ++ rows) := by simp [TunnelPlan.rows, hlong, htunnel]
    simp only [created, hrows]
    cases haddress : io.addressApplied with
    | false => exact .rolledBack (adds_refl table) rfl .address none
    | true =>
      cases hmtu : io.mtuApplied with
      | false => exact .rolledBack (adds_refl table) rfl .mtu none
      | true =>
        have hloop := @loopLeaves table io.install _ 0 ⟨table, [], ⟨0, 0, 0⟩⟩ (protocol_of_mem_rows hrows)
          (adds_refl table)
        rw [installRoutes_append, Nat.zero_add] at hloop
        generalize createdRows io.install 0 table.identities (plan.bypass.toList ++ rows) = created at hloop ⊢
        obtain ⟨created, through⟩ := created
        generalize installRoutes io.install 0 ⟨table, [], ⟨0, 0, 0⟩⟩ plan.bypass.toList = bypassed at hloop ⊢
        obtain ⟨bypassed, s⟩ := bypassed
        cases bypassed with
        | error error =>
          have hrecorded : s.installedRoutes = created := hloop.recorded
          have hthrough : through = false := by simpa using hloop.through
          have hadds : Adds table s.table s.installedRoutes := hloop.adds
          subst hrecorded hthrough
          exact .rolledBack hadds rfl _ _
        | ok done =>
          dsimp only at hloop ⊢
          generalize installRoutes io.install plan.bypass.toList.length s rows = finished at hloop ⊢
          obtain ⟨finished, s⟩ := finished
          have hrecorded : s.installedRoutes = created := hloop.recorded
          have hadds : Adds table s.table s.installedRoutes := hloop.adds
          subst hrecorded
          cases finished with
          | error error =>
            have hthrough : through = false := by simpa using hloop.through
            subst hthrough
            exact .rolledBack hadds rfl _ _
          | ok done =>
            have hthrough : through = true := hloop.through.mp rfl
            subst hthrough
            cases hdns : io.dnsApplied with
            | false => exact .rolledBack hadds rfl _ _
            | true => exact .applied hadds rfl _

end ExvVpn.PlatformTunnel
