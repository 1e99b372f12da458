import ExvVpn.Lemmas.RouteApply

/-!
# The route owner leaves the rows of others alone

An apply that fails gives the route table back as it was, except for rows that it lists for a later cleanup, unless Windows
answers a call of the rollback with code 87: the cleanup takes the row for one that a third party has changed, and drops it.
Rows from before an apply are never deleted, neither by it nor by any cleanup after it.
-/

namespace ExvVpn.PlatformTunnel

open Win32Resource List RouteOwner

/-! ## All or nothing -/

def RouteCleanupObligations.Lists (obligations : RouteCleanupObligations) (row : RouteRow) : Prop :=
  ∃ route ∈ obligations.routes, route.Names row

/-- After an error the table is the one before, except for rows that the error lists. -/
def Restores (table : RouteTable) (applied : Applied) : Prop :=
  ∀ error, applied.result = .error error →
    ∀ row, ¬error.pendingRoutes.Lists row → (row ∈ applied.table.rows ↔ row ∈ table.rows)

/-- An owner after clears, each of them on the table of its time. -/
def RouteOwner.afterClears (owner : RouteOwner) (clears : List (RouteTable × ClearIo)) : RouteOwner :=
  clears.foldl (fun owner (table, io) => (owner.clear table io).owner) owner

/-- Obligations after retries, each of them on the table of its time. -/
def RouteCleanupObligations.afterRetries (obligations : RouteCleanupObligations)
    (retries : List (RouteTable × (OwnedRoute → RemoveIo))) : RouteCleanupObligations :=
  retries.foldl (fun obligations (table, io) => (obligations.retryClear table io).obligations) obligations

/-- No row from before the apply is deleted by the apply, by a later clear or by a later retry, whatever others do to
the table in between. -/
structure Spares (table : RouteTable) (applied : Applied) : Prop where
  apply : ∀ row ∈ table.rows, row ∈ applied.table.rows
  rollback : ∀ removal ∈ applied.removals, removal.route.identity ∉ table.identities
  clear : ∀ owner facts, applied.result = .ok (owner, facts) →
    ∀ earlier now io, ∀ row ∈ table.rows, row ∈ now.rows →
      row ∈ ((owner.afterClears earlier).clear now io).table.rows
  retry : ∀ error, applied.result = .error error →
    ∀ earlier now io, ∀ row ∈ table.rows, row ∈ now.rows →
      row ∈ ((error.pendingRoutes.afterRetries earlier).retryClear now io).table.rows

/-- Unless the apply gets through, no removal of a row it created is answered with code 87. -/
def NoneSkipped (table : RouteTable) (plan : TunnelPlan) (io : ApplyIo) : Prop :=
  (io.created table plan).2 = false →
    ∀ route ∈ (io.created table plan).1, route.result (io.rollback route) ≠ .changed

variable {owned : List OwnedRoute} {row : RouteRow}

/-- Clears own nothing new. -/
theorem mem_afterClears {owner : RouteOwner} {clears : List (RouteTable × ClearIo)} {route : OwnedRoute}
    (h : route ∈ (owner.afterClears clears).installedRoutes) : route ∈ owner.installedRoutes := by
  induction clears generalizing owner with
  | nil => exact h
  | cons first rest ih =>
    have hfirst := ih h
    dsimp only [clear] at hfirst
    split at hfirst
    · exact failed_retryOwnedRoutesWith_subset hfirst
    · exact hfirst

/-- What retries leave was there before. -/
theorem mem_afterRetries {obligations : RouteCleanupObligations} {retries : List (RouteTable × (OwnedRoute → RemoveIo))}
    {route : OwnedRoute} (h : route ∈ (obligations.afterRetries retries).routes) : route ∈ obligations.routes := by
  induction retries generalizing obligations with
  | nil => exact h
  | cons first rest ih => exact failed_retryOwnedRoutesWith_subset (ih h)

/-- A row from before is under a name that none of the created rows has. -/
theorem identity_ne_of_fresh {base : RouteTable} (hrow : row ∈ base.rows)
    (hfresh : ∀ route ∈ owned, route.identity ∉ base.identities) : ∀ route ∈ owned, row.identity ≠ route.identity := by
  intro route hroute hname
  exact hfresh route hroute (RouteTable.mem_identities.mpr ⟨row, hrow, hname⟩)

/-- What is listed after a cleanup are the rows whose removal failed. -/
theorem lists_failed {table : RouteTable} {io : OwnedRoute → RemoveIo} (h : Present table owned) :
    RouteCleanupObligations.Lists ⟨(retryOnTable table owned io).failed⟩ row ↔
      ∃ route ∈ owned, route.result (io route) = .failed ∧ route.Names row := by
  simp [RouteCleanupObligations.Lists, failed_retryOnTable io h, mem_filter, decide_eq_true_eq, and_assoc]

/-- An apply spares the rows from before. -/
theorem spares_apply (table : RouteTable) (plan : TunnelPlan) (io : ApplyIo) :
    Spares table (apply table plan io) := by
  have hleaves := applyLeaves table plan io
  generalize apply table plan io = applied at hleaves ⊢
  cases hleaves with
  | applied hadds hthrough facts =>
    refine ⟨hadds.kept, by simp, ?_, by simp⟩
    intro owner ownerFacts howner earlier now clearIo row hrow hnow
    cases howner
    unfold clear
    split
    · refine mem_retryOnTable_of_ne hnow ?_
      intro route hroute
      exact identity_ne_of_fresh hrow hadds.fresh route (mem_afterClears hroute)
    · exact hnow
  | rolledBack hadds hthrough detail code =>
    refine ⟨(hadds.cleanup io.rollback).kept, ?_, by simp, ?_⟩
    · intro removal hremoval
      exact hadds.fresh _ (route_mem_of_removal hremoval)
    · intro error herror earlier now retryIo row hrow hnow
      cases herror
      refine mem_retryOnTable_of_ne hnow ?_
      intro route hroute
      exact identity_ne_of_fresh hrow hadds.fresh route (failed_retryOwnedRoutesWith_subset (mem_afterRetries hroute))

/-- An apply is all or nothing on the route table and spares the rows from before exactly when no call of its rollback
is answered with code 87. -/
theorem apply_all_or_nothing_iff (table : RouteTable) (plan : TunnelPlan) (io : ApplyIo) :
    Restores table (apply table plan io) ∧ Spares table (apply table plan io) ↔
      NoneSkipped table plan io := by
  have hspares := spares_apply table plan io
  have hleaves := applyLeaves table plan io
  refine Iff.trans (and_iff_left hspares) ?_
  generalize apply table plan io = applied at hleaves ⊢
  cases hleaves with
  | applied hadds hthrough facts =>
    refine iff_of_true (fun error herror => nomatch herror) ?_
    intro hfailed
    rw [hthrough] at hfailed
    cases hfailed
  | @rolledBack between hadds hthrough detail code =>
    have hafter := hadds.cleanup io.rollback
    constructor
    · intro hrestores _ route hroute hchanged
      -- The row is still in the table, and the error does not list it.
      obtain ⟨row, hrow, hnames⟩ := hafter.present.there route (by simp [hroute, hchanged])
      have hbase : row ∈ table.rows := by
        refine (hrestores _ rfl row ?_).mp hrow
        rw [lists_failed hadds.present]
        intro ⟨other, hother, hfailed, hnamesOther⟩
        have hsame := inj_on_of_nodup_map hadds.present.distinct hroute hother
          (hnames.identity_eq.symm.trans hnamesOther.identity_eq)
        rw [hsame, hfailed] at hchanged
        cases hchanged
      exact hadds.fresh route hroute (RouteTable.mem_identities.mpr ⟨row, hbase, hnames.identity_eq⟩)
    · intro hnone error herror row hlisted
      cases herror
      rw [lists_failed hadds.present] at hlisted
      refine ⟨fun hrow => ?_, hafter.kept row⟩
      rcases hafter.named row hrow with hbase | ⟨route, hroute, hnames⟩
      · exact hbase
      obtain ⟨hin, hleft⟩ := mem_filter.mp hroute
      cases hresult : route.result (io.rollback route) with
      | removed => simp [hresult] at hleft
      | changed => exact absurd hresult (hnone hthrough route hin)
      | failed => exact absurd ⟨route, hin, hresult, hnames⟩ hlisted

/-- A call that goes through. -/
def quietInstall (metric : UInt32) : InstallIo := ⟨none, metric, none, none, none⟩

/-- A removal whose `DeleteIpForwardEntry2` fails with a code of its own. -/
def failingDelete (fault : Fault) : RemoveIo := ⟨none, none, some fault⟩

/-- A plan with one route and without a bypass row. -/
def oneRoute : TunnelPlan := ⟨7, 24, ["10.0.0.0/8".toList], [], none, by simp⟩

/-- Every install goes through, the DNS family fails, and each delete of the rollback is answered with code 87. -/
def skippedRollback : ApplyIo where
  addressApplied := true
  mtuApplied := true
  install _ := quietInstall 10
  dnsApplied := false
  rollback _ := failingDelete ⟨87, by decide⟩

/-- The apply fails, its row is still in the table, and the error lists nothing. -/
theorem skipped_row_stays_unlisted :
    (apply .empty oneRoute skippedRollback).result = .error ⟨.dns, ⟨[]⟩, none⟩ ∧
      (apply .empty oneRoute skippedRollback).table.rows = [⟨⟨10, 0, 0, 0⟩, 8, .unspecified, 7, 10, 3⟩] ∧
      ¬Restores .empty (apply .empty oneRoute skippedRollback) := by
  have hresult : (apply .empty oneRoute skippedRollback).result = .error ⟨.dns, ⟨[]⟩, none⟩ := by
    decide +kernel
  have hrows : (apply .empty oneRoute skippedRollback).table.rows = [⟨⟨10, 0, 0, 0⟩, 8, .unspecified, 7, 10, 3⟩] := by
    decide +kernel
  refine ⟨hresult, hrows, ?_⟩
  intro hrestores
  have hrow := (hrestores _ hresult ⟨⟨10, 0, 0, 0⟩, 8, .unspecified, 7, 10, 3⟩ (by simp [RouteCleanupObligations.Lists])).mp
    (by rw [hrows]; exact mem_singleton_self _)
  cases hrow

end ExvVpn.PlatformTunnel
