import ExvVpn.Lemmas.RouteCleanup

/-!
# Installing a plan of routes

A plan is installed as a whole or, if every removal of the rollback succeeds, not at all. A row that Windows stores with
another metric makes its removal an error, so no such rollback is one that succeeds.
-/

namespace ExvVpn.Win32Resource

open RouteTable List PlatformTunnel.RemovalAux

variable {base table : RouteTable} {undo : RouteRow → RemoveIo} {plan : List (RouteRow × Option Fault × UInt32)}

namespace RoutePlanAux

/-- A removal that succeeds under a name in use takes the row of that name out. -/
theorem table_of_remove_ok {row : RouteRow} {io : RemoveIo} (hluid : row.interfaceLuid ≠ 0)
    (hused : row.identity ∈ table.identities) (hok : (remove table row io).1.isOk = true) :
    (remove table row io).2 = table.erase row.identity := by
  obtain ⟨actual, hactual, hname⟩ := mem_identities.mp hused
  have hkey : row.isDestOnly = false := by simp [RouteRow.isDestOnly, hluid]
  have hfind : table.find row.identity = some actual := hname ▸ find_of_mem hactual
  by_cases hsame : actual = row
  · subst hsame
    cases hfault : io.get.or io.delete with
    | none => rw [remove_of_mem hactual hfault]
    | some fault =>
      obtain ⟨error, herror, -⟩ := remove_of_fault hactual hfault
      rw [herror] at hok
      cases hok
  · cases hget : io.get with
    | none => simp [remove, hkey, hget, getIpForwardEntry2, hfind, hsame, Except.isOk, Except.toBool] at hok
    | some fault =>
      simp [remove, hkey, hget, getIpForwardEntry2, fault.ownReason.2.1, Except.isOk, Except.toBool] at hok

/-- The rows went into the table one after another, the first of the list last, each with the metric that Windows chose. -/
inductive Stacked (base : RouteTable) : List RouteRow → RouteTable → Prop
  | nil : Stacked base [] base
  | cons {row : RouteRow} {rows : List RouteRow} {table : RouteTable} (metric : UInt32) (hrows : Stacked base rows table)
      (hluid : row.interfaceLuid ≠ 0) (hfree : row.identity ∉ table.identities) :
    Stacked base (row :: rows) (table.insert (row.stored metric))

/-- A rollback whose removals succeed takes the rows out again. -/
theorem Stacked.rollback {rows : List RouteRow} (h : Stacked base rows table)
    (hundone : ∀ answer ∈ (undoRows undo table rows).2, answer.isOk = true) : (undoRows undo table rows).1 = base := by
  induction h with
  | nil => rfl
  | @cons row rows table metric _ hluid hfree ih =>
    obtain ⟨hok, hrest⟩ := forall_mem_cons.mp hundone
    have hused : row.identity ∈ (table.insert (row.stored metric)).identities :=
      mem_identities.mpr ⟨_, mem_insert_stored metric hluid hfree, rfl⟩
    have hremoved := table_of_remove_ok hluid hused hok
    rw [erase_insert_stored metric hluid hfree] at hremoved
    change ∀ answer ∈ (undoRows undo (remove _ row (undo row)).2 rows).2, _ at hrest
    change (undoRows undo (remove _ row (undo row)).2 rows).1 = base
    rw [hremoved] at hrest ⊢
    exact ih hrest

end RoutePlanAux

open RoutePlanAux

end ExvVpn.Win32Resource
