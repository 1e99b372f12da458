import ExvVpn.Win32Engine.PlatformTunnel
import ExvVpn.Win32Engine.Routes

/-!
# What installs and removals do to the route table

An install and a removal make several calls of Windows, each of which may fail. What comes of it depends on the first failure
only, as `InstallIo.outcome` and `RemoveIo.result` say in the terms of the runtime's model. From this follow what the install
loop adds to the table and what a cleanup takes out of it.
-/

namespace ExvVpn.Win32Resource

open RouteTable Option RouteRow List

/-- What an install of a row comes to when its name is in use and when it is free. -/
def InstallIo.outcome (io : InstallIo) (row : RouteRow) (inUse : Bool) : Win32Engine.RouteInstallOutcome :=
  if maxPrefixLen < row.prefixLen ∨ io.create.isSome ∨ row.interfaceLuid = 0 then .failed
  else if inUse then if io.readback.isSome then .failed else .borrowed
  else if io.readback.isNone then .created
  else if io.rollback.isNone then .failed
  else if io.observe.isNone then .created
  else .createdPending

variable {table : RouteTable} {row : RouteRow}

namespace RouteTable

/-- Windows finds a row of the table under its own key. -/
theorem get_of_mem (hrow : row ∈ table.rows) : getIpForwardEntry2 table row none = .ok row := by
  have hluid := table.onInterface row hrow
  have hkey : row.isDestOnly = false := by simp [isDestOnly, hluid]
  simp [getIpForwardEntry2, hkey, find_of_mem hrow]

/-- The effective row of a submitted one is found among the rows of its interface. -/
theorem findEffective_of_mem (submitted : RouteRow) (hrow : row ∈ table.rows)
    (hname : row.identity = submitted.identity) (hprotocol : row.protocol = submitted.protocol) :
    findEffective submitted (table.rows.filter (·.interfaceLuid = submitted.interfaceLuid)) = some row := by
  have hluid : row.interfaceLuid = submitted.interfaceLuid := congrArg RouteIdentity.interfaceLuid hname
  have hmem : row ∈ table.rows.filter (·.interfaceLuid = submitted.interfaceLuid) := by simp [hrow, hluid]
  cases hfind : findEffective submitted (table.rows.filter (·.interfaceLuid = submitted.interfaceLuid)) with
  | none =>
    have hnone := find?_eq_none.mp hfind row hmem
    simp [hname, hprotocol] at hnone
  | some other =>
    have hother := find?_some hfind
    simp only [Bool.and_eq_true, sameRouteIdentity_iff] at hother
    have hin := mem_of_mem_filter (mem_of_find?_eq_some hfind)
    rw [eq_of_identity hin hrow (hother.1.trans hname.symm)]

section Stored

variable (metric : UInt32) (hluid : row.interfaceLuid ≠ 0) (hfree : row.identity ∉ table.identities)

include hluid hfree

theorem rows_insert_stored : (table.insert (row.stored metric)).rows = row.stored metric :: table.rows :=
  rows_insert hluid hfree

/-- The names in use after a row went in. -/
theorem identities_insert_stored : (table.insert (row.stored metric)).identities = row.identity :: table.identities := by
  rw [identities, rows_insert_stored metric hluid hfree]
  rfl

theorem mem_insert_stored : row.stored metric ∈ (table.insert (row.stored metric)).rows := by
  rw [rows_insert_stored metric hluid hfree]
  exact mem_cons_self

/-- Taking a row out that just went in gives the table back. -/
theorem erase_insert_stored : (table.insert (row.stored metric)).erase row.identity = table := by
  ext1
  simp only [erase, rows_insert_stored metric hluid hfree]
  rw [filter_cons_of_neg (by simp), filter_eq_self]
  intro other hother
  simpa using fun hname => hfree (mem_identities.mpr ⟨other, hother, hname⟩)

end Stored

end RouteTable

/-! ## Installing one row -/

variable (table row) (metric : UInt32)

/-- The ways an install can end. -/
inductive Installed :
    Win32Engine.RouteInstallOutcome → Except SystemProxy.NativeError Win32Resource.RouteInstallOutcome × RouteTable → Prop
  | failed (error : SystemProxy.NativeError) : Installed .failed (.error error, table)
  | borrowed (actual : RouteRow) : Installed .borrowed (.ok (.borrowed actual), table)
  | created (hluid : row.interfaceLuid ≠ 0) (hfree : row.identity ∉ table.identities) :
    Installed .created (.ok (.created (row.stored metric)), table.insert (row.stored metric))
  | createdPending (hluid : row.interfaceLuid ≠ 0) (hfree : row.identity ∉ table.identities)
      (readbackError rollbackError : SystemProxy.NativeError) :
    Installed .createdPending
      (.ok (.createdPending row readbackError rollbackError), table.insert (row.stored metric))

variable {table row}

/-- A created row that could not be read back is gone again, or it is owned. -/
theorem installed_undoCreate {io : InstallIo} (hluid : row.interfaceLuid ≠ 0)
    (hfree : row.identity ∉ table.identities) (hprotocol : row.protocol = protocolNetmgmt)
    (readbackError : SystemProxy.NativeError) :
    Installed table row io.metric
      (if io.rollback.isNone then .failed else if io.observe.isNone then .created else .createdPending)
      (undoCreate (table.insert (row.stored io.metric)) row readbackError io) := by
  have hin : row.stored io.metric ∈ (table.insert (row.stored io.metric)).rows := mem_insert_stored io.metric hluid hfree
  unfold undoCreate
  cases hrollback : io.rollback with
  | none =>
    have hused : row.identity ∈ (table.insert (row.stored io.metric)).identities :=
      mem_identities.mpr ⟨_, hin, rfl⟩
    have herase := erase_insert_stored io.metric hluid hfree
    simp only [deleteIpForwardEntry2, if_pos hused, true_or, if_true, isNone_none, herase]
    exact .failed readbackError
  | some fault =>
    have hcode : ¬(fault.code = 0 ∨ fault.code = errorNotFound) := by
      intro h
      exact h.elim fault.ownReason.1 fault.ownReason.2.1
    have hdelete : deleteIpForwardEntry2 (table.insert (row.stored io.metric)) row (some fault) =
        (fault.code, table.insert (row.stored io.metric)) := rfl
    rw [hdelete]
    simp only [if_neg hcode, isNone_some, Bool.false_eq_true, if_false]
    cases hobserve : io.observe with
    | none =>
      have hfind := findEffective_of_mem row hin rfl hprotocol.symm
      simp only [captureRows, hfind, isNone_none, if_true]
      exact .created hluid hfree
    | some observed =>
      exact .createdPending hluid hfree _ _

/-- An install ends in the way its answers say. -/
theorem installed (table : RouteTable) (io : InstallIo) (hprotocol : row.protocol = protocolNetmgmt) :
    Installed table row io.metric (io.outcome row (row.identity ∈ table.identities))
      (installWithOutcome table row io) := by
  unfold installWithOutcome InstallIo.outcome
  by_cases hlen : maxPrefixLen < row.prefixLen
  · simp only [hlen, true_or, if_true]
    exact .failed _
  simp only [hlen, false_or, if_false]
  cases hcreate : io.create with
  | some fault =>
    simp only [createIpForwardEntry2, classifyCreateResult, fault.ownReason.1, fault.ownReason.2.2, if_false,
      isSome_some, true_or, if_true]
    exact .failed _
  | none =>
    by_cases hluid : row.interfaceLuid = 0
    · have hcode : errorInvalidParameter ≠ 0 ∧ errorInvalidParameter ≠ errorObjectAlreadyExists := by decide
      simp only [createIpForwardEntry2, hluid, classifyCreateResult, hcode.1, hcode.2, if_false, or_true, if_true]
      exact .failed _
    have hkey : row.isDestOnly = false := by simp [isDestOnly, hluid]
    by_cases hused : row.identity ∈ table.identities
    · have hcode : errorObjectAlreadyExists ≠ 0 := by decide
      obtain ⟨actual, hactual, hname⟩ := mem_identities.mp hused
      have hfind : table.find row.identity = some actual := hname ▸ find_of_mem hactual
      simp only [createIpForwardEntry2, hluid, hused, classifyCreateResult, hcode, if_true, if_false, decide_true]
      cases hreadback : io.readback with
      | none =>
        simp only [readBackEffectiveRow, getIpForwardEntry2, hkey, Bool.false_eq_true, if_false, hfind,
          sameRouteIdentity_iff.mpr hname, if_true, isSome_none]
        exact .borrowed actual
      | some fault =>
        exact .failed _
    · simp only [createIpForwardEntry2, hluid, hused, classifyCreateResult, if_true, if_false, decide_false,
        Bool.false_eq_true]
      cases hreadback : io.readback with
      | none =>
        have hin := find_of_mem (mem_insert_stored io.metric hluid hused)
        rw [identity_stored] at hin
        simp only [readBackEffectiveRow, getIpForwardEntry2, hkey, Bool.false_eq_true, if_false, hin,
          sameRouteIdentity_iff.mpr (identity_stored row io.metric), if_true, isNone_none]
        exact .created hluid hused
      | some fault =>
        exact installed_undoCreate hluid hused hprotocol _

end ExvVpn.Win32Resource

namespace ExvVpn.PlatformTunnel

open Win32Resource List RouteTable SystemProxy.NativeError Option OwnedRoute CleanupPass
open Win32Engine (RemoveResult)

/-! ## Removing one row -/

/-- The owned route stands for this row of the table. -/
def OwnedRoute.Names : OwnedRoute → RouteRow → Prop
  | .effective row, actual => actual = row
  | .pending submitted, actual => actual.identity = submitted.identity ∧ actual.protocol = submitted.protocol

instance (route : OwnedRoute) (row : RouteRow) : Decidable (route.Names row) := by
  cases route <;> unfold OwnedRoute.Names <;> infer_instance

/-- The first call of a removal that fails; only a pending row is looked for in the whole table. -/
def OwnedRoute.fault (io : RemoveIo) : OwnedRoute → Option Fault
  | .effective _ => io.get.or io.delete
  | .pending _ => io.observe.or (io.get.or io.delete)

/-- What the removal of a row that is in the table comes to. -/
def OwnedRoute.result (route : OwnedRoute) (io : RemoveIo) : RemoveResult :=
  match route.fault io with
  | none => .removed
  | some fault => if fault.code = 87 then .changed else .failed

variable {route : OwnedRoute} {row : RouteRow}

theorem OwnedRoute.Names.identity_eq (h : route.Names row) : row.identity = route.identity := by
  cases route with
  | effective owned => exact congrArg RouteRow.identity h
  | pending submitted => exact h.1

variable {table : RouteTable}

namespace RemovalAux

/-- A removal of a row that is not in the table leaves it. -/
theorem table_remove_of_notMem (io : RemoveIo) (hrow : row ∉ table.rows) : (remove table row io).2 = table := by
  have hget : getIpForwardEntry2 table row io.get ≠ .ok row := by
    unfold getIpForwardEntry2
    cases io.get with
    | some fault => simp
    | none =>
      intro h
      simp only at h
      split at h
      · rename_i found hfound
        cases h
        split at hfound <;> exact hrow (mem_of_find?_eq_some hfound)
      · cases h
  unfold remove
  split
  · rfl
  split
  · split <;> rfl
  · rename_i filled hfilled
    have hne : filled ≠ row := fun heq => hget (heq ▸ hfilled)
    rw [if_pos hne]

section

variable (hrow : row ∈ table.rows)
include hrow

/-- A row of the table goes unless a call fails. -/
theorem remove_of_mem {io : RemoveIo}
    (hfault : io.get.or io.delete = none) : remove table row io = (.ok .removed, table.erase row.identity) := by
  obtain ⟨hget, hdelete⟩ := or_eq_none_iff.mp hfault
  have hkey : row.isDestOnly = false := by simp [RouteRow.isDestOnly, table.onInterface row hrow]
  have hused : row.identity ∈ table.identities := RouteTable.mem_identities.mpr ⟨row, hrow, rfl⟩
  simp [remove, hkey, hget, hdelete, RouteTable.get_of_mem hrow, deleteIpForwardEntry2, hused]

/-- A removal in which a call fails reports its code and leaves the table. -/
theorem remove_of_fault {io : RemoveIo} {fault : Fault} (hfault : io.get.or io.delete = some fault) :
    ∃ error, remove table row io = (.error error, table) ∧ error.code = fault.code := by
  have hkey : row.isDestOnly = false := by simp [RouteRow.isDestOnly, table.onInterface row hrow]
  cases hget : io.get with
  | some first =>
    rw [hget, some_or, some.injEq] at hfault
    subst hfault
    simp [remove, hkey, hget, getIpForwardEntry2, first.ownReason.2.1, fromWin32]
  | none =>
    rw [hget, none_or] at hfault
    simp [remove, hkey, hget, RouteTable.get_of_mem hrow, hfault, deleteIpForwardEntry2, fault.ownReason.1,
      fromWin32]

end

/-- A removal leaves the table or takes out the row. -/
theorem table_remove (table : RouteTable) (row : RouteRow) (io : RemoveIo) :
    (remove table row io).2 = table ∨ row ∈ table.rows ∧ (remove table row io).2 = table.erase row.identity := by
  by_cases hrow : row ∈ table.rows
  · cases hfault : io.get.or io.delete with
    | none => exact .inr ⟨hrow, by rw [remove_of_mem hrow hfault]⟩
    | some fault =>
      obtain ⟨error, herror, -⟩ := remove_of_fault hrow hfault
      exact .inl (by rw [herror])
  · exact .inl (table_remove_of_notMem io hrow)

theorem table_removeOwnedRoute (table : RouteTable) (route : OwnedRoute) (io : RemoveIo) :
    (removeOwnedRoute table route io).2 = table ∨ (removeOwnedRoute table route io).2 = table.erase route.identity := by
  cases route with
  | effective row => exact (table_remove table row io).imp_right And.right
  | pending submitted =>
    simp only [removeOwnedRoute, removeCreatedPending]
    split
    · exact .inl rfl
    split
    · rename_i actual hfind
      have hname := find?_some hfind
      simp only [Bool.and_eq_true, sameRouteIdentity_iff] at hname
      have h := (table_remove table actual io).imp_right And.right
      rw [hname.1] at h
      exact h
    · exact .inl rfl

variable (hrow : row ∈ table.rows)
include hrow

theorem removeOwnedRoute_of_present {io : RemoveIo} (hnames : route.Names row) (hfault : route.fault io = none) :
    removeOwnedRoute table route io = (.ok .removed, table.erase route.identity) := by
  cases route with
  | effective owned =>
    cases hnames
    exact remove_of_mem hrow hfault
  | pending submitted =>
    obtain ⟨hobserve, hrest⟩ := or_eq_none_iff.mp hfault
    simp only [removeOwnedRoute, removeCreatedPending, hobserve, captureRows,
      findEffective_of_mem submitted hrow hnames.1 hnames.2, identity, ← hnames.1]
    exact remove_of_mem hrow hrest

theorem removeOwnedRoute_of_fault {io : RemoveIo}
    {fault : Fault} (hnames : route.Names row) (hfault : route.fault io = some fault) :
    ∃ error, removeOwnedRoute table route io = (.error error, table) ∧ error.code = fault.code := by
  cases route with
  | effective owned =>
    cases hnames
    exact remove_of_fault hrow hfault
  | pending submitted =>
    cases hobserve : io.observe with
    | some first =>
      rw [OwnedRoute.fault, hobserve, some_or, some.injEq] at hfault
      subst hfault
      simp [removeOwnedRoute, removeCreatedPending, hobserve, captureRows, fromWin32]
    | none =>
      rw [OwnedRoute.fault, hobserve, none_or] at hfault
      simp only [removeOwnedRoute, removeCreatedPending, hobserve, captureRows,
        RouteTable.findEffective_of_mem submitted hrow hnames.1 hnames.2]
      exact remove_of_fault hrow hfault

end RemovalAux

open RemovalAux

/-! ## The cleanup loop -/

section Retry

variable {σ : Type} {remove : σ → OwnedRoute → Except SystemProxy.NativeError RemoveOutcome × σ} {state : σ}
  {owned : List OwnedRoute}

/-- The first row installed is visited last. -/
theorem retryOwnedRoutesWith_cons (route : OwnedRoute) (rest : List OwnedRoute) :
    retryOwnedRoutesWith remove state (route :: rest) = (retryOwnedRoutesWith remove state rest).visit remove route := by
  simp [retryOwnedRoutesWith]

/-- What each visit to an owned row keeps holds at the end of a cleanup. -/
theorem retryOwnedRoutesWith_induct {P : CleanupPass σ → Prop} (h : P ⟨state, [], none, []⟩)
    (hvisit : ∀ pass, ∀ route ∈ owned, P pass → P (pass.visit remove route)) :
    P (retryOwnedRoutesWith remove state owned) := by
  induction owned with
  | nil => exact h
  | cons route rest ih =>
    rw [retryOwnedRoutesWith_cons]
    exact hvisit _ route mem_cons_self (ih fun pass other hother => hvisit pass other (mem_cons_of_mem _ hother))

/-- The attempts of a cleanup are at its rows, the first one at the last row. -/
theorem attempts_retryOwnedRoutesWith : (retryOwnedRoutesWith remove state owned).attempts.map Attempt.route = owned := by
  induction owned with
  | nil => rfl
  | cons route rest ih =>
    rw [retryOwnedRoutesWith_cons, CleanupPass.visit]
    dsimp only
    split <;> simp [ih]

/-- A row that is kept failed hard in its attempt. -/
theorem failed_eq_filter_attempts :
    (retryOwnedRoutesWith remove state owned).failed =
      ((retryOwnedRoutesWith remove state owned).attempts.filter (·.hardFailure.isSome)).map Attempt.route := by
  induction owned with
  | nil => rfl
  | cons route rest ih =>
    rw [retryOwnedRoutesWith_cons, CleanupPass.visit]
    dsimp only
    split
    · rename_i hnone
      simp [hnone, ih]
    · rename_i hsome
      simp [hsome, ih]

/-- A cleanup owns nothing new. -/
theorem failed_retryOwnedRoutesWith_subset {route : OwnedRoute}
    (h : route ∈ (retryOwnedRoutesWith remove state owned).failed) : route ∈ owned := by
  rw [failed_eq_filter_attempts] at h
  rw [← @attempts_retryOwnedRoutesWith σ remove state owned]
  exact (filter_sublist.map _).subset h

/-- A cleanup notes an error exactly when it keeps a row. -/
theorem firstError_retryOwnedRoutesWith :
    (retryOwnedRoutesWith remove state owned).firstError.isNone =
      (retryOwnedRoutesWith remove state owned).failed.isEmpty := by
  refine retryOwnedRoutesWith_induct (P := fun pass => pass.firstError.isNone = pass.failed.isEmpty) rfl ?_
  intro pass route _ hpass
  unfold CleanupPass.visit
  dsimp only
  split
  · exact hpass
  · cases pass.firstError <;> rfl

/-- What a cleanup takes out are its rows. -/
theorem route_mem_of_removal {removal : Attempt σ} (h : removal ∈ (retryOwnedRoutesWith remove state owned).removals) :
    removal.route ∈ owned := by
  rw [← @attempts_retryOwnedRoutesWith σ remove state owned]
  exact mem_map_of_mem (mem_of_mem_filter h)

end Retry

/-! ## Cleanups of the route table -/

variable {pass : CleanupPass RouteTable} {io : OwnedRoute → RemoveIo}

/-- What a visit to a row that is in the table leaves, by what its removal comes to. -/
inductive Visited (pass : CleanupPass RouteTable) (route : OwnedRoute) : RemoveResult → CleanupPass RouteTable → Prop
  | removed : Visited pass route .removed
      { pass with state := pass.state.erase route.identity, attempts := ⟨route, pass.state, .ok .removed⟩ :: pass.attempts }
  | changed (error : SystemProxy.NativeError) : Visited pass route .changed
      { pass with attempts := ⟨route, pass.state, .error error⟩ :: pass.attempts }
  | failed (error : SystemProxy.NativeError) : Visited pass route .failed
      { pass with
        failed := route :: pass.failed
        firstError := pass.firstError.or (some error)
        attempts := ⟨route, pass.state, .error error⟩ :: pass.attempts }

/-- A visit to a row that is in the table does what the answers say. -/
theorem visited (io : OwnedRoute → RemoveIo) (hrow : row ∈ pass.state.rows) (hnames : route.Names row) :
    Visited pass route (route.result (io route))
      (pass.visit (fun table route => removeOwnedRoute table route (io route)) route) := by
  unfold visit OwnedRoute.result
  beta_reduce
  cases hfault : route.fault (io route) with
  | none =>
    rw [removeOwnedRoute_of_present hrow hnames hfault]
    exact .removed
  | some fault =>
    obtain ⟨error, hremove, hcode⟩ := removeOwnedRoute_of_fault hrow hnames hfault
    rw [hremove]
    dsimp only [Attempt.hardFailure]
    rw [hcode]
    split
    · exact .changed error
    · exact .failed error

/-- Every owned row is in the table, under a name of its own. -/
structure Present (table : RouteTable) (owned : List OwnedRoute) : Prop where
  there : ∀ route ∈ owned, ∃ row ∈ table.rows, route.Names row
  distinct : (owned.map identity).Nodup

variable {owned rest : List OwnedRoute}

/-- The rows behind the first one are in the table as well. -/
theorem present_tail (h : Present table (route :: rest)) : Present table rest :=
  ⟨fun other hother => h.there other (mem_cons_of_mem _ hother), (nodup_cons.mp h.distinct).2⟩

/-- The rows behind the first one have other names. -/
theorem ne_of_present (h : Present table (route :: rest)) (hnames : route.Names row) :
    ∀ other ∈ rest, row.identity ≠ other.identity := by
  intro other hother hname
  exact (nodup_cons.mp h.distinct).1 (mem_map.mpr ⟨other, hother, hname.symm.trans hnames.identity_eq⟩)

/-- A cleanup takes out the rows whose removal goes through, and keeps those whose removal fails. -/
theorem retryOnTable_spec (io : OwnedRoute → RemoveIo) (h : Present table owned) :
    (∀ row, row ∈ (retryOnTable table owned io).state.rows ↔
      row ∈ table.rows ∧ ∀ route ∈ owned, route.result (io route) = .removed → row.identity ≠ route.identity) ∧
    (retryOnTable table owned io).failed = owned.filter fun route => route.result (io route) = .failed := by
  induction owned with
  | nil => simp [retryOnTable, retryOwnedRoutesWith]
  | cons route rest ih =>
    obtain ⟨hrows, hfailed⟩ := ih (present_tail h)
    obtain ⟨own, hown, hnames⟩ := h.there route mem_cons_self
    -- the other rows have other names, so this one is still there when its turn comes
    have hthere : own ∈ (retryOnTable table rest io).state.rows :=
      (hrows own).mpr ⟨hown, fun other hother _ => ne_of_present h hnames other hother⟩
    have hvisit := visited io hthere hnames
    rw [retryOnTable] at hrows hfailed hvisit ⊢
    rw [retryOwnedRoutesWith_cons]
    simp only [forall_mem_cons, filter_cons]
    generalize route.result (io route) = result at hvisit ⊢
    generalize (retryOwnedRoutesWith _ table rest).visit _ route = next at hvisit ⊢
    cases hvisit with
    | removed =>
      simp only [mem_erase, hrows, hfailed]
      exact ⟨fun row => by tauto, by simp⟩
    | changed | failed => simp [hrows, hfailed]

/-- A cleanup takes out the rows whose removal goes through. -/
theorem mem_retryOnTable (io : OwnedRoute → RemoveIo) (row : RouteRow) (h : Present table owned) :
    row ∈ (retryOnTable table owned io).state.rows ↔
      row ∈ table.rows ∧ ∀ route ∈ owned, route.result (io route) = .removed → row.identity ≠ route.identity :=
  (retryOnTable_spec io h).1 row

/-- A cleanup keeps the rows whose removal fails, in the order of installation. -/
theorem failed_retryOnTable (io : OwnedRoute → RemoveIo) (h : Present table owned) :
    (retryOnTable table owned io).failed = owned.filter fun route => route.result (io route) = .failed :=
  (retryOnTable_spec io h).2

/-- A row of the table is still there when its turn comes, before the rows in front of it. -/
theorem mem_retryOnTable_tail (io : OwnedRoute → RemoveIo) (h : Present table (route :: rest)) :
    ∃ row ∈ (retryOnTable table rest io).state.rows, route.Names row := by
  obtain ⟨own, hown, hnames⟩ := h.there route mem_cons_self
  refine ⟨own, (mem_retryOnTable io own (present_tail h)).mpr ⟨hown, fun other hother _ => ?_⟩, hnames⟩
  exact ne_of_present h hnames other hother

/-- Whatever is in the table, a cleanup leaves the rows under names it does not own. -/
theorem mem_retryOnTable_of_ne (hrow : row ∈ table.rows) (hne : ∀ route ∈ owned, row.identity ≠ route.identity) :
    row ∈ (retryOnTable table owned io).state.rows := by
  refine retryOwnedRoutesWith_induct (P := fun pass : CleanupPass RouteTable => row ∈ pass.state.rows) hrow ?_
  intro pass route hroute hpass
  have hstate : (pass.visit (fun table route => removeOwnedRoute table route (io route)) route).state =
      (removeOwnedRoute pass.state route (io route)).2 := by
    unfold visit
    dsimp only
    split <;> rfl
  rw [hstate]
  rcases table_removeOwnedRoute pass.state route (io route) with h | h
  · rw [h]
    exact hpass
  · rw [h]
    exact mem_erase.mpr ⟨hpass, hne route hroute⟩

end ExvVpn.PlatformTunnel
