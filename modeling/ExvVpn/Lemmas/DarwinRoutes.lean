import ExvVpn.DarwinEngine.Service
import ExvVpn.Lemmas.DarwinStop

/-!
# Which rows the macOS engine has on record

A row of the route table is on record if a route to it is in the list of an attempt, in the pending list of the ledger or is
the control route. What a step of the engine puts into the table is on record after it, a row stays on record unless it was
deleted, and only what is on record is deleted.
-/

namespace ExvVpn.DarwinEngine

open ResourceLedger List Function EngineState

/-! ## The record -/

/-- The routes that the task of an attempt has put into the table and not dealt with. -/
def AttemptPc.routes : AttemptPc → List AppliedRoute
  | .applying _ routes => routes
  | .undoing routes => routes
  | .starting _ routes => routes
  | .holding _ routes => routes
  | .tearing _ _ _ routes => routes
  | _ => []

variable (ledger : ResourceLedger)

def ResourceLedger.routes : List AppliedRoute :=
  ledger.pendingRoutes ++ ledger.controlRoute.toList

/-- A route of the list leads to the row. -/
def Listed (routes : List AppliedRoute) (row : Row) : Prop := ∃ route ∈ routes, route.row = row

def EngineState.Records (s : EngineState) (row : Row) : Prop :=
  Listed s.ledger.routes row ∨ ∃ n pc, s.attempts n = some pc ∧ Listed pc.routes row

/-- What the successful route calls of a step do to the rows on record. -/
structure Accounts (before after : Row → Prop) (calls : List RouteCall) : Prop where
  put : ∀ route, .put route ∈ calls → after route.row
  kept : ∀ row, before row → (∀ route, .delete route ∈ calls → route.row ≠ row) → after row
  owned : ∀ route, .delete route ∈ calls → before route.row
  fresh : ∀ row, after row → before row ∨ ∃ route, .put route ∈ calls ∧ route.row = row

/-- The control route leads to one host. -/
def ResourceLedger.HostRoute : Prop :=
  ∀ route, ledger.controlRoute = some route → route.prefixLength = 32

variable {xs : List AppliedRoute} {row : Row} {calls : List RouteCall} {t : EngineState} {pc : AttemptPc}

namespace DarwinRoutesAux

/-! ## Lists of routes -/

theorem listed_append {ys : List AppliedRoute} : Listed (xs ++ ys) row ↔ Listed xs row ∨ Listed ys row := by
  simp only [Listed, mem_append, or_and_right, exists_or]

theorem listed_cons {route : AppliedRoute} : Listed (route :: xs) row ↔ route.row = row ∨ Listed xs row := by
  simp only [Listed, mem_cons, or_and_right, exists_or, exists_eq_left]

@[simp] theorem not_listed_nil (row : Row) : ¬Listed [] row := by simp [Listed]

theorem listed_reverse : Listed xs.reverse row ↔ Listed xs row := by
  simp only [Listed, mem_reverse]

/-- Nothing is called and the rows stay. -/
theorem accounts_same {before after : Row → Prop} (h : ∀ row, before row ↔ after row) : Accounts before after [] :=
  ⟨by simp, fun row hrow _ => (h row).mp hrow, by simp, fun row hrow => .inl ((h row).mpr hrow)⟩

/-- Nothing is called and nothing changes. -/
theorem accounts_none {before : Row → Prop} (h : calls = []) : Accounts before before calls :=
  h ▸ accounts_same fun _ => Iff.rfl

/-- What others have on record changes nothing. -/
theorem accounts_or {before after : Row → Prop} (h : Accounts before after calls)
    (others : Row → Prop) : Accounts (fun row => before row ∨ others row) (fun row => after row ∨ others row) calls := by
  refine ⟨fun route hput => .inl (h.put route hput), fun row hrow hdelete => ?_, fun route hdelete => .inl (h.owned route hdelete),
    fun row hrow => ?_⟩
  · exact hrow.imp_left fun hbefore => h.kept row hbefore hdelete
  · rcases hrow with hafter | hothers
    · exact (h.fresh row hafter).imp_left .inl
    · exact .inl (.inr hothers)

theorem accounts_congr {before after before' after' : Row → Prop}
    (h : Accounts before after calls) (hbefore : ∀ row, before row ↔ before' row)
    (hafter : ∀ row, after row ↔ after' row) : Accounts before' after' calls := by
  obtain rfl : before = before' := funext fun row => propext (hbefore row)
  obtain rfl : after = after' := funext fun row => propext (hafter row)
  exact h

/-! ## The ledger -/

/-- A cleanup deletes routes of the ledger and keeps those it could not delete. -/
theorem accounts_cleanup (deleted : AppliedRoute → Bool) :
    Accounts (Listed ledger.routes) (Listed (ledger.completeResourceCleanup deleted).1.routes)
      (ledger.cleanupCalls deleted) := by
  have hroutes : (ledger.completeResourceCleanup deleted).1.routes = ledger.routes.filter fun route => !deleted route := by
    simp only [completeResourceCleanup, routes, filter_append]
    cases ledger.controlRoute with
    | none => rfl
    | some route => by_cases h : deleted route <;> simp [Option.filter, h]
  rw [hroutes]
  refine ⟨by simp [cleanupCalls], ?_, ?_, ?_⟩
  · rintro row ⟨route, hroute, rfl⟩ hdelete
    refine ⟨route, mem_filter.mpr ⟨hroute, ?_⟩, rfl⟩
    by_contra hdeleted
    have hcall : RouteCall.delete route ∈ ledger.cleanupCalls deleted :=
      mem_map_of_mem (mem_filter.mpr ⟨hroute, by simpa using hdeleted⟩)
    exact hdelete route hcall rfl
  · intro route hcall
    obtain ⟨x, hx, hroute⟩ := mem_map.mp hcall
    injection hroute with hroute
    exact ⟨route, hroute ▸ (mem_filter.mp hx).1, rfl⟩
  · rintro row ⟨route, hroute, rfl⟩
    exact .inl ⟨route, (mem_filter.mp hroute).1, rfl⟩

/-- A route that could not be deleted is remembered. -/
theorem listed_remember (route : AppliedRoute) (row : Row) :
    Listed (ledger.rememberRouteCleanupFailure route).routes row ↔ route.row = row ∨ Listed ledger.routes row := by
  unfold rememberRouteCleanupFailure
  split
  · rename_i hmem
    refine ⟨.inr, ?_⟩
    rintro (rfl | hrow)
    · exact ⟨route, mem_append_left _ hmem, rfl⟩
    · exact hrow
  · simp only [routes, listed_append, listed_cons, not_listed_nil, or_false]
    tauto

/-- A route is put into the table whose row is on record after it. -/
theorem accounts_put {before after : Row → Prop} (route : AppliedRoute)
    (hafter : ∀ row, after row ↔ before row ∨ route.row = row) : Accounts before after [.put route] := by
  refine ⟨fun x hx => ?_, fun row hrow _ => (hafter row).mpr (.inl hrow), by simp, fun row hrow => ?_⟩
  · obtain rfl : x = route := by simpa using hx
    exact (hafter _).mpr (.inr rfl)
  · exact ((hafter row).mp hrow).imp_right fun hroute => ⟨route, mem_singleton_self _, hroute⟩

/-- A row is deleted first. -/
theorem accounts_delete {before mid after : Row → Prop} (route : AppliedRoute)
    (hbefore : ∀ row, before row ↔ route.row = row ∨ mid row) (h : Accounts mid after calls) :
    Accounts before after (.delete route :: calls) := by
  refine ⟨?_, ?_, ?_, ?_⟩
  · intro x hx
    exact h.put x (by simpa using hx)
  · intro row hrow hdelete
    rcases (hbefore row).mp hrow with hroute | hmid
    · exact absurd hroute (hdelete route mem_cons_self)
    · exact h.kept row hmid fun x hx => hdelete x (mem_cons_of_mem _ hx)
  · intro x hx
    rcases mem_cons.mp hx with heq | hcalls
    · injection heq with heq
      exact (hbefore _).mpr (.inl (by rw [heq]))
    · exact (hbefore _).mpr (.inr (h.owned x hcalls))
  · intro row hrow
    rcases h.fresh row hrow with hmid | ⟨x, hx, hxrow⟩
    · exact .inl ((hbefore row).mpr (.inr hmid))
    · exact .inr ⟨x, mem_cons_of_mem _ hx, hxrow⟩

section ControlRoute

variable {ledger} {desired : AppliedRoute} (io : ResourceLedger.ControlRouteIo)

section

variable (hsame : ∀ route, ledger.controlRoute = some route → route.row = desired.row)
include hsame

/-- The control route is replaced by one to the same row. -/
theorem accounts_control :
    Accounts (Listed ledger.routes) (Listed { ledger with controlRoute := some desired }.routes) [.put desired] := by
  refine accounts_put desired fun row => ?_
  simp only [routes, listed_append, Option.toList_some, listed_cons, not_listed_nil, or_false]
  cases hcontrol : ledger.controlRoute with
  | none => simp
  | some route => simp [listed_cons, hsame route hcontrol]

theorem accounts_change :
    Accounts (Listed ledger.routes) (Listed (ledger.changeControlRoute desired io).1.routes)
      (changeCalls desired io) := by
  unfold changeControlRoute changeCalls
  split
  · exact accounts_control hsame
  · exact accounts_none rfl

theorem accounts_update :
    Accounts (Listed ledger.routes) (Listed (ledger.updateControlRoute desired io).1.routes)
      (updateCalls desired io) := by
  obtain ⟨previousDeleted, observed, addResult, observedAgain, changed, confirmed⟩ := io
  cases observed with
  | different => exact accounts_change _ hsame
  | absent =>
    cases addResult with
    | added => exact accounts_control hsame
    | failed => exact accounts_none rfl
    | present =>
      cases observedAgain with
      | different => exact accounts_change _ hsame
      | _ => exact accounts_none rfl
  | _ => exact accounts_none rfl

end

variable (hhost : ledger.HostRoute) (hdesired : desired.prefixLength = 32)
include hhost hdesired

/-- The control route goes first if it leads to another server. -/
theorem accounts_ensure :
    Accounts (Listed ledger.routes) (Listed (ledger.ensureControlRoute desired io).1.routes)
      (ledger.controlRouteCalls desired io) := by
  unfold ensureControlRoute controlRouteCalls
  cases hcontrol : ledger.controlRoute with
  | none =>
    refine accounts_update io ?_
    intro route hroute
    cases hcontrol.symm.trans hroute
  | some previous =>
    simp only
    split
    · rename_i hdestination
      refine accounts_update io ?_
      intro route hroute
      obtain rfl := Option.some.inj (hcontrol.symm.trans hroute)
      simp [AppliedRoute.row, hdestination, hhost previous hcontrol, hdesired]
    · split
      · have hnone : ∀ route, { ledger with controlRoute := none }.controlRoute = some route → route.row = desired.row := by
          rintro _ ⟨⟩
        refine accounts_delete previous (fun row => ?_) (accounts_update io hnone)
        simp only [routes, hcontrol, listed_append, Option.toList, listed_cons, not_listed_nil, or_false]
        exact or_comm
      · exact accounts_none rfl

theorem hostRoute_update :
    (ledger.updateControlRoute desired io).1.HostRoute := by
  have hput : { ledger with controlRoute := some desired }.HostRoute := by
    rintro route ⟨⟩
    exact hdesired
  have hchange : (ledger.changeControlRoute desired io).1.HostRoute := by
    unfold changeControlRoute
    split
    · exact hput
    · exact hhost
  unfold updateControlRoute
  split
  case h_3 => exact hchange
  case h_4 =>
    split
    case h_1 => exact hput
    case h_2 => exact hhost
    case h_3 => split <;> first | exact hchange | exact hhost
  all_goals exact hhost

theorem hostRoute_ensure :
    (ledger.ensureControlRoute desired io).1.HostRoute := by
  unfold ensureControlRoute
  split
  · exact hostRoute_update io hhost hdesired
  split
  · exact hostRoute_update io hhost hdesired
  · split
    · exact hostRoute_update io nofun hdesired
    · exact hhost

end ControlRoute

theorem hostRoute_cleanup {ledger : ResourceLedger} (hhost : ledger.HostRoute) (deleted : AppliedRoute → Bool) :
    (ledger.completeResourceCleanup deleted).1.HostRoute := by
  intro route hroute
  exact hhost route (Option.mem_filter_iff.mp hroute).1

/-! ## Attempts -/

/-- The routes of a task, if there is one. -/
def routesOf : Option AttemptPc → List AppliedRoute
  | some pc => pc.routes
  | none => []

variable {s : EngineState} {n : Nat}

/-- What is on record besides the ledger and the task of attempt `n`. -/
def Elsewhere (s : EngineState) (n : Nat) (row : Row) : Prop :=
  ∃ m pc, m ≠ n ∧ s.attempts m = some pc ∧ Listed pc.routes row

theorem records_iff (s : EngineState) (n : Nat) (row : Row) :
    Listed (s.ledger.routes ++ routesOf (s.attempts n)) row ∨ Elsewhere s n row ↔ s.Records row := by
  rw [listed_append, or_assoc]
  refine or_congr_right ⟨?_, ?_⟩
  · rintro (htask | ⟨m, pc, _, hm, hrow⟩)
    · cases hn : s.attempts n with
      | none =>
        rw [hn] at htask
        exact absurd htask (not_listed_nil row)
      | some pc =>
        rw [hn] at htask
        exact ⟨n, pc, hn, htask⟩
    · exact ⟨m, pc, hm, hrow⟩
  · rintro ⟨m, pc, hm, hrow⟩
    by_cases hmn : m = n
    · subst hmn
      exact .inl (by rw [hm]; exact hrow)
    · exact .inr ⟨m, pc, hmn, hm, hrow⟩

/-- A task moves and uses the ledger: what it and the ledger have on record is accounted for. -/
theorem accounts_move {task next : Option AttemptPc}
    (hn : s.attempts n = task) (hattempts : t.attempts = update s.attempts n next)
    (h : Accounts (Listed (s.ledger.routes ++ routesOf task)) (Listed (t.ledger.routes ++ routesOf next)) calls) :
    Accounts s.Records t.Records calls := by
  have helsewhere : ∀ row, Elsewhere s n row ↔ Elsewhere t n row := by
    intro row
    simp only [Elsewhere, hattempts]
    refine exists_congr fun m => exists_congr fun q => and_congr_right fun hmn => ?_
    rw [update_of_ne hmn]
  refine accounts_congr (accounts_or h (Elsewhere s n)) (fun row => ?_) fun row => ?_
  · rw [← records_iff s n row, hn]
  · rw [← records_iff t n row, helsewhere, hattempts, update_self]

/-- What a task has on record besides the ledger stays. -/
theorem accounts_beside {ys : List AppliedRoute} (h : Accounts (Listed xs) (Listed ys) calls)
    (routes : List AppliedRoute) : Accounts (Listed (xs ++ routes)) (Listed (ys ++ routes)) calls :=
  accounts_congr (accounts_or h (Listed routes)) (fun _ => listed_append.symm) fun _ => listed_append.symm

/-- A task deletes a route of its list, or has the ledger remember it. -/
theorem accounts_drop (ledger : ResourceLedger) (route : AppliedRoute) (routes : List AppliedRoute) (deleted : Bool) :
    Accounts (Listed (ledger.routes ++ route :: routes))
      (Listed ((if deleted then ledger else ledger.rememberRouteCleanupFailure route).routes ++ routes))
      (if deleted then [.delete route] else []) := by
  have hbefore : ∀ row, Listed (ledger.routes ++ route :: routes) row ↔
      route.row = row ∨ Listed (ledger.routes ++ routes) row := by
    intro row
    simp only [listed_append, listed_cons]
    tauto
  cases deleted with
  | true => exact accounts_delete route hbefore (accounts_none rfl)
  | false =>
    refine accounts_same fun row => (hbefore row).trans ?_
    simp only [Bool.false_eq_true, if_false, listed_append, listed_remember]
    tauto

/-- A task moves and nothing happens to its routes or to the ledger. -/
theorem accounts_idle {task next : Option AttemptPc} (hn : s.attempts n = task)
    (hattempts : t.attempts = update s.attempts n next) (hledger : t.ledger.routes = s.ledger.routes)
    (hroutes : routesOf next = routesOf task) : Accounts s.Records t.Records [] := by
  refine accounts_move hn hattempts (accounts_same fun row => ?_)
  rw [hledger, hroutes]

theorem accounts_connectStep (hhost : s.ledger.HostRoute) (hn : s.attempts n = some pc)
    (label : AttemptLabel) (hpart : pc.part = .connect) :
    Accounts s.Records (connectStep s n pc label).Records (pc.routeCalls s.ledger label) := by
  unfold connectStep
  split
  case h_3 flag desired io =>
    have hdesired : desired.host.prefixLength = 32 := rfl
    have hensure := accounts_ensure io hhost hdesired
    generalize s.ledger.ensureControlRoute desired.host io = result at hensure ⊢
    obtain ⟨ledger, ready⟩ := result
    cases ready with
    | true | false => exact accounts_move hn rfl (accounts_beside hensure [])
  case h_4 | h_5 =>
    refine accounts_idle hn rfl rfl ?_
    split <;> rfl
  case h_6 deleted => exact accounts_move hn rfl (accounts_beside (accounts_cleanup s.ledger deleted) [])
  case h_9 =>
    refine accounts_none ?_
    unfold AttemptPc.routeCalls
    split <;> first | rfl | grind [AttemptPc.part]
  all_goals exact accounts_idle hn rfl rfl rfl

theorem accounts_assembleStep (hn : s.attempts n = some pc) (label : AttemptLabel) (hpart : pc.part = .assemble) :
    Accounts s.Records (assembleStep s n pc label).Records (pc.routeCalls s.ledger label) := by
  unfold assembleStep
  split
  case h_1 flag created =>
    split
    · exact accounts_idle hn rfl rfl rfl
    · refine accounts_idle hn rfl rfl ?_
      split <;> rfl
  case h_2 flag applied =>
    refine accounts_idle hn rfl rfl ?_
    split <;> rfl
  case h_3 flag routes route added =>
    cases added with
    | true =>
      refine accounts_move hn rfl (accounts_put route fun row => ?_)
      simp [setAttempt, AttemptPc.routes, routesOf, listed_append, listed_cons, not_listed_nil, or_assoc]
    | false =>
      refine accounts_move hn rfl (accounts_same fun row => ?_)
      simp only [listed_append, AttemptPc.routes, routesOf, Bool.false_eq_true, if_false, listed_reverse]
      exact Iff.rfl
  case h_5 route routes deleted => exact accounts_move hn rfl (accounts_drop s.ledger route routes deleted)
  case h_9 =>
    refine accounts_none ?_
    unfold AttemptPc.routeCalls
    split <;> first | rfl | grind [AttemptPc.part]
  all_goals exact accounts_idle hn rfl rfl rfl

theorem accounts_teardownStep (hn : s.attempts n = some pc) (label : AttemptLabel) (hpart : pc.part = .teardown) :
    Accounts s.Records (teardownStep s n pc label).Records (pc.routeCalls s.ledger label) := by
  unfold teardownStep
  split
  case h_1 route routes deleted => exact accounts_move hn rfl (accounts_drop s.ledger route routes deleted)
  case h_4 deleted => exact accounts_move hn rfl (accounts_beside (accounts_cleanup s.ledger deleted) [])
  case h_7 =>
    refine accounts_idle hn rfl rfl ?_
    split <;> rfl
  case h_8 =>
    refine accounts_none ?_
    unfold AttemptPc.routeCalls
    split <;> first | rfl | grind [AttemptPc.part]
  all_goals repeat' split
  all_goals exact accounts_idle hn rfl rfl rfl

/-! ## The engine -/

/-- The ledger is cleaned up while the tasks stay as they are. -/
theorem accounts_settle (s : EngineState) (deleted : AppliedRoute → Bool)
    (hledger : t.ledger = (s.ledger.completeResourceCleanup deleted).1) (hattempts : t.attempts = s.attempts) :
    Accounts s.Records t.Records (s.ledger.cleanupCalls deleted) := by
  refine accounts_congr (accounts_or (accounts_cleanup s.ledger deleted)
    (fun row => ∃ n pc, s.attempts n = some pc ∧ Listed pc.routes row)) (fun _ => Iff.rfl) fun row => ?_
  rw [EngineState.Records, hledger, hattempts]

theorem accounts_applyTunnel (hnumbered : s.Numbered) : Accounts s.Records s.applyTunnel.Records [] := by
  unfold applyTunnel
  split
  · exact accounts_none rfl
  -- The number of the new attempt was free, and its task has no routes.
  have hfree : s.attempts s.accepted = none := by
    by_contra hsome
    obtain ⟨pc, hpc⟩ := Option.ne_none_iff_exists'.mp hsome
    exact Nat.lt_irrefl _ (hnumbered _ pc hpc)
  exact accounts_idle hfree rfl rfl rfl

theorem accounts_stopStep (s : EngineState) (k : Nat) (label : StopLabel) :
    Accounts s.Records (stopStep s k label).Records (s.routeCalls (.stop k label)) := by
  have hsame : ∀ t : EngineState, t.ledger = s.ledger → t.attempts = s.attempts →
      Accounts s.Records t.Records [] := by
    intro t hledger hattempts
    refine accounts_same fun row => ?_
    rw [EngineState.Records, EngineState.Records, hledger, hattempts]
  unfold stopStep
  split
  case h_1 | h_2 => split <;> exact hsame _ rfl rfl
  case h_5 deleted hk =>
    simp only [routeCalls, hk, if_true]
    exact accounts_settle s deleted rfl rfl
  case h_7 label _ _ _ _ _ _ hno _ =>
    have hcalls : s.routeCalls (.stop k label) = [] := by
      cases label with
      | clean deleted => exact if_neg fun hk => hno deleted hk rfl
      | _ => rfl
    rw [hcalls]
    exact hsame _ rfl rfl
  all_goals exact hsame _ rfl rfl

/-! ## The control route -/

theorem hostRoute_attemptStep (h : s.ledger.HostRoute) (n : Nat) (label : AttemptLabel) :
    (attemptStep s n label).ledger.HostRoute := by
  have hdrop : ∀ route (deleted : Bool),
      (if deleted then s.ledger else s.ledger.rememberRouteCleanupFailure route).HostRoute := by
    intro route deleted
    split
    · exact h
    · unfold rememberRouteCleanupFailure
      split <;> exact h
  unfold attemptStep
  split
  · exact h
  split
  · unfold connectStep
    split
    case h_3 desired io _ _ => exact hostRoute_ensure io h rfl
    case h_6 deleted _ _ => exact hostRoute_cleanup h deleted
    all_goals exact h
  · unfold assembleStep
    split
    case h_1 => split <;> exact h
    case h_5 route _ deleted _ _ => exact hdrop route deleted
    all_goals exact h
  · unfold teardownStep
    split
    case h_1 route _ deleted _ _ => exact hdrop route deleted
    case h_2 => split <;> exact h
    case h_4 deleted _ _ => exact hostRoute_cleanup h deleted
    all_goals exact h

end DarwinRoutesAux

open DarwinRoutesAux

/-- The control route leads to one host, whatever the engine does. -/
theorem hostRoute_engineStep {s : EngineState} (h : s.ledger.HostRoute) (label : EngineLabel) :
    (engineStep s label).ledger.HostRoute := by
  cases label with
  | applyTunnel =>
    simp only [engineStep, applyTunnel]
    split <;> exact h
  | attempt n label => exact hostRoute_attemptStep h n label
  | stopTunnel => exact h
  | stop k label =>
    simp only [engineStep, stopStep]
    split
    case h_1 | h_2 => split <;> exact h
    case h_5 deleted _ => exact hostRoute_cleanup h deleted
    all_goals exact h

/-- One step of the engine accounts for its route calls. -/
theorem accounts_engineStep {s : EngineState} (hhost : s.ledger.HostRoute) (hnumbered : s.Numbered)
    (label : EngineLabel) : Accounts s.Records (engineStep s label).Records (s.routeCalls label) := by
  cases label with
  | applyTunnel => exact accounts_applyTunnel hnumbered
  | attempt n label =>
    simp only [engineStep, attemptStep, routeCalls]
    split
    · rename_i hn
      simp only [hn]
      exact accounts_none rfl
    rename_i pc hn
    simp only [hn]
    split
    · exact accounts_connectStep hhost hn label ‹_›
    · exact accounts_assembleStep hn label ‹_›
    · exact accounts_teardownStep hn label ‹_›
  | stopTunnel => exact accounts_none rfl
  | stop k label => exact accounts_stopStep s k label

/-- A settled engine has nothing on record. -/
theorem not_records_of_settled {s : EngineState} (h : s.Settled) (row : Row) : ¬s.Records row := by
  rintro (hledger | ⟨n, pc, hn, hrow⟩)
  · rw [h.clean] at hledger
    exact not_listed_nil row hledger
  · have hpc := h.idle n pc hn
    cases pc with
    | returning | clearingAgain => exact not_listed_nil row hrow
    | _ => cases hpc

end ExvVpn.DarwinEngine
