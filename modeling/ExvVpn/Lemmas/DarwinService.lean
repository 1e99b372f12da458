import ExvVpn.Lemmas.DarwinRoutes

/-!
# Rows over the sessions of the macOS engine

What the engine has put into the route table is on record with the engine of the current session, as long as a session is
followed by another one only when its engine has settled. What was in the table before stays there, unless the engine wants a
route to the same host that leads elsewhere.
-/

namespace ExvVpn.DarwinEngine

open List Function ServiceState ResourceLedger Transition Writes EngineState

/-! ## What is put is on record -/

/-- An apply is accepted outside the two windows of the attempt slot, and a session is followed by another one only when
its engine has settled. -/
def keepsRoutes (s : ServiceState) : ServiceLabel → Prop
  | .engine label => keepsSlot s.runtime label
  | .nextSession => s.exit = some .ended → s.runtime.Settled
  | _ => True

/-- Every engine is well formed, and those of later sessions have not begun. -/
structure ServiceState.Formed (s : ServiceState) : Prop where
  host : ∀ m, (s.runtimes m).ledger.HostRoute
  numbered : ∀ m, (s.runtimes m).Numbered
  later : ∀ m, s.current < m → s.runtimes m = .initial

/-- The rows that were put are on record with the current engine, and the engines before have settled. -/
structure ServiceState.Sound (s : ServiceState) : Prop where
  formed : s.Formed
  slot : s.runtime.slotView.Sound
  earlier : ∀ m, m < s.current → (s.runtimes m).Settled
  recorded : ∀ row, s.rows row = true → s.runtime.Records row

variable {m : Nat} {runtime : EngineState} {t : ServiceState}

namespace DarwinServiceAux

open DarwinRoutesAux

variable {s : ServiceState}

/-! ### Well-formed engines -/

/-- The engine of a session that has begun is replaced by a well-formed one. -/
theorem formed_setRuntime (h : s.Formed) (hm : m ≤ s.current)
    (hruntimes : t.runtimes = update s.runtimes m runtime) (hcurrent : t.current = s.current)
    (hhost : runtime.ledger.HostRoute) (hnumbered : runtime.Numbered) : t.Formed := by
  refine ⟨?_, ?_, fun j hj => ?_⟩
  · rw [hruntimes]
    exact (forall_update_iff s.runtimes fun _ e => e.ledger.HostRoute).mpr ⟨hhost, fun j _ => h.host j⟩
  · rw [hruntimes]
    exact (forall_update_iff s.runtimes fun _ e => e.Numbered).mpr ⟨hnumbered, fun j _ => h.numbered j⟩
  · rw [hcurrent] at hj
    rw [hruntimes, update_of_ne (Nat.ne_of_gt (Nat.lt_of_le_of_lt hm hj))]
    exact h.later j hj

theorem formed_runtimeStep (h : s.Formed) (hm : m ≤ s.current) (label : EngineLabel) : (runtimeStep s m label).Formed :=
  formed_setRuntime h hm rfl rfl (hostRoute_engineStep (h.host m) label) (numbered_engineStep (h.numbered m) label)

theorem formed_initial (table : Row → Option Hop) : (initial table).Formed :=
  ⟨nofun, fun _ => numbered_initial, fun _ _ => rfl⟩

/-! ### Rows on record -/

/-- After the calls, a row that is put and not taken away is on record. -/
theorem recorded_of_accounts {before after : Row → Prop} {calls : List RouteCall} (h : Accounts before after calls)
    {rows : Row → Bool} (hrows : ∀ row, rows row = true → before row) (row : Row)
    (hrow : apply rows (calls.map rowWrite) row = true) : after row := by
  rcases apply_eq_or rows (calls.map rowWrite) row with ⟨hsame, hnone⟩ | hwritten
  · refine h.kept row (hrows row (hsame ▸ hrow)) fun route hdelete => ?_
    exact hnone _ (mem_map_of_mem hdelete)
  rw [hrow] at hwritten
  obtain ⟨call, hcall, hwrite⟩ := mem_map.mp hwritten
  cases call with
  | put route =>
    injection hwrite with hroute
    exact hroute ▸ h.put route hcall
  | delete route => cases hwrite

/-- The current engine is replaced after route calls that are accounted for. -/
theorem sound_replace (h : s.Sound) (calls : List RouteCall)
    (hruntimes : t.runtimes = update s.runtimes s.current runtime) (hcurrent : t.current = s.current)
    (hrows : t.rows = apply s.rows (calls.map ServiceState.rowWrite)) (hformed : t.Formed)
    (hslot : runtime.slotView.Sound) (haccounts : Accounts s.runtime.Records runtime.Records calls) : t.Sound := by
  have hruntime : t.runtime = runtime := by rw [ServiceState.runtime, hruntimes, hcurrent, update_self]
  refine ⟨hformed, hruntime ▸ hslot, fun m hm => ?_, fun row hrow => ?_⟩
  · rw [hcurrent] at hm
    rw [hruntimes, update_of_ne (Nat.ne_of_lt hm)]
    exact h.earlier m hm
  · rw [hrows] at hrow
    rw [hruntime]
    exact recorded_of_accounts haccounts h.recorded row hrow

theorem sound_engine (h : s.Sound) {label : EngineLabel} (hguard : keepsSlot s.runtime label) :
    (runtimeStep s s.current label).Sound :=
  sound_replace h (s.runtime.routeCalls label) rfl rfl rfl (formed_runtimeStep h.formed Nat.le.refl label)
    (slotSound_engineStep s.runtime label h.slot hguard)
    (accounts_engineStep (h.formed.host s.current) (h.formed.numbered s.current) label)

/-- A task of a settled engine calls nothing. -/
theorem routeCalls_of_settled (h : runtime.Settled) (n : Nat) (label : AttemptLabel) :
    runtime.routeCalls (.attempt n label) = [] := by
  simp only [routeCalls]
  split
  · rename_i pc hn
    have hpc := h.idle n pc hn
    cases pc with
    | returning | clearingAgain => rfl
    | _ => cases hpc
  · rfl

theorem sound_earlier (h : s.Sound) (hm : m < s.current) (n : Nat) (label : AttemptLabel) :
    (runtimeStep s m (.attempt n label)).Sound := by
  have hsettled := h.earlier m hm
  have hruntime : (runtimeStep s m (.attempt n label)).runtime = s.runtime :=
    update_of_ne (Nat.ne_of_gt hm) _ _
  refine ⟨formed_runtimeStep h.formed (Nat.le_of_lt hm) _, hruntime ▸ h.slot, ?_, fun row hrow => ?_⟩
  · refine (forall_update_iff s.runtimes fun j e => j < s.current → e.Settled).mpr ⟨fun _ => ?_, fun j _ => h.earlier j⟩
    exact settled_attemptStep hsettled n label
  · rw [hruntime]
    refine h.recorded row ?_
    simpa [runtimeStep, perform, setRuntime, routeCalls_of_settled hsettled, apply_nil] using hrow

theorem sound_exitStep (h : s.Sound) (label : ExitLabel) : (exitStep s label).Sound := by
  have hhost := h.formed.host s.current
  have hnumbered := h.formed.numbered s.current
  have hsame : ∀ exit, ({ s with exit } : ServiceState).Sound := fun _ =>
    ⟨⟨h.formed.host, h.formed.numbered, h.formed.later⟩, h.slot, h.earlier, h.recorded⟩
  unfold exitStep
  split
  case h_1 =>
    split
    · rename_i n _
      exact sound_replace h [] rfl rfl rfl
        (formed_setRuntime h.formed Nat.le.refl rfl rfl hhost hnumbered)
        (DarwinStopAux.sound_cancel h.slot n) (accounts_same fun _ => Iff.rfl)
    · exact hsame _
  case h_2 =>
    split
    · exact hsame _
    · exact h
  case h_3 =>
    split
    · exact h
    · exact hsame _
  case h_6 deleted _ =>
    exact sound_replace h (s.runtime.ledger.cleanupCalls deleted) rfl rfl rfl
      (formed_setRuntime h.formed Nat.le.refl rfl rfl (hostRoute_cleanup hhost deleted) hnumbered)
      (DarwinStopAux.sound_cleanup h.slot deleted) (accounts_settle s.runtime deleted rfl rfl)
  case h_7 => exact h
  all_goals exact hsame _

/-- A session is followed by another one. -/
theorem sound_nextSession (h : s.Sound) (hsettled : s.runtime.Settled) :
    ({ s with current := s.current + 1, exit := none } : ServiceState).Sound := by
  have hnew : s.runtimes (s.current + 1) = .initial := h.formed.later _ (Nat.lt_succ_self _)
  refine ⟨⟨h.formed.host, h.formed.numbered, fun m hm => h.formed.later m (Nat.lt_of_succ_lt hm)⟩, ?_,
    fun m hm => ?_, fun row hrow => ?_⟩
  · show (s.runtimes (s.current + 1)).slotView.Sound
    rw [hnew]
    exact slotSound_initial
  · rcases Nat.lt_succ_iff_lt_or_eq.mp hm with hlt | rfl
    · exact h.earlier m hlt
    · exact hsettled
  · exact absurd (h.recorded row hrow) (not_records_of_settled hsettled row)

end DarwinServiceAux

open DarwinServiceAux

/-- One step keeps what was put on record. -/
theorem serviceSound_serviceStep (s : ServiceState) (label : ServiceLabel) (h : s.Sound)
    (hguard : keepsRoutes s label) : (serviceStep s label).Sound := by
  cases label with
  | engine label => exact sound_engine h hguard
  | earlier m n label =>
    simp only [serviceStep]
    split
    · rename_i hm
      exact sound_earlier h hm n label
    · exact h
  | exit label => exact sound_exitStep h label
  | nextSession =>
    simp only [serviceStep]
    split
    · rename_i hended
      exact sound_nextSession h (hguard hended)
    · exact h

/-! ## What was there stays -/

/-- `read_exact` says what is in the table; a row whose gateway is not an IPv4 address does not count. -/
def ResourceLedger.Observed.Honest (found : Option Hop) (desired : AppliedRoute) : ResourceLedger.Observed → Prop
  | .unreadable => True
  | .absent => ∀ hop ∈ found, hop.gateway = none
  | .same => found = some desired.hop
  | .different => found.any (· ≠ desired.hop) = true

instance (found : Option Hop) (desired : AppliedRoute) (observed : ResourceLedger.Observed) :
    Decidable (observed.Honest found desired) := by
  cases observed <;> unfold ResourceLedger.Observed.Honest <;> infer_instance

/-- The route calls of `ensure_control_route` act as they say: `add` succeeds only where there is no row. -/
def ResourceLedger.ControlRouteIo.Honest (found : Option Hop) (desired : AppliedRoute)
    (io : ResourceLedger.ControlRouteIo) : Prop :=
  io.observed.Honest found desired ∧
    (io.observed = .absent → io.added = .added → found = none) ∧
    (io.observed = .absent → io.added = .present → io.observedAgain.Honest found desired)

instance (found : Option Hop) (desired : AppliedRoute) (io : ResourceLedger.ControlRouteIo) :
    Decidable (io.Honest found desired) := by
  unfold ResourceLedger.ControlRouteIo.Honest
  infer_instance

/-- The route calls of a step act as they say. -/
def AttemptLabel.Honest (table : Row → Option Hop) : AttemptLabel → Prop
  | .controlRoute desired io => io.Honest (table desired.host.row) desired.host
  | .addRoute route added => added = true → table route.row = none
  | _ => True

instance (table : Row → Option Hop) (label : AttemptLabel) : Decidable (label.Honest table) := by
  unfold AttemptLabel.Honest
  split <;> infer_instance

/-- The route calls of a step of the process act as they say. -/
def honest (s : ServiceState) : ServiceLabel → Prop
  | .engine (.attempt _ label) => label.Honest s.table
  | .earlier _ _ label => label.Honest s.table
  | _ => True

instance (s : ServiceState) (label : ServiceLabel) : Decidable (honest s label) := by
  unfold honest
  split <;> infer_instance

/-- The control route that a step of the process wants. -/
def ServiceLabel.wanted : ServiceLabel → Option AppliedRoute
  | .engine (.attempt _ (.controlRoute desired _)) => some desired.host
  | .earlier _ _ (.controlRoute desired _) => some desired.host
  | _ => none

/-- The row is there as before, and no engine has it on record. -/
structure ServiceState.Untouched (s : ServiceState) (row : Row) (hop : Hop) : Prop where
  formed : s.Formed
  there : s.table row = some hop
  foreign : ∀ m, ¬(s.runtimes m).Records row

namespace DarwinServiceAux

open DarwinRoutesAux

variable {s : ServiceState} {row : Row} {hop : Hop}

/-- Only the wanted route is put into the table. -/
theorem put_eq_desired {ledger : ResourceLedger} {desired : AppliedRoute} {io : ResourceLedger.ControlRouteIo}
    {route : AppliedRoute} (hput : .put route ∈ ledger.controlRouteCalls desired io) :
    route = desired ∧ .put desired ∈ updateCalls desired io := by
  have hchange : .put route ∈ changeCalls desired io → route = desired := by
    unfold changeCalls
    split <;> simp
  have hupdate : .put route ∈ updateCalls desired io → route = desired := by
    unfold updateCalls
    split
    case h_3 => exact hchange
    case h_4 =>
      split
      case h_1 | h_2 => simp
      case h_3 =>
        split
        · exact hchange
        · simp
    all_goals simp
  have hmem : .put route ∈ updateCalls desired io := by
    unfold controlRouteCalls at hput
    split at hput
    · exact hput
    split at hput
    · exact hput
    · split at hput
      · simpa using hput
      · simp at hput
  obtain rfl := hupdate hmem
  exact ⟨rfl, hmem⟩

/-- A row that is there and leads where the control route is to lead is not put again. -/
theorem updateCalls_eq_nil {desired : AppliedRoute} {io : ResourceLedger.ControlRouteIo}
    (hhonest : io.Honest (some hop) desired) (hhop : desired.hop = hop) : updateCalls desired io = [] := by
  obtain ⟨hobserved, hadded, hagain⟩ := hhonest
  have hsame : ¬ResourceLedger.Observed.Honest (some hop) desired .different := by
    simp [ResourceLedger.Observed.Honest, hhop]
  unfold updateCalls
  split
  case h_3 h => exact absurd (h ▸ hobserved) hsame
  case h_4 h =>
    split
    case h_1 h' => cases hadded h h'
    case h_2 => rfl
    case h_3 h' =>
      split
      case h_1 h'' => exact absurd (h'' ▸ hagain h h') hsame
      case h_2 => rfl
  all_goals rfl

/-- Honest calls of a task do not put the row again. -/
theorem not_put (h : s.table row = some hop) {pc : AttemptPc} {ledger : ResourceLedger} {label : AttemptLabel}
    (hhonest : label.Honest s.table)
    (hwanted : ∀ desired io, label = .controlRoute desired io → desired.host.row = row → desired.host.hop = hop)
    (route : AppliedRoute) (hput : .put route ∈ pc.routeCalls ledger label) : route.row ≠ row := by
  rintro rfl
  unfold AttemptPc.routeCalls at hput
  split at hput
  case h_1 desired io =>
    obtain ⟨rfl, hmem⟩ := put_eq_desired hput
    have hio : io.Honest (some hop) desired.host := h ▸ hhonest
    rw [updateCalls_eq_nil hio (hwanted desired io rfl rfl)] at hmem
    cases hmem
  case h_2 x added =>
    split at hput
    · rename_i hadded
      obtain rfl : route = x := by simpa using hput
      cases (hhonest hadded).symm.trans h
    · cases hput
  case h_3 | h_4 => split at hput <;> simp at hput
  case h_5 | h_6 => simp [cleanupCalls] at hput
  case h_7 => cases hput

/-- Calls that are accounted for and do not put the row leave it alone. -/
theorem untouched_of_accounts {before after : Row → Prop} {calls : List RouteCall} (h : Accounts before after calls)
    (hbefore : ¬before row) (hput : ∀ route, .put route ∈ calls → route.row ≠ row) :
    ¬after row ∧ ∀ w ∈ calls.map tableWrite, w.1 ≠ row := by
  refine ⟨fun hafter => ?_, fun w hw => ?_⟩
  · rcases h.fresh row hafter with hrow | ⟨route, hroute, hrow⟩
    · exact hbefore hrow
    · exact hput route hroute hrow
  · obtain ⟨call, hcall, rfl⟩ := mem_map.mp hw
    cases call with
    | put route => exact hput route hcall
    | delete route =>
      intro hrow
      exact hbefore (hrow ▸ h.owned route hcall)

/-- A cleanup puts nothing into the table. -/
theorem not_put_cleanup (ledger : ResourceLedger) (deleted : AppliedRoute → Bool) (route : AppliedRoute) :
    .put route ∉ ledger.cleanupCalls deleted := by
  simp [cleanupCalls]

variable (h : s.Untouched row hop)
include h

/-- An engine is replaced after route calls that leave the row alone. -/
theorem untouched_replace (calls : List RouteCall)
    (hruntimes : t.runtimes = update s.runtimes m runtime)
    (htable : t.table = apply s.table (calls.map tableWrite)) (hformed : t.Formed)
    (haccounts : Accounts (s.runtimes m).Records runtime.Records calls)
    (hput : ∀ route, .put route ∈ calls → route.row ≠ row) : t.Untouched row hop := by
  obtain ⟨hafter, hwrites⟩ := untouched_of_accounts haccounts (h.foreign m) hput
  refine ⟨hformed, ?_, ?_⟩
  · rw [htable, apply_of_forall_ne hwrites]
    exact h.there
  · rw [hruntimes]
    exact (forall_update_iff s.runtimes fun _ e => ¬e.Records row).mpr ⟨hafter, fun j _ => h.foreign j⟩

theorem untouched_attempt (hm : m ≤ s.current) (n : Nat) {label : AttemptLabel}
    (hhonest : label.Honest s.table)
    (hwanted : ∀ desired io, label = .controlRoute desired io → desired.host.row = row → desired.host.hop = hop) :
    (runtimeStep s m (.attempt n label)).Untouched row hop := by
  refine untouched_replace h ((s.runtimes m).routeCalls (.attempt n label)) rfl rfl (formed_runtimeStep h.formed hm _)
    (accounts_engineStep (h.formed.host m) (h.formed.numbered m) _) fun route hput => ?_
  simp only [routeCalls] at hput
  split at hput
  · exact not_put h.there hhonest hwanted route hput
  · cases hput

theorem untouched_engine {label : EngineLabel} (hhonest : honest s (.engine label))
    (hwanted : ∀ desired, ServiceLabel.wanted (.engine label) = some desired → desired.row = row → desired.hop = hop) :
    (runtimeStep s s.current label).Untouched row hop := by
  have hreplace := untouched_replace h ((s.runtimes s.current).routeCalls label) rfl rfl
    (formed_runtimeStep h.formed Nat.le.refl label)
    (accounts_engineStep (h.formed.host s.current) (h.formed.numbered s.current) label)
  cases label with
  | applyTunnel | stopTunnel => exact hreplace nofun
  | attempt n label =>
    refine untouched_attempt h Nat.le.refl n hhonest fun desired io hlabel => ?_
    exact hwanted desired.host (by rw [hlabel]; rfl)
  | stop k label =>
    refine hreplace fun route hput => ?_
    cases label with
    | clean deleted =>
      simp only [routeCalls] at hput
      split at hput
      · exact absurd hput (not_put_cleanup _ deleted route)
      · cases hput
    | _ => cases hput

theorem untouched_exitStep (label : ExitLabel) : (exitStep s label).Untouched row hop := by
  have hhost := h.formed.host s.current
  have hnumbered := h.formed.numbered s.current
  have hsame : ∀ exit, ({ s with exit } : ServiceState).Untouched row hop := fun _ =>
    ⟨⟨h.formed.host, h.formed.numbered, h.formed.later⟩, h.there, h.foreign⟩
  unfold exitStep
  split
  case h_1 =>
    split
    · exact untouched_replace h [] rfl rfl (formed_setRuntime h.formed Nat.le.refl rfl rfl hhost hnumbered)
        (accounts_same fun _ => Iff.rfl) nofun
    · exact hsame _
  case h_2 =>
    split
    · exact hsame _
    · exact h
  case h_3 =>
    split
    · exact h
    · exact hsame _
  case h_6 deleted _ =>
    exact untouched_replace h (s.runtime.ledger.cleanupCalls deleted) rfl rfl
      (formed_setRuntime h.formed Nat.le.refl rfl rfl (hostRoute_cleanup hhost deleted) hnumbered)
      (accounts_settle s.runtime deleted rfl rfl) fun route hput => absurd hput (not_put_cleanup _ deleted route)
  case h_7 => exact h
  all_goals exact hsame _

end DarwinServiceAux

/-- One step leaves a row alone that leads where the wanted control routes lead. -/
theorem untouched_serviceStep {row : Row} {hop : Hop} (s : ServiceState) (label : ServiceLabel)
    (h : s.Untouched row hop)
    (hguard : honest s label ∧ ∀ desired, label.wanted = some desired → desired.row = row → desired.hop = hop) :
    (serviceStep s label).Untouched row hop := by
  cases label with
  | engine label => exact untouched_engine h hguard.1 hguard.2
  | earlier m n label =>
    simp only [serviceStep]
    split
    · rename_i hm
      refine untouched_attempt h (Nat.le_of_lt hm) n hguard.1 fun desired io hlabel => ?_
      exact hguard.2 desired.host (by rw [hlabel]; rfl)
    · exact h
  | exit label => exact untouched_exitStep h label
  | nextSession =>
    simp only [serviceStep]
    split
    · exact ⟨⟨h.formed.host, h.formed.numbered, fun m hm => h.formed.later m (Nat.lt_of_succ_lt hm)⟩, h.there, h.foreign⟩
    · exact h

end ExvVpn.DarwinEngine
