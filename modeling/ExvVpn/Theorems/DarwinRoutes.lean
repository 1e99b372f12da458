import ExvVpn.Lemmas.DarwinService

/-!
# Route rows of the macOS engine

A route whose removal fails stays in the ledger, for the next Stop or exit to try again. This holds within a session; but the
resident engine makes a new ledger for each session, whether or not the cleanup of the one before has succeeded. And as long
as an attempt can run without its slot, a Stop can reply `Stopped` beside it.

The control route is a route of the engine also if the row was there before and led elsewhere: it is changed, recorded and
deleted by the next Stop.
-/

namespace ExvVpn.DarwinEngine

open Transition ServiceState AttemptLabel DarwinServiceAux

/-! ## Obligations -/

/-- In every run in which no apply is accepted in one of the two windows of the attempt slot, and a session is followed
by another one only when its engine has settled: each row that the engine has put into the table and not taken away is
on record, and when a stop replies `Stopped` there is no such row. -/
theorem route_obligations_kept (table : Row → Option Hop) (labels : List ServiceLabel)
    (h : Along serviceStep keepsRoutes (initial table) labels) :
    let s := run serviceStep (initial table) labels
    (∀ row, s.rows row = true → s.runtime.Records row) ∧
      ∀ k, s.runtime.stops k = some .stopped → ∀ row, s.rows row = false := by
  intro s
  have hs : s.Sound := invariant_of_along serviceSound_serviceStep
    ⟨formed_initial table, slotSound_initial, fun _ hm => absurd hm (Nat.not_lt_zero _), nofun⟩ h
  refine ⟨hs.recorded, fun k hk row => ?_⟩
  by_contra hrow
  have hrecord := hs.recorded row (by simpa using hrow)
  exact not_records_of_settled (settled_of_stopped hs.slot hk) row hrecord

/-- An attempt connects over a control route, with one route through its tunnel. -/
def routeRun (n : Nat) (io : ResourceLedger.ControlRouteIo) : List EngineLabel :=
  [fetchFlag, .controlRoute ⟨1, 32, 2, 3⟩ io, .establish true, .startPipeline, .acquire true,
    .addRoute ⟨10, 8, 4, 5⟩ true].map (.attempt n)

/-- The kernel has no route to the server and adds one. -/
def freshIo : ResourceLedger.ControlRouteIo := ⟨true, .absent, .added, .absent, true, true⟩

/-- The tunnel is held, stopped and torn down; the removals of its route and of the control route answer `deleted`. -/
def endRun (n : Nat) (deleted : Bool) : List EngineLabel :=
  [startPumps, .hold, .stopHolding false, .deleteRoute deleted, .keepDevice true, .cleanup fun _ => deleted,
    .clearLive, .clearSlot, .finish].map (.attempt n)

/-- A stop finds the engine idle and cleans up. -/
def stopRun (k : Nat) : List EngineLabel :=
  .stopTunnel :: [StopLabel.cancel, .readSlot, .readLive, .clean fun _ => true].map (.stop k)

/-- Removals fail during the teardown and succeed when the stop tries again: no row is left at the reply. -/
theorem route_obligations_kept_retried :
    (run serviceStep (initial fun _ => none)
      ((.applyTunnel :: routeRun 0 freshIo ++ endRun 0 false ++ stopRun 0).map .engine)).rows (10, 8) = false :=
  (route_obligations_kept _ _ (by
    simp [Along, routeRun, endRun, stopRun, keepsRoutes, keepsSlot, initial, runtime,
      EngineState.initial])).2 0 (by decide +kernel) _

/-- The session of attempt 0 is lost; its task clears the slot a second time after attempt 1 has claimed it and has put a
route into the table. -/
def loseSlotRun : List EngineLabel :=
  .applyTunnel :: [fetchFlag, .controlRoute ⟨1, 32, 2, 3⟩ freshIo, .establish true, .startPipeline,
    .acquire true, .startPumps, .hold, .stopHolding true, .keepDevice true, .retain, .clearLive, .clearSlot,
    .finish].map (.attempt 0) ++
  .applyTunnel :: routeRun 1 ⟨true, .same, .failed, .absent, true, true⟩ ++ [.attempt 0 .clearSlot]

/-- The two ways in which a row is left at `Stopped`: the removals fail at the end of a session, and the next session
knows nothing of the rows; and an attempt that has lost its slot is not seen by a stop. -/
theorem stopped_with_route_left :
    (let s := run serviceStep (initial fun _ => none)
      ((.applyTunnel :: routeRun 0 freshIo).map .engine ++ [.exit .begin] ++ (endRun 0 false).map .engine ++
        [.exit .readSlot, .exit .readLive, .exit (.clean fun _ => false), .nextSession] ++ (stopRun 0).map .engine)
    s.runtime.stops 0 = some .stopped ∧ s.rows (10, 8) = true ∧ s.table (10, 8) = some ⟨some 4, 5⟩ ∧
      s.runtime.ledger = .empty ∧ s.runtime.accepted = 0) ∧
    (let s := run serviceStep (initial fun _ => none) ((loseSlotRun ++ stopRun 0).map .engine)
    s.runtime.stops 0 = some .stopped ∧ s.rows (10, 8) = true) := by
  decide +kernel

/-! ## Rows of others -/

/-- Whatever the engine does, a row that was in the table before it is there as it was, unless the engine wants a control
route to the same host over another gateway or interface. Route calls act as they say. -/
theorem foreign_routes_kept (table : Row → Option Hop) (labels : List ServiceLabel)
    (h : Along serviceStep honest (initial table) labels) (row : Row) (hop : Hop)
    (hrow : table row = some hop)
    (hwanted : ∀ label ∈ labels, ∀ desired, label.wanted = some desired → desired.row = row → desired.hop = hop) :
    (run serviceStep (initial table) labels).table row = some hop := by
  have hstart : (initial table).Untouched row hop :=
    ⟨formed_initial table, hrow, fun _ => not_records_of_settled settled_initial row⟩
  exact (invariant_of_along (I := fun s : ServiceState => s.Untouched row hop) untouched_serviceStep hstart
    (h.and_forall hwanted)).there

/-- A table with a route of others to the server, and another one. -/
def sharedTable (gateway : Nat) (row : Row) : Option Hop :=
  if row = (1, 32) then some ⟨some gateway, 3⟩ else if row = (7, 24) then some ⟨none, 3⟩ else none

/-- A route of others to the server over the wanted gateway is used and is still there after the Stop. -/
theorem foreign_routes_kept_reused :
    (run serviceStep (initial (sharedTable 2))
      ((.applyTunnel :: routeRun 0 ⟨true, .same, .failed, .absent, true, true⟩ ++ endRun 0 true ++ stopRun 0).map
        .engine)).table (1, 32) = some ⟨some 2, 3⟩ :=
  foreign_routes_kept _ _ (by decide +kernel) _ _ rfl (by decide +kernel)

/-- A route of others to the server over another gateway is changed by the connect and gone after the Stop, although all
route calls act as they say. -/
theorem foreign_server_route_deleted :
    let labels := (EngineLabel.applyTunnel :: routeRun 0 ⟨true, .different, .failed, .absent, true, true⟩ ++ endRun 0 true ++
      stopRun 0).map ServiceLabel.engine
    let s := run serviceStep (initial (sharedTable 9)) labels
    Along serviceStep honest (initial (sharedTable 9)) labels ∧
      sharedTable 9 (1, 32) = some ⟨some 9, 3⟩ ∧ s.runtime.stops 0 = some .stopped ∧ s.table (1, 32) = none := by
  decide +kernel

end ExvVpn.DarwinEngine
