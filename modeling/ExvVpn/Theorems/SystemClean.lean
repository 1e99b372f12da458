import ExvVpn.Lemmas.SystemClean
import ExvVpn.Theorems.SystemQuiet

/-!
# `FailedClean` means clean on macOS

After a lost session the engine keeps its utun device and its route to the server for the reconnect. A reconnect that gives up
sends `StopTunnel` and publishes `FailedClean` after `Stopped`; but one that fails before the engine has taken it is published
as `FailedClean` at once, and what the engine kept stays.
-/

namespace ExvVpn.Darwin

open SystemState

open DarwinCore (ConnectLabel ProjectionLabel WorkerLabel Promised)
open DarwinEngine (AttemptLabel ResourceLedger)
open Transition

/-- In every run of core and engine in which the engine lives (a session that is there is alive, no status stream ends),
a failed reconnect is concluded in its generation only when the engine holds nothing, and the engine accepts no apply
while somebody is going to publish `FailedClean` or a task is going to clear the slot a second time: when a step
publishes `FailedClean`, no attempt is active and the ledger of the engine is empty. -/
theorem failed_clean_means_clean (labels : List SystemLabel) (label : SystemLabel)
    (h : Along systemStep keepsClean initial labels)
    (hlabel : keepsClean (run systemStep initial labels) label) :
    let s := run systemStep initial labels
    let t := systemStep s label
    Promised ((∀ n pc, t.engine.attempts n = some pc → pc.active = false) ∧ t.engine.ledger = ResourceLedger.empty)
      s.core.trace t.core.trace := by
  intro s t fresh hfresh e he hclean
  have hs : CleanSystem s := invariant_of_along cleanSystem_systemStep
    ⟨linked_initial, nofun, fun _ => DarwinEngine.settled_initial, nofun, nofun, nofun⟩ h
  have hsettled := promised_systemStep hs hlabel fresh hfresh e he hclean
  exact ⟨hsettled.idle, hsettled.clean⟩

/-- An attempt fails to log in, and the route to the server is not removed. -/
def failRun (n : Nat) : List SystemLabel :=
  [AttemptLabel.fetchFlag, .controlRoute ⟨1, 32, 2, 3⟩ ⟨true, .absent, .added, .absent, true, true⟩, .establish false,
    .cleanup fun _ => false].map (.attempt n) ++ [.emit n (.error false), .attempt n .clearSlot]

/-- The projection reads the error and has the engine clean up. -/
def cleanRun (i : Nat) : List SystemLabel :=
  .deliver i :: [ProjectionLabel.finish, .publish, .takeLock true].map (fun label => .core (.projection i label)) ++
    [.sendStop (.projection i)] ++
    [DarwinEngine.StopLabel.cancel, .readSlot, .readLive, .clean fun _ => true, .reply].map .engineStop ++ [.replyStop]

/-- A login fails and leaves a route; the projection publishes `FailedClean` after `Stopped`, and the ledger is empty. -/
theorem failed_clean_means_clean_login :
    (run systemStep initial (connectRun 0 ++ failRun 0)).engine.ledger ≠ .empty ∧
      (run systemStep initial
        (connectRun 0 ++ failRun 0 ++ cleanRun 0 ++ [.core (.projection 0 .publish)])).engine.ledger = .empty :=
  ⟨by decide +kernel, (failed_clean_means_clean (connectRun 0 ++ failRun 0 ++ cleanRun 0) (.core (.projection 0 .publish))
    (by decide +kernel) (by decide +kernel) [.published (.projection 0) ⟨.failedClean, some (.connect 0)⟩]
    (by decide +kernel) _ List.mem_cons_self rfl).2⟩

/-- The session of a tunnel is lost; the engine keeps the device and tells the core. -/
def loseRun (n : Nat) : List SystemLabel :=
  [AttemptLabel.hold, .stopHolding true, .keepDevice true, .retain, .clearLive, .clearSlot, .finish].map (.attempt n) ++
    [.emit n (.error true), .attempt n .clearSlot]

/-- The projection signals the reconnect worker, which dispatches a reconnect. -/
def redialRun (i : Nat) : List SystemLabel :=
  .deliver i :: [ProjectionLabel.finish, .publish, .signal].map (fun label => .core (.projection i label)) ++
    [WorkerLabel.receive, .check, .load, .readPolicy, .look true false, .spend, .dispatch].map
      (fun label => .core (.worker label))

/-- A session is lost, and the reconnect finds no credentials. `FailedClean` is published while no attempt is there and
the engine keeps the device and the route to the server. -/
theorem failed_clean_with_device :
    let s := run systemStep initial
      (connectRun 0 ++ startRun 0 ++ [.emit 0 .connected, .deliver 0, .core (.projection 0 .publish)] ++ loseRun 0 ++
        redialRun 0 ++ [.core (.connectCall 1 .refuse), .core (.worker .conclude), .core (.worker .publish)])
    s.core.trace.head? = some (.published .worker ⟨.failedClean, some (.connect 1)⟩) ∧
      s.engine.slot = none ∧ s.engine.accepted = 1 ∧ s.engine.attempts 0 = none ∧
      s.engine.ledger = ⟨some ⟨1, 32, 2, 3⟩, true, []⟩ := by
  decide +kernel

end ExvVpn.Darwin
