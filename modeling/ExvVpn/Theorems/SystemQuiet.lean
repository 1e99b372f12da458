import ExvVpn.Lemmas.SystemLink

/-!
# A confirmed Stop on macOS
-/

namespace ExvVpn.Darwin

open SystemState SystemLinkAux

open DarwinCore (ConnectLabel StopLabel)
open DarwinEngine (AttemptLabel)
open Transition

/-- The user connects: Connect call `c` runs until the engine has taken its operation. -/
def connectRun (c : Nat) : List SystemLabel :=
  .core .connect :: [ConnectLabel.takeLock, .checkGeneration ⟨true, 0⟩, .reuse true, .launch (some (.session 7)),
    .attach true, .recheck].map (fun label => .core (.connectCall c label)) ++ [.sendApply c, .handleApply, .replyApply]

/-- An attempt connects and starts its pumps. -/
def startRun (n : Nat) : List SystemLabel :=
  [AttemptLabel.fetchFlag, .controlRoute ⟨1, 32, 2, 3⟩ ⟨true, .absent, .added, .absent, true, true⟩, .establish true,
    .startPipeline, .acquire true, .address true, .startPumps].map (.attempt n)

/-- The user stops: Stop call `k` runs until the engine has set the cancel flag. -/
def requestStopRun (k : Nat) : List SystemLabel :=
  .core .stop :: [StopLabel.takeLock, .checkGeneration true, .attach true].map (fun label => .core (.stopCall k label)) ++
    [.sendStop (.call k), .engineStop .cancel]

/-- An attempt sees that it is cancelled and tears its tunnel down. -/
def teardownRun (n : Nat) : List SystemLabel :=
  [AttemptLabel.hold, .stopHolding false, .keepDevice true, .cleanup fun _ => true, .clearLive, .clearSlot,
    .finish].map (.attempt n)

/-- The engine replies `Stopped`, and the Stop call returns. -/
def returnRun (k : Nat) : List SystemLabel :=
  [DarwinEngine.StopLabel.readSlot, .readLive, .clean fun _ => true, .reply].map .engineStop ++
    [.replyStop, .core (.stopCall k .publishIdle), .core (.stopCall k .finish)]

/-- In every run of core and engine in which no apply reaches the engine while a task is going to clear the slot a second time:
whoever has a call with the engine holds the session lock, at most one attempt is active, and from the answer `Stopped` until
the Stop call returns the engine runs no attempt and its ledger is empty. -/
theorem confirmed_stop_settled (labels : List SystemLabel) (h : Along systemStep keepsEngine initial labels) :
    let s := run systemStep initial labels
    (∀ r, s.rpc = some r → s.core.lock = some r.actor) ∧
      (∀ n m pc pc', s.engine.attempts n = some pc → s.engine.attempts m = some pc' → pc.active = true → pc'.active = true →
        n = m) ∧
      ∀ k call, s.core.stops k = some call → call.pc.confirmed = true → s.engine.Settled := by
  intro s
  have hs : Linked s := invariant_of_along linked_systemStep linked_initial h
  refine ⟨fun r hr => lock_of_held hs.lock (hs.held r hr), fun n m pc pc' hn hm hpc hpc' => ?_, hs.confirmed⟩
  exact Option.some.inj ((hs.slot.owner n pc hn hpc).symm.trans (hs.slot.owner m pc' hm hpc'))

/-- A stop that the engine has confirmed. -/
theorem confirmed_stop_settled_idle :
    (run systemStep initial (connectRun 0 ++ startRun 0 ++ requestStopRun 0 ++ teardownRun 0 ++
      (returnRun 0).take 5)).engine.Settled :=
  (confirmed_stop_settled _ (by decide +kernel)).2.2 0 _ rfl rfl

end ExvVpn.Darwin
