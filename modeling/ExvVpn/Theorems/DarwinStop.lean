import ExvVpn.Lemmas.DarwinStop

/-!
# Stopped means stopped on macOS

What `Stopped` promises rests on this: a task clears only the slot it has claimed itself, so the slot tells whether an attempt
is active. The engine keeps this except for two windows. After a lost session the slot is cleared twice, by the pipeline and
by the task that waits for it, and an apply accepted in between loses its slot. And a stop that has found the slot empty does
not claim it.
-/

namespace ExvVpn.DarwinEngine

open Transition EngineState ResourceLedger

/-- In every run in which no apply is accepted in one of the two windows: no task has cleared a slot that another
attempt had claimed, at most one attempt is active, and when a stop replies `Stopped` no attempt is active and the
ledger is empty. -/
theorem stopped_means_stopped (labels : List EngineLabel) (h : Along engineStep keepsSlot initial labels) :
    let s := run engineStep initial labels
    s.foreignClear = false ∧
    (∀ m n p q, s.attempts m = some p → s.attempts n = some q → p.active = true → q.active = true → m = n) ∧
    (∀ k, s.stops k = some .stopped →
      (∀ n pc, s.attempts n = some pc → pc.active = false) ∧ s.ledger = empty) := by
  intro s
  have hs : s.slotView.Sound := invariant_of_along slotSound_engineStep slotSound_initial h
  refine ⟨hs.own, ?_, ?_⟩
  · intro m n p q hm hn hp hq
    have hslotm : s.slot = some m := hs.owner m p hm hp
    have hslotn : s.slot = some n := hs.owner n q hn hq
    exact Option.some.inj (hslotm.symm.trans hslotn)
  · intro k hk
    have hempty : s.slot = none := hs.quiet k .stopped hk rfl
    refine ⟨?_, hs.clean k hk⟩
    intro n pc hn
    by_contra hactive
    have hslot : s.slot = some n := hs.owner n pc hn (by simpa using hactive)
    rw [hempty] at hslot
    cases hslot

/-- An attempt connects, up to the device of its tunnel. -/
def acquireRun (n : Nat) : List EngineLabel :=
  [.applyTunnel, .attempt n .fetchFlag,
    .attempt n (.controlRoute ⟨1, 32, 2, 3⟩ ⟨true, .absent, .added, .absent, true, true⟩),
    .attempt n (.establish true), .attempt n .startPipeline, .attempt n (.acquire true)]

/-- An attempt connects and holds its tunnel. -/
def holdRun (n : Nat) : List EngineLabel :=
  acquireRun n ++ [.attempt n .startPumps, .attempt n .hold]

/-- A stop looks at the slot and the live marker, finds both empty and cleans up. -/
def settleRun (k : Nat) : List EngineLabel :=
  [.stop k .readSlot, .stop k .readLive, .stop k (.clean fun _ => true)]

/-- A held tunnel is stopped: the ledger, which held the control route, is empty at the reply. -/
theorem stopped_means_stopped_held :
    (run engineStep initial
      (holdRun 0 ++ [.stopTunnel, .stop 0 .cancel, .attempt 0 (.stopHolding false), .attempt 0 (.keepDevice true),
        .attempt 0 (.cleanup fun _ => false), .attempt 0 .clearLive, .attempt 0 .clearSlot] ++
        settleRun 0)).ledger = empty :=
  ((stopped_means_stopped _ (by simp [Along, holdRun, acquireRun, settleRun, keepsSlot, initial])).2.2 0
    (by decide +kernel)).2

/-- All three parts fail at once: the session of attempt 0 is lost, attempt 1 is accepted before the task of attempt 0
clears the slot again, and then a stop is about to reply `Stopped` while the pipeline of attempt 1 runs and attempt 2
is accepted beside it. -/
theorem stopped_while_pipeline_runs :
    let s := run engineStep initial
      (holdRun 0 ++ [.attempt 0 (.stopHolding true), .attempt 0 (.keepDevice true), .attempt 0 .retain,
        .attempt 0 .clearLive, .attempt 0 .clearSlot, .attempt 0 .finish] ++ acquireRun 1 ++
        [.attempt 0 .clearSlot, .stopTunnel, .stop 0 .cancel] ++ settleRun 0 ++ [.applyTunnel])
    s.foreignClear = true ∧ s.stops 0 = some .stopped ∧ s.attempts 1 = some (.applying (some 1) []) ∧
      s.attempts 2 = some .claimed := by
  decide +kernel

end ExvVpn.DarwinEngine
