import ExvVpn.Lemmas.CoreOrder
import ExvVpn.Theorems.CoreLate

/-!
# Stop is not overtaken on macOS

A Connect, a reconnect and a Stop each carry a generation. `ApplyTunnel` and `StopTunnel` are sent under the session
lock, and a Connect call looks at the generation again right before it sends.
-/

namespace ExvVpn.DarwinCore

open Transition CoreState

/-- In every run: an `ApplyTunnel` is sent only if no Stop or Connect call of a newer generation has had the session lock
before; and when a Stop call of a live session returns, it has sent `StopTunnel` since it took the lock and nobody has
sent `ApplyTunnel` since, so every `ApplyTunnel` before its return comes before its `StopTunnel`. -/
theorem stop_not_overtaken (labels : List CoreLabel) (later before : List Entry) (e : Entry)
    (htrace : (run coreStep initial labels).trace = later ++ e :: before) :
    (∀ c generation trigger, e = .applyTunnel c generation trigger →
      ∀ actor newer, .lockTaken actor newer ∈ before → newer ≤ generation) ∧
    ∀ k, e = .stopReturned k →
      ∃ since old generation, before = since ++ .lockTaken (.stop k) generation :: old ∧
        .stopTunnel (.stop k) ∈ since ∧ ∀ x ∈ since, x.isApply = false := by
  have hs := orderSound_of_run labels
  have heach : History.Each Ordered (later ++ e :: before) := htrace ▸ hs.each
  have hfit : Ordered before e := heach.at_split
  constructor
  · rintro c generation trigger rfl
    exact hfit
  · rintro k rfl
    obtain ⟨since, old, generation, hsplit, htold, hno⟩ := hfit
    exact ⟨since, old, generation, hsplit, htold rfl, hno⟩

/-- The user stops a tunnel that has just been asked for: the last entry is the return of the Stop call. -/
theorem stop_not_overtaken_stopped :
    ∃ since old generation, (run coreStep initial (connectRun 0 ++ stopRun 0)).trace.drop 1 =
      since ++ .lockTaken (.stop 0) generation :: old ∧ .stopTunnel (.stop 0) ∈ since ∧
        ∀ x ∈ since, x.isApply = false :=
  (stop_not_overtaken (connectRun 0 ++ stopRun 0) [] _ (.stopReturned 0) (by decide +kernel)).2 0 rfl

/-- The worker compares its signal with the generation and then starts; a Stop call arrives in between. -/
def lateStartRun : List CoreLabel :=
  connectRun 0 ++ [.projection 0 (.message 0 .connected), .projection 0 .publish] ++ dropRun 0 ++
    [.worker .receive, .worker .check, .stop, .worker .load, .worker .readPolicy] ++ (stopRun 0).tail ++
    [.worker (.look true false), .worker .spend, .worker .dispatch] ++ acceptRun 1 true (.session 7)

-- What the theorem does not say: `drive_reconnect` reads the generation again after the worker has compared its signal
-- with it, so a reconnect can carry the generation of a Stop call that came in between, and be sent after it.
example : (run coreStep initial lateStartRun).trace.take 6 =
    [.published (.connect 1) ⟨.connecting, some (.connect 1)⟩, .accepted 1, .applyTunnel 1 2 (some 0),
      .lockTaken (.connect 1) 2, .stopReturned 0, .finished (.stop 0)] := by
  decide +kernel

end ExvVpn.DarwinCore
