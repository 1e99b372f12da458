import ExvVpn.Lemmas.CoreLate

/-!
# Late events of an older operation on macOS

Every operation has its own status projection, and all projections share one `LiveStatsState`; the comment at its reset says
that the tasks of an older operation hold that operation's. So an error that is read late finds the newer operation live,
finishes it and signals the reconnect worker, and a late phase replaces the snapshot of the newer operation.
-/

namespace ExvVpn.DarwinCore

open Transition CoreState

/-- In every run in which the events of an operation are read and dealt with before a newer operation is accepted:
whatever an event of an operation leads to (a snapshot, the end of the live operation, a `StopTunnel`, a signal to the
reconnect worker, the `ApplyTunnel` of a reconnect) comes while that operation is the one accepted last. -/
theorem late_events_harmless (labels : List CoreLabel)
    (h : Along coreStep keepsEvents initial labels) (later before : List Entry) (e : Entry)
    (htrace : (run coreStep initial labels).trace = later ++ e :: before) (i : Nat)
    (hevent : e.eventOf = some i) : newest before = some i := by
  have hs := invariant_of_along (I := fun s : CoreState => s.lockView.Sound ∧ s.lateView.Sound)
    (fun s label hs hguard => ⟨lockSound_coreStep s label hs.1, lateSound_coreStep s label hs.2 hs.1 hguard⟩)
    ⟨lockSound_initial, trivial, nofun, nofun, nofun, nofun, nofun, nofun⟩ h
  have heach : History.Each Timely (later ++ e :: before) := htrace ▸ hs.2.each
  exact heach.at_split i hevent

/-- A Connect call runs until the engine has taken its operation, over the session in the slot if that is alive and over
a new one otherwise. -/
def acceptRun (c : Nat) (alive : Bool) (kind : SessionKind) : List CoreLabel :=
  [ConnectLabel.takeLock, .checkGeneration ⟨true, 0⟩, .reuse alive, .launch (some kind), .attach true, .recheck, .apply,
    .reply true].map (.connectCall c)

/-- The user connects. -/
def connectRun (c : Nat) : List CoreLabel := .connect :: acceptRun c true (.session 7)

/-- The user stops, and the engine replies `Stopped`. -/
def stopRun (k : Nat) : List CoreLabel :=
  .stop :: [StopLabel.takeLock, .checkGeneration true, .attach true, .send, .reply true, .publishIdle, .finish].map
    (.stopCall k)

/-- A projection reads an error that asks for a reconnect. -/
def dropRun (i : Nat) : List CoreLabel :=
  [ProjectionLabel.message i (.error true), .finish, .publish, .signal].map (.projection i)

/-- The worker takes a signal and dispatches a reconnect. -/
def reconnectRun : List CoreLabel :=
  [WorkerLabel.receive, .check, .load, .readPolicy, .look true false, .spend, .dispatch].map .worker

/-- A tunnel comes up and is lost, and its operation is replaced by a reconnect. -/
def restoreRun : List CoreLabel :=
  connectRun 0 ++ [.projection 0 (.message 0 .connected), .projection 0 .publish] ++ dropRun 0 ++ reconnectRun ++
    acceptRun 1 true (.session 7)

/-- The `ApplyTunnel` of a reconnect is sent while the operation that was lost is the one accepted last. -/
theorem late_events_harmless_restored : newest ((run coreStep initial restoreRun).trace.drop 3) = some 0 :=
  late_events_harmless restoreRun
    (by decide +kernel)
    ((run coreStep initial restoreRun).trace.take 2) _ (.applyTunnel 1 1 (some 0)) (by decide +kernel) 0 rfl

/-- A tunnel is lost while the user stops it; the error is read after the next operation is connected. It finishes that
operation, publishes a snapshot of the old one and signals a reconnect. -/
theorem late_error_ends_newer_operation :
    let s := run coreStep initial
      (connectRun 0 ++ stopRun 0 ++ connectRun 1 ++ [.projection 1 (.message 1 .connected), .projection 1 .publish] ++
        dropRun 0)
    s.stats.live = false ∧ s.signals = [⟨3, some 0⟩] ∧ newest (s.trace.drop 3) = some 1 ∧
      s.trace.take 3 = [.signalled (.projection 0), .published (.projection 0) ⟨.stopping, some (.connect 0)⟩,
        .finished (.projection 0)] := by
  decide +kernel

end ExvVpn.DarwinCore
