import ExvVpn.Lemmas.CoreSession
import ExvVpn.Theorems.CoreLate

/-!
# The end of a status stream on macOS

When a status stream ends, the projection empties the session slot if the process id there is that of its own session. Every
session with the resident service has the process id 0, and the keepalive ticker is taken without any look at its session.
-/

namespace ExvVpn.DarwinCore

open Transition CoreState

/-- In every run in which a session is set up only when no earlier projection has a reset left to do, the ends of status
streams have reset only the slot and the ticker of their own sessions. -/
theorem stream_end_resets_own_session (labels : List CoreLabel) (h : Along coreStep launchesAlone initial labels) :
    ∀ e ∈ (run coreStep initial labels).trace, e.ownReset := by
  have hstart : initial.lockView.Sound ∧ initial.OneSession := ⟨lockSound_initial, nofun, nofun, nofun, nofun⟩
  refine (invariant_of_along (I := fun s : CoreState => s.lockView.Sound ∧ s.OneSession) ?_ hstart h).2.own
  intro s label hs halone
  exact ⟨lockSound_coreStep s label hs.1, oneSession_coreStep s label hs.1 hs.2 halone⟩

/-- The stream of a session ends and its projection does all of its work. -/
def streamEnd (i : Nat) : List CoreLabel :=
  [ProjectionLabel.close, .look, .finish, .publish, .clearSlot, .abortTicker].map (.projection i)

/-- The stream of a session of the resident service ends and its projection resets it, a Connect sets up another one, and the
stream of that one ends as well: each of them has lost its own slot and ticker. -/
theorem stream_end_resets_own_session_twice :
    let labels := .connect :: acceptRun 0 true .service ++ streamEnd 0 ++
      .connect :: acceptRun 1 false .service ++ streamEnd 1
    (run coreStep initial labels).trace.count (.slotCleared ⟨1, .service⟩ ⟨1, .service⟩) = 1 ∧
      ∀ e ∈ (run coreStep initial labels).trace, e.ownReset := by
  refine ⟨by decide +kernel, stream_end_resets_own_session _ ?_⟩
  have hnone : ∀ i, (run coreStep initial (.connect :: acceptRun 0 true .service ++ streamEnd 0 ++
      .connect :: (acceptRun 1 false .service).take 3)).projections i = none := by
    rintro (_ | i) <;> rfl
  exact ⟨trivial, trivial, trivial, trivial, fun _ _ _ _ _ => nofun, trivial, trivial, trivial, trivial, trivial, trivial,
    trivial, trivial, trivial, trivial, trivial, trivial, trivial, trivial,
    fun _ _ _ i p hp => (nomatch (hnone i).symm.trans hp), trivial, trivial, trivial, trivial, trivial, trivial, trivial,
    trivial, trivial, trivial, trivial⟩

/-- The stream of a session ends, a Connect finds the session dead and sets up another one, and then the projection of
the first session goes on. -/
def replaceRun (first second : SessionKind) : List CoreLabel :=
  .connect :: acceptRun 0 true first ++
    [.projection 0 .close, .projection 0 .look, .projection 0 .finish, .projection 0 .publish] ++
    .connect :: acceptRun 1 false second ++ [.projection 0 .clearSlot, .projection 0 .abortTicker]

/-- With the resident service the newer session loses its slot and its heartbeat; with engines of their own it keeps its
slot and loses its heartbeat. -/
theorem stream_end_resets_newer_session :
    let s := run coreStep initial (replaceRun .service .service)
    let t := run coreStep initial (replaceRun (.session 7) (.session 8))
    s.trace.take 2 = [.tickerAborted ⟨0, .service⟩ 1, .slotCleared ⟨0, .service⟩ ⟨1, .service⟩] ∧
      s.session = none ∧ s.ticker = none ∧ t.trace.head? = some (.tickerAborted ⟨0, .session 7⟩ 1) ∧
      t.session = some ⟨1, .session 8⟩ ∧ t.ticker = none := by
  decide +kernel

end ExvVpn.DarwinCore
