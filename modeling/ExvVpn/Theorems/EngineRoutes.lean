import ExvVpn.Lemmas.EngineRoutes
import ExvVpn.Theorems.EngineLifecycle

/-!
# No created route is forgotten

A row that the engine created and has not removed is held by the live tunnel's route owner, by the list of pending routes or
by the thread at work on it. There are two exceptions. A removal answered with code 87 gives the row up, since somebody else
has changed it. And `teardown` takes the NIC after it has given the resources lock back, and so from under an assembly that
was accepted in between.
-/

namespace ExvVpn.Win32Engine

open Transition RuntimeState OwnedRoute

/-- In every run in which no removal is answered with code 87 and no `teardown` closes the NIC between the apply of an
assembly and the start of its data plane, every row that was created and whose removal has not succeeded is held. -/
theorem created_row_has_owner (labels : List RuntimeLabel)
    (h : Along runtimeStep keepsRoutes initial labels) :
    ∀ row ∈ (run runtimeStep initial labels).history.outstanding,
      row ∈ (run runtimeStep initial labels).heldRows := by
  intro row hrow
  have hs := invariant_of_along (I := fun s : RuntimeState => s.lifecycleView.Sound ∧ s.routesView.Sound)
    (fun s label hs hguard =>
      ⟨lifecycleSound_runtimeStep s label hs.1, routesSound_runtimeStep s label hs.1 hs.2 hguard⟩)
    ⟨lifecycleSound_run [], by rintro _ ⟨⟩, by rintro _ _ ⟨⟩, by rintro _ ⟨⟩⟩ h
  have howned := hs.2.owned row hrow
  simp only [heldRows, List.mem_append]
  rcases howned with hlive | hpending | hcritical
  · exact .inl (.inl hlive)
  · exact .inl (.inr hpending)
  · exact .inr hcritical

/-- The apply fails after one row was created, and the rollback cannot remove it: the row is on the pending list. -/
theorem created_row_has_owner_pending :
    effective 0 ∈ (run runtimeStep initial
      (applyRun ⟨true, [.created, .failed], true, fun _ => .failed⟩ ++ [.critical .closeNic,
        .critical .recordPending])).heldRows :=
  created_row_has_owner _ (by simp [Along, applyRun, keepsRoutes, ClearIo.succeeding]) _ (by decide +kernel)

/-- A `teardown` is done with its disconnect and has not taken the NIC yet. -/
def teardownRun : List RuntimeLabel :=
  [.disconnect true, .call 0 .lock, .critical .take, .critical (.clean .succeeding), .critical (.retry fun _ => .removed)]

/-- A row is lost though no removal failed: an apply is accepted after the disconnect of a `teardown`, creates a row,
and finds the NIC gone when it starts the data plane. The panic drops the route owner. -/
theorem row_lost_to_teardown :
    effective 0 ∈ (run runtimeStep initial
      (teardownRun ++ applyRun ⟨true, [.created], true, fun _ => .removed⟩ ++ [.critical .check, .call 0 .closeNic,
        .critical (.startPlane true)])).history.outstanding ∧
    effective 0 ∉ (run runtimeStep initial
      (teardownRun ++ applyRun ⟨true, [.created], true, fun _ => .removed⟩ ++ [.critical .check, .call 0 .closeNic,
        .critical (.startPlane true)])).heldRows := by
  decide +kernel

end ExvVpn.Win32Engine
