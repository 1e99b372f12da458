import ExvVpn.Lemmas.EngineLifecycle

/-!
# A revoked assembly never connects

Once a cancel or a disconnect has taken the commit lock, the assembly that was running neither publishes Connected nor leaves
a running data plane behind; the sweeper of one generation never gets hold of a tunnel of another; and there is one assembly
and one data plane at most.
-/

namespace ExvVpn.Win32Engine

open RuntimeState Transition

/-- Whoever is inside the resources lock has a running data plane in its hands. -/
def Critical.dataPlane : Critical → Bool
  | .previous _ stage => stage.hand.any (·.dataPlane)
  | .caller _ stage => stage.hand.any (·.dataPlane)
  | .sweeper _ stage => stage.hand.any (·.dataPlane)
  | .assemble _ _ (.taken old) => old.any (·.dataPlane)
  | .assemble _ _ (.started _) => true
  | .assemble _ _ (.numbered tunnel) => tunnel.dataPlane
  | .assemble _ _ (.rejected tunnel) => tunnel.dataPlane
  | .assemble _ _ _ => false

/-- The data planes that run, in the live slot and in the hands of whoever is inside the resources lock. -/
def RuntimeState.dataPlanes (s : RuntimeState) : Nat :=
  (s.live.any (·.dataPlane)).toNat + (s.resources.any (·.dataPlane)).toNat

/-- Only one who has emptied the slot can hold a running data plane. -/
theorem emptied_of_dataPlane {critical : Critical} (h : critical.dataPlane = true) : critical.emptied = true := by
  cases critical with
  | previous n stage => cases stage <;> first | rfl | cases h
  | caller k stage => cases stage <;> first | rfl | cases h
  | sweeper g stage => cases stage <;> first | rfl | cases h
  | assemble n prepared stage => cases stage <;> first | rfl | cases h

/-- A data plane in hand means there is none in the slot. -/
theorem dataPlanes_le_one {s : RuntimeState} (h : s.lifecycleView.Sound) : s.dataPlanes ≤ 1 := by
  have hslot := Bool.toNat_le (s.live.any (·.dataPlane))
  unfold dataPlanes
  cases hres : s.resources with
  | none => simpa using hslot
  | some critical =>
    cases hplane : critical.dataPlane with
    | false => simpa [hplane] using hslot
    | true =>
      have hlive : s.live = none := h.emptied critical hres (emptied_of_dataPlane hplane)
      simp [hlive, hplane]

/-- In every state that any interleaving reaches: an assembly that was revoked before it was installed has not been
published and has no running data plane in the live slot; a sweeper holds only a tunnel of its own generation, or the
remains of an assembly that never got one; at most one assembly runs; at most one data plane runs. -/
theorem revoked_assembly_never_connects (labels : List RuntimeLabel) :
    let s := run runtimeStep initial labels
    (∀ n, s.history.revoked n = true →
      s.history.connected n = false ∧
        ∀ tunnel, s.live = some tunnel → tunnel.assembly = n → tunnel.dataPlane = false) ∧
    (∀ g tunnel, s.resources = some (.sweeper g (.taken (some tunnel))) →
      tunnel.generation = some g ∨ (tunnel.generation = none ∧ tunnel.dataPlane = false)) ∧
    (∀ m n, s.assemblies m ≠ none → s.assemblies n ≠ none → m = n) ∧
    s.dataPlanes ≤ 1 := by
  intro s
  have h : s.lifecycleView.Sound := lifecycleSound_run labels
  refine ⟨?_, ?_, ?_, dataPlanes_le_one h⟩
  · intro n hrevoked
    have hunconnected : s.history.connected n = false := h.unconnected n hrevoked
    refine ⟨hunconnected, ?_⟩
    rintro tunnel hlive rfl
    by_contra hrunning
    have hconnected := (h.live tunnel hlive).connected (by simpa using hrunning)
    exact absurd (hconnected.symm.trans hunconnected) (by decide)
  · intro g tunnel hres
    obtain ⟨hg, hhand⟩ := h.holds _ hres
    have hcurrent := hhand tunnel rfl
    rcases hcurrent.latest with hnone | hsome
    · refine .inr ⟨hnone, ?_⟩
      by_contra hrunning
      have := hcurrent.numbered (by simpa using hrunning)
      rw [hnone] at this
      cases this
    · exact .inl (hg ▸ hsome)
  · intro m n hm hn
    exact (h.running m hm).1.trans (h.running n hn).1.symm

/-- A clearing in which everything succeeds. -/
def ClearIo.succeeding : ClearIo :=
  ⟨true, true, fun _ => .removed, true, true⟩

/-- Assembly 1 is accepted and runs up to the apply of its offer. -/
def applyRun (io : ApplyIo) : List RuntimeLabel :=
  [.startApply .standard true true, .assembly 1 .check, .assembly 1 .lockPrevious, .critical .take,
    .critical (.clean .succeeding), .critical (.retry fun _ => .removed), .assembly 1 .check,
    .assembly 1 (.preflight true), .assembly 1 .check, .assembly 1 (.connect true), .assembly 1 .check,
    .assembly 1 .lockResources, .critical .check, .critical .take, .critical (.replace .succeeding .succeeding),
    .critical (.ensureNic true), .critical (.applyOffer io)]

/-- From the apply of the offer to the last step before `install_live`. -/
def startRun : List RuntimeLabel :=
  applyRun ⟨true, [.created], true, fun _ => .removed⟩ ++
    [.critical .check, .critical (.startPlane true), .critical .number]

example : (run runtimeStep initial
    (startRun ++ [.critical (.install true)])).history.connected 1 = true := by
  decide +kernel

-- A cancel after the last check and before the install is enough.
example : (run runtimeStep initial
    (startRun ++ [.cancel, .critical (.install true)])).history.revoked 1 = true := by
  decide +kernel

end ExvVpn.Win32Engine
