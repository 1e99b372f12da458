import ExvVpn.Tools.Transition
import ExvVpn.Win32Engine.TunnelRuntime

/-!
# Assemblies, cancels and tunnels over a run

What holds between the assembly that runs, the cancel flag, the live slot and the tunnel in the hands of whoever is inside the
resources lock. Each step is composed of a few changes to this part of the state, and each change keeps the invariant.
-/

namespace ExvVpn.Win32Engine

open Function RuntimeState

/-! ## The invariant -/

/-- The tunnel a taker holds. -/
def CleanStage.hand : CleanStage → Option LiveTunnel
  | .taken tunnel => tunnel
  | _ => none

/-- The live slot was emptied at this stage and has not been filled since. -/
def CleanStage.emptied : CleanStage → Bool
  | .locked => false
  | _ => true

/-- The old tunnel the assembly holds. -/
def AssembleStage.old : AssembleStage → Option LiveTunnel
  | .taken old => old
  | _ => none

/-- The new tunnel the assembly holds. -/
def AssembleStage.built : AssembleStage → Option LiveTunnel
  | .numbered tunnel => some tunnel
  | .rejected tunnel => some tunnel
  | _ => none

/-- The live slot was emptied at this stage and has not been filled since. -/
def AssembleStage.emptied : AssembleStage → Bool
  | .locked => false
  | .granted => false
  | _ => true

/-- Whoever is inside has emptied the live slot. -/
def Critical.emptied : Critical → Bool
  | .previous _ stage => stage.emptied
  | .caller _ stage => stage.emptied
  | .sweeper _ stage => stage.emptied
  | .assemble _ _ stage => stage.emptied

/-- No generation was assigned after the tunnel's own, if it has one. -/
def LiveTunnel.Latest (generation : Nat) (tunnel : LiveTunnel) : Prop :=
  tunnel.generation = none ∨ tunnel.generation = some generation

/-- A tunnel of the slot: a running data plane has a generation and was published as connected. -/
structure LiveTunnel.Current (generation : Nat) (connected : Nat → Bool) (tunnel : LiveTunnel) : Prop where
  latest : tunnel.Latest generation
  numbered : tunnel.dataPlane = true → tunnel.generation = some generation
  connected : tunnel.dataPlane = true → connected tunnel.assembly = true

/-- The thread of an assembly is where its part of the resources lock is. -/
def Critical.Placed (assemblies : Nat → Option AssemblyPc) : Critical → Prop
  | .previous n _ => assemblies n = some .clearing
  | .assemble n _ _ => assemblies n = some .applying
  | .caller _ _ => True
  | .sweeper _ _ => True

/-- What whoever is inside holds: a tunnel taken from the slot, or one the assembly has built. -/
def Critical.Holds (generation : Nat) (connected : Nat → Bool) : Critical → Prop
  | .previous _ stage => ∀ tunnel, stage.hand = some tunnel → tunnel.Current generation connected
  | .caller _ stage => ∀ tunnel, stage.hand = some tunnel → tunnel.Current generation connected
  | .sweeper g stage => g = generation ∧ ∀ tunnel, stage.hand = some tunnel → tunnel.Current generation connected
  | .assemble n _ stage =>
    (∀ tunnel, stage.old = some tunnel → tunnel.Current generation connected) ∧
      ∀ tunnel, stage.built = some tunnel → tunnel.assembly = n ∧ tunnel.generation = some generation

/-- The part of the state in which assemblies and cancels meet. -/
structure LifecycleView where
  live : Option LiveTunnel
  resources : Option Critical
  assembling : Bool
  cancelFlag : Bool
  generation : Nat
  accepted : Nat
  assemblies : Nat → Option AssemblyPc
  connected : Nat → Bool
  revoked : Nat → Bool

def RuntimeState.lifecycleView (s : RuntimeState) : LifecycleView :=
  ⟨s.live, s.resources, s.assembling, s.cancelFlag, s.generation, s.accepted, s.assemblies, s.history.connected,
    s.history.revoked⟩

/-- The assembly, the flag, the slot and the resources lock agree. -/
structure LifecycleView.Sound (v : LifecycleView) : Prop where
  running : ∀ n, v.assemblies n ≠ none → n = v.accepted ∧ v.assembling = true
  placed : ∀ critical, v.resources = some critical → critical.Placed v.assemblies
  holds : ∀ critical, v.resources = some critical → critical.Holds v.generation v.connected
  emptied : ∀ critical, v.resources = some critical → critical.emptied = true → v.live = none
  live : ∀ tunnel, v.live = some tunnel → tunnel.Current v.generation v.connected
  unconnected : ∀ n, v.revoked n = true → v.connected n = false
  revoked_le : ∀ n, v.revoked n = true → n ≤ v.accepted
  /-- Only an accepted apply takes the flag back, and none is accepted while a revoked assembly runs. -/
  flagged : ∀ n, v.revoked n = true → v.assemblies n ≠ none → v.cancelFlag = true

variable {tunnel : LiveTunnel} {stage : CleanStage}

namespace LifecycleAux

variable {v : LifecycleView} {n : Nat}

/-! ## Changes that keep it -/

/-- An assembly that is not in a part of the resources lock can move. -/
theorem placed_update {critical : Critical} (h : critical.Placed v.assemblies) (hc : v.assemblies n ≠ some .clearing)
    (ha : v.assemblies n ≠ some .applying) (pc : Option AssemblyPc) :
    critical.Placed (update v.assemblies n pc) := by
  cases critical with
  | previous m stage =>
    have hmn : m ≠ n := by
      rintro rfl
      exact hc h
    simpa [Critical.Placed, update_of_ne hmn] using h
  | assemble m prepared stage =>
    have hmn : m ≠ n := by
      rintro rfl
      exact ha h
    simpa [Critical.Placed, update_of_ne hmn] using h
  | caller | sweeper => trivial

section

variable (h : v.Sound)
include h

/-- The resources lock passes to a place that fits the rest. -/
theorem sound_inside {critical : Critical} (hplaced : critical.Placed v.assemblies)
    (hholds : critical.Holds v.generation v.connected) (hemptied : critical.emptied = true → v.live = none) :
    LifecycleView.Sound { v with resources := some critical } where
  __ := h
  placed := by
    rintro _ ⟨⟩
    exact hplaced
  holds := by
    rintro _ ⟨⟩
    exact hholds
  emptied := by
    rintro _ ⟨⟩
    exact hemptied

/-- The resources lock is given back. -/
theorem sound_leave : LifecycleView.Sound { v with resources := none } where
  __ := h
  placed := nofun
  holds := nofun
  emptied := nofun

/-- The live slot is filled while nobody is inside. -/
theorem sound_fill (hfree : v.resources = none)
    (ht : tunnel.Current v.generation v.connected) : LifecycleView.Sound { v with live := some tunnel } where
  __ := h
  emptied := by
    intro critical hc
    rw [show v.resources = some critical from hc] at hfree
    cases hfree
  live := by
    rintro _ ⟨⟩
    exact ht

/-- The live slot is emptied. -/
theorem sound_empty : LifecycleView.Sound { v with live := none } where
  __ := h
  emptied := fun _ _ _ => rfl
  live := nofun

/-- A running assembly moves while the resources lock is not its own. -/
theorem sound_walk (hn : v.assemblies n ≠ none) (pc : AssemblyPc)
    (hother : ∀ critical, v.resources = some critical → critical.Placed (update v.assemblies n (some pc))) :
    LifecycleView.Sound { v with assemblies := update v.assemblies n (some pc) } where
  __ := h
  running := (forall_update_iff _ fun m pc => pc ≠ none → m = v.accepted ∧ v.assembling = true).mpr
    ⟨fun _ => h.running n hn, fun m _ => h.running m⟩
  placed := hother
  flagged := (forall_update_iff _ fun m pc => v.revoked m = true → pc ≠ none → v.cancelFlag = true).mpr
    ⟨fun hr _ => h.flagged n hr hn, fun m _ => h.flagged m⟩

/-- A running assembly moves and gives the resources lock back. -/
theorem sound_return (hn : v.assemblies n ≠ none) (pc : AssemblyPc) :
    LifecycleView.Sound { v with resources := none, assemblies := update v.assemblies n (some pc) } :=
  sound_walk (sound_leave h) hn pc nofun

/-- The thread of an assembly ends, and the runtime is free for another. -/
theorem sound_finish (hn : v.assemblies n = some .ended) :
    LifecycleView.Sound { v with assembling := false, assemblies := update v.assemblies n none } := by
  have hnone : ∀ m, update v.assemblies n none m = none := by
    refine (forall_update_iff _ fun _ pc => pc = none).mpr ⟨rfl, fun m hmn => ?_⟩
    by_contra hm
    have hm' := (h.running m hm).1
    have hn' := (h.running n (by simp [hn])).1
    exact hmn (hm'.trans hn'.symm)
  exact
    { h with
      running := fun m hm => absurd (hnone m) hm
      placed := fun critical hc => placed_update (h.placed critical hc) (by simp [hn]) (by simp [hn]) none
      flagged := fun m _ hm => absurd (hnone m) hm }

/-- No assembly runs while the flag says so. -/
theorem idle_of_not_assembling (hidle : v.assembling = false) (m : Nat) : v.assemblies m = none := by
  by_contra hm
  have := (h.running m hm).2
  rw [hidle] at this
  cases this

/-- An apply is accepted: the new assembly has a number that was never revoked. -/
theorem sound_accept (hidle : v.assembling = false) :
    LifecycleView.Sound { v with
      assembling := true
      cancelFlag := false
      accepted := v.accepted + 1
      assemblies := update v.assemblies (v.accepted + 1) (some .entered) } := by
  have hnone := idle_of_not_assembling h hidle
  have hnew : ∀ m, update v.assemblies (v.accepted + 1) (some AssemblyPc.entered) m ≠ none →
      m = v.accepted + 1 := by
    intro m hm
    by_contra hne
    exact hm (by rw [update_of_ne hne, hnone])
  exact
    { h with
      running := fun m hm => ⟨hnew m hm, rfl⟩
      placed := fun critical hc => placed_update (h.placed critical hc) (by simp [hnone]) (by simp [hnone]) _
      revoked_le := fun m hr => Nat.le_succ_of_le (h.revoked_le m hr)
      flagged := by
        intro m hr hm
        have hle := h.revoked_le m hr
        rw [hnew m hm] at hle
        omega }

/-- A cancel or a disconnect takes the commit lock. -/
theorem sound_revoke :
    LifecycleView.Sound { v with
      cancelFlag := true
      revoked := fun m => v.revoked m || ((v.assemblies m).isSome && !v.connected m) } := by
  refine { h with unconnected := ?_, revoked_le := ?_, flagged := fun _ _ _ => rfl }
  · intro m hm
    rcases Bool.or_eq_true_iff.mp hm with hr | hr
    · exact h.unconnected m hr
    · simpa using (Bool.and_eq_true_iff.mp hr).2
  · intro m hm
    rcases Bool.or_eq_true_iff.mp hm with hr | hr
    · exact h.revoked_le m hr
    · have hsome := (Bool.and_eq_true_iff.mp hr).1
      exact Nat.le_of_eq (h.running m (Option.isSome_iff_ne_none.mp hsome)).1

/-- The assembly inside the lock assigns the next generation to the tunnel it has built. -/
theorem sound_number (hempty : v.live = none) {prepared : Bool}
    (hn : v.assemblies n = some .applying) (hassembly : tunnel.assembly = n)
    (hgeneration : tunnel.generation = some (v.generation + 1)) :
    LifecycleView.Sound { v with
      generation := v.generation + 1
      resources := some (.assemble n prepared (.numbered tunnel)) } where
  __ := h
  placed := by
    rintro _ ⟨⟩
    exact hn
  holds := by
    rintro _ ⟨⟩
    refine ⟨nofun, ?_⟩
    rintro _ ⟨⟩
    exact ⟨hassembly, hgeneration⟩
  emptied := fun _ _ _ => hempty
  live := by
    intro tunnel ht
    rw [show v.live = some tunnel from ht] at hempty
    cases hempty

/-- The tunnel of an assembly goes into the slot and is published: the flag is clear, so nobody has revoked it. -/
theorem sound_connect (hn : v.assemblies n ≠ none) (hflag : v.cancelFlag = false)
    (hassembly : tunnel.assembly = n) (hgeneration : tunnel.generation = some v.generation) :
    LifecycleView.Sound { v with
      live := some tunnel
      resources := none
      connected := update v.connected n true } where
  __ := h
  placed := nofun
  holds := nofun
  emptied := nofun
  live := by
    rintro _ ⟨⟩
    refine ⟨.inr hgeneration, fun _ => hgeneration, fun _ => ?_⟩
    rw [hassembly]
    exact update_self n true v.connected
  unconnected := by
    intro m hr
    have hmn : m ≠ n := by
      rintro rfl
      have := h.flagged m hr hn
      rw [hflag] at this
      cases this
    simpa [update_of_ne hmn] using h.unconnected m hr

/-! ## Operations -/

end

variable {s : RuntimeState}

/-- `disconnect_for` stops the data plane whatever happens to the routes, and leaves the generation. -/
theorem disconnectFor_stops (tunnel : LiveTunnel) (io : ClearIo) :
    (tunnel.disconnectFor io).1.dataPlane = false ∧ (tunnel.disconnectFor io).1.generation = tunnel.generation := by
  unfold LiveTunnel.disconnectFor
  cases tunnel.route with
  | none => exact ⟨rfl, rfl⟩
  | some owner =>
    simp only
    split <;> exact ⟨rfl, rfl⟩

/-- Cleaning a tunnel empties nothing but the hand, or leaves a stopped tunnel in the slot. -/
theorem cleanupOrRetain_view (s : RuntimeState) (tunnel : LiveTunnel) (io : ClearIo) :
    ((s.cleanupOrRetain tunnel io).2 = true ∧ (s.cleanupOrRetain tunnel io).1.lifecycleView = s.lifecycleView) ∨
      ((s.cleanupOrRetain tunnel io).2 = false ∧
        ∃ left : LiveTunnel, (left.dataPlane = false ∧ left.generation = tunnel.generation) ∧
          (s.cleanupOrRetain tunnel io).1.lifecycleView = { s.lifecycleView with live := some left }) := by
  unfold cleanupOrRetain
  have hstops := disconnectFor_stops tunnel io
  generalize tunnel.disconnectFor io = result at hstops ⊢
  obtain ⟨left, cleared⟩ := result
  cases cleared with
  | true => exact .inl ⟨rfl, rfl⟩
  | false => exact .inr ⟨rfl, left, hstops, rfl⟩

@[simp]
theorem cleanupOrRetain_assemblies (s : RuntimeState) (tunnel : LiveTunnel) (io : ClearIo) :
    (s.cleanupOrRetain tunnel io).1.lifecycleView.assemblies = s.assemblies := by
  rcases cleanupOrRetain_view s tunnel io with ⟨-, hview⟩ | ⟨-, left, -, hview⟩ <;> rw [hview] <;> rfl

@[simp]
theorem cleanTaken_assemblies (s : RuntimeState) (taken : Option LiveTunnel) (io : ClearIo) :
    (s.cleanTaken taken io).1.lifecycleView.assemblies = s.assemblies := by
  cases taken with
  | none => rfl
  | some tunnel => exact cleanupOrRetain_assemblies s tunnel io

/-- After a cleaning the lock can be given back. -/
theorem sound_cleaned (h : s.lifecycleView.Sound) (ht : tunnel.Latest s.generation)
    (io : ClearIo) : LifecycleView.Sound { (s.cleanupOrRetain tunnel io).1.lifecycleView with resources := none } := by
  rcases cleanupOrRetain_view s tunnel io with ⟨-, hview⟩ | ⟨-, left, ⟨hplane, hgeneration⟩, hview⟩
  · rw [hview]
    exact sound_leave h
  rw [hview]
  have hlatest : left.Latest s.generation := by
    rw [LiveTunnel.Latest, hgeneration]
    exact ht
  -- its data plane has stopped
  have hstopped : left.dataPlane ≠ true := by simp [hplane]
  exact sound_fill (sound_leave h) rfl ⟨hlatest, fun hrunning => absurd hrunning hstopped, fun hrunning =>
    absurd hrunning hstopped⟩

/-- Cleaning what was taken: a success changes nothing here, a failure leaves a stopped tunnel in the slot. -/
theorem cleanTaken_view (h : s.lifecycleView.Sound) {taken : Option LiveTunnel}
    (ht : ∀ tunnel, taken = some tunnel → tunnel.Current s.generation s.history.connected) (io : ClearIo) :
    ((s.cleanTaken taken io).2 = true → (s.cleanTaken taken io).1.lifecycleView = s.lifecycleView) ∧
      LifecycleView.Sound { (s.cleanTaken taken io).1.lifecycleView with resources := none } := by
  cases taken with
  | none => exact ⟨fun _ => rfl, sound_leave h⟩
  | some tunnel =>
    refine ⟨fun hcleared => ?_, sound_cleaned h (ht tunnel rfl).latest io⟩
    rcases cleanupOrRetain_view s tunnel io with ⟨-, hview⟩ | ⟨hfailed, -⟩
    · exact hview
    · rw [cleanTaken, hfailed] at hcleared
      cases hcleared

/-- The old tunnel of an assembly is not put back. -/
theorem replaceOld_view (s : RuntimeState) (old : Option LiveTunnel) (io again : ClearIo) :
    (s.replaceOld old io again).1.lifecycleView = s.lifecycleView := by
  unfold replaceOld
  cases old with
  | none => rfl
  | some tunnel =>
    simp only
    split <;> rfl

/-! ## Steps inside the resources lock -/

variable (h : s.lifecycleView.Sound)
include h

theorem sound_previousStep
    (hres : s.resources = some (.previous n stage)) (label : CriticalLabel) :
    (previousStep s n stage label).lifecycleView.Sound := by
  have hplaced : s.assemblies n = some .clearing := h.placed _ hres
  have hn : s.assemblies n ≠ none := by simp [hplaced]
  unfold previousStep
  split
  · exact sound_inside (sound_empty h) hplaced h.live fun _ => rfl
  · rename_i taken io
    obtain ⟨hcleared, hleft⟩ := cleanTaken_view h (h.holds _ hres) io
    simp only
    split
    · rename_i hok
      have hinside : LifecycleView.Sound { s.lifecycleView with resources := some (.previous n .retrying) } :=
        sound_inside h hplaced nofun fun _ => h.emptied _ hres rfl
      rw [← hcleared hok] at hinside
      exact hinside
    · exact sound_return hleft (by simpa using hn) .ended
  · simp only
    split
    · exact sound_return h hn .cleared
    · exact sound_return h hn .ended
  · exact h

theorem sound_callerStep {k : Nat} (hres : s.resources = some (.caller k stage)) (label : CriticalLabel) :
    (callerStep s k stage label).lifecycleView.Sound := by
  unfold callerStep
  split
  · exact sound_inside (sound_empty (sound_revoke h)) trivial h.live fun _ => rfl
  · rename_i taken io
    obtain ⟨hcleared, hleft⟩ := cleanTaken_view h (h.holds _ hres) io
    simp only
    split
    · rename_i hok
      have hinside : LifecycleView.Sound { s.lifecycleView with resources := some (.caller k .retrying) } :=
        sound_inside h trivial nofun fun _ => h.emptied _ hres rfl
      rw [← hcleared hok] at hinside
      exact hinside
    · exact hleft
  · simp only
    split <;> exact sound_leave h
  · exact h

theorem sound_sweeperStep {g : Nat} (hres : s.resources = some (.sweeper g stage)) (label : CriticalLabel) :
    (sweeperStep s g stage label).lifecycleView.Sound := by
  unfold sweeperStep
  split
  · split
    · rename_i hg
      exact sound_inside (sound_empty h) trivial ⟨hg, h.live⟩ fun _ => rfl
    · exact sound_leave h
  · exact sound_leave h
  · rename_i tunnel io
    exact sound_cleaned h ((h.holds _ hres).2 tunnel rfl).latest io
  · exact h

theorem sound_assembleStep {prepared : Bool} {stage : AssembleStage}
    (hres : s.resources = some (.assemble n prepared stage)) (label : CriticalLabel) :
    (assembleStep s n prepared stage label).lifecycleView.Sound := by
  have hplaced : s.assemblies n = some .applying := h.placed _ hres
  have hn : s.assemblies n ≠ none := by simp [hplaced]
  have hend : (s.endAssembly n).lifecycleView.Sound := sound_return h hn .ended
  -- A stage that holds no tunnel only has to keep the slot empty.
  have hempty : stage.emptied = true → s.live = none := h.emptied _ hres
  have hinside : ∀ next : AssembleStage, next.old = none → next.built = none →
      (next.emptied = true → stage.emptied = true) →
      LifecycleView.Sound { s.lifecycleView with resources := some (.assemble n prepared next) } := by
    intro next hold hbuilt hstage
    refine sound_inside h hplaced ⟨?_, ?_⟩ fun hnext => hempty (hstage hnext)
    · rw [hold]
      rintro _ ⟨⟩
    · rw [hbuilt]
      rintro _ ⟨⟩
  unfold assembleStep
  split
  case h_1 =>
    split
    · exact hend
    · exact hinside .granted rfl rfl nofun
  case h_2 =>
    exact sound_inside (sound_empty h) hplaced ⟨h.live, nofun⟩ fun _ => rfl
  case h_3 old io again =>
    have hview := replaceOld_view s old io again
    simp only
    split
    · have hnext := hinside .cleared rfl rfl fun _ => rfl
      rw [← hview] at hnext
      exact hnext
    · have hnext := sound_return h hn .ended
      rw [← hview] at hnext
      exact hnext
  case h_4 =>
    split
    · exact hinside (.nicReady false) rfl rfl fun _ => rfl
    · split
      · exact hinside (.nicReady true) rfl rfl fun _ => rfl
      · exact hend
  case h_5 newNic io =>
    split
    · simp only
      split
      · rename_i owner _
        exact hinside (.applied newNic owner) rfl rfl fun _ => rfl
      · rename_i pendingRoutes _
        exact hinside (.applyFailed newNic pendingRoutes) rfl rfl fun _ => rfl
    · exact hend
  case h_6 pendingRoutes =>
    exact hinside (.applyFailed false pendingRoutes) rfl rfl fun _ => rfl
  case h_7 =>
    split <;> exact hend
  case h_8 newNic route =>
    split
    · exact hinside (.abandoned newNic route) rfl rfl fun _ => rfl
    · exact hinside (.starting newNic route) rfl rfl fun _ => rfl
  case h_9 newNic route started =>
    split
    · split
      · exact hinside (.started route) rfl rfl fun _ => rfl
      · exact hinside (.abandoned newNic route) rfl rfl fun _ => rfl
    · exact hend
  case h_10 newNic route io =>
    simp only
    split
    · rename_i hok
      have hcleared := (Bool.and_eq_true_iff.mp hok).2
      rcases cleanupOrRetain_view s (LiveTunnel.cleanupOnly n (s.modes n) route) io with ⟨-, hview⟩ | ⟨hfailed, -⟩
      · have hnext := hinside .closingNic rfl rfl fun _ => rfl
        rw [← hview] at hnext
        exact hnext
      · rw [hfailed] at hcleared
        cases hcleared
    · exact sound_return (sound_cleaned h (.inl rfl) io) (by simpa using hn) .ended
  case h_11 => exact hend
  case h_12 => exact sound_number h (hempty rfl) hplaced rfl rfl
  case h_13 tunnel alive =>
    obtain ⟨hassembly, hgeneration⟩ := (h.holds _ hres).2 tunnel rfl
    split
    · refine sound_inside h hplaced ⟨nofun, ?_⟩ fun _ => hempty rfl
      rintro _ ⟨⟩
      exact ⟨hassembly, hgeneration⟩
    · rename_i hcommit
      have hflag : s.cancelFlag = false := by
        by_contra hset
        exact hcommit (by simp [hset])
      exact sound_return (sound_connect h hn hflag hassembly hgeneration) hn .ended
  case h_14 tunnel io =>
    have hgeneration := ((h.holds _ hres).2 tunnel rfl).2
    exact sound_return (sound_cleaned h (.inr hgeneration) io) (by simpa using hn) .ended
  case h_15 => exact h

theorem sound_criticalStep (label : CriticalLabel) : (criticalStep s label).lifecycleView.Sound := by
  unfold criticalStep
  split
  · exact h
  · rename_i hres
    exact sound_previousStep h hres label
  · rename_i hres
    exact sound_callerStep h hres label
  · rename_i hres
    exact sound_sweeperStep h hres label
  · rename_i hres
    exact sound_assembleStep h hres label

/-! ## Steps outside the resources lock -/

theorem sound_assemblyStep (n : Nat) (label : AssemblyLabel) : (assemblyStep s n label).lifecycleView.Sound := by
  -- A step at a place that is not in the resources lock.
  have hwalk : ∀ {pc : AssemblyPc}, s.assemblies n = some pc → pc ≠ .clearing → pc ≠ .applying →
      ∀ next : AssemblyPc, (s.setAssembly n (some next)).lifecycleView.Sound := by
    intro pc hpc hc ha next
    have hpc' : s.lifecycleView.assemblies n = some pc := hpc
    refine sound_walk h (by simp [hpc']) next fun critical hres => placed_update (h.placed critical hres) ?_ ?_ _
    · simpa [hpc'] using hc
    · simpa [hpc'] using ha
  unfold assemblyStep
  split
  case h_1 hpc | h_3 hpc | h_7 hpc => exact hwalk hpc (by simp) (by simp) _
  case h_2 hpc =>
    split
    · exact h
    · split
      · exact sound_return h (by simp [lifecycleView, hpc]) .ended
      · exact sound_inside h hpc nofun nofun
  case h_4 hpc =>
    split <;> exact hwalk hpc (by simp) (by simp) _
  case h_5 hpc | h_6 hpc => exact hwalk hpc (by simp) (by simp) _
  case h_8 hpc =>
    split
    · exact h
    split
    · exact sound_return h (by simp [lifecycleView, hpc]) .ended
    · have hmoved := hwalk hpc (by simp) (by simp) .applying
      refine sound_inside hmoved ?_ ⟨nofun, nofun⟩ nofun
      exact update_self n _ s.assemblies
  case h_9 hpc => exact sound_finish h hpc
  case h_10 => exact h

theorem sound_callStep (k : Nat) (label : CallLabel) : (callStep s k label).lifecycleView.Sound := by
  unfold callStep
  split
  · split
    · exact h
    · split
      · exact h
      · exact sound_inside h trivial nofun nofun
  · split <;> exact h
  · exact h

theorem sound_sweepStep (g : Nat) : (sweepStep s g).lifecycleView.Sound := by
  unfold sweepStep
  split
  · split
    · exact h
    · simp only
      split
      · rename_i hsignal
        have hg : g = s.generation := of_decide_eq_true (Bool.and_eq_true_iff.mp hsignal).2
        exact sound_inside h trivial ⟨hg, nofun⟩ nofun
      · exact h
  · exact h

theorem sound_startApply (mode : ConnectionMode) (alive rebindable : Bool) :
    (s.startApply mode alive rebindable).lifecycleView.Sound := by
  have haccept : s.assembling = false → (s.accept mode).lifecycleView.Sound := sound_accept h
  unfold startApply
  cases hassembling : s.assembling with
  | true => exact h
  | false =>
    split
    · exact h
    · simp only
      split
      · exact h
      · exact haccept hassembling
    · exact haccept hassembling

end LifecycleAux

open LifecycleAux

/-- One step of the runtime keeps assemblies, cancels and tunnels in order. -/
theorem lifecycleSound_runtimeStep (s : RuntimeState) (label : RuntimeLabel) (h : s.lifecycleView.Sound) :
    (runtimeStep s label).lifecycleView.Sound := by
  cases label with
  | startApply mode alive rebindable => exact sound_startApply h mode alive rebindable
  | cancel | disconnect => exact sound_revoke h
  | assembly n label => exact sound_assemblyStep h n label
  | call k label => exact sound_callStep h k label
  | dataPlaneLost generation =>
    simp only [runtimeStep]
    split <;> exact h
  | sweep generation => exact sound_sweepStep h generation
  | critical label => exact sound_criticalStep h label

/-- Assemblies, cancels and tunnels are in order in every state a run reaches. -/
theorem lifecycleSound_run (labels : List RuntimeLabel) :
    (Transition.run runtimeStep initial labels).lifecycleView.Sound := by
  refine Transition.invariant_of_run (I := fun s : RuntimeState => s.lifecycleView.Sound)
    lifecycleSound_runtimeStep ?_ labels
  exact ⟨fun _ hn => absurd rfl hn, nofun, nofun, nofun, nofun, nofun, nofun, nofun⟩

end ExvVpn.Win32Engine
