import ExvVpn.Runtime.Actor
import ExvVpn.Tools.Transition
import Mathlib.Data.List.Perm.Basic

/-!
# Effects in flight

An effect is consumed by a completion with its fence, which is looked at only in the era of the actor: that of the first
effect, or of the last lost host. Effects carry the epoch of what they were decided for. Whether each effect in flight can
still be consumed is read off the messages: which ones start an effect of another epoch, or another era while effects are in
flight. That each is consumed, and each late cleanup run, at most once holds of every run.
-/

namespace ExvVpn.Runtime

open Domain Transition List Option ActorInner Reducer CompletionFence Digest

/-! ## What one message does -/

variable {a : ActorInner}

namespace RuntimeActorAux

variable (a)

/-- The effects in order, the era from the first if there was none. -/
theorem commitEffects_eq (effects : List RuntimeEffect) :
    a.commitEffects effects =
      { a with
        currentEpoch := a.currentEpoch.or (effects.head?.map (·.fence.epoch))
        inflight := a.inflight ++ effects
        history := { a.history with committed := a.history.committed ++ effects } } := by
  induction effects generalizing a with
  | nil => simp [commitEffects]
  | cons effect rest ih =>
    have hcons : a.commitEffects (effect :: rest) = (a.commit effect).commitEffects rest := rfl
    rw [hcons, ih]
    cases hcurrent : a.currentEpoch <;> simp [commit, hcurrent]

/-- What a message can lead to, as far as effects, the era and late cleanups go. -/
inductive Handled : ActorMessage → ActorInner → Prop
  | decided {command : RuntimeCommand} (draw : Draw) (h : ∀ epoch, command ≠ .hostLost epoch) :
      Handled (.command command) (a.reduceWith draw command)
  | hostLost (epoch : RuntimeEpoch) (state : RuntimeState) (effect : RuntimeEffect) (h : effect.fence.epoch = epoch) :
      Handled (.command (.hostLost epoch)) ({ a with currentEpoch := some epoch, state }.commitEffects [effect])
  | settled {completion : EffectCompletion} (effect : RuntimeEffect) (before after : List RuntimeEffect)
      (hera : ∀ epoch, a.currentEpoch = some epoch → epoch = completion.fence.epoch)
      (h : a.inflight = before ++ effect :: after) (hfence : effect.fence = completion.fence)
      (hbefore : ∀ e ∈ before, e.fence ≠ completion.fence) :
      Handled (.completion completion)
        { a with
          inflight := before ++ after
          history := { a.history with settled := a.history.settled ++ [effect] } }
  | stale {completion : EffectCompletion} (state : RuntimeState) : Handled (.completion completion) { a with state }
  | cleaned {completion : EffectCompletion} (state : RuntimeState) (handle : EphemeralCleanupRef) :
      Handled (.completion completion) { a.consumeLateHandle handle with state }
  | registered (handle : EphemeralCleanupRef) : Handled (.register handle) (a.registerLateHandle handle)

theorem handled_handleCompletion (draw : Draw) (completion : EffectCompletion) :
    Handled a (.completion completion) (a.handleCompletion draw completion) := by
  unfold handleCompletion
  split
  · exact .stale a.state
  rename_i hera
  split
  · rename_i effect hfind
    obtain ⟨hfence, before, after, hinflight, hbefore⟩ := find?_eq_some_iff_append.mp hfind
    have herase : a.inflight.eraseP (fun e => decide (e.fence = completion.fence)) = before ++ after := by
      rw [hinflight, eraseP_append_right]
      · simp [of_decide_eq_true hfence]
      · simpa using hbefore
    rw [herase]
    refine .settled effect before after ?_ hinflight (of_decide_eq_true hfence) (by simpa using hbefore)
    intro epoch hepoch
    simpa [hepoch] using hera
  · cases completion.staleDisposition with
    | provenNoEffect => exact .stale a.state
    | acquiredEphemeralResource handle =>
      simp only [applyStale]
      split <;> exact .cleaned _ handle
    | journaledExternalEffect | unknownResourceAcquisition => exact .stale _

/-- Every message is handled in one of these ways. -/
theorem handled_handleMessage (draw : Draw) (message : ActorMessage) :
    Handled a message (handleMessage a (draw, message)) := by
  cases message with
  | command command =>
    cases command with
    | hostLost epoch => exact .hostLost epoch _ _ rfl
    | _ => exact .decided draw (by simp)
  | completion completion => exact handled_handleCompletion a draw completion
  | register handle => exact .registered handle

/-! ## Consumed once -/

/-- Each effect that was committed is in flight or was consumed, as often as it was committed. -/
def Accounted : Prop := a.history.committed.Perm (a.inflight ++ a.history.settled)

variable {a}

theorem Accounted.commitEffects (h : Accounted a) (effects : List RuntimeEffect) :
    Accounted (a.commitEffects effects) := by
  rw [commitEffects_eq]
  have hswap : (a.inflight ++ a.history.settled ++ effects).Perm (a.inflight ++ effects ++ a.history.settled) := by
    rw [append_assoc, append_assoc]
    exact perm_append_comm.append_left a.inflight
  exact (h.append_right effects).trans hswap

/-- One message keeps the account. -/
theorem Accounted.handleMessage (h : Accounted a) (labelled : Draw × ActorMessage) :
    Accounted (handleMessage a labelled) := by
  obtain ⟨draw, message⟩ := labelled
  have hhandled := handled_handleMessage a draw message
  generalize Runtime.handleMessage a (draw, message) = b at hhandled ⊢
  cases hhandled with
  | @decided command draw _ =>
    have hstate : Accounted { a with state := (reduce a.state command draw.inputs).nextState } := h
    exact hstate.commitEffects _
  | hostLost epoch state effect _ =>
    have hstate : Accounted { a with currentEpoch := some epoch, state } := h
    exact hstate.commitEffects [effect]
  | settled effect before after _ hinflight _ _ =>
    have hmove : (before ++ effect :: after ++ a.history.settled).Perm
        (before ++ after ++ (a.history.settled ++ [effect])) := by
      have hlast : (effect :: (after ++ a.history.settled)).Perm (after ++ a.history.settled ++ [effect]) :=
        (perm_append_singleton effect _).symm
      rw [append_assoc, append_assoc, ← append_assoc after]
      exact hlast.append_left before
    unfold Accounted at h
    rw [hinflight] at h
    exact h.trans hmove
  | stale | cleaned | registered => exact h

/-! ## Cleaned once -/

/-- Every cleanup that is waiting or was run has its own number, below that of the next registration. -/
structure CleanedOnce (a : ActorInner) : Prop where
  distinct : (a.history.cleaned ++ a.lateHandles.filterMap (·.cleanup)).Nodup
  numbered : ∀ n ∈ a.history.cleaned ++ a.lateHandles.filterMap (·.cleanup), n < a.lateHandles.length

@[simp] theorem length_takeCleanup (handle : EphemeralCleanupRef) (entries : List LateHandleEntry) :
    (takeCleanup handle entries).1.length = entries.length := by
  induction entries with
  | nil => rfl
  | cons entry rest ih =>
    unfold takeCleanup
    split
    · split <;> rfl
    · simp [ih]

/-- A cleanup that is taken no longer waits. -/
theorem perm_takeCleanup (handle : EphemeralCleanupRef) (entries : List LateHandleEntry) :
    ((takeCleanup handle entries).2.toList ++
      (takeCleanup handle entries).1.filterMap (·.cleanup)).Perm (entries.filterMap (·.cleanup)) := by
  induction entries with
  | nil => rfl
  | cons entry rest ih =>
    unfold takeCleanup
    split
    · split
      · rfl
      · cases hcleanup : entry.cleanup <;> simp [hcleanup]
    · cases hcleanup : entry.cleanup with
      | none => simpa [hcleanup] using ih
      | some number =>
        simp only [filterMap_cons, hcleanup]
        exact perm_middle.trans (ih.cons number)

theorem CleanedOnce.consumeLateHandle (h : CleanedOnce a) (handle : EphemeralCleanupRef) :
    CleanedOnce (a.consumeLateHandle handle) := by
  have hperm : (a.history.cleaned ++ (takeCleanup handle a.lateHandles).2.toList ++
      (takeCleanup handle a.lateHandles).1.filterMap (·.cleanup)).Perm
      (a.history.cleaned ++ a.lateHandles.filterMap (·.cleanup)) := by
    rw [append_assoc]
    exact (perm_takeCleanup handle a.lateHandles).append_left _
  constructor
  · exact hperm.nodup_iff.mpr h.distinct
  · intro n hn
    have hlength := length_takeCleanup handle a.lateHandles
    exact hlength.symm ▸ h.numbered n (hperm.mem_iff.mp hn)

theorem CleanedOnce.registerLateHandle (h : CleanedOnce a) (handle : EphemeralCleanupRef) :
    CleanedOnce (a.registerLateHandle handle) := by
  have hsplit : a.history.cleaned ++ (a.registerLateHandle handle).lateHandles.filterMap (·.cleanup) =
      a.history.cleaned ++ a.lateHandles.filterMap (·.cleanup) ++ [a.lateHandles.length] := by
    simp [ActorInner.registerLateHandle]
  constructor
  · show (a.history.cleaned ++ _).Nodup
    rw [hsplit, nodup_append]
    refine ⟨h.distinct, by simp, ?_⟩
    intro n hn m hm
    have hlt := h.numbered n hn
    rw [mem_singleton.mp hm]
    omega
  · show ∀ n ∈ a.history.cleaned ++ _, n < (a.registerLateHandle handle).lateHandles.length
    have hlength : (a.registerLateHandle handle).lateHandles.length = a.lateHandles.length + 1 := length_append
    rw [hsplit, hlength, forall_mem_append, forall_mem_singleton]
    exact ⟨fun n hn => Nat.lt_succ_of_lt (h.numbered n hn), Nat.lt_succ_self _⟩

theorem CleanedOnce.handleMessage (h : CleanedOnce a) (labelled : Draw × ActorMessage) :
    CleanedOnce (handleMessage a labelled) := by
  obtain ⟨draw, message⟩ := labelled
  have hhandled := handled_handleMessage a draw message
  generalize Runtime.handleMessage a (draw, message) = b at hhandled ⊢
  cases hhandled with
  | decided draw _ =>
    rw [reduceWith, commitEffects_eq]
    exact ⟨h.distinct, h.numbered⟩
  | hostLost | settled | stale => exact ⟨h.distinct, h.numbered⟩
  | cleaned state handle => exact ⟨(h.consumeLateHandle handle).distinct, (h.consumeLateHandle handle).numbered⟩
  | registered handle => exact h.registerLateHandle handle

end RuntimeActorAux

/-! ## Eras -/

/-- The epoch of the effects a command starts in a state, if it starts any. -/
def startedEpoch : RuntimeState → RuntimeCommand → Option RuntimeEpoch
  | .idle _, .connect intent => some intent.runtimeEpoch
  | .failedClean _ _, .connect intent => some intent.runtimeEpoch
  | .awaitingInteraction _ prompt, .stop _ => some prompt.runtimeEpoch
  | .connected session, .stop _ => some session.attempt.runtimeEpoch
  | .stopping _ _ (some queued), .stop _ => some queued.runtimeEpoch
  | _, _ => none

/-- A message that starts no effect of another era, and no other era beside effects in flight. -/
def KeepsEra (a : ActorInner) : Draw × ActorMessage → Prop
  | (_, .command (.hostLost epoch)) => ∀ e ∈ a.inflight, e.fence.epoch = epoch
  | (_, .command command) =>
    ∀ epoch current, startedEpoch a.state command = some epoch → a.currentEpoch = some current → epoch = current
  | _ => True

/-- An effect that can still be consumed: it is of the actor's era, and its own completion takes one effect with its fence
out of those in flight, whatever the completion says otherwise. -/
structure Consumable (a : ActorInner) (effect : RuntimeEffect) : Prop where
  era : a.currentEpoch = some effect.fence.epoch
  removed : ∀ draw completion, completion.fence = effect.fence →
    (a.handleCompletion draw completion).inflight = a.inflight.eraseP (·.fence = effect.fence)

namespace RuntimeActorAux

/-- Every effect in flight is of the actor's era. -/
def AllCurrent (a : ActorInner) : Prop := ∀ e ∈ a.inflight, a.currentEpoch = some e.fence.epoch

/-- An effect in flight that is of the era can be consumed. -/
theorem consumable_iff {effect : RuntimeEffect} (hmem : effect ∈ a.inflight) :
    Consumable a effect ↔ a.currentEpoch = some effect.fence.epoch := by
  refine ⟨Consumable.era, fun hera => ⟨hera, ?_⟩⟩
  intro draw completion hfence
  unfold handleCompletion
  rw [hfence, hera]
  cases hfind : a.inflight.find? (fun e => decide (e.fence = effect.fence)) with
  | none => exact absurd (find?_eq_none.mp hfind effect hmem) (by simp)
  | some found =>
    rw [if_neg (by simp)]
    rfl

/-- The effects of a decision are of one epoch, and there are none unless there is such an epoch. -/
theorem reduce_effects (state : RuntimeState) (command : RuntimeCommand) (inputs : ReducerInputs) :
    match startedEpoch state command with
    | some epoch => (reduce state command inputs).effects ≠ [] ∧
        ∀ e ∈ (reduce state command inputs).effects, e.fence.epoch = epoch
    | none => (reduce state command inputs).effects = [] := by
  cases command with
  | connect intent =>
    rcases state with _ | _ | _ | _ | ⟨_, _, _ | queued⟩ | _ | _ | _ <;>
      simp [startedEpoch, reduce, reduceConnect, startConnect, leafDecision,
        epoch]
    split <;> rfl
  | stop stop =>
    rcases state with _ | _ | _ | _ | ⟨_, _, _ | queued⟩ | _ | _ | _ <;>
      simp [startedEpoch, reduce, reduceStop, stopEffects, leafDecision, keep,
        epoch]
  | _ => rcases state with _ | _ | _ | _ | ⟨_, _, _ | queued⟩ | _ | _ | _ <;> rfl

/-- Effects of one epoch keep those in flight in the era exactly when the era is theirs or there was none. -/
theorem allCurrent_commitEffects (h : AllCurrent a) {effects : List RuntimeEffect} {epoch : RuntimeEpoch}
    (hne : effects ≠ []) (hepoch : ∀ e ∈ effects, e.fence.epoch = epoch) :
    AllCurrent (a.commitEffects effects) ↔ ∀ current, a.currentEpoch = some current → epoch = current := by
  obtain ⟨first, rest, rfl⟩ := exists_cons_of_ne_nil hne
  have hfirst := hepoch first (mem_cons_self ..)
  rw [commitEffects_eq]
  cases hcurrent : a.currentEpoch with
  | none =>
    refine iff_of_true ?_ (by simp)
    intro e he
    rcases mem_append.mp he with hold | hnew
    · exact absurd (h e hold) (by simp [hcurrent])
    · simp [hfirst, hepoch e hnew]
  | some current =>
    constructor
    · intro hall other hother
      have hera := hall first (mem_append_right _ (mem_cons_self ..))
      simp only [some_or, some.injEq] at hera hother
      rw [← hfirst, ← hera, hother]
    · intro heq e he
      have hcur := heq current rfl
      rcases mem_append.mp he with hold | hnew
      · simpa [hcurrent] using h e hold
      · simp [hepoch e hnew, hcur]

/-- A message keeps every effect in flight in the era exactly when it keeps the era. -/
theorem allCurrent_handleMessage (h : AllCurrent a) (labelled : Draw × ActorMessage) :
    AllCurrent (handleMessage a labelled) ↔ KeepsEra a labelled := by
  obtain ⟨draw, message⟩ := labelled
  have hhandled := handled_handleMessage a draw message
  generalize handleMessage a (draw, message) = b at hhandled ⊢
  cases hhandled with
  | @decided command draw' hcommand =>
    have hguard : KeepsEra a (draw, .command command) ↔ ∀ epoch current,
        startedEpoch a.state command = some epoch → a.currentEpoch = some current → epoch = current := by
      cases command with
      | hostLost epoch => exact absurd rfl (hcommand epoch)
      | _ => exact Iff.rfl
    have hstate : AllCurrent { a with state := (reduce a.state command draw'.inputs).nextState } := h
    have heffects := reduce_effects a.state command draw'.inputs
    rw [hguard, reduceWith]
    cases hstarted : startedEpoch a.state command with
    | none =>
      rw [hstarted] at heffects
      rw [heffects]
      exact iff_of_true hstate (by simp)
    | some epoch =>
      rw [hstarted] at heffects
      rw [allCurrent_commitEffects hstate heffects.1 heffects.2]
      constructor
      · intro hera started current hsome hcurrent
        rw [← some.inj hsome]
        exact hera current hcurrent
      · intro hera current hcurrent
        exact hera epoch current rfl hcurrent
  | hostLost epoch state effect heffect =>
    constructor
    · intro hall e he
      have hera := hall e (mem_append_left _ he)
      exact (some.inj hera).symm
    · intro hepoch
      refine forall_mem_append.mpr ⟨fun e he => congrArg some (hepoch e he).symm, ?_⟩
      exact forall_mem_singleton.mpr (congrArg some heffect.symm)
  | settled effect before after _ hinflight _ _ =>
    refine iff_of_true ?_ trivial
    unfold AllCurrent at h
    rw [hinflight, forall_mem_append, forall_mem_cons] at h
    exact forall_mem_append.mpr ⟨h.1, h.2.2⟩
  | stale | cleaned | registered => exact iff_of_true h trivial

end RuntimeActorAux

/-! ## Runs -/

/-- The messages a call makes the actor handle. -/
def RuntimeActor.handled (actor : RuntimeActor) : ActorCall → List (Draw × ActorMessage)
  | .submit _ => []
  | .completeEffect _ => []
  | .registerLateHandle draw handle => [(draw, .register handle)]
  | .pump draws => actor.messages.zipIdx.map fun (message, i) => (draws i, message)

/-- The messages the actor handles in a run of calls, in order. -/
def RuntimeActor.handledIn (actor : RuntimeActor) : List ActorCall → List (Draw × ActorMessage)
  | [] => []
  | call :: rest => actor.handled call ++ (actorStep actor call).handledIn rest

namespace RuntimeActorAux

/-- Calls do to the inner state what the messages they lead to do. -/
theorem inner_run (actor : RuntimeActor) (calls : List ActorCall) :
    (run actorStep actor calls).inner = run handleMessage actor.inner (actor.handledIn calls) := by
  induction calls generalizing actor with
  | nil => rfl
  | cons call rest ih =>
    rw [run_cons, ih, RuntimeActor.handledIn, run_append]
    cases call <;> rfl

/-- Every effect is accounted for. -/
theorem accounted_run (initial : RuntimeState) (messages : List (Draw × ActorMessage)) :
    Accounted (run handleMessage (.seeded initial) messages) := by
  have hseeded : Accounted (.seeded initial) := List.Perm.refl []
  exact invariant_of_run (I := Accounted) (fun _ l h => Accounted.handleMessage h l) hseeded messages

/-- No late cleanup is run twice. -/
theorem cleanedOnce_run (initial : RuntimeState) (messages : List (Draw × ActorMessage)) :
    CleanedOnce (run handleMessage (.seeded initial) messages) := by
  have hseeded : CleanedOnce (.seeded initial) := ⟨nodup_nil, by simp [seeded]⟩
  exact invariant_of_run (I := CleanedOnce) (fun _ l h => CleanedOnce.handleMessage h l) hseeded messages

end RuntimeActorAux

open RuntimeActorAux

/-- In every run of calls, the effects in flight can be consumed after each message exactly when each message keeps the era;
each committed effect is in flight or was consumed once; and no late cleanup is run twice. -/
theorem effects_consumable_iff (commandCapacity completionCapacity : Nat) (initial : RuntimeState) (calls : List ActorCall) :
    let actor := RuntimeActor.fromState commandCapacity completionCapacity initial
    let reached := run handleMessage (.seeded initial)
    let last := (run actorStep actor calls).inner
    last = reached (actor.handledIn calls) ∧
      ((∀ before after, actor.handledIn calls = before ++ after →
          ∀ e ∈ (reached before).inflight, Consumable (reached before) e) ↔
        Along handleMessage KeepsEra (.seeded initial) (actor.handledIn calls)) ∧
      last.history.committed.Perm (last.inflight ++ last.history.settled) ∧ last.history.cleaned.Nodup := by
  intro actor reached last
  have hlast : last = reached (actor.handledIn calls) := inner_run actor calls
  have haccounted : Accounted last := hlast ▸ accounted_run initial _
  have hcleaned : CleanedOnce last := hlast ▸ cleanedOnce_run initial _
  refine ⟨hlast, ?_, haccounted, (nodup_append.mp hcleaned.distinct).1⟩
  have hcurrent : ∀ a : ActorInner, (∀ e ∈ a.inflight, Consumable a e) ↔ AllCurrent a := fun a =>
    forall₂_congr fun e he => consumable_iff he
  simp only [hcurrent]
  refine forall_reached_iff_along (J := fun _ => True) (fun _ _ _ => trivial) ?_ trivial ?_ _
  · intro a l _ h
    exact allCurrent_handleMessage h l
  · intro e he
    nomatch he

/-! ## A queued connect of another epoch -/

namespace RuntimeActorAux

def epochOne : RuntimeEpoch := .ending 1

def epochTwo : RuntimeEpoch := .ending 2

def sampleDraws (_ : Nat) : Draw :=
  ⟨⟨.ending 3, fun _ => .ending 4⟩, .ending 5, .ending 6, .ending 7, .ending 8⟩

def sampleKey (method : OperationMethod) (epoch : RuntimeEpoch) : OperationLookupKey :=
  ⟨filled 1, method, epoch, .ending 9⟩

def connectOf (epoch : RuntimeEpoch) : ConnectIntent :=
  ⟨sampleKey .connect epoch, filled 2, filledRef 3 threeByte_ne_zero⟩

def sampleStop : StopIntent := ⟨sampleKey .stop epochOne, filled 2⟩

/-- The fence of the effect that revokes the queued connect. -/
def revokeFence : CompletionFence :=
  .external ⟨epochTwo, .ending 4, sampleKey .connect epochTwo, filled 2⟩

/-- A connect, a stop, a connect of another epoch, which is queued, a second stop, which revokes it, and at last the
completion of the revocation. -/
def revokedCalls : List ActorCall :=
  [.submit (.connect (connectOf epochOne)), .submit (.stop sampleStop), .submit (.connect (connectOf epochTwo)),
    .submit (.stop sampleStop), .pump sampleDraws, .completeEffect ⟨revokeFence, .provenNoEffect⟩, .pump sampleDraws]

end RuntimeActorAux

/-- The revocation of a queued connect of another epoch stays in flight when its own completion was handled. -/
theorem revocation_never_consumed :
    let last := (run actorStep (.fromState 8 8 (.idle none)) revokedCalls).inner
    last.currentEpoch = some epochOne ∧
      last.inflight.map (fun e => (e.fence, e.fence.epoch)) =
        [(.attempt ⟨epochOne, .ending 3, .ending 4⟩, epochOne), (revokeFence, epochTwo)] ∧
      ¬ Consumable last ⟨revokeFence, .revokeQueuedConnect (connectOf epochTwo)⟩ := by
  refine ⟨rfl, rfl, fun h => ?_⟩
  exact absurd h.era (by decide)

end ExvVpn.Runtime
