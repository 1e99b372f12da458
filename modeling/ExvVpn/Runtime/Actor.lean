import ExvVpn.Runtime.Reducer

/-!
# The runtime actor

`RuntimeActor` of `actor.rs` in `exv-vpn-runtime`: the single writer of the runtime's state. It drains its two bounded
mailboxes in a pump, commands first, runs the reducer on each message and keeps the effects that are scheduled until their
completion comes. The identifiers it draws are data of the step. Outcomes and events of a decision are dropped by the actor.

`history`, which no step reads, is what was committed and consumed so far, and which late cleanups were run, by the number of
their registration.
-/

namespace ExvVpn.Runtime

open Domain Digest

/-! ## The state -/

/-- `LateHandleEntry`, the cleanup by its number. -/
structure LateHandleEntry where
  handle : EphemeralCleanupRef
  cleanup : Option Nat
  consumed : Bool
  deriving DecidableEq

/-- What the actor did so far. -/
structure ActorHistory where
  committed : List RuntimeEffect
  settled : List RuntimeEffect
  cleaned : List Nat

/-- `ActorInner` without its mailboxes. -/
structure ActorInner where
  state : RuntimeState
  inflight : List RuntimeEffect
  currentEpoch : Option RuntimeEpoch
  lateHandles : List LateHandleEntry
  history : ActorHistory

/-- The identifiers drawn while one message is handled. -/
structure Draw where
  inputs : ReducerInputs
  operationId : OperationId
  freshEpoch : RuntimeEpoch
  obligationEpoch : RuntimeEpoch
  recoveryId : RecoveryId

/-! ## Parts of the handlers -/

/-- The reference by a digest of 32 equal bytes. -/
def filledRef (byte : UInt8) (h : byte ≠ 0) : ResourceRef :=
  ⟨filled byte, fun heq => h ((List.replicate_inj.mp heq).2.resolve_left (by decide))⟩

theorem threeByte_ne_zero : (3 : UInt8) ≠ 0 := by decide

theorem elevenByte_ne_zero : (11 : UInt8) ≠ 0 := by decide

variable (a : ActorInner)

namespace ActorInner

def seeded (initial : RuntimeState) : ActorInner := ⟨initial, [], none, [], ⟨[], [], []⟩⟩

/-- One pass of the loop in `commit_effects`: the first effect ever decides the era. -/
def commit (effect : RuntimeEffect) : ActorInner :=
  { a with
    currentEpoch := a.currentEpoch.or (some effect.fence.epoch)
    inflight := a.inflight ++ [effect]
    history := { a.history with committed := a.history.committed ++ [effect] } }

def commitEffects (effects : List RuntimeEffect) : ActorInner := effects.foldl commit a

def enterReconciling (draw : Draw) (obligation : RecoveryObligation) : ActorInner :=
  { a with state := .reconciling (.startup (a.currentEpoch.getD draw.freshEpoch) draw.recoveryId) obligation }

def blockerError (epoch : RuntimeEpoch) : VpnError := ⟨.effectUnknown, .recovery, .unknown, .reconcile, .runtime epoch⟩

def recoveryObligation (draw : Draw) : RecoveryObligation :=
  ⟨draw.obligationEpoch, none, blockerError draw.obligationEpoch, none, none, filled 5⟩

/-- The first entry for a handle is marked as consumed, and its cleanup is taken if it was not. -/
def takeCleanup (handle : EphemeralCleanupRef) : List LateHandleEntry → List LateHandleEntry × Option Nat
  | [] => ([], none)
  | entry :: rest =>
    if entry.handle = handle then
      if entry.consumed then (entry :: rest, none)
      else ({ entry with consumed := true, cleanup := none } :: rest, entry.cleanup)
    else
      let (rest, cleanup) := takeCleanup handle rest
      (entry :: rest, cleanup)

def consumeLateHandle (handle : EphemeralCleanupRef) : ActorInner :=
  let (lateHandles, cleanup) := takeCleanup handle a.lateHandles
  { a with lateHandles, history := { a.history with cleaned := a.history.cleaned ++ cleanup.toList } }

def registerLateHandle (handle : EphemeralCleanupRef) : ActorInner :=
  { a with lateHandles := a.lateHandles ++ [⟨handle, some a.lateHandles.length, false⟩] }

def beginHostLostTeardown (draw : Draw) (epoch : RuntimeEpoch) : ActorInner :=
  let key : OperationLookupKey := ⟨filled 1, .connect, epoch, draw.operationId⟩
  let intent : ConnectIntent := ⟨key, filled 2, filledRef 3 threeByte_ne_zero⟩
  let attemptId := draw.inputs.nextAttemptId
  { a with state := .stopping ⟨epoch, attemptId, intent⟩ ⟨key, filled 2⟩ none }.commitEffects
    [⟨.attempt ⟨epoch, attemptId, draw.inputs.nextEffectIds 0⟩, .stopProtocol (filledRef 11 elevenByte_ne_zero)⟩]

/-! ## The handlers -/

/-- The reducer decides on a command, and its effects are committed. -/
def reduceWith (draw : Draw) (command : RuntimeCommand) : ActorInner :=
  let decision := Reducer.reduce a.state command draw.inputs
  { a with state := decision.nextState }.commitEffects decision.effects

def handleCommand (draw : Draw) (command : RuntimeCommand) : ActorInner :=
  match command with
  | .hostLost epoch => { a with currentEpoch := some epoch }.beginHostLostTeardown draw epoch
  | command => a.reduceWith draw command

def applyStale (draw : Draw) : StaleDisposition → ActorInner
  | .provenNoEffect => a
  | .acquiredEphemeralResource handle =>
    let a := a.consumeLateHandle handle
    if handle.kind = .packetLateHandle then a.enterReconciling draw (recoveryObligation draw) else a
  | .journaledExternalEffect => a.enterReconciling draw (recoveryObligation draw)
  | .unknownResourceAcquisition obligation => a.enterReconciling draw obligation

def handleCompletion (draw : Draw) (completion : EffectCompletion) : ActorInner :=
  if a.currentEpoch.any (· ≠ completion.fence.epoch) then a
  else
    match a.inflight.find? (·.fence = completion.fence) with
    | some effect =>
      { a with
        inflight := a.inflight.eraseP (·.fence = completion.fence)
        history := { a.history with settled := a.history.settled ++ [effect] } }.reduceWith draw (.effectCompleted completion)
    | none => a.applyStale draw completion.staleDisposition

end ActorInner

/-! ## Messages and pumps -/

inductive ActorMessage where
  | command (command : RuntimeCommand)
  | completion (completion : EffectCompletion)
  | register (handle : EphemeralCleanupRef)

def handleMessage : Draw × ActorMessage → ActorInner
  | (draw, .command command) => a.handleCommand draw command
  | (draw, .completion completion) => a.handleCompletion draw completion
  | (_, .register handle) => a.registerLateHandle handle

/-- `RuntimeActor`, with the capacities `MvpLimits` gives its mailboxes. -/
structure RuntimeActor where
  inner : ActorInner
  commands : List RuntimeCommand
  completions : List EffectCompletion
  commandCapacity : Nat
  completionCapacity : Nat

/-- `BoundedMailbox::try_send`: a full mailbox drops the message. -/
def trySend {α : Type} (capacity : Nat) (items : List α) (item : α) : List α :=
  if capacity ≤ items.length then items else items ++ [item]

def RuntimeActor.fromState (commandCapacity completionCapacity : Nat) (initial : RuntimeState) : RuntimeActor :=
  ⟨.seeded initial, [], [], commandCapacity, completionCapacity⟩

/-- A call of the actor; a pump draws identifiers for each message it handles. -/
inductive ActorCall where
  | submit (command : RuntimeCommand)
  | completeEffect (completion : EffectCompletion)
  | registerLateHandle (draw : Draw) (handle : EphemeralCleanupRef)
  | pump (draws : Nat → Draw)

/-- The messages of a pump in the order in which they are handled. -/
def RuntimeActor.messages (actor : RuntimeActor) : List ActorMessage :=
  actor.commands.map .command ++ actor.completions.map .completion

def actorStep (actor : RuntimeActor) : ActorCall → RuntimeActor
  | .submit command => { actor with commands := trySend actor.commandCapacity actor.commands command }
  | .completeEffect completion =>
    { actor with completions := trySend actor.completionCapacity actor.completions completion }
  | .registerLateHandle _ handle => { actor with inner := actor.inner.registerLateHandle handle }
  | .pump draws =>
    { actor with
      inner := (actor.messages.zipIdx.map fun (message, i) => (draws i, message)).foldl handleMessage actor.inner
      commands := []
      completions := [] }

end ExvVpn.Runtime
