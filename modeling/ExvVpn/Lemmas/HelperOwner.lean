import ExvVpn.Lemmas.HelperRuns

/-!
# Who owns the helper

The owner of the control core is set by a handshake on a lease stream and cleared by a ReleaseLease or by the end of a stream.
`OwnerChange` says what a step can do to it; who may take it over, and which stream it goes back to, is read off that.
-/

namespace ExvVpn.HelperControl

open Domain Resource Wire Function Option Transition Entry

/-! ## What a step can do to the owner -/

variable (helper : Helper) (s : ServiceState) (label : Label)

/-- The stream whose handshake a step accepts. -/
def takenBy : Label → Option Nat
  | .leaseMessage number _ (.handshake principalDigest capabilityDigest channelIdentityDigest) =>
    match s.streams number with
    | some stream =>
      if stream.ended = false ∧ handshakeOk stream.peer principalDigest capabilityDigest channelIdentityDigest ∧
          mayOwn s.core stream.peer then some number
      else none
    | none => none
  | _ => none

/-- The owner after a step. -/
inductive OwnerChange : Option OwnerSession → Prop
  /-- It stays. -/
  | kept : OwnerChange s.core.owner
  /-- The peer of a stream takes it. -/
  | taken {number : Nat} {stream : LeaseStream} (htaken : takenBy s label = some number)
      (hstream : s.streams number = some stream) :
      OwnerChange (some ⟨stream.peer, stream.peer.connection⟩)
  /-- The owner gives it back. -/
  | released {request : MutationRequest} {peer : PeerContext} {connection : ConnectionBinding}
      (hlabel : label = .submit (.releaseLease request)) (hpeer : request.peer = some peer)
      (howner : s.core.owner = some ⟨peer, connection⟩) : OwnerChange none
  /-- A stream of its connection ends. -/
  | ended {number : Nat} {stream : LeaseStream} {owner : OwnerSession} (hmode : helper.connectionMode = .service)
      (hends : EndsStream helper s label number stream) (howner : s.core.owner = some owner)
      (hsame : owner.connection = stream.peer.connection) : OwnerChange none

variable {helper s label} {core : HelperControlCore} {mutation : Mutation} {bound : Bound}

theorem owner_prepared : (prepared helper core mutation bound).owner = core.owner := by
  cases mutation <;> rfl

theorem owner_gated {input : MutationAdmissionInput} {after : HelperControlCore} {outcome : Except Status MutationAdmitted}
    (hgate : admitAndGate helper (prepared helper core mutation bound) input = (after, outcome)) :
    after.owner = core.owner := by
  have hframe := (frame_admitAndGate helper (prepared helper core mutation bound) input).1
  rwa [hgate, owner_prepared] at hframe

/-- A handler leaves the owner alone, unless it is a ReleaseLease of the owner. -/
theorem owner_handle (helper : Helper) (core : HelperControlCore) (mutation : Mutation) :
    (handle helper core mutation).1.owner = core.owner ∨
      (handle helper core mutation).1.owner = none ∧
        ∃ request peer connection, mutation = .releaseLease request ∧ request.peer = some peer ∧
          core.owner = some ⟨peer, connection⟩ := by
  have hhandled := handled helper core mutation
  generalize (handle helper core mutation).1 = after, (handle helper core mutation).2 = outcome at hhandled ⊢
  cases hhandled with
  | incomplete | unbound | unchecked => exact .inl rfl
  | leaseRefused hbinds hmutation hissue =>
    subst hmutation
    exact .inl rfl
  | gateRefused hbinds hissue hgate hinput => exact .inl (owner_gated hgate)
  | passed hbinds hissue hgate hinput =>
    have hkept := owner_gated hgate
    cases mutation with
    | acquireLease | applyTunnel | stopTunnel => exact .inl hkept
    | releaseLease request =>
      obtain ⟨hpeer, howner, -⟩ := bindMutation_ok hbinds.2.2
      exact .inr ⟨rfl, request, _, _, rfl, hpeer, howner⟩

/-! ## Calls -/

/-- The entries of admissions. -/
def Entry.isAdmitted : Entry → Bool
  | .admitted _ _ _ _ => true
  | .submitted _ _ _ _ => false
  | .started _ => false
  | .ended _ _ => false

/-- Owner, leases and admissions are untouched. -/
structure HelperControlCore.Undisturbed (before after : HelperControlCore) : Prop where
  owner : after.owner = before.owner
  leases : after.leases = before.leases
  admissions : after.admissions = before.admissions
  trace : after.trace.filter isAdmitted = before.trace.filter isAdmitted

namespace HelperControlCore.Undisturbed

theorem refl (core : HelperControlCore) : core.Undisturbed core := ⟨rfl, rfl, rfl, rfl⟩

theorem note {entry : Entry} (h : entry.isAdmitted = false) : core.Undisturbed (core.note entry) :=
  ⟨rfl, rfl, rfl, by simp [HelperControlCore.note, h]⟩

theorem terminalObserver (helper : Helper) (core : HelperControlCore) (event : StatusEvent) :
    core.Undisturbed (HelperControl.terminalObserver helper core event) := by
  have hend : ∀ terminal, core.Undisturbed (observeEnd helper core event.operationId terminal) := by
    intro terminal
    unfold observeEnd
    split
    · exact refl core
    · exact ⟨rfl, rfl, rfl, rfl⟩
  unfold HelperControl.terminalObserver
  split
  · exact hend _
  · exact hend _
  · exact refl core
  · exact refl core

theorem trans {first second third : HelperControlCore} (h : first.Undisturbed second) (h' : second.Undisturbed third) :
    first.Undisturbed third :=
  ⟨h'.owner.trans h.owner, h'.leases.trans h.leases, h'.admissions.trans h.admissions, h'.trace.trans h.trace⟩

end HelperControlCore.Undisturbed

open HelperControlCore (Undisturbed)

variable (helper s)

theorem undisturbed_publish (key : OperationLookupKey) (event : StatusEvent) :
    s.core.Undisturbed (publish helper s key event).core ∧ (publish helper s key event).streams = s.streams ∧
      (publish helper s key event).nextStream = s.nextStream := by
  unfold publish
  dsimp only
  split
  · exact ⟨.refl _, rfl, rfl⟩
  refine ⟨.trans ?_ (.terminalObserver ..), rfl, rfl⟩
  split
  · exact .note rfl
  · exact .note rfl
  · exact .refl _
  · exact .refl _

/-- A step of a call disturbs neither. -/
theorem undisturbed_callStep (number : Nat) (call : Call) (label : Label) :
    s.core.Undisturbed (callStep helper s number call label).core ∧
      (callStep helper s number call label).streams = s.streams ∧
      (callStep helper s number call label).nextStream = s.nextStream := by
  have hkept : s.core.Undisturbed s.core ∧ s.streams = s.streams ∧ s.nextStream = s.nextStream := ⟨.refl _, rfl, rfl⟩
  unfold callStep
  cases label with
  | startApply =>
    dsimp only
    split
    · exact ⟨.note rfl, rfl, rfl⟩
    · exact hkept
  | startReturned =>
    dsimp only
    split <;> exact hkept
  | refusedPublish =>
    dsimp only
    split
    case h_1 error => exact undisturbed_publish helper (s.setPc number call .replied) call.key _
    case h_2 => exact hkept
  | runtimeStatus =>
    dsimp only
    split
    · exact undisturbed_publish ..
    · exact hkept
  | disconnected =>
    dsimp only
    split
    · split
      · exact ⟨⟨rfl, rfl, rfl, rfl⟩, rfl, rfl⟩
      · exact hkept
    · exact hkept
  | idlePublish =>
    dsimp only
    split
    · exact undisturbed_publish helper (s.setPc number call .replied) call.key _
    · exact hkept
  | openLease | leaseMessage | leaseEnd | submit => exact hkept

variable {stream : LeaseStream}

/-! ## Steps of the service -/

/-- Every step changes the owner in one of these ways. -/
theorem ownerChange_serviceStep (helper : Helper) (s : ServiceState) (label : Label) :
    OwnerChange helper s label (serviceStep helper s label).core.owner := by
  have hstepped := stepped helper s label
  generalize serviceStep helper s label = t at hstepped ⊢
  cases hstepped with
  | idle | opened => exact .kept
  | @received number epoch message stream next core hlabel hstream hopen hresult =>
    rcases onLeaseMessage_cases hresult with ⟨p, c, ch, rfl, ⟨hok, hmay⟩, rfl, -⟩ | ⟨-, leases, rfl, -⟩
    · have htaken : takenBy s label = some number := by simp [hlabel, takenBy, hstream, hopen, hok, hmay]
      exact .taken htaken hstream
    · exact .kept
  | @ended number stream hends =>
    show OwnerChange helper s label (releaseOnEof helper s.core stream.peer.connection).owner
    rcases releaseOnEof_cases helper s.core stream.peer.connection with
      ⟨heq, -⟩ | ⟨heq, hmode, owner, howner, hsame⟩ <;> rw [heq]
    · exact .kept
    · exact .ended hmode hends howner hsame
  | @submitted mutation hlabel =>
    rw [submit_core]
    rcases owner_handle helper s.core mutation with hkept | ⟨hnone, request, peer, connection, rfl, hpeer, howner⟩
    · rw [hkept]
      exact .kept
    · rw [hnone]
      exact .released hlabel hpeer howner
  | called hcall =>
    rw [(undisturbed_callStep helper s _ _ label).1.owner]
    exact .kept

variable {helper s}

/-! ## Admissions -/

/-- Something is admitted: the index or the admissions in the history change. -/
def Admits (before after : HelperControlCore) : Prop :=
  after.admissions ≠ before.admissions ∨
    after.trace.filter isAdmitted ≠ before.trace.filter isAdmitted

theorem not_admits {after : HelperControlCore} (hadmissions : after.admissions = core.admissions)
    (htrace : after.trace.filter isAdmitted = core.trace.filter isAdmitted) : ¬ Admits core after := by
  intro h
  rcases h with h | h
  · exact h hadmissions
  · exact h htrace

/-- What a handler admits is bound to the owner. -/
theorem binds_of_admits (h : Admits core (handle helper core mutation).1) : ∃ bound, Binds core mutation bound := by
  have hhandled := handled helper core mutation
  generalize (handle helper core mutation).1 = after, (handle helper core mutation).2 = outcome at hhandled h
  cases hhandled with
  | incomplete | unbound => exact absurd h (not_admits rfl rfl)
  | unchecked hbinds | leaseRefused hbinds => exact ⟨_, hbinds⟩
  | gateRefused hbinds | passed hbinds => exact ⟨_, hbinds⟩

/-- Only a mutation of the owner is admitted. -/
theorem owner_of_admits (h : Admits s.core (serviceStep helper s label).core) :
    ∃ mutation owner, label = .submit mutation ∧ s.core.owner = some owner ∧ mutation.request.peer = some owner.peer := by
  have hstepped := stepped helper s label
  generalize serviceStep helper s label = t at hstepped h
  cases hstepped with
  | idle | opened => exact absurd h (not_admits rfl rfl)
  | received hlabel hstream hopen hresult =>
    refine absurd h ?_
    rcases onLeaseMessage_cases hresult with ⟨-, -, -, -, -, rfl, -⟩ | ⟨-, leases, rfl, -⟩ <;> exact not_admits rfl rfl
  | @ended number stream hends =>
    refine absurd h ?_
    unfold endStream
    rcases releaseOnEof_cases helper s.core stream.peer.connection with ⟨heq, -⟩ | ⟨heq, -⟩ <;> rw [heq] <;>
      exact not_admits rfl rfl
  | @submitted mutation hlabel =>
    rw [submit_core] at h
    obtain ⟨bound, hbinds⟩ := binds_of_admits h
    obtain ⟨hpeer, howner, -⟩ := bindMutation_ok hbinds.2.2
    exact ⟨mutation, _, hlabel, howner, hpeer⟩
  | @called number call hcall =>
    obtain ⟨hkept, -⟩ := undisturbed_callStep helper s number call label
    exact absurd h (not_admits hkept.admissions hkept.trace)

/-! ## The stream of the owner -/

/-- The stream that established the ownership after a step: the one whose handshake is accepted, or the one before as long
as there is an owner. -/
def establishedBy (helper : Helper) (s : ServiceState) (established : Option Nat) (label : Label) : Option Nat :=
  match takenBy s label with
  | some number => some number
  | none => if (serviceStep helper s label).core.owner.isSome then established else none

/-- The service together with the stream that established the current ownership. -/
structure Observed where
  service : ServiceState
  establisher : Option Nat

def observedStep (helper : Helper) (o : Observed) (label : Label) : Observed :=
  { service := serviceStep helper o.service label, establisher := establishedBy helper o.service o.establisher label }

/-- A run of the service from boot. -/
def observedRun (helper : Helper) (labels : List Label) : Observed :=
  run (observedStep helper) { service := .initial helper, establisher := none } labels

theorem service_observedRun (helper : Helper) (labels : List Label) :
    (observedRun helper labels).service = serviceRun helper labels := by
  have hrun : ∀ o : Observed, (run (observedStep helper) o labels).service =
      run (serviceStep helper) o.service labels := by
    induction labels with
    | nil => exact fun o => rfl
    | cons label rest ih => exact fun o => ih (observedStep helper o label)
  exact hrun _

/-- An owner has the peer of the stream that established it. -/
def Owns (s : ServiceState) (owner : OwnerSession) (number : Nat) : Prop :=
  ∃ stream, s.streams number = some stream ∧ stream.leaseEstablished = true ∧
    owner = ⟨stream.peer, stream.peer.connection⟩

/-- Streams are numbered as they are opened. -/
def ServiceState.Fresh (s : ServiceState) : Prop := ∀ number, s.nextStream ≤ number → s.streams number = none

/-- Every owner was established by a stream, and streams are numbered as they are opened. -/
structure Observed.Sound (o : Observed) : Prop where
  owner : ∀ owner, o.service.core.owner = some owner → ∃ number, o.establisher = some number ∧ Owns o.service owner number
  fresh : o.service.Fresh

variable {number : Nat}

/-- An accepted handshake is one of a peer that may own. -/
theorem serviceStep_taken (helper : Helper) (h : takenBy s label = some number) :
    ∃ stream, s.streams number = some stream ∧ mayOwn s.core stream.peer = true ∧
      serviceStep helper s label =
        { s with
          core := { s.core with owner := some ⟨stream.peer, stream.peer.connection⟩ },
          streams := update s.streams number (some { stream with leaseEstablished := true }) } := by
  unfold takenBy at h
  split at h
  case h_1 found epoch principal capability channel =>
    split at h
    case h_1 stream hstream =>
      split at h
      case isTrue haccepted =>
        obtain ⟨hopen, hok, hmay⟩ := haccepted
        cases h
        refine ⟨stream, hstream, hmay, ?_⟩
        simp [serviceStep, hstream, hopen, onLeaseMessage, hok, hmay]
      case isFalse => cases h
    case h_2 => cases h
  case h_2 => cases h

theorem streams_submit (helper : Helper) (s : ServiceState) (mutation : Mutation) :
    (submit helper s mutation).1.streams = s.streams ∧ (submit helper s mutation).1.nextStream = s.nextStream := by
  unfold submit
  dsimp only
  split <;> exact ⟨rfl, rfl⟩

variable {owner : OwnerSession}

/-- An owner stays with its stream when another stream changes, or this one in nothing but its end. -/
theorem Owns.update {changed : Nat} {t : ServiceState}
    (h : Owns s owner number) (hstreams : t.streams = update s.streams changed (some stream))
    (hsame : ∀ old, s.streams changed = some old →
      stream.peer = old.peer ∧ (old.leaseEstablished = true → stream.leaseEstablished = true)) : Owns t owner number := by
  obtain ⟨found, hfound, hestablished, rfl⟩ := h
  by_cases hchanged : number = changed
  · subst hchanged
    obtain ⟨hpeer, hkept⟩ := hsame found hfound
    exact ⟨stream, by rw [hstreams, update_self], hkept hestablished, by rw [hpeer]⟩
  · exact ⟨found, by rw [hstreams, update_of_ne hchanged, hfound], hestablished, rfl⟩

theorem ServiceState.Fresh.update {t : ServiceState} (h : s.Fresh) {old : LeaseStream}
    (hold : s.streams number = some old) (hstreams : t.streams = update s.streams number (some stream))
    (hnext : t.nextStream = s.nextStream) : t.Fresh := by
  intro other hother
  rw [hnext] at hother
  have hne : other ≠ number := by
    intro heq
    rw [heq] at hother
    simp [h number hother] at hold
  rw [hstreams, update_of_ne hne, h other hother]

theorem fresh_serviceStep (h : s.Fresh) (label : Label) : (serviceStep helper s label).Fresh := by
  have hstepped := stepped helper s label
  generalize serviceStep helper s label = t at hstepped ⊢
  cases hstepped with
  | idle => exact h
  | opened =>
    intro number hnumber
    have hne : number ≠ s.nextStream := by
      intro heq
      simp only [heq] at hnumber
      omega
    exact (update_of_ne hne _ _).trans (h number (by simp only at hnumber; omega))
  | received hlabel hstream => exact h.update hstream rfl rfl
  | ended hends => exact h.update hends.1 rfl rfl
  | @submitted mutation =>
    obtain ⟨hstreams, hnext⟩ := streams_submit helper s mutation
    unfold ServiceState.Fresh
    rw [hstreams, hnext]
    exact h
  | @called number call =>
    obtain ⟨-, hstreams, hnext⟩ := undisturbed_callStep helper s number call label
    unfold ServiceState.Fresh
    rw [hstreams, hnext]
    exact h

/-- An owner after a step that accepts no handshake was the owner before it. -/
theorem owner_of_not_taken (htaken : takenBy s label = none)
    (hafter : (serviceStep helper s label).core.owner = some owner) : s.core.owner = some owner := by
  have hchange := ownerChange_serviceStep helper s label
  generalize (serviceStep helper s label).core.owner = after at hchange hafter
  cases hchange with
  | kept => exact hafter
  | taken htaken' => simp [htaken] at htaken'
  | released | ended => cases hafter

/-- A stream that established an owner stays that stream. -/
theorem owns_serviceStep (hfresh : s.Fresh) (label : Label)
    (hbefore : Owns s owner number) : Owns (serviceStep helper s label) owner number := by
  have hstepped := stepped helper s label
  generalize serviceStep helper s label = t at hstepped ⊢
  cases hstepped with
  | idle => exact hbefore
  | opened =>
    refine hbefore.update rfl ?_
    intro old hold
    simp [hfresh s.nextStream le_rfl] at hold
  | @received changed epoch message stream next core hlabel hstream hopen hresult =>
    refine hbefore.update rfl ?_
    intro old hold
    rw [hstream, some.injEq] at hold
    subst hold
    rcases onLeaseMessage_cases hresult with ⟨-, -, -, -, -, -, rfl⟩ | ⟨rfl, -⟩
    · exact ⟨rfl, fun _ => rfl⟩
    · exact ⟨rfl, fun h => h⟩
  | @ended changed stream hends =>
    refine hbefore.update rfl ?_
    intro old hold
    rw [hends.1, some.injEq] at hold
    subst hold
    exact ⟨rfl, fun h => h⟩
  | @submitted mutation =>
    unfold Owns
    rw [(streams_submit helper s mutation).1]
    exact hbefore
  | @called number call =>
    unfold Owns
    rw [(undisturbed_callStep helper s number call label).2.1]
    exact hbefore

theorem sound_observedStep (o : Observed) (label : Label) (h : o.Sound) : (observedStep helper o label).Sound where
  fresh := fresh_serviceStep h.fresh label
  owner := by
    intro owner howner
    change (serviceStep helper o.service label).core.owner = some owner at howner
    cases htaken : takenBy o.service label with
    | some number =>
      obtain ⟨stream, hstream, -, hstep⟩ := serviceStep_taken helper htaken
      refine ⟨number, by simp [observedStep, establishedBy, htaken], { stream with leaseEstablished := true }, ?_, rfl, ?_⟩
      · show (serviceStep helper o.service label).streams number = _
        rw [hstep]
        exact update_self ..
      · rw [hstep] at howner
        exact (some.inj howner).symm
    | none =>
      have hkept := owner_of_not_taken htaken howner
      obtain ⟨number, hestablisher, howns⟩ := h.owner owner hkept
      refine ⟨number, by simp [observedStep, establishedBy, htaken, howner, hestablisher], ?_⟩
      exact owns_serviceStep h.fresh label howns

/-- Along every run the owner was established by a stream. -/
theorem sound_observedRun (helper : Helper) (labels : List Label) : (observedRun helper labels).Sound := by
  have hinitial : ({ service := .initial helper, establisher := none } : Observed).Sound :=
    { owner := fun owner howner => by cases howner
      fresh := fun _ _ => rfl }
  exact invariant_of_run (fun o label h => sound_observedStep o label h) hinitial labels

end ExvVpn.HelperControl
