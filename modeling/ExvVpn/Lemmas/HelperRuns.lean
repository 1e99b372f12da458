import ExvVpn.Lemmas.HelperRecords

/-!
# The helper's records along a run

The four handlers of mutations share one shape: bind, submit, admit, finish. `Handled` says it once, with what each does of
its own in `prepared` and `finished`; what handlers and steps keep is read off it.
-/

namespace ExvVpn.HelperControl

open Domain Resource Wire List Function Option OwnerLeaseManager HelperControl OwnershipVersion Mutation Entry OptionMap

/-! ## The shape of a handler -/

/-- A mutation bound to its operation. -/
structure Bound where
  peer : PeerContext
  connection : ConnectionBinding
  wireKey : WireKey
  key : OperationLookupKey
  digest : RequestDigest

/-- The request has the parts a handler looks for before it takes the lock. -/
def Mutation.Complete : Mutation → Prop
  | .applyTunnel _ input => input.plan.isSome
  | .acquireLease _ => True
  | .stopTunnel _ => True
  | .releaseLease _ => True

variable (helper : Helper) (core : HelperControlCore) (mutation : Mutation) (bound : Bound)

def Binds : Prop :=
  mutation.request.lookupKey = some bound.wireKey ∧ mutation.Complete ∧
    bindMutation core mutation.request bound.wireKey mutation.method =
      .ok (bound.peer, bound.connection, bound.key, bound.digest)

/-- The core once the mutation is submitted. -/
def submitted : HelperControlCore :=
  core.note (.submitted bound.key bound.wireKey bound.digest mutation.request.effectId)

/-- The lease that an AcquireLease asks for. -/
def issued : OwnerLeaseManager × LeaseIssue :=
  core.leases.issue bound.connection bound.key bound.digest core.ownershipVersion (helper.digest32 bound.digest.1)

/-- The core that goes to the admission: for an AcquireLease the token slot comes first. -/
def prepared : HelperControlCore :=
  match mutation with
  | .acquireLease _ => { submitted core mutation bound with leases := (issued helper core bound).1 }
  | .applyTunnel _ _ => submitted core mutation bound
  | .stopTunnel _ => submitted core mutation bound
  | .releaseLease _ => submitted core mutation bound

/-- The receipt for the mutation in a core. -/
def receiptIn : MutationReceipt :=
  buildWireReceipt core bound.wireKey (helper.digest32 bound.digest.1) mutation.request.effectId

/-- The core once the owner is released. -/
def releasedCore (connection : ConnectionBinding) : HelperControlCore :=
  { core with
    leases := core.leases.terminateConnection connection, pendingApply := fun _ => none, owner := none,
    ownershipVersion := next core.ownershipVersion }

/-- The operation ends with a terminal. -/
def concluded (key : OperationLookupKey) (terminal : OperationTerminal) : HelperControlCore :=
  (recordTerminal helper core key terminal).note (.ended key terminal.isSucceeded)

/-- What each handler does after the gate. -/
def finished : HelperControlCore × Submitted :=
  match mutation with
  | .acquireLease _ =>
    (concluded helper core bound.key (.succeeded (receiptIn helper core mutation bound)),
      .acquired (receiptIn helper core mutation bound))
  | .applyTunnel _ _ =>
    let pending : PendingApply :=
      { key := bound.key, wireKey := bound.wireKey, canonicalInputDigest := helper.digest32 bound.digest.1,
        effectId := mutation.request.effectId }
    ({ core with pendingApply := update core.pendingApply bound.wireKey.operationId (some pending) },
      .applying bound.key bound.wireKey)
  | .stopTunnel _ => (core, .stopping bound.key bound.wireKey bound.digest.1 mutation.request.effectId)
  | .releaseLease _ =>
    let core := releasedCore core bound.connection
    (concluded helper core bound.key (.succeeded (receiptIn helper core mutation bound)),
      .released (receiptIn helper core mutation bound))

/-- What a handler submits to the index names the operation it was bound to. -/
def Submits (input : MutationAdmissionInput) : Prop :=
  input.key = bound.key ∧ input.requestDigest = bound.digest ∧ input.effectId = mutation.request.effectId

/-- What the first region of a handler can lead to. -/
inductive Handled : HelperControlCore → Except Status Submitted → Prop
  /-- The request lacks a part. -/
  | incomplete {status : Status} (h : mutation.request.lookupKey = none ∨ ¬ mutation.Complete) :
      Handled core (.error status)
  /-- It is not bound to an operation. -/
  | unbound {wireKey : WireKey} {status : Status} (hkey : mutation.request.lookupKey = some wireKey)
      (hbind : bindMutation core mutation.request wireKey mutation.method = .error status) :
      Handled core (.error status)
  /-- An ApplyTunnel does not pass the checks between binding and admission. -/
  | unchecked {bound : Bound} {status : Status} {request : MutationRequest} {input : ApplyInput}
      (hbinds : Binds core mutation bound) (hmutation : mutation = .applyTunnel request input)
      (hinput : ∀ plan ∈ input.plan, checkApply plan input = .error status) :
      Handled (submitted core mutation bound) (.error status)
  /-- An AcquireLease is refused the lease. -/
  | leaseRefused {bound : Bound} {request : MutationRequest} (hbinds : Binds core mutation bound)
      (hmutation : mutation = .acquireLease request) (hissue : (issued helper core bound).2 = .refused) :
      Handled
        (concluded helper (prepared helper core mutation bound) bound.key
          (.failed (receiptIn helper (prepared helper core mutation bound) mutation bound) wireError))
        (.ok (.acquireFailed (receiptIn helper (prepared helper core mutation bound) mutation bound) wireError))
  /-- The admission refuses it. -/
  | gateRefused {bound : Bound} {input : MutationAdmissionInput} {after : HelperControlCore} {status : Status}
      (hbinds : Binds core mutation bound)
      (hissue : mutation.method = .acquireLease → (issued helper core bound).2 ≠ .refused)
      (hgate : admitAndGate helper (prepared helper core mutation bound) input = (after, .error status))
      (hinput : Submits mutation bound input) :
      Handled after (.error status)
  /-- It passes. -/
  | passed {bound : Bound} {input : MutationAdmissionInput} {after : HelperControlCore} {record : MutationAdmitted}
      (hbinds : Binds core mutation bound)
      (hissue : mutation.method = .acquireLease → (issued helper core bound).2 ≠ .refused)
      (hgate : admitAndGate helper (prepared helper core mutation bound) input = (after, .ok record))
      (hinput : Submits mutation bound input) :
      Handled (finished helper after mutation bound).1 (.ok (finished helper after mutation bound).2)

variable {helper core mutation bound}

/-- A mutation is bound to one operation. -/
theorem Binds.unique {other : Bound} (h : Binds core mutation bound) (hother : Binds core mutation other) : other = bound := by
  obtain ⟨hwire, -, hbind⟩ := h
  obtain ⟨hotherWire, -, hotherBind⟩ := hother
  rw [hwire, some.injEq] at hotherWire
  rw [← hotherWire, hbind] at hotherBind
  obtain ⟨peer, connection, wireKey, key, digest⟩ := bound
  obtain ⟨rfl, rfl, rfl, rfl⟩ := hotherBind
  subst hotherWire
  rfl

theorem Binds.digest_eq (h : Binds core mutation bound) : bound.digest.1 = mutation.request.requestDigest :=
  (bindMutation_ok h.2.2).2.2.2.2

variable {request : MutationRequest}

theorem handled_acquireLease :
    Handled helper core (.acquireLease request) (acquireLease helper core request).1
      (acquireLease helper core request).2 := by
  unfold acquireLease
  split
  case h_1 hkey => exact .incomplete (.inl hkey)
  case h_2 wireKey hkey =>
    split
    case h_1 status hbind => exact .unbound hkey hbind
    case h_2 peer connection key digest hbind =>
      have hbinds : Binds core (.acquireLease request) ⟨peer, connection, wireKey, key, digest⟩ := ⟨hkey, trivial, hbind⟩
      have hdigest : digest.1 = request.requestDigest := hbinds.digest_eq
      rw [← hdigest]
      dsimp only
      split
      case h_1 leases hissue =>
        obtain ⟨rfl, hrefused⟩ := Prod.mk.inj hissue
        exact .leaseRefused hbinds rfl hrefused
      case h_2 leases outcome hne hissue =>
        obtain ⟨rfl, houtcome⟩ := Prod.mk.inj hissue
        have hnot : (issued helper core ⟨peer, connection, wireKey, key, digest⟩).2 ≠ .refused :=
          fun h => hne (houtcome.symm.trans h)
        split
        case h_1 after status hgate => exact .gateRefused hbinds (fun _ => hnot) hgate ⟨rfl, rfl, rfl⟩
        case h_2 after record hgate =>
          have hpassed := Handled.passed hbinds (fun _ => hnot) hgate ⟨rfl, rfl, rfl⟩
          exact hpassed

theorem handled_applyTunnel {input : ApplyInput} :
    Handled helper core (.applyTunnel request input) (applyTunnel helper core request input).1
      (applyTunnel helper core request input).2 := by
  unfold applyTunnel
  split
  case h_1 hkey => exact .incomplete (.inl hkey)
  case h_2 wireKey hkey =>
    split
    case h_1 hplan => exact .incomplete (.inr (by simp [Mutation.Complete, hplan]))
    case h_2 plan hplan =>
      split
      case h_1 status hbind => exact .unbound hkey hbind
      case h_2 peer connection key digest hbind =>
        have hcomplete : (Mutation.applyTunnel request input).Complete := by simp [Mutation.Complete, hplan]
        have hbinds : Binds core (.applyTunnel request input) ⟨peer, connection, wireKey, key, digest⟩ :=
          ⟨hkey, hcomplete, hbind⟩
        have hdigest : digest.1 = request.requestDigest := hbinds.digest_eq
        rw [← hdigest]
        dsimp only
        split
        case h_1 status hcheck =>
          refine .unchecked hbinds rfl fun other hother => ?_
          rw [hplan, mem_some_iff] at hother
          exact hother ▸ hcheck
        case h_2 =>
          split
          case h_1 after status hgate => exact .gateRefused hbinds (fun h => by simp [Mutation.method] at h) hgate ⟨rfl, rfl, rfl⟩
          case h_2 after record hgate => exact .passed hbinds (fun h => by simp [Mutation.method] at h) hgate ⟨rfl, rfl, rfl⟩

/-- Every handler has that shape. -/
theorem handled (helper : Helper) (core : HelperControlCore) (mutation : Mutation) :
    Handled helper core mutation (handle helper core mutation).1 (handle helper core mutation).2 := by
  cases hmutation : mutation with
  | acquireLease => exact handled_acquireLease
  | applyTunnel => exact handled_applyTunnel
  | stopTunnel request | releaseLease request =>
    dsimp only [handle, stopTunnel, releaseLease]
    split
    case h_1 hkey => exact .incomplete (.inl hkey)
    case h_2 wireKey hkey =>
      split
      case h_1 status hbind => exact .unbound hkey hbind
      case h_2 peer connection key digest hbind =>
        have hbinds : Binds core mutation ⟨peer, connection, wireKey, key, digest⟩ := by
          subst hmutation
          exact ⟨hkey, trivial, hbind⟩
        rw [hmutation] at hbinds
        have hdigest : digest.1 = request.requestDigest := hbinds.digest_eq
        rw [← hdigest]
        split
        case h_1 after status hgate => exact .gateRefused hbinds (fun h => by simp [method] at h) hgate ⟨rfl, rfl, rfl⟩
        case h_2 after record hgate => exact .passed hbinds (fun h => by simp [method] at h) hgate ⟨rfl, rfl, rfl⟩

/-! ## What a handler keeps -/

variable {key : OperationLookupKey} {wireKey : WireKey} {digest : RequestDigest} {effectId : EffectId}

namespace HelperControlCore.Recorded

/-- An operation ends with a receipt of its own. -/
theorem conclude (h : core.Recorded helper) {terminal : OperationTerminal}
    (hreceipt : core.Receipted helper key terminal.receipt) :
    (HelperControl.concluded helper core key terminal).Recorded helper := by
  have hnoted : (core.note (.ended key terminal.isSucceeded)).Recorded helper := h.note
  obtain ⟨digest, hmem, hdigest⟩ := hreceipt
  have hmem := mem_cons_of_mem (ended key terminal.isSucceeded) hmem
  exact hnoted.recordTerminal
    ⟨key, rfl, ⟨digest, hmem, hdigest⟩, key, mem_cons_self, ⟨_, digest, _, hmem⟩, .inl rfl⟩

variable (h : core.Recorded helper)
include h

/-- A resolved lease holds nothing new. -/
theorem resolveLease {connection : ConnectionBinding} {leases : OwnerLeaseManager}
    (hleases : OwnerLeaseManager.Resolves connection core.leases leases) :
    ({ core with leases } : HelperControlCore).Recorded helper :=
  { h with mirrored := hleases.mirrored h.mirrored, held := fun other slot hslot => h.held other slot (hleases.holding hslot) }

/-- The core that goes to the admission. -/
theorem prepared : (prepared helper core mutation bound).Recorded helper := by
  have hsubmitted : (submitted core mutation bound).Recorded helper := h.note
  cases mutation with
  | acquireLease request =>
    refine { hsubmitted with mirrored := mirrored_issue h.mirrored, held := fun other slot hslot => ?_ }
    rcases holding_issue hslot with hold | rfl
    · exact hsubmitted.held other slot hold
    · exact ⟨_, _, mem_cons_self⟩
  | applyTunnel | stopTunnel | releaseLease => exact hsubmitted

/-- No apply is pending any more. -/
theorem clearPending : ({ core with pendingApply := fun _ => none } : HelperControlCore).Recorded helper :=
  { h with awaited := fun _ _ hp => by simp at hp }

end HelperControlCore.Recorded

/-- The entry of a mutation that is submitted. -/
def Bound.entry (bound : Bound) (mutation : Mutation) : Entry :=
  .submitted bound.key bound.wireKey bound.digest mutation.request.effectId

theorem trace_prepared : (prepared helper core mutation bound).trace = bound.entry mutation :: core.trace := by
  cases mutation <;> rfl

variable {after : HelperControlCore}

/-- After the admission, the records are kept and the history has grown. -/
theorem gated {input : MutationAdmissionInput} {outcome : Except Status MutationAdmitted}
    (h : core.Recorded helper) (hinput : Submits mutation bound input)
    (hgate : admitAndGate helper (prepared helper core mutation bound) input = (after, outcome)) :
    after.Recorded helper ∧ bound.entry mutation ∈ after.trace ∧ core.trace ⊆ after.trace := by
  obtain ⟨hkey, hdigest, heffect⟩ := hinput
  have hafter : (admitAndGate helper (prepared helper core mutation bound) input).1 = after := by rw [hgate]
  have hsub : bound.entry mutation :: core.trace ⊆ after.trace := by
    rw [← hafter]
    rw [← trace_prepared]
    exact (frame_admitAndGate ..).2.2.2
  have hmem : Entry.submitted input.key bound.wireKey input.requestDigest input.effectId ∈
      (prepared helper core mutation bound).trace := by
    rw [trace_prepared, hkey, hdigest, heffect]
    exact mem_cons_self
  exact ⟨hafter ▸ h.prepared.admitAndGate hmem, hsub mem_cons_self, fun e he => hsub (mem_cons_of_mem _ he)⟩

/-- What a handler does after the gate keeps the records. -/
theorem recorded_finished (h : after.Recorded helper) (hbinds : Binds core mutation bound)
    (hmem : bound.entry mutation ∈ after.trace) : (finished helper after mutation bound).1.Recorded helper := by
  cases mutation with
  | acquireLease request => exact h.conclude ⟨bound.digest, hmem, rfl⟩
  | applyTunnel request input =>
    obtain ⟨-, -, hkey, hmethod, -⟩ := bindMutation_ok hbinds.2.2
    obtain ⟨-, -, -, hid⟩ := lookupKeyFromWire_ok hkey
    refine { h with awaited := forall_update (fun op p hp _ => h.awaited op p hp) fun p hp => ?_ }
    cases hp
    exact ⟨hmethod, hid, bound.digest, hmem, rfl⟩
  | stopTunnel request => exact h
  | releaseLease request =>
    have hresolved := h.resolveLease (OwnerLeaseManager.resolves_terminateConnection after.leases bound.connection)
    have hreleased := hresolved.clearPending.setOwner none (OwnershipVersion.next after.ownershipVersion) after.watermark
    exact hreleased.conclude ⟨bound.digest, hmem, rfl⟩

theorem trace_finished : after.trace ⊆ (finished helper after mutation bound).1.trace := by
  cases mutation with
  | acquireLease | releaseLease => exact subset_cons_self _ _
  | applyTunnel | stopTunnel => exact fun _ h => h

/-- A handler keeps the records and loses nothing of the history. -/
theorem recorded_handle (h : core.Recorded helper) (mutation : Mutation) :
    (handle helper core mutation).1.Recorded helper ∧ core.trace ⊆ (handle helper core mutation).1.trace := by
  have hhandled := handled helper core mutation
  generalize (handle helper core mutation).1 = after, (handle helper core mutation).2 = outcome at hhandled ⊢
  cases hhandled with
  | incomplete | unbound => exact ⟨h, fun _ h => h⟩
  | unchecked => exact ⟨h.note, subset_cons_self _ _⟩
  | leaseRefused hbinds hmutation hissue =>
    subst hmutation
    exact ⟨h.prepared.conclude ⟨_, mem_cons_self, rfl⟩, fun _ h => mem_cons_of_mem _ (mem_cons_of_mem _ h)⟩
  | gateRefused hbinds hissue hgate hinput =>
    obtain ⟨hafter, -, hsub⟩ := gated h hinput hgate
    exact ⟨hafter, hsub⟩
  | passed hbinds hissue hgate hinput =>
    obtain ⟨hafter, hmem, hsub⟩ := gated h hinput hgate
    exact ⟨recorded_finished hafter hbinds hmem, fun _ he => trace_finished (hsub he)⟩

/-! ## Status events -/

namespace HelperControlCore.Recorded

/-- The end of a stop whose submission is known. -/
theorem finishStop (h : core.Recorded helper) (hmem : Entry.submitted key wireKey digest effectId ∈ core.trace) :
    (HelperControl.finishStop helper core key wireKey digest.1 effectId).Recorded helper :=
  h.clearPending.conclude ⟨digest, hmem, rfl⟩

/-- The observer records the end of an apply under the pending one with its operation id. -/
theorem observeEnd (h : core.Recorded helper) {ending : OperationLookupKey} {succeeded : Bool} {operationId : Bytes}
    {terminal : MutationReceipt → OperationTerminal} (hended : ended ending succeeded ∈ core.trace)
    (hsubmitted : core.WasSubmitted ending)
    (hmethod : ending.method = .applyTunnel) (hid : ending.operationId.1 = operationId)
    (hterminal : ∀ receipt, (terminal receipt).receipt = receipt ∧ (terminal receipt).isSucceeded = succeeded) :
    (HelperControl.observeEnd helper core operationId terminal).Recorded helper := by
  unfold HelperControl.observeEnd
  split
  · exact h
  case h_2 pending hpending =>
    obtain ⟨hpmethod, hpid, digest, hmem, hdigest⟩ := h.awaited operationId pending hpending
    have hremoved : ({ core with pendingApply := update core.pendingApply operationId none } :
        HelperControlCore).Recorded helper :=
      { h with awaited := forall_update (fun op p hp _ => h.awaited op p hp) fun p hp => by simp at hp }
    refine hremoved.recordTerminal ⟨pending.key, rfl, ?_, ending, ?_, hsubmitted, .inr ⟨hmethod, hpmethod, ?_⟩⟩
    · rw [(hterminal _).1]
      exact ⟨digest, hmem, hdigest⟩
    · rw [(hterminal _).2]
      exact hended
    · exact Subtype.ext (hid.trans hpid.symm)

end HelperControlCore.Recorded

theorem trace_terminalObserver {event : StatusEvent} : (terminalObserver helper core event).trace = core.trace := by
  unfold terminalObserver
  split
  · unfold observeEnd
    split <;> rfl
  · unfold observeEnd
    split <;> rfl
  · rfl
  · rfl

/-! ## Calls -/

/-- A call was submitted, and so was what it still needs. -/
def Call.Sound (call : Call) (trace : List Entry) : Prop :=
  call.key.operationId.1 = call.wireKey.operationId ∧
    (∃ wireKey digest effectId, Entry.submitted call.key wireKey digest effectId ∈ trace) ∧
    match call.pc with
    | .starting => call.key.method = .applyTunnel
    | .assembling => call.key.method = .applyTunnel
    | .refused _ => call.key.method = .applyTunnel
    | .stopping requestDigest effectId =>
      ∃ digest : RequestDigest, digest.1 = requestDigest ∧ Entry.submitted call.key call.wireKey digest effectId ∈ trace
    | .stopped => True
    | .replied => True

variable {call : Call}

theorem Call.Sound.mono {before after : List Entry} (h : call.Sound before) (hsub : before ⊆ after) :
    call.Sound after := by
  obtain ⟨key, wireKey, pc⟩ := call
  obtain ⟨hid, ⟨wire, digest, effectId, hmem⟩, hpc⟩ := h
  refine ⟨hid, ⟨wire, digest, effectId, hsub hmem⟩, ?_⟩
  cases pc with
  | stopping requestDigest effectId =>
    obtain ⟨digest, hdigest, hmem⟩ := hpc
    exact ⟨digest, hdigest, hsub hmem⟩
  | starting | assembling | refused | stopped | replied => exact hpc

/-- The call a handler goes on with is sound. -/
theorem sound_handle (h : core.Recorded helper) (hcall : nextCallOf (handle helper core mutation).2 = some call) :
    call.Sound (handle helper core mutation).1.trace := by
  have hhandled := handled helper core mutation
  generalize (handle helper core mutation).1 = after, (handle helper core mutation).2 = outcome at hhandled hcall ⊢
  cases hhandled with
  | incomplete | unbound => simp [nextCallOf] at hcall
  | unchecked | gateRefused => simp [nextCallOf] at hcall
  | leaseRefused => simp [nextCallOf, Submitted.call] at hcall
  | passed hbinds hissue hgate hinput =>
    obtain ⟨-, hmem, -⟩ := gated h hinput hgate
    obtain ⟨-, -, hkey, hmethod, -⟩ := bindMutation_ok hbinds.2.2
    obtain ⟨-, -, -, hid⟩ := lookupKeyFromWire_ok hkey
    cases mutation with
    | acquireLease | releaseLease => simp [nextCallOf, finished, Submitted.call] at hcall
    | applyTunnel =>
      cases hcall
      exact ⟨hid, ⟨_, _, _, hmem⟩, hmethod⟩
    | stopTunnel =>
      cases hcall
      exact ⟨hid, ⟨_, _, _, hmem⟩, _, rfl, hmem⟩

/-! ## Steps of the service -/

/-- The records are kept, and what the calls need was submitted. -/
structure ServiceState.Sound (helper : Helper) (s : ServiceState) : Prop where
  core : s.core.Recorded helper
  calls : ∀ number call, s.calls number = some call → call.Sound s.core.trace

theorem sound_initial (helper : Helper) : (ServiceState.initial helper).Sound helper where
  core := HelperControlCore.recorded_new helper
  calls _ _ h := by simp [ServiceState.initial] at h

variable {s : ServiceState}

namespace ServiceState.Sound

/-- The core changes, and nothing of the history is lost. -/
theorem setCore (h : s.Sound helper) (hafter : after.Recorded helper)
    (hsub : s.core.trace ⊆ after.trace) : ({ s with core := after } : ServiceState).Sound helper where
  core := hafter
  calls number call hcall := (h.calls number call hcall).mono hsub

/-- One call changes. -/
theorem setCall (h : s.Sound helper) (number : Nat) (hcall : call.Sound s.core.trace) :
    ({ s with calls := update s.calls number (some call) } : ServiceState).Sound helper where
  core := h.core
  calls := forall_update (fun n c hc _ => h.calls n c hc) fun c hc => by
    cases hc
    exact hcall

/-- One call goes on. -/
theorem setPc (h : s.Sound helper) (number : Nat) (call : Call) (pc : CallPc)
    (hcall : ({ call with pc } : Call).Sound s.core.trace) : (s.setPc number call pc).Sound helper :=
  h.setCall number hcall

end ServiceState.Sound

/-- The events that end an operation are those of applies. -/
def Ends (key : OperationLookupKey) (event : StatusEvent) : Prop :=
  event.coarsePhase ≠ .idle → key.method = .applyTunnel ∧ key.operationId.1 = event.operationId

theorem sound_publish (h : s.Sound helper) {event : StatusEvent}
    (hsubmitted : s.core.WasSubmitted key) (hends : Ends key event) : (publish helper s key event).Sound helper := by
  unfold publish
  dsimp only
  split
  · exact h
  obtain ⟨operationId, phase, error⟩ := event
  have hended : ∀ succeeded, (s.core.note (.ended key succeeded)).Recorded helper := fun _ => h.core.note
  refine ⟨?_, fun number call hcall => (h.calls number call hcall).mono ?_⟩
  · cases phase with
    | idle | connecting => exact h.core
    | connected =>
      obtain ⟨hmethod, hid⟩ := hends (by simp)
      exact (hended true).observeEnd mem_cons_self (hsubmitted.note _) hmethod hid fun _ => ⟨rfl, rfl⟩
    | failed =>
      obtain ⟨hmethod, hid⟩ := hends (by simp)
      show (observeEnd helper (s.core.note (.ended key false)) operationId
        fun receipt => .failed receipt (error.getD wireError)).Recorded helper
      exact (hended false).observeEnd mem_cons_self (hsubmitted.note _) hmethod hid fun _ => ⟨rfl, rfl⟩
  · rw [trace_terminalObserver]
    cases phase with
    | idle | connecting => exact fun _ h => h
    | connected | failed => exact subset_cons_self _ _

/-- The end of a stream releases the owner of its connection, or changes nothing. -/
theorem releaseOnEof_cases (helper : Helper) (core : HelperControlCore) (connection : ConnectionBinding) :
    (releaseOnEof helper core connection = core ∧
        (helper.connectionMode = .service → ∀ owner, core.owner = some owner → owner.connection ≠ connection)) ∨
      (releaseOnEof helper core connection =
          { core with
            leases := core.leases.terminateConnection connection, owner := none,
            ownershipVersion := next core.ownershipVersion } ∧
        helper.connectionMode = .service ∧ ∃ owner, core.owner = some owner ∧ owner.connection = connection) := by
  unfold releaseOnEof
  split
  case h_1 hmode => exact .inl ⟨rfl, fun hservice => by simp [hmode] at hservice⟩
  case h_2 hmode =>
    split
    case h_1 hnone => exact .inl ⟨rfl, fun _ owner howner => by simp [hnone] at howner⟩
    case h_2 owner howner =>
      split
      case isTrue hsame => exact .inr ⟨rfl, hmode, owner, howner, hsame⟩
      case isFalse hother =>
        refine .inl ⟨rfl, fun _ found hfound => ?_⟩
        rw [howner, some.injEq] at hfound
        exact hfound ▸ hother

theorem recorded_releaseOnEof (h : core.Recorded helper) (connection : ConnectionBinding) :
    (releaseOnEof helper core connection).Recorded helper ∧ (releaseOnEof helper core connection).trace = core.trace := by
  rcases releaseOnEof_cases helper core connection with ⟨heq, -⟩ | ⟨heq, -⟩
  · rw [heq]
    exact ⟨h, rfl⟩
  · rw [heq]
    have hresolved := h.resolveLease (resolves_terminateConnection core.leases connection)
    exact ⟨hresolved.setOwner .., rfl⟩

/-- A message that does not end its stream is an accepted handshake, or leaves the stream alone and at most resolves a
lease. -/
theorem onLeaseMessage_cases {stream after : LeaseStream} {epoch : Bytes} {message : HostLeaseMessage}
    {result : HelperControlCore} (h : onLeaseMessage helper core stream epoch message = some (result, after)) :
    (∃ principal capability channel, message = .handshake principal capability channel ∧
        (handshakeOk stream.peer principal capability channel ∧ mayOwn core stream.peer) ∧
        result = { core with owner := some ⟨stream.peer, stream.peer.connection⟩ } ∧
        after = { stream with leaseEstablished := true }) ∨
      after = stream ∧ ∃ leases, result = { core with leases } ∧
        (leases = core.leases ∨ ∃ connection, OwnerLeaseManager.Resolves connection core.leases leases) := by
  unfold onLeaseMessage at h
  split at h <;> obtain ⟨haccepted, heq⟩ := ite_none_right_eq_some.mp h <;> cases heq
  · exact .inl ⟨_, _, _, rfl, haccepted, rfl, rfl⟩
  · exact .inr ⟨rfl, _, rfl, .inl rfl⟩
  · refine .inr ⟨rfl, ?_⟩
    unfold ackToken
    split
    · split
      · exact ⟨_, rfl, .inr ⟨_, resolves_ack⟩⟩
      · exact ⟨_, rfl, .inl rfl⟩
    · exact ⟨_, rfl, .inl rfl⟩
  · exact .inr ⟨rfl, _, rfl, .inl rfl⟩

theorem sound_endStream (h : s.Sound helper) (number : Nat) (stream : LeaseStream) :
    (endStream helper s number stream).Sound helper := by
  obtain ⟨hcore, htrace⟩ := recorded_releaseOnEof h.core stream.peer.connection
  exact ⟨hcore, fun n call hcall => (h.calls n call hcall).mono (by rw [endStream, htrace]; exact fun _ h => h)⟩

theorem submit_core (helper : Helper) (s : ServiceState) (mutation : Mutation) :
    (submit helper s mutation).1.core = (handle helper s.core mutation).1 := by
  unfold submit
  dsimp only
  split <;> rfl

theorem submit_outcome (helper : Helper) (s : ServiceState) (mutation : Mutation) :
    (submit helper s mutation).2 = (handle helper s.core mutation).2 := by
  unfold submit
  dsimp only
  split <;> rfl

theorem sound_submit (h : s.Sound helper) (mutation : Mutation) : (submit helper s mutation).1.Sound helper := by
  have hset := h.setCore (recorded_handle h.core mutation).1 (recorded_handle h.core mutation).2
  unfold submit
  dsimp only
  split
  case h_1 call hcall =>
    have hnew := hset.setCall s.nextCall (sound_handle h.core hcall)
    exact ⟨hnew.core, hnew.calls⟩
  case h_2 => exact hset

/-- A step of a call. -/
theorem sound_callStep (h : s.Sound helper) {number : Nat} (hcall : s.calls number = some call)
    (label : Label) : (callStep helper s number call label).Sound helper := by
  have hsound := h.calls number call hcall
  obtain ⟨key, wireKey, pc⟩ := call
  obtain ⟨hid, hmem, hpc⟩ := hsound
  unfold callStep
  cases label with
  | startApply =>
    dsimp only
    split
    · have hset := h.setPc number ⟨key, wireKey, .starting⟩ .assembling ⟨hid, hmem, hpc⟩
      exact hset.setCore (h.core.note) (subset_cons_self _ _)
    · exact h
  | startReturned _ refusal =>
    dsimp only
    split
    · exact h.setPc number _ _ ⟨hid, hmem, hpc⟩
    · exact h.setPc number _ .replied ⟨hid, hmem, trivial⟩
    · exact h
  | refusedPublish =>
    dsimp only
    split
    case h_1 error =>
      refine sound_publish (h.setPc number ⟨key, wireKey, .refused error⟩ .replied ⟨hid, hmem, trivial⟩) hmem ?_
      exact fun _ => ⟨hpc, hid⟩
    case h_2 => exact h
  | runtimeStatus _ phase error =>
    dsimp only
    split
    case isTrue hrunning => exact sound_publish h hmem fun _ => ⟨hrunning.1, hid⟩
    case isFalse => exact h
  | disconnected _ joined =>
    dsimp only
    split
    case h_1 requestDigest effectId =>
      split
      · obtain ⟨digest, rfl, hstop⟩ := hpc
        have hset := h.setPc number ⟨key, wireKey, .stopping digest.1 effectId⟩ .stopped ⟨hid, hmem, trivial⟩
        exact hset.setCore (h.core.finishStop hstop) (subset_cons_self _ _)
      · exact h.setPc number _ .replied ⟨hid, hmem, trivial⟩
    case h_2 => exact h
  | idlePublish =>
    dsimp only
    split
    · refine sound_publish (h.setPc number ⟨key, wireKey, .stopped⟩ .replied ⟨hid, hmem, trivial⟩) hmem ?_
      exact fun hidle => absurd rfl hidle
    · exact h
  | openLease | leaseMessage | leaseEnd | submit => exact h

variable (helper s) (label : Label)

/-- The step ends this open stream: the client closes it, or one of its messages is refused. -/
def EndsStream (number : Nat) (stream : LeaseStream) : Prop :=
  s.streams number = some stream ∧ stream.ended = false ∧
    (label = .leaseEnd number ∨
      ∃ runtimeEpoch message, label = .leaseMessage number runtimeEpoch message ∧
        onLeaseMessage helper s.core stream runtimeEpoch message = none)

/-- What a step can lead to. -/
inductive Stepped : ServiceState → Prop
  /-- The label is not enabled. -/
  | idle : Stepped s
  /-- A stream is opened. -/
  | opened {peer : PeerContext} (hlabel : label = .openLease (some peer)) :
      Stepped
        { s with
          streams := update s.streams s.nextStream (some { peer, leaseEstablished := false, ended := false }),
          nextStream := s.nextStream + 1 }
  /-- A stream goes on with a message. -/
  | received {number : Nat} {runtimeEpoch : Bytes} {message : HostLeaseMessage} {stream next : LeaseStream}
      {core : HelperControlCore} (hlabel : label = .leaseMessage number runtimeEpoch message)
      (hstream : s.streams number = some stream) (hopen : stream.ended = false)
      (hresult : onLeaseMessage helper s.core stream runtimeEpoch message = some (core, next)) :
      Stepped { s with core, streams := update s.streams number (some next) }
  /-- A stream ends. -/
  | ended {number : Nat} {stream : LeaseStream} (hends : EndsStream helper s label number stream) :
      Stepped (endStream helper s number stream)
  /-- A mutation is submitted. -/
  | submitted {mutation : Mutation} (hlabel : label = .submit mutation) : Stepped (submit helper s mutation).1
  /-- A call goes on. -/
  | called {number : Nat} {call : Call} (hcall : s.calls number = some call) :
      Stepped (callStep helper s number call label)

/-- Every step leads to one of these. -/
theorem stepped : Stepped helper s label (serviceStep helper s label) := by
  cases label with
  | openLease peer =>
    cases peer with
    | none => exact .idle
    | some peer => exact .opened rfl
  | leaseMessage number runtimeEpoch message =>
    unfold serviceStep
    dsimp only
    split
    case h_1 => exact .idle
    case h_2 stream hstream =>
      split
      case isTrue => exact .idle
      case isFalse hopen =>
        have hopen := eq_false_of_ne_true hopen
        split
        case h_1 hresult => exact .ended ⟨hstream, hopen, .inr ⟨runtimeEpoch, message, rfl, hresult⟩⟩
        case h_2 core next hresult => exact .received rfl hstream hopen hresult
  | leaseEnd number =>
    unfold serviceStep
    dsimp only
    split
    case h_1 => exact .idle
    case h_2 stream hstream =>
      split
      case isTrue => exact .idle
      case isFalse hopen => exact .ended ⟨hstream, eq_false_of_ne_true hopen, .inl rfl⟩
  | submit mutation => exact .submitted rfl
  | startApply number | startReturned number _ | refusedPublish number | runtimeStatus number _ _ | disconnected number _
  | idlePublish number =>
    simp only [serviceStep, Label.call]
    cases hcall : s.calls number with
    | none => exact .idle
    | some call => exact .called hcall

variable {helper}

/-- Every step keeps the records. -/
theorem sound_serviceStep (h : s.Sound helper) : (serviceStep helper s label).Sound helper := by
  have hstepped := stepped helper s label
  generalize serviceStep helper s label = t at hstepped ⊢
  cases hstepped with
  | idle => exact h
  | opened => exact ⟨h.core, h.calls⟩
  | received hlabel hstream hopen hresult =>
    rcases onLeaseMessage_cases hresult with ⟨-, -, -, -, -, rfl, -⟩ | ⟨-, leases, rfl, rfl | ⟨connection, hresolves⟩⟩
    · exact ⟨h.core.setOwner .., h.calls⟩
    · exact ⟨h.core, h.calls⟩
    · exact ⟨h.core.resolveLease hresolves, h.calls⟩
  | ended => exact sound_endStream h _ _
  | submitted => exact sound_submit h _
  | called hcall => exact sound_callStep h hcall label

/-- Along every run from boot everything on record comes from submissions. -/
theorem sound_serviceRun (helper : Helper) (labels : List Label) : (serviceRun helper labels).Sound helper :=
  Transition.invariant_of_run (fun s label h => sound_serviceStep s label h) (sound_initial helper) labels

end ExvVpn.HelperControl
