import ExvVpn.Lemmas.HelperRuns

/-!
# Operations of the Windows helper

The index and the terminals are filed under a digest that leaves the operation id out, the gate under the whole key, and the
pending applies under the operation id alone. Where no two operations meet there, GetOperation speaks about the operation it
was asked for; a new operation is refused as not durable exactly when it meets an earlier one with its own request digest; and
an operation submitted again is never answered with the receipt of the first, since every submission draws an effect id of its
own.
-/

namespace ExvVpn.HelperControl

open Domain Resource Wire List Option HelperControlCore OwnerLeaseManager Entry

/-! ## GetOperation -/

variable (helper : Helper) (core : HelperControlCore) (key : OperationLookupKey)

/-- The state is that of a submission with exactly this key. -/
def Answers : OperationState → Prop
  | .pending =>
    ∃ wireKey digest record, core.admissions.entries (helper.fileOf key) = some (.admitted digest record) ∧
      record.journalOperationIdentity = .external key ∧ Entry.submitted key wireKey digest record.effectId ∈ core.trace
  | .terminal terminal =>
    core.Receipted helper key terminal.receipt ∧ Entry.ended key terminal.isSucceeded ∈ core.trace
  | .rejected _ _ => False
  | .absent _ _ _ => False
  | .unknown => True

/-- No other operation of this principal, method and runtime epoch was submitted, and no other apply with this operation
id. -/
def OnlyOperation : Prop :=
  ∀ other, core.WasSubmitted other →
    (other.principalDigest = key.principalDigest ∧ other.method = key.method ∧ other.runtimeEpoch = key.runtimeEpoch →
      other = key) ∧
    (other.method = .applyTunnel ∧ key.method = .applyTunnel ∧ other.operationId = key.operationId → other = key)

/-- The canonical digest of this key is that of no submitted key with other hashed bytes. -/
def NoCollision : Prop :=
  ∀ other, core.WasSubmitted other → helper.fileOf other = helper.fileOf key → other.hashed = key.hashed

namespace OperationsAux

variable {helper core key} {other : OperationLookupKey}

theorem methodByte_inj {m n : OperationMethod} (h : methodByte m = methodByte n) : m = n := by
  cases m <;> cases n <;> first | rfl | (exfalso; revert h; decide)

/-- The hashed bytes are the principal, the method and the epoch. -/
theorem hashed_inj (h : other.hashed = key.hashed) :
    other.principalDigest = key.principalDigest ∧ other.method = key.method ∧ other.runtimeEpoch = key.runtimeEpoch := by
  have hlength : other.principalDigest.1.length = key.principalDigest.1.length :=
    other.principalDigest.2.trans key.principalDigest.2.symm
  obtain ⟨hprincipal, hrest⟩ := append_inj h hlength
  obtain ⟨hmethod, hepoch⟩ := cons.inj hrest
  exact ⟨Subtype.ext hprincipal, methodByte_inj hmethod, Subtype.ext hepoch⟩

/-- An answer about an operation that was not submitted is unknown. -/
theorem unknown_of_answers {state : OperationState} (h : Answers helper core key state) (hnot : ¬ core.WasSubmitted key) :
    state = .unknown := by
  cases state with
  | unknown => rfl
  | pending =>
    obtain ⟨wireKey, digest, record, -, -, hmem⟩ := h
    exact absurd ⟨wireKey, digest, _, hmem⟩ hnot
  | terminal terminal =>
    obtain ⟨⟨digest, hmem, -⟩, -⟩ := h
    exact absurd ⟨_, digest, _, hmem⟩ hnot
  | rejected | absent => exact h.elim

variable (honly : OnlyOperation core key) (hcollision : NoCollision helper core key)
include honly hcollision

/-- A submitted operation in the file of this key is this one. -/
theorem eq_of_file (hsubmitted : core.WasSubmitted other) (hfile : helper.fileOf other = helper.fileOf key) : other = key :=
  (honly other hsubmitted).1 (hashed_inj (hcollision other hsubmitted hfile))

variable (h : core.Recorded helper)
include h

theorem answers_of_terminal {terminal : OperationTerminal}
    (hterminal : core.terminals (helper.fileOf key) = some terminal) : Answers helper core key (.terminal terminal) := by
  obtain ⟨other, hfile, hreceipt, ending, hended, hending, hsame⟩ := h.concluded _ _ hterminal
  have hsubmitted : core.WasSubmitted other := by
    obtain ⟨digest, hmem, -⟩ := hreceipt
    exact ⟨_, _, _, hmem⟩
  have hother := eq_of_file honly hcollision hsubmitted hfile
  subst hother
  refine ⟨hreceipt, ?_⟩
  rcases hsame with rfl | happly
  · exact hended
  · rw [← (honly ending hending).2 happly]
    exact hended

theorem answers_operationState (wireKey : WireKey) :
    Answers helper core key (operationState helper core wireKey key) := by
  unfold operationState
  split
  case h_1 terminal hterminal => exact answers_of_terminal honly hcollision h hterminal
  case h_2 =>
    unfold AdmissionIndex.getOperation
    cases hentry : core.admissions.entries (helper.fileOf key) with
    | none => exact trivial
    | some entry =>
      obtain ⟨other, wire, digest, record, rfl, hid, hfile, hmem⟩ := h.sealed _ entry hentry
      have hother := eq_of_file honly hcollision ⟨wire, digest, _, hmem⟩ hfile
      subst hother
      exact ⟨wire, digest, record, hentry, hid, hmem⟩

end OperationsAux

open OperationsAux

/-- After every run, GetOperation speaks about the operation it was asked for, if no other one meets it. -/
theorem get_operation_answers (helper : Helper) (labels : List Label) (peer : PeerContext) (wireKey : WireKey)
    (key : OperationLookupKey) (hkey : lookupKeyFromWire wireKey peer.principal = .ok key)
    (hcollision : NoCollision helper (serviceRun helper labels).core key)
    (honly : OnlyOperation (serviceRun helper labels).core key) :
    ∃ state, getOperation helper (serviceRun helper labels).core (some peer) (some wireKey) = .ok state ∧
      Answers helper (serviceRun helper labels).core key state ∧
      (¬ (serviceRun helper labels).core.WasSubmitted key → state = .unknown) := by
  have hrecorded := (sound_serviceRun helper labels).core
  have hanswers := answers_operationState honly hcollision hrecorded wireKey
  refine ⟨_, ?_, hanswers, unknown_of_answers hanswers⟩
  simp [getOperation, transportPeer, hkey]

/-! ## A helper and its requests -/

/-- A helper in service mode. -/
def sampleHelper : Helper where
  hasher i bytes := bytes.foldl (fun h b => h * 31 + b.toUInt64) i
  digest32 bytes := ⟨(bytes ++ replicate 32 0).take 32, by simp⟩
  encodeToVec wireKey := wireKey.operationId
  connectionMode := .service
  runtimeEpoch := Id.ending 1
  authorityInstance := Id.ending 2

/-- Its peer. -/
def samplePeer : PeerContext := { principal := Digest.filled 10, connection := Digest.filled 20 }

/-- The key of an operation, by the number of its method and its operation id, in one runtime epoch. -/
def sampleKey (method : Int) (operation : UInt8) : WireKey :=
  { principalDigest := (Digest.filled 10).1, method, runtimeEpoch := (Id.ending 30).1, operationId := (Id.ending operation).1 }

/-- A request of the peer with an effect id. -/
def sampleRequest (method : Int) (operation digest effect : UInt8) : MutationRequest :=
  { peer := some samplePeer, lookupKey := some (sampleKey method operation), requestDigest := (Digest.filled digest).1,
    expired := false, effectId := Id.ending effect }

/-- The peer becomes the owner and acquires its lease. -/
def acquireRun : List Label :=
  [.openLease (some samplePeer),
   .leaseMessage 0 [] (.handshake (Digest.filled 10).1 (Digest.filled 0).1 (Digest.filled 0).1),
   .submit (.acquireLease (sampleRequest 5 40 50 60))]

/-- The same key, bound to the peer. -/
def boundKey (method : OperationMethod) (operation : UInt8) : OperationLookupKey :=
  { principalDigest := Digest.filled 10, method, runtimeEpoch := Id.ending 30, operationId := Id.ending operation }

def submittedKeys (trace : List Entry) : List OperationLookupKey :=
  trace.filterMap fun
    | .submitted key _ _ _ => some key
    | _ => none

theorem wasSubmitted_iff {core : HelperControlCore} {key : OperationLookupKey} :
    core.WasSubmitted key ↔ key ∈ submittedKeys core.trace := by
  unfold HelperControlCore.WasSubmitted submittedKeys
  rw [mem_filterMap]
  constructor
  · rintro ⟨wireKey, digest, effectId, hmem⟩
    exact ⟨_, hmem, rfl⟩
  · rintro ⟨entry, hmem, hentry⟩
    cases entry with
    | submitted other wireKey digest effectId =>
      cases hentry
      exact ⟨wireKey, digest, effectId, hmem⟩
    | admitted | started | ended => simp at hentry

theorem submittedKeys_acquireRun :
    submittedKeys (serviceRun sampleHelper acquireRun).core.trace = [boundKey .acquireLease 40] := by
  decide +kernel

/-- The AcquireLease of the sample is the only operation it meets. -/
theorem get_operation_answers_acquired :
    ∃ state, getOperation sampleHelper (serviceRun sampleHelper acquireRun).core (some samplePeer)
        (some (sampleKey 5 40)) = .ok state ∧
      Answers sampleHelper (serviceRun sampleHelper acquireRun).core (boundKey .acquireLease 40) state ∧
      (¬ (serviceRun sampleHelper acquireRun).core.WasSubmitted (boundKey .acquireLease 40) → state = .unknown) := by
  have honly : ∀ other, (serviceRun sampleHelper acquireRun).core.WasSubmitted other → other = boundKey .acquireLease 40 := by
    intro other hother
    rw [wasSubmitted_iff, submittedKeys_acquireRun, mem_singleton] at hother
    exact hother
  refine get_operation_answers sampleHelper acquireRun samplePeer (sampleKey 5 40) (boundKey .acquireLease 40) rfl ?_ ?_
  · intro other hother _
    rw [honly other hother]
  · intro other hother
    exact ⟨fun _ => honly other hother, fun _ => honly other hother⟩

/-- GetOperation reports an operation that was never submitted as succeeded, with the receipt of another one. -/
theorem unsubmitted_operation_reported :
    NoCollision sampleHelper (serviceRun sampleHelper acquireRun).core (boundKey .acquireLease 41) ∧
      ¬ (serviceRun sampleHelper acquireRun).core.WasSubmitted (boundKey .acquireLease 41) ∧
      ∃ receipt, getOperation sampleHelper (serviceRun sampleHelper acquireRun).core (some samplePeer)
          (some (sampleKey 5 41)) = .ok (.terminal (.succeeded receipt)) ∧
        receipt.journalOperationIdentity = sampleKey 5 40 := by
  refine ⟨?_, ?_, ?_⟩
  · intro other hother _
    rw [wasSubmitted_iff, submittedKeys_acquireRun, mem_singleton] at hother
    rw [hother]
    rfl
  · rw [wasSubmitted_iff, submittedKeys_acquireRun]
    decide
  · let receipt : MutationReceipt :=
      { journalOperationIdentity := sampleKey 5 40, canonicalInputDigest := Digest.filled 50, effectId := Id.ending 60,
        authorityFence := ⟨1, Id.ending 2, 1, 0⟩, ownershipVersion := ⟨1, by decide⟩, certainty := .applied }
    exact ⟨receipt, by decide +kernel, rfl⟩

/-! ## New operations -/

/-- The refusals for a reason of the lease, of the authority or of the digest. -/
def refusals : List Status :=
  [⟨.failedPrecondition, "no owner lease established"⟩, ⟨.unauthenticated, "owner peer mismatch"⟩,
   ⟨.failedPrecondition, "no owner lease for gate"⟩,
   ⟨.invalidArgument, "operation binding: kernel: not authorized by peer capability"⟩,
   ⟨.invalidArgument, "operation binding: kernel: request digest: expected 32 bytes"⟩,
   ⟨.failedPrecondition, "idempotency conflict"⟩]

/-- The operation was admitted with a record of its own, or refused for one of those reasons. -/
def OnItsOwn (effectId : EffectId) : Except Status Submitted → Prop
  | .error status => status ∈ refusals
  | .ok (.acquireFailed _ _) => True
  | .ok _ =>
    ∃ digest record, core.admissions.entries (helper.fileOf key) = some (.admitted digest record) ∧
      record.journalOperationIdentity = .external key ∧ record.effectId = effectId ∧ core.ingress key = some record

/-- The request names a key of its own method and passes the checks on its other parts. -/
def WellFormed (mutation : Mutation) (peer : PeerContext) (wireKey : WireKey) (key : OperationLookupKey) : Prop :=
  mutation.request.peer = some peer ∧ mutation.request.lookupKey = some wireKey ∧
    lookupKeyFromWire wireKey peer.principal = .ok key ∧ key.method = mutation.method ∧
    match mutation with
    | .applyTunnel _ input => ∃ plan, input.plan = some plan ∧ checkApply plan input = .ok ()
    | _ => True

variable (mutation : Mutation) (bound : Bound)

/-- The operation meets an earlier one with its own request digest in the index. -/
def MeetsEqual : Prop :=
  mutation.method ≠ .acquireLease ∧
    ∃ record, core.admissions.entries (helper.fileOf bound.key) = some (.admitted bound.digest record)

namespace NewOperationAux

variable {helper core key mutation bound} {peer : PeerContext} {wireKey : WireKey} {connection : ConnectionBinding}
  {input : MutationAdmissionInput}

section

variable (h : WellFormed mutation peer wireKey key)
include h

theorem complete_of_wellFormed : mutation.Complete := by
  obtain ⟨-, -, -, -, hinput⟩ := h
  cases mutation with
  | applyTunnel request input =>
    obtain ⟨plan, hplan, -⟩ := hinput
    simp [Mutation.Complete, hplan]
  | acquireLease | stopTunnel | releaseLease => exact trivial

/-- A bound mutation is bound to the key it names, under the owner. -/
theorem binds_wellFormed (hbinds : Binds core mutation bound)
    (howner : core.owner = some ⟨peer, connection⟩) : bound.key = key ∧ bound.connection = connection := by
  obtain ⟨hpeer, hwire, hkey, -, -⟩ := h
  obtain ⟨hbwire, -, hbind⟩ := hbinds
  obtain ⟨hbpeer, hbowner, hbkey, -, -⟩ := bindMutation_ok hbind
  rw [hpeer, some.injEq] at hbpeer
  rw [hwire, some.injEq] at hbwire
  rw [howner, some.injEq, OwnerSession.mk.injEq] at hbowner
  rw [← hbpeer, ← hbwire, hkey, Except.ok.injEq] at hbkey
  exact ⟨hbkey.symm, hbowner.2.symm⟩

end

/-- An owner who holds a lease is given none for a new operation. -/
theorem issue_refused_of_new (h : core.Recorded helper) (hlease : (core.leases.lease bound.connection).isSome)
    (hnew : ∀ other, core.WasSubmitted other → other.operationId ≠ bound.key.operationId) :
    (issued helper core bound).2 = .refused := by
  obtain ⟨lease, hlease⟩ := isSome_iff_exists.mp hlease
  have hslot := (h.mirrored bound.connection lease).mp hlease
  obtain ⟨wire, effectId, hmem⟩ := h.held bound.connection lease.held hslot
  obtain ⟨-, hnotIssued⟩ := issue_of_some hslot bound.key bound.digest core.ownershipVersion
    (helper.digest32 bound.digest.1)
  cases hissue : (issued helper core bound).2 with
  | refused => rfl
  | issued token => exact absurd hissue (hnotIssued token)
  | sameTokenReplayed token =>
    have hreplayed := issue_replayed_iff.mp hissue
    rw [hslot, some.injEq, ConnectionSlot.holding.injEq] at hreplayed
    exact absurd (by rw [hreplayed]) (hnew lease.held.key ⟨wire, _, effectId, hmem⟩)

/-- Apart from AcquireLease a mutation goes to the admission as it was submitted. -/
theorem prepared_eq (hmethod : mutation.method ≠ .acquireLease) :
    prepared helper core mutation bound = submitted core mutation bound := by
  cases mutation with
  | acquireLease => exact absurd rfl hmethod
  | applyTunnel | stopTunnel | releaseLease => rfl

/-- Apart from AcquireLease, the gate lets a new operation pass with its own record or calls it a conflict, unless the
operation meets its own request digest. -/
theorem gate_new (h : core.Recorded helper) (hmethod : mutation.method ≠ .acquireLease) (hlease : core.ownerLease.isSome)
    (hinput : Submits mutation bound input)
    (hnew : ∀ other, core.WasSubmitted other → other.operationId ≠ bound.key.operationId) {after : HelperControlCore}
    {outcome : Except Status MutationAdmitted}
    (hgate : admitAndGate helper (prepared helper core mutation bound) input = (after, outcome)) :
    OnItsOwn helper (finished helper after mutation bound).1 bound.key mutation.request.effectId
      (outcome.map fun _ => (finished helper after mutation bound).2) ↔ ¬ MeetsEqual helper core mutation bound := by
  obtain ⟨hkey, hdigest, heffect⟩ := hinput
  have hrecorded : (submitted core mutation bound).Recorded helper := h.note
  rw [prepared_eq hmethod] at hgate
  cases hentry : core.admissions.entries (helper.fileOf bound.key) with
  | none =>
    have hnone : (submitted core mutation bound).admissions.entries (helper.fileOf input.key) = none := hkey ▸ hentry
    have hpassed := (admitAndGate_of_none hnone).trans (passGate_own rfl hlease)
    obtain ⟨rfl, rfl⟩ := Prod.mk.inj (hgate.symm.trans hpassed)
    refine iff_of_true ?_ ?_
    · rw [← hkey]
      cases mutation <;>
        exact ⟨_, _, AdmissionIndex.entries_insert_self .., rfl, heffect, Function.update_self ..⟩
    · rintro ⟨-, record, hmet⟩
      cases hentry.symm.trans hmet
  | some entry =>
    obtain ⟨other, wire, digest, record, rfl, hid, hfile, hmem⟩ := h.sealed _ entry hentry
    have hfound : (submitted core mutation bound).admissions.entries (helper.fileOf input.key) =
        some (.admitted digest record) := hkey ▸ hentry
    by_cases hsame : digest = bound.digest
    · subst hsame
      rw [← hdigest] at hfound
      have hne : input.key ≠ other := fun heq => hnew other ⟨wire, _, _, hmem⟩ (by rw [← heq, hkey])
      have hrefused := passGate_other hid hne (hrecorded.ingress_eq_none hid hne hfound) hlease
      obtain ⟨rfl, rfl⟩ := Prod.mk.inj (hgate.symm.trans ((admitAndGate_of_same hfound).trans hrefused))
      exact iff_of_false (show _ ∉ refusals by decide) (not_not.mpr ⟨hmethod, record, hentry⟩)
    · have hconflict := admitAndGate_of_ne hfound (by rw [hdigest]; exact hsame)
      obtain ⟨rfl, rfl⟩ := Prod.mk.inj (hgate.symm.trans hconflict)
      refine iff_of_true (show _ ∈ refusals by decide) ?_
      rintro ⟨-, met, hmet⟩
      cases hentry.symm.trans hmet
      exact hsame rfl

end NewOperationAux

open NewOperationAux

/-- A mutation of the owner with a new operation id is admitted on its own, or refused for its lease, authority or digest,
exactly when it does not meet an earlier operation with its own request digest. -/
theorem new_operation_on_its_own_iff (helper : Helper) (labels : List Label) (mutation : Mutation) (peer : PeerContext)
    (connection : ConnectionBinding) (wireKey : WireKey) (key : OperationLookupKey)
    (hform : WellFormed mutation peer wireKey key)
    (howner : (serviceRun helper labels).core.owner = some ⟨peer, connection⟩)
    (hlease : ((serviceRun helper labels).core.leases.lease connection).isSome)
    (hnew : ∀ other, (serviceRun helper labels).core.WasSubmitted other → other.operationId ≠ key.operationId) :
    OnItsOwn helper (submit helper (serviceRun helper labels) mutation).1.core key mutation.request.effectId
        (submit helper (serviceRun helper labels) mutation).2 ↔
      ∀ bound, Binds (serviceRun helper labels).core mutation bound →
        ¬ MeetsEqual helper (serviceRun helper labels).core mutation bound := by
  have hrecorded := (sound_serviceRun helper labels).core
  generalize serviceRun helper labels = s at *
  have hhandled := handled helper s.core mutation
  rw [submit_core, submit_outcome]
  have hownerLease : s.core.ownerLease.isSome := by simpa [ownerLease, howner] using hlease
  generalize (handle helper s.core mutation).1 = after, (handle helper s.core mutation).2 = outcome at hhandled ⊢
  cases hhandled with
  | incomplete hincomplete =>
    rcases hincomplete with hnone | hnot
    · simp [hform.2.1] at hnone
    · exact absurd (complete_of_wellFormed hform) hnot
  | unbound hother hbind =>
    refine ⟨fun _ bound hbinds => ?_, fun _ => ?_⟩
    · obtain ⟨hwire, -, hok⟩ := hbinds
      rw [hother, some.injEq] at hwire
      rw [← hwire, hbind] at hok
      simp at hok
    -- what is not bound was refused for its digest or its capability
    · obtain ⟨hpeer, hwire, hkey, hmethod, -⟩ := hform
      rw [hwire, some.injEq] at hother
      subst hother
      unfold bindMutation at hbind
      simp only [hpeer, transportPeer, howner, ne_eq, not_true_eq_false, if_false] at hbind
      split at hbind
      case h_1 e he =>
        cases hbind
        show _ ∈ refusals
        rcases kernelRequestToOperation_error hkey hmethod he with rfl | rfl <;> decide
      case h_2 => simp at hbind
  | unchecked hbinds hmutation hinput =>
    subst hmutation
    obtain ⟨-, -, -, -, plan, hplan, hcheck⟩ := hform
    exact absurd (hcheck.symm.trans (hinput plan hplan)) (by simp)
  | leaseRefused hbinds hmutation hissue =>
    subst hmutation
    exact ⟨fun _ bound _ hmeets => hmeets.1 rfl, fun _ => trivial⟩
  | gateRefused hbinds hissue hgate hinput | passed hbinds hissue hgate hinput =>
    obtain ⟨rfl, rfl⟩ := binds_wellFormed hform hbinds howner
    have hmethod : mutation.method ≠ .acquireLease := fun h => hissue h (issue_refused_of_new hrecorded hlease hnew)
    refine (gate_new hrecorded hmethod hownerLease hinput hnew hgate).trans ⟨fun h other hother => ?_, fun h => h _ hbinds⟩
    exact hbinds.unique hother ▸ h

/-- The first StopTunnel after the lease was acquired. -/
def firstStop : Mutation := .stopTunnel (sampleRequest 7 42 51 61)

/-- A second one, with the same request digest and an operation id of its own. -/
def secondStop : Mutation := .stopTunnel (sampleRequest 7 43 51 62)

/-- The owner acquires the lease and stops the tunnel. -/
def stopRun : List Label := acquireRun ++ [.submit firstStop, .disconnected 0 true, .idlePublish 0]

/-- The first StopTunnel is admitted on its own. -/
theorem new_operation_on_its_own_stop :
    OnItsOwn sampleHelper (submit sampleHelper (serviceRun sampleHelper acquireRun) firstStop).1.core
      (boundKey .stopTunnel 42) (Id.ending 61) (submit sampleHelper (serviceRun sampleHelper acquireRun) firstStop).2 := by
  have hform : WellFormed firstStop samplePeer (sampleKey 7 42) (boundKey .stopTunnel 42) := ⟨rfl, rfl, rfl, rfl, trivial⟩
  -- one evaluation of the run for all that is needed of it
  obtain ⟨howner, hlease, hnone⟩ :
      (serviceRun sampleHelper acquireRun).core.owner = some ⟨samplePeer, samplePeer.connection⟩ ∧
        ((serviceRun sampleHelper acquireRun).core.leases.lease samplePeer.connection).isSome ∧
        (serviceRun sampleHelper acquireRun).core.admissions.entries
          (sampleHelper.fileOf (boundKey .stopTunnel 42)) = none := by
    decide +kernel
  refine (new_operation_on_its_own_iff sampleHelper acquireRun firstStop samplePeer samplePeer.connection
    (sampleKey 7 42) (boundKey .stopTunnel 42) hform howner hlease ?_).mpr ?_
  · intro other hother
    rw [wasSubmitted_iff, submittedKeys_acquireRun, mem_singleton] at hother
    rw [hother]
    decide
  · rintro bound hbinds ⟨-, record, hentry⟩
    rw [(binds_wellFormed hform hbinds howner).1, hnone] at hentry
    cases hentry

/-- The second StopTunnel is failed as not durable, although the owner holds the lease and its operation id is new. -/
theorem second_stop_not_durable :
    WellFormed secondStop samplePeer (sampleKey 7 43) (boundKey .stopTunnel 43) ∧
      (serviceRun sampleHelper stopRun).core.owner = some ⟨samplePeer, samplePeer.connection⟩ ∧
      ((serviceRun sampleHelper stopRun).core.leases.lease samplePeer.connection).isSome ∧
      (∀ other ∈ submittedKeys (serviceRun sampleHelper stopRun).core.trace, other.operationId ≠ Id.ending 43) ∧
      (submit sampleHelper (serviceRun sampleHelper stopRun) secondStop).2 =
        .error ⟨.internal, "mutation ingress: mutation admission not durable"⟩ := by
  refine ⟨⟨rfl, rfl, rfl, rfl, trivial⟩, ?_⟩
  decide +kernel

/-! ## Resubmission -/

/-- The receipt of a mutation that has succeeded in the first region of its handler. -/
def Submitted.receipt : Submitted → Option MutationReceipt
  | .acquired receipt => some receipt
  | .acquireFailed _ _ => none
  | .released receipt => some receipt
  | .applying _ _ => none
  | .stopping _ _ _ _ => none

/-- The mutation is answered like the first one, with a receipt with its effect id and fence, and no call goes on to the
runtime. -/
def Repeats (s : ServiceState) (mutation : Mutation) (effectId : EffectId) (fence : AuthorityFence) : Prop :=
  ∃ reply receipt, (submit helper s mutation).2 = .ok reply ∧ reply.receipt = some receipt ∧ receipt.effectId = effectId ∧
    receipt.authorityFence = fence ∧ (submit helper s mutation).1.calls = s.calls

/-- The mutation carries the key of an operation and its request digest. -/
def Names (key : OperationLookupKey) (digest : RequestDigest) : Prop :=
  ∃ peer wireKey, mutation.request.peer = some peer ∧ mutation.request.lookupKey = some wireKey ∧
    lookupKeyFromWire wireKey peer.principal = .ok key ∧ mutation.request.requestDigest = digest.1

/-- The effect id that the handler draws for the mutation is that of no operation that was admitted before. -/
def DrawsFresh : Prop :=
  ∀ key digest fence, admitted key digest mutation.request.effectId fence ∉ core.trace

variable {helper core mutation bound} in
/-- A receipt in the reply to a mutation carries the effect id that was drawn for it. -/
theorem effectId_of_reply {reply : Submitted} {receipt : MutationReceipt} (hreply : (handle helper core mutation).2 = .ok reply)
    (hreceipt : reply.receipt = some receipt) : receipt.effectId = mutation.request.effectId := by
  have hhandled := handled helper core mutation
  generalize (handle helper core mutation).1 = after, (handle helper core mutation).2 = outcome at hhandled hreply
  cases hhandled with
  | incomplete | unbound | unchecked | gateRefused => cases hreply
  | leaseRefused =>
    cases hreply
    cases hreceipt
  | passed =>
    cases hreply
    cases mutation with
    | acquireLease | releaseLease =>
      cases hreceipt
      rfl
    | applyTunnel | stopTunnel => cases hreceipt

/-- After every run, no mutation is answered with the effect id and the fence of one that passed the gate before, also none
with its key and request digest: it draws an effect id of its own. -/
theorem resubmission_never_repeats (helper : Helper) (labels : List Label) (mutation : Mutation) (key : OperationLookupKey)
    (digest : RequestDigest) (effectId : EffectId) (fence : AuthorityFence)
    (hadmitted : admitted key digest effectId fence ∈ (serviceRun helper labels).core.trace)
    (hfresh : DrawsFresh (serviceRun helper labels).core mutation) :
    ¬ Repeats helper (serviceRun helper labels) mutation effectId fence := by
  rintro ⟨reply, receipt, hreply, hreceipt, heffect, -, -⟩
  rw [submit_outcome] at hreply
  rw [effectId_of_reply hreply hreceipt] at heffect
  exact hfresh key digest fence (heffect ▸ hadmitted)

/-- The effect id of an admitted operation. -/
def Entry.effect : Entry → Option EffectId
  | .admitted _ _ effectId _ => some effectId
  | _ => none

/-- The same AcquireLease again, before its token was received: it succeeds with an effect id and a fence of its own. -/
theorem resubmission_never_repeats_acquired :
    (∃ receipt, (submit sampleHelper (serviceRun sampleHelper acquireRun) (.acquireLease (sampleRequest 5 40 50 61))).2 =
        .ok (.acquired receipt) ∧ receipt.authorityFence = ⟨1, Id.ending 2, 2, 0⟩) ∧
      ¬ Repeats sampleHelper (serviceRun sampleHelper acquireRun) (.acquireLease (sampleRequest 5 40 50 61)) (Id.ending 60)
        ⟨1, Id.ending 2, 1, 0⟩ := by
  obtain ⟨hadmitted, heffects⟩ :
      admitted (boundKey .acquireLease 40) (Digest.filled 50) (Id.ending 60) ⟨1, Id.ending 2, 1, 0⟩ ∈
          (serviceRun sampleHelper acquireRun).core.trace ∧
        (serviceRun sampleHelper acquireRun).core.trace.filterMap Entry.effect = [Id.ending 60] := by
    decide +kernel
  refine ⟨⟨⟨sampleKey 5 40, Digest.filled 50, Id.ending 61, ⟨1, Id.ending 2, 2, 0⟩, ⟨1, by decide⟩, .applied⟩,
    by decide +kernel, rfl⟩, ?_⟩
  refine resubmission_never_repeats sampleHelper acquireRun _ (boundKey .acquireLease 40) (Digest.filled 50) (Id.ending 60) _
    hadmitted fun key digest fence hmem => ?_
  have heffect : Id.ending 61 ∈ [Id.ending 60] := heffects ▸ mem_filterMap.mpr ⟨_, hmem, rfl⟩
  exact absurd heffect (by decide)

/-- An ApplyTunnel of the owner with an effect id. -/
def sampleApply (effect : UInt8) : Mutation :=
  .applyTunnel (sampleRequest 6 44 52 effect)
    { plan := some { ipv4Address := [10, 0, 0, 2], ipv4PrefixLen := 24, mtu := 1400, ipv4Routes := [], dnsServers := [],
                     controlBypass := [], opaqueIntent := some (Digest.filled 9).1 },
      secretPayload := .empty, windowsConnectionMode := 0 }

/-- The owner acquires the lease and the tunnel is started. -/
def applyRun : List Label := acquireRun ++ [.submit (sampleApply 63), .startApply 0]

/-- The same ApplyTunnel again draws another effect id and starts the tunnel a second time. -/
theorem second_apply_started :
    admitted (boundKey .applyTunnel 44) (Digest.filled 52) (Id.ending 63) ⟨1, Id.ending 2, 2, 0⟩ ∈
        (serviceRun sampleHelper applyRun).core.trace ∧
      Names (sampleApply 64) (boundKey .applyTunnel 44) (Digest.filled 52) ∧
      ¬ Repeats sampleHelper (serviceRun sampleHelper applyRun) (sampleApply 64) (Id.ending 63) ⟨1, Id.ending 2, 2, 0⟩ ∧
      (serviceRun sampleHelper (applyRun ++ [.submit (sampleApply 64), .startApply 1])).core.trace.count
        (.started (boundKey .applyTunnel 44)) = 2 := by
  have hreply : (submit sampleHelper (serviceRun sampleHelper applyRun) (sampleApply 64)).2 =
      .ok (.applying (boundKey .applyTunnel 44) (sampleKey 6 44)) := by decide +kernel
  refine ⟨by decide +kernel, ⟨samplePeer, sampleKey 6 44, rfl, rfl, rfl, rfl⟩, ?_, by decide +kernel⟩
  rintro ⟨reply, receipt, hok, hreceipt, -⟩
  rw [hreply] at hok
  cases hok
  simp [Submitted.receipt] at hreceipt

end ExvVpn.HelperControl
