import ExvVpn.Tools.OptionMap
import ExvVpn.Win32Engine.HelperService

/-!
# What the helper has on record

The index, the gate, the token slots, the pending applies and the terminals of the control core each name operations. Each is
traced back to the mutations that were submitted: what stands in the index under a canonical digest was sealed from a
submission with that digest, and so on. Two submissions may share a digest.
-/

namespace ExvVpn.HelperControl

open OptionMap

open Domain Resource Wire List Function Option HelperControlCore AdmissionIndex MutationIngress HelperControl Entry

/-! ## Binding -/

variable {key : OperationLookupKey} {digest : RequestDigest}

/-- What is known about a bound request. -/
theorem bindMutation_ok {core : HelperControlCore} {request : MutationRequest} {wireKey : WireKey}
    {method : OperationMethod} {peer : PeerContext} {connection : ConnectionBinding}
    (h : bindMutation core request wireKey method = .ok (peer, connection, key, digest)) :
    request.peer = some peer ∧ core.owner = some ⟨peer, connection⟩ ∧
      lookupKeyFromWire wireKey peer.principal = .ok key ∧ key.method = method ∧ digest.1 = request.requestDigest := by
  unfold bindMutation at h
  split at h
  · simp at h
  case h_2 bound hpeer =>
    split at h
    · simp at h
    case h_2 owner howner =>
      split at h
      · simp at h
      case isFalse hsame =>
        split at h
        · simp at h
        case h_2 boundKey boundDigest hbound =>
          obtain ⟨hkey, hmethod, hdigest⟩ := kernelRequestToOperation_ok hbound
          cases h
          obtain ⟨ownerPeer, ownerConnection⟩ := owner
          have hown : ownerPeer = peer := not_not.mp hsame
          have hrequest : request.peer = some peer := by
            unfold transportPeer at hpeer
            split at hpeer
            case h_1 p hp =>
              cases hpeer
              exact hp
            case h_2 => simp at hpeer
          exact ⟨hrequest, hown ▸ howner, hkey, hmethod, hdigest⟩

/-! ## The invariant -/

section

variable (helper : Helper) (core : HelperControlCore)

/-- The digest under which the helper files a key. -/
abbrev Helper.fileOf (key : OperationLookupKey) : OperationLookupKeyDigest := canonicalLookupDigest helper.hasher key

def HelperControlCore.WasSubmitted (key : OperationLookupKey) : Prop :=
  ∃ wireKey digest effectId, submitted key wireKey digest effectId ∈ core.trace

/-- An entry of the index was sealed from a submission. -/
def HelperControlCore.Sealed (file : OperationLookupKeyDigest) (entry : IndexEntry) : Prop :=
  ∃ key wireKey digest record, entry = .admitted digest record ∧ record.journalOperationIdentity = .external key ∧
    helper.fileOf key = file ∧ submitted key wireKey digest record.effectId ∈ core.trace

/-- A registered record is the one that the index has for its key. -/
def HelperControlCore.Registered (key : OperationLookupKey) (record : MutationAdmitted) : Prop :=
  record.journalOperationIdentity = .external key ∧
    ∃ digest, core.admissions.entries (helper.fileOf key) = some (.admitted digest record)

/-- A pending apply was submitted as it stands, under the operation id it is filed by. -/
def HelperControlCore.Awaited (operationId : Bytes) (pending : PendingApply) : Prop :=
  pending.key.method = .applyTunnel ∧ pending.key.operationId.1 = operationId ∧
    ∃ digest, submitted pending.key pending.wireKey digest pending.effectId ∈ core.trace ∧
      pending.canonicalInputDigest = helper.digest32 digest.1

/-- The receipt is that of a submission. -/
def HelperControlCore.Receipted (key : OperationLookupKey) (receipt : MutationReceipt) : Prop :=
  ∃ digest, submitted key receipt.journalOperationIdentity digest receipt.effectId ∈ core.trace ∧
    receipt.canonicalInputDigest = helper.digest32 digest.1

/-- A terminal has the receipt of a submission, and that operation ended that way, or both are applies and one with the same
operation id did. -/
def HelperControlCore.Concluded (file : OperationLookupKeyDigest) (terminal : OperationTerminal) : Prop :=
  ∃ key, helper.fileOf key = file ∧ core.Receipted helper key terminal.receipt ∧
    ∃ ending, ended ending terminal.isSucceeded ∈ core.trace ∧ core.WasSubmitted ending ∧
      (ending = key ∨ ending.method = .applyTunnel ∧ key.method = .applyTunnel ∧ ending.operationId = key.operationId)

/-- Everything on record comes from submissions. -/
structure HelperControlCore.Recorded : Prop where
  sealed : ∀ file entry, core.admissions.entries file = some entry → core.Sealed helper file entry
  registered : ∀ key record, core.ingress key = some record → core.Registered helper key record
  held : ∀ connection slot, core.leases.slot connection = some (.holding slot) →
    ∃ wireKey effectId, submitted slot.key wireKey slot.requestDigest effectId ∈ core.trace
  mirrored : core.leases.Mirrored
  awaited : ∀ operationId pending, core.pendingApply operationId = some pending → core.Awaited helper operationId pending
  concluded : ∀ file terminal, core.terminals file = some terminal → core.Concluded helper file terminal

end

variable {helper : Helper} {core : HelperControlCore}

theorem HelperControlCore.WasSubmitted.note (h : core.WasSubmitted key) (entry : Entry) :
    (core.note entry).WasSubmitted key := by
  obtain ⟨wireKey, digest, effectId, hmem⟩ := h
  exact ⟨wireKey, digest, effectId, mem_cons_of_mem _ hmem⟩

theorem HelperControlCore.recorded_new (helper : Helper) : (HelperControlCore.new helper).Recorded helper where
  sealed file entry h := by simp [new, AdmissionIndex.new] at h
  registered key record h := by simp [new] at h
  held connection slot h := by simp [new, OwnerLeaseManager.new] at h
  mirrored := OwnerLeaseManager.mirrored_new
  awaited operationId pending h := by simp [new] at h
  concluded file terminal h := by simp [new] at h

/-! ## Changes that keep it -/

namespace HelperControlCore.Recorded

variable (h : core.Recorded helper)
include h

/-- The history can grow. -/
theorem note {entry : Entry} : (core.note entry).Recorded helper where
  __ := h
  sealed file e he := by
    obtain ⟨key, wireKey, digest, record, heq, hid, hfile, hmem⟩ := h.sealed file e he
    exact ⟨key, wireKey, digest, record, heq, hid, hfile, mem_cons_of_mem _ hmem⟩
  held connection slot hslot := by
    obtain ⟨wireKey, effectId, hmem⟩ := h.held connection slot hslot
    exact ⟨wireKey, effectId, mem_cons_of_mem _ hmem⟩
  awaited operationId pending hp := by
    obtain ⟨hmethod, hid, digest, hmem, hdigest⟩ := h.awaited operationId pending hp
    exact ⟨hmethod, hid, digest, mem_cons_of_mem _ hmem, hdigest⟩
  concluded file terminal ht := by
    obtain ⟨key, hfile, ⟨digest, hmem, hdigest⟩, ending, hended, hsubmitted, hsame⟩ := h.concluded file terminal ht
    exact ⟨key, hfile, ⟨digest, mem_cons_of_mem _ hmem, hdigest⟩, ending, mem_cons_of_mem _ hended,
      hsubmitted.note _, hsame⟩

/-- Owner, ownership version and watermark are in no record. -/
theorem setOwner (owner : Option OwnerSession) (version : OwnershipVersion) (watermark : UInt64) :
    ({ core with owner, ownershipVersion := version, watermark } : HelperControlCore).Recorded helper :=
  ⟨h.sealed, h.registered, h.held, h.mirrored, h.awaited, h.concluded⟩

/-- A terminal that is concluded can be recorded. -/
theorem recordTerminal {terminal : OperationTerminal} (hterminal : core.Concluded helper (helper.fileOf key) terminal) :
    (recordTerminal helper core key terminal).Recorded helper where
  __ := h
  concluded := forall_update (fun file t ht _ => h.concluded file t ht) fun t ht => by
    cases ht
    exact hterminal

/-! ## Admission -/

variable {input : MutationAdmissionInput} {record : MutationAdmitted} {wireKey : WireKey}

/-- An entry under a digest that had none. -/
theorem insertEntry {file : OperationLookupKeyDigest} {entry : IndexEntry}
    (hnone : core.admissions.entries file = none) (hsealed : core.Sealed helper file entry) :
    ({ core with admissions := core.admissions.insert file entry } : HelperControlCore).Recorded helper := by
  have hkept : ∀ other e, core.admissions.entries other = some e →
      (core.admissions.insert file entry).entries other = some e := by
    intro other e he
    have hne : other ≠ file := fun heq => by simp [heq, hnone] at he
    exact (update_of_ne hne ..).trans he
  exact
    { sealed := forall_update (fun other e he _ => h.sealed other e he) fun e he => by
        cases he
        exact hsealed
      registered := fun key record hrecord => by
        obtain ⟨hid, digest, hentry⟩ := h.registered key record hrecord
        exact ⟨hid, digest, hkept _ _ hentry⟩
      held := h.held
      mirrored := h.mirrored
      awaited := h.awaited
      concluded := h.concluded }

/-- The record of an entry can be registered. -/
theorem register (hrecord : core.Registered helper key record) :
    ({ core with ingress := update core.ingress key (some record) } : HelperControlCore).Recorded helper where
  __ := h
  registered := forall_update (fun other r hr _ => h.registered other r hr) fun r hr => by
    cases hr
    exact hrecord

end HelperControlCore.Recorded

/-! ## The gate -/

variable {input : MutationAdmissionInput} {record : MutationAdmitted}

/-- Whether the owner of the core holds a lease. -/
def HelperControlCore.ownerLease (core : HelperControlCore) : Option OwnerLease :=
  core.owner.bind fun owner => core.leases.lease owner.connection

/-- The core after an operation passed the gate with a record. -/
def HelperControlCore.passedGate (core : HelperControlCore) (input : MutationAdmissionInput) (record : MutationAdmitted) :
    HelperControlCore :=
  let passed : HelperControlCore :=
    { core with
      ingress := update core.ingress input.key (some record), watermark := saturatingSucc core.watermark }
  passed.note (.admitted input.key input.requestDigest input.effectId (wireFence passed))

/-- An operation whose record is its own passes if its owner holds a lease. -/
theorem passGate_own (hid : record.journalOperationIdentity = .external input.key) (hlease : core.ownerLease.isSome) :
    passGate core input record = (core.passedGate input record, .ok record) := by
  obtain ⟨lease, hlease⟩ := isSome_iff_exists.mp hlease
  rw [ownerLease] at hlease
  simp [passGate, durableBeforeReply_external hid, hlease, admitDurable,
    passedGate]

/-- Without a lease the record stays registered. -/
theorem passGate_noLease (hid : record.journalOperationIdentity = .external key) (hlease : core.ownerLease = none) :
    passGate core input record =
      ({ core with ingress := update core.ingress key (some record) },
        .error ⟨.failedPrecondition, "no owner lease for gate"⟩) := by
  rw [ownerLease] at hlease
  simp [passGate, durableBeforeReply_external hid, hlease]

/-- An operation that is given the record of another one does not pass. -/
theorem passGate_other (hid : record.journalOperationIdentity = .external key)
    (hne : input.key ≠ key) (hnone : core.ingress input.key = none) (hlease : core.ownerLease.isSome) :
    passGate core input record =
      ({ core with ingress := update core.ingress key (some record) },
        .error ⟨.internal, "mutation ingress: mutation admission not durable"⟩) := by
  obtain ⟨lease, hlease⟩ := isSome_iff_exists.mp hlease
  rw [ownerLease] at hlease
  simp [passGate, durableBeforeReply_external hid, hlease, admitDurable,
    update_of_ne hne, hnone]

/-- A first submission under its digest goes to the gate with a record of its own. -/
theorem admitAndGate_of_none (hnone : core.admissions.entries (helper.fileOf input.key) = none) :
    admitAndGate helper core input =
      passGate
        { core with
          admissions := core.admissions.insert (helper.fileOf input.key)
            (.admitted input.requestDigest (core.admissions.seal input)) }
        input (core.admissions.seal input) := by
  simp [admitAndGate, AdmissionIndex.admitMutation, hnone]

/-- A submission with the request digest of an earlier one under its digest goes to the gate with that one's record. -/
theorem admitAndGate_of_same
    (hentry : core.admissions.entries (helper.fileOf input.key) = some (.admitted input.requestDigest record)) :
    admitAndGate helper core input = passGate core input record := by
  simp [admitAndGate, admit_of_some hentry, IndexEntry.resubmitted]

/-- A submission with another request digest is a conflict. -/
theorem admitAndGate_of_ne
    (hentry : core.admissions.entries (helper.fileOf input.key) = some (.admitted digest record))
    (hne : digest ≠ input.requestDigest) :
    admitAndGate helper core input = (core, .error ⟨.failedPrecondition, "idempotency conflict"⟩) := by
  simp [admitAndGate, admit_of_some hentry, IndexEntry.resubmitted, hne]

/-- The admission leaves the owner, the leases and the terminals alone, and loses nothing of the history. -/
theorem frame_admitAndGate (helper : Helper) (core : HelperControlCore) (input : MutationAdmissionInput) :
    (admitAndGate helper core input).1.owner = core.owner ∧ (admitAndGate helper core input).1.leases = core.leases ∧
      (admitAndGate helper core input).1.terminals = core.terminals ∧
      core.trace ⊆ (admitAndGate helper core input).1.trace := by
  unfold admitAndGate passGate
  split
  · split
    · exact ⟨rfl, rfl, rfl, fun _ h => h⟩
    · split
      · exact ⟨rfl, rfl, rfl, fun _ h => h⟩
      · split
        · exact ⟨rfl, rfl, rfl, fun _ h => h⟩
        · exact ⟨rfl, rfl, rfl, subset_cons_self _ _⟩
  all_goals exact ⟨rfl, rfl, rfl, fun _ h => h⟩

namespace HelperControlCore.Recorded

variable (h : core.Recorded helper)
include h

/-- A key that is registered owns the entry of its digest. -/
theorem ingress_eq_none {other : OperationLookupKey}
    (hid : record.journalOperationIdentity = .external other) (hne : key ≠ other)
    (hentry : core.admissions.entries (helper.fileOf key) = some (.admitted digest record)) : core.ingress key = none := by
  cases hkey : core.ingress key with
  | none => rfl
  | some registered =>
    obtain ⟨hown, d, hfound⟩ := h.registered key registered hkey
    rw [hentry] at hfound
    cases hfound
    rw [hid] at hown
    cases hown
    exact absurd rfl hne

/-- The gate keeps everything on record. -/
theorem passGate
    (hid : record.journalOperationIdentity = .external key)
    (hentry : core.admissions.entries (helper.fileOf input.key) = some (.admitted digest record))
    (hfile : helper.fileOf key = helper.fileOf input.key) (hdigest : digest = input.requestDigest) :
    (passGate core input record).1.Recorded helper := by
  have hregistered : core.Registered helper key record := ⟨hid, digest, hfile ▸ hentry⟩
  cases hlease : core.ownerLease with
  | none =>
    rw [passGate_noLease hid hlease]
    exact h.register hregistered
  | some lease =>
    have hsome : core.ownerLease.isSome := by simp [hlease]
    by_cases hown : input.key = key
    · subst hown hdigest
      rw [passGate_own hid hsome]
      exact ((h.register hregistered).setOwner ..).note
    · rw [passGate_other hid hown (h.ingress_eq_none hid hown hentry) hsome]
      exact h.register hregistered

/-- An admission keeps everything on record. -/
theorem admitAndGate {wireKey : WireKey}
    (hsubmitted : submitted input.key wireKey input.requestDigest input.effectId ∈ core.trace) :
    (admitAndGate helper core input).1.Recorded helper := by
  cases hentry : core.admissions.entries (helper.fileOf input.key) with
  | none =>
    rw [admitAndGate_of_none hentry]
    refine (h.insertEntry hentry ?_).passGate rfl (entries_insert_self ..) rfl rfl
    exact ⟨input.key, wireKey, input.requestDigest, _, rfl, rfl, rfl, hsubmitted⟩
  | some entry =>
    obtain ⟨key, _, digest, record, rfl, hid, hfile, -⟩ := h.sealed _ entry hentry
    by_cases hdigest : digest = input.requestDigest
    · subst hdigest
      rw [admitAndGate_of_same hentry]
      exact h.passGate hid hentry hfile rfl
    · rw [admitAndGate_of_ne hentry hdigest]
      exact h

end HelperControlCore.Recorded

end ExvVpn.HelperControl
