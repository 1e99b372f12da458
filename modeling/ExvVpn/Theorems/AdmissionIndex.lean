import ExvVpn.Resource.Operation
import ExvVpn.Tools.Transition

/-!
# What the admission index has on record

An admission never replaces an entry. A rejection replaces every entry but a rejection of the same request, and an absence
fence every entry but a fence, so the record and the watermark of a key stay exactly as long as neither meets an entry of
another kind.
-/

namespace ExvVpn.Resource

open Domain Transition List Option AdmissionIndex

inductive IndexCall where
  | admitMutation (input : MutationAdmissionInput)
  | reject (key : OperationLookupKey) (requestDigest : RequestDigest) (rejectionReason : RejectionReason)
  | establishAbsenceFence (key : OperationLookupKey) (requestDigest : RequestDigest)
  | getOperation (key : OperationLookupKey)

section

variable (hasher : Hasher)

def indexStep (index : AdmissionIndex) : IndexCall → AdmissionIndex
  | .admitMutation input => (index.admitMutation hasher input).1
  | .reject key requestDigest rejectionReason => (index.reject hasher key requestDigest rejectionReason).1
  | .establishAbsenceFence key requestDigest => (index.establishAbsenceFence hasher key requestDigest).1
  | .getOperation _ => index

/-- The entry of every key that has one is still there. -/
def KeepsEntries (before after : AdmissionIndex) : Prop :=
  ∀ key entry, before.entries (canonicalLookupDigest hasher key) = some entry →
    after.entries (canonicalLookupDigest hasher key) = some entry

/-- A rejection meets nothing but a rejection of its request, and a fence nothing but a fence. -/
def meetsOwnKind (index : AdmissionIndex) : IndexCall → Prop
  | .admitMutation _ => True
  | .reject key requestDigest _ =>
    ∀ entry, index.entries (canonicalLookupDigest hasher key) = some entry → ∃ record, entry = .rejected requestDigest record
  | .establishAbsenceFence key _ =>
    ∀ entry, index.entries (canonicalLookupDigest hasher key) = some entry →
      ∃ requestDigest record, entry = .absentFenced requestDigest record
  | .getOperation _ => True

end

variable {hasher : Hasher} {index : AdmissionIndex} {key : OperationLookupKey} {requestDigest : RequestDigest}

/-- A new entry replaces none of another key. -/
theorem keepsEntries_insert {entry : IndexEntry} (hnone : index.entries (canonicalLookupDigest hasher key) = none) :
    KeepsEntries hasher index (index.insert (canonicalLookupDigest hasher key) entry) := by
  intro other found hfound
  have hne : canonicalLookupDigest hasher other ≠ canonicalLookupDigest hasher key := by
    intro heq
    rw [heq, hnone] at hfound
    cases hfound
  exact (Function.update_of_ne hne ..).trans hfound

theorem keepsEntries_admission (input : MutationAdmissionInput) :
    KeepsEntries hasher index (index.admitMutation hasher input).1 := by
  cases hentry : index.entries (canonicalLookupDigest hasher input.key) with
  | none =>
    simp only [AdmissionIndex.admitMutation, hentry]
    exact keepsEntries_insert hentry
  | some entry =>
    rw [admit_of_some hentry]
    exact fun _ _ hfound => hfound

/-- A call keeps the entries exactly when it meets its own kind. -/
theorem keepsEntries_step (call : IndexCall) :
    KeepsEntries hasher index (indexStep hasher index call) ↔ meetsOwnKind hasher index call := by
  cases call with
  | admitMutation input => exact iff_of_true (keepsEntries_admission input) trivial
  | getOperation key => exact iff_of_true (fun _ _ hfound => hfound) trivial
  | reject key requestDigest rejectionReason =>
    simp only [indexStep, meetsOwnKind, reject]
    cases hentry : index.entries (canonicalLookupDigest hasher key) with
    | none => simp [keepsEntries_insert hentry]
    | some entry =>
      -- after a rejection the key has a rejection of that request
      refine ⟨?_, ?_⟩
      · rintro hkeeps _ ⟨⟩
        have hafter := hkeeps key entry hentry
        split at hafter
        · split at hafter
          · simp_all
          · exact ⟨_, some.inj (hafter.symm.trans (entries_insert_self ..))⟩
        · exact ⟨_, some.inj (hafter.symm.trans (entries_insert_self ..))⟩
      · intro h
        obtain ⟨record, rfl⟩ := h entry rfl
        simp only [if_true]
        exact fun _ _ hfound => hfound
  | establishAbsenceFence key requestDigest =>
    simp only [indexStep, meetsOwnKind, establishAbsenceFence]
    cases hentry : index.entries (canonicalLookupDigest hasher key) with
    | none => simp [keepsEntries_insert hentry]
    | some entry =>
      refine ⟨?_, ?_⟩
      · rintro hkeeps _ ⟨⟩
        have hafter := hkeeps key entry hentry
        split at hafter
        · exact ⟨_, _, some.inj ‹_›⟩
        · exact ⟨_, _, some.inj (hafter.symm.trans (entries_insert_self ..))⟩
      · intro h
        obtain ⟨digest, record, rfl⟩ := h entry rfl
        exact fun _ _ hfound => hfound

/-- In a sequence of calls an entry, once there, is the entry of its key ever after exactly when every rejection and every
fence meets its own kind. -/
theorem entries_single_write_iff (hasher : Hasher) (authority : AuthorityFence) (calls : List IndexCall) :
    (∀ before middle after, calls = before ++ middle ++ after →
      KeepsEntries hasher (run (indexStep hasher) (.new authority) before)
        (run (indexStep hasher) (.new authority) (before ++ middle))) ↔
      Along (indexStep hasher) (meetsOwnKind hasher) (.new authority) calls := by
  have hrefl : ∀ index, KeepsEntries hasher index index := fun _ _ _ hfound => hfound
  have htrans : ∀ first second third, KeepsEntries hasher first second → KeepsEntries hasher second third →
      KeepsEntries hasher first third :=
    fun _ _ _ h h' key entry hentry => h' key entry (h key entry hentry)
  rw [← along_iff_forall_later hrefl htrans]
  exact along_congr (fun _ call => keepsEntries_step call) _ _

/-- A hash of bytes. -/
def sampleHasher : Hasher := fun i bytes => bytes.foldl (fun h b => h * 31 + b.toUInt64) i

/-- The fence of an authority. -/
def sampleAuthority : AuthorityFence :=
  { authorityEpoch := 1, platformAuthorityInstanceId := .ending 1, admissionWatermark := 0,
    journalRevision := 0 }

def stopKey : OperationLookupKey :=
  { principalDigest := .filled 2, method := .stopTunnel, runtimeEpoch := .ending 3,
    operationId := .ending 4 }

def stopInput : MutationAdmissionInput :=
  { key := stopKey, requestDigest := .filled 5, effectId := .ending 6,
    initiatorIdentityDigest := .filled 2, canonicalInputDigest := .filled 5, mutationKind := .external .stopTunnel,
    ownershipVersion := ⟨2, by decide⟩, authorizationSubject := .liveOwnershipTokenDigest (.filled 7),
    resourceIdentity := .filled 8, preconditionFingerprint := .filled 8, desiredAppliedFingerprint := .filled 8,
    canonicalObligationSeed := .filled 8 }

/-- A reason to reject. -/
def sampleReason : RejectionReason :=
  { error := { code := .unauthorized, stage := .ingress, certainty := .unspecified, retry := .doNotRetry },
    authorityFence := sampleAuthority }

/-- An admitted mutation is rejected afterwards: its record is gone, it is reported as rejected without effect, and the key
has another watermark. -/
theorem admission_overwritten_by_reject :
    let admitted := run (indexStep sampleHasher) (.new sampleAuthority) [.admitMutation stopInput]
    let rejected := run (indexStep sampleHasher) (.new sampleAuthority)
      [.admitMutation stopInput, .reject stopKey (.filled 5) sampleReason]
    admitted.getOperation sampleHasher stopKey = .pending ∧
      rejected.getOperation sampleHasher stopKey = .rejectedNoEffect sampleReason ∧
      (rejected.admitMutation sampleHasher stopInput).2 =
        .rejectedNoEffect { lookupKey := stopKey, requestDigest := .filled 5, authorityEpoch := 1,
                            rejectionReason := sampleReason, admissionWatermark := 1 } := by
  decide +kernel

end ExvVpn.Resource
