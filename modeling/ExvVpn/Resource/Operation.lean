import ExvVpn.Resource.Admission
import ExvVpn.Wire.Error
import Mathlib.Logic.Function.Basic

/-!
# The admission index

`AdmissionIndex` of `operation.rs` in `exv-vpn-resource`: admissions, rejections and absence fences under the canonical
digest of their key, with watermarks from one counter.
-/

namespace ExvVpn.Resource

open Domain Function

structure RejectionReason where
  error : Wire.VpnError
  authorityFence : AuthorityFence
  deriving DecidableEq

structure OperationRejected where
  lookupKey : OperationLookupKey
  requestDigest : RequestDigest
  authorityEpoch : UInt64
  rejectionReason : RejectionReason
  admissionWatermark : UInt64
  deriving DecidableEq

structure OperationAbsentFence where
  lookupKey : OperationLookupKey
  requestDigest : RequestDigest
  authorityEpoch : UInt64
  admissionWatermark : UInt64
  deriving DecidableEq

structure MutationAdmissionInput where
  key : OperationLookupKey
  requestDigest : RequestDigest
  effectId : EffectId
  initiatorIdentityDigest : PrincipalDigest
  canonicalInputDigest : CanonicalInputDigest
  mutationKind : MutationKind
  ownershipVersion : OwnershipVersion
  authorizationSubject : AuthorizationSubject
  resourceIdentity : ResourceIdentityDigest
  preconditionFingerprint : Digest
  desiredAppliedFingerprint : Digest
  canonicalObligationSeed : Digest

inductive AdmissionOutcome where
  | admitted (record : MutationAdmitted)
  | rejectedNoEffect (record : OperationRejected)
  | closedByAbsenceProof
  | idempotencyConflict
  deriving DecidableEq

inductive IndexEntry where
  | admitted (requestDigest : RequestDigest) (record : MutationAdmitted)
  | rejected (requestDigest : RequestDigest) (record : OperationRejected)
  | absentFenced (requestDigest : RequestDigest) (record : OperationAbsentFence)
  deriving DecidableEq

/-- `OperationState`, without the terminal states, which the index does not know. -/
inductive IndexState where
  | pending
  | rejectedNoEffect (reason : RejectionReason)
  | absentNoEffect (lookupKeyDigest : OperationLookupKeyDigest) (authorityEpoch admissionWatermark : UInt64)
  | unknown
  deriving DecidableEq

structure AdmissionIndex where
  authorityEpoch : UInt64
  authorityInstance : PlatformAuthorityInstanceId
  nextWatermark : UInt64
  entries : OperationLookupKeyDigest → Option IndexEntry

def AdmissionIndex.new (authority : AuthorityFence) : AdmissionIndex :=
  { authorityEpoch := authority.authorityEpoch, authorityInstance := authority.platformAuthorityInstanceId,
    nextWatermark := 0, entries := fun _ => none }

/-- The outcome of a submission that finds an entry. -/
def IndexEntry.resubmitted (entry : IndexEntry) (requestDigest : RequestDigest) : AdmissionOutcome :=
  match entry with
  | .admitted existing record => if existing = requestDigest then .admitted record else .idempotencyConflict
  | .rejected existing record => if existing = requestDigest then .rejectedNoEffect record else .idempotencyConflict
  | .absentFenced existing _ => if existing = requestDigest then .closedByAbsenceProof else .idempotencyConflict

/-- The record a new submission is sealed in. -/
def AdmissionIndex.seal (index : AdmissionIndex) (input : MutationAdmissionInput) : MutationAdmitted :=
  { mutationKind := input.mutationKind, journalOperationIdentity := .external input.key, effectId := input.effectId,
    canonicalInputDigest := input.canonicalInputDigest, initiatorIdentityDigest := input.initiatorIdentityDigest,
    authorityEpoch := index.authorityEpoch, platformAuthorityInstanceId := index.authorityInstance,
    admissionWatermark := index.nextWatermark, ownershipVersion := input.ownershipVersion,
    authorizationSubject := input.authorizationSubject, resourceIdentity := input.resourceIdentity,
    preconditionFingerprint := input.preconditionFingerprint,
    desiredAppliedFingerprint := input.desiredAppliedFingerprint,
    canonicalObligationSeed := input.canonicalObligationSeed }

/-- A new entry takes the next watermark. -/
def AdmissionIndex.insert (index : AdmissionIndex) (digest : OperationLookupKeyDigest) (entry : IndexEntry) :
    AdmissionIndex :=
  { index with nextWatermark := index.nextWatermark + 1, entries := update index.entries digest (some entry) }

@[simp] theorem AdmissionIndex.entries_insert_self (index : AdmissionIndex) (digest : OperationLookupKeyDigest)
    (entry : IndexEntry) : (index.insert digest entry).entries digest = some entry := update_self ..

section

variable (hasher : Hasher)

/-- `AdmissionIndex::admit`. -/
def AdmissionIndex.admitMutation (index : AdmissionIndex) (input : MutationAdmissionInput) : AdmissionIndex × AdmissionOutcome :=
  match index.entries (canonicalLookupDigest hasher input.key) with
  | some entry => (index, entry.resubmitted input.requestDigest)
  | none =>
    (index.insert (canonicalLookupDigest hasher input.key) (.admitted input.requestDigest (index.seal input)),
      .admitted (index.seal input))

def AdmissionIndex.reject (index : AdmissionIndex) (key : OperationLookupKey) (requestDigest : RequestDigest)
    (rejectionReason : RejectionReason) : AdmissionIndex × OperationRejected :=
  let record : OperationRejected :=
    { lookupKey := key, requestDigest, authorityEpoch := index.authorityEpoch, rejectionReason,
      admissionWatermark := index.nextWatermark }
  match index.entries (canonicalLookupDigest hasher key) with
  | some (.rejected existing old) =>
    if existing = requestDigest then (index, old)
    else (index.insert (canonicalLookupDigest hasher key) (.rejected requestDigest record), record)
  | _ => (index.insert (canonicalLookupDigest hasher key) (.rejected requestDigest record), record)

def AdmissionIndex.establishAbsenceFence (index : AdmissionIndex) (key : OperationLookupKey)
    (requestDigest : RequestDigest) : AdmissionIndex × OperationAbsentFence :=
  match index.entries (canonicalLookupDigest hasher key) with
  | some (.absentFenced _ record) => (index, record)
  | _ =>
    let record : OperationAbsentFence :=
      { lookupKey := key, requestDigest, authorityEpoch := index.authorityEpoch, admissionWatermark := index.nextWatermark }
    (index.insert (canonicalLookupDigest hasher key) (.absentFenced requestDigest record), record)

/-- `AdmissionIndex::get_operation`, which does not read the request digest it is given. -/
def AdmissionIndex.getOperation (index : AdmissionIndex) (key : OperationLookupKey) : IndexState :=
  match index.entries (canonicalLookupDigest hasher key) with
  | some (.admitted _ _) => .pending
  | some (.rejected _ record) => .rejectedNoEffect record.rejectionReason
  | some (.absentFenced _ record) =>
    .absentNoEffect (canonicalLookupDigest hasher key) record.authorityEpoch record.admissionWatermark
  | none => .unknown

end

/-! ## Submitting again -/

variable {hasher : Hasher} {index : AdmissionIndex} {input : MutationAdmissionInput}

/-- A submission that finds an entry changes nothing, and the entry decides. -/
theorem AdmissionIndex.admit_of_some {entry : IndexEntry}
    (h : index.entries (canonicalLookupDigest hasher input.key) = some entry) :
    index.admitMutation hasher input = (index, entry.resubmitted input.requestDigest) := by
  simp [admitMutation, h]

end ExvVpn.Resource
