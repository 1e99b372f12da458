import ExvVpn.Resource.Admission
import Mathlib.Data.Finset.Card

/-!
# The retirement saga

`RetirementSaga` of `retirement.rs` in `exv-vpn-resource`: a retirement is started, its cleanup granted and observed, a proof
issued and the ownership retired at the next version, one phase after the other. The trigger, origin and prior ownership that
`begin` takes are used by nothing and left out.
-/

namespace ExvVpn.Resource

open Domain List Option Digest

/-! ## Phases and data -/

inductive RetirementPhase where
  | pending
  | started
  | observed
  | proved
  | retired
  deriving DecidableEq, Repr

/-- The place of a phase in their order. -/
def RetirementPhase.rank : RetirementPhase → Nat
  | .pending => 0
  | .started => 1
  | .observed => 2
  | .proved => 3
  | .retired => 4

structure InventoryPredicate where
  label : UInt8
  verified : Bool
  deriving DecidableEq

structure VersionedPlatformEvidence where
  kindVersion : UInt32
  digest : Digest
  deriving DecidableEq

structure ProveCleanInput where
  runtimeEpoch : RuntimeEpoch
  cleanupTriggerDigest : Digest
  externalTriggerOperationIdentityDigestIfPresent : Option Digest
  journalRootOrProjectionDigest : Digest
  platformEvidence : VersionedPlatformEvidence
  priorPlatformOwnershipTokenDigestIfIssued : Option TokenDigest
  deriving DecidableEq

structure CleanProof where
  runtimeEpoch : RuntimeEpoch
  platformAuthorityInstance : PlatformAuthorityInstanceId
  priorOwnershipVersion : OwnershipVersion
  priorPlatformOwnershipTokenDigestIfIssued : Option TokenDigest
  retirementOperationId : RetirementOperationId
  cleanupTriggerDigest : Digest
  externalTriggerOperationIdentityDigestIfPresent : Option Digest
  canonicalObligationInventoryDigest : Digest
  journalRootOrProjectionDigest : Digest
  journalRevision : UInt64
  platformEvidence : VersionedPlatformEvidence
  unresolvedObligationCount : UInt32
  deriving DecidableEq

structure RetirementSaga where
  authorityEpoch : UInt64
  authorityInstance : PlatformAuthorityInstanceId
  admissionWatermark : UInt64
  journalRevision : UInt64
  priorOwnershipVersion : OwnershipVersion
  retirementOperationId : Option RetirementOperationId
  expectedObligations : List UInt8
  canonicalInventoryDigest : Digest
  nextOwnershipVersion : Option OwnershipVersion
  phase : RetirementPhase
  deriving DecidableEq

def retirementEffectId : EffectId := ⟨[0, 0, 0, 0, 0, 0, 0, 0, 0xF0, 0x0D, 0, 0, 0, 0, 0, 0], rfl, by decide⟩

def validateCleanProof (proof : CleanProof) : Except String Unit :=
  if proof.unresolvedObligationCount ≠ 0 then .error "clean proof: unresolved obligation count must be zero" else .ok ()

namespace RetirementSaga

/-! ## Calls -/

def new (authority : AuthorityFence) (priorOwnershipVersion : OwnershipVersion) : RetirementSaga where
  authorityEpoch := authority.authorityEpoch
  authorityInstance := authority.platformAuthorityInstanceId
  admissionWatermark := authority.admissionWatermark
  journalRevision := authority.journalRevision
  priorOwnershipVersion := priorOwnershipVersion
  retirementOperationId := none
  expectedObligations := []
  canonicalInventoryDigest := filled 0
  nextOwnershipVersion := none
  phase := .pending

variable (saga : RetirementSaga)

/-- The record that is sealed for a retirement. -/
def admission (retirementOperationId : RetirementOperationId) : MutationAdmitted where
  mutationKind := .retirement
  journalOperationIdentity := .retirement retirementOperationId
  effectId := retirementEffectId
  canonicalInputDigest := filled 0x11
  initiatorIdentityDigest := filled 0x99
  authorityEpoch := saga.authorityEpoch
  platformAuthorityInstanceId := saga.authorityInstance
  admissionWatermark := saga.admissionWatermark
  ownershipVersion := saga.priorOwnershipVersion
  authorizationSubject := .recoveryAuthority retirementOperationId
  resourceIdentity := filled 0x77
  preconditionFingerprint := filled 0x44
  desiredAppliedFingerprint := filled 0x55
  canonicalObligationSeed := filled 0x66

def begin (retirementOperationId : RetirementOperationId) (expectedObligations : List UInt8)
    (canonicalInventoryDigest : Digest) : Except String RetirementSaga :=
  if saga.retirementOperationId.isSome then .error "retirement: already started"
  else
    match decodeAdmitted (encodeAdmitted (saga.admission retirementOperationId)) with
    | none => .error "retirement: admission record round-trip failed"
    | some recovered =>
      if recovered.journalOperationIdentity ≠ .retirement retirementOperationId then
        .error "retirement: journal operation identity not reproduced"
      else if recovered.authorizationSubject ≠ .recoveryAuthority retirementOperationId then
        .error "retirement: recovery authority subject not reproduced"
      else
        .ok { saga with
          retirementOperationId := some retirementOperationId
          expectedObligations := expectedObligations
          canonicalInventoryDigest := canonicalInventoryDigest
          phase := .started }

/-- `grant_cleanup`, which changes nothing. -/
def grantCleanup (retirementOperationId : RetirementOperationId) : Except String Unit :=
  if saga.phase ≠ .started then .error "retirement: cleanup not started"
  else if saga.retirementOperationId ≠ some retirementOperationId then
    .error "retirement: forged parallel retirement identity"
  else .ok ()

/-- The loop of `observe_cleanup`, which collects the labels it saw. -/
def observeAll (expected : List UInt8) (seen : Finset UInt8) : List InventoryPredicate → Except String (Finset UInt8)
  | [] => .ok seen
  | predicate :: rest =>
    if !predicate.verified then .error "retirement: unverified inventory predicate"
    else if predicate.label ∉ expected then .error "retirement: unexpected obligation label"
    else observeAll expected (insert predicate.label seen) rest

def observeCleanup (observed : List InventoryPredicate) : Except String RetirementSaga :=
  if saga.phase ≠ .started then .error "retirement: cleanup not started"
  else do
    let seen ← observeAll saga.expectedObligations ∅ observed
    if seen.card ≠ saga.expectedObligations.length then .error "retirement: incomplete inventory"
    else .ok { saga with phase := .observed }

def cleanProof (retirementOperationId : RetirementOperationId) (input : ProveCleanInput) :
    CleanProof where
  runtimeEpoch := input.runtimeEpoch
  platformAuthorityInstance := saga.authorityInstance
  priorOwnershipVersion := saga.priorOwnershipVersion
  priorPlatformOwnershipTokenDigestIfIssued := input.priorPlatformOwnershipTokenDigestIfIssued
  retirementOperationId := retirementOperationId
  cleanupTriggerDigest := input.cleanupTriggerDigest
  externalTriggerOperationIdentityDigestIfPresent := input.externalTriggerOperationIdentityDigestIfPresent
  canonicalObligationInventoryDigest := saga.canonicalInventoryDigest
  journalRootOrProjectionDigest := input.journalRootOrProjectionDigest
  journalRevision := saga.journalRevision
  platformEvidence := input.platformEvidence
  unresolvedObligationCount := 0

def proveClean (input : ProveCleanInput) : Except String (RetirementSaga × CleanProof) :=
  if saga.phase ≠ .observed then .error "retirement: cleanup not observed"
  else
    match saga.retirementOperationId with
    | none => .error "retirement: no durable operation id"
    | some retirementOperationId => do
      let proof := saga.cleanProof retirementOperationId input
      validateCleanProof proof
      .ok ({ saga with phase := .proved }, proof)

def retireOwnership (next : OwnershipVersion) : Except String RetirementSaga :=
  if saga.phase ≠ .proved then .error "retirement: not proved"
  else if saga.nextOwnershipVersion.isSome then .error "retirement: ownership already retired"
  -- The version is not compared with the prior one.
  else .ok { saga with nextOwnershipVersion := some next, phase := .retired }

/-! ## What the calls accept -/

variable {saga} {after : RetirementSaga} {retirementOperationId : RetirementOperationId}

/-- A retirement that was not started is always started: its record reads back. -/
theorem begin_eq_ok_iff {expected : List UInt8} {digest : Digest} :
    saga.begin retirementOperationId expected digest = .ok after ↔
      saga.retirementOperationId = none ∧
        after = { saga with
          retirementOperationId := some retirementOperationId
          expectedObligations := expected
          canonicalInventoryDigest := digest
          phase := .started } := by
  unfold begin
  rw [decodeAdmitted_encodeAdmitted]
  cases hid : saga.retirementOperationId with
  | some id => simp
  | none => simp [admission, eq_comm]

theorem grantCleanup_eq_ok_iff :
    saga.grantCleanup retirementOperationId = .ok () ↔
      saga.phase = .started ∧ saga.retirementOperationId = some retirementOperationId := by
  unfold grantCleanup
  split
  · simp_all
  · split <;> simp_all

/-- The loop passes when all that was observed is verified and expected; it has then seen the labels. -/
theorem observeAll_eq_ok_iff {expected : List UInt8} {seen result : Finset UInt8} {observed : List InventoryPredicate} :
    observeAll expected seen observed = .ok result ↔
      (∀ predicate ∈ observed, predicate.verified ∧ predicate.label ∈ expected) ∧
        result = seen ∪ (observed.map (·.label)).toFinset := by
  induction observed generalizing seen with
  | nil =>
    simp only [observeAll, Except.ok.injEq, map_nil, toFinset_nil, Finset.union_empty, not_mem_nil,
      IsEmpty.forall_iff, implies_true, true_and]
    exact eq_comm
  | cons predicate rest ih =>
    unfold observeAll
    split
    · simp_all
    · split
      · simp_all
      · simp_all [Finset.insert_union]

/-- The number of labels that were seen is that of the expected ones exactly when each was expected once and seen. -/
theorem card_eq_length_iff {seen : Finset UInt8} {expected : List UInt8} (h : ∀ label ∈ seen, label ∈ expected) :
    seen.card = expected.length ↔ expected.Nodup ∧ ∀ label ∈ expected, label ∈ seen := by
  have hsubset : seen ⊆ expected.toFinset := fun label hlabel => mem_toFinset.mpr (h label hlabel)
  constructor
  · intro hcard
    have hle : expected.toFinset.card ≤ seen.card := hcard ▸ toFinset_card_le expected
    have heq : seen = expected.toFinset := Finset.eq_of_subset_of_card_le hsubset hle
    refine ⟨?_, fun label hlabel => heq ▸ mem_toFinset.mpr hlabel⟩
    rw [heq] at hcard
    exact Multiset.toFinset_card_eq_card_iff_nodup.mp hcard
  · intro ⟨hnodup, hall⟩
    have heq : seen = expected.toFinset :=
      Finset.Subset.antisymm hsubset fun label hlabel => hall label (mem_toFinset.mp hlabel)
    rw [heq, toFinset_card_of_nodup hnodup]

/-- An inventory is accepted when each label is expected once and was seen verified, and nothing else was seen. -/
theorem observeCleanup_eq_ok_iff {observed : List InventoryPredicate} :
    saga.observeCleanup observed = .ok after ↔
      saga.phase = .started ∧ (∀ predicate ∈ observed, predicate.verified ∧ predicate.label ∈ saga.expectedObligations) ∧
        saga.expectedObligations.Nodup ∧ (∀ label ∈ saga.expectedObligations, label ∈ observed.map (·.label)) ∧
        after = { saga with phase := .observed } := by
  unfold observeCleanup
  by_cases hphase : saga.phase = .started
  swap
  · simp [hphase]
  simp only [hphase, ne_eq, not_true_eq_false, if_false, true_and, bind_ok_iff, observeAll_eq_ok_iff, Finset.empty_union]
  -- what passed the loop was expected, so that its number tells whether all was seen
  have hcard (h : ∀ predicate ∈ observed, predicate.verified ∧ predicate.label ∈ saga.expectedObligations) :
      (observed.map (·.label)).toFinset.card = saga.expectedObligations.length ↔
        saga.expectedObligations.Nodup ∧ ∀ label ∈ saga.expectedObligations, label ∈ observed.map (·.label) := by
    rw [card_eq_length_iff]
    · simp only [List.mem_toFinset]
    · intro label hlabel
      obtain ⟨predicate, hpredicate, rfl⟩ := mem_map.mp (mem_toFinset.mp hlabel)
      exact (h predicate hpredicate).2
  constructor
  · rintro ⟨seen, ⟨hgood, rfl⟩, h⟩
    split at h
    · cases h
    · rename_i hsame
      obtain ⟨hnodup, hcovers⟩ := (hcard hgood).mp (not_not.mp hsame)
      exact ⟨hgood, hnodup, hcovers, (Except.ok.inj h).symm⟩
  · rintro ⟨hgood, hnodup, hcovers, rfl⟩
    exact ⟨_, ⟨hgood, rfl⟩, if_neg (not_not.mpr ((hcard hgood).mpr ⟨hnodup, hcovers⟩))⟩

theorem proveClean_eq_ok_iff {input : ProveCleanInput} {proof : CleanProof} :
    saga.proveClean input = .ok (after, proof) ↔
      saga.phase = .observed ∧ ∃ id, saga.retirementOperationId = some id ∧ proof = saga.cleanProof id input ∧
        after = { saga with phase := .proved } := by
  unfold proveClean
  by_cases hphase : saga.phase = .observed
  swap
  · simp [hphase]
  cases hid : saga.retirementOperationId with
  | none => simp [hphase]
  | some id =>
    have hvalid : validateCleanProof (saga.cleanProof id input) = .ok () := rfl
    simp only [hphase, ne_eq, not_true_eq_false, if_false, hvalid, bind, Except.bind, Except.ok.injEq, Prod.mk.injEq,
      true_and, some.injEq, exists_eq_left']
    exact ⟨fun ⟨hafter, hproof⟩ => ⟨hproof.symm, hafter.symm⟩, fun ⟨hproof, hafter⟩ => ⟨hafter.symm, hproof.symm⟩⟩

theorem retireOwnership_eq_ok_iff {next : OwnershipVersion} :
    saga.retireOwnership next = .ok after ↔
      saga.phase = .proved ∧ saga.nextOwnershipVersion = none ∧
        after = { saga with nextOwnershipVersion := some next, phase := .retired } := by
  unfold retireOwnership
  by_cases hphase : saga.phase = .proved
  swap
  · simp [hphase]
  cases hnext : saga.nextOwnershipVersion with
  | some version => simp [hphase]
  | none =>
    simp only [hphase, ne_eq, not_true_eq_false, if_false, isSome_none, Bool.false_eq_true, Except.ok.injEq, true_and]
    exact eq_comm

end RetirementSaga

end ExvVpn.Resource
