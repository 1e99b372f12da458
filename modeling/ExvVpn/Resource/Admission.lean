import ExvVpn.Domain.Identity

/-!
# Admission records

The admitted record of `admission.rs` in `exv-vpn-resource`, how it is written as a JSON value and how it is read back.
A payload is the version byte and the value; the JSON text between them, and the text of a UUID, are the business of
`serde_json` and `uuid`, so a value stands for its text and a UUID in a value for its own. Rejections and absence fences
have payloads as well, which no gate reads (`Resource/AdmissionRecord` has them).
-/

namespace ExvVpn.Resource

open Domain Digest

inductive MutationKind where
  | external (method : OperationMethod)
  | retirement
  deriving DecidableEq

inductive AuthorizationSubject where
  | liveOwnershipTokenDigest (token : TokenDigest)
  | recoveryAuthority (retirement : RetirementOperationId)
  deriving DecidableEq

inductive JournalOperationIdentity where
  | external (key : OperationLookupKey)
  | retirement (retirement : RetirementOperationId)
  deriving DecidableEq

/-- An ownership version, which is never zero. -/
abbrev OwnershipVersion := {v : UInt64 // v ≠ 0}

structure MutationAdmitted where
  mutationKind : MutationKind
  journalOperationIdentity : JournalOperationIdentity
  effectId : EffectId
  canonicalInputDigest : CanonicalInputDigest
  initiatorIdentityDigest : PrincipalDigest
  authorityEpoch : UInt64
  platformAuthorityInstanceId : PlatformAuthorityInstanceId
  admissionWatermark : UInt64
  ownershipVersion : OwnershipVersion
  authorizationSubject : AuthorizationSubject
  resourceIdentity : ResourceIdentityDigest
  preconditionFingerprint : Digest
  desiredAppliedFingerprint : Digest
  canonicalObligationSeed : Digest
  deriving DecidableEq

/-! ## Values -/

/-- `serde_json::Value`, as far as these records use it: a number is an unsigned integer, a negative one (`-(n + 1)`) or
neither. -/
inductive Value where
  | null
  | bool (b : Bool)
  | number (n : Nat)
  | negative (n : Nat)
  | float
  | text (s : String)
  | uuid (bytes : Bytes)
  | array (items : List Value)
  | object (fields : List (String × Value))

/-- `Value::get` and `Map::get`. -/
def Value.get? : Value → String → Option Value
  | .object fields, name => (fields.find? (·.1 = name)).map (·.2)
  | _, _ => none

/-- What the encoder hands to the journal: the version byte and the value. -/
structure Payload where
  version : UInt8
  value : Value

def admissionRecordVersion : UInt8 := 1

/-! ## Writing -/

def Value.ofDigest (digest : Digest) : Value := .array (digest.1.map fun byte => .number byte.toNat)

/-- An identifier is the text of its UUID. -/
def Value.ofId (id : Id) : Value := .uuid id.1

def methodName : OperationMethod → String
  | .connect => "Connect"
  | .respondInteraction => "RespondInteraction"
  | .stop => "Stop"
  | .reconcile => "Reconcile"
  | .acquireLease => "AcquireLease"
  | .applyTunnel => "ApplyTunnel"
  | .stopTunnel => "StopTunnel"
  | .releaseLease => "ReleaseLease"

def Value.ofKey (key : OperationLookupKey) : Value :=
  .object [("principal_digest", .ofDigest key.principalDigest), ("method", .text (methodName key.method)),
    ("runtime_epoch", .ofId key.runtimeEpoch), ("operation_id", .ofId key.operationId)]

def Value.ofIdentity : JournalOperationIdentity → Value
  | .external key => .object [("External", .ofKey key)]
  | .retirement retirement => .object [("Retirement", .ofId retirement)]

def Value.ofKind : MutationKind → Value
  | .external method => .object [("External", .text (methodName method))]
  | .retirement => .text "Retirement"

def Value.ofSubject : AuthorizationSubject → Value
  | .liveOwnershipTokenDigest token => .object [("LiveOwnershipTokenDigest", .ofDigest token)]
  | .recoveryAuthority retirement => .object [("RecoveryAuthority", .ofId retirement)]

def Value.ofAdmitted (record : MutationAdmitted) : Value :=
  .object [("mutation_kind", .ofKind record.mutationKind),
    ("journal_operation_identity", .ofIdentity record.journalOperationIdentity),
    ("effect_id", .ofId record.effectId),
    ("canonical_input_digest", .ofDigest record.canonicalInputDigest),
    ("initiator_identity_digest", .ofDigest record.initiatorIdentityDigest),
    ("authority_epoch", .number record.authorityEpoch.toNat),
    ("platform_authority_instance_id", .ofId record.platformAuthorityInstanceId),
    ("admission_watermark", .number record.admissionWatermark.toNat),
    ("ownership_version", .number record.ownershipVersion.1.toNat),
    ("authorization_subject", .ofSubject record.authorizationSubject),
    ("resource_identity", .ofDigest record.resourceIdentity),
    ("precondition_fingerprint", .ofDigest record.preconditionFingerprint),
    ("desired_applied_fingerprint", .ofDigest record.desiredAppliedFingerprint),
    ("canonical_obligation_seed", .ofDigest record.canonicalObligationSeed)]

/-- `encode_record` of an admitted record. -/
def encodeAdmitted (record : MutationAdmitted) : Payload :=
  { version := admissionRecordVersion, value := .object [("Admitted", .ofAdmitted record)] }

/-! ## Reading -/

/-- `v_u64`: `as_u64` of a number that fits. -/
def readU64 : Value → Option UInt64
  | .number n => if n < UInt64.size then some (UInt64.ofNat n) else none
  | _ => none

/-- The loop of `v_u8arr32` over the slots that are left: a missing item leaves a zero, an item that is too large is cut. -/
def readSlots : Nat → List Value → Option Bytes
  | 0, _ => some []
  | slots + 1, [] => some (List.replicate (slots + 1) 0)
  | slots + 1, item :: items => do
    let n ← readU64 item
    let rest ← readSlots slots items
    return UInt8.ofNat n.toNat :: rest

/-- `re_digest`. -/
def readDigest : Value → Option Digest
  | .array items => (readSlots 32 items).bind tryFrom
  | _ => none

/-- One byte of a derived `[u8; 32]`. -/
def readByte : Value → Option UInt8
  | .number n => if n < UInt8.size then some (UInt8.ofNat n) else none
  | _ => none

/-- The derived reading of `AppliedFingerprint` and `ObligationSeed`: exactly 32 numbers, each a byte. -/
def readFingerprint : Value → Option Digest
  | .array items => (items.mapM readByte).bind tryFrom
  | _ => none

/-- `v_uuid` and the `try_from` of an identifier. -/
def readId : Value → Option Id
  | .uuid bytes => Id.tryFrom bytes
  | _ => none

/-- The derived reading of an enumeration by the names of its variants: the name alone, or an object from it to null. -/
def readVariant {α : Type} (variants : List (String × α)) : Value → Option α
  | .text name => variants.lookup name
  | .object [(name, .null)] => variants.lookup name
  | _ => none

/-- The derived reading of `OperationMethod`. -/
def readMethod : Value → Option OperationMethod :=
  readVariant [("Connect", .connect), ("RespondInteraction", .respondInteraction), ("Stop", .stop),
    ("Reconcile", .reconcile), ("AcquireLease", .acquireLease), ("ApplyTunnel", .applyTunnel), ("StopTunnel", .stopTunnel),
    ("ReleaseLease", .releaseLease)]

/-- `re_operation_lookup_key`. -/
def readKey (v : Value) : Option OperationLookupKey := do
  let principalDigest ← readDigest (← v.get? "principal_digest")
  let method ← readMethod (← v.get? "method")
  let runtimeEpoch ← readId (← v.get? "runtime_epoch")
  let operationId ← readId (← v.get? "operation_id")
  return { principalDigest, method, runtimeEpoch, operationId }

/-- `re_journal_op_identity`. -/
def readIdentity (v : Value) : Option JournalOperationIdentity :=
  match v.get? "External" with
  | some key => (readKey key).map .external
  | none =>
    match v.get? "Retirement" with
    | some retirement => (readId retirement).map .retirement
    | none => none

/-- The derived reading of `MutationKind`. -/
def readKind : Value → Option MutationKind
  | .text "Retirement" => some .retirement
  | .object [("Retirement", .null)] => some .retirement
  | .object [("External", method)] => (readMethod method).map .external
  | _ => none

/-- `re_authorization_subject`. -/
def readSubject (v : Value) : Option AuthorizationSubject :=
  match v.get? "LiveOwnershipTokenDigest" with
  | some token => (readDigest token).map .liveOwnershipTokenDigest
  | none =>
    match v.get? "RecoveryAuthority" with
    | some retirement => (readId retirement).map .recoveryAuthority
    | none => none

/-- `re_ownership_version`. -/
def readVersion (v : Value) : Option OwnershipVersion := do
  let version ← readU64 v
  if h : version ≠ 0 then some ⟨version, h⟩ else none

/-- `re_mutation_admitted`. -/
def readAdmitted (v : Value) : Option MutationAdmitted := do
  let mutationKind ← readKind (← v.get? "mutation_kind")
  let journalOperationIdentity ← readIdentity (← v.get? "journal_operation_identity")
  let effectId ← readId (← v.get? "effect_id")
  let canonicalInputDigest ← readDigest (← v.get? "canonical_input_digest")
  let initiatorIdentityDigest ← readDigest (← v.get? "initiator_identity_digest")
  let authorityEpoch ← readU64 (← v.get? "authority_epoch")
  let platformAuthorityInstanceId ← readId (← v.get? "platform_authority_instance_id")
  let admissionWatermark ← readU64 (← v.get? "admission_watermark")
  let ownershipVersion ← readVersion (← v.get? "ownership_version")
  let authorizationSubject ← readSubject (← v.get? "authorization_subject")
  let resourceIdentity ← readDigest (← v.get? "resource_identity")
  let preconditionFingerprint ← readFingerprint (← v.get? "precondition_fingerprint")
  let desiredAppliedFingerprint ← readFingerprint (← v.get? "desired_applied_fingerprint")
  let canonicalObligationSeed ← readFingerprint (← v.get? "canonical_obligation_seed")
  return { mutationKind, journalOperationIdentity, effectId, canonicalInputDigest, initiatorIdentityDigest, authorityEpoch,
           platformAuthorityInstanceId, admissionWatermark, ownershipVersion, authorizationSubject, resourceIdentity,
           preconditionFingerprint, desiredAppliedFingerprint, canonicalObligationSeed }

/-- `decode_record`, when it returns an admitted record: another version, another kind of record and a value that does not
read are all `none`. -/
def decodeAdmitted (payload : Payload) : Option MutationAdmitted :=
  if payload.version ≠ admissionRecordVersion then none
  else (payload.value.get? "Admitted").bind readAdmitted

/-! ## Round trip -/

@[simp] theorem readU64_number (n : UInt64) : readU64 (.number n.toNat) = some n := by
  have h : n.toNat < UInt64.size := n.toNat_lt_size
  simp [readU64, h]

@[simp] theorem readId_ofId (id : Id) : readId (.ofId id) = some id := by
  simp [readId, Value.ofId, Id.tryFrom, id.2]

theorem readU64_byte (byte : UInt8) : readU64 (.number byte.toNat) = some (UInt64.ofNat byte.toNat) := by
  have h : byte.toNat < UInt64.size := lt_trans byte.toNat_lt (by decide)
  simp [readU64, h]

theorem readSlots_bytes (bytes : Bytes) :
    readSlots bytes.length (bytes.map fun byte => .number byte.toNat) = some bytes := by
  induction bytes with
  | nil => rfl
  | cons byte bytes ih => simp [readSlots, readU64_byte, ih]

@[simp] theorem readDigest_ofDigest (digest : Digest) : readDigest (.ofDigest digest) = some digest := by
  obtain ⟨bytes, hlength⟩ := digest
  have h := readSlots_bytes bytes
  rw [hlength] at h
  simp [readDigest, Value.ofDigest, h, tryFrom, hlength]

theorem mapM_readByte (bytes : Bytes) : (bytes.map fun byte => Value.number byte.toNat).mapM readByte = some bytes := by
  induction bytes with
  | nil => rfl
  | cons byte bytes ih =>
    have h : byte.toNat < UInt8.size := byte.toNat_lt_size
    simp [List.mapM_cons, readByte, h, ih]

@[simp] theorem readFingerprint_ofDigest (digest : Digest) : readFingerprint (.ofDigest digest) = some digest := by
  obtain ⟨bytes, hlength⟩ := digest
  rw [Value.ofDigest, readFingerprint, mapM_readByte]
  simp [tryFrom, hlength]

@[simp] theorem readMethod_name (method : OperationMethod) : readMethod (.text (methodName method)) = some method := by
  cases method <;> rfl

@[simp] theorem readKey_ofKey (key : OperationLookupKey) : readKey (.ofKey key) = some key := by
  simp [readKey, Value.ofKey, Value.get?]

@[simp] theorem readIdentity_ofIdentity (identity : JournalOperationIdentity) :
    readIdentity (.ofIdentity identity) = some identity := by
  cases identity <;> simp [readIdentity, Value.ofIdentity, Value.get?]

@[simp] theorem readKind_ofKind (kind : MutationKind) : readKind (.ofKind kind) = some kind := by
  cases kind <;> simp [readKind, Value.ofKind]

@[simp] theorem readSubject_ofSubject (subject : AuthorizationSubject) : readSubject (.ofSubject subject) = some subject := by
  cases subject <;> simp [readSubject, Value.ofSubject, Value.get?]

@[simp] theorem readVersion_number (version : OwnershipVersion) : readVersion (.number version.1.toNat) = some version := by
  simp [readVersion, version.2]

/-- Every admitted record is read back as it was written. -/
theorem decodeAdmitted_encodeAdmitted (record : MutationAdmitted) : decodeAdmitted (encodeAdmitted record) = some record := by
  simp [decodeAdmitted, encodeAdmitted, Value.get?, readAdmitted, Value.ofAdmitted]

end ExvVpn.Resource
