import ExvVpn.Journal.SystemProxyJournal
import ExvVpn.Resource.AdmissionRecord

/-!
# Startup recovery

`RecoveryEngine::recover` of `exv-vpn-win32-resource` with the journal projection and the comparison of observations: every
admission of the journal is classified against what was observed of the system.
-/

namespace ExvVpn.Win32Resource

open Domain Resource Resource.Durable Journal

structure ObservedResource where
  obligation : UInt8
  identityDigest : Domain.Digest
  fingerprint : Domain.Digest
  deriving DecidableEq

abbrev ObservedFingerprint := Domain.Digest

inductive RecoveryAction where
  | effectUnknown (observedFingerprint : ObservedFingerprint)
  | cleanOwned (observedFingerprint : ObservedFingerprint)
  | divergedNotOwned (observedFingerprint : ObservedFingerprint)
  | priorOwnershipStale (observedFingerprint : ObservedFingerprint)
  deriving DecidableEq

structure ObligationRecovery where
  obligation : UInt8
  appliedFingerprint : Domain.Digest
  observedFingerprint : ObservedFingerprint
  action : RecoveryAction
  deriving DecidableEq

inductive RecoveryOutcome where
  | provenClean (projectionDigest : Journal.Digest)
  | pending (obligations : List ObligationRecovery) (projectionDigest : Journal.Digest)
  | observationFailed (obligation : UInt8)
  | corrupt (offset : Nat)
  deriving DecidableEq

def projectionDigest (H : Hash) (records : List JournalRecord) : Journal.Digest := H (records.flatMap encode)

/-- `NativeObservation::fingerprint`. -/
def observationFingerprint : List ObservedResource → ObservedFingerprint
  | [] => Digest.filled 0
  | fact :: _ => fact.fingerprint

def observes (admitted : MutationAdmitted) (fact : ObservedResource) : Bool :=
  decide (fact.identityDigest = admitted.resourceIdentity)

variable (H : Hash) (fromSlice : Bytes → Option Value)

/-- `decode_admission`: a record of another kind and a payload that does not decode are both no admission. -/
def decodeAdmission (payload : Bytes) : Option MutationAdmitted :=
  match decodeRecord fromSlice payload with
  | .ok (.admitted admitted) => some admitted
  | .ok _ => none
  | .error _ => none

/-- The classification of one admission; an obligation of the current version without an observed fact ends the recovery. -/
def classify (current : OwnershipVersion) (observed : List ObservedResource) (admitted : MutationAdmitted) :
    Except UInt8 ObligationRecovery :=
  let matched := observed.filter (observes admitted)
  let obligation := (matched.head?.map (·.obligation)).getD 0
  let observedFingerprint := observationFingerprint matched
  let classified (action : RecoveryAction) : Except UInt8 ObligationRecovery :=
    .ok { obligation, appliedFingerprint := admitted.desiredAppliedFingerprint, observedFingerprint, action }
  if admitted.ownershipVersion ≠ current then classified (.priorOwnershipStale observedFingerprint)
  else if matched = [] then .error obligation
  else if observedFingerprint ≠ admitted.desiredAppliedFingerprint then classified (.divergedNotOwned observedFingerprint)
  else
    match admitted.authorizationSubject with
    | .recoveryAuthority _ => classified (.cleanOwned observedFingerprint)
    | .liveOwnershipTokenDigest _ => classified (.effectUnknown observedFingerprint)

/-- The loop of `recover` over the records that are left, with the obligations so far. -/
def recoverLoop (current : OwnershipVersion) (observed : List ObservedResource) (digest : Journal.Digest) :
    List JournalRecord → List ObligationRecovery → RecoveryOutcome
  | [], obligations => if obligations.isEmpty then .provenClean digest else .pending obligations digest
  | record :: records, obligations =>
    match decodeAdmission fromSlice record.payload with
    | none => recoverLoop current observed digest records obligations
    | some admitted =>
      match classify current observed admitted with
      | .error obligation => .observationFailed obligation
      | .ok recovery => recoverLoop current observed digest records (obligations ++ [recovery])

/-- `RecoveryEngine::recover`, with the journal file if it can be opened and read. -/
def RecoveryEngine.recover (current : OwnershipVersion) (observed : List ObservedResource) (file : Option Bytes) :
    Option RecoveryOutcome :=
  file.map fun bytes =>
    match Journal.recover H bytes with
    | .corrupt offset => .corrupt offset
    | .clean records | .tornTail records =>
      recoverLoop fromSlice current observed (projectionDigest H records) records []

end ExvVpn.Win32Resource
