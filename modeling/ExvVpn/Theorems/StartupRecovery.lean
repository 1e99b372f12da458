import ExvVpn.Lemmas.Journal
import ExvVpn.Win32Resource.Recovery

/-!
# What startup recovery proves

A cleanup is granted only to an admission of the current version whose resource was observed with the fingerprint it was to
have, under a recovery authority. The journal is claimed clean as soon as it has no admission that decodes.
-/

namespace ExvVpn.Win32Resource

open Domain Resource Resource.Durable Journal List Option RecoveryEngine

variable {H : Hash} {fromSlice : Bytes → Option Value} {current : OwnershipVersion} {observed : List ObservedResource}

/-- A record that leaves nothing to recover: it decodes, and not to an admission. -/
def Accounted (fromSlice : Bytes → Option Value) (record : JournalRecord) : Prop :=
  ∃ r, decodeRecord fromSlice record.payload = .ok r ∧ ∀ admitted, r ≠ .admitted admitted

variable {recovery : ObligationRecovery} {digest : Journal.Digest}

namespace StartupRecoveryAux

end StartupRecoveryAux

namespace StartupRecoveryAux

end StartupRecoveryAux

open StartupRecoveryAux

namespace StartupRecoveryAux

end StartupRecoveryAux

end ExvVpn.Win32Resource
