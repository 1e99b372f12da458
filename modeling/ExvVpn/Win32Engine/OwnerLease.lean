import ExvVpn.Resource.Operation

/-!
# Ownership leases and the mutation gate

What stands between a mutation of the Windows helper and its effect: the token slot of each connection (`delivery.rs` and
`token_slot.rs`), the lease handles over it (`owner_lease.rs`) and the gate that lets an operation pass once its admission is
durable (`mutation_ingress.rs`). The expiry deadline of a lease, which the helper does not check, is left out.
-/

namespace ExvVpn.HelperControl

open Domain Resource Function Option

/-! ## Token slots -/

structure OwnershipTokenSlot where
  key : OperationLookupKey
  requestDigest : RequestDigest
  ownershipVersion : OwnershipVersion
  token : TokenDigest
  deriving DecidableEq

inductive ConnectionSlot where
  | holding (slot : OwnershipTokenSlot)
  | resolved (key : OperationLookupKey) (ownershipVersion : OwnershipVersion)
  deriving DecidableEq

inductive DeliveryOutcome where
  | issued (token : TokenDigest)
  | replayed (token : TokenDigest)
  | otherKeyHeld
  | versionPending
  | idempotencyConflict
  | alreadyDelivered
  deriving DecidableEq

/-- `OwnershipTokenDelivery`: the slot of each connection. -/
abbrev TokenSlots := ConnectionBinding → Option ConnectionSlot

def TokenSlots.deliver (slots : TokenSlots) (connection : ConnectionBinding) (request : OwnershipTokenSlot) :
    TokenSlots × DeliveryOutcome :=
  match slots connection with
  | none => (update slots connection (some (.holding request)), .issued request.token)
  | some (.holding slot) =>
    if slot.ownershipVersion ≠ request.ownershipVersion then (slots, .versionPending)
    else if slot.key ≠ request.key then (slots, .otherKeyHeld)
    else if slot.requestDigest ≠ request.requestDigest then (slots, .idempotencyConflict)
    else (slots, .replayed slot.token)
  | some (.resolved key ownershipVersion) =>
    if ownershipVersion ≠ request.ownershipVersion then (slots, .versionPending)
    else if key ≠ request.key then (slots, .otherKeyHeld)
    else (slots, .alreadyDelivered)

/-- `OwnershipTokenDelivery::ack`; the flag says whether the slot was cleared. -/
def TokenSlots.ack (slots : TokenSlots) (connection : ConnectionBinding) (request : OwnershipTokenSlot) :
    TokenSlots × Bool :=
  match slots connection with
  | some (.holding slot) =>
    if slot = request then (update slots connection (some (.resolved slot.key slot.ownershipVersion)), true)
    else (slots, false)
  | _ => (slots, false)

/-- `OwnershipTokenDelivery::terminate_connection`; the flag says whether a token was invalidated. -/
def TokenSlots.terminateConnection (slots : TokenSlots) (connection : ConnectionBinding) : TokenSlots × Bool :=
  match slots connection with
  | some (.holding slot) => (update slots connection (some (.resolved slot.key slot.ownershipVersion)), true)
  | _ => (slots, false)

/-! ## Leases -/

structure OwnerLease where
  key : OperationLookupKey
  requestDigest : RequestDigest
  ownershipVersion : OwnershipVersion
  tokenDigest : TokenDigest
  deriving DecidableEq

/-- The fields of a lease that its slot has too. -/
def OwnerLease.held (lease : OwnerLease) : OwnershipTokenSlot :=
  ⟨lease.key, lease.requestDigest, lease.ownershipVersion, lease.tokenDigest⟩

inductive LeaseIssue where
  | issued (tokenDigest : TokenDigest)
  | sameTokenReplayed (tokenDigest : TokenDigest)
  | refused
  deriving DecidableEq

structure OwnerLeaseManager where
  slot : TokenSlots
  leases : ConnectionBinding → Option OwnerLease

def OwnerLeaseManager.new : OwnerLeaseManager := { slot := fun _ => none, leases := fun _ => none }

variable (manager : OwnerLeaseManager) (connection : ConnectionBinding)

def OwnerLeaseManager.issue (key : OperationLookupKey)
    (requestDigest : RequestDigest) (ownershipVersion : OwnershipVersion) (candidate : TokenDigest) :
    OwnerLeaseManager × LeaseIssue :=
  match manager.slot.deliver connection { key, requestDigest, ownershipVersion, token := candidate } with
  | (slot, .issued token) =>
    let lease : OwnerLease := { key, requestDigest, ownershipVersion, tokenDigest := token }
    ({ slot, leases := update manager.leases connection (some lease) }, .issued token)
  | (slot, .replayed token) => ({ manager with slot }, .sameTokenReplayed token)
  | (slot, _) => ({ manager with slot }, .refused)

def OwnerLeaseManager.ack (key : OperationLookupKey)
    (requestDigest : RequestDigest) (ownershipVersion : OwnershipVersion) (token : TokenDigest) : OwnerLeaseManager :=
  match manager.slot.ack connection { key, requestDigest, ownershipVersion, token } with
  | (slot, true) => { slot, leases := update manager.leases connection none }
  | (slot, false) => { manager with slot }

def OwnerLeaseManager.terminateConnection :
    OwnerLeaseManager :=
  match manager.slot.terminateConnection connection with
  | (slot, true) => { slot, leases := update manager.leases connection none }
  | (slot, false) => { manager with slot }

def OwnerLeaseManager.lease : Option OwnerLease :=
  manager.leases connection

/-! ## The gate -/

/-- `MutationIngress`: the durable records, under the whole key. -/
abbrev MutationIngress := OperationLookupKey → Option MutationAdmitted

/-- `MutationIngress::admit`, which puts back what it takes out. -/
def MutationIngress.admitDurable (ingress : MutationIngress) (key : OperationLookupKey) : Except String MutationAdmitted :=
  match ingress key with
  | some record => .ok record
  | none => .error "mutation admission not durable"

def MutationIngress.durableBeforeReply (ingress : MutationIngress) (admitted : MutationAdmitted) : MutationIngress × Bool :=
  match decodeAdmitted (encodeAdmitted admitted) with
  | none => (ingress, false)
  | some _ =>
    match admitted.journalOperationIdentity with
    | .external key => (update ingress key (some admitted), true)
    | .retirement _ => (ingress, false)

/-- The record of an external operation is always registered: its payload reads back. -/
theorem MutationIngress.durableBeforeReply_external {ingress : MutationIngress} {admitted : MutationAdmitted}
    {key : OperationLookupKey} (h : admitted.journalOperationIdentity = .external key) :
    ingress.durableBeforeReply admitted = (update ingress key (some admitted), true) := by
  simp [durableBeforeReply, decodeAdmitted_encodeAdmitted, h]

/-! ## A lease is a held slot -/

namespace OwnerLeaseManager

/-- A lease is what the slot of its connection holds. -/
def Mirrored : Prop :=
  ∀ connection lease, manager.leases connection = some lease ↔ manager.slot connection = some (.holding lease.held)

theorem mirrored_new : OwnerLeaseManager.new.Mirrored := by
  intro connection lease
  simp [new]

variable {manager} {connection : ConnectionBinding} {key : OperationLookupKey}
  {requestDigest : RequestDigest} {version : OwnershipVersion} {token : TokenDigest}

theorem held_inj {lease lease' : OwnerLease} : lease.held = lease'.held ↔ lease = lease' := by
  cases lease
  cases lease'
  simp [OwnerLease.held]

theorem mirrored_hold (h : manager.Mirrored) (lease : OwnerLease) :
    ({ slot := update manager.slot connection (some (.holding lease.held)),
       leases := update manager.leases connection (some lease) } : OwnerLeaseManager).Mirrored := by
  intro other lease'
  by_cases hother : other = connection
  · subst hother
    simp [held_inj]
  · simpa [update_of_ne hother] using h other lease'

/-- Either nothing changes, or the connection's token is resolved and its lease is gone. -/
def Resolves (connection : ConnectionBinding) (before after : OwnerLeaseManager) : Prop :=
  after = before ∨ ∃ key version,
    after = { slot := update before.slot connection (some (.resolved key version)),
              leases := update before.leases connection none }

theorem Resolves.mirrored {after : OwnerLeaseManager} (h : Resolves connection manager after)
    (hmirrored : manager.Mirrored) : after.Mirrored := by
  rcases h with rfl | ⟨key, version, rfl⟩
  · exact hmirrored
  intro other lease
  by_cases hother : other = connection
  · subst hother
    simp
  · simpa [update_of_ne hother] using hmirrored other lease

/-- What is held afterwards was held before. -/
theorem Resolves.holding {after : OwnerLeaseManager} (h : Resolves connection manager after) {other : ConnectionBinding}
    {slot : OwnershipTokenSlot} (hslot : after.slot other = some (.holding slot)) :
    manager.slot other = some (.holding slot) := by
  rcases h with rfl | ⟨key, version, rfl⟩
  · exact hslot
  by_cases hother : other = connection
  · subst hother
    simp at hslot
  · simpa [update_of_ne hother] using hslot

theorem resolves_ack : Resolves connection manager (manager.ack connection key requestDigest version token) := by
  unfold ack TokenSlots.ack
  cases hslot : manager.slot connection with
  | none => exact .inl rfl
  | some found =>
    cases found with
    | resolved => exact .inl rfl
    | holding held =>
      by_cases hheld : held = ⟨key, requestDigest, version, token⟩
      · exact .inr ⟨key, version, by simp [hheld]⟩
      · exact .inl (by simp [hheld])

theorem resolves_terminateConnection (manager : OwnerLeaseManager) (connection : ConnectionBinding) :
    Resolves connection manager (manager.terminateConnection connection) := by
  unfold terminateConnection TokenSlots.terminateConnection
  cases hslot : manager.slot connection with
  | none => exact .inl rfl
  | some found =>
    cases found with
    | resolved => exact .inl rfl
    | holding held => exact .inr ⟨held.key, held.ownershipVersion, rfl⟩

/-- A new connection gets the candidate. -/
theorem issue_of_none (h : manager.slot connection = none) :
    manager.issue connection key requestDigest version token =
      ({ slot := update manager.slot connection (some (.holding ⟨key, requestDigest, version, token⟩)),
         leases := update manager.leases connection (some ⟨key, requestDigest, version, token⟩) },
        .issued token) := by
  simp [issue, TokenSlots.deliver, h]

/-- A connection that has a slot gets nothing new. -/
theorem issue_of_some {slot : ConnectionSlot} (h : manager.slot connection = some slot) (key : OperationLookupKey)
    (requestDigest : RequestDigest) (version : OwnershipVersion) (token : TokenDigest) :
    (manager.issue connection key requestDigest version token).1 = manager ∧
      ∀ issued, (manager.issue connection key requestDigest version token).2 ≠ .issued issued := by
  unfold issue TokenSlots.deliver
  rw [h]
  cases slot with
  | holding slot => dsimp only; split_ifs <;> simp
  | resolved => dsimp only; split_ifs <;> simp

/-- A lease is replayed exactly when the slot holds its token for the same key, digest and version. -/
theorem issue_replayed_iff {held : TokenDigest} :
    (manager.issue connection key requestDigest version token).2 = .sameTokenReplayed held ↔
      manager.slot connection = some (.holding ⟨key, requestDigest, version, held⟩) := by
  unfold issue TokenSlots.deliver
  rcases hslot : manager.slot connection with _ | ⟨⟨key', requestDigest', version', token'⟩⟩ | _
  · simp
  · dsimp only
    split_ifs <;> simp <;> grind
  · dsimp only
    split_ifs <;> simp

theorem mirrored_issue (h : manager.Mirrored) :
    (manager.issue connection key requestDigest version token).1.Mirrored := by
  cases hslot : manager.slot connection with
  | none =>
    rw [issue_of_none hslot]
    exact mirrored_hold h ⟨key, requestDigest, version, token⟩
  | some slot =>
    rw [(issue_of_some hslot key requestDigest version token).1]
    exact h

/-- What is held after an issue was held before, or is what was asked for. -/
theorem holding_issue {other : ConnectionBinding} {slot : OwnershipTokenSlot}
    (h : (manager.issue connection key requestDigest version token).1.slot other = some (.holding slot)) :
    manager.slot other = some (.holding slot) ∨ slot = ⟨key, requestDigest, version, token⟩ := by
  cases hslot : manager.slot connection with
  | none =>
    rw [issue_of_none hslot] at h
    by_cases hother : other = connection
    · subst hother
      simp only [update_self, some.injEq, ConnectionSlot.holding.injEq] at h
      exact .inr h.symm
    · simp only [update_of_ne hother] at h
      exact .inl h
  | some found =>
    rw [(issue_of_some hslot key requestDigest version token).1] at h
    exact .inl h

end OwnerLeaseManager

end ExvVpn.HelperControl
