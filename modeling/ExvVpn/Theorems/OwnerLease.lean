import ExvVpn.Win32Engine.OwnerLease
import ExvVpn.Tools.Transition

/-!
# One token for a connection

The slot of a connection goes one way: empty, holding a token, resolved. So a connection gets one token, the same each time
until the slot is resolved and none afterwards, and the leases say what the slots hold.
-/

namespace ExvVpn.HelperControl

open Domain Resource Transition List Function Option OwnerLeaseManager TokenSlots

/-! ## Calls -/

inductive LeaseCall where
  | issue (connection : ConnectionBinding) (request : OwnershipTokenSlot)
  | ack (connection : ConnectionBinding) (request : OwnershipTokenSlot)
  | terminate (connection : ConnectionBinding)
  deriving DecidableEq

variable (manager : OwnerLeaseManager) (connection : ConnectionBinding)

def leaseStep : LeaseCall → OwnerLeaseManager
  | .issue connection request =>
    (manager.issue connection request.key request.requestDigest request.ownershipVersion request.token).1
  | .ack connection request =>
    manager.ack connection request.key request.requestDigest request.ownershipVersion request.token
  | .terminate connection => manager.terminateConnection connection

def LeaseIssue.token : LeaseIssue → Option TokenDigest
  | .issued token => some token
  | .sameTokenReplayed token => some token
  | .refused => none

/-- The connection that is given a token by a call, and the token. -/
def tokenGiven : LeaseCall → Option (ConnectionBinding × TokenDigest)
  | .issue connection request =>
    (manager.issue connection request.key request.requestDigest request.ownershipVersion request.token).2.token.map
      fun token => (connection, token)
  | _ => none

/-- All that are given in a run of calls. -/
def tokensGiven (manager : OwnerLeaseManager) : List LeaseCall → List (ConnectionBinding × TokenDigest)
  | [] => []
  | call :: rest => (tokenGiven manager call).toList ++ tokensGiven (leaseStep manager call) rest

/-! ## What a call does to a slot -/

variable {request slot : OwnershipTokenSlot} {call : LeaseCall} {token : TokenDigest}

namespace OwnerLeaseAux

/-- What a call can do to the slot and the lease of a connection. -/
inductive SlotStep : LeaseCall → Option ConnectionSlot → Option OwnerLease → Prop
  | same (call : LeaseCall)
      (h : ∀ slot, manager.slot connection = some (.holding slot) →
        call ≠ .ack connection slot ∧ call ≠ .terminate connection) :
      SlotStep call (manager.slot connection) (manager.leases connection)
  | hold (lease : OwnerLease) (h : manager.slot connection = none) :
      SlotStep (.issue connection lease.held) (some (.holding lease.held)) (some lease)
  | acked (slot : OwnershipTokenSlot) (h : manager.slot connection = some (.holding slot)) :
      SlotStep (.ack connection slot) (some (.resolved slot.key slot.ownershipVersion)) none
  | terminated (slot : OwnershipTokenSlot) (h : manager.slot connection = some (.holding slot)) :
      SlotStep (.terminate connection) (some (.resolved slot.key slot.ownershipVersion)) none

variable {manager connection} {other : ConnectionBinding}

/-- The manager after the token of a connection was resolved. -/
def resolvedAt (manager : OwnerLeaseManager) (connection : ConnectionBinding) (slot : OwnershipTokenSlot) :
    OwnerLeaseManager where
  slot := update manager.slot connection (some (.resolved slot.key slot.ownershipVersion))
  leases := update manager.leases connection none

/-- The acknowledgement of what a slot holds and the termination of its connection resolve it. -/
theorem leaseStep_of_ends (h : manager.slot other = some (.holding slot))
    (hends : call = .ack other slot ∨ call = .terminate other) : leaseStep manager call = resolvedAt manager other slot := by
  rcases hends with rfl | rfl
  · simp [leaseStep, OwnerLeaseManager.ack, TokenSlots.ack, h, resolvedAt]
  · simp [leaseStep, OwnerLeaseManager.terminateConnection, TokenSlots.terminateConnection, h, resolvedAt]

/-- Other acknowledgements and terminations change nothing. -/
theorem leaseStep_of_not_ends (hissue : ∀ other request, call ≠ .issue other request)
    (h : ∀ other slot, manager.slot other = some (.holding slot) → call ≠ .ack other slot ∧ call ≠ .terminate other) :
    leaseStep manager call = manager := by
  cases call with
  | issue other request => exact absurd rfl (hissue other request)
  | ack other request =>
    simp only [leaseStep, OwnerLeaseManager.ack, TokenSlots.ack]
    rcases hslot : manager.slot other with _ | slot | _
    · rfl
    · have hne : slot ≠ request := fun heq => (h other slot hslot).1 (heq ▸ rfl)
      simp [hne]
    · rfl
  | terminate other =>
    simp only [leaseStep, OwnerLeaseManager.terminateConnection, TokenSlots.terminateConnection]
    rcases hslot : manager.slot other with _ | slot | _
    · rfl
    · exact absurd rfl (h other slot hslot).2
    · rfl

/-- Each call makes such a step of a slot. -/
theorem slotStep (manager : OwnerLeaseManager) (call : LeaseCall) (connection : ConnectionBinding) :
    SlotStep manager connection call ((leaseStep manager call).slot connection)
      ((leaseStep manager call).leases connection) := by
  by_cases hissue : ∃ other request, call = .issue other request
  · obtain ⟨other, request, rfl⟩ := hissue
    cases hother : manager.slot other with
    | some found =>
      rw [leaseStep, (issue_of_some hother _ _ _ _).1]
      exact .same _ (by simp)
    | none =>
      rw [leaseStep, issue_of_none hother]
      by_cases hconnection : connection = other
      · subst hconnection
        simp only [update_self]
        exact .hold ⟨request.key, request.requestDigest, request.ownershipVersion, request.token⟩ hother
      · simp only [update_of_ne hconnection]
        exact .same _ (by simp)
  by_cases hends : ∃ other slot, manager.slot other = some (.holding slot) ∧ (call = .ack other slot ∨ call = .terminate other)
  · obtain ⟨other, slot, hslot, hends⟩ := hends
    rw [leaseStep_of_ends hslot hends, resolvedAt]
    by_cases hconnection : connection = other
    · subst hconnection
      simp only [update_self]
      rcases hends with rfl | rfl
      · exact .acked slot hslot
      · exact .terminated slot hslot
    · simp only [update_of_ne hconnection]
      refine .same _ ?_
      rcases hends with rfl | rfl <;> simp [Ne.symm hconnection]
  · simp only [not_exists, not_and, not_or] at hends
    rw [leaseStep_of_not_ends (by simpa using hissue) hends]
    exact .same _ (hends connection)

/-! ## One way -/

/-- A slot that is not empty stays as it is or is resolved. -/
theorem occupied_leaseStep {found : ConnectionSlot} (h : manager.slot connection = some found) (call : LeaseCall) :
    (leaseStep manager call).slot connection = some found ∨
      ∃ key version, (leaseStep manager call).slot connection = some (.resolved key version) := by
  have hstep := slotStep manager call connection
  generalize (leaseStep manager call).slot connection = slot, (leaseStep manager call).leases connection = lease at hstep
  cases hstep with
  | same _ _ => exact .inl h
  | hold lease hnone => cases h.symm.trans hnone
  | acked slot | terminated slot => exact .inr ⟨_, _, rfl⟩

/-- A token is given by an issue, for a slot that was empty or holds it, and the slot holds it afterwards. -/
theorem tokenGiven_cases (h : tokenGiven manager call = some (connection, token)) :
    ∃ request, call = .issue connection request ∧
      (leaseStep manager call).slot connection = some (.holding { request with token }) ∧
      (manager.slot connection = none ∨ manager.slot connection = some (.holding { request with token })) := by
  cases call with
  | ack | terminate => nomatch h
  | issue other request =>
    simp only [tokenGiven, map_eq_some_iff, Prod.mk.injEq] at h
    obtain ⟨given, hgiven, rfl, rfl⟩ := h
    refine ⟨request, rfl, ?_⟩
    cases hslot : manager.slot other with
    | none =>
      simp only [leaseStep, issue_of_none hslot] at hgiven ⊢
      rw [← some.inj hgiven]
      exact ⟨update_self .., .inl trivial⟩
    | some found =>
      obtain ⟨hsame, hnew⟩ := issue_of_some hslot request.key request.requestDigest
        request.ownershipVersion request.token
      generalize hresult : (manager.issue other request.key request.requestDigest request.ownershipVersion
        request.token).2 = result at hgiven hnew
      cases result with
      | issued issued => exact absurd rfl (hnew issued)
      | refused => nomatch hgiven
      | sameTokenReplayed held =>
        rw [← some.inj hgiven]
        have hheld := issue_replayed_iff.mp hresult
        simp only [leaseStep, hsame]
        exact ⟨hheld, .inr (hslot ▸ hheld)⟩

theorem ack_cleared_iff {slots : TokenSlots} :
    (slots.ack connection request).2 = true ↔ slots connection = some (.holding request) := by
  unfold TokenSlots.ack
  split
  · split <;> simp_all
  · rename_i hother
    simpa using hother request

theorem terminate_invalidated_iff {slots : TokenSlots} :
    (slots.terminateConnection connection).2 = true ↔ ∃ slot, slots connection = some (.holding slot) := by
  unfold TokenSlots.terminateConnection
  split
  · rename_i slot hslot
    simp [hslot]
  · rename_i hother
    simpa using hother

/-! ## Runs -/

/-- A connection whose slot is not empty is given only the token that it holds. -/
theorem tokensGiven_of_some {found : ConnectionSlot} (h : manager.slot connection = some found) {calls : List LeaseCall}
    (hmem : (connection, token) ∈ tokensGiven manager calls) : ∃ slot, found = .holding slot ∧ slot.token = token := by
  induction calls generalizing manager found with
  | nil => simp [tokensGiven] at hmem
  | cons call rest ih =>
    rcases mem_append.mp hmem with hnow | hlater
    · obtain ⟨request, _, _, hnone | hheld⟩ := tokenGiven_cases (mem_toList.mp hnow)
      · cases h.symm.trans hnone
      · exact ⟨_, some.inj (h.symm.trans hheld), rfl⟩
    · rcases occupied_leaseStep h call with hsame | ⟨key, version, hresolved⟩
      · exact ih hsame hlater
      · obtain ⟨slot, hslot, -⟩ := ih hresolved hlater
        cases hslot

theorem not_given_of_resolved {key : OperationLookupKey} {version : OwnershipVersion}
    (h : manager.slot connection = some (.resolved key version)) (calls : List LeaseCall) (token : TokenDigest) :
    (connection, token) ∉ tokensGiven manager calls := by
  intro hmem
  obtain ⟨slot, hslot, -⟩ := tokensGiven_of_some h hmem
  cases hslot

section

variable (h : manager.slot connection = some (.holding slot))
include h

/-- A slot that holds a token is left as it is by every call but its acknowledgement and its termination. -/
theorem holding_leaseStep (hack : call ≠ .ack connection slot) (hterminate : call ≠ .terminate connection) :
    (leaseStep manager call).slot connection = some (.holding slot) := by
  have hstep := slotStep manager call connection
  generalize (leaseStep manager call).slot connection = after, (leaseStep manager call).leases connection = lease at hstep
  cases hstep with
  | same _ _ => exact h
  | hold lease hnone => cases h.symm.trans hnone
  | acked found hfound =>
    have heq : slot = found := by simpa using h.symm.trans hfound
    exact absurd (heq ▸ rfl) hack
  | terminated found _ => exact absurd rfl hterminate

/-- A slot that holds a token does so until its acknowledgement or its termination. -/
theorem holding_run {calls : List LeaseCall}
    (hcalls : ∀ call ∈ calls, call ≠ .ack connection slot ∧ call ≠ .terminate connection) :
    (run leaseStep manager calls).slot connection = some (.holding slot) := by
  induction calls generalizing manager with
  | nil => exact h
  | cons call rest ih =>
    obtain ⟨hcall, hrest⟩ := forall_mem_cons.mp hcalls
    exact ih (holding_leaseStep h hcall.1 hcall.2) hrest

theorem resolved_of_holding (hends : call = .ack connection slot ∨ call = .terminate connection) :
    (leaseStep manager call).slot connection = some (.resolved slot.key slot.ownershipVersion) := by
  simp [leaseStep_of_ends h hends, resolvedAt]

end

/-- A connection is given one token. -/
theorem tokensGiven_unique (manager : OwnerLeaseManager) (calls : List LeaseCall) {token' : TokenDigest}
    (h : (connection, token) ∈ tokensGiven manager calls) (h' : (connection, token') ∈ tokensGiven manager calls) :
    token = token' := by
  induction calls generalizing manager with
  | nil => simp [tokensGiven] at h
  | cons call rest ih =>
    rcases mem_append.mp h with hnow | hlater
    · obtain ⟨request, _, hafter, _⟩ := tokenGiven_cases (mem_toList.mp hnow)
      rcases mem_append.mp h' with hnow' | hlater'
      · have hsame := (mem_toList.mp hnow).symm.trans (mem_toList.mp hnow')
        simpa using hsame
      · obtain ⟨slot, hslot, rfl⟩ := tokensGiven_of_some hafter hlater'
        cases hslot
        rfl
    · rcases mem_append.mp h' with hnow' | hlater'
      · obtain ⟨request, _, hafter, _⟩ := tokenGiven_cases (mem_toList.mp hnow')
        obtain ⟨slot, hslot, rfl⟩ := tokensGiven_of_some hafter hlater
        cases hslot
        rfl
      · exact ih (leaseStep manager call) hlater hlater'

/-! ## Leases -/

/-- One call keeps leases and slots in step. -/
theorem mirrored_leaseStep (h : manager.Mirrored) (call : LeaseCall) : (leaseStep manager call).Mirrored := by
  cases call with
  | issue => exact mirrored_issue h
  | ack => exact resolves_ack.mirrored h
  | terminate connection => exact (resolves_terminateConnection manager connection).mirrored h

theorem mirrored_run (calls : List LeaseCall) : (run leaseStep .new calls).Mirrored :=
  invariant_of_run (I := Mirrored) (fun _ call h => mirrored_leaseStep h call) mirrored_new calls

end OwnerLeaseAux

open OwnerLeaseAux

/-- In every run of issues, acknowledgements and terminations: a connection is given one token; a repeated issue is answered
with it until the acknowledgement or the termination; after an acknowledgement that cleared the slot, or a termination that
invalidated its token, none is given; an acknowledgement changes a slot exactly when all fields match; and the leases are
what the slots hold. -/
theorem one_token_per_connection (calls : List LeaseCall) (connection : ConnectionBinding) :
    let manager := run leaseStep .new calls
    (∀ token token', (connection, token) ∈ tokensGiven .new calls → (connection, token') ∈ tokensGiven .new calls →
        token = token') ∧
      (∀ request token between candidate, tokenGiven manager (.issue connection request) = some (connection, token) →
        (∀ call ∈ between, call ≠ .ack connection { request with token } ∧ call ≠ .terminate connection) →
        ((run leaseStep (leaseStep manager (.issue connection request)) between).issue connection request.key
          request.requestDigest request.ownershipVersion candidate).2 = .sameTokenReplayed token) ∧
      (∀ request later token, (manager.slot.ack connection request).2 = true →
        (connection, token) ∉ tokensGiven (leaseStep manager (.ack connection request)) later) ∧
      (∀ later token, (manager.slot.terminateConnection connection).2 = true →
        (connection, token) ∉ tokensGiven (leaseStep manager (.terminate connection)) later) ∧
      (∀ other request, (leaseStep manager (.ack other request)).slot connection ≠ manager.slot connection ↔
        other = connection ∧ manager.slot connection = some (.holding request)) ∧
      ∀ lease, manager.lease connection = some lease ↔ manager.slot connection = some (.holding lease.held) := by
  intro manager
  refine ⟨fun _ _ => tokensGiven_unique .new calls, ?_, ?_, ?_, ?_, mirrored_run calls connection⟩
  · intro request token between candidate hgiven hbetween
    obtain ⟨asked, hasked, hafter, _⟩ := tokenGiven_cases hgiven
    obtain ⟨-, rfl⟩ := LeaseCall.issue.inj hasked
    exact issue_replayed_iff.mpr (holding_run hafter hbetween)
  · intro request later token hcleared
    have hheld := ack_cleared_iff.mp hcleared
    exact not_given_of_resolved (resolved_of_holding hheld (.inl rfl)) later token
  · intro later token hinvalidated
    obtain ⟨slot, hheld⟩ := terminate_invalidated_iff.mp hinvalidated
    exact not_given_of_resolved (resolved_of_holding hheld (.inr rfl)) later token
  · intro other request
    constructor
    · intro hchanged
      have hstep := slotStep manager (.ack other request) connection
      generalize (leaseStep manager (.ack other request)).slot connection = after,
        (leaseStep manager (.ack other request)).leases connection = lease at hstep hchanged
      cases hstep with
      | same => exact absurd rfl hchanged
      | acked _ hheld => exact ⟨rfl, hheld⟩
    · rintro ⟨rfl, hheld⟩
      simp [leaseStep_of_ends hheld (.inl rfl), resolvedAt, hheld]

namespace OwnerLeaseAux

def firstRequest : OwnershipTokenSlot :=
  ⟨⟨Digest.filled 1, .acquireLease, .ending 1, .ending 1⟩, Digest.filled 2, ⟨9, by decide⟩, Digest.filled 3⟩

end OwnerLeaseAux

/-- A termination that finds nothing held leaves no mark: the connection is given a token after it. -/
theorem token_after_termination :
    tokensGiven .new [.terminate (.filled 9), .issue (.filled 9) firstRequest] = [(.filled 9, .filled 3)] := rfl

end ExvVpn.HelperControl
