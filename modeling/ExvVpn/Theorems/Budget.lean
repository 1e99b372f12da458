import ExvVpn.DataPlane.Budget
import ExvVpn.Tools.Transition

/-!
# What is in flight

The totals of a budget should be what was reported as admitted and not yet released, within the limits, and a call that is
refused should leave them. A call that passes the checks on its size is charged whatever is reported, and the messages in
flight are not compared with their limit.
-/

namespace ExvVpn.DataPlane

open Transition Function PacketBudget

/-! ## Calls and what they report -/

inductive BudgetCall where
  | tryAdmit (direction : DataPlaneDirection) (packets bytes : UInt64)
  | release (direction : DataPlaneDirection) (packets bytes : UInt64)

/-- A budget, and what was reported as admitted and is not released. -/
structure BudgetRun where
  budget : PacketBudget
  admittedMessages : DataPlaneDirection → Nat
  admittedBytes : DataPlaneDirection → Nat

/-- A budget before any call. -/
def BudgetRun.start (budget : PacketBudget) : BudgetRun := ⟨budget, fun _ => 0, fun _ => 0⟩

def budgetStep (r : BudgetRun) : BudgetCall → BudgetRun
  | .tryAdmit direction packets bytes =>
    match r.budget.tryAdmit direction packets bytes with
    | (budget, .admitted) =>
      { budget
        admittedMessages := update r.admittedMessages direction (r.admittedMessages direction + packets.toNat)
        admittedBytes := update r.admittedBytes direction (r.admittedBytes direction + bytes.toNat) }
    | (budget, _) => { r with budget }
  | .release direction packets bytes =>
    { budget := r.budget.release direction packets bytes
      admittedMessages := update r.admittedMessages direction (r.admittedMessages direction - packets.toNat)
      admittedBytes := update r.admittedBytes direction (r.admittedBytes direction - bytes.toNat) }

/-- The totals are what was admitted and not released. -/
def Accounted (r : BudgetRun) : Prop :=
  ∀ direction, (r.budget.inFlightMessages direction).toNat = r.admittedMessages direction ∧
    (r.budget.inFlightBytes direction).toNat = r.admittedBytes direction

/-- The totals are within the limits. -/
def Within (budget : PacketBudget) : Prop :=
  ∀ direction, budget.inFlightMessages direction ≤ budget.packetQueueMessages ∧
    budget.inFlightBytes direction ≤ budget.packetQueueBytes

/-- A call that is not admitted leaves the totals. -/
def Harmless (budget : PacketBudget) : BudgetCall → Prop
  | .tryAdmit direction packets bytes =>
    (budget.tryAdmit direction packets bytes).2 ≠ .admitted →
      (budget.tryAdmit direction packets bytes).1.inFlightMessages = budget.inFlightMessages ∧
        (budget.tryAdmit direction packets bytes).1.inFlightBytes = budget.inFlightBytes
  | .release _ _ _ => True

/-- A call that passes the checks on its size fits both queues, as long as few calls have filled a direction; later it is
empty. -/
def Fits (budget : PacketBudget) : BudgetCall → Prop
  | .tryAdmit direction packets bytes =>
    budget.Charges direction packets bytes →
      if budget.Spares direction packets bytes then
        (budget.inFlightMessages direction).toNat + packets.toNat ≤ budget.packetQueueMessages.toNat ∧
          (budget.inFlightBytes direction).toNat + bytes.toNat ≤ budget.packetQueueBytes.toNat
      else packets = 0 ∧ bytes = 0
  | .release _ _ _ => True

/-! ## One call -/

namespace BudgetAux

theorem toNat_saturatingSub (a b : UInt64) : (saturatingSub a b).toNat = a.toNat - b.toNat := by
  unfold saturatingSub
  split
  · rename_i h
    exact UInt64.toNat_sub_of_le _ _ h
  rename_i h
  have hlt : a.toNat < b.toNat := UInt64.lt_iff_toNat_lt.mp (UInt64.not_le.mp h)
  simp only [UInt64.toNat_zero]
  omega

/-- A sum of words is the sum of the numbers exactly when it does not wrap. -/
theorem toNat_add_eq_iff (a b : UInt64) : (a + b).toNat = a.toNat + b.toNat ↔ a.toNat + b.toNat < 2 ^ 64 := by
  constructor
  · intro h
    exact h ▸ Nat.mod_lt _ (by decide)
  · exact Nat.mod_eq_of_lt

/-- A sum that does not go beyond a limit that is a word does not wrap. -/
theorem add_le_iff (a b limit : UInt64) :
    (a + b).toNat = a.toNat + b.toNat ∧ a + b ≤ limit ↔ a.toNat + b.toNat ≤ limit.toNat := by
  rw [toNat_add_eq_iff, UInt64.le_iff_toNat_le]
  have hlimit := limit.toNat_lt
  constructor
  · intro ⟨hlt, hle⟩
    rwa [(toNat_add_eq_iff a b).mpr hlt] at hle
  · intro h
    have hlt : a.toNat + b.toNat < 2 ^ 64 := by omega
    exact ⟨hlt, (toNat_add_eq_iff a b).mpr hlt ▸ h⟩

variable {r : BudgetRun} {after : PacketBudget} {direction : DataPlaneDirection} {packets bytes : UInt64}

theorem accounted_of_same (h : Accounted r) (hmessages : after.inFlightMessages = r.budget.inFlightMessages)
    (hbytes : after.inFlightBytes = r.budget.inFlightBytes) : Accounted { r with budget := after } := by
  intro direction
  simp only [hmessages, hbytes]
  exact h direction

theorem within_of_same {budget : PacketBudget} (h : Within budget) (hlimits : after.limits = budget.limits)
    (hmessages : after.inFlightMessages = budget.inFlightMessages) (hbytes : after.inFlightBytes = budget.inFlightBytes) :
    Within after := by
  have hqueue : after.packetQueueMessages = budget.packetQueueMessages := congrArg MvpLimits.packetQueueMessages hlimits
  have hqueueBytes : after.packetQueueBytes = budget.packetQueueBytes := congrArg MvpLimits.packetQueueBytes hlimits
  intro direction
  rw [hmessages, hbytes, hqueue, hqueueBytes]
  exact h direction

/-- A new budget is right. -/
theorem right_start {limits : MvpLimits} {budget : PacketBudget} (h : fromLimits limits = .ok budget) :
    Accounted (.start budget) ∧ Within budget := by
  unfold fromLimits at h
  split at h
  · nomatch h
  · obtain rfl := Except.ok.inj h
    refine ⟨fun direction => ⟨rfl, rfl⟩, fun direction => ?_⟩
    exact ⟨Nat.zero_le _, Nat.zero_le _⟩

variable (h : Accounted r) (hwithin : Within r.budget)
include h hwithin

/-- A release keeps it right. -/
theorem right_release (direction : DataPlaneDirection) (packets bytes : UInt64) :
    Accounted (budgetStep r (.release direction packets bytes)) ∧
      Within (budgetStep r (.release direction packets bytes)).budget ∧
      Harmless r.budget (.release direction packets bytes) := by
  refine ⟨fun other => ?_, fun other => ?_, trivial⟩
  · by_cases hother : other = direction
    · subst hother
      simp [budgetStep, release, setInFlight, toNat_saturatingSub, h other]
    · simp only [budgetStep, release, setInFlight, update_of_ne hother]
      exact h other
  · obtain ⟨hle, hleBytes⟩ := hwithin other
    simp only [UInt64.le_iff_toNat_le] at hle hleBytes ⊢
    by_cases hother : other = direction
    · subst hother
      simp only [budgetStep, release, setInFlight, update_self, toNat_saturatingSub]
      omega
    · simp only [budgetStep, release, setInFlight, update_of_ne hother]
      exact ⟨hle, hleBytes⟩

section

variable (hlimits : after.limits = r.budget.limits)
  (hmessages : after.inFlightMessages = update r.budget.inFlightMessages direction
    (r.budget.inFlightMessages direction + packets))
  (hbytes : after.inFlightBytes = update r.budget.inFlightBytes direction
    (r.budget.inFlightBytes direction + bytes))
include hlimits hmessages hbytes

/-- A call that is charged and admitted keeps the totals right exactly when it fits. -/
theorem charged_admitted_iff :
    Accounted
          { budget := after
            admittedMessages := update r.admittedMessages direction (r.admittedMessages direction + packets.toNat)
            admittedBytes := update r.admittedBytes direction (r.admittedBytes direction + bytes.toNat) } ∧
        Within after ↔
      (r.budget.inFlightMessages direction).toNat + packets.toNat ≤ r.budget.packetQueueMessages.toNat ∧
        (r.budget.inFlightBytes direction).toNat + bytes.toNat ≤ r.budget.packetQueueBytes.toNat := by
  have hqueue : after.packetQueueMessages = r.budget.packetQueueMessages := congrArg MvpLimits.packetQueueMessages hlimits
  have hqueueBytes : after.packetQueueBytes = r.budget.packetQueueBytes := congrArg MvpLimits.packetQueueBytes hlimits
  rw [← add_le_iff, ← add_le_iff]
  constructor
  · intro ⟨haccounted, hafter⟩
    have hcounted := haccounted direction
    have hbounded := hafter direction
    simp only [hmessages, hbytes, update_self, ← h direction, hqueue, hqueueBytes] at hcounted hbounded
    exact ⟨⟨hcounted.1, hbounded.1⟩, ⟨hcounted.2, hbounded.2⟩⟩
  · intro ⟨⟨hcount, hbound⟩, ⟨hcountBytes, hboundBytes⟩⟩
    refine ⟨fun other => ?_, fun other => ?_⟩
    · by_cases hother : other = direction
      · subst hother
        simp only [hmessages, hbytes, update_self, ← h other]
        exact ⟨hcount, hcountBytes⟩
      · simp only [hmessages, hbytes, update_of_ne hother]
        exact h other
    · by_cases hother : other = direction
      · subst hother
        simp only [hmessages, hbytes, update_self, hqueue, hqueueBytes]
        exact ⟨hbound, hboundBytes⟩
      · simp only [hmessages, hbytes, update_of_ne hother, hqueue, hqueueBytes]
        exact hwithin other

/-- A call that is charged and refused keeps the totals right exactly when it is empty. -/
theorem charged_refused_iff :
    Accounted { r with budget := after } ∧ Within after ∧
        (after.inFlightMessages = r.budget.inFlightMessages ∧ after.inFlightBytes = r.budget.inFlightBytes) ↔
      packets = 0 ∧ bytes = 0 := by
  constructor
  · intro ⟨_, _, hsame, hsameBytes⟩
    have hat := congrFun (hmessages.symm.trans hsame) direction
    have hatBytes := congrFun (hbytes.symm.trans hsameBytes) direction
    simp only [update_self, UInt64.add_eq_left] at hat hatBytes
    exact ⟨hat, hatBytes⟩
  · intro ⟨hpackets, hzero⟩
    have hsame : after.inFlightMessages = r.budget.inFlightMessages := by simp [hmessages, hpackets]
    have hsameBytes : after.inFlightBytes = r.budget.inFlightBytes := by simp [hbytes, hzero]
    exact ⟨accounted_of_same h hsame hsameBytes, within_of_same hwithin hlimits hsame hsameBytes, hsame, hsameBytes⟩

end

/-- Each call keeps the totals right, and is harmless if it is refused, exactly when it fits. -/
theorem right_iff_fits (call : BudgetCall) :
    Accounted (budgetStep r call) ∧ Within (budgetStep r call).budget ∧ Harmless r.budget call ↔ Fits r.budget call := by
  cases call with
  | release direction packets bytes => exact iff_of_true (right_release h hwithin direction packets bytes) trivial
  | tryAdmit direction packets bytes =>
    have htried := tried_tryAdmit r.budget direction packets bytes
    simp only [budgetStep, Harmless, Fits]
    generalize r.budget.tryAdmit direction packets bytes = result at htried ⊢
    obtain ⟨after, verdict⟩ := result
    cases htried with
    | kept hcharges hverdict hlimits hmessages hbytes =>
      refine iff_of_true ?_ (fun hcharged => absurd hcharged hcharges)
      have hrefused : Accounted { r with budget := after } ∧ Within after :=
        ⟨accounted_of_same h hmessages hbytes, within_of_same hwithin hlimits hmessages hbytes⟩
      cases verdict with
      | admitted => exact absurd rfl hverdict
      | overMaxBatch | overBudget | backpressure => exact ⟨hrefused.1, hrefused.2, fun _ => ⟨hmessages, hbytes⟩⟩
    | charged hcharges hverdict hlimits hmessages hbytes =>
      by_cases hspares : r.budget.Spares direction packets bytes
      · rw [if_pos hspares] at hverdict
        subst hverdict
        have hiff := charged_admitted_iff h hwithin hlimits hmessages hbytes
        simpa [hcharges, hspares] using hiff
      · rw [if_neg hspares] at hverdict
        subst hverdict
        have hiff := charged_refused_iff h hwithin hlimits hmessages hbytes
        simpa [hcharges, hspares] using hiff

end BudgetAux

open BudgetAux

/-- In every run of a budget, each call leaves totals that are what was admitted and not released and within the limits, and
changes none of them if it is refused, exactly when each call that passes the checks on its size fits both queues while fewer
than four calls have filled a direction, and is empty later. -/
theorem admission_accounted_iff {limits : MvpLimits} {budget : PacketBudget}
    (h : fromLimits limits = .ok budget) (calls : List BudgetCall) :
    Along budgetStep
        (fun r call => Accounted (budgetStep r call) ∧ Within (budgetStep r call).budget ∧ Harmless r.budget call)
        (.start budget) calls ↔ Along budgetStep (fun r call => Fits r.budget call) (.start budget) calls := by
  refine along_iff_of_invariant (I := fun r => Accounted r ∧ Within r.budget) ?_ ?_ (right_start h) calls
  · intro r call _ hright
    exact ⟨hright.1, hright.2.1⟩
  · intro r call hr
    exact right_iff_fits hr.1 hr.2 call

namespace BudgetAux

/-- Two messages, a hundred bytes, and batches up to that. -/
def smallLimits : MvpLimits := ⟨2, 100, 2, 100⟩

def smallBudget : PacketBudget := ⟨2, 100, 2, 100, fun _ => 0, fun _ => 0, 0⟩

theorem fromLimits_small : fromLimits smallLimits = .ok smallBudget := rfl

def admitAndRelease : List BudgetCall := [.tryAdmit .protocolToPacket 1 60, .release .protocolToPacket 1 60]

end BudgetAux

/-- A message is admitted and released. -/
theorem admission_accounted_released :
    Along budgetStep
      (fun r call => Accounted (budgetStep r call) ∧ Within (budgetStep r call).budget ∧ Harmless r.budget call)
      (.start smallBudget) admitAndRelease :=
  (admission_accounted_iff fromLimits_small admitAndRelease).mpr
    ⟨fun _ => by decide, trivial, trivial⟩

/-- Full batches of two messages: the second is admitted beyond the limit of two, and the fourth is refused with backpressure
and charged all the same. -/
theorem refused_call_charged :
    let full : BudgetCall := .tryAdmit .protocolToPacket 2 0
    let r := run budgetStep (.start smallBudget) [full, full, full]
    r.budget.inFlightMessages .protocolToPacket = 6 ∧ r.admittedMessages .protocolToPacket = 6 ∧
      (r.budget.tryAdmit .protocolToPacket 2 0).2 = .backpressure ∧
      (r.budget.tryAdmit .protocolToPacket 2 0).1.inFlightMessages .protocolToPacket = 8 := by
  decide

end ExvVpn.DataPlane
