import ExvVpn.Runtime.Model
import Mathlib.Logic.Function.Basic

/-!
# Admission to the data plane

`PacketBudget` of `budget.rs` in `exv-vpn-data-plane`. A `usize` is a word of 64 bits, and sums wrap as they do in a release
build. The limits that the budget does not read are left out.
-/

namespace ExvVpn.DataPlane

open Domain ExvVpn.Runtime Function

inductive DataPlaneDirection where
  | protocolToPacket
  | packetToProtocol
  deriving DecidableEq, Repr

inductive AdmissionVerdict where
  | admitted
  | overMaxBatch
  | overBudget
  | backpressure
  deriving DecidableEq, Repr

def sustainedFullThreshold : UInt64 := 3

/-- `usize::saturating_sub`. -/
def saturatingSub (a b : UInt64) : UInt64 := if b ≤ a then a - b else 0

/-- `MvpLimits`, as far as the budget reads it. -/
structure MvpLimits where
  packetQueueMessages : UInt64
  packetQueueBytes : UInt64
  maxPacketBatchPackets : UInt64
  maxPacketBatchBytes : UInt64
  deriving DecidableEq

/-! ## The budget -/

structure PacketBudget where
  packetQueueMessages : UInt64
  packetQueueBytes : UInt64
  maxPacketBatchPackets : UInt64
  maxPacketBatchBytes : UInt64
  inFlightMessages : DataPlaneDirection → UInt64
  inFlightBytes : DataPlaneDirection → UInt64
  sustainedFull : UInt64

/-- The runtime epoch an invalid limit is reported for. -/
def invalidInputEpoch : RuntimeEpoch := ⟨[0, 0, 0, 0, 0, 0, 0, 0, 0, 0, 0, 0, 0, 0, 0, 1], rfl, by decide⟩

def invalidInput : VpnError := ⟨.invalidInput, .admission, .noEffect, .doNotRetry, .runtime invalidInputEpoch⟩

namespace PacketBudget

def fromLimits (limits : MvpLimits) : Except VpnError PacketBudget :=
  if limits.packetQueueMessages = 0 ∨ limits.packetQueueBytes = 0 ∨ limits.maxPacketBatchPackets = 0 ∨
      limits.maxPacketBatchBytes = 0 then .error invalidInput
  else
    .ok
      { packetQueueMessages := limits.packetQueueMessages
        packetQueueBytes := limits.packetQueueBytes
        maxPacketBatchPackets := limits.maxPacketBatchPackets
        maxPacketBatchBytes := limits.maxPacketBatchBytes
        inFlightMessages := fun _ => 0
        inFlightBytes := fun _ => 0
        sustainedFull := 0 }

variable (budget : PacketBudget)

/-- A call that would fill its direction is counted. -/
def count (wouldBeFull : Bool) : PacketBudget :=
  if wouldBeFull then { budget with sustainedFull := budget.sustainedFull + 1 } else budget

def isSustainedFull : Bool := sustainedFullThreshold < budget.sustainedFull

/-- The totals of a direction are set. -/
def setInFlight (direction : DataPlaneDirection) (messages bytes : UInt64) : PacketBudget :=
  { budget with
    inFlightMessages := update budget.inFlightMessages direction messages
    inFlightBytes := update budget.inFlightBytes direction bytes }

def tryAdmit (direction : DataPlaneDirection) (packets bytes : UInt64) :
    PacketBudget × AdmissionVerdict :=
  if budget.maxPacketBatchPackets < packets ∨ budget.maxPacketBatchBytes < bytes then (budget, .overMaxBatch)
  else
    let wouldBeMessages := budget.inFlightMessages direction + packets
    let wouldBeBytes := budget.inFlightBytes direction + bytes
    let wouldBeFull : Bool := budget.packetQueueMessages ≤ wouldBeMessages ∨ budget.packetQueueBytes ≤ wouldBeBytes
    if budget.packetQueueMessages < packets ∨ budget.packetQueueBytes < wouldBeBytes then
      let budget := budget.count wouldBeFull
      (budget, if budget.isSustainedFull then .backpressure else .overBudget)
    else
      -- The totals are set before it is decided whether the call is refused.
      let budget := (budget.setInFlight direction wouldBeMessages wouldBeBytes).count wouldBeFull
      (budget, if budget.isSustainedFull then .backpressure else .admitted)

def release (direction : DataPlaneDirection) (packets bytes : UInt64) : PacketBudget :=
  budget.setInFlight direction (saturatingSub (budget.inFlightMessages direction) packets)
    (saturatingSub (budget.inFlightBytes direction) bytes)

end PacketBudget

/-! ## What a call charges -/

namespace PacketBudget

variable {budget : PacketBudget} {direction : DataPlaneDirection} {packets bytes : UInt64}

@[simp] theorem count_inFlight (full : Bool) :
    (budget.count full).inFlightMessages = budget.inFlightMessages ∧
      (budget.count full).inFlightBytes = budget.inFlightBytes := by
  cases full <;> exact ⟨rfl, rfl⟩

def limits (budget : PacketBudget) : MvpLimits :=
  ⟨budget.packetQueueMessages, budget.packetQueueBytes, budget.maxPacketBatchPackets, budget.maxPacketBatchBytes⟩

@[simp] theorem limits_count (full : Bool) : (budget.count full).limits = budget.limits := by
  cases full <;> rfl

@[simp] theorem limits_setInFlight (messages : UInt64) :
    (budget.setInFlight direction messages bytes).limits = budget.limits := rfl

/-- The call passes the checks on its size, so that it is charged. -/
def Charges (budget : PacketBudget) (direction : DataPlaneDirection) (packets bytes : UInt64) : Prop :=
  packets ≤ budget.maxPacketBatchPackets ∧ bytes ≤ budget.maxPacketBatchBytes ∧ packets ≤ budget.packetQueueMessages ∧
    budget.inFlightBytes direction + bytes ≤ budget.packetQueueBytes

instance : Decidable (budget.Charges direction packets bytes) := inferInstanceAs (Decidable (_ ∧ _ ∧ _ ∧ _))

/-- The call fills its direction, in messages or in bytes. -/
def Fills (budget : PacketBudget) (direction : DataPlaneDirection) (packets bytes : UInt64) : Prop :=
  budget.packetQueueMessages ≤ budget.inFlightMessages direction + packets ∨
    budget.packetQueueBytes ≤ budget.inFlightBytes direction + bytes

instance : Decidable (budget.Fills direction packets bytes) := inferInstanceAs (Decidable (_ ∨ _))

/-- So few calls have filled a direction so far, this one included, that it is not refused for it. -/
def Spares (budget : PacketBudget) (direction : DataPlaneDirection) (packets bytes : UInt64) : Prop :=
  budget.sustainedFull + (if budget.Fills direction packets bytes then 1 else 0) ≤ sustainedFullThreshold

instance : Decidable (budget.Spares direction packets bytes) := inferInstanceAs (Decidable (_ ≤ _))

/-- What an admission can lead to: the call is charged and admitted or refused with backpressure, or it is not charged and
refused. -/
inductive Tried (budget : PacketBudget) (direction : DataPlaneDirection) (packets bytes : UInt64) :
    PacketBudget × AdmissionVerdict → Prop
  | charged {after : PacketBudget} {verdict : AdmissionVerdict} (h : budget.Charges direction packets bytes)
      (hverdict : verdict = if budget.Spares direction packets bytes then .admitted else .backpressure)
      (hlimits : after.limits = budget.limits)
      (hmessages : after.inFlightMessages = update budget.inFlightMessages direction
        (budget.inFlightMessages direction + packets))
      (hbytes : after.inFlightBytes = update budget.inFlightBytes direction
        (budget.inFlightBytes direction + bytes)) : Tried budget direction packets bytes (after, verdict)
  | kept {after : PacketBudget} {verdict : AdmissionVerdict} (h : ¬ budget.Charges direction packets bytes)
      (hverdict : verdict ≠ .admitted) (hlimits : after.limits = budget.limits)
      (hmessages : after.inFlightMessages = budget.inFlightMessages)
      (hbytes : after.inFlightBytes = budget.inFlightBytes) : Tried budget direction packets bytes (after, verdict)

/-- A counted call is refused exactly when too many calls have filled a direction. -/
theorem isSustainedFull_count {full : Bool} (hfull : full = true ↔ budget.Fills direction packets bytes)
    (messages total : UInt64) :
    ((budget.setInFlight direction messages total).count full).isSustainedFull = true ↔
      ¬ budget.Spares direction packets bytes := by
  rw [Spares, isSustainedFull, decide_eq_true_iff, UInt64.not_le]
  cases full with
  | true => rw [if_pos (hfull.mp rfl)]; rfl
  | false => rw [if_neg fun h => by simpa using hfull.mpr h, UInt64.add_zero]; rfl

/-- Every admission leads to one of these. -/
theorem tried_tryAdmit (budget : PacketBudget) (direction : DataPlaneDirection) (packets bytes : UInt64) :
    Tried budget direction packets bytes (budget.tryAdmit direction packets bytes) := by
  unfold tryAdmit
  split
  · rename_i hbatch
    refine .kept (fun h => ?_) (by simp) rfl rfl rfl
    rcases hbatch with hpackets | hbytes
    · exact absurd h.1 (UInt64.not_le.mpr hpackets)
    · exact absurd h.2.1 (UInt64.not_le.mpr hbytes)
  · rename_i hbatch
    rw [not_or, UInt64.not_lt, UInt64.not_lt] at hbatch
    dsimp only
    split
    · rename_i hbudget
      refine .kept (fun h => ?_) (by split <;> simp) (by simp) (count_inFlight _).1 (count_inFlight _).2
      rcases hbudget with hpackets | hbytes
      · exact absurd h.2.2.1 (UInt64.not_le.mpr hpackets)
      · exact absurd h.2.2.2 (UInt64.not_le.mpr hbytes)
    · rename_i hbudget
      rw [not_or, UInt64.not_lt, UInt64.not_lt] at hbudget
      refine .charged ⟨hbatch.1, hbatch.2, hbudget.1, hbudget.2⟩ ?_ (by simp) ?_ ?_
      · have hrefused := @isSustainedFull_count budget direction packets bytes _ decide_eq_true_iff
          (budget.inFlightMessages direction + packets) (budget.inFlightBytes direction + bytes)
        by_cases hspares : budget.Spares direction packets bytes
        · rw [if_pos hspares]
          exact if_neg (hrefused.not.mpr (not_not.mpr hspares))
        · rw [if_neg hspares]
          exact if_pos (hrefused.mpr hspares)
      · exact (count_inFlight _).1
      · exact (count_inFlight _).2

end PacketBudget

end ExvVpn.DataPlane
