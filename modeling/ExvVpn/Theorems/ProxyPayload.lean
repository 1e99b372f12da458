import ExvVpn.Lemmas.SystemProxy

/-!
# The payload of a proxy step

A payload is the one text of its step: reading accepts what is written for a step, and nothing else. A length field holds
what fits into 32 bits; a longer field is written behind the largest number and does not come back.
-/

namespace ExvVpn.SystemProxy

open ByteReader List SystemProxyFamilyStep

/-- A step whose lengths fit is read back from its payload, a payload that is accepted is the one of its step, and a read
takes as many bytes as it asks for from the front of those that are left, and leaves what is behind the payload. -/
theorem payload_canonical :
    (∀ step : SystemProxyFamilyStep, step.Fits → fromPayload step.toPayload = .ok step) ∧
      (∀ bytes step, fromPayload bytes = .ok step → step.toPayload = bytes) ∧
      (∀ n, Inverts (take (truncatedPayload "payload 提前结束") n) id (·.length = n)) ∧
      ∀ step : SystemProxyFamilyStep, step.Fits → Reads readStep step.toPayload step := by
  refine ⟨fun step h => ?_, fun bytes step h => ?_, inverts_take _, fun step h => Inverts.reads inverts_step h⟩
  · exact fromPayload_eq_ok.mpr ⟨h, rfl⟩
  · exact (fromPayload_eq_ok.mp h).2.symm

/-- A step with a fingerprint of one byte more than a length field can say. -/
def wideStep : SystemProxyFamilyStep where
  prestate := ⟨.absent, .absent, .absent, .absent, .absent⟩
  desiredEntries := []
  originatingSid := []
  pacDetected := false
  writtenFingerprint := replicate (u32Max + 1) 0

/-- A step with a field that is too long. -/
theorem wide_step_not_read_back : fromPayload wideStep.toPayload ≠ .ok wideStep := by
  intro h
  have hfits : (replicate (u32Max + 1) (0 : UInt8)).length ≤ u32Max := (fromPayload_eq_ok.mp h).1.fingerprint
  rw [length_replicate] at hfits
  omega

end ExvVpn.SystemProxy
