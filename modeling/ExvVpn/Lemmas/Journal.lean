import ExvVpn.Journal.SystemProxyJournal

/-! # Reading a journal file

What a journal file reads as, in terms of where the scan of it ends, and what the journal operations leave in the file. -/

namespace ExvVpn.Journal

open Incremental SystemProxyJournal List Option Scan Drained RecoverOutcome Verdict

variable {H : Hash}

/-! ## Where a scan ends -/

/-- The readable records of a file are those in front of where its scan stands, unless the scan stopped. -/
theorem recover_records (H : Hash) (file : Bytes) :
    (recover H file).records = match scan H file with
      | .waiting s _ => some s.records
      | .halted _ => none := by
  unfold recover decode
  cases scan H file with
  | halted s => rfl
  | waiting s rest => cases rest <;> rfl

variable {file : Bytes} {records : List JournalRecord}

/-- A file reads clean exactly when its scan ends at the end of the file. -/
theorem recover_eq_clean : recover H file = .clean records ↔ ∃ offset, scan H file = .waiting ⟨records, offset⟩ [] := by
  unfold recover decode
  cases scan H file with
  | halted s => simp
  | waiting s rest =>
    obtain ⟨rs, o⟩ := s
    cases rest <;> simp

/-- The bytes behind the last complete record of a file. -/
def tornBytes (H : Hash) (file : Bytes) : Bytes :=
  match scan H file with
  | .waiting _ rest => rest
  | .halted _ => []

/-- A file with readable records, and where its scan stands. -/
theorem scan_of_records (h : (recover H file).records = some records) :
    ∃ offset, scan H file = .waiting ⟨records, offset⟩ (tornBytes H file) := by
  rw [recover_records] at h
  unfold tornBytes
  cases hs : scan H file with
  | halted s => simp [hs] at h
  | waiting s rest =>
    obtain ⟨rs, o⟩ := s
    simp only [hs, some.injEq] at h
    exact ⟨o, by rw [h]⟩

/-- Bytes behind a file with readable records are read on from where its scan stands. -/
theorem scan_append {rest : Bytes} {s : Scan} (h : scan H file = .waiting s rest) (more : Bytes) :
    scan H (file ++ more) = settle (scanPass H) s (rest ++ more) :=
  settle_append_of_waiting (scanPass_advancing H) more h

/-- Records read stay read. -/
theorem settle_records_extend (H : Hash) (s : Scan) (b : Bytes) :
    s.records <+: (settle (scanPass H) s b).state.records := by
  refine settle_induct (scanPass_advancing H) (fun s' => s.records <+: s'.records) ?_ ?_ s b (prefix_refl _)
  · intro s₁ s₂ b r hv h
    obtain ⟨record, -, rfl, -, -⟩ := scanPass_eq_advance hv
    exact h.trans (prefix_append _ _)
  · intro s₁ s₂ b hv h
    rw [scanPass_eq_halt hv]
    exact h

/-- Every record read has its own digest and a bounded payload. -/
theorem valid_of_recover (h : (recover H file).records = some records) :
    ∀ record ∈ records, record.Sealed H ∧ record.payload.length ≤ maxPayloadLen := by
  have hall : ∀ record ∈ (scan H file).state.records, record.Sealed H ∧ record.payload.length ≤ maxPayloadLen := by
    refine settle_induct (scanPass_advancing H)
      (fun s => ∀ record ∈ s.records, record.Sealed H ∧ record.payload.length ≤ maxPayloadLen) ?_ ?_ _ _ (by simp)
    · intro s₁ s₂ b r hv hs record hr
      obtain ⟨new, -, rfl, hvalid⟩ := scanPass_eq_advance hv
      simp only [push, mem_append, mem_singleton] at hr
      obtain hr | rfl := hr
      · exact hs record hr
      · exact hvalid
    · intro s₁ s₂ b hv hs
      rw [scanPass_eq_halt hv]
      exact hs
  obtain ⟨o, ho⟩ := scan_of_records h
  simpa [ho, state] using hall

/-- A frame behind a clean file is read as one more record. -/
theorem recover_append_encode {record : JournalRecord}
    (h : recover H file = .clean records) (hs : record.Sealed H) (hlen : record.payload.length ≤ maxPayloadLen) :
    recover H (file ++ encode record) = .clean (records ++ [record]) := by
  obtain ⟨o, ho⟩ := recover_eq_clean.mp h
  have hadv := scanPass_encode hs hlen ⟨records, o⟩ []
  refine recover_eq_clean.mpr ⟨((⟨records, o⟩ : Scan).push record).offset, ?_⟩
  rw [scan_append ho, nil_append, ← append_nil (encode _), settle_advance (scanPass_advancing H) hadv,
    settle_starved (scanPass_short H _ (by simp [headerLen]))]
  rfl

/-- A frame with a payload above the bound is corruption. -/
theorem recover_append_oversized {file : Bytes} {records : List JournalRecord} {record : JournalRecord}
    (h : recover H file = .clean records) (hmax : maxPayloadLen < record.payload.length)
    (hlt : record.payload.length < 2 ^ 32) : ∃ offset, recover H (file ++ encode record) = .corrupt offset := by
  obtain ⟨o, ho⟩ := recover_eq_clean.mp h
  have hn : (UInt32.ofNat record.payload.length).toNat = record.payload.length := by
    rw [UInt32.toNat_ofNat', Nat.mod_eq_of_lt hlt]
  have hhalt : scanPass H ⟨records, o⟩ (encode record) = .halt ⟨records, o⟩ := by
    have hover : maxPayloadLen < (headerOf record.sequence record.previousDigest record.payload).payloadLen.toNat := by
      rw [headerOf, hn]
      exact hmax
    rw [encode, scanPass_header, if_pos (.inr (.inl hover))]
  have hscan : scan H (file ++ encode record) = .halted ⟨records, o⟩ := by
    rw [scan_append ho, nil_append, settle_halt hhalt]
  exact ⟨o, by rw [recover, decode, hscan]⟩

/-- The file of some valid records reads back as these records. -/
theorem recover_encodeAll
    (h : ∀ record ∈ records, record.Sealed H ∧ record.payload.length ≤ maxPayloadLen) :
    recover H (encodeAll records) = .clean records := by
  induction records using reverseRecOn with
  | nil => rfl
  | append_singleton records record ih =>
    have hall : encodeAll (records ++ [record]) = encodeAll records ++ encode record := by simp [encodeAll]
    obtain ⟨hs, hlen⟩ := h record (by simp)
    rw [hall]
    exact recover_append_encode (ih fun r hr => h r (by simp [hr])) hs hlen

/-- The scan with `records` and `offset` in front. -/
def Scan.behind (records : List JournalRecord) (offset : Nat) (s : Scan) : Scan :=
  ⟨records ++ s.records, offset + s.offset⟩

section

variable (H : Hash)

/-- A turn of the decode loop does not depend on what was read before. -/
theorem scanPass_behind (records : List JournalRecord) (offset : Nat) (s : Scan) (b : Bytes) :
    scanPass H (s.behind records offset) b = (scanPass H s b).map (behind records offset) := by
  cases hb : readHeader b with
  | none => simp [scanPass, hb, Verdict.map]
  | some p =>
    rw [readHeader_eq_some hb, scanPass_header, scanPass_header]
    split
    · rfl
    split
    · rfl
    · split
      · rfl
      · simp [Verdict.map, behind, push, Nat.add_assoc]

/-- Reading on behind `records` finds what a reader from the start would find. -/
theorem settle_behind (records : List JournalRecord) (offset : Nat) (b : Bytes) :
    settle (scanPass H) ⟨records, offset⟩ b = (scan H b).map (behind records offset) := by
  have h := settle_map (scanPass_advancing H) (behind records offset) (scanPass_behind H records offset) ⟨[], 0⟩ b
  simpa [behind, scan] using h

/-- Whether the decode loop stands still does not depend on what was read before. -/
theorem scanPass_starved_iff (s : Scan) (b : Bytes) : scanPass H s b = .starved ↔ scanPass H ⟨[], 0⟩ b = .starved := by
  have h := scanPass_behind H s.records s.offset ⟨[], 0⟩ b
  simp only [behind, append_nil, Nat.add_zero] at h
  rw [h]
  cases scanPass H ⟨[], 0⟩ b <;> simp [Verdict.map]

/-- A torn tail without a record is what the decode loop stands still in front of. -/
theorem decode_eq_tornTail_nil (b : Bytes) : decode H b = .tornTail [] ↔ b ≠ [] ∧ scanPass H ⟨[], 0⟩ b = .starved := by
  unfold decode scan
  cases hv : scanPass H ⟨[], 0⟩ b with
  | starved =>
    rw [settle_starved hv]
    cases b <;> simp
  | halt s => simp [settle_halt hv]
  | advance s r =>
    have hpre := settle_records_extend H s r
    obtain ⟨record, -, rfl, -, -⟩ := scanPass_eq_advance hv
    rw [settle_advance (scanPass_advancing H) hv]
    simp only [reduceCtorEq, and_false, iff_false]
    cases hs : settle (scanPass H) (push ⟨[], 0⟩ record) r with
    | halted s => simp
    | waiting s rest =>
      rw [hs, state, push_records] at hpre
      cases rest with
      | nil => simp
      | cons x xs =>
        simp only [DecodeOutcome.tornTail.injEq]
        intro hnil
        simp [hnil] at hpre

/-- Exactly one more record is read off some bytes when they start with its frame and nothing behind it can be read. -/
theorem settle_one_iff (s : Scan) (b : Bytes) (record : JournalRecord) :
    (∃ offset rest, settle (scanPass H) s b = .waiting ⟨s.records ++ [record], offset⟩ rest) ↔
      ∃ rest, b = encode record ++ rest ∧ record.Sealed H ∧ record.payload.length ≤ maxPayloadLen ∧
        scanPass H ⟨[], 0⟩ rest = .starved := by
  constructor
  · rintro ⟨o, rest, h⟩
    cases hv : scanPass H s b with
    | starved =>
      rw [settle_starved hv, waiting.injEq] at h
      have hlen := congrArg (fun s' : Scan => s'.records.length) h.1
      simp at hlen
    | halt s' => simp [settle_halt hv] at h
    | advance s' r =>
      obtain ⟨read, rfl, rfl, hseal, hlen⟩ := scanPass_eq_advance hv
      rw [settle_advance (scanPass_advancing H) hv] at h
      have hpre := settle_records_extend H (s.push read) r
      rw [h, state, push_records, prefix_append_right_inj] at hpre
      obtain rfl : read = record := by simpa using hpre.eq_of_length rfl
      cases hv' : scanPass H (s.push read) r with
      | starved => exact ⟨r, rfl, hseal, hlen, (scanPass_starved_iff H _ r).mp hv'⟩
      | halt s' => simp [settle_halt hv'] at h
      | advance s' r' =>
        obtain ⟨read', -, rfl, -, -⟩ := scanPass_eq_advance hv'
        rw [settle_advance (scanPass_advancing H) hv'] at h
        have hlonger := (settle_records_extend H ((s.push read).push read') r').length_le
        rw [h, state, push_records, push_records] at hlonger
        simp at hlonger
  · rintro ⟨rest, rfl, hseal, hlen, hst⟩
    have hadv := scanPass_encode hseal hlen s rest
    rw [settle_advance (scanPass_advancing H) hadv, settle_starved ((scanPass_starved_iff H _ rest).mpr hst)]
    exact ⟨_, _, rfl⟩

/-! ## Appending -/

@[simp] theorem nextRecord_payload (records : List JournalRecord) (payload : Bytes) :
    (nextRecord H records payload).payload = payload := rfl

theorem nextRecord_sealed (records : List JournalRecord) (payload : Bytes) :
    (nextRecord H records payload).Sealed H := rfl

end

variable {io : AppendIo} {payload : Bytes}

/-- An append to a readable file writes the next record's frame at its end, or the first bytes of it. -/
theorem appendStep_readable {j : SystemProxyJournal}
    (hopen : j.enabled = true) (hio : io.recoverOk = true) (h : (recover H j.disk.file).records = some records) :
    appendStep H io j payload = appendSynced io.write j (nextRecord H records payload) := by
  simp only [appendStep, hopen, hio]
  cases hr : recover H j.disk.file with
  | clean rs | tornTail rs =>
    simp only [hr, RecoverOutcome.records, some.injEq] at h
    simp [h]
  | corrupt offset => simp [hr, RecoverOutcome.records] at h

/-- A true answer comes from an open journal whose file was read and written. -/
theorem appendStep_true {j j' : SystemProxyJournal}
    (h : (recover H j.disk.file).records = some records) (happ : appendStep H io j payload = (true, j')) :
    j.enabled = true ∧
      j' = { j with disk := { j.disk with file := j.disk.file ++ encode (nextRecord H records payload) } } := by
  have hopen : j.enabled = true := by
    cases hopen : j.enabled with
    | true => rfl
    | false => simp [appendStep, hopen] at happ
  have hio : io.recoverOk = true := by
    cases hio : io.recoverOk with
    | true => rfl
    | false => simp [appendStep, hio] at happ
  rw [appendStep_readable hopen hio h] at happ
  cases hw : io.write with
  | none =>
    simp only [hw, appendSynced, Prod.mk.injEq, true_and] at happ
    exact ⟨hopen, happ.symm⟩
  | some n => simp [hw, appendSynced] at happ

/-- A hash that sends everything to one digest. -/
def constantHash : Hash := fun _ => ⟨replicate 32 9, rfl⟩

end ExvVpn.Journal
