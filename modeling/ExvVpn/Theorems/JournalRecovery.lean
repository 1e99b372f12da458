import ExvVpn.Theorems.JournalDurability

/-! # What a truncated journal reads as

However many bytes of a journal are left, the decoder finds exactly the records whose frames are all there. Whether it calls
the rest a torn tail or corruption depends on where the cut falls, and the offset it reports is where the first incomplete
frame begins. -/

namespace ExvVpn.Journal

open Incremental SystemProxyJournal List DecodeOutcome Drained

variable {H : Hash}

/-- The records whose frames are complete within the first bytes. -/
def completeRecords : List JournalRecord → Nat → List JournalRecord
  | [], _ => []
  | record :: rest, cut =>
    if (encode record).length ≤ cut then record :: completeRecords rest (cut - (encode record).length) else []

/-- The records that a decoded journal yields, whatever it is called. -/
def DecodeOutcome.records : DecodeOutcome → List JournalRecord
  | .clean records => records
  | .tornTail records => records
  | .corrupt recovered _ => recovered

/-- The offset that a decoded journal reports. -/
def DecodeOutcome.offset : DecodeOutcome → Option Nat
  | .clean _ => none
  | .tornTail _ => none
  | .corrupt _ offset => some offset

theorem encodeAll_cons (record : JournalRecord) (rest : List JournalRecord) :
    encodeAll (record :: rest) = encode record ++ encodeAll rest := by
  simp [encodeAll]

/-- The decode loop reads no record off the first bytes of a frame. -/
theorem settle_incomplete (s : Scan) {record : JournalRecord} (hlen : record.payload.length ≤ maxPayloadLen) {cut : Nat}
    (hcut : cut < (encode record).length) : (settle (scanPass H) s ((encode record).take cut)).state = s := by
  by_cases hheader : cut < headerLen
  · have hshort : ((encode record).take cut).length < headerLen := by
      rw [length_take]
      omega
    rw [settle_starved (scanPass_short H s hshort)]
    rfl
  · have hn : (UInt32.ofNat record.payload.length).toNat = record.payload.length := by
      rw [UInt32.toNat_ofNat', Nat.mod_eq_of_lt]
      simp only [maxPayloadLen] at hlen
      omega
    obtain ⟨hpayload, -, hdigest⟩ := scanPass_cut H s record (Nat.not_lt.mp hheader) hcut
    rw [hn] at hpayload
    by_cases hin : cut < headerLen + record.payload.length
    · rw [settle_halt (hpayload hlen hin)]
      rfl
    · rw [settle_starved (hdigest hlen (Nat.not_lt.mp hin))]
      rfl

/-- Where the decode loop ends on the first bytes of some frames. -/
theorem settle_truncated (s : Scan) {records : List JournalRecord}
    (h : ∀ record ∈ records, record.Sealed H ∧ record.payload.length ≤ maxPayloadLen) (cut : Nat) :
    (settle (scanPass H) s ((encodeAll records).take cut)).state =
      ⟨s.records ++ completeRecords records cut, s.offset + (encodeAll (completeRecords records cut)).length⟩ := by
  induction records generalizing s cut with
  | nil =>
    have hstarved : scanPass H s [] = .starved := scanPass_short H s (by simp [headerLen])
    simp [encodeAll, completeRecords, settle_starved hstarved, state]
  | cons record rest ih =>
    obtain ⟨⟨hsealed, hlen⟩, hrest⟩ := forall_mem_cons.mp h
    rw [encodeAll_cons]
    by_cases hcomplete : (encode record).length ≤ cut
    · have htake : (encode record ++ encodeAll rest).take cut =
          encode record ++ (encodeAll rest).take (cut - (encode record).length) := by
        rw [take_append, take_of_length_le hcomplete]
      rw [htake, settle_advance (scanPass_advancing H) (scanPass_encode hsealed hlen s _), ih (s.push record) hrest,
        completeRecords, if_pos hcomplete, encodeAll_cons, length_append, encode_length]
      simp [Scan.push, Nat.add_assoc]
    · rw [take_append_of_le_length (by omega), settle_incomplete s hlen (by omega), completeRecords, if_neg hcomplete]
      simp [encodeAll]

/-- A decoded journal yields the records in front of where its scan ends, and reports that place. -/
theorem decode_state (H : Hash) (bytes : Bytes) :
    (decode H bytes).records = (scan H bytes).state.records ∧
      ∀ offset ∈ (decode H bytes).offset, offset = (scan H bytes).state.offset := by
  unfold decode
  cases scan H bytes with
  | waiting s rest => cases rest <;> simp [records, offset, state]
  | halted s => simp [records, offset, state]

/-- A journal of sealed records with bounded payloads reads clean, and after any truncation it yields exactly the records
whose frames are complete and reports no offset but their length. -/
theorem decode_truncated (H : Hash) (records : List JournalRecord)
    (h : ∀ record ∈ records, record.Sealed H ∧ record.payload.length ≤ maxPayloadLen) :
    decode H (encodeAll records) = .clean records ∧
      ∀ cut, (decode H ((encodeAll records).take cut)).records = completeRecords records cut ∧
        ∀ offset ∈ (decode H ((encodeAll records).take cut)).offset,
          offset = (encodeAll (completeRecords records cut)).length := by
  constructor
  · obtain ⟨offset, hscan⟩ := recover_eq_clean.mp (recover_encodeAll h)
    simp [decode, hscan]
  · intro cut
    obtain ⟨hrecords, hoffset⟩ := decode_state H ((encodeAll records).take cut)
    have hstate : (scan H ((encodeAll records).take cut)).state = _ := settle_truncated ⟨[], 0⟩ h cut
    rw [hstate] at hrecords hoffset
    refine ⟨by simpa using hrecords, fun offset hreported => ?_⟩
    simpa using hoffset offset hreported

def twoRecords : List JournalRecord :=
  [.new constantHash 0 zeroDigest [1], .new constantHash 1 (constantHash []) [2, 3]]

/-- A cut inside the payload of the second record leaves the first one. -/
theorem decode_truncated_payload :
    (decode constantHash ((encodeAll twoRecords).take 124)).records = [.new constantHash 0 zeroDigest [1]] ∧
      ∀ offset ∈ (decode constantHash ((encodeAll twoRecords).take 124)).offset, offset = 78 := by
  have hvalid : ∀ record ∈ twoRecords, record.Sealed constantHash ∧ record.payload.length ≤ maxPayloadLen := by
    intro record hrecord
    simp only [twoRecords, mem_cons, not_mem_nil, or_false] at hrecord
    rcases hrecord with rfl | rfl
    · exact ⟨rfl, by decide⟩
    · exact ⟨rfl, by decide⟩
  exact (decode_truncated constantHash twoRecords hvalid).2 124

/-! ## Any file -/

variable {records : List JournalRecord} {payloads : List Bytes} {j j' : SystemProxyJournal}

/-- The decode loop takes whole frames off the front. It waits for more behind them, or gives up in front of a byte. -/
theorem settle_partition (H : Hash) (s : Scan) (b : Bytes) :
    ∃ read rest, b = encodeAll read ++ rest ∧
      (∀ record ∈ read, record.Sealed H ∧ record.payload.length ≤ maxPayloadLen) ∧
      let s' : Scan := ⟨s.records ++ read, s.offset + (encodeAll read).length⟩
      settle (scanPass H) s b = .waiting s' rest ∨ (settle (scanPass H) s b = .halted s' ∧ rest ≠ []) := by
  induction s, b using pass_induct (scanPass_advancing H) with
  | starved s b hv => exact ⟨[], b, rfl, by simp, .inl (by simpa [encodeAll] using settle_starved hv)⟩
  | halt s b s' hv =>
    obtain rfl := scanPass_eq_halt hv
    refine ⟨[], b, rfl, by simp, .inr ⟨by simpa [encodeAll] using settle_halt hv, ?_⟩⟩
    rintro rfl
    cases (scanPass_short H s' (by decide)).symm.trans hv
  | advance s b s' r hv ih =>
    obtain ⟨record, rfl, rfl, hvalid⟩ := scanPass_eq_advance hv
    obtain ⟨read, rest, rfl, hread, hend⟩ := ih
    refine ⟨record :: read, rest, by simp [encodeAll_cons], forall_mem_cons.mpr ⟨hvalid, hread⟩, ?_⟩
    rw [settle_advance (scanPass_advancing H) hv]
    simpa [encodeAll_cons, encode_length, Scan.push, Nat.add_assoc] using hend

/-- A file that reads clean is the frames of its records. -/
theorem file_of_clean {file : Bytes} (h : recover H file = .clean records) : file = encodeAll records := by
  obtain ⟨offset, hscan⟩ := recover_eq_clean.mp h
  obtain ⟨read, rest, hfile, -, hend | ⟨hend, -⟩⟩ := settle_partition H ⟨[], 0⟩ file
  · cases hscan.symm.trans hend
    simpa using hfile
  · cases hscan.symm.trans hend

/-- Records are only added behind. -/
theorem prefix_appended : records <+: appended H records payloads := by
  induction payloads using reverseRecOn with
  | nil => exact prefix_rfl
  | append_singleton payloads payload ih =>
    rw [appended_snoc]
    exact ih.trans (prefix_append _ _)

/-- Every file is the frames of the records that the decoder yields, all sealed and bounded, and a rest. It is called clean
exactly if there is no rest, corruption is reported where the rest begins, and bytes behind the file take no record back. -/
theorem decode_partition (H : Hash) (file : Bytes) :
    ∃ rest, file = encodeAll (decode H file).records ++ rest ∧
      (∀ record ∈ (decode H file).records, record.Sealed H ∧ record.payload.length ≤ maxPayloadLen) ∧
      ((∃ records, decode H file = .clean records) ↔ rest = []) ∧
      (∀ offset ∈ (decode H file).offset, offset + rest.length = file.length) ∧
      ∀ more, (decode H file).records <+: (decode H (file ++ more)).records := by
  obtain ⟨read, rest, hfile, hread, hend⟩ := settle_partition H ⟨[], 0⟩ file
  refine ⟨rest, ?_⟩
  have hoffset : (encodeAll read).length + rest.length = file.length := by rw [hfile, length_append]
  have hmore (more : Bytes) : read <+: (decode H (file ++ more)).records := by
    obtain ⟨offset, hscan⟩ := recover_eq_clean.mp (recover_encodeAll hread)
    rw [(decode_state H _).1, hfile, append_assoc, scan_append hscan]
    exact settle_records_extend H ⟨read, offset⟩ _
  have hdecode : (rest = [] ∧ decode H file = .clean read) ∨
      (rest ≠ [] ∧ (decode H file = .tornTail read ∨ decode H file = .corrupt read (encodeAll read).length)) := by
    rcases hend with hend | ⟨hend, hne⟩
    · cases rest <;> simp [decode, scan, hend]
    · simp [decode, scan, hend, hne]
  rcases hdecode with ⟨hrest, hdecode⟩ | ⟨hrest, hdecode | hdecode⟩ <;> rw [hdecode]
  · exact ⟨hfile, hread, by simp [hrest], by simp [offset], hmore⟩
  · exact ⟨hfile, hread, by simp [hrest], by simp [offset], hmore⟩
  · exact ⟨hfile, hread, by simp [hrest], fun _ h => Option.some.inj h ▸ hoffset, hmore⟩

/-- `clear_tail` with the number of records from before takes back the steps that were appended since, to the byte; where it
fails, the file is as before them or as it was left. -/
theorem clearTail_appended (hopen : j.enabled = true) (hclean : recover H j.disk.file = .clean records)
    (hack : Acknowledged H j payloads j') (hlen : ∀ p ∈ payloads, p.length ≤ maxPayloadLen) (recoverOk : Bool) (io : CompactIo) :
    let file := (clearTail H recoverOk io j' (recordCount H true j)).disk.file
    (file = j.disk.file ∨ file = j'.disk.file) ∧ (recoverOk = true → io = .ok → file = j.disk.file) := by
  obtain ⟨hopen', hclean'⟩ := acknowledged_clean hack hopen hclean hlen
  have hcount : recordCount H true j = records.length := by simp [recordCount, hopen, hclean, RecoverOutcome.records]
  have hkept : (appended H records payloads).take records.length = records :=
    (prefix_iff_eq_take.mp prefix_appended).symm
  cases recoverOk with
  | false => simp [clearTail]
  | true =>
    simp only [clearTail, hopen', hclean', RecoverOutcome.records, hcount, hkept, Bool.not_true, Bool.or_self,
      Bool.false_eq_true, if_false]
    split
    · rename_i hle
      have hsame : j'.disk.file = j.disk.file := by
        rw [file_of_clean hclean', file_of_clean hclean, ← take_of_length_le hle, hkept]
      exact ⟨.inr rfl, fun _ _ => hsame⟩
    · rw [file_of_clean hclean]
      rcases io with _ | ⟨replaced, reopenOk⟩
      · exact ⟨.inl rfl, fun _ _ => rfl⟩
      · cases replaced <;> simp [compact]

/-- A journal with two steps behind the first one. -/
def threeStepJournal : SystemProxyJournal := (appendStep constantHash .good twoStepJournal [9]).2

theorem threeStepJournal_append : appendStep constantHash .good twoStepJournal [9] = (true, threeStepJournal) := by
  obtain ⟨hopen, hclean⟩ := acknowledged_clean (.snoc .nil twoStepJournal_append) rfl oneStepJournal_clean (by decide)
  have hread := congrArg RecoverOutcome.records hclean
  rw [threeStepJournal, appendStep_readable hopen rfl hread]
  rfl

/-- Two steps behind a record are taken back, and the record stays. -/
theorem clearTail_appended_two :
    (clearTail constantHash true .ok threeStepJournal (recordCount constantHash true oneStepJournal)).disk.file =
      oneStepJournal.disk.file :=
  (clearTail_appended rfl oneStepJournal_clean ((Acknowledged.nil.snoc twoStepJournal_append).snoc
    threeStepJournal_append) (by decide) true .ok).2 rfl rfl

end ExvVpn.Journal
