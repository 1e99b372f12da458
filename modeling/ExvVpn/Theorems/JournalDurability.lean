import ExvVpn.Lemmas.Journal

/-! # What an acknowledged journal step is worth

`append_step` answers true when its record is written and flushed. That promise holds only as long as its own decoder can read
the file: it takes a payload that is cut off, or longer than its bound, for corruption, and does not find a record behind a
torn tail. -/

namespace ExvVpn.Journal

open Incremental SystemProxyJournal List JournalRecord

variable {H : Hash}

/-- Steps acknowledged one after another, whatever the file system did as long as each call returned true. -/
inductive Acknowledged (H : Hash) (j : SystemProxyJournal) : List Bytes → SystemProxyJournal → Prop where
  | nil : Acknowledged H j [] j
  | snoc {j₁ j₂ : SystemProxyJournal} {payloads : List Bytes} {payload : Bytes} {io : AppendIo} :
    Acknowledged H j payloads j₁ → appendStep H io j₁ payload = (true, j₂) → Acknowledged H j (payloads ++ [payload]) j₂

/-- The records of steps appended behind `records`. -/
def appended (H : Hash) (records : List JournalRecord) (payloads : List Bytes) : List JournalRecord :=
  payloads.foldl (fun rs payload => rs ++ [nextRecord H rs payload]) records

/-- The process dies inside an append, with `cut` bytes of the frame at the end of the file. -/
def crashInAppend (H : Hash) (j : SystemProxyJournal) (payload : Bytes) (cut : Nat) : SystemProxyJournal :=
  (appendStep H ⟨true, .good, some cut⟩ j payload).2

/-- The first `cut` bytes of a frame with payload `next` behind `records` do not pass for corruption: they end in the header,
or hold the whole of a bounded payload. (For a payload of 4 GiB or more the length field wraps, and what the decoder makes of
the bytes depends on the hash.) -/
def CutReadable (H : Hash) (records : List JournalRecord) (next : Bytes) (cut : Nat) : Prop :=
  cut < headerLen ∨ (next.length ≤ maxPayloadLen ∧ headerLen + next.length ≤ cut) ∨
    (2 ^ 32 ≤ next.length ∧ (recover H ((encode (nextRecord H records next)).take cut)).records ≠ none)

theorem appended_snoc (H : Hash) (records : List JournalRecord) (payloads : List Bytes) (payload : Bytes) :
    appended H records (payloads ++ [payload]) =
      appended H records payloads ++ [nextRecord H (appended H records payloads) payload] := by
  simp [appended]

theorem appended_payloads (H : Hash) (records : List JournalRecord) (payloads : List Bytes) :
    (appended H records payloads).map payload = records.map payload ++ payloads := by
  induction payloads using reverseRecOn with
  | nil => simp [appended]
  | append_singleton payloads payload ih => simp [appended_snoc, ih]

/-- As long as every payload is bounded, the acknowledged steps are all in a clean file. -/
theorem acknowledged_clean {j j' : SystemProxyJournal} {records : List JournalRecord} {payloads : List Bytes}
    (hack : Acknowledged H j payloads j') (hopen : j.enabled = true) (h : recover H j.disk.file = .clean records)
    (hlen : ∀ p ∈ payloads, p.length ≤ maxPayloadLen) :
    j'.enabled = true ∧ recover H j'.disk.file = .clean (appended H records payloads) := by
  induction hack with
  | nil => exact ⟨hopen, h⟩
  | @snoc j₁ j₂ payloads payload io hack happ ih =>
    obtain ⟨-, hclean⟩ := ih (fun p hp => hlen p (by simp [hp]))
    rw [appended_snoc]
    obtain ⟨hopen, rfl⟩ := appendStep_true (by rw [hclean]; rfl) happ
    exact ⟨hopen, recover_append_encode hclean (nextRecord_sealed H _ payload) (hlen payload (by simp))⟩

/-- With a working file system, a replay pass works on the readable records of the file. -/
theorem openForReplay_good (j : SystemProxyJournal) :
    (openForReplay H .good (reopen j)).1 = (recover H j.disk.file).records := by
  simp only [openForReplay, reopen, ReplayIo.good]
  cases recover H j.disk.file <;> rfl

/-- The readable records of a clean file with the first bytes of a frame behind it. -/
theorem recover_cut {file : Bytes} {records : List JournalRecord} (h : recover H file = .clean records) (next : Bytes)
    {cut : Nat} (hcut : cut < headerLen + next.length + digestLen) :
    (CutReadable H records next cut →
      ∃ more, (recover H (file ++ (encode (nextRecord H records next)).take cut)).records = some (records ++ more)) ∧
    (¬CutReadable H records next cut →
      (recover H (file ++ (encode (nextRecord H records next)).take cut)).records = none) := by
  obtain ⟨o, ho⟩ := recover_eq_clean.mp h
  have hlt : cut < (encode (nextRecord H records next)).length := by rw [encode_length]; exact hcut
  have hn : (UInt32.ofNat next.length).toNat = next.length % 2 ^ 32 := UInt32.toNat_ofNat'
  have hmax : maxPayloadLen < 2 ^ 32 := by decide
  rw [recover_records, scan_append ho, nil_append]
  by_cases hhead : cut < headerLen
  · -- the cut is inside the header: a torn tail
    have hst := scanPass_short H ⟨records, o⟩ (b := (encode (nextRecord H records next)).take cut)
      (by rw [length_take]; omega)
    rw [settle_starved hst]
    exact ⟨fun _ => ⟨[], by simp⟩, fun hbad => absurd (.inl hhead) hbad⟩
  obtain ⟨hshort, hover, hwhole⟩ := scanPass_cut H ⟨records, o⟩ (nextRecord H records next) (Nat.not_lt.mp hhead) hlt
  simp only [nextRecord_payload, hn] at hshort hover hwhole
  have hreadable : CutReadable H records next cut ↔ _ := or_iff_right hhead
  rw [hreadable]
  by_cases hwrap : 2 ^ 32 ≤ next.length
  · -- the length field wrapped: what follows reads as it would from the start of a file
    rw [settle_behind, or_iff_right (by omega), and_iff_right hwrap, recover_records]
    cases scan H ((encode (nextRecord H records next)).take cut) with
    | waiting s rest => exact ⟨fun _ => ⟨s.records, rfl⟩, fun hbad => absurd (by simp) hbad⟩
    | halted s => exact ⟨fun hgood => absurd rfl hgood, fun _ => rfl⟩
  rw [Nat.mod_eq_of_lt (Nat.not_le.mp hwrap)] at hshort hover
  rw [or_iff_left fun h => hwrap h.1]
  by_cases hbig : maxPayloadLen < next.length
  · rw [settle_halt (hover hbig)]
    exact ⟨fun h => absurd h.1 (Nat.not_le.mpr hbig), fun _ => rfl⟩
  by_cases hin : headerLen + next.length ≤ cut
  · rw [settle_starved (hwhole (Nat.not_lt.mp hbig) hin)]
    exact ⟨fun _ => ⟨[], by simp⟩, fun hbad => absurd ⟨Nat.not_lt.mp hbig, hin⟩ hbad⟩
  · rw [settle_halt (hshort (Nat.not_lt.mp hbig) (Nat.not_le.mp hin))]
    exact ⟨fun h => absurd h.2 hin, fun _ => rfl⟩

/-- Acknowledged steps survive a crash inside the next append exactly when all their payloads are within the decoder's bound
and the bytes the crash left do not pass for corruption. The journal starts open on a file that reads clean (the empty file
is one); the crash leaves a strict prefix of the next frame. To survive is to be among the records the replay pass after the
restart works on, behind the records that were there before, in order. -/
theorem acknowledged_survive_iff {j j' : SystemProxyJournal} {records : List JournalRecord} {payloads : List Bytes}
    {next : Bytes} {cut : Nat} (hopen : j.enabled = true) (hclean : recover H j.disk.file = .clean records)
    (hack : Acknowledged H j payloads j') (hcut : cut < headerLen + next.length + digestLen) :
    (∃ seen, (openForReplay H .good (reopen (crashInAppend H j' next cut))).1 = some seen ∧
      records.map payload ++ payloads <+: seen.map payload) ↔
    (∀ p ∈ payloads, p.length ≤ maxPayloadLen) ∧ CutReadable H (appended H records payloads) next cut := by
  rw [openForReplay_good]
  by_cases hlen : ∀ p ∈ payloads, p.length ≤ maxPayloadLen
  · obtain ⟨hopen', hclean'⟩ := acknowledged_clean hack hopen hclean hlen
    have hrec : (recover H j'.disk.file).records = some (appended H records payloads) := by rw [hclean']; rfl
    have hfile : (crashInAppend H j' next cut).disk.file =
        j'.disk.file ++ (encode (nextRecord H (appended H records payloads) next)).take cut := by
      rw [crashInAppend, appendStep_readable hopen' rfl hrec]
      rfl
    obtain ⟨hgood, hbad⟩ := recover_cut hclean' next hcut
    rw [hfile, ← appended_payloads H]
    constructor
    · rintro ⟨seen, hseen, -⟩
      refine ⟨hlen, ?_⟩
      by_contra hc
      rw [hbad hc] at hseen
      cases hseen
    · rintro ⟨-, hc⟩
      obtain ⟨more, hmore⟩ := hgood hc
      exact ⟨_, hmore, by simp⟩
  · refine ⟨?_, fun h => absurd h.1 hlen⟩
    rintro ⟨seen, hseen, hpre⟩
    exfalso
    refine hlen fun p hp => ?_
    -- whatever the replay sees has a bounded payload, so a longer one was lost
    obtain ⟨record, hrec, rfl⟩ := mem_map.mp (hpre.subset (mem_append_right _ hp))
    exact (valid_of_recover hseen record hrec).2

/-- An open journal over an empty directory. -/
def emptyJournal : SystemProxyJournal := ⟨true, ⟨[], []⟩⟩

/-- A journal with one acknowledged step. -/
def oneStepJournal : SystemProxyJournal := (appendStep constantHash .good emptyJournal [7]).2

theorem emptyJournal_clean : recover constantHash emptyJournal.disk.file = .clean [] := by
  decide +kernel

theorem oneStepJournal_append : appendStep constantHash .good emptyJournal [7] = (true, oneStepJournal) := rfl

theorem oneStepJournal_acknowledged : Acknowledged constantHash emptyJournal [[7]] oneStepJournal :=
  Acknowledged.nil.snoc oneStepJournal_append

/-- A crash inside the header of the next frame leaves the acknowledged step in place. -/
theorem acknowledged_survive_header_cut :
    ∃ seen, (openForReplay constantHash .good (reopen (crashInAppend constantHash oneStepJournal [1, 2] 44))).1 = some seen ∧
      [[7]] <+: seen.map payload :=
  (acknowledged_survive_iff rfl emptyJournal_clean oneStepJournal_acknowledged (by decide)).mpr ⟨by decide, .inl (by decide)⟩

/-- A crash one byte into the payload of the next frame loses the acknowledged step: the file is put away as corrupt and the
replay pass sees nothing. -/
theorem acknowledged_lost_payload_cut :
    Acknowledged constantHash emptyJournal [[7]] oneStepJournal ∧ recover constantHash emptyJournal.disk.file = .clean [] ∧
    (openForReplay constantHash .good (reopen (crashInAppend constantHash oneStepJournal [1, 2] 46))).1 = none ∧
    (openForReplay constantHash .good (reopen (crashInAppend constantHash oneStepJournal [1, 2] 46))).2.disk =
      ⟨[], [(crashInAppend constantHash oneStepJournal [1, 2] 46).disk.file]⟩ := by
  refine ⟨oneStepJournal_acknowledged, emptyJournal_clean, ?_, ?_⟩ <;> decide +kernel

/-! ## A step behind a torn tail -/

/-- An acknowledged step can be read back, behind the records that could be read before and as the last one, exactly when its
payload is within the decoder's bound and the file had no torn tail. (Behind a torn tail it is found only by the coincidence
that the torn bytes and the new frame together start with the new frame, and that what is left then reads as a torn tail.) -/
theorem appendStep_recovers_iff {io : AppendIo} {j j' : SystemProxyJournal} {records : List JournalRecord} {payload : Bytes}
    (hrec : (recover H j.disk.file).records = some records) (happ : appendStep H io j payload = (true, j')) :
    (recover H j'.disk.file).records = some (records ++ [nextRecord H records payload]) ↔
      payload.length ≤ maxPayloadLen ∧
      (tornBytes H j.disk.file = [] ∨
        ∃ rest, tornBytes H j.disk.file ++ encode (nextRecord H records payload) =
            encode (nextRecord H records payload) ++ rest ∧ decode H rest = .tornTail []) := by
  obtain ⟨-, rfl⟩ := appendStep_true hrec happ
  obtain ⟨o, ho⟩ := scan_of_records hrec
  have hone := settle_one_iff H ⟨records, o⟩ (tornBytes H j.disk.file ++ encode (nextRecord H records payload))
    (nextRecord H records payload)
  have hread : (recover H (j.disk.file ++ encode (nextRecord H records payload))).records =
        some (records ++ [nextRecord H records payload]) ↔
      ∃ offset rest, settle (scanPass H) ⟨records, o⟩ (tornBytes H j.disk.file ++ encode (nextRecord H records payload)) =
        .waiting ⟨records ++ [nextRecord H records payload], offset⟩ rest := by
    rw [recover_records, scan_append ho]
    cases settle (scanPass H) ⟨records, o⟩ (tornBytes H j.disk.file ++ encode (nextRecord H records payload)) with
    | halted s => simp
    | waiting s rest =>
      obtain ⟨rs, off⟩ := s
      simp
  rw [hread, hone]
  constructor
  · rintro ⟨rest, heq, -, hlen, hst⟩
    refine ⟨hlen, ?_⟩
    by_cases ht : tornBytes H j.disk.file = []
    · exact .inl ht
    refine .inr ⟨rest, heq, (decode_eq_tornTail_nil H rest).mpr ⟨?_, hst⟩⟩
    rintro rfl
    have hlens := congrArg length heq
    simp only [length_append, length_nil] at hlens
    exact ht (length_eq_zero_iff.mp (by omega))
  · rintro ⟨hlen, ht | ⟨rest, heq, htorn⟩⟩
    · refine ⟨[], by rw [ht]; simp, nextRecord_sealed H records payload, hlen, scanPass_short H _ (by simp [headerLen])⟩
    · exact ⟨rest, heq, nextRecord_sealed H records payload, hlen, ((decode_eq_tornTail_nil H rest).mp htorn).2⟩

theorem oneStepJournal_clean : recover constantHash oneStepJournal.disk.file = .clean [nextRecord constantHash [] [7]] := by
  decide +kernel

/-- The journal with a second step. -/
def twoStepJournal : SystemProxyJournal := (appendStep constantHash .good oneStepJournal [8]).2

theorem twoStepJournal_append : appendStep constantHash .good oneStepJournal [8] = (true, twoStepJournal) :=
  Prod.ext (by decide +kernel) rfl

/-- Behind a clean file with a record the step is found. -/
theorem appendStep_recovers_second :
    (recover constantHash twoStepJournal.disk.file).records =
      some ([nextRecord constantHash [] [7]] ++ [nextRecord constantHash [nextRecord constantHash [] [7]] [8]]) :=
  (appendStep_recovers_iff (congrArg RecoverOutcome.records oneStepJournal_clean) twoStepJournal_append).mpr
    ⟨by decide, .inl (by decide +kernel)⟩

/-- A journal whose last append failed with one byte written. -/
def tornJournal : SystemProxyJournal := crashInAppend constantHash oneStepJournal [1] 1

/-- A step acknowledged behind a torn tail is not found, and neither is the step that was readable before: the file reads as
corrupt. -/
theorem appendStep_behind_torn_lost :
    (recover constantHash tornJournal.disk.file).records = some [nextRecord constantHash [] [7]] ∧
    (appendStep constantHash .good tornJournal [8]).1 = true ∧
    (recover constantHash (appendStep constantHash .good tornJournal [8]).2.disk.file).records = none := by
  refine ⟨?_, ?_, ?_⟩ <;> decide +kernel

end ExvVpn.Journal
