import ExvVpn.Lemmas.Journal
import ExvVpn.Lemmas.ProxyAccount

/-! # The system proxy converges

Steps go to the journal before they take effect, so whatever fails and wherever the process dies, a replay pass that meets no
hard failure puts every user's proxy settings back as they were in front of the first pending step. The journal is an undo log
of each user, and every label keeps the settings within the states it accounts for. The one gap is that a record of more than
1 MiB is written but never read back. -/

namespace ExvVpn.SystemProxy

open Journal SystemProxyJournal UndoLog RustStr List Function Option SystemProxyFamilyStep JournalRecord

def userLog (sid : Text) (log : List Change) : List Change := log.filter fun ch => ch.step.originatingSid = sid

/-- The journal file is clean and its records, newest first, are the steps of the log. -/
def JournalHolds (H : Hash) (file : Bytes) (log : List Change) : Prop :=
  ∃ records, recover H file = .clean records ∧
    records.reverse.map payload = log.map fun ch => ch.step.toPayload

/-- Every user's key is accounted for by the user's steps. -/
def UsersTracked (base registry : Registry) (log : List Change) : Prop :=
  ∀ sid, Tracks sid (base sid) (registry sid) (userLog sid log)

/-- An append that fails leaves the whole frame of the payload in the file, or nothing. -/
def leavesWholeFrame (io : AppendIo) (payload : Bytes) : Bool :=
  io.write.all fun n => n = 0 || headerLen + payload.length + digestLen ≤ n

/-- A step can be recorded: its payload has at most 1 MiB, and the journal calls around its record do not fail half-way. -/
def recordable (H : Hash) (s : ProxyState) : ProxyLabel → Bool
  | .apply sid campusRoutes io =>
    (applyPlan sid campusRoutes io (replayPending H io.replay s.journal s.registry).2.1).all fun plan =>
      plan.step.toPayload.length ≤ maxPayloadLen && io.countOk && leavesWholeFrame io.append plan.step.toPayload
  | _ => true

/-- The recorded step is the newest of the log, its user's settings are the ones before it, and its commit leads to the ones
after it. -/
def RecordedIn (s : ProxyState) (log : List Change) (plan : SystemProxyApplyPlan) (journalLenBefore : Nat) : Prop :=
  ∃ ch older, log = ch :: older ∧ ch.step = plan.step ∧ journalLenBefore = older.length ∧
    captureForUser ch.step.originatingSid (s.registry ch.step.originatingSid) = .ok ch.step.prestate ∧
    Variant ch.step.prestate ch.written ∧
    ∀ io key, commitSystemProxyApply io key plan =
      tryStore io key (managed ch.step.prestate) (ch.written.get (managed ch.step.prestate))

/-- Journal and registry are in step: the journal holds a log that accounts for every user's settings, and a step that is
recorded or applied is the newest of the log. -/
structure Accounted (H : Hash) (base : Registry) (s : ProxyState) (log : List Change) : Prop where
  journal : JournalHolds H s.journal.disk.file log
  users : UsersTracked base s.registry log
  recorded : ∀ plan n, s.recorded = some (plan, n) → RecordedIn s log plan n
  applied : ∀ a, s.applied = some a → ∃ ch older, log = ch :: older ∧ ch.step = a.step ∧ a.journalLenBefore = older.length
  single : s.recorded.isSome → s.applied = none

/-- The pending steps of a journal file, oldest first. -/
def pendingSteps (H : Hash) (file : Bytes) : List SystemProxyFamilyStep :=
  ((recover H file).records.getD []).filterMap fun record => (fromPayload record.payload).toOption

variable {sid : Text} {journal : SystemProxyJournal} {s : ProxyState}

variable {H : Hash} {base registry : Registry} {log older : List Change} {ch : Change} {file : Bytes}

/-! ## One step of one user -/

theorem userLog_cons_self (ch : Change) (log : List Change) :
    userLog ch.step.originatingSid (ch :: log) = ch :: userLog ch.step.originatingSid log := by
  simp [userLog]

theorem userLog_cons_of_ne (h : ch.step.originatingSid ≠ sid) (log : List Change) :
    userLog sid (ch :: log) = userLog sid log := by
  simp [userLog, h]

/-- Only the user of the newest step is concerned when that step is undone, recorded or takes effect. -/
theorem tracked_update {log' : List Change} {key : SettingsKey} (h : UsersTracked base registry log)
    (hother : ∀ sid, sid ≠ ch.step.originatingSid → userLog sid log' = userLog sid log)
    (hself : Tracks ch.step.originatingSid (base ch.step.originatingSid) key (userLog ch.step.originatingSid log')) :
    UsersTracked base (update registry ch.step.originatingSid key) log' := by
  refine (forall_update_iff registry fun sid key => Tracks sid (base sid) key (userLog sid log')).mpr ⟨hself, ?_⟩
  intro sid hsid
  rw [hother sid hsid]
  exact h sid

/-! ## Replay -/

theorem fromPayload_of_change {payload : Bytes} (hpayload : payload = ch.step.toPayload) (hlen : payload.length ≤ maxPayloadLen) :
    fromPayload payload = .ok ch.step := by
  subst hpayload
  exact fromPayload_eq_ok.mpr ⟨fits_of_length (Nat.le_trans hlen (by decide)), rfl⟩

/-- A pass over the records of the log undoes its newest steps and keeps the records of the others. When no step failed none is
kept, and without a failure of the registry no step fails. -/
theorem replayRecords_tracks (io : Nat → RestoreIo) (log : List Change) (records : List JournalRecord) (registry : Registry)
    (hrecords : records.map payload = log.map fun ch => ch.step.toPayload)
    (hlen : ∀ record ∈ records, record.payload.length ≤ maxPayloadLen) (h : UsersTracked base registry log) :
    ∃ done kept, log = done ++ kept ∧ (replayRecords io records registry).keepLen = kept.length ∧
      UsersTracked base (replayRecords io records registry).registry kept ∧
      ((∀ e ∈ (replayRecords io records registry).entries, e.outcome ≠ .hardFailure) → kept = []) ∧
      ((∀ n, io n = .good) → ∀ e ∈ (replayRecords io records registry).entries, e.outcome ≠ .hardFailure) := by
  induction log generalizing records registry with
  | nil =>
    obtain rfl : records = [] := by simpa using hrecords
    exact ⟨[], [], rfl, rfl, h, fun _ => rfl, fun _ => by simp [replayRecords]⟩
  | cons ch older ih =>
    obtain _ | ⟨record, records⟩ := records
    · simp at hrecords
    simp only [map_cons, cons.injEq] at hrecords
    obtain ⟨hpayload, hrest⟩ := hrecords
    have hstep := fromPayload_of_change hpayload (hlen record mem_cons_self)
    have hself := h ch.step.originatingSid
    rw [userLog_cons_self] at hself
    obtain ⟨hall, holder⟩ := hself.replay rfl (io records.length)
    have hgood : (∀ n, io n = .good) →
        (replaySystemProxyStep (io records.length) (registry ch.step.originatingSid) ch.step).outcome ≠ .hardFailure := by
      intro hio
      rw [hio]
      exact hself.replay_good rfl
    have hlength : records.length = older.length := by simpa using congrArg length hrest
    simp only [replayRecords, hstep]
    generalize hreplayed : replaySystemProxyStep (io records.length) (registry ch.step.originatingSid) ch.step = replayed
    rw [hreplayed] at hall holder hgood
    by_cases hfail : replayed.outcome = .hardFailure
    · -- the step stays in the journal, and so do the older ones
      rw [if_pos hfail]
      refine ⟨[], ch :: older, rfl, by simp [hlength], ?_, fun hno => absurd hfail (hno _ mem_cons_self),
        fun hio => absurd hfail (hgood hio)⟩
      exact tracked_update h (fun _ _ => rfl) (by rwa [userLog_cons_self])
    · rw [if_neg hfail]
      have hupdated : UsersTracked base (update registry ch.step.originatingSid replayed.key) older :=
        tracked_update h (fun sid hsid => (userLog_cons_of_ne hsid.symm older).symm) (holder hfail)
      obtain ⟨done, kept, rfl, hkeep, htracked, hclear, hnone⟩ := ih records _ hrest
        (fun r hr => hlen r (mem_cons_of_mem _ hr)) hupdated
      refine ⟨ch :: done, kept, rfl, hkeep, htracked, fun hno => hclear (forall_mem_cons.mp hno).2,
        fun hio => forall_mem_cons.mpr ⟨hfail, hnone hio⟩⟩

/-- A replayed step whose user was at the earlier settings took no registry operation. -/
theorem replayRecords_clean (io : Nat → RestoreIo) (records : List JournalRecord) (registry : Registry) :
    ∀ e ∈ (replayRecords io records registry).entries,
      captureForUser e.step.originatingSid e.before = .ok e.step.prestate → e.ops = 0 := by
  induction records generalizing registry with
  | nil => simp [replayRecords]
  | cons record records ih =>
    intro e he hclean
    simp only [replayRecords] at he
    split at he
    · simp at he
    split at he
    · obtain rfl := mem_singleton.mp he
      exact replay_clean_ops _ hclean
    · rcases mem_cons.mp he with rfl | he
      · exact replay_clean_ops _ hclean
      · exact ih _ e he hclean

/-- Keeping the first records keeps the oldest steps. -/
theorem holds_take {records : List JournalRecord} {done kept : List Change} (h : recover H file = .clean records)
    (hrecords : records.reverse.map payload = (done ++ kept).map fun ch => ch.step.toPayload) :
    JournalHolds H (encodeAll (records.take kept.length)) kept := by
  have hvalid := valid_of_recover (by rw [h]; rfl)
  refine ⟨records.take kept.length, recover_encodeAll fun r hr => hvalid r (mem_of_mem_take hr), ?_⟩
  have hlength : records.length = done.length + kept.length := by simpa using congrArg length hrecords
  rw [reverse_take, map_drop, hrecords, ← map_drop, hlength, Nat.add_sub_cancel, drop_left]

/-- A compaction to the oldest steps holds them, or failed and left the file alone. -/
theorem compact_holds {j : SystemProxyJournal} {records : List JournalRecord} {done kept : List Change}
    (h : recover H j.disk.file = .clean records)
    (hrecords : records.reverse.map payload = (done ++ kept).map fun ch => ch.step.toPayload) (io : CompactIo) :
    JournalHolds H (compact io j (records.take kept.length)).2.disk.file kept ∨
      io ≠ .ok ∧ (compact io j (records.take kept.length)).2.disk.file = j.disk.file := by
  have htake := holds_take h hrecords
  cases io with
  | ok => exact .inl htake
  | failed replaced reopenOk =>
    cases replaced with
    | true => exact .inl htake
    | false => exact .inr ⟨by simp, rfl⟩

/-- A replay pass keeps journal and registry in step. When it reads the journal and nothing fails, every user is back at the
first settings, and a compaction that succeeds leaves no step. -/
theorem replayPending_tracks (hj : JournalHolds H journal.disk.file log)
    (h : UsersTracked base registry log) (io : ReplayPendingIo) :
    (∃ log', JournalHolds H (replayPending H io journal registry).1.disk.file log' ∧
      UsersTracked base (replayPending H io journal registry).2.1 log') ∧
    (journal.enabled = true → io.file.recoverOk = true →
      (∀ e ∈ (replayPending H io journal registry).2.2, e.outcome ≠ .hardFailure) →
        UsersTracked base (replayPending H io journal registry).2.1 [] ∧
        (io.file.compact = .ok → JournalHolds H (replayPending H io journal registry).1.disk.file [])) ∧
    ((∀ n, io.restore n = .good) → ∀ e ∈ (replayPending H io journal registry).2.2, e.outcome ≠ .hardFailure) := by
  obtain ⟨records, hclean, hrecords⟩ := hj
  have hvalid := valid_of_recover (by rw [hclean]; rfl)
  unfold replayPending
  by_cases hopen : journal.enabled = true ∧ io.file.recoverOk = true
  · have hread : openForReplay H io.file journal = (some records, journal) := by
      simp [openForReplay, hopen.1, hopen.2, hclean]
    simp only [hread]
    obtain ⟨done, kept, rfl, hkeep, htracked, hclear, hgood⟩ := replayRecords_tracks io.restore log records.reverse registry
      hrecords (fun r hr => (hvalid r (mem_reverse.mp hr)).2) h
    generalize replayRecords io.restore records.reverse registry = pass at hkeep htracked hclear hgood
    have hlength : records.length = done.length + kept.length := by simpa using congrArg length hrecords
    have hfirst : (∀ e ∈ pass.entries, e.outcome ≠ .hardFailure) → UsersTracked base pass.registry [] := by
      intro hno
      obtain rfl := hclear hno
      exact htracked
    rw [hkeep]
    split
    · -- no step was undone
      obtain rfl : done = [] := length_eq_zero_iff.mp (by omega)
      refine ⟨⟨kept, ⟨records, hclean, hrecords⟩, htracked⟩, fun _ _ hno => ⟨hfirst hno, fun _ => ?_⟩, hgood⟩
      obtain rfl := hclear hno
      exact ⟨records, hclean, hrecords⟩
    · rcases compact_holds hclean hrecords io.file.compact with hkept | ⟨hne, hsame⟩
      · refine ⟨⟨kept, hkept, htracked⟩, fun _ _ hno => ⟨hfirst hno, fun _ => ?_⟩, hgood⟩
        obtain rfl := hclear hno
        exact hkept
      · refine ⟨⟨done ++ kept, ⟨records, by rwa [hsame], hrecords⟩, fun sid => ?_⟩, fun _ _ hno => ?_, hgood⟩
        · have hsid := h sid
          rw [userLog, filter_append] at hsid ⊢
          exact hsid.extend (htracked sid)
        · exact ⟨hfirst hno, fun hok => absurd hok hne⟩
  · have hread : openForReplay H io.file journal = (none, journal) := by
      rw [openForReplay, if_pos (by grind)]
    simp only [hread]
    exact ⟨⟨log, ⟨records, hclean, hrecords⟩, h⟩, fun h₁ h₂ => absurd ⟨h₁, h₂⟩ hopen, by simp⟩

/-! ## Recording and clearing -/

/-- An append of a bounded payload that leaves a whole frame or nothing: the step is recorded, or the call failed and the file is
as before. A recorded step was counted behind the others. -/
theorem appendStep_holds (hj : JournalHolds H journal.disk.file log) (io : AppendIo)
    (hlen : ch.step.toPayload.length ≤ maxPayloadLen) (hwhole : leavesWholeFrame io ch.step.toPayload = true) :
    (JournalHolds H (appendStep H io journal ch.step.toPayload).2.disk.file (ch :: log) ∧
      ((appendStep H io journal ch.step.toPayload).1 = true → recordCount H true journal = log.length)) ∨
    (appendStep H io journal ch.step.toPayload).1 = false ∧
      (appendStep H io journal ch.step.toPayload).2.disk.file = journal.disk.file := by
  obtain ⟨records, hclean, hrecords⟩ := hj
  have hholds : JournalHolds H (journal.disk.file ++ encode (nextRecord H records ch.step.toPayload)) (ch :: log) := by
    refine ⟨_, recover_append_encode hclean (nextRecord_sealed H records _) hlen, ?_⟩
    simpa using hrecords
  by_cases hopen : journal.enabled = true ∧ io.recoverOk = true
  · rw [appendStep_readable hopen.1 hopen.2 (by rw [hclean]; rfl)]
    cases hw : io.write with
    | none =>
      refine .inl ⟨hholds, fun _ => ?_⟩
      have hlength : records.length = log.length := by simpa using congrArg length hrecords
      simp [recordCount, hopen.1, hclean, RecoverOutcome.records, hlength]
    | some n =>
      rw [leavesWholeFrame, hw, all_some, Bool.or_eq_true, decide_eq_true_eq, decide_eq_true_eq] at hwhole
      rcases hwhole with rfl | hn
      · exact .inr ⟨rfl, by simp [appendSynced]⟩
      · refine .inl ⟨?_, by simp [appendSynced]⟩
        rw [appendSynced, take_of_length_le (by rw [encode_length]; exact hn)]
        exact hholds
  · refine .inr ?_
    rw [appendStep, if_pos (by grind)]
    exact ⟨rfl, rfl⟩

/-- Clearing the newest step drops it, or leaves the file alone. -/
theorem clearTail_holds (hj : JournalHolds H journal.disk.file (ch :: older)) (recoverOk : Bool) (io : CompactIo) :
    JournalHolds H (clearTail H recoverOk io journal older.length).disk.file older ∨
      (clearTail H recoverOk io journal older.length).disk.file = journal.disk.file := by
  obtain ⟨records, hclean, hrecords⟩ := hj
  have hlength : records.length = older.length + 1 := by simpa using congrArg length hrecords
  unfold clearTail
  split
  · exact .inr rfl
  simp only [hclean, RecoverOutcome.records]
  rw [if_neg (by omega)]
  have hsplit : records.reverse.map payload = ([ch] ++ older).map fun ch => ch.step.toPayload := hrecords
  exact (compact_holds hclean hsplit io).imp_right And.right

/-! ## Steps of the machine -/

theorem desiredEntries_nulFree (campusRoutes : List Text) : ∀ d ∈ desiredEntries campusRoutes, '\x00' ∉ d := by
  intro d hd
  obtain ⟨route, -, hroute⟩ := mem_filterMap.mp hd
  obtain ⟨entry, hentry, rfl⟩ := map_eq_some_iff.mp hroute
  exact cidrToWildcardOpt_nulFree hentry

/-- A plan with an effect is a change of the user's current settings. -/
theorem applyPlan_change {campusRoutes : List Text} {io : ApplyIo} {plan : SystemProxyApplyPlan}
    (h : applyPlan sid campusRoutes io registry = some plan) :
    ∃ ch : Change, ch.step = plan.step ∧ ch.step.originatingSid = sid ∧
      captureForUser sid (registry sid) = .ok ch.step.prestate ∧ Variant ch.step.prestate ch.written ∧
      ∀ io key, commitSystemProxyApply io key plan =
        tryStore io key (managed ch.step.prestate) (ch.written.get (managed ch.step.prestate)) := by
  unfold applyPlan at h
  split at h
  · rename_i prestate _ hcapture
    split at h
    · rename_i plan' hplan
      split at h
      · rename_i heffect
        cases h
        obtain ⟨hpre, hsid, written, hfingerprint, hvariant, hcommit⟩ := planFromPrestate_effect hplan heffect
          (storable_of_capture hcapture) (desiredEntries_nulFree campusRoutes)
        refine ⟨⟨plan.step, written, hfingerprint⟩, rfl, hsid, ?_⟩
        simp only [hpre]
        exact ⟨hcapture, hvariant, hcommit⟩
      · cases h
    · cases h
  · cases h

theorem accounted_idle (hrecorded : s.recorded = none) (happlied : s.applied = none)
    (hj : JournalHolds H s.journal.disk.file log) (hu : UsersTracked base s.registry log) : Accounted H base s log :=
  ⟨hj, hu, by simp [hrecorded], by simp [happlied], fun _ => happlied⟩

/-- The first half of an apply. -/
theorem accounted_applyRecord {campusRoutes : List Text} {io : ApplyIo}
    (h : Accounted H base s log) (hnone : s.recorded = none) (hidle : s.applied = none)
    (hguard : recordable H s (.apply sid campusRoutes io) = true) :
    ∃ log', Accounted H base (applyRecord H s sid campusRoutes io) log' := by
  obtain ⟨⟨log₁, hj, hu⟩, -⟩ := replayPending_tracks h.journal h.users io.replay
  simp only [recordable] at hguard
  unfold applyRecord
  generalize replayPending H io.replay s.journal s.registry = replayed at hj hu hguard ⊢
  obtain ⟨journal, registry, entries⟩ := replayed
  simp only at hj hu hguard ⊢
  cases hplan : applyPlan sid campusRoutes io registry with
  | none => exact ⟨log₁, accounted_idle hnone hidle hj hu⟩
  | some plan =>
    rw [hplan, all_some] at hguard
    simp only [Bool.and_eq_true, decide_eq_true_eq] at hguard
    obtain ⟨⟨hlen, hcount⟩, hwhole⟩ := hguard
    obtain ⟨ch, hstep, rfl, hcapture, hvariant, hcommit⟩ := applyPlan_change hplan
    have hrecord : UsersTracked base registry (ch :: log₁) := by
      have hself := (hu ch.step.originatingSid).record hcapture hvariant
      have hu' := tracked_update hu (fun sid hsid => userLog_cons_of_ne hsid.symm log₁) (by rwa [userLog_cons_self])
      rwa [update_eq_self] at hu'
    rw [← hstep] at hlen hwhole
    simp only [← hstep, hcount, hidle]
    rcases appendStep_holds hj io.append hlen hwhole with ⟨hj', hrecorded⟩ | ⟨hfailed, hsame⟩
    · refine ⟨ch :: log₁, hj', hrecord, ?_, by simp, fun _ => rfl⟩
      intro plan' n hsome
      split at hsome
      · rename_i hok
        cases hsome
        exact ⟨ch, log₁, rfl, hstep, hrecorded hok, hcapture, hvariant, hcommit⟩
      · cases hsome
    · refine ⟨log₁, accounted_idle (by simp [hfailed]) rfl ?_ hu⟩
      simp only [hsame]
      exact hj

/-- The second half of an apply. -/
theorem accounted_applyCommit {plan : SystemProxyApplyPlan} {n : Nat} (h : Accounted H base s log)
    (hrecorded : s.recorded = some (plan, n)) (io : WriteIo) : Accounted H base (applyCommit s plan n io) log := by
  obtain ⟨ch, older, rfl, hstep, hn, hcapture, hvariant, hcommit⟩ := h.recorded plan n hrecorded
  have hself := h.users ch.step.originatingSid
  rw [userLog_cons_self] at hself
  have hself' := hself.commit hcapture hvariant io
  rw [← userLog_cons_self] at hself'
  simp only [applyCommit, hcommit, ← hstep]
  refine ⟨h.journal, tracked_update h.users (fun _ _ => rfl) hself', by simp, ?_, by simp⟩
  intro a hsome
  split at hsome
  · cases hsome
    exact ⟨ch, older, rfl, rfl, hn⟩
  · cases hsome

/-- A clear. -/
theorem accounted_clearApplied {a : SystemProxyApplied} (h : Accounted H base s log)
    (happlied : s.applied = some a) (io : ClearIo) : ∃ log', Accounted H base (clearApplied H s a io) log' := by
  obtain ⟨ch, older, rfl, hstep, hn⟩ := h.applied a happlied
  have hself := h.users ch.step.originatingSid
  rw [userLog_cons_self] at hself
  obtain ⟨hall, holder⟩ := hself.restore rfl io.restore
  have hrecorded : s.recorded = none := by
    cases hr : s.recorded with
    | none => rfl
    | some r => exact absurd (h.single (by rw [hr]; rfl)) (by simp [happlied])
  rw [← userLog_cons_self] at hall
  have htracked := tracked_update h.users (fun _ _ => rfl) hall
  simp only [clearApplied, ← hstep, hn]
  generalize restoreSystemProxyStep io.restore (s.registry ch.step.originatingSid) ch.step = restored at holder htracked ⊢
  obtain ⟨outcome, key⟩ := restored
  cases outcome with
  | none =>
    refine ⟨ch :: older, h.journal, htracked, by simp [hrecorded], ?_, by simp [hrecorded]⟩
    intro a' ha'
    rw [happlied] at ha'
    cases ha'
    exact ⟨ch, older, rfl, hstep, hn⟩
  | some outcome =>
    have hdone : UsersTracked base (update s.registry ch.step.originatingSid key) older :=
      tracked_update h.users (fun sid hsid => (userLog_cons_of_ne hsid.symm older).symm) (holder rfl)
    rcases clearTail_holds h.journal io.recoverOk io.compact with hj | hsame
    · exact ⟨older, accounted_idle hrecorded rfl hj hdone⟩
    · exact ⟨ch :: older, accounted_idle hrecorded rfl (by simpa only [hsame] using h.journal) htracked⟩

/-- Every label keeps journal and registry in step, as long as steps can be recorded. -/
theorem accounted_step (l : ProxyLabel) (h : ∃ log, Accounted H base s log)
    (hguard : recordable H s l = true) : ∃ log, Accounted H base (proxyStep H s l) log := by
  obtain ⟨log, h⟩ := h
  cases l with
  | apply sid campusRoutes io =>
    simp only [proxyStep]
    split
    · exact ⟨log, h⟩
    · rename_i hidle
      simp only [Bool.or_eq_true, not_or, not_isSome_iff_eq_none] at hidle
      exact accounted_applyRecord h hidle.1 hidle.2 hguard
  | commit io =>
    simp only [proxyStep]
    split
    · exact ⟨log, h⟩
    · rename_i hrecorded
      exact ⟨log, accounted_applyCommit h hrecorded io⟩
  | clear io =>
    simp only [proxyStep]
    split
    · exact ⟨log, h⟩
    · rename_i happlied
      exact accounted_clearApplied h happlied io
  | restart openOk => exact ⟨log, accounted_idle rfl rfl h.journal h.users⟩
  | replay io =>
    simp only [proxyStep]
    split
    · exact ⟨log, h⟩
    · rename_i hidle
      obtain ⟨⟨log', hj, hu⟩, -⟩ := replayPending_tracks h.journal h.users io
      simp only [Bool.or_eq_true, not_or, not_isSome_iff_eq_none] at hidle
      exact ⟨log', accounted_idle hidle.1 hidle.2 hj hu⟩

/-! ## The first pending step -/

/-- The pending steps are those of the log. -/
theorem pendingSteps_eq (hj : JournalHolds H file log) : pendingSteps H file = log.reverse.map Change.step := by
  obtain ⟨records, hclean, hrecords⟩ := hj
  have hvalid := valid_of_recover (by rw [hclean]; rfl)
  have hpayloads : records.map payload = log.reverse.map fun ch => ch.step.toPayload := by
    rw [← reverse_inj, ← map_reverse, hrecords, ← map_reverse, reverse_reverse]
  have hstep : ∀ ch ∈ log.reverse, (fromPayload ch.step.toPayload).toOption = some ch.step := by
    intro ch hch
    have hmem : ch.step.toPayload ∈ records.map payload := hpayloads ▸ mem_map_of_mem hch
    obtain ⟨record, hrecord, hpayload⟩ := mem_map.mp hmem
    rw [← hpayload, fromPayload_of_change hpayload (hvalid record hrecord).2]
    rfl
  calc pendingSteps H file
      = (records.map payload).filterMap fun p => (fromPayload p).toOption := by
        simp [pendingSteps, hclean, RecoverOutcome.records]
    _ = log.reverse.filterMap fun ch => (fromPayload ch.step.toPayload).toOption := by
        simp [hpayloads]
    _ = log.reverse.map Change.step := by
        rw [filterMap_congr hstep]
        exact congrFun filterMap_eq_map _

/-- The first pending step of a user starts from the user's first settings. -/
theorem first_prestate (h : UsersTracked base registry log) {step : SystemProxyFamilyStep}
    (hfirst : (log.reverse.map Change.step).find? (fun st => st.originatingSid = sid) = some step) :
    captureForUser sid (base sid) = .ok step.prestate := by
  rw [find?_map] at hfirst
  obtain ⟨ch, hch, rfl⟩ := map_eq_some_iff.mp hfirst
  rw [← head?_filter, filter_reverse, head?_reverse, getLast?_eq_some_iff] at hch
  obtain ⟨newer, hlog⟩ := hch
  have hlog : userLog sid log = newer ++ [ch] := hlog
  have hsid := h sid
  rw [hlog] at hsid
  obtain ⟨b, c, hb, -, -, -, hchain, -⟩ := hsid.readable (by simp)
  rw [map_append] at hchain
  rw [hb, ← covered_nil.mp hchain.of_append.1]
  rfl

open Transition

/-- In every run in which steps can be recorded, from any registry: let the process die in the state reached and start again,
and let one replay pass read the journal. A step whose user is at the settings before the step takes no registry operation; a
hard failure needs a failing registry; and when the pass meets no hard failure, every user's settings are those of the start and
those before the user's first pending step, and no step stays in the journal when its last compaction succeeds. -/
theorem proxy_converges (H : Hash) (registry : Registry) (labels : List ProxyLabel)
    (hguard : Along (proxyStep H) (fun s l => recordable H s l = true) (.initial registry) labels) (io : ReplayPendingIo)
    (hread : io.file.recoverOk = true) :
    let s := run (proxyStep H) (.initial registry) labels
    let pass := replayPending H io (reopen s.journal) s.registry
    (∀ e ∈ pass.2.2, captureForUser e.step.originatingSid e.before = .ok e.step.prestate → e.ops = 0) ∧
    ((∀ n, io.restore n = .good) → ∀ e ∈ pass.2.2, e.outcome ≠ .hardFailure) ∧
    ((∀ e ∈ pass.2.2, e.outcome ≠ .hardFailure) →
      (∀ sid, captureForUser sid (pass.2.1 sid) = captureForUser sid (registry sid)) ∧
      (∀ sid step, (pendingSteps H s.journal.disk.file).find? (fun st => st.originatingSid = sid) = some step →
        captureForUser sid (pass.2.1 sid) = .ok step.prestate) ∧
      (io.file.compact = .ok → pendingSteps H pass.1.disk.file = [])) := by
  intro s pass
  obtain ⟨log, h⟩ : ∃ log, Accounted H registry s log :=
    invariant_of_along (I := fun s => ∃ log, Accounted H registry s log) (fun _ l h hg => accounted_step l h hg)
      ⟨[], accounted_idle rfl rfl ⟨[], rfl, rfl⟩ fun sid => tracks_nil_self sid _⟩ hguard
  have hj : JournalHolds H (reopen s.journal).disk.file log := h.journal
  obtain ⟨-, hfinal, hgood⟩ := replayPending_tracks hj h.users io
  refine ⟨?_, hgood, fun hno => ?_⟩
  · intro e he
    simp only [pass, replayPending] at he
    split at he
    · simp at he
    · exact replayRecords_clean _ _ _ e he
  · obtain ⟨htracked, hcleared⟩ := hfinal rfl hread hno
    have hback : ∀ sid, captureForUser sid (pass.2.1 sid) = captureForUser sid (registry sid) :=
      fun sid => (htracked sid).capture_eq
    refine ⟨hback, fun sid step hfirst => ?_, fun hok => ?_⟩
    · rw [pendingSteps_eq h.journal] at hfirst
      rw [hback, first_prestate h.users hfirst]
    · rw [pendingSteps_eq (hcleared hok)]
      rfl

/-! ## A run and a gap -/

/-- A user. -/
def exampleSid : Text := ['S', '-', '1', '-', '5']

/-- The key of a user with the manual proxy `h:1`. -/
def exampleKey (autoDetect : Option RegData) : SettingsKey
  | .proxyEnable => some ⟨regDword, [1, 0, 0, 0]⟩
  | .proxyServer => some ⟨regSz, [0x68, 0, 0x3A, 0, 0x31, 0, 0, 0]⟩
  | .proxyOverride => none
  | .autoConfigUrl => none
  | .autoDetect => autoDetect

/-- The settings of that user, with a binary `AutoDetect` value. -/
def exampleSettings (data : Bytes) (proxyOverride : RawValue) : RawInternetSettings :=
  ⟨.dword 1, .sz ['h', ':', '1'], proxyOverride, .absent, .other 3 data⟩

/-- A replay pass on a machine on which nothing fails. -/
def goodReplay : ReplayPendingIo := ⟨.good, fun _ => .good⟩

/-- A connection with the campus route `10.0.0.0/8` is applied and committed. -/
def exampleLabels : List ProxyLabel :=
  [.apply exampleSid ["10.0.0.0/8".toList] ⟨goodReplay, true, true, none, .good⟩, .commit .ok]

/-- A death behind the commit: the bypass text was written, and the replay takes it away again. -/
theorem proxy_converges_behind_commit :
    let s := run (proxyStep constantHash) (.initial fun _ => exampleKey none) exampleLabels
    let pass := replayPending constantHash goodReplay (reopen s.journal) s.registry
    (s.registry exampleSid .proxyOverride).isSome = true ∧
      captureForUser exampleSid (pass.2.1 exampleSid) = captureForUser exampleSid (exampleKey none) ∧
      pendingSteps constantHash pass.1.disk.file = [] := by
  have h := proxy_converges constantHash (fun _ => exampleKey none) exampleLabels (by decide +kernel) goodReplay rfl
  exact ⟨by decide +kernel, (h.2.2 (h.2.1 fun _ => rfl)).1 exampleSid, (h.2.2 (h.2.1 fun _ => rfl)).2.2 rfl⟩

/-- The step that the example records over a binary `AutoDetect` value. -/
def oversizedStep (data : Bytes) : SystemProxyFamilyStep :=
  ⟨exampleSettings data .absent, [['1', '0', '.', '*']], exampleSid, false,
    fingerprintPrestate (exampleSettings data (.sz ['1', '0', '.', '*']))⟩

theorem oversizedStep_payload_length (data : Bytes) : (oversizedStep data).toPayload.length = 2 * data.length + 81 := by
  have hentry : (asBytes ['1', '0', '.', '*']).length = 4 := by decide +kernel
  have hsid : (asBytes exampleSid).length = 5 := by decide +kernel
  have hserver : (encodeUtf16 ['h', ':', '1']).length = 3 := by decide +kernel
  have hoverride : (encodeUtf16 ['1', '0', '.', '*']).length = 4 := by decide +kernel
  simp only [oversizedStep, exampleSettings, toPayload, RawInternetSettings.fields, fingerprintPrestate,
    fingerprintValue, pushRawValue, pushLenBytes_length, flatMap_cons, flatMap_nil, length_append,
    length_cons, length_nil, LittleEndian.toBytes_length, LittleEndian.ofUnits_length, hentry, hsid, hserver, hoverride]
  omega

/-- The record of the example's step, over a large `AutoDetect` value, is not read back. -/
theorem oversized_lost (rest : Bytes) (hmax : maxPayloadLen ≤ rest.length) (hlt : rest.length < 2 ^ 30) :
    let registry : Registry := fun _ => exampleKey (some ⟨3, 0 :: rest⟩)
    let s := run (proxyStep constantHash) (.initial registry) exampleLabels
    let pass := replayPending constantHash goodReplay (reopen s.journal) s.registry
    pass.2.2 = [] ∧
      captureForUser exampleSid (registry exampleSid) = .ok (exampleSettings (0 :: rest) .absent) ∧
      captureForUser exampleSid (pass.2.1 exampleSid) = .ok (exampleSettings (0 :: rest) (.sz ['1', '0', '.', '*'])) := by
  intro registry s pass
  have hfile : s.journal.disk.file = [] ++ encode (nextRecord constantHash [] (oversizedStep (0 :: rest)).toPayload) := rfl
  have hlength := oversizedStep_payload_length (0 :: rest)
  rw [length_cons] at hlength
  obtain ⟨offset, hcorrupt⟩ := @recover_append_oversized constantHash [] []
    (nextRecord constantHash [] (oversizedStep (0 :: rest)).toPayload) rfl (by rw [nextRecord_payload]; omega)
    (by rw [nextRecord_payload]; omega)
  rw [← hfile] at hcorrupt
  have hpass : pass = ((quarantineLocked .good (reopen s.journal)).2, s.registry, []) := by
    simp only [pass, replayPending, openForReplay, reopen, goodReplay, ReplayIo.good, hcorrupt]
    rfl
  rw [hpass]
  exact ⟨rfl, rfl, rfl⟩

/-- A user with an `AutoDetect` value of 1 MiB and a byte: the step is recorded and takes effect, but the record is never read
back. The replay pass reports no failure, replays nothing, and the bypass text stays. -/
theorem oversized_prestate_lost :
    let registry : Registry := fun _ => exampleKey (some ⟨3, 0 :: replicate maxPayloadLen 0⟩)
    let s := run (proxyStep constantHash) (.initial registry) exampleLabels
    let pass := replayPending constantHash goodReplay (reopen s.journal) s.registry
    pass.2.2 = [] ∧
      captureForUser exampleSid (registry exampleSid) =
        .ok (exampleSettings (0 :: replicate maxPayloadLen 0) .absent) ∧
      captureForUser exampleSid (pass.2.1 exampleSid) =
        .ok (exampleSettings (0 :: replicate maxPayloadLen 0) (.sz ['1', '0', '.', '*'])) := by
  refine oversized_lost _ ?_ ?_
  · rw [length_replicate]
  · rw [length_replicate]
    decide

end ExvVpn.SystemProxy
