import ExvVpn.Lemmas.LogAggregator
import ExvVpn.Tools.Transition
import ExvVpn.Win32Host.LogControl
import ExvVpn.Win32Host.LogJson

/-!
# What a client of the log misses

A client polls the log without a filter while entries are appended. It gets every entry appended after its first poll began in
one later page, exactly if a poll from cursor 0 never leaves out an entry for its limit, and never reads the cursor for an
empty page behind an append.
-/

namespace ExvVpn.Win32Host

open RustStr LineFile Transition AggregatorInner LogControlService List Option

/-! ## A log and its client -/

/-- What happens to the log and its client. -/
inductive PagingCall where
  | append (disk : DiskLogEntry)
  /-- The client calls `list`, which takes the lock for the first time. -/
  | poll (limit : Option Nat)
  /-- `list` takes the lock for the second time and returns. -/
  | finish

/-- A call of `list` that has the entries of its page. `seen` is a history: the cursor of the log when they were read. -/
structure OpenPoll where
  limit : Nat
  entries : List LogEntry
  seen : Nat

/-- The log, the cursor of the client, and the call it waits for. The rest is a history: the cursor of the log when the first
poll began, the entries that were appended since, and the pages of the client. -/
structure PagingRun where
  inner : AggregatorInner
  cursor : Nat
  polling : Option OpenPoll
  began : Option Nat
  appended : List LogEntry
  pages : List (List LogEntry)

/-- A log of complete lines, and how much of it a client has seen before it polls. -/
structure PagingStart (format : LineFormat DiskLogEntry) where
  texts : List Text
  complete : ∀ text ∈ texts, LogLine format text
  cursor : Nat
  cursor_le : cursor ≤ texts.length

namespace PagingRun

/-- The log is open and there was no poll. -/
def start {format : LineFormat DiskLogEntry} (s : PagingStart format) : PagingRun :=
  ⟨⟨unlines s.texts, s.texts.length⟩, s.cursor, none, none, [], []⟩

/-- The client gets a reply and sets its cursor, as `CoreClient::logs_list` does. -/
def receive (r : PagingRun) (reply : LogListReply) : PagingRun :=
  { r with cursor := max (reply.nextSeq - 1) r.cursor, pages := r.pages ++ [reply.entries] }

/-- The entries the client has received that are newer than its first poll. -/
def received (r : PagingRun) : List LogEntry := r.pages.flatten.filter fun entry => r.began.any (· < entry.seq)

end PagingRun

variable (toLowercase : Text → Text) (format : LineFormat DiskLogEntry) (r : PagingRun)

/-- The log and its client after a call. A client waits for its call of `list` before it makes another one. -/
def pagingStep : PagingCall → PagingRun
  | .append disk =>
    let (inner, entry) := append format r.inner disk
    { r with inner, appended := if r.began.isSome then r.appended ++ [entry] else r.appended }
  | .poll limit =>
    if r.polling.isSome then r
    else
      let r := { r with began := r.began.or (some r.inner.lastSeq) }
      match listEntries toLowercase format r.inner ⟨r.cursor, limit, none⟩ with
      | .ok (.reply reply) => r.receive reply
      | .ok (.page entries) => { r with polling := some ⟨effectiveLimit limit, entries, r.inner.lastSeq⟩ }
      | .error _ => r
  | .finish =>
    match r.polling with
    | some poll => { r.receive (listCursor poll.entries r.inner) with polling := none }
    | none => r

/-- The client has received the entries that were appended since its first poll began, up to its cursor, each once and in
order. -/
structure Delivered : Prop where
  received : r.received = r.appended.filter (·.seq ≤ r.cursor)
  ordered : r.appended.Pairwise fun a b => a.seq < b.seq

/-- When a poll from cursor 0 returns, no more entries had been appended since the first poll began than its limit when it
read them, and if it has found none, none was appended since. -/
def Unskipped (call : PagingCall) : Prop :=
  match call, r.polling with
  | .finish, some poll =>
    (∀ first, r.began = some first → poll.seen - first ≤ poll.limit) ∧ (poll.entries = [] → r.inner.lastSeq = poll.seen)
  | _, _ => True

variable {first limit : Nat} {entries : List LogEntry}

namespace LogPagingAux

variable {toLowercase format r} {texts : List Text}

/-! ## Listing a log of complete lines -/

/-- The last entries, as many as the limit allows. -/
def newest (limit : Nat) (entries : List LogEntry) : List LogEntry := entries.drop (entries.length - limit)

theorem lines_unlines {texts : List Text} (h : ∀ text ∈ texts, LogLine format text) :
    lines (unlines texts) = texts.map some := by
  have hlines := lines_unlines_append (fun text hmem => (h text hmem).plain) []
  rw [append_nil] at hlines
  exact hlines.trans (append_nil _)

/-- From cursor 0 the last entries are listed. -/
theorem listEntries_tail (h : ∀ text ∈ texts, LogLine format text) (limit : Option Nat) :
    listEntries toLowercase format ⟨unlines texts, texts.length⟩ ⟨0, limit, none⟩ =
      .ok (.page (newest (effectiveLimit limit) (between format texts 0 texts.length))) := by
  have hlist := list_eq ⟨unlines texts, texts.length⟩ (lines_unlines h) h 0 0
  simp only [listEntries, hlist, between_length]
  rfl

/-- From another cursor the next entries are listed, and where there are lines left the cursor moves on. -/
theorem listEntries_next (toLowercase : Text → Text) (h : ∀ text ∈ texts, LogLine format text) {cursor : Nat}
    (hpos : cursor ≠ 0) (hcursor : cursor ≤ texts.length) (limit : Option Nat) :
    ∃ high, cursor ≤ high ∧ high ≤ texts.length ∧ (cursor < texts.length → cursor < high) ∧
      listEntries toLowercase format ⟨unlines texts, texts.length⟩ ⟨cursor, limit, none⟩ =
        .ok (.reply ⟨between format texts cursor high, high + 1⟩) := by
  have hlimit := effectiveLimit_pos limit
  have hlist := list_eq ⟨unlines texts, texts.length⟩ (lines_unlines h) h cursor (effectiveLimit limit)
  obtain ⟨length, hle, htake, hnext⟩ :=
    exists_take_readable format (cursor + 1) (texts.drop cursor) hlimit
  have hroom : room (effectiveLimit limit) 0 (readable format (cursor + 1) (texts.drop cursor)) =
      between format texts cursor (cursor + length) := by
    rw [room, if_neg (Nat.ne_of_gt hlimit), Nat.sub_zero, htake, between, Nat.add_sub_cancel_left]
  have hend : cursor + 1 + (texts.drop cursor).length = texts.length + 1 := by
    rw [length_drop]
    omega
  refine ⟨cursor + length, by omega, by omega, ?_, ?_⟩
  · intro hlt
    rcases Nat.eq_zero_or_pos length with hzero | hmoved
    · -- no line taken means that there was none
      rw [htake, hzero, take_zero, readable, hend] at hnext
      simp only [getLast?_nil, elim_none] at hnext
      omega
    · omega
  · rw [htake, hend] at hnext
    have hbetween : readable format (cursor + 1) ((texts.drop cursor).take length) =
        between format texts cursor (cursor + length) := by rw [between, Nat.add_sub_cancel_left]
    rw [hbetween] at hnext
    simp only [hroom, hnext] at hlist
    simp only [listEntries, hlist, map_none, filter_none, isSome_none, hpos, decide_false, Bool.or_self,
      Bool.false_eq_true, if_false]
    rw [Nat.add_right_comm]
    rfl

/-! ## The newest entries -/

theorem newest_eq_nil (hlimit : 0 < limit) : newest limit entries = [] ↔ entries = [] := by
  rw [newest, drop_eq_nil_iff, ← length_eq_zero_iff]
  omega

theorem newest_eq_self : newest limit entries = entries ↔ entries.length ≤ limit := by
  constructor
  · intro h
    have hlength := congrArg length h
    rw [newest, length_drop] at hlength
    omega
  · intro h
    rw [newest, Nat.sub_eq_zero_of_le h, drop_zero]

theorem getLast?_newest (hlimit : 0 < limit) (entries : List LogEntry) :
    (newest limit entries).getLast? = entries.getLast? := by
  rw [newest, getLast?_drop]
  split
  · have hnil : entries = [] := by
      rw [← length_eq_zero_iff]
      omega
    rw [hnil, getLast?_nil]
  · rfl

/-- The newest entries that are newer than the first poll are the newest of those that are. -/
theorem filter_newest {seen : Nat} (hfirst : first ≤ seen) (hseen : seen ≤ texts.length) (limit : Nat) :
    (newest limit (between format texts 0 seen)).filter (fun entry => first < entry.seq) =
      newest limit (between format texts first seen) := by
  have hsplit : between format texts 0 first ++ between format texts first seen = between format texts 0 seen :=
    between_append (Nat.zero_le first) hfirst (Nat.le_trans hfirst hseen)
  rw [newest, ← hsplit, drop_append, filter_append, filter_eq_nil_iff.mpr, filter_eq_self.mpr,
    nil_append, newest, length_append]
  · congr 1
    omega
  · intro entry hmem
    simpa using (mem_between (mem_of_mem_drop hmem)).1
  · intro entry hmem
    simpa using (mem_between (mem_of_mem_drop hmem)).2

/-- The last entry that was appended has the number of its line. -/
theorem getLast?_between {seen : Nat} (hfirst : first < seen) (hseen : seen ≤ texts.length)
    {disks : List DiskLogEntry} (hdisks : texts.drop first = disks.map format.write) :
    ∃ last, (between format texts 0 seen).getLast? = some last ∧ last.seq = seen := by
  have hrest : texts.drop (seen - 1) = (disks.drop (seen - 1 - first)).map format.write := by
    rw [map_drop, ← hdisks, drop_drop]
    congr 1
    omega
  have hlength := length_between hrest (Nat.sub_le seen 1) hseen
  obtain ⟨last, hlast⟩ := length_eq_one_iff.mp (hlength.trans (by omega))
  have hseq := mem_between (hlast ▸ mem_singleton_self last)
  have hsplit : between format texts 0 (seen - 1) ++ between format texts (seen - 1) seen = between format texts 0 seen :=
    between_append (Nat.zero_le _) (Nat.sub_le seen 1) (Nat.le_trans (Nat.sub_le seen 1) hseen)
  refine ⟨last, ?_, by omega⟩
  rw [← hsplit, hlast, getLast?_concat]

theorem exists_first (r : PagingRun) (texts : List Text) : ∃ first, r.began.or (some texts.length) = some first := by
  cases r.began with
  | none => exact ⟨texts.length, rfl⟩
  | some first => exact ⟨first, rfl⟩

/-! ## What a call can do -/

variable (format r texts)

/-- The log and its client after a call, for a log of complete lines. -/
inductive Stepped : PagingCall → PagingRun → Prop
  | appended (disk : DiskLogEntry) :
      Stepped (.append disk)
        { r with
          inner := ⟨unlines (texts ++ [format.write disk]), texts.length + 1⟩
          appended := if r.began.isSome then r.appended ++ [⟨texts.length + 1, disk⟩] else r.appended }
  | waiting (limit : Option Nat) (h : r.polling ≠ none) : Stepped (.poll limit) r
  | listed (limit : Option Nat) (h : r.polling = none) (hcursor : r.cursor = 0) :
      Stepped (.poll limit)
        { r with
          began := r.began.or (some texts.length)
          polling := some ⟨effectiveLimit limit, newest (effectiveLimit limit) (between format texts 0 texts.length),
            texts.length⟩ }
  | answered (limit : Option Nat) {high : Nat} (h : r.polling = none) (hlow : r.cursor ≤ high) (hhigh : high ≤ texts.length)
      (hmoved : r.cursor < texts.length → r.cursor < high) :
      Stepped (.poll limit)
        { r with
          began := r.began.or (some texts.length)
          cursor := high
          pages := r.pages ++ [between format texts r.cursor high] }
  | finished {poll : OpenPoll} (h : r.polling = some poll) :
      Stepped .finish
        { r with
          polling := none
          cursor := max (nextSeqAfter poll.entries texts.length - 1) r.cursor
          pages := r.pages ++ [poll.entries] }
  | returned (h : r.polling = none) : Stepped .finish r

/-- The log has complete lines, one for each entry that was appended, and a call that is waited for has the last entries of
the log as it was. -/
structure Sound : Prop where
  inner : r.inner = ⟨unlines texts, texts.length⟩
  complete : ∀ text ∈ texts, LogLine format text
  cursor : r.cursor ≤ texts.length
  fresh : r.began = none → r.polling = none ∧ r.appended = [] ∧ r.pages = []
  began : ∀ first, r.began = some first →
    first ≤ texts.length ∧ (∃ disks : List DiskLogEntry, texts.drop first = disks.map format.write) ∧
      r.appended = between format texts first texts.length
  polling : ∀ poll, r.polling = some poll →
    r.cursor = 0 ∧ 0 < poll.limit ∧ poll.seen ≤ texts.length ∧ (∀ first, r.began = some first → first ≤ poll.seen) ∧
      poll.entries = newest poll.limit (between format texts 0 poll.seen)

variable {format r texts}

theorem sound_start (s : PagingStart format) : Sound format (.start s) s.texts where
  inner := rfl
  complete := s.complete
  cursor := s.cursor_le
  fresh _ := ⟨rfl, rfl, rfl⟩
  began _ h := nomatch h
  polling _ h := nomatch h

/-- Behind a state of the log with some entries and some pages, each page has brought the cursor on, until it has passed the
entries. -/
structure Ahead (count given : Nat) (r : PagingRun) : Prop where
  entries : count ≤ r.inner.lastSeq
  pages : given ≤ r.pages.length
  cursor : min count (r.pages.length - given) ≤ r.cursor

variable (h : Sound format r texts)
include h

/-- Each call is one of these steps. -/
theorem stepped_pagingStep (toLowercase : Text → Text) (call : PagingCall) :
    Stepped format r texts call (pagingStep toLowercase format r call) := by
  obtain ⟨inner, cursor, polling, began, appended, pages⟩ := r
  obtain rfl : inner = ⟨unlines texts, texts.length⟩ := h.inner
  cases call with
  | append disk =>
    have hbytes : unlines texts ++ lineBytes format disk = unlines (texts ++ [format.write disk]) := by simp [lineBytes]
    simp only [pagingStep, append, hbytes]
    exact .appended disk
  | poll limit =>
    cases polling with
    | some poll => exact .waiting limit (some_ne_none poll)
    | none =>
      simp only [pagingStep, isSome_none, Bool.false_eq_true, if_false]
      by_cases hcursor : cursor = 0
      · subst hcursor
        rw [listEntries_tail h.complete]
        exact .listed limit rfl rfl
      · obtain ⟨high, hlow, hhigh, hmoved, hlist⟩ :=
          listEntries_next toLowercase h.complete hcursor h.cursor limit
        simp only [hlist, PagingRun.receive, Nat.add_sub_cancel, Nat.max_eq_left hlow]
        exact .answered limit rfl hlow hhigh hmoved
  | finish =>
    cases polling with
    | none => exact .returned rfl
    | some poll => exact .finished rfl

/-! ## The invariant -/

theorem Sound.began_append (disk : DiskLogEntry) (hbegan : r.began = some first) :
    let texts' := texts ++ [format.write disk]
    first ≤ texts'.length ∧ (∃ disks : List DiskLogEntry, texts'.drop first = disks.map format.write) ∧
      r.appended ++ [⟨texts.length + 1, disk⟩] = between format texts' first texts'.length := by
  intro texts'
  have hlength : texts'.length = texts.length + 1 := length_append
  obtain ⟨hle, ⟨disks, hdisks⟩, happended⟩ := h.began first hbegan
  refine ⟨by omega, ⟨disks ++ [disk], ?_⟩, ?_⟩
  · rw [drop_append_of_le_length hle, hdisks, map_append]
    rfl
  · have hlast : between format texts' texts.length texts'.length = [⟨texts.length + 1, disk⟩] := by
      rw [between_length, drop_left]
      simp [readable, format.read_write]
    have hle' : texts.length ≤ texts'.length := by omega
    rw [happended, ← hlast, ← between_append_right [format.write disk] le_rfl]
    exact between_append hle hle' hle'

/-- The first poll begins with nothing appended since. -/
theorem Sound.began_or (hfirst : r.began.or (some texts.length) = some first) :
    first ≤ texts.length ∧ (∃ disks : List DiskLogEntry, texts.drop first = disks.map format.write) ∧
      r.appended = between format texts first texts.length := by
  cases hbegan : r.began with
  | some earlier =>
    rw [hbegan, some_or] at hfirst
    exact h.began first (hbegan.trans hfirst)
  | none =>
    rw [hbegan, none_or] at hfirst
    obtain rfl := some.inj hfirst
    refine ⟨le_rfl, ⟨[], by simp⟩, ?_⟩
    rw [(h.fresh hbegan).2.1, between_of_le le_rfl]

/-- The cursor behind a page that is waited for. -/
theorem Sound.nextSeqAfter_le {poll : OpenPoll} (hpoll : r.polling = some poll) :
    nextSeqAfter poll.entries texts.length ≤ texts.length + 1 := by
  obtain ⟨-, -, hseen, -, hentries⟩ := h.polling poll hpoll
  unfold nextSeqAfter
  cases hlast : poll.entries.getLast? with
  | none => exact le_rfl
  | some last =>
    have hmem := mem_of_mem_drop (hentries ▸ mem_of_getLast? hlast)
    have hseq := (mem_between hmem).2
    exact Nat.succ_le_succ (Nat.le_trans hseq hseen)

/-- A call keeps the invariant. -/
theorem sound_pagingStep (toLowercase : Text → Text) (call : PagingCall) :
    ∃ texts, Sound format (pagingStep toLowercase format r call) texts := by
  have hstep := stepped_pagingStep h toLowercase call
  generalize pagingStep toLowercase format r call = after at hstep
  cases hstep with
  | appended disk =>
    have hlength : (texts ++ [format.write disk]).length = texts.length + 1 := length_append
    refine ⟨texts ++ [format.write disk], ⟨by rw [hlength], ?_, ?_, ?_, ?_, ?_⟩⟩
    · exact forall_mem_append.mpr ⟨h.complete, forall_mem_singleton.mpr (logLine_write disk)⟩
    · have := h.cursor
      show r.cursor ≤ _
      omega
    · intro hnone
      obtain ⟨hpolling, happended, hpages⟩ := h.fresh hnone
      exact ⟨hpolling, by simp [show r.began = none from hnone, happended], hpages⟩
    · intro first hfirst
      have hfirst' : r.began = some first := hfirst
      simp only [hfirst', isSome_some, if_true]
      exact h.began_append disk hfirst'
    · intro poll hpoll
      obtain ⟨hcursor, hlimit, hseen, hfirst, hentries⟩ := h.polling poll hpoll
      refine ⟨hcursor, hlimit, by omega, hfirst, ?_⟩
      rw [hentries, between_append_right _ hseen]
  | waiting | returned => exact ⟨texts, h⟩
  | listed limit hnone hcursor =>
    refine ⟨texts, ⟨h.inner, h.complete, h.cursor, by simp, fun _ => h.began_or, ?_⟩⟩
    intro poll hpoll
    obtain rfl := some.inj hpoll
    exact ⟨hcursor, effectiveLimit_pos limit, le_rfl, fun _ hfirst => (h.began_or hfirst).1, rfl⟩
  | answered limit hnone hlow hhigh hmoved =>
    refine ⟨texts, ⟨h.inner, h.complete, hhigh, by simp, fun _ => h.began_or, ?_⟩⟩
    intro poll hpoll
    cases hnone.symm.trans hpoll
  | finished hpolling =>
    have hnext := h.nextSeqAfter_le hpolling
    refine ⟨texts, ⟨h.inner, h.complete, Nat.max_le.mpr ⟨by omega, h.cursor⟩, ?_, h.began, by simp⟩⟩
    intro hbegan
    cases (h.fresh hbegan).1.symm.trans hpolling

/-! ## What one call delivers -/

theorem Sound.ordered : r.appended.Pairwise fun a b => a.seq < b.seq := by
  cases hbegan : r.began with
  | none =>
    rw [(h.fresh hbegan).2.1]
    exact .nil
  | some first =>
    rw [(h.began first hbegan).2.2]
    exact pairwise_readable _ _

/-- The appended entries up to a number, for a client that has polled. -/
theorem Sound.filter_appended (hbegan : r.began = some first) {cursor : Nat}
    (hcursor : cursor ≤ texts.length) :
    r.appended.filter (fun entry => entry.seq ≤ cursor) = between format texts first cursor := by
  rw [(h.began first hbegan).2.2, filter_le_between hcursor hcursor]

/-- The client is given what comes up to its new cursor exactly if the poll is not one that skips entries. -/
theorem delivered_finish_iff {poll : OpenPoll} (hpoll : r.polling = some poll)
    (hbegan : r.began = some first) :
    poll.entries.filter (fun entry => first < entry.seq) =
        between format texts first (nextSeqAfter poll.entries texts.length - 1) ↔
      poll.seen - first ≤ poll.limit ∧ (poll.entries = [] → texts.length = poll.seen) := by
  obtain ⟨hfirst, ⟨disks, hdisks⟩, -⟩ := h.began first hbegan
  obtain ⟨-, hlimit, hseen, hbefore, hentries⟩ := h.polling poll hpoll
  have hle := hbefore first hbegan
  have hfilter : poll.entries.filter (fun entry => first < entry.seq) =
      newest poll.limit (between format texts first poll.seen) := by
    rw [hentries, filter_newest hle hseen]
  have hlength := length_between hdisks hle hseen
  rw [hfilter]
  rcases Nat.eq_or_lt_of_le hle with heq | hlt
  · -- nothing was appended before the entries were read
    subst heq
    have hnone : newest poll.limit (between format texts poll.seen poll.seen) = [] := by
      rw [newest_eq_nil hlimit, between_of_le le_rfl]
    rw [hnone, Nat.sub_self]
    cases hlast : poll.entries.getLast? with
    | none =>
      have hnil : poll.entries = [] := getLast?_eq_none_iff.mp hlast
      have hrest := length_between hdisks hfirst le_rfl
      have hcursor : nextSeqAfter poll.entries texts.length - 1 = texts.length := by rw [nextSeqAfter, hlast]; rfl
      rw [hcursor]
      constructor
      · intro hdelivered
        rw [← hdelivered, length_nil] at hrest
        exact ⟨Nat.zero_le _, fun _ => by omega⟩
      · intro hguard
        rw [hguard.2 hnil, between_of_le le_rfl]
    | some last =>
      have hseq := (mem_between (mem_of_mem_drop (hentries ▸ mem_of_getLast? hlast))).2
      have hcursor : nextSeqAfter poll.entries texts.length - 1 = last.seq := by rw [nextSeqAfter, hlast]; rfl
      rw [hcursor, between_of_le hseq]
      refine iff_of_true rfl ⟨Nat.zero_le _, fun hnil => ?_⟩
      rw [hnil] at hlast
      cases hlast
  · -- the last entry that was read is the last one appended
    obtain ⟨last, hlast, hseq⟩ := getLast?_between hlt hseen hdisks
    rw [← getLast?_newest hlimit, ← hentries] at hlast
    have hcursor : nextSeqAfter poll.entries texts.length - 1 = poll.seen := by rw [nextSeqAfter, hlast, ← hseq]; rfl
    rw [hcursor, newest_eq_self, hlength]
    refine (and_iff_left fun hnil => ?_).symm
    rw [hnil] at hlast
    cases hlast

/-- What was received before a poll, seen from the first one. -/
theorem Sound.received_or (hdelivered : Delivered r)
    (hfirst : r.began.or (some texts.length) = some first) :
    r.pages.flatten.filter (fun entry => first < entry.seq) = between format texts first r.cursor := by
  cases hbegan : r.began with
  | some earlier =>
    rw [hbegan, some_or] at hfirst
    obtain rfl := some.inj hfirst
    have hreceived := hdelivered.received
    rw [h.filter_appended hbegan h.cursor, PagingRun.received, hbegan] at hreceived
    simpa using hreceived
  | none =>
    rw [hbegan, none_or] at hfirst
    obtain rfl := some.inj hfirst
    rw [(h.fresh hbegan).2.2, between_of_le h.cursor]
    rfl

/-- A call delivers what comes up to the cursor exactly if it skips nothing. -/
theorem delivered_pagingStep_iff (hdelivered : Delivered r) (call : PagingCall) :
    Delivered (pagingStep toLowercase format r call) ↔ Unskipped r call := by
  obtain ⟨texts', hafter⟩ := sound_pagingStep h toLowercase call
  have hordered := hafter.ordered
  have hstep := stepped_pagingStep h toLowercase call
  have hreceived := hdelivered.received
  generalize pagingStep toLowercase format r call = after at hstep hordered
  suffices after.received = after.appended.filter (·.seq ≤ after.cursor) ↔ Unskipped r call from
    ⟨fun hd => this.mp hd.received, fun hguard => ⟨this.mpr hguard, hordered⟩⟩
  cases hstep with
  | appended disk =>
    refine iff_of_true ?_ trivial
    have hcursor : ¬ texts.length + 1 ≤ r.cursor := Nat.not_le_of_lt (Nat.lt_succ_of_le h.cursor)
    simp only [PagingRun.received] at hreceived ⊢
    split
    · rw [filter_append, ← hreceived]
      simp [hcursor]
    · exact hreceived
  | waiting limit hpolling => exact iff_of_true hreceived trivial
  | listed limit hnone hcursor =>
    refine iff_of_true ?_ trivial
    obtain ⟨first, hfirst⟩ := exists_first r texts
    have happended := (h.began_or hfirst).2.2
    simp only [PagingRun.received, hfirst, any_some]
    rw [happended, filter_le_between h.cursor h.cursor]
    exact h.received_or hdelivered hfirst
  | @answered limit high hnone hlow hhigh hmoved =>
    refine iff_of_true ?_ trivial
    obtain ⟨first, hfirst⟩ := exists_first r texts
    obtain ⟨hle, -, happended⟩ := h.began_or hfirst
    simp only [PagingRun.received, hfirst, any_some, flatten_append, flatten_singleton, filter_append]
    rw [happended, filter_le_between hhigh hhigh, h.received_or hdelivered hfirst]
    rcases Nat.le_total r.cursor first with hcursor | hcursor
    · rw [between_of_le hcursor, nil_append, filter_gt_between hcursor hle]
    · rw [filter_eq_self.mpr, between_append hcursor hlow h.cursor]
      intro entry hmem
      simpa using Nat.lt_of_le_of_lt hcursor (mem_between hmem).1
  | @finished poll hpolling =>
    obtain ⟨hcursor, -⟩ := h.polling poll hpolling
    cases hbegan : r.began with
    | none => cases (h.fresh hbegan).1.symm.trans hpolling
    | some first =>
      have hfirst : r.began.or (some texts.length) = some first := by rw [hbegan, some_or]
      have hbefore := h.received_or hdelivered hfirst
      have hnext : nextSeqAfter poll.entries texts.length - 1 ≤ texts.length :=
        Nat.sub_le_of_le_add (h.nextSeqAfter_le hpolling)
      have happended := h.filter_appended hbegan hnext
      rw [hcursor, between_of_le (Nat.zero_le _)] at hbefore
      simp only [PagingRun.received, any_some, flatten_append, flatten_singleton,
        filter_append, hcursor, Nat.max_zero, hbefore, nil_append, happended]
      rw [delivered_finish_iff h hpolling hbegan]
      simp [Unskipped, hpolling, hbegan, h.inner, some.injEq]
  | returned hnone =>
    refine iff_of_true hreceived ?_
    simp [Unskipped, hnone]

/-! ## Progress -/

/-- One call keeps the pages ahead. -/
theorem ahead_pagingStep {count given : Nat} (hahead : Ahead count given r)
    (call : PagingCall) : Ahead count given (pagingStep toLowercase format r call) := by
  have hstep := stepped_pagingStep h toLowercase call
  have hlast : r.inner.lastSeq = texts.length := by rw [h.inner]
  obtain ⟨hentries, hpages, hcursor⟩ := hahead
  generalize pagingStep toLowercase format r call = after at hstep
  cases hstep with
  | appended disk => exact ⟨Nat.le_succ_of_le (hlast ▸ hentries), hpages, hcursor⟩
  | waiting | listed | returned => exact ⟨hentries, hpages, hcursor⟩
  | answered limit hnone hlow hhigh hmoved =>
    refine ⟨hentries, ?_, ?_⟩
    · simp only [length_append, length_singleton]
      omega
    · simp only [length_append, length_singleton]
      omega
  | @finished poll hpolling =>
    have hnext : min count 1 ≤ nextSeqAfter poll.entries texts.length - 1 := by
      obtain ⟨-, -, -, -, hpage⟩ := h.polling poll hpolling
      unfold nextSeqAfter
      cases hfound : poll.entries.getLast? with
      | none =>
        simp only [elim_none]
        omega
      | some last =>
        have hseq := (mem_between (mem_of_mem_drop (hpage ▸ mem_of_getLast? hfound))).1
        simp only [elim_some]
        omega
    have hzero := (h.polling poll hpolling).1
    refine ⟨hentries, ?_, ?_⟩
    · simp only [length_append, length_singleton]
      omega
    · simp only [length_append, length_singleton]
      omega

end LogPagingAux

open LogPagingAux

/-! ## Every run -/

/-- At each point of a run the client has received the entries that were appended since its first poll began, up to its
cursor, each once and in order, exactly if no poll from cursor 0 skips any. In every run the cursor passes the entries of the
log when as many pages as there are entries have come. -/
theorem paging_complete_iff (start : PagingStart format) (calls : List PagingCall) :
    ((∀ before after, calls = before ++ after → Delivered (run (pagingStep toLowercase format) (.start start) before)) ↔
      Along (pagingStep toLowercase format) Unskipped (.start start) calls) ∧
    ∀ before later, calls = before ++ later →
      let earlier := run (pagingStep toLowercase format) (.start start) before
      let last := run (pagingStep toLowercase format) (.start start) calls
      earlier.inner.lastSeq ≤ last.pages.length - earlier.pages.length → earlier.inner.lastSeq ≤ last.cursor := by
  have hsound : ∀ r call, (∃ texts, Sound format r texts) →
      ∃ texts, Sound format (pagingStep toLowercase format r call) texts :=
    fun r call ⟨texts, h⟩ => sound_pagingStep h toLowercase call
  have hstart : ∃ texts, Sound format (.start start) texts := ⟨start.texts, sound_start start⟩
  constructor
  · refine forall_reached_iff_along hsound ?_ hstart ⟨rfl, .nil⟩ calls
    intro r call ⟨texts, h⟩ hdelivered
    exact delivered_pagingStep_iff h hdelivered call
  · intro before later hcalls earlier last hpages
    have hearlier := invariant_of_run (I := fun r => ∃ texts, Sound format r texts) hsound hstart before
    have hahead : (∃ texts, Sound format last texts) ∧ Ahead earlier.inner.lastSeq earlier.pages.length last := by
      have hlast : last = run (pagingStep toLowercase format) earlier later := by
        rw [← run_append, ← hcalls]
      rw [hlast]
      refine invariant_of_run
        (I := fun r => (∃ texts, Sound format r texts) ∧ Ahead earlier.inner.lastSeq earlier.pages.length r) ?_ ?_ later
      · intro r call ⟨⟨texts, h⟩, hr⟩
        exact ⟨sound_pagingStep h toLowercase call, ahead_pagingStep h hr call⟩
      · exact ⟨hearlier, ⟨le_rfl, le_rfl, by omega⟩⟩
    have hcursor := hahead.2.cursor
    omega

namespace LogPagingAux

/-- An empty log, with a client that has seen nothing. -/
def emptyLog : PagingStart diskLogJson := ⟨[], by simp, 0, Nat.le_refl 0⟩

/-- An entry with a message and nothing else. -/
def noted (message : Text) : DiskLogEntry := ⟨0, 0, [], [], [], [], message, .empty⟩

/-- An entry is appended between the two locks of the first poll. -/
def appendedBetween : List PagingCall := [.poll none, .append (noted ['a']), .finish, .poll none]

/-- Two entries are appended when the first poll has found none, and the next poll asks for one. -/
def appendedTwice : List PagingCall :=
  [.poll (some 1), .finish, .append (noted ['a']), .append (noted ['b'])] ++ [.poll (some 1), .finish]

def twoEntries : AggregatorInner :=
  (append diskLogJson (append diskLogJson ⟨unlines [], 0⟩ (noted ['a'])).1 (noted ['b'])).1

theorem listEntries_twoEntries :
    listEntries id diskLogJson twoEntries ⟨0, some 1, none⟩ = .ok (.page [⟨2, noted ['b']⟩]) := by
  have hlines : ∀ text ∈ [noted ['a'], noted ['b']].map diskLogJson.write, LogLine diskLogJson text := by
    intro text hmem
    obtain ⟨disk, -, rfl⟩ := mem_map.mp hmem
    exact logLine_write disk
  have hread : between diskLogJson ([noted ['a'], noted ['b']].map diskLogJson.write) 0 2 =
      [⟨1, noted ['a']⟩, ⟨2, noted ['b']⟩] := by
    simp [between, readable, diskLogJson.read_write]
  exact (listEntries_tail hlines (some 1)).trans (congrArg (fun all => Except.ok (Listing.page (newest 1 all))) hread)

theorem run_before_twoEntries :
    run (pagingStep id diskLogJson) (.start emptyLog)
        [.poll (some 1), .finish, .append (noted ['a']), .append (noted ['b'])] =
      ⟨twoEntries, 0, none, some 0, [⟨1, noted ['a']⟩, ⟨2, noted ['b']⟩], [[]]⟩ := by
  have hempty : listEntries id diskLogJson ⟨unlines [], 0⟩ ⟨0, some 1, none⟩ = .ok (.page []) := rfl
  simp only [run_cons, run_nil, PagingRun.start, emptyLog, pagingStep, isSome_none, Bool.false_eq_true, if_false,
    length_nil, hempty]
  simp [twoEntries, PagingRun.receive, listCursor, nextSeqAfter, append]

end LogPagingAux

/-- An entry that is appended between the two locks of a poll that has found none is in no page, and neither is one that a
second poll from cursor 0 leaves out for its limit; in both runs the cursor has passed them. -/
theorem skipped_entries :
    let first := run (pagingStep id diskLogJson) (.start emptyLog) appendedBetween
    let second := run (pagingStep id diskLogJson) (.start emptyLog) appendedTwice
    (first.appended, first.pages, first.cursor) = ([⟨1, noted ['a']⟩], [[], []], 1) ∧
      (second.appended, second.pages, second.cursor) =
        ([⟨1, noted ['a']⟩, ⟨2, noted ['b']⟩], [[], [⟨2, noted ['b']⟩]], 2) := by
  refine ⟨by decide +kernel, ?_⟩
  have hlimit : effectiveLimit (some 1) = 1 := rfl
  have hlast : twoEntries.lastSeq = 2 := rfl
  rw [appendedTwice, run_append, run_before_twoEntries]
  simp only [run_cons, run_nil, pagingStep, isSome_none, Bool.false_eq_true, if_false, listEntries_twoEntries, hlimit,
    hlast, some_or]
  rfl

end ExvVpn.Win32Host
