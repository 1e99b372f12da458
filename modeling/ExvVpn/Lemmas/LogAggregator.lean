import ExvVpn.Win32Host.LogAggregator
import Mathlib.Data.List.TakeWhile

/-! # Reading a log

What `rebuild_cursor` and `list` give for a file whose lines can all be decoded. -/

namespace ExvVpn.Win32Host

open RustStr LineFile List Option

variable {format : LineFormat DiskLogEntry}

/-- A text that begins as an entry does, on one line. -/
structure LogLine (format : LineFormat DiskLogEntry) (text : Text) : Prop where
  head : text.head? = some format.opening
  plain : Plain text

theorem logLine_write (disk : DiskLogEntry) : LogLine format (format.write disk) :=
  ⟨format.head_write disk, format.plain_write disk⟩

namespace LogLine

theorem append {a b : Text} (ha : LogLine format a) (hb : Plain b) : LogLine format (a ++ b) := by
  refine ⟨?_, ha.plain.append hb⟩
  rw [head?_append, ha.head, some_or]

/-- A line of the log is not blank. -/
theorem trim_isEmpty {text : Text} (h : LogLine format text) : (trim text).isEmpty = false := by
  obtain ⟨rest, rfl⟩ : ∃ rest, text = format.opening :: rest := by
    cases text with
    | nil => cases h.head
    | cons c rest => exact ⟨rest, by rw [some.inj h.head]⟩
  have hfront : (format.opening :: rest).dropWhile isWhitespace = format.opening :: rest := by
    simp [format.opening_visible]
  rw [trim, hfront, isEmpty_eq_false_iff]
  intro hnil
  have hall := dropWhile_eq_nil_iff.mp (reverse_eq_nil_iff.mp hnil) format.opening (by simp)
  rw [format.opening_visible] at hall
  cases hall

end LogLine

theorem countLines_map_some {texts : List Text} (h : ∀ text ∈ texts, LogLine format text) (count : Nat) :
    countLines count (texts.map some) = .ok (count + texts.length) := by
  induction texts generalizing count with
  | nil => rfl
  | cons text texts ih =>
    obtain ⟨htext, htexts⟩ := forall_mem_cons.mp h
    rw [map_cons, countLines, htext.trim_isEmpty, if_neg Bool.false_ne_true, ih htexts, length_cons]
    congr 1
    omega

/-- A line that cannot be decoded makes the count fail. -/
theorem countLines_of_none {lines : List (Option Text)} (h : none ∈ lines) (count : Nat) :
    countLines count lines = .error .io := by
  induction lines generalizing count with
  | nil => cases h
  | cons line lines ih =>
    cases line with
    | none => rfl
    | some text => exact ih ((mem_cons.mp h).resolve_left (by simp)) _

/-! ## The loop of `list` -/

/-- The entries of the lines that can be read, the first line with the given number. -/
def readable (format : LineFormat DiskLogEntry) : Nat → List Text → List LogEntry
  | _, [] => []
  | seq, text :: rest => ((format.read text).map (LogEntry.mk seq)).toList ++ readable format (seq + 1) rest

/-! ### Parts of a log -/

theorem readable_append (seq : Nat) (texts texts' : List Text) :
    readable format seq (texts ++ texts') = readable format seq texts ++ readable format (seq + texts.length) texts' := by
  induction texts generalizing seq with
  | nil => rfl
  | cons text texts ih =>
    rw [cons_append, readable, readable, ih, append_assoc, length_cons, Nat.add_right_comm seq 1, Nat.add_assoc]

theorem seq_of_mem_readable {seq : Nat} {texts : List Text} {entry : LogEntry} (h : entry ∈ readable format seq texts) :
    seq ≤ entry.seq ∧ entry.seq < seq + texts.length := by
  induction texts generalizing seq with
  | nil => cases h
  | cons text texts ih =>
    rw [length_cons]
    rcases mem_append.mp h with hhead | htail
    · obtain ⟨disk, -, rfl⟩ := map_eq_some_iff.mp (mem_toList.mp hhead)
      simp
    · have := ih htail
      omega

theorem pairwise_readable (seq : Nat) (texts : List Text) :
    (readable format seq texts).Pairwise fun a b => a.seq < b.seq := by
  induction texts generalizing seq with
  | nil => exact .nil
  | cons text texts ih =>
    rw [readable]
    cases format.read text with
    | none => exact ih (seq + 1)
    | some disk => exact pairwise_cons.mpr ⟨fun entry hmem => (seq_of_mem_readable hmem).1, ih (seq + 1)⟩

/-- As many lines as an entry was written for are as many entries. -/
theorem length_readable_write (seq : Nat) (disks : List DiskLogEntry) :
    (readable format seq (disks.map format.write)).length = disks.length := by
  induction disks generalizing seq with
  | nil => rfl
  | cons disk disks ih => simp [readable, format.read_write, ih]

/-- Some of the entries, if any are taken, are those of some lines, and the cursor behind them is behind these lines. -/
theorem exists_take_readable (format : LineFormat DiskLogEntry) (seq : Nat) (texts : List Text) {count : Nat}
    (hcount : 0 < count) :
    ∃ length ≤ texts.length,
      (readable format seq texts).take count = readable format seq (texts.take length) ∧
      ((readable format seq texts).take count).getLast?.elim (seq + texts.length) (·.seq + 1) = seq + length := by
  induction texts generalizing seq count with
  | nil => exact ⟨0, Nat.le_refl 0, by simp [readable], by simp [readable]⟩
  | cons text texts ih =>
    cases hread : format.read text with
    | none =>
      obtain ⟨length, hle, htake, hcursor⟩ := ih (seq + 1) hcount
      refine ⟨length + 1, Nat.succ_le_succ hle, ?_, ?_⟩
      · simpa [readable, hread] using htake
      · simp only [readable, hread, map_none, toList_none, nil_append, length_cons]
        rw [← Nat.add_assoc, Nat.add_right_comm, hcursor]
        omega
    | some disk =>
      have hcons : readable format seq (text :: texts) = ⟨seq, disk⟩ :: readable format (seq + 1) texts := by
        simp [readable, hread]
      obtain ⟨count, rfl⟩ := Nat.exists_eq_add_one_of_ne_zero (Nat.ne_of_gt hcount)
      rw [hcons, take_succ_cons]
      by_cases hnil : (readable format (seq + 1) texts).take count = []
      · -- nothing is taken behind the first line
        refine ⟨1, by simp, ?_, ?_⟩
        · simp [hnil, readable, hread]
        · simp [hnil]
      have hpos : 0 < count := by
        rcases Nat.eq_zero_or_pos count with rfl | hpos
        · exact absurd rfl hnil
        · exact hpos
      obtain ⟨length, hle, htake, hcursor⟩ := ih (seq + 1) hpos
      refine ⟨length + 1, Nat.succ_le_succ hle, ?_, ?_⟩
      · rw [htake]
        simp [readable, hread]
      · have hlast := getLast?_eq_some_getLast hnil
        rw [hlast, elim_some] at hcursor
        rw [getLast?_cons, hlast, getD_some, elim_some, hcursor]
        omega

/-- The entries with numbers above the first bound and up to the second. -/
def between (format : LineFormat DiskLogEntry) (texts : List Text) (low high : Nat) : List LogEntry :=
  readable format (low + 1) ((texts.drop low).take (high - low))

section Between

variable {texts : List Text} {low mid high : Nat} {entry : LogEntry}

theorem between_of_le (h : high ≤ low) : between format texts low high = [] := by
  simp [between, Nat.sub_eq_zero_of_le h, readable]

theorem between_length (low : Nat) : between format texts low texts.length = readable format (low + 1) (texts.drop low) := by
  rw [between, take_of_length_le (by simp)]

theorem mem_between (h : entry ∈ between format texts low high) : low < entry.seq ∧ entry.seq ≤ high := by
  have hseq := seq_of_mem_readable h
  rw [length_take] at hseq
  omega

theorem between_append_right (more : List Text) (h : high ≤ texts.length) :
    between format (texts ++ more) low high = between format texts low high := by
  rcases Nat.le_total low high with hlow | hlow
  · have hlength : high - low ≤ (texts.drop low).length := by
      rw [length_drop]
      omega
    rw [between, between, drop_append_of_le_length (by omega), take_append_of_le_length hlength]
  · rw [between_of_le hlow, between_of_le hlow]

theorem between_append (hlow : low ≤ mid) (hhigh : mid ≤ high) (hlength : mid ≤ texts.length) :
    between format texts low mid ++ between format texts mid high = between format texts low high := by
  have hsum : high - low = mid - low + (high - mid) := by omega
  have hdrop : (texts.drop low).drop (mid - low) = texts.drop mid := by
    rw [drop_drop, Nat.add_sub_cancel' hlow]
  have hlen : ((texts.drop low).take (mid - low)).length = mid - low := by
    rw [length_take, length_drop]
    omega
  rw [between, between, between, hsum, take_add, hdrop, readable_append, hlen]
  congr 2
  omega

theorem filter_gt_between (h : low ≤ mid) (hlength : mid ≤ texts.length) :
    (between format texts low high).filter (fun entry => mid < entry.seq) = between format texts mid high := by
  rcases Nat.le_total mid high with hhigh | hhigh
  · rw [← between_append h hhigh hlength, filter_append, filter_eq_nil_iff.mpr, filter_eq_self.mpr,
      nil_append]
    · intro entry hmem
      simpa using (mem_between hmem).1
    · intro entry hmem
      simpa using (mem_between hmem).2
  · rw [between_of_le hhigh, filter_eq_nil_iff]
    intro entry hmem
    have := mem_between hmem
    simp
    omega

theorem filter_le_between (h : mid ≤ high) (hlength : mid ≤ texts.length) :
    (between format texts low high).filter (fun entry => entry.seq ≤ mid) = between format texts low mid := by
  rcases Nat.le_total low mid with hlow | hlow
  · rw [← between_append hlow h hlength, filter_append, filter_eq_self.mpr, filter_eq_nil_iff.mpr,
      append_nil]
    · intro entry hmem
      simpa using (mem_between hmem).1
    · intro entry hmem
      simpa using (mem_between hmem).2
  · rw [between_of_le hlow, filter_eq_nil_iff]
    intro entry hmem
    have := mem_between hmem
    simp
    omega

/-- Where an entry was written for each line, there is an entry for each number. -/
theorem length_between {disks : List DiskLogEntry} (h : texts.drop low = disks.map format.write) (hlow : low ≤ high)
    (hhigh : high ≤ texts.length) : (between format texts low high).length = high - low := by
  have hlength := congrArg length h
  rw [between, h, ← map_take, length_readable_write, length_take]
  simp only [length_drop, length_map] at hlength
  omega

end Between

/-- As many entries as there is room for, with no limit if it is 0. -/
def room (limit held : Nat) (entries : List LogEntry) : List LogEntry :=
  if limit = 0 then entries else entries.take (limit - held)

namespace AggregatorInner

/-- The lines up to the cursor are skipped, whatever they hold. -/
theorem listLoop_skip (afterSeq limit : Nat) (entries : List LogEntry) (lines : List (Option Text)) {seq : Nat}
    (h : seq ≤ afterSeq + 1) :
    listLoop format afterSeq limit entries seq lines =
      listLoop format afterSeq limit entries (afterSeq + 1) (lines.drop (afterSeq + 1 - seq)) := by
  induction lines generalizing seq with
  | nil => simp [listLoop]
  | cons line lines ih =>
    by_cases hseq : seq = afterSeq + 1
    · simp [hseq]
    have hdrop : afterSeq + 1 - seq = afterSeq + 1 - (seq + 1) + 1 := by omega
    rw [listLoop.eq_def]
    simp only
    rw [if_pos (by omega), ih (by omega), hdrop, drop_succ_cons]

/-- Behind the cursor the readable entries are taken, up to the limit. -/
theorem listLoop_map_some {texts : List Text} (hlines : ∀ text ∈ texts, LogLine format text) {afterSeq seq : Nat}
    (h : afterSeq < seq) (limit : Nat) (entries : List LogEntry) :
    listLoop format afterSeq limit entries seq (texts.map some) =
      .ok (entries ++ room limit entries.length (readable format seq texts)) := by
  induction texts generalizing seq entries with
  | nil => simp [listLoop, readable, room]
  | cons text texts ih =>
    obtain ⟨htext, htexts⟩ := forall_mem_cons.mp hlines
    rw [map_cons, listLoop, if_neg (by omega)]
    simp only [htext.trim_isEmpty, Bool.false_eq_true, if_false, readable]
    cases hread : format.read text with
    | none => exact ih htexts (by omega) entries
    | some disk =>
      simp only [map_some, toList_some, singleton_append]
      split
      · rename_i hfull
        simp [room, hfull.1, Nat.sub_eq_zero_of_le hfull.2]
      rw [ih htexts (by omega), append_assoc, length_append, length_singleton]
      unfold room
      split
      · rfl
      · have hsub : limit - entries.length = limit - (entries.length + 1) + 1 := by omega
        rw [hsub, take_succ_cons, singleton_append]

/-- `list` on a file whose lines can be decoded. -/
theorem list_eq (inner : AggregatorInner) {texts : List Text} (hfile : lines inner.file = texts.map some)
    (hlines : ∀ text ∈ texts, LogLine format text) (afterSeq limit : Nat) :
    let entries := room limit 0 (readable format (afterSeq + 1) (texts.drop afterSeq))
    inner.list format afterSeq limit =
      .ok { entries, nextSeq := entries.getLast?.elim (inner.lastSeq + 1) (·.seq + 1) } := by
  have hrest : ∀ text ∈ texts.drop afterSeq, LogLine format text := fun text h => hlines text (mem_of_mem_drop h)
  have hloop : listLoop format afterSeq limit [] 1 (lines inner.file) =
      .ok (room limit 0 (readable format (afterSeq + 1) (texts.drop afterSeq))) := by
    rw [hfile, listLoop_skip afterSeq limit [] _ (by omega), Nat.add_sub_cancel, ← map_drop,
      listLoop_map_some hrest (Nat.lt_succ_self _)]
    rfl
  simp only [list, hloop]
  rfl

end AggregatorInner

end ExvVpn.Win32Host
